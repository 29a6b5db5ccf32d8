import SpriteText.Drawing.OfText
import SpriteText.Proofs.Drawing.FirstFault
import SpriteText.Proofs.Drawing.Picture
import SpriteText.Proofs.Text.CodePoints

/-!
# Drawings given as text

A text without surrogates is compiled as the drawing that it spells, and refused as this drawing is.
A text with surrogates is refused for the first of them, whatever it draws (`RefusedFor`).
-/

namespace SpriteText

/-- The code points of a text as glyphs. -/
def glyphsOf (text : List CodePoint) : List Glyph := text.map fun code => (code.value : Int)

/-- The glyphs of a text of characters are the code points of its characters. -/
theorem glyphsOf_codePoints (text : String) : glyphsOf (Text.codePoints text) = codes text := by
  rw [glyphsOf, Text.codePoints, List.map_map]
  rfl

namespace Drawing

variable {Result : Type} {text : List CodePoint} {alignTail : Bool} {lineOffset : Int}

/-- A text of characters is answered as its bytes are. -/
theorem onText_codePoints (spelled : String)
    (answer : List UInt8 → Except DrawingFault Result) :
    onText (Text.codePoints spelled) answer = (answer (Utf8.encode spelled)).mapError .drawing := by
  rw [onText, Text.encode?_codePoints]

/-- A text with surrogates is refused for them. -/
theorem onText_of_not_encodable (lone : ¬Text.Encodable text)
    (answer : List UInt8 → Except DrawingFault Result) :
    onText text answer = .error (.encoding (.find text)) := by
  rw [onText, Text.encode?_of_not_encodable lone]

/-- A text of characters is compiled as the drawing that it spells. -/
theorem compileText_codePoints (spelled : String) (alignTail : Bool) (lineOffset : Int) :
    compileText (Text.codePoints spelled) alignTail lineOffset =
      (compile spelled alignTail lineOffset).mapError .drawing :=
  onText_codePoints spelled fun bytes => (build bytes none alignTail lineOffset).1

/-- A text with surrogates is not compiled. -/
theorem compileText_of_not_encodable (lone : ¬Text.Encodable text) (alignTail : Bool)
    (lineOffset : Int) :
    compileText text alignTail lineOffset = .error (.encoding (.find text)) :=
  onText_of_not_encodable lone _

/-- A text of characters is compiled to what the drawing is compiled to that it spells. -/
theorem compileText_eq_ok_iff {spelled : String} {sprite : Sprite} :
    compileText (Text.codePoints spelled) alignTail lineOffset = .ok sprite ↔
      compile spelled alignTail lineOffset = .ok sprite := by
  rw [compileText_codePoints]
  cases compile spelled alignTail lineOffset <;> simp [Except.mapError]

/-- A text that is compiled is one of characters. -/
theorem encodable_of_compileText {sprite : Sprite}
    (compiled : compileText text alignTail lineOffset = .ok sprite) : Text.Encodable text := by
  by_contra lone
  rw [compileText_of_not_encodable lone] at compiled
  cases compiled

/-- A text is compiled exactly when it holds no surrogates and draws some rows. The sprite has the
shape of the rows, one bit a pixel for up to two glyphs and two bits for more, no more bytes than
its pixels fill, and shows every pixel by the rank of its glyph in the order of first appearance. A
text with surrogates is refused for the first run of them. -/
theorem compileText_eq_ok_iff_draws (text : List CodePoint) (alignTail : Bool)
    (lineOffset : Int) :
    ((∃ sprite, compileText text alignTail lineOffset = .ok sprite) ↔
      Text.Encodable text ∧ ∃ rows width, Draws (glyphsOf text) rows width) ∧
    (∀ rows width, Text.Encodable text → Draws (glyphsOf text) rows width →
      ∃ sprite, compileText text alignTail lineOffset = .ok sprite ∧
        sprite.width = width ∧ sprite.height = rows.length ∧
        sprite.depth = (if rows.flatten.eraseDups.length ≤ 2 then .one else .two) ∧
        sprite.byteCount = (width * rows.length * sprite.depth.bits + 7) / 8 ∧
        sprite.rows = rows.map fun row => row.map rows.flatten.eraseDups.idxOf) ∧
    (¬Text.Encodable text → ∃ found, found.Leads text ∧
      compileText text alignTail lineOffset = .error (.encoding found)) := by
  have spells {spelled : String} (same : text = Text.codePoints spelled) :
      glyphsOf text = codes spelled := same ▸ glyphsOf_codePoints spelled
  refine ⟨⟨?_, ?_⟩, ?_, fun lone =>
    ⟨_, Text.Surrogates.leads_find lone, compileText_of_not_encodable lone alignTail lineOffset⟩⟩
  · rintro ⟨sprite, compiled⟩
    have plain := encodable_of_compileText compiled
    obtain ⟨spelled, same⟩ := Text.encodable_iff.mp plain
    rw [same, compileText_eq_ok_iff] at compiled
    rw [spells same]
    exact ⟨plain, (compile_eq_ok_iff_draws spelled alignTail lineOffset).1.mp ⟨sprite, compiled⟩⟩
  · rintro ⟨plain, draws⟩
    obtain ⟨spelled, same⟩ := Text.encodable_iff.mp plain
    rw [spells same] at draws
    obtain ⟨sprite, compiled⟩ :=
      (compile_eq_ok_iff_draws spelled alignTail lineOffset).1.mpr draws
    exact ⟨sprite, same ▸ compileText_eq_ok_iff.mpr compiled⟩
  · intro rows width plain draws
    obtain ⟨spelled, same⟩ := Text.encodable_iff.mp plain
    rw [spells same] at draws
    obtain ⟨sprite, compiled, shape⟩ := compile_of_draws draws alignTail lineOffset
    exact ⟨sprite, same ▸ compileText_eq_ok_iff.mpr compiled, shape⟩

/-- Blanks within a pair and glyphs of two bytes are no obstacle. -/
theorem compileText_of_accents :
    ∃ sprite, compileText (Text.codePoints "\n é\té..\n..éé\n") true 0 = .ok sprite ∧
      sprite.rows = [[0, 1], [1, 0]] := by
  have draws : Draws (glyphsOf (Text.codePoints "\n é\té..\n..éé\n"))
      [[0xE9, 0x2E], [0x2E, 0xE9]] 2 := by
    constructor
    case spelled => exact ⟨_, rfl, by decide⟩
    all_goals decide
  obtain ⟨sprite, built, -, -, -, -, rows⟩ :=
    (compileText_eq_ok_iff_draws (Text.codePoints "\n é\té..\n..éé\n") true 0).2.1 _ _
      (by decide) draws
  exact ⟨sprite, built, by rw [rows]; decide⟩

/-- A surrogate written twice draws a row, and the text is refused. -/
theorem lone_surrogates_draw :
    let lone : CodePoint := ⟨0xD800, by decide⟩
    let text := [.newline, lone, lone, .newline]
    Draws (glyphsOf text) [[0xD800]] 1 ∧
      compileText text false 0 = .error (.encoding { start := 1, run := [lone, lone] }) := by
  intro lone text
  refine ⟨?_, by decide⟩
  constructor
  case spelled => exact ⟨_, rfl, by decide⟩
  all_goals decide

/-! ## Texts that are refused -/

/-- What a text is refused for: its first surrogates, or its first fault as a drawing. -/
inductive RefusedFor (text : List CodePoint) (lineOffset : Int) : TextFault → Prop
  /-- It has no encoding. -/
  | surrogates {found : Text.Surrogates} (leads : found.Leads text) :
    RefusedFor text lineOffset (.encoding found)
  /-- It holds no surrogates, and is rejected as a drawing. -/
  | rejected {located : Fault} (plain : Text.Encodable text)
    (rejected : Rejected (glyphsOf text) lineOffset located) :
    RefusedFor text lineOffset (.drawing (.text located))

/-- An answer to texts refuses those that it should, if the answer to drawings does. -/
theorem onText_eq_error_iff {fault : TextFault} {answer : List UInt8 → Except DrawingFault Result}
    (refuses : ∀ spelled fault, answer (Utf8.encode spelled) = .error fault ↔
      ∃ located, fault = .text located ∧ Rejected (codes spelled) lineOffset located) :
    onText text answer = .error fault ↔ RefusedFor text lineOffset fault := by
  by_cases plain : Text.Encodable text
  case neg =>
    rw [onText_of_not_encodable plain]
    constructor
    · rintro ⟨⟩
      exact .surrogates (Text.Surrogates.leads_find plain)
    · intro refused
      cases refused with
      | surrogates leads => rw [leads.eq_find]
      | rejected other => exact absurd other plain
  case pos =>
    obtain ⟨spelled, rfl⟩ := Text.encodable_iff.mp plain
    rw [onText_codePoints]
    constructor
    · intro failed
      cases answered : answer (Utf8.encode spelled) with
      | ok result => rw [answered] at failed; cases failed
      | error fault =>
        obtain ⟨located, rfl, rejected⟩ := (refuses spelled fault).mp answered
        rw [answered] at failed
        cases failed
        exact .rejected plain (glyphsOf_codePoints spelled ▸ rejected)
    · intro refused
      cases refused with
      | surrogates leads => exact absurd plain leads.not_encodable
      | @rejected located _ rejected =>
        rw [glyphsOf_codePoints] at rejected
        rw [(refuses spelled (.text located)).mpr ⟨located, rfl, rejected⟩]
        rfl

/-- The sizing pass refuses a text for its first surrogates. It refuses a text without surrogates
for the first place that breaks a row, or else for its end, and reports the cause with the line and
the column. Both passes together do the same, and do so as well when they are given a buffer. -/
theorem refused_iff_refusedFor (text : List CodePoint) (lineOffset : Int) (fault : TextFault) :
    (sizingText text lineOffset = .error fault ↔ RefusedFor text lineOffset fault) ∧
    ∀ alignTail,
      ((buildText text none alignTail lineOffset).1 = .error fault ↔
        RefusedFor text lineOffset fault) ∧
      ∀ buffer, RefusedFor text lineOffset fault →
        (buildText text (some buffer) alignTail lineOffset).1 = .error fault := by
  refine ⟨onText_eq_error_iff fun spelled fault =>
    (error_iff_rejected spelled lineOffset fault).1, fun alignTail =>
    ⟨onText_eq_error_iff fun spelled fault =>
      ((error_iff_rejected spelled lineOffset fault).2 alignTail).1, fun buffer refused => ?_⟩⟩
  cases refused with
  | surrogates leads =>
    rw [leads.eq_find]
    exact onText_of_not_encodable leads.not_encodable _
  | @rejected located plain rejected =>
    obtain ⟨spelled, rfl⟩ := Text.encodable_iff.mp plain
    rw [glyphsOf_codePoints] at rejected
    refine (onText_codePoints spelled _).trans ?_
    rw [((error_iff_rejected spelled lineOffset (.text located)).2 alignTail).2 buffer
      ⟨located, rfl, rejected⟩]
    rfl

/-- A pair that does not match is reported where its second glyph stands, behind a blank. -/
theorem refused_for_mismatch :
    RefusedFor (Text.codePoints "\n##\n #.\n") 10 (.drawing (.text (.located .pairMismatch 13 3))) ∧
      ∀ buffer, (buildText (Text.codePoints "\n##\n #.\n") (some buffer) false 10).1 =
        .error (.drawing (.text (.located .pairMismatch 13 3))) := by
  have refused : RefusedFor (Text.codePoints "\n##\n #.\n") 10
      (.drawing (.text (.located .pairMismatch 13 3))) :=
    (refused_iff_refusedFor _ _ _).1.mp (by decide)
  exact ⟨refused, fun buffer => ((refused_iff_refusedFor _ _ _).2 false).2 buffer refused⟩

/-- A surrogate at the start of a text is reported, and not the newline that is missing there. -/
theorem lone_surrogate_hides_missing_newline :
    let text : List CodePoint := [⟨0xD800, by decide⟩]
    Rejected (glyphsOf text) 0 (.located .missingNewline 1 1) ∧
      sizingText text 0 = .error (.encoding { start := 0, run := text }) := by
  intro text
  exact ⟨.missing (by decide), by decide⟩

end Drawing

end SpriteText
