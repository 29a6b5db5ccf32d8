import SpriteText.Proofs.Drawing.Places
import SpriteText.Proofs.Sheet.Bodies

/-!
# Faults of a sheet

The first source that cannot be compiled stops its sheet. Its fault is the one that the drawing has
alone, under the name of the source. Every line of a drawing is the line of the sheet with its
number, so the line and the column of the fault lead to the same letter in both.
-/

namespace SpriteText.Sheet

/-! ## Drawings that are refused -/

/-- A drawing has lines with their ends, an empty one before its rows. -/
theorem toList_drawingOf (rows : List (List Char)) :
    (drawingOf rows).toList = ([] :: rows).flatMap (fun row => row ++ ['\n']) ++ [] := by
  rw [drawingOf, String.toList_ofList, List.append_nil]
  rfl

/-- The drawing of rows is refused for a row that is broken, or because there is no row. -/
theorem rejected_drawingOf {rows : List (List Char)} (unbroken : ∀ row ∈ rows, '\n' ∉ row)
    {lineOffset : Int} {fault : Fault}
    (rejected : Rejected (codes (drawingOf rows)) lineOffset fault) :
    (∃ place cause, 1 ≤ ((codes (drawingOf rows)).take place).count Glyph.newline ∧
      Violation (codes (drawingOf rows)) place cause ∧
      fault = .located cause
        (lineOffset + 1 + ((codes (drawingOf rows)).take place).count Glyph.newline)
        ((lastLine ((codes (drawingOf rows)).take place)).length + 1)) ∨
    (rows = [] ∧ fault = .located .noRows (lineOffset + 2) 0) := by
  have ended : codes (drawingOf rows) =
      codesOf (([] :: rows).flatMap (fun row => row ++ ['\n']) ++ []) :=
    congrArg codesOf (toList_drawingOf rows)
  have leading : (codes (drawingOf rows)).head? = some Glyph.newline := by
    rw [ended]
    rfl
  obtain ⟨count, last⟩ := count_and_lastLine
    (List.forall_mem_cons.mpr ⟨List.not_mem_nil, unbroken⟩) List.not_mem_nil
  rw [← ended] at count last
  cases rejected with
  | missing other => exact absurd leading other
  | @violated place cause _ some_place violation _ =>
    refine .inl ⟨place, cause, ?_, violation, rfl⟩
    obtain ⟨before, rfl⟩ := Nat.exists_eq_add_of_le' some_place
    obtain ⟨rest, split⟩ := List.head?_eq_some_iff.mp leading
    rw [split, List.take_succ_cons, List.count_cons_self]
    exact Nat.le_add_left 1 _
  | unterminated _ _ some_mark =>
    rw [marks, last] at some_mark
    exact absurd rfl some_mark
  | noRows _ _ _ alone =>
    refine .inr ⟨?_, ?_⟩
    · rw [count, List.length_cons] at alone
      exact List.length_eq_zero_iff.mp (Nat.succ.inj alone)
    · rw [alone, last, Int.add_assoc]
      rfl

/-- The lines of a drawing are an empty one and its rows. -/
theorem Source.Shows.lines_text {sheet : String} {source : Source} {rows : List (List Char)}
    (shows : source.Shows sheet rows) : Text.lines source.text.toList = [] :: rows := by
  rw [shows.text, toList_drawingOf, Text.lines_flatMap_append
    (List.forall_mem_cons.mpr ⟨List.not_mem_nil, shows.unbroken⟩)]
  exact List.append_nil _

/-- A letter of a drawing is found in its sheet, below the lines before the drawing. -/
theorem Source.Shows.foundAt {sheet : String} {source : Source} {rows : List (List Char)}
    (shows : source.Shows sheet rows) {letter : Char} {line column : Int}
    (found : Text.FoundAt '\n' (Text.lines source.text.toList) letter line column)
    (below : 2 ≤ line) :
    Text.FoundAt '\n' ((numberedLines sheet).map Line.characters) letter
      (line + source.lineOffset) column := by
  obtain ⟨row, place, content, rfl, rfl, inside, here⟩ := found
  obtain ⟨index, rfl⟩ : ∃ index, row = index + 1 := ⟨row - 1, by omega⟩
  rw [shows.lines_text, List.getElem?_cons_succ] at inside
  obtain ⟨line, number, held⟩ := getElem?_of_mem_numberedLines (shows.line index content inside)
  have number : source.firstLine + index = line + 1 := number
  refine ⟨line, place, content, ?_, rfl, held, here⟩
  rw [Source.lineOffset]
  omega

/-! ## Sources that are refused -/

variable {alignTail : Bool} {fault : DrawingFault}

/-- A source is refused for the fault that its drawing has alone, moved into the lines of the sheet
and told under the name of the source. -/
theorem Source.exists_of_compile_error {source : Source}
    (refused : source.compile alignTail = .error fault) :
    ∃ alone, Rejected (codes source.text) 0 alone ∧
      fault = .text ((alone.below source.lineOffset).inSprite source.name) := by
  rw [Source.compile] at refused
  cases outcome : Drawing.compile source.text alignTail source.lineOffset with
  | ok sprite => simp [outcome] at refused
  | error found =>
    obtain ⟨moved, rfl, rejected⟩ := Drawing.compile_eq_error_iff.mp outcome
    obtain ⟨alone, rejected_alone, rfl⟩ := rejected_iff_below.mp rejected
    simp only [outcome, Except.error.injEq] at refused
    exact ⟨alone, rejected_alone, refused.symm⟩

/-- Sources are refused for the first that cannot be compiled. -/
theorem exists_of_compileInto_error {set : SpriteSet} {sources : List Source}
    (refused : compileInto set alignTail sources = .error fault) :
    ∃ front source back, sources = front ++ source :: back ∧
      (∀ earlier ∈ front, ∃ sprite, earlier.compile alignTail = .ok sprite) ∧
      source.compile alignTail = .error fault := by
  induction sources generalizing set with
  | nil => contradiction
  | cons source sources ih =>
    rw [compileInto] at refused
    cases outcome : source.compile alignTail with
    | error found =>
      simp only [outcome, Except.error.injEq] at refused
      exact ⟨[], source, sources, rfl, List.forall_mem_nil _, refused ▸ outcome⟩
    | ok sprite =>
      simp only [outcome] at refused
      obtain ⟨front, other, back, rfl, compiled, stopped⟩ := ih refused
      exact ⟨source :: front, other, back, rfl,
        List.forall_mem_cons.mpr ⟨⟨sprite, outcome⟩, compiled⟩, stopped⟩

/-- What is wrong with the name of a section is a fault of the sheet. -/
theorem kind_of_checkedName_error {part : Section} {taken : List String} {found : Fault}
    (refused : part.checkedName taken = .error found) : found.kind = .sheet := by
  have outcome := part.checked taken
  rw [refused] at outcome
  cases outcome <;> rfl

/-- What is wrong with sections is a fault of the sheet. -/
theorem kind_of_sourcesOf_error {sections : List Section} {taken : List String} {found : Fault}
    (refused : sourcesOf taken sections = .error found) : found.kind = .sheet := by
  obtain ⟨front, part, back, sources, -, -, stopped⟩ := exists_of_sourcesOf_error refused
  exact kind_of_checkedName_error stopped

/-- What is wrong with the layout of a sheet is a fault of the sheet. -/
theorem kind_of_parse_error {text : String} {defaultName : Option String} {found : Fault}
    (refused : parse text defaultName = .error found) : found.kind = .sheet := by
  simp only [parse] at refused
  generalize cut (numberedLines text) = parts at refused
  obtain ⟨preamble, sections⟩ := parts
  cases sections with
  | nil =>
    simp only at refused
    split at refused
    · contradiction
    · exact Except.error.inj refused ▸ rfl
  | cons part sections =>
    cases stray : preamble.find? fun line => !isComment line with
    | some line =>
      simp only [stray, Except.error.injEq] at refused
      exact refused ▸ rfl
    | none =>
      simp only [stray] at refused
      exact kind_of_sourcesOf_error refused

/-- A sheet is refused for its layout, or for the first of its drawings that cannot be compiled. -/
theorem exists_of_compile_error {text : String} {defaultName : Option String}
    (refused : compile text defaultName alignTail = .error fault) :
    (∃ found, parse text defaultName = .error found ∧ fault = .text found) ∨
    ∃ front source back alone, parse text defaultName = .ok (front ++ source :: back) ∧
      (∀ earlier ∈ front, ∃ sprite, Drawing.compile earlier.text alignTail 0 = .ok sprite) ∧
      Rejected (codes source.text) 0 alone ∧
      fault = .text ((alone.below source.lineOffset).inSprite source.name) := by
  rw [compile] at refused
  cases parsed : parse text defaultName with
  | error found =>
    simp only [parsed, Except.error.injEq] at refused
    exact .inl ⟨found, rfl, refused.symm⟩
  | ok sources =>
    simp only [parsed] at refused
    obtain ⟨front, source, back, rfl, compiled, stopped⟩ := exists_of_compileInto_error refused
    obtain ⟨alone, rejected, told⟩ := Source.exists_of_compile_error stopped
    refine .inr ⟨front, source, back, alone, rfl, ?_, rejected, told⟩
    intro earlier member
    obtain ⟨sprite, done⟩ := compiled earlier member
    exact ⟨sprite, Source.compile_eq_ok_iff.mp done⟩

/-! ## Places in the sheet -/

/-- Every line of a drawing is the line of the sheet with its number. -/
theorem mem_numberedLines_of_parse {text : String} {defaultName : Option String}
    {sources : List Source} (parsed : parse text defaultName = .ok sources) {source : Source}
    (member : source ∈ sources) :
    ∃ rows, source.text.toList = '\n' :: rows ∧
      ∀ index line, (Text.lines rows)[index]? = some line →
        ⟨source.firstLine + index, line⟩ ∈ numberedLines text := by
  obtain ⟨body, -, drawn⟩ := exists_body parsed member
  have shows := drawn.shows
  have lines := shows.lines_text
  obtain ⟨rows, leading⟩ : ∃ rows, source.text.toList = '\n' :: rows :=
    ⟨_, by rw [shows.text, drawingOf, String.toList_ofList]⟩
  refine ⟨rows, leading, fun index line place => shows.line index line ?_⟩
  have first : Text.lines ('\n' :: rows) = [] :: Text.lines rows :=
    Text.lines_append_cons List.not_mem_nil rows
  rw [leading, first] at lines
  rw [← (List.cons.inj lines).2]
  exact place

/-- Where a drawing is refused there is a letter, in the drawing and in the sheet, unless there is
no row. -/
theorem exists_foundAt_of_parse {text : String} {defaultName : Option String}
    {sources : List Source} (parsed : parse text defaultName = .ok sources) {source : Source}
    (member : source ∈ sources) {alone : Fault} (rejected : Rejected (codes source.text) 0 alone)
    (some_row : alone.kind ≠ .noRows) :
    ∃ letter line column, alone.line = some line ∧ alone.column = some column ∧
      Text.FoundAt '\n' (Text.lines source.text.toList) letter line column ∧
      Text.FoundAt '\n' ((numberedLines text).map Line.characters) letter
        (line + source.firstLine - 2) column := by
  obtain ⟨body, -, drawn⟩ := exists_body parsed member
  have shows := drawn.shows
  rcases rejected_drawingOf shows.unbroken (shows.text ▸ rejected) with
    ⟨place, cause, below, violation, rfl⟩ | ⟨-, rfl⟩
  · rw [← shows.text] at below violation ⊢
    obtain ⟨letter, found⟩ := violation.foundAt
    have in_sheet := shows.foundAt found (by omega)
    rw [Source.lineOffset, ← Int.add_sub_assoc] at in_sheet
    exact ⟨letter, _, _, rfl, rfl, found, in_sheet⟩
  · exact absurd rfl some_row

end SpriteText.Sheet
