import SpriteText.Proofs.Drawing.TwoPasses

/-!
# The first fault of a drawing

A text is judged by its code points alone: the line that a place is on, the glyphs on that line, and
the pairs completed before it say whether a row is broken there (`Violation`). A text is refused for
the first such place, or for its end if there is none (`Rejected`). What is drawn after some glyphs
tracks their text (`Drawn.Tracks`), so a glyph breaks a row exactly when it cannot be drawn, and the
sizing pass and the building pass report the first glyph that does, where it stands.
-/

namespace SpriteText

/-! ## Places of a text -/

/-- A glyph that is neither a blank nor a newline. -/
def Glyph.isMark (glyph : Glyph) : Bool := !glyph.isBlank && glyph != Glyph.newline

/-- The marks on the line that a text ends in. -/
def marks (text : List Glyph) : List Glyph := visible (lastLine text)

/-- The number of pairs on the first row of a text, which is its second line. -/
def firstWidth (text : List Glyph) : Nat :=
  (visible ((text.drop 1).takeWhile fun glyph => glyph ≠ Glyph.newline)).length / 2

/-- A glyph after a text is the second of a pair on its line and the same as the first. -/
def completes (before : List Glyph) (glyph : Glyph) : Bool :=
  glyph.isMark && (marks before).length % 2 == 1 && (marks before).getLast? == some glyph

/-- The glyphs of the pairs that are completed in a text, in order. -/
def pairGlyphs (text : List Glyph) : List Glyph :=
  (List.range text.length).filterMap fun place =>
    text[place]?.filter fun glyph => completes (text.take place) glyph

/-- A row is broken at a place of a text. -/
inductive Violation (text : List Glyph) (place : Nat) : Cause → Prop where
  /-- The second of a pair differs from the mark before it. -/
  | unmatched {glyph twin : Glyph} : text[place]? = some glyph → glyph.isMark = true →
      (marks (text.take place)).length % 2 = 1 →
      (marks (text.take place)).getLast? = some twin → glyph ≠ twin →
      Violation text place .pairMismatch
  /-- A newline ends a line with an odd number of marks. -/
  | unpaired : text[place]? = some Glyph.newline → (marks (text.take place)).length % 2 = 1 →
      Violation text place .pairMismatch
  /-- A newline ends a line of whole pairs, but not as many as on the first row. -/
  | width : text[place]? = some Glyph.newline → (marks (text.take place)).length % 2 = 0 →
      (marks (text.take place)).length / 2 ≠ firstWidth text →
      Violation text place
        (.rowWidth (firstWidth text) ((marks (text.take place)).length / 2 : Nat))
  /-- A completed pair is the first of a fifth glyph. -/
  | fifth {glyph : Glyph} : text[place]? = some glyph →
      completes (text.take place) glyph = true → glyph ∉ pairGlyphs (text.take place) →
      (pairGlyphs (text.take place)).eraseDups.length = 4 →
      Violation text place .tooManyGlyphs

/-- No row is broken before a place, the leading newline apart. -/
def Clean (text : List Glyph) (place : Nat) : Prop :=
  ∀ earlier cause, 1 ≤ earlier → earlier < place → ¬Violation text earlier cause

/-- The fault that a text is refused for. A place is on the line after the newlines before it, in
the column after the glyphs of this line before it. -/
inductive Rejected (text : List Glyph) (lineOffset : Int) : Fault → Prop where
  /-- The text does not start with a newline. -/
  | missing : text.head? ≠ some Glyph.newline →
      Rejected text lineOffset (.located .missingNewline (lineOffset + 1) 1)
  /-- A row is broken, first at a place. -/
  | violated {place : Nat} {cause : Cause} : text.head? = some Glyph.newline → 1 ≤ place →
      Violation text place cause → Clean text place →
      Rejected text lineOffset (.located cause
        (lineOffset + 1 + (text.take place).count Glyph.newline)
        ((lastLine (text.take place)).length + 1))
  /-- No row is broken, but the last line has marks and no newline. -/
  | unterminated : text.head? = some Glyph.newline → Clean text text.length → marks text ≠ [] →
      Rejected text lineOffset (.located .unterminatedRow
        (lineOffset + 1 + text.count Glyph.newline) (lastLine text).length)
  /-- No row is broken, but there is no row. -/
  | noRows : text.head? = some Glyph.newline → Clean text text.length → marks text = [] →
      text.count Glyph.newline = 1 →
      Rejected text lineOffset (.located .noRows
        (lineOffset + 1 + text.count Glyph.newline) (lastLine text).length)

/-- The glyph after a newline and some glyphs is at the place that these take. -/
theorem getElem?_place (read : List Glyph) (glyph : Glyph) (rest : List Glyph) :
    (Glyph.newline :: read ++ glyph :: rest)[read.length + 1]? = some glyph := by
  simp

/-- The text before the place that a newline and some glyphs take is these. -/
theorem take_place (read rest : List Glyph) :
    (Glyph.newline :: read ++ rest).take (read.length + 1) = Glyph.newline :: read := by
  simp

/-- The leading newline counts for the line of a place. -/
theorem line_of_count (lineOffset : Int) (read : List Glyph) :
    lineOffset + 1 + (Glyph.newline :: read).count Glyph.newline =
      lineOffset + 2 + read.count Glyph.newline := by
  rw [List.count_cons_self]
  omega

/-- A mark is any glyph but a blank and a newline. -/
theorem Glyph.isMark_iff {glyph : Glyph} :
    glyph.isMark = true ↔ glyph.isBlank = false ∧ glyph ≠ Glyph.newline := by
  simp [Glyph.isMark]

/-- A newline starts a line without marks, a blank is none, and any other glyph is one. -/
theorem marks_concat (text : List Glyph) (glyph : Glyph) :
    marks (text ++ [glyph]) =
      if glyph = Glyph.newline then [] else if glyph.isBlank then marks text
      else marks text ++ [glyph] := by
  rw [marks, lastLine_concat]
  by_cases ending : glyph = Glyph.newline
  · simp [ending, visible]
  · rw [if_neg ending, if_neg ending]
    cases blank : glyph.isBlank <;> simp [marks, visible, blank]

/-- The pairs of a longer text are the pairs before and possibly one more. -/
theorem pairGlyphs_concat (text : List Glyph) (glyph : Glyph) :
    pairGlyphs (text ++ [glyph]) =
      pairGlyphs text ++ if completes text glyph then [glyph] else [] := by
  have before : ∀ place ∈ List.range text.length,
      (text ++ [glyph])[place]?.filter (completes ((text ++ [glyph]).take place)) =
        text[place]?.filter (completes (text.take place)) := by
    intro place inside
    rw [List.mem_range] at inside
    rw [List.getElem?_append_left inside, List.take_append_of_le_length (Nat.le_of_lt inside)]
  rw [pairGlyphs, List.length_append, List.length_singleton, List.range_succ,
    List.filterMap_append, List.filterMap_congr before, pairGlyphs]
  congr 1
  by_cases completed : completes text glyph <;> simp [completed, Option.filter]

/-- A first row has the pairs that its marks make. -/
theorem firstWidth_of_first {read : List Glyph} (first : Glyph.newline ∉ read) (rest : List Glyph) :
    firstWidth (Glyph.newline :: read ++ Glyph.newline :: rest) =
      (marks (Glyph.newline :: read)).length / 2 := by
  have all : ∀ glyph ∈ read, decide (glyph ≠ Glyph.newline) = true := by
    intro glyph member
    exact decide_eq_true fun same => first (same ▸ member)
  have whole : lastLine (Glyph.newline :: read) = read := by
    rw [lastLine, List.reverse_cons, List.takeWhile_append_of_pos (by simpa using all)]
    simp
  simp only [firstWidth, List.cons_append, List.drop_one, List.tail_cons, marks, whole]
  rw [List.takeWhile_append_of_pos all]
  simp

namespace Drawn

/-! ## Drawings and their texts -/

/-- What is drawn tracks the text it is drawn from. -/
structure Tracks (drawn : Drawn) (text : List Glyph) : Prop where
  /-- The marks on the last line are the open row and the glyph that waits. -/
  line : marks text = doubled drawn.row ++ drawn.waiting.toList
  /-- The pairs are the pixels. -/
  pairs : pairGlyphs text = drawn.pixels
  /-- Every newline but the first closes a row. -/
  newlines : text.count Glyph.newline = drawn.rows.length + 1
  /-- The first row has the width of the first row drawn. -/
  first : ∀ row, drawn.rows.head? = some row → ∀ rest, firstWidth (text ++ rest) = row.length

variable {drawn later : Drawn} {text read : List Glyph} {glyph : Glyph} {cause : Cause}

/-- A doubled row is twice as long. -/
theorem length_doubled (row : List Glyph) : (doubled row).length = 2 * row.length := by
  induction row with
  | nil => rfl
  | cons glyph row ih =>
    have split : doubled (glyph :: row) = glyph :: glyph :: doubled row := by simp [doubled]
    rw [split, List.length_cons, List.length_cons, ih, List.length_cons]
    omega

/-- A mark is second of a pair on its line exactly when a glyph waits for its twin. -/
theorem Tracks.waiting (tracks : drawn.Tracks text) :
    ((marks text).length % 2 = 1 ↔ drawn.waiting ≠ none) ∧
      (marks text).length / 2 = drawn.row.length ∧
      ∀ twin, drawn.waiting = some twin → (marks text).getLast? = some twin := by
  rw [tracks.line, List.length_append, length_doubled]
  cases drawn.waiting with
  | none => simp
  | some twin =>
    simp
    omega

/-- A glyph completes a pair exactly when its twin waits. -/
theorem Tracks.completes_iff (tracks : drawn.Tracks text) (glyph : Glyph) :
    completes text glyph = true ↔ glyph.isMark = true ∧ drawn.waiting = some glyph := by
  obtain ⟨odd, -, last⟩ := tracks.waiting
  simp only [completes, Bool.and_eq_true, beq_iff_eq, odd, and_assoc]
  refine and_congr_right fun _ => ⟨?_, ?_⟩
  · rintro ⟨some_glyph, same⟩
    obtain ⟨twin, waits⟩ := Option.ne_none_iff_exists'.mp some_glyph
    rw [last twin waits] at same
    rw [waits, same]
  · intro waits
    exact ⟨by simp [waits], last glyph waits⟩

/-- No newline follows the leading one before the first row is closed. -/
theorem Tracks.newline_not_mem (tracks : drawn.Tracks (Glyph.newline :: read))
    (first : drawn.rows = []) : Glyph.newline ∉ read := by
  have newlines := tracks.newlines
  rw [first, List.count_cons] at newlines
  exact List.count_eq_zero.mp (by simpa using newlines)

/-- Nothing is drawn from the leading newline. -/
theorem tracks_start : Tracks {} [Glyph.newline] := by
  constructor
  case first => intro row none; contradiction
  all_goals rfl

/-- A step of the drawing tracks one more glyph of the text. -/
theorem Tracks.step (leading : text = Glyph.newline :: read) (tracks : drawn.Tracks text)
    (step : drawn.Step glyph later) : later.Tracks (text ++ [glyph]) := by
  have completed := tracks.completes_iff glyph
  have before := tracks.first
  have onwards (row : List Glyph) (head : drawn.rows.head? = some row) (rest : List Glyph) :
      firstWidth (text ++ [glyph] ++ rest) = row.length := by
    rw [List.append_assoc]
    exact before row head _
  cases step with
  | blank blank =>
    have other := Glyph.ne_newline_of_isBlank blank
    have idle : completes text glyph = false := by
      simp [Bool.eq_false_iff, completed, Glyph.isMark, blank]
    constructor
    case line => rw [marks_concat, if_neg other, if_pos blank, tracks.line]
    case pairs => simp [pairGlyphs_concat, tracks.pairs, idle]
    case newlines => rw [List.count_append, tracks.newlines]; simp [other]
    case first => exact onwards
  | close complete fits =>
    have idle : completes text Glyph.newline = false := by
      simp [Bool.eq_false_iff, completed, Glyph.isMark]
    constructor
    case line => rw [marks_concat, if_pos rfl]; rfl
    case pairs => simp [pairGlyphs_concat, tracks.pairs, idle, Drawn.pixels]
    case newlines => rw [List.count_append, tracks.newlines]; simp
    case first =>
      -- The newline of the first row fixes its width; that of a later row leaves it alone.
      intro row head rest
      cases rows : drawn.rows with
      | cons first others =>
        simp only [rows, List.cons_append, List.head?_cons, Option.some.injEq] at head
        exact onwards row (by rw [rows, ← head]; rfl) rest
      | nil =>
        have first : Glyph.newline ∉ read := (leading ▸ tracks).newline_not_mem rows
        simp only [rows, List.nil_append, List.head?_cons, Option.some.injEq] at head
        rw [List.append_assoc, List.singleton_append, leading, firstWidth_of_first first, ← leading,
          ← head]
        exact tracks.waiting.2.1
  | opened shown ending free =>
    have idle : completes text glyph = false := by
      simp [Bool.eq_false_iff, completed, free]
    constructor
    case line => simp [marks_concat, ending, shown, tracks.line, free]
    case pairs => simp [pairGlyphs_concat, tracks.pairs, idle, Drawn.pixels]
    case newlines => rw [List.count_append, tracks.newlines]; simp [ending]
    case first => exact onwards
  | complete shown ending twin room =>
    have done : completes text glyph = true := by
      simp [completed, Glyph.isMark, shown, ending, twin]
    constructor
    case line => simp [marks_concat, ending, shown, tracks.line, twin, doubled]
    case pairs => simp [pairGlyphs_concat, tracks.pairs, done, Drawn.pixels]
    case newlines => rw [List.count_append, tracks.newlines]; simp [ending]
    case first => exact onwards

/-- What is drawn after some glyphs tracks them. -/
theorem tracks_after (done : after read = .ok drawn) : drawn.Tracks (Glyph.newline :: read) := by
  induction read using List.reverseRecOn generalizing drawn with
  | nil =>
    obtain rfl : {} = drawn := Except.ok.inj done
    exact tracks_start
  | append_singleton read glyph ih =>
    obtain ⟨earlier, before, added⟩ := before_of_after done
    exact (ih before).step rfl (step_of_add added)

/-- A place that breaks a row holds a glyph that is refused. -/
theorem refused_of_violation (done : after read = .ok drawn) {rest : List Glyph}
    (violation : Violation (Glyph.newline :: read ++ glyph :: rest) (read.length + 1) cause) :
    drawn.Refused glyph cause := by
  have tracks := tracks_after done
  obtain ⟨odd, width, last⟩ := tracks.waiting
  have here := getElem?_place read glyph rest
  have before := take_place read (glyph :: rest)
  cases violation with
  | unmatched place mark second previous differs =>
    obtain rfl := Option.some.inj (here.symm.trans place)
    rw [before] at second previous
    obtain ⟨waits, waiting⟩ := Option.ne_none_iff_exists'.mp (odd.mp second)
    obtain rfl := Option.some.inj ((last waits waiting).symm.trans previous)
    exact .twin (Glyph.isMark_iff.mp mark).1 (Glyph.isMark_iff.mp mark).2 waiting differs
  | unpaired place second =>
    obtain rfl := Option.some.inj (here.symm.trans place)
    rw [before] at second
    obtain ⟨waits, waiting⟩ := Option.ne_none_iff_exists'.mp (odd.mp second)
    exact .opened waiting
  | width place even differs =>
    obtain rfl := Option.some.inj (here.symm.trans place)
    rw [before] at even differs ⊢
    have free : drawn.waiting = none := by
      by_contra waits
      have second := odd.mpr waits
      omega
    cases head : drawn.rows.head? with
    | none =>
      have first := tracks.newline_not_mem (List.head?_eq_none_iff.mp head)
      exact absurd (firstWidth_of_first first rest).symm differs
    | some first =>
      rw [tracks.first first head, width] at differs ⊢
      exact .width free head differs
  | fifth place completed absent full =>
    obtain rfl := Option.some.inj (here.symm.trans place)
    rw [before] at completed absent full
    obtain ⟨mark, waiting⟩ := (tracks.completes_iff glyph).mp completed
    rw [tracks.pairs] at absent full
    exact .fifth (Glyph.isMark_iff.mp mark).1 (Glyph.isMark_iff.mp mark).2 waiting absent
      (Nat.le_of_eq full.symm)

/-- A glyph that is refused breaks a row at its place. -/
theorem violation_of_refused (done : after read = .ok drawn)
    (refused : drawn.Refused glyph cause) (rest : List Glyph) :
    Violation (Glyph.newline :: read ++ glyph :: rest) (read.length + 1) cause := by
  have tracks := tracks_after done
  obtain ⟨odd, width, last⟩ := tracks.waiting
  have here := getElem?_place read glyph rest
  have before := take_place read (glyph :: rest)
  cases refused with
  | opened waiting =>
    refine .unpaired here ?_
    rw [before, odd, waiting]
    exact Option.some_ne_none _
  | @width first free head differs =>
    have fixed := tracks.first first head (Glyph.newline :: rest)
    have even : (marks (Glyph.newline :: read)).length % 2 = 0 := by
      have second : ¬(marks (Glyph.newline :: read)).length % 2 = 1 := fun second =>
        odd.mp second free
      omega
    have violation := Violation.width here (by rw [before]; exact even) (by
      rw [before, width, fixed]
      exact differs)
    rw [before, width, fixed] at violation
    exact violation
  | twin shown ending waiting differs =>
    refine .unmatched here (Glyph.isMark_iff.mpr ⟨shown, ending⟩) ?_ ?_ differs
    · rw [before, odd, waiting]
      exact Option.some_ne_none _
    · rw [before]
      exact last _ waiting
  | fifth shown ending waiting absent full =>
    refine .fifth here ?_ ?_ ?_
    · rw [before, tracks.completes_iff]
      exact ⟨Glyph.isMark_iff.mpr ⟨shown, ending⟩, waiting⟩
    · rw [before, tracks.pairs]
      exact absent
    · rw [before, tracks.pairs]
      exact Nat.le_antisymm (sound_after done).few full

/-- No row is broken in glyphs that are all drawn. -/
theorem clean_of_after (done : after read = .ok drawn) (rest : List Glyph) :
    Clean (Glyph.newline :: read ++ rest) (read.length + 1) := by
  intro place cause some_place inside violation
  obtain ⟨place, rfl⟩ := Nat.exists_eq_add_of_le' some_place
  have short : place < read.length := Nat.lt_of_add_lt_add_right inside
  obtain ⟨front, glyph, back, rfl, rfl⟩ :
      ∃ front glyph back, read = front ++ glyph :: back ∧ front.length = place := by
    refine ⟨read.take place, read[place], read.drop (place + 1), ?_, ?_⟩
    · rw [← List.drop_eq_getElem_cons short, List.take_append_drop]
    · exact List.length_take_of_le (Nat.le_of_lt short)
  obtain ⟨earlier, next, before, added⟩ := added_of_after done
  rw [← List.cons_append, List.append_assoc] at violation
  have refused := add_of_refused (refused_of_violation before violation)
  rw [added] at refused
  contradiction

/-- The end of a text is too early if marks are on its last line, or if it has no other newline than
the leading one. -/
theorem Tracks.unfinished? (tracks : drawn.Tracks text) :
    drawn.unfinished? = if marks text ≠ [] then some .unterminatedRow
      else if text.count Glyph.newline = 1 then some .noRows else none := by
  have open_row : marks text = [] ↔ drawn.row = [] ∧ drawn.waiting = none := by
    rw [tracks.line]
    cases drawn.row <;> cases drawn.waiting <;> simp [doubled]
  have some_row : text.count Glyph.newline = 1 ↔ drawn.rows = [] := by
    rw [tracks.newlines, ← List.length_eq_zero_iff]
    omega
  simp only [Drawn.unfinished?, ne_eq, open_row, some_row]
  cases drawn.waiting <;> simp

end Drawn

/-! ## Refused texts -/

variable {drawn : Drawn} {text read front : List Glyph} {glyph : Glyph} {cause : Cause}
  {lineOffset : Int} {fault : Fault}

/-- A row is broken at a place of the text. -/
theorem Violation.lt_length {place : Nat} (violation : Violation text place cause) :
    place < text.length := by
  cases violation with
  | unmatched here | unpaired here | width here | fifth here =>
    exact (List.getElem?_eq_some_iff.mp here).1

/-- A text whose glyphs are all drawn is refused for its end or not at all. -/
theorem rejected_iff_of_after (done : Drawn.after read = .ok drawn) :
    Rejected (Glyph.newline :: read) lineOffset fault ↔
      ∃ cause, drawn.unfinished? = some cause ∧
        fault = .located cause (lineOffset + 2 + read.count Glyph.newline)
          (lastLine read).length := by
  have tracks := Drawn.tracks_after done
  have clean := Drawn.clean_of_after done []
  rw [List.append_nil] at clean
  have line := line_of_count lineOffset read
  rw [tracks.unfinished?, ← line, ← lastLine_newline_cons]
  constructor
  · intro rejected
    cases rejected with
    | missing other => exact absurd rfl other
    | violated _ some_place violation _ =>
      exact absurd violation (clean _ _ some_place violation.lt_length)
    | unterminated _ _ some_mark => exact ⟨_, if_pos some_mark, rfl⟩
    | noRows _ _ no_mark alone =>
      exact ⟨_, by rw [if_neg (not_not.mpr no_mark), if_pos alone], rfl⟩
  · rintro ⟨cause, early, rfl⟩
    split at early
    · rename_i some_mark
      cases early
      exact .unterminated rfl clean some_mark
    · rename_i no_mark
      split at early
      · rename_i alone
        cases early
        exact .noRows rfl clean (not_not.mp no_mark) alone
      · contradiction

/-- A text is refused for the first of its glyphs that cannot be drawn. -/
theorem rejected_iff_of_refused (done : Drawn.after front = .ok drawn)
    (refused : drawn.add glyph = .error cause) (back : List Glyph) :
    Rejected (Glyph.newline :: (front ++ glyph :: back)) lineOffset fault ↔
      fault = .located cause (lineOffset + 2 + front.count Glyph.newline)
        ((lastLine front).length + 1) := by
  have clean := Drawn.clean_of_after done (glyph :: back)
  have violated := Drawn.violation_of_refused done (Drawn.refused_of_add refused) back
  rw [← List.cons_append]
  have before := take_place front (glyph :: back)
  have line := line_of_count lineOffset front
  have dirty : ¬Clean (Glyph.newline :: front ++ glyph :: back)
      (Glyph.newline :: front ++ glyph :: back).length := fun whole =>
    whole _ _ (by omega) violated.lt_length violated
  constructor
  · intro rejected
    cases rejected with
    | missing other => exact absurd rfl other
    | @violated place other _ some_place violation earliest =>
      -- A sooner place breaks no row, and a later one is not the first.
      obtain rfl : place = front.length + 1 := by
        rcases Nat.lt_trichotomy place (front.length + 1) with sooner | here | later
        · exact absurd violation (clean _ _ some_place sooner)
        · exact here
        · exact absurd violated (earliest _ _ (by omega) later)
      have same := Drawn.add_of_refused (Drawn.refused_of_violation done violation)
      rw [refused, Except.error.injEq] at same
      rw [before, line, lastLine_newline_cons, same]
    | unterminated _ whole _ => exact absurd whole dirty
    | noRows _ whole _ _ => exact absurd whole dirty
  · rintro rfl
    have rejected : Rejected _ lineOffset _ := .violated rfl (by omega) violated clean
    rwa [before, line, lastLine_newline_cons] at rejected

/-- A text that does not start with a newline is refused for that. -/
theorem rejected_iff_of_missing (missing : text.head? ≠ some Glyph.newline) :
    Rejected text lineOffset fault ↔
      fault = .located .missingNewline (lineOffset + 1) 1 := by
  constructor
  · intro rejected
    cases rejected with
    | missing => rfl
    | violated leading | unterminated leading | noRows leading => exact absurd leading missing
  · rintro rfl
    exact .missing missing

namespace Drawing

/-- A scan of a text finds the fault that the text is refused for, and none if there is none. -/
theorem ofBytes_snd_eq_some_iff (text : String) (lineOffset : Int) (found : ReadFault) :
    (Scan.ofBytes (Utf8.encode text) lineOffset).2 = some found ↔
      ∃ fault, found = .text fault ∧ Rejected (codes text) lineOffset fault := by
  have ending := Scan.ends_ofBytes (Utf8.encode text) lineOffset
  generalize Scan.ofBytes (Utf8.encode text) lineOffset = scanned at ending ⊢
  generalize encoded : Utf8.encode text = bytes at ending
  cases ending with
  | missing other =>
    have missing : (codes text).head? ≠ some Glyph.newline := by
      intro head
      obtain ⟨rest, leading⟩ := List.head?_eq_some_iff.mp head
      obtain ⟨tail, same, -⟩ := Scan.encode_of_codes leading
      exact other tail (encoded.symm.trans same)
    simp [rejected_iff_of_missing missing, eq_comm]
  | refused decoded done refused =>
    obtain ⟨rest, leading, same⟩ := Scan.codes_of_encode encoded
    obtain ⟨rfl, rfl⟩ := Prod.mk.inj (decoded.symm.trans same)
    simp [leading, rejected_iff_of_refused done refused, eq_comm]
  | broken decoded done =>
    obtain ⟨rest, leading, same⟩ := Scan.codes_of_encode encoded
    have clean := (Prod.mk.inj (decoded.symm.trans same)).2
    contradiction
  | unfinished decoded done early =>
    obtain ⟨rest, leading, same⟩ := Scan.codes_of_encode encoded
    obtain ⟨rfl, -⟩ := Prod.mk.inj (decoded.symm.trans same)
    simp [leading, rejected_iff_of_after done, early, eq_comm]
  | finished decoded done finished =>
    obtain ⟨rest, leading, same⟩ := Scan.codes_of_encode encoded
    obtain ⟨rfl, -⟩ := Prod.mk.inj (decoded.symm.trans same)
    have complete : Drawn.unfinished? { rows := _ } = none :=
      Scan.unfinished?_eq_none_iff.mpr ⟨finished.some_row, rfl⟩
    simp [leading, rejected_iff_of_after done, complete]

/-- The sizing pass refuses a text for the first place that breaks a row, or else for its end, and
reports the cause with the line and the column. Both passes together do the same, and do so as well
when they are given a buffer. -/
theorem error_iff_rejected (text : String) (lineOffset : Int) (fault : DrawingFault) :
    (sizing (Utf8.encode text) lineOffset = .error fault ↔
      ∃ located, fault = .text located ∧ Rejected (codes text) lineOffset located) ∧
    ∀ alignTail,
      ((build (Utf8.encode text) none alignTail lineOffset).1 = .error fault ↔
        ∃ located, fault = .text located ∧ Rejected (codes text) lineOffset located) ∧
      ∀ buffer, (∃ located, fault = .text located ∧ Rejected (codes text) lineOffset located) →
        (build (Utf8.encode text) (some buffer) alignTail lineOffset).1 = .error fault := by
  have sized : sizing (Utf8.encode text) lineOffset = .error fault ↔
      ∃ located, fault = .text located ∧ Rejected (codes text) lineOffset located := by
    simp only [sizing_eq_error_iff, ofBytes_snd_eq_some_iff]
    constructor
    · rintro ⟨found, ⟨located, rfl, rejected⟩, rfl⟩
      exact ⟨located, rfl, rejected⟩
    · rintro ⟨located, rfl, rejected⟩
      exact ⟨_, ⟨located, rfl, rejected⟩, rfl⟩
  refine ⟨sized, fun alignTail => ⟨build_eq_error_iff.trans sized, fun buffer rejected => ?_⟩⟩
  exact build_of_sizing_error (sized.mpr rejected) (some buffer) alignTail

end Drawing

end SpriteText
