import SpriteText.Proofs.Sheet.Compile
import SpriteText.Proofs.Sheet.Headers

/-!
# Rows are no headers

Every row of a drawing writes each of its glyphs twice. A header has its first `@` before an `s`,
with nothing but blanks before it, so no line of a drawing is a header.
-/

namespace SpriteText

/-- The glyph at which a written row first shows itself is followed by its twin. -/
theorem twin_of_doubled {row front rest : List Glyph} {glyph next : Glyph}
    (split : doubled row = front ++ glyph :: next :: rest) (first : glyph ∉ front) :
    next = glyph := by
  induction row generalizing front with
  | nil => exact absurd split (by simp [doubled])
  | cons drawn row ih =>
    have twice : doubled (drawn :: row) = drawn :: drawn :: doubled row := rfl
    rw [twice] at split
    -- The pairs before the glyph are taken off; the glyph cannot complete one of them.
    cases front with
    | nil =>
      simp only [List.nil_append, List.cons.injEq] at split
      exact split.2.1.symm.trans split.1
    | cons left front =>
      cases front with
      | nil =>
        simp only [List.cons_append, List.nil_append, List.cons.injEq] at split
        rw [List.mem_singleton] at first
        exact absurd (split.2.1.symm.trans split.1) first
      | cons right front =>
        simp only [List.cons_append, List.cons.injEq] at split
        exact ih split.2.2 fun member =>
          first (List.mem_cons_of_mem _ (List.mem_cons_of_mem _ member))

/-- Segments are known from the list in which each is ended by a separator. -/
theorem eq_of_flatMap_concat {α : Type} [DecidableEq α] {separator : α}
    {segments others : List (List α)} (free : ∀ segment ∈ segments, separator ∉ segment)
    (free' : ∀ segment ∈ others, separator ∉ segment)
    (same : segments.flatMap (fun segment => segment ++ [separator]) =
      others.flatMap fun segment => segment ++ [separator]) : segments = others := by
  have split (segments : List (List α)) (free : ∀ segment ∈ segments, separator ∉ segment) :
      (segments.flatMap fun segment => segment ++ [separator]).splitOnP
        (fun item => item = separator) = segments ++ [[]] := by
    induction segments with
    | nil => rfl
    | cons segment segments ih =>
      obtain ⟨first, rest⟩ := List.forall_mem_cons.mp free
      rw [List.flatMap_cons, List.append_assoc, List.singleton_append,
        List.splitOnP_append_cons_of_forall_mem ?_ separator (by simp), ih rest]
      · rfl
      · intro item member
        refine decide_eq_false ?_
        rintro rfl
        exact first member
  have whole := split segments free
  rw [same, split others free'] at whole
  exact (List.append_cancel_right whole).symm

/-- A letter that is not blank is no blank to a scan. -/
theorem Glyph.isBlank_eq_false_of_ink {letter : Char} (ink : Text.isBlank letter = false) :
    Glyph.isBlank (letter.toNat : Int) = false := by
  rw [Glyph.isBlank, Bool.or_eq_false_iff, decide_eq_false_iff_not, decide_eq_false_iff_not]
  constructor
  · intro same
    have space : letter = ' ' := Char.toNat_inj.mp (Int.ofNat_inj.mp same)
    rw [space] at ink
    contradiction
  · intro same
    have tab : letter = '\t' := Char.toNat_inj.mp (Int.ofNat_inj.mp same)
    rw [tab] at ink
    contradiction

namespace Sheet

/-- The visible glyphs of a line. -/
def inks (line : List Char) : List Glyph := visible (line.map fun letter => (letter.toNat : Int))

/-- The visible glyphs of a text are those of its parts. -/
theorem inks_append (front back : List Char) : inks (front ++ back) = inks front ++ inks back := by
  rw [inks, List.map_append, visible, List.filter_append]
  rfl

/-- A glyph is visible in a line only if its letter is there. -/
theorem not_mem_inks {line : List Char} {letter : Char} (absent : letter ∉ line) :
    (letter.toNat : Int) ∉ inks line := by
  intro member
  obtain ⟨other, held, same⟩ := List.mem_map.mp (List.mem_filter.mp member).1
  have letters : other = letter := Char.toNat_inj.mp (Int.ofNat_inj.mp same)
  exact absent (letters ▸ held)

/-- A header is its word after blanks, and more. -/
theorem exists_of_header? {line : List Char} {name : Option String}
    (header : header? line = some name) :
    ∃ lead rest, line = lead ++ (headerWord ++ rest) ∧
      ∀ character ∈ lead, Text.isBlank character = true := by
  cases header?_eq_some_iff.mp header with
  | bare lead_blank => exact ⟨_, _, rfl, lead_blank⟩
  | named lead_blank => exact ⟨_, _, rfl, lead_blank⟩

/-- A line whose visible glyphs are a written row is no header. -/
theorem header?_of_inks {line : List Char} {row : List Glyph} (drawn : inks line = doubled row) :
    header? line = none := by
  cases header : header? line with
  | none => rfl
  | some name =>
    obtain ⟨lead, rest, rfl, blanks⟩ := exists_of_header? header
    have absent : '@' ∉ lead := by
      intro member
      have blank := blanks '@' member
      contradiction
    have word : inks headerWord = 64 :: 115 :: inks "prite".toList := by decide
    rw [inks_append, inks_append, word] at drawn
    have twins := twin_of_doubled drawn.symm (not_mem_inks absent)
    contradiction

/-- The lines of a drawing, each with its end, behind a newline. -/
def drawingOf (lines : List (List Char)) : String :=
  String.ofList ('\n' :: lines.flatMap fun line => line ++ ['\n'])

/-- The visible glyphs of lines are those of every line, each behind it a newline. -/
theorem inks_flatMap (lines : List (List Char)) :
    inks (lines.flatMap fun line => line ++ ['\n']) =
      (lines.map inks).flatMap fun shown => shown ++ [Glyph.newline] := by
  induction lines with
  | nil => rfl
  | cons line lines ih =>
    rw [List.flatMap_cons, inks_append, inks_append, ih, List.map_cons, List.flatMap_cons]
    rfl

/-- The lines of a drawing show its rows. -/
theorem map_inks_of_draws {lines : List (List Char)} {rows : List (List Glyph)} {width : Nat}
    (unbroken : ∀ line ∈ lines, '\n' ∉ line) (draws : Draws (codes (drawingOf lines)) rows width) :
    lines.map inks = rows.map doubled := by
  obtain ⟨rest, leading, spelled⟩ := draws.spelled
  have shown : visible rest = (lines.map inks).flatMap fun shown => shown ++ [Glyph.newline] := by
    rw [codes, drawingOf, String.toList_ofList, List.map_cons] at leading
    rw [← (List.cons.inj leading).2]
    exact inks_flatMap lines
  have rows_written :
      written rows = (rows.map doubled).flatMap fun row => row ++ [Glyph.newline] := by
    rw [written, List.flatMap_map]
  refine eq_of_flatMap_concat ?_ ?_ (shown.symm.trans (spelled.trans rows_written))
  · intro segment member
    obtain ⟨line, held, rfl⟩ := List.mem_map.mp member
    exact not_mem_inks (unbroken line held)
  · intro segment member newline
    obtain ⟨row, held, rfl⟩ := List.mem_map.mp member
    obtain ⟨glyph, drawn, twin⟩ := List.mem_flatMap.mp newline
    have same : Glyph.newline = glyph := by simpa using twin
    exact draws.inked glyph (List.mem_flatten.mpr ⟨row, held, drawn⟩) same.symm

/-- No line of a drawing that is compiled is a header. -/
theorem header?_of_compile {lines : List (List Char)} {alignTail : Bool} {lineOffset : Int}
    {sprite : Sprite} (unbroken : ∀ line ∈ lines, '\n' ∉ line)
    (compiled : Drawing.compile (drawingOf lines) alignTail lineOffset = .ok sprite) :
    ∀ line ∈ lines, header? line = none := by
  obtain ⟨rows, width, draws⟩ := Drawing.draws_of_compile compiled
  intro line member
  have drawn : inks line ∈ rows.map doubled := by
    rw [← map_inks_of_draws unbroken draws]
    exact List.mem_map_of_mem member
  obtain ⟨row, -, same⟩ := List.mem_map.mp drawn
  exact header?_of_inks same.symm

end Sheet

end SpriteText
