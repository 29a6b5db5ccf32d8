import SpriteText.Files.Path

/-!
# Stems of file names

The stem of a file name is what stands before its last dot. A dot that is the first or the last
character cuts nothing off.
-/

namespace SpriteText.Files

/-- A name is cut at its last dot into a front and an extension, both of them not empty. -/
structure CutAt (name front extension : List Char) : Prop where
  /-- The dot is between them. -/
  whole : name = front ++ '.' :: extension
  /-- There is something before it. -/
  some_front : front ≠ []
  /-- There is something after it. -/
  some_extension : extension ≠ []
  /-- There is no dot after it. -/
  last : '.' ∉ extension

/-- The stem of a name: what its last dot cuts off, or all of it where there is no such dot. -/
inductive IsStem (name : List Char) : List Char → Prop
  /-- The name is cut. -/
  | cut {front extension : List Char} (at_dot : CutAt name front extension) : IsStem name front
  /-- The name cannot be cut. -/
  | whole (uncut : ∀ front extension, ¬CutAt name front extension) : IsStem name name

/-- The characters behind the last dot of a name, and what is before them. -/
theorem cutAt_of_reverse {name after before : List Char} {dot : Char}
    (taken : (name.reverse.takeWhile fun character => character ≠ '.') = after)
    (dropped : (name.reverse.dropWhile fun character => character ≠ '.') = dot :: before)
    (some_extension : after ≠ []) (some_front : before ≠ []) :
    CutAt name before.reverse after.reverse := by
  have dotted : dot = '.' := by
    have head := List.head?_dropWhile_not (fun character : Char => decide (character ≠ '.'))
      name.reverse
    rw [dropped] at head
    simpa using head
  constructor
  case whole =>
    have joined := List.takeWhile_append_dropWhile
      (p := fun character : Char => decide (character ≠ '.')) (l := name.reverse)
    rw [taken, dropped] at joined
    simpa [dotted] using (congrArg List.reverse joined).symm
  case some_front => simpa using some_front
  case some_extension => simpa using some_extension
  case last =>
    intro member
    rw [List.mem_reverse, ← taken] at member
    simpa using List.all_eq_true.mp List.all_takeWhile _ member

/-- A name that is cut is cut there. -/
theorem cutName_of_cutAt {name front extension : List Char} (cut : CutAt name front extension) :
    Path.cutName name = (front, '.' :: extension) := by
  have reversed : name.reverse = extension.reverse ++ '.' :: front.reverse := by
    rw [cut.whole]
    simp
  have undotted : ∀ character ∈ extension.reverse, decide (character ≠ '.') = true := by
    intro character member
    have other : character ≠ '.' := by
      rintro rfl
      exact cut.last (List.mem_reverse.mp member)
    simpa using other
  have taken : (name.reverse.takeWhile fun character => character ≠ '.') = extension.reverse := by
    rw [reversed, List.takeWhile_append_of_pos undotted]
    simp
  have dropped : (name.reverse.dropWhile fun character => character ≠ '.') =
      '.' :: front.reverse := by
    rw [reversed, List.dropWhile_append_of_pos undotted]
    simp
  simp only [Path.cutName, taken, dropped]
  rw [if_pos ⟨by simpa using cut.some_extension, by simpa using cut.some_front⟩]
  simp

/-- A name that cannot be cut stays whole. -/
theorem cutName_of_uncut {name : List Char}
    (uncut : ∀ front extension, ¬CutAt name front extension) : Path.cutName name = (name, []) := by
  unfold Path.cutName
  split
  · next dropped =>
    refine if_neg ?_
    rintro ⟨some_extension, some_front⟩
    exact uncut _ _ (cutAt_of_reverse rfl dropped some_extension some_front)
  · rfl

/-- A name has one stem. -/
theorem isStem_iff {name stem : List Char} : IsStem name stem ↔ (Path.cutName name).1 = stem := by
  constructor
  · rintro (at_dot | uncut)
    · rw [cutName_of_cutAt at_dot]
    · rw [cutName_of_uncut uncut]
  · rintro rfl
    by_cases cut : ∃ front extension, CutAt name front extension
    · obtain ⟨front, extension, cut⟩ := cut
      rw [cutName_of_cutAt cut]
      exact .cut cut
    · simp only [not_exists] at cut
      rw [cutName_of_uncut cut]
      exact .whole cut

end SpriteText.Files
