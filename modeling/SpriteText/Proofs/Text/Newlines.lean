import SpriteText.Text.Blank

/-!
# Line ends

Text is read with one line feed for every line end, be that a line feed, a carriage return, or a
carriage return with a line feed behind it.
-/

namespace SpriteText.Text

/-- A text with one line feed for each of its line ends. -/
inductive PlainEnds : List Char → List Char → Prop
  /-- No text is left. -/
  | nil : PlainEnds [] []
  /-- A carriage return and a line feed are one line end. -/
  | pair {text plain : List Char} (rest : PlainEnds text plain) :
    PlainEnds ('\r' :: '\n' :: text) ('\n' :: plain)
  /-- A carriage return without a line feed behind it is one, too. -/
  | alone {text plain : List Char} (unpaired : text.head? ≠ some '\n')
    (rest : PlainEnds text plain) : PlainEnds ('\r' :: text) ('\n' :: plain)
  /-- Every other character stays, a line feed as well. -/
  | other {character : Char} {text plain : List Char} (differs : character ≠ '\r')
    (rest : PlainEnds text plain) : PlainEnds (character :: text) (character :: plain)

/-- What is seen of the rest of a text is whether a line feed comes next. -/
theorem plainNewlines_fold (text : List Char) :
    (text.foldr
      (fun character (rest : Bool × List Char) =>
        if character = '\r' then (false, if rest.1 then rest.2 else '\n' :: rest.2)
        else (character = '\n', character :: rest.2))
      (false, [])) = (decide (text.head? = some '\n'), plainNewlines text) := by
  rw [plainNewlines]
  generalize folded : text.foldr _ _ = result
  cases text with
  | nil =>
    rw [← folded]
    rfl
  | cons character text =>
    rw [List.foldr_cons] at folded
    rw [← folded]
    by_cases ending : character = '\r'
    · simp [ending]
    · simp [ending]

/-- A carriage return is left out before a line feed, and is one elsewhere. -/
theorem plainNewlines_return (text : List Char) :
    plainNewlines ('\r' :: text) =
      if text.head? = some '\n' then plainNewlines text else '\n' :: plainNewlines text := by
  rw [plainNewlines, List.foldr_cons, plainNewlines_fold]
  simp

/-- Every other character stays. -/
theorem plainNewlines_other {character : Char} (differs : character ≠ '\r') (text : List Char) :
    plainNewlines (character :: text) = character :: plainNewlines text := by
  rw [plainNewlines, List.foldr_cons, plainNewlines_fold]
  simp [differs]

/-- The plain text of a text is the only one. -/
theorem plainEnds_iff {text plain : List Char} :
    PlainEnds text plain ↔ plainNewlines text = plain := by
  constructor
  · intro ends
    induction ends with
    | nil => rfl
    | pair rest ih =>
      rw [plainNewlines_return, List.head?_cons, if_pos rfl, plainNewlines_other (by decide), ih]
    | alone unpaired rest ih => rw [plainNewlines_return, if_neg unpaired, ih]
    | other differs rest ih => rw [plainNewlines_other differs, ih]
  · rintro rfl
    -- a pair takes two characters at once, so the induction is on the length
    induction length : text.length using Nat.strongRecOn generalizing text with
    | ind count ih =>
      cases text with
      | nil => exact .nil
      | cons character text =>
        rw [List.length_cons] at length
        by_cases ending : character = '\r'
        · subst ending
          rw [plainNewlines_return]
          by_cases paired : text.head? = some '\n'
          · obtain ⟨rest, rfl⟩ := List.head?_eq_some_iff.mp paired
            rw [if_pos paired, plainNewlines_other (by decide)]
            rw [List.length_cons] at length
            exact .pair (ih rest.length (by omega) rfl)
          · rw [if_neg paired]
            exact .alone paired (ih text.length (by omega) rfl)
        · rw [plainNewlines_other ending]
          exact .other ending (ih text.length (by omega) rfl)

end SpriteText.Text
