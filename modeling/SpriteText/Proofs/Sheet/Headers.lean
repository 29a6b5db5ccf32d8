import SpriteText.Proofs.Text.Lines
import SpriteText.Sheet.Sections

/-!
# Header lines

A header is read by its words. Spelled out, it is the header word, maybe with blanks before it, and
then nothing but blanks, or blanks and a name, which blanks may follow.
-/

namespace SpriteText.Sheet

/-- Characters are all blank. -/
def AllBlank (characters : List Char) : Prop :=
  ∀ character ∈ characters, Text.isBlank character = true

/-- The spelling of the headers that give a name, or give none. -/
inductive Header : Option String → List Char → Prop
  /-- The header word stands alone. -/
  | bare {lead trail : List Char} (lead_blank : AllBlank lead) (trail_blank : AllBlank trail) :
    Header none (lead ++ (headerWord ++ trail))
  /-- A name follows the header word behind blanks. -/
  | named {lead gap trail : List Char} {name : String} (lead_blank : AllBlank lead)
      (gap_blank : AllBlank gap) (some_gap : gap ≠ []) (trail_blank : AllBlank trail)
      (some_character : name.toList ≠ [])
      (inked : ∀ character ∈ name.toList, Text.isBlank character = false) :
    Header (some name) (lead ++ (headerWord ++ (gap ++ (name.toList ++ trail))))

/-- No character of the header word is blank. -/
theorem headerWord_inked : ∀ character ∈ headerWord, Text.isBlank character = false := by
  have none_blank : headerWord.any Text.isBlank = false := by decide
  simpa using none_blank

/-- Blanks behind a word end it. -/
theorem AllBlank.ended {trail : List Char} (blank : AllBlank trail) :
    ∀ next, trail.head? = some next → Text.isBlank next = true :=
  fun next first => blank next (List.mem_of_head? first)

/-- The words of a header are the header word and its name. -/
theorem Header.words {name : Option String} {line : List Char} (header : Header name line) :
    Text.words line = headerWord :: (name.map String.toList).toList := by
  cases header with
  | @bare lead trail lead_blank trail_blank =>
    have starts : Text.StartsWith headerWord trail (lead ++ (headerWord ++ trail)) :=
      ⟨⟨lead, lead_blank, rfl⟩, by decide, headerWord_inked, trail_blank.ended⟩
    rw [starts.words_eq, Text.words_of_blank trail_blank]
    rfl
  | @named lead gap trail name lead_blank gap_blank some_gap trail_blank some_character inked =>
    have first : Text.StartsWith headerWord (gap ++ (name.toList ++ trail))
        (lead ++ (headerWord ++ (gap ++ (name.toList ++ trail)))) := by
      refine ⟨⟨lead, lead_blank, rfl⟩, by decide, headerWord_inked, ?_⟩
      obtain ⟨blank, others, rfl⟩ := List.exists_cons_of_ne_nil some_gap
      exact gap_blank.ended
    have second : Text.StartsWith name.toList trail (gap ++ (name.toList ++ trail)) :=
      ⟨⟨gap, gap_blank, rfl⟩, some_character, inked, trail_blank.ended⟩
    rw [first.words_eq, second.words_eq, Text.words_of_blank trail_blank]
    rfl

/-- What is read as a header is spelled as one. -/
theorem Header.of_words {name : Option String} {line : List Char}
    (split : Text.words line = headerWord :: (name.map String.toList).toList) :
    Header name line := by
  obtain ⟨rest, first, later⟩ := Text.words_eq_cons_iff.mp split
  obtain ⟨lead, lead_blank, rfl⟩ := first.lead
  cases name with
  | none =>
    have trail_blank : AllBlank rest := Text.words_eq_nil_iff.mp later
    exact .bare lead_blank trail_blank
  | some name =>
    obtain ⟨trail, second, none⟩ := Text.words_eq_cons_iff.mp later
    have trail_blank : AllBlank trail := Text.words_eq_nil_iff.mp none
    obtain ⟨gap, gap_blank, rfl⟩ := second.lead
    -- Without a gap, the name would start with the blank that ends the header word.
    have some_gap : gap ≠ [] := by
      rintro rfl
      obtain ⟨letter, others, spelled⟩ := List.exists_cons_of_ne_nil second.some_character
      have blank := first.ended letter (by rw [spelled]; rfl)
      have ink := second.inked letter (by rw [spelled]; exact List.mem_cons_self)
      exact Bool.false_ne_true (ink.symm.trans blank)
    exact .named lead_blank gap_blank some_gap trail_blank second.some_character second.inked

/-- A line is read as a header exactly if it is spelled as one. -/
theorem header?_eq_some_iff {name : Option String} {line : List Char} :
    header? line = some name ↔ Header name line := by
  constructor
  · intro header
    apply Header.of_words
    unfold header? at header
    split at header
    · rename_i word split
      split at header
      · rename_i same
        cases header
        rw [split, same]
        rfl
      · contradiction
    · rename_i word found split
      split at header
      · rename_i same
        cases header
        rw [split, same, Option.map_some, String.toList_ofList]
        rfl
      · contradiction
    · contradiction
  · intro header
    have split := header.words
    cases name with
    | none => simp [header?, split]
    | some name => simp [header?, split]

end SpriteText.Sheet
