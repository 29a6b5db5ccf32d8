import Mathlib.Data.List.TakeWhile
import SpriteText.Text.CodePoint

/-!
# Texts with an encoding

The texts that have an encoding are those without surrogates, and these are the texts of characters.
Any other text is refused for its first run of surrogates (`Surrogates.Leads`).
-/

namespace SpriteText

namespace CodePoint

/-- A character is the one that its code point is. -/
theorem char?_ofChar (character : Char) : (ofChar character).char? = some character := by
  have valid : (ofChar character).value.isValidChar := character.valid
  rw [char?, dif_pos valid, Option.some_inj, Char.ext_iff]
  rfl

/-- A code point that is a character is the character's. -/
theorem eq_ofChar_of_char? {code : CodePoint} {character : Char}
    (found : code.char? = some character) : code = ofChar character := by
  by_cases valid : code.value.isValidChar
  · rw [char?, dif_pos valid] at found
    cases found
    rfl
  · rw [char?, dif_neg valid] at found
    cases found

/-- A code point is a character unless it is a surrogate. -/
theorem char?_eq_none_iff {code : CodePoint} :
    code.char? = none ↔ code.isSurrogate = true := by
  have valid : code.value.isValidChar ↔ ¬code.isSurrogate = true := by
    have bounded := code.bounded
    simp only [Nat.isValidChar, isSurrogate, Bool.and_eq_true, decide_eq_true_eq]
    omega
  by_cases character : code.value.isValidChar
  · rw [char?, dif_pos character]
    exact iff_of_false (Option.some_ne_none _) (valid.mp character)
  · rw [char?, dif_neg character]
    exact iff_of_true rfl (not_not.mp (mt valid.mpr character))

/-- A character is no surrogate. -/
theorem isSurrogate_ofChar (character : Char) : (ofChar character).isSurrogate = false := by
  rw [← Bool.not_eq_true, ← char?_eq_none_iff, char?_ofChar]
  simp

/-- What is no surrogate is a character. -/
theorem exists_eq_ofChar {code : CodePoint} (plain : code.isSurrogate = false) :
    ∃ character, code = ofChar character := by
  cases found : code.char? with
  | some character => exact ⟨character, eq_ofChar_of_char? found⟩
  | none => rw [char?_eq_none_iff.mp found] at plain; cases plain

end CodePoint

namespace Text

variable {codes : List CodePoint} {text : String}

/-- A text holds no surrogates. -/
def Encodable (codes : List CodePoint) : Prop := ∀ code ∈ codes, code.isSurrogate = false

/-- It can be decided whether a text holds surrogates. -/
instance (codes : List CodePoint) : Decidable (Encodable codes) :=
  inferInstanceAs (Decidable (∀ code ∈ codes, code.isSurrogate = false))

/-- Texts without surrogates are the texts of characters. -/
theorem encodable_iff : Encodable codes ↔ ∃ text, codes = codePoints text := by
  constructor
  · intro encodable
    induction codes with
    | nil => exact ⟨"", rfl⟩
    | cons code codes ih =>
      obtain ⟨plain, rest⟩ := List.forall_mem_cons.mp encodable
      obtain ⟨character, rfl⟩ := CodePoint.exists_eq_ofChar plain
      obtain ⟨text, rfl⟩ := ih rest
      refine ⟨String.ofList (character :: text.toList), ?_⟩
      rw [codePoints, codePoints, String.toList_ofList, List.map_cons]
  · rintro ⟨text, rfl⟩ code member
    obtain ⟨character, -, rfl⟩ := List.mem_map.mp member
    exact CodePoint.isSurrogate_ofChar character

/-- A text of characters is the one that its code points spell. -/
theorem spelled?_codePoints (text : String) : spelled? (codePoints text) = some text := by
  have chars : (codePoints text).mapM CodePoint.char? = some text.toList := by
    rw [codePoints, List.mapM_map]
    induction text.toList with
    | nil => rfl
    | cons character rest ih =>
      rw [List.mapM_cons, ih, Function.comp_apply, CodePoint.char?_ofChar]
      rfl
  rw [spelled?, chars, Option.map_some, String.ofList_toList]

/-- Code points that spell a text are the text's. -/
theorem codePoints_of_spelled? (spelled : spelled? codes = some text) :
    codes = codePoints text := by
  unfold spelled? at spelled
  obtain ⟨letters, chars, rfl⟩ := Option.map_eq_some_iff.mp spelled
  rw [codePoints, String.toList_ofList]
  clear spelled
  induction codes generalizing letters with
  | nil =>
    cases chars
    rfl
  | cons code codes ih =>
    rw [List.mapM_cons] at chars
    obtain ⟨letter, first, later⟩ := Option.bind_eq_some_iff.mp chars
    obtain ⟨rest, others, same⟩ := Option.bind_eq_some_iff.mp later
    cases same
    rw [List.map_cons, ← ih rest others, CodePoint.eq_ofChar_of_char? first]

/-- Code points with a surrogate spell no text. -/
theorem spelled?_of_not_encodable (lone : ¬Encodable codes) : spelled? codes = none := by
  cases spelled : spelled? codes with
  | none => rfl
  | some text => exact absurd (encodable_iff.mpr ⟨text, codePoints_of_spelled? spelled⟩) lone

/-- A text of characters has its encoding. -/
theorem encode?_codePoints (text : String) :
    encode? (codePoints text) = .ok (Utf8.encode text) := by
  rw [encode?, spelled?_codePoints]

/-- A text with surrogates is refused for them. -/
theorem encode?_of_not_encodable (lone : ¬Encodable codes) :
    encode? codes = .error (.find codes) := by
  rw [encode?, spelled?_of_not_encodable lone]

/-- Surrogates are the first run of them in a text. -/
structure Surrogates.Leads (found : Surrogates) (codes : List CodePoint) : Prop where
  /-- The run stands behind a text without surrogates. -/
  split : ∃ front back, codes = front ++ found.run ++ back ∧ Encodable front ∧
    found.start = front.length ∧ ∀ code, back.head? = some code → code.isSurrogate = false
  /-- There is a surrogate. -/
  some_surrogate : found.run ≠ []
  /-- All of the run are surrogates. -/
  surrogates : ∀ code ∈ found.run, code.isSurrogate = true

/-- The surrogates that a text is refused for are the first ones. -/
theorem Surrogates.leads_find (lone : ¬Encodable codes) : (find codes).Leads codes := by
  generalize before : (codes.takeWhile fun code => !code.isSurrogate) = front
  generalize after : (codes.dropWhile fun code => !code.isSurrogate) = rest
  have whole : codes = front ++ rest := by
    rw [← before, ← after, List.takeWhile_append_dropWhile]
  have plain : Encodable front := by
    intro code member
    rw [← before] at member
    simpa using List.mem_takeWhile_imp member
  constructor
  case split =>
    refine ⟨front, rest.dropWhile CodePoint.isSurrogate, ?_, plain, ?_, fun code head => ?_⟩
    · rw [find, after, List.append_assoc, List.takeWhile_append_dropWhile]
      exact whole
    · rw [find, before]
    · have first := List.head?_dropWhile_not CodePoint.isSurrogate rest
      rw [head] at first
      simpa using first
  case some_surrogate =>
    rw [find, after]
    cases rest with
    | nil =>
      rw [whole, List.append_nil] at lone
      exact absurd plain lone
    | cons code rest =>
      have first := List.head?_dropWhile_not (fun code => !CodePoint.isSurrogate code) codes
      rw [after] at first
      have surrogate : code.isSurrogate = true := by simpa using first
      rw [List.takeWhile_cons_of_pos surrogate]
      exact List.cons_ne_nil _ _
  case surrogates =>
    intro code member
    rw [find, after] at member
    exact List.mem_takeWhile_imp member

/-- A text that starts with a run of surrogates behind some characters has one. -/
theorem Surrogates.Leads.not_encodable {found : Surrogates} (leads : found.Leads codes) :
    ¬Encodable codes := by
  obtain ⟨front, back, whole, -⟩ := leads.split
  obtain ⟨code, member⟩ := List.exists_mem_of_ne_nil _ leads.some_surrogate
  intro encodable
  have plain := encodable code (by simp [whole, member])
  rw [leads.surrogates code member] at plain
  cases plain

/-- There is but one first run of surrogates. -/
theorem Surrogates.Leads.eq_find {found : Surrogates} (leads : found.Leads codes) :
    found = find codes := by
  obtain ⟨front, back, whole, plain, start, ending⟩ := leads.split
  obtain ⟨code, run, first⟩ := List.exists_cons_of_ne_nil leads.some_surrogate
  have surrogate : code.isSurrogate = true := leads.surrogates code (by simp [first])
  have passed : ∀ code ∈ front, (!code.isSurrogate) = true := fun code member => by
    rw [plain code member]
    rfl
  have before : (codes.takeWhile fun code => !code.isSurrogate) = front := by
    rw [whole, List.append_assoc, List.takeWhile_append_of_pos passed, first, List.cons_append,
      List.takeWhile_cons_of_neg (by simp [surrogate]), List.append_nil]
  have after : (codes.dropWhile fun code => !code.isSurrogate) = found.run ++ back := by
    rw [whole, List.append_assoc, List.dropWhile_append_of_pos passed, first, List.cons_append,
      List.dropWhile_cons_of_neg (by simp [surrogate])]
  have behind : back.takeWhile CodePoint.isSurrogate = [] := by
    cases back with
    | nil => rfl
    | cons code back => exact List.takeWhile_cons_of_neg (by simp [ending code rfl])
  rw [find, before, after, List.takeWhile_append_of_pos leads.surrogates, behind, List.append_nil,
    ← start]

end Text

end SpriteText
