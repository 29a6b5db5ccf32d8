import SpriteText.Proofs.Drawing.Places
import SpriteText.Proofs.Text.CodePoints
import SpriteText.Sheet.OfText

/-!
# Texts with surrogates read as characters

A text with surrogates is read as one of characters by putting a sign in place of every surrogate:
one sign for a surrogate that is told from the others, and another sign for these. Blanks, words and
lines are the same in a reading as in the text. Texts with the same readings, whatever surrogate is
told from the others, are the same.
-/

namespace SpriteText

/-- The sign for the surrogate that is told from the others. -/
def toldSign : Char := '\uFFFD'

/-- The sign for any other surrogate. -/
def otherSign : Char := '\uFFFC'

/-- A character is none of the signs that stand for surrogates. -/
def NoSign (character : Char) : Prop := character ≠ toldSign ∧ character ≠ otherSign

/-- It can be decided whether a character is none of the signs. -/
instance (character : Char) : Decidable (NoSign character) :=
  inferInstanceAs (Decidable (_ ∧ _))

namespace CodePoint

variable {code other told : CodePoint} {letter : Char}

/-- A code point read as a character, with a sign in place of a surrogate. -/
def readAs (code told : CodePoint) : Char :=
  code.char?.getD (if code = told then toldSign else otherSign)

/-- Characters are read as themselves. -/
theorem readAs_ofChar (letter : Char) (told : CodePoint) :
    (ofChar letter).readAs told = letter := by
  rw [readAs, char?_ofChar, Option.getD_some]

/-- A surrogate is read as a sign. -/
theorem readAs_of_isSurrogate (lone : code.isSurrogate = true) (told : CodePoint) :
    code.readAs told = if code = told then toldSign else otherSign := by
  rw [readAs, char?_eq_none_iff.mpr lone, Option.getD_none]

/-- A surrogate is read as no character but a sign. -/
theorem not_noSign_readAs (lone : code.isSurrogate = true) (told : CodePoint) :
    ¬NoSign (code.readAs told) := by
  rw [readAs_of_isSurrogate lone, NoSign]
  split <;> simp

/-- A character that is no sign is read only where it stands. -/
theorem readAs_eq_iff (plain : NoSign letter) :
    code.readAs told = letter ↔ code = ofChar letter := by
  constructor
  · rintro rfl
    cases lone : code.isSurrogate with
    | true => exact absurd plain (not_noSign_readAs lone told)
    | false =>
      obtain ⟨character, rfl⟩ := exists_eq_ofChar lone
      rw [readAs_ofChar]
  · rintro rfl
    exact readAs_ofChar letter told

/-- A code point is read as a sign or as a character in every reading, whichever is told. -/
theorem eq_ofChar_of_readAs (read : ∀ told, code.readAs told = letter) : code = ofChar letter := by
  cases lone : code.isSurrogate with
  | true =>
    -- The surrogate is told from the others in one reading, and is not in another.
    have first := read code
    have second := read (ofChar ' ')
    have apart : code ≠ ofChar ' ' := by
      rintro rfl
      rw [isSurrogate_ofChar] at lone
      cases lone
    rw [readAs_of_isSurrogate lone, if_pos rfl] at first
    rw [readAs_of_isSurrogate lone, if_neg apart, ← first] at second
    exact absurd second (by decide)
  | false =>
    obtain ⟨character, rfl⟩ := exists_eq_ofChar lone
    rw [← read .newline, readAs_ofChar]

/-- Code points with the same readings are the same. -/
theorem eq_of_readAs (same : ∀ told, code.readAs told = other.readAs told) : code = other := by
  cases lone : other.isSurrogate with
  | true =>
    by_contra apart
    have told := same other
    rw [readAs_of_isSurrogate lone, if_pos rfl] at told
    cases alone : code.isSurrogate with
    | true =>
      rw [readAs_of_isSurrogate alone, if_neg apart] at told
      exact absurd told (by decide)
    | false =>
      obtain ⟨character, rfl⟩ := exists_eq_ofChar alone
      exact absurd (eq_ofChar_of_readAs fun told => by
        rw [← same told, readAs_ofChar]).symm apart
  | false =>
    obtain ⟨character, rfl⟩ := exists_eq_ofChar lone
    exact eq_ofChar_of_readAs fun told => by rw [same told, readAs_ofChar]

/-- A code point is blank exactly when it is read as a blank. -/
theorem isBlank_readAs (code told : CodePoint) :
    Text.isBlank (code.readAs told) = TextSheet.isBlank code := by
  cases lone : code.isSurrogate with
  | true =>
    have sign : Text.isBlank (code.readAs told) = false := by
      rw [readAs_of_isSurrogate lone]
      split <;> decide
    have none : TextSheet.isBlank code = false := by
      simp only [isSurrogate, Bool.and_eq_true, decide_eq_true_eq] at lone
      simp [TextSheet.isBlank, Text.covers, Text.blanks]
      omega
    rw [sign, none]
  | false =>
    obtain ⟨character, rfl⟩ := exists_eq_ofChar lone
    rw [readAs_ofChar]
    rfl

end CodePoint

namespace Text

variable {codes others : List CodePoint} {told : CodePoint}

/-- A text read as characters. -/
def reading (told : CodePoint) (codes : List CodePoint) : List Char :=
  codes.map fun code => code.readAs told

/-- Characters are read as themselves. -/
theorem reading_codePoints (told : CodePoint) (text : String) :
    reading told (codePoints text) = text.toList := by
  rw [reading, codePoints, List.map_map]
  have same : (fun code : CodePoint => code.readAs told) ∘ CodePoint.ofChar = id :=
    funext fun letter => CodePoint.readAs_ofChar letter told
  rw [same, List.map_id]

/-- A text read as characters, as a whole. -/
def spelling (told : CodePoint) (codes : List CodePoint) : String :=
  String.ofList (reading told codes)

/-- The characters of a text that is read as a whole. -/
theorem toList_spelling (told : CodePoint) (codes : List CodePoint) :
    (spelling told codes).toList = reading told codes := String.toList_ofList

/-- Texts of characters are read as themselves. -/
theorem spelling_codePoints (told : CodePoint) (text : String) :
    spelling told (codePoints text) = text := by
  rw [spelling, reading_codePoints, String.ofList_toList]

/-- Texts with the same readings are the same. -/
theorem eq_of_reading (same : ∀ told, reading told codes = reading told others) :
    codes = others := by
  induction codes generalizing others with
  | nil => exact (List.map_eq_nil_iff.mp (same .newline).symm).symm
  | cons code codes ih =>
    cases others with
    | nil => cases same .newline
    | cons other others =>
      have first : code = other :=
        CodePoint.eq_of_readAs fun told => (List.cons.inj (same told)).1
      rw [first, ih fun told => (List.cons.inj (same told)).2]

/-- A text that is read in one way only holds no surrogates. -/
theorem encodable_of_reading (same : ∀ told, reading told codes = reading .newline codes) :
    Encodable codes := by
  intro code member
  have read := List.map_inj_left.mp (same code) code member
  by_contra lone
  rw [Bool.not_eq_false] at lone
  have apart : code ≠ .newline := by
    rintro rfl
    rw [CodePoint.newline, CodePoint.isSurrogate_ofChar] at lone
    cases lone
  rw [CodePoint.readAs_of_isSurrogate lone, CodePoint.readAs_of_isSurrogate lone, if_pos rfl,
    if_neg apart] at read
  exact absurd read (by decide)

/-- A text without signs is read only where it stands. -/
theorem reading_eq_iff {text : String} (plain : ∀ letter ∈ text.toList, NoSign letter) :
    reading told codes = text.toList ↔ codes = codePoints text := by
  rw [codePoints]
  generalize text.toList = letters at plain
  induction letters generalizing codes with
  | nil => simp [reading]
  | cons letter letters ih =>
    obtain ⟨first, others⟩ := List.forall_mem_cons.mp plain
    cases codes with
    | nil => simp [reading]
    | cons code codes =>
      have later : reading told codes = letters ↔ codes = letters.map .ofChar := ih others
      have now : code.readAs told = letter ↔ code = .ofChar letter := CodePoint.readAs_eq_iff first
      rw [List.map_cons, List.cons.injEq, ← later, ← now, reading, List.map_cons, List.cons.injEq,
        reading]

/-! ## Pieces -/

/-- The pieces of a text whose letters are mapped are the pieces of the text with letters mapped. -/
theorem pieces_map {First Second : Type} (image : First → Second) (isBreak : Second → Bool)
    (text : List First) :
    pieces isBreak (text.map image) =
      (pieces (fun letter => isBreak (image letter)) text).map (List.map image) := by
  induction text with
  | nil => rfl
  | cons letter text ih =>
    simp only [pieces, List.map_cons, List.foldr_cons] at ih ⊢
    rw [ih]
    generalize text.foldr _ _ = rest
    by_cases broken : isBreak (image letter) = true
    · rw [if_pos broken, if_pos broken, List.map_cons, List.map_nil]
    · rw [if_neg broken, if_neg broken]
      cases rest <;> rfl

/-- The pieces of a reading are those of the text. -/
theorem pieces_reading (told : CodePoint) (isBreak : Char → Bool) (codes : List CodePoint) :
    pieces isBreak (reading told codes) =
      (pieces (fun code => isBreak (code.readAs told)) codes).map (reading told) :=
  pieces_map _ isBreak codes

/-- A reading has the lines of the text. -/
theorem lines_reading (told : CodePoint) (codes : List CodePoint) :
    lines (reading told codes) = (TextSheet.lines codes).map (reading told) := by
  have feeds : (fun code : CodePoint => decide (code.readAs told = '\n')) =
      fun code => decide (code = .newline) :=
    funext fun code => decide_eq_decide.mpr (CodePoint.readAs_eq_iff (by decide))
  have last (parts : List (List CodePoint)) :
      (parts.map (reading told)).getLast? = some [] ↔ parts.getLast? = some [] := by
    rw [List.getLast?_map]
    cases parts.getLast? with
    | none => simp
    | some part => simp [reading]
  rw [lines, TextSheet.lines, pieces_reading, feeds]
  generalize pieces _ codes = parts
  by_cases ended : parts.getLast? = some []
  · rw [if_pos ended, if_pos ((last parts).mpr ended), List.map_dropLast]
  · rw [if_neg ended, if_neg (mt (last parts).mp ended)]

/-- A reading has the words of the text. -/
theorem words_reading (told : CodePoint) (codes : List CodePoint) :
    words (reading told codes) = (TextSheet.words codes).map (reading told) := by
  have blanks : (fun code : CodePoint => isBlank (code.readAs told)) = TextSheet.isBlank :=
    funext fun code => code.isBlank_readAs told
  rw [words, TextSheet.words, pieces_reading, blanks, List.filter_map]
  congr 1
  refine List.filter_congr fun piece _ => ?_
  cases piece <;> rfl

/-- Blanks are left off at the start of a reading as in the text. -/
theorem dropWhile_reading (told : CodePoint) (codes : List CodePoint) :
    (reading told codes).dropWhile isBlank =
      reading told (codes.dropWhile TextSheet.isBlank) := by
  rw [reading, List.dropWhile_map]
  have blanks : isBlank ∘ (fun code : CodePoint => code.readAs told) = TextSheet.isBlank :=
    funext fun code => code.isBlank_readAs told
  rw [blanks]
  rfl

/-- Blanks are left off at both ends of a reading as in the text. -/
theorem trim_reading (told : CodePoint) (codes : List CodePoint) :
    trim (reading told codes) = reading told (TextSheet.trim codes) := by
  have turned (codes : List CodePoint) :
      (reading told codes).reverse = reading told codes.reverse := List.map_reverse.symm
  rw [trim, TextSheet.trim, dropWhile_reading, turned, dropWhile_reading, turned]

/-! ## Letters at places -/

/-- A place of some lines holds one letter. -/
theorem FoundAt.unique {Letter : Type} {ending letter other : Letter}
    {content : List (List Letter)} {line column : Int}
    (found : FoundAt ending content letter line column)
    (again : FoundAt ending content other line column) : letter = other := by
  obtain ⟨row, place, first, rfl, rfl, inside, here⟩ := found
  obtain ⟨other_row, other_place, second, same_row, same_place, also_inside, also_here⟩ := again
  obtain rfl : row = other_row := by omega
  obtain rfl : place = other_place := by omega
  rw [inside, Option.some_inj] at also_inside
  rw [← also_inside, here, Option.some_inj] at also_here
  exact also_here

/-- A character that is found at a place of every reading is there in the text. -/
theorem foundAt_of_reading {content : List (List CodePoint)} {letter : Char} {line column : Int}
    (found : ∀ told, FoundAt '\n' (content.map (reading told)) letter line column) :
    FoundAt .newline content (.ofChar letter) line column := by
  obtain ⟨row, place, characters, rfl, rfl, inside, -⟩ := found .newline
  rw [List.getElem?_map, Option.map_eq_some_iff] at inside
  obtain ⟨codes, held, -⟩ := inside
  have read (told : CodePoint) :
      (codes ++ [.newline])[place]?.map (fun code => code.readAs told) = some letter := by
    obtain ⟨other_row, other_place, other, same_row, same_place, also_inside, here⟩ := found told
    obtain rfl : row = other_row := by omega
    obtain rfl : place = other_place := by omega
    rw [List.getElem?_map, held, Option.map_some, Option.some_inj] at also_inside
    rw [← also_inside] at here
    have feed : CodePoint.newline.readAs told = '\n' := CodePoint.readAs_ofChar '\n' told
    rw [← List.getElem?_map, List.map_append, List.map_singleton, feed]
    exact here
  cases here : (codes ++ [CodePoint.newline])[place]? with
  | none => cases here ▸ read .newline
  | some code =>
    have same : code = .ofChar letter := CodePoint.eq_ofChar_of_readAs fun told => by
      simpa [here] using read told
    exact ⟨row, place, codes, rfl, rfl, held, same ▸ here⟩

end Text

end SpriteText
