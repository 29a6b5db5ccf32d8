import SpriteText.Constants.Header
import SpriteText.Constants.Module
import SpriteText.Proofs.Sheet.LineKinds

/-!
# Names in constants

Modules and headers spell the names of their sprites as they are. A plain name stands on one line
wherever it is spelled, and nothing that touches it there goes on with it.
-/

namespace SpriteText.Constants

open Sheet (isNamePart PlainName)

/-! ## Tokens -/

/-- A text has a line on which a word stands between two stretches that do not go on with it. -/
structure HasToken (text : String) (before word after : List Char) : Prop where
  /-- The three together are a line. -/
  line : before ++ (word ++ after) ∈ Text.lines text.toList
  /-- The word has a character. -/
  some_character : word ≠ []
  /-- All its characters are parts of an identifier. -/
  parts : ∀ character ∈ word, isNamePart character = true
  /-- What stands before the word does not end in such a part. -/
  left : ∀ last, before.getLast? = some last → isNamePart last = false
  /-- What stands behind it does not start with one. -/
  right : ∀ next, after.head? = some next → isNamePart next = false

/-- A character that is no part of an identifier is not in a word of such parts. -/
theorem not_mem_of_parts {word : List Char}
    (parts : ∀ character ∈ word, isNamePart character = true) {character : Char}
    (other : isNamePart character = false) : character ∉ word := by
  intro member
  rw [parts character member] at other
  contradiction

/-- A number is written in parts of an identifier. -/
theorem isNamePart_of_mem_toString {number : Nat} {character : Char}
    (member : character ∈ (toString number).toList) : isNamePart character = true := by
  rw [Nat.toString_eq_repr, Nat.toList_repr] at member
  have digit := Nat.isDigit_of_mem_toDigits (by decide) (by decide) member
  rw [isNamePart, Char.isAlphanum, digit, Bool.or_true, Bool.true_or]

/-- No number holds a line feed. -/
theorem not_mem_toString (number : Nat) : '\n' ∉ (toString number).toList := by
  intro member
  have part := isNamePart_of_mem_toString member
  contradiction

/-- Hexadecimal digits are parts of an identifier. -/
theorem isNamePart_of_mem_hexDigits {letters : Text.LetterCase} {width value : Nat}
    {character : Char} (member : character ∈ Text.hexDigits letters width value) :
    isNamePart character = true := by
  induction width generalizing value with
  | zero => contradiction
  | succ width ih =>
    rw [Text.hexDigits, List.mem_append, List.mem_singleton] at member
    rcases member with front | rfl
    · exact ih front
    · have small : value % 16 < 16 := Nat.mod_lt value (by decide)
      cases letters with
      | lower =>
        exact (by decide : ∀ digit < 16, isNamePart (Text.hexDigit .lower digit) = true) _ small
      | upper =>
        exact (by decide : ∀ digit < 16, isNamePart (Text.hexDigit .upper digit) = true) _ small

/-- What holds of the parts of an identifier among the first code points holds of all. -/
theorem forall_isNamePart {P : Char → Prop}
    (small : ∀ code < 0x7B, isNamePart (Char.ofNat code) = true → P (Char.ofNat code))
    {character : Char} (part : isNamePart character = true) : P character := by
  have bounds := Sheet.bounds_of_isNamePart part
  have found := small character.toNat (by omega)
  rw [Char.ofNat_toNat] at found
  exact found part

/-- The upper case of a part of an identifier is one, too. -/
theorem isNamePart_of_mem_upperChar {character : Char} (part : isNamePart character = true) :
    ∀ upper ∈ Text.upperChar character, isNamePart upper = true := by
  have all : (Text.upperChar character).all isNamePart = true :=
    forall_isNamePart (P := fun character => (Text.upperChar character).all isNamePart = true)
      (by decide) part
  exact List.all_eq_true.mp all

/-- The upper case of parts of an identifier consists of such parts, with others behind it, too. -/
theorem forall_isNamePart_upper {name suffix : String}
    (parts : ∀ character ∈ name.toList, isNamePart character = true)
    (suffix_parts : suffix.toList.all isNamePart = true) :
    ∀ character ∈ (Text.uppercase name ++ suffix).toList, isNamePart character = true := by
  rw [String.toList_append, List.forall_mem_append, Text.uppercase, String.toList_ofList]
  refine ⟨fun upper held => ?_, List.all_eq_true.mp suffix_parts⟩
  obtain ⟨character, inside, mapped⟩ := List.mem_flatMap.mp held
  exact isNamePart_of_mem_upperChar (parts character inside) upper mapped

/-- Parts of an identifier are quoted as they are. -/
theorem quoteCode_of_isNamePart {character : Char} (part : isNamePart character = true) :
    Text.quoteCode '\'' character.toNat = [character] :=
  forall_isNamePart (P := fun character => Text.quoteCode '\'' character.toNat = [character])
    (by decide) part

/-- A name of such parts is quoted as it is, between apostrophes. -/
theorem toList_quote {name : String}
    (parts : ∀ character ∈ name.toList, isNamePart character = true) :
    (Text.quote name).toList = '\'' :: name.toList ++ ['\''] := by
  have mark : Text.quoteMark (name.toList.map Char.toNat) = '\'' := by
    have none : 0x27 ∉ name.toList.map Char.toNat := by
      intro member
      obtain ⟨character, held, code⟩ := List.mem_map.mp member
      have bounds := Sheet.bounds_of_isNamePart (parts character held)
      omega
    have absent : (name.toList.map Char.toNat).contains 0x27 = false := by
      simpa using none
    rw [Text.quoteMark, absent]
    rfl
  have plain : (name.toList.map Char.toNat).flatMap (Text.quoteCode '\'') = name.toList := by
    rw [List.flatMap_map]
    have single := List.flatMap_congr fun character member =>
      quoteCode_of_isNamePart (parts character member)
    rw [single, List.flatMap_singleton']
  rw [Text.quote, Text.quoteCodes, mark, plain, String.toList_ofList]

/-- A text that others join is found in the whole, between two texts. -/
theorem exists_intercalate {separator : String} {parts : List String} {part : String}
    (member : part ∈ parts) :
    ∃ before after, separator.intercalate parts = before ++ part ++ after := by
  induction parts with
  | nil => contradiction
  | cons first parts ih =>
    cases parts with
    | nil =>
      rw [List.mem_singleton.mp member]
      exact ⟨"", "", by simp⟩
    | cons second parts =>
      rw [String.intercalate_cons_cons]
      rcases List.mem_cons.mp member with rfl | later
      · exact ⟨"", separator ++ separator.intercalate (second :: parts),
          by simp [String.append_assoc]⟩
      · obtain ⟨before, after, split⟩ := ih later
        exact ⟨first ++ separator ++ before, after, by rw [split]; simp [String.append_assoc]⟩

/-- A character of texts that are joined is in one of them, or in what joins them. -/
theorem not_mem_intercalate {separator : String} {parts : List String} {character : Char}
    (none : ∀ part ∈ parts, character ∉ part.toList) (other : character ∉ separator.toList) :
    character ∉ (separator.intercalate parts).toList := by
  induction parts with
  | nil => simp
  | cons first parts ih =>
    obtain ⟨here, later⟩ := List.forall_mem_cons.mp none
    cases parts with
    | nil => simpa using here
    | cons second parts =>
      rw [String.intercalate_cons_cons, String.toList_append, String.toList_append]
      simp only [List.mem_append, not_or]
      exact ⟨⟨here, other⟩, ih later⟩

/-! ## Entries -/

variable {set : SpriteSet} {name : String} {sprite : Sprite} {line : String}

/-- The lines of an entry are lines of the module. -/
theorem mem_moduleLines (member : (name, sprite) ∈ set.entries)
    (inside : line ∈ moduleEntry name sprite) (sourceName : Option String) :
    line ∈ moduleLines set sourceName :=
  List.mem_append_left _
    (List.mem_append_right _ (List.mem_flatMap.mpr ⟨(name, sprite), member, inside⟩))

/-- The lines of an entry are lines of the header. -/
theorem mem_headerLines (member : (name, sprite) ∈ set.entries)
    (inside : line ∈ headerEntry name sprite) (sourceName : Option String) (guardName : String) :
    line ∈ headerLines set sourceName guardName :=
  List.mem_append_left _
    (List.mem_append_right _ (List.mem_flatMap.mpr ⟨(name, sprite), member, inside⟩))

/-- A word of parts of an identifier is a token of a line that is joined with others. -/
theorem HasToken.of_mem {lines : List String} {before word after : List Char}
    (inside : line ∈ lines) (whole : line.toList = before ++ (word ++ after))
    (some_character : word ≠ []) (parts : ∀ character ∈ word, isNamePart character = true)
    (left_open : '\n' ∉ before) (right_open : '\n' ∉ after)
    (left : before.getLast?.all (fun last => !isNamePart last) = true)
    (right : after.head?.all (fun next => !isNamePart next) = true) :
    HasToken ("\n".intercalate lines) before word after := by
  have unbroken : '\n' ∉ word := not_mem_of_parts parts (by decide)
  constructor
  case line =>
    apply Text.mem_lines_intercalate inside
    · have line_open : '\n' ∉ before ++ (word ++ after) := by
        simp [left_open, unbroken, right_open]
      rw [whole, Text.pieces_of_unbroken (Text.forall_not_break line_open)]
      exact List.mem_cons_self
    · simp [some_character]
  case some_character => exact some_character
  case parts => exact parts
  case left =>
    intro last found
    rw [found] at left
    simpa using left
  case right =>
    intro next found
    rw [found] at right
    simpa using right

/-- Wherever constants spell the name of a sprite, it is a token of a line. -/
structure NameTokens (set : SpriteSet) (sourceName : Option String) (guardName : String)
    (name : String) (sprite : Sprite) : Prop where
  /-- The module assigns to the name. -/
  constant : HasToken (moduleText set sourceName) [] name.toList
    " = Sprite.from_byte_array(".toList
  /-- The module lists the name in quotes. -/
  listed : ∃ before after, HasToken (moduleText set sourceName)
    ("__all__ = [".toList ++ before ++ ['\'']) name.toList ('\'' :: after)
  /-- The header defines the width. -/
  width : HasToken (headerText set sourceName guardName) "#define ".toList
    (Text.uppercase name ++ "_WIDTH").toList (' ' :: (toString sprite.width).toList)
  /-- The header defines the height. -/
  height : HasToken (headerText set sourceName guardName) "#define ".toList
    (Text.uppercase name ++ "_HEIGHT").toList (' ' :: (toString sprite.height).toList)
  /-- The header defines the depth flag. -/
  flags : ∃ after, HasToken (headerText set sourceName guardName) "#define ".toList
    (Text.uppercase name ++ "_FLAGS").toList (' ' :: after)
  /-- The header declares the array, if there is one. -/
  array : sprite.byteCount ≠ 0 → ∃ after, HasToken (headerText set sourceName guardName)
    "static const uint8_t ".toList name.toList ('[' :: after)
  /-- The header remarks that there is none otherwise. -/
  remark : sprite.byteCount = 0 → HasToken (headerText set sourceName guardName)
    "// ".toList name.toList ": no pixel data".toList

/-- No list of plain names in quotes holds a line feed. -/
theorem not_mem_names (plain : ∀ entry ∈ set.entries, PlainName entry.1) :
    '\n' ∉ (", ".intercalate (set.names.map Text.quote)).toList := by
  refine not_mem_intercalate ?_ (by decide)
  intro quoted held
  obtain ⟨other, entered, rfl⟩ := List.mem_map.mp held
  obtain ⟨entry, inside, rfl⟩ := List.mem_map.mp entered
  have parts := (plain entry inside).parts
  rw [toList_quote parts]
  have unbroken : '\n' ∉ entry.1.toList := not_mem_of_parts parts (by decide)
  simpa using unbroken

/-- The list of names holds every plain name between apostrophes. -/
theorem exists_token_of_names (plain : ∀ entry ∈ set.entries, PlainName entry.1)
    (member : (name, sprite) ∈ set.entries) (sourceName : Option String) :
    ∃ before after, HasToken (moduleText set sourceName)
      ("__all__ = [".toList ++ before ++ ['\'']) name.toList ('\'' :: after) := by
  have named : PlainName name := plain _ member
  have held : Text.quote name ∈ set.names.map Text.quote :=
    List.mem_map_of_mem (List.mem_map_of_mem member)
  obtain ⟨before, after, split⟩ := @exists_intercalate ", " _ _ held
  have closed := not_mem_names plain
  have inside : "__all__ = [" ++ ", ".intercalate (set.names.map Text.quote) ++ "]" ∈
      moduleLines set sourceName := List.mem_append_right _ (.tail _ (.head _))
  rw [split] at inside closed
  simp only [String.toList_append, List.mem_append, not_or] at closed
  refine ⟨before.toList, after.toList ++ [']'],
    .of_mem inside ?_ named.some_character named.parts ?_ ?_ ?_ rfl⟩
  · simp [toList_quote named.parts]
  · simpa using closed.1.1
  · simpa using closed.2
  · rw [List.getLast?_concat]
    rfl

/-- A definition for a plain name has its upper case and a suffix as a token. -/
theorem HasToken.of_define (named : PlainName name) (member : (name, sprite) ∈ set.entries)
    {suffix : String} {value : List Char} (inside : line ∈ headerEntry name sprite)
    (whole : line.toList =
      "#define ".toList ++ ((Text.uppercase name ++ suffix).toList ++ ' ' :: value))
    (some_suffix : suffix.toList ≠ [])
    (suffix_parts : suffix.toList.all isNamePart = true)
    (value_open : '\n' ∉ value) (sourceName : Option String) (guardName : String) :
    HasToken (headerText set sourceName guardName) "#define ".toList
      (Text.uppercase name ++ suffix).toList (' ' :: value) := by
  refine .of_mem (mem_headerLines member inside sourceName guardName) whole ?_ ?_ (by decide)
    (by simpa using value_open) rfl rfl
  · rw [String.toList_append]
    exact List.append_ne_nil_of_right_ne_nil _ some_suffix
  · exact forall_isNamePart_upper named.parts suffix_parts

/-- Plain names are tokens wherever they are spelled. -/
theorem nameTokens_of_plain (plain : ∀ entry ∈ set.entries, PlainName entry.1)
    (member : (name, sprite) ∈ set.entries) (sourceName : Option String) (guardName : String) :
    NameTokens set sourceName guardName name sprite := by
  have named : PlainName name := plain _ member
  constructor
  case constant =>
    have inside : name ++ " = Sprite.from_byte_array(" ∈ moduleEntry name sprite :=
      List.mem_append_left _ (List.mem_append_left _ (.tail _ (.tail _ (.head _))))
    exact .of_mem (mem_moduleLines member inside sourceName) String.toList_append
      named.some_character named.parts List.not_mem_nil (by decide) rfl rfl
  case listed => exact exists_token_of_names plain member sourceName
  case width =>
    have inside : "#define " ++ Text.uppercase name ++ "_WIDTH " ++ toString sprite.width ∈
        headerEntry name sprite :=
      List.mem_append_left _ (List.mem_append_left _ (.tail _ (.head _)))
    exact .of_define named member inside (by simp) (by decide) (by decide) (not_mem_toString _)
      sourceName guardName
  case height =>
    have inside : "#define " ++ Text.uppercase name ++ "_HEIGHT " ++ toString sprite.height ∈
        headerEntry name sprite :=
      List.mem_append_left _ (List.mem_append_left _ (.tail _ (.tail _ (.head _))))
    exact .of_define named member inside (by simp) (by decide) (by decide) (not_mem_toString _)
      sourceName guardName
  case flags =>
    have inside : "#define " ++ Text.uppercase name ++ "_FLAGS " ++
        toString sprite.depth.blitFlag ++ "  // BLIT_" ++ toString sprite.depth.bits ++ "BPP" ∈
        headerEntry name sprite :=
      List.mem_append_left _ (List.mem_append_left _ (.tail _ (.tail _ (.tail _ (.head _)))))
    refine ⟨(toString sprite.depth.blitFlag ++ "  // BLIT_" ++ toString sprite.depth.bits ++
      "BPP").toList, .of_define named member inside (by simp) (by decide) (by decide) ?_
        sourceName guardName⟩
    cases sprite.depth <;> decide
  case array =>
    intro some_byte
    have inside : "static const uint8_t " ++ name ++ "[" ++ toString sprite.byteCount ++ "] = " ++
        "\x7b" ∈ headerEntry name sprite := by
      refine List.mem_append_right _ ?_
      rw [if_neg some_byte]
      exact .head _
    refine ⟨(toString sprite.byteCount ++ "] = " ++ "\x7b").toList,
      .of_mem (mem_headerLines member inside sourceName guardName) (by simp) named.some_character
        named.parts (by decide) ?_ rfl rfl⟩
    simpa using not_mem_toString sprite.byteCount
  case remark =>
    intro no_byte
    have inside : "// " ++ name ++ ": no pixel data" ∈ headerEntry name sprite := by
      refine List.mem_append_right _ ?_
      rw [if_pos no_byte]
      exact .head _
    exact .of_mem (mem_headerLines member inside sourceName guardName) (by simp)
      named.some_character named.parts (by decide) (by decide) rfl rfl

end SpriteText.Constants
