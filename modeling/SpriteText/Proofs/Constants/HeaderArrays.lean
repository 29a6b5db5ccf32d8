import SpriteText.Proofs.Constants.Execution
import SpriteText.Proofs.Constants.HeaderNames

/-!
# The arrays of a header

The lines of a header are read for the values of the names that they define and for the bytes of
the arrays that they declare. Every array holds the bytes of its sprite, twelve on a line, and
stands behind the three definitions of that sprite.
-/

namespace SpriteText.Constants

open Sheet (Identifier isNamePart)

/-! ## Reading a header -/

/-- What a header gives a compiler. -/
inductive Item where
  /-- A name with its value, if that is a number. -/
  | define (name : String) (value : Option Nat)
  /-- An array with its length and its rows of bytes, as far as these can be read. -/
  | array (name : String) (length : Option Nat) (rows : Option (List (List UInt8)))
deriving DecidableEq, Repr

/-- A text up to a character, and the rest with that character. -/
def cutAt (stop : Char) (text : List Char) : List Char × List Char :=
  text.span fun letter => letter ≠ stop

/-- The number that digits spell. -/
def number? (digits : List Char) : Option Nat :=
  if digits ≠ [] ∧ digits.all Char.isDigit then some (Nat.ofDigitChars 10 digits 0) else none

/-- The definition on a line behind its start: the value is the first word behind the name. -/
def definitionOn (text : List Char) : Item :=
  let (name, value) := cutAt ' ' text
  .define (String.ofList name) ((Text.words value).head?.bind number?)

/-- The length of an array that starts behind its name. -/
def length? : List Char → Option Nat
  | '[' :: rest =>
    let (digits, ending) := cutAt ']' rest
    if ending = "] = \x7b".toList then number? digits else none
  | _ => none

/-- The byte that a word of a row spells. -/
def byte? : List Char → Option UInt8
  | ['0', 'x', high, low, ','] => (hexBytes? [high, low]).bind List.head?
  | _ => none

/-- The bytes that a row spells, a word for each. -/
def row? (line : List Char) : Option (List UInt8) := (Text.words line).mapM byte?

/-- The rows up to the line that closes an array. -/
def rows? : List (List Char) → Option (List (List UInt8))
  | [] => none
  | line :: others =>
    if line = "\x7d;".toList then some []
    else match row? line, rows? others with
      | some row, some rows => some (row :: rows)
      | _, _ => none

/-- The item that a line starts, if any, given the lines after it. -/
def item? (line : List Char) (others : List (List Char)) : Option Item :=
  match "#define ".toList.isPrefixOf? line with
  | some rest => some (definitionOn rest)
  | none =>
    ("static const uint8_t ".toList.isPrefixOf? line).map fun rest =>
      let (name, behind) := cutAt '[' rest
      .array (String.ofList name) (length? behind) (rows? others)

/-- The items of lines, in order. -/
def items : List (List Char) → List Item
  | [] => []
  -- The rows of an array are gone through once more, so nothing can be hidden among them.
  | line :: others => (item? line others).toList ++ items others

/-- The definitions of a sprite, with a flag of 0 for one bit a pixel and 1 for two. -/
def spriteDefinitions (name : String) (sprite : Sprite) : List Item :=
  [.define (Text.uppercase name ++ "_WIDTH") (some sprite.width),
    .define (Text.uppercase name ++ "_HEIGHT") (some sprite.height),
    .define (Text.uppercase name ++ "_FLAGS")
      (match sprite.depth with
        | .one => some 0
        | .two => some 1)]

/-- The items of one sprite. -/
inductive Declares (name : String) (sprite : Sprite) : List Item → Prop where
  /-- A sprite without data has its definitions only. -/
  | empty (none : sprite.byteCount = 0) : Declares name sprite (spriteDefinitions name sprite)
  /-- Behind its definitions a sprite has an array of its length that holds its data, twelve bytes
  in a row. -/
  | array {rows : List (List UInt8)} (some_byte : sprite.byteCount ≠ 0)
      (wrapped : Wrapped 12 sprite.data.toList rows) :
      Declares name sprite
        (spriteDefinitions name sprite ++ [.array name (some sprite.byteCount) (some rows)])

/-! ## Reading lines -/

variable {name guardName : String} {sprite : Sprite} {line : List Char}
  {others : List (List Char)}

/-- A text is cut at the first character that stops it. -/
theorem cutAt_append_cons {stop : Char} {front : List Char} (absent : stop ∉ front)
    (rest : List Char) : cutAt stop (front ++ stop :: rest) = (front, stop :: rest) := by
  have kept : ∀ letter ∈ front, decide (letter ≠ stop) = true := by
    intro letter member
    refine decide_eq_true ?_
    rintro rfl
    exact absent member
  rw [cutAt, List.span_eq_takeWhile_dropWhile, List.takeWhile_append_of_pos kept,
    List.dropWhile_append_of_pos kept]
  simp

/-- A number is read as it is written. -/
theorem number?_toString (value : Nat) : number? (toString value).toList = some value := by
  have digits : (Nat.toDigits 10 value).all Char.isDigit = true := by
    rw [List.all_eq_true]
    exact fun digit member => Nat.isDigit_of_mem_toDigits (by decide) (by decide) member
  rw [Nat.toString_eq_repr, Nat.toList_repr, number?,
    if_pos ⟨Nat.toDigits_ne_nil, digits⟩, Nat.ofDigitChars_toDigits (by decide) (by decide)]

/-- A definition with a number behind its name is read as such. -/
theorem item?_define {value : Nat} {after : List Char} (one_word : ' ' ∉ name.toList)
    (ended : after.head?.all Text.isBlank = true)
    (whole : line =
      "#define ".toList ++ (name.toList ++ ' ' :: ((toString value).toList ++ after))) :
    item? line others = some (.define name (some value)) := by
  have starts : Text.StartsWith (toString value).toList after
      (' ' :: ((toString value).toList ++ after)) := by
    constructor
    case lead => exact ⟨[' '], List.forall_mem_singleton.mpr (by decide), rfl⟩
    case some_character =>
      rw [Nat.toString_eq_repr, Nat.toList_repr]
      exact Nat.toDigits_ne_nil
    case inked =>
      intro digit member
      exact Sheet.not_isBlank_of_isNamePart (isNamePart_of_mem_toString member)
    case ended =>
      intro next found
      rwa [found] at ended
  rw [item?, List.isPrefixOf?_eq_some_iff_append_eq.mpr whole.symm]
  simp only [definitionOn, cutAt_append_cons one_word, starts.words_eq, List.head?_cons,
    Option.bind_some, number?_toString, String.ofList_toList]

/-- The start of an array is read with its length and its rows. -/
theorem item?_array {count : Nat} (one_word : '[' ∉ name.toList)
    (whole : line = "static const uint8_t ".toList ++
      (name.toList ++ '[' :: ((toString count).toList ++ "] = \x7b".toList))) :
    item? line others = some (.array name (some count) (rows? others)) := by
  have other : "#define ".toList.isPrefixOf? line = none := by
    rw [whole]
    rfl
  have closed : ']' ∉ (toString count).toList := fun member =>
    absurd (isNamePart_of_mem_toString member) (by decide)
  have length : length? ('[' :: ((toString count).toList ++ "] = \x7b".toList)) = some count := by
    have cut : cutAt ']' ((toString count).toList ++ "] = \x7b".toList) =
        ((toString count).toList, "] = \x7b".toList) := cutAt_append_cons closed _
    simp only [length?, cut, if_true, number?_toString]
  rw [item?, other, List.isPrefixOf?_eq_some_iff_append_eq.mpr whole.symm]
  simp only [cutAt_append_cons one_word, length, Option.map_some, String.ofList_toList]

/-- A line that starts otherwise starts no item. -/
theorem item?_eq_none (sign : line.head? ≠ some '#') (word : line.head? ≠ some 's') :
    item? line others = none := by
  have definition : "#define ".toList.isPrefixOf? line = none := isPrefixOf?_eq_none sign _
  have array : "static const uint8_t ".toList.isPrefixOf? line = none := isPrefixOf?_eq_none word _
  rw [item?, definition, array]
  rfl

/-! ## Reading rows -/

/-- What commas end on a line is one word each. -/
theorem words_joined {parts : List String} (some_part : parts ≠ [])
    (inked : ∀ part ∈ parts, ∀ letter ∈ part.toList, Text.isBlank letter = false) :
    Text.words ((", ".intercalate parts).toList ++ [',']) =
      parts.map fun part => part.toList ++ [','] := by
  induction parts with
  | nil => contradiction
  | cons part parts ih =>
    obtain ⟨here, later⟩ := List.forall_mem_cons.mp inked
    have word : ∀ letter ∈ part.toList ++ [','], Text.isBlank letter = false :=
      List.forall_mem_append.mpr ⟨here, List.forall_mem_singleton.mpr (by decide)⟩
    have some_letter : part.toList ++ [','] ≠ [] := by simp
    cases parts with
    | nil =>
      rw [String.intercalate_singleton]
      exact Text.words_of_inked word some_letter
    | cons second parts =>
      have whole : (", ".intercalate (part :: second :: parts)).toList ++ [','] =
          (part.toList ++ [',']) ++
            ' ' :: ((", ".intercalate (second :: parts)).toList ++ [',']) := by
        rw [String.intercalate_cons_cons]
        simp
      rw [whole, Text.words_append_cons word some_letter (by decide),
        ih (List.cons_ne_nil _ _) later]
      rfl

/-- What spells a byte, without the comma behind it. -/
def byteLiteral (byte : UInt8) : String := "0x" ++ Text.hex .upper 2 byte.toNat

/-- A byte is read as it is spelled. -/
theorem byte?_byteLiteral (byte : UInt8) :
    byte? ((byteLiteral byte).toList ++ [',']) = some byte := by
  have digits : hexBytes? (Text.hexDigits .upper 2 byte.toNat) = some [byte] :=
    hexBytes?_hexDigits .upper byte []
  have spelled : (byteLiteral byte).toList ++ [','] =
      '0' :: 'x' :: (Text.hexDigits .upper 2 byte.toNat ++ [',']) := by
    simp [byteLiteral, Text.hex]
  rw [spelled]
  exact congrArg (fun bytes => bytes.bind List.head?) digits

/-- No blank is in the spelling of a byte. -/
theorem byteLiteral_inked (byte : UInt8) :
    ∀ letter ∈ (byteLiteral byte).toList, Text.isBlank letter = false := by
  intro letter member
  apply Sheet.not_isBlank_of_isNamePart
  have digits : (Text.hex .upper 2 byte.toNat).toList = Text.hexDigits .upper 2 byte.toNat :=
    String.toList_ofList
  rw [byteLiteral, String.toList_append, digits, List.mem_append] at member
  rcases member with mark | digit
  · exact List.all_eq_true.mp (by decide : "0x".toList.all isNamePart = true) letter mark
  · exact isNamePart_of_mem_hexDigits digit

/-- A row is read as its bytes. -/
theorem row?_arrayLine {bytes : List UInt8} (some_byte : bytes ≠ []) :
    row? (arrayLine bytes).toList = some bytes := by
  have whole : (arrayLine bytes).toList =
      "    ".toList ++ ((", ".intercalate (bytes.map byteLiteral)).toList ++ [',']) := by
    have line : arrayLine bytes = "    " ++ ", ".intercalate (bytes.map byteLiteral) ++ "," := rfl
    rw [line, String.toList_append, String.toList_append, List.append_assoc]
    rfl
  have lead : "    ".toList.all Text.isBlank = true := by decide
  have inked : ∀ part ∈ bytes.map byteLiteral, ∀ letter ∈ part.toList,
      Text.isBlank letter = false :=
    List.forall_mem_map.mpr fun byte _ => byteLiteral_inked byte
  have some_part : bytes.map byteLiteral ≠ [] := mt List.map_eq_nil_iff.mp some_byte
  have each : (byte? ∘ fun part : String => part.toList ++ [',']) ∘ byteLiteral = pure := by
    funext byte
    rw [Function.comp_apply, Function.comp_apply, byte?_byteLiteral]
    rfl
  rw [row?, whole, Text.words_append (List.all_eq_true.mp lead), words_joined some_part inked,
    List.mapM_map, List.mapM_map, each]
  exact List.mapM_pure.trans (congrArg some (List.map_id _))

/-- The rows of an array are read up to its closing line. -/
theorem rows?_arrayLines {rows : List (List UInt8)} (some_bytes : ∀ row ∈ rows, row ≠ [])
    (others : List (List Char)) :
    rows? ((rows.map arrayLine).map String.toList ++ "\x7d;".toList :: others) = some rows := by
  induction rows with
  | nil => rfl
  | cons row rows ih =>
    obtain ⟨first, later⟩ := List.forall_mem_cons.mp some_bytes
    have no_end : (arrayLine row).toList ≠ "\x7d;".toList := by
      intro same
      have heads := congrArg List.head? same
      simp [arrayLine] at heads
    rw [List.map_cons, List.map_cons, List.cons_append, rows?, if_neg no_end,
      row?_arrayLine first, ih later]

/-! ## The items of a header -/

/-- A line that starts no item adds none. -/
theorem items_cons_of_none (none : item? line others = none) :
    items (line :: others) = items others := by
  rw [items, none]
  rfl

/-- A line that starts an item has it before those of the other lines. -/
theorem items_cons_of_some {item : Item} (some_item : item? line others = some item) :
    items (line :: others) = item :: items others := by
  rw [items, some_item]
  rfl

/-- No item starts on a row. -/
theorem items_arrayLines (rows : List (List UInt8)) (others : List (List Char)) :
    items ((rows.map arrayLine).map String.toList ++ others) = items others := by
  induction rows with
  | nil => rfl
  | cons row rows ih =>
    rw [List.map_cons, List.map_cons, List.cons_append, items_cons_of_none, ih]
    exact item?_eq_none (by simp [arrayLine]) (by simp [arrayLine])

/-- The lines behind the definitions of a sprite give its array, if it has data. -/
theorem items_headerArray (identifier : Identifier name) (sprite : Sprite)
    (others : List (List Char)) :
    ∃ arrays, Declares name sprite (spriteDefinitions name sprite ++ arrays) ∧
      items ((if sprite.byteCount = 0 then [s!"// {name}: no pixel data"]
        else [s!"static const uint8_t {name}[{sprite.byteCount}] = " ++ "\x7b"] ++
          arrayLines sprite.data.toList ++ ["\x7d;"]).map String.toList ++ others) =
        arrays ++ items others := by
  have spelled (text : String) : toString text = text := rfl
  by_cases none : sprite.byteCount = 0
  · refine ⟨[], ?_, ?_⟩
    · rw [List.append_nil]
      exact .empty none
    · rw [if_pos none]
      exact items_cons_of_none (item?_eq_none (by simp [spelled]) (by simp [spelled]))
  · have wrapped : Wrapped 12 sprite.data.toList (chunks bytesPerLine sprite.data.toList) :=
      wrapped_chunks (by decide) _
    have rows := rows?_arrayLines (fun row => wrapped.ne_nil (by decide)) others
    have one_word : '[' ∉ name.toList := not_mem_of_parts identifier.parts (by decide)
    have opening (others : List (List Char)) :
        item? (s!"static const uint8_t {name}[{sprite.byteCount}] = " ++ "\x7b").toList others =
          some (.array name (some sprite.byteCount) (rows? others)) :=
      item?_array one_word (by simp [spelled])
    refine ⟨_, .array none wrapped, ?_⟩
    rw [if_neg none, List.map_append, List.map_append, List.append_assoc, List.append_assoc]
    simp only [List.map_cons, List.map_nil, List.cons_append, List.nil_append]
    rw [items_cons_of_some (opening _), arrayLines, items_arrayLines,
      items_cons_of_none (item?_eq_none (by decide) (by decide)), rows]

/-- A definition of a sprite is read with its number. -/
theorem items_defineUpper (identifier : Identifier name) {suffix : String}
    (parts : suffix.toList.all isNamePart = true) (number : Nat) (after : List Char)
    (ended : after.head?.all Text.isBlank = true)
    (whole : line = "#define ".toList ++
      ((Text.uppercase name ++ suffix).toList ++ ' ' :: ((toString number).toList ++ after)))
    (others : List (List Char)) :
    items (line :: others) =
      .define (Text.uppercase name ++ suffix) (some number) :: items others := by
  have one_word : ' ' ∉ (Text.uppercase name ++ suffix).toList :=
    not_mem_of_parts (forall_isNamePart_upper identifier.parts parts) (by decide)
  exact items_cons_of_some (item?_define one_word ended whole)

/-- The lines of an entry give what belongs to its sprite. -/
theorem items_headerEntry (identifier : Identifier name) (sprite : Sprite)
    (others : List (List Char)) :
    ∃ group, Declares name sprite group ∧
      items ((headerEntry name sprite).map String.toList ++ others) = group ++ items others := by
  have spelled (text : String) : toString text = text := rfl
  obtain ⟨arrays, declares, array⟩ := items_headerArray identifier sprite others
  have width := items_defineUpper identifier
    (by decide : "_WIDTH".toList.all isNamePart = true) sprite.width [] rfl
    (by simp [spelled] : (s!"#define {Text.uppercase name}_WIDTH {sprite.width}").toList = _)
  have height := items_defineUpper identifier
    (by decide : "_HEIGHT".toList.all isNamePart = true) sprite.height [] rfl
    (by simp [spelled] : (s!"#define {Text.uppercase name}_HEIGHT {sprite.height}").toList = _)
  have flags (flag bits : Nat) := items_defineUpper identifier
    (by decide : "_FLAGS".toList.all isNamePart = true) flag
    ("  // BLIT_".toList ++ ((toString bits).toList ++ "BPP".toList)) rfl
    (by simp [spelled] :
      (s!"#define {Text.uppercase name}_FLAGS {flag}  // BLIT_{bits}BPP").toList = _)
  have remark (others : List (List Char)) : items ((if sprite.tailAligned then [] else
      ["// last byte holds its pixels in the low-order bits"]).map String.toList ++ others) =
        items others := by
    cases sprite.tailAligned with
    | true => rfl
    | false => exact items_cons_of_none (item?_eq_none (by decide) (by decide))
  have flag : (match sprite.depth with
      | .one => some 0
      | .two => some 1) = some sprite.depth.blitFlag := by
    cases sprite.depth <;> rfl
  refine ⟨_, declares, ?_⟩
  rw [headerEntry, List.map_append, List.map_append, List.append_assoc, List.append_assoc]
  rw [List.map_cons, List.cons_append, items_cons_of_none (item?_eq_none (by decide) (by decide)),
    List.map_cons, List.cons_append, width, List.map_cons, List.cons_append, height, List.map_cons,
    List.cons_append, flags, List.map_nil, List.nil_append, remark, array, spriteDefinitions, flag]
  rfl

/-- No line of an entry is broken up. -/
theorem not_mem_headerEntry (identifier : Identifier name) (sprite : Sprite) :
    ∀ line ∈ headerEntry name sprite, '\n' ∉ line.toList := by
  have spelled (text : String) : toString text = text := rfl
  have name_open : '\n' ∉ name.toList := not_mem_of_parts identifier.parts (by decide)
  have upper_open : '\n' ∉ (Text.uppercase name).toList := by
    have parts := @forall_isNamePart_upper name "" identifier.parts rfl
    rw [String.append_empty] at parts
    exact not_mem_of_parts parts (by decide)
  have numbers (number : Nat) : '\n' ∉ Nat.toDigits 10 number := by
    simpa using not_mem_toString number
  have rows : ∀ line ∈ arrayLines sprite.data.toList, '\n' ∉ line.toList :=
    List.forall_mem_map.mpr fun bytes _ => not_mem_arrayLine bytes
  rw [headerEntry, List.forall_mem_append, List.forall_mem_append]
  refine ⟨⟨?_, ?_⟩, ?_⟩
  · simp [spelled, upper_open, numbers]
  · cases sprite.tailAligned <;> simp
  · by_cases none : sprite.byteCount = 0
    · rw [if_pos none]
      simp [spelled, name_open]
    · rw [if_neg none, List.forall_mem_append, List.forall_mem_append]
      refine ⟨⟨?_, rows⟩, ?_⟩
      · simp [spelled, name_open, numbers]
      · simp

/-- The lines of entries give what belongs to each of their sprites, in order. -/
theorem items_entries {entries : List (String × Sprite)}
    (identifiers : ∀ entry ∈ entries, Identifier entry.1) (others : List (List Char)) :
    ∃ groups, List.Forall₂ (fun entry group => Declares entry.1 entry.2 group) entries groups ∧
      items ((entries.flatMap fun entry => headerEntry entry.1 entry.2).map String.toList ++
        others) = groups.flatten ++ items others := by
  induction entries with
  | nil => exact ⟨[], .nil, rfl⟩
  | cons entry entries ih =>
    obtain ⟨first, later⟩ := List.forall_mem_cons.mp identifiers
    obtain ⟨groups, declare, read⟩ := ih later
    obtain ⟨group, declares, here⟩ := items_headerEntry first entry.2
      ((entries.flatMap fun entry => headerEntry entry.1 entry.2).map String.toList ++ others)
    refine ⟨group :: groups, .cons declares declare, ?_⟩
    rw [List.flatMap_cons, List.map_append, List.append_assoc, here, read, List.flatten_cons,
      List.append_assoc]

/-- The lines before the entries give the definition of the guard. -/
theorem items_headerStart {title : String} (remark : title.toList.head? = some '/')
    (guardName : String) (others : List (List Char)) :
    items ([title, "// by spritec", "//",
      "// Packed indexed sprites, row-major, MSB = leftmost pixel", "",
      s!"#ifndef {guardName}", s!"#define {guardName}", "", "#include <stdint.h>"].map
        String.toList ++ others) = definitionOn guardName.toList :: items others := by
  have spelled (text : String) : toString text = text := rfl
  have testing (others : List (List Char)) :
      item? (s!"#ifndef {guardName}").toList others = none := by
    simp only [spelled, String.toList_append]
    rfl
  have defining (others : List (List Char)) :
      item? (s!"#define {guardName}").toList others = some (definitionOn guardName.toList) := by
    simp only [spelled, String.toList_append]
    rfl
  have titled (others : List (List Char)) : item? title.toList others = none :=
    item?_eq_none (by simp [remark]) (by simp [remark])
  have blank (others : List (List Char)) : item? "".toList others = none := rfl
  have by_line (others : List (List Char)) : item? "// by spritec".toList others = none := rfl
  have empty_remark (others : List (List Char)) : item? "//".toList others = none := rfl
  have layout (others : List (List Char)) :
      item? "// Packed indexed sprites, row-major, MSB = leftmost pixel".toList others = none := rfl
  have included (others : List (List Char)) :
      item? "#include <stdint.h>".toList others = none := rfl
  simp only [List.map_cons, List.map_nil, List.cons_append, List.nil_append, items, titled, by_line,
    empty_remark, layout, blank, testing, defining, included, Option.toList_none,
    Option.toList_some]

variable {set : SpriteSet} {sourceName : Option String}

/-- A header of identifiers gives its guard, and then for each sprite in order its definitions and
the array of its data. -/
theorem header_holds_arrays (identifiers : ∀ name ∈ set.names, Identifier name)
    (source_open : ∀ source ∈ sourceName, '\n' ∉ source.toList)
    (guard_open : '\n' ∉ guardName.toList) :
    ∃ groups, items (Text.lines (headerText set sourceName guardName).toList) =
        definitionOn guardName.toList :: groups.flatten ∧
      List.Forall₂ (fun entry group => Declares entry.1 entry.2 group) set.entries groups := by
  have spelled (text : String) : toString text = text := rfl
  have named (entry : String × Sprite) (member : entry ∈ set.entries) : Identifier entry.1 :=
    identifiers _ (List.mem_map_of_mem member)
  obtain ⟨title, title_open, slash, lines⟩ := exists_headerLines set guardName source_open
  obtain ⟨groups, declare, read⟩ := items_entries named
    ((["", s!"#endif // {guardName}"]).map String.toList)
  have entries_open : ∀ line ∈ set.entries.flatMap fun entry => headerEntry entry.1 entry.2,
      '\n' ∉ line.toList := by
    intro line member
    obtain ⟨entry, inside, held⟩ := List.mem_flatMap.mp member
    exact not_mem_headerEntry (named entry inside) entry.2 line held
  have closing : items ((["", s!"#endif // {guardName}"]).map String.toList) = [] := by
    simp only [spelled, List.map_cons, String.toList_append]
    rfl
  refine ⟨groups, ?_, declare⟩
  rw [headerText, lines, Text.toList_joined, Text.lines_ended_of_unbroken, List.map_append,
    List.map_append, List.append_assoc, items_headerStart slash, read, closing, List.append_nil]
  rw [List.forall_mem_append, List.forall_mem_append]
  refine ⟨⟨?_, entries_open⟩, ?_⟩
  · simp [spelled, title_open, guard_open]
  · simp [spelled, guard_open]

/-- Thirteen bytes need a second row, and a sprite without pixels has no array. -/
theorem header_holds_arrays_second_row :
    ∃ set : SpriteSet, set.names = ["Long_1", "none"] ∧
      ∃ rows, Wrapped 12 ((List.range 13).map UInt8.ofNat) rows ∧
        items (Text.lines (headerText set (some "a sheet.txt") "SHEET_H 5").toList) =
          [.define "SHEET_H" (some 5), .define "LONG_1_WIDTH" (some 104),
            .define "LONG_1_HEIGHT" (some 1), .define "LONG_1_FLAGS" (some 0),
            .array "Long_1" (some 13) (some rows), .define "NONE_WIDTH" (some 0),
            .define "NONE_HEIGHT" (some 0), .define "NONE_FLAGS" (some 1)] := by
  let long : Sprite :=
    ⟨104, 1, .one, ((List.range 13).map UInt8.ofNat).toArray, true, rfl, fun _ => rfl⟩
  let void : Sprite := ⟨0, 0, .two, #[], true, rfl, fun _ => rfl⟩
  let set : SpriteSet := ⟨[("Long_1", long), ("none", void)], by decide⟩
  have identifiers : ∀ name ∈ set.names, Identifier name := fun name member =>
    (@Sheet.forall_plainName ["Long_1", "none"] (by decide) name member).identifier
  obtain ⟨groups, read, declare⟩ :=
    @header_holds_arrays "SHEET_H 5" set (some "a sheet.txt") identifiers (by decide) (by decide)
  have guard : definitionOn "SHEET_H 5".toList = .define "SHEET_H" (some 5) := by decide
  have first_upper : Text.uppercase "Long_1" = "LONG_1" := by decide
  have second_upper : Text.uppercase "none" = "NONE" := by decide
  refine ⟨set, rfl, ?_⟩
  cases declare with
  | cons first rest =>
    cases rest with
    | cons second rest =>
      cases rest
      cases first with
      | empty none => contradiction
      | array _ wrapped =>
        cases second with
        | array some_byte => exact absurd rfl some_byte
        | empty _ =>
          rw [guard, spriteDefinitions, spriteDefinitions, first_upper, second_upper] at read
          exact ⟨_, wrapped, read⟩

end SpriteText.Constants
