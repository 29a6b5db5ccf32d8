import Mathlib.Data.List.Nodup
import SpriteText.Command.Output
import SpriteText.Proofs.Constants.Tokens
import SpriteText.Proofs.Sheet.EmittedNames

/-!
# The names that a header defines

The lines of a header are read for the name that they test, for the names that they define and for
the arrays that they declare. A sprite defines three names, which are those of no other sprite
unless the names of the two differ by the case of their letters only.
-/

namespace SpriteText.Constants

open Sheet (Identifier PlainName isNamePart isNameStart)

/-! ## Declarations -/

/-- What a line of a header declares. -/
inductive Declaration where
  /-- It tests whether a name is defined. -/
  | guard (name : String)
  /-- It defines a name. -/
  | define (name : String)
  /-- It declares an array. -/
  | array (name : String)
deriving DecidableEq, Repr

/-- What stands on a line behind its start, up to a character. -/
def wordBehind? (start : List Char) (stop : Char) (line : List Char) : Option String :=
  (start.isPrefixOf? line).map fun rest =>
    String.ofList (rest.takeWhile fun letter => letter ≠ stop)

/-- What a line declares, if anything. -/
def declaration? (line : List Char) : Option Declaration :=
  match wordBehind? "#ifndef ".toList '\n' line with
  | some name => some (.guard name)
  | none =>
    match wordBehind? "#define ".toList ' ' line with
    | some name => some (.define name)
    | none => (wordBehind? "static const uint8_t ".toList '[' line).map .array

/-- What the lines of a text declare, in order. -/
def declarations (text : String) : List Declaration :=
  (Text.lines text.toList).filterMap declaration?

/-- The names that a text defines. -/
def definedNames (text : String) : List String :=
  (declarations text).filterMap fun
    | .define name => some name
    | _ => none

/-- The names of the arrays that a text declares. -/
def arrayNames (text : String) : List String :=
  (declarations text).filterMap fun
    | .array name => some name
    | _ => none

/-- The names of a header are sound. -/
structure SoundNames (guardName text : String) : Prop where
  /-- The header tests whether its guard is defined. -/
  tested : .guard guardName ∈ declarations text
  /-- The guard is an identifier. -/
  guard : Identifier guardName
  /-- Every name that is defined is an identifier. -/
  identifiers : ∀ name ∈ definedNames text, Identifier name
  /-- No name is defined twice. -/
  distinct : (definedNames text).Nodup
  /-- No array has a name that is defined. -/
  arrays : ∀ name ∈ arrayNames text, name ∉ definedNames text

/-! ## What lines declare -/

/-- What a line of a header declares, which may be broken up by line feeds. -/
def declarationsOf (line : String) : List Declaration :=
  (Text.pieces (fun character => character = '\n') line.toList).filterMap declaration?

/-- Joined lines declare what each of them declares. -/
theorem declarations_joined (lines : List String) :
    declarations ("\n".intercalate (lines ++ [""])) = lines.flatMap declarationsOf := by
  rw [declarations, Text.toList_joined, Text.lines_ended, List.filterMap_flatMap]
  rfl

variable {set : SpriteSet} {sourceName : Option String} {name guardName line : String}
  {sprite : Sprite}

/-- A line without a line feed is not broken up. -/
theorem declarationsOf_of_unbroken (unbroken : '\n' ∉ line.toList) :
    declarationsOf line = (declaration? line.toList).toList := by
  rw [declarationsOf, Text.pieces_of_unbroken (Text.forall_not_break unbroken)]
  cases declared : declaration? line.toList <;> simp [declared]

/-- A line that starts otherwise does not have the start. -/
theorem isPrefixOf?_eq_none {first : Char} {line : List Char} (other : line.head? ≠ some first)
    (rest : List Char) : (first :: rest).isPrefixOf? line = none := by
  cases prefixed : (first :: rest).isPrefixOf? line with
  | none => rfl
  | some back =>
    rw [← List.isPrefixOf?_eq_some_iff_append_eq.mp prefixed] at other
    exact absurd rfl other

/-- A line that starts otherwise has nothing behind the start. -/
theorem wordBehind?_eq_none {first : Char} {line : List Char} (other : line.head? ≠ some first)
    (rest : List Char) (stop : Char) : wordBehind? (first :: rest) stop line = none := by
  rw [wordBehind?, isPrefixOf?_eq_none other, Option.map_none]

/-- A line that starts neither with a number sign nor like the word `static` declares nothing. -/
theorem declarationsOf_eq_nil (unbroken : '\n' ∉ line.toList) (sign : line.toList.head? ≠ some '#')
    (word : line.toList.head? ≠ some 's') : declarationsOf line = [] := by
  have test : wordBehind? "#ifndef ".toList '\n' line.toList = none := wordBehind?_eq_none sign _ _
  have definition : wordBehind? "#define ".toList ' ' line.toList = none :=
    wordBehind?_eq_none sign _ _
  have declared : wordBehind? "static const uint8_t ".toList '[' line.toList = none :=
    wordBehind?_eq_none word _ _
  rw [declarationsOf_of_unbroken unbroken, declaration?, test, definition, declared]
  rfl

/-- An identifier stands on a line behind a start, and what follows it stops it. -/
structure Stands (start : String) (stop : Char) (name line : String) : Prop where
  /-- The name is an identifier. -/
  identifier : Identifier name
  /-- The line is the start, the name and what follows it. -/
  whole : ∃ rest, line.toList = start.toList ++ (name.toList ++ rest) ∧ '\n' ∉ rest ∧
    rest.takeWhile (fun letter => letter ≠ stop) = []
  /-- What stops the name is no part of an identifier. -/
  stops : isNamePart stop = false
  /-- The start is on one line. -/
  start_open : '\n' ∉ start.toList

variable {start : String} {stop : Char}

/-- A line on which an identifier stands is not broken up. -/
theorem Stands.unbroken (stands : Stands start stop name line) : '\n' ∉ line.toList := by
  obtain ⟨rest, whole, rest_open, -⟩ := stands.whole
  have name_open : '\n' ∉ name.toList := not_mem_of_parts stands.identifier.parts (by decide)
  rw [whole]
  simp [stands.start_open, name_open, rest_open]

/-- The identifier is found behind the start. -/
theorem Stands.wordBehind? (stands : Stands start stop name line) :
    wordBehind? start.toList stop line.toList = some name := by
  obtain ⟨rest, whole, -, stopped⟩ := stands.whole
  have kept : ∀ letter ∈ name.toList, decide (letter ≠ stop) = true := by
    intro letter member
    refine decide_eq_true ?_
    rintro rfl
    exact not_mem_of_parts stands.identifier.parts stands.stops member
  rw [Constants.wordBehind?, List.isPrefixOf?_eq_some_iff_append_eq.mpr whole.symm, Option.map_some,
    List.takeWhile_append_of_pos kept, stopped, List.append_nil, String.ofList_toList]

/-- A line tests whether a name is defined. -/
theorem declaration?_guard (stands : Stands "#ifndef " '\n' name line) :
    declaration? line.toList = some (.guard name) := by
  rw [declaration?, stands.wordBehind?]

/-- A line defines a name. -/
theorem declaration?_define (stands : Stands "#define " ' ' name line) :
    declaration? line.toList = some (.define name) := by
  obtain ⟨rest, whole, -⟩ := stands.whole
  have test : wordBehind? "#ifndef ".toList '\n' line.toList = none := by
    rw [whole]
    rfl
  rw [declaration?, test, stands.wordBehind?]

/-- A line declares an array. -/
theorem declaration?_array (stands : Stands "static const uint8_t " '[' name line) :
    declaration? line.toList = some (.array name) := by
  obtain ⟨rest, whole, -⟩ := stands.whole
  have test : wordBehind? "#ifndef ".toList '\n' line.toList = none := by
    rw [whole]
    rfl
  have definition : wordBehind? "#define ".toList ' ' line.toList = none := by
    rw [whole]
    rfl
  rw [declaration?, test, definition, stands.wordBehind?, Option.map_some]

/-- A line that is not broken up has its one declaration. -/
theorem Stands.declarationsOf_eq {declaration : Declaration} (stands : Stands start stop name line)
    (declared : declaration? line.toList = some declaration) :
    declarationsOf line = [declaration] := by
  rw [declarationsOf_of_unbroken stands.unbroken, declared]
  rfl

/-! ## What a header declares -/

/-- What the names that a header defines for a sprite end in. -/
def suffixes : List String := ["_WIDTH", "_HEIGHT", "_FLAGS"]

/-- The names that a header defines for a sprite. -/
def definedFor (name : String) : List String := suffixes.map (Text.uppercase name ++ ·)

/-- What the entry of a sprite declares. -/
def entryDeclarations (entry : String × Sprite) : List Declaration :=
  (definedFor entry.1).map .define ++ if entry.2.byteCount = 0 then [] else [.array entry.1]

/-- The upper case of an identifier is one, too, and so it is with further parts behind it. -/
theorem identifier_upper (identifier : Identifier name) {suffix : String}
    (parts : suffix.toList.all isNamePart = true) : Identifier (Text.uppercase name ++ suffix) := by
  constructor
  case start =>
    obtain ⟨first, rest, spelled, start⟩ := identifier.start
    have upper_start : (Text.upperChar first).head?.any isNameStart = true :=
      forall_isNamePart (P := fun character => isNameStart character = true →
        (Text.upperChar character).head?.any isNameStart = true) (by decide)
        (Sheet.isNamePart_of_isNameStart start) start
    cases head : (Text.upperChar first).head? with
    | none =>
      rw [head] at upper_start
      contradiction
    | some upper =>
      rw [head] at upper_start
      obtain ⟨more, split⟩ := List.head?_eq_some_iff.mp head
      refine ⟨upper, more ++ rest.flatMap Text.upperChar ++ suffix.toList, ?_, upper_start⟩
      simp [Text.uppercase, spelled, split]
  case parts => exact forall_isNamePart_upper identifier.parts parts

/-- A row of an array is one line. -/
theorem not_mem_arrayLine (bytes : List UInt8) : '\n' ∉ (arrayLine bytes).toList := by
  have items : '\n' ∉ (", ".intercalate
      (bytes.map fun byte => "0x" ++ Text.hex .upper 2 byte.toNat)).toList := by
    refine not_mem_intercalate ?_ (by decide)
    intro item held
    obtain ⟨byte, -, rfl⟩ := List.mem_map.mp held
    have digits : '\n' ∉ Text.hexDigits .upper 2 byte.toNat := fun member =>
      absurd (isNamePart_of_mem_hexDigits member) (by decide)
    simpa [Text.hex] using digits
  simpa [arrayLine] using items

/-- The lines between the braces of an array declare nothing. -/
theorem declarationsOf_arrayLine (bytes : List UInt8) : declarationsOf (arrayLine bytes) = [] :=
  declarationsOf_eq_nil (not_mem_arrayLine bytes) (by simp [arrayLine]) (by simp [arrayLine])

/-- A line defines the upper case of a name with a suffix, for a value on the same line. -/
theorem declarationsOf_defineUpper (identifier : Identifier name) {suffix value : String}
    (parts : suffix.toList.all isNamePart = true) (value_open : '\n' ∉ value.toList)
    (whole : line.toList =
      "#define ".toList ++ ((Text.uppercase name ++ suffix).toList ++ ' ' :: value.toList)) :
    declarationsOf line = [.define (Text.uppercase name ++ suffix)] := by
  have stands : Stands "#define " ' ' (Text.uppercase name ++ suffix) line := by
    refine ⟨identifier_upper identifier parts, ?_, by decide, by decide⟩
    exact ⟨' ' :: value.toList, whole, by simpa using value_open, rfl⟩
  exact stands.declarationsOf_eq (declaration?_define stands)

/-- What an entry has behind its definitions is an array by the name of the sprite, or nothing. -/
theorem declarations_headerArray (identifier : Identifier name) (sprite : Sprite) :
    (if sprite.byteCount = 0 then [s!"// {name}: no pixel data"]
      else [s!"static const uint8_t {name}[{sprite.byteCount}] = " ++ "\x7b"] ++
        arrayLines sprite.data.toList ++ ["\x7d;"]).flatMap declarationsOf =
      if sprite.byteCount = 0 then [] else [.array name] := by
  have spelled (text : String) : toString text = text := rfl
  split
  · have name_open : '\n' ∉ name.toList := not_mem_of_parts identifier.parts (by decide)
    rw [List.flatMap_singleton]
    exact declarationsOf_eq_nil (by simp [spelled, name_open]) (by simp [spelled])
      (by simp [spelled])
  · have stands : Stands "static const uint8_t " '[' name
        (s!"static const uint8_t {name}[{sprite.byteCount}] = " ++ "\x7b") := by
      refine ⟨identifier, ?_, by decide, by decide⟩
      exact ⟨'[' :: (toString sprite.byteCount ++ "] = " ++ "\x7b").toList, by simp [spelled],
        by simpa using not_mem_toString sprite.byteCount, rfl⟩
    have array := stands.declarationsOf_eq (declaration?_array stands)
    have rows : (arrayLines sprite.data.toList).flatMap declarationsOf = [] := by
      rw [List.flatMap_eq_nil_iff]
      intro row member
      obtain ⟨bytes, -, rfl⟩ := List.mem_map.mp member
      exact declarationsOf_arrayLine bytes
    have closing : declarationsOf "\x7d;" = [] := rfl
    rw [List.flatMap_append, List.flatMap_append, rows, List.flatMap_singleton, array,
      List.flatMap_singleton, closing]
    rfl

/-- The entry of a sprite defines three names, and declares an array if there is any byte. -/
theorem declarations_headerEntry (identifier : Identifier name) (sprite : Sprite) :
    (headerEntry name sprite).flatMap declarationsOf = entryDeclarations (name, sprite) := by
  have spelled (text : String) : toString text = text := rfl
  have blank : declarationsOf "" = [] := rfl
  have width : declarationsOf s!"#define {Text.uppercase name}_WIDTH {sprite.width}" =
      [.define (Text.uppercase name ++ "_WIDTH")] :=
    declarationsOf_defineUpper identifier (by decide) (not_mem_toString sprite.width)
      (by simp [spelled])
  have height : declarationsOf s!"#define {Text.uppercase name}_HEIGHT {sprite.height}" =
      [.define (Text.uppercase name ++ "_HEIGHT")] :=
    declarationsOf_defineUpper identifier (by decide) (not_mem_toString sprite.height)
      (by simp [spelled])
  have flags (flag bits : Nat) :
      declarationsOf s!"#define {Text.uppercase name}_FLAGS {flag}  // BLIT_{bits}BPP" =
        [.define (Text.uppercase name ++ "_FLAGS")] := by
    have value_open : '\n' ∉ (toString flag ++ "  // BLIT_" ++ toString bits ++ "BPP").toList := by
      simpa using And.intro (not_mem_toString flag) (not_mem_toString bits)
    exact declarationsOf_defineUpper identifier (by decide) value_open (by simp [spelled])
  have remark : (if sprite.tailAligned then [] else
      ["// last byte holds its pixels in the low-order bits"]).flatMap declarationsOf = [] := by
    cases sprite.tailAligned <;> rfl
  rw [headerEntry, List.flatMap_append, List.flatMap_append, remark,
    declarations_headerArray identifier sprite, List.append_nil]
  simp only [List.flatMap_cons, List.flatMap_nil, blank, width, height, flags, entryDeclarations,
    definedFor, suffixes, List.map_cons, List.map_nil, List.nil_append, List.append_nil,
    List.cons_append]

/-- What a header declares: its guard, which is tested and defined, and what its entries do. -/
def headerDeclarations (set : SpriteSet) (guardName : String) : List Declaration :=
  .guard guardName :: .define guardName :: set.entries.flatMap entryDeclarations

/-- The first line of a header is a remark, on one line if the name of the source is. -/
theorem exists_headerLines (set : SpriteSet) (guardName : String)
    (unbroken : ∀ source ∈ sourceName, '\n' ∉ source.toList) :
    ∃ title, '\n' ∉ title.toList ∧ title.toList.head? = some '/' ∧
      headerLines set sourceName guardName =
        ([title, "// by spritec", "//",
          "// Packed indexed sprites, row-major, MSB = leftmost pixel", "",
          s!"#ifndef {guardName}", s!"#define {guardName}", "", "#include <stdint.h>"] ++
        set.entries.flatMap (fun entry => headerEntry entry.1 entry.2) ++
        ["", s!"#endif // {guardName}"]) ++ [""] := by
  cases sourceName with
  | none =>
    refine ⟨"// Auto-generated", by decide, rfl, ?_⟩
    rw [List.append_assoc _ _ [""]]
    rfl
  | some source =>
    by_cases empty : source.isEmpty = true
    · refine ⟨"// Auto-generated", by decide, rfl, ?_⟩
      rw [List.append_assoc _ _ [""], headerLines, if_pos empty]
      rfl
    · refine ⟨"// Auto-generated from " ++ source, ?_, by simp, ?_⟩
      · simpa using unbroken source rfl
      · rw [List.append_assoc _ _ [""], headerLines, if_neg empty]
        rfl

/-- A header of identifiers declares its guard and what its entries do. -/
theorem declarations_headerText (guard : Identifier guardName)
    (identifiers : ∀ name ∈ set.names, Identifier name)
    (unbroken : ∀ source ∈ sourceName, '\n' ∉ source.toList) :
    declarations (headerText set sourceName guardName) = headerDeclarations set guardName := by
  have spelled (text : String) : toString text = text := rfl
  have guard_open : '\n' ∉ guardName.toList := not_mem_of_parts guard.parts (by decide)
  obtain ⟨title, title_open, slash, lines⟩ := exists_headerLines set guardName unbroken
  have remark : declarationsOf title = [] :=
    declarationsOf_eq_nil title_open (by simp [slash]) (by simp [slash])
  have testing : Stands "#ifndef " '\n' guardName s!"#ifndef {guardName}" :=
    ⟨guard, ⟨[], by simp [spelled], List.not_mem_nil, rfl⟩, by decide, by decide⟩
  have defining : Stands "#define " ' ' guardName s!"#define {guardName}" :=
    ⟨guard, ⟨[], by simp [spelled], List.not_mem_nil, rfl⟩, by decide, by decide⟩
  have tested := testing.declarationsOf_eq (declaration?_guard testing)
  have defined := defining.declarationsOf_eq (declaration?_define defining)
  have closing : declarationsOf s!"#endif // {guardName}" = [] := by
    have one_line : '\n' ∉ (s!"#endif // {guardName}").toList := by
      simp [spelled, guard_open]
    rw [declarationsOf_of_unbroken one_line]
    simp only [spelled, String.toList_append]
    rfl
  have entries : (set.entries.flatMap fun entry => headerEntry entry.1 entry.2).flatMap
      declarationsOf = set.entries.flatMap entryDeclarations := by
    rw [List.flatMap_assoc]
    refine List.flatMap_congr fun entry member => ?_
    exact declarations_headerEntry (identifiers _ (List.mem_map_of_mem member)) entry.2
  have by_line : declarationsOf "// by spritec" = [] := rfl
  have empty_remark : declarationsOf "//" = [] := rfl
  have layout : declarationsOf "// Packed indexed sprites, row-major, MSB = leftmost pixel" = [] :=
    rfl
  have blank : declarationsOf "" = [] := rfl
  have included : declarationsOf "#include <stdint.h>" = [] := rfl
  rw [headerText, lines, declarations_joined, List.flatMap_append, List.flatMap_append, entries]
  simp only [List.flatMap_cons, List.flatMap_nil, remark, by_line, empty_remark, layout, blank,
    tested, defined, included, closing, List.append_nil, List.nil_append, List.cons_append,
    headerDeclarations]

/-! ## Names that do not clash -/

/-- The names that a header of identifiers defines. -/
def headerNames (set : SpriteSet) (guardName : String) : List String :=
  guardName :: set.names.flatMap definedFor

/-- A header of identifiers defines its guard and three names for each sprite. -/
theorem definedNames_headerText (guard : Identifier guardName)
    (identifiers : ∀ name ∈ set.names, Identifier name)
    (unbroken : ∀ source ∈ sourceName, '\n' ∉ source.toList) :
    definedNames (headerText set sourceName guardName) = headerNames set guardName := by
  have entry (found : String × Sprite) : (entryDeclarations found).filterMap (fun
      | .define name => some name
      | _ => none) = definedFor found.1 := by
    by_cases none : found.2.byteCount = 0 <;> simp [entryDeclarations, definedFor, suffixes, none]
  rw [definedNames, declarations_headerText guard identifiers unbroken, headerDeclarations,
    headerNames, NameTable.names, List.flatMap_map]
  simp only [List.filterMap_cons, List.filterMap_flatMap, entry]

/-- A header of identifiers declares an array for each sprite with a byte. -/
theorem arrayNames_headerText (guard : Identifier guardName)
    (identifiers : ∀ name ∈ set.names, Identifier name)
    (unbroken : ∀ source ∈ sourceName, '\n' ∉ source.toList) :
    arrayNames (headerText set sourceName guardName) =
      (set.entries.filter fun entry => entry.2.byteCount ≠ 0).map Prod.fst := by
  have entry (found : String × Sprite) : (entryDeclarations found).filterMap (fun
      | .array name => some name
      | _ => none) = if found.2.byteCount = 0 then [] else [found.1] := by
    by_cases none : found.2.byteCount = 0 <;> simp [entryDeclarations, definedFor, suffixes, none]
  rw [arrayNames, declarations_headerText guard identifiers unbroken, headerDeclarations]
  simp only [List.filterMap_cons, List.filterMap_flatMap, entry]
  induction set.entries with
  | nil => rfl
  | cons found entries ih =>
    rw [List.flatMap_cons, ih, List.filter_cons]
    by_cases none : found.2.byteCount = 0 <;> simp [none]

/-- A name with a suffix tells both. -/
theorem eq_of_append_eq_append {front other suffix ending : String} (first : suffix ∈ suffixes)
    (second : ending ∈ suffixes) (same : front ++ suffix = other ++ ending) :
    front = other ∧ suffix = ending := by
  have told : ∀ suffix ∈ suffixes, ∀ ending ∈ suffixes,
      suffix.toList.getLast? = ending.toList.getLast? → suffix = ending := by decide
  have some_last : ∀ suffix ∈ suffixes, suffix.toList ≠ [] := by decide
  have characters := congrArg String.toList same
  rw [String.toList_append, String.toList_append] at characters
  have last := congrArg List.getLast? characters
  rw [List.getLast?_append, List.getLast?_append,
    List.getLast?_eq_some_getLast (some_last suffix first), Option.some_or,
    List.getLast?_eq_some_getLast (some_last ending second), Option.some_or,
    ← List.getLast?_eq_some_getLast, ← List.getLast?_eq_some_getLast] at last
  obtain rfl := told suffix first ending second last
  exact ⟨String.toList_inj.mp (List.append_cancel_right characters), rfl⟩

/-- Two sprites define the same name only if the upper cases of their names are the same. -/
theorem uppercase_eq_of_mem_definedFor {other found : String} (first : found ∈ definedFor name)
    (second : found ∈ definedFor other) : Text.uppercase name = Text.uppercase other := by
  obtain ⟨suffix, here, rfl⟩ := List.mem_map.mp first
  obtain ⟨ending, there, same⟩ := List.mem_map.mp second
  exact (eq_of_append_eq_append here there same.symm).1

/-- The names that are defined for a sprite are distinct. -/
theorem nodup_definedFor (name : String) : (definedFor name).Nodup := by
  refine List.Nodup.map_on ?_ (by decide : suffixes.Nodup)
  intro suffix here ending there same
  exact (eq_of_append_eq_append here there same).2

/-- The names that are defined for sprites are distinct exactly if the upper cases of their names
are. -/
theorem nodup_flatMap_definedFor (names : List String) :
    (names.flatMap definedFor).Nodup ↔ (names.map Text.uppercase).Nodup := by
  rw [List.nodup_flatMap, List.Nodup, List.pairwise_map]
  constructor
  · rintro ⟨-, apart⟩
    refine apart.imp fun {name other} disjoint same => ?_
    have first : Text.uppercase name ++ "_WIDTH" ∈ definedFor name := List.mem_cons_self
    have second : Text.uppercase name ++ "_WIDTH" ∈ definedFor other := by
      rw [same]
      exact List.mem_cons_self
    exact disjoint first second
  · intro apart
    refine ⟨fun name _ => nodup_definedFor name, apart.imp fun differ found first second => ?_⟩
    exact differ (uppercase_eq_of_mem_definedFor first second)

/-- No sprite defines a name that ends as the guard of a file does. -/
theorem not_mem_definedFor (stem name : String) : stem ++ "_H" ∉ definedFor name := by
  intro member
  obtain ⟨suffix, held, same⟩ := List.mem_map.mp member
  have backwards := congrArg (fun text => text.toList.reverse) same
  simp only [String.toList_append, List.reverse_append] at backwards
  simp only [suffixes, List.mem_cons, List.not_mem_nil, or_false] at held
  -- The letters before the last one differ, or the last ones do.
  rcases held with rfl | rfl | rfl <;> simp at backwards

/-- No sprite has a name that clashes with those that a header defines. -/
structure Unclashing (set : SpriteSet) (guardName : String) : Prop where
  /-- No two names differ by the case of their letters only. -/
  upper : (set.names.map Text.uppercase).Nodup
  /-- No array has the name of the guard. -/
  guard : ∀ entry ∈ set.entries, entry.2.byteCount ≠ 0 → entry.1 ≠ guardName
  /-- No array has a name that is defined for a sprite. -/
  arrays : ∀ entry ∈ set.entries, entry.2.byteCount ≠ 0 →
    ∀ name ∈ set.names, entry.1 ∉ definedFor name

/-- The names that a header defines are distinct exactly if the upper cases of the names of its
sprites are. -/
theorem nodup_headerNames (set : SpriteSet) (stem : String) :
    (headerNames set (stem ++ "_H")).Nodup ↔ (set.names.map Text.uppercase).Nodup := by
  have guard : stem ++ "_H" ∉ set.names.flatMap definedFor := by
    intro member
    obtain ⟨name, -, held⟩ := List.mem_flatMap.mp member
    exact not_mem_definedFor stem name held
  rw [headerNames, List.nodup_cons, nodup_flatMap_definedFor, and_iff_right guard]

/-- The names that a header of identifiers defines are identifiers. -/
theorem identifier_of_mem_headerNames {found : String} (guard : Identifier guardName)
    (identifiers : ∀ name ∈ set.names, Identifier name)
    (member : found ∈ headerNames set guardName) : Identifier found := by
  rcases List.mem_cons.mp member with rfl | later
  · exact guard
  · obtain ⟨name, named, held⟩ := List.mem_flatMap.mp later
    obtain ⟨suffix, among, rfl⟩ := List.mem_map.mp held
    have parts : ∀ suffix ∈ suffixes, suffix.toList.all isNamePart = true := by decide
    exact identifier_upper (identifiers name named) (parts suffix among)

/-- The names of a header of identifiers are sound exactly if they do not clash. -/
theorem soundNames_iff_unclashing {stem : String} (guard : Identifier (stem ++ "_H"))
    (identifiers : ∀ name ∈ set.names, Identifier name)
    (unbroken : ∀ source ∈ sourceName, '\n' ∉ source.toList) :
    SoundNames (stem ++ "_H") (headerText set sourceName (stem ++ "_H")) ↔
      Unclashing set (stem ++ "_H") := by
  have defined := definedNames_headerText guard identifiers unbroken
  have arrays := arrayNames_headerText guard identifiers unbroken
  have undefined (name : String) : name ∉ headerNames set (stem ++ "_H") ↔
      name ≠ stem ++ "_H" ∧ ∀ other ∈ set.names, name ∉ definedFor other := by
    simp [headerNames]
  have among (name : String) : name ∈ arrayNames (headerText set sourceName (stem ++ "_H")) ↔
      ∃ entry ∈ set.entries, entry.2.byteCount ≠ 0 ∧ entry.1 = name := by
    rw [arrays, List.mem_map]
    simp only [List.mem_filter, decide_eq_true_eq, and_assoc]
  constructor
  · intro sound
    have apart (entry : String × Sprite) (member : entry ∈ set.entries)
        (some_byte : entry.2.byteCount ≠ 0) := by
      have clear := sound.arrays entry.1 ((among entry.1).mpr ⟨entry, member, some_byte, rfl⟩)
      rw [defined] at clear
      exact (undefined entry.1).mp clear
    have distinct := sound.distinct
    rw [defined, nodup_headerNames] at distinct
    exact ⟨distinct, fun entry member some_byte => (apart entry member some_byte).1,
      fun entry member some_byte => (apart entry member some_byte).2⟩
  · intro unclashing
    constructor
    case tested =>
      rw [declarations_headerText guard identifiers unbroken]
      exact List.mem_cons_self
    case guard => exact guard
    case identifiers =>
      rw [defined]
      exact fun name member => identifier_of_mem_headerNames guard identifiers member
    case distinct =>
      rw [defined, nodup_headerNames]
      exact unclashing.upper
    case arrays =>
      intro name declared
      obtain ⟨entry, member, some_byte, rfl⟩ := (among name).mp declared
      rw [defined, undefined]
      exact ⟨unclashing.guard entry member some_byte, unclashing.arrays entry member some_byte⟩

/-- A definition that a line feed breaks off defines what stands before the line feed. -/
theorem define_mem_declarationsOf (identifier : Identifier name) (rest : String)
    (whole : line.toList = "#define ".toList ++ (name.toList ++ '\n' :: rest.toList)) :
    .define name ∈ declarationsOf line := by
  have stands : Stands "#define " ' ' name ("#define " ++ name) :=
    ⟨identifier, ⟨[], by simp, List.not_mem_nil, rfl⟩, by decide, by decide⟩
  have broken_off : line.toList = ("#define " ++ name).toList ++ '\n' :: rest.toList := by
    simp [whole]
  rw [declarationsOf, broken_off,
    Text.pieces_append_cons (Text.forall_not_break stands.unbroken) (by decide),
    List.filterMap_cons, declaration?_define stands]
  exact List.mem_cons_self

/-- A name with a line feed behind it breaks its definitions off, so the same name is defined more
than once. -/
theorem not_soundNames_of_feed_ended {word : String} (identifier : Identifier word)
    (feed_ended : name = word ++ "\n") (only : set.entries = [(name, sprite)])
    (unbroken : ∀ source ∈ sourceName, '\n' ∉ source.toList) :
    ¬SoundNames guardName (headerText set sourceName guardName) := by
  intro sound
  have upper : Identifier (Text.uppercase word) := by
    have whole := @identifier_upper _ identifier "" rfl
    rwa [String.append_empty] at whole
  have spelled (text : String) : toString text = text := rfl
  have feed : Text.uppercase name = Text.uppercase word ++ "\n" := by
    rw [← String.toList_inj, feed_ended]
    simp [Text.uppercase, show Text.upperChar '\n' = ['\n'] from rfl]
  have width : .define (Text.uppercase word) ∈
      declarationsOf s!"#define {Text.uppercase name}_WIDTH {sprite.width}" :=
    define_mem_declarationsOf upper ("_WIDTH " ++ toString sprite.width) (by simp [spelled, feed])
  have height : .define (Text.uppercase word) ∈
      declarationsOf s!"#define {Text.uppercase name}_HEIGHT {sprite.height}" :=
    define_mem_declarationsOf upper ("_HEIGHT " ++ toString sprite.height)
      (by simp [spelled, feed])
  have definitions : [s!"#define {Text.uppercase name}_WIDTH {sprite.width}",
      s!"#define {Text.uppercase name}_HEIGHT {sprite.height}"].Sublist
        (headerEntry name sprite) := by
    refine List.Sublist.trans ?_
      ((List.sublist_append_left _ _).trans (List.sublist_append_left _ _))
    exact .cons _ (.cons_cons _ (.cons_cons _ (.cons _ .slnil)))
  obtain ⟨title, -, -, lines⟩ := exists_headerLines set guardName unbroken
  have distinct := sound.distinct
  rw [definedNames, headerText, lines, declarations_joined, List.filterMap_flatMap,
    List.nodup_flatMap, only, List.flatMap_singleton] at distinct
  have apart := distinct.2.sublist (definitions.trans
    ((List.sublist_append_right _ _).trans (List.sublist_append_left _ _)))
  have disjoint := (List.pairwise_cons.mp apart).1 _ List.mem_cons_self
  exact disjoint (List.mem_filterMap.mpr ⟨_, width, rfl⟩) (List.mem_filterMap.mpr ⟨_, height, rfl⟩)

end SpriteText.Constants

namespace SpriteText.Command

open Constants
open Sheet (Identifier PlainName)

variable {text sourceName : String} {defaultName : Option String} {alignTail : Bool}
  {set : SpriteSet} {path : Files.Path}

/-- The header that is written for a compiled sheet has sound names exactly if its guard is an
identifier, all names of sprites are plain, and they do not clash. -/
theorem header_names_sound_iff (compiled : Sheet.compile text defaultName alignTail = .ok set)
    (arrays : Format.ofPath path = .arrays) (unbroken : '\n' ∉ sourceName.toList) (scale : Int) :
    ∃ header, (∀ library, content library path set sourceName scale = .ok (.text header)) ∧
      (SoundNames (guardName path) header ↔ Identifier (guardName path) ∧
        (∀ name ∈ set.names, PlainName name) ∧ Unclashing set (guardName path)) := by
  have source_open : ∀ source ∈ some sourceName, '\n' ∉ source.toList := by
    intro source given
    cases given
    exact unbroken
  refine ⟨headerText set (some sourceName) (guardName path),
    fun library => by rw [content, arrays], ?_⟩
  rcases Sheet.plainName_of_compile compiled with plain | ⟨word, sprite, identifier, only⟩
  · have identifiers (name : String) (member : name ∈ set.names) : Identifier name :=
      (plain name member).identifier
    constructor
    · intro sound
      exact ⟨sound.guard, plain,
        (soundNames_iff_unclashing sound.guard identifiers source_open).mp sound⟩
    · rintro ⟨guard, -, unclashing⟩
      exact (soundNames_iff_unclashing guard identifiers source_open).mpr unclashing
  · have named : word ++ "\n" ∈ set.names := by
      rw [NameTable.names, only]
      exact List.mem_cons_self
    constructor
    · intro sound
      exact absurd sound (not_soundNames_of_feed_ended identifier rfl only source_open)
    · rintro ⟨-, plain, -⟩
      exact absurd ((plain _ named).parts '\n' (by simp)) (by decide)

/-- Names that end like those that a header defines need not clash with them. -/
theorem header_names_sound_iff_suffixed_name :
    ∃ set, Sheet.compile "@sprite a\n00\n@sprite a_width\n11\n" none false = .ok set ∧
      ∃ header, (∀ library, content library (.ofString "out/my-sprites.h") set "sheet.txt" 1 =
        .ok (.text header)) ∧ SoundNames "MY_SPRITES_H" header := by
  obtain ⟨set, compiled, names⟩ : ∃ set,
      Sheet.compile "@sprite a\n00\n@sprite a_width\n11\n" none false = .ok set ∧
        set.names = ["a", "a_width"] := ⟨_, rfl, rfl⟩
  have arrays : Format.ofPath (.ofString "out/my-sprites.h") = .arrays := by decide
  have guard : guardName (.ofString "out/my-sprites.h") = "MY_SPRITES_H" := by decide
  obtain ⟨header, written, sound⟩ := @header_names_sound_iff _ "sheet.txt" _ _ _ _ compiled arrays
    (by decide) 1
  rw [guard, names] at sound
  refine ⟨set, compiled, header, written, sound.mpr ⟨?_, Sheet.forall_plainName (by decide), ?_⟩⟩
  · exact ⟨⟨'M', _, rfl, rfl⟩, List.all_eq_true.mp (by decide)⟩
  · have among (entry : String × Sprite) (member : entry ∈ set.entries) :
        entry.1 ∈ ["a", "a_width"] := names ▸ List.mem_map_of_mem member
    constructor
    case upper =>
      rw [names]
      decide
    case guard =>
      intro entry member _
      exact (by decide : ∀ name ∈ ["a", "a_width"], name ≠ "MY_SPRITES_H") _ (among entry member)
    case arrays =>
      intro entry member _
      rw [names]
      exact (by decide : ∀ name ∈ ["a", "a_width"], ∀ other ∈ ["a", "a_width"],
        name ∉ definedFor other) _ (among entry member)

/-- Two sprites whose names differ by the case of a letter define the same names. -/
theorem case_twins_redefine_names :
    ∃ set, Sheet.compile "@sprite a\n00\n@sprite A\n001122\n" none false = .ok set ∧
      ∃ header, (∀ library, content library (.ofString "sheet.h") set "sheet.txt" 1 =
        .ok (.text header)) ∧
      definedNames header = ["SHEET_H", "A_WIDTH", "A_HEIGHT", "A_FLAGS", "A_WIDTH", "A_HEIGHT",
        "A_FLAGS"] ∧ ¬SoundNames "SHEET_H" header := by
  obtain ⟨set, compiled, names⟩ : ∃ set,
      Sheet.compile "@sprite a\n00\n@sprite A\n001122\n" none false = .ok set ∧
        set.names = ["a", "A"] := ⟨_, rfl, rfl⟩
  have arrays : Format.ofPath (.ofString "sheet.h") = .arrays := by decide
  have guard : guardName (.ofString "sheet.h") = "SHEET_H" := by decide
  have identifiers : ∀ name ∈ set.names, Identifier name := by
    rw [names]
    exact fun name member => (Sheet.forall_plainName (by decide) name member).identifier
  have defined : definedNames (headerText set (some "sheet.txt") "SHEET_H") =
      ["SHEET_H", "A_WIDTH", "A_HEIGHT", "A_FLAGS", "A_WIDTH", "A_HEIGHT", "A_FLAGS"] := by
    have guarded : Identifier "SHEET_H" :=
      ⟨⟨'S', _, rfl, rfl⟩, List.all_eq_true.mp (by decide)⟩
    rw [definedNames_headerText guarded identifiers (by decide), headerNames, names]
    decide
  refine ⟨set, compiled, headerText set (some "sheet.txt") "SHEET_H",
    fun library => by rw [content, arrays, guard], defined, fun sound => ?_⟩
  have distinct := sound.distinct
  rw [defined] at distinct
  contradiction

end SpriteText.Command
