import SpriteText.Proofs.Constants.Execution

/-!
# The statements of a module of constants

A module of constants is a remark, the import of what makes sprites, a definition for each sprite
and the list of the names. It is read as these statements if every name is plain and can be bound,
and nothing in the name of its source ends the remark.
-/

namespace SpriteText.Constants

open Sheet (isNamePart Identifier)
open Text (ended toList_joined)

/-! ## Statements -/

/-- The first line of the remark. -/
def title : Option String → String
  | none => "Compiled sprites."
  | some source =>
    if source.isEmpty then "Compiled sprites." else s!"Sprites compiled from {source}."

/-- What the remark says. -/
def remark (sourceName : Option String) : String :=
  "\n" ++ title sourceName ++ "\n\nGenerated by spritec. Do not edit.\n"

/-- The definition of a sprite. -/
def definitionOf (name : String) (sprite : Sprite) : Definition where
  name
  maker := ⟨"Sprite", "from_byte_array"⟩
  decoder := ⟨"bytes", "fromhex"⟩
  digits := Text.hexBytes sprite.data.toList
  width := sprite.width
  height := sprite.height
  depth := ⟨"BitsPerPixel", sprite.depth.label⟩
  tailAligned := sprite.tailAligned

/-- The definitions of sprites. -/
def definitions (entries : List (String × Sprite)) : List Statement :=
  entries.map fun entry => .define (definitionOf entry.1 entry.2)

/-- The statements of a module. -/
def moduleStatements (set : SpriteSet) (sourceName : Option String) : List Statement :=
  .remark (remark sourceName) ::
    .imports ["spritec", "bitmap"] ["BitsPerPixel", "Sprite"] ::
      (definitions set.entries ++ [.list "__all__" set.names])

/-! ## Tokens -/

/-- The tokens of the definition of a sprite. -/
def definitionTokens (name : String) (sprite : Sprite) : List Token :=
  let front : List Token :=
    [.word name, .equals, .word "Sprite", .dot, .word "from_byte_array", .openRound,
      .word "bytes", .dot, .word "fromhex", .openRound,
      .text (Text.hexBytes sprite.data.toList), .closeRound, .comma,
      .openRound, .number sprite.width, .comma, .number sprite.height, .closeRound, .comma,
      .word "BitsPerPixel", .dot, .word sprite.depth.label, .comma]
  let option : List Token :=
    if sprite.tailAligned then [] else [.word "tail_aligned", .equals, .word "False", .comma]
  front ++ option ++ [Token.closeRound]

/-- The tokens of names in quotes, with commas between them. -/
def itemTokens : List String → List Token
  | [] => []
  | [name] => [.text name]
  | name :: names => .text name :: .comma :: itemTokens names

/-- The tokens of the remark and the import. -/
def startTokens (sourceName : Option String) : List Token :=
  [.text (remark sourceName), .lineEnd, .lineEnd, .word "from", .word "spritec", .dot,
    .word "bitmap", .word "import", .word "BitsPerPixel", .comma, .word "Sprite", .lineEnd,
    .lineEnd]

/-- The tokens of the entry of a sprite. -/
def entryTokens (entry : String × Sprite) : List Token :=
  .lineEnd :: .lineEnd :: (definitionTokens entry.1 entry.2 ++ [.lineEnd])

/-- The tokens of the list of names. -/
def listTokens (names : List String) : List Token :=
  .lineEnd :: .word "__all__" :: .equals :: .openSquare ::
    (itemTokens names ++ [.closeSquare, .lineEnd])

/-- The tokens of a module. -/
def moduleTokens (set : SpriteSet) (sourceName : Option String) : List Token :=
  startTokens sourceName ++ set.entries.flatMap entryTokens ++ listTokens set.names

/-! ## Characters -/

variable {set : SpriteSet} {sourceName : Option String} {name : String} {sprite : Sprite}
  {depth : Nat} {fresh : Bool}

/-- The characters of the remark and the import. -/
def start (sourceName : Option String) : List Char :=
  ("\"\"\"".toList ++ ((remark sourceName).toList ++ "\"\"\"".toList)) ++
    "\n\nfrom spritec.bitmap import BitsPerPixel, Sprite\n\n".toList

/-- The characters of the entries and the list of the names. -/
def body (set : SpriteSet) : List Char :=
  set.entries.flatMap (fun entry => ended (moduleEntry entry.1 entry.2)) ++
    ("\n__all__ = [".toList ++ (", ".intercalate (set.names.map Text.quote)).toList ++
      "]\n".toList)

/-- The text of a module is its remark and the import, before the entries and the list. -/
theorem toList_moduleText (set : SpriteSet) (sourceName : Option String) :
    (moduleText set sourceName).toList = start sourceName ++ body set := by
  have lines : moduleLines set sourceName =
      (["\"\"\"", title sourceName, "", "Generated by spritec. Do not edit.", "\"\"\"", "",
        "from spritec.bitmap import BitsPerPixel, Sprite", ""] ++
      set.entries.flatMap (fun entry => moduleEntry entry.1 entry.2) ++
      ["", "__all__ = [" ++ ", ".intercalate (set.names.map Text.quote) ++ "]"]) ++ [""] := by
    rw [List.append_assoc _ _ [""]]
    rfl
  rw [moduleText, lines, toList_joined]
  simp [start, body, ended, remark, List.flatMap_assoc]

/-- Digits and names can stand between apostrophes. -/
theorem not_mem_of_isNamePart {characters : List Char}
    (parts : ∀ character ∈ characters, isNamePart character = true) :
    ∀ character ∈ characters, character ∉ ['\'', '\\', '\n', '\x00'] := by
  intro character member other
  have part := parts character member
  simp only [List.mem_cons, List.not_mem_nil, or_false] at other
  rcases other with rfl | rfl | rfl | rfl <;> contradiction

/-- The comment of an entry, which starts with a number sign and ends at the end of its line. -/
def entryComment (sprite : Sprite) : List Char :=
  ' ' :: ((toString sprite.width).toList ++ 'x' :: ((toString sprite.height).toList ++
    ", ".toList ++ (toString sprite.depth.bits).toList ++ " bpp, ".toList ++
      (toString sprite.byteCount).toList ++ " bytes".toList))

/-- The comment of an entry has only parts of identifiers, blanks and commas. -/
theorem not_mem_entryComment {character : Char} (other : isNamePart character = false)
    (blank : character ≠ ' ') (comma : character ≠ ',') (sprite : Sprite) :
    character ∉ entryComment sprite := by
  have number (value : Nat) : character ∉ (toString value).toList := by
    intro member
    rw [isNamePart_of_mem_toString member] at other
    contradiction
  have letter {part : Char} (named : isNamePart part = true) : character ≠ part := by
    rintro rfl
    rw [named] at other
    contradiction
  have gap : character ∉ ", ".toList := by simp [blank, comma]
  have unit : character ∉ " bpp, ".toList := by
    simp [blank, comma, @letter 'b' rfl, @letter 'p' rfl]
  have kind : character ∉ " bytes".toList := by
    simp [blank, @letter 'b' rfl, @letter 'y' rfl, @letter 't' rfl, @letter 'e' rfl,
      @letter 's' rfl]
  simp only [entryComment, List.mem_cons, List.mem_append, not_or]
  exact ⟨blank, number _, letter rfl, ⟨⟨⟨⟨number _, gap⟩, number _⟩, unit⟩, number _⟩, kind⟩

/-- The characters of an entry. -/
theorem ended_moduleEntry (name : String) (sprite : Sprite) :
    ended (moduleEntry name sprite) =
      ['\n'] ++ ('#' :: (entryComment sprite ++ '\n' :: [])) ++
        (name.toList ++ " = Sprite.from_byte_array(\n    bytes.fromhex(".toList) ++
        ('\'' :: ((Text.hexBytes sprite.data.toList).toList ++ '\'' :: [])) ++
        "),\n    (".toList ++ ((toString sprite.width).toList ++ ", ".toList) ++
        ((toString sprite.height).toList ++ "),\n    BitsPerPixel.".toList) ++
        (sprite.depth.label.toList ++ ",\n".toList) ++
        (if sprite.tailAligned then [] else "    tail_aligned=False,\n".toList) ++
        ")\n".toList := by
  have spelled (text : String) : toString text = text := rfl
  cases aligned : sprite.tailAligned <;>
    simp [ended, moduleEntry, entryComment, aligned, spelled]

/-- The entry of a sprite is read as a comment and the definition. -/
theorem reads_moduleEntry (identifier : Identifier name) (sprite : Sprite) :
    Reads {} (ended (moduleEntry name sprite)) (entryTokens (name, sprite)) {} := by
  have digits_plain : ∀ character ∈ (Text.hexBytes sprite.data.toList).toList,
      character ∉ ['\'', '\\', '\n', '\x00'] := by
    refine not_mem_of_isNamePart fun character member => ?_
    rw [Text.hexBytes, String.toList_ofList] at member
    obtain ⟨byte, -, digit⟩ := List.mem_flatMap.mp member
    exact isNamePart_of_mem_hexDigits digit
  have blank : Reads {} ['\n'] [.lineEnd] {} := rfl
  have comment : Reads {} ('#' :: (entryComment sprite ++ '\n' :: [])) [.lineEnd] {} :=
    reads_comment (not_mem_entryComment (by decide) (by decide) (by decide) sprite)
      (not_mem_entryComment (by decide) (by decide) (by decide) sprite) rfl
  have maker : Reads {} (name.toList ++ " = Sprite.from_byte_array(\n    bytes.fromhex(".toList)
      [.word name, .equals, .word "Sprite", .dot, .word "from_byte_array", .openRound,
        .word "bytes", .dot, .word "fromhex", .openRound] ⟨.between, 2, false⟩ :=
    reads_name identifier rfl rfl rfl
  have digits : Reads ⟨.between, 2, false⟩
      ('\'' :: ((Text.hexBytes sprite.data.toList).toList ++ '\'' :: []))
      [.text (Text.hexBytes sprite.data.toList)] ⟨.between, 2, false⟩ :=
    reads_quoted digits_plain 2 false
  have between : Reads ⟨.between, 2, false⟩ "),\n    (".toList [.closeRound, .comma, .openRound]
      ⟨.between, 2, false⟩ := rfl
  have width : Reads ⟨.between, 2, false⟩ ((toString sprite.width).toList ++ ", ".toList)
      [.number sprite.width, .comma] ⟨.between, 2, false⟩ := reads_number sprite.width rfl rfl rfl
  have height : Reads ⟨.between, 2, false⟩
      ((toString sprite.height).toList ++ "),\n    BitsPerPixel.".toList)
      [.number sprite.height, .closeRound, .comma, .word "BitsPerPixel", .dot]
      ⟨.between, 1, false⟩ := reads_number sprite.height rfl rfl rfl
  have label : Reads ⟨.between, 1, false⟩ (sprite.depth.label.toList ++ ",\n".toList)
      [.word sprite.depth.label, .comma] ⟨.between, 1, false⟩ := by
    cases sprite.depth <;> rfl
  have option : Reads ⟨.between, 1, false⟩
      (if sprite.tailAligned then [] else "    tail_aligned=False,\n".toList)
      (if sprite.tailAligned then [] else [.word "tail_aligned", .equals, .word "False", .comma])
      ⟨.between, 1, false⟩ := by
    cases sprite.tailAligned <;> rfl
  have closing : Reads ⟨.between, 1, false⟩ ")\n".toList [.closeRound, .lineEnd] {} := rfl
  have all := ((((((((blank.append comment).append maker).append digits).append between).append
    width).append height).append label).append option).append closing
  rw [ended_moduleEntry]
  simpa only [entryTokens, definitionTokens, List.append_assoc, List.cons_append,
    List.nil_append] using all

/-- Names in quotes, with commas between them, are read as such. -/
theorem reads_items {names : List String} (identifiers : ∀ name ∈ names, Identifier name)
    (depth : Nat) :
    Reads ⟨.between, depth, false⟩ (", ".intercalate (names.map Text.quote)).toList
      (itemTokens names) ⟨.between, depth, false⟩ := by
  induction names with
  | nil => rfl
  | cons name names ih =>
    obtain ⟨here, others⟩ := List.forall_mem_cons.mp identifiers
    have quoted : Reads ⟨.between, depth, false⟩ (Text.quote name).toList [.text name]
        ⟨.between, depth, false⟩ := by
      rw [toList_quote here.parts]
      exact reads_quoted (not_mem_of_isNamePart here.parts) depth false
    cases names with
    | nil => exact quoted
    | cons second names =>
      have comma :
          Reads ⟨.between, depth, false⟩ ", ".toList [.comma] ⟨.between, depth, false⟩ := by
        rw [Reads]
        simp [Lexer.run, Lexer.step, Lexer.begin, Sheet.isNameStart]
      have all := (quoted.append comma).append (ih others)
      rw [List.map_cons, List.map_cons, String.intercalate_cons_cons, String.toList_append,
        String.toList_append]
      exact all

/-! ## Reading a module -/

/-- What would end or escape anything in a remark is there if it is in the name of the source. -/
theorem mem_remark_iff {character : Char} (special : character ∈ ['"', '\\', '\x00']) :
    character ∈ (remark sourceName).toList ↔
      ∃ source ∈ sourceName, character ∈ source.toList := by
  obtain ⟨feed, alone, lead, stop, last⟩ : character ∉ "\n".toList ∧
      character ∉ "Compiled sprites.".toList ∧ character ∉ "Sprites compiled from ".toList ∧
      character ∉ ".".toList ∧
      character ∉ "\n\nGenerated by spritec. Do not edit.\n".toList := by
    simp only [List.mem_cons, List.not_mem_nil, or_false] at special
    rcases special with rfl | rfl | rfl <;> decide
  have inside : character ∈ (remark sourceName).toList ↔
      character ∈ (title sourceName).toList := by
    simp only [remark, String.toList_append, List.mem_append, feed, last, or_false, false_or]
  rw [inside]
  cases sourceName with
  | none =>
    have whole : title none = "Compiled sprites." := rfl
    simp only [whole, alone, Option.not_mem_none, false_and, exists_false]
  | some source =>
    by_cases empty : source.isEmpty = true
    · have nothing : source = "" := String.isEmpty_iff.mp empty
      have whole : title (some source) = "Compiled sprites." := if_pos empty
      rw [whole, nothing]
      simp only [alone, Option.mem_some_iff, exists_eq_left', String.toList_empty, List.not_mem_nil]
    · have whole : title (some source) = "Sprites compiled from " ++ source ++ "." := if_neg empty
      simp only [whole, String.toList_append, List.mem_append, lead, stop, false_or, or_false,
        Option.mem_some_iff, exists_eq_left']

/-- Nothing in the name of a source ends or escapes anything in a remark. -/
structure Unescaped (sourceName : Option String) : Prop where
  /-- It has no quotation mark. -/
  mark : ∀ source ∈ sourceName, '"' ∉ source.toList
  /-- It has no backslash. -/
  escape : ∀ source ∈ sourceName, '\\' ∉ source.toList

/-- The name of a source has no null character. -/
def NullFree (sourceName : Option String) : Prop := ∀ source ∈ sourceName, '\x00' ∉ source.toList

/-- The start of a module is read as its remark and the import. -/
theorem reads_start (unescaped : Unescaped sourceName) (null_free : NullFree sourceName) :
    Reads {} (start sourceName) (startTokens sourceName) {} := by
  have plain : ∀ character ∈ (remark sourceName).toList, character ∉ ['"', '\\', '\x00'] := by
    intro character member special
    obtain ⟨source, given, held⟩ := (mem_remark_iff special).mp member
    simp only [List.mem_cons, List.not_mem_nil, or_false] at special
    rcases special with rfl | rfl | rfl
    · exact unescaped.mark source given held
    · exact unescaped.escape source given held
    · exact null_free source given held
  have imports : Reads ⟨.between, 0, false⟩
      "\n\nfrom spritec.bitmap import BitsPerPixel, Sprite\n\n".toList
      [.lineEnd, .lineEnd, .word "from", .word "spritec", .dot, .word "bitmap", .word "import",
        .word "BitsPerPixel", .comma, .word "Sprite", .lineEnd, .lineEnd] {} := rfl
  exact (reads_block plain 0 true).append imports

/-- The entries of a module are read as their comments and definitions. -/
theorem reads_entries {entries : List (String × Sprite)}
    (identifiers : ∀ entry ∈ entries, Identifier entry.1) :
    Reads {} (entries.flatMap fun entry => ended (moduleEntry entry.1 entry.2))
      (entries.flatMap entryTokens) {} := by
  induction entries with
  | nil => rfl
  | cons entry entries ih =>
    obtain ⟨here, others⟩ := List.forall_mem_cons.mp identifiers
    exact (reads_moduleEntry here entry.2).append (ih others)

/-- The entries and the list of the names are read, whatever the module starts with. -/
theorem reads_body (identifiers : ∀ entry ∈ set.entries, Identifier entry.1) :
    Reads {} (body set) (set.entries.flatMap entryTokens ++ listTokens set.names) {} := by
  have names : ∀ name ∈ set.names, Identifier name := List.forall_mem_map.mpr identifiers
  have opened : Reads {} "\n__all__ = [".toList
      [.lineEnd, .word "__all__", .equals, .openSquare] ⟨.between, 1, false⟩ := rfl
  have closed : Reads ⟨.between, 1, false⟩ "]\n".toList [.closeSquare, .lineEnd] {} := rfl
  have list := (opened.append (reads_items names 1)).append closed
  have all := (reads_entries identifiers).append list
  simpa only [body, listTokens, List.append_assoc, List.cons_append, List.nil_append] using all

/-- A module of sprites that are named by identifiers is read. -/
theorem tokens?_moduleText (identifiers : ∀ entry ∈ set.entries, Identifier entry.1)
    (unescaped : Unescaped sourceName) (null_free : NullFree sourceName) :
    tokens? (moduleText set sourceName) = some (moduleTokens set sourceName) := by
  have all := (reads_start unescaped null_free).append (reads_body identifiers)
  rw [Reads] at all
  rw [tokens?, toList_moduleText, all]
  simp only [moduleTokens, List.append_assoc]

/-- A line feed behind the name of the first sprite breaks its definition off: what is left of it is
an indented line. -/
theorem tokens?_of_feed_ended {word : String} {entries : List (String × Sprite)}
    (first : set.entries = (name, sprite) :: entries) (identifier : Identifier word)
    (spelled : name.toList = word.toList ++ ['\n'])
    (unescaped : Unescaped sourceName) (null_free : NullFree sourceName) :
    tokens? (moduleText set sourceName) = none := by
  have blank : Reads {} ['\n'] [.lineEnd] {} := rfl
  have comment : Reads {} ('#' :: (entryComment sprite ++ '\n' :: [])) [.lineEnd] {} :=
    reads_comment (not_mem_entryComment (by decide) (by decide) (by decide) sprite)
      (not_mem_entryComment (by decide) (by decide) (by decide) sprite) rfl
  have broken_off : Reads {} (word.toList ++ ['\n']) [.word word, .lineEnd] {} :=
    reads_name identifier rfl rfl rfl
  have front := (((reads_start unescaped null_free).append blank).append comment).append broken_off
  have indented (back : List Char) : Lexer.run {} (' ' :: back) = none := rfl
  have stopped (back : List Char) := front.append_eq_none (indented back)
  rw [tokens?, toList_moduleText, body, first, List.flatMap_cons, ended_moduleEntry, spelled]
  have space : " = Sprite.from_byte_array(\n    bytes.fromhex(".toList =
      ' ' :: "= Sprite.from_byte_array(\n    bytes.fromhex(".toList := rfl
  rw [space]
  simp only [List.append_assoc, List.cons_append, List.nil_append] at stopped ⊢
  simp only [stopped]

/-- No module with a null character is read. -/
theorem tokens?_of_null {source : String} (given : source ∈ sourceName)
    (null : '\x00' ∈ source.toList) : tokens? (moduleText set sourceName) = none := by
  have inside : '\x00' ∈ (remark sourceName).toList :=
    (mem_remark_iff (by decide)).mpr ⟨source, given, null⟩
  have held : '\x00' ∈ (moduleText set sourceName).toList := by
    rw [toList_moduleText, start]
    simp only [List.mem_append, inside, true_or, or_true]
  rw [tokens?, run_eq_none_of_null held]

/-! ## Statements of tokens -/

/-- An empty line spells nothing. -/
theorem statements?_lineEnd (rest : List Token) :
    statements? (.lineEnd :: rest) = statements? rest := by
  rw [statements?, List.splitOnP_cons_eq_if_modifyHead]
  rfl

/-- A line is a statement before the others. -/
theorem statements?_line {line : List Token} (some_token : line ≠ []) (unbroken : .lineEnd ∉ line)
    (rest : List Token) :
    statements? (line ++ .lineEnd :: rest) =
      match statement? line, statements? rest with
      | some first, some others => some (first :: others)
      | _, _ => none := by
  have closed : ∀ token ∈ line, decide (token = .lineEnd) = false := by
    intro token member
    refine decide_eq_false ?_
    rintro rfl
    exact unbroken member
  rw [statements?, List.splitOnP_append_cons_of_forall_mem closed .lineEnd (by simp), statementsOf,
    if_neg some_token]
  rfl

/-- The definition of a sprite is one statement, if its name can be bound. -/
theorem statement?_definitionTokens (name : String) (sprite : Sprite) :
    statement? (definitionTokens name sprite) =
      if isBindable name then some (.define (definitionOf name sprite)) else none := by
  cases aligned : sprite.tailAligned <;>
    simp [definitionTokens, statement?, tailAligned?, definitionOf, aligned]

/-- Every name of the entries can be bound. -/
def Bindable (entries : List (String × Sprite)) : Prop :=
  ∀ entry ∈ entries, isBindable entry.1 = true

/-- The entry of a sprite is its definition, before the statements of what follows. -/
theorem statements?_entry (entry : String × Sprite) (rest : List Token) :
    statements? (entryTokens entry ++ rest) =
      if isBindable entry.1 then
        (statements? rest).map (.define (definitionOf entry.1 entry.2) :: ·)
      else none := by
  have some_token : definitionTokens entry.1 entry.2 ≠ [] := by simp [definitionTokens]
  have unbroken : .lineEnd ∉ definitionTokens entry.1 entry.2 := by
    cases aligned : entry.2.tailAligned <;> simp [definitionTokens, aligned]
  rw [entryTokens, List.cons_append, List.cons_append, statements?_lineEnd, statements?_lineEnd,
    List.append_assoc, List.singleton_append, statements?_line some_token unbroken,
    statement?_definitionTokens]
  by_cases bindable : isBindable entry.1 = true
  · rw [if_pos bindable, if_pos bindable]
    cases statements? rest <;> rfl
  · rw [if_neg bindable, if_neg bindable]

/-- Entries are the definitions of their sprites, if every name can be bound. -/
theorem statements?_entries {entries : List (String × Sprite)} (bindable : Bindable entries)
    (rest : List Token) :
    statements? (entries.flatMap entryTokens ++ rest) =
      (statements? rest).map (definitions entries ++ ·) := by
  induction entries with
  | nil =>
    rw [List.flatMap_nil, List.nil_append]
    cases statements? rest <;> rfl
  | cons entry entries ih =>
    obtain ⟨here, others⟩ := List.forall_mem_cons.mp bindable
    rw [List.flatMap_cons, List.append_assoc, statements?_entry, if_pos here, ih others,
      Option.map_map]
    rfl

/-- Entries are no statements if one of the names cannot be bound. -/
theorem statements?_entries_eq_none {entries : List (String × Sprite)}
    (unbindable : ¬Bindable entries) (rest : List Token) :
    statements? (entries.flatMap entryTokens ++ rest) = none := by
  induction entries with
  | nil => exact absurd (List.forall_mem_nil _) unbindable
  | cons entry entries ih =>
    rw [List.flatMap_cons, List.append_assoc, statements?_entry]
    split
    · rename_i here
      have others : ¬Bindable entries := by
        intro others
        exact unbindable (List.forall_mem_cons.mpr ⟨here, others⟩)
      rw [ih others, Option.map_none]
    · rfl

/-- Names in quotes up to the bracket are read as the names. -/
theorem items?_itemTokens (names : List String) :
    items? (itemTokens names ++ [.closeSquare]) = some names := by
  induction names with
  | nil => rfl
  | cons name names ih =>
    cases names with
    | nil => rfl
    | cons second names =>
      show (items? (itemTokens (second :: names) ++ [.closeSquare])).map (name :: ·) = _
      rw [ih, Option.map_some]

/-- The list of names is the last statement. -/
theorem statements?_listTokens (names : List String) :
    statements? (listTokens names) = some [.list "__all__" names] := by
  have unbroken : .lineEnd ∉ itemTokens names := by
    induction names with
    | nil => exact List.not_mem_nil
    | cons name names ih =>
      cases names with
      | nil => simp [itemTokens]
      | cons second names => simpa [itemTokens] using ih
  have line : listTokens names =
      .lineEnd :: ((.word "__all__" :: .equals :: .openSquare ::
        (itemTokens names ++ [.closeSquare])) ++ .lineEnd :: []) := by
    simp [listTokens]
  have spelled : statement? (.word "__all__" :: .equals :: .openSquare ::
      (itemTokens names ++ [.closeSquare])) = some (.list "__all__" names) := by
    show (items? (itemTokens names ++ [.closeSquare])).map (Statement.list "__all__") = _
    rw [items?_itemTokens, Option.map_some]
  rw [line, statements?_lineEnd, statements?_line (List.cons_ne_nil _ _) (by simp [unbroken]),
    spelled]
  rfl

/-- The remark and the import are statements before the others. -/
theorem statements?_start (sourceName : Option String) (rest : List Token) :
    statements? (startTokens sourceName ++ rest) =
      (statements? rest).map fun others => .remark (remark sourceName) ::
        .imports ["spritec", "bitmap"] ["BitsPerPixel", "Sprite"] :: others := by
  have importing : statement? [.word "from", .word "spritec", .dot, .word "bitmap", .word "import",
      .word "BitsPerPixel", .comma, .word "Sprite"] =
        some (.imports ["spritec", "bitmap"] ["BitsPerPixel", "Sprite"]) := by
    simp [statement?, names?]
  show statements? ([.text (remark sourceName)] ++ .lineEnd :: .lineEnd :: ([.word "from",
    .word "spritec", .dot, .word "bitmap", .word "import", .word "BitsPerPixel", .comma,
    .word "Sprite"] ++ .lineEnd :: .lineEnd :: rest)) = _
  rw [statements?_line (List.cons_ne_nil _ _) (by simp), statements?_lineEnd,
    statements?_line (List.cons_ne_nil _ _) (by simp), statements?_lineEnd, importing, statement?]
  cases statements? rest <;> rfl

/-- A module spells its statements, if every name can be bound. -/
theorem statements?_moduleTokens (bindable : Bindable set.entries) :
    statements? (moduleTokens set sourceName) = some (moduleStatements set sourceName) := by
  rw [moduleTokens, List.append_assoc, statements?_start, statements?_entries bindable,
    statements?_listTokens]
  rfl

/-- A module spells no statements if one of the names cannot be bound. -/
theorem statements?_moduleTokens_eq_none (unbindable : ¬Bindable set.entries) :
    statements? (moduleTokens set sourceName) = none := by
  rw [moduleTokens, List.append_assoc, statements?_start, statements?_entries_eq_none unbindable,
    Option.map_none]

end SpriteText.Constants
