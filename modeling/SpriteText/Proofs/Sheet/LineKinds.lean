import SpriteText.Proofs.Sheet.Names
import SpriteText.Proofs.Sheet.Rows

/-!
# The lines of a sheet and their ends

A text writes lines with ends of either kind (`Writes`). What is read of it are the same lines, but
for a carriage return at the end of a line (`Kept`), which changes no blank line, no comment, no
header and no row into another kind of line.
-/

namespace SpriteText.Sheet

/-! ## Lines and their ends -/

/-- A text writes lines in order. Every line is ended by a line feed, maybe with a carriage return
before it; the end of the last line may be missing. -/
inductive Writes : List (List Char) → List Char → Prop
  /-- There are no lines. -/
  | none : Writes [] []
  /-- The last line has no end. -/
  | unended {line : List Char} (some_character : line ≠ []) : Writes [line] line
  /-- A line is ended by a line feed. -/
  | feed (line : List Char) {lines : List (List Char)} {text : List Char}
      (rest : Writes lines text) : Writes (line :: lines) (line ++ '\n' :: text)
  /-- A line is ended by a carriage return and a line feed. -/
  | returnFeed (line : List Char) {lines : List (List Char)} {text : List Char}
      (rest : Writes lines text) : Writes (line :: lines) (line ++ '\r' :: '\n' :: text)

/-- A line is read as it is written, or without a carriage return at its end. -/
def Kept (line kept : List Char) : Prop := kept = line ∨ kept = dropReturn line

/-- The lines of a text are kept. -/
theorem Writes.kept {lines : List (List Char)} {text : List Char} (writes : Writes lines text)
    (unbroken : ∀ line ∈ lines, '\n' ∉ line) :
    List.Forall₂ Kept lines ((Text.lines text).map dropReturn) := by
  induction writes with
  | none => exact .nil
  | @unended line some_character =>
    rw [Text.lines_of_unended (unbroken line List.mem_cons_self) some_character]
    exact .cons (.inr rfl) .nil
  | @feed line lines text rest ih =>
    obtain ⟨first, others⟩ := List.forall_mem_cons.mp unbroken
    rw [Text.lines_append_cons first]
    exact .cons (.inr rfl) (ih others)
  | @returnFeed line lines text rest ih =>
    obtain ⟨first, others⟩ := List.forall_mem_cons.mp unbroken
    have ended : '\n' ∉ line ++ ['\r'] := by
      simpa using first
    have dropped : dropReturn (line ++ ['\r']) = line := by
      rw [dropReturn, List.getLast?_concat, if_pos rfl, List.dropLast_concat]
    rw [List.append_cons, Text.lines_append_cons ended, List.map_cons, dropped]
    exact .cons (.inl rfl) (ih others)

/-- A line that ends in no carriage return is kept as it is. -/
theorem Kept.eq_of_not_mem {line kept : List Char} (same : Kept line kept) (none : '\r' ∉ line) :
    kept = line := by
  rcases same with rfl | rfl
  · rfl
  · rw [dropReturn, if_neg]
    intro last
    exact none (List.mem_of_getLast? last)

/-- Only the end of a line is not kept. -/
theorem Kept.append {front back kept : List Char} (same : Kept (front ++ back) kept)
    (some_character : back ≠ []) : ∃ tail, kept = front ++ tail ∧ Kept back tail := by
  rcases same with rfl | rfl
  · exact ⟨back, rfl, .inl rfl⟩
  · refine ⟨dropReturn back, ?_, .inr rfl⟩
    have last : (front ++ back).getLast? = back.getLast? := by
      rw [List.getLast?_append, List.getLast?_eq_some_getLast some_character, Option.some_or]
    rw [dropReturn, dropReturn, last]
    split
    · rw [List.dropLast_append_of_ne_nil some_character]
    · rfl

/-! ## Kinds of lines -/

/-- Characters that are blank and end no line. -/
def Blanks (characters : List Char) : Prop :=
  ∀ character ∈ characters, Text.isBlank character = true ∧ character ≠ '\n'

instance (characters : List Char) : Decidable (Blanks characters) :=
  List.decidableBAll (fun character => Text.isBlank character = true ∧ character ≠ '\n') characters

/-- A line that may stand before the first header. -/
inductive Remark : List Char → Prop
  /-- A blank line. -/
  | blank {line : List Char} (blanks : Blanks line) : Remark line
  /-- A comment. -/
  | comment {lead rest : List Char} (blanks : Blanks lead) (unbroken : '\n' ∉ rest) :
    Remark (lead ++ '#' :: rest)

/-- A name is an identifier that is not reserved. -/
structure PlainName (name : String) : Prop where
  /-- It starts like an identifier. -/
  start : ∃ first rest, name.toList = first :: rest ∧ isNameStart first = true
  /-- All its characters are parts of an identifier. -/
  parts : ∀ character ∈ name.toList, isNamePart character = true
  /-- It is not reserved. -/
  free : name ∉ reserved

/-- A word is an identifier, perhaps one that is reserved. -/
structure Identifier (word : String) : Prop where
  /-- It starts like an identifier. -/
  start : ∃ first rest, word.toList = first :: rest ∧ isNameStart first = true
  /-- All its characters are parts of an identifier. -/
  parts : ∀ character ∈ word.toList, isNamePart character = true

/-- A plain name is an identifier. -/
theorem PlainName.identifier {name : String} (plain : PlainName name) : Identifier name :=
  ⟨plain.start, plain.parts⟩

/-- A line is a header of a name, with blanks between the two words and around them. -/
def HeaderOf (name : String) (line : List Char) : Prop :=
  ∃ lead gap trail, Blanks lead ∧ Blanks gap ∧ gap ≠ [] ∧ Blanks trail ∧
    line = lead ++ (headerWord ++ (gap ++ (name.toList ++ trail)))

/-- A plain name has a character. -/
theorem PlainName.some_character {name : String} (plain : PlainName name) : name.toList ≠ [] := by
  obtain ⟨first, rest, spelled, -⟩ := plain.start
  rw [spelled]
  exact List.cons_ne_nil _ _

/-- A name that is plain names a sprite. -/
theorem PlainName.isSpriteName {name : String} (plain : PlainName name) :
    isSpriteName name = true := by
  obtain ⟨first, rest, spelled, start⟩ := plain.start
  have parts := plain.parts
  rw [spelled, List.forall_mem_cons] at parts
  have tail : isNameRest rest = true := by
    have whole := isNameRest_append parts.2 (show isNameRest [] = true from rfl)
    rwa [List.append_nil] at whole
  have free : reserved.contains name = false := by
    simpa using plain.free
  rw [Sheet.isSpriteName, spelled, free, isIdentifier, start, tail]
  rfl

/-- A text names a sprite if it is a plain name, or an identifier with a line feed behind it. -/
theorem isSpriteName_iff {name : String} : isSpriteName name = true ↔
    PlainName name ∨ ∃ first rest, name.toList = first :: rest ++ ['\n'] ∧
      isNameStart first = true ∧ ∀ character ∈ rest, isNamePart character = true := by
  constructor
  · intro named
    simp only [isSpriteName, Bool.and_eq_true, Bool.not_eq_true', List.contains_eq_mem,
      decide_eq_false_iff_not] at named
    obtain ⟨spelled, free⟩ := named
    cases characters : name.toList with
    | nil => rw [characters] at spelled; contradiction
    | cons first rest =>
      rw [characters, isIdentifier, Bool.and_eq_true] at spelled
      obtain ⟨start, rest_spelled⟩ := spelled
      obtain ⟨front, parts, rfl | rfl⟩ := exists_of_isNameRest rest_spelled
      · refine .inl ⟨⟨first, _, characters, start⟩, ?_, free⟩
        rw [characters]
        exact List.forall_mem_cons.mpr ⟨isNamePart_of_isNameStart start, parts⟩
      · exact .inr ⟨first, front, rfl, start, parts⟩
  · rintro (plain | ⟨first, rest, spelled, start, parts⟩)
    · exact plain.isSpriteName
    · have free : name ∉ reserved := by
        intro held
        have none : ∀ word ∈ reserved, '\n' ∉ word.toList := by decide
        apply none name held
        rw [spelled]
        exact List.mem_append_right _ List.mem_cons_self
      have tail := isNameRest_append parts (show isNameRest ['\n'] = true from rfl)
      have unreserved : reserved.contains name = false := by
        simpa using free
      rw [Sheet.isSpriteName, spelled, unreserved, List.cons_append, isIdentifier, start, tail]
      rfl

/-- A sprite name without a line feed is a plain name. -/
theorem plainName_iff_of_not_mem {name : String} (unbroken : '\n' ∉ name.toList) :
    isSpriteName name = true ↔ PlainName name := by
  refine isSpriteName_iff.trans (or_iff_left ?_)
  intro ⟨_, _, spelled, _⟩
  apply unbroken
  rw [spelled]
  exact List.mem_append_right _ List.mem_cons_self

/-- Sprite names without line feeds are plain names. -/
theorem forall_plainName {names : List String}
    (named : ∀ name ∈ names, '\n' ∉ name.toList ∧ isSpriteName name = true) :
    ∀ name ∈ names, PlainName name := by
  intro name member
  obtain ⟨unbroken, spelled⟩ := named name member
  exact (plainName_iff_of_not_mem unbroken).mp spelled

/-- The parts of an identifier are among the first code points. -/
theorem bounds_of_isNamePart {character : Char} (part : isNamePart character = true) :
    0x30 ≤ character.toNat ∧ character.toNat ≤ 0x7A := by
  have spelled : (decide (65 ≤ character.val ∧ character.val ≤ 90) ||
    (decide (97 ≤ character.val) && decide (character.val ≤ 122)) ||
      (decide (48 ≤ character.val) && decide (character.val ≤ 57)) ||
        decide (character = '_')) = true := part
  simp only [Bool.or_eq_true, Bool.and_eq_true, decide_eq_true_eq,
    UInt32.le_iff_toNat_le] at spelled
  change (((65 ≤ character.toNat ∧ character.toNat ≤ 90) ∨
    (97 ≤ character.toNat ∧ character.toNat ≤ 122)) ∨
      (48 ≤ character.toNat ∧ character.toNat ≤ 57)) ∨ character = '_' at spelled
  rcases spelled with ((upper | lower) | digit) | rfl
  · omega
  · omega
  · omega
  · decide

/-- No part of an identifier is blank. -/
theorem not_isBlank_of_isNamePart {character : Char} (part : isNamePart character = true) :
    Text.isBlank character = false := by
  have bounds := bounds_of_isNamePart part
  have apart : ∀ range ∈ Text.blanks, range.2 < 0x30 ∨ 0x7A < range.1 := by decide
  cases blank : Text.isBlank character with
  | false => rfl
  | true =>
    obtain ⟨range, member, low, high⟩ := Text.covers_iff.mp blank
    have outside := apart range member
    omega

variable {line found : List Char} {name : String}

/-- Blanks are kept as blanks. -/
theorem Blanks.kept (blanks : Blanks line) (same : Kept line found) : Blanks found := by
  rcases same with rfl | rfl
  · exact blanks
  · intro character member
    refine blanks character ?_
    rw [dropReturn] at member
    split at member
    · exact List.dropLast_subset line member
    · exact member

/-- Remarks are kept as remarks. -/
theorem Remark.kept (remark : Remark line) (same : Kept line found) : Remark found := by
  cases remark with
  | blank blanks => exact .blank (blanks.kept same)
  | @comment lead rest blanks unbroken =>
    obtain ⟨tail, rfl, ending⟩ := same.append (List.cons_ne_nil '#' rest)
    cases rest with
    | nil =>
      obtain rfl := ending.eq_of_not_mem (by decide)
      exact .comment blanks unbroken
    | cons first rest =>
      obtain ⟨last, rfl, later⟩ :=
        @Kept.append ['#'] (first :: rest) tail ending (List.cons_ne_nil _ _)
      refine .comment blanks fun newline => unbroken ?_
      rcases later with rfl | rfl
      · exact newline
      · rw [dropReturn] at newline
        split at newline
        · exact List.dropLast_subset _ newline
        · exact newline

/-- Headers are kept as headers of their names. -/
theorem HeaderOf.kept (header : HeaderOf name line) (plain : PlainName name)
    (same : Kept line found) : HeaderOf name found := by
  obtain ⟨lead, gap, trail, lead_blank, gap_blank, some_gap, trail_blank, rfl⟩ := header
  have some_character : name.toList ++ trail ≠ [] :=
    List.append_ne_nil_of_left_ne_nil plain.some_character _
  have whole : lead ++ (headerWord ++ (gap ++ (name.toList ++ trail))) =
      (lead ++ (headerWord ++ gap)) ++ (name.toList ++ trail) := by
    simp only [List.append_assoc]
  rw [whole] at same
  obtain ⟨tail, rfl, ending⟩ := same.append some_character
  by_cases none : trail = []
  · -- No name ends in a carriage return.
    subst none
    have no_return : '\r' ∉ name.toList ++ [] := by
      rw [List.append_nil]
      intro member
      exact absurd (plain.parts '\r' member) (by decide)
    obtain rfl := ending.eq_of_not_mem no_return
    exact ⟨lead, gap, [], lead_blank, gap_blank, some_gap, trail_blank, whole.symm⟩
  · obtain ⟨last, rfl, later⟩ := ending.append none
    refine ⟨lead, gap, last, lead_blank, gap_blank, some_gap, trail_blank.kept later, ?_⟩
    simp only [List.append_assoc]

/-- Blanks are no header. -/
theorem Blanks.header?_eq_none (blanks : Blanks line) : header? line = none := by
  rw [header?, Text.words_of_blank fun character member => (blanks character member).1]

/-- A remark is no header. -/
theorem Remark.header?_eq_none (remark : Remark line) : header? line = none := by
  cases remark with
  | blank blanks => exact blanks.header?_eq_none
  | @comment lead rest blanks unbroken =>
    cases header : header? (lead ++ '#' :: rest) with
    | none => rfl
    | some name =>
      -- The first character that is not blank is not the one of a header.
      obtain ⟨front, back, split, front_blank⟩ := exists_of_header? header
      have first := congrArg (List.dropWhile Text.isBlank) split
      rw [List.dropWhile_append_of_pos fun character member => (blanks character member).1,
        List.dropWhile_append_of_pos front_blank] at first
      have marks : '#' = '@' := (List.cons.inj first).1
      contradiction

/-- Remarks may stand before the first header. -/
theorem Remark.isComment (remark : Remark line) (number : Nat) :
    Sheet.isComment ⟨number, line⟩ = true := by
  cases remark with
  | blank blanks =>
    have none : line.dropWhile Text.isBlank = [] := by
      rw [← List.append_nil line,
        List.dropWhile_append_of_pos fun character member => (blanks character member).1]
      rfl
    rw [Sheet.isComment, Text.trim, none]
    rfl
  | @comment lead rest blanks unbroken =>
    have front : (lead ++ '#' :: rest).dropWhile Text.isBlank = '#' :: rest := by
      rw [List.dropWhile_append_of_pos fun character member => (blanks character member).1]
      exact List.dropWhile_cons_of_neg (by decide)
    have back : ∃ others, ('#' :: rest).reverse.dropWhile Text.isBlank = others ++ ['#'] := by
      rw [List.reverse_cons, List.dropWhile_append]
      split
      · exact ⟨[], List.dropWhile_cons_of_neg (by decide)⟩
      · exact ⟨_, rfl⟩
    obtain ⟨others, back⟩ := back
    rw [Sheet.isComment, Text.trim, front, back, List.reverse_append]
    rfl

/-- Blanks end no line. -/
theorem Blanks.unbroken (blanks : Blanks line) : '\n' ∉ line :=
  fun member => (blanks '\n' member).2 rfl

/-- Remarks end no line. -/
theorem Remark.unbroken (remark : Remark line) : '\n' ∉ line := by
  cases remark with
  | blank blanks => exact blanks.unbroken
  | comment blanks unbroken => simp [blanks.unbroken, unbroken]

/-- Headers end no line. -/
theorem HeaderOf.unbroken (header : HeaderOf name line) (plain : PlainName name) :
    '\n' ∉ line := by
  obtain ⟨lead, gap, trail, lead_blank, gap_blank, -, trail_blank, rfl⟩ := header
  have word : '\n' ∉ headerWord := by decide
  have spelled : '\n' ∉ name.toList := fun member => absurd (plain.parts '\n' member) (by decide)
  simp [lead_blank.unbroken, word, gap_blank.unbroken, spelled, trail_blank.unbroken]

/-- A header gives its name. -/
theorem HeaderOf.header?_eq_some (header : HeaderOf name line) (plain : PlainName name) :
    header? line = some (some name) := by
  obtain ⟨lead, gap, trail, lead_blank, gap_blank, some_gap, trail_blank, rfl⟩ := header
  have inked : ∀ character ∈ name.toList, Text.isBlank character = false :=
    fun character member => not_isBlank_of_isNamePart (plain.parts character member)
  have all_blank {characters : List Char} (blanks : Blanks characters) : AllBlank characters :=
    fun character member => (blanks character member).1
  exact header?_eq_some_iff.mpr (.named (all_blank lead_blank) (all_blank gap_blank) some_gap
    (all_blank trail_blank) plain.some_character inked)

end SpriteText.Sheet
