import SpriteText.Text.Blank

/-!
# Words and lines in a text

A text is taken apart where it was put together: a line behind its line feed gives the line and the
lines after it, and words between blanks give the words.
-/

namespace SpriteText.Text

/-! ## Pieces -/

/-- Pieces are what the library's splitting of lists gives. -/
theorem pieces_eq_splitOnP (isBreak : Char → Bool) (text : List Char) :
    pieces isBreak text = text.splitOnP isBreak := by
  induction text with
  | nil => rfl
  | cons character text ih =>
    rw [pieces] at ih ⊢
    rw [List.foldr_cons, ih, List.splitOnP_cons_eq_if_modifyHead]
    split
    · rfl
    · have some_piece := List.splitOnP_ne_nil isBreak text
      cases pieces : text.splitOnP isBreak with
      | nil => contradiction
      | cons piece others => rfl

variable {isBreak : Char → Bool} {piece : List Char}

/-- A text without breaks is one piece. -/
theorem pieces_of_unbroken (unbroken : ∀ character ∈ piece, isBreak character = false) :
    pieces isBreak piece = [piece] := by
  rw [pieces_eq_splitOnP]
  exact List.splitOnP_eq_singleton unbroken

/-- The first break ends the first piece. -/
theorem pieces_append_cons (unbroken : ∀ character ∈ piece, isBreak character = false)
    {character : Char} (broken : isBreak character = true) (rest : List Char) :
    pieces isBreak (piece ++ character :: rest) = piece :: pieces isBreak rest := by
  rw [pieces_eq_splitOnP, pieces_eq_splitOnP]
  exact List.splitOnP_append_cons_of_forall_mem unbroken character broken rest

/-! ## Lines -/

variable {line : List Char}

/-- A line without a line feed has no break. -/
theorem forall_not_break (unbroken : '\n' ∉ line) :
    ∀ character ∈ line, decide (character = '\n') = false := by
  intro character member
  refine decide_eq_false ?_
  rintro rfl
  exact unbroken member

/-- What stands before a line feed is broken up by itself. -/
theorem lines_append_newline (front rest : List Char) :
    lines (front ++ '\n' :: rest) =
      pieces (fun character => character = '\n') front ++ lines rest := by
  have whole : pieces (fun character => character = '\n') (front ++ '\n' :: rest) =
      pieces (fun character => character = '\n') front ++
        pieces (fun character => character = '\n') rest := by
    rw [pieces_eq_splitOnP, List.splitOnP_append_cons _ _ (by simp), pieces_eq_splitOnP,
      pieces_eq_splitOnP]
  have some_piece : pieces (fun character => character = '\n') rest ≠ [] := by
    rw [pieces_eq_splitOnP]
    exact List.splitOnP_ne_nil _ rest
  rw [lines, lines, whole, List.getLast?_append, List.getLast?_eq_some_getLast some_piece,
    Option.some_or, List.dropLast_append_of_ne_nil some_piece]
  split <;> rfl

/-- A line that is ended is the first line. -/
theorem lines_append_cons (unbroken : '\n' ∉ line) (rest : List Char) :
    lines (line ++ '\n' :: rest) = line :: lines rest := by
  rw [lines_append_newline, pieces_of_unbroken (forall_not_break unbroken)]
  rfl

/-- A last line need not be ended. -/
theorem lines_of_unended (unbroken : '\n' ∉ line) (some_character : line ≠ []) :
    lines line = [line] := by
  rw [lines, pieces_of_unbroken (forall_not_break unbroken), if_neg]
  simpa using some_character

/-- Lines with their ends are the first lines of a text. -/
theorem lines_flatMap_append {ended : List (List Char)} (unbroken : ∀ line ∈ ended, '\n' ∉ line)
    (rest : List Char) :
    lines (ended.flatMap (fun line => line ++ ['\n']) ++ rest) = ended ++ lines rest := by
  induction ended with
  | nil => rfl
  | cons line ended ih =>
    obtain ⟨first, others⟩ := List.forall_mem_cons.mp unbroken
    rw [List.flatMap_cons, List.append_assoc, List.append_assoc, List.singleton_append,
      lines_append_cons first, ih others, List.cons_append]

/-- A text is lines with their ends and the start of one more line. -/
theorem exists_ended (text : List Char) : ∃ (ended : List (List Char)) (start : List Char),
    text = ended.flatMap (fun line => line ++ ['\n']) ++ start ∧
      (∀ line ∈ ended, '\n' ∉ line) ∧ '\n' ∉ start := by
  induction text with
  | nil => exact ⟨[], [], rfl, List.forall_mem_nil _, List.not_mem_nil⟩
  | cons letter text ih =>
    obtain ⟨ended, start, rfl, unbroken, open_line⟩ := ih
    by_cases feed : letter = '\n'
    · subst feed
      exact ⟨[] :: ended, start, rfl, List.forall_mem_cons.mpr ⟨List.not_mem_nil, unbroken⟩,
        open_line⟩
    · have other : '\n' ≠ letter := fun same => feed same.symm
      cases ended with
      | nil => exact ⟨[], letter :: start, rfl, unbroken, by simp [other, open_line]⟩
      | cons line ended =>
        obtain ⟨first, others⟩ := List.forall_mem_cons.mp unbroken
        exact ⟨(letter :: line) :: ended, start, rfl,
          List.forall_mem_cons.mpr ⟨by simp [other, first], others⟩, open_line⟩

/-- No line holds a line feed. -/
theorem not_mem_of_mem_lines {text : List Char} (member : line ∈ lines text) : '\n' ∉ line := by
  obtain ⟨ended, start, rfl, unbroken, open_line⟩ := exists_ended text
  rw [lines_flatMap_append unbroken, List.mem_append] at member
  rcases member with complete | last
  · exact unbroken line complete
  · cases start with
    | nil => contradiction
    | cons letter start =>
      rw [lines_of_unended open_line (List.cons_ne_nil _ _), List.mem_singleton] at last
      exact last ▸ open_line

/-- A letter behind the start of a line is on that line, or is its end. -/
theorem exists_lines_eq_cons {start : List Char} (open_line : '\n' ∉ start) (letter : Char)
    (back : List Char) :
    ∃ content others, lines (start ++ letter :: back) = content :: others ∧
      (content ++ ['\n'])[start.length]? = some letter := by
  obtain ⟨ended, last, split, unbroken, open_last⟩ := exists_ended (letter :: back)
  cases ended with
  | nil =>
    rw [List.flatMap_nil, List.nil_append] at split
    rw [split, lines_of_unended (by simp [open_line, open_last]) (by simp [← split])]
    exact ⟨_, _, rfl, by simp [← split]⟩
  | cons line ended =>
    obtain ⟨first, -⟩ := List.forall_mem_cons.mp unbroken
    rw [List.flatMap_cons, List.append_assoc, List.append_assoc, List.singleton_append] at split
    have whole : start ++ letter :: back = (start ++ line) ++ '\n' ::
        (ended.flatMap (fun line => line ++ ['\n']) ++ last) := by
      rw [split, List.append_assoc]
    refine ⟨_, _, by rw [whole, lines_append_cons (by simp [open_line, first])], ?_⟩
    rw [List.append_assoc, List.getElem?_append_right (Nat.le_refl _), Nat.sub_self]
    cases line with
    | nil => exact congrArg some (List.cons.inj split).1.symm
    | cons other line => exact congrArg some (List.cons.inj split).1.symm

/-- A piece that is not empty is a line. -/
theorem mem_lines_of_mem_pieces {text : List Char} (some_character : line ≠ [])
    (member : line ∈ pieces (fun character => character = '\n') text) : line ∈ lines text := by
  rw [lines]
  split
  · rename_i last
    obtain ⟨front, split⟩ := List.getLast?_eq_some_iff.mp last
    rw [split, List.mem_append, List.mem_singleton] at member
    rw [split, List.dropLast_concat]
    exact member.resolve_right some_character
  · exact member

/-- The pieces of texts that line feeds join are pieces of the whole. -/
theorem mem_pieces_intercalate {parts : List (List Char)} {part : List Char}
    (member : part ∈ parts) (inside : line ∈ pieces (fun character => character = '\n') part) :
    line ∈ pieces (fun character => character = '\n') (['\n'].intercalate parts) := by
  induction parts with
  | nil => contradiction
  | cons first parts ih =>
    cases parts with
    | nil =>
      rw [List.mem_singleton.mp member] at inside
      rwa [List.intercalate_singleton]
    | cons second parts =>
      rw [List.intercalate_cons_cons, List.append_assoc, List.singleton_append,
        pieces_eq_splitOnP, List.splitOnP_append_cons _ _ (by simp), ← pieces_eq_splitOnP,
        ← pieces_eq_splitOnP, List.mem_append]
      rcases List.mem_cons.mp member with rfl | later
      · exact .inl inside
      · exact .inr (ih later)

/-- The pieces of texts that line feeds join are lines of the whole, unless they are empty. -/
theorem mem_lines_intercalate {parts : List String} {part : String} (member : part ∈ parts)
    (inside : line ∈ pieces (fun character => character = '\n') part.toList)
    (some_character : line ≠ []) : line ∈ lines ("\n".intercalate parts).toList := by
  apply mem_lines_of_mem_pieces some_character
  rw [String.toList_intercalate]
  exact mem_pieces_intercalate (List.mem_map_of_mem member) inside

/-- The characters of lines that are all ended. -/
def ended (lines : List String) : List Char := lines.flatMap fun line => line.toList ++ ['\n']

/-- Lines that are joined before an empty one are all ended. -/
theorem toList_joined (lines : List String) :
    ("\n".intercalate (lines ++ [""])).toList = ended lines := by
  induction lines with
  | nil => rfl
  | cons line lines ih =>
    obtain ⟨second, others, split⟩ := List.exists_cons_of_ne_nil
      (List.append_ne_nil_of_right_ne_nil lines (List.cons_ne_nil "" []))
    rw [List.cons_append, split, String.intercalate_cons_cons, ← split]
    simp [ended, ih]

/-- Lines that are ended are found again, and so is what they are broken up into. -/
theorem lines_ended (parts : List String) :
    lines (ended parts) =
      parts.flatMap fun part => pieces (fun character => character = '\n') part.toList := by
  induction parts with
  | nil => rfl
  | cons part parts ih =>
    have whole : ended (part :: parts) = part.toList ++ '\n' :: ended parts := by simp [ended]
    rw [whole, lines_append_newline, ih, List.flatMap_cons]

/-- Lines that are ended are found again as they are if none is broken up. -/
theorem lines_ended_of_unbroken {parts : List String}
    (unbroken : ∀ part ∈ parts, '\n' ∉ part.toList) :
    lines (ended parts) = parts.map String.toList := by
  have each : ∀ line ∈ parts.map String.toList, '\n' ∉ line := List.forall_mem_map.mpr unbroken
  have whole : ended parts =
      (parts.map String.toList).flatMap (fun line => line ++ ['\n']) ++ [] := by
    rw [List.append_nil, List.flatMap_map, ended]
  rw [whole, lines_flatMap_append each]
  exact List.append_nil _

/-! ## Words -/

variable {word : List Char}

/-- A blank before a text changes nothing of its words. -/
theorem words_cons {character : Char} (blank : isBlank character = true) (rest : List Char) :
    words (character :: rest) = words rest := by
  have first : pieces isBlank (character :: rest) = [] :: pieces isBlank rest :=
    pieces_append_cons (List.forall_mem_nil _) blank rest
  rw [words, first]
  rfl

/-- Blanks before a text change nothing of its words. -/
theorem words_append {lead : List Char} (blank : ∀ character ∈ lead, isBlank character = true)
    (rest : List Char) : words (lead ++ rest) = words rest := by
  induction lead with
  | nil => rfl
  | cons character lead ih =>
    rw [List.cons_append, words_cons (blank character List.mem_cons_self)]
    exact ih fun other member => blank other (List.mem_cons_of_mem _ member)

/-- Blanks are no words. -/
theorem words_of_blank (blank : ∀ character ∈ word, isBlank character = true) :
    words word = [] := by
  have none := words_append blank []
  rw [List.append_nil] at none
  exact none

/-- Characters that are not blank are one word. -/
theorem words_of_inked (inked : ∀ character ∈ word, isBlank character = false)
    (some_character : word ≠ []) : words word = [word] := by
  rw [words, pieces_of_unbroken inked]
  cases word with
  | nil => exact absurd rfl some_character
  | cons character word => rfl

/-- A blank ends a word. -/
theorem words_append_cons (inked : ∀ character ∈ word, isBlank character = false)
    (some_character : word ≠ []) {character : Char} (blank : isBlank character = true)
    (rest : List Char) : words (word ++ character :: rest) = word :: words rest := by
  rw [words, pieces_append_cons inked blank]
  cases word with
  | nil => exact absurd rfl some_character
  | cons first word => rfl

/-- A text starts with a word: blanks may stand before the word, and the word goes on up to a blank
or to the end. -/
structure StartsWith (word rest text : List Char) : Prop where
  /-- Only blanks stand before the word. -/
  lead : ∃ lead, (∀ character ∈ lead, isBlank character = true) ∧ text = lead ++ (word ++ rest)
  /-- The word has a character. -/
  some_character : word ≠ []
  /-- No character of the word is blank. -/
  inked : ∀ character ∈ word, isBlank character = false
  /-- What follows the word starts with a blank. -/
  ended : ∀ next, rest.head? = some next → isBlank next = true

/-- The word that a text starts with is its first, and its other words follow. -/
theorem StartsWith.words_eq {rest text : List Char} (starts : StartsWith word rest text) :
    words text = word :: words rest := by
  obtain ⟨lead, blanks, rfl⟩ := starts.lead
  rw [words_append blanks]
  cases rest with
  | nil => rw [List.append_nil, words_of_inked starts.inked starts.some_character]; rfl
  | cons next rest =>
    have blank : isBlank next = true := starts.ended next rfl
    rw [words_append_cons starts.inked starts.some_character blank, words_cons blank]

/-- A text with a character that is not blank starts with a word. -/
theorem exists_startsWith {text : List Char}
    (shown : ∃ character ∈ text, isBlank character = false) :
    ∃ word rest, StartsWith word rest text := by
  have inside : text.dropWhile isBlank ≠ [] := by
    intro none
    obtain ⟨character, member, ink⟩ := shown
    have whole : text.takeWhile isBlank ++ text.dropWhile isBlank = text :=
      List.takeWhile_append_dropWhile
    rw [none, List.append_nil] at whole
    rw [← whole] at member
    have blank := List.all_eq_true.mp List.all_takeWhile character member
    rw [ink] at blank
    contradiction
  obtain ⟨first, back, split⟩ := List.exists_cons_of_ne_nil inside
  have ink : isBlank first = false := by
    have stops := List.head?_dropWhile_not isBlank text
    rw [split] at stops
    simpa using stops
  refine ⟨(first :: back).takeWhile fun other => !isBlank other,
    (first :: back).dropWhile fun other => !isBlank other, ?_⟩
  constructor
  case lead =>
    refine ⟨text.takeWhile isBlank, List.all_eq_true.mp List.all_takeWhile, ?_⟩
    rw [List.takeWhile_append_dropWhile, ← split, List.takeWhile_append_dropWhile]
  case some_character =>
    rw [List.takeWhile_cons_of_pos (by simp [ink])]
    exact List.cons_ne_nil _ _
  case inked =>
    intro character member
    simpa using List.all_eq_true.mp List.all_takeWhile character member
  case ended =>
    intro next first_left
    have stops := List.head?_dropWhile_not (fun other => !isBlank other) (first :: back)
    rw [first_left] at stops
    simpa using stops

/-- A text has no word exactly if it is blank. -/
theorem words_eq_nil_iff {text : List Char} :
    words text = [] ↔ ∀ character ∈ text, isBlank character = true := by
  refine ⟨fun none character member => ?_, words_of_blank⟩
  cases blank : isBlank character with
  | true => rfl
  | false =>
    obtain ⟨word, rest, starts⟩ := exists_startsWith ⟨character, member, blank⟩
    rw [starts.words_eq] at none
    contradiction

/-- The first word of a text is the one that it starts with. -/
theorem words_eq_cons_iff {text : List Char} {others : List (List Char)} :
    words text = word :: others ↔ ∃ rest, StartsWith word rest text ∧ words rest = others := by
  constructor
  · intro split
    have shown : ∃ character ∈ text, isBlank character = false := by
      have some_word : words text ≠ [] := by
        rw [split]
        exact List.cons_ne_nil _ _
      simpa [words_eq_nil_iff] using some_word
    obtain ⟨first, rest, starts⟩ := exists_startsWith shown
    rw [starts.words_eq] at split
    obtain ⟨rfl, later⟩ := List.cons.inj split
    exact ⟨rest, starts, later⟩
  · intro ⟨rest, starts, later⟩
    rw [starts.words_eq, later]

end SpriteText.Text
