import SpriteText.Proofs.Constants.Tokens

/-!
# The tokens of a module

A module is read character by character. Words, numbers and quoted texts are read up to what does
not go on with them, comments are passed over, and a line ends only outside of brackets. What a
module of constants never needs is not read at all: lines that are indented, escapes in quoted texts
and null characters among them.
-/

namespace SpriteText.Constants

open Sheet (isNameStart isNamePart Identifier)

/-! ## Reading characters -/

/-- A token of a module. -/
inductive Token where
  /-- A name or a keyword. -/
  | word (spelled : String)
  /-- A decimal number. -/
  | number (value : Nat)
  /-- A quoted text. -/
  | text (content : String)
  /-- A full stop. -/
  | dot
  /-- A comma. -/
  | comma
  /-- An equals sign. -/
  | equals
  /-- An opening parenthesis. -/
  | openRound
  /-- A closing parenthesis. -/
  | closeRound
  /-- An opening square bracket. -/
  | openSquare
  /-- A closing square bracket. -/
  | closeSquare
  /-- The end of a line, outside of brackets. -/
  | lineEnd
deriving DecidableEq, Repr

/-- The token that is being read. -/
inductive Reading where
  /-- None. -/
  | between
  /-- A word, with its characters so far, the last one first. -/
  | word (reversed : List Char)
  /-- A number, with its value so far. -/
  | number (value : Nat)
  /-- A text between apostrophes, with its characters so far, the last one first. -/
  | quoted (reversed : List Char)
  /-- The first of three quotation marks, and perhaps the second. -/
  | opening (second : Bool)
  /-- A text between three quotation marks, with its characters so far, the last one first, and the
  number of marks right behind them. -/
  | block (reversed : List Char) (marks : Nat)
  /-- A comment. -/
  | comment
deriving DecidableEq, Repr

/-- How far a module has been read. -/
structure Lexer where
  /-- The token that is being read. -/
  reading : Reading := .between
  /-- The number of open brackets. -/
  depth : Nat := 0
  /-- Whether the line has no token so far. -/
  fresh : Bool := true
deriving DecidableEq, Repr

/-- The value of a decimal digit. -/
def digitValue (digit : Char) : Nat := digit.toNat - 0x30

namespace Lexer

/-- Reads a character that does not go on with a token: the tokens that are complete by it, and how
far reading is then. -/
def begin (depth : Nat) (fresh : Bool) (character : Char) : Option (List Token × Lexer) :=
  let enter (reading : Reading) : Option (List Token × Lexer) :=
    some ([], { reading, depth, fresh := false })
  let sign (token : Token) (depth : Nat) : Option (List Token × Lexer) :=
    some ([token], { depth, fresh := false })
  if isNameStart character then enter (.word [character])
  else if character.isDigit then enter (.number (digitValue character))
  else match character with
    | '\'' => enter (.quoted [])
    | '"' => enter (.opening false)
    | '#' => some ([], { reading := .comment, depth, fresh })
    | '.' => sign .dot depth
    | ',' => sign .comma depth
    | '=' => sign .equals depth
    | '(' => sign .openRound (depth + 1)
    | '[' => sign .openSquare (depth + 1)
    | ')' => if depth = 0 then none else sign .closeRound (depth - 1)
    | ']' => if depth = 0 then none else sign .closeSquare (depth - 1)
    | ' ' => if depth = 0 && fresh then none else some ([], { depth, fresh })
    | '\n' => if depth = 0 then some ([.lineEnd], {}) else some ([], { depth, fresh })
    | _ => none

/-- Reads a character behind a token that is complete. -/
def beginAfter (token : Token) (depth : Nat) (character : Char) : Option (List Token × Lexer) :=
  match begin depth false character with
  | none => none
  | some (tokens, next) => some (token :: tokens, next)

/-- Reads a character. -/
def step (lexer : Lexer) (character : Char) : Option (List Token × Lexer) :=
  let goOn (reading : Reading) : Option (List Token × Lexer) := some ([], { lexer with reading })
  let complete (token : Token) : Option (List Token × Lexer) :=
    some ([token], { lexer with reading := .between })
  if character = '\x00' then none
  else match lexer.reading with
    | .between => begin lexer.depth lexer.fresh character
    | .word reversed =>
      if isNamePart character then goOn (.word (character :: reversed))
      else beginAfter (.word (String.ofList reversed.reverse)) lexer.depth character
    | .number value =>
      if character.isDigit && value ≠ 0 then goOn (.number (10 * value + digitValue character))
      else if isNamePart character then none
      else beginAfter (.number value) lexer.depth character
    | .quoted reversed =>
      if character = '\'' then complete (.text (String.ofList reversed.reverse))
      else if character = '\\' || character = '\n' then none
      else goOn (.quoted (character :: reversed))
    | .opening second =>
      if character ≠ '"' then none
      else goOn (if second then .block [] 0 else .opening true)
    | .block reversed marks =>
      if character = '\\' then none
      else if character ≠ '"' then
        goOn (.block (character :: (List.replicate marks '"' ++ reversed)) 0)
      else if marks = 2 then complete (.text (String.ofList reversed.reverse))
      else goOn (.block reversed (marks + 1))
    | .comment =>
      if character = '\n' then begin lexer.depth lexer.fresh character else goOn .comment

/-- Reads characters. -/
def run (lexer : Lexer) : List Char → Option (List Token × Lexer)
  | [] => some ([], lexer)
  | character :: rest =>
    match lexer.step character with
    | none => none
    | some (tokens, next) =>
      match next.run rest with
      | none => none
      | some (others, last) => some (tokens ++ others, last)

end Lexer

/-- The tokens of a module, which ends with the end of a line. -/
def tokens? (text : String) : Option (List Token) :=
  match Lexer.run {} text.toList with
  | some (tokens, { reading := .between, depth := 0, fresh := true }) => some tokens
  | _ => none

/-! ## Characters that are read in order -/

/-- Characters are read as tokens. -/
def Reads (lexer : Lexer) (characters : List Char) (tokens : List Token) (next : Lexer) : Prop :=
  lexer.run characters = some (tokens, next)

variable {lexer middle last : Lexer} {character : Char} {front back chunk : List Char}
  {tokens others : List Token} {depth : Nat} {fresh : Bool} {name : String}

/-- A character is read, and then the others. -/
theorem Reads.cons (first : lexer.step character = some (tokens, middle))
    (later : Reads middle back others last) :
    Reads lexer (character :: back) (tokens ++ others) last := by
  rw [Reads] at later ⊢
  rw [Lexer.run, first]
  simp only [later]

/-- Reading characters and then further ones. -/
theorem run_append (lexer : Lexer) (front back : List Char) :
    lexer.run (front ++ back) =
      match lexer.run front with
      | none => none
      | some (tokens, middle) =>
        match middle.run back with
        | none => none
        | some (others, last) => some (tokens ++ others, last) := by
  induction front generalizing lexer with
  | nil =>
    simp only [List.nil_append, Lexer.run]
    cases lexer.run back <;> rfl
  | cons character front ih =>
    rw [List.cons_append, Lexer.run, Lexer.run]
    cases step : lexer.step character with
    | none => rfl
    | some found =>
      obtain ⟨complete, next⟩ := found
      simp only [ih next]
      cases rest : next.run front with
      | none => rfl
      | some found =>
        obtain ⟨tokens, middle⟩ := found
        cases later : middle.run back with
        | none => simp only [later]
        | some found => simp only [later, List.append_assoc]

/-- Characters are read, and then further ones. -/
theorem Reads.append (first : Reads lexer front tokens middle)
    (later : Reads middle back others last) :
    Reads lexer (front ++ back) (tokens ++ others) last := by
  rw [Reads] at first later ⊢
  rw [run_append, first]
  simp only [later]

/-- What is not read is not read behind other characters. -/
theorem Reads.append_eq_none (first : Reads lexer front tokens middle)
    (stopped : middle.run back = none) : lexer.run (front ++ back) = none := by
  rw [Reads] at first
  rw [run_append, first]
  simp only [stopped]

/-- No module with a null character is read. -/
theorem run_eq_none_of_null (null : '\x00' ∈ front) : lexer.run front = none := by
  induction front generalizing lexer with
  | nil => contradiction
  | cons character front ih =>
    rw [Lexer.run]
    rcases List.mem_cons.mp null with rfl | later
    · rfl
    · cases step : lexer.step character with
      | none => rfl
      | some found => simp only [ih later]

/-! ## Characters of one token -/

/-- A part of an identifier is no null character. -/
theorem ne_null_of_isNamePart (part : isNamePart character = true) : character ≠ '\x00' := by
  rintro rfl
  contradiction

/-- Reading between tokens begins anew with a character that is no null character. -/
theorem step_between (shown : character ≠ '\x00') :
    Lexer.step ⟨.between, depth, fresh⟩ character = Lexer.begin depth fresh character :=
  if_neg shown

/-- Reading goes on behind a token as it does between tokens, once the token is complete. -/
theorem Reads.of_beginAfter {token : Token}
    (complete : character ≠ '\x00' →
      lexer.step character = Lexer.beginAfter token depth character)
    (later : Reads ⟨.between, depth, false⟩ (character :: back) tokens last) :
    Reads lexer (character :: back) (token :: tokens) last := by
  by_cases null : character = '\x00'
  · subst null
    contradiction
  · rw [Reads, Lexer.run, step_between null] at later
    rw [Reads, Lexer.run, complete null, Lexer.beginAfter]
    cases begun : Lexer.begin depth false character with
    | none => simp [begun] at later
    | some found =>
      obtain ⟨complete, next⟩ := found
      cases rest : next.run back with
      | none => simp [begun, rest] at later
      | some found =>
        simp only [begun, rest, Option.some.injEq, Prod.mk.injEq] at later
        obtain ⟨rfl, rfl⟩ := later
        simp only [rest, List.cons_append]

/-- A word goes on with parts of an identifier. -/
theorem reads_word_parts {reversed : List Char}
    (parts : ∀ character ∈ front, isNamePart character = true) :
    Reads ⟨.word reversed, depth, fresh⟩ front []
      ⟨.word (front.reverse ++ reversed), depth, fresh⟩ := by
  induction front generalizing reversed with
  | nil => rfl
  | cons character front ih =>
    obtain ⟨part, others⟩ := List.forall_mem_cons.mp parts
    have step : Lexer.step ⟨.word reversed, depth, fresh⟩ character =
        some ([], ⟨.word (character :: reversed), depth, fresh⟩) := by
      simp only [Lexer.step, if_neg (ne_null_of_isNamePart part), if_pos part]
    rw [List.reverse_cons, List.append_assoc]
    exact .cons step (ih others)

/-- An identifier is read as a word, up to what does not go on with it. -/
theorem reads_name (identifier : Identifier name) (head : chunk.head? = some character)
    (stop : isNamePart character = false)
    (later : Reads ⟨.between, depth, false⟩ chunk tokens last) :
    Reads ⟨.between, depth, fresh⟩ (name.toList ++ chunk) (.word name :: tokens) last := by
  obtain ⟨first, rest, spelled, start⟩ := identifier.start
  have parts := identifier.parts
  rw [spelled, List.forall_mem_cons] at parts
  obtain ⟨back, rfl⟩ := List.head?_eq_some_iff.mp head
  have begun : Lexer.step ⟨.between, depth, fresh⟩ first =
      some ([], ⟨.word [first], depth, false⟩) := by
    rw [step_between (ne_null_of_isNamePart parts.1)]
    simp only [Lexer.begin, if_pos start]
  have whole : (rest.reverse ++ [first]).reverse = name.toList := by simp [spelled]
  have complete : Reads ⟨.word (rest.reverse ++ [first]), depth, false⟩ (character :: back)
      (.word name :: tokens) last := by
    refine .of_beginAfter (fun shown => ?_) later
    simp only [Lexer.step, if_neg shown, stop, Bool.false_eq_true, if_false, whole,
      String.ofList_toList]
  rw [spelled]
  exact .cons begun ((reads_word_parts parts.2).append complete)

/-- What reading a number needs to know of its digits. -/
theorem digit_facts {digit : Nat} (small : digit < 10) :
    digitValue digit.digitChar = digit ∧ digit.digitChar.isDigit = true ∧
      isNameStart digit.digitChar = false ∧ digit.digitChar ≠ '\x00' :=
  (by decide : ∀ digit < 10, digitValue (Nat.digitChar digit) = digit ∧
    (Nat.digitChar digit).isDigit = true ∧ isNameStart (Nat.digitChar digit) = false ∧
      Nat.digitChar digit ≠ '\x00') digit small

/-- The digits of a number are read as its value. -/
theorem reads_digits (number : Nat) :
    Reads ⟨.between, depth, fresh⟩ (Nat.toDigits 10 number) []
      ⟨.number number, depth, false⟩ := by
  induction number using Nat.strongRecOn with
  | ind number ih =>
    by_cases small : number < 10
    · obtain ⟨value, digit, no_start, shown⟩ := digit_facts small
      have begun : Lexer.step ⟨.between, depth, fresh⟩ number.digitChar =
          some ([], ⟨.number number, depth, false⟩) := by
        rw [step_between shown]
        simp [Lexer.begin, no_start, digit, value]
      rw [Nat.toDigits_of_lt_base small]
      exact .cons begun rfl
    · have front := ih (number / 10) (by omega)
      obtain ⟨value, digit, -, shown⟩ := digit_facts (Nat.mod_lt number (by decide : 10 > 0))
      have sum : 10 * (number / 10) + number % 10 = number := Nat.div_add_mod number 10
      have positive : number / 10 ≠ 0 := by omega
      have further : Lexer.step ⟨.number (number / 10), depth, false⟩ (number % 10).digitChar =
          some ([], ⟨.number number, depth, false⟩) := by
        simp only [Lexer.step, if_neg shown, digit, value, sum]
        simp [positive]
      rw [Nat.toDigits_of_base_le (by decide) (by omega)]
      exact front.append (.cons further rfl)

/-- A number is read as its value, up to what does not go on with it. -/
theorem reads_number (number : Nat) (head : chunk.head? = some character)
    (stop : isNamePart character = false)
    (later : Reads ⟨.between, depth, false⟩ chunk tokens last) :
    Reads ⟨.between, depth, fresh⟩ ((toString number).toList ++ chunk) (.number number :: tokens)
      last := by
  obtain ⟨back, rfl⟩ := List.head?_eq_some_iff.mp head
  have no_digit : character.isDigit = false := by
    simp only [isNamePart, Char.isAlphanum, Bool.or_eq_false_iff] at stop
    exact stop.1.2
  have complete : Reads ⟨.number number, depth, false⟩ (character :: back)
      (.number number :: tokens) last := by
    refine .of_beginAfter (fun shown => ?_) later
    simp [Lexer.step, shown, stop, no_digit]
  rw [Nat.toString_eq_repr, Nat.toList_repr]
  exact (reads_digits number).append complete

/-- A text between apostrophes goes on with characters that neither end nor escape anything. -/
theorem reads_quoted_rest {reversed : List Char}
    (plain : ∀ character ∈ front, character ∉ ['\'', '\\', '\n', '\x00']) :
    Reads ⟨.quoted reversed, depth, fresh⟩ front []
      ⟨.quoted (front.reverse ++ reversed), depth, fresh⟩ := by
  induction front generalizing reversed with
  | nil => rfl
  | cons character front ih =>
    obtain ⟨here, others⟩ := List.forall_mem_cons.mp plain
    simp only [List.mem_cons, List.not_mem_nil, or_false, not_or] at here
    have step : Lexer.step ⟨.quoted reversed, depth, fresh⟩ character =
        some ([], ⟨.quoted (character :: reversed), depth, fresh⟩) := by
      simp [Lexer.step, here]
    rw [List.reverse_cons, List.append_assoc]
    exact .cons step (ih others)

/-- A text between apostrophes is read as such. -/
theorem reads_quoted {content : String}
    (plain : ∀ character ∈ content.toList, character ∉ ['\'', '\\', '\n', '\x00'])
    (depth : Nat) (fresh : Bool) :
    Reads ⟨.between, depth, fresh⟩ ('\'' :: (content.toList ++ ['\''])) [.text content]
      ⟨.between, depth, false⟩ := by
  have opened : Lexer.step ⟨.between, depth, fresh⟩ '\'' =
      some ([], ⟨.quoted [], depth, false⟩) := rfl
  have inside := @reads_quoted_rest _ depth false [] plain
  rw [List.append_nil] at inside
  have ended : Reads ⟨.quoted content.toList.reverse, depth, false⟩ ['\''] [.text content]
      ⟨.between, depth, false⟩ := by
    rw [Reads]
    simp [Lexer.run, Lexer.step]
  exact .cons opened (inside.append ended)

/-- A comment is passed over up to the end of its line. -/
theorem reads_comment (unbroken : '\n' ∉ front) (shown : '\x00' ∉ front)
    (later : Reads ⟨.between, depth, fresh⟩ ('\n' :: back) tokens last) :
    Reads ⟨.between, depth, fresh⟩ ('#' :: (front ++ '\n' :: back)) tokens last := by
  have content : Reads ⟨.comment, depth, fresh⟩ front [] ⟨.comment, depth, fresh⟩ := by
    induction front with
    | nil => rfl
    | cons character front ih =>
      rw [List.mem_cons, not_or] at unbroken shown
      have step : Lexer.step ⟨.comment, depth, fresh⟩ character =
          some ([], ⟨.comment, depth, fresh⟩) := by
        simp [Lexer.step, Ne.symm unbroken.1, Ne.symm shown.1]
      exact .cons step (ih unbroken.2 shown.2)
  have ended : Reads ⟨.comment, depth, fresh⟩ ('\n' :: back) tokens last := later
  have opened : Lexer.step ⟨.between, depth, fresh⟩ '#' =
      some ([], ⟨.comment, depth, fresh⟩) := rfl
  exact .cons opened (content.append ended)

/-- A text between quotation marks goes on with characters that neither end nor escape anything. -/
theorem reads_block_rest {reversed : List Char}
    (plain : ∀ character ∈ front, character ∉ ['"', '\\', '\x00']) :
    Reads ⟨.block reversed 0, depth, fresh⟩ front []
      ⟨.block (front.reverse ++ reversed) 0, depth, fresh⟩ := by
  induction front generalizing reversed with
  | nil => rfl
  | cons character front ih =>
    obtain ⟨here, others⟩ := List.forall_mem_cons.mp plain
    simp only [List.mem_cons, List.not_mem_nil, or_false, not_or] at here
    have step : Lexer.step ⟨.block reversed 0, depth, fresh⟩ character =
        some ([], ⟨.block (character :: reversed) 0, depth, fresh⟩) := by
      simp [Lexer.step, here]
    rw [List.reverse_cons, List.append_assoc]
    exact .cons step (ih others)

/-- A text between three quotation marks is read as such. -/
theorem reads_block {content : String}
    (plain : ∀ character ∈ content.toList, character ∉ ['"', '\\', '\x00'])
    (depth : Nat) (fresh : Bool) :
    Reads ⟨.between, depth, fresh⟩ ("\"\"\"".toList ++ (content.toList ++ "\"\"\"".toList))
      [.text content] ⟨.between, depth, false⟩ := by
  have opened : Reads ⟨.between, depth, fresh⟩ "\"\"\"".toList [] ⟨.block [] 0, depth, false⟩ := rfl
  have inside := @reads_block_rest _ depth false [] plain
  rw [List.append_nil] at inside
  have ended : Reads ⟨.block content.toList.reverse 0, depth, false⟩ "\"\"\"".toList
      [.text content] ⟨.between, depth, false⟩ := by
    rw [Reads]
    simp [Lexer.run, Lexer.step]
  exact opened.append (inside.append ended)

end SpriteText.Constants
