import Mathlib.Data.List.TakeWhile
import SpriteText.Proofs.Drawing.FirstFault
import SpriteText.Proofs.Text.Lines

/-!
# The places that faults name

A fault names its place by a line and a column. A line offset moves the line and nothing else, and
where a row is broken, the line and the column lead back to a letter of the text.
-/

namespace SpriteText

/-! ## Moved faults -/

/-- The same fault so many lines further down. -/
def Fault.below (fault : Fault) (count : Int) : Fault :=
  { fault with line := fault.line.map fun line => line + count }

/-- A fault at a place is moved to a place below. -/
theorem Fault.below_located (cause : Cause) (line column count : Int) :
    (Fault.located cause line column).below count = .located cause (line + count) column := rfl

variable {text : List Glyph} {lineOffset : Int} {fault : Fault}

/-- The fault that a text is refused for has a line and a column. -/
theorem Rejected.exists_located (rejected : Rejected text lineOffset fault) :
    ∃ cause line column, fault = .located cause line column := by
  cases rejected with
  | missing | violated | unterminated | noRows => exact ⟨_, _, _, rfl⟩

/-- A text is refused for the same fault whatever is added to its lines. -/
theorem Rejected.below (rejected : Rejected text lineOffset fault) (count : Int) :
    Rejected text (lineOffset + count) (fault.below count) := by
  have move (lines : Int) :
      lineOffset + 1 + lines + count = lineOffset + count + 1 + lines := by omega
  cases rejected with
  | missing other =>
    rw [Fault.below_located, show lineOffset + 1 + count = lineOffset + count + 1 by omega]
    exact .missing other
  | violated leading some_place violation clean =>
    rw [Fault.below_located, move]
    exact .violated leading some_place violation clean
  | unterminated leading clean some_mark =>
    rw [Fault.below_located, move]
    exact .unterminated leading clean some_mark
  | noRows leading clean no_mark alone =>
    rw [Fault.below_located, move]
    exact .noRows leading clean no_mark alone

/-- A text is refused for the fault that it is refused for alone, below so many lines. -/
theorem rejected_iff_below :
    Rejected text lineOffset fault ↔
      ∃ alone, Rejected text 0 alone ∧ fault = alone.below lineOffset := by
  constructor
  · intro rejected
    refine ⟨fault.below (-lineOffset), ?_, ?_⟩
    · have back := rejected.below (-lineOffset)
      rwa [Int.add_right_neg] at back
    · cases fault with
      | mk cause line column sprite => cases line <;> simp [Fault.below]
  · rintro ⟨alone, rejected, rfl⟩
    have moved := rejected.below lineOffset
    rwa [Int.zero_add] at moved

/-- What breaks a row is a pair that does not match, a row of another width or a fifth glyph. -/
theorem Violation.kind_cases {place : Nat} {cause : Cause}
    (violation : Violation text place cause) :
    cause.kind = .pairMismatch ∨ cause.kind = .rowWidth ∨ cause.kind = .tooManyGlyphs := by
  cases violation with
  | unmatched | unpaired => exact .inl rfl
  | width => exact .inr (.inl rfl)
  | fifth => exact .inr (.inr rfl)

/-! ## Letters at places -/

/-- A letter is found in some lines at a line and a column, both from 1. The end of a line is its
last letter. -/
def Text.FoundAt {Letter : Type} (ending : Letter) (lines : List (List Letter)) (letter : Letter)
    (line column : Int) : Prop :=
  ∃ (row place : Nat) (content : List Letter), line = row + 1 ∧ column = place + 1 ∧
    lines[row]? = some content ∧ (content ++ [ending])[place]? = some letter

/-- The last line of a text starts behind any of its newlines that is the last. -/
theorem lastLine_append_newline_cons (front read : List Glyph) :
    lastLine (front ++ Glyph.newline :: read) = lastLine read := by
  induction read using List.reverseRecOn with
  | nil => rw [lastLine_concat, if_pos rfl]; rfl
  | append_singleton read glyph ih =>
    rw [← List.cons_append, ← List.append_assoc, lastLine_concat, lastLine_concat, ih]

/-- The code points of letters as glyphs. -/
def codesOf (letters : List Char) : List Glyph := letters.map fun letter => (letter.toNat : Int)

/-- The code points of letters in a row are those of its parts. -/
theorem codesOf_append (front back : List Char) :
    codesOf (front ++ back) = codesOf front ++ codesOf back := List.map_append

/-- Letters without a line feed have no newline among their code points. -/
theorem newline_not_mem_codesOf {letters : List Char} (unbroken : '\n' ∉ letters) :
    Glyph.newline ∉ codesOf letters := by
  intro member
  obtain ⟨letter, held, same⟩ := List.mem_map.mp member
  obtain rfl : letter = '\n' := Char.toNat_inj.mp (Int.ofNat_inj.mp same)
  exact unbroken held

/-- Glyphs without a newline are their own last line. -/
theorem lastLine_of_unbroken {read : List Glyph} (unbroken : Glyph.newline ∉ read) :
    lastLine read = read := by
  rw [lastLine, List.takeWhile_eq_self_iff.mpr, List.reverse_reverse]
  intro glyph member
  exact decide_eq_true fun same => unbroken (same ▸ List.mem_reverse.mp member)

/-- Lines with their ends and the start of one more have a newline for each line, and their last
line is the start. -/
theorem count_and_lastLine {ended : List (List Char)} {start : List Char}
    (unbroken : ∀ line ∈ ended, '\n' ∉ line) (open_line : '\n' ∉ start) :
    (codesOf (ended.flatMap (fun line => line ++ ['\n']) ++ start)).count Glyph.newline =
        ended.length ∧
      lastLine (codesOf (ended.flatMap (fun line => line ++ ['\n']) ++ start)) =
        codesOf start := by
  induction ended with
  | nil =>
    have absent := newline_not_mem_codesOf open_line
    exact ⟨List.count_eq_zero.mpr absent, lastLine_of_unbroken absent⟩
  | cons line ended ih =>
    obtain ⟨first, others⟩ := List.forall_mem_cons.mp unbroken
    obtain ⟨count, last⟩ := ih others
    have absent := List.count_eq_zero.mpr (newline_not_mem_codesOf first)
    have ending (rest : List Char) :
        codesOf (line ++ '\n' :: rest) = codesOf line ++ Glyph.newline :: codesOf rest :=
      codesOf_append line _
    rw [List.flatMap_cons, List.append_assoc, List.append_assoc, List.singleton_append, ending,
      List.count_append, List.count_cons_self, absent, count, lastLine_append_newline_cons, last]
    exact ⟨Nat.zero_add _, rfl⟩

/-- A letter is found on the line behind the newlines before it, in the column behind the letters
of this line before it. -/
theorem foundAt_append (front : List Char) (letter : Char) (back : List Char) :
    Text.FoundAt '\n' (Text.lines (front ++ letter :: back)) letter
      (1 + (codesOf front).count Glyph.newline) ((lastLine (codesOf front)).length + 1) := by
  obtain ⟨ended, start, rfl, unbroken, open_line⟩ := Text.exists_ended front
  obtain ⟨count, last⟩ := count_and_lastLine unbroken open_line
  obtain ⟨content, others, lines, found⟩ := Text.exists_lines_eq_cons open_line letter back
  refine ⟨ended.length, start.length, content, ?line, ?column, ?content, found⟩
  case line => rw [count, Int.add_comm]
  case column => rw [last, codesOf, List.length_map]
  case content =>
    rw [List.append_assoc, Text.lines_flatMap_append unbroken, lines]
    simp

/-- Where a row of a text is broken there is a letter. -/
theorem Violation.foundAt {text : String} {place : Nat} {cause : Cause}
    (violation : Violation (codes text) place cause) :
    ∃ letter, Text.FoundAt '\n' (Text.lines text.toList) letter
      (1 + ((codes text).take place).count Glyph.newline)
      ((lastLine ((codes text).take place)).length + 1) := by
  have inside : place < text.toList.length := by simpa [codes] using violation.lt_length
  have found := foundAt_append (text.toList.take place) text.toList[place]
    (text.toList.drop (place + 1))
  rw [← List.drop_eq_getElem_cons inside, List.take_append_drop, codesOf, List.map_take] at found
  exact ⟨_, found⟩

namespace Drawing

/-- A text is refused for the first place that breaks a row, or else for its end, and for nothing
that comes after reading. -/
theorem compile_eq_error_iff {text : String} {alignTail : Bool} {lineOffset : Int}
    {fault : DrawingFault} :
    compile text alignTail lineOffset = .error fault ↔
      ∃ located, fault = .text located ∧ Rejected (codes text) lineOffset located := by
  rw [compile, build_eq_error_iff, sizing_eq_error_iff]
  simp only [ofBytes_snd_eq_some_iff]
  constructor
  · rintro ⟨found, ⟨located, rfl, rejected⟩, rfl⟩
    exact ⟨located, rfl, rejected⟩
  · rintro ⟨located, rfl, rejected⟩
    exact ⟨_, ⟨located, rfl, rejected⟩, rfl⟩

end Drawing

end SpriteText
