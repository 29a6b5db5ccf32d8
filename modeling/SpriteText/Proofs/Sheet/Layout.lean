import Mathlib.Data.List.Forall2
import SpriteText.Proofs.Sheet.LineKinds

/-!
# Sheets as they are laid out

A sheet is laid out as remarks and parts: a header of a name, and the lines of a drawing with blank
lines around them. However blanks, comments and line ends are chosen, the sheet is compiled to the
sprites of its drawings under their names.
-/

namespace SpriteText.Sheet

/-! ## Parts -/

/-- The lines of one sprite in a sheet. -/
structure Part where
  /-- The name of the sprite. -/
  name : String
  /-- The header. -/
  header : List Char
  /-- The blank lines before the drawing. -/
  before : List (List Char)
  /-- The lines of the drawing. -/
  body : List (List Char)
  /-- The blank lines after the drawing. -/
  after : List (List Char)

namespace Part

/-- All lines of a part. -/
def lines (part : Part) : List (List Char) :=
  part.header :: (part.before ++ (part.body ++ part.after))

/-- The drawing of a part. -/
def drawing (part : Part) : String := drawingOf part.body

/-- A part is laid out well if its drawing is compiled. -/
structure Valid (part : Part) (alignTail : Bool) : Prop where
  /-- The name is an identifier that is not reserved. -/
  plain : PlainName part.name
  /-- The header gives the name. -/
  header : HeaderOf part.name part.header
  /-- The lines before the drawing are blank. -/
  before : ∀ line ∈ part.before, Blanks line
  /-- No line of the drawing holds a line feed or a carriage return. -/
  unbroken : ∀ line ∈ part.body, '\n' ∉ line ∧ '\r' ∉ line
  /-- The first line of the drawing is not blank. -/
  first : ∃ line, part.body.head? = some line ∧ ∃ letter ∈ line, Text.isBlank letter = false
  /-- The last line of the drawing is not blank. -/
  last : ∃ line, part.body.getLast? = some line ∧ ∃ letter ∈ line, Text.isBlank letter = false
  /-- The lines after the drawing are blank. -/
  after : ∀ line ∈ part.after, Blanks line
  /-- The drawing alone is compiled. -/
  compiled : ∃ sprite, Drawing.compile part.drawing alignTail 0 = .ok sprite

end Part

/-- The drawings of parts behind so many lines of their sheet. -/
def sourcesAt : Nat → List Part → List Source
  | _, [] => []
  | count, part :: parts =>
    { name := part.name
      text := part.drawing
      firstLine := count + (part.before.length + 1) + 1 } ::
        sourcesAt (count + part.lines.length) parts

/-- The drawings have the names of their parts. -/
theorem names_sourcesAt (count : Nat) (parts : List Part) :
    (sourcesAt count parts).map Source.name = parts.map Part.name := by
  induction parts generalizing count with
  | nil => rfl
  | cons part parts ih => rw [sourcesAt, List.map_cons, List.map_cons, ih]

/-- The drawing of a part starts behind the lines of the parts before it, its header and the blank
lines before it. -/
theorem getElem?_sourcesAt (count : Nat) (front : List Part) (part : Part) (back : List Part) :
    (sourcesAt count (front ++ part :: back))[front.length]? = some {
      name := part.name
      text := part.drawing
      firstLine :=
        count + (front.flatMap Part.lines ++ part.header :: part.before).length + 1 } := by
  induction front generalizing count with
  | nil => rfl
  | cons first front ih =>
    have lines : (first.lines ++ (front.flatMap Part.lines ++ part.header :: part.before)).length =
        first.lines.length + (front.flatMap Part.lines ++ part.header :: part.before).length :=
      List.length_append
    rw [List.cons_append, sourcesAt, List.length_cons, List.getElem?_cons_succ, ih,
      List.flatMap_cons, List.append_assoc, lines, ← Nat.add_assoc count]

/-! ## Numbered lines -/

/-- Lines with their numbers behind so many other lines. -/
def numbered (count : Nat) (lines : List (List Char)) : List Line :=
  (lines.zipIdx count).map fun entry => { number := entry.2 + 1, characters := entry.1 }

/-- The number of a line is one more than the number of lines before it. -/
theorem numbered_cons (count : Nat) (line : List Char) (lines : List (List Char)) :
    numbered count (line :: lines) = ⟨count + 1, line⟩ :: numbered (count + 1) lines := rfl

/-- Further lines are numbered behind those before them. -/
theorem numbered_append (count : Nat) (front back : List (List Char)) :
    numbered count (front ++ back) =
      numbered count front ++ numbered (count + front.length) back := by
  rw [numbered, List.zipIdx_append, List.map_append]
  rfl

/-- Numbers change nothing of the lines. -/
theorem map_characters_numbered (count : Nat) (lines : List (List Char)) :
    (numbered count lines).map Line.characters = lines := by
  induction lines generalizing count with
  | nil => rfl
  | cons line lines ih => rw [numbered_cons, List.map_cons, ih]

/-- A numbered line is one of the lines. -/
theorem characters_mem_of_mem_numbered {count : Nat} {lines : List (List Char)} {line : Line}
    (member : line ∈ numbered count lines) : line.characters ∈ lines := by
  rw [← map_characters_numbered count lines]
  exact List.mem_map_of_mem member

/-! ## Cutting -/

/-- A line that is no header goes with the lines before the first header. -/
theorem cut_cons_of_none {line : Line} (plain : header? line.characters = none) (rest : List Line) :
    cut (line :: rest) = (line :: (cut rest).1, (cut rest).2) := by
  simp only [cut, List.foldr_cons, plain]

/-- Lines that are no headers go with the lines before the first header. -/
theorem cut_append_of_none {front : List Line}
    (plain : ∀ line ∈ front, header? line.characters = none) (rest : List Line) :
    cut (front ++ rest) = (front ++ (cut rest).1, (cut rest).2) := by
  induction front with
  | nil => rfl
  | cons line front ih =>
    obtain ⟨first, others⟩ := List.forall_mem_cons.mp plain
    rw [List.cons_append, cut_cons_of_none first, ih others]
    rfl

/-- A header opens a section of the lines up to the next header. -/
theorem cut_cons_of_some {line : Line} {name : Option String}
    (header : header? line.characters = some name) (rest : List Line) :
    cut (line :: rest) = ([], ⟨line.number, name, (cut rest).1⟩ :: (cut rest).2) := by
  simp only [cut, List.foldr_cons, header]

/-! ## Bodies -/

/-- Blank lines around lines that start and end with others are taken off. -/
theorem trimLines_append {before body after : List Line}
    (before_blank : ∀ line ∈ before, line.isBlank = true)
    (after_blank : ∀ line ∈ after, line.isBlank = true)
    (first : ∃ line, body.head? = some line ∧ line.isBlank = false)
    (last : ∃ line, body.getLast? = some line ∧ line.isBlank = false) :
    Source.trimLines (before ++ (body ++ after)) = body := by
  obtain ⟨top, top_first, top_shown⟩ := first
  obtain ⟨bottom, bottom_last, bottom_shown⟩ := last
  obtain ⟨rest, rfl⟩ := List.head?_eq_some_iff.mp top_first
  have reversed : ∃ others, (top :: rest).reverse = bottom :: others := by
    rw [← List.head?_eq_some_iff, List.head?_reverse]
    exact bottom_last
  obtain ⟨others, reversed⟩ := reversed
  have front : (before ++ (top :: rest ++ after)).dropWhile Line.isBlank =
      top :: rest ++ after := by
    rw [List.dropWhile_append_of_pos before_blank, List.cons_append,
      List.dropWhile_cons_of_neg (by simp [top_shown])]
  have back : (top :: rest ++ after).reverse.dropWhile Line.isBlank = (top :: rest).reverse := by
    rw [List.reverse_append, List.dropWhile_append_of_pos (by simpa using after_blank), reversed,
      List.dropWhile_cons_of_neg (by simp [bottom_shown])]
  rw [Source.trimLines, front, back, List.reverse_reverse]

/-- The blank lines before others are counted. -/
theorem takeWhile_append_blank {before body : List Line}
    (before_blank : ∀ line ∈ before, line.isBlank = true)
    (first : ∃ line, body.head? = some line ∧ line.isBlank = false) :
    (before ++ body).takeWhile Line.isBlank = before := by
  obtain ⟨top, top_first, top_shown⟩ := first
  obtain ⟨rest, rfl⟩ := List.head?_eq_some_iff.mp top_first
  rw [List.takeWhile_append_of_pos before_blank, List.takeWhile_cons_of_neg (by simp [top_shown]),
    List.append_nil]

/-! ## Parsing -/

/-- Two stretches of lines are kept one after the other. -/
theorem exists_append_of_kept {front back read : List (List Char)}
    (same : List.Forall₂ Kept (front ++ back) read) :
    ∃ first second, read = first ++ second ∧ List.Forall₂ Kept front first ∧
      List.Forall₂ Kept back second := by
  refine ⟨read.take front.length, read.drop front.length, (List.take_append_drop _ _).symm, ?_, ?_⟩
  · simpa using List.forall₂_take front.length same
  · simpa using List.forall₂_drop front.length same

/-- What holds of lines and is kept with a line holds of the lines that are kept. -/
theorem forall_mem_of_kept {P : List Char → Prop} {lines read : List (List Char)}
    (same : List.Forall₂ Kept lines read) (all : ∀ line ∈ lines, P line)
    (kept : ∀ line found, P line → Kept line found → P found) : ∀ line ∈ read, P line := by
  induction same with
  | nil => exact List.forall_mem_nil _
  | cons first others ih =>
    obtain ⟨here, later⟩ := List.forall_mem_cons.mp all
    exact List.forall_mem_cons.mpr ⟨kept _ _ here first, ih later⟩

/-- Lines without carriage returns are kept as they are. -/
theorem eq_of_kept {lines read : List (List Char)} (same : List.Forall₂ Kept lines read)
    (none : ∀ line ∈ lines, '\r' ∉ line) : read = lines := by
  induction same with
  | nil => rfl
  | cons first others ih =>
    obtain ⟨here, later⟩ := List.forall_mem_cons.mp none
    rw [first.eq_of_not_mem here, ih later]

variable {alignTail : Bool}

/-- Lines of blanks are blank, whatever their numbers. -/
theorem isBlank_of_mem_numbered {count : Nat} {lines : List (List Char)}
    (blanks : ∀ line ∈ lines, Blanks line) :
    ∀ line ∈ numbered count lines, line.isBlank = true := by
  intro line member
  rw [Line.isBlank, List.all_eq_true]
  intro letter inside
  exact (blanks _ (characters_mem_of_mem_numbered member) letter inside).1

/-- A line with a letter that is not blank is not blank, whatever its number. -/
theorem isBlank_eq_false {line : List Char} (shown : ∃ letter ∈ line, Text.isBlank letter = false)
    (number : Nat) : Line.isBlank ⟨number, line⟩ = false := by
  rw [Line.isBlank, List.all_eq_false]
  simpa using shown

/-- The first of some lines is shown if it is shown without its number. -/
theorem exists_head?_numbered {lines : List (List Char)}
    (first : ∃ line, lines.head? = some line ∧ ∃ letter ∈ line, Text.isBlank letter = false)
    (count : Nat) : ∃ line, (numbered count lines).head? = some line ∧ line.isBlank = false := by
  obtain ⟨line, here, shown⟩ := first
  obtain ⟨rest, rfl⟩ := List.head?_eq_some_iff.mp here
  exact ⟨_, rfl, isBlank_eq_false shown _⟩

/-- The last of some lines is shown if it is shown without its number. -/
theorem exists_getLast?_numbered {lines : List (List Char)}
    (last : ∃ line, lines.getLast? = some line ∧ ∃ letter ∈ line, Text.isBlank letter = false)
    (count : Nat) : ∃ line, (numbered count lines).getLast? = some line ∧ line.isBlank = false := by
  obtain ⟨line, here, shown⟩ := last
  obtain ⟨others, rfl⟩ := List.getLast?_eq_some_iff.mp here
  rw [numbered_append]
  exact ⟨_, List.getLast?_concat, isBlank_eq_false shown _⟩

/-- What is first in some lines stays first before other lines. -/
theorem exists_head?_append {body : List Line}
    (first : ∃ line, body.head? = some line ∧ line.isBlank = false) (rest : List Line) :
    ∃ line, (body ++ rest).head? = some line ∧ line.isBlank = false := by
  obtain ⟨line, here, shown⟩ := first
  exact ⟨line, by rw [List.head?_append, here, Option.some_or], shown⟩

/-- The drawing of lines does not depend on their numbers. -/
theorem drawing_numbered (count : Nat) (lines : List (List Char)) :
    Source.drawing (numbered count lines) = drawingOf lines := by
  rw [Source.drawing, drawingOf]
  conv_rhs => rw [← map_characters_numbered count lines, List.flatMap_map]

/-- A part is cut into one section, whose source is the drawing of the part. -/
theorem Part.Valid.cut_lines {part : Part} (valid : part.Valid alignTail)
    {read : List (List Char)} (same : List.Forall₂ Kept part.lines read) (count : Nat)
    {rest : List Line} {sections : List Section} (later : cut rest = ([], sections)) :
    ∃ body, cut (numbered count read ++ rest) =
        ([], ⟨count + 1, some part.name, body⟩ :: sections) ∧
      Source.ofBody part.name (count + 1) body = {
        name := part.name
        text := part.drawing
        firstLine := count + (part.before.length + 1) + 1 } := by
  obtain ⟨header, others, header_kept, others_kept, rfl⟩ := List.forall₂_cons_left_iff.mp same
  obtain ⟨before, others, rfl, before_kept, others_kept⟩ := exists_append_of_kept others_kept
  obtain ⟨drawn, after, rfl, drawn_kept, after_kept⟩ := exists_append_of_kept others_kept
  obtain rfl := eq_of_kept drawn_kept fun line member => (valid.unbroken line member).2
  have before_blank := forall_mem_of_kept before_kept valid.before fun _ _ => Blanks.kept
  have after_blank := forall_mem_of_kept after_kept valid.after fun _ _ => Blanks.kept
  have opens := (valid.header.kept valid.plain header_kept).header?_eq_some valid.plain
  have inner : ∀ line ∈ numbered (count + 1) (before ++ (part.body ++ after)),
      header? line.characters = none := by
    obtain ⟨sprite, compiled⟩ := valid.compiled
    have drawn := header?_of_compile (fun line member => (valid.unbroken line member).1) compiled
    intro line member
    rcases List.mem_append.mp (characters_mem_of_mem_numbered member) with first | others
    · exact (before_blank _ first).header?_eq_none
    rcases List.mem_append.mp others with row | last
    · exact drawn _ row
    · exact (after_blank _ last).header?_eq_none
  refine ⟨numbered (count + 1) (before ++ (part.body ++ after)), ?_, ?_⟩
  · rw [numbered_cons, List.cons_append, cut_cons_of_some opens, cut_append_of_none inner, later,
      List.append_nil]
  · have split : numbered (count + 1) (before ++ (part.body ++ after)) =
        numbered (count + 1) before ++ (numbered (count + 1 + before.length) part.body ++
          numbered (count + 1 + before.length + part.body.length) after) := by
      rw [numbered_append, numbered_append]
    have top := exists_head?_numbered valid.first (count + 1 + before.length)
    have trimmed := trimLines_append (@isBlank_of_mem_numbered (count + 1) _ before_blank)
      (@isBlank_of_mem_numbered (count + 1 + before.length + part.body.length) _ after_blank) top
      (exists_getLast?_numbered valid.last (count + 1 + before.length))
    have skipped := takeWhile_append_blank (@isBlank_of_mem_numbered (count + 1) _ before_blank)
      (exists_head?_append top (numbered (count + 1 + before.length + part.body.length) after))
    have length : (numbered (count + 1) before).length = part.before.length := by
      rw [numbered, List.length_map, List.length_zipIdx, before_kept.length_eq]
    have first_line : count + 1 + 1 + part.before.length =
        count + (part.before.length + 1) + 1 := by omega
    rw [Source.ofBody, split, trimmed, skipped, length, drawing_numbered, first_line]
    rfl

/-- No line of a part holds a line feed. -/
theorem Part.Valid.lines_unbroken {part : Part} (valid : part.Valid alignTail) :
    ∀ line ∈ part.lines, '\n' ∉ line := by
  rw [Part.lines, List.forall_mem_cons, List.forall_mem_append, List.forall_mem_append]
  refine ⟨valid.header.unbroken valid.plain, ?before, ?body, ?after⟩
  case before => exact fun line member => (valid.before line member).unbroken
  case body => exact fun line member => (valid.unbroken line member).1
  case after => exact fun line member => (valid.after line member).unbroken

/-- Parts of distinct names are cut into sections, whose sources are the drawings of the parts. -/
theorem exists_sections {parts : List Part} (valid : ∀ part ∈ parts, part.Valid alignTail)
    {read : List (List Char)} (same : List.Forall₂ Kept (parts.flatMap Part.lines) read)
    (count : Nat) :
    ∃ sections, cut (numbered count read) = ([], sections) ∧ sections.length = parts.length ∧
      ∀ taken, (parts.map Part.name).Nodup → (∀ part ∈ parts, part.name ∉ taken) →
        sourcesOf taken sections = .ok (sourcesAt count parts) := by
  induction parts generalizing count read with
  | nil =>
    cases same
    exact ⟨[], rfl, rfl, fun taken distinct new => rfl⟩
  | cons part parts ih =>
    obtain ⟨here, others⟩ := List.forall_mem_cons.mp valid
    rw [List.flatMap_cons] at same
    obtain ⟨first, rest, rfl, first_kept, rest_kept⟩ := exists_append_of_kept same
    obtain ⟨sections, later, length, sources⟩ := ih others rest_kept (count + part.lines.length)
    rw [first_kept.length_eq] at later
    obtain ⟨body, opened, source⟩ := here.cut_lines first_kept count later
    refine ⟨_, by rw [numbered_append, opened],
      by rw [List.length_cons, length, List.length_cons], ?_⟩
    intro taken distinct new
    obtain ⟨new_here, new_others⟩ := List.forall_mem_cons.mp new
    rw [List.map_cons, List.nodup_cons] at distinct
    have checked : Section.checkedName ⟨count + 1, some part.name, body⟩ taken = .ok part.name := by
      simp [Section.checkedName, here.plain.isSpriteName, new_here]
    have rest_sources := sources (part.name :: taken) distinct.2 fun other member named => by
      rcases List.mem_cons.mp named with again | old
      · exact distinct.1 (again ▸ List.mem_map_of_mem member)
      · exact new_others other member old
    simp only [sourcesOf, checked, rest_sources, source, sourcesAt]

/-- A text that lays out remarks and parts of distinct names is parsed into the drawings of the
parts. -/
theorem parse_of_writes {preamble : List (List Char)} {parts : List Part} {text : String}
    (remarks : ∀ line ∈ preamble, Remark line) (some_part : parts ≠ [])
    (valid : ∀ part ∈ parts, part.Valid alignTail) (distinct : (parts.map Part.name).Nodup)
    (writes : Writes (preamble ++ parts.flatMap Part.lines) text.toList)
    (defaultName : Option String) :
    parse text defaultName = .ok (sourcesAt preamble.length parts) := by
  have unbroken : ∀ line ∈ preamble ++ parts.flatMap Part.lines, '\n' ∉ line := by
    intro line member
    rcases List.mem_append.mp member with early | late
    · exact (remarks line early).unbroken
    · obtain ⟨part, held, inside⟩ := List.mem_flatMap.mp late
      exact (valid part held).lines_unbroken line inside
  obtain ⟨before, rest, split, before_kept, rest_kept⟩ :=
    exists_append_of_kept (writes.kept unbroken)
  have remarks_kept := forall_mem_of_kept before_kept remarks fun _ _ => Remark.kept
  obtain ⟨sections, later, length, sources⟩ := exists_sections valid rest_kept preamble.length
  have lines : numberedLines text = numbered 0 before ++ numbered preamble.length rest := by
    show numbered 0 ((Text.lines text.toList).map dropReturn) = _
    rw [split, numbered_append, Nat.zero_add, before_kept.length_eq]
  have inner : ∀ line ∈ numbered 0 before, header? line.characters = none := fun line member =>
    (remarks_kept _ (characters_mem_of_mem_numbered member)).header?_eq_none
  have comments : (numbered 0 before).find? (fun line => !isComment line) = none := by
    rw [List.find?_eq_none]
    intro line member
    have comment := (remarks_kept _ (characters_mem_of_mem_numbered member)).isComment line.number
    simpa using comment
  have cutting : cut (numberedLines text) = (numbered 0 before, sections) := by
    rw [lines, cut_append_of_none inner, later, List.append_nil]
  obtain ⟨part, others, rfl⟩ := List.exists_cons_of_ne_nil some_part
  cases sections with
  | nil => contradiction
  | cons first sections =>
    simp only [parse, cutting, comments]
    exact sources [] distinct fun part member => List.not_mem_nil

/-! ## Compiling -/

/-- An entry has the name of a part and the sprite that its drawing has alone. -/
def Part.Gives (alignTail : Bool) (part : Part) (entry : String × Sprite) : Prop :=
  entry.1 = part.name ∧ Drawing.compile part.drawing alignTail 0 = .ok entry.2

/-- Every part gives an entry. -/
theorem exists_entries {parts : List Part} (valid : ∀ part ∈ parts, part.Valid alignTail) :
    ∃ entries, List.Forall₂ (Part.Gives alignTail) parts entries := by
  induction parts with
  | nil => exact ⟨[], .nil⟩
  | cons part parts ih =>
    obtain ⟨here, others⟩ := List.forall_mem_cons.mp valid
    obtain ⟨entries, given⟩ := ih others
    obtain ⟨sprite, compiled⟩ := here.compiled
    exact ⟨(part.name, sprite) :: entries, .cons ⟨rfl, compiled⟩ given⟩

/-- The entries have the names of the parts. -/
theorem names_of_gives {parts : List Part} {entries : List (String × Sprite)}
    (given : List.Forall₂ (Part.Gives alignTail) parts entries) :
    entries.map Prod.fst = parts.map Part.name :=
  map_eq_of_forall₂ (fun _ _ gives => gives.1) given

/-- The entries of parts are those of their drawings. -/
theorem compiles_of_gives {parts : List Part} {entries : List (String × Sprite)}
    (given : List.Forall₂ (Part.Gives alignTail) parts entries) (count : Nat) :
    List.Forall₂ (Compiles alignTail) (sourcesAt count parts) entries := by
  induction given generalizing count with
  | nil => exact .nil
  | cons first others ih => exact .cons first (ih _)

/-- A sheet is compiled to exactly the sprites written in it. However remarks, headers, blank lines
and line ends are chosen, every part gives, in order, its name and the sprite that its drawing has
alone, and the first line of its drawing is found behind the remarks, the parts before it, its
header and the blank lines before it. -/
theorem compile_of_layout {preamble : List (List Char)} {parts : List Part} {text : String}
    (remarks : ∀ line ∈ preamble, Remark line) (some_part : parts ≠ [])
    (valid : ∀ part ∈ parts, part.Valid alignTail) (distinct : (parts.map Part.name).Nodup)
    (writes : Writes (preamble ++ parts.flatMap Part.lines) text.toList)
    (defaultName : Option String) :
    ∃ sources set, parse text defaultName = .ok sources ∧
      compile text defaultName alignTail = .ok set ∧ sources.length = parts.length ∧
      (∀ front part back, parts = front ++ part :: back → sources[front.length]? = some {
        name := part.name
        text := part.drawing
        firstLine :=
          (preamble ++ (front.flatMap Part.lines ++ part.header :: part.before)).length + 1 }) ∧
      List.Forall₂ (fun part entry =>
        entry.1 = part.name ∧ Drawing.compile part.drawing alignTail 0 = .ok entry.2)
        parts set.entries := by
  have parsed := parse_of_writes remarks some_part valid distinct writes defaultName
  have names := names_sourcesAt preamble.length parts
  obtain ⟨entries, given⟩ := exists_entries valid
  have fresh : (entries.map Prod.fst).Nodup := by
    rw [names_of_gives given]
    exact distinct
  let set : SpriteSet := ⟨entries, fresh⟩
  have compiled : compileSources (sourcesAt preamble.length parts) alignTail = .ok set := by
    rw [compileSources_eq_ok_iff (names ▸ distinct)]
    exact compiles_of_gives given preamble.length
  refine ⟨_, set, parsed, ?_, ?_, fun front part back split => ?_, given⟩
  · rw [compile, parsed]
    exact compiled
  · simpa using congrArg List.length names
  · rw [split, getElem?_sourcesAt, ← List.length_append]

/-- A sheet with a comment, both kinds of line ends, blank lines around a drawing and no end of its
last line is compiled to its two sprites. -/
theorem compile_of_layout_mixed_ends :
    ∃ set, compile "# two\r\n\t@sprite  dot \r\n\r\n 0011\n2233\n \n@sprite bar\n00" none false =
      .ok set ∧ set.names = ["dot", "bar"] := by
  let dot : Part := {
    name := "dot"
    header := "\t@sprite  dot ".toList
    before := [[]]
    body := [" 0011".toList, "2233".toList]
    after := [" ".toList] }
  let bar : Part := {
    name := "bar"
    header := "@sprite bar".toList
    before := []
    body := ["00".toList]
    after := [] }
  have remarks : ∀ line ∈ ["# two".toList], Remark line := by
    rw [List.forall_mem_singleton]
    exact @Remark.comment [] " two".toList (List.forall_mem_nil _) (by decide)
  have dot_valid : dot.Valid false := by
    constructor
    case plain => exact ⟨⟨'d', ['o', 't'], by decide, by decide⟩,
      List.all_eq_true.mp (by decide), by decide⟩
    case header => exact ⟨['\t'], [' ', ' '], [' '], by decide, by decide, by decide, by decide,
      by decide⟩
    case first => exact ⟨_, rfl, '0', by decide, by decide⟩
    case last => exact ⟨_, rfl, '2', by decide, by decide⟩
    case compiled =>
      have draws : Draws (codes dot.drawing) [[48, 49], [50, 51]] 2 := by
        constructor
        case spelled => exact ⟨(codes dot.drawing).tail, by decide, by decide⟩
        all_goals decide
      obtain ⟨sprite, compiled, -⟩ := Drawing.compile_of_draws draws false 0
      exact ⟨sprite, compiled⟩
    all_goals decide
  have bar_valid : bar.Valid false := by
    constructor
    case plain => exact ⟨⟨'b', ['a', 'r'], by decide, by decide⟩,
      List.all_eq_true.mp (by decide), by decide⟩
    case header => exact ⟨[], [' '], [], by decide, by decide, by decide, by decide,
      by decide⟩
    case first => exact ⟨_, rfl, '0', by decide, by decide⟩
    case last => exact ⟨_, rfl, '0', by decide, by decide⟩
    case compiled =>
      have draws : Draws (codes bar.drawing) [[48]] 1 := by
        constructor
        case spelled => exact ⟨(codes bar.drawing).tail, by decide, by decide⟩
        all_goals decide
      obtain ⟨sprite, compiled, -⟩ := Drawing.compile_of_draws draws false 0
      exact ⟨sprite, compiled⟩
    all_goals decide
  have valid : ∀ part ∈ [dot, bar], part.Valid false := by
    rw [List.forall_mem_cons, List.forall_mem_singleton]
    exact ⟨dot_valid, bar_valid⟩
  have writes : Writes (["# two".toList] ++ [dot, bar].flatMap Part.lines)
      "# two\r\n\t@sprite  dot \r\n\r\n 0011\n2233\n \n@sprite bar\n00".toList :=
    .returnFeed _ (.returnFeed _ (.returnFeed _ (.feed _ (.feed _ (.feed _ (.feed _
      (.unended (by decide))))))))
  obtain ⟨sources, set, -, compiled, -, -, given⟩ :=
    compile_of_layout remarks (List.cons_ne_nil _ _) valid (by decide) writes none
  exact ⟨set, compiled, names_of_gives given⟩

end SpriteText.Sheet
