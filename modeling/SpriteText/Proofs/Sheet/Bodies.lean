import Mathlib.Data.List.DropRight
import Mathlib.Data.List.Infix
import SpriteText.Proofs.Sheet.Layout
import SpriteText.Proofs.Sheet.Names

/-!
# The bodies of a parsed sheet

The lines of a sheet are cut into bodies, one behind each header, or are one body if there is no
header. A source is drawn from its body: blank lines at both ends are left off, and the first line
is numbered so that every line of the drawing is the line of the sheet with its number.
-/

namespace SpriteText.Sheet

/-- The lines of every drawing in a sheet: those behind each header up to the next, or all lines if
there is no header. -/
def bodies (text : String) : List (List Line) :=
  match cut (numberedLines text) with
  | (lines, []) => [lines]
  | (_, sections) => sections.map Section.body

/-! ## Cutting -/

/-- A cut leaves a stretch of lines behind every header, and another before the first. -/
theorem prefix_of_cut (count : Nat) (lines : List (List Char)) :
    (cut (numbered count lines)).1 <+: numbered count lines ∧
      ∀ part ∈ (cut (numbered count lines)).2, ∃ skipped,
        part.headerLine = count + skipped ∧ part.body <+: (numbered count lines).drop skipped := by
  induction lines generalizing count with
  | nil => exact ⟨List.prefix_rfl, List.forall_mem_nil _⟩
  | cons line lines ih =>
    obtain ⟨preamble, sections⟩ := ih (count + 1)
    have later : ∀ part ∈ (cut (numbered (count + 1) lines)).2, ∃ skipped,
        part.headerLine = count + skipped ∧
          part.body <+: (numbered count (line :: lines)).drop skipped := by
      intro part member
      obtain ⟨skipped, number, body⟩ := sections part member
      exact ⟨skipped + 1, by omega, body⟩
    rw [numbered_cons] at later ⊢
    cases header : header? line with
    | none =>
      have plain : header? (Line.mk (count + 1) line).characters = none := header
      rw [cut_cons_of_none plain]
      exact ⟨List.cons_prefix_cons.mpr ⟨rfl, preamble⟩, later⟩
    | some name =>
      have opens : header? (Line.mk (count + 1) line).characters = some name := header
      rw [cut_cons_of_some opens]
      refine ⟨?_, List.forall_mem_cons.mpr ⟨⟨1, rfl, preamble⟩, later⟩⟩
      exact List.nil_prefix

/-- Without a header, all lines stay before the first. -/
theorem fst_cut_of_nil {lines : List Line} (none : (cut lines).2 = []) : (cut lines).1 = lines := by
  induction lines with
  | nil => rfl
  | cons line lines ih =>
    cases header : header? line.characters with
    | none =>
      rw [cut_cons_of_none header] at none ⊢
      rw [ih none]
    | some name =>
      rw [cut_cons_of_some header] at none
      contradiction

/-! ## Sources and their bodies -/

/-- A source is drawn from a body that stands right behind some number of lines. -/
def Source.DrawnFrom (lines : List Line) (source : Source) (body : List Line) : Prop :=
  ∃ count, body <+: lines.drop count ∧ source = Source.ofBody source.name count body

/-- The sources of sections are drawn from the bodies of the sections. -/
theorem drawnFrom_of_sourcesOf {lines : List Line} {sections : List Section}
    (inside : ∀ part ∈ sections, part.body <+: lines.drop part.headerLine) {taken : List String}
    {sources : List Source} (done : sourcesOf taken sections = .ok sources) :
    List.Forall₂ (Source.DrawnFrom lines) sources (sections.map Section.body) := by
  induction sections generalizing taken sources with
  | nil =>
    obtain rfl : [] = sources := Except.ok.inj done
    exact .nil
  | cons part sections ih =>
    obtain ⟨first, later⟩ := List.forall_mem_cons.mp inside
    rw [sourcesOf] at done
    cases checked : part.checkedName taken with
    | error fault => simp [checked] at done
    | ok name =>
      cases others : sourcesOf (name :: taken) sections with
      | error fault => simp [checked, others] at done
      | ok rest =>
        simp only [checked, others, Except.ok.injEq] at done
        subst done
        exact .cons ⟨part.headerLine, first, rfl⟩ (ih later others)

variable {text : String} {defaultName : Option String} {sources : List Source}

/-- The sources of a parsed sheet are drawn from its bodies. -/
theorem drawnFrom_of_parse (done : parse text defaultName = .ok sources) :
    List.Forall₂ (Source.DrawnFrom (numberedLines text)) sources (bodies text) := by
  obtain ⟨-, inside⟩ : _ ∧ ∀ part ∈ (cut (numberedLines text)).2, _ :=
    prefix_of_cut 0 ((Text.lines text.toList).map dropReturn)
  have whole := @fst_cut_of_nil (numberedLines text)
  simp only [parse] at done
  rw [bodies]
  cases cutting : cut (numberedLines text) with
  | mk preamble sections =>
    rw [cutting] at whole inside
    simp only [cutting] at done
    cases sections with
    | nil =>
      obtain rfl : preamble = numberedLines text := whole rfl
      cases valid : isSpriteName (soleName defaultName) with
      | false => simp [valid] at done
      | true =>
        simp only [valid, if_true, Except.ok.injEq] at done
        subst done
        exact .cons ⟨0, List.prefix_rfl, rfl⟩ .nil
    | cons part sections =>
      cases stray : preamble.find? fun line => !isComment line with
      | some line => simp [stray] at done
      | none =>
        simp only [stray] at done
        refine drawnFrom_of_sourcesOf ?_ done
        intro part member
        obtain ⟨skipped, number, body⟩ := inside part member
        rw [Nat.zero_add] at number
        exact number ▸ body

/-- What is related in pairs has a partner in its place. -/
theorem exists_partner {First Second : Type} {related : First → Second → Prop}
    {items : List First} {others : List Second} (all : List.Forall₂ related items others)
    {item : First} (member : item ∈ items) :
    ∃ other, (item, other) ∈ items.zip others ∧ related item other := by
  induction all with
  | nil => contradiction
  | @cons first second items others here _ ih =>
    rcases List.mem_cons.mp member with rfl | later
    · exact ⟨second, List.mem_cons_self, here⟩
    · obtain ⟨other, paired, partner⟩ := ih later
      exact ⟨other, List.mem_cons_of_mem _ paired, partner⟩

/-- A source of a parsed sheet is drawn from the body in its place. -/
theorem exists_body (done : parse text defaultName = .ok sources) {source : Source}
    (member : source ∈ sources) : ∃ body, (source, body) ∈ sources.zip (bodies text) ∧
      source.DrawnFrom (numberedLines text) body :=
  exists_partner (drawnFrom_of_parse done) member

/-! ## Trimming -/

/-- Trimmed lines start behind the blank lines before them. -/
theorem trimLines_behind_blanks (body : List Line) :
    Source.trimLines body <+: body.drop (body.takeWhile Line.isBlank).length := by
  have front : body.drop (body.takeWhile Line.isBlank).length = body.dropWhile Line.isBlank := by
    have split : body.takeWhile Line.isBlank ++ body.dropWhile Line.isBlank = body :=
      List.takeWhile_append_dropWhile
    have rest : (body.takeWhile Line.isBlank ++ body.dropWhile Line.isBlank).drop
        (body.takeWhile Line.isBlank).length = body.dropWhile Line.isBlank := List.drop_left
    rwa [split] at rest
  rw [front]
  exact List.rdropWhile_prefix Line.isBlank _

/-- The first of trimmed lines is not blank. -/
theorem isBlank_of_trimLines_cons {body rest : List Line} {first : Line}
    (trimmed : Source.trimLines body = first :: rest) : first.isBlank = false := by
  have front := List.rdropWhile_prefix Line.isBlank (body.dropWhile Line.isBlank)
  have stops := List.head?_dropWhile_not Line.isBlank body
  rw [show (body.dropWhile Line.isBlank).rdropWhile Line.isBlank = _ from trimmed] at front
  obtain ⟨back, whole⟩ := front
  rw [← whole] at stops
  simpa using stops

/-- Nothing is left only of lines that are all blank. -/
theorem isBlank_of_trimLines_nil {body : List Line} (trimmed : Source.trimLines body = []) :
    ∀ line ∈ body, line.isBlank = true := by
  have none : (body.dropWhile Line.isBlank).rdropWhile Line.isBlank = [] := trimmed
  rw [List.rdropWhile_eq_nil_iff] at none
  have split : body.takeWhile Line.isBlank ++ body.dropWhile Line.isBlank = body :=
    List.takeWhile_append_dropWhile
  intro line member
  rw [← split] at member
  rcases List.mem_append.mp member with front | back
  · exact List.mem_takeWhile_imp front
  · exact none line back

/-! ## Lines of drawings -/

/-- A line is numbered by its place behind the lines before. -/
theorem getElem?_numbered (count : Nat) (lines : List (List Char)) (index : Nat) :
    (numbered count lines)[index]? = lines[index]?.map fun line => ⟨count + index + 1, line⟩ := by
  rw [numbered, List.getElem?_map, List.getElem?_zipIdx, Option.map_map]
  rfl

/-- A line of a sheet is numbered by its place. -/
theorem number_of_getElem? {text : String} {index : Nat} {line : Line}
    (place : (numberedLines text)[index]? = some line) : line.number = index + 1 := by
  have number : (numberedLines text)[index]? = _ :=
    getElem?_numbered 0 ((Text.lines text.toList).map dropReturn) index
  rw [place, eq_comm, Option.map_eq_some_iff] at number
  obtain ⟨content, -, rfl⟩ := number
  exact congrArg Nat.succ (Nat.zero_add index)

/-- A line of a sheet is found in the place that its number tells. -/
theorem getElem?_of_mem_numberedLines {text : String} {line : Line}
    (member : line ∈ numberedLines text) : ∃ index, line.number = index + 1 ∧
      ((numberedLines text).map Line.characters)[index]? = some line.characters := by
  obtain ⟨index, place⟩ := List.mem_iff_getElem?.mp member
  exact ⟨index, number_of_getElem? place, by rw [List.getElem?_map, place]; rfl⟩

/-- No line of a sheet holds a line feed. -/
theorem unbroken_of_mem_numberedLines {text : String} {line : Line}
    (member : line ∈ numberedLines text) : '\n' ∉ line.characters := by
  obtain ⟨content, held, kept⟩ := List.mem_map.mp (characters_mem_of_mem_numbered
    (show line ∈ numbered 0 ((Text.lines text.toList).map dropReturn) from member))
  have unbroken := Text.not_mem_of_mem_lines held
  rw [← kept, dropReturn]
  split
  · exact fun feed => unbroken (List.mem_of_mem_dropLast feed)
  · exact unbroken

/-- A source draws rows that are the lines of a sheet from its first line on. -/
structure Source.Shows (sheet : String) (source : Source) (rows : List (List Char)) : Prop where
  /-- The text of the source is a newline and the rows, each with its end. -/
  text : source.text = drawingOf rows
  /-- No row holds a line feed. -/
  unbroken : ∀ row ∈ rows, '\n' ∉ row
  /-- Lines are numbered from 1. -/
  some_line : 1 ≤ source.firstLine
  /-- Every row is a line of the sheet. -/
  line : ∀ index row, rows[index]? = some row →
    ⟨source.firstLine + index, row⟩ ∈ numberedLines sheet

/-- A source shows the lines of its body without the blank ones at both ends. -/
theorem Source.DrawnFrom.shows {sheet : String} {source : Source} {body : List Line}
    (drawn : source.DrawnFrom (numberedLines sheet) body) :
    source.Shows sheet ((trimLines body).map Line.characters) := by
  obtain ⟨count, behind, whole⟩ := drawn
  have first : source.firstLine = count + 1 + (body.takeWhile Line.isBlank).length :=
    congrArg Source.firstLine whole
  have standing : trimLines body <+:
      (numberedLines sheet).drop (count + (body.takeWhile Line.isBlank).length) := by
    rw [← List.drop_drop]
    exact (trimLines_behind_blanks body).trans (List.IsPrefix.drop behind _)
  constructor
  case text =>
    rw [whole, drawingOf, List.flatMap_map]
    rfl
  case unbroken =>
    intro row member
    obtain ⟨line, held, rfl⟩ := List.mem_map.mp member
    exact unbroken_of_mem_numberedLines (List.mem_of_mem_drop (standing.subset held))
  case some_line => omega
  case line =>
    intro index row place
    rw [List.getElem?_map, Option.map_eq_some_iff] at place
    obtain ⟨line, place, rfl⟩ := place
    obtain ⟨inside, same⟩ := List.getElem?_eq_some_iff.mp place
    have found := List.prefix_iff_getElem?.mp standing index inside
    rw [same, List.getElem?_drop] at found
    have number := number_of_getElem? found
    rw [show source.firstLine + index = line.number by omega]
    exact List.mem_of_getElem? found

end SpriteText.Sheet
