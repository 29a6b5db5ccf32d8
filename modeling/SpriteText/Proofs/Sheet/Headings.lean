import Mathlib.Data.List.Nodup
import SpriteText.Proofs.Sheet.Bodies

/-!
# The headers of a sheet

A sheet is cut at its headers. They stand on ascending lines; the lines before the first are the
preamble, and the lines behind one and before the next are its body.
-/

namespace SpriteText.Sheet

/-- A header: its line, and the name that it gives, if it gives one. -/
structure Heading where
  /-- The number of the line. -/
  line : Nat
  /-- The name on the line. -/
  name : Option String
deriving DecidableEq, Repr

/-- The headers among lines, in order. -/
def headingsOf (lines : List Line) : List Heading :=
  lines.filterMap fun line => (header? line.characters).map (Heading.mk line.number)

/-- The headers of a sheet, in order. -/
def headings (text : String) : List Heading := headingsOf (numberedLines text)

/-- The header of a section. -/
def Section.heading (part : Section) : Heading := ⟨part.headerLine, part.name⟩

/-! ## Headers among lines -/

/-- A line that is no header adds none. -/
theorem headingsOf_cons_of_none {line : Line} (plain : header? line.characters = none)
    (lines : List Line) : headingsOf (line :: lines) = headingsOf lines := by
  simp [headingsOf, plain]

/-- A header comes before those below it. -/
theorem headingsOf_cons_of_some {line : Line} {name : Option String}
    (header : header? line.characters = some name) (lines : List Line) :
    headingsOf (line :: lines) = ⟨line.number, name⟩ :: headingsOf lines := by
  simp [headingsOf, header]

/-- A header is read from a line. -/
theorem exists_of_mem_headingsOf {lines : List Line} {heading : Heading}
    (member : heading ∈ headingsOf lines) :
    ∃ line ∈ lines, line.number = heading.line ∧ header? line.characters = some heading.name := by
  obtain ⟨line, held, read⟩ := List.mem_filterMap.mp member
  obtain ⟨name, header, rfl⟩ := Option.map_eq_some_iff.mp read
  exact ⟨line, held, rfl, header⟩

/-- Lines are cut at all headers among them. -/
theorem map_heading_cut (lines : List Line) :
    (cut lines).2.map Section.heading = headingsOf lines := by
  induction lines with
  | nil => rfl
  | cons line lines ih =>
    cases header : header? line.characters with
    | none => rw [cut_cons_of_none header, headingsOf_cons_of_none header, ih]
    | some name => rw [cut_cons_of_some header, headingsOf_cons_of_some header, ← ih]; rfl

/-- No character of a name on a header is blank. -/
theorem inked_of_mem_headingsOf {lines : List Line} {number : Nat} {name : String}
    (member : ⟨number, some name⟩ ∈ headingsOf lines) :
    ∀ character ∈ name.toList, Text.isBlank character = false := by
  obtain ⟨line, -, -, header⟩ := exists_of_mem_headingsOf member
  generalize line.characters = spelled at header
  cases header?_eq_some_iff.mp header with
  | named _ _ _ _ _ inked => exact inked

/-- A name on a header of a sheet is a sprite name if it is plain. -/
theorem isSpriteName_iff_of_mem_headings {text : String} {number : Nat} {name : String}
    (member : ⟨number, some name⟩ ∈ headings text) : isSpriteName name = true ↔ PlainName name := by
  apply plainName_iff_of_not_mem
  intro feed
  have ink := inked_of_mem_headingsOf member '\n' feed
  contradiction

/-! ## Ascending numbers -/

section Ascending

variable {Item : Type} {number : Item → Nat} {front back : List Item} {first last item other : Item}

/-- Items whose numbers ascend. -/
def Ascending (number : Item → Nat) (items : List Item) : Prop :=
  items.Pairwise fun item later => number item < number later

/-- Items in front have the lower numbers. -/
theorem Ascending.lt (ascending : Ascending number (front ++ back)) (early : item ∈ front)
    (late : other ∈ back) : number item < number other :=
  (List.pairwise_append.mp ascending).2.2 item early other late

/-- The first item has the lowest number. -/
theorem Ascending.first_le (ascending : Ascending number (first :: back))
    (member : item ∈ first :: back) : number first ≤ number item := by
  rcases List.mem_cons.mp member with rfl | later
  · exact Nat.le_refl _
  · exact Nat.le_of_lt ((List.pairwise_cons.mp ascending).1 item later)

/-- The last item has the highest number. -/
theorem Ascending.le_last (ascending : Ascending number (front ++ [last]))
    (member : item ∈ front ++ [last]) : number item ≤ number last := by
  rcases List.mem_append.mp member with early | same
  · exact Nat.le_of_lt (ascending.lt early List.mem_cons_self)
  · rw [List.mem_singleton.mp same]

/-- Two items are one if they have one number. -/
theorem Ascending.eq_of_number_eq {items : List Item} (ascending : Ascending number items)
    (member : item ∈ items) (held : other ∈ items) (same : number item = number other) :
    item = other := by
  have distinct : (items.map number).Nodup :=
    List.pairwise_map.mpr (ascending.imp Nat.ne_of_lt)
  exact List.inj_on_of_nodup_map distinct member held same

end Ascending

/-! ## Lines in order -/

/-- The numbers of lines are consecutive. -/
theorem map_number_numbered (count : Nat) (lines : List (List Char)) :
    (numbered count lines).map Line.number = List.range' (count + 1) lines.length := by
  induction lines generalizing count with
  | nil => rfl
  | cons line lines ih =>
    rw [numbered_cons, List.map_cons, ih, List.length_cons, List.range'_succ]

/-- The lines of a sheet are in order. -/
theorem ascending_numberedLines (text : String) : Ascending Line.number (numberedLines text) := by
  apply List.pairwise_map.mp
  have numbers := map_number_numbered 0 ((Text.lines text.toList).map dropReturn)
  show ((numbered 0 ((Text.lines text.toList).map dropReturn)).map Line.number).Pairwise (· < ·)
  rw [numbers]
  exact List.pairwise_lt_range'

/-- The headers of a sheet are in order. -/
theorem ascending_headings (text : String) : Ascending Heading.line (headings text) := by
  refine List.Pairwise.filterMap _ ?_ (ascending_numberedLines text)
  intro line below before heading read other again
  obtain ⟨name, -, rfl⟩ := Option.map_eq_some_iff.mp read
  obtain ⟨name, -, rfl⟩ := Option.map_eq_some_iff.mp again
  exact before

variable {lines : List Line}

/-- A line above others is above the headers among them. -/
theorem lt_of_mem_headingsOf {line : Line} (above : ∀ below ∈ lines, line.number < below.number)
    {heading : Heading} (member : heading ∈ headingsOf lines) : line.number < heading.line := by
  obtain ⟨below, held, number, -⟩ := exists_of_mem_headingsOf member
  exact number ▸ above below held

/-- The lines before the first header are those above all headers. -/
theorem preamble_eq_filter (ascending : Ascending Line.number lines) :
    (cut lines).1 = lines.filter fun line =>
      (headingsOf lines).all fun heading => line.number < heading.line := by
  induction lines with
  | nil => rfl
  | cons first lines ih =>
    obtain ⟨above, later⟩ := List.pairwise_cons.mp ascending
    cases header : header? first.characters with
    | none =>
      have first_above : (headingsOf lines).all (fun heading => first.number < heading.line) =
          true := by
        rw [List.all_eq_true]
        exact fun heading member => decide_eq_true (lt_of_mem_headingsOf above member)
      rw [cut_cons_of_none header, headingsOf_cons_of_none header, List.filter_cons,
        if_pos first_above, ih later]
    | some name =>
      rw [cut_cons_of_some header, headingsOf_cons_of_some header, eq_comm,
        List.filter_eq_nil_iff]
      intro line member
      have too_late : ¬line.number < first.number :=
        Nat.not_lt.mpr (Ascending.first_le ascending member)
      simp [too_late]

/-- A line is before the first header if it is above all headers. -/
theorem mem_preamble_iff (ascending : Ascending Line.number lines) {line : Line} :
    line ∈ (cut lines).1 ↔
      line ∈ lines ∧ ∀ heading ∈ headingsOf lines, line.number < heading.line := by
  rw [preamble_eq_filter ascending, List.mem_filter]
  simp

/-! ## Bodies -/

/-- The lines behind a number that are above all headers behind it. -/
def linesBehind (lines : List Line) (number : Nat) : List Line :=
  lines.filter fun line => number < line.number &&
    (headingsOf lines).all fun heading => heading.line ≤ number || line.number < heading.line

/-- A line up to a number is not behind it. -/
theorem linesBehind_cons {first : Line} {number : Nat} (within : first.number ≤ number) :
    linesBehind (first :: lines) number = linesBehind lines number := by
  have dropped : ¬number < first.number := Nat.not_lt.mpr within
  have same : ∀ line : Line,
      (headingsOf (first :: lines)).all (fun heading =>
        heading.line ≤ number || line.number < heading.line) =
      (headingsOf lines).all fun heading =>
        heading.line ≤ number || line.number < heading.line := by
    intro line
    cases header : header? first.characters with
    | none => rw [headingsOf_cons_of_none header]
    | some name =>
      rw [headingsOf_cons_of_some header, List.all_cons]
      simp [within]
  rw [linesBehind, List.filter_cons_of_neg (by simp [dropped])]
  simp only [same]
  rfl

/-- Behind every header, a cut leaves the lines above the next. -/
theorem map_body_cut (ascending : Ascending Line.number lines) :
    (cut lines).2.map Section.body =
      (headingsOf lines).map fun heading => linesBehind lines heading.line := by
  induction lines with
  | nil => rfl
  | cons first lines ih =>
    obtain ⟨above, later⟩ := List.pairwise_cons.mp ascending
    have others : (headingsOf lines).map (fun heading => linesBehind lines heading.line) =
        (headingsOf lines).map fun heading => linesBehind (first :: lines) heading.line := by
      refine List.map_congr_left fun heading member => (linesBehind_cons ?_).symm
      exact Nat.le_of_lt (lt_of_mem_headingsOf above member)
    cases header : header? first.characters with
    | none => rw [cut_cons_of_none header, headingsOf_cons_of_none header, ← others, ih later]
    | some name =>
      rw [cut_cons_of_some header, headingsOf_cons_of_some header, List.map_cons, List.map_cons,
        ← others, ih later, linesBehind_cons (Nat.le_refl _)]
      refine congrArg (· :: _) ((preamble_eq_filter later).trans (List.filter_congr ?_))
      intro line member
      have behind : first.number < line.number := above line member
      rw [decide_eq_true behind, Bool.true_and, Bool.eq_iff_iff, List.all_eq_true, List.all_eq_true]
      refine forall₂_congr fun heading held => ?_
      have late : ¬heading.line ≤ first.number :=
        Nat.not_le.mpr (lt_of_mem_headingsOf above held)
      simp [late]

/-- The numbers behind which the bodies of a sheet start: those of its headers, or 0 if there is
none. -/
def bodyStarts (text : String) : List Nat :=
  if headings text = [] then [0] else (headings text).map Heading.line

/-- The bodies of a sheet are the lines behind their starts. -/
theorem bodies_eq (text : String) :
    bodies text = (bodyStarts text).map (linesBehind (numberedLines text)) := by
  have heads : (cut (numberedLines text)).2.map Section.heading = headings text :=
    map_heading_cut (numberedLines text)
  have inside := map_body_cut (ascending_numberedLines text)
  have whole := @fst_cut_of_nil (numberedLines text)
  rw [bodies, bodyStarts]
  cases cutting : cut (numberedLines text) with
  | mk preamble sections =>
    rw [cutting] at heads inside whole
    cases sections with
    | nil =>
      have none : headings text = [] := heads.symm
      have all : linesBehind (numberedLines text) 0 = numberedLines text := by
        rw [linesBehind, ← headings, none, List.filter_eq_self]
        intro line member
        obtain ⟨index, number, -⟩ := getElem?_of_mem_numberedLines member
        simp [number]
      rw [if_pos none, List.map_singleton, all, ← whole rfl]
    | cons part sections =>
      have some_header : headings text ≠ [] := by
        rw [← heads]
        exact List.cons_ne_nil _ _
      rw [if_neg some_header, List.map_map]
      exact inside

/-! ## Parsing -/

variable {text : String}

/-- A sheet without headers is one drawing, if its name is a sprite name. -/
theorem parse_of_no_header (none : headings text = []) (defaultName : Option String) :
    parse text defaultName =
      if isSpriteName (soleName defaultName) then
        .ok [Source.ofBody (soleName defaultName) 0 (numberedLines text)]
      else .error { cause := .invalidName (soleName defaultName) } := by
  have heads : (cut (numberedLines text)).2.map Section.heading = headings text :=
    map_heading_cut (numberedLines text)
  rw [none, List.map_eq_nil_iff] at heads
  cases cutting : cut (numberedLines text) with
  | mk preamble sections =>
    rw [cutting] at heads
    obtain rfl : sections = [] := heads
    simp only [parse, cutting]

/-- A sheet is refused for the first line before its headers that is no comment. -/
theorem parse_of_stray (some_header : headings text ≠ []) {line : Line}
    (stray : (cut (numberedLines text)).1.find? (fun line => !isComment line) = some line)
    (defaultName : Option String) :
    parse text defaultName = .error { cause := .strayContent, line := some line.number } := by
  have heads : (cut (numberedLines text)).2.map Section.heading = headings text :=
    map_heading_cut (numberedLines text)
  cases cutting : cut (numberedLines text) with
  | mk preamble sections =>
    rw [cutting] at heads stray
    cases sections with
    | nil => exact absurd heads.symm some_header
    | cons part sections => simp only [parse, cutting, stray]

/-- A sheet with only comments before its headers is the sources of its sections. -/
theorem parse_of_comments (some_header : headings text ≠ [])
    (comments : (cut (numberedLines text)).1.find? (fun line => !isComment line) = none)
    (defaultName : Option String) :
    parse text defaultName = sourcesOf [] (cut (numberedLines text)).2 := by
  have heads : (cut (numberedLines text)).2.map Section.heading = headings text :=
    map_heading_cut (numberedLines text)
  cases cutting : cut (numberedLines text) with
  | mk preamble sections =>
    rw [cutting] at heads comments
    cases sections with
    | nil => exact absurd heads.symm some_header
    | cons part sections => simp only [parse, cutting, comments]

/-- The sources of a sheet have the names on its headers. -/
theorem map_name_of_parse (some_header : headings text ≠ []) {defaultName : Option String}
    {sources : List Source} (done : parse text defaultName = .ok sources) :
    (headings text).map Heading.name = sources.map fun source => some source.name := by
  cases stray : (cut (numberedLines text)).1.find? fun line => !isComment line with
  | some line =>
    rw [parse_of_stray some_header stray] at done
    contradiction
  | none =>
    rw [parse_of_comments some_header stray] at done
    rw [headings, ← map_heading_cut, List.map_map]
    exact map_name_of_sourcesOf done

end SpriteText.Sheet
