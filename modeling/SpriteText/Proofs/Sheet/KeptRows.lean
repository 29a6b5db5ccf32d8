import SpriteText.Proofs.Sheet.Faults
import SpriteText.Proofs.Sheet.Headings

/-!
# The rows that a sheet keeps

A source keeps the lines of its body from the first to the last that shows a letter which is not
blank. A scan takes fewer characters for blanks: a row of other white space draws pixels, and it is
lost at the ends of a body.
-/

namespace SpriteText.Sheet

/-- A line that draws: a scan finds a glyph on it. -/
def Line.isDrawn (line : Line) : Bool :=
  line.characters.any fun letter => !Glyph.isBlank (letter.toNat : Int)

/-- A line that is not blank draws. -/
theorem Line.isDrawn_of_ink {line : Line} (ink : line.isBlank = false) : line.isDrawn = true := by
  obtain ⟨letter, member, shown⟩ := List.all_eq_false.mp ink
  refine List.any_eq_true.mpr ⟨letter, member, ?_⟩
  rw [Glyph.isBlank_eq_false_of_ink (Bool.eq_false_iff.mpr shown)]
  rfl

/-! ## Trimmed lines -/

/-- Trimming takes blank lines off both ends. -/
theorem exists_trimmed (body : List Line) : ∃ before after,
    body = before ++ (Source.trimLines body ++ after) ∧
      (∀ line ∈ before, line.isBlank = true) ∧ ∀ line ∈ after, line.isBlank = true := by
  have front := List.all_eq_true.mp (@List.all_takeWhile _ Line.isBlank body)
  have back : ∀ line ∈ (body.dropWhile Line.isBlank).rtakeWhile Line.isBlank,
      line.isBlank = true := fun line => List.mem_rtakeWhile_imp
  refine ⟨_, _, ?_, front, back⟩
  have trimmed : Source.trimLines body = (body.dropWhile Line.isBlank).rdropWhile Line.isBlank :=
    rfl
  rw [trimmed, List.rdropWhile_append_rtakeWhile, List.takeWhile_append_dropWhile]

variable {body : List Line}

/-- The last of trimmed lines is not blank. -/
theorem isBlank_of_trimLines_concat {front : List Line} {last : Line}
    (trimmed : Source.trimLines body = front ++ [last]) : last.isBlank = false := by
  have dropped : (body.dropWhile Line.isBlank).rdropWhile Line.isBlank = front ++ [last] := trimmed
  have some_line : (body.dropWhile Line.isBlank).rdropWhile Line.isBlank ≠ [] := by
    rw [dropped]
    exact List.append_ne_nil_of_right_ne_nil _ (List.cons_ne_nil _ _)
  have stops := List.rdropWhile_last_not Line.isBlank _ some_line
  simpa [dropped] using stops

/-- A line of a body is kept by trimming if it stands between lines that are not blank. -/
theorem mem_trimLines_iff (ascending : Ascending Line.number body) {line : Line}
    (member : line ∈ body) : line ∈ Source.trimLines body ↔
      (∃ above ∈ body, above.isBlank = false ∧ above.number ≤ line.number) ∧
      ∃ below ∈ body, below.isBlank = false ∧ line.number ≤ below.number := by
  obtain ⟨before, after, split, before_blank, after_blank⟩ := exists_trimmed body
  have trimmed_ascending : Ascending Line.number (Source.trimLines body) := by
    rw [split] at ascending
    have standing : Source.trimLines body <:+: before ++ (Source.trimLines body ++ after) :=
      ⟨before, after, List.append_assoc _ _ _⟩
    exact ascending.sublist standing.sublist
  have inside : ∀ other ∈ Source.trimLines body, other ∈ body := by
    intro other kept
    rw [split]
    exact List.mem_append_right _ (List.mem_append_left _ kept)
  constructor
  · intro kept
    have some_line := List.ne_nil_of_mem kept
    constructor
    · obtain ⟨first, rest, trimmed⟩ := List.exists_cons_of_ne_nil some_line
      have first_kept : first ∈ Source.trimLines body := trimmed ▸ List.mem_cons_self
      rw [trimmed] at trimmed_ascending kept
      exact ⟨first, inside first first_kept, isBlank_of_trimLines_cons trimmed,
        trimmed_ascending.first_le kept⟩
    · obtain ⟨front, last, trimmed⟩ := (List.eq_nil_or_concat' _).resolve_left some_line
      have last_kept : last ∈ Source.trimLines body :=
        trimmed ▸ List.mem_append_right _ List.mem_cons_self
      rw [trimmed] at trimmed_ascending kept
      exact ⟨last, inside last last_kept, isBlank_of_trimLines_concat trimmed,
        trimmed_ascending.le_last kept⟩
  · intro ⟨⟨above, above_member, above_ink, above_line⟩, below, below_member, below_ink, below_line⟩
    rw [split] at ascending member above_member below_member
    rcases List.mem_append.mp member with early | later
    · -- A line that is not blank cannot stand above the blank lines at the top.
      rcases List.mem_append.mp above_member with earlier | inner
      · rw [before_blank above earlier] at above_ink
        contradiction
      · have order := ascending.lt early inner
        omega
    · rcases List.mem_append.mp later with kept | late
      · exact kept
      · rw [← List.append_assoc] at ascending below_member
        rcases List.mem_append.mp below_member with inner | latest
        · have order := ascending.lt inner late
          omega
        · rw [after_blank below latest] at below_ink
          contradiction

/-- No line that draws is lost by trimming exactly if neither the first nor the last is blank. -/
theorem forall_drawn_mem_trimLines_iff (ascending : Ascending Line.number body) :
    (∀ line ∈ body, line.isDrawn = true → line ∈ Source.trimLines body) ↔
      (∀ first, (body.filter Line.isDrawn).head? = some first → first.isBlank = false) ∧
      ∀ last, (body.filter Line.isDrawn).getLast? = some last → last.isBlank = false := by
  have drawn_ascending : Ascending Line.number (body.filter Line.isDrawn) :=
    ascending.sublist List.filter_sublist
  constructor
  · intro all
    constructor
    · intro first top
      obtain ⟨rest, drawn⟩ := List.head?_eq_some_iff.mp top
      rw [drawn] at drawn_ascending
      obtain ⟨member, draws⟩ := List.mem_filter.mp (List.mem_of_head? top)
      obtain ⟨above, held, ink, order⟩ :=
        ((mem_trimLines_iff ascending member).mp (all first member draws)).1
      have above_drawn : above ∈ body.filter Line.isDrawn :=
        List.mem_filter.mpr ⟨held, Line.isDrawn_of_ink ink⟩
      rw [drawn] at above_drawn
      have lowest := drawn_ascending.first_le above_drawn
      rwa [ascending.eq_of_number_eq member held (Nat.le_antisymm lowest order)]
    · intro last bottom
      obtain ⟨front, drawn⟩ := List.getLast?_eq_some_iff.mp bottom
      rw [drawn] at drawn_ascending
      obtain ⟨member, draws⟩ := List.mem_filter.mp (List.mem_of_getLast? bottom)
      obtain ⟨below, held, ink, order⟩ :=
        ((mem_trimLines_iff ascending member).mp (all last member draws)).2
      have below_drawn : below ∈ body.filter Line.isDrawn :=
        List.mem_filter.mpr ⟨held, Line.isDrawn_of_ink ink⟩
      rw [drawn] at below_drawn
      have highest := drawn_ascending.le_last below_drawn
      rwa [ascending.eq_of_number_eq member held (Nat.le_antisymm order highest)]
  · intro ⟨first_ink, last_ink⟩ line member draws
    have drawn : line ∈ body.filter Line.isDrawn := List.mem_filter.mpr ⟨member, draws⟩
    refine (mem_trimLines_iff ascending member).mpr ⟨?above, ?below⟩
    case above =>
      obtain ⟨first, rest, split⟩ := List.exists_cons_of_ne_nil (List.ne_nil_of_mem drawn)
      have top : (body.filter Line.isDrawn).head? = some first := by
        rw [split]
        rfl
      obtain ⟨held, -⟩ := List.mem_filter.mp (List.mem_of_head? top)
      rw [split] at drawn_ascending drawn
      exact ⟨first, held, first_ink first top, drawn_ascending.first_le drawn⟩
    case below =>
      obtain ⟨front, last, split⟩ :=
        (List.eq_nil_or_concat' _).resolve_left (List.ne_nil_of_mem drawn)
      have bottom : (body.filter Line.isDrawn).getLast? = some last := by
        rw [split]
        exact List.getLast?_concat
      obtain ⟨held, -⟩ := List.mem_filter.mp (List.mem_of_getLast? bottom)
      rw [split] at drawn_ascending drawn
      exact ⟨last, held, last_ink last bottom, drawn_ascending.le_last drawn⟩

/-! ## Kept rows -/

/-- A source keeps these lines of its body. -/
structure Source.Keeps (source : Source) (body kept : List Line) : Prop where
  /-- They stand in the body in this order, one right behind the other. -/
  inside : kept <:+: body
  /-- The lines of the text are an empty one and these. -/
  lines : Text.lines source.text.toList = [] :: kept.map Line.characters
  /-- They are the lines that have one that is not blank at or above them, and one at or below. -/
  mem_iff : ∀ line ∈ body, line ∈ kept ↔
    (∃ above ∈ body, above.isBlank = false ∧ above.number ≤ line.number) ∧
    ∃ below ∈ body, below.isBlank = false ∧ line.number ≤ below.number
  /-- They are all lines that draw exactly if neither the first nor the last of those is blank. -/
  drawn_iff : (∀ line ∈ body, line.isDrawn = true → line ∈ kept) ↔
    (∀ first, (body.filter Line.isDrawn).head? = some first → first.isBlank = false) ∧
    ∀ last, (body.filter Line.isDrawn).getLast? = some last → last.isBlank = false

/-- The sources of a parsed sheet keep, in order, the lines behind each header up to the next, or
all lines if there is no header, but for blank ones at both ends. A line that draws is lost only
there, and only if all its letters are white space other than spaces and tabs. -/
theorem rows_are_kept {text : String} {defaultName : Option String} {sources : List Source}
    (done : parse text defaultName = .ok sources) :
    List.Forall₂
      (fun source start => ∃ kept, source.Keeps (linesBehind (numberedLines text) start) kept)
      sources (bodyStarts text) := by
  have drawn := drawnFrom_of_parse done
  rw [bodies_eq, List.forall₂_map_right_iff] at drawn
  refine drawn.imp fun source start from_body => ?_
  have ascending : Ascending Line.number (linesBehind (numberedLines text) start) :=
    (ascending_numberedLines text).sublist List.filter_sublist
  obtain ⟨before, after, split, -⟩ := exists_trimmed (linesBehind (numberedLines text) start)
  refine ⟨Source.trimLines (linesBehind (numberedLines text) start), ?_⟩
  constructor
  case inside => exact ⟨before, after, by rw [List.append_assoc, ← split]⟩
  case lines => exact from_body.shows.lines_text
  case mem_iff => exact fun line member => mem_trimLines_iff ascending member
  case drawn_iff => exact forall_drawn_mem_trimLines_iff ascending

/-- A drawing keeps the blank line between its rows and loses those around them. -/
theorem rows_are_kept_with_gap :
    ∃ kept, Source.Keeps ⟨"a", "\n00\n\n11\n", 3⟩
      (linesBehind (numberedLines "@sprite a\n\n00\n\n11\n \n") 1) kept := by
  have parsed : parse "@sprite a\n\n00\n\n11\n \n" none = .ok [⟨"a", "\n00\n\n11\n", 3⟩] := rfl
  have kept := rows_are_kept parsed
  have starts : bodyStarts "@sprite a\n\n00\n\n11\n \n" = [1] := by decide
  rw [starts] at kept
  cases kept with
  | cons keeps _ => exact keeps

/-- A row of ideographic spaces above another row draws a pixel, and it is lost. -/
theorem ideographic_row_is_lost :
    parse "@sprite a\n\u3000\u3000\n00\n" none = .ok [⟨"a", "\n00\n", 3⟩] ∧
    (∃ line ∈ linesBehind (numberedLines "@sprite a\n\u3000\u3000\n00\n") 1,
      line.isDrawn = true ∧ line.characters ∉ Text.lines "\n00\n".toList) ∧
    (Drawing.compile "\n\u3000\u3000\n00\n" false 0).map Sprite.height = .ok 2 ∧
    (Drawing.compile "\n00\n" false 0).map Sprite.height = .ok 1 := by
  refine ⟨rfl, ⟨⟨2, ['\u3000', '\u3000']⟩, ?_, ?_, ?_⟩, ?_, ?_⟩
  all_goals decide

end SpriteText.Sheet
