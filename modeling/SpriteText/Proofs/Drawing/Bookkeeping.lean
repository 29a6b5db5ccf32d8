import SpriteText.Proofs.Drawing.Progress

/-!
# The bookkeeping of a grid

A grid counts pixels, rows and lines, whatever happens to it and also after faults. What one event
does is said once (`Takes`), and every event keeps the books (`Books.step`), so a grid keeps them
over every run. The glyph that waits says where in a pair a grid is. A state of pairing in a field
of its own (`Paired`) never tells anything else.
-/

namespace SpriteText.Grid

variable {grid next : Grid} {event : Event} {answer : Except Fault (Option Glyph)}

/-! ## One event -/

/-- What an event makes of a grid, and what it answers. -/
inductive Takes (grid : Grid) : Event → Grid → Except Fault (Option Glyph) → Prop where
  /-- A blank moves the place. -/
  | blank : Takes grid .blank grid.advance (.ok none)
  /-- A newline closes a row that is not open within a pair and as wide as the first. -/
  | closed : grid.pending = none → (∀ width, grid.width = some width → grid.rowWidth = width) →
      Takes grid .newline grid.closeRow (.ok none)
  /-- A glyph waits for its twin. -/
  | opened {glyph : Glyph} : grid.pending = none →
      Takes grid (.glyph glyph) { grid.advance with pending := some glyph } (.ok none)
  /-- The twin completes a pixel. -/
  | completed {glyph : Glyph} : grid.pending = some glyph →
      Takes grid (.glyph glyph)
        { grid.advance with pending := none, rowWidth := grid.rowWidth + 1 } (.ok (some glyph))
  /-- A character at fault moves the place, and is at fault there. -/
  | refused {event : Event} {cause : Cause} : event ≠ .finish →
      Takes grid event grid.advance (.error (grid.advance.fault cause))
  /-- The text ends with a row closed. -/
  | finished : grid.pending = none → grid.rowWidth = 0 → Takes grid .finish grid (.ok none)
  /-- The text must not end here. -/
  | unfinished {cause : Cause} : Takes grid .finish grid (.error (grid.fault cause))

/-- An event does one of these things. -/
theorem takes_step (grid : Grid) (event : Event) :
    Takes grid event (grid.step event).1 (grid.step event).2 := by
  cases event with
  | blank => exact .blank
  | newline =>
    cases pending : grid.pending with
    | some twin =>
      simp only [step, newline_of_pending pending]
      exact .refused nofun
    | none =>
      cases fixed : grid.width with
      | none =>
        simp only [step, newline_of_first pending fixed]
        exact .closed pending (by simp [fixed])
      | some width =>
        have closing := newline_of_width pending fixed
        by_cases same : grid.rowWidth = width
        · rw [if_pos same] at closing
          simp only [step, closing]
          exact .closed pending (by simp [fixed, same])
        · rw [if_neg same] at closing
          simp only [step, closing]
          exact .refused nofun
  | glyph glyph =>
    cases pending : grid.pending with
    | none =>
      simp only [step, glyph_of_open pending]
      exact .opened pending
    | some twin =>
      have completing := glyph_of_pending pending glyph
      by_cases same : glyph = twin
      · rw [if_pos same] at completing
        simp only [step, completing]
        exact .completed (same ▸ pending)
      · rw [if_neg same] at completing
        simp only [step, completing]
        exact .refused nofun
  | finish =>
    simp only [step, finish]
    split
    · exact .unfinished
    · rename_i whole
      split
      · exact .unfinished
      · simp only [Bool.or_eq_true, Option.isSome_iff_ne_none, decide_eq_true_eq, not_or,
          not_not] at whole
        exact .finished whole.1 whole.2

/-- Only with all rows closed the text may end. -/
theorem Takes.closed_of_finish {glyph : Option Glyph}
    (takes : Takes grid .finish next (.ok glyph)) :
    grid.pending = none ∧ grid.rowWidth = 0 := by
  cases takes with
  | finished complete closed => exact ⟨complete, closed⟩

/-- A character at fault moves the place and nothing else. -/
theorem Takes.eq_advance {fault : Fault} (takes : Takes grid event next (.error fault))
    (character : event ≠ .finish) : next = grid.advance := by
  cases takes with
  | refused => rfl
  | unfinished => contradiction

/-! ## The state of pairing -/

/-- A grid that keeps the state of its pairing in a field of its own. -/
structure Paired where
  /-- The grid. -/
  grid : Grid
  /-- The number of the state: 1 while the second of a pair is expected. -/
  state : Nat := 0
deriving DecidableEq, Repr

namespace Paired

/-- One event. The state alone decides whether a glyph is the first of a pair or the second. -/
def step (paired : Paired) : Event → Paired × Except Fault (Option Glyph)
  | .blank => (⟨paired.grid.advance, paired.state⟩, .ok none)
  | .newline =>
    let grid := paired.grid.advance
    if paired.state = 1 then (⟨grid, paired.state⟩, .error (grid.fault .pairMismatch))
    else match grid.width with
      | none => (⟨grid.closeRow, paired.state⟩, .ok none)
      | some width =>
        if grid.rowWidth ≠ width then
          (⟨grid, paired.state⟩, .error (grid.fault (.rowWidth width grid.rowWidth)))
        else (⟨grid.closeRow, paired.state⟩, .ok none)
  | .glyph glyph =>
    let grid := paired.grid.advance
    if paired.state = 0 then (⟨{ grid with pending := some glyph }, 1⟩, .ok none)
    else if some glyph ≠ grid.pending then
      (⟨grid, paired.state⟩, .error (grid.fault .pairMismatch))
    else (⟨{ grid with pending := none, rowWidth := grid.rowWidth + 1 }, 0⟩, .ok (some glyph))
  | .finish =>
    (paired,
      if paired.state = 1 ∨ paired.grid.rowWidth ≠ 0 then
        .error (paired.grid.fault .unterminatedRow)
      else if paired.grid.width = none then .error (paired.grid.fault .noRows)
      else .ok none)

/-- A grid with its state of pairing. -/
def ofGrid (grid : Grid) : Paired := ⟨grid, grid.pairState⟩

/-- A grid whose state is that of its pairing goes on so, and answers as the grid does. -/
theorem step_ofGrid (grid : Grid) (event : Event) :
    (ofGrid grid).step event = (ofGrid (grid.step event).1, (grid.step event).2) := by
  cases event with
  | blank => rfl
  | newline =>
    cases pending : grid.pending with
    | some twin =>
      simp [step, ofGrid, pairState, Grid.step, newline_of_pending pending, advance, pending]
    | none =>
      cases fixed : grid.width with
      | none =>
        simp [step, ofGrid, pairState, Grid.step, newline_of_first pending fixed, advance,
          closeRow, pending, fixed]
      | some width =>
        by_cases same : grid.rowWidth = width <;>
          simp [step, ofGrid, pairState, Grid.step, newline_of_width pending fixed, advance,
            closeRow, pending, fixed, same]
  | glyph glyph =>
    cases pending : grid.pending with
    | none => simp [step, ofGrid, pairState, Grid.step, glyph_of_open pending, advance, pending]
    | some twin =>
      by_cases same : glyph = twin <;>
        simp [step, ofGrid, pairState, Grid.step, glyph_of_pending pending, advance, pending, same]
  | finish =>
    cases pending : grid.pending <;> cases fixed : grid.width <;>
      by_cases empty : grid.rowWidth = 0 <;>
        simp [step, ofGrid, pairState, Grid.step, finish, pending, fixed, empty, Except.map]

end Paired

/-! ## Books -/

/-- The books of a grid that started on a line and has handed out some glyphs. -/
structure Books (line : Int) (grid : Grid) (returned : List Glyph) : Prop where
  /-- The second of a pair is expected exactly if a glyph waits for it. -/
  state : pairStateLabel grid.pairState = "EXPECT_END" ↔ grid.pending ≠ none
  /-- Every glyph handed out is a pixel of a closed row or of the open one. -/
  pixels : returned.length = grid.width.getD 0 * grid.height + grid.rowWidth
  /-- Every closed row ended a line. -/
  line : grid.line = line + grid.height
  /-- There is a width exactly if a row is closed. -/
  width : grid.width = none ↔ grid.height = 0

/-- A glyph waits in one state of pairing and in no other. -/
theorem pairStateLabel_pairState (grid : Grid) :
    pairStateLabel grid.pairState =
      if grid.pending = none then "EXPECT_START" else "EXPECT_END" := by
  cases pending : grid.pending <;> simp [pairState, pairStateLabel, pending]

/-- The second of a pair is expected exactly if a glyph waits for it. -/
theorem pairStateLabel_eq_end_iff (grid : Grid) :
    pairStateLabel grid.pairState = "EXPECT_END" ↔ grid.pending ≠ none := by
  rw [pairStateLabel_pairState]
  split
  · rename_i free
    exact iff_of_false (by decide) (not_not.mpr free)
  · rename_i waits
    exact iff_of_true rfl waits

/-- Before the first event the books are empty. -/
theorem books_start (line column : Int) : Books line { line, column } [] := by
  constructor
  case state => exact pairStateLabel_eq_end_iff _
  case pixels => rfl
  case line => simp
  case width => simp

/-- The glyphs that an answer hands out: one or none. -/
def handed : Except Fault (Option Glyph) → List Glyph
  | .ok glyph => glyph.toList
  | .error _ => []

/-- A closed row moves its pixels from the open row to the closed ones. -/
theorem Books.closeRow {line : Int} {returned : List Glyph} (books : Books line grid returned)
    (fits : ∀ width, grid.width = some width → grid.rowWidth = width) :
    Books line grid.closeRow returned := by
  have pixels := books.pixels
  have place := books.line
  constructor
  case state => exact pairStateLabel_eq_end_iff _
  case pixels =>
    cases fixed : grid.width with
    | none =>
      have first : grid.height = 0 := books.width.mp fixed
      simpa [Grid.closeRow, fixed, first] using pixels
    | some width =>
      have same := fits width fixed
      rw [fixed, Option.getD_some, same] at pixels
      simp only [Grid.closeRow, fixed, Option.getD_some, Nat.mul_add, Nat.mul_one, Nat.add_zero]
      exact pixels
  case line =>
    simp only [Grid.closeRow, Int.natCast_add, Int.natCast_one]
    omega
  case width => simp [Grid.closeRow]

/-- An event keeps the books. -/
theorem Books.step {line : Int} {returned : List Glyph} (books : Books line grid returned)
    (event : Event) :
    Books line (grid.step event).1 (returned ++ handed (grid.step event).2) := by
  have takes := takes_step grid event
  have state := pairStateLabel_eq_end_iff (grid.step event).1
  generalize (grid.step event).1 = next at takes state ⊢
  generalize (grid.step event).2 = answer at takes ⊢
  have idle : Books line grid (returned ++ []) := by rwa [List.append_nil]
  cases takes with
  | blank | refused | opened => exact ⟨state, idle.pixels, idle.line, idle.width⟩
  | closed complete fits => exact idle.closeRow fits
  | @completed glyph twin =>
    refine ⟨state, ?_, books.line, books.width⟩
    change (returned ++ [glyph]).length = grid.width.getD 0 * grid.height + (grid.rowWidth + 1)
    rw [List.length_append, List.length_singleton, books.pixels, Nat.add_assoc]
  | finished | unfinished => exact idle

/-- A width that is fixed stays. -/
theorem width_step {width : Nat} (fixed : grid.width = some width) (event : Event) :
    (grid.step event).1.width = some width := by
  have takes := takes_step grid event
  generalize (grid.step event).1 = next at takes ⊢
  generalize (grid.step event).2 = answer at takes
  cases takes with
  | closed => simp [closeRow, fixed]
  | blank | opened | completed | refused | finished | unfinished => exact fixed

/-! ## Runs -/

/-- A grid after some events. -/
structure History where
  /-- The grid. -/
  grid : Grid
  /-- The glyphs that it has handed out, in order. -/
  returned : List Glyph := []

/-- One more event. -/
def History.add (history : History) (event : Event) : History :=
  ⟨(history.grid.step event).1, history.returned ++ handed (history.grid.step event).2⟩

/-- What events make of a grid that starts at a line and a column. -/
def after (line column : Int) (events : List Event) : History :=
  events.foldl History.add { grid := { line, column } }

/-- A further event comes after the events before it. -/
theorem after_concat (line column : Int) (events : List Event) (event : Event) :
    after line column (events ++ [event]) = (after line column events).add event := by
  rw [after, List.foldl_append]
  rfl

/-- Events keep the books. -/
theorem books_after (line column : Int) (events : List Event) :
    Books line (after line column events).grid (after line column events).returned := by
  induction events using List.reverseRecOn with
  | nil => exact books_start line column
  | append_singleton events event ih =>
    rw [after_concat]
    exact ih.step event

/-- A width that is fixed stays over further events. -/
theorem width_after {line column : Int} {events : List Event} {width : Nat}
    (fixed : (after line column events).grid.width = some width) (more : List Event) :
    (after line column (events ++ more)).grid.width = some width := by
  induction more using List.reverseRecOn with
  | nil => rwa [List.append_nil]
  | append_singleton more event ih =>
    rw [← List.append_assoc, after_concat]
    exact width_step ih event

/-- What the events make of it if the state of pairing has a field of its own. -/
def pairedAfter (line column : Int) (events : List Event) : Paired :=
  events.foldl (fun paired event => (paired.step event).1) { grid := { line, column } }

/-- The state in the field of its own is that of the pairing all the time. -/
theorem pairedAfter_eq (line column : Int) (events : List Event) :
    pairedAfter line column events = .ofGrid (after line column events).grid := by
  induction events using List.reverseRecOn with
  | nil => rfl
  | append_singleton events event ih =>
    have last : pairedAfter line column (events ++ [event]) =
        ((pairedAfter line column events).step event).1 := by
      rw [pairedAfter, List.foldl_append]
      rfl
    rw [last, ih, Paired.step_ofGrid, after_concat]
    rfl

/-- What holds of a grid after some events, whether or not there were faults among them. -/
structure Sound (line column : Int) (events : List Event) (grid : Grid) (returned : List Glyph) :
    Prop where
  /-- The books are kept. -/
  books : Books line grid returned
  /-- A state of pairing in a field of its own is what the books say. -/
  paired : pairedAfter line column events = .ofGrid grid
  /-- It decides every further event as the glyph that waits does. -/
  answered : ∀ event, ((pairedAfter line column events).step event).2 = (grid.step event).2
  /-- A width that is fixed stays, whatever comes next. -/
  fixed : ∀ width, grid.width = some width → ∀ more,
    (after line column (events ++ more)).grid.width = some width
  /-- The text may end only with all rows closed, and then all glyphs handed out are pixels. -/
  finished : ∀ answer, (grid.step .finish).2 = .ok answer →
    pairStateLabel grid.pairState = "EXPECT_START" ∧ grid.rowWidth = 0 ∧
      grid.pixelCount = returned.length
  /-- A character at fault moves the column and nothing else. -/
  refused : ∀ event fault, event ≠ .finish → (grid.step event).2 = .error fault →
    (grid.step event).1 = { grid with column := grid.column + 1 }
  /-- The end of the text moves nothing at all. -/
  ended : (grid.step .finish).1 = grid

/-- A grid keeps its books over every run. -/
theorem sound_over_every_run (line column : Int) (events : List Event) :
    Sound line column events (after line column events).grid
      (after line column events).returned := by
  have books := books_after line column events
  constructor
  case books => exact books
  case paired => exact pairedAfter_eq line column events
  case answered =>
    intro event
    rw [pairedAfter_eq, Paired.step_ofGrid]
  case fixed => exact fun width fixed more => width_after fixed more
  case finished =>
    intro answer finished
    have takes := takes_step (after line column events).grid .finish
    rw [finished] at takes
    obtain ⟨complete, closed⟩ := takes.closed_of_finish
    refine ⟨by rw [pairStateLabel_pairState, if_pos complete], closed, ?_⟩
    rw [books.pixels, closed, Nat.add_zero, pixelCount]
  case refused =>
    intro event fault character refused
    have takes := takes_step (after line column events).grid event
    rw [refused] at takes
    exact takes.eq_advance character
  case ended => rfl

end SpriteText.Grid
