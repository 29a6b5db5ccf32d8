import SpriteText.Fault

/-!
# Grids of glyph pairs

A grid is filled by the characters of sprite text. Every glyph is written twice side by side, blanks
count for nothing, and the first closed row fixes the width of all rows. The grid keeps the place of
the last character seen, so that every fault tells where it was found.
-/

namespace SpriteText

/-- A glyph is known by its code point; any integer will do. -/
abbrev Glyph := Int

namespace Glyph

/-- The glyph that ends a row. -/
def newline : Glyph := 0x0A

/-- A glyph that only indents: space or tab. -/
def isBlank (glyph : Glyph) : Bool := glyph = 0x20 || glyph = 0x09

end Glyph

/-- Rows in the making, and the place of the last character seen. -/
structure Grid where
  /-- The glyph that waits for its twin. -/
  pending : Option Glyph := none
  /-- Pixels completed on the current row. -/
  rowWidth : Nat := 0
  /-- The width of the first row, once it is closed. -/
  width : Option Nat := none
  /-- Rows closed so far. -/
  height : Nat := 0
  /-- The line of the last character seen. -/
  line : Int
  /-- The column of the last character seen. -/
  column : Int := 0
deriving DecidableEq, Repr

namespace Grid

/-- Pixels of the closed rows. -/
def pixelCount (grid : Grid) : Nat := grid.width.getD 0 * grid.height

/-- The grid with its place on the next column. -/
def advance (grid : Grid) : Grid := { grid with column := grid.column + 1 }

/-- A fault at the grid's place. -/
def fault (grid : Grid) (cause : Cause) : Fault := .located cause grid.line grid.column

/-- A blank moves the place and nothing else. -/
def blank (grid : Grid) : Grid := grid.advance

/-- A newline closes the current row, which must not end within a pair and must be as wide as the
first row. -/
def newline (grid : Grid) : Except Fault Grid :=
  let grid := grid.advance
  match grid.pending with
  | some _ => .error (grid.fault .pairMismatch)
  | none =>
    let closed :=
      { grid with
        rowWidth := 0, width := some (grid.width.getD grid.rowWidth), height := grid.height + 1,
        line := grid.line + 1, column := 0 }
    match grid.width with
    | none => .ok closed
    | some width =>
      if grid.rowWidth = width then .ok closed
      else .error (grid.fault (.rowWidth width grid.rowWidth))

/-- A glyph opens a pair or completes it; the completed pair's glyph is handed out. -/
def glyph (grid : Grid) (glyph : Glyph) : Except Fault (Grid × Option Glyph) :=
  let grid := grid.advance
  match grid.pending with
  | none => .ok ({ grid with pending := some glyph }, none)
  | some twin =>
    if glyph = twin then
      .ok ({ grid with pending := none, rowWidth := grid.rowWidth + 1 }, some glyph)
    else .error (grid.fault .pairMismatch)

/-- The text may end where no row is open and at least one is closed. -/
def finish (grid : Grid) : Except Fault Unit :=
  if grid.pending.isSome || grid.rowWidth ≠ 0 then .error (grid.fault .unterminatedRow)
  else if grid.width.isNone then .error (grid.fault .noRows)
  else .ok ()

/-- What can happen to a grid. -/
inductive Event where
  /-- A blank is read. -/
  | blank
  /-- A newline is read. -/
  | newline
  /-- Any other glyph is read. -/
  | glyph (glyph : Glyph)
  /-- The text ends. -/
  | finish
deriving DecidableEq, Repr

/-- One event: the grid after it, and the glyph handed out or the fault. A character at fault still
moves the place; the end of the text does not. -/
def step (grid : Grid) : Event → Grid × Except Fault (Option Glyph)
  | .blank => (grid.blank, .ok none)
  | .newline =>
    match grid.newline with
    | .ok next => (next, .ok none)
    | .error fault => (grid.advance, .error fault)
  | .glyph glyph =>
    match grid.glyph glyph with
    | .ok (next, completed) => (next, .ok completed)
    | .error fault => (grid.advance, .error fault)
  | .finish => (grid, grid.finish.map fun _ => none)

/-- The number of a pairing state: 1 while a glyph waits for its twin. -/
def pairState (grid : Grid) : Nat := if grid.pending.isSome then 1 else 0

/-- The name of a pairing state. -/
def pairStateLabel (state : Int) : String :=
  if state = 0 then "EXPECT_START"
  else if state = 1 then "EXPECT_END"
  else s!"UNKNOWN({state})"

/-- A one-line description. -/
def describe (grid : Grid) : String :=
  let state := pairStateLabel grid.pairState
  let width := (grid.width.map toString).getD "None"
  let rowWidth := grid.rowWidth
  let height := grid.height
  let line := grid.line
  let column := grid.column
  s!"GridState({state}, row={rowWidth}/{width}, height={height}, at={line}:{column})"

end Grid

end SpriteText
