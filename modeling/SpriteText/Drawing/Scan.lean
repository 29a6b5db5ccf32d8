import SpriteText.Palette
import SpriteText.Utf8.LeadByte

/-!
# Scanning a drawing

A drawing is a newline followed by rows of glyph pairs. A scan reads it glyph by glyph, fills a
grid and a palette, and collects the rank of every pixel. It goes as far as it can: when a fault
stops it, the pixels before the fault are kept beside the fault.
-/

namespace SpriteText

/-- Why a drawing cannot be read. -/
inductive ReadFault where
  /-- The text of the drawing is at fault. -/
  | text (fault : Fault)
  /-- The bytes are no code points. -/
  | decoding (fault : Utf8.LeadFault)
deriving DecidableEq, Repr

/-- How far a drawing has been read. -/
structure Scan where
  /-- The rows, closed and in the making. -/
  grid : Grid
  /-- The glyphs met. -/
  palette : Palette := .empty
  /-- The ranks of the pixels completed, the last one first. -/
  emitted : List Nat := []
deriving DecidableEq

namespace Scan

/-- Before the first row, which stands on the line after the leading newline. -/
def start (lineOffset : Int) : Scan := { grid := { line := lineOffset + 2 } }

/-- One more glyph. -/
def feed (scan : Scan) (glyph : Glyph) : Except Fault Scan :=
  if glyph.isBlank then .ok { scan with grid := scan.grid.blank }
  else if glyph = Glyph.newline then
    match scan.grid.newline with
    | .ok grid => .ok { scan with grid }
    | .error fault => .error fault
  else match scan.grid.glyph glyph with
    | .error fault => .error fault
    | .ok (grid, none) => .ok { scan with grid }
    | .ok (grid, some completed) =>
      match scan.palette.allocate completed with
      | .ok (palette, rank) => .ok { grid, palette, emitted := rank :: scan.emitted }
      | .error cause => .error (grid.fault cause)

/-- Glyph after glyph, up to the first fault. -/
def run (scan : Scan) : List Glyph → Scan × Option Fault
  | [] => (scan, none)
  | glyph :: rest =>
    match scan.feed glyph with
    | .ok next => next.run rest
    | .error fault => (scan, some fault)

/-- The glyphs of bytes up to the first that cannot be decoded, and why it cannot. -/
def glyphs (offset : Nat) (bytes : List UInt8) : List Glyph × Option Utf8.LeadFault :=
  let (codes, broken) := Utf8.codePoints offset bytes
  (codes.map fun (code : Nat) => (code : Glyph), broken)

/-- Reads the rows of a drawing, after its leading newline. -/
def ofRows (rows : List UInt8) (lineOffset : Int) : Scan × Option ReadFault :=
  let (read, broken) := glyphs 1 rows
  match (start lineOffset).run read, broken with
  | (scan, some fault), _ => (scan, some (.text fault))
  | (scan, none), some fault => (scan, some (.decoding fault))
  | (scan, none), none =>
    match scan.grid.finish with
    | .ok () => (scan, none)
    | .error fault => (scan, some (.text fault))

/-- Reads a whole drawing; line numbers in faults are moved by an offset. -/
def ofBytes (bytes : List UInt8) (lineOffset : Int) : Scan × Option ReadFault :=
  match bytes with
  | 0x0A :: rows => ofRows rows lineOffset
  | _ => (start lineOffset, some (.text (.located .missingNewline (lineOffset + 1) 1)))

/-- The ranks of the pixels completed, in order. -/
def pixels (scan : Scan) : List Nat := scan.emitted.reverse

/-- The width of the picture, when the drawing has been read. -/
def width (scan : Scan) : Nat := scan.grid.width.getD 0

/-- The height of the picture, when the drawing has been read. -/
def height (scan : Scan) : Nat := scan.grid.height

end Scan

end SpriteText
