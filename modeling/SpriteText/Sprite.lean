import SpriteText.Packing
import SpriteText.Text.Hexadecimal

/-!
# Sprites

A sprite is a packed picture: pixel `n = y * width + x` takes the bits from `n * bits` on, counted
from the highest bit of the first byte. Rows do not start on a byte. Where the pixels do not fill
the last byte, it holds them in its high bits or, with a tail that is not aligned, in its low bits.
-/

namespace SpriteText

/-- A packed picture. -/
structure Sprite where
  /-- Pixels across. -/
  width : Nat
  /-- Pixels down. -/
  height : Nat
  /-- Bits of a pixel. -/
  depth : BitDepth
  /-- The packed pixels. -/
  data : Array UInt8
  /-- Whether a last byte that is not filled holds its pixels in its high bits. -/
  tailAligned : Bool
  /-- The data has the length that the shape asks for. -/
  size_data : data.size = depth.bytesFor (width * height)
  /-- Only a last byte that is not filled can be stored either way. -/
  aligned_of_full : width * height * depth.bits % 8 = 0 → tailAligned = true
deriving DecidableEq

/-- Why data is no picture of a shape. -/
inductive ShapeFault where
  /-- A bit count is no depth. -/
  | unknownDepth (bits : Int)
  /-- A side is negative. -/
  | negative
  /-- The data has another length than the shape asks for. -/
  | length (width height : Int) (depth : BitDepth) (expected : Int) (found : Nat)
deriving DecidableEq, Repr

/-- The wording of a shape fault. -/
def ShapeFault.message : ShapeFault → String
  | .unknownDepth bits => BitDepth.unknownMessage bits
  | .negative => "sprite shape must not be negative"
  | .length width height depth expected found =>
    let bits := depth.bits
    s!"sprite {width}x{height} at {bits} bpp needs {expected} bytes, got {found}"

/-- A pixel outside a picture. -/
structure PixelFault where
  /-- Its column. -/
  x : Int
  /-- Its row. -/
  y : Int
  /-- The width of the picture. -/
  width : Nat
  /-- The height of the picture. -/
  height : Nat
deriving DecidableEq, Repr

/-- The wording of a pixel fault. -/
def PixelFault.message : PixelFault → String
  | ⟨x, y, width, height⟩ => s!"pixel ({x}, {y}) outside {width}x{height} sprite"

namespace Sprite

/-- A sprite from natural sides and a known depth. -/
def ofShape (width height : Nat) (depth : BitDepth) (data : Array UInt8) (tailAligned : Bool) :
    Except ShapeFault Sprite :=
  if size_data : data.size = depth.bytesFor (width * height) then
    .ok {
      width, height, depth, data, size_data
      tailAligned := tailAligned || width * height * depth.bits % 8 == 0
      aligned_of_full := by intro full; simp [full] }
  else .error (.length width height depth (depth.bytesFor (width * height)) data.size)

/-- A sprite from any numbers. The bit count is checked first, then the signs, then the length. -/
def ofBytes (width height bits : Int) (data : Array UInt8) (tailAligned : Bool) :
    Except ShapeFault Sprite :=
  match BitDepth.ofInt? bits with
  | none => .error (.unknownDepth bits)
  | some depth =>
    if width < 0 ∨ height < 0 then .error .negative
    else ofShape width.toNat height.toNat depth data tailAligned

/-- The number of data bytes. -/
def byteCount (sprite : Sprite) : Nat := sprite.data.size

/-- The number of pixels. -/
def pixelCount (sprite : Sprite) : Nat := sprite.width * sprite.height

/-- The byte that holds a pixel's bits. -/
def byteIndex (sprite : Sprite) (x y : Nat) : Nat :=
  (y * sprite.width + x) * sprite.depth.bits / 8

/-- How far a pixel's bits are above the lowest bit of their byte. -/
def shift (sprite : Sprite) (x y : Nat) : Nat :=
  let bits := sprite.depth.bits
  let start := (y * sprite.width + x) * bits % 8
  if !sprite.tailAligned && sprite.byteIndex x y + 1 == sprite.data.size then
    sprite.pixelCount * bits % 8 - bits - start
  else 8 - bits - start

/-- The rank of the pixel at a column and row inside the picture. -/
def pixel (sprite : Sprite) (x y : Nat) : Nat :=
  (sprite.data.getD (sprite.byteIndex x y) 0).toNat >>> sprite.shift x y % sprite.depth.ranks

/-- The rank of the pixel at any column and row, which must be inside the picture. -/
def getPixel (sprite : Sprite) (x y : Int) : Except PixelFault Nat :=
  if 0 ≤ x ∧ x < sprite.width ∧ 0 ≤ y ∧ y < sprite.height then
    .ok (sprite.pixel x.toNat y.toNat)
  else .error ⟨x, y, sprite.width, sprite.height⟩

/-- All ranks, row by row. -/
def rows (sprite : Sprite) : List (List Nat) :=
  (List.range sprite.height).map fun y => (List.range sprite.width).map fun x => sprite.pixel x y

/-- A one-line description. -/
def describe (sprite : Sprite) : String :=
  let width := sprite.width
  let height := sprite.height
  let label := sprite.depth.label
  let digits := Text.hexBytes sprite.data.toList
  let tail := if sprite.tailAligned then "" else ", tail_aligned=False"
  s!"Sprite({width}x{height}, bpp={label}, data={digits}{tail})"

end Sprite

end SpriteText
