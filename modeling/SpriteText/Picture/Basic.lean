/-!
# Paletted pictures

A picture gives every pixel a rank in a palette of colours. Pixels are kept row by row.
-/

namespace SpriteText

/-- A picture with a palette. -/
structure Picture where
  /-- Pixels across. -/
  width : Nat
  /-- Pixels down. -/
  height : Nat
  /-- The colours by rank, three bytes for each, red first. -/
  palette : List UInt8
  /-- The ranks of the pixels, row by row. -/
  pixels : Array Nat
  /-- There is one rank for every pixel. -/
  size_pixels : pixels.size = width * height
deriving DecidableEq

namespace Picture

/-- The picture whose pixel at a column and row is given by a function. -/
def ofFn (width height : Nat) (palette : List UInt8) (rank : Nat → Nat → Nat) : Picture where
  width
  height
  palette
  pixels := Array.ofFn fun place : Fin (width * height) => rank (place % width) (place / width)
  size_pixels := by simp

/-- The rank of the pixel at a column and row; outside the picture it is 0. -/
def pixel (picture : Picture) (x y : Nat) : Nat :=
  if x < picture.width ∧ y < picture.height then
    picture.pixels.getD (y * picture.width + x) 0
  else 0

end Picture

end SpriteText
