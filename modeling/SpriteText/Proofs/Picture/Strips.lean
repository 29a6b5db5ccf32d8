import Mathlib.Data.List.Forall2
import Mathlib.Data.List.MinMax
import Mathlib.Tactic.Ring
import SpriteText.Command.Output
import SpriteText.Proofs.Packing.Repacked
import SpriteText.Proofs.Picture.Canvas

/-!
# What a strip shows

The height of a strip is computed at once, and the row of every image by adding up the heights and
gaps above it (`Render.topOf`). Both come to the same, so every sprite is shown whole, below those
before it and above those after it (`Render.Shows`). The images are made by a library of which no
more is known than what is documented of its calls.
-/

namespace SpriteText

namespace Render

variable {library : Imaging} {sprite other : Sprite} {sprites : List Sprite} {colors : List Int}
  {scale gap x y : Nat}

/-! ## Sizes -/

/-- The width of a strip. -/
def stripWidth (scale : Nat) (sprites : List Sprite) : Nat :=
  scale * (sprites.map Sprite.width).foldr max 0

/-- The height of a strip. -/
def stripHeight (scale gap : Nat) (sprites : List Sprite) : Nat :=
  scale * ((sprites.map Sprite.height).sum + gap * (sprites.length - 1))

/-- The row where a sprite starts below others. -/
def topOf (scale gap : Nat) (above : List Sprite) : Nat :=
  scale * (above.map fun sprite => sprite.height + gap).sum

/-- The sprite at an index is shown at a pixel of the strip. -/
structure Occupies (scale gap : Nat) (sprites : List Sprite) (index : Nat) (sprite : Sprite)
    (x y : Nat) : Prop where
  /-- It is the sprite at the index. -/
  found : sprites[index]? = some sprite
  /-- The pixel is in one of its columns. -/
  column : x < scale * sprite.width
  /-- The pixel is not above it. -/
  below : topOf scale gap (sprites.take index) ≤ y
  /-- The pixel is not below it. -/
  row : y < topOf scale gap (sprites.take index) + scale * sprite.height

/-- An image shows sprites whole, one below the other in order, and nothing else. -/
structure Shows (image : library.Image) (sprites : List Sprite) (scale gap : Nat) : Prop where
  /-- It is as wide as the widest sprite. -/
  width : library.width image = stripWidth scale sprites
  /-- It is as high as all sprites and the gaps between them. -/
  height : library.height image = stripHeight scale gap sprites
  /-- A pixel of the image shows one sprite at most. -/
  apart : ∀ {first second : Nat} {sprite other : Sprite} {x y : Nat},
    Occupies scale gap sprites first sprite x y →
      Occupies scale gap sprites second other x y → first = second
  /-- All of a sprite is in the image, every pixel of it as a square. -/
  inside : ∀ {index : Nat} {sprite : Sprite} {x y : Nat},
    Occupies scale gap sprites index sprite x y →
      x < library.width image ∧ y < library.height image ∧
        sprite.getPixel (x / scale : Nat)
          ((y - topOf scale gap (sprites.take index)) / scale : Nat) =
            .ok (library.pixel image x y)
  /-- All other pixels have rank 0. -/
  outside : ∀ {x y : Nat}, x < library.width image → y < library.height image →
    (∀ index sprite, ¬Occupies scale gap sprites index sprite x y) → library.pixel image x y = 0

end Render

end SpriteText
