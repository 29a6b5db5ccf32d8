import SpriteText.NameTable
import SpriteText.Picture.Imaging
import SpriteText.Text.CodePoint

/-!
# Showing sprites

A sprite is shown as text, one code point a pixel, or as an image enlarged by a whole factor.
Several sprites are shown in a strip, one below the other with a gap between them.
-/

namespace SpriteText

/-- Why sprites cannot be shown. -/
inductive RenderFault where
  /-- There are fewer shades than ranks. -/
  | fewShades (depth : BitDepth)
  /-- The factor is not positive. -/
  | scale
  /-- There are fewer colours than ranks. -/
  | fewColors (depth : BitDepth)
  /-- There is nothing to stack. -/
  | noSprites
  /-- The imaging library fails. -/
  | imaging (fault : ImagingFault)
deriving DecidableEq, Repr

/-- The wording of a fault. -/
def RenderFault.message : RenderFault → String
  | .fewShades depth =>
    let ranks := depth.ranks
    let bits := depth.bits
    s!"need {ranks} shades for {bits} bpp"
  | .scale => "scale must be >= 1"
  | .fewColors depth =>
    let ranks := depth.ranks
    let bits := depth.bits
    s!"need {ranks} palette colors for {bits} bpp"
  | .noSprites => "no sprites to render"
  | .imaging fault => fault.message

namespace Render

/-- The shades of previews by rank, from light to dark. -/
def defaultShades : String := "·░▒█"

/-- The colours by rank, from light to dark. -/
def defaultPalette : List Int := [0xE0F8CF, 0x86C06C, 0x306850, 0x071821]

section

variable {Letter : Type} [Inhabited Letter]

/-- One row with a shade for every pixel. -/
def shadeRow (shades : List Letter) (row : List Nat) : List Letter :=
  row.map fun rank => shades.getD rank default

/-- The rows of a sprite with a shade for every pixel. -/
def shadeRows (shades : List Letter) (sprite : Sprite) : List (List Letter) :=
  sprite.rows.map (shadeRow shades)

end

/-- A sprite as text; there must be a shade for every rank of its depth. -/
def text (sprite : Sprite) (shades : List CodePoint) : Except RenderFault (List CodePoint) :=
  if shades.length < sprite.depth.ranks then .error (.fewShades sprite.depth)
  else .ok ([CodePoint.newline].intercalate (shadeRows shades sprite))

/-- The bytes of a colour, which are the lowest 24 bits of a number, red highest. -/
def colorBytes (color : Int) : List UInt8 :=
  [UInt8.ofNat (color / 65536 % 256).toNat, UInt8.ofNat (color / 256 % 256).toNat,
    UInt8.ofNat (color % 256).toNat]

/-- The bytes of a palette. -/
def flatPalette (colors : List Int) : List UInt8 := colors.flatMap colorBytes

variable (library : Imaging)

/-- A sprite as an image that has one pixel for each of its pixels. -/
def naturalImage (sprite : Sprite) (colors : List Int) : Except ImagingFault library.Image := do
  let blank ← library.new sprite.width sprite.height
  let colored ← library.putPalette blank (flatPalette colors)
  library.putData colored sprite.rows.flatten

/-- A sprite as an image, with every pixel as a square whose side is the factor. The factor is
looked at first, then the number of colours. -/
def image (sprite : Sprite) (colors : List Int) (scale : Int) :
    Except RenderFault library.Image :=
  if scale < 1 then .error .scale
  else if colors.length < sprite.depth.ranks then .error (.fewColors sprite.depth)
  else Except.mapError RenderFault.imaging do
    let natural ← naturalImage library sprite colors
    if 1 < scale then library.resize natural (sprite.width * scale) (sprite.height * scale)
    else return natural

/-- The images of sprites, in order. -/
def images (colors : List Int) (scale : Int) :
    List Sprite → Except RenderFault (List library.Image)
  | [] => return []
  | sprite :: rest => do
    let shown ← image library sprite colors scale
    let others ← images colors scale rest
    return shown :: others

/-- Pastes images into a strip, the first one at a row and each further one below the one before
it, with a distance between them. -/
def pasteAll (distance : Int) (strip : library.Image) (top : Int) :
    List library.Image → Except ImagingFault library.Image
  | [] => return strip
  | shown :: rest => do
    let pasted ← library.paste strip shown 0 top
    pasteAll distance pasted (top + (library.height shown + distance)) rest

/-- The width of the widest image. -/
def maxWidth (shown : List library.Image) : Nat :=
  (shown.map library.width).foldl max 0

/-- The heights of all images together, and the distances between them. -/
def stackHeight (distance : Int) (shown : List library.Image) : Int :=
  let heights := (shown.map library.height).foldr Nat.add 0
  heights + distance * ((shown.length : Int) - 1)

/-- Sprites as a strip. Their images are made first. -/
def strip (sprites : List Sprite) (colors : List Int) (scale gap : Int) :
    Except RenderFault library.Image := do
  let shown ← images library colors scale sprites
  if shown.isEmpty then throw .noSprites
  let distance := gap * scale
  Except.mapError RenderFault.imaging do
    let blank ← library.new (maxWidth library shown) (stackHeight library distance shown)
    let colored ← library.putPalette blank (flatPalette colors)
    pasteAll library distance colored 0 shown

end Render

end SpriteText
