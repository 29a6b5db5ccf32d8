import SpriteText.Picture.Imaging
import SpriteText.Picture.Png

/-!
# Pictures as an imaging library

A library for programs that have no other. It refuses what has no sense, and sets no limit to sizes:
a picture is as large as there is room for it.
-/

namespace SpriteText.Picture

/-- A new picture of a width and height; it has no colours yet. -/
def blank (width height : Int) : Except ImagingFault Picture :=
  if width < 0 ∨ height < 0 then .error (.value "Width and height must be >= 0")
  else .ok (.ofFn width.toNat height.toNat [] fun _ _ => 0)

/-- A picture with another palette of up to 256 colours. -/
def withPalette (picture : Picture) (bytes : List UInt8) : Except ImagingFault Picture :=
  if 768 < bytes.length then .error (.value "invalid palette size")
  else .ok { picture with palette := bytes }

/-- A picture with other ranks. -/
def withData (picture : Picture) (ranks : List Nat) : Picture :=
  let stored := ranks.toArray
  .ofFn picture.width picture.height picture.palette fun x y =>
    stored.getD (y * picture.width + x) 0

/-- A picture with other sides. The middle of every new pixel lies in the pixel that it is taken
from. -/
def stretched (picture : Picture) (width height : Nat) : Picture :=
  .ofFn width height picture.palette fun x y =>
    picture.pixel ((2 * x + 1) * picture.width / (2 * width))
      ((2 * y + 1) * picture.height / (2 * height))

/-- A picture resized to a width and height. One of this size already is left as it is. -/
def resize (picture : Picture) (width height : Int) : Except ImagingFault Picture :=
  if width = picture.width ∧ height = picture.height then .ok picture
  else if width ≤ 0 ∨ height ≤ 0 then .error (.value "height and width must be > 0")
  else .ok (picture.stretched width.toNat height.toNat)

/-- A picture with another one pasted at a column and row. -/
def pasted (picture other : Picture) (left top : Int) : Picture :=
  .ofFn picture.width picture.height picture.palette fun x y =>
    if left ≤ x ∧ x < left + other.width ∧ top ≤ y ∧ y < top + other.height then
      other.pixel (x - left).toNat (y - top).toNat
    else picture.pixel x y

/-- Saves a picture as a PNG file. Its name must say so behind something other than dots. -/
def save (picture : Picture) (path : Files.Path) (tree : Files.Tree) :
    Files.Tree × Option ImagingFault :=
  if path.hasExtension then
    match tree.write path (Png.encode picture) with
    | .ok written => (written, none)
    | .error fault => (tree, some (.file fault))
  else (tree, some (.value "unknown file extension: "))

/-- The library of pictures. -/
def imaging : Imaging where
  Image := Picture
  width := width
  height := height
  pixel := pixel
  palette := palette
  new := blank
  putPalette := withPalette
  putData picture ranks := .ok (picture.withData ranks)
  resize := resize
  paste picture other left top := .ok (picture.pasted other left top)
  save := save

end SpriteText.Picture
