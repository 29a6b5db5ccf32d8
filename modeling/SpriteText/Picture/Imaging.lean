import SpriteText.Files.Tree

/-!
# Imaging libraries

Pictures are made and saved by a library that is not part of this development. It is given by its
calls on images with a palette: an image has a size, a rank for every pixel inside, and the bytes of
its palette, three for each colour. Every call can fail. What is documented of the calls is stated
beside them as properties that a library may have.
-/

namespace SpriteText

/-- How a call of an imaging library fails. -/
inductive ImagingFault where
  /-- A value is refused. -/
  | value (text : String)
  /-- A file cannot be used. -/
  | file (fault : Files.FileFault)
  /-- In another way, as with too little room for an image. -/
  | other (kind text : String)
deriving DecidableEq, Repr

/-- The wording of a failed call. -/
def ImagingFault.message : ImagingFault → String
  | .value text => text
  | .file fault => fault.message
  | .other _ text => text

/-- The calls of an imaging library. -/
structure Imaging where
  /-- Images with a palette. -/
  Image : Type
  /-- Pixels across. -/
  width : Image → Nat
  /-- Pixels down. -/
  height : Image → Nat
  /-- The rank of the pixel at a column and row inside. -/
  pixel : Image → Nat → Nat → Nat
  /-- The bytes of the palette, three for each colour. -/
  palette : Image → List UInt8
  /-- A new image of a width and height. -/
  new : Int → Int → Except ImagingFault Image
  /-- The image with another palette. -/
  putPalette : Image → List UInt8 → Except ImagingFault Image
  /-- The image with other ranks, row by row. -/
  putData : Image → List Nat → Except ImagingFault Image
  /-- The image resized to a width and height, every pixel as the nearest one of the image. -/
  resize : Image → Int → Int → Except ImagingFault Image
  /-- The first image with the second one pasted at a column and row. -/
  paste : Image → Image → Int → Int → Except ImagingFault Image
  /-- The files after the image is saved at a path, and why that failed. -/
  save : Image → Files.Path → Files.Tree → Files.Tree × Option ImagingFault

namespace Imaging

variable (library : Imaging)

/-- Saving an image fails before anything is written, or writes the whole file. Which of these comes
of it, and what the file holds, is settled by the image and the path. -/
def SavesWhole : Prop :=
  ∀ image path,
    (∃ fault, ∀ tree, library.save image path tree = (tree, some fault)) ∨
    ∃ bytes, ∀ tree : Files.Tree, library.save image path tree =
      match tree.write path bytes with
      | .ok written => (written, none)
      | .error fault => (tree, some (.file fault))

end Imaging

end SpriteText
