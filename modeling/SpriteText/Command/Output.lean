import SpriteText.Asset.Writer
import SpriteText.Command.Host
import SpriteText.Constants.Header
import SpriteText.Constants.Module
import SpriteText.Picture.Render

/-!
# Output files

The suffix of the output decides what is written: a module of constants, a header of arrays, a
picture, or an asset. Any other suffix gives an asset and a warning. What is written is made first.
Text is encoded only when its file has been opened, and a file that is opened is empty.
-/

namespace SpriteText.Command

/-- What can be written. -/
inductive Format where
  /-- A module of constants. -/
  | constants
  /-- A header of arrays. -/
  | arrays
  /-- A picture. -/
  | picture
  /-- An asset, with the suffix if it is not one of an asset. -/
  | asset (unknownSuffix : Option String)
deriving DecidableEq, Repr

/-- Why the output cannot be made. -/
inductive OutputFault where
  /-- The sprites do not fit an asset. -/
  | asset (fault : Asset.WriteFault)
  /-- The sprites cannot be drawn, or their picture not be saved. -/
  | render (fault : RenderFault)
  /-- The file or a directory around it cannot be written. -/
  | file (fault : Files.FileFault)
  /-- The text has no encoding. -/
  | encoding (problem : String)
  /-- The warning cannot be printed. -/
  | printing (problem : String)
deriving DecidableEq, Repr

/-- The wording of an output fault. -/
def OutputFault.message : OutputFault → String
  | .asset fault => fault.message
  | .render fault => fault.message
  | .file fault => fault.message
  | .encoding problem => problem
  | .printing problem => problem

/-- The format that a path asks for, by its suffix in lower case. -/
def Format.ofPath (path : Files.Path) : Format :=
  let suffix := Text.lowercase path.suffix
  if suffix = ".py" then .constants
  else if suffix = ".h" then .arrays
  else if suffix = ".png" then .picture
  else if suffix = ".bin" ∨ suffix = ".spr" then .asset none
  else .asset (some suffix)

/-- The warning that a format comes with, if any. -/
def Format.warning : Format → List String
  | .asset (some suffix) =>
    [s!"Warning: Unknown output extension '{suffix}', defaulting to sprite asset\n"]
  | _ => []

/-- A name with underscores for hyphens and dots. -/
def underscored (name : String) : String :=
  String.ofList (name.toList.map fun character =>
    if character = '-' || character = '.' then '_' else character)

/-- The name that guards a header, from the name of its file. -/
def guardName (path : Files.Path) : String := underscored (Text.uppercase path.stem) ++ "_H"

/-- The picture of a set: one sprite alone, or several in a strip. -/
def setPicture (library : Imaging) (sprites : SpriteSet) (scale : Int) :
    Except RenderFault library.Image :=
  match sprites.values with
  | [sprite] => Render.image library sprite Render.defaultPalette scale
  | several => Render.strip library several Render.defaultPalette scale 1

/-- What is made of sprites to be written. -/
inductive Content (library : Imaging) where
  /-- A text. -/
  | text (text : String)
  /-- Bytes. -/
  | bytes (bytes : List UInt8)
  /-- A picture. -/
  | picture (image : library.Image)

/-- What is written to a path. -/
def content (library : Imaging) (path : Files.Path) (sprites : SpriteSet) (sourceName : String)
    (scale : Int) : Except OutputFault (Content library) :=
  match Format.ofPath path with
  | .constants => .ok (.text (Constants.moduleText sprites (some sourceName)))
  | .arrays => .ok (.text (Constants.headerText sprites (some sourceName) (guardName path)))
  | .picture =>
    match setPicture library sprites scale with
    | .error fault => .error (.render fault)
    | .ok image => .ok (.picture image)
  | .asset _ =>
    match Asset.encode sprites.entries with
    | .error fault => .error (.asset fault)
    | .ok bytes => .ok (.bytes bytes)

/-- The tree after bytes have been written at a path, and why they have not. -/
def storeBytes (tree : Files.Tree) (path : Files.Path) (bytes : List UInt8) :
    Files.Tree × Option OutputFault :=
  match tree.write path bytes with
  | .error fault => (tree, some (.file fault))
  | .ok written => (written, none)

/-- The tree after a content has been stored at a path, and why it has not. The file of a text that
has no encoding is open by then, and stays empty. -/
def store (host : Host) (tree : Files.Tree) (path : Files.Path) :
    Content host.imaging → Files.Tree × Option OutputFault
  | .bytes bytes => storeBytes tree path bytes
  | .text text =>
    match host.encode text with
    | .ok bytes => storeBytes tree path bytes
    | .error problem =>
      match storeBytes tree path [] with
      | (opened, none) => (opened, some (.encoding problem))
      | unopened => unopened
  | .picture image =>
    match host.imaging.save image path tree with
    | (after, none) => (after, none)
    | (after, some fault) => (after, some (.render (.imaging fault)))

/-- The tree after the output has been written, and the number of bytes that its file has then. -/
def write (host : Host) (tree : Files.Tree) (path : Files.Path) (sprites : SpriteSet)
    (sourceName : String) (scale : Int) : Files.Tree × Except OutputFault Nat :=
  match content host.imaging path sprites sourceName scale with
  | .error fault => (tree, .error fault)
  | .ok made =>
    match store host tree path made with
    | (after, some fault) => (after, .error fault)
    | (after, none) =>
      match after.size path with
      | .error fault => (after, .error (.file fault))
      | .ok count => (after, .ok count)

end SpriteText.Command
