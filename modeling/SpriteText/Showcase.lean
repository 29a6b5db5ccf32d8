import SpriteText.Asset.Reader
import SpriteText.Asset.Writer
import SpriteText.Command.Report
import SpriteText.Files.Tree
import SpriteText.Sheet.Source

/-!
# Showcase

The showcase compiles a sheet, shows its sprites, writes them to an asset in a directory, and reads
the asset back to compare.
-/

namespace SpriteText.Showcase

/-- The sheet that is shown when no other is given. -/
def sheet : String :=
    "# Demo sprite sheet\n" ++
    "#\n" ++
    "# Each pixel is one glyph written twice. Indices follow first appearance,\n" ++
    "# so the background glyph goes first in every sprite.\n" ++
    "\n" ++
    "@sprite smiley\n" ++
    "    ....▒▒▒▒▒▒▒▒....\n" ++
    "    ..▒▒▒▒▒▒▒▒▒▒▒▒..\n" ++
    "    ▒▒▒▒██▒▒▒▒██▒▒▒▒\n" ++
    "    ▒▒▒▒▓▓▒▒▒▒▓▓▒▒▒▒\n" ++
    "    ▒▒▒▒▒▒▒▒▒▒▒▒▒▒▒▒\n" ++
    "    ▒▒▒▒██▒▒▒▒██▒▒▒▒\n" ++
    "    ..▒▒▒▒████▒▒▒▒..\n" ++
    "    ....▒▒▒▒▒▒▒▒....\n" ++
    "\n" ++
    "@sprite arrow_up\n" ++
    "    ......##......\n" ++
    "    ....######....\n" ++
    "    ..##########..\n" ++
    "    ##############\n" ++
    "    ......##......\n" ++
    "    ......##......\n" ++
    "\n" ++
    "@sprite checker\n" ++
    "    ..##..##\n" ++
    "    ##..##..\n" ++
    "    ..##..##\n" ++
    "    ##..##..\n"

/-- What stops a showcase. -/
inductive Fault where
  /-- The sheet gives no sprites. -/
  | drawing (fault : DrawingFault)
  /-- A file or directory cannot be made. -/
  | file (fault : Files.FileFault)
  /-- The sprites do not fit an asset. -/
  | writing (fault : Asset.WriteFault)
  /-- The asset cannot be read back. -/
  | reading (fault : Asset.AssetFault)
deriving DecidableEq, Repr

/-- What a showcase leaves behind. -/
structure Outcome where
  /-- The sprites, or what stopped it. -/
  sprites : Except Fault SpriteSet
  /-- What it prints. -/
  output : String := ""
  /-- The files after it. -/
  tree : Files.Tree

/-- A text filled up to a width with spaces after it. -/
def padRight (width : Nat) (text : String) : String :=
  text ++ String.ofList (List.replicate (width - text.length) ' ')

/-- A text filled up to a width with spaces before it. -/
def padLeft (width : Nat) (text : String) : String :=
  String.ofList (List.replicate (width - text.length) ' ') ++ text

/-- The line that compares a loaded sprite with the one that was written. -/
def comparison (name : String) (loaded : Sprite) (written : Option Sprite) : String :=
  let label := padRight 12 name
  let width := padLeft 3 (toString loaded.width)
  let height := padRight 3 (toString loaded.height)
  let status := if written = some loaded then "OK" else "MISMATCH"
  s!"  {label} {width}x{height} {status}\n"

/-- The comparisons of named sprites of an asset, up to the first that cannot be loaded. -/
def compareAll (reader : Asset.Reader) (sprites : SpriteSet) (printed : String) :
    List String → String × Option Asset.AssetFault
  | [] => (printed, none)
  | name :: rest =>
    match reader.get? name with
    | .error fault => (printed, some fault)
    | .ok none => compareAll reader sprites printed rest
    | .ok (some loaded) =>
      compareAll reader sprites (printed ++ comparison name loaded (sprites.get? name)) rest

/-- Reads an asset back from a path and compares it. -/
def readBack (tree : Files.Tree) (path : Files.Path) (sprites : SpriteSet) (printed : String) :
    Outcome :=
  match tree.read path with
  | .error fault => { sprites := .error (.file fault), output := printed, tree }
  | .ok bytes =>
    match Asset.Reader.open? bytes with
    | .error fault => { sprites := .error (.reading fault), output := printed, tree }
    | .ok reader =>
      match compareAll reader sprites printed reader.names with
      | (output, some fault) => { sprites := .error (.reading fault), output, tree }
      | (output, none) => { sprites := .ok sprites, output, tree }

/-- Writes sprites to an asset in a directory and reads it back. -/
def store (tree : Files.Tree) (directory : Files.Path) (sprites : SpriteSet) (printed : String) :
    Outcome :=
  match tree.makeDirectories directory with
  | (made, some fault) => { sprites := .error (.file fault), output := printed, tree := made }
  | (made, none) =>
    match Asset.encode sprites.entries with
    | .error fault => { sprites := .error (.writing fault), output := printed, tree := made }
    | .ok bytes =>
      let path := directory.child "sprites.bin"
      match made.write path bytes with
      | .error fault => { sprites := .error (.file fault), output := printed, tree := made }
      | .ok written =>
        readBack written path sprites (printed ++ Command.createdLine path bytes.length)

/-- Runs the showcase on a sheet with an output directory. -/
def run (tree : Files.Tree) (directory : Files.Path) (text : String) : Outcome :=
  let plain := String.ofList (Text.plainNewlines text.toList)
  match Sheet.compile plain none false with
  | .error fault => { sprites := .error (.drawing fault), tree }
  | .ok sprites => store tree directory sprites (String.join (Command.preview sprites))

end SpriteText.Showcase
