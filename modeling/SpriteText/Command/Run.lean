import SpriteText.Command.Output
import SpriteText.Command.Report
import SpriteText.Command.Request
import SpriteText.Sheet.Source

/-!
# Runs

A run reads a sheet, compiles its sprites, shows them if asked to, and writes one file. It answers
with an exit status, or with the fault that it does not handle, along with all that it prints and
the files as it leaves them.
-/

namespace SpriteText.Command

/-- A fault that a run does not handle. -/
inductive Escape where
  /-- A file cannot be used. -/
  | file (fault : Files.FileFault)
  /-- A drawing gives no sprite. -/
  | drawing (fault : DrawingFault)
  /-- A field of an asset cannot hold a number. -/
  | asset (fault : Asset.WriteFault)
  /-- The imaging library fails in a way that is not looked for. -/
  | imaging (fault : ImagingFault)
  /-- A line cannot be printed. -/
  | printing (problem : String)
  /-- The enlargement is empty and cannot be compared. -/
  | emptyScale
  /-- A selected name is empty and cannot be looked up. -/
  | emptyName
deriving DecidableEq, Repr

/-- The wording of a fault that a run does not handle. -/
def Escape.message : Escape → String
  | .file fault => fault.message
  | .drawing fault => fault.message
  | .asset fault => fault.message
  | .imaging fault => fault.message
  | .printing problem => problem
  | .emptyScale => "'<' not supported between instances of 'list' and 'int'"
  | .emptyName => "unhashable type: 'list'"

/-- How a run ends. -/
inductive Exit where
  /-- With a status. -/
  | status (code : Nat)
  /-- With a fault that is not handled. -/
  | escape (fault : Escape)
deriving DecidableEq, Repr

/-- What a run leaves behind. -/
structure Outcome where
  /-- How it ends. -/
  exit : Exit
  /-- What it prints. -/
  output : String := ""
  /-- What it reports. -/
  errors : String := ""
  /-- The files after it. -/
  tree : Files.Tree

/-- The text that help is given with. -/
def helpText : String :=
  "usage: spritec [-h] [--name NAME] [--only NAME] [--align-tail] [--scale SCALE]\n" ++
  "               [--preview] [--preview-only]\n" ++
  "               input [output]\n\n" ++
  "Compile doubled-glyph sprite text into packed indexed bitmaps\n\n" ++
  "positional arguments:\n" ++
  "  input                 Sprite text file or sheet\n" ++
  "  output                Output file (optional for preview-only)\n\n" ++
  "options:\n" ++
  "  -h, --help            show this help message and exit\n" ++
  "  --name NAME, -n NAME  Sprite name for files without @sprite headers\n" ++
  "                        (default: file stem)\n" ++
  "  --only NAME           Compile only this sprite (can repeat)\n" ++
  "  --align-tail          Left-align a trailing partial byte\n" ++
  "  --scale SCALE, -s SCALE\n" ++
  "                        Upscale factor for PNG output (default: 1)\n" ++
  "  --preview             Print compiled sprites in the terminal\n" ++
  "  --preview-only        Only preview, don't write output\n\n" ++
  "Output format is chosen by extension: .py, .h, .bin/.spr, .png\n"

/-- The name of the sprite of a sheet without headers. -/
def defaultName (request : Request) : String :=
  match request.name with
  | some name => if name.isEmpty then underscored request.input.stem else name
  | none => underscored request.input.stem

/-- The warning about a selected name that no source has. -/
def missingWarning (input : Files.Path) (name : String) : String :=
  let spelling := input.spelling
  s!"Warning: No sprite named '{name}' in {spelling}\n"

/-- The warnings about selected names that are not known, up to the first empty name, and whether
there is an empty name. -/
def missingWarnings (input : Files.Path) (known : List String) :
    List (Option String) → List String × Bool
  | [] => ([], false)
  | none :: _ => ([], true)
  | some name :: rest =>
    let (warnings, stopped) := missingWarnings input known rest
    (if known.contains name then warnings else missingWarning input name :: warnings, stopped)

/-- The sources selected by name; no selection selects all. -/
def selected (request : Request) (sources : List Sheet.Source) : List Sheet.Source :=
  if request.only.isEmpty then sources
  else sources.filter fun source => request.only.contains (some source.name)

/-- The fault of an output that a run does not handle: a number that does not fit its field, or a
library that fails otherwise than by a value or a file. -/
def escape? : OutputFault → Option Escape
  | .asset fault => if fault.isOverflow then some (.asset fault) else none
  | .render (.imaging (.other kind text)) => some (.imaging (.other kind text))
  | .render _ | .file _ | .encoding _ | .printing _ => none

/-- The end of a run whose output cannot be made. -/
def outputExit (tree : Files.Tree) (path : Files.Path) (printed : String) (fault : OutputFault) :
    Outcome :=
  match escape? fault with
  | some escape => { exit := .escape escape, output := printed, tree }
  | none =>
    let spelling := path.spelling
    let message := fault.message
    { exit := .status 1, output := printed, errors := s!"Error: {spelling}: {message}\n", tree }

variable (host : Host)

/-- Tells of the file that has been written. The file stays if this cannot be printed. -/
def report (tree : Files.Tree) (path : Files.Path) (printed : String) (count : Nat) : Outcome :=
  match host.print printed [createdLine path count] with
  | (output, some problem) => { exit := .escape (.printing problem), output, tree }
  | (output, none) => { exit := .status 0, output, tree }

/-- Writes the output after what has been printed. -/
def finish (tree : Files.Tree) (request : Request) (printed : String) (sprites : SpriteSet)
    (path : Files.Path) : Outcome :=
  match tree.makeDirectories path.parent with
  | (made, some fault) => outputExit made path printed (.file fault)
  | (made, none) =>
    match host.print printed (Format.ofPath path).warning with
    | (warned, some problem) => outputExit made path warned (.printing problem)
    | (warned, none) =>
      match write host made path sprites request.input.name request.scale with
      | (after, .error fault) => outputExit after path warned fault
      | (after, .ok count) => report host after path warned count

/-- Compiles sources, shows the sprites and writes the output. -/
def build (tree : Files.Tree) (request : Request) (printed : String)
    (sources : List Sheet.Source) : Outcome :=
  match Sheet.compileSources sources request.alignTail with
  | .error (.text fault) =>
    { exit := .status 1, output := printed, errors := faultLine request.input fault, tree }
  | .error fault => { exit := .escape (.drawing fault), output := printed, tree }
  | .ok sprites =>
    let compiled := sprites.entries.map fun entry => compiledLine entry.1 entry.2
    match host.print printed (compiled ++ if request.preview then preview sprites else []) with
    | (shown, some problem) => { exit := .escape (.printing problem), output := shown, tree }
    | (shown, none) =>
      match request.previewOnly, request.output with
      | false, some path => finish host tree request shown sprites path
      | _, _ => { exit := .status 0, output := shown, tree }

/-- Selects sources of a sheet, with warnings about names that it does not have. -/
def select (tree : Files.Tree) (request : Request) (sources : List Sheet.Source) : Outcome :=
  let (warnings, stopped) :=
    missingWarnings request.input (sources.map Sheet.Source.name) request.only
  match host.print "" warnings, stopped with
  | (printed, some problem), _ => { exit := .escape (.printing problem), output := printed, tree }
  | (printed, none), true => { exit := .escape .emptyName, output := printed, tree }
  | (printed, none), false =>
    let chosen := selected request sources
    if !request.only.isEmpty && chosen.isEmpty then
      { exit := .status 1, output := printed, errors := "Error: No sprites selected\n", tree }
    else build host tree request printed chosen

/-- Reads the sheet from text. -/
def compileText (tree : Files.Tree) (request : Request) (text : String) : Outcome :=
  match Sheet.parse text (some (defaultName request)) with
  | .error fault =>
    { exit := .status 1, errors := faultLine request.input fault, tree }
  | .ok sources => select host tree request sources

/-- The text of a file's bytes, with line feeds alone at line ends. -/
def sheetText (bytes : List UInt8) : Except Utf8.Malformed String :=
  match Utf8.decode bytes with
  | .error found => .error found
  | .ok text => .ok (String.ofList (Text.plainNewlines text.toList))

/-- Carries out a request. -/
def perform (tree : Files.Tree) (request : Request) : Outcome :=
  let input := request.input.spelling
  match tree.exists? request.input with
  | .error fault => { exit := .escape (.file fault), tree }
  | .ok false =>
    { exit := .status 1, errors := s!"Error: Input file not found: {input}\n", tree }
  | .ok true =>
    match tree.read request.input with
    | .error fault => { exit := .escape (.file fault), tree }
    | .ok bytes =>
      match sheetText bytes with
      | .error found =>
        let reason := found.defect.reason
        let start := found.start
        { exit := .status 1
          errors := s!"Error: {input}: not valid UTF-8 ({reason} at byte {start})\n"
          tree }
      | .ok text => compileText host tree request text

/-- Runs an argument list on files. -/
def run (tree : Files.Tree) (arguments : List String) : Outcome :=
  match Request.ofArguments arguments with
  | .ok request => perform host tree request
  | .error .help => { exit := .status 0, output := helpText, tree }
  | .error .emptyScale => { exit := .escape .emptyScale, tree }
  | .error (.usage fault) =>
    let message := fault.message
    { exit := .status 2, errors := s!"spritec: error: {message}\n", tree }

end SpriteText.Command
