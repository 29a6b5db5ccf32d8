import SpriteText.Drawing.Build
import SpriteText.NameTable
import SpriteText.Sheet.Name
import SpriteText.Sheet.Sections

/-!
# Sprites of a sheet

A sheet holds several named drawings. Blank lines around a drawing are dropped, and the number of
its first line is kept, so that a fault in the drawing is placed in the sheet. A sheet without a
header is one drawing, named by default.
-/

namespace SpriteText.Sheet

/-- One drawing of a sheet. -/
structure Source where
  /-- The name of the sprite. -/
  name : String
  /-- The drawing, with its leading newline. -/
  text : String
  /-- The number of the line that holds its first row. -/
  firstLine : Nat
deriving DecidableEq, Repr

namespace Source

/-- What is added to line numbers of the drawing, whose first row is on its second line. -/
def lineOffset (source : Source) : Int := source.firstLine - 2

/-- A one-line description. -/
def describe (source : Source) : String :=
  let name := Text.quote source.name
  let line := source.firstLine
  s!"SpriteSource({name}, line {line})"

/-- The lines without the blank ones at both ends. -/
def trimLines (lines : List Line) : List Line :=
  ((lines.dropWhile Line.isBlank).reverse.dropWhile Line.isBlank).reverse

/-- The drawing of some lines: a newline, then every line with its end. -/
def drawing (lines : List Line) : String :=
  String.ofList ('\n' :: lines.flatMap fun line => line.characters ++ ['\n'])

/-- The source of a name and the lines after a header line. -/
def ofBody (name : String) (headerLine : Nat) (body : List Line) : Source where
  name
  text := drawing (trimLines body)
  firstLine := headerLine + 1 + (body.takeWhile Line.isBlank).length

/-- The sprite of a source. -/
def compile (source : Source) (alignTail : Bool) : Except DrawingFault Sprite :=
  match Drawing.compile source.text alignTail source.lineOffset with
  | .ok sprite => .ok sprite
  | .error fault => .error (fault.inSprite source.name)

end Source

/-- The name of a section, which must be there, be a sprite name and be new. -/
def Section.checkedName (part : Section) (taken : List String) : Except Fault String :=
  let fault (cause : Cause) : Fault := { cause, line := some part.headerLine }
  match part.name with
  | none => .error (fault .missingName)
  | some name =>
    if !isSpriteName name then .error (fault (.invalidName name))
    else if taken.contains name then .error (fault (.duplicateName name))
    else .ok name

/-- The sources of sections in order; some names are taken by sources before them. -/
def sourcesOf (taken : List String) : List Section → Except Fault (List Source)
  | [] => .ok []
  | part :: rest =>
    match part.checkedName taken with
    | .error fault => .error fault
    | .ok name =>
      match sourcesOf (name :: taken) rest with
      | .error fault => .error fault
      | .ok sources => .ok (Source.ofBody name part.headerLine part.body :: sources)

/-- The name of the only drawing of a sheet without headers. -/
def soleName (defaultName : Option String) : String :=
  match defaultName with
  | none => "sprite"
  | some name => if name.isEmpty then "sprite" else name

/-- The drawings of a sheet in order. -/
def parse (text : String) (defaultName : Option String) : Except Fault (List Source) :=
  let lines := numberedLines text
  match cut lines with
  | (_, []) =>
    let name := soleName defaultName
    if isSpriteName name then .ok [Source.ofBody name 0 lines]
    else .error { cause := .invalidName name }
  | (preamble, sections) =>
    match preamble.find? fun line => !isComment line with
    | some line => .error { cause := .strayContent, line := some line.number }
    | none => sourcesOf [] sections

/-- Compiles sources into a set that holds some sprites already, up to the first fault. -/
def compileInto (set : SpriteSet) (alignTail : Bool) :
    List Source → Except DrawingFault SpriteSet
  | [] => .ok set
  | source :: rest =>
    match source.compile alignTail with
    | .ok sprite => compileInto (set.insert source.name sprite) alignTail rest
    | .error fault => .error fault

/-- The sprites of sources. -/
def compileSources (sources : List Source) (alignTail : Bool) : Except DrawingFault SpriteSet :=
  compileInto .empty alignTail sources

/-- The sprites of a sheet. -/
def compile (text : String) (defaultName : Option String) (alignTail : Bool) :
    Except DrawingFault SpriteSet :=
  match parse text defaultName with
  | .ok sources => compileSources sources alignTail
  | .error fault => .error (.text fault)

end SpriteText.Sheet
