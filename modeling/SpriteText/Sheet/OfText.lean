import SpriteText.Drawing.OfText
import SpriteText.Sheet.Source

/-!
# Sheets given as text

A sheet may be given as text that has no encoding. It is cut into drawings all the same, and only a
drawing that holds a surrogate is refused for it, without a word on where in the sheet it stands.
-/

namespace SpriteText

namespace TextSheet

/-- Whether a code point is blank. -/
def isBlank (code : CodePoint) : Bool := Text.covers Text.blanks code.value

/-- The carriage return. -/
def carriageReturn : CodePoint := .ofChar '\r'

/-- The sign that starts a comment. -/
def numberSign : CodePoint := .ofChar '#'

/-- The word that makes a line a header. -/
def headerWord : List CodePoint := Text.codePoints "@sprite"

/-- A line of a sheet with its number. -/
structure Line where
  /-- The number of the line, from 1. -/
  number : Nat
  /-- The code points without the line's end. -/
  codes : List CodePoint
deriving DecidableEq, Repr

/-- A line that holds nothing but blanks. -/
def Line.isBlank (line : Line) : Bool := line.codes.all TextSheet.isBlank

/-- A header and the lines up to the next. -/
structure Section where
  /-- The number of the header line. -/
  headerLine : Nat
  /-- The name that the header gives, if it gives one. -/
  name : Option (List CodePoint)
  /-- The lines after the header. -/
  body : List Line
deriving DecidableEq, Repr

/-- Lines end at a line feed; what follows the last one is a line only if it is not empty. -/
def lines (text : List CodePoint) : List (List CodePoint) :=
  let parts := Text.pieces (fun code => code = .newline) text
  if parts.getLast? = some [] then parts.dropLast else parts

/-- A line without one carriage return at its end. -/
def dropReturn (line : List CodePoint) : List CodePoint :=
  if line.getLast? = some carriageReturn then line.dropLast else line

/-- The numbered lines of a sheet. -/
def numberedLines (text : List CodePoint) : List Line :=
  ((lines text).map dropReturn).zipIdx.map fun entry => { number := entry.2 + 1, codes := entry.1 }

/-- The non-empty pieces between blanks. -/
def words (line : List CodePoint) : List (List CodePoint) :=
  (Text.pieces isBlank line).filter fun piece => !piece.isEmpty

/-- The name on a header line, which may be missing; other lines have no answer. -/
def header? (line : List CodePoint) : Option (Option (List CodePoint)) :=
  match words line with
  | [word] => if word = headerWord then some none else none
  | [word, name] => if word = headerWord then some (some name) else none
  | _ => none

/-- The preamble and the sections of a sheet's lines. -/
def cut (lines : List Line) : List Line × List Section :=
  lines.foldr
    (fun line (rest : List Line × List Section) =>
      match header? line.codes with
      | some name => ([], ⟨line.number, name, rest.1⟩ :: rest.2)
      | none => (line :: rest.1, rest.2))
    ([], [])

/-- The text without the blanks at both its ends. -/
def trim (line : List CodePoint) : List CodePoint :=
  ((line.dropWhile isBlank).reverse.dropWhile isBlank).reverse

/-- Whether a line may stand before the first header: it is blank or a comment. -/
def isComment (line : Line) : Bool :=
  match trim line.codes with
  | [] => true
  | first :: _ => first = numberSign

/-- One drawing of a sheet. -/
structure Source where
  /-- The name of the sprite. -/
  name : String
  /-- The drawing, with its leading newline. -/
  text : List CodePoint
  /-- The number of the line that holds its first row. -/
  firstLine : Nat
deriving DecidableEq, Repr

/-- What is wrong with the layout of a sheet. -/
inductive LayoutFault where
  /-- A name holds surrogates. -/
  | loneName (name : List CodePoint) (line : Option Int)
  /-- Anything else. -/
  | plain (fault : SpriteText.Fault)
deriving DecidableEq, Repr

/-- The kind of a fault of the layout. -/
def LayoutFault.kind : LayoutFault → FaultKind
  | .loneName _ _ => .sheet
  | .plain fault => fault.kind

/-- What is wrong with a sheet. -/
inductive Fault where
  /-- The layout is at fault. -/
  | layout (fault : LayoutFault)
  /-- A drawing gives no sprite. -/
  | drawing (fault : TextFault)
deriving DecidableEq, Repr

namespace Source

/-- What is added to line numbers of the drawing, whose first row is on its second line. -/
def lineOffset (source : Source) : Int := source.firstLine - 2

/-- The lines without the blank ones at both ends. -/
def trimLines (lines : List Line) : List Line :=
  ((lines.dropWhile Line.isBlank).reverse.dropWhile Line.isBlank).reverse

/-- The drawing of some lines: a newline, then every line with its end. -/
def drawing (lines : List Line) : List CodePoint :=
  .newline :: lines.flatMap fun line => line.codes ++ [.newline]

/-- The source of a name and the lines after a header line. -/
def ofBody (name : String) (headerLine : Nat) (body : List Line) : Source where
  name
  text := drawing (trimLines body)
  firstLine := headerLine + 1 + (body.takeWhile Line.isBlank).length

/-- The sprite of a source. -/
def compile (source : Source) (alignTail : Bool) : Except TextFault Sprite :=
  (Drawing.compileText source.text alignTail source.lineOffset).mapError
    fun fault => fault.inSprite source.name

end Source

/-- A name that must be a sprite name. -/
def spriteName (name : List CodePoint) (line : Option Int) : Except LayoutFault String :=
  match Text.spelled? name with
  | none => .error (.loneName name line)
  | some spelled =>
    if Sheet.isSpriteName spelled then .ok spelled
    else .error (.plain { cause := .invalidName spelled, line })

/-- The name of a section, which must be there, be a sprite name and be new. -/
def Section.checkedName (part : Section) (taken : List String) : Except LayoutFault String :=
  let fault (cause : Cause) : LayoutFault := .plain { cause, line := some part.headerLine }
  match part.name with
  | none => .error (fault .missingName)
  | some name =>
    match spriteName name (some part.headerLine) with
    | .error refused => .error refused
    | .ok name => if taken.contains name then .error (fault (.duplicateName name)) else .ok name

/-- The sources of sections in order; some names are taken by sources before them. -/
def sourcesOf (taken : List String) : List Section → Except LayoutFault (List Source)
  | [] => .ok []
  | part :: rest =>
    match part.checkedName taken with
    | .error fault => .error fault
    | .ok name =>
      match sourcesOf (name :: taken) rest with
      | .error fault => .error fault
      | .ok sources => .ok (Source.ofBody name part.headerLine part.body :: sources)

/-- The name of the only drawing of a sheet without headers. -/
def soleName (defaultName : Option (List CodePoint)) : List CodePoint :=
  match defaultName with
  | none => Text.codePoints "sprite"
  | some name => if name.isEmpty then Text.codePoints "sprite" else name

/-- The drawings of a sheet in order. -/
def parse (text : List CodePoint) (defaultName : Option (List CodePoint)) :
    Except LayoutFault (List Source) :=
  let lines := numberedLines text
  match cut lines with
  | (_, []) =>
    match spriteName (soleName defaultName) none with
    | .error fault => .error fault
    | .ok name => .ok [Source.ofBody name 0 lines]
  | (preamble, sections) =>
    match preamble.find? fun line => !isComment line with
    | some line => .error (.plain { cause := .strayContent, line := some line.number })
    | none => sourcesOf [] sections

/-- Compiles sources into a set that holds some sprites already, up to the first fault. -/
def compileInto (set : SpriteSet) (alignTail : Bool) : List Source → Except TextFault SpriteSet
  | [] => .ok set
  | source :: rest =>
    match source.compile alignTail with
    | .ok sprite => compileInto (set.insert source.name sprite) alignTail rest
    | .error fault => .error fault

/-- The sprites of a sheet. -/
def compile (text : List CodePoint) (defaultName : Option (List CodePoint)) (alignTail : Bool) :
    Except Fault SpriteSet :=
  match parse text defaultName with
  | .error fault => .error (.layout fault)
  | .ok sources => (compileInto .empty alignTail sources).mapError .drawing

end TextSheet

end SpriteText
