import SpriteText.Text.Blank

/-!
# Sections of a sheet

A header line is `@sprite` with at most one word after it. Headers cut the lines of a sheet into a
preamble and one section each. Lines are numbered from 1.
-/

namespace SpriteText.Sheet

/-- A line of a sheet with its number. -/
structure Line where
  /-- The number of the line, from 1. -/
  number : Nat
  /-- The characters without the line's end. -/
  characters : List Char
deriving DecidableEq, Repr

/-- A line that holds nothing but blanks. -/
def Line.isBlank (line : Line) : Bool := line.characters.all Text.isBlank

/-- A header and the lines up to the next. -/
structure Section where
  /-- The number of the header line. -/
  headerLine : Nat
  /-- The name that the header gives, if it gives one. -/
  name : Option String
  /-- The lines after the header. -/
  body : List Line
deriving DecidableEq, Repr

/-- A line without one carriage return at its end. -/
def dropReturn (line : List Char) : List Char :=
  if line.getLast? = some '\r' then line.dropLast else line

/-- The numbered lines of a sheet. -/
def numberedLines (text : String) : List Line :=
  ((Text.lines text.toList).map dropReturn).zipIdx.map fun entry =>
    { number := entry.2 + 1, characters := entry.1 }

/-- The word that makes a line a header. -/
def headerWord : List Char := "@sprite".toList

/-- The name on a header line, which may be missing; other lines have no answer. -/
def header? (line : List Char) : Option (Option String) :=
  match Text.words line with
  | [word] => if word = headerWord then some none else none
  | [word, name] => if word = headerWord then some (some (String.ofList name)) else none
  | _ => none

/-- The preamble and the sections of a sheet's lines. -/
def cut (lines : List Line) : List Line × List Section :=
  lines.foldr
    (fun line (rest : List Line × List Section) =>
      match header? line.characters with
      | some name => ([], ⟨line.number, name, rest.1⟩ :: rest.2)
      | none => (line :: rest.1, rest.2))
    ([], [])

/-- Whether a line may stand before the first header: it is blank or a comment. -/
def isComment (line : Line) : Bool :=
  match Text.trim line.characters with
  | [] => true
  | first :: _ => first = '#'

end SpriteText.Sheet
