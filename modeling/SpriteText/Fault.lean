import SpriteText.Depth

/-!
# Faults of sprite text

Every fault stops the sprite it is found in. It has a cause and, when the reader knows it, a place:
the line and column, both from 1, of the character it was found at. A fault in a sheet also names
the sprite. Each cause belongs to a kind, and the kinds form a tree below the kind of all faults.
-/

namespace SpriteText

/-- The kinds of faults. -/
inductive FaultKind where
  /-- Any fault. -/
  | sprite
  /-- The text does not keep to the layout of rows. -/
  | layout
  /-- The text ends within a row. -/
  | unterminatedRow
  /-- The text has no row. -/
  | noRows
  /-- A row differs in width from the first. -/
  | rowWidth
  /-- A glyph is not repeated. -/
  | pairMismatch
  /-- There is a fifth glyph. -/
  | tooManyGlyphs
  /-- A buffer has another length than the packed pixels. -/
  | capacity
  /-- A sheet is malformed. -/
  | sheet
deriving DecidableEq, Repr

/-- The kinds above a kind, the nearest first. -/
def FaultKind.ancestors : FaultKind → List FaultKind
  | .sprite => []
  | .unterminatedRow | .noRows => [.layout, .sprite]
  | .layout | .rowWidth | .pairMismatch | .tooManyGlyphs | .capacity | .sheet => [.sprite]

/-- What is wrong. -/
inductive Cause where
  /-- The first character is not a newline. -/
  | missingNewline
  /-- The text ends within a row. -/
  | unterminatedRow
  /-- The text has no row. -/
  | noRows
  /-- A row is not as wide as the first. -/
  | rowWidth (expected found : Int)
  /-- A glyph is not repeated. -/
  | pairMismatch
  /-- There is a fifth glyph. -/
  | tooManyGlyphs
  /-- The lengths of a buffer and of the packed pixels differ. -/
  | capacity (expected found : Int)
  /-- The depth that a buffer was sized for is not the one that the text needs. -/
  | depth (sized needed : BitDepth)
  /-- A name is no identifier, or is reserved. -/
  | invalidName (name : String)
  /-- A name is used twice. -/
  | duplicateName (name : String)
  /-- A header has no name. -/
  | missingName
  /-- There is text before the first header. -/
  | strayContent
  /-- A fault in the reporter's own words. -/
  | stated (text : String)
  /-- A layout fault in the reporter's own words. -/
  | statedLayout (text : String)
  /-- A sheet fault in the reporter's own words. -/
  | statedSheet (text : String)
deriving DecidableEq, Repr

/-- The kind of a cause. -/
def Cause.kind : Cause → FaultKind
  | .missingNewline | .statedLayout _ => .layout
  | .unterminatedRow => .unterminatedRow
  | .noRows => .noRows
  | .rowWidth _ _ => .rowWidth
  | .pairMismatch => .pairMismatch
  | .tooManyGlyphs => .tooManyGlyphs
  | .capacity _ _ => .capacity
  | .depth _ _ | .stated _ => .sprite
  | .invalidName _ | .duplicateName _ | .missingName | .strayContent | .statedSheet _ => .sheet

/-- The wording of a cause. -/
def Cause.text : Cause → String
  | .missingNewline => "sprite text must start with a newline"
  | .unterminatedRow => "rows must end with a newline"
  | .noRows => "no rows found"
  | .rowWidth expected found => s!"rows must have equal width (expected {expected}, found {found})"
  | .pairMismatch => "pattern pairs not matching"
  | .tooManyGlyphs => "too many distinct glyphs"
  | .capacity expected found => s!"inconsistent capacity (expected {expected} bytes, got {found})"
  | .depth sized needed =>
    let sizedBits := sized.bits
    let neededBits := needed.bits
    s!"inconsistent bits per pixel (sized for {sizedBits}, text needs {neededBits})"
  | .invalidName name => s!"invalid sprite name '{name}'"
  | .duplicateName name => s!"duplicate sprite name '{name}'"
  | .missingName => "missing sprite name after @sprite"
  | .strayContent => "content before the first @sprite header"
  | .stated text | .statedLayout text | .statedSheet text => text

/-- A fault: its cause, its place, and the sprite of a sheet that it was found in. -/
structure Fault where
  /-- What is wrong. -/
  cause : Cause
  /-- The line, from 1, if known. -/
  line : Option Int := none
  /-- The column, from 1, if known. -/
  column : Option Int := none
  /-- The name of the sprite, in a sheet. -/
  sprite : Option String := none
deriving DecidableEq, Repr

namespace Fault

/-- A fault at a line and column. -/
def located (cause : Cause) (line column : Int) : Fault := ⟨cause, some line, some column, none⟩

/-- The kind of a fault. -/
def kind (fault : Fault) : FaultKind := fault.cause.kind

/-- The wording of a fault without its place. -/
def text (fault : Fault) : String := fault.cause.text

/-- The wording of a fault with its place; a column is told only along with a line. -/
def message (fault : Fault) : String :=
  let text := fault.text
  match fault.line, fault.column with
  | none, _ => text
  | some line, none => s!"{text} (line {line})"
  | some line, some column => s!"{text} (line {line}, column {column})"

/-- The widths or lengths that a fault compares, the expected one first. -/
def compared? (fault : Fault) : Option (Int × Int) :=
  match fault.cause with
  | .rowWidth expected found | .capacity expected found => some (expected, found)
  | _ => none

/-- The same fault, found in a named sprite of a sheet. -/
def inSprite (fault : Fault) (name : String) : Fault := { fault with sprite := some name }

end Fault

end SpriteText
