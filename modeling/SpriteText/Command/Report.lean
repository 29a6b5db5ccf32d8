import SpriteText.Drawing.Build
import SpriteText.Files.Path
import SpriteText.Picture.Render

/-!
# Reports

What a run prints about sprites and faults.
-/

namespace SpriteText.Command

/-- The heading of a sprite's preview. -/
def previewHeading (name : String) (sprite : Sprite) : String :=
  let width := sprite.width
  let height := sprite.height
  let label := sprite.depth.label
  let count := sprite.byteCount
  s!"\n{name} ({width}x{height}, {label}, {count} bytes):\n"

/-- The rows of a sprite's preview, indented. -/
def previewRows (sprite : Sprite) : List String :=
  let shown := ['\n'].intercalate (Render.shadeRows Render.defaultShades.toList sprite)
  (Text.lines shown).map fun row => "  " ++ String.ofList row ++ "\n"

/-- The previews of a set line by line, with an empty line at the end. -/
def preview (sprites : SpriteSet) : List String :=
  (sprites.entries.flatMap fun entry =>
    previewHeading entry.1 entry.2 :: previewRows entry.2) ++ ["\n"]

/-- The line that tells of a compiled sprite. -/
def compiledLine (name : String) (sprite : Sprite) : String :=
  let width := sprite.width
  let height := sprite.height
  let bits := sprite.depth.bits
  let count := sprite.byteCount
  s!"Compiled {name}: {width}x{height}, {bits} bpp, {count} bytes\n"

/-- The line that tells of a written file. -/
def createdLine (path : Files.Path) (count : Nat) : String :=
  let spelling := path.spelling
  s!"Created: {spelling} ({count} bytes)\n"

/-- The place of a fault: the file, the line and the column as far as known, and the sprite. -/
def faultPlace (path : Files.Path) (fault : Fault) : String :=
  let place :=
    match fault.line, fault.column with
    | none, _ => ""
    | some line, none => s!":{line}"
    | some line, some column => s!":{line}:{column}"
  let sprite :=
    match fault.sprite with
    | some name => if name.isEmpty then "" else s!" [{name}]"
    | none => ""
  path.spelling ++ place ++ sprite

/-- The line that reports a fault of a sheet. -/
def faultLine (path : Files.Path) (fault : Fault) : String :=
  let place := faultPlace path fault
  let text := fault.text
  s!"Error: {place}: {text}\n"

end SpriteText.Command
