import SpriteText.NameTable
import SpriteText.Text.Quoted

/-!
# A module of constants

A sprite set is written as a Python module that defines one constant a sprite, under the sprite's
name, and lists the names at its end.
-/

namespace SpriteText.Constants

/-- The definition of one constant. -/
def moduleEntry (name : String) (sprite : Sprite) : List String :=
  let width := sprite.width
  let height := sprite.height
  let bits := sprite.depth.bits
  let label := sprite.depth.label
  let count := sprite.byteCount
  let digits := Text.hexBytes sprite.data.toList
  ["", s!"# {width}x{height}, {bits} bpp, {count} bytes", s!"{name} = Sprite.from_byte_array(",
    s!"    bytes.fromhex('{digits}'),", s!"    ({width}, {height}),",
    s!"    BitsPerPixel.{label},"]
  ++ (if sprite.tailAligned then [] else ["    tail_aligned=False,"]) ++ [")"]

/-- The lines of a module; the last one is empty. -/
def moduleLines (sprites : SpriteSet) (sourceName : Option String) : List String :=
  let title :=
    match sourceName with
    | none => "Compiled sprites."
    | some source =>
      if source.isEmpty then "Compiled sprites." else s!"Sprites compiled from {source}."
  let names := ", ".intercalate (sprites.names.map Text.quote)
  ["\"\"\"", title, "", "Generated by spritec. Do not edit.", "\"\"\"", "",
    "from spritec.bitmap import BitsPerPixel, Sprite", ""]
  ++ sprites.entries.flatMap (fun entry => moduleEntry entry.1 entry.2)
  ++ ["", s!"__all__ = [{names}]", ""]

/-- The text of a module. -/
def moduleText (sprites : SpriteSet) (sourceName : Option String) : String :=
  "\n".intercalate (moduleLines sprites sourceName)

end SpriteText.Constants
