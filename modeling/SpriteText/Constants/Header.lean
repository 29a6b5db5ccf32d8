import SpriteText.Chunks
import SpriteText.NameTable
import SpriteText.Text.Casing

/-!
# A header of arrays

A sprite set is written as a C header with one byte array a sprite. Each sprite also defines its
width, its height and its depth flag. A sprite without pixels has no array.
-/

namespace SpriteText.Constants

/-- The number of bytes on a line of an array. -/
def bytesPerLine : Nat := 12

/-- One line of an array. -/
def arrayLine (bytes : List UInt8) : String :=
  let items := bytes.map fun byte => "0x" ++ Text.hex .upper 2 byte.toNat
  "    " ++ ", ".intercalate items ++ ","

/-- The lines between the braces of an array. -/
def arrayLines (bytes : List UInt8) : List String := (chunks bytesPerLine bytes).map arrayLine

/-- The definitions of one sprite. -/
def headerEntry (name : String) (sprite : Sprite) : List String :=
  let upper := Text.uppercase name
  let width := sprite.width
  let height := sprite.height
  let flag := sprite.depth.blitFlag
  let bits := sprite.depth.bits
  let count := sprite.byteCount
  ["", s!"#define {upper}_WIDTH {width}", s!"#define {upper}_HEIGHT {height}",
    s!"#define {upper}_FLAGS {flag}  // BLIT_{bits}BPP"]
  ++ (if sprite.tailAligned then [] else ["// last byte holds its pixels in the low-order bits"])
  ++ (if count = 0 then [s!"// {name}: no pixel data"]
    else
      [s!"static const uint8_t {name}[{count}] = " ++ "\x7b"]
      ++ arrayLines sprite.data.toList ++ ["\x7d;"])

/-- The lines of a header; the last one is empty. -/
def headerLines (sprites : SpriteSet) (sourceName : Option String) (guardName : String) :
    List String :=
  let title :=
    match sourceName with
    | none => "// Auto-generated"
    | some source =>
      if source.isEmpty then "// Auto-generated" else s!"// Auto-generated from {source}"
  [title, "// by spritec", "//", "// Packed indexed sprites, row-major, MSB = leftmost pixel", "",
    s!"#ifndef {guardName}", s!"#define {guardName}", "", "#include <stdint.h>"]
  ++ sprites.entries.flatMap (fun entry => headerEntry entry.1 entry.2)
  ++ ["", s!"#endif // {guardName}", ""]

/-- The text of a header. -/
def headerText (sprites : SpriteSet) (sourceName : Option String) (guardName : String) : String :=
  "\n".intercalate (headerLines sprites sourceName guardName)

end SpriteText.Constants
