import SpriteText.Asset.LittleEndian
import SpriteText.NameTable
import SpriteText.Utf8.WellFormed

/-!
# The layout of an asset

An asset is a header, an index and the data of the sprites. The header of eight bytes holds the mark
`S2`, the version, a reserved byte, the number of entries and two reserved bytes. An entry of the
index takes 26 bytes: the name in sixteen, filled up with zeros, the width and the height in two
each, the bit count, the flags, and in four the position of the sprite's data in the data section.
Numbers are little-endian. The length of the data follows from the shape and the depth.
-/

namespace SpriteText.Asset

/-- The mark that an asset starts with. -/
def mark : List UInt8 := [0x53, 0x32]

/-- The version of the layout. -/
def version : UInt8 := 1

/-- Bytes of the header. -/
def headerSize : Nat := 8

/-- Bytes of an entry. -/
def entrySize : Nat := 26

/-- Bytes of a name in an entry. -/
def nameSize : Nat := 16

/-- What an entry says of a sprite. -/
structure Entry where
  /-- Pixels across. -/
  width : Nat
  /-- Pixels down. -/
  height : Nat
  /-- Bits of a pixel. -/
  depth : BitDepth
  /-- The flags as stored. -/
  flags : UInt8
  /-- The position of the data in the data section. -/
  offset : Nat
deriving DecidableEq, Repr

/-- The lowest flag says that a last byte that is not filled holds its pixels in its high bits. -/
def Entry.tailAligned (entry : Entry) : Bool := entry.flags.toNat % 2 = 1

/-- The number of data bytes. -/
def Entry.byteCount (entry : Entry) : Nat := entry.depth.bytesFor (entry.width * entry.height)

/-- The entry of a sprite whose data starts at a position. -/
def Entry.ofSprite (sprite : Sprite) (offset : Nat) : Entry where
  width := sprite.width
  height := sprite.height
  depth := sprite.depth
  flags := if sprite.tailAligned then 1 else 0
  offset

/-- The header of an asset with a number of entries. -/
def header (count : Nat) : List UInt8 :=
  mark ++ [version, 0] ++ LittleEndian.write 2 count ++ [0, 0]

/-- An encoded name filled up with zeros. -/
def padName (name : List UInt8) : List UInt8 := name ++ List.replicate (nameSize - name.length) 0

/-- A stored name without the zeros at its end. -/
def stripName (stored : List UInt8) : List UInt8 :=
  (stored.reverse.dropWhile fun byte => byte = 0).reverse

/-- The bytes of an entry. -/
def Entry.encode (name : List UInt8) (entry : Entry) : List UInt8 :=
  padName name ++ LittleEndian.write 2 entry.width ++ LittleEndian.write 2 entry.height
    ++ [UInt8.ofNat entry.depth.bits, entry.flags] ++ LittleEndian.write 4 entry.offset

end SpriteText.Asset
