import SpriteText.Asset.Entry

/-!
# Reading an asset

Opening an asset reads its header and its whole index. The data of a sprite is read on demand, so an
asset that is cut short within its data opens, and only the sprites that are cut cannot be loaded. A
name that occurs twice stands for its last entry.
-/

namespace SpriteText.Asset

/-- Why an asset cannot be read. -/
inductive AssetFault where
  /-- The bytes do not start with a header. -/
  | notAnAsset
  /-- The layout has another version. -/
  | version (found : UInt8)
  /-- The bytes end within the index. -/
  | truncatedIndex
  /-- The bit count of an entry is no depth. -/
  | unknownDepth (bits : UInt8)
  /-- The name of an entry is not text. -/
  | malformedName (found : Utf8.Malformed)
  /-- The bytes end within the data of a sprite. -/
  | truncatedData (name : String)
  /-- The asset has been closed. -/
  | closed
deriving DecidableEq, Repr

/-- The wording of an asset fault. -/
def AssetFault.message : AssetFault → String
  | .notAnAsset => "Invalid sprite asset file"
  | .version found =>
    let number := found.toNat
    s!"Unsupported sprite asset version {number}"
  | .truncatedIndex => "Truncated sprite asset index"
  | .unknownDepth bits =>
    let number := bits.toNat
    s!"Invalid bits per pixel {number} in sprite asset"
  | .malformedName found => found.message
  | .truncatedData name => s!"Truncated data for sprite '{name}'"
  | .closed => "seek of closed file"

/-- The bytes of a field that starts at a position. -/
def field (bytes : List UInt8) (position length : Nat) : List UInt8 :=
  (bytes.drop position).take length

/-- The name and the entry that 26 bytes hold; the bit count is looked at before the name. -/
def readEntry (bytes : List UInt8) : Except AssetFault (String × Entry) :=
  let bits := (bytes.getD 20 0)
  match BitDepth.ofInt? bits.toNat with
  | none => .error (.unknownDepth bits)
  | some depth =>
    match Utf8.decode (stripName (field bytes 0 nameSize)) with
    | .error found => .error (.malformedName found)
    | .ok name =>
      .ok (name, {
        width := LittleEndian.read (field bytes 16 2)
        height := LittleEndian.read (field bytes 18 2)
        depth
        flags := bytes.getD 21 0
        offset := LittleEndian.read (field bytes 22 4) })

/-- Puts so many entries from the front of an index into a table. -/
def readIndex (table : NameTable Entry) : Nat → List UInt8 → Except AssetFault (NameTable Entry)
  | 0, _ => .ok table
  | count + 1, bytes =>
    match readEntry (bytes.take entrySize) with
    | .error fault => .error fault
    | .ok (name, entry) => readIndex (table.insert name entry) count (bytes.drop entrySize)

/-- An opened asset. -/
structure Reader where
  /-- The number of entries that the header tells. -/
  count : Nat
  /-- The entries by name. -/
  index : NameTable Entry
  /-- The data section and all that follows. -/
  data : List UInt8
  /-- Whether the asset is closed. -/
  closed : Bool := false

/-- Opens an asset. -/
def Reader.open? (bytes : List UInt8) : Except AssetFault Reader :=
  if bytes.length < headerSize ∨ bytes.take 2 ≠ mark then .error .notAnAsset
  else if bytes.getD 2 0 ≠ version then .error (.version (bytes.getD 2 0))
  else
    let count := LittleEndian.read (field bytes 4 2)
    let body := bytes.drop headerSize
    if body.length < count * entrySize then .error .truncatedIndex
    else match readIndex .empty count body with
      | .error fault => .error fault
      | .ok index => .ok { count, index, data := body.drop (count * entrySize) }

namespace Reader

/-- The names in order. -/
def names (reader : Reader) : List String := reader.index.names

/-- Whether a name is in the index. -/
def contains (reader : Reader) (name : String) : Bool := reader.index.contains name

/-- The sprite of an entry. -/
def load (reader : Reader) (name : String) (entry : Entry) : Except AssetFault Sprite :=
  if reader.closed then .error .closed
  else
    let data := field reader.data entry.offset entry.byteCount
    match Sprite.ofShape entry.width entry.height entry.depth data.toArray entry.tailAligned with
    | .ok sprite => .ok sprite
    | .error _ => .error (.truncatedData name)

/-- The sprite of a name, if the index has it. -/
def get? (reader : Reader) (name : String) : Except AssetFault (Option Sprite) :=
  match reader.index.get? name with
  | none => .ok none
  | some entry =>
    match reader.load name entry with
    | .ok sprite => .ok (some sprite)
    | .error fault => .error fault

/-- Loads sprites in order into a set. -/
def loadInto (reader : Reader) (set : SpriteSet) :
    List (String × Entry) → Except AssetFault SpriteSet
  | [] => .ok set
  | (name, entry) :: rest =>
    match reader.load name entry with
    | .ok sprite => reader.loadInto (set.insert name sprite) rest
    | .error fault => .error fault

/-- All sprites in order. -/
def loadAll (reader : Reader) : Except AssetFault SpriteSet :=
  reader.loadInto .empty reader.index.entries

/-- The reader with its data out of reach. -/
def close (reader : Reader) : Reader := { reader with closed := true }

end Reader

end SpriteText.Asset
