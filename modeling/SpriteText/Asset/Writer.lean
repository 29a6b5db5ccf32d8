import SpriteText.Asset.Entry

/-!
# Writing an asset

Sprites are written in order, each one's data right after that of the sprites before it. What the
fields of the layout cannot hold is refused; within a sprite the name is looked at first, then the
width, the height and the position of the data.
-/

namespace SpriteText.Asset

/-- Why sprites cannot be written. -/
inductive WriteFault where
  /-- There are more sprites than can be counted. -/
  | tooMany
  /-- A name takes too many bytes. -/
  | longName (name : String)
  /-- A side has more pixels than its field can hold. -/
  | side (pixels : Nat)
  /-- The data of a sprite starts too far out. -/
  | offset (position : Nat)
deriving DecidableEq, Repr

/-- The wording of a write fault. Numbers past any field are worded apart. -/
def WriteFault.message : WriteFault → String
  | .tooMany => "too many sprites for one asset"
  | .longName name => s!"sprite name '{name}' longer than 16 bytes"
  | .side pixels =>
    if pixels < 0x8000000000000000 then "ushort format requires 0 <= number <= 65535"
    else "argument out of range"
  | .offset position =>
    if position < 0x10000000000000000 then "'I' format requires 0 <= number <= 4294967295"
    else "argument out of range"

/-- Whether a fault is a number that its field cannot hold, and not a limit that the layout checks
beforehand. -/
def WriteFault.isOverflow : WriteFault → Bool
  | .tooMany | .longName _ => false
  | .side _ | .offset _ => true

/-- The index and the data section so far. -/
structure Sections where
  /-- The bytes of the index. -/
  index : Array UInt8 := #[]
  /-- The bytes of the data section. -/
  data : Array UInt8 := #[]
deriving DecidableEq, Repr

/-- The sections with one more sprite. -/
def Sections.add (sections : Sections) (name : String) (sprite : Sprite) :
    Except WriteFault Sections :=
  let stored := Utf8.encode name
  if nameSize < stored.length then .error (.longName name)
  else if 0xFFFF < sprite.width then .error (.side sprite.width)
  else if 0xFFFF < sprite.height then .error (.side sprite.height)
  else if 0xFFFFFFFF < sections.data.size then .error (.offset sections.data.size)
  else
    let entry := Entry.ofSprite sprite sections.data.size
    .ok {
      index := sections.index ++ entry.encode stored
      data := sections.data ++ sprite.data }

/-- The sections of sprites in order. -/
def Sections.addAll (sections : Sections) : List (String × Sprite) → Except WriteFault Sections
  | [] => .ok sections
  | (name, sprite) :: rest =>
    match sections.add name sprite with
    | .ok next => next.addAll rest
    | .error fault => .error fault

/-- The asset of named sprites in order. -/
def encode (sprites : List (String × Sprite)) : Except WriteFault (List UInt8) :=
  if 0xFFFF < sprites.length then .error .tooMany
  else match Sections.addAll {} sprites with
    | .ok sections =>
      .ok (header sprites.length ++ sections.index.toList ++ sections.data.toList)
    | .error fault => .error fault

end SpriteText.Asset
