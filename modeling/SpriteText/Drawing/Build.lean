import SpriteText.Drawing.Scan
import SpriteText.Sprite
import SpriteText.Utf8.WellFormed

/-!
# Building a sprite from a drawing

A drawing is read twice over the same bytes. The sizing gives the depth and the length of the data;
the building packs the pixels into a buffer of exactly that length. A buffer of another length is a
fault, and the first fault met in reading order is the one reported.
-/

namespace SpriteText

/-- Why a drawing gives no sprite. -/
inductive DrawingFault where
  /-- The drawing cannot be read, or does not suit the buffer. -/
  | text (fault : Fault)
  /-- The bytes are no code points. -/
  | decoding (fault : Utf8.LeadFault)
  /-- A pixel does not fit the depth. -/
  | packing (fault : PackFault)
  /-- The packed pixels do not suit the shape. -/
  | shape (fault : ShapeFault)
deriving DecidableEq, Repr

namespace DrawingFault

/-- A fault of reading as a fault of building. -/
def ofRead : ReadFault → DrawingFault
  | .text fault => .text fault
  | .decoding fault => .decoding fault

/-- A fault without a place. -/
def ofCause (cause : Cause) : DrawingFault := .text { cause }

/-- The same fault, found in a named sprite of a sheet. -/
def inSprite (fault : DrawingFault) (name : String) : DrawingFault :=
  match fault with
  | .text fault => .text (fault.inSprite name)
  | other => other

/-- The wording of a fault with its place. -/
def message : DrawingFault → String
  | .text fault => fault.message
  | .decoding fault => fault.message
  | .packing fault => fault.message
  | .shape fault => fault.message

end DrawingFault

namespace Drawing

/-- What a drawing needs. -/
structure Sizing where
  /-- Bits of a pixel. -/
  depth : BitDepth
  /-- Bytes of all pixels. -/
  byteCount : Nat
deriving DecidableEq, Repr

/-- The depth and the data length of a drawing. -/
def sizing (bytes : List UInt8) (lineOffset : Int) : Except DrawingFault Sizing :=
  match Scan.ofBytes bytes lineOffset with
  | (_, some fault) => .error (.ofRead fault)
  | (scan, none) =>
    let depth := scan.palette.depth
    .ok { depth, byteCount := depth.bytesFor (scan.width * scan.height) }

/-- Packs a drawing into a buffer. The buffer is handed back as far as it was written, also
beside a fault. -/
def buildInto (bytes : List UInt8) (bits : Int) (buffer : Array UInt8) (alignTail : Bool)
    (lineOffset : Int) : Except DrawingFault Sprite × Array UInt8 :=
  match Packer.start bits (some buffer) alignTail with
  | .error fault => (.error (.packing fault), buffer)
  | .ok packer =>
    let (scan, unread) := Scan.ofBytes bytes lineOffset
    let (packed, misfit) := packer.pushAll scan.pixels
    let written := packed.buffer.getD buffer
    match misfit, unread with
    | some fault, _ => (.error (.packing fault), written)
    | none, some fault => (.error (.ofRead fault), written)
    | none, none =>
      let needed := scan.palette.depth
      if needed ≠ packer.depth then
        (.error (.ofCause (.depth packer.depth needed)), written)
      else
        let finished := packed.finish
        let filled := finished.buffer.getD buffer
        if finished.offset ≠ buffer.size then
          (.error (.ofCause (.capacity buffer.size finished.offset)), filled)
        else match Sprite.ofBytes scan.width scan.height bits filled alignTail with
          | .ok sprite => (.ok sprite, filled)
          | .error fault => (.error (.shape fault), filled)

/-- Sizes a drawing and builds its sprite, in the caller's buffer if there is one. The caller's
buffer must have the length that the sizing gives and is handed back. -/
def build (bytes : List UInt8) (buffer : Option (Array UInt8)) (alignTail : Bool)
    (lineOffset : Int) : Except DrawingFault Sprite × Option (Array UInt8) :=
  match sizing bytes lineOffset with
  | .error fault => (.error fault, buffer)
  | .ok sizing =>
    match buffer with
    | none =>
      let (answer, _) :=
        buildInto bytes sizing.depth.bits (.replicate sizing.byteCount 0) alignTail lineOffset
      (answer, none)
    | some given =>
      if given.size ≠ sizing.byteCount then
        (.error (.ofCause (.capacity sizing.byteCount given.size)), some given)
      else
        let (answer, filled) :=
          buildInto bytes sizing.depth.bits given alignTail lineOffset
        (answer, some filled)

/-- The sprite of a drawing given as text. -/
def compile (text : String) (alignTail : Bool) (lineOffset : Int) : Except DrawingFault Sprite :=
  (build (Utf8.encode text) none alignTail lineOffset).1

end Drawing

end SpriteText
