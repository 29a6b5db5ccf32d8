import SpriteText.Chunks
import SpriteText.Depth

/-!
# Packed pixels

Pixels are packed into bytes with the first pixel highest. A last byte that is not filled holds its
pixels either in its low bits or, with an aligned tail, in its high bits; its other bits are zero.
-/

namespace SpriteText

/-- The number whose digits in the base of a depth are the pixels, the first one highest. -/
def joinPixels (depth : BitDepth) (pixels : List Nat) : Nat :=
  pixels.foldl (fun value pixel => value * depth.ranks + pixel) 0

/-- One byte of pixels, which may be too few to fill it. -/
def packByte (depth : BitDepth) (alignTail : Bool) (pixels : List Nat) : UInt8 :=
  let value := joinPixels depth pixels
  UInt8.ofNat (if alignTail then value <<< (8 - pixels.length * depth.bits) else value)

/-- The bytes of a run of pixels. -/
def packPixels (depth : BitDepth) (alignTail : Bool) (pixels : List Nat) : List UInt8 :=
  (chunks depth.pixelsPerByte pixels).map (packByte depth alignTail)

/-- Why a pixel cannot be packed. -/
inductive PackFault where
  /-- A bit count is no depth. -/
  | unknownDepth (bits : Int)
  /-- A rank needs more bits than the depth has. -/
  | misfit (rank : Int) (depth : BitDepth)
deriving DecidableEq, Repr

/-- The wording of a packing fault. -/
def PackFault.message : PackFault → String
  | .unknownDepth bits => BitDepth.unknownMessage bits
  | .misfit rank depth =>
    let bits := depth.bits
    s!"palette index {rank} does not fit in {bits} bpp"

/-- Pixels on their way into a buffer. Bytes past the end of the buffer, or with no buffer at all,
are counted and not stored. -/
structure Packer where
  /-- The depth of every pixel. -/
  depth : BitDepth
  /-- Whether a last byte that is not filled holds its pixels in its high bits. -/
  alignTail : Bool := false
  /-- The buffer, if bytes are to be stored. -/
  buffer : Option (Array UInt8)
  /-- The pixels of the byte in the making, the first one first. -/
  pending : List Nat := []
  /-- The number of bytes completed. -/
  offset : Nat := 0
  /-- The number of pixels accepted. -/
  pixels : Nat := 0
deriving DecidableEq, Repr

namespace Packer

/-- A packer for a bit count, which must be a depth. -/
def start (bits : Int) (buffer : Option (Array UInt8)) (alignTail : Bool) :
    Except PackFault Packer :=
  match BitDepth.ofInt? bits with
  | some depth => .ok { depth, alignTail, buffer }
  | none => .error (.unknownDepth bits)

/-- The byte in the making is completed and stored if there is a place for it. -/
def flush (packer : Packer) : Packer :=
  let byte := packByte packer.depth packer.alignTail packer.pending
  { packer with
    buffer := packer.buffer.map fun bytes => bytes.setIfInBounds packer.offset byte
    pending := []
    offset := packer.offset + 1 }

/-- The packer after one more pixel that fits. -/
def add (packer : Packer) (rank : Nat) : Packer :=
  let next :=
    { packer with pending := packer.pending ++ [rank], pixels := packer.pixels + 1 }
  if next.pending.length = packer.depth.pixelsPerByte then next.flush else next

/-- One more pixel; a rank outside the depth is refused. -/
def push (packer : Packer) (rank : Int) : Except PackFault Packer :=
  if 0 ≤ rank ∧ rank < packer.depth.ranks then .ok (packer.add rank.toNat)
  else .error (.misfit rank packer.depth)

/-- The end of a run of pixels: a byte in the making is completed. -/
def finish (packer : Packer) : Packer :=
  if packer.pending.isEmpty then packer else packer.flush

/-- What can be asked of a packer. -/
inductive Event where
  /-- One more pixel, by any number as its rank. -/
  | push (rank : Int)
  /-- The end of a run of pixels. -/
  | finish
deriving DecidableEq, Repr

/-- One event: the packer after it, and the fault or, at the end of a run, the number of bytes
completed. A pixel that is refused changes nothing. -/
def step (packer : Packer) : Event → Packer × Except PackFault (Option Nat)
  | .push rank =>
    match packer.push rank with
    | .ok next => (next, .ok none)
    | .error fault => (packer, .error fault)
  | .finish => (packer.finish, .ok (some packer.finish.offset))

/-- The packer after events, whatever was refused among them. -/
def after (packer : Packer) (events : List Event) : Packer :=
  events.foldl (fun reached event => (reached.step event).1) packer

/-- Pixels one after the other, up to the first that is refused. -/
def pushAll (packer : Packer) : List Nat → Packer × Option PackFault
  | [] => (packer, none)
  | rank :: rest =>
    if rank < packer.depth.ranks then (packer.add rank).pushAll rest
    else (packer, some (.misfit rank packer.depth))

end Packer

end SpriteText
