import SpriteText.Text.Hexadecimal

/-!
# Code points by their lead byte

The lead byte alone says how many bytes a code point takes; of the bytes after it only the low six
bits are used, whatever their high bits are. Well-formed UTF-8 is read exactly, and malformed
UTF-8 is refused only at a byte that cannot lead or where bytes are missing.
-/

namespace SpriteText.Utf8

/-- A code point with the number of bytes it takes. -/
structure Decoded where
  /-- The bytes taken, the lead byte included. -/
  consumed : Nat
  /-- The code point. -/
  codePoint : Nat
deriving DecidableEq, Repr

/-- Why no code point can be read. -/
inductive LeadFault where
  /-- The byte at an offset cannot lead a code point. -/
  | invalidLead (byte : UInt8) (offset : Int)
  /-- There are fewer bytes than needed. -/
  | outOfRange
  /-- The offset is no 64-bit number. -/
  | offsetTooWide
deriving DecidableEq, Repr

/-- The text of a fault. -/
def LeadFault.message : LeadFault → String
  | .invalidLead byte offset =>
    let digits := Text.hex .upper 2 byte.toNat
    s!"invalid UTF-8 leading byte 0x{digits} at offset {offset}"
  | .outOfRange => "index out of range"
  | .offsetTooWide => "cannot fit 'int' into an index-sized integer"

/-- The bits that a byte after the lead byte gives. -/
def payload (byte : UInt8) : Nat := byte.toNat % 64

/-- Reads the code point at the head of some bytes; a fault names the offset of the head. -/
def decodeHead (offset : Int) : List UInt8 → Except LeadFault Decoded
  | [] => .error .outOfRange
  | lead :: rest =>
    if lead < 0x80 then .ok ⟨1, lead.toNat⟩
    else if lead < 0xC0 then .error (.invalidLead lead offset)
    else if lead < 0xE0 then
      match rest with
      | second :: _ => .ok ⟨2, lead.toNat % 32 * 64 + payload second⟩
      | _ => .error .outOfRange
    else if lead < 0xF0 then
      match rest with
      | second :: third :: _ =>
        .ok ⟨3, (lead.toNat % 16 * 64 + payload second) * 64 + payload third⟩
      | _ => .error .outOfRange
    else if lead < 0xF8 then
      match rest with
      | second :: third :: fourth :: _ =>
        .ok ⟨4, ((lead.toNat % 8 * 64 + payload second) * 64 + payload third) * 64
          + payload fourth⟩
      | _ => .error .outOfRange
    else .error (.invalidLead lead offset)

/-- The byte at an offset; a negative offset counts from the end. -/
def byteAt? (bytes : List UInt8) (offset : Int) : Option UInt8 :=
  let place := if offset < 0 then offset + bytes.length else offset
  if place < 0 then none else bytes[place.toNat]?

/-- Up to so many bytes from an offset on, each looked up by itself. -/
def window (bytes : List UInt8) (offset : Int) : Nat → List UInt8
  | 0 => []
  | count + 1 =>
    match byteAt? bytes offset with
    | some byte => byte :: window bytes (offset + 1) count
    | none => []

/-- Reads the code point at an offset, which must be a signed 64-bit number. -/
def decodeFirst (bytes : List UInt8) (offset : Int) : Except LeadFault Decoded :=
  if offset < -0x8000000000000000 ∨ 0x8000000000000000 ≤ offset then .error .offsetTooWide
  else decodeHead offset (window bytes offset 4)

/-- The code points of some bytes up to the first fault, and that fault. The bytes to skip belong
to the code point read last; the code points already read come last one first. -/
def codePointsFrom (offset skip : Nat) (read : List Nat) :
    List UInt8 → List Nat × Option LeadFault
  | [] => (read.reverse, none)
  | lead :: rest =>
    match skip with
    | skip + 1 => codePointsFrom (offset + 1) skip read rest
    | 0 =>
      match decodeHead offset (lead :: rest) with
      | .error fault => (read.reverse, some fault)
      | .ok decoded =>
        codePointsFrom (offset + 1) (decoded.consumed - 1) (decoded.codePoint :: read) rest

/-- The code points of some bytes up to the first fault, and that fault. Offsets in faults start
with the offset of the first byte. -/
def codePoints (offset : Nat) (bytes : List UInt8) : List Nat × Option LeadFault :=
  codePointsFrom offset 0 [] bytes

end SpriteText.Utf8
