import SpriteText.Text.Hexadecimal

/-!
# Well-formed UTF-8

Bytes are read as text only if they are well-formed throughout. Otherwise the first malformed
sequence is reported: the longest start of a code point found there, and why it does not go on.
-/

namespace SpriteText.Utf8

/-- Why a byte sequence is no code point. -/
inductive Defect where
  /-- Its first byte leads no code point. -/
  | start
  /-- A byte that should continue it cannot. -/
  | continuation
  /-- The bytes end within it. -/
  | truncated
deriving DecidableEq, Repr

/-- The wording of a defect. -/
def Defect.reason : Defect → String
  | .start => "invalid start byte"
  | .continuation => "invalid continuation byte"
  | .truncated => "unexpected end of data"

/-- The first malformed sequence of some bytes. -/
structure Malformed where
  /-- The position of its first byte. -/
  start : Nat
  /-- The position after its last byte. -/
  stop : Nat
  /-- Its first byte. -/
  lead : UInt8
  /-- What is wrong with it. -/
  defect : Defect
deriving DecidableEq, Repr

/-- The text of the report on a malformed sequence. -/
def Malformed.message (found : Malformed) : String :=
  let reason := found.defect.reason
  let start := found.start
  let last := found.stop - 1
  if found.stop = start + 1 then
    let digits := Text.hex .lower 2 found.lead.toNat
    s!"'utf-8' codec can't decode byte 0x{digits} in position {start}: {reason}"
  else s!"'utf-8' codec can't decode bytes in position {start}-{last}: {reason}"

/-- How a lead byte goes on: the number of bytes after it and the range of the first of them.
The ranges leave out overlong forms, surrogates and code points past the last one. -/
def continuation? (lead : UInt8) : Option (Nat × UInt8 × UInt8) :=
  if lead < 0x80 then some (0, 0x80, 0xBF)
  else if lead < 0xC2 then none
  else if lead < 0xE0 then some (1, 0x80, 0xBF)
  else if lead < 0xF0 then
    some (2, if lead = 0xE0 then 0xA0 else 0x80, if lead = 0xED then 0x9F else 0xBF)
  else if lead < 0xF5 then
    some (3, if lead = 0xF0 then 0x90 else 0x80, if lead = 0xF4 then 0x8F else 0xBF)
  else none

/-- The number of bytes of a sequence, the taken ones included, or how long its good start is and
what is wrong after that. -/
def sequenceLength (taken : Nat) : Nat → UInt8 → UInt8 → List UInt8 → Except (Nat × Defect) Nat
  | 0, _, _, _ => .ok taken
  | _ + 1, _, _, [] => .error (taken, .truncated)
  | missing + 1, low, high, byte :: rest =>
    if low ≤ byte && byte ≤ high then sequenceLength (taken + 1) missing 0x80 0xBF rest
    else .error (taken, .continuation)

/-- The first malformed sequence from a position on; the bytes to skip belong to a sequence already
read. Bytes without one are reported as cut off at their end. -/
def firstMalformed (position skip : Nat) : List UInt8 → Malformed
  | [] => ⟨position, position, 0, .truncated⟩
  | lead :: rest =>
    match skip with
    | skip + 1 => firstMalformed (position + 1) skip rest
    | 0 =>
      match continuation? lead with
      | none => ⟨position, position + 1, lead, .start⟩
      | some (missing, low, high) =>
        match sequenceLength 1 missing low high rest with
        | .ok length => firstMalformed (position + 1) (length - 1) rest
        | .error (length, defect) => ⟨position, position + length, lead, defect⟩

/-- The text that some bytes encode, or the first malformed sequence among them. -/
def decode (bytes : List UInt8) : Except Malformed String :=
  match String.fromUTF8? ⟨bytes.toArray⟩ with
  | some text => .ok text
  | none => .error (firstMalformed 0 0 bytes)

/-- The bytes that encode a text. -/
def encode (text : String) : List UInt8 := text.toUTF8.data.toList

end SpriteText.Utf8
