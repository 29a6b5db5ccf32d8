import SpriteText.Picture.Basic

/-!
# Pictures as PNG files

A picture is written with its palette and one byte a pixel. The pixel data is stored, not
compressed.
-/

namespace SpriteText.Png

/-- A number in four bytes, the highest first. -/
def word (value : Nat) : List UInt8 :=
  [UInt8.ofNat (value / 16777216), UInt8.ofNat (value / 65536), UInt8.ofNat (value / 256),
    UInt8.ofNat value]

/-- One bit of the cyclic redundancy check. -/
def checkBit (register : UInt32) : UInt32 :=
  if register &&& 1 = 1 then (register >>> 1) ^^^ 0xEDB88320 else register >>> 1

/-- One byte of the cyclic redundancy check. -/
def checkByte (register : UInt32) (byte : UInt8) : UInt32 :=
  (List.range 8).foldl (fun value _ => checkBit value) (register ^^^ byte.toUInt32)

/-- The cyclic redundancy check of bytes. -/
def check (bytes : List UInt8) : UInt32 := bytes.foldl checkByte 0xFFFFFFFF ^^^ 0xFFFFFFFF

/-- A chunk of a file: its length, its type, its data and the check of both. -/
def chunk (type data : List UInt8) : List UInt8 :=
  word data.length ++ type ++ data ++ word (check (type ++ data)).toNat

/-- The two running sums over bytes, modulo 65521. -/
def sums (bytes : List UInt8) : Nat × Nat :=
  bytes.foldl
    (fun (totals : Nat × Nat) byte =>
      let first := (totals.1 + byte.toNat) % 65521
      (first, (totals.2 + first) % 65521))
    (1, 0)

/-- The longest stored block. -/
def blockLimit : Nat := 65535

/-- Bytes as stored blocks; the fuel bounds their number. -/
def blocks : Nat → List UInt8 → List UInt8
  | 0, _ => []
  | fuel + 1, bytes =>
    let part := bytes.take blockLimit
    let rest := bytes.drop blockLimit
    let length := part.length
    let frame : List UInt8 :=
      [if rest.isEmpty then 1 else 0, UInt8.ofNat length, UInt8.ofNat (length / 256),
        UInt8.ofNat (65535 - length), UInt8.ofNat ((65535 - length) / 256)]
    frame ++ part ++ if rest.isEmpty then [] else blocks fuel rest

/-- Bytes as a stream of stored blocks with its header and its sums. -/
def stored (bytes : List UInt8) : List UInt8 :=
  let totals := sums bytes
  [0x78, 0x01] ++ blocks (bytes.length / blockLimit + 1) bytes
    ++ word (totals.2 * 65536 + totals.1)

/-- The rows of a picture, each after the number of its filter, which is none. -/
def scanlines (picture : Picture) : List UInt8 :=
  (List.range picture.height).flatMap fun y =>
    0 :: (List.range picture.width).map fun x => UInt8.ofNat (picture.pixel x y)

/-- The signature of a file. -/
def signature : List UInt8 := [0x89, 0x50, 0x4E, 0x47, 0x0D, 0x0A, 0x1A, 0x0A]

/-- A picture as a file. -/
def encode (picture : Picture) : List UInt8 :=
  signature
    ++ chunk [0x49, 0x48, 0x44, 0x52] (word picture.width ++ word picture.height ++ [8, 3, 0, 0, 0])
    ++ chunk [0x50, 0x4C, 0x54, 0x45] (picture.palette)
    ++ chunk [0x49, 0x44, 0x41, 0x54] (stored (scanlines picture))
    ++ chunk [0x49, 0x45, 0x4E, 0x44] []

end SpriteText.Png
