/-!
# Bit depths

A packed pixel takes one bit or two. The depth of a picture follows from the number of its
glyphs, and the length of its data follows from its shape and its depth.
-/

namespace SpriteText

/-- The number of bits that one packed pixel takes. -/
inductive BitDepth where
  /-- Two palette ranks, eight pixels to a byte. -/
  | one
  /-- Four palette ranks, four pixels to a byte. -/
  | two
deriving DecidableEq, Repr

namespace BitDepth

/-- The bit count of a depth. -/
def bits : BitDepth → Nat
  | one => 1
  | two => 2

/-- The depth with a given bit count; there is none but for 1 and 2. -/
def ofInt? (value : Int) : Option BitDepth :=
  if value = 1 then some one else if value = 2 then some two else none

/-- The number of palette ranks that a pixel of this depth can hold. -/
def ranks : BitDepth → Nat
  | one => 2
  | two => 4

/-- The number of pixels that fill one byte. -/
def pixelsPerByte : BitDepth → Nat
  | one => 8
  | two => 4

/-- Up to two glyphs fit in one bit; three or four need two. -/
def forGlyphCount (count : Int) : BitDepth := if count ≤ 2 then one else two

/-- The renderer's flag for a depth. -/
def blitFlag : BitDepth → Nat
  | one => 0
  | two => 1

/-- The name of a depth. -/
def label : BitDepth → String
  | one => "ONE"
  | two => "TWO"

/-- The name of any bit count, known or not. -/
def labelOf (value : Int) : String :=
  match ofInt? value with
  | some depth => depth.label
  | none => s!"UNKNOWN({value})"

/-- The report on a bit count that is no depth. -/
def unknownMessage (value : Int) : String := s!"bits per pixel must be 1 or 2, got {value}"

/-- Bytes that hold a number of pixels, the last byte possibly in part. -/
def bytesFor (depth : BitDepth) (pixels : Nat) : Nat := (pixels * depth.bits + 7) / 8

/-- A depth is found again from its bit count. -/
@[simp] theorem ofInt?_bits (depth : BitDepth) : ofInt? depth.bits = some depth := by
  cases depth <;> rfl

/-- Only a depth's own bit count names it. -/
theorem ofInt?_eq_some_iff {value : Int} {depth : BitDepth} :
    ofInt? value = some depth ↔ value = depth.bits := by
  constructor
  · intro found
    unfold ofInt? at found
    split at found
    · cases found; assumption
    · split at found
      · cases found; assumption
      · contradiction
  · rintro rfl
    exact ofInt?_bits depth

/-- A full byte has no bit left over. -/
@[simp] theorem pixelsPerByte_mul_bits (depth : BitDepth) :
    depth.pixelsPerByte * depth.bits = 8 := by
  cases depth <;> rfl

/-- Every depth takes at least one bit. -/
theorem bits_pos (depth : BitDepth) : 0 < depth.bits := by
  cases depth <;> decide

end BitDepth

/-- Bytes needed for a shape at a bit count, by floor division; shapes of any sign are admitted. -/
def byteLength (width height bits : Int) : Int := Int.fdiv (width * height * bits + 7) 8

end SpriteText
