import SpriteText.Proofs.Packing.Stream

/-!
# Packed pixels bit by bit

The pixels of a segment are a string of bits, the highest bit of the first pixel first. The string
is cut into bytes after the zeros that fill up the last byte have been put in: at the very end if
the tail is aligned, and in front of the bits left over by full bytes if it is not
(`segmentBits`). Packing a segment gives exactly these bytes.
-/

namespace SpriteText

/-- The lowest bits of a number, the highest of them first. -/
def bitsOf : Nat → Nat → List Bool
  | 0, _ => []
  | width + 1, value => value.testBit width :: bitsOf width value

/-- The number that bits spell, the highest first. -/
def ofBits (bits : List Bool) : Nat := bits.foldl (fun value bit => value * 2 + bit.toNat) 0

/-- The bits of pixels, pixel after pixel. -/
def pixelBits (depth : BitDepth) (pixels : List Nat) : List Bool :=
  pixels.flatMap (bitsOf depth.bits)

/-- The bits of a segment as they stand in its bytes. -/
def segmentBits (depth : BitDepth) (alignTail : Bool) (pixels : List Nat) : List Bool :=
  let bits := pixelBits depth pixels
  let full := bits.length / 8 * 8
  let zeros := List.replicate ((8 - bits.length % 8) % 8) false
  if alignTail then bits ++ zeros else bits.take full ++ zeros ++ bits.drop full

/-- The bytes of a segment. -/
def segmentBytes (depth : BitDepth) (alignTail : Bool) (pixels : List Nat) : List UInt8 :=
  (chunks 8 (segmentBits depth alignTail pixels)).map fun byte => UInt8.ofNat (ofBits byte)

/-! ## Numbers and their bits -/

/-- There are as many bits as the width says. -/
@[simp] theorem length_bitsOf (width value : Nat) : (bitsOf width value).length = width := by
  induction width with
  | zero => rfl
  | succ width ih => rw [bitsOf, List.length_cons, ih]

/-- Bits before others count for more by the places of the others. -/
theorem ofBits_append (front back : List Bool) :
    ofBits (front ++ back) = ofBits front * 2 ^ back.length + ofBits back := by
  induction back using List.reverseRecOn with
  | nil => simp [ofBits]
  | append_singleton back bit ih =>
    have concat (bits : List Bool) : ofBits (bits ++ [bit]) = ofBits bits * 2 + bit.toNat := by
      simp [ofBits]
    rw [← List.append_assoc, concat, concat, ih, List.length_append, List.length_singleton]
    ring

/-- Zeros spell zero. -/
@[simp] theorem ofBits_zeros (count : Nat) : ofBits (List.replicate count false) = 0 := by
  induction count with
  | zero => rfl
  | succ count ih => rw [List.replicate_succ', ofBits_append, ih]; rfl

/-- A number is spelled by its lowest bits up to the places above them. -/
theorem ofBits_bitsOf (width value : Nat) : ofBits (bitsOf width value) = value % 2 ^ width := by
  induction width with
  | zero => simp [bitsOf, ofBits, Nat.mod_one]
  | succ width ih =>
    have single : ofBits [value.testBit width] = (value.testBit width).toNat := by simp [ofBits]
    rw [bitsOf, ← List.singleton_append, ofBits_append, ih, length_bitsOf, single,
      Nat.toNat_testBit, Nat.mod_pow_succ]
    ring

/-! ## The bits of pixels -/

/-- Every pixel takes the bits of its depth. -/
@[simp] theorem length_pixelBits (depth : BitDepth) (pixels : List Nat) :
    (pixelBits depth pixels).length = pixels.length * depth.bits := by
  induction pixels with
  | nil => simp [pixelBits]
  | cons pixel pixels ih =>
    rw [pixelBits] at ih
    rw [pixelBits, List.flatMap_cons, List.length_append, length_bitsOf, ih, List.length_cons]
    ring

/-- The bits of pixels spell the number whose digits the pixels are. -/
theorem ofBits_pixelBits (depth : BitDepth) {pixels : List Nat}
    (fit : ∀ pixel ∈ pixels, pixel < depth.ranks) :
    ofBits (pixelBits depth pixels) = joinPixels depth pixels := by
  induction pixels using List.reverseRecOn with
  | nil => rfl
  | append_singleton pixels pixel ih =>
    have last : pixel < 2 ^ depth.bits := by
      rw [← depth.ranks_eq_two_pow]
      exact fit pixel (by simp)
    have others := ih fun other member => fit other (List.mem_append_left _ member)
    have split : pixelBits depth (pixels ++ [pixel]) =
        pixelBits depth pixels ++ bitsOf depth.bits pixel := by simp [pixelBits]
    have single : joinPixels depth [pixel] = pixel := by simp [joinPixels]
    rw [split, ofBits_append, others, length_bitsOf, ofBits_bitsOf, Nat.mod_eq_of_lt last,
      joinPixels_append, single, List.length_singleton, Nat.pow_one, depth.ranks_eq_two_pow]

/-! ## Segments -/

/-- The zeros fill the last byte up. -/
@[simp] theorem length_segmentBits (depth : BitDepth) (alignTail : Bool) (pixels : List Nat) :
    (segmentBits depth alignTail pixels).length = depth.bytesFor pixels.length * 8 := by
  have length := length_pixelBits depth pixels
  cases alignTail <;>
    simp only [segmentBits, Bool.false_eq_true, ↓reduceIte, List.length_append, List.length_take,
      List.length_drop, List.length_replicate, length, BitDepth.bytesFor] <;>
    omega

/-- A segment takes the bytes that its pixels ask for. -/
@[simp] theorem length_segmentBytes (depth : BitDepth) (alignTail : Bool) (pixels : List Nat) :
    (segmentBytes depth alignTail pixels).length = depth.bytesFor pixels.length := by
  rw [segmentBytes, List.length_map, length_chunks (by decide), length_segmentBits]
  omega

/-- Pixels that fill a byte are laid out in it, before those that follow them. -/
theorem segmentBits_append_of_full (depth : BitDepth) (alignTail : Bool) {front : List Nat}
    (full : front.length = depth.pixelsPerByte) (back : List Nat) :
    segmentBits depth alignTail (front ++ back) =
      pixelBits depth front ++ segmentBits depth alignTail back := by
  have byte : (pixelBits depth front).length = 8 := by
    rw [length_pixelBits, full, depth.pixelsPerByte_mul_bits]
  have split : pixelBits depth (front ++ back) = pixelBits depth front ++ pixelBits depth back := by
    simp [pixelBits]
  have whole : (8 + (pixelBits depth back).length) / 8 * 8 =
      8 + (pixelBits depth back).length / 8 * 8 := by omega
  cases alignTail with
  | true => simp [segmentBits, split, byte]
  | false =>
    simp only [segmentBits, split, List.length_append, byte, whole, Nat.add_mod_left,
      Bool.false_eq_true, ↓reduceIte]
    rw [← byte, List.take_length_add_append, List.drop_length_add_append]
    simp only [List.append_assoc]

/-- Eight bits before others are a byte of their own. -/
theorem map_chunks_append {front : List Bool} (byte : front.length = 8) (back : List Bool) :
    (chunks 8 (front ++ back)).map (fun bits => UInt8.ofNat (ofBits bits)) =
      UInt8.ofNat (ofBits front) :: (chunks 8 back).map fun bits => UInt8.ofNat (ofBits bits) := by
  have some_bit : front ++ back ≠ [] := by
    intro none
    rw [List.append_eq_nil_iff] at none
    simp [none.1] at byte
  rw [chunks_of_ne_nil (by decide) some_bit, List.take_left' byte, List.drop_left' byte,
    List.map_cons]

/-- Pixels that fill a byte are its bits. -/
theorem segmentBytes_append_of_full (depth : BitDepth) (alignTail : Bool) {front : List Nat}
    (fit : ∀ pixel ∈ front, pixel < depth.ranks) (full : front.length = depth.pixelsPerByte)
    (back : List Nat) :
    segmentBytes depth alignTail (front ++ back) =
      packByte depth alignTail front :: segmentBytes depth alignTail back := by
  have byte : (pixelBits depth front).length = 8 := by
    rw [length_pixelBits, full, depth.pixelsPerByte_mul_bits]
  have filled : packByte depth alignTail front = UInt8.ofNat (ofBits (pixelBits depth front)) := by
    rw [ofBits_pixelBits depth fit, packByte, full, depth.pixelsPerByte_mul_bits]
    simp
  rw [segmentBytes, segmentBits_append_of_full depth alignTail full, map_chunks_append byte, filled,
    segmentBytes]

/-- Pixels too few to fill a byte are laid out in one byte with the zeros that fill it up. -/
theorem segmentBytes_of_short (depth : BitDepth) (alignTail : Bool) {pixels : List Nat}
    (fit : ∀ pixel ∈ pixels, pixel < depth.ranks) (some_pixel : pixels ≠ [])
    (short : pixels.length < depth.pixelsPerByte) :
    segmentBytes depth alignTail pixels = [packByte depth alignTail pixels] := by
  have some_bit := depth.bits_pos
  have below : pixels.length * depth.bits < 8 := by
    rw [← depth.pixelsPerByte_mul_bits]
    exact Nat.mul_lt_mul_of_pos_right short some_bit
  have above : 0 < pixels.length * depth.bits :=
    Nat.mul_pos (List.length_pos_iff.mpr some_pixel) some_bit
  have length := length_pixelBits depth pixels
  have none_full : pixels.length * depth.bits / 8 * 8 = 0 := by omega
  have left : (8 - pixels.length * depth.bits % 8) % 8 = 8 - pixels.length * depth.bits := by omega
  have byte : (segmentBits depth alignTail pixels).length = 8 := by
    rw [length_segmentBits, BitDepth.bytesFor]
    omega
  have value : ofBits (segmentBits depth alignTail pixels) =
      if alignTail then joinPixels depth pixels <<< (8 - pixels.length * depth.bits)
      else joinPixels depth pixels := by
    cases alignTail with
    | true =>
      simp only [segmentBits, length, left, ↓reduceIte]
      rw [ofBits_append, ofBits_zeros, ofBits_pixelBits depth fit, List.length_replicate,
        Nat.shiftLeft_eq, Nat.add_zero]
    | false =>
      simp only [segmentBits, length, left, none_full, Bool.false_eq_true, ↓reduceIte,
        List.take_zero, List.drop_zero, List.nil_append]
      rw [ofBits_append, ofBits_zeros, ofBits_pixelBits depth fit, Nat.zero_mul, Nat.zero_add]
  have single := map_chunks_append byte []
  rw [List.append_nil, chunks_nil, List.map_nil, value] at single
  exact single

/-- Packing a segment gives its bytes. -/
theorem packPixels_eq_segmentBytes (depth : BitDepth) (alignTail : Bool) {pixels : List Nat}
    (fit : ∀ pixel ∈ pixels, pixel < depth.ranks) :
    packPixels depth alignTail pixels = segmentBytes depth alignTail pixels := by
  by_cases empty : pixels = []
  · subst empty
    simp [packPixels, segmentBytes, segmentBits, pixelBits]
  · by_cases short : pixels.length < depth.pixelsPerByte
    · rw [Packer.packPixels_of_short _ _ empty (Nat.le_of_lt short),
        segmentBytes_of_short depth alignTail fit empty short]
    · have full : (pixels.take depth.pixelsPerByte).length = depth.pixelsPerByte := by
        rw [List.length_take]
        omega
      rw [← List.take_append_drop depth.pixelsPerByte pixels,
        Packer.packPixels_append_of_full _ _ full,
        segmentBytes_append_of_full depth alignTail
          (fun pixel member => fit pixel (List.mem_of_mem_take member)) full,
        packPixels_eq_segmentBytes depth alignTail
          fun pixel member => fit pixel (List.mem_of_mem_drop member)]
termination_by pixels.length
decreasing_by
  have some_place := Nat.pos_of_ne_zero depth.pixelsPerByte_ne_zero
  rw [List.length_drop]
  omega

end SpriteText
