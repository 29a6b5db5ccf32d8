import SpriteText.Proofs.Packing.Stream

/-!
# Packing the pixels of a sprite again

A pixel of a sprite is a digit of a byte of its data, cut out by a shift that never leaves the byte
(`Sprite.ReadsWithin`). The pixels of one byte are its digits from the free bits upwards, so packing
them gives the byte back without what its free bits held. Packing all pixels of a sprite therefore
gives its data with the padding of a last byte that is not filled set to zero
(`Sprite.ClearsPadding`).
-/

namespace SpriteText

/-! ## The digits of one byte -/

/-- The digits of a number above some bits, the highest first, spell what the number holds there. -/
theorem joinPixels_digits (depth : BitDepth) (value low count : Nat) :
    joinPixels depth ((List.range count).map fun index =>
        value >>> (low + (count - 1 - index) * depth.bits) % depth.ranks) =
      value >>> low % 2 ^ (count * depth.bits) := by
  -- The last digit is the lowest, so the digits before it are those above one more place.
  induction count generalizing low with
  | zero => simp [joinPixels, Nat.mod_one]
  | succ count ih =>
    have front : (List.range count).map (fun index =>
          value >>> (low + (count + 1 - 1 - index) * depth.bits) % depth.ranks) =
        (List.range count).map fun index =>
          value >>> (low + depth.bits + (count - 1 - index) * depth.bits) % depth.ranks := by
      apply List.map_congr_left
      intro index inside
      rw [List.mem_range] at inside
      have places : count + 1 - 1 - index = count - 1 - index + 1 := by omega
      rw [places, Nat.succ_mul, Nat.add_assoc, Nat.add_comm depth.bits]
    have last : joinPixels depth [value >>> low % depth.ranks] = value >>> low % depth.ranks := by
      simp [joinPixels]
    have lowest : low + (count + 1 - 1 - count) * depth.bits = low := by
      rw [Nat.add_sub_cancel, Nat.sub_self, Nat.zero_mul, Nat.add_zero]
    rw [List.range_succ, List.map_append, front, List.map_singleton, lowest, joinPixels_append, ih,
      last, List.length_singleton, Nat.pow_one, Nat.shiftRight_add, Nat.shiftRight_eq_div_pow _
      depth.bits, depth.ranks_eq_two_pow, Nat.succ_mul, Nat.add_comm (count * depth.bits),
      Nat.pow_add, Nat.mod_mul, Nat.mul_comm, Nat.add_comm]

/-- Packing the digits of a byte above its free bits gives the byte with the free bits cleared. -/
theorem testBit_packByte_digits (depth : BitDepth) (alignTail : Bool) (byte : UInt8) {count : Nat}
    (few : count ≤ depth.pixelsPerByte) (bit : Nat) :
    (packByte depth alignTail ((List.range count).map fun index =>
        byte.toNat >>> (padding depth alignTail count + (count - 1 - index) * depth.bits) %
          depth.ranks)).toNat.testBit bit =
      (byte.toNat.testBit bit && decide (padding depth alignTail count ≤ bit ∧
        bit < padding depth alignTail count + count * depth.bits)) := by
  have some_rank : 0 < depth.ranks := by
    rw [depth.ranks_eq_two_pow]
    exact Nat.two_pow_pos _
  have fit : ∀ pixel ∈ (List.range count).map fun index =>
      byte.toNat >>> (padding depth alignTail count + (count - 1 - index) * depth.bits) %
        depth.ranks, pixel < depth.ranks := by
    intro pixel member
    obtain ⟨index, -, rfl⟩ := List.mem_map.mp member
    exact Nat.mod_lt _ some_rank
  have length : ((List.range count).map fun index =>
      byte.toNat >>> (padding depth alignTail count + (count - 1 - index) * depth.bits) %
        depth.ranks).length = count := by
    rw [List.length_map, List.length_range]
  rw [toNat_packByte depth alignTail fit (length.symm ▸ few), length, joinPixels_digits,
    Nat.testBit_mul_two_pow, Nat.testBit_mod_two_pow, Nat.testBit_shiftRight]
  generalize padding depth alignTail count = low
  by_cases above : low ≤ bit
  · have place : low + (bit - low) = bit := by omega
    have below : bit - low < count * depth.bits ↔ bit < low + count * depth.bits := by omega
    simp only [above, place, below, decide_true, Bool.true_and, true_and]
    exact Bool.and_comm _ _
  · simp [above]

/-! ## Pixels by their places -/

/-- Rows of consecutive items are these items one after the other. -/
theorem flatten_map_range {α : Type} (item : Nat → α) (width height : Nat) :
    ((List.range height).map fun y =>
        (List.range width).map fun x => item (y * width + x)).flatten =
      (List.range (height * width)).map item := by
  induction height with
  | zero => simp
  | succ height ih =>
    rw [List.range_succ, List.map_append, List.flatten_append, ih, List.map_singleton,
      List.flatten_singleton, Nat.succ_mul, List.range_add, List.map_append, List.map_map]
    rfl

namespace Sprite

variable (sprite : Sprite)

/-- A pixel is a number that its bits can spell. -/
theorem pixel_lt_ranks (x y : Nat) : sprite.pixel x y < sprite.depth.ranks := by
  rw [pixel, sprite.depth.ranks_eq_two_pow]
  exact Nat.mod_lt _ (Nat.two_pow_pos _)

/-- A pixel is read by its place in row-major order alone. -/
theorem pixel_eq_of_place (x y : Nat) :
    sprite.pixel x y = sprite.pixel (y * sprite.width + x) 0 := by
  simp only [pixel, shift, byteIndex, Nat.zero_mul, Nat.zero_add]
  rfl

/-- The bits below a pixel in its byte are the free bits and those of the later pixels. -/
theorem shift_eq_padding_of_place {place count : Nat} (inside : place < sprite.pixelCount)
    (counted : count = min sprite.depth.pixelsPerByte (sprite.pixelCount -
      place / sprite.depth.pixelsPerByte * sprite.depth.pixelsPerByte)) :
    sprite.shift place 0 = padding sprite.depth sprite.tailAligned count +
      (count - 1 - place % sprite.depth.pixelsPerByte) * sprite.depth.bits := by
  rw [← shift_eq_padding sprite.depth sprite.tailAligned inside counted, pixelCount,
    ← tailAligned_eq_or, Sprite.shift, byteIndex, Nat.zero_mul, Nat.zero_add, sprite.size_data]
  rfl

/-- The rows one after the other are the pixels by their places. -/
theorem flatten_rows :
    sprite.rows.flatten =
      (List.range sprite.pixelCount).map fun place => sprite.pixel place 0 := by
  have rows : sprite.rows = (List.range sprite.height).map fun y =>
      (List.range sprite.width).map fun x => sprite.pixel (y * sprite.width + x) 0 := by
    simp only [Sprite.rows, ← pixel_eq_of_place]
  rw [rows, flatten_map_range fun place => sprite.pixel place 0, pixelCount, Nat.mul_comm]

/-! ## Reading within the data -/

/-- The pixel at a column and row is cut out of one byte of the data. -/
structure ReadsWithin (x y : Nat) : Prop where
  /-- The data has the byte. -/
  byte : sprite.byteIndex x y < sprite.data.size
  /-- The shift is what is left of the bits of the byte that hold pixels, less those of the pixels
  before this one and its own; nothing is taken off that is not there. -/
  place : sprite.shift x y + sprite.depth.bits +
      (y * sprite.width + x) * sprite.depth.bits % 8 =
    if !sprite.tailAligned && sprite.byteIndex x y + 1 == sprite.data.size then
      sprite.pixelCount * sprite.depth.bits % 8
    else 8
  /-- The shift leaves the bits of a pixel in the byte. -/
  shift : sprite.shift x y ≤ 8 - sprite.depth.bits
  /-- The pixel is a number that its bits can spell. -/
  rank : ∃ rank, sprite.getPixel x y = .ok rank ∧ rank < 2 ^ sprite.depth.bits

/-- Every pixel inside the picture is read from within the data. -/
theorem readsWithin {x y : Nat} (across : x < sprite.width) (down : y < sprite.height) :
    sprite.ReadsWithin x y := by
  have inside : y * sprite.width + x < sprite.pixelCount := place_lt across down
  have size : sprite.data.size = sprite.depth.bytesFor sprite.pixelCount := sprite.size_data
  have aligned : sprite.pixelCount * sprite.depth.bits % 8 = 0 → sprite.tailAligned = true :=
    sprite.aligned_of_full
  have place : sprite.shift x y + sprite.depth.bits +
      (y * sprite.width + x) * sprite.depth.bits % 8 =
    if !sprite.tailAligned && sprite.byteIndex x y + 1 == sprite.data.size then
      sprite.pixelCount * sprite.depth.bits % 8
    else 8 := by
    simp only [Sprite.shift, byteIndex, size, BitDepth.bytesFor]
    generalize y * sprite.width + x = place at inside
    split
    · rename_i last
      simp only [Bool.and_eq_true, Bool.not_eq_true', beq_iff_eq] at last
      have unfilled : sprite.pixelCount * sprite.depth.bits % 8 ≠ 0 := by
        intro full
        rw [aligned full] at last
        exact absurd last.1 (by decide)
      cases depth : sprite.depth <;> simp only [depth, BitDepth.bits] at last unfilled ⊢ <;> omega
    · cases sprite.depth <;> simp only [BitDepth.bits] <;> omega
  constructor
  case byte =>
    rw [byteIndex, size, BitDepth.bytesFor]
    cases sprite.depth <;> simp only [BitDepth.bits] <;> omega
  case place => exact place
  case shift => split at place <;> omega
  case rank =>
    have within : 0 ≤ (x : Int) ∧ (x : Int) < sprite.width ∧ 0 ≤ (y : Int) ∧
        (y : Int) < sprite.height := by omega
    refine ⟨sprite.pixel x y, ?_, ?_⟩
    · rw [getPixel, if_pos within]
      rfl
    · rw [← sprite.depth.ranks_eq_two_pow]
      exact sprite.pixel_lt_ranks x y

/-! ## The padding of a last byte -/

/-- No pixel takes a bit of a data byte, counted from the lowest. Only a last byte that is not
filled has such bits: the low ones if it is aligned, and the high ones if it is not. -/
def isPadding (index bit : Nat) : Bool :=
  let filled := sprite.pixelCount * sprite.depth.bits % 8
  decide (filled ≠ 0 ∧ index + 1 = sprite.data.size ∧
    if sprite.tailAligned then bit < 8 - filled else filled ≤ bit)

/-- Bytes are the data of a sprite with the padding set to zero and every other bit as it is. -/
structure ClearsPadding (bytes : Array UInt8) : Prop where
  /-- There are as many bytes. -/
  size : bytes.size = sprite.data.size
  /-- The bits of the data are kept, but for the padding. -/
  bits : ∀ index bit, (bytes.getD index 0).toNat.testBit bit =
    ((sprite.data.getD index 0).toNat.testBit bit && !sprite.isPadding index bit)

/-- The pixels of a data byte are those of the chunk at its place. -/
theorem getElem?_chunks_flatten_rows {index count : Nat} (inside : index < sprite.data.size)
    (counted : count = min sprite.depth.pixelsPerByte
      (sprite.pixelCount - index * sprite.depth.pixelsPerByte)) :
    (chunks sprite.depth.pixelsPerByte sprite.rows.flatten)[index]? =
      some ((List.range count).map fun place =>
        (sprite.data.getD index 0).toNat >>>
            (padding sprite.depth sprite.tailAligned count + (count - 1 - place) *
              sprite.depth.bits) %
          sprite.depth.ranks) := by
  have perByte : sprite.depth.pixelsPerByte * sprite.depth.bits = 8 :=
    sprite.depth.pixelsPerByte_mul_bits
  have size : sprite.data.size = sprite.depth.bytesFor sprite.pixelCount := sprite.size_data
  have some_pixel : index * sprite.depth.pixelsPerByte < sprite.pixelCount := by
    rw [size, BitDepth.bytesFor] at inside
    cases depth : sprite.depth <;>
      simp only [depth, BitDepth.bits, BitDepth.pixelsPerByte] at inside ⊢ <;> omega
  rw [getElem?_chunks sprite.depth.pixelsPerByte_ne_zero, flatten_rows, List.length_map,
    List.length_range, if_pos some_pixel]
  congr 1
  apply List.ext_getElem
  · simp only [List.length_take, List.length_drop, List.length_map, List.length_range]
    omega
  · intro place before after
    rw [List.length_map, List.length_range] at after
    rw [List.getElem_take, List.getElem_drop, List.getElem_map, List.getElem_map,
      List.getElem_range, List.getElem_range]
    have first : place < sprite.depth.pixelsPerByte := by omega
    have quotient : (index * sprite.depth.pixelsPerByte + place) / sprite.depth.pixelsPerByte =
        index := by
      rw [Nat.mul_comm, Nat.mul_add_div (by omega), Nat.div_eq_of_lt first, Nat.add_zero]
    have remainder : (index * sprite.depth.pixelsPerByte + place) % sprite.depth.pixelsPerByte =
        place := by
      rw [Nat.mul_comm, Nat.mul_add_mod, Nat.mod_eq_of_lt first]
    have byte : sprite.byteIndex (index * sprite.depth.pixelsPerByte + place) 0 = index := by
      rw [byteIndex, Nat.zero_mul, Nat.zero_add, ← perByte,
        Nat.mul_div_mul_right _ _ sprite.depth.bits_pos, quotient]
    have held : index * sprite.depth.pixelsPerByte + place < sprite.pixelCount := by omega
    have shifted := sprite.shift_eq_padding_of_place held (quotient.symm ▸ counted)
    rw [pixel, byte, shifted, remainder]

/-- The bits of a data byte that no free bit is among are those that are no padding. -/
theorem isPadding_eq {index count bit : Nat} (inside : index < sprite.data.size)
    (counted : count = min sprite.depth.pixelsPerByte
      (sprite.pixelCount - index * sprite.depth.pixelsPerByte)) (low : bit < 8) :
    decide (padding sprite.depth sprite.tailAligned count ≤ bit ∧
        bit < padding sprite.depth sprite.tailAligned count + count * sprite.depth.bits) =
      !sprite.isPadding index bit := by
  have size : sprite.data.size = sprite.depth.bytesFor sprite.pixelCount := sprite.size_data
  rw [size, BitDepth.bytesFor] at inside
  rw [isPadding, ← decide_not, decide_eq_decide, size, BitDepth.bytesFor, padding]
  cases tail : sprite.tailAligned <;> cases depth : sprite.depth <;>
    simp only [depth, BitDepth.bits, BitDepth.pixelsPerByte, Bool.false_eq_true, ↓reduceIte]
      at inside counted ⊢ <;>
    omega

/-- Packing the pixels of a sprite gives its data without the padding. -/
theorem clearsPadding_packPixels :
    sprite.ClearsPadding
      (packPixels sprite.depth sprite.tailAligned sprite.rows.flatten).toArray := by
  have length : (packPixels sprite.depth sprite.tailAligned sprite.rows.flatten).length =
      sprite.data.size := by
    rw [length_packPixels, flatten_rows, List.length_map, List.length_range]
    exact sprite.size_data.symm
  refine ⟨length, fun index bit => ?_⟩
  by_cases inside : index < sprite.data.size
  · obtain ⟨count, counted⟩ : ∃ count, count = min sprite.depth.pixelsPerByte
        (sprite.pixelCount - index * sprite.depth.pixelsPerByte) := ⟨_, rfl⟩
    have few : count ≤ sprite.depth.pixelsPerByte := counted ▸ Nat.min_le_left ..
    rw [Array.getD_eq_getD_getElem?, List.getElem?_toArray, packPixels, List.getElem?_map,
      sprite.getElem?_chunks_flatten_rows inside counted, Option.map_some, Option.getD_some,
      testBit_packByte_digits sprite.depth sprite.tailAligned _ few]
    by_cases low : bit < 8
    · rw [sprite.isPadding_eq inside counted low]
    · have above : (sprite.data.getD index 0).toNat.testBit bit = false := by
        apply Nat.testBit_lt_two_pow
        calc
          (sprite.data.getD index 0).toNat < 2 ^ 8 := UInt8.toNat_lt _
          _ ≤ 2 ^ bit := Nat.pow_le_pow_right (by decide) (Nat.le_of_not_lt low)
      rw [above, Bool.false_and, Bool.false_and]
  · have behind : sprite.data.size ≤ index := Nat.le_of_not_lt inside
    have none : (packPixels sprite.depth sprite.tailAligned sprite.rows.flatten).toArray[index]? =
        none := by
      rw [List.getElem?_toArray, List.getElem?_eq_none (length ▸ behind)]
    rw [Array.getD_eq_getD_getElem?, Array.getD_eq_getD_getElem?, none,
      Array.getElem?_eq_none behind, Option.getD_none]
    simp

/-- Every pixel of a sprite fits its depth. -/
theorem rows_fit : ∀ pixel ∈ sprite.rows.flatten, pixel < sprite.depth.ranks := by
  intro rank member
  rw [flatten_rows, List.mem_map] at member
  obtain ⟨place, -, rfl⟩ := member
  exact sprite.pixel_lt_ranks place 0

/-- Reading the pixels of a sprite and packing them are inverse to each other. Every pixel inside
the picture is cut out of one byte of the data by a shift within the byte, and is a number that its
bits can spell. All pixels, row by row, are accepted by a packer of the sprite's depth and layout
with a zeroed buffer of the sprite's length. They complete as many bytes, and the buffer then holds
the data of the sprite with the padding of its last byte set to zero and every other bit as it
is. -/
theorem pack_rows_clears_padding (sprite : Sprite) :
    (∀ x y, x < sprite.width → y < sprite.height → sprite.ReadsWithin x y) ∧
    ∃ fresh packed cleared,
      Packer.start sprite.depth.bits (some (.replicate sprite.byteCount 0)) sprite.tailAligned =
        .ok fresh ∧
      fresh.pushAll sprite.rows.flatten = (packed, none) ∧
      packed.finish.offset = sprite.byteCount ∧
      packed.finish.buffer = some cleared ∧ sprite.ClearsPadding cleared := by
  refine ⟨fun x y across down => sprite.readsWithin across down, ?_⟩
  let fresh : Packer :=
    { depth := sprite.depth, alignTail := sprite.tailAligned,
      buffer := some (.replicate sprite.byteCount 0) }
  have started : Packer.start sprite.depth.bits (some (.replicate sprite.byteCount 0))
      sprite.tailAligned = .ok fresh := by
    rw [Packer.start, BitDepth.ofInt?_bits]
  have accepted : (fresh.pushAll sprite.rows.flatten).2 = none :=
    (Packer.pushAll_snd_eq_none_iff fresh).mpr sprite.rows_fit
  have holds : (fresh.pushAll sprite.rows.flatten).1.finish.Holds fresh.buffer
      (packPixels sprite.depth sprite.tailAligned sprite.rows.flatten) :=
    Packer.finish_pushAll_start sprite.tailAligned _ sprite.rows_fit
  have clears := sprite.clearsPadding_packPixels
  have length : (packPixels sprite.depth sprite.tailAligned sprite.rows.flatten).length =
      (Array.replicate sprite.byteCount (0 : UInt8)).size := by
    rw [Array.size_replicate]
    exact clears.size
  refine ⟨fresh, (fresh.pushAll sprite.rows.flatten).1, _, started, ?_, ?_, ?_, clears⟩
  · rw [← accepted]
  · rw [holds.offset]
    exact clears.size
  · rw [holds.buffer, Option.map_some, overlay_of_length_eq length]

/-- Three pixels in the low bits of a byte whose five high bits are set. -/
theorem pack_rows_clears_padding_tail :
    ∃ sprite : Sprite, sprite.data = #[0xFD] ∧ sprite.tailAligned = false ∧
      sprite.ReadsWithin 2 0 ∧ ∃ cleared, sprite.ClearsPadding cleared ∧
        (cleared.getD 0 0).toNat.testBit 2 = true ∧ (cleared.getD 0 0).toNat.testBit 3 = false := by
  let sprite : Sprite := ⟨3, 1, .one, #[0xFD], false, by decide, by decide⟩
  obtain ⟨reads, -, -, cleared, -, -, -, -, clears⟩ := pack_rows_clears_padding sprite
  refine ⟨sprite, rfl, rfl, reads 2 0 (by decide) (by decide), cleared, clears, ?_, ?_⟩
  · rw [clears.bits]
    decide
  · rw [clears.bits]
    decide

end Sprite

end SpriteText
