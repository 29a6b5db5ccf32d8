import SpriteText.Proofs.Packing.Pixels

/-!
# The bytes a packer stores

A packer completes bytes one after the other. As many of them as the buffer has places are stored
from its front on, and the rest of the buffer stays as it was. The invariant `Packer.Holds` says so
for the bytes completed so far; a flush lengthens them by one byte, and a run of pixels with its end
lengthens them by the packed pixels.
-/

namespace SpriteText

/-- A buffer after bytes have been written from its front on, as far as it has places. -/
def overlay (bytes : List UInt8) (buffer : Array UInt8) : Array UInt8 :=
  (bytes.take buffer.size ++ buffer.toList.drop bytes.length).toArray

/-- Writing does not change the length of a buffer. -/
@[simp] theorem size_overlay (bytes : List UInt8) (buffer : Array UInt8) :
    (overlay bytes buffer).size = buffer.size := by
  simp only [overlay, List.size_toArray, List.length_append, List.length_take, List.length_drop,
    Array.length_toList]
  omega

/-- Bytes of the buffer's length take its place. -/
theorem overlay_of_length_eq {bytes : List UInt8} {buffer : Array UInt8}
    (same : bytes.length = buffer.size) : overlay bytes buffer = bytes.toArray := by
  rw [overlay, List.take_of_length_le (by omega), List.drop_eq_nil_of_le (by simp [same]),
    List.append_nil]

/-- One more byte is written behind the bytes before it. -/
theorem setIfInBounds_overlay (bytes : List UInt8) (buffer : Array UInt8) (byte : UInt8) :
    (overlay bytes buffer).setIfInBounds bytes.length byte = overlay (bytes ++ [byte]) buffer := by
  by_cases room : bytes.length < buffer.size
  · have next : buffer.toList.drop bytes.length =
        buffer.toList[bytes.length] :: buffer.toList.drop (bytes.length + 1) :=
      List.drop_eq_getElem_cons (by simpa using room)
    simp only [overlay, List.setIfInBounds_toArray, List.length_append, List.length_singleton]
    rw [List.take_of_length_le (by omega), List.take_of_length_le (by simp; omega), next,
      List.set_append_right _ _ (Nat.le_refl _), Nat.sub_self, List.set_cons_zero,
      List.append_assoc, List.singleton_append]
  · have full : buffer.size ≤ bytes.length := Nat.le_of_not_lt room
    rw [Array.setIfInBounds_eq_of_size_le (by simpa using full), overlay, overlay,
      List.take_append_of_le_length full, List.drop_eq_nil_of_le (by simpa using full),
      List.drop_eq_nil_of_le (by simp; omega)]

namespace Packer

/-- The bytes completed so far are counted, and those that have a place in the buffer are stored. -/
structure Holds (packer : Packer) (initial : Option (Array UInt8)) (bytes : List UInt8) : Prop where
  /-- Every completed byte is counted. -/
  offset : packer.offset = bytes.length
  /-- The buffer is overlaid with them. -/
  buffer : packer.buffer = initial.map (overlay bytes)

variable {packer : Packer} {initial : Option (Array UInt8)} {bytes : List UInt8}

/-- A flush completes the byte in the making. -/
theorem Holds.flush (holds : packer.Holds initial bytes) :
    packer.flush.Holds initial
      (bytes ++ [packByte packer.depth packer.alignTail packer.pending]) := by
  constructor
  · simp [Packer.flush, holds.offset]
  · simp only [Packer.flush, holds.offset, holds.buffer, Option.map_map]
    congr 1
    funext buffer
    exact setIfInBounds_overlay bytes buffer _

/-- Packing some pixels and then others is packing them together, if the first ones fill a byte. -/
theorem packPixels_append_of_full (depth : BitDepth) (alignTail : Bool) {front : List Nat}
    (full : front.length = depth.pixelsPerByte) (back : List Nat) :
    packPixels depth alignTail (front ++ back) =
      packByte depth alignTail front :: packPixels depth alignTail back := by
  have some_pixel : front ++ back ≠ [] := by
    intro empty
    have := depth.pixelsPerByte_ne_zero
    simp_all
  rw [packPixels, chunks_of_ne_nil depth.pixelsPerByte_ne_zero some_pixel,
    List.take_left' full, List.drop_left' full]
  rfl

/-- Pixels that do not fill a byte are packed into one. -/
theorem packPixels_of_short (depth : BitDepth) (alignTail : Bool) {pixels : List Nat}
    (some_pixel : pixels ≠ []) (short : pixels.length ≤ depth.pixelsPerByte) :
    packPixels depth alignTail pixels = [packByte depth alignTail pixels] := by
  rw [packPixels, chunks_of_ne_nil depth.pixelsPerByte_ne_zero some_pixel,
    List.take_of_length_le short, List.drop_eq_nil_of_le short]
  simp

/-- The end of a run completes the byte in the making. -/
theorem Holds.finish (holds : packer.Holds initial bytes)
    (short : packer.pending.length ≤ packer.depth.pixelsPerByte) :
    packer.finish.Holds initial
      (bytes ++ packPixels packer.depth packer.alignTail packer.pending) := by
  unfold Packer.finish
  by_cases empty : packer.pending = []
  · simpa [empty, packPixels] using holds
  · rw [if_neg (by simpa using empty), packPixels_of_short _ _ empty short]
    exact holds.flush

/-- A pixel does not change the depth. -/
@[simp] theorem depth_add (packer : Packer) (rank : Nat) :
    (packer.add rank).depth = packer.depth := by
  simp only [add]
  split <;> rfl

/-- Pixels are accepted up to the first that does not fit the depth. -/
theorem pushAll_snd (packer : Packer) (pixels : List Nat) :
    (packer.pushAll pixels).2 =
      (pixels.find? fun pixel => packer.depth.ranks ≤ pixel).map
        fun pixel => .misfit pixel packer.depth := by
  induction pixels generalizing packer with
  | nil => rfl
  | cons pixel pixels ih =>
    rw [pushAll, List.find?_cons]
    by_cases fits : pixel < packer.depth.ranks
    · have inside : decide (packer.depth.ranks ≤ pixel) = false := by simpa using fits
      rw [if_pos fits, ih, depth_add, inside]
    · have outside : decide (packer.depth.ranks ≤ pixel) = true := by simpa using fits
      rw [if_neg fits, outside]
      rfl

/-- All pixels are accepted exactly when all fit the depth. -/
theorem pushAll_snd_eq_none_iff (packer : Packer) {pixels : List Nat} :
    (packer.pushAll pixels).2 = none ↔ ∀ pixel ∈ pixels, pixel < packer.depth.ranks := by
  rw [pushAll_snd, Option.map_eq_none_iff, List.find?_eq_none]
  simp

/-- A run of pixels with its end stores the packed pixels, those pending before it included. -/
theorem Holds.finish_pushAll {pixels : List Nat} (holds : packer.Holds initial bytes)
    (short : packer.pending.length < packer.depth.pixelsPerByte)
    (fit : ∀ pixel ∈ pixels, pixel < packer.depth.ranks) :
    (packer.pushAll pixels).1.finish.Holds initial
      (bytes ++ packPixels packer.depth packer.alignTail (packer.pending ++ pixels)) := by
  induction pixels generalizing packer bytes with
  | nil =>
    rw [List.append_nil]
    exact holds.finish (Nat.le_of_lt short)
  | cons pixel pixels ih =>
    have fits : pixel < packer.depth.ranks := fit pixel List.mem_cons_self
    have others : ∀ other ∈ pixels, other < packer.depth.ranks := fun other member =>
      fit other (List.mem_cons_of_mem _ member)
    rw [pushAll, if_pos fits, List.append_cons]
    let next := { packer with pending := packer.pending ++ [pixel], pixels := packer.pixels + 1 }
    have reached : next.Holds initial bytes := ⟨holds.offset, holds.buffer⟩
    by_cases full : (packer.pending ++ [pixel]).length = packer.depth.pixelsPerByte
    · have flushed : packer.add pixel = next.flush := if_pos full
      rw [flushed, packPixels_append_of_full _ _ full, List.append_cons]
      exact ih reached.flush (Nat.pos_of_ne_zero packer.depth.pixelsPerByte_ne_zero) others
    · have kept : packer.add pixel = next := if_neg full
      have still : (packer.pending ++ [pixel]).length < packer.depth.pixelsPerByte := by
        rw [List.length_append, List.length_singleton] at full ⊢
        omega
      rw [kept]
      exact ih reached still others

/-- A fresh packer that is given pixels which fit stores the packed pixels. -/
theorem finish_pushAll_start {depth : BitDepth} {pixels : List Nat} (alignTail : Bool)
    (buffer : Option (Array UInt8)) (fit : ∀ pixel ∈ pixels, pixel < depth.ranks) :
    (pushAll { depth, alignTail, buffer } pixels).1.finish.Holds buffer
      (packPixels depth alignTail pixels) := by
  have fresh : Holds { depth, alignTail, buffer } buffer [] := by
    constructor
    · rfl
    · cases buffer <;> simp [overlay]
  exact fresh.finish_pushAll (Nat.pos_of_ne_zero depth.pixelsPerByte_ne_zero) fit

end Packer

end SpriteText
