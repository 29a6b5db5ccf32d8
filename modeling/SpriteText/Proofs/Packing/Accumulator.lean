import Mathlib.Data.Int.Bitwise
import SpriteText.Proofs.Packing.Pixels

/-!
# The byte in the making as a number

A packer may keep the byte in the making as a number and the count of its bits in place of the
pixels themselves. A pixel then shifts the number and fills its lowest bits, and a rank is refused
when it has bits outside the mask of the depth. Such a packer goes on as one that keeps the pixels
(`Accumulator.step_ofPacker`), as long as they fit and do not fill a byte.
-/

namespace SpriteText

/-- A packer that keeps the byte in the making as a number. -/
structure Accumulator where
  /-- The depth of every pixel. -/
  depth : BitDepth
  /-- Whether a last byte that is not filled holds its pixels in its high bits. -/
  alignTail : Bool := false
  /-- The buffer, if bytes are to be stored. -/
  buffer : Option (Array UInt8)
  /-- The byte in the making. -/
  value : Nat := 0
  /-- The bits of it that are taken. -/
  filled : Nat := 0
  /-- The number of bytes completed. -/
  offset : Nat := 0
  /-- The number of pixels accepted. -/
  pixels : Nat := 0
deriving DecidableEq, Repr

namespace Accumulator

/-- The bits of a rank that its depth has no place for. -/
def excess (depth : BitDepth) (rank : Int) : Int :=
  Int.land rank (Int.lnot ((2 ^ depth.bits - 1 : Nat) : Int))

/-- The byte in the making is completed and stored if there is a place for it. -/
def flush (kept : Accumulator) : Accumulator :=
  { kept with
    buffer := kept.buffer.map fun bytes =>
      bytes.setIfInBounds kept.offset (UInt8.ofNat kept.value)
    value := 0
    filled := 0
    offset := kept.offset + 1 }

/-- The number after one more pixel, which moves the others up and may push bits out of a byte. -/
def add (kept : Accumulator) (rank : Nat) : Accumulator :=
  let next :=
    { kept with
      value := (kept.value <<< kept.depth.bits ||| rank) &&& 0xFF
      filled := kept.filled + kept.depth.bits
      pixels := kept.pixels + 1 }
  if next.filled = 8 then next.flush else next

/-- The end of a run of pixels: the bits of a byte in the making are moved up if the tail is
aligned. -/
def finish (kept : Accumulator) : Accumulator :=
  if kept.filled = 0 then kept
  else
    let value :=
      if kept.alignTail then kept.value <<< (8 - kept.filled) &&& 0xFF else kept.value
    flush { kept with value }

/-- One event. -/
def step (kept : Accumulator) : Packer.Event → Accumulator × Except PackFault (Option Nat)
  | .push rank =>
    if excess kept.depth rank = 0 then (kept.add rank.toNat, .ok none)
    else (kept, .error (.misfit rank kept.depth))
  | .finish => (kept.finish, .ok (some kept.finish.offset))

/-- The packer after events, whatever was refused among them. -/
def after (kept : Accumulator) (events : List Packer.Event) : Accumulator :=
  events.foldl (fun reached event => (reached.step event).1) kept

/-- A further event comes after the events before it. -/
theorem after_concat (kept : Accumulator) (events : List Packer.Event) (event : Packer.Event) :
    kept.after (events ++ [event]) = ((kept.after events).step event).1 := by
  rw [after, List.foldl_append]
  rfl

/-- A packer whose byte in the making is the number that its pixels spell. -/
def ofPacker (packer : Packer) : Accumulator where
  depth := packer.depth
  alignTail := packer.alignTail
  buffer := packer.buffer
  value := joinPixels packer.depth packer.pending
  filled := packer.pending.length * packer.depth.bits
  offset := packer.offset
  pixels := packer.pixels

/-- A number has no bits outside the lowest ones exactly when these spell it. -/
theorem ldiff_eq_zero_iff {value width : Nat} :
    Nat.ldiff value (2 ^ width - 1) = 0 ↔ value < 2 ^ width := by
  constructor
  · intro none
    refine Nat.lt_pow_two_of_testBit value fun bit above => ?_
    have outside := congrArg (Nat.testBit · bit) none
    simpa [Nat.testBit_ldiff, Nat.testBit_two_pow_sub_one, Nat.not_lt.mpr above] using outside
  · intro small
    refine Nat.eq_of_testBit_eq fun bit => ?_
    rw [Nat.testBit_ldiff, Nat.testBit_two_pow_sub_one, Nat.zero_testBit]
    by_cases below : bit < width
    · simp [below]
    · have high := Nat.testBit_lt_two_pow (Nat.lt_of_lt_of_le small
        (Nat.pow_le_pow_right (by decide) (Nat.le_of_not_lt below)))
      simp [high]

/-- A rank has no excess bits exactly when the bits of the depth can spell it. -/
theorem excess_eq_zero_iff {depth : BitDepth} {rank : Int} :
    excess depth rank = 0 ↔ 0 ≤ rank ∧ rank < depth.ranks := by
  cases rank with
  | ofNat value =>
    have split : excess depth (Int.ofNat value) = (Nat.ldiff value (2 ^ depth.bits - 1) : Nat) :=
      rfl
    rw [split, Int.natCast_eq_zero, ldiff_eq_zero_iff, ← depth.ranks_eq_two_pow,
      Int.ofNat_eq_natCast]
    omega
  | negSucc value =>
    have split : excess depth (Int.negSucc value) =
        Int.negSucc (value ||| (2 ^ depth.bits - 1)) := rfl
    rw [split]
    omega

variable {packer : Packer}

/-- Pixels that fit and do not overfill a byte spell a byte. -/
theorem joinPixels_lt_byte {depth : BitDepth} {pixels : List Nat}
    (fit : ∀ pixel ∈ pixels, pixel < depth.ranks) (few : pixels.length ≤ depth.pixelsPerByte) :
    joinPixels depth pixels < 2 ^ 8 := by
  refine Nat.lt_of_lt_of_le (joinPixels_lt depth fit) ?_
  rw [depth.ranks_eq_two_pow, ← Nat.pow_mul]
  refine Nat.pow_le_pow_right (by decide) ?_
  rw [← depth.pixelsPerByte_mul_bits, Nat.mul_comm]
  exact Nat.mul_le_mul_right _ few

/-- One more pixel moves the others up and fills the lowest bits. -/
theorem joinPixels_concat {depth : BitDepth} (pixels : List Nat) {rank : Nat}
    (fits : rank < depth.ranks) :
    joinPixels depth (pixels ++ [rank]) = joinPixels depth pixels <<< depth.bits ||| rank := by
  have single : joinPixels depth [rank] = rank := by simp [joinPixels]
  rw [joinPixels_append, single, List.length_singleton, Nat.pow_one, depth.ranks_eq_two_pow,
    ← Nat.shiftLeft_eq, Nat.shiftLeft_add_eq_or_of_lt (depth.ranks_eq_two_pow ▸ fits)]

/-- The bits of a byte are taken exactly when it is full of pixels. -/
theorem mul_bits_eq_eight_iff {depth : BitDepth} {count : Nat} :
    count * depth.bits = 8 ↔ count = depth.pixelsPerByte := by
  cases depth <;> simp only [BitDepth.bits, BitDepth.pixelsPerByte] <;> omega

/-- A byte that is full of pixels is their number, however a tail would be aligned. -/
theorem packByte_of_full {depth : BitDepth} {pixels : List Nat}
    (full : pixels.length = depth.pixelsPerByte) (alignTail : Bool) :
    packByte depth alignTail pixels = UInt8.ofNat (joinPixels depth pixels) := by
  have none_left : 8 - pixels.length * depth.bits = 0 := by
    rw [mul_bits_eq_eight_iff.mpr full]
  simp only [packByte, none_left, Nat.shiftLeft_zero, ite_self]

/-- A byte is completed in the number as it is in the pixels. -/
theorem flush_ofPacker {value : Nat}
    (same : UInt8.ofNat value = packByte packer.depth packer.alignTail packer.pending) :
    flush { ofPacker packer with value } = ofPacker packer.flush := by
  simp [flush, Packer.flush, ofPacker, same, joinPixels]

/-- A pixel that fits is added to the number as it is to the pixels. -/
theorem add_ofPacker (fit : ∀ pixel ∈ packer.pending, pixel < packer.depth.ranks)
    (short : packer.pending.length < packer.depth.pixelsPerByte) {rank : Nat}
    (fits : rank < packer.depth.ranks) :
    (ofPacker packer).add rank = ofPacker (packer.add rank) := by
  let next : Packer :=
    { packer with pending := packer.pending ++ [rank], pixels := packer.pixels + 1 }
  have length : next.pending.length = packer.pending.length + 1 := by simp [next]
  have byte : joinPixels packer.depth next.pending < 2 ^ 8 := by
    refine joinPixels_lt_byte (fun pixel member => ?_) (length ▸ short)
    rcases List.mem_append.mp member with old | new
    · exact fit pixel old
    · exact List.mem_singleton.mp new ▸ fits
  have masked : (joinPixels packer.depth packer.pending <<< packer.depth.bits ||| rank) &&& 0xFF =
      joinPixels packer.depth next.pending := by
    rw [← joinPixels_concat packer.pending fits]
    exact Nat.and_two_pow_sub_one_of_lt_two_pow byte
  have filled : packer.pending.length * packer.depth.bits + packer.depth.bits =
      next.pending.length * packer.depth.bits := by
    rw [length, Nat.succ_mul]
  have reached : (ofPacker packer).add rank =
      if next.pending.length * packer.depth.bits = 8 then (ofPacker next).flush
      else ofPacker next := by
    simp only [add, ofPacker, masked, filled]
    rfl
  rw [reached, Packer.add]
  simp only [mul_bits_eq_eight_iff]
  by_cases completed : next.pending.length = packer.depth.pixelsPerByte
  · rw [if_pos completed, if_pos completed]
    exact @flush_ofPacker next _ (packByte_of_full completed packer.alignTail).symm
  · rw [if_neg completed, if_neg completed]

/-- The end of a run completes the number as it does the pixels. -/
theorem finish_ofPacker (packer : Packer) : (ofPacker packer).finish = ofPacker packer.finish := by
  have some_bit := packer.depth.bits_pos
  have empty : (ofPacker packer).filled = 0 ↔ packer.pending = [] := by
    rw [ofPacker, Nat.mul_eq_zero, List.length_eq_zero_iff]
    exact or_iff_left (Nat.ne_of_gt some_bit)
  by_cases idle : packer.pending = []
  · rw [finish, if_pos (empty.mpr idle), Packer.finish, idle]
    rfl
  · have ended : packer.finish = packer.flush := if_neg (by simpa using idle)
    rw [finish, if_neg (mt empty.mp idle), ended]
    refine flush_ofPacker ?_
    -- Bits that the shift moves out of the byte are dropped by the mask and by the byte alike.
    have dropped (value : Nat) : UInt8.ofNat (value &&& 0xFF) = UInt8.ofNat value := by
      rw [show value &&& 0xFF = value % 2 ^ 8 from Nat.and_two_pow_sub_one_eq_mod value 8]
      exact UInt8.ofNat_mod_size
    rw [packByte, ofPacker]
    cases packer.alignTail with
    | false => rfl
    | true => exact dropped _

/-- A packer that keeps the number goes on as one that keeps the pixels, and answers as it does. -/
theorem step_ofPacker (fit : ∀ pixel ∈ packer.pending, pixel < packer.depth.ranks)
    (short : packer.pending.length < packer.depth.pixelsPerByte) (event : Packer.Event) :
    (ofPacker packer).step event = (ofPacker (packer.step event).1, (packer.step event).2) := by
  cases event with
  | finish =>
    rw [step, finish_ofPacker]
    rfl
  | push rank =>
    have inside : excess (ofPacker packer).depth rank = 0 ↔ 0 ≤ rank ∧ rank < packer.depth.ranks :=
      excess_eq_zero_iff
    by_cases fits : 0 ≤ rank ∧ rank < packer.depth.ranks
    · have bound : rank.toNat < packer.depth.ranks := by omega
      rw [step, if_pos (inside.mpr fits), add_ofPacker fit short bound, Packer.step, Packer.push,
        if_pos fits]
    · rw [step, if_neg (mt inside.mp fits), Packer.step, Packer.push, if_neg fits]
      rfl

end Accumulator

end SpriteText
