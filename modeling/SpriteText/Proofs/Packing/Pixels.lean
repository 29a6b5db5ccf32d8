import Mathlib.Data.List.Induction
import Mathlib.Tactic.Ring
import SpriteText.Sprite

/-!
# Reading packed pixels back

The pixels of one byte are the digits of its number in the base of the depth, so a shift and a
remainder single out any one of them. Bytes are the chunks of the pixels in order. Together they
give every pixel of a packed picture back, in either layout of a last byte that is not filled.
-/

namespace SpriteText

/-! ## Chunks -/

/-- The chunk at an index starts where the chunks before it end. -/
theorem getElem?_chunks {α : Type} {length : Nat} (some_length : length ≠ 0) (items : List α)
    (index : Nat) : (chunks length items)[index]? =
      if index * length < items.length then some ((items.drop (index * length)).take length)
      else none := by
  induction index generalizing items with
  | zero =>
    by_cases empty : items = []
    · simp [empty]
    · rw [chunks_of_ne_nil some_length empty, List.getElem?_cons_zero, Nat.zero_mul,
        if_pos (List.length_pos_iff.mpr empty), List.drop_zero]
  | succ index ih =>
    by_cases empty : items = []
    · simp [empty]
    · rw [chunks_of_ne_nil some_length empty, List.getElem?_cons_succ, ih, List.length_drop,
        List.drop_drop]
      have place : (index + 1) * length = length + index * length := by ring
      rw [place]
      congr 1
      exact propext (by omega)

/-- There are as many chunks as it takes to hold all items. -/
theorem length_chunks {α : Type} {length : Nat} (some_length : length ≠ 0) (items : List α) :
    (chunks length items).length = (items.length + (length - 1)) / length := by
  induction count : items.length using Nat.strongRecOn generalizing items with
  | ind count ih =>
    by_cases empty : items = []
    · subst empty
      rw [← count, chunks_nil, List.length_nil, List.length_nil, Nat.zero_add,
        Nat.div_eq_of_lt (by omega)]
    · have some_item : 0 < items.length := List.length_pos_iff.mpr empty
      rw [chunks_of_ne_nil some_length empty, List.length_cons,
        ih (items.drop length).length (by rw [List.length_drop]; omega) _ rfl, List.length_drop,
        ← Nat.add_div_right _ (Nat.pos_of_ne_zero some_length)]
      by_cases short : items.length ≤ length
      · rw [Nat.sub_eq_zero_of_le short, Nat.div_eq_of_lt_le (k := 1) (by omega) (by omega),
          Nat.div_eq_of_lt_le (k := 1) (by omega) (by omega)]
      · congr 1
        omega

/-! ## Rows of one width -/

/-- Rows of one width hold as many items as rows times the width. -/
theorem length_flatten_of_equal {α : Type} {rows : List (List α)} {width : Nat}
    (equal : ∀ row ∈ rows, row.length = width) : rows.flatten.length = rows.length * width := by
  induction rows with
  | nil => simp
  | cons row rows ih =>
    rw [List.flatten_cons, List.length_append, equal row List.mem_cons_self,
      ih fun other member => equal other (List.mem_cons_of_mem _ member), List.length_cons]
    ring

/-- Rows of one width stand one after the other in row-major order. -/
theorem getElem?_flatten_of_equal {α : Type} {rows : List (List α)} {width : Nat}
    (equal : ∀ row ∈ rows, row.length = width) {x y : Nat} (across : x < width) :
    rows.flatten[y * width + x]? = rows[y]?.bind (·[x]?) := by
  induction rows generalizing y with
  | nil => simp
  | cons row rows ih =>
    have wide : row.length = width := equal row List.mem_cons_self
    rw [List.flatten_cons]
    cases y with
    | zero => rw [List.getElem?_append_left (by omega)]; simp
    | succ y =>
      rw [List.getElem?_append_right (by rw [Nat.succ_mul]; omega), wide,
        show (y + 1) * width + x - width = y * width + x by rw [Nat.succ_mul]; omega,
        ih fun other member => equal other (List.mem_cons_of_mem _ member)]
      simp

/-! ## The pixels of one byte -/

/-- Ranks are the numbers that the bits of a pixel can spell. -/
theorem BitDepth.ranks_eq_two_pow (depth : BitDepth) : depth.ranks = 2 ^ depth.bits := by
  cases depth <;> rfl

/-- Pixels before others count for more by the places of the others. -/
theorem joinPixels_append (depth : BitDepth) (front back : List Nat) :
    joinPixels depth (front ++ back) =
      joinPixels depth front * depth.ranks ^ back.length + joinPixels depth back := by
  induction back using List.reverseRecOn with
  | nil => simp [joinPixels]
  | append_singleton back pixel ih =>
    have concat (pixels : List Nat) : joinPixels depth (pixels ++ [pixel]) =
        joinPixels depth pixels * depth.ranks + pixel := by simp [joinPixels]
    rw [← List.append_assoc, concat, concat, ih, List.length_append, List.length_singleton]
    ring

/-- Pixels that fit the depth spell a number below the one with a further digit. -/
theorem joinPixels_lt (depth : BitDepth) {pixels : List Nat}
    (fit : ∀ pixel ∈ pixels, pixel < depth.ranks) :
    joinPixels depth pixels < depth.ranks ^ pixels.length := by
  induction pixels with
  | nil => simp [joinPixels]
  | cons pixel pixels ih =>
    have first : pixel < depth.ranks := fit pixel List.mem_cons_self
    have others := ih fun other member => fit other (List.mem_cons_of_mem _ member)
    have single : joinPixels depth [pixel] = pixel := by simp [joinPixels]
    rw [← List.singleton_append, joinPixels_append, single, List.length_append,
      List.length_singleton, Nat.pow_add, Nat.pow_one]
    calc
      pixel * depth.ranks ^ pixels.length + joinPixels depth pixels
        < pixel * depth.ranks ^ pixels.length + depth.ranks ^ pixels.length :=
          Nat.add_lt_add_left others _
      _ = (pixel + 1) * depth.ranks ^ pixels.length := by ring
      _ ≤ depth.ranks * depth.ranks ^ pixels.length := Nat.mul_le_mul_right _ first

/-- A pixel is the digit at its place. -/
theorem joinPixels_digit (depth : BitDepth) {pixels : List Nat}
    (fit : ∀ pixel ∈ pixels, pixel < depth.ranks) {index : Nat} (inside : index < pixels.length) :
    joinPixels depth pixels / depth.ranks ^ (pixels.length - 1 - index) % depth.ranks =
      pixels[index] := by
  have fits : pixels[index] < depth.ranks := fit _ (List.getElem_mem inside)
  have later : joinPixels depth (pixels.drop (index + 1)) <
      depth.ranks ^ (pixels.length - 1 - index) := by
    have bound := joinPixels_lt depth
      fun pixel (member : pixel ∈ pixels.drop (index + 1)) =>
        fit pixel (List.mem_of_mem_drop member)
    rwa [List.length_drop, show pixels.length - (index + 1) = pixels.length - 1 - index by omega]
      at bound
  have split : joinPixels depth pixels =
      (joinPixels depth (pixels.take index) * depth.ranks + pixels[index]) *
        depth.ranks ^ (pixels.length - 1 - index) + joinPixels depth (pixels.drop (index + 1)) := by
    conv_lhs => rw [← List.take_append_drop index pixels, List.drop_eq_getElem_cons inside]
    have single : joinPixels depth [pixels[index]] = pixels[index] := by simp [joinPixels]
    rw [← List.singleton_append, ← List.append_assoc, joinPixels_append, joinPixels_append, single,
      List.length_drop, List.length_singleton, Nat.pow_one,
      show pixels.length - (index + 1) = pixels.length - 1 - index by omega]
  rw [split, Nat.mul_comm, Nat.mul_add_div (Nat.lt_of_le_of_lt (Nat.zero_le _) later),
    Nat.div_eq_of_lt later, Nat.add_zero, Nat.mul_comm, Nat.mul_add_mod, Nat.mod_eq_of_lt fits]

/-- The number of free bits below the pixels of a byte. -/
def padding (depth : BitDepth) (alignTail : Bool) (count : Nat) : Nat :=
  if alignTail then 8 - count * depth.bits else 0

/-- A byte holds the number of its pixels above the free bits. -/
theorem toNat_packByte (depth : BitDepth) (alignTail : Bool) {pixels : List Nat}
    (fit : ∀ pixel ∈ pixels, pixel < depth.ranks) (few : pixels.length ≤ depth.pixelsPerByte) :
    (packByte depth alignTail pixels).toNat =
      joinPixels depth pixels * 2 ^ padding depth alignTail pixels.length := by
  have bits : pixels.length * depth.bits ≤ 8 := by
    rw [← depth.pixelsPerByte_mul_bits]
    exact Nat.mul_le_mul_right _ few
  have small : joinPixels depth pixels < 2 ^ (pixels.length * depth.bits) := by
    rw [Nat.mul_comm, Nat.pow_mul, ← depth.ranks_eq_two_pow]
    exact joinPixels_lt depth fit
  have fits : joinPixels depth pixels * 2 ^ padding depth alignTail pixels.length < 2 ^ 8 := by
    calc
      _ < 2 ^ (pixels.length * depth.bits) * 2 ^ padding depth alignTail pixels.length :=
        Nat.mul_lt_mul_of_pos_right small (Nat.two_pow_pos _)
      _ = 2 ^ (pixels.length * depth.bits + padding depth alignTail pixels.length) :=
        (Nat.pow_add ..).symm
      _ ≤ 2 ^ 8 := Nat.pow_le_pow_right (by decide) (by unfold padding; split <;> omega)
  cases alignTail with
  | false =>
    simp only [padding, Bool.false_eq_true, ↓reduceIte, Nat.pow_zero, Nat.mul_one] at fits ⊢
    simp only [packByte, Bool.false_eq_true, ↓reduceIte, UInt8.toNat_ofNat']
    exact Nat.mod_eq_of_lt fits
  | true =>
    simp only [padding, ↓reduceIte] at fits ⊢
    simp only [packByte, ↓reduceIte, UInt8.toNat_ofNat', Nat.shiftLeft_eq]
    exact Nat.mod_eq_of_lt fits

/-- A shift past the free bits and the later pixels leaves a pixel in the lowest place. -/
theorem packByte_digit (depth : BitDepth) (alignTail : Bool) {pixels : List Nat}
    (fit : ∀ pixel ∈ pixels, pixel < depth.ranks) (few : pixels.length ≤ depth.pixelsPerByte)
    {index : Nat} (inside : index < pixels.length) {shift : Nat}
    (place : shift = padding depth alignTail pixels.length +
      (pixels.length - 1 - index) * depth.bits) :
    (packByte depth alignTail pixels).toNat >>> shift % depth.ranks = pixels[index] := by
  rw [toNat_packByte depth alignTail fit few, place, Nat.shiftRight_eq_div_pow, Nat.pow_add,
    ← Nat.div_div_eq_div_mul, Nat.mul_div_cancel _ (Nat.two_pow_pos _),
    Nat.mul_comm _ depth.bits, Nat.pow_mul, ← depth.ranks_eq_two_pow]
  exact joinPixels_digit depth fit inside

/-! ## The pixels of a picture -/

/-- A byte holds at least one pixel. -/
theorem BitDepth.pixelsPerByte_ne_zero (depth : BitDepth) : depth.pixelsPerByte ≠ 0 := by
  cases depth <;> decide

/-- Packed pixels take the bytes that their number asks for. -/
@[simp] theorem length_packPixels (depth : BitDepth) (alignTail : Bool) (pixels : List Nat) :
    (packPixels depth alignTail pixels).length = depth.bytesFor pixels.length := by
  rw [packPixels, List.length_map, length_chunks depth.pixelsPerByte_ne_zero]
  cases depth with
  | one => simp [BitDepth.pixelsPerByte, BitDepth.bytesFor, BitDepth.bits]
  | two =>
    simp only [BitDepth.pixelsPerByte, BitDepth.bytesFor, BitDepth.bits]
    omega

/-- The bits below a pixel in its byte are the free bits and those of the later pixels. In a last
byte that is not filled and not aligned there are no free bits. -/
theorem shift_eq_padding (depth : BitDepth) (alignTail : Bool) {place total count : Nat}
    (inside : place < total)
    (counted : count = min depth.pixelsPerByte
      (total - place / depth.pixelsPerByte * depth.pixelsPerByte)) :
    (if !(alignTail || total * depth.bits % 8 == 0) &&
        place * depth.bits / 8 + 1 == depth.bytesFor total then
      total * depth.bits % 8 - depth.bits - place * depth.bits % 8
    else 8 - depth.bits - place * depth.bits % 8) =
      padding depth alignTail count +
        (count - 1 - place % depth.pixelsPerByte) * depth.bits := by
  cases alignTail <;> cases depth <;>
    simp only [BitDepth.bytesFor, BitDepth.bits, BitDepth.pixelsPerByte, padding, Bool.false_or,
      Bool.true_or, Bool.not_true, Bool.false_and, Bool.false_eq_true, ↓reduceIte, Bool.and_eq_true,
      Bool.not_eq_eq_eq_not, beq_eq_false_iff_ne, beq_iff_eq] at counted ⊢
  case false.one => split <;> omega
  case false.two => split <;> omega
  case true.one => omega
  case true.two => omega

namespace Sprite

variable {sprite : Sprite} {pixels : List Nat} {alignTail : Bool}

/-- A last byte that is filled counts as aligned. -/
theorem tailAligned_eq_or (sprite : Sprite) :
    sprite.tailAligned =
      (sprite.tailAligned || sprite.width * sprite.height * sprite.depth.bits % 8 == 0) := by
  have aligned := sprite.aligned_of_full
  cases tail : sprite.tailAligned <;> simp_all

/-- A pixel inside the picture has a place in row-major order. -/
theorem place_lt {x y : Nat} (across : x < sprite.width) (down : y < sprite.height) :
    y * sprite.width + x < sprite.width * sprite.height := by
  calc
    y * sprite.width + x < y * sprite.width + sprite.width := Nat.add_lt_add_left across _
    _ = (y + 1) * sprite.width := by ring
    _ ≤ sprite.height * sprite.width := Nat.mul_le_mul_right _ down
    _ = sprite.width * sprite.height := Nat.mul_comm ..

/-- A sprite holds the pixels that are packed in its data, in row-major order. -/
theorem getElem?_of_packPixels (fit : ∀ pixel ∈ pixels, pixel < sprite.depth.ranks)
    (count : pixels.length = sprite.width * sprite.height)
    (data : sprite.data.toList = packPixels sprite.depth alignTail pixels)
    (layout : sprite.tailAligned =
      (alignTail || sprite.width * sprite.height * sprite.depth.bits % 8 == 0))
    {x y : Nat} (across : x < sprite.width) (down : y < sprite.height) :
    pixels[y * sprite.width + x]? = some (sprite.pixel x y) := by
  have inside := place_lt across down
  generalize position : y * sprite.width + x = place at inside
  have perByte : sprite.depth.pixelsPerByte * sprite.depth.bits = 8 :=
    sprite.depth.pixelsPerByte_mul_bits
  have byte : sprite.byteIndex x y = place / sprite.depth.pixelsPerByte := by
    rw [byteIndex, position, ← perByte, Nat.mul_div_mul_right _ _ sprite.depth.bits_pos]
  have start : place / sprite.depth.pixelsPerByte * sprite.depth.pixelsPerByte ≤ place :=
    Nat.div_mul_le_self ..
  -- The byte of the pixel packs the chunk that the pixel's place falls into.
  let chunk := (pixels.drop (place / sprite.depth.pixelsPerByte * sprite.depth.pixelsPerByte)).take
    sprite.depth.pixelsPerByte
  have stored : sprite.data.getD (sprite.byteIndex x y) 0 =
      packByte sprite.depth alignTail chunk := by
    rw [Array.getD_eq_getD_getElem?, ← Array.getElem?_toList, data, packPixels, List.getElem?_map,
      getElem?_chunks sprite.depth.pixelsPerByte_ne_zero, byte, if_pos (by omega)]
    rfl
  have length : chunk.length = min sprite.depth.pixelsPerByte (sprite.width * sprite.height -
      place / sprite.depth.pixelsPerByte * sprite.depth.pixelsPerByte) := by
    rw [List.length_take, List.length_drop, count]
  have within : place % sprite.depth.pixelsPerByte < chunk.length := by
    have remainder := Nat.mod_lt place (Nat.pos_of_ne_zero sprite.depth.pixelsPerByte_ne_zero)
    have parts := Nat.div_add_mod' place sprite.depth.pixelsPerByte
    omega
  have shifted : sprite.shift x y = padding sprite.depth alignTail chunk.length +
      (chunk.length - 1 - place % sprite.depth.pixelsPerByte) * sprite.depth.bits := by
    rw [← shift_eq_padding sprite.depth alignTail inside length, shift, byteIndex, position, layout,
      sprite.size_data, pixelCount]
  have fitting : ∀ pixel ∈ chunk, pixel < sprite.depth.ranks := fun pixel member =>
    fit pixel (List.mem_of_mem_drop (List.mem_of_mem_take member))
  rw [pixel, stored, packByte_digit sprite.depth alignTail fitting
    (List.length_take_le ..) within shifted]
  rw [List.getElem_take, List.getElem_drop]
  have parts := Nat.div_add_mod' place sprite.depth.pixelsPerByte
  simp only [parts]
  exact List.getElem?_eq_getElem (by omega)

/-- A sprite whose data packs some rows of its shape has these rows. -/
theorem rows_of_packPixels {rows : List (List Nat)}
    (equal : ∀ row ∈ rows, row.length = sprite.width) (height : rows.length = sprite.height)
    (fit : ∀ pixel ∈ rows.flatten, pixel < sprite.depth.ranks)
    (data : sprite.data.toList = packPixels sprite.depth alignTail rows.flatten)
    (layout : sprite.tailAligned =
      (alignTail || sprite.width * sprite.height * sprite.depth.bits % 8 == 0)) :
    sprite.rows = rows := by
  have count : rows.flatten.length = sprite.width * sprite.height := by
    rw [length_flatten_of_equal equal, height, Nat.mul_comm]
  apply List.ext_getElem
  · simp [Sprite.rows, height]
  · intro y drawn stored
    have wide : rows[y].length = sprite.width := equal _ (List.getElem_mem stored)
    simp only [Sprite.rows, List.getElem_map, List.getElem_range]
    apply List.ext_getElem
    · simp [wide]
    · intro x across inside
      have pixel := getElem?_of_packPixels fit count data layout (by omega : x < sprite.width)
        (by omega : y < sprite.height)
      rw [getElem?_flatten_of_equal equal (by omega), List.getElem?_eq_getElem stored,
        Option.bind_some, List.getElem?_eq_getElem inside, Option.some.injEq] at pixel
      simp [pixel]

end Sprite

end SpriteText
