import Mathlib.Algebra.Group.Nat.Defs
import Mathlib.Data.List.DropRight
import SpriteText.Asset.Reader
import SpriteText.Proofs.Utf8.Encoding

/-!
# The fields of an entry

An entry is read back from the bytes it is written as, if each of its numbers fits its field, its
name fits in sixteen bytes, and the name does not end in the character that fills names up
(`Entry.Fits`).
-/

namespace SpriteText

namespace LittleEndian

/-- A number that fits the width is read back. -/
theorem read_write {width value : Nat} (fits : value < 256 ^ width) :
    read (write width value) = value := by
  induction width generalizing value with
  | zero =>
    rw [Nat.pow_zero, Nat.lt_one_iff] at fits
    rw [fits]
    rfl
  | succ width ih =>
    have rest : value / 256 < 256 ^ width := by
      rw [Nat.div_lt_iff_lt_mul (by decide), ← Nat.pow_succ]
      exact fits
    rw [write, read, ih rest, UInt8.toNat_ofNat']
    exact Nat.mod_add_div value 256

/-- The number that bytes spell takes no more bytes. -/
theorem read_lt (bytes : List UInt8) : read bytes < 256 ^ bytes.length := by
  induction bytes with
  | nil => decide
  | cons byte rest ih =>
    have small : byte.toNat < 256 := byte.toNat_lt
    rw [read, List.length_cons, Nat.pow_succ]
    omega

end LittleEndian

namespace Asset

/-- A field behind some bytes is found behind them. -/
theorem field_append {front : List UInt8} {size : Nat} (before : front.length = size)
    (back : List UInt8) (position length : Nat) :
    field (front ++ back) (size + position) length = field back position length := by
  rw [field, field, ← before, List.drop_append, List.drop_eq_nil_of_le (by omega),
    List.nil_append, Nat.add_sub_cancel_left]

/-- The byte at a position behind some bytes is found behind them. -/
theorem getD_append {front : List UInt8} {size : Nat} (before : front.length = size)
    (back : List UInt8) (position : Nat) :
    (front ++ back).getD (size + position) 0 = back.getD position 0 := by
  rw [List.getD_eq_getElem?_getD, List.getElem?_append_right (by omega), ← before,
    Nat.add_sub_cancel_left, List.getD_eq_getElem?_getD]

/-- A number that is read from a field takes no more bytes than the field. -/
theorem read_field_lt (bytes : List UInt8) (position width : Nat) :
    LittleEndian.read (field bytes position width) < 256 ^ width :=
  calc
    LittleEndian.read (field bytes position width)
      < 256 ^ (field bytes position width).length := LittleEndian.read_lt _
    _ ≤ 256 ^ width := Nat.pow_le_pow_right (by decide) (List.length_take_le _ _)

/-- The zeros that fill up a name are taken off again, if the name does not end in one. -/
theorem stripName_padName {name : List UInt8} (ending : name.getLast? ≠ some 0) :
    stripName (padName name) = name := by
  have kept : name.reverse.dropWhile (fun byte => byte = 0) = name.reverse := by
    rw [← List.head?_reverse] at ending
    cases reversed : name.reverse with
    | nil => rfl
    | cons last others =>
      rw [reversed, List.head?_cons, ne_eq, Option.some.injEq] at ending
      rw [List.dropWhile_cons_of_neg (by simpa using ending)]
  rw [stripName, padName, List.reverse_append, List.reverse_replicate,
    List.dropWhile_append_of_pos (by simp), kept, List.reverse_reverse]

/-- Stripping a name drops zeros from its end. -/
theorem stripName_eq_rdropWhile (stored : List UInt8) :
    stripName stored = stored.rdropWhile fun byte => byte = 0 := rfl

/-- A name takes no more bytes than the field it is stripped from. -/
theorem length_stripName_le (stored : List UInt8) : (stripName stored).length ≤ stored.length := by
  rw [stripName_eq_rdropWhile]
  exact (List.rdropWhile_prefix _ stored).length_le

/-- A stripped name does not end in a zero. -/
theorem getLast?_stripName_ne_zero (stored : List UInt8) :
    (stripName stored).getLast? ≠ some 0 := by
  rw [stripName_eq_rdropWhile]
  intro zero
  obtain ⟨some_byte, last⟩ := List.mem_getLast?_eq_getLast zero
  exact List.rdropWhile_last_not _ stored some_byte (decide_eq_true last.symm)

/-- A name that fits is filled up to the size of the field. -/
theorem length_padName {name : List UInt8} (few : name.length ≤ nameSize) :
    (padName name).length = nameSize := by
  rw [padName, List.length_append, List.length_replicate]
  omega

/-- The fields of an entry can hold it under a name. -/
structure Entry.Fits (entry : Entry) (name : String) : Prop where
  /-- The name takes sixteen bytes or less. -/
  few : (Utf8.encode name).length ≤ nameSize
  /-- The name does not end in the character that fills it up. -/
  ending : name.toList.getLast? ≠ some '\x00'
  /-- The width takes two bytes. -/
  width : entry.width ≤ 0xFFFF
  /-- The height takes two bytes. -/
  height : entry.height ≤ 0xFFFF
  /-- The position takes four bytes. -/
  offset : entry.offset ≤ 0xFFFFFFFF

namespace Entry

variable {entry : Entry} {name : String}

/-- An entry has its size. -/
theorem length_encode {stored : List UInt8} (few : stored.length ≤ nameSize) :
    (entry.encode stored).length = entrySize := by
  simp [encode, length_padName few, nameSize, entrySize]

/-- An entry that its fields can hold is read back with its name. -/
theorem readEntry_encode (fits : entry.Fits name) :
    readEntry (entry.encode (Utf8.encode name)) = .ok (name, entry) := by
  have padded := length_padName fits.few
  let numbers := LittleEndian.write 2 entry.width ++ LittleEndian.write 2 entry.height ++
    [UInt8.ofNat entry.depth.bits, entry.flags] ++ LittleEndian.write 4 entry.offset
  have layout : entry.encode (Utf8.encode name) = padName (Utf8.encode name) ++ numbers := by
    simp [encode, numbers]
  have name_field : field (padName (Utf8.encode name) ++ numbers) 0 nameSize =
      padName (Utf8.encode name) := List.take_left' padded
  have width_field : field (padName (Utf8.encode name) ++ numbers) 16 2 =
      LittleEndian.write 2 entry.width := field_append padded numbers 0 2
  have height_field : field (padName (Utf8.encode name) ++ numbers) 18 2 =
      LittleEndian.write 2 entry.height := field_append padded numbers 2 2
  have bits_field : (padName (Utf8.encode name) ++ numbers).getD 20 0 =
      UInt8.ofNat entry.depth.bits := getD_append padded numbers 4
  have flags_field : (padName (Utf8.encode name) ++ numbers).getD 21 0 = entry.flags :=
    getD_append padded numbers 5
  have offset_field : field (padName (Utf8.encode name) ++ numbers) 22 4 =
      LittleEndian.write 4 entry.offset := field_append padded numbers 6 4
  have depth : BitDepth.ofInt? (UInt8.ofNat entry.depth.bits).toNat = some entry.depth := by
    cases entry.depth <;> rfl
  have stripped := stripName_padName (Utf8.getLast?_encode_ne_zero fits.ending)
  rw [layout, readEntry, name_field, width_field, height_field, bits_field, flags_field,
    offset_field, stripped, Utf8.decode_encode,
    LittleEndian.read_write (Nat.lt_succ_of_le fits.width),
    LittleEndian.read_write (Nat.lt_succ_of_le fits.height),
    LittleEndian.read_write (Nat.lt_succ_of_le fits.offset)]
  simp only [depth]

end Entry

end Asset

end SpriteText
