import Mathlib.Algebra.Group.Nat.Defs
import SpriteText.Proofs.Utf8.Encoding

/-!
# Code points at an offset

A code point is read at an offset as it is read at the head of the bytes from there on. Its lead
byte announces how many bytes it takes, and that alone decides whether it can be read: it cannot if
the byte announces nothing, or more bytes than there are left.
-/

namespace SpriteText.Utf8

/-- Bytes all of which have an offset: a signed 64-bit number. -/
def Addressable (bytes : List UInt8) : Prop := bytes.length < 0x8000000000000000

instance (bytes : List UInt8) : Decidable (Addressable bytes) :=
  inferInstanceAs (Decidable (bytes.length < 0x8000000000000000))

/-! ## From an offset on -/

/-- An offset that is not negative counts from the start. -/
theorem byteAt?_natCast (bytes : List UInt8) (offset : Nat) :
    byteAt? bytes offset = bytes[offset]? := by
  have start : ¬(offset : Int) < 0 := by omega
  simp only [byteAt?, if_neg start, Int.toNat_natCast]

/-- Bytes that are looked up one by one are those that follow each other. -/
theorem window_natCast (bytes : List UInt8) (offset count : Nat) :
    window bytes offset count = (bytes.drop offset).take count := by
  induction count generalizing offset with
  | zero => rfl
  | succ count ih =>
    have next := ih (offset + 1)
    rw [Int.natCast_add, Int.natCast_one] at next
    rw [window, byteAt?_natCast]
    by_cases inside : offset < bytes.length
    · rw [List.getElem?_eq_getElem inside, List.drop_eq_getElem_cons inside, List.take_succ_cons]
      simp only [next]
    · have outside : bytes.length ≤ offset := Nat.le_of_not_lt inside
      rw [List.getElem?_eq_none outside, List.drop_eq_nil_of_le outside, List.take_nil]

/-- No code point takes more than four bytes. -/
theorem decodeHead_take (offset : Int) (bytes : List UInt8) :
    decodeHead offset (bytes.take 4) = decodeHead offset bytes := by
  match bytes with
  | [] | [_] | [_, _] | [_, _, _] => rfl
  | lead :: second :: third :: fourth :: rest => simp [decodeHead]

/-- A code point at an offset is the one at the head of the bytes from there on. -/
theorem decodeFirst_natCast {bytes : List UInt8} {offset : Nat}
    (addressable : Addressable bytes) (inside : offset ≤ bytes.length) :
    decodeFirst bytes offset = decodeHead offset (bytes.drop offset) := by
  have fits : ¬((offset : Int) < -0x8000000000000000 ∨ 0x8000000000000000 ≤ (offset : Int)) := by
    unfold Addressable at addressable
    omega
  rw [decodeFirst, if_neg fits, window_natCast, decodeHead_take]

/-- The bytes of a code point decode to it at their offset, whatever stands around them. -/
theorem decodeFirst_of_encoded {code : Nat} {front spelled back : List UInt8}
    (encoded : Encoded code spelled) (addressable : Addressable (front ++ spelled ++ back)) :
    decodeFirst (front ++ spelled ++ back) front.length = .ok ⟨spelled.length, code⟩ := by
  have inside : front.length ≤ (front ++ spelled ++ back).length := by
    rw [List.append_assoc, List.length_append]
    omega
  rw [decodeFirst_natCast addressable inside, List.append_assoc, List.drop_left,
    decodeHead_of_encoded encoded]

/-! ## Lead bytes -/

/-- The number of bytes that a lead byte announces, itself included. -/
def announced? (lead : UInt8) : Option Nat :=
  if lead.toNat < 0x80 then some 1
  else if lead.toNat < 0xC0 then none
  else if lead.toNat < 0xE0 then some 2
  else if lead.toNat < 0xF0 then some 3
  else if lead.toNat < 0xF8 then some 4
  else none

/-- The bytes that announce nothing. -/
theorem announced?_eq_none_iff {lead : UInt8} :
    announced? lead = none ↔ 0x80 ≤ lead.toNat ∧ lead.toNat ≤ 0xBF ∨ 0xF8 ≤ lead.toNat := by
  simp only [announced?]
  grind

/-- A code point is announced with one byte to four. -/
theorem bounds_of_announced? {lead : UInt8} {count : Nat}
    (announced : announced? lead = some count) :
    1 ≤ count ∧ count ≤ 4 := by
  simp only [announced?] at announced
  grind

/-- What comes of reading a code point at an offset, by its lead byte and the number of bytes that
there are from it on. -/
inductive Outcome (offset : Int) (lead : UInt8) (remaining : Nat) :
    Except LeadFault Decoded → Prop where
  /-- As many bytes as announced are taken. -/
  | taken {count code : Nat} : announced? lead = some count → count ≤ remaining → code < 2 ^ 21 →
      Outcome offset lead remaining (.ok ⟨count, code⟩)
  /-- The byte announces nothing. -/
  | invalid : announced? lead = none →
      Outcome offset lead remaining (.error (.invalidLead lead offset))
  /-- The byte announces more than there is. -/
  | short {count : Nat} : announced? lead = some count → remaining < count →
      Outcome offset lead remaining (.error .outOfRange)

/-- A byte gives at most six bits. -/
theorem payload_lt (byte : UInt8) : payload byte < 64 := Nat.mod_lt _ (by decide)

/-- A byte that announces nothing is refused. -/
theorem decodeHead_of_none (offset : Int) {lead : UInt8} (rest : List UInt8)
    (nothing : announced? lead = none) :
    decodeHead offset (lead :: rest) = .error (.invalidLead lead offset) := by
  rcases announced?_eq_none_iff.mp nothing with between | above
  · have range : ¬lead.toNat < 0x80 ∧ lead.toNat < 0xC0 := by omega
    simp [decodeHead, UInt8.lt_iff_toNat_lt, range]
  · have range : ¬lead.toNat < 0x80 ∧ ¬lead.toNat < 0xC0 ∧ ¬lead.toNat < 0xE0 ∧
        ¬lead.toNat < 0xF0 ∧ ¬lead.toNat < 0xF8 := by omega
    simp [decodeHead, UInt8.lt_iff_toNat_lt, range]

/-- The range of a lead byte by the number of bytes that it announces. -/
theorem range_of_announced? {lead : UInt8} {count : Nat}
    (announced : announced? lead = some count) :
    count = 1 ∧ lead.toNat < 0x80 ∨ count = 2 ∧ 0xC0 ≤ lead.toNat ∧ lead.toNat < 0xE0 ∨
      count = 3 ∧ 0xE0 ≤ lead.toNat ∧ lead.toNat < 0xF0 ∨
      count = 4 ∧ 0xF0 ≤ lead.toNat ∧ lead.toNat < 0xF8 := by
  simp only [announced?] at announced
  grind

/-- Too few bytes behind the lead byte are refused. -/
theorem decodeHead_of_short (offset : Int) {lead : UInt8} {rest : List UInt8} {count : Nat}
    (announced : announced? lead = some count) (short : rest.length + 1 < count) :
    decodeHead offset (lead :: rest) = .error .outOfRange := by
  rcases range_of_announced? announced with one | ⟨rfl, two⟩ | ⟨rfl, three⟩ | ⟨rfl, four⟩
  · omega
  · have range : ¬lead.toNat < 0x80 ∧ ¬lead.toNat < 0xC0 := by omega
    rcases rest with _ | ⟨second, rest⟩
    · simp [decodeHead, UInt8.lt_iff_toNat_lt, range, two]
    · simp only [List.length_cons] at short
      omega
  · have range : ¬lead.toNat < 0x80 ∧ ¬lead.toNat < 0xC0 ∧ ¬lead.toNat < 0xE0 := by omega
    rcases rest with _ | ⟨second, _ | ⟨third, rest⟩⟩
    · simp [decodeHead, UInt8.lt_iff_toNat_lt, range, three]
    · simp [decodeHead, UInt8.lt_iff_toNat_lt, range, three]
    · simp only [List.length_cons] at short
      omega
  · have range : ¬lead.toNat < 0x80 ∧ ¬lead.toNat < 0xC0 ∧ ¬lead.toNat < 0xE0 ∧
        ¬lead.toNat < 0xF0 := by omega
    rcases rest with _ | ⟨second, _ | ⟨third, _ | ⟨fourth, rest⟩⟩⟩
    · simp [decodeHead, UInt8.lt_iff_toNat_lt, range, four]
    · simp [decodeHead, UInt8.lt_iff_toNat_lt, range, four]
    · simp [decodeHead, UInt8.lt_iff_toNat_lt, range, four]
    · simp only [List.length_cons] at short
      omega

/-- Enough bytes are taken, and they give at most 21 bits. -/
theorem decodeHead_of_enough (offset : Int) {lead : UInt8} {rest : List UInt8} {count : Nat}
    (announced : announced? lead = some count) (enough : count ≤ rest.length + 1) :
    ∃ code < 2 ^ 21, decodeHead offset (lead :: rest) = .ok ⟨count, code⟩ := by
  rcases range_of_announced? announced with ⟨rfl, one⟩ | ⟨rfl, two⟩ | ⟨rfl, three⟩ | ⟨rfl, four⟩
  · exact ⟨_, by omega, decodeHead_one offset rest one⟩
  · rcases rest with _ | ⟨second, rest⟩
    · contradiction
    · have bits := payload_lt second
      exact ⟨_, by omega, decodeHead_two offset second rest two⟩
  · rcases rest with _ | ⟨second, _ | ⟨third, rest⟩⟩
    · contradiction
    · contradiction
    · have bits := And.intro (payload_lt second) (payload_lt third)
      exact ⟨_, by omega, decodeHead_three offset second third rest three⟩
  · rcases rest with _ | ⟨second, _ | ⟨third, _ | ⟨fourth, rest⟩⟩⟩
    · contradiction
    · contradiction
    · contradiction
    · have bits := And.intro (payload_lt second) (And.intro (payload_lt third) (payload_lt fourth))
      exact ⟨_, by omega, decodeHead_four offset second third fourth rest four⟩

/-- A code point takes as many bytes as its lead byte announces. -/
theorem announced?_of_decodeHead {offset : Int} {lead : UInt8} {rest : List UInt8}
    {found : Decoded} (decoded : decodeHead offset (lead :: rest) = .ok found) :
    announced? lead = some found.consumed := by
  cases announced : announced? lead with
  | none =>
    rw [decodeHead_of_none _ _ announced] at decoded
    contradiction
  | some count =>
    by_cases enough : count ≤ rest.length + 1
    · obtain ⟨code, -, taken⟩ := decodeHead_of_enough offset announced enough
      rw [decoded] at taken
      rw [Except.ok.inj taken]
    · rw [decodeHead_of_short _ announced (Nat.lt_of_not_le enough)] at decoded
      contradiction

/-- A code point takes a byte at least. -/
theorem consumed_pos {bytes : List UInt8} {offset : Int} {found : Decoded}
    (decoded : decodeFirst bytes offset = .ok found) : 0 < found.consumed := by
  rw [decodeFirst] at decoded
  split at decoded
  · contradiction
  · cases inside : window bytes offset 4 with
    | nil =>
      rw [inside] at decoded
      contradiction
    | cons lead rest =>
      rw [inside] at decoded
      exact (bounds_of_announced? (announced?_of_decodeHead decoded)).1

/-- The lead byte decides what comes of reading a code point at its offset. -/
theorem outcome_decodeFirst {bytes : List UInt8} {offset : Nat} (addressable : Addressable bytes)
    (inside : offset < bytes.length) :
    Outcome offset bytes[offset] (bytes.length - offset) (decodeFirst bytes offset) := by
  have remaining : (bytes.drop (offset + 1)).length + 1 = bytes.length - offset := by
    rw [List.length_drop]
    omega
  rw [decodeFirst_natCast addressable (Nat.le_of_lt inside), List.drop_eq_getElem_cons inside,
    ← remaining]
  cases announced : announced? bytes[offset] with
  | none =>
    rw [decodeHead_of_none _ _ announced]
    exact .invalid announced
  | some count =>
    by_cases enough : count ≤ (bytes.drop (offset + 1)).length + 1
    · obtain ⟨code, small, decoded⟩ := decodeHead_of_enough offset announced enough
      rw [decoded]
      exact .taken announced enough small
    · have short := Nat.lt_of_not_le enough
      rw [decodeHead_of_short _ announced short]
      exact .short announced short

/-- Reading a code point at an offset keeps within the bytes from its lead byte on. -/
structure DecodesWithin (bytes : List UInt8) (offset : Nat) (lead : UInt8) : Prop where
  /-- A code point has 21 bits at most and takes one byte to four, all of which are there. -/
  bounds : ∀ found, decodeFirst bytes offset = .ok found →
    1 ≤ found.consumed ∧ found.consumed ≤ 4 ∧ offset + found.consumed ≤ bytes.length ∧
      found.codePoint < 2 ^ 21
  /-- It is read exactly if as many bytes as announced are there. -/
  taken : (∃ found, decodeFirst bytes offset = .ok found) ↔
    ∃ count, announced? lead = some count ∧ offset + count ≤ bytes.length
  /-- A byte that cannot lead is refused, with its offset. -/
  invalid : decodeFirst bytes offset = .error (.invalidLead lead offset) ↔
    0x80 ≤ lead.toNat ∧ lead.toNat ≤ 0xBF ∨ 0xF8 ≤ lead.toNat
  /-- Missing bytes are noticed. -/
  short : decodeFirst bytes offset = .error .outOfRange ↔
    ∃ count, announced? lead = some count ∧ bytes.length < offset + count
  /-- There is no other fault. -/
  faults : ∀ fault, decodeFirst bytes offset = .error fault →
    fault = .invalidLead lead offset ∨ fault = .outOfRange

/-- A code point is read within the bytes, or is refused for its lead byte. -/
theorem decodesWithin {bytes : List UInt8} {offset : Nat} (addressable : Addressable bytes)
    (inside : offset < bytes.length) : DecodesWithin bytes offset bytes[offset] := by
  have outcome := outcome_decodeFirst addressable inside
  generalize answered : decodeFirst bytes offset = answer at outcome
  cases outcome with
  | @taken count code announced enough small =>
    have bounds := bounds_of_announced? announced
    have reach : offset + count ≤ bytes.length := by omega
    constructor
    case bounds =>
      intro found decoded
      obtain rfl := Except.ok.inj (answered.symm.trans decoded)
      exact ⟨bounds.1, bounds.2, reach, small⟩
    case taken => exact iff_of_true ⟨_, answered⟩ ⟨count, announced, reach⟩
    case invalid => simp [answered, ← announced?_eq_none_iff, announced]
    case short => simpa [answered, announced] using reach
    case faults => simp [answered]
  | invalid nothing =>
    constructor
    case bounds => simp [answered]
    case taken => simp [answered, nothing]
    case invalid => exact iff_of_true answered (announced?_eq_none_iff.mp nothing)
    case short => simp [answered, nothing]
    case faults => simp [answered]
  | @short count announced missing =>
    have reach : bytes.length < offset + count := by omega
    constructor
    case bounds => simp [answered]
    case taken => simpa [answered, announced] using reach
    case invalid => simp [answered, ← announced?_eq_none_iff, announced]
    case short => exact iff_of_true answered ⟨count, announced, reach⟩
    case faults => simp [answered]

end SpriteText.Utf8
