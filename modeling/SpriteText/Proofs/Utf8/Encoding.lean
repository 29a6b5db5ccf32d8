import SpriteText.Utf8.LeadByte
import SpriteText.Utf8.WellFormed

/-!
# Decoding the bytes of a text

A code point is encoded in one of four forms, by its size. The lead byte of a form fixes how many
bytes it takes, so each form has its own decoding lemma, and the bytes of a character decode to it
whatever follows. A walk over the bytes of a text therefore stays on the boundaries of its
characters and yields their code points.
-/

namespace SpriteText.Utf8

/-- The four forms of an encoded code point. -/
inductive Encoded (code : Nat) : List UInt8 → Prop where
  /-- Seven bits in one byte. -/
  | one : code < 0x80 → Encoded code [UInt8.ofNat code]
  /-- Eleven bits in two bytes. -/
  | two : 0x80 ≤ code → code < 0x800 →
      Encoded code [UInt8.ofNat (code / 64 + 0xC0), UInt8.ofNat (code % 64 + 0x80)]
  /-- Sixteen bits in three bytes. -/
  | three : 0x800 ≤ code → code < 0x10000 →
      Encoded code [UInt8.ofNat (code / 4096 + 0xE0), UInt8.ofNat (code / 64 % 64 + 0x80),
        UInt8.ofNat (code % 64 + 0x80)]
  /-- The code points above them in four bytes. -/
  | four : 0x10000 ≤ code → code < 0x110000 →
      Encoded code [UInt8.ofNat (code / 262144 + 0xF0), UInt8.ofNat (code / 4096 % 64 + 0x80),
        UInt8.ofNat (code / 64 % 64 + 0x80), UInt8.ofNat (code % 64 + 0x80)]

/-- A character is encoded in the form of its code point. -/
theorem encoded_utf8EncodeChar (letter : Char) :
    Encoded letter.toNat (String.utf8EncodeChar letter) := by
  have small : letter.toNat < 0x110000 := by
    have valid := letter.valid
    simp only [UInt32.isValidChar, Nat.isValidChar] at valid
    rw [← Char.toNat_val]
    omega
  rw [← Char.toNat_val] at small ⊢
  fun_cases String.utf8EncodeChar letter with
  | case1 value one => exact .one (Nat.lt_succ_of_le one)
  | case2 value large two =>
    have lead : value / 64 % 32 = value / 64 := Nat.mod_eq_of_lt (by omega)
    rw [lead]
    exact .two (Nat.lt_of_not_le large) (Nat.lt_succ_of_le two)
  | case3 value _ large three =>
    have lead : value / 4096 % 16 = value / 4096 := Nat.mod_eq_of_lt (by omega)
    rw [lead]
    exact .three (Nat.lt_of_not_le large) (Nat.lt_succ_of_le three)
  | case4 value _ _ large =>
    have bound : value < 0x110000 := small
    have lead : value / 262144 % 8 = value / 262144 := Nat.mod_eq_of_lt (by omega)
    rw [lead]
    exact .four (Nat.lt_of_not_le large) bound

/-- A lead byte below 0x80 is a code point of its own. -/
theorem decodeHead_one (offset : Int) {lead : UInt8} (rest : List UInt8)
    (range : lead.toNat < 0x80) : decodeHead offset (lead :: rest) = .ok ⟨1, lead.toNat⟩ := by
  cases rest <;> simp [decodeHead, UInt8.lt_iff_toNat_lt, range]

/-- A lead byte from 0xC0 to 0xDF takes one more byte. -/
theorem decodeHead_two (offset : Int) {lead : UInt8} (second : UInt8) (rest : List UInt8)
    (range : 0xC0 ≤ lead.toNat ∧ lead.toNat < 0xE0) :
    decodeHead offset (lead :: second :: rest) =
      .ok ⟨2, lead.toNat % 32 * 64 + payload second⟩ := by
  have past : ¬lead.toNat < 0x80 ∧ ¬lead.toNat < 0xC0 := by omega
  simp [decodeHead, UInt8.lt_iff_toNat_lt, past, range.2]

/-- A lead byte from 0xE0 to 0xEF takes two more bytes. -/
theorem decodeHead_three (offset : Int) {lead : UInt8} (second third : UInt8) (rest : List UInt8)
    (range : 0xE0 ≤ lead.toNat ∧ lead.toNat < 0xF0) :
    decodeHead offset (lead :: second :: third :: rest) =
      .ok ⟨3, (lead.toNat % 16 * 64 + payload second) * 64 + payload third⟩ := by
  have past : ¬lead.toNat < 0x80 ∧ ¬lead.toNat < 0xC0 ∧ ¬lead.toNat < 0xE0 := by omega
  simp [decodeHead, UInt8.lt_iff_toNat_lt, past, range.2]

/-- A lead byte from 0xF0 to 0xF7 takes three more bytes. -/
theorem decodeHead_four (offset : Int) {lead : UInt8} (second third fourth : UInt8)
    (rest : List UInt8) (range : 0xF0 ≤ lead.toNat ∧ lead.toNat < 0xF8) :
    decodeHead offset (lead :: second :: third :: fourth :: rest) =
      .ok ⟨4, ((lead.toNat % 8 * 64 + payload second) * 64 + payload third) * 64
        + payload fourth⟩ := by
  have past : ¬lead.toNat < 0x80 ∧ ¬lead.toNat < 0xC0 ∧ ¬lead.toNat < 0xE0 ∧
      ¬lead.toNat < 0xF0 := by omega
  simp [decodeHead, UInt8.lt_iff_toNat_lt, past, range.2]

/-- A byte after the lead byte carries six bits. -/
theorem payload_ofNat (bits : Nat) (fits : bits < 64) :
    payload (UInt8.ofNat (bits + 128)) = bits := by
  rw [payload, UInt8.toNat_ofNat']
  omega

/-- The bytes of a code point decode to it and are all consumed, whatever follows. -/
theorem decodeHead_of_encoded {code : Nat} {bytes : List UInt8} (encoded : Encoded code bytes)
    (offset : Int) (rest : List UInt8) :
    decodeHead offset (bytes ++ rest) = .ok ⟨bytes.length, code⟩ := by
  cases encoded with
  | one small =>
    have lead : (UInt8.ofNat code).toNat = code := by rw [UInt8.toNat_ofNat']; omega
    rw [List.singleton_append, decodeHead_one offset rest (by omega), lead]
    rfl
  | two large small =>
    have lead : (UInt8.ofNat (code / 64 + 0xC0)).toNat = code / 64 + 0xC0 := by
      rw [UInt8.toNat_ofNat']; omega
    simp only [List.cons_append, List.nil_append]
    rw [decodeHead_two offset _ rest (by omega), lead, payload_ofNat _ (by omega)]
    simp only [List.length_cons, List.length_nil, Except.ok.injEq, Decoded.mk.injEq, true_and]
    omega
  | three large small =>
    have lead : (UInt8.ofNat (code / 4096 + 0xE0)).toNat = code / 4096 + 0xE0 := by
      rw [UInt8.toNat_ofNat']; omega
    simp only [List.cons_append, List.nil_append]
    rw [decodeHead_three offset _ _ rest (by omega), lead, payload_ofNat _ (by omega),
      payload_ofNat _ (by omega)]
    simp only [List.length_cons, List.length_nil, Except.ok.injEq, Decoded.mk.injEq, true_and]
    omega
  | four large small =>
    have lead : (UInt8.ofNat (code / 262144 + 0xF0)).toNat = code / 262144 + 0xF0 := by
      rw [UInt8.toNat_ofNat']; omega
    simp only [List.cons_append, List.nil_append]
    rw [decodeHead_four offset _ _ _ rest (by omega), lead, payload_ofNat _ (by omega),
      payload_ofNat _ (by omega), payload_ofNat _ (by omega)]
    simp only [List.length_cons, List.length_nil, Except.ok.injEq, Decoded.mk.injEq, true_and]
    omega

/-- Only code point zero ends in a zero byte. -/
theorem Encoded.eq_zero_of_getLast? {code : Nat} {bytes : List UInt8}
    (encoded : Encoded code bytes) (zero : bytes.getLast? = some 0) : code = 0 := by
  have value (bits : Nat) (small : bits < 256) (zero : UInt8.ofNat bits = 0) : bits = 0 := by
    have := congrArg UInt8.toNat zero
    rw [UInt8.toNat_ofNat', UInt8.toNat_zero] at this
    omega
  cases encoded with
  | one small =>
    exact value code (by omega) (Option.some.inj zero)
  | two _ _ | three _ _ | four _ _ =>
    have := value (code % 64 + 0x80) (by omega) (Option.some.inj zero)
    omega

/-- The bytes of a text are the bytes of its characters in order. -/
theorem encode_eq_flatMap (text : String) :
    encode text = text.toList.flatMap String.utf8EncodeChar := by
  obtain ⟨letters, rfl⟩ := text.exists_eq_ofList
  simp [encode, List.utf8Encode]

/-- Bytes to skip are passed over. -/
theorem codePointsFrom_skip (offset : Nat) (read : List Nat) (skipped rest : List UInt8) :
    codePointsFrom offset skipped.length read (skipped ++ rest) =
      codePointsFrom (offset + skipped.length) 0 read rest := by
  induction skipped generalizing offset with
  | nil => rfl
  | cons byte skipped ih =>
    rw [List.length_cons, List.cons_append, codePointsFrom, ih (offset + 1)]
    congr 1
    omega

/-- The bytes of a code point are read as that one code point. -/
theorem codePointsFrom_of_encoded {code : Nat} {bytes : List UInt8} (encoded : Encoded code bytes)
    (offset : Nat) (read : List Nat) (rest : List UInt8) :
    codePointsFrom offset 0 read (bytes ++ rest) =
      codePointsFrom (offset + bytes.length) 0 (code :: read) rest := by
  have decoded := decodeHead_of_encoded encoded offset rest
  cases bytes with
  | nil => cases encoded
  | cons lead others =>
    rw [List.cons_append] at decoded ⊢
    rw [codePointsFrom, decoded]
    simp only [List.length_cons, Nat.add_sub_cancel]
    rw [codePointsFrom_skip]
    congr 1
    omega

/-- The bytes of characters are read as their code points, without a fault. -/
theorem codePointsFrom_flatMap (offset : Nat) (read : List Nat) (letters : List Char) :
    codePointsFrom offset 0 read (letters.flatMap String.utf8EncodeChar) =
      (read.reverse ++ letters.map Char.toNat, none) := by
  induction letters generalizing offset read with
  | nil => simp [codePointsFrom]
  | cons letter letters ih =>
    rw [List.flatMap_cons, codePointsFrom_of_encoded (encoded_utf8EncodeChar letter), ih]
    simp

/-- Bytes start with the byte of a newline exactly when their text starts with a newline. -/
theorem encode_eq_newline_cons_iff {text : String} {rows : List UInt8} :
    encode text = 0x0A :: rows ↔
      ∃ letters, text.toList = '\n' :: letters ∧ rows = letters.flatMap String.utf8EncodeChar := by
  rw [encode_eq_flatMap]
  constructor
  · intro bytes
    cases shape : text.toList with
    | nil => simp [shape] at bytes
    | cons letter letters =>
      rw [shape, List.flatMap_cons] at bytes
      -- Decoding the first code point from both sides of `bytes` tells the first character.
      have decoded := decodeHead_of_encoded (encoded_utf8EncodeChar letter) 0
        (letters.flatMap String.utf8EncodeChar)
      rw [bytes, decodeHead_one 0 _ (by decide)] at decoded
      simp only [Except.ok.injEq, Decoded.mk.injEq] at decoded
      have newline : letter = '\n' := Char.toNat_inj.mp decoded.2.symm
      subst newline
      exact ⟨letters, rfl, (List.cons.inj bytes).2.symm⟩
  · rintro ⟨letters, shape, rfl⟩
    rw [shape]
    rfl

/-- The bytes of a text end in a zero byte only if the text ends in the null character. -/
theorem getLast?_encode_ne_zero {text : String} (ending : text.toList.getLast? ≠ some '\x00') :
    (encode text).getLast? ≠ some 0 := by
  intro zero
  rw [encode_eq_flatMap] at zero
  rcases List.eq_nil_or_concat text.toList with none | ⟨letters, letter, shape⟩
  · simp [none] at zero
  · rw [shape] at ending zero
    have some_byte : String.utf8EncodeChar letter ≠ [] := String.utf8EncodeChar_ne_nil
    rw [List.concat_eq_append, List.flatMap_append, List.flatMap_singleton,
      List.getLast?_append, List.getLast?_eq_some_getLast some_byte, Option.some_or,
      ← List.getLast?_eq_some_getLast some_byte] at zero
    have code := (encoded_utf8EncodeChar letter).eq_zero_of_getLast? zero
    have null : letter = '\x00' := Char.toNat_inj.mp code
    simp [null] at ending

/-- The bytes of a text that ends in the null character end in a zero byte. -/
theorem getLast?_encode_of_null {text : String} (null : text.toList.getLast? = some '\x00') :
    (encode text).getLast? = some 0 := by
  obtain ⟨letters, shape⟩ := List.getLast?_eq_some_iff.mp null
  have zero : String.utf8EncodeChar '\x00' = [0] := by decide
  rw [encode_eq_flatMap, shape, List.flatMap_append, List.flatMap_singleton, zero,
    List.getLast?_concat]

/-- Well-formed bytes are read as the text they encode. -/
@[simp] theorem decode_encode (text : String) : decode (encode text) = .ok text := by
  have valid : text.toByteArray.IsValidUTF8 := text.isValidUTF8
  simp [decode, encode, String.fromUTF8?, valid, String.fromUTF8]

/-- Bytes are read as the text that they encode, and as no other. -/
theorem decode_eq_ok_iff {bytes : List UInt8} {text : String} :
    decode bytes = .ok text ↔ encode text = bytes := by
  constructor
  · intro decoded
    unfold decode at decoded
    split at decoded
    · rename_i found valid
      cases decoded
      unfold String.fromUTF8? at valid
      split at valid
      · cases valid
        rfl
      · contradiction
    · contradiction
  · rintro rfl
    exact decode_encode text

end SpriteText.Utf8
