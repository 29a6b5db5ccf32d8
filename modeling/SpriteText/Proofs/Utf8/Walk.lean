import SpriteText.Proofs.Utf8.Offsets

/-!
# Walks over bytes

A walk reads one code point behind the other, by their offsets, and hands each to a consumer. It
goes on behind the bytes that were taken, and ends where no byte is left or where something is
refused. Every step takes a byte at least and none past the end, so a walk ends, and it takes the
bytes from its start to its end each once (`Walk.Within`). What the consumer is handed are the code
points that are read in one pass (`walk_eq_settled`). The bytes of a text give its characters.
-/

namespace SpriteText.Utf8

variable {State Refusal : Type} {bytes : List UInt8} {offset : Nat} {found : Decoded}

/-! ## Steps -/

/-- One call of the decoder. -/
structure Call where
  /-- The offset that it reads at. -/
  offset : Nat
  /-- What comes of it. -/
  answer : Except LeadFault Decoded

/-- The offsets of the bytes that a call takes. -/
def Call.taken (call : Call) : List Nat :=
  match call.answer with
  | .ok found => List.range' call.offset found.consumed
  | .error _ => []

/-- How a walk ends. -/
inductive Ending (Refusal : Type) where
  /-- No byte is left. -/
  | left
  /-- No code point can be read. -/
  | undecoded (fault : LeadFault)
  /-- The consumer refuses the code point that was read last. -/
  | refused (refusal : Refusal)

/-- A walk over bytes. -/
structure Walk (State Refusal : Type) where
  /-- The calls of the decoder, in order. -/
  calls : List Call
  /-- The offset behind the last code point that was read. -/
  stop : Nat
  /-- What the consumer has made of the code points. -/
  state : State
  /-- How the walk ends. -/
  ending : Ending Refusal

/-- Reads code points from an offset on and hands each to a consumer. -/
def walk (bytes : List UInt8) (consume : State → Nat → Except Refusal State) (state : State)
    (offset : Nat) : Walk State Refusal :=
  if offset < bytes.length then
    match _ : decodeFirst bytes offset with
    | .error fault => ⟨[⟨offset, .error fault⟩], offset, state, .undecoded fault⟩
    | .ok found =>
      let call : Call := ⟨offset, .ok found⟩
      match consume state found.codePoint with
      | .error refusal => ⟨[call], offset + found.consumed, state, .refused refusal⟩
      | .ok next =>
        let rest := walk bytes consume next (offset + found.consumed)
        { rest with calls := call :: rest.calls }
  else ⟨[], offset, state, .left⟩
termination_by bytes.length - offset
decreasing_by
  have some_byte := consumed_pos ‹decodeFirst bytes offset = .ok found›
  omega

/-- A walk over bytes keeps within them. -/
structure Walk.Within (bytes : List UInt8) (offset : Nat) (walk : Walk State Refusal) : Prop where
  /-- There is a byte for every call. -/
  few : walk.calls.length ≤ bytes.length - offset
  /-- The bytes up to the stop are taken each once. -/
  taken : walk.calls.flatMap Call.taken = List.range' offset (walk.stop - offset)
  /-- The walk does not turn back. -/
  start_le : offset ≤ walk.stop
  /-- The walk does not run past the end. -/
  stop_le : walk.stop ≤ bytes.length
  /-- A walk that nothing stops is left at the end. -/
  left : walk.ending = .left → walk.stop = bytes.length
  /-- A walk that the decoder stops has a byte left that cannot be read. -/
  undecoded : ∀ fault, walk.ending = .undecoded fault →
    walk.stop < bytes.length ∧ decodeFirst bytes walk.stop = .error fault

/-- A code point that is read ends within the bytes. -/
theorem add_consumed_le (addressable : Addressable bytes) (inside : offset < bytes.length)
    (decoded : decodeFirst bytes offset = .ok found) : offset + found.consumed ≤ bytes.length := by
  have outcome := outcome_decodeFirst addressable inside
  rw [decoded] at outcome
  cases outcome with
  | @taken count code announced enough small =>
    change offset + count ≤ bytes.length
    omega

/-- A walk that is refused where it starts keeps within the bytes. -/
theorem within_refused (inside : offset ≤ bytes.length) (state : State) (refusal : Refusal) :
    Walk.Within bytes offset ⟨[], offset, state, .refused refusal⟩ := by
  constructor
  case few => exact Nat.zero_le _
  case taken => simp
  case start_le => exact Nat.le_refl _
  case stop_le => exact inside
  case left => exact nofun
  case undecoded => exact nofun

/-- A walk behind a code point keeps within the bytes from that code point on. -/
theorem Walk.Within.behind {rest : Walk State Refusal}
    (within : rest.Within bytes (offset + found.consumed)) (some_byte : 0 < found.consumed) :
    Within bytes offset { rest with calls := ⟨offset, .ok found⟩ :: rest.calls } := by
  have start_le := within.start_le
  have stop_le := within.stop_le
  constructor
  case few =>
    have few := within.few
    rw [List.length_cons]
    omega
  case taken =>
    have split : rest.stop - offset = found.consumed + (rest.stop - (offset + found.consumed)) := by
      omega
    rw [List.flatMap_cons, within.taken, split, ← List.range'_append_1]
    rfl
  case start_le => exact Nat.le_trans (Nat.le_add_right _ _) start_le
  case stop_le => exact stop_le
  case left => exact within.left
  case undecoded => exact within.undecoded

/-- A walk keeps within the bytes. -/
theorem within_walk (addressable : Addressable bytes)
    (consume : State → Nat → Except Refusal State) (state : State)
    (inside : offset ≤ bytes.length) :
    (walk bytes consume state offset).Within bytes offset := by
  fun_induction walk bytes consume state offset with
  | case1 state offset some_byte fault undecoded =>
    constructor
    case few =>
      change 1 ≤ bytes.length - offset
      omega
    case taken => simp [Call.taken]
    case start_le => exact Nat.le_refl _
    case stop_le => exact inside
    case left => exact nofun
    case undecoded =>
      intro other same
      cases same
      exact ⟨some_byte, undecoded⟩
  | case2 state offset some_byte found decoded call refusal refused =>
    have stop_le := add_consumed_le addressable some_byte decoded
    exact (within_refused stop_le state refusal).behind (consumed_pos decoded)
  | case3 state offset some_byte found decoded call next taken rest ih =>
    exact (ih (add_consumed_le addressable some_byte decoded)).behind (consumed_pos decoded)
  | case4 state offset none_left =>
    constructor
    case few => exact Nat.zero_le _
    case taken => simp
    case start_le => exact Nat.le_refl _
    case stop_le => exact inside
    case left => exact fun _ => Nat.le_antisymm inside (Nat.le_of_not_lt none_left)
    case undecoded => exact nofun

/-! ## What the consumer makes of the code points -/

/-- What a consumer makes of code points, and of the fault behind them. -/
def settled (consume : State → Nat → Except Refusal State) (state : State) :
    List Nat → Option LeadFault → State × Ending Refusal
  | [], none => (state, .left)
  | [], some fault => (state, .undecoded fault)
  | code :: codes, broken =>
    match consume state code with
    | .error refusal => (state, .refused refusal)
    | .ok next => settled consume next codes broken

/-- The code points read before are in front of the others. -/
theorem codePointsFrom_read (offset skip : Nat) (read : List Nat) (bytes : List UInt8) :
    codePointsFrom offset skip read bytes =
      (read.reverse ++ (codePointsFrom offset skip [] bytes).1,
        (codePointsFrom offset skip [] bytes).2) := by
  induction bytes generalizing offset skip read with
  | nil => simp [codePointsFrom]
  | cons lead rest ih =>
    cases skip with
    | succ skip =>
      rw [codePointsFrom, codePointsFrom]
      exact ih (offset + 1) skip read
    | zero =>
      rw [codePointsFrom, codePointsFrom]
      cases decoded : decodeHead offset (lead :: rest) with
      | error fault => simp
      | ok found =>
        have front := ih (offset + 1) (found.consumed - 1) (found.codePoint :: read)
        have alone := ih (offset + 1) (found.consumed - 1) [found.codePoint]
        simp only [front, alone]
        simp

/-- A fault ends the code points where it is met. -/
theorem codePointsFrom_of_error (addressable : Addressable bytes) (inside : offset < bytes.length)
    {fault : LeadFault} (undecoded : decodeFirst bytes offset = .error fault) :
    codePointsFrom offset 0 [] (bytes.drop offset) = ([], some fault) := by
  rw [decodeFirst_natCast addressable (Nat.le_of_lt inside)] at undecoded
  rw [List.drop_eq_getElem_cons inside] at undecoded ⊢
  rw [codePointsFrom, undecoded]
  rfl

/-- The code points from an offset on are the one there and those behind its bytes. -/
theorem codePointsFrom_of_ok (addressable : Addressable bytes) (inside : offset < bytes.length)
    (decoded : decodeFirst bytes offset = .ok found) :
    codePointsFrom offset 0 [] (bytes.drop offset) =
      (found.codePoint :: (codePointsFrom (offset + found.consumed) 0 []
          (bytes.drop (offset + found.consumed))).1,
        (codePointsFrom (offset + found.consumed) 0 []
          (bytes.drop (offset + found.consumed))).2) := by
  have some_byte := consumed_pos decoded
  have stop_le := add_consumed_le addressable inside decoded
  rw [decodeFirst_natCast addressable (Nat.le_of_lt inside)] at decoded
  rw [List.drop_eq_getElem_cons inside] at decoded ⊢
  rw [codePointsFrom, decoded]
  -- The bytes behind the lead byte are those of the code point, which are skipped, and the others.
  have behind : bytes.drop (offset + 1) =
      (bytes.drop (offset + 1)).take (found.consumed - 1) ++
        bytes.drop (offset + found.consumed) := by
    have last : offset + found.consumed = offset + 1 + (found.consumed - 1) := by omega
    have others : bytes.drop (offset + 1 + (found.consumed - 1)) =
        (bytes.drop (offset + 1)).drop (found.consumed - 1) := List.drop_drop.symm
    rw [last, others, List.take_append_drop]
  have skipped : ((bytes.drop (offset + 1)).take (found.consumed - 1)).length =
      found.consumed - 1 := by
    rw [List.length_take, List.length_drop]
    omega
  have skip := codePointsFrom_skip (offset + 1) [found.codePoint]
    ((bytes.drop (offset + 1)).take (found.consumed - 1)) (bytes.drop (offset + found.consumed))
  have next : offset + 1 + (found.consumed - 1) = offset + found.consumed := by omega
  rw [← behind, skipped, next] at skip
  simp only [skip]
  rw [codePointsFrom_read]
  rfl

/-- A walk hands out the code points that are read in one pass, and ends where that pass does unless
its consumer refuses one of them. -/
theorem walk_eq_settled (addressable : Addressable bytes)
    (consume : State → Nat → Except Refusal State) (state : State)
    (inside : offset ≤ bytes.length) :
    ((walk bytes consume state offset).state, (walk bytes consume state offset).ending) =
      settled consume state (codePointsFrom offset 0 [] (bytes.drop offset)).1
        (codePointsFrom offset 0 [] (bytes.drop offset)).2 := by
  fun_induction walk bytes consume state offset with
  | case1 state offset some_byte fault undecoded =>
    rw [codePointsFrom_of_error addressable some_byte undecoded]
    rfl
  | case2 state offset some_byte found decoded call refusal refused =>
    rw [codePointsFrom_of_ok addressable some_byte decoded, settled, refused]
  | case3 state offset some_byte found decoded call next taken rest ih =>
    rw [codePointsFrom_of_ok addressable some_byte decoded, settled, taken]
    exact ih (add_consumed_le addressable some_byte decoded)
  | case4 state offset none_left =>
    rw [List.drop_eq_nil_of_le (Nat.le_of_not_lt none_left)]
    rfl

/-! ## The bytes of a text -/

/-- A walk over all bytes that collects their code points. -/
def readAll (bytes : List UInt8) : Walk (List Nat) Empty :=
  walk bytes (fun codes code => .ok (codes ++ [code])) [] 0

/-- A consumer that refuses nothing collects all code points. -/
theorem settled_collect (read codes : List Nat) (broken : Option LeadFault) :
    settled (fun codes code => (.ok (codes ++ [code]) : Except Empty (List Nat))) read codes
      broken = (read ++ codes, match broken with
        | none => .left
        | some fault => .undecoded fault) := by
  induction codes generalizing read with
  | nil => cases broken <;> simp [settled]
  | cons code codes ih =>
    have behind := ih (read ++ [code])
    rw [List.append_assoc] at behind
    exact behind

/-- A walk reads a text. -/
structure Walk.ReadsText (walk : Walk (List Nat) Empty) (text : String) : Prop where
  /-- The code points are those of its characters, in order. -/
  codes : walk.state = text.toList.map Char.toNat
  /-- The walk stops where the bytes of the text end. -/
  stop : walk.stop = (encode text).length
  /-- Nothing else ends it. -/
  ending : walk.ending = .left

/-- The bytes of a character decode to it wherever they stand, so the bytes of a text decode to its
characters. -/
theorem decoding_undoes_encoding :
    (∀ (letter : Char) (front back : List UInt8),
      Addressable (front ++ String.utf8EncodeChar letter ++ back) →
      decodeFirst (front ++ String.utf8EncodeChar letter ++ back) front.length =
        .ok ⟨(String.utf8EncodeChar letter).length, letter.toNat⟩) ∧
    ∀ text : String, Addressable (encode text) → (readAll (encode text)).ReadsText text := by
  constructor
  · intro letter front back addressable
    exact decodeFirst_of_encoded (encoded_utf8EncodeChar letter) addressable
  · intro text addressable
    have onePass : codePointsFrom 0 0 [] (encode text) = (text.toList.map Char.toNat, none) := by
      rw [encode_eq_flatMap, codePointsFrom_flatMap]
      rfl
    have walked := walk_eq_settled addressable
      (fun codes code => (.ok (codes ++ [code]) : Except Empty (List Nat))) [] (Nat.zero_le _)
    rw [List.drop_zero, onePass, settled_collect, List.nil_append] at walked
    obtain ⟨codes, ending⟩ := Prod.mk.inj walked
    exact ⟨codes, (within_walk addressable _ [] (Nat.zero_le _)).left ending, ending⟩

/-- A character of three bytes is read between two bytes that are torn off another one. -/
theorem decoding_undoes_encoding_torn :
    Addressable ([0xE2] ++ String.utf8EncodeChar '€' ++ [0x82]) ∧
    decodeFirst ([0xE2] ++ String.utf8EncodeChar '€' ++ [0x82]) 1 = .ok ⟨3, 0x20AC⟩ ∧
    Addressable (encode "a€😀") ∧ (readAll (encode "a€😀")).ReadsText "a€😀" :=
  ⟨by decide, decoding_undoes_encoding.1 '€' [0xE2] [0x82] (by decide), by decide,
    decoding_undoes_encoding.2 "a€😀" (by decide)⟩

end SpriteText.Utf8
