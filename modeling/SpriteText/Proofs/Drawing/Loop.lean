import SpriteText.Proofs.Drawing.Pattern
import SpriteText.Proofs.Utf8.Walk

/-!
# The loop of a scan

A scan reads the bytes of a drawing in a loop: a walk over the bytes behind the leading newline that
feeds each code point to the scan. Reading the glyphs first and feeding them afterwards comes to the
same (`ofBytes_eq_closed`). So the loop of a scan keeps within the bytes, well-formed or not, and
what stops a scan is a fault of the text, a byte that cannot lead, or a lead byte that announces
more bytes than there are.
-/

namespace SpriteText.Scan

variable {bytes : List UInt8} {lineOffset : Int}

/-- The loop of a scan feeds the code points behind the leading newline. -/
def loop (bytes : List UInt8) (lineOffset : Int) : Utf8.Walk Scan Fault :=
  Utf8.walk bytes (fun scan code => scan.feed code) (start lineOffset) 1

/-- The calls of the decoder that a scan makes; there are none without a leading newline. -/
def calls (bytes : List UInt8) (lineOffset : Int) : List Utf8.Call :=
  if bytes.head? = some 0x0A then (loop bytes lineOffset).calls else []

/-- What a scan comes to when its loop has ended. -/
def closed (scan : Scan) : Utf8.Ending Fault → Scan × Option ReadFault
  | .undecoded fault => (scan, some (.decoding fault))
  | .refused fault => (scan, some (.text fault))
  | .left =>
    match scan.grid.finish with
    | .ok () => (scan, none)
    | .error fault => (scan, some (.text fault))

/-- Feeding code points one by one is a run over them as glyphs. -/
theorem settled_feed (scan : Scan) (codes : List Nat) (broken : Option Utf8.LeadFault) :
    Utf8.settled (fun scan code => scan.feed code) scan codes broken =
      match scan.run (codes.map fun (code : Nat) => (code : Glyph)), broken with
      | (next, some fault), _ => (next, .refused fault)
      | (next, none), some fault => (next, .undecoded fault)
      | (next, none), none => (next, .left) := by
  induction codes generalizing scan with
  | nil => cases broken <;> rfl
  | cons code codes ih =>
    rw [Utf8.settled, List.map_cons, run]
    cases scan.feed code with
    | error fault => rfl
    | ok next => exact ih next

/-- A scan with a leading newline is what its loop comes to. -/
theorem ofBytes_eq_closed (addressable : Utf8.Addressable bytes)
    (leading : bytes.head? = some 0x0A) (lineOffset : Int) :
    ofBytes bytes lineOffset =
      closed (loop bytes lineOffset).state (loop bytes lineOffset).ending := by
  obtain ⟨rows, rfl⟩ := List.head?_eq_some_iff.mp leading
  have walked := Utf8.walk_eq_settled addressable (fun scan code => scan.feed code)
    (start lineOffset) (Nat.succ_le_succ (Nat.zero_le rows.length))
  rw [settled_feed] at walked
  change ((loop _ _).state, (loop _ _).ending) = _ at walked
  change ofRows rows lineOffset = _
  simp only [ofRows, glyphs, Utf8.codePoints]
  simp only [List.drop_one, List.tail_cons] at walked
  cases ran : (start lineOffset).run
    ((Utf8.codePointsFrom 1 0 [] rows).1.map fun (code : Nat) => (code : Glyph)) with
  | mk next stopped =>
    cases broken : (Utf8.codePointsFrom 1 0 [] rows).2 <;> cases stopped <;>
    · rw [ran, broken] at walked
      obtain ⟨state, ending⟩ := Prod.mk.inj walked
      rw [state, ending]
      rfl

/-- A fault that reading bytes may raise. -/
inductive Raised (bytes : List UInt8) : ReadFault → Prop where
  /-- The text is at fault. -/
  | text {fault : Fault} : .sprite ∈ fault.kind :: fault.kind.ancestors →
      Raised bytes (.text fault)
  /-- A byte that cannot lead stands where a code point is to be read. -/
  | invalid {offset : Nat} {lead : UInt8} : bytes[offset]? = some lead →
      0x80 ≤ lead.toNat ∧ lead.toNat ≤ 0xBF ∨ 0xF8 ≤ lead.toNat →
      Raised bytes (.decoding (.invalidLead lead offset))
  /-- A lead byte announces more bytes than there are. -/
  | short {offset count : Nat} {lead : UInt8} : bytes[offset]? = some lead →
      Utf8.announced? lead = some count → bytes.length < offset + count →
      Raised bytes (.decoding .outOfRange)

/-- Every kind of fault is a kind of sprite faults. -/
theorem Raised.of_text (bytes : List UInt8) (fault : Fault) : Raised bytes (.text fault) := by
  apply Raised.text
  cases fault.kind <;> decide

/-- What the decoder refuses is a byte that cannot lead, or a lead byte that announces too much. -/
theorem Raised.of_decoding {offset : Nat} {fault : Utf8.LeadFault}
    (addressable : Utf8.Addressable bytes) (inside : offset < bytes.length)
    (undecoded : Utf8.decodeFirst bytes offset = .error fault) :
    Raised bytes (.decoding fault) := by
  have within := Utf8.decodesWithin addressable inside
  have lead := List.getElem?_eq_getElem inside
  rcases within.faults fault undecoded with rfl | rfl
  · exact .invalid lead (within.invalid.mp undecoded)
  · obtain ⟨count, announced, missing⟩ := within.short.mp undecoded
    exact .short lead announced missing

/-- What stops a closed scan is what stopped its loop, or its last row. -/
theorem raised_of_closed {ending : Utf8.Ending Fault} {scan : Scan} {fault : ReadFault}
    (undecoded : ∀ fault, ending = .undecoded fault → Raised bytes (.decoding fault))
    (stopped : (closed scan ending).2 = some fault) : Raised bytes fault := by
  cases ending with
  | undecoded lead =>
    obtain rfl := Option.some.inj stopped
    exact undecoded lead rfl
  | refused refusal =>
    obtain rfl := Option.some.inj stopped
    exact .of_text bytes refusal
  | left =>
    rw [closed] at stopped
    cases finished : scan.grid.finish with
    | ok =>
      rw [finished] at stopped
      contradiction
    | error unfinished =>
      rw [finished] at stopped
      obtain rfl := Option.some.inj stopped
      exact .of_text bytes unfinished

/-- The loop of a scan ends within its bytes. -/
structure LoopsWithin (bytes : List UInt8) (lineOffset : Int) : Prop where
  /-- Without a leading newline there is no loop. -/
  missing : bytes.head? ≠ some 0x0A → ofBytes bytes lineOffset =
    (start lineOffset, some (.text (.located .missingNewline (lineOffset + 1) 1)))
  /-- With one, the scan is what its loop comes to. -/
  looped : bytes.head? = some 0x0A → ofBytes bytes lineOffset =
    closed (loop bytes lineOffset).state (loop bytes lineOffset).ending
  /-- The decoder is called no more often than there are bytes behind the first. -/
  few : (calls bytes lineOffset).length ≤ bytes.length - 1
  /-- The loop does not run past the end. -/
  stop_le : bytes.head? = some 0x0A → (loop bytes lineOffset).stop ≤ bytes.length
  /-- A loop that nothing stops is left at the end. -/
  stop : bytes.head? = some 0x0A → (loop bytes lineOffset).ending = .left →
    (loop bytes lineOffset).stop = bytes.length
  /-- It takes each byte behind the first once. -/
  taken : bytes.head? = some 0x0A → (loop bytes lineOffset).ending = .left →
    (calls bytes lineOffset).flatMap Utf8.Call.taken = List.range' 1 (bytes.length - 1)
  /-- What stops a scan is a fault of the text, or a lead byte. -/
  raised : ∀ fault, (ofBytes bytes lineOffset).2 = some fault → Raised bytes fault

/-- Every code point is read within the bytes, well-formed or not, and so is every drawing. -/
theorem reading_ends_within_bytes (addressable : Utf8.Addressable bytes) :
    (∀ (offset : Nat) (inside : offset < bytes.length),
      Utf8.DecodesWithin bytes offset bytes[offset]) ∧
    ∀ lineOffset : Int, LoopsWithin bytes lineOffset := by
  refine ⟨fun offset inside => Utf8.decodesWithin addressable inside, fun lineOffset => ?_⟩
  by_cases leading : bytes.head? = some 0x0A
  · have some_byte : 1 ≤ bytes.length := by
      obtain ⟨rows, rfl⟩ := List.head?_eq_some_iff.mp leading
      exact Nat.succ_le_succ (Nat.zero_le rows.length)
    have within : (loop bytes lineOffset).Within bytes 1 :=
      Utf8.within_walk addressable _ _ some_byte
    have called : calls bytes lineOffset = (loop bytes lineOffset).calls := if_pos leading
    have looped := ofBytes_eq_closed addressable leading lineOffset
    constructor
    case missing => exact fun absent => absurd leading absent
    case looped => exact fun _ => looped
    case few => rw [called]; exact within.few
    case stop_le => exact fun _ => within.stop_le
    case stop => exact fun _ => within.left
    case taken =>
      intro _ left
      rw [called, within.taken, within.left left]
    case raised =>
      intro fault stopped
      rw [looped] at stopped
      refine raised_of_closed (fun lead ended => ?_) stopped
      obtain ⟨inside, undecoded⟩ := within.undecoded lead ended
      exact .of_decoding addressable inside undecoded
  · have absent : ∀ rows, bytes ≠ 0x0A :: rows := by
      rintro rows rfl
      exact leading rfl
    have missing := ofBytes_of_missing absent lineOffset
    constructor
    case missing => exact fun _ => missing
    case looped => exact fun present => absurd present leading
    case few => rw [calls, if_neg leading]; exact Nat.zero_le _
    case stop_le => exact fun present => absurd present leading
    case stop => exact fun present => absurd present leading
    case taken => exact fun present => absurd present leading
    case raised =>
      intro fault stopped
      rw [missing] at stopped
      obtain rfl := Option.some.inj stopped
      exact .of_text bytes _

/-- A lead byte may swallow the last newline: the bytes are all read, and the row is found open. -/
theorem reading_ends_within_bytes_swallowed_newline :
    Utf8.Addressable [0x0A, 0x30, 0x30, 0xC3, 0x0A] ∧
    Utf8.DecodesWithin [0x0A, 0x30, 0x30, 0xC3, 0x0A] 3 0xC3 ∧
    LoopsWithin [0x0A, 0x30, 0x30, 0xC3, 0x0A] 0 ∧
    (ofBytes [0x0A, 0x30, 0x30, 0xC3, 0x0A] 0).2 =
      some (.text (.located .unterminatedRow 2 3)) :=
  ⟨by decide, (reading_ends_within_bytes (by decide)).1 3 (by decide),
    (reading_ends_within_bytes (by decide)).2 0, rfl⟩

end SpriteText.Scan
