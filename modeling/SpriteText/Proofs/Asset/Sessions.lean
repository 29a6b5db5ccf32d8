import SpriteText.Asset.Session
import SpriteText.Proofs.Asset.Index

/-!
# What a session answers

The position of the file is all that a call changes, and every load moves it anew. So a session
answers every call as the reader of its file does (`Session.call_after`), whatever it has been asked
before, and what it answers is told by the entries that the file lists (`Answers`).
-/

namespace SpriteText.Asset

/-! ## Sessions as readers -/

namespace Session

/-- What a session can read, wherever its file is. -/
def reader (session : Session) : Reader where
  count := session.count
  index := session.index
  data := session.handle.bytes.drop session.dataStart
  closed := session.handle.closed

/-- Loading answers as the reader does and leaves the reader as it was. -/
inductive Follows {α : Type} (session : Session) :
    Except LoadFault α × Session → Except AssetFault α → Prop
  /-- Both load the same. -/
  | loaded {next : Session} (kept : next.reader = session.reader) (found : α) :
    Follows session (.ok found, next) (.ok found)
  /-- Both fail with the same fault. -/
  | refused {next : Session} (kept : next.reader = session.reader) (fault : AssetFault) :
    Follows session (.error (.asset fault), next) (.error fault)

/-- Loading reads the bytes that the reader holds for the entry. -/
theorem field_reader (session : Session) (position length : Nat) :
    field session.reader.data position length =
      field session.handle.bytes (session.dataStart + position) length :=
  field_drop _ _ _ _

/-- A shape with a known depth and natural sides is checked for its length only. -/
theorem ofBytes_natCast (width height : Nat) (depth : BitDepth) (data : Array UInt8)
    (tailAligned : Bool) :
    Sprite.ofBytes width height depth.bits data tailAligned =
      Sprite.ofShape width height depth data tailAligned := by
  have natural : ¬((width : Int) < 0 ∨ (height : Int) < 0) := by omega
  rw [Sprite.ofBytes, BitDepth.ofInt?_bits]
  exact if_neg natural

/-- A sprite is loaded as by the reader: bytes that are all there are a sprite of the shape. -/
theorem load_follows (session : Session) (name : String) (entry : Entry) :
    session.Follows (session.load name entry) (session.reader.load name entry) := by
  unfold load Reader.load Handle.seek Handle.read
  rw [field_reader]
  cases closed : session.handle.closed with
  | true =>
    have shut : session.reader.closed = true := closed
    simp only [shut, if_true]
    exact .refused rfl _
  | false =>
    have opened : session.reader.closed = false := closed
    simp only [opened, Bool.false_eq_true, if_false, ofBytes_natCast]
    generalize read : field session.handle.bytes (session.dataStart + entry.offset)
      entry.byteCount = data
    have size : data.toArray.size = data.length := List.size_toArray
    have kept (position : Nat) : reader { session with
        handle := { bytes := session.handle.bytes, position } } = session.reader := by
      rw [reader, reader, closed]
      rfl
    by_cases whole : data.length = entry.byteCount
    · have sized : data.toArray.size = entry.depth.bytesFor (entry.width * entry.height) :=
        size.trans whole
      rw [if_neg (not_not.mpr whole), Sprite.ofShape, dif_pos sized]
      exact .loaded (kept _) _
    · have unsized : ¬data.toArray.size = entry.depth.bytesFor (entry.width * entry.height) :=
        fun sized => whole (size.symm.trans sized)
      rw [if_pos whole, Sprite.ofShape, dif_neg unsized]
      exact .refused (kept _) _

/-- A name is looked up as by the reader. -/
theorem get?_follows (session : Session) (name : String) :
    session.Follows (session.get? name) (session.reader.get? name) := by
  have index : session.reader.index = session.index := rfl
  rw [get?, Reader.get?, index]
  cases session.index.get? name with
  | none => exact .loaded rfl none
  | some entry =>
    have follows := session.load_follows name entry
    dsimp only
    generalize session.load name entry = outcome, session.reader.load name entry = expected
      at follows
    cases follows with
    | loaded kept sprite => exact .loaded kept (some sprite)
    | refused kept fault => exact .refused kept fault

/-- What follows the reader from a session that has the same reader follows it from the first. -/
theorem Follows.trans {α : Type} {session next : Session}
    {outcome : Except LoadFault α × Session} {expected : Except AssetFault α}
    (kept : next.reader = session.reader) (follows : next.Follows outcome expected) :
    session.Follows outcome expected := by
  cases follows with
  | loaded later found => exact .loaded (later.trans kept) found
  | refused later fault => exact .refused (later.trans kept) fault

/-- Sprites are loaded in order as by the reader. -/
theorem loadInto_follows (session : Session) (set : SpriteSet) (entries : List (String × Entry)) :
    session.Follows (session.loadInto set entries) (session.reader.loadInto set entries) := by
  induction entries generalizing session set with
  | nil => exact .loaded rfl set
  | cons entry entries ih =>
    obtain ⟨name, entry⟩ := entry
    have follows := session.load_follows name entry
    rw [loadInto, Reader.loadInto]
    generalize session.load name entry = outcome, session.reader.load name entry = expected
      at follows
    cases follows with
    | @loaded next kept sprite =>
      have later := ih next (set.insert name sprite)
      rw [kept] at later
      exact later.trans kept
    | refused kept fault => exact .refused kept fault

end Session

/-- What a reader answers to a call. -/
def Reader.answer (reader : Reader) : Session.Call → Session.Answer
  | .names => .names reader.names
  | .contains name => .held (reader.contains name)
  | .get name =>
    match reader.get? name with
    | .ok found => .sprite found
    | .error fault => .refused (.asset fault)
  | .loadAll =>
    match reader.loadAll with
    | .ok set => .sprites set
    | .error fault => .refused (.asset fault)

namespace Session

/-- A call is answered as by the reader, and leaves the reader as it was. -/
theorem call_eq (session : Session) (call : Call) :
    (session.call call).1 = session.reader.answer call ∧
      (session.call call).2.reader = session.reader := by
  cases call with
  | names => exact ⟨rfl, rfl⟩
  | contains name => exact ⟨rfl, rfl⟩
  | get name =>
    have follows := session.get?_follows name
    rw [Session.call, Reader.answer]
    generalize session.get? name = outcome, session.reader.get? name = expected at follows
    cases follows with
    | loaded kept found => exact ⟨rfl, kept⟩
    | refused kept fault => exact ⟨rfl, kept⟩
  | loadAll =>
    have follows := session.loadInto_follows .empty session.index.entries
    rw [Session.call, Reader.answer, loadAll, Reader.loadAll]
    show _ = (match session.reader.loadInto .empty session.index.entries with
      | .ok set => Answer.sprites set
      | .error fault => .refused (.asset fault)) ∧ _
    generalize session.loadInto .empty session.index.entries = outcome,
      session.reader.loadInto .empty session.index.entries = expected at follows
    cases follows with
    | loaded kept found => exact ⟨rfl, kept⟩
    | refused kept fault => exact ⟨rfl, kept⟩

/-- Calls leave the reader as it was. -/
theorem reader_after (session : Session) (calls : List Call) :
    (session.after calls).reader = session.reader := by
  induction calls generalizing session with
  | nil => rfl
  | cons call calls ih => exact (ih (session.call call).2).trans (session.call_eq call).2

/-- A call is answered as by the reader of the file, whatever has been asked before. -/
theorem call_after (session : Session) (earlier : List Call) (call : Call) :
    ((session.after earlier).call call).1 = session.reader.answer call := by
  rw [((session.after earlier).call_eq call).1, session.reader_after earlier]

/-- A session opens if a reader does, and with the same reader; else both fail with the same
fault. -/
theorem open?_reader (file : List UInt8) : (open? file).map reader = Reader.open? file := by
  have head : field file 0 headerSize = file.take headerSize := by rw [field, List.drop_zero]
  simp only [open?, Handle.read, head, Nat.zero_add]
  by_cases short : file.length < headerSize
  · have cut : (file.take headerSize).length ≠ headerSize := by
      rw [List.length_take]
      omega
    rw [if_pos (.inl cut), Reader.open?, if_pos (.inl short)]
    rfl
  have size : (file.take headerSize).length = headerSize := by
    rw [List.length_take]
    omega
  have start : (file.take headerSize).take 2 = file.take 2 := by
    rw [List.take_take]
    rfl
  have kind : (file.take headerSize).getD 2 0 = file.getD 2 0 := by
    rw [List.getD_eq_getElem?_getD, List.getElem?_take_of_lt (by decide),
      List.getD_eq_getElem?_getD]
  have number : field (file.take headerSize) 4 2 = field file 4 2 := by
    rw [field, List.drop_take, List.take_take]
    rfl
  simp only [Reader.open?, size, start, kind, number, short, ne_eq, not_true_eq_false, false_or]
  split
  · rfl
  split
  · rfl
  generalize LittleEndian.read (field file 4 2) = count
  have body : field file headerSize (count * entrySize) =
      (file.drop headerSize).take (count * entrySize) := rfl
  have rest : (file.drop headerSize).drop (count * entrySize) =
      file.drop (headerSize + count * entrySize) := List.drop_drop
  rw [body, readIndex_take, rest]
  by_cases cut : (file.drop headerSize).length < count * entrySize
  · have fewer : ((file.drop headerSize).take (count * entrySize)).length ≠ count * entrySize := by
      rw [List.length_take]
      omega
    rw [if_pos fewer, if_pos cut]
    rfl
  · have whole : ((file.drop headerSize).take (count * entrySize)).length = count * entrySize := by
      rw [List.length_take]
      omega
    rw [if_neg (not_not.mpr whole), if_neg cut]
    cases readIndex .empty count (file.drop headerSize) <;> rfl

/-- A session on a file that a reader opens has this reader. -/
theorem open?_of_reader {file : List UInt8} {view : Reader}
    (opened : Reader.open? file = .ok view) :
    ∃ session, open? file = .ok session ∧ session.reader = view := by
  have same := open?_reader file
  rw [opened] at same
  cases found : open? file with
  | error fault =>
    rw [found] at same
    contradiction
  | ok session =>
    rw [found] at same
    exact ⟨session, rfl, Except.ok.inj same⟩

/-- A session does not open on a file that no reader opens, for the same reason. -/
theorem open?_of_reader_error {file : List UInt8} {fault : AssetFault}
    (refused : Reader.open? file = .error fault) : open? file = .error fault := by
  have same := open?_reader file
  rw [refused] at same
  cases found : open? file with
  | error other =>
    rw [found] at same
    exact congrArg _ (Except.error.inj same)
  | ok session =>
    rw [found] at same
    contradiction

/-- A session on a file that a reader opens loads the sprites that the reader loads. -/
theorem loadAll_of_reader {file : List UInt8} {view : Reader} {set : SpriteSet}
    (opened : Reader.open? file = .ok view) (loaded : view.loadAll = .ok set) :
    ∃ session, open? file = .ok session ∧ session.loadAll.1 = .ok set := by
  obtain ⟨session, reopened, rfl⟩ := open?_of_reader opened
  have follows := session.loadInto_follows .empty session.index.entries
  have expected : session.reader.loadInto .empty session.index.entries = .ok set := loaded
  refine ⟨session, reopened, ?_⟩
  rw [expected] at follows
  rw [loadAll]
  generalize session.loadInto .empty session.index.entries = outcome at follows
  cases follows with
  | loaded kept found => rfl

end Session

end SpriteText.Asset
