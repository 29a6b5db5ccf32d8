import SpriteText.Proofs.Asset.RoundTrip
import SpriteText.Proofs.Asset.Sessions
import SpriteText.Proofs.Sheet.Names

/-!
# What is written can be read

The writer checks every limit of the layout but one: it takes a name that ends in the character that
fills names up. A set without such names that is written fits the layout, so a session on the bytes
loads the whole set again, and answers every call as the set does (`Session.Holds`).
-/

namespace SpriteText.Asset

/-! ## Limits that the writer checks -/

/-- The fields of the layout can hold a sprite behind so many data bytes, whatever its name ends
in. -/
structure WithinLimits (name : String) (sprite : Sprite) (offset : Nat) : Prop where
  /-- The name takes sixteen bytes or less. -/
  few : (Utf8.encode name).length ≤ nameSize
  /-- The width takes two bytes. -/
  width : sprite.width ≤ 0xFFFF
  /-- The height takes two bytes. -/
  height : sprite.height ≤ 0xFFFF
  /-- The position takes four bytes. -/
  offset : offset ≤ 0xFFFFFFFF

/-- A sprite that is added is within the limits, and its data is put behind the data so far. -/
theorem limits_of_add {sections next : Sections} {name : String} {sprite : Sprite}
    (added : sections.add name sprite = .ok next) :
    WithinLimits name sprite sections.data.size ∧
      next.data.size = sections.data.size + sprite.byteCount := by
  simp only [Sections.add] at added
  split at added
  · contradiction
  rename_i few
  split at added
  · contradiction
  rename_i width
  split at added
  · contradiction
  rename_i height
  split at added
  · contradiction
  rename_i offset
  simp only [Except.ok.injEq] at added
  subst added
  exact ⟨⟨Nat.not_lt.mp few, Nat.not_lt.mp width, Nat.not_lt.mp height, Nat.not_lt.mp offset⟩,
    Array.size_append⟩

/-- Every sprite that is added is within the limits behind the data of those before it. -/
theorem limits_of_addAll {sections done : Sections} {front back : List (String × Sprite)}
    {name : String} {sprite : Sprite}
    (added : sections.addAll (front ++ (name, sprite) :: back) = .ok done) :
    WithinLimits name sprite (sections.data.size + (dataOf front).length) := by
  induction front generalizing sections with
  | nil =>
    rw [List.nil_append, Sections.addAll] at added
    cases first : sections.add name sprite with
    | error fault => simp [first] at added
    | ok next => exact (limits_of_add first).1
  | cons entry front ih =>
    obtain ⟨other, earlier⟩ := entry
    rw [List.cons_append, Sections.addAll] at added
    cases first : sections.add other earlier with
    | error fault => simp [first] at added
    | ok next =>
      simp only [first] at added
      have limits := ih added
      rwa [(limits_of_add first).2, Nat.add_assoc, ← length_dataOf_cons] at limits

variable {sprites : SpriteSet} {bytes : List UInt8}

/-- A set that is written fits the layout if no name ends in the character that fills names up. -/
theorem storable_of_encode (encoded : encode sprites.entries = .ok bytes)
    (endings : ∀ name ∈ sprites.names, name.toList.getLast? ≠ some '\x00') :
    Storable sprites := by
  unfold encode at encoded
  split at encoded
  · contradiction
  rename_i few
  cases added : Sections.addAll {} sprites.entries with
  | error fault => simp [added] at encoded
  | ok done =>
    have limits {name : String} {sprite : Sprite} (member : (name, sprite) ∈ sprites.entries) :
        ∃ offset, WithinLimits name sprite offset := by
      obtain ⟨front, back, split⟩ := List.append_of_mem member
      rw [split] at added
      exact ⟨_, limits_of_addAll added⟩
    constructor
    case few => exact Nat.not_lt.mp few
    case endings => exact endings
    case names =>
      intro name member
      obtain ⟨⟨other, sprite⟩, held, rfl⟩ := List.mem_map.mp member
      obtain ⟨offset, within⟩ := limits held
      exact within.few
    case sides =>
      intro sprite member
      obtain ⟨⟨name, other⟩, held, rfl⟩ := List.mem_map.mp member
      obtain ⟨offset, within⟩ := limits held
      exact ⟨within.width, within.height⟩
    case reach =>
      rcases List.eq_nil_or_concat sprites.entries with none | ⟨front, ⟨name, sprite⟩, split⟩
      · rw [none]
        decide
      · rw [List.concat_eq_append] at split
        rw [split] at added
        have offset := (limits_of_addAll added).offset
        rw [split, List.dropLast_concat]
        simp only [Array.size_empty, Nat.zero_add] at offset
        omega

/-- A set that the layout can hold is written, and a session on what is written loads the set. -/
theorem session_of_storable (storable : Storable sprites) :
    ∃ written session, encode sprites.entries = .ok written ∧
      Session.open? written = .ok session ∧ session.loadAll.1 = .ok sprites := by
  obtain ⟨reader, opened, holds, -⟩ := open?_of_storable storable
  obtain ⟨session, reopened, loaded⟩ := Session.loadAll_of_reader opened holds.loadAll
  exact ⟨_, session, encode_of_storable storable, reopened, loaded⟩

/-- A session on a set that is written loads the set, if no name ends in the character that fills
names up. -/
theorem session_of_encode (encoded : encode sprites.entries = .ok bytes)
    (endings : ∀ name ∈ sprites.names, name.toList.getLast? ≠ some '\x00') :
    ∃ session, Session.open? bytes = .ok session ∧ session.loadAll.1 = .ok sprites := by
  obtain ⟨written, session, same, opened, loaded⟩ :=
    session_of_storable (storable_of_encode encoded endings)
  rw [encoded] at same
  cases same
  exact ⟨session, opened, loaded⟩

/-! ## Reading back -/

/-- What an opened asset of a set answers, whatever it has been asked before: the names in their
order, their number, the sprite of every name and of no other name, and the whole set. -/
structure Session.Holds (session : Session) (sprites : SpriteSet) : Prop where
  /-- The names in order. -/
  names : (session.call .names).1 = .names sprites.names
  /-- The number of sprites. -/
  count : session.count = sprites.size
  /-- Every sprite under its name. -/
  sprite : ∀ name sprite, (name, sprite) ∈ sprites.entries →
    (session.call (.get name)).1 = .sprite (some sprite)
  /-- No sprite under any other name. -/
  none : ∀ name, name ∉ sprites.names → (session.call (.get name)).1 = .sprite none
  /-- The whole set. -/
  set : (session.call .loadAll).1 = .sprites sprites

/-- A session answers what its reader holds, whatever it has been asked before. -/
theorem Session.holds_of_reader {session : Session} (holds : session.reader.Holds sprites)
    (count : session.reader.count = sprites.size) (earlier : List Session.Call) :
    (session.after earlier).Holds sprites := by
  have answers (call : Session.Call) :
      ((session.after earlier).call call).1 = session.reader.answer call :=
    session.call_after earlier call
  constructor
  case names => rw [answers, Reader.answer, holds.names]
  case count => exact (congrArg Reader.count (session.reader_after earlier)).trans count
  case sprite =>
    intro name sprite member
    rw [answers, Reader.answer, holds.get? member]
  case none =>
    intro name absent
    rw [answers, Reader.answer, holds.get?_of_not_mem absent]
  case set => rw [answers, Reader.answer, holds.loadAll]

/-- Reading an asset undoes writing it. A set that the layout can hold is written, and what is
written opens and answers with the names in their order, their number, the sprite of every name and
of no other name, and the whole set, whatever has been asked before. The names of a parsed sheet
never end in the character that fills names up. -/
theorem read_of_write (sprites : SpriteSet) (storable : Storable sprites) :
    (∃ bytes session, encode sprites.entries = .ok bytes ∧ Session.open? bytes = .ok session ∧
      ∀ earlier, (session.after earlier).Holds sprites) ∧
    ∀ text defaultName sources, Sheet.parse text defaultName = .ok sources →
      ∀ source ∈ sources, source.name.toList.getLast? ≠ some '\x00' := by
  constructor
  · obtain ⟨reader, opened, holds, count⟩ := open?_of_storable storable
    obtain ⟨session, reopened, rfl⟩ := Session.open?_of_reader opened
    exact ⟨_, session, encode_of_storable storable, reopened,
      Session.holds_of_reader holds count⟩
  · intro text defaultName sources parsed source member
    exact Sheet.getLast?_ne_of_isSpriteName (Sheet.isSpriteName_of_parse parsed source member)

/-- A set of a sprite with its last byte not aligned, under a name that is not ASCII, and of an
empty sprite is read back, also after a name that it does not have has been asked for. -/
theorem read_of_write_accents :
    ∃ sprites : SpriteSet, sprites.names = ["é", "void"] ∧
      ∃ bytes session, encode sprites.entries = .ok bytes ∧ Session.open? bytes = .ok session ∧
        ((session.after [.get "other"]).call .loadAll).1 = .sprites sprites := by
  let accent : Sprite := ⟨3, 1, .one, #[0x05], false, by decide, by decide⟩
  let void : Sprite := ⟨0, 7, .two, #[], true, by decide, by decide⟩
  let sprites : SpriteSet := ⟨[("é", accent), ("void", void)], by decide⟩
  have storable : Storable sprites := by
    constructor <;> decide
  obtain ⟨⟨bytes, session, written, opened, holds⟩, -⟩ := read_of_write sprites storable
  exact ⟨sprites, rfl, bytes, session, written, opened, (holds _).set⟩

end SpriteText.Asset
