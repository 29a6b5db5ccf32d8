import SpriteText.Proofs.Asset.AnyFile
import SpriteText.Proofs.Asset.Encoded

/-!
# Assets that are cut off or extended

The header and the index of an asset stand before all data, and the data stands in the order of the
sprites. So a file that is cut off does not open, or it opens with its whole index and lacks the
data of the last sprites (`Reader.HoldsCut`). Bytes behind the data belong to no sprite.
-/

namespace SpriteText.Asset

variable {sprites : SpriteSet} {bytes : List UInt8} {reader : Reader} {kept : Nat}

/-! ## Cut data -/

/-- A field that ends before a cut is not touched by it. -/
theorem field_take {position size length : Nat} (inside : position + size ≤ length)
    (bytes : List UInt8) : field (bytes.take length) position size = field bytes position size := by
  rw [field, field, List.drop_take, List.take_take, Nat.min_eq_left (by omega)]

/-- The data of a sprite behind other sprites is empty or ends within so many bytes. -/
def EndsWithin (kept : Nat) (front : List (String × Sprite)) (sprite : Sprite) : Prop :=
  sprite.byteCount = 0 ∨ (dataOf front).length + sprite.byteCount ≤ kept

/-- All data ends before a cut that is behind it. -/
theorem endsWithin_of_le {front back : List (String × Sprite)} {name : String} {sprite : Sprite}
    (split : sprites.entries = front ++ (name, sprite) :: back)
    (whole : (dataOf sprites.entries).length ≤ kept) : EndsWithin kept front sprite := by
  rw [split, dataOf_append, List.length_append, length_dataOf_cons] at whole
  exact .inr (by omega)

/-- An opened asset of sprites that has so many bytes of their data and of what follows it. -/
structure Reader.HoldsCut (reader : Reader) (sprites : SpriteSet) (kept : Nat) : Prop where
  /-- It has not been closed. -/
  opened : reader.closed = false
  /-- The index has the entries of the sprites. -/
  index : reader.index.entries = placed 0 sprites.entries
  /-- The data is that of the sprites and what follows it, up to a cut. -/
  data : ∃ rest, reader.data = (dataOf sprites.entries ++ rest).take kept

namespace Reader.HoldsCut

variable {front back : List (String × Sprite)} {name : String} {sprite : Sprite}

/-- A sprite whose data ends before the cut is loaded by its entry. -/
theorem load_of_endsWithin (holds : reader.HoldsCut sprites kept)
    (split : sprites.entries = front ++ (name, sprite) :: back)
    (within : EndsWithin kept front sprite) :
    reader.load name (.ofSprite sprite (dataOf front).length) = .ok sprite := by
  refine load_ofSprite holds.opened ?_ name
  rcases within with empty | inside
  · have none : sprite.data.toList = [] := List.eq_nil_of_length_eq_zero empty
    rw [empty, none]
    exact List.take_zero
  · obtain ⟨rest, data⟩ := holds.data
    rw [data, split, field_take inside]
    exact field_dataOf front name sprite back rest

/-- A sprite whose data ends behind the cut is refused. -/
theorem load_of_not_endsWithin (holds : reader.HoldsCut sprites kept)
    (cut : ¬EndsWithin kept front sprite) :
    reader.load name (.ofSprite sprite (dataOf front).length) = .error (.truncatedData name) := by
  obtain ⟨rest, data⟩ := holds.data
  obtain ⟨some_byte, behind⟩ := not_or.mp cut
  have count : (Entry.ofSprite sprite (dataOf front).length).byteCount = sprite.byteCount :=
    sprite.size_data.symm
  refine load_of_length_ne holds.opened ?_ name
  rw [count, field, data, List.length_take, List.length_drop, List.length_take]
  show min sprite.byteCount (_ - (dataOf front).length) ≠ _
  omega

/-- What is found under the name of a sprite. -/
theorem get? (holds : reader.HoldsCut sprites kept)
    (split : sprites.entries = front ++ (name, sprite) :: back) :
    (EndsWithin kept front sprite → reader.get? name = .ok (some sprite)) ∧
      (¬EndsWithin kept front sprite → reader.get? name = .error (.truncatedData name)) := by
  have found := Reader.get?_index holds.index split
  constructor
  · intro within
    simp only [Reader.get?, found, holds.load_of_endsWithin split within]
  · intro cut
    simp only [Reader.get?, found, holds.load_of_not_endsWithin cut]

/-- All sprites are loaded if the cut is behind their data. -/
theorem loadAll_of_le (holds : reader.HoldsCut sprites kept)
    (whole : (dataOf sprites.entries).length ≤ kept) : reader.loadAll = .ok sprites := by
  refine Reader.loadAll_of_loads holds.index fun front name sprite back split => ?_
  exact holds.load_of_endsWithin split (endsWithin_of_le split whole)

end Reader.HoldsCut

/-- If data is cut off, that of some sprite is. -/
theorem exists_not_endsWithin {entries : List (String × Sprite)}
    (cut : kept < (dataOf entries).length) :
    ∃ front name sprite back, entries = front ++ (name, sprite) :: back ∧
      ¬EndsWithin kept front sprite := by
  -- The last sprite is cut, or the data before it is.
  induction entries using List.reverseRecOn with
  | nil => exact absurd cut (Nat.not_lt_zero kept)
  | append_singleton entries last ih =>
    obtain ⟨name, sprite⟩ := last
    by_cases earlier : kept < (dataOf entries).length
    · obtain ⟨front, other, found, back, split, refused⟩ := ih earlier
      exact ⟨front, other, found, back ++ [(name, sprite)], by simp [split], refused⟩
    · have size : (dataOf (entries ++ [(name, sprite)])).length =
          (dataOf entries).length + sprite.byteCount := by
        simp [dataOf, Sprite.byteCount]
      refine ⟨entries, name, sprite, [], rfl, ?_⟩
      rw [EndsWithin]
      omega

/-- The first sprite that is cut off is reported when all are loaded. -/
theorem Reader.HoldsCut.loadAll_of_lt (holds : reader.HoldsCut sprites kept)
    (cut : kept < (dataOf sprites.entries).length) :
    ∃ front name sprite back, sprites.entries = front ++ (name, sprite) :: back ∧
      ¬EndsWithin kept front sprite ∧ reader.loadAll = .error (.truncatedData name) := by
  rcases Reader.loadInto_outcome reader .empty reader.index.entries reader.index.distinct with
    ⟨all, -, names, loads⟩ | ⟨earlier, name, entry, later, fault, split, -, refused, done⟩
  · -- The sprite that is cut cannot be among those that are loaded.
    obtain ⟨front, name, sprite, back, split, short⟩ := exists_not_endsWithin cut
    have found := Reader.get?_index holds.index split
    have held : name ∈ all.names := by
      rw [names]
      have held := NameTable.lookup_isSome_iff.mp (Option.isSome_of_eq_some found)
      exact List.mem_append_right _ held
    obtain ⟨⟨_, loaded⟩, member, rfl⟩ := List.mem_map.mp held
    rcases loads _ loaded member with none | ⟨entry, listed, load⟩
    · contradiction
    · obtain rfl := Option.some.inj (found.symm.trans (NameTable.get?_of_mem listed))
      rw [holds.load_of_not_endsWithin short] at load
      contradiction
  · have listed : (name, entry) ∈ placed 0 sprites.entries := by
      rw [← holds.index, split]
      exact List.mem_append_right _ List.mem_cons_self
    obtain ⟨front, _, sprite, back, order, same⟩ := mem_placed listed
    obtain ⟨rfl, rfl⟩ := Prod.mk.inj same
    rw [Nat.zero_add] at refused
    have short : ¬EndsWithin kept front sprite := by
      intro within
      rw [holds.load_of_endsWithin order within] at refused
      contradiction
    rw [holds.load_of_not_endsWithin short] at refused
    cases refused
    exact ⟨front, name, sprite, back, order, short, done⟩

/-! ## Cut files -/

/-- The position in an asset of sprites where its index ends and their data starts. -/
def indexEnd (sprites : SpriteSet) : Nat := headerSize + sprites.size * entrySize

/-- The index of sprites that the layout can hold takes its size for each. -/
theorem length_indexOf_placed (storable : Storable sprites) :
    (indexOf (placed 0 sprites.entries)).length = sprites.size * entrySize := by
  rw [length_indexOf storable.fits, length_placed]
  rfl

/-- An asset that is cut off within its header or its index does not open. -/
theorem Reader.open?_of_lt {length : Nat} (storable : Storable sprites)
    (encoded : encode sprites.entries = .ok bytes) (short : length < indexEnd sprites) :
    Reader.open? (bytes.take length) =
      .error (if length < headerSize then .notAnAsset else .truncatedIndex) := by
  split
  · rename_i unheaded
    have fewer : (bytes.take length).length < headerSize := by
      rw [List.length_take]
      omega
    rw [Reader.open?, if_pos (.inl fewer)]
  · rename_i headed
    have written := encode_of_storable storable
    obtain rfl := Except.ok.inj (encoded.symm.trans written)
    have head : (header sprites.size).length = headerSize := rfl
    have whole : (header sprites.size).take length = header sprites.size :=
      List.take_of_length_le (Nat.not_lt.mp headed)
    have fewer : ((indexOf (placed 0 sprites.entries) ++ dataOf sprites.entries).take
        (length - headerSize)).length < sprites.size * entrySize := by
      rw [List.length_take]
      unfold indexEnd at short
      omega
    rw [List.append_assoc, List.take_append, whole, head, open?_header storable.few,
      if_pos fewer]

/-- An asset that is followed by any bytes and cut off behind its index opens with the index and
with the data up to the cut. -/
theorem Reader.open?_of_le {length : Nat} (storable : Storable sprites)
    (encoded : encode sprites.entries = .ok bytes) (enough : indexEnd sprites ≤ length)
    (rest : List UInt8) :
    ∃ reader, Reader.open? ((bytes ++ rest).take length) = .ok reader ∧
      reader.HoldsCut sprites (length - indexEnd sprites) := by
  obtain rfl := Except.ok.inj (encoded.symm.trans (encode_of_storable storable))
  have entries := length_placed 0 sprites.entries
  have size : (header sprites.size ++ indexOf (placed 0 sprites.entries)).length =
      indexEnd sprites := by
    rw [List.length_append, length_indexOf_placed storable]
    rfl
  have whole : (header sprites.size ++ indexOf (placed 0 sprites.entries)).take length =
      header sprites.size ++ indexOf (placed 0 sprites.entries) :=
    List.take_of_length_le (size ▸ enough)
  have distinct : ((placed 0 sprites.entries).map Prod.fst).Nodup := by
    rw [names_placed]
    exact sprites.distinct
  obtain ⟨index, same, opened⟩ := open?_of_fits (entries ▸ storable.few) storable.fits distinct
    ((dataOf sprites.entries ++ rest).take (length - indexEnd sprites))
  have cut : (header sprites.size ++ indexOf (placed 0 sprites.entries) ++
      dataOf sprites.entries ++ rest).take length =
        header (placed 0 sprites.entries).length ++ indexOf (placed 0 sprites.entries) ++
          (dataOf sprites.entries ++ rest).take (length - indexEnd sprites) := by
    rw [List.append_assoc, List.take_append, whole, size, entries]
    rfl
  rw [cut]
  exact ⟨_, opened, ⟨rfl, same, rest, rfl⟩⟩

/-! ## Answers -/

/-- What a set of sprites answers to a call, if all of them can be loaded. -/
def answerOf (sprites : SpriteSet) : Session.Call → Session.Answer
  | .names => .names sprites.names
  | .contains name => .held (sprites.contains name)
  | .get name => .sprite (sprites.get? name)
  | .loadAll => .sprites sprites

/-- A reader that has all data of the sprites answers as the set of them. -/
theorem Reader.HoldsCut.answer (holds : reader.HoldsCut sprites kept)
    (whole : (dataOf sprites.entries).length ≤ kept) (call : Session.Call) :
    reader.answer call = answerOf sprites call := by
  have names := Reader.names_of_index holds.index
  cases call with
  | names => exact congrArg Session.Answer.names names
  | contains name => exact congrArg (fun names => Session.Answer.held (names.contains name)) names
  | get name =>
    rw [Reader.answer, answerOf]
    by_cases held : name ∈ sprites.names
    · obtain ⟨⟨_, sprite⟩, member, rfl⟩ := List.mem_map.mp held
      obtain ⟨front, back, split⟩ := List.append_of_mem member
      rw [(holds.get? split).1 (endsWithin_of_le split whole), NameTable.get?_of_mem member]
    · have absent : sprites.get? name = none := by
        rw [NameTable.get?, ← Option.not_isSome_iff_eq_none, NameTable.lookup_isSome_iff]
        exact held
      rw [Reader.get?_of_not_mem holds.index held, absent]
  | loadAll => rw [Reader.answer, holds.loadAll_of_le whole, answerOf]

namespace Session

/-- What a session answers on an asset of sprites that is cut off so many bytes behind its index,
whatever has been asked before. -/
structure AnswersCut (session : Session) (sprites : SpriteSet) (kept : Nat) : Prop where
  /-- All names are told. -/
  names : ∀ earlier, ((session.after earlier).call .names).1 = .names sprites.names
  /-- A sprite without data is loaded, and one whose data ends before the cut. -/
  whole : ∀ earlier front name sprite back, sprites.entries = front ++ (name, sprite) :: back →
    EndsWithin kept front sprite →
      ((session.after earlier).call (.get name)).1 = .sprite (some sprite)
  /-- A sprite whose data ends behind the cut is refused. -/
  cut : ∀ earlier front name sprite back, sprites.entries = front ++ (name, sprite) :: back →
    ¬EndsWithin kept front sprite →
      ((session.after earlier).call (.get name)).1 = .refused (.asset (.truncatedData name))
  /-- One of these is reported when all sprites are loaded, if there is one. -/
  loadAll : ∀ earlier, kept < (dataOf sprites.entries).length →
    ∃ front name sprite back, sprites.entries = front ++ (name, sprite) :: back ∧
      ¬EndsWithin kept front sprite ∧
      ((session.after earlier).call .loadAll).1 = .refused (.asset (.truncatedData name))

/-- A session whose reader has the data up to a cut answers so. -/
theorem answersCut_of_holdsCut {session : Session} (holds : session.reader.HoldsCut sprites kept) :
    session.AnswersCut sprites kept := by
  constructor
  case names =>
    intro earlier
    rw [call_after, Reader.answer, Reader.names_of_index holds.index]
  case whole =>
    intro earlier front name sprite back split within
    rw [call_after, Reader.answer, (holds.get? split).1 within]
  case cut =>
    intro earlier front name sprite back split short
    rw [call_after, Reader.answer, (holds.get? split).2 short]
  case loadAll =>
    intro earlier lost
    obtain ⟨front, name, sprite, back, split, short, refused⟩ := holds.loadAll_of_lt lost
    refine ⟨front, name, sprite, back, split, short, ?_⟩
    rw [call_after, Reader.answer, refused]

/-- A written asset cut off or extended. Cut off before the end of its index it does not open. Cut
off behind that it opens with all names; a sprite is loaded if it has no data or its data ends
before the cut, and any other is refused as cut short, so loading all sprites is refused if any byte
is missing. An asset followed by any bytes answers every call as the set that was written. -/
theorem cut_is_noticed_and_extension_ignored (encoded : encode sprites.entries = .ok bytes)
    (endings : ∀ name ∈ sprites.names, name.toList.getLast? ≠ some '\x00') :
    (∀ length ≤ bytes.length,
      (length < indexEnd sprites → open? (bytes.take length) =
        .error (if length < headerSize then .notAnAsset else .truncatedIndex)) ∧
      (indexEnd sprites ≤ length → ∃ session, open? (bytes.take length) = .ok session ∧
        session.AnswersCut sprites (length - indexEnd sprites) ∧
        (length < bytes.length → ∀ earlier, ∃ fault,
          ((session.after earlier).call .loadAll).1 = .refused fault))) ∧
    ∀ rest, ∃ session, open? (bytes ++ rest) = .ok session ∧
      ∀ earlier call, ((session.after earlier).call call).1 = answerOf sprites call := by
  have storable := storable_of_encode encoded endings
  have size : bytes.length = indexEnd sprites + (dataOf sprites.entries).length := by
    obtain rfl := Except.ok.inj (encoded.symm.trans (encode_of_storable storable))
    rw [List.length_append, List.length_append, length_indexOf_placed storable]
    rfl
  refine ⟨fun length inside => ⟨fun short => ?_, fun enough => ?_⟩, fun rest => ?_⟩
  · exact open?_of_reader_error (Reader.open?_of_lt storable encoded short)
  · obtain ⟨reader, opened, holds⟩ := Reader.open?_of_le storable encoded enough []
    rw [List.append_nil] at opened
    obtain ⟨session, reopened, rfl⟩ := open?_of_reader opened
    have answers := answersCut_of_holdsCut holds
    refine ⟨session, reopened, answers, fun cut earlier => ?_⟩
    obtain ⟨front, name, sprite, back, -, -, refused⟩ := answers.loadAll earlier (by omega)
    exact ⟨_, refused⟩
  · have total : (bytes ++ rest).length = bytes.length + rest.length := List.length_append
    have enough : indexEnd sprites ≤ (bytes ++ rest).length := by omega
    obtain ⟨reader, opened, holds⟩ := Reader.open?_of_le storable encoded enough rest
    rw [List.take_length] at opened
    obtain ⟨session, reopened, rfl⟩ := open?_of_reader opened
    refine ⟨session, reopened, fun earlier call => ?_⟩
    rw [call_after]
    exact holds.answer (by omega) call

/-- An asset of three sprites, the last one without data, that lacks its last byte: the second
sprite is refused and the others are loaded. -/
theorem cut_is_noticed_and_extension_ignored_last_byte :
    let dot : Sprite := ⟨1, 1, .one, #[0x80], true, by decide, by decide⟩
    let wide : Sprite := ⟨9, 1, .two, #[0x1B, 0x1B, 0x02], false, by decide, by decide⟩
    let void : Sprite := ⟨0, 7, .one, #[], true, by decide, by decide⟩
    let set : SpriteSet := ⟨[("dot", dot), ("wide", wide), ("void", void)], by decide⟩
    let file := header 3 ++ indexOf (placed 0 set.entries) ++ [0x80, 0x1B, 0x1B]
    ∃ session, open? file = .ok session ∧
      (session.call (.get "dot")).1 = .sprite (some dot) ∧
      (session.call (.get "wide")).1 = .refused (.asset (.truncatedData "wide")) ∧
      (session.call (.get "void")).1 = .sprite (some void) ∧
      ∃ fault, (session.call .loadAll).1 = .refused fault := by
  intro dot wide void set file
  have encoded : encode set.entries = .ok (file ++ [0x02]) := by decide
  have endings : ∀ name ∈ set.names, name.toList.getLast? ≠ some '\x00' := by decide
  have size : file.length = 89 := by decide
  have cut : (file ++ [0x02]).take 89 = file := List.take_left' size
  obtain ⟨cuts, -⟩ := cut_is_noticed_and_extension_ignored encoded endings
  obtain ⟨session, opened, answers, lost⟩ := (cuts 89 (by decide)).2 (by decide)
  rw [cut] at opened
  refine ⟨session, opened, ?_, ?_, ?_, lost (by decide) []⟩
  · exact answers.whole [] [] "dot" dot _ rfl (.inr (by decide))
  · exact answers.cut [] [("dot", dot)] "wide" wide _ rfl (by unfold EndsWithin; decide)
  · exact answers.whole [] [("dot", dot), ("wide", wide)] "void" void [] rfl (.inl rfl)

end Session

end SpriteText.Asset
