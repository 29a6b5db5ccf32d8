import SpriteText.Asset.Writer
import SpriteText.Proofs.Asset.Entries
import SpriteText.Proofs.NameTable
import SpriteText.Proofs.Packing.Pixels

/-!
# Assets are read as they are written

Every sprite of a set is written with its data at the position after the data of the sprites before
it (`placed`). The writer puts these entries into the index, the reader takes the same entries out
of it, and the data at an entry's position is that of its sprite.
-/

namespace SpriteText

namespace Asset

/-! ## Positions -/

/-- The data of sprites, one after the other. -/
def dataOf (sprites : List (String × Sprite)) : List UInt8 :=
  sprites.flatMap fun entry => entry.2.data.toList

/-- The entries of sprites whose data starts at a position. -/
def placed : Nat → List (String × Sprite) → List (String × Entry)
  | _, [] => []
  | offset, (name, sprite) :: rest =>
    (name, .ofSprite sprite offset) :: placed (offset + sprite.byteCount) rest

/-- The bytes of an index. -/
def indexOf (entries : List (String × Entry)) : List UInt8 :=
  entries.flatMap fun entry => entry.2.encode (Utf8.encode entry.1)

/-- The data of a sprite stands before that of the others. -/
theorem length_dataOf_cons (name : String) (sprite : Sprite) (others : List (String × Sprite)) :
    (dataOf ((name, sprite) :: others)).length = sprite.byteCount + (dataOf others).length := by
  simp [dataOf, Sprite.byteCount]

/-- The names stand in the index in the order of the sprites. -/
@[simp] theorem names_placed (offset : Nat) (sprites : List (String × Sprite)) :
    (placed offset sprites).map Prod.fst = sprites.map Prod.fst := by
  induction sprites generalizing offset with
  | nil => rfl
  | cons entry sprites ih => rw [placed, List.map_cons, ih, List.map_cons]

/-- There is an entry for every sprite. -/
@[simp] theorem length_placed (offset : Nat) (sprites : List (String × Sprite)) :
    (placed offset sprites).length = sprites.length := by
  rw [← List.length_map Prod.fst, names_placed, List.length_map]

/-- The data of further sprites starts after that of the first ones. -/
theorem placed_append (offset : Nat) (front back : List (String × Sprite)) :
    placed offset (front ++ back) =
      placed offset front ++ placed (offset + (dataOf front).length) back := by
  induction front generalizing offset with
  | nil => simp [placed, dataOf]
  | cons entry front ih =>
    rw [List.cons_append, placed, ih, placed, List.cons_append]
    simp [dataOf, Sprite.byteCount, Nat.add_assoc]

/-! ## Writing -/

/-- A sprite is written as its entry and its data, if the entry fits. -/
theorem add_of_fits {sections : Sections} {name : String} {sprite : Sprite}
    (fits : (Entry.ofSprite sprite sections.data.size).Fits name) :
    sections.add name sprite = .ok {
      index := sections.index ++
        (Entry.ofSprite sprite sections.data.size).encode (Utf8.encode name)
      data := sections.data ++ sprite.data } := by
  have few := fits.few
  have width : sprite.width ≤ 0xFFFF := fits.width
  have height : sprite.height ≤ 0xFFFF := fits.height
  have offset : sections.data.size ≤ 0xFFFFFFFF := fits.offset
  rw [Sections.add, if_neg (by omega), if_neg (by omega), if_neg (by omega), if_neg (by omega)]

/-- Sprites are written as their entries and their data, if the entries fit. -/
theorem addAll_of_fits {sections : Sections} {sprites : List (String × Sprite)}
    (fits : ∀ entry ∈ placed sections.data.size sprites, entry.2.Fits entry.1) :
    ∃ filled, sections.addAll sprites = .ok filled ∧
      filled.index.toList =
        sections.index.toList ++ indexOf (placed sections.data.size sprites) ∧
      filled.data.toList = sections.data.toList ++ dataOf sprites := by
  -- The data section grows, so the positions of the other sprites start at its new end.
  induction sprites generalizing sections with
  | nil => exact ⟨sections, rfl, (List.append_nil _).symm, (List.append_nil _).symm⟩
  | cons entry sprites ih =>
    obtain ⟨name, sprite⟩ := entry
    let next : Sections :=
      { index := sections.index ++
          (Entry.ofSprite sprite sections.data.size).encode (Utf8.encode name)
        data := sections.data ++ sprite.data }
    have added : sections.add name sprite = .ok next := add_of_fits (fits _ List.mem_cons_self)
    have size : next.data.size = sections.data.size + sprite.byteCount := Array.size_append
    rw [placed, ← size] at fits ⊢
    obtain ⟨filled, others, index, data⟩ := @ih next fun entry member =>
      fits entry (List.mem_cons_of_mem _ member)
    refine ⟨filled, ?_, ?_, ?_⟩
    · rw [Sections.addAll, added]
      exact others
    · rw [index]
      simp [next, indexOf]
    · rw [data]
      simp [next, dataOf]

/-! ## Reading the index -/

/-- Entries that fit are put into a table that holds none of their names, in their order. -/
theorem readIndex_indexOf (table : NameTable Entry) {entries : List (String × Entry)}
    (fits : ∀ entry ∈ entries, entry.2.Fits entry.1)
    (distinct : ((table.entries ++ entries).map Prod.fst).Nodup) (rest : List UInt8) :
    ∃ index, readIndex table entries.length (indexOf entries ++ rest) = .ok index ∧
      index.entries = table.entries ++ entries := by
  induction entries generalizing table with
  | nil => exact ⟨table, rfl, (List.append_nil _).symm⟩
  | cons entry entries ih =>
    obtain ⟨name, entry⟩ := entry
    have first : entry.Fits name := fits _ List.mem_cons_self
    have size := entry.length_encode first.few
    have split : indexOf ((name, entry) :: entries) ++ rest =
        entry.encode (Utf8.encode name) ++ (indexOf entries ++ rest) := by
      simp [indexOf]
    have absent := NameTable.not_mem_of_nodup distinct
    have inserted := NameTable.entries_insert_of_not_mem absent entry
    have others : (((table.insert name entry).entries ++ entries).map Prod.fst).Nodup := by
      rw [inserted, List.append_assoc]
      exact distinct
    obtain ⟨index, read, entries_index⟩ := ih _
      (fun entry member => fits entry (List.mem_cons_of_mem _ member)) others
    refine ⟨index, ?_, ?_⟩
    · rw [List.length_cons, split, readIndex, List.take_left' size, List.drop_left' size,
        Entry.readEntry_encode first]
      exact read
    · rw [entries_index, inserted, List.append_assoc]
      rfl

/-- Entries whose names fit take their size each. -/
theorem length_indexOf {entries : List (String × Entry)}
    (fits : ∀ entry ∈ entries, entry.2.Fits entry.1) :
    (indexOf entries).length = entries.length * entrySize := by
  induction entries with
  | nil => simp [indexOf]
  | cons entry entries ih =>
    have first := entry.2.length_encode (fits _ List.mem_cons_self).few
    have others := ih fun entry member => fits entry (List.mem_cons_of_mem _ member)
    rw [indexOf] at others
    rw [indexOf, List.flatMap_cons, List.length_append, first, others, List.length_cons,
      Nat.succ_mul, Nat.add_comm]

/-- Behind the header of a number that two bytes can count stands an index of so many entries. -/
theorem open?_header {count : Nat} (few : count ≤ 0xFFFF) (body : List UInt8) :
    Reader.open? (header count ++ body) =
      if body.length < count * entrySize then .error .truncatedIndex
      else (readIndex .empty count body).map fun index =>
        { count, index, data := body.drop (count * entrySize) } := by
  have counted : LittleEndian.read (LittleEndian.write 2 count) = count :=
    LittleEndian.read_write (Nat.lt_succ_of_le few)
  have head : (header count).length = headerSize := rfl
  have marked : (header count ++ body).take 2 = mark := rfl
  have versioned : (header count ++ body).getD 2 0 = version := rfl
  have number : field (header count ++ body) 4 2 = LittleEndian.write 2 count := rfl
  have behind : (header count ++ body).drop headerSize = body := List.drop_left' head
  have long : ¬(header count ++ body).length < headerSize := by
    rw [List.length_append, head]
    omega
  simp only [Reader.open?, marked, versioned, number, counted, behind, long, ne_eq,
    not_true_eq_false, or_self, if_false]
  split
  · rfl
  · cases readIndex .empty count body <;> rfl

/-- The bytes of an asset open with its number of entries, its index and its data. -/
theorem open?_of_fits {entries : List (String × Entry)} (few : entries.length ≤ 0xFFFF)
    (fits : ∀ entry ∈ entries, entry.2.Fits entry.1) (distinct : (entries.map Prod.fst).Nodup)
    (data : List UInt8) :
    ∃ index : NameTable Entry, index.entries = entries ∧
      Reader.open? (header entries.length ++ indexOf entries ++ data) =
        .ok { count := entries.length, index, data } := by
  have size := length_indexOf fits
  obtain ⟨index, read, same⟩ := readIndex_indexOf .empty fits distinct data
  have rest : (indexOf entries ++ data).drop (entries.length * entrySize) = data :=
    List.drop_left' size
  have whole : ¬(indexOf entries ++ data).length < entries.length * entrySize := by
    rw [List.length_append, size]
    omega
  refine ⟨index, same, ?_⟩
  rw [List.append_assoc, open?_header few, if_neg whole, read, rest]
  rfl

/-! ## Reading the data -/

/-- A sprite is made again from its own parts. -/
theorem ofShape_self (sprite : Sprite) :
    Sprite.ofShape sprite.width sprite.height sprite.depth sprite.data sprite.tailAligned =
      .ok sprite := by
  rw [Sprite.ofShape, dif_pos sprite.size_data]
  simp only [← sprite.tailAligned_eq_or]

/-- The flags of an entry tell the layout of its sprite's last byte. -/
@[simp] theorem tailAligned_ofSprite (sprite : Sprite) (offset : Nat) :
    (Entry.ofSprite sprite offset).tailAligned = sprite.tailAligned := by
  cases tail : sprite.tailAligned <;> simp [Entry.ofSprite, Entry.tailAligned, tail]

/-- The entry of a sprite loads it, if the sprite's data is at its position. -/
theorem load_ofSprite {reader : Reader} {sprite : Sprite} {offset : Nat}
    (opened : reader.closed = false)
    (data : field reader.data offset sprite.byteCount = sprite.data.toList) (name : String) :
    reader.load name (.ofSprite sprite offset) = .ok sprite := by
  have count : (Entry.ofSprite sprite offset).byteCount = sprite.byteCount := sprite.size_data.symm
  have found : field reader.data (Entry.ofSprite sprite offset).offset
      (Entry.ofSprite sprite offset).byteCount = sprite.data.toList := by
    rw [count]
    exact data
  have made : Sprite.ofShape (Entry.ofSprite sprite offset).width
      (Entry.ofSprite sprite offset).height (Entry.ofSprite sprite offset).depth
      sprite.data sprite.tailAligned = .ok sprite := ofShape_self sprite
  simp [Reader.load, opened, found, made]

/-- The data of some sprites starts after that of the sprites before them. -/
theorem dataOf_append (front back : List (String × Sprite)) :
    dataOf (front ++ back) = dataOf front ++ dataOf back := List.flatMap_append

/-- The data of a sprite stands behind that of the sprites before it. -/
theorem field_dataOf (front : List (String × Sprite)) (name : String) (sprite : Sprite)
    (back : List (String × Sprite)) (rest : List UInt8) :
    field (dataOf (front ++ (name, sprite) :: back) ++ rest) (dataOf front).length
      sprite.byteCount = sprite.data.toList := by
  have split : dataOf (front ++ (name, sprite) :: back) ++ rest =
      dataOf front ++ (sprite.data.toList ++ (dataOf back ++ rest)) := by
    simp [dataOf]
  rw [field, split, List.drop_left]
  exact List.take_left' rfl

/-- Every sprite in an asset is loaded by its entry. -/
theorem load_placed {reader : Reader} {front back : List (String × Sprite)} {name : String}
    {sprite : Sprite} (opened : reader.closed = false)
    (data : reader.data = dataOf (front ++ (name, sprite) :: back)) :
    reader.load name (.ofSprite sprite (dataOf front).length) = .ok sprite := by
  refine load_ofSprite opened ?_ name
  rw [data, ← field_dataOf front name sprite back [], List.append_nil]

/-- Sprites that are loaded each by its entry are loaded in order into a set that holds those before
them. -/
theorem loadInto_placed {reader : Reader} {front back : List (String × Sprite)} {set : SpriteSet}
    (loads : ∀ before name sprite behind, front ++ back = before ++ (name, sprite) :: behind →
      reader.load name (.ofSprite sprite (dataOf before).length) = .ok sprite)
    (held : set.entries = front) (distinct : ((front ++ back).map Prod.fst).Nodup) :
    ∃ all, reader.loadInto set (placed (dataOf front).length back) = .ok all ∧
      all.entries = front ++ back := by
  induction back generalizing front set with
  | nil => exact ⟨set, rfl, by rw [held, List.append_nil]⟩
  | cons entry back ih =>
    obtain ⟨name, sprite⟩ := entry
    have loaded := loads front name sprite back rfl
    have absent : name ∉ set.entries.map Prod.fst := by
      rw [held]
      exact NameTable.not_mem_of_nodup distinct
    have inserted : (set.insert name sprite).entries = front ++ [(name, sprite)] := by
      rw [NameTable.entries_insert_of_not_mem absent, held]
    have size : (dataOf (front ++ [(name, sprite)])).length =
        (dataOf front).length + sprite.byteCount := by
      simp [dataOf, Sprite.byteCount]
    rw [List.append_cons] at loads distinct ⊢
    obtain ⟨all, others, entries⟩ := ih loads inserted distinct
    refine ⟨all, ?_, entries⟩
    rw [placed, Reader.loadInto, loaded, ← size]
    exact others

/-! ## Whole assets -/

/-- A set that the layout can hold. -/
structure Storable (sprites : SpriteSet) : Prop where
  /-- The sprites can be counted in two bytes. -/
  few : sprites.size ≤ 0xFFFF
  /-- Every name takes sixteen bytes or less. -/
  names : ∀ name ∈ sprites.names, (Utf8.encode name).length ≤ nameSize
  /-- No name ends in the character that fills names up. -/
  endings : ∀ name ∈ sprites.names, name.toList.getLast? ≠ some '\x00'
  /-- Every side takes two bytes. -/
  sides : ∀ sprite ∈ sprites.values, sprite.width ≤ 0xFFFF ∧ sprite.height ≤ 0xFFFF
  /-- The data before the last sprite's is so short that every position takes four bytes. -/
  reach : (dataOf sprites.entries.dropLast).length < 2 ^ 32

/-- The entries of an asset are those of its sprites. -/
theorem mem_placed {offset : Nat} {sprites : List (String × Sprite)} {entry : String × Entry}
    (member : entry ∈ placed offset sprites) :
    ∃ front name sprite back, sprites = front ++ (name, sprite) :: back ∧
      entry = (name, .ofSprite sprite (offset + (dataOf front).length)) := by
  induction sprites generalizing offset with
  | nil => contradiction
  | cons first sprites ih =>
    obtain ⟨name, sprite⟩ := first
    rcases List.mem_cons.mp member with rfl | later
    · exact ⟨[], name, sprite, sprites, rfl, rfl⟩
    · obtain ⟨front, other, found, back, rfl, rfl⟩ := ih later
      refine ⟨(name, sprite) :: front, other, found, back, rfl, ?_⟩
      simp [dataOf, Sprite.byteCount, Nat.add_assoc]

/-- The entries of a set that the layout can hold fit their fields. -/
theorem Storable.fits {sprites : SpriteSet} (storable : Storable sprites) :
    ∀ entry ∈ placed 0 sprites.entries, entry.2.Fits entry.1 := by
  intro entry member
  obtain ⟨front, name, sprite, back, split, rfl⟩ := mem_placed member
  have named : name ∈ sprites.names := by
    rw [NameTable.names, split]
    simp
  have valued : sprite ∈ sprites.values := by
    rw [NameTable.values, split]
    simp
  constructor
  case few => exact storable.names name named
  case ending => exact storable.endings name named
  case width => exact (storable.sides sprite valued).1
  case height => exact (storable.sides sprite valued).2
  case offset =>
    have reach := storable.reach
    have before : sprites.entries.dropLast = front ++ ((name, sprite) :: back).dropLast := by
      rw [split, List.dropLast_append_of_ne_nil (List.cons_ne_nil _ _)]
    rw [before, dataOf_append, List.length_append] at reach
    show 0 + (dataOf front).length ≤ 0xFFFFFFFF
    omega

/-- A set that the layout can hold is written as its entries and its data. -/
theorem encode_of_storable {sprites : SpriteSet} (storable : Storable sprites) :
    encode sprites.entries = .ok
      (header sprites.size ++ indexOf (placed 0 sprites.entries) ++ dataOf sprites.entries) := by
  obtain ⟨filled, written, index, data⟩ := @addAll_of_fits {} sprites.entries storable.fits
  have few : ¬0xFFFF < sprites.entries.length := Nat.not_lt.mpr storable.few
  rw [encode, if_neg few, written]
  simp only [index, data]
  rfl

/-- An opened asset of a set of sprites. -/
structure Reader.Holds (reader : Reader) (sprites : SpriteSet) : Prop where
  /-- It has not been closed. -/
  opened : reader.closed = false
  /-- The index has the entries of the sprites. -/
  index : reader.index.entries = placed 0 sprites.entries
  /-- The data is that of the sprites. -/
  data : reader.data = dataOf sprites.entries

variable {reader : Reader} {sprites : SpriteSet} {name : String}

/-- The names of an index of sprites are those of the sprites. -/
theorem Reader.names_of_index (index : reader.index.entries = placed 0 sprites.entries) :
    reader.names = sprites.names := by
  rw [Reader.names, NameTable.names, index, names_placed]
  rfl

/-- An index of sprites has the entry of each under its name. -/
theorem Reader.get?_index (index : reader.index.entries = placed 0 sprites.entries)
    {front back : List (String × Sprite)} {sprite : Sprite}
    (split : sprites.entries = front ++ (name, sprite) :: back) :
    reader.index.get? name = some (.ofSprite sprite (dataOf front).length) := by
  refine NameTable.get?_of_mem ?_
  rw [index, split, placed_append, Nat.zero_add, placed]
  exact List.mem_append_right _ List.mem_cons_self

/-- An index of sprites has no sprite under another name. -/
theorem Reader.get?_of_not_mem (index : reader.index.entries = placed 0 sprites.entries)
    (absent : name ∉ sprites.names) : reader.get? name = .ok none := by
  have missing : reader.index.get? name = none := by
    rw [NameTable.get?, List.lookup_eq_none_iff]
    intro entry member
    refine bne_iff_ne.mpr ?_
    rintro rfl
    rw [← Reader.names_of_index index] at absent
    exact absent (List.mem_map_of_mem member)
  simp only [Reader.get?, missing]

/-- The names are those of the sprites. -/
theorem Reader.Holds.names (holds : reader.Holds sprites) : reader.names = sprites.names :=
  Reader.names_of_index holds.index

/-- Every sprite is found under its name. -/
theorem Reader.Holds.get? (holds : reader.Holds sprites) {sprite : Sprite}
    (member : (name, sprite) ∈ sprites.entries) : reader.get? name = .ok (some sprite) := by
  obtain ⟨front, back, split⟩ := List.append_of_mem member
  have found := Reader.get?_index holds.index split
  simp only [Reader.get?, found, load_placed holds.opened (split ▸ holds.data)]

/-- No sprite is found under another name. -/
theorem Reader.Holds.get?_of_not_mem (holds : reader.Holds sprites)
    (absent : name ∉ sprites.names) : reader.get? name = .ok none :=
  Reader.get?_of_not_mem holds.index absent

/-- An asset whose sprites are loaded each by its entry is loaded as the set of them. -/
theorem Reader.loadAll_of_loads (index : reader.index.entries = placed 0 sprites.entries)
    (loads : ∀ front name sprite back, sprites.entries = front ++ (name, sprite) :: back →
      reader.load name (.ofSprite sprite (dataOf front).length) = .ok sprite) :
    reader.loadAll = .ok sprites := by
  obtain ⟨all, loaded, entries⟩ :=
    @loadInto_placed reader [] sprites.entries .empty loads rfl sprites.distinct
  rw [Reader.loadAll, index]
  exact loaded.trans (congrArg _ (NameTable.ext_entries entries))

/-- All sprites are loaded. -/
theorem Reader.Holds.loadAll (holds : reader.Holds sprites) : reader.loadAll = .ok sprites :=
  Reader.loadAll_of_loads holds.index fun _ _ _ _ split =>
    load_placed holds.opened (split ▸ holds.data)

/-- What is written of a set opens as an asset of the set. -/
theorem open?_of_storable (storable : Storable sprites) :
    ∃ reader, Reader.open?
        (header sprites.size ++ indexOf (placed 0 sprites.entries) ++ dataOf sprites.entries) =
          .ok reader ∧ reader.Holds sprites ∧ reader.count = sprites.size := by
  have length := length_placed 0 sprites.entries
  have few : (placed 0 sprites.entries).length ≤ 0xFFFF := length ▸ storable.few
  have distinct : ((placed 0 sprites.entries).map Prod.fst).Nodup := by
    rw [names_placed]
    exact sprites.distinct
  obtain ⟨index, entries, opened⟩ :=
    open?_of_fits few storable.fits distinct (dataOf sprites.entries)
  rw [length] at opened
  exact ⟨_, opened, ⟨rfl, entries, rfl⟩, rfl⟩

end Asset

end SpriteText
