import SpriteText.Proofs.Asset.Sessions

/-!
# Any file as an asset

A file opens exactly if it is well-formed (`WellFormed`). Every name in its index stands for the
last entry of that name, and the sprite of the entry is made of its bytes in the file, if the file
has them all (`Finds`).
-/

namespace SpriteText.Asset

variable {file : List UInt8} {entries : List (String × Entry)} {name : String} {entry : Entry}

/-! ## Files that open -/

/-- A file has a header, the bytes of its index, and in every entry of the index the bit count of a
depth and a name that is text. -/
structure WellFormed (file : List UInt8) : Prop extends Headed file where
  /-- The bit count of every entry is one or two. -/
  depths : ∀ place < entryCount file,
    (entryBytes file place).getD 20 0 = 1 ∨ (entryBytes file place).getD 20 0 = 2
  /-- The name of every entry encodes a text, apart from the zeros at its end. -/
  names : ∀ place < entryCount file,
    ∃ text, Utf8.encode text = stripName (field (entryBytes file place) 0 nameSize)

/-- The bit counts of the depths are one and two. -/
theorem exists_bits_iff {byte : UInt8} :
    (∃ depth : BitDepth, byte.toNat = depth.bits) ↔ byte = 1 ∨ byte = 2 := by
  constructor
  · rintro ⟨depth, same⟩
    cases depth with
    | one => exact .inl (UInt8.toNat_inj.mp same)
    | two => exact .inr (UInt8.toNat_inj.mp same)
  · rintro (rfl | rfl)
    · exact ⟨.one, rfl⟩
    · exact ⟨.two, rfl⟩

/-- A file that is laid out as an asset is well-formed. -/
theorem Layout.wellFormed (layout : Layout file entries) : WellFormed file := by
  refine ⟨layout.toHeaded, fun place inside => ?_, fun place inside => ?_⟩
  · rw [← layout.counted] at inside
    exact exists_bits_iff.mp ⟨_, (layout.spelled place inside).depth⟩
  · rw [← layout.counted] at inside
    exact ⟨_, (layout.spelled place inside).name⟩

/-- A file that is rejected is not well-formed. -/
theorem Rejected.not_wellFormed {fault : AssetFault} (rejected : Rejected file fault) :
    ¬WellFormed file := by
  intro formed
  cases rejected with
  | notAnAsset unmarked =>
    exact unmarked.elim (Nat.not_lt.mpr formed.header) (absurd formed.marked)
  | version header marked unknown => exact unknown formed.versioned
  | truncatedIndex header marked versioned short => exact Nat.not_lt.mpr formed.indexed short
  | entry headed inside wrong before =>
    cases wrong with
    | depth unknown =>
      obtain ⟨depth, same⟩ := exists_bits_iff.mpr (formed.depths _ inside)
      exact unknown depth same
    | name known malformed reported =>
      obtain ⟨text, same⟩ := formed.names _ inside
      exact malformed text same

/-! ## Sprites in a file -/

/-- The position in a file where the data of an entry starts. -/
def dataPosition (file : List UInt8) (entry : Entry) : Nat := dataStart file + entry.offset

/-- A file has all data bytes of an entry. -/
def Reaches (file : List UInt8) (entry : Entry) : Prop :=
  ∀ i < entry.byteCount, dataPosition file entry + i < file.length

/-- A sprite has the shape and the data of an entry, and its last byte is laid out as the entry
says, if it is not filled. -/
structure Shows (file : List UInt8) (entry : Entry) (sprite : Sprite) : Prop where
  /-- It has the width of the entry. -/
  width : sprite.width = entry.width
  /-- It has the height of the entry. -/
  height : sprite.height = entry.height
  /-- It has the depth of the entry. -/
  depth : sprite.depth = entry.depth
  /-- Its data is in the file at the position of the entry. -/
  data : sprite.data.toList = field file (dataPosition file entry) entry.byteCount
  /-- The lowest flag tells its layout; a last byte that is filled counts as aligned. -/
  layout : sprite.tailAligned = true ↔
    entry.tailAligned = true ∨ entry.width * entry.height * entry.depth.bits % 8 = 0

/-- The last one of some entries that has a name. -/
def IsLast (entries : List (String × Entry)) (name : String) (entry : Entry) : Prop :=
  ∃ front back, entries = front ++ (name, entry) :: back ∧ name ∉ back.map Prod.fst

/-- What is found under a name in a file that lists entries. -/
inductive Finds (file : List UInt8) (entries : List (String × Entry)) (name : String) :
    Except AssetFault (Option Sprite) → Prop
  /-- No entry has the name. -/
  | absent (absent : name ∉ entries.map Prod.fst) : Finds file entries name (.ok none)
  /-- The file has the data of the last entry of the name. -/
  | sprite {entry : Entry} {sprite : Sprite} (last : IsLast entries name entry)
      (reaches : Reaches file entry) (shows : Shows file entry sprite) :
    Finds file entries name (.ok (some sprite))
  /-- The file ends before the data of the last entry of the name does. -/
  | truncated {entry : Entry} (last : IsLast entries name entry) (short : ¬Reaches file entry) :
    Finds file entries name (.error (.truncatedData name))

/-- The bytes of an entry are all there if the file has them all. -/
theorem reaches_iff_length :
    Reaches file entry ↔
      (field file (dataPosition file entry) entry.byteCount).length = entry.byteCount := by
  rw [field, List.length_take, List.length_drop]
  constructor
  · intro reaches
    by_cases none : entry.byteCount = 0
    · omega
    · have last := reaches (entry.byteCount - 1) (by omega)
      omega
  · intro length i inside
    omega

/-- The last value put under a name is the one that the table of all of them has. -/
theorem get?_ofList_eq_some_iff :
    (NameTable.ofList entries).get? name = some entry ↔ IsLast entries name entry := by
  rw [NameTable.get?_ofList, List.lookup_eq_some_iff]
  constructor
  · rintro ⟨later, earlier, split, others⟩
    refine ⟨earlier.reverse, later.reverse, ?_, ?_⟩
    · rw [← List.reverse_reverse entries, split]
      simp
    · rw [List.map_reverse, List.mem_reverse, List.mem_map]
      rintro ⟨other, member, same⟩
      exact bne_iff_ne.mp (others other member) same.symm
  · rintro ⟨front, back, split, others⟩
    refine ⟨back.reverse, front.reverse, by simp [split], fun other member => bne_iff_ne.mpr ?_⟩
    rintro rfl
    exact others (List.mem_map_of_mem (List.mem_reverse.mp member))

/-- A name has no value in the table of some entries if none of them has the name. -/
theorem get?_ofList_eq_none_iff :
    (NameTable.ofList entries).get? name = none ↔ name ∉ entries.map Prod.fst := by
  rw [NameTable.get?_ofList, ← Option.not_isSome_iff_eq_none, NameTable.lookup_isSome_iff,
    List.map_reverse, List.mem_reverse]

namespace Reader

/-- The data section has the bytes of an entry where the file has them. -/
theorem field_ofLayout (file : List UInt8) (entries : List (String × Entry)) (entry : Entry) :
    field (ofLayout file entries).data entry.offset entry.byteCount =
      field file (dataPosition file entry) entry.byteCount :=
  field_drop file (dataStart file) entry.offset entry.byteCount

/-- An entry whose data the file has is loaded as the sprite of its data. -/
theorem load_of_reaches (reaches : Reaches file entry) (name : String) :
    ∃ sprite, (ofLayout file entries).load name entry = .ok sprite ∧ Shows file entry sprite := by
  have opened : (ofLayout file entries).closed = false := rfl
  have sized : (field file (dataPosition file entry) entry.byteCount).toArray.size =
      entry.depth.bytesFor (entry.width * entry.height) := reaches_iff_length.mp reaches
  simp only [load, opened, Bool.false_eq_true, if_false, field_ofLayout, Sprite.ofShape,
    dif_pos sized]
  refine ⟨_, rfl, rfl, rfl, rfl, List.toList_toArray, ?_⟩
  simp

/-- An entry is refused if there are fewer bytes than its data takes. -/
theorem load_of_length_ne {reader : Reader} (opened : reader.closed = false)
    (short : (field reader.data entry.offset entry.byteCount).length ≠ entry.byteCount)
    (name : String) : reader.load name entry = .error (.truncatedData name) := by
  have unsized : ¬(field reader.data entry.offset entry.byteCount).toArray.size =
      entry.depth.bytesFor (entry.width * entry.height) := short
  simp only [load, opened, Bool.false_eq_true, if_false, Sprite.ofShape, dif_neg unsized]

/-- An entry whose data the file has not is refused. -/
theorem load_of_short (short : ¬Reaches file entry) (name : String) :
    (ofLayout file entries).load name entry = .error (.truncatedData name) := by
  refine load_of_length_ne rfl ?_ name
  rw [field_ofLayout]
  exact mt reaches_iff_length.mpr short

/-- Looking up a name finds what the file has under it. -/
theorem finds_get? (file : List UInt8) (entries : List (String × Entry)) (name : String) :
    Finds file entries name ((ofLayout file entries).get? name) := by
  rw [get?]
  cases found : (ofLayout file entries).index.get? name with
  | none => exact .absent (get?_ofList_eq_none_iff.mp found)
  | some entry =>
    have last : IsLast entries name entry := get?_ofList_eq_some_iff.mp found
    by_cases reaches : Reaches file entry
    · obtain ⟨sprite, loaded, shows⟩ := @load_of_reaches file entries entry reaches name
      simp only [loaded]
      exact .sprite last reaches shows
    · simp only [load_of_short reaches]
      exact .truncated last reaches

/-- Sprites are loaded in order until one is refused. -/
theorem loadInto_outcome (reader : Reader) (set : SpriteSet) (rest : List (String × Entry))
    (distinct : (set.names ++ rest.map Prod.fst).Nodup) :
    (∃ all, reader.loadInto set rest = .ok all ∧ all.names = set.names ++ rest.map Prod.fst ∧
      ∀ name sprite, (name, sprite) ∈ all.entries → (name, sprite) ∈ set.entries ∨
        ∃ entry, (name, entry) ∈ rest ∧ reader.load name entry = .ok sprite) ∨
    ∃ front name entry back fault, rest = front ++ (name, entry) :: back ∧
      (∀ other ∈ front, ∃ sprite, reader.load other.1 other.2 = .ok sprite) ∧
      reader.load name entry = .error fault ∧ reader.loadInto set rest = .error fault := by
  induction rest generalizing set with
  | nil =>
    exact .inl ⟨set, rfl, (List.append_nil _).symm, fun name sprite member => .inl member⟩
  | cons first rest ih =>
    obtain ⟨name, entry⟩ := first
    cases loaded : reader.load name entry with
    | error fault =>
      refine .inr ⟨[], name, entry, rest, fault, rfl, fun other none => ?_, loaded, ?_⟩
      · contradiction
      · rw [loadInto, loaded]
    | ok sprite =>
      have absent : name ∉ set.entries.map Prod.fst := by
        rw [List.map_cons, List.nodup_append] at distinct
        intro member
        exact distinct.2.2 name member name List.mem_cons_self rfl
      have inserted := NameTable.entries_insert_of_not_mem absent sprite
      have names : (set.insert name sprite).names = set.names ++ [name] := by
        rw [NameTable.names, inserted, List.map_append]
        rfl
      rw [List.map_cons, List.append_cons, ← names] at distinct
      rcases ih (set.insert name sprite) distinct with
        ⟨all, done, all_names, members⟩ | ⟨front, other, found, back, fault, split, before, refused,
          done⟩
      · refine .inl ⟨all, ?_, ?_, fun other found member => ?_⟩
        · rw [loadInto, loaded]
          exact done
        · rw [all_names, names, List.append_assoc]
          rfl
        · rcases members other found member with held | ⟨later, listed, load⟩
          · rw [inserted, List.mem_append, List.mem_singleton] at held
            rcases held with held | new
            · exact .inl held
            · cases new
              exact .inr ⟨entry, List.mem_cons_self, loaded⟩
          · exact .inr ⟨later, List.mem_cons_of_mem _ listed, load⟩
      · refine .inr ⟨(name, entry) :: front, other, found, back, fault, by rw [split]; rfl, ?_,
          refused, ?_⟩
        · intro earlier member
          rcases List.mem_cons.mp member with rfl | later
          · exact ⟨sprite, loaded⟩
          · exact before earlier later
        · rw [loadInto, loaded]
          exact done

end Reader

/-! ## Answers -/

/-- What a file that lists entries answers to a call. -/
inductive Answers (file : List UInt8) (entries : List (String × Entry)) :
    Session.Call → Session.Answer → Prop
  /-- The names are those of the entries, in the order in which they first come. -/
  | names : Answers file entries .names (.names (entries.map Prod.fst).eraseDups)
  /-- A name is held if an entry has it. -/
  | contains (name : String) :
    Answers file entries (.contains name) (.held (decide (name ∈ entries.map Prod.fst)))
  /-- What the file has under a name is found. -/
  | get {name : String} {found : Option Sprite} (finds : Finds file entries name (.ok found)) :
    Answers file entries (.get name) (.sprite found)
  /-- What the file has under a name is cut short. -/
  | getRefused {name : String} {fault : AssetFault}
      (finds : Finds file entries name (.error fault)) :
    Answers file entries (.get name) (.refused (.asset fault))
  /-- Every name has its sprite. -/
  | loadAll {set : SpriteSet} (names : set.names = (entries.map Prod.fst).eraseDups)
      (finds : ∀ name sprite, (name, sprite) ∈ set.entries →
        Finds file entries name (.ok (some sprite))) :
    Answers file entries .loadAll (.sprites set)
  /-- The first name whose sprite is cut short is reported. -/
  | loadAllRefused {front back : List String} {name : String} {fault : AssetFault}
      (names : (entries.map Prod.fst).eraseDups = front ++ name :: back)
      (before : ∀ other ∈ front, ∃ sprite, Finds file entries other (.ok (some sprite)))
      (finds : Finds file entries name (.error fault)) :
    Answers file entries .loadAll (.refused (.asset fault))

/-- A reader of a file answers as the file does. -/
theorem Reader.answers_ofLayout (file : List UInt8) (entries : List (String × Entry))
    (call : Session.Call) : Answers file entries call ((ofLayout file entries).answer call) := by
  have names : (ofLayout file entries).index.names = (entries.map Prod.fst).eraseDups :=
    NameTable.names_ofList entries
  cases call with
  | names =>
    rw [answer, Reader.names, names]
    exact .names
  | contains name =>
    have held : (ofLayout file entries).contains name = decide (name ∈ entries.map Prod.fst) := by
      rw [Reader.contains, NameTable.contains, names]
      simp
    rw [answer, held]
    exact .contains name
  | get name =>
    have finds := finds_get? file entries name
    rw [answer]
    generalize (ofLayout file entries).get? name = found at finds
    cases found with
    | ok found => exact .get finds
    | error fault => exact .getRefused finds
  | loadAll =>
    -- Loading by the entries of the index is looking up their names, which are distinct.
    have finds {name : String} {entry : Entry}
        (member : (name, entry) ∈ (ofLayout file entries).index.entries) :
        Finds file entries name (((ofLayout file entries).load name entry).map some) := by
      have found := finds_get? file entries name
      rw [Reader.get?, NameTable.get?_of_mem member] at found
      cases loaded : (ofLayout file entries).load name entry <;>
        (simp only [loaded] at found; exact found)
    rw [answer, loadAll]
    rcases loadInto_outcome (ofLayout file entries) .empty (ofLayout file entries).index.entries
        (ofLayout file entries).index.distinct with
      ⟨set, done, set_names, members⟩ |
        ⟨front, name, entry, back, fault, split, before, refused, done⟩
    · rw [done]
      refine .loadAll (set_names.trans names) fun name sprite member => ?_
      rcases members name sprite member with none | ⟨entry, listed, loaded⟩
      · contradiction
      · have found := finds listed
        rwa [loaded] at found
    · rw [done]
      have found := finds (split ▸ List.mem_append_right front List.mem_cons_self)
      rw [refused] at found
      have order : (entries.map Prod.fst).eraseDups =
          front.map Prod.fst ++ name :: back.map Prod.fst := by
        rw [← names, NameTable.names, split, List.map_append, List.map_cons]
      refine .loadAllRefused order (fun other member => ?_) found
      obtain ⟨earlier, listed, rfl⟩ := List.mem_map.mp member
      obtain ⟨sprite, loaded⟩ := before earlier listed
      have found := finds (split ▸ List.mem_append_left _ listed)
      rw [loaded] at found
      exact ⟨sprite, found⟩

/-- Opening and asking any file. A file opens exactly if it is well-formed, and one that does not
open is rejected for the first thing that is wrong with it. An opened file lists entries, and every
call is answered from the file and these entries, whatever has been asked before: a name of no entry
has no sprite, and any other name has the sprite of its last entry if the file has all its data, and
is refused as cut short if not. -/
theorem Session.exact_on_any_file (file : List UInt8) :
    ((∃ session, open? file = .ok session) ↔ WellFormed file) ∧
    (∀ fault, open? file = .error fault → Rejected file fault) ∧
    ∀ session, open? file = .ok session → ∃ entries, Layout file entries ∧
      ∀ (earlier : List Call) (call : Call),
        ((session.after earlier).call call).1 = (session.call call).1 ∧
          Answers file entries call ((session.after earlier).call call).1 := by
  have same := open?_reader file
  rcases Reader.open?_outcome file with ⟨entries, layout, opened⟩ | ⟨fault, rejected, refused⟩
  · cases found : open? file with
    | error fault =>
      rw [found, opened] at same
      contradiction
    | ok session =>
      rw [found, opened] at same
      have view : session.reader = .ofLayout file entries := Except.ok.inj same
      refine ⟨⟨fun _ => layout.wellFormed, fun _ => ⟨session, rfl⟩⟩, fun _ none => ?_,
        fun other same => ⟨entries, layout, fun earlier call => ?_⟩⟩
      · contradiction
      · cases same
        have fresh : (session.call call).1 = session.reader.answer call := (call_eq session call).1
        rw [call_after, fresh]
        refine ⟨rfl, ?_⟩
        rw [view]
        exact Reader.answers_ofLayout file entries call
  · cases found : open? file with
    | ok session =>
      rw [found, refused] at same
      contradiction
    | error other =>
      rw [found, refused] at same
      obtain rfl : other = fault := Except.error.inj same
      refine ⟨⟨fun opened => ?_, fun formed => absurd formed rejected.not_wellFormed⟩,
        fun same => ?_, fun session none => ?_⟩
      · obtain ⟨session, none⟩ := opened
        contradiction
      · intro again
        cases again
        exact rejected
      · contradiction

/-- A file of two entries with one name and of a single data byte, where the data of the second
entry would start behind the end, is asked for the name after it has been asked for all sprites. -/
theorem Session.exact_on_any_file_repeated_name :
    let repeated : Entry := { width := 8, height := 1, depth := .one, flags := 1, offset := 0 }
    let outside : Entry := { repeated with offset := 9 }
    let stored : List UInt8 := [0x61]
    let file := header 2 ++ repeated.encode stored ++ outside.encode stored ++ [0xA5]
    ∃ session entries, open? file = .ok session ∧ Layout file entries ∧
      Answers file entries (.get "a") ((session.after [.loadAll]).call (.get "a")).1 := by
  intro repeated outside stored file
  have names : ∀ place < entryCount file,
      Utf8.encode "a" = stripName (field (entryBytes file place) 0 nameSize) := by decide
  have headed : Headed file := by constructor <;> decide
  have formed : WellFormed file :=
    ⟨headed, by decide, fun place inside => ⟨"a", names place inside⟩⟩
  obtain ⟨opens, -, answers⟩ := exact_on_any_file file
  obtain ⟨session, opened⟩ := opens.mpr formed
  obtain ⟨entries, layout, answered⟩ := answers session opened
  exact ⟨session, entries, opened, layout, (answered [.loadAll] (.get "a")).2⟩

end SpriteText.Asset
