import SpriteText.Proofs.Asset.Entries
import SpriteText.Proofs.NameTable

/-!
# Opening any bytes

Any bytes are looked at field by field: an entry is read if its bytes spell one (`Spells`), an index
if it lists entries one after the other (`Lists`), and a file opens as an asset of the entries that
it is laid out for (`Layout`). A file that does not open is rejected for the first thing that is
wrong with it (`Rejected`).
-/

namespace SpriteText

namespace Asset

/-- A field of what follows some bytes is a field behind them. -/
theorem field_drop (bytes : List UInt8) (before position length : Nat) :
    field (bytes.drop before) position length = field bytes (before + position) length := by
  rw [field, field, List.drop_drop]

/-! ## Entries -/

/-- The bytes of an entry spell a name and what the entry says of its sprite. -/
structure Spells (bytes : List UInt8) (name : String) (entry : Entry) : Prop where
  /-- The name is encoded in the first field, without the zeros at its end. -/
  name : Utf8.encode name = stripName (field bytes 0 nameSize)
  /-- The width is in two bytes. -/
  width : entry.width = LittleEndian.read (field bytes 16 2)
  /-- The height is in two bytes. -/
  height : entry.height = LittleEndian.read (field bytes 18 2)
  /-- The bit count is that of a depth. -/
  depth : (bytes.getD 20 0).toNat = entry.depth.bits
  /-- The flags are in one byte. -/
  flags : entry.flags = bytes.getD 21 0
  /-- The position is in four bytes. -/
  offset : entry.offset = LittleEndian.read (field bytes 22 4)

/-- Why the bytes of an entry spell none; the bit count comes before the name. -/
inductive Misspells (bytes : List UInt8) : AssetFault → Prop
  /-- The bit count is no depth. -/
  | depth (unknown : ∀ depth : BitDepth, (bytes.getD 20 0).toNat ≠ depth.bits) :
    Misspells bytes (.unknownDepth (bytes.getD 20 0))
  /-- The name is no text. -/
  | name {depth : BitDepth} (known : (bytes.getD 20 0).toNat = depth.bits)
      (malformed : ∀ text, Utf8.encode text ≠ stripName (field bytes 0 nameSize))
      {found : Utf8.Malformed}
      (reported : Utf8.decode (stripName (field bytes 0 nameSize)) = .error found) :
    Misspells bytes (.malformedName found)

variable {bytes : List UInt8} {name : String} {entry : Entry} {fault : AssetFault}

/-- An entry is read as what its bytes spell, or refused because they spell none. -/
theorem readEntry_outcome (bytes : List UInt8) :
    (∃ name entry, Spells bytes name entry ∧ readEntry bytes = .ok (name, entry)) ∨
      ∃ fault, Misspells bytes fault ∧ readEntry bytes = .error fault := by
  cases bits : BitDepth.ofInt? (bytes.getD 20 0).toNat with
  | none =>
    refine .inr ⟨_, .depth fun depth same => ?_, by simp only [readEntry, bits]⟩
    rw [same, BitDepth.ofInt?_bits] at bits
    contradiction
  | some depth =>
    have known : (bytes.getD 20 0).toNat = depth.bits := by
      exact_mod_cast BitDepth.ofInt?_eq_some_iff.mp bits
    cases text : Utf8.decode (stripName (field bytes 0 nameSize)) with
    | ok name =>
      let entry : Entry := {
        width := LittleEndian.read (field bytes 16 2)
        height := LittleEndian.read (field bytes 18 2)
        depth
        flags := bytes.getD 21 0
        offset := LittleEndian.read (field bytes 22 4) }
      have spells : Spells bytes name entry :=
        ⟨Utf8.decode_eq_ok_iff.mp text, rfl, rfl, known, rfl, rfl⟩
      exact .inl ⟨name, entry, spells, by simp only [readEntry, bits, text, entry]⟩
    | error found =>
      refine .inr ⟨_, .name known (fun other same => ?_) text, by simp only [readEntry, bits, text]⟩
      rw [Utf8.decode_eq_ok_iff.mpr same] at text
      contradiction

/-! ## Indexes -/

/-- The front of some bytes lists entries one after the other. -/
def Lists (bytes : List UInt8) (entries : List (String × Entry)) : Prop :=
  ∀ (i : Nat) (inside : i < entries.length),
    Spells (field bytes (i * entrySize) entrySize) entries[i].1 entries[i].2

/-- The first entry of an index. -/
theorem field_first (bytes : List UInt8) :
    field bytes (0 * entrySize) entrySize = bytes.take entrySize := by
  rw [field, Nat.zero_mul, List.drop_zero]

/-- The entries of an index behind the first. -/
theorem field_next (bytes : List UInt8) (i : Nat) :
    field (bytes.drop entrySize) (i * entrySize) entrySize =
      field bytes ((i + 1) * entrySize) entrySize := by
  rw [field_drop, Nat.add_comm, ← Nat.succ_mul]

/-- A list of entries starts with the first one and goes on behind it. -/
theorem lists_cons_iff {entries : List (String × Entry)} :
    Lists bytes ((name, entry) :: entries) ↔
      Spells (bytes.take entrySize) name entry ∧ Lists (bytes.drop entrySize) entries := by
  constructor
  · intro lists
    refine ⟨field_first bytes ▸ lists 0 (Nat.zero_lt_succ _), fun i inside => ?_⟩
    rw [field_next]
    exact lists (i + 1) (Nat.succ_lt_succ inside)
  · rintro ⟨spells, lists⟩ i inside
    cases i with
    | zero =>
      rw [field_first]
      exact spells
    | succ i =>
      rw [← field_next]
      exact lists i (Nat.lt_of_succ_lt_succ inside)

/-- The entry at a place of an index is the first that spells none. -/
structure FirstWrong (bytes : List UInt8) (place : Nat) (fault : AssetFault) : Prop where
  /-- It spells none. -/
  wrong : Misspells (field bytes (place * entrySize) entrySize) fault
  /-- All entries before it are spelled. -/
  before : ∀ i < place, ∃ name entry, Spells (field bytes (i * entrySize) entrySize) name entry

/-- Behind an entry that is spelled, the first wrong entry is one place further. -/
theorem FirstWrong.behind {place : Nat} (first : Spells (bytes.take entrySize) name entry)
    (wrong : FirstWrong (bytes.drop entrySize) place fault) :
    FirstWrong bytes (place + 1) fault := by
  refine ⟨field_next bytes place ▸ wrong.wrong, fun i inside => ?_⟩
  cases i with
  | zero =>
    rw [field_first]
    exact ⟨name, entry, first⟩
  | succ i =>
    rw [← field_next]
    exact wrong.before i (Nat.lt_of_succ_lt_succ inside)

/-- An index is read as the entries that it lists, or refused for its first wrong entry. -/
theorem readIndex_outcome (table : NameTable Entry) (count : Nat) (bytes : List UInt8) :
    (∃ entries, entries.length = count ∧ Lists bytes entries ∧
      readIndex table count bytes =
        .ok (entries.foldl (fun table entry => table.insert entry.1 entry.2) table)) ∨
      ∃ place < count, ∃ fault, FirstWrong bytes place fault ∧
        readIndex table count bytes = .error fault := by
  induction count generalizing table bytes with
  | zero => exact .inl ⟨[], rfl, fun i inside => absurd inside (Nat.not_lt_zero i), rfl⟩
  | succ count ih =>
    rw [readIndex]
    rcases readEntry_outcome (bytes.take entrySize) with
      ⟨name, entry, spells, read⟩ | ⟨fault, wrong, refused⟩
    · rw [read]
      rcases ih (table.insert name entry) (bytes.drop entrySize) with
        ⟨entries, length, lists, done⟩ | ⟨place, inside, fault, wrong, refused⟩
      · refine .inl ⟨(name, entry) :: entries, congrArg (· + 1) length, ?_, done⟩
        exact lists_cons_iff.mpr ⟨spells, lists⟩
      · exact .inr ⟨place + 1, Nat.succ_lt_succ inside, fault, wrong.behind spells, refused⟩
    · rw [refused]
      refine .inr ⟨0, Nat.zero_lt_succ count, fault, ⟨?_, fun i none => ?_⟩, rfl⟩
      · rwa [field_first]
      · exact absurd none (Nat.not_lt_zero i)

/-- Only the entries of an index are read of the bytes that hold it. -/
theorem readIndex_take (table : NameTable Entry) (count : Nat) (bytes : List UInt8) :
    readIndex table count (bytes.take (count * entrySize)) = readIndex table count bytes := by
  induction count generalizing table bytes with
  | zero => rfl
  | succ count ih =>
    have first : (bytes.take ((count + 1) * entrySize)).take entrySize = bytes.take entrySize := by
      rw [List.take_take, Nat.succ_mul, Nat.min_eq_left (Nat.le_add_left _ _)]
    have others : (bytes.take ((count + 1) * entrySize)).drop entrySize =
        (bytes.drop entrySize).take (count * entrySize) := by
      rw [List.drop_take, Nat.succ_mul, Nat.add_sub_cancel]
    simp only [readIndex, first, others, ih]

/-! ## Files -/

/-- The number of entries that the header of a file tells. -/
def entryCount (file : List UInt8) : Nat := LittleEndian.read (field file 4 2)

/-- The bytes of an entry of a file. -/
def entryBytes (file : List UInt8) (place : Nat) : List UInt8 :=
  field file (headerSize + place * entrySize) entrySize

/-- The position in a file where its data section starts. -/
def dataStart (file : List UInt8) : Nat := headerSize + entryCount file * entrySize

/-- A file starts with a header and with as many bytes of an index as the header asks for. -/
structure Headed (file : List UInt8) : Prop where
  /-- There are the bytes of a header. -/
  header : headerSize ≤ file.length
  /-- It starts with the mark. -/
  marked : file.take 2 = mark
  /-- Its version is the one that is known. -/
  versioned : file.getD 2 0 = version
  /-- There are the bytes of an index. -/
  indexed : dataStart file ≤ file.length

/-- A file is laid out as an asset of entries. -/
structure Layout (file : List UInt8) (entries : List (String × Entry)) : Prop extends
    Headed file where
  /-- The header tells the number of the entries. -/
  counted : entries.length = entryCount file
  /-- The bytes of every entry spell it. -/
  spelled : ∀ (i : Nat) (inside : i < entries.length),
    Spells (entryBytes file i) entries[i].1 entries[i].2

/-- Why a file is no asset; what stands first in the file comes first. -/
inductive Rejected (file : List UInt8) : AssetFault → Prop
  /-- It is too short for a header, or it has another mark. -/
  | notAnAsset (unmarked : file.length < headerSize ∨ file.take 2 ≠ mark) :
    Rejected file .notAnAsset
  /-- It has another version. -/
  | version (header : headerSize ≤ file.length) (marked : file.take 2 = mark)
      (unknown : file.getD 2 0 ≠ version) :
    Rejected file (.version (file.getD 2 0))
  /-- It ends within the index. -/
  | truncatedIndex (header : headerSize ≤ file.length) (marked : file.take 2 = mark)
      (versioned : file.getD 2 0 = Asset.version) (short : file.length < dataStart file) :
    Rejected file .truncatedIndex
  /-- An entry is wrong, and none before it. -/
  | entry (headed : Headed file) {place : Nat} (inside : place < entryCount file)
      {fault : AssetFault} (wrong : Misspells (entryBytes file place) fault)
      (before : ∀ i < place, ∃ name entry, Spells (entryBytes file i) name entry) :
    Rejected file fault

variable {file : List UInt8} {entries : List (String × Entry)}

/-- The bytes of an entry stand in the index behind the header. -/
theorem field_index (file : List UInt8) (place : Nat) :
    field (file.drop headerSize) (place * entrySize) entrySize = entryBytes file place :=
  field_drop file headerSize (place * entrySize) entrySize

/-- The reader of a file that is laid out as an asset. -/
def Reader.ofLayout (file : List UInt8) (entries : List (String × Entry)) : Reader where
  count := entryCount file
  index := .ofList entries
  data := file.drop (dataStart file)

/-- A file opens as the asset of the entries that it is laid out for, or is rejected for the first
thing that is wrong with it. -/
theorem Reader.open?_outcome (file : List UInt8) :
    (∃ entries, Layout file entries ∧ Reader.open? file = .ok (.ofLayout file entries)) ∨
      ∃ fault, Rejected file fault ∧ Reader.open? file = .error fault := by
  unfold Reader.open?
  split
  · rename_i unmarked
    exact .inr ⟨_, .notAnAsset unmarked, rfl⟩
  rename_i marked
  obtain ⟨header, marked⟩ := not_or.mp marked
  have header : headerSize ≤ file.length := Nat.not_lt.mp header
  have marked : file.take 2 = mark := not_not.mp marked
  split
  · rename_i unknown
    exact .inr ⟨_, .version header marked unknown, rfl⟩
  rename_i versioned
  have versioned : file.getD 2 0 = version := not_not.mp versioned
  have size : (file.drop headerSize).length = file.length - headerSize := List.length_drop
  show (∃ entries, _ ∧ (if (file.drop headerSize).length < entryCount file * entrySize then _
    else _) = _) ∨ ∃ fault, _ ∧ (if (file.drop headerSize).length < entryCount file * entrySize
      then _ else _) = _
  split
  · rename_i short
    have short : file.length < dataStart file := by
      unfold dataStart
      omega
    exact .inr ⟨_, .truncatedIndex header marked versioned short, rfl⟩
  rename_i enough
  have indexed : dataStart file ≤ file.length := by
    unfold dataStart
    omega
  have headed : Headed file := ⟨header, marked, versioned, indexed⟩
  rcases readIndex_outcome .empty (entryCount file) (file.drop headerSize) with
    ⟨entries, counted, lists, read⟩ | ⟨place, inside, fault, wrong, refused⟩
  · have spelled (i : Nat) (inside : i < entries.length) := lists i inside
    simp only [field_index] at spelled
    refine .inl ⟨entries, ⟨headed, counted, spelled⟩, ?_⟩
    have data : (file.drop headerSize).drop (entryCount file * entrySize) =
        file.drop (dataStart file) := List.drop_drop
    simp only [entryCount] at read data
    rw [read, data]
    rfl
  · refine .inr ⟨fault, .entry headed inside (field_index file place ▸ wrong.wrong) ?_, ?_⟩
    · intro i inside
      exact field_index file i ▸ wrong.before i inside
    · simp only [entryCount] at refused
      rw [refused]

end Asset

end SpriteText
