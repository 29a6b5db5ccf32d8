import Mathlib.Data.List.Perm.Subperm
import SpriteText.Proofs.Asset.AnyFile
import SpriteText.Proofs.Asset.Encoded

/-!
# What is read can be written

An index is read from fields of fixed width, so whatever bytes it is read from, its entries fit
their fields (`Spells.fits`). The sprites that a session loads have the shapes of entries and
distinct names of entries, so the layout can hold them all, if only the positions of their data
take four bytes once the data is written without gaps and overlaps.
-/

namespace SpriteText

namespace Asset

variable {file bytes : List UInt8} {entries : List (String × Entry)} {name : String}
  {entry : Entry} {session : Session} {set : SpriteSet}

/-! ## Entries that are read -/

/-- An entry that bytes spell fits its fields. -/
theorem Spells.fits (spells : Spells bytes name entry) : entry.Fits name := by
  constructor
  case few =>
    rw [spells.name]
    exact (length_stripName_le _).trans (List.length_take_le _ _)
  case ending =>
    intro null
    have zero := Utf8.getLast?_encode_of_null null
    rw [spells.name] at zero
    exact getLast?_stripName_ne_zero _ zero
  case width =>
    rw [spells.width]
    exact Nat.le_of_lt_succ (read_field_lt bytes 16 2)
  case height =>
    rw [spells.height]
    exact Nat.le_of_lt_succ (read_field_lt bytes 18 2)
  case offset =>
    rw [spells.offset]
    exact Nat.le_of_lt_succ (read_field_lt bytes 22 4)

/-- Every entry of a file fits its fields. -/
theorem Layout.fits (layout : Layout file entries) (member : (name, entry) ∈ entries) :
    entry.Fits name := by
  obtain ⟨place, inside, same⟩ := List.getElem_of_mem member
  have spells := layout.spelled place inside
  rw [same] at spells
  exact spells.fits

/-- The entries of a file can be counted in two bytes. -/
theorem Layout.few (layout : Layout file entries) : entries.length ≤ 0xFFFF := by
  rw [layout.counted]
  exact Nat.le_of_lt_succ (read_field_lt file 4 2)

/-! ## Sprites that are loaded -/

/-- A loaded sprite has the shape of an entry of its name. -/
theorem Finds.exists_entry {sprite : Sprite} (finds : Finds file entries name (.ok (some sprite))) :
    ∃ entry, (name, entry) ∈ entries ∧ sprite.width = entry.width ∧
      sprite.height = entry.height := by
  cases finds with
  | sprite last reaches shows =>
    obtain ⟨front, back, split, -⟩ := last
    refine ⟨_, ?_, shows.width, shows.height⟩
    rw [split]
    exact List.mem_append_right front List.mem_cons_self

/-- The data of some sprites is as long as that of each taken together. -/
theorem length_dataOf (sprites : List (String × Sprite)) :
    (dataOf sprites).length = ((sprites.map Prod.snd).map Sprite.byteCount).sum := by
  simp [dataOf, List.length_flatMap, Sprite.byteCount, Function.comp_def]

/-- What is loaded from a file fits the layout, if the positions of its data do. -/
theorem storable_of_finds (layout : Layout file entries)
    (names : set.names = (entries.map Prod.fst).eraseDups)
    (finds : ∀ name sprite, (name, sprite) ∈ set.entries →
      Finds file entries name (.ok (some sprite)))
    (reach : (set.values.dropLast.map Sprite.byteCount).sum < 2 ^ 32) : Storable set := by
  constructor
  case few =>
    -- The names are distinct and all of them are names of entries.
    have among : set.names ⊆ entries.map Prod.fst := by
      intro name member
      rw [names, List.mem_eraseDups] at member
      exact member
    calc
      set.size = set.names.length := (List.length_map _).symm
      _ ≤ (entries.map Prod.fst).length := (set.distinct.subperm among).length_le
      _ = entries.length := List.length_map _
      _ ≤ 0xFFFF := layout.few
  case names =>
    intro name member
    obtain ⟨⟨_, sprite⟩, held, rfl⟩ := List.mem_map.mp member
    obtain ⟨entry, listed, -⟩ := (finds _ _ held).exists_entry
    exact (layout.fits listed).few
  case endings =>
    intro name member
    obtain ⟨⟨_, sprite⟩, held, rfl⟩ := List.mem_map.mp member
    obtain ⟨entry, listed, -⟩ := (finds _ _ held).exists_entry
    exact (layout.fits listed).ending
  case sides =>
    intro sprite member
    obtain ⟨⟨name, _⟩, held, rfl⟩ := List.mem_map.mp member
    obtain ⟨entry, listed, width, height⟩ := (finds _ _ held).exists_entry
    rw [width, height]
    exact ⟨(layout.fits listed).width, (layout.fits listed).height⟩
  case reach =>
    rw [length_dataOf, List.map_dropLast]
    exact reach

namespace Session

/-- An open session is the reader of a file that is laid out as an asset. -/
theorem layout_of_open? (opened : open? file = .ok session) :
    ∃ entries, Layout file entries ∧ session.reader = .ofLayout file entries := by
  have same := open?_reader file
  rw [opened] at same
  rcases Reader.open?_outcome file with ⟨entries, layout, view⟩ | ⟨fault, -, refused⟩
  · rw [view] at same
    exact ⟨entries, layout, Except.ok.inj same⟩
  · rw [refused] at same
    contradiction

/-- What a session loads is what its file answers. -/
theorem answers_of_loadAll (view : session.reader = .ofLayout file entries)
    (loaded : session.loadAll.1 = .ok set) : Answers file entries .loadAll (.sprites set) := by
  have answer : (session.call .loadAll).1 = .sprites set := by
    rw [call]
    generalize session.loadAll = outcome at loaded
    obtain ⟨found, next⟩ := outcome
    cases loaded
    rfl
  rw [(session.call_eq .loadAll).1, view] at answer
  rw [← answer]
  exact Reader.answers_ofLayout file entries .loadAll

/-- What a session loads fits the layout, if the positions of its data do. -/
theorem storable_of_loadAll (opened : open? file = .ok session)
    (loaded : session.loadAll.1 = .ok set)
    (reach : (set.values.dropLast.map Sprite.byteCount).sum < 2 ^ 32) : Storable set := by
  obtain ⟨entries, layout, view⟩ := layout_of_open? opened
  cases answers_of_loadAll view loaded with
  | loadAll names finds => exact storable_of_finds layout names finds reach

/-- Writing what has been read. Whatever sprites a session loads from any file can be written, if
all of their data but that of the last takes less than 2 ^ 32 bytes, and a session on what is
written loads the same sprites under the same names in the same order. The file may list a name more
than once, share data between entries, leave gaps, set flags and reserved bytes and go on behind
its data. -/
theorem write_of_read (opened : open? file = .ok session) (loaded : session.loadAll.1 = .ok set)
    (reach : (set.values.dropLast.map Sprite.byteCount).sum < 2 ^ 32) :
    ∃ bytes again, encode set.entries = .ok bytes ∧ open? bytes = .ok again ∧
      again.loadAll.1 = .ok set := by
  have storable : Storable set := storable_of_loadAll opened loaded reach
  exact session_of_storable storable

/-- A file with unknown flags, reserved bytes and bytes behind its data lists a name twice, the
first time with data that the file has not, and two names with the same data. -/
theorem write_of_read_shared_data :
    let outside : Entry := { width := 9, height := 1, depth := .two, flags := 0, offset := 70 }
    let shared : Entry := { width := 3, height := 1, depth := .one, flags := 0xFE, offset := 1 }
    let file := mark ++ [version, 7, 3, 0, 8, 9] ++ outside.encode [0x61] ++
      shared.encode [0x62] ++ shared.encode [0x61] ++ [0xA5, 0xFD, 0x00]
    let sprite : Sprite := ⟨3, 1, .one, #[0xFD], false, by decide, by decide⟩
    ∃ session set bytes again, open? file = .ok session ∧ session.loadAll.1 = .ok set ∧
      set.entries = [("a", sprite), ("b", sprite)] ∧ encode set.entries = .ok bytes ∧
      open? bytes = .ok again ∧ again.loadAll.1 = .ok set := by
  intro outside shared file sprite
  have entries : ((open? file).toOption.bind fun session =>
      session.loadAll.1.toOption.map NameTable.entries) =
        some [("a", sprite), ("b", sprite)] := by decide
  cases opened : open? file with
  | error fault =>
    rw [opened] at entries
    contradiction
  | ok session =>
    cases loaded : session.loadAll.1 with
    | error fault =>
      simp [opened, loaded, Except.toOption] at entries
    | ok set =>
      have entries : set.entries = [("a", sprite), ("b", sprite)] := by
        simpa [opened, loaded, Except.toOption] using entries
      have reach : (set.values.dropLast.map Sprite.byteCount).sum < 2 ^ 32 := by
        rw [NameTable.values, entries]
        decide
      obtain ⟨bytes, again, written, reopened, reloaded⟩ := write_of_read opened loaded reach
      exact ⟨session, set, bytes, again, rfl, loaded, entries, written, reopened, reloaded⟩

end Session

end Asset

end SpriteText
