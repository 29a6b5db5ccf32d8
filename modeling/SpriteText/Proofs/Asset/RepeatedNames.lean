import SpriteText.Proofs.Asset.Rewritten

/-!
# Names that a file repeats

The size of a session is the number of entries that its file lists, and its names are those of the
entries, each once. So the size is the number of names exactly if no entry repeats the name of one
before it, and only then is every entry the one that is loaded for its name.
-/

namespace SpriteText.Asset

variable {file : List UInt8} {entries : List (String × Entry)} {session : Session}

/-- A table lists the names of some entries without repeating any. It has as many names as there are
entries exactly if the entries repeat none, too. -/
theorem size_ofList_eq_iff :
    (NameTable.ofList entries).size = entries.length ↔ (entries.map Prod.fst).Nodup := by
  have distinct : (NameTable.ofList entries).names.Nodup := (NameTable.ofList entries).distinct
  have same : ∀ name, name ∈ (NameTable.ofList entries).names ↔ name ∈ entries.map Prod.fst := by
    intro name
    rw [NameTable.names_ofList, List.mem_eraseDups]
  have size : (NameTable.ofList entries).names.length = (NameTable.ofList entries).size :=
    List.length_map _
  have count : (entries.map Prod.fst).length = entries.length := List.length_map _
  rw [← size, ← count]
  constructor
  · intro equal
    have within := distinct.subperm fun name => (same name).mp
    exact (within.perm_of_length_le equal.ge).nodup_iff.mp distinct
  · intro unrepeated
    exact ((List.perm_ext_iff_of_nodup distinct unrepeated).mpr same).length_eq

/-- An entry is the last of its name if no name is repeated. -/
theorem isLast_of_nodup {name : String} {entry : Entry}
    (distinct : (entries.map Prod.fst).Nodup) (member : (name, entry) ∈ entries) :
    IsLast entries name entry := by
  obtain ⟨front, back, rfl⟩ := List.append_of_mem member
  rw [List.map_append, List.map_cons] at distinct
  exact ⟨front, back, rfl, (List.nodup_cons.mp (List.nodup_append.mp distinct).2.1).1⟩

namespace Session

/-- What the index has under a name is loaded for the name. -/
theorem get?_of_index {name : String} {entry : Entry}
    (found : session.index.get? name = some entry) :
    (session.get? name).1 = (session.load name entry).1.map some := by
  rw [get?, found]
  dsimp only
  rcases session.load name entry with ⟨sprite | fault, next⟩ <;> rfl

/-- The size of a session is that of all it lists, and every entry that its file lists is loaded for
its name. -/
structure SizeAgrees (session : Session) (entries : List (String × Entry)) : Prop where
  /-- There are as many names. -/
  names : session.index.names.length = session.count
  /-- There are as many sprites, if all are loaded. -/
  loaded : ∀ set, session.loadAll.1 = .ok set → set.size = session.count
  /-- The name of every entry stands for this entry. -/
  reached : ∀ name entry, (name, entry) ∈ entries →
    (session.get? name).1 = (session.load name entry).1.map some

/-- The size of a session is the number of entries that its file lists, and its names are those of
the entries, each once. All sprites, if they can be loaded, have these names, and a name stands for
the last entry that has it. So the size agrees with the names and the sprites, and every entry is
loaded for its name, if the entries have distinct names; and the size is the number of names in no
other case. -/
theorem size_agrees_iff_distinct (opened : open? file = .ok session) :
    ∃ entries, Layout file entries ∧ session.count = entries.length ∧
      session.index.names = (entries.map Prod.fst).eraseDups ∧
      (∀ set, session.loadAll.1 = .ok set → set.names = session.index.names) ∧
      (∀ name entry, IsLast entries name entry →
        (session.get? name).1 = (session.load name entry).1.map some) ∧
      (session.SizeAgrees entries ↔ (entries.map Prod.fst).Nodup) := by
  obtain ⟨entries, layout, view⟩ := layout_of_open? opened
  have index : session.index = .ofList entries := congrArg Reader.index view
  have count : session.count = entries.length :=
    (congrArg Reader.count view).trans layout.counted.symm
  have names : session.index.names = (entries.map Prod.fst).eraseDups := by
    rw [index, NameTable.names_ofList]
  have loaded : ∀ set, session.loadAll.1 = .ok set → set.names = session.index.names := by
    intro set loaded
    cases answers_of_loadAll view loaded with
    | loadAll set_names => exact set_names.trans names.symm
  have last : ∀ name entry, IsLast entries name entry →
      (session.get? name).1 = (session.load name entry).1.map some := by
    intro name entry last
    refine get?_of_index ?_
    rw [index]
    exact get?_ofList_eq_some_iff.mpr last
  have size : session.index.names.length = session.count ↔ (entries.map Prod.fst).Nodup := by
    rw [index, count]
    exact Eq.congr_left (List.length_map _) |>.trans size_ofList_eq_iff
  refine ⟨entries, layout, count, names, loaded, last, ?_⟩
  constructor
  · intro agrees
    exact size.mp agrees.names
  · intro distinct
    refine ⟨size.mpr distinct, fun set all => ?_, fun name entry member => ?_⟩
    · rw [← size.mpr distinct, ← loaded set all]
      exact (List.length_map _).symm
    · exact last name entry (isLast_of_nodup distinct member)

/-- The size of a file of two entries, one with data that the file has not, agrees with its
names. -/
theorem size_agrees_iff_distinct_cut_data :
    let whole : Entry := { width := 1, height := 1, depth := .one, flags := 1, offset := 0 }
    let cut : Entry := { width := 9, height := 1, depth := .two, flags := 0, offset := 1 }
    let file := header 2 ++ whole.encode [0x61] ++ cut.encode [0x62] ++ [0x80]
    ∃ session entries, open? file = .ok session ∧ session.count = 2 ∧ Layout file entries ∧
      session.SizeAgrees entries := by
  intro whole cut file
  have read : (open? file).toOption.map (fun session => (session.count, session.index.names)) =
      some (2, ["a", "b"]) := by decide
  cases opened : open? file with
  | error fault =>
    rw [opened] at read
    contradiction
  | ok session =>
    rw [opened] at read
    obtain ⟨count, names⟩ := Prod.mk.inj (Option.some.inj read)
    obtain ⟨entries, layout, counted, listed, -, -, agrees⟩ := size_agrees_iff_distinct opened
    refine ⟨session, entries, rfl, count, layout, agrees.mpr (size_ofList_eq_iff.mp ?_)⟩
    have all : (NameTable.ofList entries).names = ["a", "b"] :=
      (NameTable.names_ofList entries).trans (listed.symm.trans names)
    rw [← counted, count]
    exact (List.length_map _).symm.trans (congrArg List.length all)

/-- A file of two entries with one name has the size two, but one name and one sprite. -/
theorem repeated_name_counts_twice :
    let first : Entry := { width := 1, height := 1, depth := .one, flags := 1, offset := 0 }
    let second : Entry := { width := 2, height := 1, depth := .one, flags := 1, offset := 1 }
    let file := header 2 ++ first.encode [0x61] ++ second.encode [0x61] ++ [0x80, 0x40]
    ∃ session set, open? file = .ok session ∧ session.count = 2 ∧
      session.index.names = ["a"] ∧ session.loadAll.1 = .ok set ∧ set.size = 1 := by
  intro first second file
  have read : (open? file).toOption.bind (fun session => session.loadAll.1.toOption.map
      fun set => (session.count, session.index.names, set.size)) = some (2, ["a"], 1) := by decide
  cases opened : open? file with
  | error fault =>
    rw [opened] at read
    contradiction
  | ok session =>
    cases loaded : session.loadAll.1 with
    | error fault => simp [opened, loaded, Except.toOption] at read
    | ok set =>
      simp only [opened, loaded, Except.toOption, Option.bind_some, Option.map_some,
        Option.some.injEq, Prod.mk.injEq] at read
      obtain ⟨count, names, size⟩ := read
      exact ⟨session, set, rfl, count, names, loaded, size⟩

end Session

end SpriteText.Asset
