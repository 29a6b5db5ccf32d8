import Mathlib.Data.List.Induction
import SpriteText.NameTable

/-!
# What tables by name hold

A value put into a table is found under its name, and no other name is touched. Values put in one
after the other leave the last one under each name, and the names in the order in which they first
came.
-/

namespace SpriteText.NameTable

variable {Value : Type} {table : NameTable Value} {name : String}

/-- Two tables with the same entries are the same. -/
theorem ext_entries {table other : NameTable Value} (same : table.entries = other.entries) :
    table = other := by
  cases table
  cases other
  cases same
  rfl

/-- A new name is put at the end. -/
theorem entries_insert_of_not_mem (absent : name ∉ table.entries.map Prod.fst) (value : Value) :
    (table.insert name value).entries = table.entries ++ [(name, value)] := by
  rw [insert, dif_neg absent]

/-- A name does not stand in front of itself. -/
theorem not_mem_of_nodup {front back : List (String × Value)} {value : Value}
    (distinct : ((front ++ (name, value) :: back).map Prod.fst).Nodup) :
    name ∉ front.map Prod.fst := by
  rw [List.map_append, List.map_cons, List.nodup_append] at distinct
  intro member
  exact distinct.2.2 name member name List.mem_cons_self rfl

/-- A value is found under its name. -/
theorem get?_of_mem {value : Value} (member : (name, value) ∈ table.entries) :
    table.get? name = some value := by
  obtain ⟨front, back, split⟩ := List.append_of_mem member
  have distinct := table.distinct
  rw [split] at distinct
  rw [get?, List.lookup_eq_some_iff]
  refine ⟨front, back, split, fun entry before => bne_iff_ne.mpr ?_⟩
  rintro rfl
  exact not_mem_of_nodup distinct (List.mem_map_of_mem before)

/-- A name is held exactly when it has a value. -/
theorem lookup_isSome_iff {entries : List (String × Value)} :
    (entries.lookup name).isSome = true ↔ name ∈ entries.map Prod.fst := by
  rw [List.lookup_isSome_iff, List.mem_map]
  constructor
  · rintro ⟨entry, member, same⟩
    exact ⟨entry, member, (beq_iff_eq.mp same).symm⟩
  · rintro ⟨entry, member, same⟩
    exact ⟨entry, member, beq_iff_eq.mpr same.symm⟩

/-- Replacing a value changes what is found under its name, if the name is held. -/
theorem lookup_replaced (entries : List (String × Value)) (name other : String) (value : Value) :
    (replaced entries name value).lookup other =
      if other = name then (entries.lookup other).map fun _ => value else entries.lookup other := by
  induction entries with
  | nil => simp [replaced]
  | cons entry entries ih =>
    rw [replaced] at ih
    rw [replaced, List.map_cons, List.lookup_cons, List.lookup_cons, ih]
    by_cases same : other = name
    · subst same
      by_cases first : entry.1 = other
      · simp [first]
      · have later : (other == entry.1) = false := beq_eq_false_iff_ne.mpr (Ne.symm first)
        simp [first, later]
    · by_cases first : entry.1 = name
      · have past : (other == name) = false := beq_eq_false_iff_ne.mpr same
        simp [first, same, past]
      · simp [first, same]

/-- The value put under a name is found under it, and under no other name. -/
theorem get?_insert (table : NameTable Value) (name other : String) (value : Value) :
    (table.insert name value).get? other =
      if other = name then some value else table.get? other := by
  unfold insert get?
  split
  · rename_i held
    rw [lookup_replaced]
    by_cases same : other = name
    · subst same
      obtain ⟨old, found⟩ := Option.isSome_iff_exists.mp (lookup_isSome_iff.mpr held)
      rw [if_pos rfl, if_pos rfl, found, Option.map_some]
    · rw [if_neg same, if_neg same]
  · rename_i absent
    rw [List.lookup_append]
    by_cases same : other = name
    · subst same
      have none_found : table.entries.lookup other = none := by
        rw [← Option.not_isSome_iff_eq_none, lookup_isSome_iff]
        exact absent
      simp [none_found]
    · have past : (other == name) = false := beq_eq_false_iff_ne.mpr same
      simp [List.lookup_cons, past, same]

/-- A name that is held keeps its place, and a new one is put at the end. -/
theorem names_insert (table : NameTable Value) (name : String) (value : Value) :
    (table.insert name value).names =
      if name ∈ table.names then table.names else table.names ++ [name] := by
  unfold insert names
  split
  · exact names_replaced table.entries name value
  · rw [List.map_append]
    rfl

/-- A further value is put into the table of the values before it. -/
theorem ofList_concat (entries : List (String × Value)) (entry : String × Value) :
    ofList (entries ++ [entry]) = (ofList entries).insert entry.1 entry.2 := by
  rw [ofList, List.foldl_append]
  rfl

/-- The last value put under a name is found. -/
theorem get?_ofList (entries : List (String × Value)) (name : String) :
    (ofList entries).get? name = entries.reverse.lookup name := by
  induction entries using List.reverseRecOn with
  | nil => rfl
  | append_singleton entries entry ih =>
    rw [ofList_concat, get?_insert, ih, List.reverse_append, List.reverse_singleton,
      List.singleton_append, List.lookup_cons]
    by_cases same : name = entry.1
    · rw [if_pos same, beq_iff_eq.mpr same]
    · rw [if_neg same, beq_eq_false_iff_ne.mpr same]

/-- The names stand in the order in which they first came. -/
theorem names_ofList (entries : List (String × Value)) :
    (ofList entries).names = (entries.map Prod.fst).eraseDups := by
  induction entries using List.reverseRecOn with
  | nil => rfl
  | append_singleton entries entry ih =>
    rw [ofList_concat, names_insert, ih, List.map_append, List.map_singleton,
      List.eraseDups_append]
    by_cases held : entry.1 ∈ entries.map Prod.fst
    · rw [if_pos (List.mem_eraseDups.mpr held)]
      simp [List.removeAll, held]
    · rw [if_neg (mt List.mem_eraseDups.mp held)]
      simp [List.removeAll, held, List.eraseDups_cons]

end SpriteText.NameTable
