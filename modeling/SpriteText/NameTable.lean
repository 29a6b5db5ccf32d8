import SpriteText.Sprite

/-!
# Tables by name

A table holds values under distinct names, in the order in which the names came first. A value put
under a name that is held takes the place of the old one. A sprite set is a table of sprites.
-/

namespace SpriteText

/-- Values under distinct names, in order. -/
structure NameTable (Value : Type) where
  /-- Names with their values. -/
  entries : List (String × Value)
  /-- No name is held twice. -/
  distinct : (entries.map Prod.fst).Nodup

namespace NameTable

variable {Value : Type}

/-- The table without names. -/
def empty : NameTable Value := ⟨[], by simp⟩

/-- The names in order. -/
def names (table : NameTable Value) : List String := table.entries.map Prod.fst

/-- The values in order. -/
def values (table : NameTable Value) : List Value := table.entries.map Prod.snd

/-- The number of names. -/
def size (table : NameTable Value) : Nat := table.entries.length

/-- Whether a name is held. -/
def contains (table : NameTable Value) (name : String) : Bool := table.names.contains name

/-- The value under a name. -/
def get? (table : NameTable Value) (name : String) : Option Value := table.entries.lookup name

/-- The entries with one value replaced. -/
def replaced (entries : List (String × Value)) (name : String) (value : Value) :
    List (String × Value) :=
  entries.map fun entry => if entry.1 = name then (name, value) else entry

/-- Replacing a value keeps every name in its position. -/
theorem names_replaced (entries : List (String × Value)) (name : String) (value : Value) :
    (replaced entries name value).map Prod.fst = entries.map Prod.fst := by
  induction entries with
  | nil => rfl
  | cons entry rest ih =>
    simp only [replaced, List.map_cons, List.cons.injEq] at ih ⊢
    refine ⟨?_, ih⟩
    split
    · rename_i same; exact same.symm
    · rfl

/-- Puts a value under a name: in place if the name is held, at the end if not. -/
def insert (table : NameTable Value) (name : String) (value : Value) : NameTable Value :=
  if held : name ∈ table.entries.map Prod.fst then
    ⟨replaced table.entries name value, by rw [names_replaced]; exact table.distinct⟩
  else
    ⟨table.entries ++ [(name, value)], by
      rw [List.map_append, List.nodup_append]
      refine ⟨table.distinct, by simp, ?_⟩
      intro known member other single
      simp only [List.map_cons, List.map_nil, List.mem_singleton] at single
      rintro rfl
      exact held (single ▸ member)⟩

/-- Puts values under names, one after the other. -/
def ofList (entries : List (String × Value)) : NameTable Value :=
  entries.foldl (fun table entry => table.insert entry.1 entry.2) empty

end NameTable

/-- Sprites under distinct names, in order. -/
abbrev SpriteSet := NameTable Sprite

end SpriteText
