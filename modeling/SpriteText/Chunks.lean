/-!
# Chunks

A list is cut into chunks of one length; only the last may be shorter, and none is empty.
-/

namespace SpriteText

variable {α : Type}

/-- The chunks of a list; there are none of length zero. -/
def chunks (length : Nat) (items : List α) : List (List α) :=
  if length = 0 ∨ items = [] then []
  else items.take length :: chunks length (items.drop length)
termination_by items.length
decreasing_by
  rename_i possible
  have some_item : 0 < items.length := List.length_pos_iff.mpr fun none => possible (.inr none)
  have some_length : 0 < length := Nat.pos_of_ne_zero fun none => possible (.inl none)
  rw [List.length_drop]
  omega

/-- An empty list has no chunk. -/
@[simp] theorem chunks_nil (length : Nat) : chunks length ([] : List α) = [] := by
  rw [chunks]
  simp

/-- A list that is not empty starts with its first chunk. -/
theorem chunks_of_ne_nil {length : Nat} {items : List α} (some_length : length ≠ 0)
    (some_item : items ≠ []) :
    chunks length items = items.take length :: chunks length (items.drop length) := by
  rw [chunks]
  simp [some_length, some_item]

/-! ## Wrapped lists -/

variable {length : Nat} {row items : List α} {rows : List (List α)}

/-- Rows hold the items of a list, a fixed number in each row but the last. -/
structure Wrapped (length : Nat) (items : List α) (rows : List (List α)) : Prop where
  /-- The rows hold the items one after the other, each of them once. -/
  whole : rows.flatten = items
  /-- Every row but the last is full. -/
  full : ∀ row ∈ rows.dropLast, row.length = length
  /-- The last row has an item, and no more than fit. -/
  last : ∀ row ∈ rows.getLast?, 1 ≤ row.length ∧ row.length ≤ length

/-- No items need no row. -/
theorem Wrapped.nil : Wrapped length ([] : List α) [] :=
  ⟨rfl, List.forall_mem_nil _, fun _ held => nomatch held⟩

/-- Items that fit are wrapped in one row. -/
theorem Wrapped.single (some_item : items ≠ []) (fits : items.length ≤ length) :
    Wrapped length items [items] := by
  refine ⟨List.flatten_singleton, List.forall_mem_nil _, fun row held => ?_⟩
  cases held
  exact ⟨List.length_pos_iff.mpr some_item, fits⟩

/-- A full row goes before rows that hold the other items. -/
theorem Wrapped.cons (wrapped : Wrapped length items rows) (some_item : items ≠ [])
    (full : row.length = length) : Wrapped length (row ++ items) (row :: rows) := by
  have some_row : rows ≠ [] := by
    rintro rfl
    exact some_item wrapped.whole.symm
  constructor
  case whole => rw [List.flatten_cons, wrapped.whole]
  case full =>
    rw [List.dropLast_cons_of_ne_nil some_row]
    exact List.forall_mem_cons.mpr ⟨full, wrapped.full⟩
  case last =>
    rw [List.getLast?_cons_of_ne_nil some_row]
    exact wrapped.last

/-- No row is empty. -/
theorem Wrapped.ne_nil (wrapped : Wrapped length items rows) (some_length : length ≠ 0)
    (held : row ∈ rows) : row ≠ [] := by
  rw [← List.length_pos_iff]
  obtain ⟨front, last, split⟩ := (List.eq_nil_or_concat rows).resolve_left (List.ne_nil_of_mem held)
  rw [List.concat_eq_append] at split
  subst split
  rcases List.mem_append.mp held with before | final
  · have full := wrapped.full row (by rwa [List.dropLast_concat])
    omega
  · rw [List.mem_singleton.mp final]
    exact (wrapped.last last List.getLast?_concat).1

/-- Nothing is lost and nothing is moved in chunks, and all of them but the last are full. -/
theorem wrapped_chunks (some_length : length ≠ 0) (items : List α) :
    Wrapped length items (chunks length items) := by
  by_cases empty : items = []
  · rw [empty, chunks_nil]
    exact .nil
  rw [chunks_of_ne_nil some_length empty]
  by_cases fits : items.length ≤ length
  · rw [List.take_of_length_le fits, List.drop_eq_nil_of_le fits, chunks_nil]
    exact .single empty fits
  · have some_left : items.drop length ≠ [] := by
      rw [← List.length_pos_iff, List.length_drop]
      omega
    have first : (items.take length).length = length := by
      rw [List.length_take]
      omega
    have wrapped := (wrapped_chunks some_length (items.drop length)).cons some_left first
    rwa [List.take_append_drop] at wrapped
termination_by items.length
decreasing_by
  rw [List.length_drop]
  omega

end SpriteText
