import SpriteText.Proofs.Constants.Rebuilding

/-!
# Sets with the same module

What follows the import of a module is read as the definitions and the list, whatever stands in the
remark and whether or not the names can be bound. Its tokens are taken apart again, so the text of a
module belongs to one set of sprites.
-/

namespace SpriteText.Constants

open Sheet (Identifier)

variable {set other : SpriteSet} {sourceName : Option String}

/-! ## Definitions -/

/-- The digits of bytes belong to them alone. -/
theorem hexBytes_injective {bytes others : List UInt8}
    (same : Text.hexBytes bytes = Text.hexBytes others) : bytes = others := by
  have decoded := hexBytes?_hexBytes bytes
  rw [same, hexBytes?_hexBytes] at decoded
  exact (Option.some.inj decoded).symm

/-- The name of a depth belongs to it alone. -/
theorem label_injective {depth second : BitDepth} (same : depth.label = second.label) :
    depth = second := by
  cases depth <;> cases second <;> first | rfl | exact absurd same (by decide)

/-- A definition belongs to one name and one sprite. -/
theorem definitionOf_injective {entry second : String × Sprite}
    (same : definitionOf entry.1 entry.2 = definitionOf second.1 second.2) : entry = second := by
  obtain ⟨name, width, height, depth, data, tailAligned, size_data, aligned_of_full⟩ := entry
  obtain ⟨name', width', height', depth', data', tailAligned', size_data', aligned_of_full'⟩ :=
    second
  simp only [definitionOf, Definition.mk.injEq, Reference.mk.injEq, true_and] at same
  obtain ⟨rfl, digits, rfl, rfl, label, rfl⟩ := same
  obtain rfl := label_injective label
  obtain rfl : data = data' := Array.toList_inj.mp (hexBytes_injective digits)
  rfl

/-! ## Tokens -/

/-- The bracket that ends a definition is told from the option that may stand before it. -/
theorem option_append_injective {aligned aligned' : Bool} {rest others : List Token}
    (same : (if aligned then [] else [.word "tail_aligned", .equals, .word "False", .comma]) ++
        Token.closeRound :: rest =
      (if aligned' then [] else [.word "tail_aligned", .equals, .word "False", .comma]) ++
        Token.closeRound :: others) : aligned = aligned' ∧ rest = others := by
  cases aligned <;> cases aligned'
  case false.false => exact ⟨rfl, by simpa using same⟩
  case true.true => exact ⟨rfl, by simpa using same⟩
  -- A word is no bracket.
  case false.true => simp at same
  case true.false => simp at same

/-- The tokens of an entry belong to it alone and are told from what follows them. -/
theorem entryTokens_append_injective {entry second : String × Sprite} {rest others : List Token}
    (same : entryTokens entry ++ rest = entryTokens second ++ others) :
    entry = second ∧ rest = others := by
  simp only [entryTokens, definitionTokens, List.cons_append, List.nil_append, List.append_assoc,
    List.cons.injEq, Token.word.injEq, Token.text.injEq, Token.number.injEq, true_and] at same
  obtain ⟨name, digits, width, height, label, ending⟩ := same
  obtain ⟨aligned, behind⟩ := option_append_injective ending
  refine ⟨definitionOf_injective ?_, (List.cons.inj behind).2⟩
  simp only [definitionOf, name, digits, width, height, label, aligned]

/-- The tokens of entries belong to them alone, whatever names are listed behind them: an entry
starts with an empty line, and the list with a word. -/
theorem entries_eq_of_tokens {entries seconds : List (String × Sprite)} {names others : List String}
    (same : entries.flatMap entryTokens ++ listTokens names =
      seconds.flatMap entryTokens ++ listTokens others) : entries = seconds := by
  induction entries generalizing seconds with
  | nil =>
    cases seconds with
    | nil => rfl
    | cons second seconds => simp [listTokens, entryTokens] at same
  | cons entry entries ih =>
    cases seconds with
    | nil => simp [listTokens, entryTokens] at same
    | cons second seconds =>
      rw [List.flatMap_cons, List.flatMap_cons, List.append_assoc, List.append_assoc] at same
      obtain ⟨rfl, behind⟩ := entryTokens_append_injective same
      rw [ih behind]

/-! ## Modules -/

/-- The text of a module belongs to one set of sprites. Two sets with names that are identifiers,
reserved or not, are the same if they have the same module under one name of a source. -/
theorem moduleText_injective (identifiers : ∀ name ∈ set.names, Identifier name)
    (others : ∀ name ∈ other.names, Identifier name)
    (same : moduleText set sourceName = moduleText other sourceName) : set = other := by
  -- The start may hold anything, so it is not read: it is the same for both and is taken off.
  have whole := congrArg String.toList same
  rw [toList_moduleText, toList_moduleText] at whole
  have behind : body set = body other := List.append_cancel_left whole
  have read := reads_body (List.forall_mem_map.mp identifiers)
  rw [behind, Reads, reads_body (List.forall_mem_map.mp others)] at read
  have tokens := (Prod.mk.inj (Option.some.inj read)).1
  exact NameTable.ext_entries (entries_eq_of_tokens tokens).symm

/-- Two sheets with different glyphs and remarks have the same module. One tail in it is not
aligned, and the other fills its byte. -/
theorem moduleText_injective_two_sheets :
    ∃ set other,
      Sheet.compile "@sprite odd\n..##..\n@sprite full\n001122++\n" none false = .ok set ∧
      Sheet.compile "# b\n@sprite odd\n aabb aa\n@sprite full\nxxyyzz##\n" none false =
        .ok other ∧
      moduleText set (some "sheet.txt") = moduleText other (some "sheet.txt") ∧ set = other := by
  let odd : Sprite := ⟨3, 1, .one, #[0x02], false, by decide, by decide⟩
  let full : Sprite := ⟨4, 1, .two, #[0x1B], true, by decide, by decide⟩
  let drawn : SpriteSet := ⟨[("odd", odd), ("full", full)], by decide⟩
  have identifiers : ∀ name ∈ ["odd", "full"], Identifier name :=
    fun name member => (Sheet.forall_plainName (by decide) name member).identifier
  obtain ⟨set, compiled, names, text⟩ : ∃ set,
      Sheet.compile "@sprite odd\n..##..\n@sprite full\n001122++\n" none false = .ok set ∧
        set.names = ["odd", "full"] ∧
        moduleText set (some "sheet.txt") = moduleText drawn (some "sheet.txt") :=
    ⟨drawn, rfl, rfl, rfl⟩
  obtain ⟨other, recompiled, others, same⟩ : ∃ other,
      Sheet.compile "# b\n@sprite odd\n aabb aa\n@sprite full\nxxyyzz##\n" none false =
          .ok other ∧ other.names = ["odd", "full"] ∧
        moduleText other (some "sheet.txt") = moduleText drawn (some "sheet.txt") :=
    ⟨drawn, rfl, rfl, rfl⟩
  have together := text.trans same.symm
  exact ⟨set, other, compiled, recompiled, together,
    moduleText_injective (names ▸ identifiers) (others ▸ identifiers) together⟩

end SpriteText.Constants
