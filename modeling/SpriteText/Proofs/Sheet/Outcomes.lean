import SpriteText.Proofs.Sheet.Faults

/-!
# What comes of a sheet

A sheet is compiled to sprites that all have a pixel, or it is refused in one of a few ways: for its
layout, for a broken row of a named source, or for a source without a row, whose body is blank.
Every other fault that drawings and sheets know is out of reach.
-/

namespace SpriteText.Sheet

/-! ## Sprites with pixels -/

/-- A line that shows a letter has ink. -/
theorem inks_ne_nil {line : List Char} (shown : ∃ letter ∈ line, Text.isBlank letter = false) :
    inks line ≠ [] := by
  obtain ⟨letter, member, ink⟩ := shown
  refine List.ne_nil_of_mem (a := (letter.toNat : Int)) ?_
  have shown := Glyph.isBlank_eq_false_of_ink ink
  exact List.mem_filter.mpr ⟨List.mem_map_of_mem member, by simp [shown]⟩

/-- A drawing whose first row has ink is compiled to a sprite with a pixel, and so with data. -/
theorem one_le_of_compile {rows : List (List Char)} (unbroken : ∀ row ∈ rows, '\n' ∉ row)
    (first : ∀ row, rows.head? = some row → inks row ≠ []) {alignTail : Bool} {lineOffset : Int}
    {sprite : Sprite}
    (compiled : Drawing.compile (drawingOf rows) alignTail lineOffset = .ok sprite) :
    1 ≤ sprite.width ∧ 1 ≤ sprite.height ∧ 1 ≤ sprite.byteCount := by
  obtain ⟨drawn, width, draws⟩ := Drawing.draws_of_compile compiled
  obtain ⟨found, again, across, down, -, bytes, -⟩ :=
    Drawing.compile_of_draws draws alignTail lineOffset
  obtain rfl : sprite = found := Except.ok.inj (compiled.symm.trans again)
  have inked := map_inks_of_draws unbroken draws
  obtain ⟨row, others, rfl⟩ := List.exists_cons_of_ne_nil draws.some_row
  have some_width : 1 ≤ width := by
    obtain ⟨top, rest, rfl, shown, -⟩ := List.map_eq_cons_iff.mp inked
    rw [← draws.equal row List.mem_cons_self]
    refine Nat.one_le_iff_ne_zero.mpr fun empty => first top rfl ?_
    rw [shown, List.length_eq_zero_iff.mp empty]
    rfl
  rw [across, down, bytes, List.length_cons]
  have some_pixel : 1 ≤ width * (others.length + 1) * sprite.depth.bits :=
    Nat.mul_pos (Nat.mul_pos some_width (Nat.succ_pos _)) sprite.depth.bits_pos
  exact ⟨some_width, Nat.le_add_left 1 _, by omega⟩

/-- A source of a parsed sheet that is compiled gives a sprite with a pixel. -/
theorem Source.DrawnFrom.one_le_of_compile {sheet : String} {source : Source} {body : List Line}
    (drawn : source.DrawnFrom (numberedLines sheet) body) {alignTail : Bool} {lineOffset : Int}
    {sprite : Sprite} (compiled : Drawing.compile source.text alignTail lineOffset = .ok sprite) :
    1 ≤ sprite.width ∧ 1 ≤ sprite.height ∧ 1 ≤ sprite.byteCount := by
  have shows := drawn.shows
  rw [shows.text] at compiled
  refine Sheet.one_le_of_compile shows.unbroken ?_ compiled
  intro row top
  rw [List.head?_map, Option.map_eq_some_iff] at top
  obtain ⟨line, top, rfl⟩ := top
  obtain ⟨rest, trimmed⟩ := List.head?_eq_some_iff.mp top
  have shown := isBlank_of_trimLines_cons trimmed
  rw [Line.isBlank, List.all_eq_false] at shown
  obtain ⟨letter, member, ink⟩ := shown
  exact inks_ne_nil ⟨letter, member, Bool.eq_false_iff.mpr ink⟩

/-! ## Outcomes -/

/-- What comes of compiling a sheet. -/
inductive Outcome (text : String) (defaultName : Option String) :
    Except DrawingFault SpriteSet → Prop
  /-- There are sprites, and each has a pixel and data. -/
  | sprites {set : SpriteSet} : set.entries ≠ [] →
      (∀ entry ∈ set.entries,
        1 ≤ entry.2.width ∧ 1 ≤ entry.2.height ∧ 1 ≤ entry.2.byteCount) →
      Outcome text defaultName (.ok set)
  /-- The sheet is refused for its layout. -/
  | malformed {fault : Fault} : parse text defaultName = .error fault → fault.kind = .sheet →
      Outcome text defaultName (.error (.text fault))
  /-- A row of a source is broken. -/
  | broken {sources : List Source} {source : Source} {fault : Fault} {line : Int} :
      parse text defaultName = .ok sources → source ∈ sources →
      fault.sprite = some source.name → fault.line = some line →
      fault.kind = .pairMismatch ∨ fault.kind = .rowWidth ∨ fault.kind = .tooManyGlyphs →
      Outcome text defaultName (.error (.text fault))
  /-- A source has no row, since its body is blank. -/
  | empty {sources : List Source} {source : Source} {body : List Line} {fault : Fault}
      {line : Int} :
      parse text defaultName = .ok sources → (source, body) ∈ sources.zip (bodies text) →
      fault.sprite = some source.name → fault.line = some line → fault.kind = .noRows →
      (∀ line ∈ body, line.isBlank = true) →
      Outcome text defaultName (.error (.text fault))

/-- A sheet is compiled to sprites that are not empty, or it is refused for its layout, for a broken
row of a source, or for a source whose body is blank. Nothing else comes of it. -/
theorem compile_outcome (text : String) (defaultName : Option String) (alignTail : Bool) :
    Outcome text defaultName (compile text defaultName alignTail) := by
  cases outcome : compile text defaultName alignTail with
  | ok set =>
    rw [compile] at outcome
    cases parsed : parse text defaultName with
    | error fault => simp [parsed] at outcome
    | ok sources =>
      simp only [parsed] at outcome
      have all := (compileSources_eq_ok_iff (distinct_of_parse parsed)).mp outcome
      refine .sprites ?_ fun entry member => ?_
      · intro none
        rw [none] at all
        cases all
        exact ne_nil_of_parse parsed rfl
      · obtain ⟨source, paired, compiles⟩ := exists_partner all.flip member
        obtain ⟨body, -, drawn⟩ := exists_body parsed (List.of_mem_zip paired).2
        exact drawn.one_le_of_compile compiles.2
  | error fault =>
    rcases exists_of_compile_error outcome with
      ⟨found, malformed, rfl⟩ | ⟨front, source, back, alone, parsed, -, rejected, rfl⟩
    · exact .malformed malformed (kind_of_parse_error malformed)
    · have member : source ∈ front ++ source :: back := List.mem_append_cons_self
      obtain ⟨body, paired, drawn⟩ := exists_body parsed member
      have shows := drawn.shows
      rcases rejected_drawingOf shows.unbroken (shows.text ▸ rejected) with
        ⟨place, cause, -, violation, rfl⟩ | ⟨blank, rfl⟩
      · exact .broken parsed member rfl rfl violation.kind_cases
      · exact .empty parsed paired rfl rfl rfl
          (isBlank_of_trimLines_nil (List.map_eq_nil_iff.mp blank))

end SpriteText.Sheet
