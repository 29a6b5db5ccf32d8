import SpriteText.Picture.Render
import SpriteText.Proofs.Drawing.OfText
import SpriteText.Proofs.Packing.Repacked
import SpriteText.Proofs.Sheet.Compile

/-!
# Previews as drawings

A preview shows every pixel by the shade of its rank. With every code point but the newlines written
twice, and between two newlines, it is a drawing again (`Drawing.ofPreview`). It draws the rows of
the first drawing with a shade in place of each glyph. Ranks are handed out in the order of first
appearance, so the glyphs of both have the same ranks. Only a shade that has no encoding keeps the
preview from being compiled.
-/

namespace SpriteText

/-! ## Glyphs of code points -/

/-- Code points with the same glyph are the same. -/
theorem glyph_inj {first second : CodePoint} :
    (first.value : Glyph) = second.value ↔ first = second := by
  rw [Int.ofNat_inj, CodePoint.mk.injEq]

/-- The glyphs of a text are those of its parts. -/
theorem glyphsOf_append (front back : List CodePoint) :
    glyphsOf (front ++ back) = glyphsOf front ++ glyphsOf back := List.map_append

namespace Render

/-- The space, as a code point. -/
def space : CodePoint := .ofChar ' '

/-- The tab, as a code point. -/
def tab : CodePoint := .ofChar '\t'

/-- Shades that can be drawn with: there is one for every rank of the depth, these are different,
and none of them is a space, a tab or a newline. -/
structure Drawable (shades : List CodePoint) (depth : BitDepth) : Prop where
  /-- There is a shade for every rank. -/
  enough : depth.ranks ≤ shades.length
  /-- Different ranks have different shades. -/
  distinct : (shades.take depth.ranks).Nodup
  /-- Every rank is seen, and within its row. -/
  inked : ∀ shade ∈ shades.take depth.ranks, shade ≠ space ∧ shade ≠ tab ∧ shade ≠ .newline

namespace Drawable

variable {shades : List CodePoint} {depth : BitDepth} {rank other : Nat}

/-- The shade of a rank. -/
theorem getElem?_take (drawable : Drawable shades depth) (fits : rank < depth.ranks) :
    (shades.take depth.ranks)[rank]? = some (shades.getD rank default) := by
  have inside : rank < shades.length := Nat.lt_of_lt_of_le fits drawable.enough
  rw [List.getElem?_take_of_lt fits, List.getD_eq_getElem?_getD, List.getElem?_eq_getElem inside,
    Option.getD_some]

/-- The shade of a rank is one of the first. -/
theorem mem_take (drawable : Drawable shades depth) (fits : rank < depth.ranks) :
    shades.getD rank default ∈ shades.take depth.ranks :=
  List.mem_of_getElem? (drawable.getElem?_take fits)

/-- Ranks with the same shade are the same. -/
theorem injective (drawable : Drawable shades depth) (fits : rank < depth.ranks)
    (others : other < depth.ranks) (same : shades.getD rank default = shades.getD other default) :
    rank = other := by
  have first := drawable.getElem?_take fits
  have second := drawable.getElem?_take others
  rw [same, ← second] at first
  have inside : rank < (shades.take depth.ranks).length := by
    rw [List.length_take]
    exact Nat.lt_min.mpr ⟨fits, Nat.lt_of_lt_of_le fits drawable.enough⟩
  exact (List.getElem?_inj inside drawable.distinct).mp first

/-- No shade of a preview is a newline within its row. -/
theorem newline_not_mem_shadeRows {sprite : Sprite} (drawable : Drawable shades sprite.depth)
    {line : List CodePoint} (shown : line ∈ shadeRows shades sprite) : .newline ∉ line := by
  intro feed
  obtain ⟨row, held, rfl⟩ := List.mem_map.mp shown
  obtain ⟨rank, inside, same⟩ := List.mem_map.mp feed
  have fits := sprite.rows_fit rank (List.mem_flatten.mpr ⟨row, held, inside⟩)
  exact (drawable.inked _ (drawable.mem_take fits)).2.2 same

end Drawable

end Render

namespace Drawing

/-! ## Writing code points twice -/

/-- Every code point but the newlines twice. -/
def twice (shown : List CodePoint) : List CodePoint :=
  shown.flatMap fun code => if code = .newline then [code] else [code, code]

/-- A preview as a drawing: every code point but the newlines twice, between two newlines. -/
def ofPreview (shown : List CodePoint) : List CodePoint :=
  .newline :: (twice shown ++ [.newline])

/-- Code points in a row are written twice part by part. -/
theorem twice_append (front back : List CodePoint) :
    twice (front ++ back) = twice front ++ twice back := List.flatMap_append

/-- A code point is written twice, or it is a newline and is written once. -/
theorem mem_twice {code : CodePoint} {shown : List CodePoint} :
    code ∈ twice shown ↔ code ∈ shown := by
  simp only [twice, List.mem_flatMap]
  constructor
  · rintro ⟨other, held, member⟩
    split at member <;> simp only [List.mem_cons, List.not_mem_nil, or_false, or_self] at member <;>
      exact member ▸ held
  · intro held
    refine ⟨code, held, ?_⟩
    split <;> exact List.mem_cons_self

/-- A preview has an encoding if it has one as a drawing. -/
theorem encodable_ofPreview {shown : List CodePoint} :
    Text.Encodable (ofPreview shown) ↔ Text.Encodable shown := by
  simp only [Text.Encodable, ofPreview, List.forall_mem_cons, List.forall_mem_append, mem_twice]
  have feed : CodePoint.newline.isSurrogate = false := by decide
  simp [feed]

/-- The glyphs of a line are doubled. -/
theorem glyphsOf_twice {line : List CodePoint} (unbroken : .newline ∉ line) :
    glyphsOf (twice line) = doubled (glyphsOf line) := by
  induction line with
  | nil => rfl
  | cons code line ih =>
    obtain ⟨other, later⟩ := not_or.mp (mt List.mem_cons.mpr unbroken)
    have first : twice (code :: line) = code :: code :: twice line := by
      simp [twice, Ne.symm other]
    rw [first]
    simpa [glyphsOf, doubled] using ih later

/-- The lines of a preview and one more newline are the rows as they are written. -/
theorem glyphsOf_twice_intercalate {lines : List (List CodePoint)} (some_line : lines ≠ [])
    (unbroken : ∀ line ∈ lines, .newline ∉ line) :
    glyphsOf (twice ([CodePoint.newline].intercalate lines)) ++ [Glyph.newline] =
      written (lines.map glyphsOf) := by
  induction lines with
  | nil => contradiction
  | cons line lines ih =>
    obtain ⟨first, others⟩ := List.forall_mem_cons.mp unbroken
    cases lines with
    | nil =>
      rw [List.intercalate_singleton, glyphsOf_twice first]
      simp [written]
    | cons second lines =>
      have feed : glyphsOf (twice [CodePoint.newline]) = [Glyph.newline] := by decide
      rw [List.intercalate_cons_cons, twice_append, twice_append, glyphsOf_append, glyphsOf_append,
        glyphsOf_twice first, feed, List.append_assoc, List.append_assoc,
        ih (List.cons_ne_nil _ _) others]
      simp [written]

/-- A preview of some lines is the drawing of the lines as rows. -/
theorem glyphsOf_ofPreview {lines : List (List CodePoint)} (some_line : lines ≠ [])
    (unbroken : ∀ line ∈ lines, .newline ∉ line) :
    glyphsOf (ofPreview ([CodePoint.newline].intercalate lines)) =
      Glyph.newline :: written (lines.map glyphsOf) := by
  rw [← glyphsOf_twice_intercalate some_line unbroken, ofPreview, glyphsOf, List.map_cons,
    List.map_append]
  rfl

/-! ## Drawing a preview -/

variable {text : String} {alignTail : Bool} {lineOffset : Int} {sprite : Sprite}
  {rows : List (List Glyph)} {width : Nat} {shades : List CodePoint}

/-- The shade that a preview has in place of a glyph. -/
def shadeOf (shades : List CodePoint) (rows : List (List Glyph)) (glyph : Glyph) : Glyph :=
  (shades.getD (rows.flatten.eraseDups.idxOf glyph) default).value

/-- The lines of a preview have a shade for every glyph. -/
theorem map_glyphsOf_shadeRows
    (shown : sprite.rows = rows.map fun row => row.map rows.flatten.eraseDups.idxOf) :
    (Render.shadeRows shades sprite).map glyphsOf = rows.map (List.map (shadeOf shades rows)) := by
  simp [Render.shadeRows, Render.shadeRow, shown, glyphsOf, shadeOf, Function.comp_def]

/-- The rank of a glyph fits the depth of the sprite. -/
theorem idxOf_lt_ranks
    (shown : sprite.rows = rows.map fun row => row.map rows.flatten.eraseDups.idxOf)
    {glyph : Glyph} (drawn : glyph ∈ rows.flatten) :
    rows.flatten.eraseDups.idxOf glyph < sprite.depth.ranks := by
  refine sprite.rows_fit _ ?_
  rw [shown, ← List.map_flatten]
  exact List.mem_map_of_mem drawn

/-- A code point that is no space, tab or newline is a glyph that is drawn. -/
theorem not_isBlank_of_inked {code : CodePoint}
    (inked : code ≠ Render.space ∧ code ≠ Render.tab ∧ code ≠ .newline) :
    Glyph.isBlank code.value = false ∧ (code.value : Glyph) ≠ Glyph.newline := by
  have other {mark : CodePoint} (differs : code ≠ mark) : (code.value : Glyph) ≠ mark.value :=
    mt glyph_inj.mp differs
  obtain ⟨space, tab, feed⟩ := inked
  refine ⟨?_, other feed⟩
  rw [Glyph.isBlank, Bool.or_eq_false_iff, decide_eq_false_iff_not, decide_eq_false_iff_not]
  exact ⟨other space, other tab⟩

/-- Rows as they are written have no blanks, if no glyph of theirs is blank. -/
theorem visible_written {rows : List (List Glyph)}
    (shown : ∀ glyph ∈ rows.flatten, glyph.isBlank = false) :
    visible (written rows) = written rows := by
  refine List.filter_eq_self.mpr fun glyph member => ?_
  obtain ⟨row, held, inside⟩ := List.mem_flatMap.mp member
  rcases List.mem_append.mp inside with drawn | ending
  · obtain ⟨other, inside, same⟩ := List.mem_flatMap.mp drawn
    obtain rfl : glyph = other := by simpa using same
    simp [shown glyph (List.mem_flatten.mpr ⟨row, held, inside⟩)]
  · rw [List.mem_singleton.mp ending]
    rfl

/-- A preview draws the rows of the sprite with a shade for every glyph. -/
theorem draws_ofPreview (draws : Draws (codes text) rows width)
    (shown : sprite.rows = rows.map fun row => row.map rows.flatten.eraseDups.idxOf)
    (drawable : Render.Drawable shades sprite.depth)
    (injective : ∀ first ∈ rows.flatten, ∀ second ∈ rows.flatten,
      shadeOf shades rows first = shadeOf shades rows second → first = second) :
    Draws (glyphsOf (ofPreview ([CodePoint.newline].intercalate (Render.shadeRows shades sprite))))
      (rows.map (List.map (shadeOf shades rows))) width := by
  have lines : (Render.shadeRows shades sprite).map glyphsOf =
      rows.map (List.map (shadeOf shades rows)) := map_glyphsOf_shadeRows shown
  have some_line : Render.shadeRows shades sprite ≠ [] := by
    intro none
    rw [none, List.map_nil, eq_comm, List.map_eq_nil_iff] at lines
    exact draws.some_row lines
  have flat : (rows.map (List.map (shadeOf shades rows))).flatten =
      rows.flatten.map (shadeOf shades rows) := List.map_flatten.symm
  have inked : ∀ glyph ∈ (rows.map (List.map (shadeOf shades rows))).flatten,
      glyph.isBlank = false ∧ glyph ≠ Glyph.newline := by
    intro glyph member
    rw [flat] at member
    obtain ⟨first, drawn, rfl⟩ := List.mem_map.mp member
    exact not_isBlank_of_inked (drawable.inked _ (drawable.mem_take (idxOf_lt_ranks shown drawn)))
  constructor
  case spelled =>
    refine ⟨_, glyphsOf_ofPreview some_line fun line => drawable.newline_not_mem_shadeRows, ?_⟩
    rw [lines]
    exact visible_written fun glyph member => (inked glyph member).1
  case some_row => simpa using draws.some_row
  case equal =>
    intro row member
    obtain ⟨first, held, rfl⟩ := List.mem_map.mp member
    rw [List.length_map]
    exact draws.equal first held
  case inked => exact fun glyph member => (inked glyph member).2
  case few =>
    rw [flat, eraseDups_map injective, List.length_map]
    exact draws.few

/-- Previews are compiled back. A sprite that a text is compiled to is shown as text, if there is a
shade for every rank of its depth. If these are different and none of them is a space, a tab or a
newline, the preview with every code point but the newlines written twice, and between two newlines,
is compiled to the same sprite, unless a surrogate is shown: then it is refused for that. -/
theorem compileText_ofPreview {text shades : List CodePoint}
    (compiled : compileText text alignTail lineOffset = .ok sprite)
    (drawable : Render.Drawable shades sprite.depth) :
    ∃ shown, Render.text sprite shades = .ok shown ∧
      (Text.Encodable shown → compileText (ofPreview shown) alignTail lineOffset = .ok sprite) ∧
      (¬Text.Encodable shown → ∃ found, found.Leads (ofPreview shown) ∧
        compileText (ofPreview shown) alignTail lineOffset = .error (.encoding found)) := by
  obtain ⟨spelled, rfl⟩ := Text.encodable_iff.mp (encodable_of_compileText compiled)
  rw [compileText_eq_ok_iff] at compiled
  obtain ⟨rows, width, draws⟩ := draws_of_compile compiled
  obtain ⟨same, again, -, -, -, -, shown⟩ := compile_of_draws draws alignTail lineOffset
  obtain rfl : sprite = same := Except.ok.inj (compiled.symm.trans again)
  have injective : ∀ first ∈ rows.flatten, ∀ second ∈ rows.flatten,
      shadeOf shades rows first = shadeOf shades rows second → first = second := by
    intro first drawn second also_drawn equal
    have ranks := drawable.injective (idxOf_lt_ranks shown drawn) (idxOf_lt_ranks shown also_drawn)
      (glyph_inj.mp equal)
    exact (List.idxOf_inj (List.mem_eraseDups.mpr drawn)).mp ranks
  have redraws := draws_ofPreview draws shown drawable injective
  refine ⟨_, by rw [Render.text, if_neg (Nat.not_lt.mpr drawable.enough)], ?_, ?_⟩
  · intro plain
    obtain ⟨again, written⟩ := Text.encodable_iff.mp (encodable_ofPreview.mpr plain)
    rw [written, glyphsOf_codePoints] at redraws
    rw [written, compileText_eq_ok_iff]
    exact compile_of_redrawn compiled draws redraws injective lineOffset
  · intro lone
    have other := mt encodable_ofPreview.mp lone
    exact ⟨_, Text.Surrogates.leads_find other, compileText_of_not_encodable other _ _⟩

/-- The preview of a drawing of two glyphs, with blanks within its pairs, shaded by the second glyph
first. -/
theorem compileText_ofPreview_swapped :
    ∃ sprite shown, compileText (Text.codePoints "\n ..█ █\n██\t..\n") false 0 = .ok sprite ∧
      Render.text sprite (Text.codePoints "█.#") = .ok shown ∧
      shown = Text.codePoints "█.\n.█" ∧
      compileText (ofPreview shown) false 0 = .ok sprite := by
  let sprite : Sprite := ⟨2, 2, .one, #[0x06], false, by decide, by decide⟩
  have compiled : compileText (Text.codePoints "\n ..█ █\n██\t..\n") false 0 = .ok sprite := by
    decide
  have drawable : Render.Drawable (Text.codePoints "█.#") sprite.depth := by
    constructor <;> decide
  obtain ⟨shown, rendered, recompiled, -⟩ := compileText_ofPreview compiled drawable
  have text : Render.text sprite (Text.codePoints "█.#") = .ok (Text.codePoints "█.\n.█") := by
    decide
  obtain rfl := Except.ok.inj (rendered.symm.trans text)
  exact ⟨sprite, _, compiled, rendered, rfl, recompiled (by decide)⟩

/-- Two surrogates are shades that can be drawn with, and the preview is refused. -/
theorem surrogate_shades_refused :
    ∃ sprite shown,
      let shades : List CodePoint := [⟨0xD800, by decide⟩, ⟨0xD801, by decide⟩]
      compileText (Text.codePoints "\n0011\n") false 0 = .ok sprite ∧
        Render.Drawable shades sprite.depth ∧ Render.text sprite shades = .ok shown ∧
        compileText (ofPreview shown) false 0 =
          .error (.encoding { start := 1, run := twice shown }) := by
  let sprite : Sprite := ⟨2, 1, .one, #[0x01], false, by decide, by decide⟩
  refine ⟨sprite, _, by decide, ?_, rfl, by decide⟩
  constructor <;> decide

end Drawing

end SpriteText
