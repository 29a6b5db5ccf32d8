import SpriteText.Proofs.Drawing.TwoPasses

/-!
# The picture of a drawing

A text draws rows if it is a newline followed by the rows as they are written, with blanks anywhere
(`Draws`). These texts and no others are compiled, and the sprite shows each glyph of the rows by
its rank in the order of first appearance.
-/

namespace SpriteText

/-- A text draws some rows of a common width with at most four glyphs. -/
structure Draws (text : List Glyph) (rows : List (List Glyph)) (width : Nat) : Prop where
  /-- After a newline and without its blanks, the text is the rows with every glyph doubled. -/
  spelled : ∃ rest, text = Glyph.newline :: rest ∧ visible rest = written rows
  /-- There is a row. -/
  some_row : rows ≠ []
  /-- All rows have the width. -/
  equal : ∀ row ∈ rows, row.length = width
  /-- No glyph is a newline. -/
  inked : ∀ glyph ∈ rows.flatten, glyph ≠ Glyph.newline
  /-- There are at most four glyphs. -/
  few : rows.flatten.eraseDups.length ≤ 4

/-- A glyph of the rows is one of the glyphs as they are written. -/
theorem mem_written {rows : List (List Glyph)} {glyph : Glyph} (member : glyph ∈ rows.flatten) :
    glyph ∈ written rows := by
  obtain ⟨row, held, inside⟩ := List.mem_flatten.mp member
  refine List.mem_flatMap.mpr ⟨row, held, List.mem_append_left _ ?_⟩
  exact List.mem_flatMap.mpr ⟨glyph, inside, by simp⟩

/-- The glyphs of a text that draws rows are drawn as these rows. -/
theorem Draws.after {rest : List Glyph} {rows : List (List Glyph)} {width : Nat}
    (draws : Draws (Glyph.newline :: rest) rows width) : Drawn.after rest = .ok { rows } := by
  obtain ⟨⟨other, same, spelled⟩, -, equal, inked, few⟩ := draws
  obtain rfl : rest = other := (List.cons.inj same).2
  have shown : ∀ glyph ∈ rows.flatten, glyph.isBlank = false := by
    intro glyph member
    have kept : glyph ∈ visible rest := spelled ▸ mem_written member
    simpa using (List.mem_filter.mp kept).2
  rw [Drawn.after, ← Drawn.foldlM_add_visible, spelled]
  exact Drawn.foldlM_add_written [] equal shown inked few

namespace Scan

variable {text : String} {lineOffset : Int} {scan : Scan} {rows : List (List Glyph)}

/-- A text that draws rows is scanned to its end. -/
theorem finished_of_draws {width : Nat} (draws : Draws (codes text) rows width) (lineOffset : Int) :
    ∃ scan, ofBytes (Utf8.encode text) lineOffset = (scan, none) ∧ scan.Finished rows := by
  obtain ⟨rest, leading, -⟩ := draws.spelled
  obtain ⟨tail, encoded, decoded⟩ := encode_of_codes leading
  rw [leading] at draws
  obtain ⟨scan, scanned, shows, -⟩ := ofRows_of_after decoded draws.after lineOffset
  have complete : Drawn.unfinished? { rows } = none :=
    unfinished?_eq_none_iff.mpr ⟨draws.some_row, rfl⟩
  rw [complete] at scanned
  refine ⟨scan, ?_, shows.finished (Drawn.sound_after draws.after) draws.some_row⟩
  rw [encoded]
  exact scanned

/-- A text that is scanned to its end draws the rows of the scan. -/
theorem draws_of_finished (done : ofBytes (Utf8.encode text) lineOffset = (scan, none)) :
    ∃ rows, Draws (codes text) rows scan.width := by
  have ending := ends_ofBytes (Utf8.encode text) lineOffset
  rw [done] at ending
  generalize encoded : Utf8.encode text = bytes at ending
  cases ending with
  | @finished tail read rows _ decoded after finished =>
    obtain ⟨rest, leading, same⟩ := codes_of_encode encoded
    obtain rfl : read = rest := by
      rw [decoded, Prod.mk.injEq] at same
      exact same.1
    have sound := Drawn.sound_after after
    refine ⟨rows, ⟨read, leading, ?_⟩, finished.some_row, finished.equal, ?_, ?_⟩
    · simpa [Drawn.text, doubled] using sound.text
    · simpa [Drawn.pixels] using sound.inked
    · simpa [Drawn.pixels] using sound.few

/-- The sprite of a finished scan shows the rows by the ranks of their glyphs. -/
theorem Finished.rows_sprite (finished : scan.Finished rows) (alignTail : Bool) :
    (scan.sprite alignTail finished.length_pixels).rows =
      rows.map fun row => row.map rows.flatten.eraseDups.idxOf := by
  have pixels : (rows.map fun row => row.map rows.flatten.eraseDups.idxOf).flatten =
      scan.pixels := by
    rw [finished.shows.pixels, Drawn.pixels, List.append_nil, ranked, List.map_flatten]
  refine Sprite.rows_of_packPixels ?equal ?height ?fit ?data (rfl : _ = (alignTail || _))
  case equal =>
    intro row member
    obtain ⟨drawn, held, rfl⟩ := List.mem_map.mp member
    rw [List.length_map]
    exact finished.equal drawn held
  case height =>
    rw [List.length_map]
    exact finished.shows.height.symm
  case fit =>
    rw [pixels]
    exact finished.pixels_fit
  case data =>
    rw [pixels]
    rfl

end Scan

namespace Drawing

/-- The sprite of a text that draws rows has their shape, one bit a pixel for up to two glyphs and
two bits for more, no more bytes than its pixels fill, and the ranks of the glyphs as pixels. -/
theorem compile_of_draws {text : String} {rows : List (List Glyph)} {width : Nat}
    (draws : Draws (codes text) rows width) (alignTail : Bool) (lineOffset : Int) :
    ∃ sprite, compile text alignTail lineOffset = .ok sprite ∧
      sprite.width = width ∧ sprite.height = rows.length ∧
      sprite.depth = (if rows.flatten.eraseDups.length ≤ 2 then .one else .two) ∧
      sprite.byteCount = (width * rows.length * sprite.depth.bits + 7) / 8 ∧
      sprite.rows = rows.map fun row => row.map rows.flatten.eraseDups.idxOf := by
  obtain ⟨scan, done, finished⟩ := Scan.finished_of_draws draws lineOffset
  obtain ⟨row, member⟩ := List.exists_mem_of_ne_nil rows finished.some_row
  have width : scan.width = width := (finished.equal row member).symm.trans (draws.equal row member)
  have height : scan.height = rows.length := finished.shows.height
  have glyphs : scan.palette.glyphs = rows.flatten.eraseDups := by
    simpa [Drawn.pixels] using finished.shows.glyphs
  refine ⟨_, build_of_finished done finished alignTail, width, height, ?_, ?_,
    finished.rows_sprite alignTail⟩
  · rw [← glyphs]
    simp [Scan.sprite, Palette.depth, BitDepth.forGlyphCount, Palette.size]
  · rw [Sprite.byteCount, Sprite.size_data, ← width, ← height]
    rfl

/-- A text is compiled exactly when it draws some rows. The sprite has the shape of the rows, one
bit a pixel for up to two glyphs and two bits for more, no more bytes than its pixels fill, and
shows every pixel by the rank of its glyph in the order of first appearance. -/
theorem compile_eq_ok_iff_draws (text : String) (alignTail : Bool) (lineOffset : Int) :
    ((∃ sprite, compile text alignTail lineOffset = .ok sprite) ↔
      ∃ rows width, Draws (codes text) rows width) ∧
    ∀ rows width, Draws (codes text) rows width →
      ∃ sprite, compile text alignTail lineOffset = .ok sprite ∧
        sprite.width = width ∧ sprite.height = rows.length ∧
        sprite.depth = (if rows.flatten.eraseDups.length ≤ 2 then .one else .two) ∧
        sprite.byteCount = (width * rows.length * sprite.depth.bits + 7) / 8 ∧
        sprite.rows = rows.map fun row => row.map rows.flatten.eraseDups.idxOf := by
  refine ⟨⟨?_, ?_⟩, fun rows width draws => compile_of_draws draws alignTail lineOffset⟩
  · rintro ⟨sprite, built⟩
    cases read : Scan.ofBytes (Utf8.encode text) lineOffset with
    | mk scan unread =>
      cases unread with
      | none =>
        obtain ⟨rows, draws⟩ := Scan.draws_of_finished read
        exact ⟨rows, scan.width, draws⟩
      | some fault =>
        simp only [compile, build, sizing_of_fault read] at built
        contradiction
  · rintro ⟨rows, width, draws⟩
    obtain ⟨sprite, built, -⟩ := compile_of_draws draws alignTail lineOffset
    exact ⟨sprite, built⟩

end Drawing

end SpriteText
