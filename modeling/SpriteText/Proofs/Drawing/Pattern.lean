import Mathlib.Data.List.Nodup
import Mathlib.Logic.Equiv.Basic
import SpriteText.Drawing.Build
import SpriteText.Proofs.Drawing.Progress

/-!
# The pattern of a drawing

Which glyphs a drawing is made of does not matter, only where the same glyph stands again. The
glyphs of a text are exchanged for others one by one (`Glyph.Exchange`). Each step of a scan then
does the same with the other glyphs, and hands out the same ranks and the same faults at the same
places. So the scans of both texts agree in all that the two passes take from them, although the
bytes that the passes read may differ in number at every glyph.
-/

namespace SpriteText

/-! ## Exchanging glyphs -/

/-- Other glyphs in place of the glyphs of a text: no two glyphs become one, and newlines and blanks
are kept. -/
structure Glyph.Exchange where
  /-- The glyph that takes the place of a glyph. -/
  image : Glyph → Glyph
  /-- Different glyphs stay different. -/
  injective : Function.Injective image
  /-- A newline stays a newline. -/
  newline : image Glyph.newline = Glyph.newline
  /-- A space stays a space. -/
  space : image 0x20 = 0x20
  /-- A tab stays a tab. -/
  tab : image 0x09 = 0x09

namespace Glyph.Exchange

variable (exchange : Glyph.Exchange)

/-- Newlines come from newlines only. -/
theorem image_eq_newline_iff {glyph : Glyph} :
    exchange.image glyph = Glyph.newline ↔ glyph = Glyph.newline := by
  have same := exchange.injective.eq_iff (a := glyph) (b := Glyph.newline)
  rwa [exchange.newline] at same

/-- Blanks come from blanks only. -/
@[simp] theorem isBlank_image (glyph : Glyph) : (exchange.image glyph).isBlank = glyph.isBlank := by
  have space := exchange.injective.eq_iff (a := glyph) (b := 0x20)
  have tab := exchange.injective.eq_iff (a := glyph) (b := 0x09)
  rw [exchange.space] at space
  rw [exchange.tab] at tab
  simp only [Glyph.isBlank, space, tab]

end Glyph.Exchange

/-! ## Steps of a scan -/

namespace Palette

/-- The palette of the other glyphs. -/
def redrawn (palette : Palette) (exchange : Glyph.Exchange) : Palette where
  glyphs := palette.glyphs.map exchange.image
  distinct := palette.distinct.map exchange.injective
  limited := by
    rw [List.length_map]
    exact palette.limited

/-- As many other glyphs need as many bits. -/
@[simp] theorem depth_redrawn (palette : Palette) (exchange : Glyph.Exchange) :
    (palette.redrawn exchange).depth = palette.depth := by
  simp only [depth, size, Palette.redrawn, List.length_map]

/-- The other glyph gets the rank of the glyph, or is refused with it. -/
theorem allocate_redrawn (palette : Palette) (exchange : Glyph.Exchange) (glyph : Glyph) :
    (palette.redrawn exchange).allocate (exchange.image glyph) =
      (palette.allocate glyph).map fun found => (found.1.redrawn exchange, found.2) := by
  have held : exchange.image glyph ∈ (palette.redrawn exchange).glyphs ↔ glyph ∈ palette.glyphs :=
    List.mem_map_of_injective exchange.injective
  have length : (palette.redrawn exchange).glyphs.length = palette.glyphs.length :=
    List.length_map _
  by_cases known : glyph ∈ palette.glyphs
  · rw [allocate_of_mem known, allocate_of_mem (held.mpr known)]
    have rank : (palette.glyphs.map exchange.image).idxOf (exchange.image glyph) =
        palette.glyphs.idxOf glyph := idxOf_map fun _ _ same => exchange.injective same
    rw [Except.map, Palette.redrawn, rank]
  · by_cases room : palette.glyphs.length < 4
    · simp [allocate, Palette.redrawn, known, room, Except.map, exchange.injective.eq_iff]
    · rw [allocate_of_full known room, allocate_of_full (mt held.mp known) (length ▸ room)]
      rfl

end Palette

namespace Grid

/-- The grid with the other glyph waiting for its twin. -/
def redrawn (grid : Grid) (exchange : Glyph.Exchange) : Grid :=
  { grid with pending := grid.pending.map exchange.image }

variable (grid : Grid) (exchange : Glyph.Exchange)

/-- A newline closes the same rows and is refused for the same faults. -/
theorem newline_redrawn :
    (grid.redrawn exchange).newline = grid.newline.map fun next => next.redrawn exchange := by
  cases pending : grid.pending with
  | some twin =>
    have waiting : (grid.redrawn exchange).pending = some (exchange.image twin) :=
      congrArg (Option.map exchange.image) pending
    rw [newline_of_pending pending, newline_of_pending waiting]
    rfl
  | none =>
    have complete : (grid.redrawn exchange).pending = none :=
      congrArg (Option.map exchange.image) pending
    have closed : (grid.redrawn exchange).closeRow = grid.closeRow.redrawn exchange := rfl
    cases width : grid.width with
    | none =>
      rw [newline_of_first pending width, newline_of_first complete width, closed]
      rfl
    | some fixed =>
      rw [newline_of_width pending width, newline_of_width complete width, closed]
      show (if grid.rowWidth = fixed then _ else _) = _
      by_cases same : grid.rowWidth = fixed
      · rw [if_pos same, if_pos same]
        rfl
      · rw [if_neg same, if_neg same]
        rfl

/-- The other glyph opens or completes a pair where the glyph does. -/
theorem glyph_redrawn (glyph : Glyph) :
    (grid.redrawn exchange).glyph (exchange.image glyph) =
      (grid.glyph glyph).map fun found =>
        (found.1.redrawn exchange, found.2.map exchange.image) := by
  cases pending : grid.pending with
  | none =>
    have complete : (grid.redrawn exchange).pending = none :=
      congrArg (Option.map exchange.image) pending
    rw [glyph_of_open pending, glyph_of_open complete]
    rfl
  | some twin =>
    have waiting : (grid.redrawn exchange).pending = some (exchange.image twin) :=
      congrArg (Option.map exchange.image) pending
    rw [glyph_of_pending pending, glyph_of_pending waiting]
    by_cases same : glyph = twin
    · rw [if_pos same, if_pos (congrArg exchange.image same)]
      rfl
    · rw [if_neg same, if_neg (exchange.injective.ne same)]
      rfl

/-- The text may end where it may end with the other glyphs. -/
theorem finish_redrawn : (grid.redrawn exchange).finish = grid.finish := by
  have waits : (grid.redrawn exchange).pending.isSome = grid.pending.isSome := Option.isSome_map
  unfold finish
  rw [waits]
  rfl

end Grid

namespace Scan

/-- The scan of the other glyphs: it has handed out the same ranks. -/
def redrawn (scan : Scan) (exchange : Glyph.Exchange) : Scan where
  grid := scan.grid.redrawn exchange
  palette := scan.palette.redrawn exchange
  emitted := scan.emitted

/-- One of the other glyphs is taken as the glyph is, and refused for the same fault. -/
theorem feed_redrawn (scan : Scan) (exchange : Glyph.Exchange) (glyph : Glyph) :
    (scan.redrawn exchange).feed (exchange.image glyph) =
      (scan.feed glyph).map fun next => next.redrawn exchange := by
  unfold feed
  rw [exchange.isBlank_image]
  by_cases blank : glyph.isBlank
  · rw [if_pos blank, if_pos blank]
    rfl
  rw [if_neg blank, if_neg blank]
  by_cases ending : glyph = Glyph.newline
  · rw [if_pos ending, if_pos (exchange.image_eq_newline_iff.mpr ending)]
    have closing := scan.grid.newline_redrawn exchange
    cases closed : scan.grid.newline with
    | ok grid =>
      rw [closed] at closing
      simp only [Scan.redrawn, closing, Except.map]
    | error fault =>
      rw [closed] at closing
      simp only [Scan.redrawn, closing, Except.map]
  · rw [if_neg ending, if_neg (mt exchange.image_eq_newline_iff.mp ending)]
    have marking := scan.grid.glyph_redrawn exchange glyph
    cases marked : scan.grid.glyph glyph with
    | error fault =>
      rw [marked] at marking
      simp only [Scan.redrawn, marking, Except.map]
    | ok found =>
      obtain ⟨grid, completed⟩ := found
      rw [marked] at marking
      cases completed with
      | none => simp only [Scan.redrawn, marking, Except.map, Option.map_none]
      | some twin =>
        simp only [Scan.redrawn, marking, Except.map, Option.map_some,
          scan.palette.allocate_redrawn exchange twin]
        cases scan.palette.allocate twin <;> rfl

/-- A run over the other glyphs goes as far, and stops for the same fault. -/
theorem run_redrawn (scan : Scan) (exchange : Glyph.Exchange) (read : List Glyph) :
    (scan.redrawn exchange).run (read.map exchange.image) =
      ((scan.run read).1.redrawn exchange, (scan.run read).2) := by
  induction read generalizing scan with
  | nil => rfl
  | cons glyph read ih =>
    have step := scan.feed_redrawn exchange glyph
    rw [List.map_cons, run, run]
    cases fed : scan.feed glyph with
    | ok next =>
      rw [fed, Except.map] at step
      rw [step]
      exact ih next
    | error fault =>
      rw [fed, Except.map] at step
      rw [step]

variable {rows others : List UInt8} {read : List Glyph} {exchange : Glyph.Exchange}

/-- Rows of the other glyphs are read as far, and refused for the same fault. -/
theorem ofRows_redrawn (decoded : glyphs 1 rows = (read, none))
    (decoded_too : glyphs 1 others = (read.map exchange.image, none)) (lineOffset : Int) :
    ofRows others lineOffset =
      ((ofRows rows lineOffset).1.redrawn exchange, (ofRows rows lineOffset).2) := by
  have ran : (start lineOffset).run (read.map exchange.image) = _ :=
    (start lineOffset).run_redrawn exchange read
  unfold ofRows
  rw [decoded, decoded_too]
  simp only [ran]
  cases reached : (start lineOffset).run read with
  | mk scan stopped =>
    cases stopped with
    | some fault => rfl
    | none =>
      have ending : (scan.redrawn exchange).grid.finish = scan.grid.finish :=
        scan.grid.finish_redrawn exchange
      simp only [ending]
      cases scan.grid.finish <;> rfl

/-- Bytes that do not start with a newline are refused at their start. -/
theorem ofBytes_of_missing {bytes : List UInt8} (missing : ∀ tail, bytes ≠ 0x0A :: tail)
    (lineOffset : Int) :
    ofBytes bytes lineOffset =
      (start lineOffset, some (.text (.located .missingNewline (lineOffset + 1) 1))) := by
  unfold ofBytes
  split
  · rename_i tail
    exact absurd rfl (missing tail)
  · rfl

/-- A text of the other glyphs is read as far, and refused for the same fault. -/
theorem ofBytes_redrawn {text other : String}
    (exchanged : codes other = (codes text).map exchange.image) (lineOffset : Int) :
    ofBytes (Utf8.encode other) lineOffset =
      ((ofBytes (Utf8.encode text) lineOffset).1.redrawn exchange,
        (ofBytes (Utf8.encode text) lineOffset).2) := by
  by_cases leading : ∃ rest, codes text = Glyph.newline :: rest
  · obtain ⟨rest, leading⟩ := leading
    have leading_too : codes other = Glyph.newline :: rest.map exchange.image := by
      rw [exchanged, leading, List.map_cons, exchange.newline]
    obtain ⟨tail, encoded, decoded⟩ := encode_of_codes leading
    obtain ⟨tail_too, encoded_too, decoded_too⟩ := encode_of_codes leading_too
    rw [encoded, encoded_too]
    exact ofRows_redrawn decoded decoded_too lineOffset
  · have missing (tail : List UInt8) : Utf8.encode text ≠ 0x0A :: tail := by
      intro encoded
      obtain ⟨rest, found, -⟩ := codes_of_encode encoded
      exact leading ⟨rest, found⟩
    have missing_too (tail : List UInt8) : Utf8.encode other ≠ 0x0A :: tail := by
      intro encoded
      obtain ⟨rest, found, -⟩ := codes_of_encode encoded
      rw [exchanged, List.map_eq_cons_iff] at found
      obtain ⟨first, others, split, image, -⟩ := found
      exact leading ⟨others, by rw [split, exchange.image_eq_newline_iff.mp image]⟩
    rw [ofBytes_of_missing missing, ofBytes_of_missing missing_too]
    rfl

end Scan

/-! ## Both passes -/

namespace Drawing

section

variable {bytes others : List UInt8} {lineOffset : Int} {exchange : Glyph.Exchange}
  (same : Scan.ofBytes others lineOffset =
    ((Scan.ofBytes bytes lineOffset).1.redrawn exchange, (Scan.ofBytes bytes lineOffset).2))

include same

/-- The sizing takes nothing from a scan that depends on its glyphs. -/
theorem sizing_redrawn : sizing others lineOffset = sizing bytes lineOffset := by
  unfold sizing
  rw [same]
  cases read : Scan.ofBytes bytes lineOffset with
  | mk scan unread =>
    cases unread with
    | some fault => rfl
    | none =>
      have depth : (scan.redrawn exchange).palette.depth = scan.palette.depth :=
        scan.palette.depth_redrawn exchange
      simp only [depth]
      rfl

/-- The building takes nothing from a scan that depends on its glyphs. -/
theorem buildInto_redrawn (bits : Int) (buffer : Array UInt8) (alignTail : Bool) :
    buildInto others bits buffer alignTail lineOffset =
      buildInto bytes bits buffer alignTail lineOffset := by
  have depth : (Scan.ofBytes others lineOffset).1.palette.depth =
      (Scan.ofBytes bytes lineOffset).1.palette.depth := by
    rw [same]
    exact (Scan.ofBytes bytes lineOffset).1.palette.depth_redrawn exchange
  unfold buildInto
  rw [same] at depth ⊢
  simp only [depth]
  rfl

/-- Drawings whose scans differ in their glyphs only are built alike. -/
theorem build_redrawn (buffer : Option (Array UInt8)) (alignTail : Bool) :
    build others buffer alignTail lineOffset = build bytes buffer alignTail lineOffset := by
  simp only [build, sizing_redrawn same, buildInto_redrawn same]

end

end Drawing

/-! ## Letters for letters -/

namespace Glyph.Exchange

variable {letters : Char → Char}

/-- The code point of the letter that takes the place of a glyph. What is no code point of a letter
is kept. -/
def imageOf (letters : Char → Char) (glyph : Glyph) : Glyph :=
  if 0 ≤ glyph ∧ glyph.toNat.isValidChar then (letters (.ofNat glyph.toNat)).toNat else glyph

/-- The code point of a letter becomes that of its image. -/
theorem imageOf_toNat (letters : Char → Char) (letter : Char) :
    imageOf letters letter.toNat = (letters letter).toNat := by
  have valid : 0 ≤ (letter.toNat : Int) ∧ (letter.toNat : Int).toNat.isValidChar :=
    ⟨Int.natCast_nonneg _, letter.valid⟩
  rw [imageOf, if_pos valid, Int.toNat_natCast, Char.ofNat_toNat]

/-- A glyph is the code point of a letter or is kept. -/
theorem letter_or_kept (letters : Char → Char) (glyph : Glyph) :
    (∃ letter : Char, glyph = letter.toNat) ∨
      (∀ letter : Char, glyph ≠ letter.toNat) ∧ imageOf letters glyph = glyph := by
  by_cases valid : 0 ≤ glyph ∧ glyph.toNat.isValidChar
  · have code : (Char.ofNat glyph.toNat).toNat = glyph.toNat := by
      rw [Char.ofNat, dif_pos valid.2]
      rfl
    exact .inl ⟨.ofNat glyph.toNat, by rw [code, Int.toNat_of_nonneg valid.1]⟩
  · refine .inr ⟨?_, if_neg valid⟩
    rintro letter rfl
    exact valid ⟨Int.natCast_nonneg _, letter.valid⟩

/-- Letters that stay different have code points that stay different. -/
theorem imageOf_injective (injective : Function.Injective letters) :
    Function.Injective (imageOf letters) := by
  intro glyph other same
  rcases letter_or_kept letters glyph with ⟨letter, rfl⟩ | ⟨no_letter, kept⟩
  · rw [imageOf_toNat] at same
    rcases letter_or_kept letters other with ⟨second, rfl⟩ | ⟨no_letter, kept⟩
    · rw [imageOf_toNat] at same
      rw [injective (Char.toNat_inj.mp (Int.ofNat_inj.mp same))]
    · exact absurd (kept.symm.trans same.symm) (no_letter _)
  · rw [kept] at same
    rcases letter_or_kept letters other with ⟨second, rfl⟩ | ⟨-, kept_too⟩
    · rw [imageOf_toNat] at same
      exact absurd same (no_letter _)
    · exact same.trans kept_too

/-- Letters for letters are glyphs for glyphs. -/
def ofLetters (letters : Char → Char) (injective : Function.Injective letters)
    (newline : letters '\n' = '\n') (space : letters ' ' = ' ') (tab : letters '\t' = '\t') :
    Glyph.Exchange where
  image := imageOf letters
  injective := imageOf_injective injective
  newline := by
    have image := imageOf_toNat letters '\n'
    rwa [newline] at image
  space := by
    have image := imageOf_toNat letters ' '
    rwa [space] at image
  tab := by
    have image := imageOf_toNat letters '\t'
    rwa [tab] at image

/-- The code points of a text of other letters. -/
theorem codes_map (letters : Char → Char) (text : String) :
    codes (text.map letters) = (codes text).map (imageOf letters) := by
  rw [codes, codes, String.toList_map, List.map_map, List.map_map]
  exact List.map_congr_left fun letter _ => (imageOf_toNat letters letter).symm

end Glyph.Exchange

namespace Drawing

/-- Only the pattern of glyphs matters. Letters are put in place of the letters of a text, so that
different letters stay different and newlines, spaces and tabs are kept. Then the text is built as
before: to the same sprite, or it is refused for the same cause, with all that the cause tells, on
the same line and in the same column, and the caller's buffer is left the same. -/
theorem build_sees_pattern_only {letters : Char → Char} (injective : Function.Injective letters)
    (newline : letters '\n' = '\n') (space : letters ' ' = ' ') (tab : letters '\t' = '\t')
    (text : String) (buffer : Option (Array UInt8)) (alignTail : Bool) (lineOffset : Int) :
    build (Utf8.encode (text.map letters)) buffer alignTail lineOffset =
      build (Utf8.encode text) buffer alignTail lineOffset := by
  let exchange := Glyph.Exchange.ofLetters letters injective newline space tab
  have exchanged : codes (text.map letters) = (codes text).map exchange.image :=
    Glyph.Exchange.codes_map letters text
  exact build_redrawn (Scan.ofBytes_redrawn exchanged lineOffset) buffer alignTail

/-- A letter of one byte and a letter of three bytes change places, in a drawing and in a text with
a row that is too short. -/
theorem build_sees_pattern_only_swapped :
    let swapped : Char → Char := Equiv.swap '.' '█'
    "\n..██\n".map swapped = "\n██..\n" ∧
    (∃ sprite, compile "\n..██\n" false 0 = .ok sprite ∧
      compile "\n██..\n" false 0 = .ok sprite) ∧
    "\n..██\n..\n".map swapped = "\n██..\n██\n" ∧
    compile "\n██..\n██\n" false 5 = .error (.text (.located (.rowWidth 2 1) 8 3)) := by
  intro swapped
  have injective : Function.Injective swapped := (Equiv.swap '.' '█').injective
  have drawing : "\n..██\n".map swapped = "\n██..\n" :=
    String.toList_inj.mp (by rw [String.toList_map]; decide)
  have broken : "\n..██\n..\n".map swapped = "\n██..\n██\n" :=
    String.toList_inj.mp (by rw [String.toList_map]; decide)
  have same_drawing := build_sees_pattern_only injective (by decide) (by decide) (by decide)
    "\n..██\n" none false 0
  have same_fault := build_sees_pattern_only injective (by decide) (by decide) (by decide)
    "\n..██\n..\n" none false 5
  rw [drawing] at same_drawing
  rw [broken] at same_fault
  refine ⟨drawing, ?_, broken, (congrArg Prod.fst same_fault).trans (by decide)⟩
  have built : (compile "\n..██\n" false 0).toOption.isSome = true := by decide
  cases outcome : compile "\n..██\n" false 0 with
  | ok sprite => exact ⟨sprite, rfl, (congrArg Prod.fst same_drawing).trans outcome⟩
  | error fault =>
    rw [outcome] at built
    contradiction

end Drawing

end SpriteText
