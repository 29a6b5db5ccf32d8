import SpriteText.Drawing.Scan
import SpriteText.Proofs.Drawing.Drawn
import SpriteText.Proofs.Utf8.Encoding

/-!
# The progress of a scan

A scan shows what has been drawn (`Scan.Shows`): each glyph it takes is drawn, and each glyph it
refuses cannot be drawn, for the same cause. A run over the rows of a drawing therefore follows the
drawing, and the place of the scan is the line and column of the last glyph read.
-/

namespace SpriteText

namespace Palette

variable {palette : Palette} {glyph : Glyph}

/-- A glyph that is held keeps its rank. -/
theorem allocate_of_mem (held : glyph ∈ palette.glyphs) :
    palette.allocate glyph = .ok (palette, palette.glyphs.idxOf glyph) := by
  simp [allocate, held]

/-- A new glyph is appended while there is room. -/
theorem allocate_of_not_mem (absent : glyph ∉ palette.glyphs) (room : palette.glyphs.length < 4) :
    ∃ next, palette.allocate glyph = .ok (next, palette.glyphs.length) ∧
      next.glyphs = palette.glyphs ++ [glyph] := by
  simp [allocate, absent, room]

/-- A fifth glyph is refused. -/
theorem allocate_of_full (absent : glyph ∉ palette.glyphs) (full : ¬palette.glyphs.length < 4) :
    palette.allocate glyph = .error .tooManyGlyphs := by
  simp [allocate, absent, full]

end Palette

/-! ## Grids -/

namespace Grid

variable {grid : Grid} {glyph twin : Glyph}

/-- The grid with the current row closed. -/
def closeRow (grid : Grid) : Grid :=
  { grid with
    rowWidth := 0, width := some (grid.width.getD grid.rowWidth), height := grid.height + 1,
    line := grid.line + 1, column := 0 }

/-- A row does not end within a pair. -/
theorem newline_of_pending (pending : grid.pending = some twin) :
    grid.newline = .error (grid.advance.fault .pairMismatch) := by
  simp [newline, advance, pending]

/-- The first row is closed whatever its width. -/
theorem newline_of_first (pending : grid.pending = none) (first : grid.width = none) :
    grid.newline = .ok grid.closeRow := by
  simp [newline, advance, closeRow, pending, first]

/-- A later row is closed if it has the width of the first. -/
theorem newline_of_width {width : Nat} (pending : grid.pending = none)
    (fixed : grid.width = some width) :
    grid.newline = if grid.rowWidth = width then .ok grid.closeRow
      else .error (grid.advance.fault (.rowWidth width grid.rowWidth)) := by
  simp [newline, advance, closeRow, pending, fixed]

/-- A glyph opens a pair. -/
theorem glyph_of_open (pending : grid.pending = none) :
    grid.glyph glyph = .ok ({ grid.advance with pending := some glyph }, none) := by
  simp [Grid.glyph, advance, pending]

/-- A glyph completes the pair of its twin and no other. -/
theorem glyph_of_pending (pending : grid.pending = some twin) (glyph : Glyph) :
    grid.glyph glyph = if glyph = twin then
        .ok ({ grid.advance with pending := none, rowWidth := grid.rowWidth + 1 }, some glyph)
      else .error (grid.advance.fault .pairMismatch) := by
  simp [Grid.glyph, advance, pending]

end Grid

/-! ## Lines -/

/-- The glyphs after the last newline. -/
def lastLine (read : List Glyph) : List Glyph :=
  (read.reverse.takeWhile fun glyph => glyph ≠ Glyph.newline).reverse

/-- A newline starts a line, and any other glyph lengthens it. -/
theorem lastLine_concat (read : List Glyph) (glyph : Glyph) :
    lastLine (read ++ [glyph]) =
      if glyph = Glyph.newline then [] else lastLine read ++ [glyph] := by
  by_cases ending : glyph = Glyph.newline <;> simp [lastLine, ending]

/-- A newline in front of a text does not change its last line. -/
theorem lastLine_newline_cons (read : List Glyph) :
    lastLine (Glyph.newline :: read) = lastLine read := by
  rw [lastLine, List.reverse_cons, List.takeWhile_append]
  split
  · rename_i whole
    rw [lastLine, (List.takeWhile_prefix _).eq_of_length whole]
    simp
  · rfl

/-! ## Scans -/

namespace Scan

/-- A scan shows what has been drawn. -/
structure Shows (scan : Scan) (drawn : Drawn) : Prop where
  /-- The same glyph waits. -/
  pending : scan.grid.pending = drawn.waiting
  /-- The pixels of the open row are counted. -/
  rowWidth : scan.grid.rowWidth = drawn.row.length
  /-- The first row has fixed the width. -/
  width : scan.grid.width = drawn.rows.head?.map List.length
  /-- The closed rows are counted. -/
  height : scan.grid.height = drawn.rows.length
  /-- The glyphs are held in the order of their appearance. -/
  glyphs : scan.palette.glyphs = drawn.pixels.eraseDups
  /-- The ranks of the pixels have been handed out. -/
  pixels : scan.pixels = ranked drawn.pixels

variable {scan : Scan} {drawn later : Drawn} {glyph : Glyph} {cause : Cause}

/-- Before the first glyph nothing is drawn. -/
theorem shows_start (lineOffset : Int) : (start lineOffset).Shows {} := by
  constructor <;> rfl

/-- A scan with its row closed shows the row closed. -/
theorem Shows.closeRow (shows : scan.Shows drawn) (complete : drawn.waiting = none) :
    Shows { scan with grid := scan.grid.closeRow } { rows := drawn.rows ++ [drawn.row] } := by
  have same : Drawn.pixels { rows := drawn.rows ++ [drawn.row] } = drawn.pixels := by
    simp [Drawn.pixels]
  constructor
  case pending => exact shows.pending.trans complete
  case rowWidth => rfl
  case width =>
    have fixed := shows.width
    have wide := shows.rowWidth
    cases rows : drawn.rows <;> simp_all [Grid.closeRow]
  case height => simp [Grid.closeRow, shows.height]
  case glyphs => rw [same]; exact shows.glyphs
  case pixels => rw [same]; exact shows.pixels

/-- A newline closes the row, or is refused for the cause why the row cannot be closed. -/
theorem Shows.newline (shows : scan.Shows drawn) :
    match drawn.close with
    | .ok later => ∃ grid, scan.grid.newline = .ok grid ∧ Shows { scan with grid } later ∧
        grid.line = scan.grid.line + 1 ∧ grid.column = 0
    | .error cause => scan.grid.newline = .error (scan.grid.advance.fault cause) := by
  have pending := shows.pending
  have width := shows.width
  cases waiting : drawn.waiting with
  | some twin =>
    rw [waiting] at pending
    simp only [Drawn.close, waiting]
    exact Grid.newline_of_pending pending
  | none =>
    rw [waiting] at pending
    cases head : drawn.rows.head? with
    | none =>
      rw [head, Option.map_none] at width
      simp only [Drawn.close, waiting, head]
      exact ⟨_, Grid.newline_of_first pending width, shows.closeRow waiting, rfl, rfl⟩
    | some first =>
      rw [head, Option.map_some] at width
      simp only [Drawn.close, waiting, head]
      have closing := Grid.newline_of_width pending width
      rw [shows.rowWidth] at closing
      by_cases same : drawn.row.length = first.length
      · rw [if_pos same] at closing ⊢
        exact ⟨_, closing, shows.closeRow waiting, rfl, rfl⟩
      · rw [if_neg same] at closing ⊢
        exact closing

/-- A completed pair is drawn with the rank that the palette gives it. -/
theorem Shows.complete (shows : scan.Shows drawn) {palette : Palette}
    (glyphs : palette.glyphs = (drawn.pixels ++ [glyph]).eraseDups) :
    Shows {
        grid := { scan.grid.advance with pending := none, rowWidth := scan.grid.rowWidth + 1 }
        palette, emitted := palette.glyphs.idxOf glyph :: scan.emitted }
      { drawn with row := drawn.row ++ [glyph], waiting := none } := by
  have longer : Drawn.pixels { drawn with row := drawn.row ++ [glyph], waiting := none } =
      drawn.pixels ++ [glyph] := by simp [Drawn.pixels]
  have ranks : scan.emitted.reverse = ranked drawn.pixels := shows.pixels
  constructor
  case pending => rfl
  case rowWidth => simp [shows.rowWidth]
  case width => exact shows.width
  case height => exact shows.height
  case glyphs => rw [longer]; exact glyphs
  case pixels =>
    rw [longer, ranked_concat, ← ranks, ← glyphs]
    exact List.reverse_cons

/-- A glyph of a row is drawn, or is refused for the cause why it cannot be. -/
theorem Shows.mark (shows : scan.Shows drawn) (visible : glyph.isBlank = false)
    (inked : glyph ≠ Glyph.newline) :
    match drawn.mark glyph with
    | .ok later => ∃ next, scan.feed glyph = .ok next ∧ next.Shows later ∧
        next.grid.line = scan.grid.line ∧ next.grid.column = scan.grid.column + 1
    | .error cause => scan.feed glyph = .error (scan.grid.advance.fault cause) := by
  have pending := shows.pending
  cases waiting : drawn.waiting with
  | none =>
    rw [waiting] at pending
    simp only [Drawn.mark, waiting]
    refine ⟨{ scan with grid := { scan.grid.advance with pending := some glyph } },
      ?_, ?_, rfl, rfl⟩
    · simp [feed, visible, inked, Grid.glyph_of_open pending]
    · exact ⟨rfl, shows.rowWidth, shows.width, shows.height, shows.glyphs, shows.pixels⟩
  | some twin =>
    rw [waiting] at pending
    have completing := Grid.glyph_of_pending pending glyph
    simp only [Drawn.mark, waiting]
    by_cases same : glyph = twin
    · rw [if_pos same] at completing
      rw [if_neg (not_not.mpr same)]
      have distinct := eraseDups_concat drawn.pixels glyph
      by_cases held : glyph ∈ drawn.pixels
      · have known : glyph ∈ scan.palette.glyphs := by
          rw [shows.glyphs, List.mem_eraseDups]
          exact held
        rw [if_pos held, ← shows.glyphs] at distinct
        rw [if_neg (fun refused => refused.1 held)]
        refine ⟨_, ?_, shows.complete distinct.symm, rfl, rfl⟩
        simp [feed, visible, inked, completing, Palette.allocate_of_mem known]
      · have unknown : glyph ∉ scan.palette.glyphs := by
          rw [shows.glyphs, List.mem_eraseDups]
          exact held
        rw [if_neg held, ← shows.glyphs] at distinct
        by_cases room : scan.palette.glyphs.length < 4
        · obtain ⟨palette, allocated, appended⟩ := Palette.allocate_of_not_mem unknown room
          rw [if_neg (fun refused => Nat.not_le_of_lt (shows.glyphs ▸ room) refused.2)]
          refine ⟨_, ?_, shows.complete (appended.trans distinct.symm), rfl, rfl⟩
          simp [feed, visible, inked, completing, allocated, appended, List.idxOf_append, unknown]
        · rw [if_pos ⟨held, shows.glyphs ▸ Nat.le_of_not_lt room⟩]
          simp [feed, visible, inked, completing, Palette.allocate_of_full unknown room, Grid.fault]
    · rw [if_neg same] at completing
      rw [if_pos same]
      simp [feed, visible, inked, completing]

/-- A glyph is drawn, and the place moves past it, or it is refused where it stands for the cause
why it cannot be drawn. -/
theorem Shows.feed (shows : scan.Shows drawn) (glyph : Glyph) :
    match drawn.add glyph with
    | .ok later => ∃ next, scan.feed glyph = .ok next ∧ next.Shows later ∧
        next.grid.line = (if glyph = Glyph.newline then scan.grid.line + 1 else scan.grid.line) ∧
        next.grid.column = if glyph = Glyph.newline then 0 else scan.grid.column + 1
    | .error cause => scan.feed glyph = .error (scan.grid.advance.fault cause) := by
  unfold Drawn.add
  by_cases blank : glyph.isBlank
  · have other := Glyph.ne_newline_of_isBlank blank
    rw [if_pos blank, if_neg other, if_neg other]
    refine ⟨{ scan with grid := scan.grid.blank }, by simp [Scan.feed, blank], ?_, rfl, rfl⟩
    exact ⟨shows.pending, shows.rowWidth, shows.width, shows.height, shows.glyphs, shows.pixels⟩
  · rw [if_neg blank]
    by_cases ending : glyph = Glyph.newline
    · subst ending
      rw [if_pos rfl]
      have closing := shows.newline
      cases closed : drawn.close with
      | ok later =>
        rw [closed] at closing
        obtain ⟨grid, taken, showing, place⟩ := closing
        exact ⟨_, by simp [Scan.feed, blank, taken], showing, place⟩
      | error cause =>
        rw [closed] at closing
        simp [Scan.feed, blank, closing]
    · rw [if_neg ending, if_neg ending, if_neg ending]
      exact shows.mark (Bool.eq_false_iff.mpr blank) ending

/-! ## Runs -/

/-- A run over two texts goes on from the first, unless a fault stops it there. -/
theorem run_append (scan : Scan) (front back : List Glyph) :
    scan.run (front ++ back) = match scan.run front with
      | (next, none) => next.run back
      | (next, some fault) => (next, some fault) := by
  induction front generalizing scan with
  | nil => rfl
  | cons glyph front ih =>
    simp only [List.cons_append, run]
    cases scan.feed glyph with
    | ok next => exact ih next
    | error fault => rfl

/-- A run over glyphs that are all drawn shows what is drawn, at the place of the last one. -/
theorem run_of_after {read : List Glyph} (done : Drawn.after read = .ok drawn)
    (lineOffset : Int) :
    ∃ scan, (start lineOffset).run read = (scan, none) ∧ scan.Shows drawn ∧
      scan.grid.line = lineOffset + 2 + read.count Glyph.newline ∧
      scan.grid.column = (lastLine read).length := by
  induction read using List.reverseRecOn generalizing drawn with
  | nil =>
    obtain rfl : {} = drawn := Except.ok.inj done
    exact ⟨_, rfl, shows_start lineOffset, by simp [start], by simp [start, lastLine]⟩
  | append_singleton read glyph ih =>
    obtain ⟨earlier, before, added⟩ := Drawn.before_of_after done
    obtain ⟨scan, reached, shows, line, column⟩ := ih before
    have step := shows.feed glyph
    rw [added] at step
    obtain ⟨next, fed, showing, nextLine, nextColumn⟩ := step
    refine ⟨next, ?_, showing, ?_, ?_⟩
    · simp [run_append, reached, run, fed]
    · rw [nextLine, line, List.count_append]
      by_cases ending : glyph = Glyph.newline
      · simp [ending, Int.add_assoc]
      · simp [ending]
    · rw [nextColumn, column, lastLine_concat]
      by_cases ending : glyph = Glyph.newline <;> simp [ending]

/-- A run stops at the first glyph that cannot be drawn, with its cause and its place. -/
theorem run_of_refused {front : List Glyph} (done : Drawn.after front = .ok drawn)
    (refused : drawn.add glyph = .error cause) (back : List Glyph) (lineOffset : Int) :
    ((start lineOffset).run (front ++ glyph :: back)).2 =
      some (.located cause (lineOffset + 2 + front.count Glyph.newline)
        ((lastLine front).length + 1)) := by
  obtain ⟨scan, reached, shows, line, column⟩ := run_of_after done lineOffset
  have step := shows.feed glyph
  rw [refused] at step
  simp [run_append, reached, run, step, Grid.fault, Grid.advance, line, column]

end Scan

/-- Why the text must not end here: within a row, or before the first. -/
def Drawn.unfinished? (drawn : Drawn) : Option Cause :=
  if drawn.waiting.isSome || drawn.row ≠ [] then some .unterminatedRow
  else if drawn.rows = [] then some .noRows
  else none

namespace Scan

variable {scan : Scan} {drawn : Drawn}

/-- The end of the text is a fault at the last place exactly when the drawing is not finished. -/
theorem Shows.finish (shows : scan.Shows drawn) :
    scan.grid.finish = match drawn.unfinished? with
      | none => .ok ()
      | some cause => .error (scan.grid.fault cause) := by
  have open_row : scan.grid.rowWidth ≠ 0 ↔ drawn.row ≠ [] := by
    rw [shows.rowWidth, ne_eq, List.length_eq_zero_iff]
  have no_row : scan.grid.width.isNone = decide (drawn.rows = []) := by
    rw [shows.width]
    cases drawn.rows <;> simp
  simp only [Grid.finish, Drawn.unfinished?, shows.pending, open_row, no_row, decide_eq_true_eq]
  split
  · rfl
  · split <;> rfl

/-- A scan of the rows is the run over their glyphs, and its end when there is no other fault. -/
theorem ofRows_of_after {rows : List UInt8} {read : List Glyph}
    (decoded : glyphs 1 rows = (read, none)) (done : Drawn.after read = .ok drawn)
    (lineOffset : Int) :
    ∃ scan, ofRows rows lineOffset =
        (scan, drawn.unfinished?.map fun cause => .text (scan.grid.fault cause)) ∧
      scan.Shows drawn ∧ scan.grid.line = lineOffset + 2 + read.count Glyph.newline ∧
      scan.grid.column = (lastLine read).length := by
  obtain ⟨scan, reached, shows, place⟩ := run_of_after done lineOffset
  refine ⟨scan, ?_, shows, place⟩
  have ending := shows.finish
  cases unfinished : drawn.unfinished? with
  | none =>
    rw [unfinished] at ending
    simp [ofRows, decoded, reached, ending]
  | some cause =>
    rw [unfinished] at ending
    simp [ofRows, decoded, reached, ending]

/-- A scan of the rows stops at the first glyph that cannot be drawn. -/
theorem ofRows_of_refused {rows : List UInt8} {front back : List Glyph} {glyph : Glyph}
    {cause : Cause} {broken : Option Utf8.LeadFault}
    (decoded : glyphs 1 rows = (front ++ glyph :: back, broken))
    (done : Drawn.after front = .ok drawn) (refused : drawn.add glyph = .error cause)
    (lineOffset : Int) :
    (ofRows rows lineOffset).2 = some (.text (.located cause
      (lineOffset + 2 + front.count Glyph.newline) ((lastLine front).length + 1))) := by
  have stopped := run_of_refused done refused back lineOffset
  cases reached : (start lineOffset).run (front ++ glyph :: back) with
  | mk scan fault =>
    rw [reached] at stopped
    simp only at stopped
    simp [ofRows, decoded, reached, stopped]

/-- A scan of the rows stops at bytes that are no code point, if all glyphs before are drawn. -/
theorem ofRows_of_broken {rows : List UInt8} {read : List Glyph} {fault : Utf8.LeadFault}
    (decoded : glyphs 1 rows = (read, some fault)) (done : Drawn.after read = .ok drawn)
    (lineOffset : Int) : (ofRows rows lineOffset).2 = some (.decoding fault) := by
  obtain ⟨scan, reached, -⟩ := run_of_after done lineOffset
  simp [ofRows, decoded, reached]

/-! ## Whole drawings -/

/-- A drawing is finished if nothing is left open and there is a row. -/
theorem unfinished?_eq_none_iff :
    drawn.unfinished? = none ↔ drawn.rows ≠ [] ∧ drawn = { rows := drawn.rows } := by
  obtain ⟨rows, row, waiting⟩ := drawn
  simp only [Drawn.unfinished?, Drawn.mk.injEq, true_and]
  cases waiting <;> cases row <;> cases rows <;> simp

/-- A scan has read a whole drawing of these rows. -/
structure Finished (scan : Scan) (rows : List (List Glyph)) : Prop where
  /-- The rows are drawn, and no further row is open. -/
  shows : scan.Shows { rows }
  /-- There is a row. -/
  some_row : rows ≠ []
  /-- Every row has the width of the picture. -/
  equal : ∀ row ∈ rows, row.length = scan.width

/-- A scan that shows closed rows only has read a whole drawing. -/
theorem Shows.finished {rows : List (List Glyph)} {read : List Glyph} (shows : scan.Shows { rows })
    (sound : Drawn.Sound { rows } read) (some_row : rows ≠ []) : scan.Finished rows := by
  refine ⟨shows, some_row, ?_⟩
  intro row member
  rw [Scan.width, shows.width, sound.equal row member, Option.getD_some]

/-- How the scan of a drawing ends. -/
inductive Ends (lineOffset : Int) : List UInt8 → Scan × Option ReadFault → Prop where
  /-- There is no leading newline. -/
  | missing {bytes : List UInt8} {scan : Scan} : (∀ tail, bytes ≠ 0x0A :: tail) →
      Ends lineOffset bytes (scan, some (.text (.located .missingNewline (lineOffset + 1) 1)))
  /-- A glyph cannot be drawn. -/
  | refused {tail : List UInt8} {front back : List Glyph} {glyph : Glyph}
      {broken : Option Utf8.LeadFault} {drawn : Drawn} {cause : Cause} {scan : Scan} :
      glyphs 1 tail = (front ++ glyph :: back, broken) → Drawn.after front = .ok drawn →
      drawn.add glyph = .error cause →
      Ends lineOffset (0x0A :: tail) (scan, some (.text (.located cause
        (lineOffset + 2 + front.count Glyph.newline) ((lastLine front).length + 1))))
  /-- Some bytes are no code point. -/
  | broken {tail : List UInt8} {read : List Glyph} {fault : Utf8.LeadFault} {drawn : Drawn}
      {scan : Scan} : glyphs 1 tail = (read, some fault) → Drawn.after read = .ok drawn →
      Ends lineOffset (0x0A :: tail) (scan, some (.decoding fault))
  /-- The text ends too early. -/
  | unfinished {tail : List UInt8} {read : List Glyph} {drawn : Drawn} {cause : Cause}
      {scan : Scan} : glyphs 1 tail = (read, none) → Drawn.after read = .ok drawn →
      drawn.unfinished? = some cause →
      Ends lineOffset (0x0A :: tail) (scan, some (.text (.located cause
        (lineOffset + 2 + read.count Glyph.newline) (lastLine read).length)))
  /-- The whole drawing is read. -/
  | finished {tail : List UInt8} {read : List Glyph} {rows : List (List Glyph)} {scan : Scan} :
      glyphs 1 tail = (read, none) → Drawn.after read = .ok { rows } → scan.Finished rows →
      Ends lineOffset (0x0A :: tail) (scan, none)

/-- A scan of the rows ends with the first glyph that cannot be drawn, with the first bytes that are
no code point, or with the text. -/
theorem ends_ofRows (tail : List UInt8) (lineOffset : Int) :
    Ends lineOffset (0x0A :: tail) (ofRows tail lineOffset) := by
  cases decoded : glyphs 1 tail with
  | mk read broken =>
    rcases Drawn.after_cases read with ⟨drawn, after⟩ |
        ⟨front, glyph, back, drawn, cause, split, before, refused⟩
    · cases broken with
      | some fault =>
        have stopped := ofRows_of_broken decoded after lineOffset
        rw [← Prod.eta (ofRows tail lineOffset), stopped]
        exact .broken decoded after
      | none =>
        obtain ⟨scan, scanned, shows, line, column⟩ := ofRows_of_after decoded after lineOffset
        rw [scanned]
        cases open_row : drawn.unfinished? with
        | some cause =>
          rw [Option.map_some, Grid.fault, line, column]
          exact .unfinished decoded after open_row
        | none =>
          obtain ⟨some_row, complete⟩ := unfinished?_eq_none_iff.mp open_row
          rw [complete] at after shows
          exact .finished decoded after (shows.finished (Drawn.sound_after after) some_row)
    · rw [split] at decoded
      have stopped := ofRows_of_refused decoded before refused lineOffset
      rw [← Prod.eta (ofRows tail lineOffset), stopped]
      exact .refused decoded before refused

/-- A scan ends in one of these ways. -/
theorem ends_ofBytes (bytes : List UInt8) (lineOffset : Int) :
    Ends lineOffset bytes (ofBytes bytes lineOffset) := by
  unfold ofBytes
  split
  · exact ends_ofRows _ lineOffset
  · rename_i other
    exact .missing other

end Scan

/-! ## Drawings given as text -/

/-- The code points of a text as glyphs. -/
def codes (text : String) : List Glyph := text.toList.map fun letter => (letter.toNat : Int)

namespace Scan

variable {text : String}

/-- Encoded letters are decoded as their code points. -/
theorem glyphs_flatMap (offset : Nat) (letters : List Char) :
    glyphs offset (letters.flatMap String.utf8EncodeChar) =
      (letters.map fun letter => (letter.toNat : Int), none) := by
  simp [glyphs, Utf8.codePoints, Utf8.codePointsFrom_flatMap]

/-- A text whose bytes start with a newline is a newline and the code points of the other bytes. -/
theorem codes_of_encode {tail : List UInt8} (encoded : Utf8.encode text = 0x0A :: tail) :
    ∃ rest, codes text = Glyph.newline :: rest ∧ glyphs 1 tail = (rest, none) := by
  obtain ⟨letters, split, rfl⟩ := Utf8.encode_eq_newline_cons_iff.mp encoded
  refine ⟨_, ?_, glyphs_flatMap 1 letters⟩
  rw [codes, split, List.map_cons]
  rfl

/-- A text that starts with a newline is encoded as a newline and the bytes of the other letters. -/
theorem encode_of_codes {rest : List Glyph} (leading : codes text = Glyph.newline :: rest) :
    ∃ tail, Utf8.encode text = 0x0A :: tail ∧ glyphs 1 tail = (rest, none) := by
  obtain ⟨letter, letters, split, first, rfl⟩ := List.map_eq_cons_iff.mp leading
  have newline : letter = '\n' := Char.toNat_inj.mp (Int.ofNat_inj.mp first)
  subst newline
  exact ⟨_, Utf8.encode_eq_newline_cons_iff.mpr ⟨letters, split, rfl⟩, glyphs_flatMap 1 letters⟩

end Scan

end SpriteText
