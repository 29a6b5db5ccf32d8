import SpriteText.Proofs.Drawing.CallerBuffer
import SpriteText.Proofs.Sheet.Compile

/-!
# Blanks in a drawing

Blanks count for nothing. Two texts that start with a newline and are the same without their blanks
are built to the same sprite, or are refused for the same cause on the same line
(`Drawing.SameOutcome`). All that blanks move is the column of a fault.
-/

namespace SpriteText

/-! ## Visible glyphs -/

/-- What is drawn after some glyphs is drawn after the visible ones. -/
theorem Drawn.after_visible (read : List Glyph) : after (visible read) = after read :=
  foldlM_add_visible read {}

/-- All newlines are visible. -/
theorem count_visible (read : List Glyph) :
    (visible read).count Glyph.newline = read.count Glyph.newline :=
  List.count_filter (by decide)

/-- A visible glyph stands in the text behind the glyphs that are visible before it. -/
theorem exists_of_visible {read front back : List Glyph} {glyph : Glyph}
    (split : visible read = front ++ glyph :: back) :
    ∃ before after, read = before ++ glyph :: after ∧ visible before = front := by
  obtain ⟨before, rest, rfl, shown, later⟩ := List.filter_eq_append_iff.mp split
  obtain ⟨gap, after, rfl, hidden, -, -⟩ := List.filter_eq_cons_iff.mp later
  refine ⟨before ++ gap, after, (List.append_assoc _ _ _).symm, ?_⟩
  have none : gap.filter (fun glyph => !glyph.isBlank) = [] := List.filter_eq_nil_iff.mpr hidden
  rw [visible, List.filter_append, none, List.append_nil]
  exact shown

/-! ## Outcomes -/

/-- Two faults are the same but for their columns. -/
structure Fault.SameButColumn (fault other : Fault) : Prop where
  /-- The causes are the same, with all that they tell. -/
  cause : other.cause = fault.cause
  /-- The lines are the same. -/
  line : other.line = fault.line
  /-- The sprites are the same. -/
  sprite : other.sprite = fault.sprite

/-- Two attempts to build a drawing agree: both give the same sprite, or both are refused with
faults that are the same but for their columns. -/
inductive Drawing.SameOutcome :
    Except DrawingFault Sprite → Except DrawingFault Sprite → Prop
  /-- Both are built. -/
  | built (sprite : Sprite) : SameOutcome (.ok sprite) (.ok sprite)
  /-- Both are refused. -/
  | refused {fault other : Fault} (alike : fault.SameButColumn other) :
    SameOutcome (.error (.text fault)) (.error (.text other))

namespace Scan

/-- Two scans agree: both have read the same rows, or both stop with faults that are the same but
for their columns. -/
inductive Alike : Scan × Option ReadFault → Scan × Option ReadFault → Prop
  /-- Both have read the whole drawing. -/
  | finished {scan other : Scan} {rows : List (List Glyph)} (first : scan.Finished rows)
    (second : other.Finished rows) : Alike (scan, none) (other, none)
  /-- Both stop. -/
  | stopped {scan other : Scan} {fault again : Fault} (alike : fault.SameButColumn again) :
    Alike (scan, some (.text fault)) (other, some (.text again))

variable {rows others : List UInt8} {read reread : List Glyph}

/-- Scans of rows with the same visible glyphs agree. -/
theorem alike_ofRows (decoded : glyphs 1 rows = (read, none))
    (decoded_too : glyphs 1 others = (reread, none)) (same : visible read = visible reread)
    (lineOffset : Int) : Alike (ofRows rows lineOffset) (ofRows others lineOffset) := by
  -- The visible glyphs are all drawn, or one of them is the first that is refused in both texts.
  rcases Drawn.after_cases (visible read) with
    ⟨drawn, after⟩ | ⟨front, glyph, back, drawn, cause, split, before, refused⟩
  · have drawn_first : Drawn.after read = .ok drawn := (Drawn.after_visible read).symm.trans after
    have drawn_second : Drawn.after reread = .ok drawn := by
      rw [← Drawn.after_visible, ← same]
      exact after
    obtain ⟨scan, scanned, shows, line, -⟩ := ofRows_of_after decoded drawn_first lineOffset
    obtain ⟨other, scanned_too, shows_too, line_too, -⟩ :=
      ofRows_of_after decoded_too drawn_second lineOffset
    rw [scanned, scanned_too]
    cases open_row : drawn.unfinished? with
    | some cause =>
      refine .stopped ⟨rfl, ?_, rfl⟩
      show some other.grid.line = some scan.grid.line
      rw [line, line_too, ← count_visible read, ← count_visible reread, same]
    | none =>
      obtain ⟨some_row, complete⟩ := unfinished?_eq_none_iff.mp open_row
      rw [complete] at drawn_first drawn_second shows shows_too
      exact .finished (shows.finished (Drawn.sound_after drawn_first) some_row)
        (shows_too.finished (Drawn.sound_after drawn_second) some_row)
  · obtain ⟨first, rest, rfl, visible_first⟩ := exists_of_visible split
    obtain ⟨second, rest_too, rfl, visible_second⟩ := exists_of_visible (same.symm.trans split)
    have drawn_first : Drawn.after first = .ok drawn := by
      rw [← Drawn.after_visible, visible_first]
      exact before
    have drawn_second : Drawn.after second = .ok drawn := by
      rw [← Drawn.after_visible, visible_second]
      exact before
    have stopped := ofRows_of_refused decoded drawn_first refused lineOffset
    have stopped_too := ofRows_of_refused decoded_too drawn_second refused lineOffset
    rw [← count_visible first, visible_first] at stopped
    rw [← count_visible second, visible_second] at stopped_too
    rw [← Prod.eta (ofRows rows lineOffset), ← Prod.eta (ofRows others lineOffset), stopped,
      stopped_too]
    exact .stopped ⟨rfl, rfl, rfl⟩

/-- Scans of texts that are the same without their blanks agree. -/
theorem alike_ofBytes {text other : String} (leading : codes text = Glyph.newline :: read)
    (leading_too : codes other = Glyph.newline :: reread) (same : visible read = visible reread)
    (lineOffset : Int) :
    Alike (ofBytes (Utf8.encode text) lineOffset) (ofBytes (Utf8.encode other) lineOffset) := by
  obtain ⟨tail, encoded, decoded⟩ := encode_of_codes leading
  obtain ⟨tail_too, encoded_too, decoded_too⟩ := encode_of_codes leading_too
  rw [encoded, encoded_too]
  exact alike_ofRows decoded decoded_too same lineOffset

end Scan

namespace Drawing

variable {bytes others : List UInt8} {lineOffset : Int} {scan : Scan} {rows : List (List Glyph)}

/-- A drawing is built in the caller's buffer if the buffer has the length of its data. -/
theorem build_some_of_finished (done : Scan.ofBytes bytes lineOffset = (scan, none))
    (finished : scan.Finished rows) (given : Array UInt8) (alignTail : Bool) :
    (build bytes (some given) alignTail lineOffset).1 =
      if given.size = scan.byteCount then .ok (scan.sprite alignTail finished.length_pixels)
      else .error (.ofCause (.capacity scan.byteCount given.size)) := by
  rw [build_eq_of_finished done finished]
  split <;> rfl

/-- Drawings whose scans agree are built alike. -/
theorem sameOutcome_build
    (alike : Scan.Alike (Scan.ofBytes bytes lineOffset) (Scan.ofBytes others lineOffset))
    (buffer : Option (Array UInt8)) (alignTail : Bool) :
    SameOutcome (build bytes buffer alignTail lineOffset).1
      (build others buffer alignTail lineOffset).1 := by
  cases first : Scan.ofBytes bytes lineOffset with
  | mk scan unread =>
    cases second : Scan.ofBytes others lineOffset with
    | mk other unread_too =>
      rw [first, second] at alike
      cases alike with
      | stopped alike =>
        rw [build_of_sizing_error (sizing_of_fault first),
          build_of_sizing_error (sizing_of_fault second)]
        exact .refused alike
      | finished read reread =>
        have sprites := read.sprite_eq reread alignTail
        cases buffer with
        | none =>
          rw [build_of_finished first read, build_of_finished second reread, sprites]
          exact .built _
        | some given =>
          have counts : scan.byteCount = other.byteCount :=
            congrArg (fun sprite : Sprite => sprite.depth.bytesFor (sprite.width * sprite.height))
              sprites
          rw [build_some_of_finished first read, build_some_of_finished second reread, sprites,
            counts]
          split
          · exact .built _
          · exact .refused ⟨rfl, rfl, rfl⟩

/-- Blanks are irrelevant. Texts that start with a newline and are the same without their blanks,
wherever these stand after it, are built to the same sprite, or are refused for the same cause on
the same line. -/
theorem build_ignores_blanks {text other : String} {read reread : List Glyph}
    (leading : codes text = Glyph.newline :: read)
    (leading_too : codes other = Glyph.newline :: reread) (same : visible read = visible reread)
    (buffer : Option (Array UInt8)) (alignTail : Bool) (lineOffset : Int) :
    SameOutcome (build (Utf8.encode text) buffer alignTail lineOffset).1
      (build (Utf8.encode other) buffer alignTail lineOffset).1 :=
  sameOutcome_build (Scan.alike_ofBytes leading leading_too same lineOffset) buffer alignTail

/-- Blanks between the halves of a pair and after the last newline change nothing, and a broken row
stays on its line. -/
theorem build_ignores_blanks_within_pairs :
    (∃ sprite, compile "\n##..\n..##\n" true 0 = .ok sprite ∧
      compile "\n\t# #..\n..#\t# \n \t" true 0 = .ok sprite) ∧
    ∃ fault other, compile "\n##\n#.\n" false 7 = .error (.text fault) ∧
      compile "\n # #\n#\t .\n" false 7 = .error (.text other) ∧ fault.SameButColumn other := by
  constructor
  · have alike := @build_ignores_blanks "\n##..\n..##\n" "\n\t# #..\n..#\t# \n \t" _ _ rfl rfl
      (by decide) none true 0
    have built : (compile "\n##..\n..##\n" true 0).toOption.isSome = true := by decide
    rw [compile] at built ⊢
    rw [compile]
    generalize (build (Utf8.encode "\n##..\n..##\n") none true 0).1 = first,
      (build (Utf8.encode "\n\t# #..\n..#\t# \n \t") none true 0).1 = second at alike built ⊢
    cases alike with
    | built sprite => exact ⟨sprite, rfl, rfl⟩
    | refused => contradiction
  · have alike := @build_ignores_blanks "\n##\n#.\n" "\n # #\n#\t .\n" _ _ rfl rfl (by decide)
      none false 7
    have refused : (compile "\n##\n#.\n" false 7).toOption.isSome = false := by decide
    rw [compile] at refused ⊢
    rw [compile]
    generalize (build (Utf8.encode "\n##\n#.\n") none false 7).1 = first,
      (build (Utf8.encode "\n # #\n#\t .\n") none false 7).1 = second at alike refused ⊢
    cases alike with
    | built => contradiction
    | refused alike => exact ⟨_, _, rfl, rfl, alike⟩

end Drawing

end SpriteText
