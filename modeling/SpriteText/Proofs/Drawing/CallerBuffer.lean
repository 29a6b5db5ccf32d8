import SpriteText.Proofs.Drawing.TwoPasses

/-!
# The caller's buffer

The building pass writes into the caller's buffer while it reads the drawing, and it can fail after
bytes have been written. It is only begun once the sizing has read the whole drawing and the buffer
has the length that the sizing gives, and then none of its faults can come up. So a buffer is either
filled with the data of the sprite or left as it was.
-/

namespace SpriteText.Drawing

variable {bytes : List UInt8} {lineOffset : Int} {scan : Scan} {rows : List (List Glyph)}

/-- A drawing that is read to its end is built in a buffer of the length of its data, which it
fills. A buffer of another length is refused and not written. -/
theorem build_eq_of_finished (done : Scan.ofBytes bytes lineOffset = (scan, none))
    (finished : scan.Finished rows) (given : Array UInt8) (alignTail : Bool) :
    build bytes (some given) alignTail lineOffset =
      if given.size = scan.byteCount then
        (.ok (scan.sprite alignTail finished.length_pixels),
          some (scan.sprite alignTail finished.length_pixels).data)
      else (.error (.ofCause (.capacity scan.byteCount given.size)), some given) := by
  simp only [build, sizing_of_ofBytes done]
  by_cases size : given.size = scan.byteCount
  · rw [if_neg (not_not.mpr size), if_pos size, buildInto_eq_of_fit done finished size alignTail]
  · rw [if_pos size, if_neg size]

/-- Building is atomic on the caller's buffer. Whatever bytes are given as a drawing, and whatever
the buffer holds before: if a sprite is built, the buffer holds its data afterwards and nothing
else, and if the drawing is refused for any fault, the buffer is as it was. A sprite is built
exactly in a buffer of the length that the sizing gives. -/
theorem build_fills_or_keeps (bytes : List UInt8) (given : Array UInt8) (alignTail : Bool)
    (lineOffset : Int) :
    (match build bytes (some given) alignTail lineOffset with
      | (.ok sprite, left) => left = some sprite.data
      | (.error _, left) => left = some given) ∧
    ((∃ sprite, (build bytes (some given) alignTail lineOffset).1 = .ok sprite) ↔
      ∃ depth, sizing bytes lineOffset = .ok ⟨depth, given.size⟩) := by
  cases read : Scan.ofBytes bytes lineOffset with
  | mk scan unread =>
    cases unread with
    | some fault =>
      have refused := sizing_of_fault read
      rw [build_eq_of_sizing_error refused, refused]
      exact ⟨rfl, by simp⟩
    | none =>
      obtain ⟨rows, finished⟩ := Scan.finished_of_ofBytes read
      rw [build_eq_of_finished read finished, sizing_of_ofBytes read]
      by_cases size : given.size = scan.byteCount
      · rw [if_pos size]
        exact ⟨rfl, by simp [size]⟩
      · rw [if_neg size]
        exact ⟨rfl, by simp [Ne.symm size]⟩

end SpriteText.Drawing
