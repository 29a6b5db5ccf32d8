import SpriteText.Proofs.Drawing.TwoPasses

/-!
# Buffers that the sizing does not give

The building pass compares depths and lengths only when the drawing has been read, but it checks
every rank against the depth on the way. Ranks are handed out in order, so a buffer of too few bits
is refused at the first glyph that has no rank in it, as a misfit of packing. Every other mismatch
is told as the two depths or as the two lengths (`Drawing.Verdict`).
-/

namespace SpriteText

/-- A depth that is not one bit is two bits. -/
theorem BitDepth.eq_two_of_ne_one {depth : BitDepth} (other : depth ≠ .one) : depth = .two := by
  cases depth <;> trivial

/-- A depth that is not two bits is one bit. -/
theorem BitDepth.eq_one_of_ne_two {depth : BitDepth} (other : depth ≠ .two) : depth = .one := by
  cases depth <;> trivial

namespace Drawing

variable {bytes : List UInt8} {lineOffset : Int}

/-- What comes of a building pass at a depth and in a buffer of a length, when the sizing of the
drawing is known. -/
inductive Verdict (needs : Sizing) (depth : BitDepth) (length : Nat) :
    Except DrawingFault Sprite → Prop where
  /-- The depth and the length are those that the sizing gives. -/
  | built {sprite : Sprite} : depth = needs.depth → length = needs.byteCount →
      Verdict needs depth length (.ok sprite)
  /-- The buffer has another length, and the lengths are compared. -/
  | otherLength {fault : Fault} : depth = needs.depth → length ≠ needs.byteCount →
      fault.kind = .capacity → fault.compared? = some (↑length, ↑needs.byteCount) →
      Verdict needs depth length (.error (.text fault))
  /-- There are more bits than needed, and the depths are told. -/
  | deep {fault : Fault} : depth = .two → needs.depth = .one → fault.kind = .sprite →
      fault.message = "inconsistent bits per pixel (sized for 2, text needs 1)" →
      Verdict needs depth length (.error (.text fault))
  /-- There are too few bits, and the third glyph is refused while it is packed. -/
  | shallow : depth = .one → needs.depth = .two →
      Verdict needs depth length (.error (.packing (.misfit 2 .one)))

/-- Whatever buffer the building pass is given for a drawing that the sizing accepts, it fails
exactly if the depth or the length is another than the sizing gives. Depths are looked at before
lengths. Too many bits and a wrong length are faults of the drawing that tell both depths or both
lengths; too few bits are no fault of the drawing but a rank that cannot be packed, which is always
that of the third glyph. -/
theorem verdict_of_sizing {needs : Sizing} (sized : sizing bytes lineOffset = .ok needs)
    (depth : BitDepth) (buffer : Array UInt8) (alignTail : Bool) :
    Verdict needs depth buffer.size (buildInto bytes depth.bits buffer alignTail lineOffset).1 := by
  cases read : Scan.ofBytes bytes lineOffset with
  | mk scan unread =>
    cases unread with
    | some fault =>
      rw [sizing_of_fault read] at sized
      contradiction
    | none =>
      obtain ⟨rows, finished⟩ := Scan.finished_of_ofBytes read
      rw [sizing_of_ofBytes read] at sized
      cases sized
      by_cases same : depth = scan.palette.depth
      · subst same
        by_cases length : buffer.size = scan.byteCount
        · rw [buildInto_of_fit read finished length]
          exact .built rfl length
        · rw [buildInto_of_other_length read finished length]
          exact .otherLength rfl length rfl rfl
      · cases depth with
        | one =>
          have needed : scan.palette.depth = .two := BitDepth.eq_two_of_ne_one (Ne.symm same)
          have shallow : BitDepth.one.bits < scan.palette.depth.bits := by rw [needed]; decide
          rw [buildInto_of_shallow read finished shallow]
          exact .shallow rfl needed
        | two =>
          have needed : scan.palette.depth = .one := BitDepth.eq_one_of_ne_two (Ne.symm same)
          have deep : scan.palette.depth.bits < BitDepth.two.bits := by rw [needed]; decide
          rw [buildInto_of_deep read finished deep]
          exact .deep rfl needed rfl (by rw [needed]; rfl)

/-- A drawing of four glyphs takes one byte at two bits, and a buffer of five bytes is refused for
its length. -/
theorem verdict_of_sizing_long_buffer :
    sizing (Utf8.encode "\n0011\n2233\n") 0 = .ok ⟨.two, 1⟩ ∧
    ∃ fault : Fault, fault.compared? = some (5, 1) ∧
      (buildInto (Utf8.encode "\n0011\n2233\n") 2 (.replicate 5 0x55) false 0).1 =
        .error (.text fault) := by
  have sized : sizing (Utf8.encode "\n0011\n2233\n") 0 = .ok ⟨.two, 1⟩ := by decide
  have verdict := verdict_of_sizing sized .two (.replicate 5 0x55) false
  refine ⟨sized, ?_⟩
  change Verdict _ _ _ (buildInto (Utf8.encode "\n0011\n2233\n") 2 (.replicate 5 0x55) false 0).1
    at verdict
  cases verdict with
  | otherLength _ _ _ compared => exact ⟨_, compared, rfl⟩
  | deep _ needed => contradiction

/-- The same drawing at one bit is not refused for the two depths, as it would be the other way
round, but for its third glyph. -/
theorem misfit_of_four_glyphs :
    sizing (Utf8.encode "\n0011\n2233\n") 0 = .ok ⟨.two, 1⟩ ∧
    (buildInto (Utf8.encode "\n0011\n2233\n") 1 #[] false 0).1 =
      .error (.packing (.misfit 2 .one)) ∧
    (buildInto (Utf8.encode "\n0011\n2233\n") 1 #[] false 0).1 ≠
      .error (.ofCause (.depth .one .two)) := by
  decide

end Drawing

end SpriteText
