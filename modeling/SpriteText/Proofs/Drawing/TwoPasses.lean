import SpriteText.Drawing.Build
import SpriteText.Proofs.Drawing.Progress
import SpriteText.Proofs.Packing.Stream

/-!
# The two passes over a drawing

A drawing is scanned twice, once to size the buffer and once to fill it. A finished scan has handed
out a rank for every place of the picture, and each rank fits the depth that is known only at the
end (`Scan.Finished`), so the packed pixels are the data of a sprite (`Scan.sprite`). The building
pass gives this sprite in a buffer of the length and the depth that the sizing pass gives. In any
other buffer it is refused: for too few bits at the first rank that is missing, for too many bits or
another length at the end.
-/

namespace SpriteText

/-- The number of glyphs is within the ranks of the depth chosen for it. -/
theorem BitDepth.le_ranks_forGlyphCount {count : Nat} (few : count ≤ 4) :
    count ≤ (BitDepth.forGlyphCount count).ranks := by
  unfold BitDepth.forGlyphCount
  split
  · simp only [BitDepth.ranks]
    omega
  · exact few

/-- Depths of the same bits are the same. -/
theorem BitDepth.bits_injective : Function.Injective BitDepth.bits := by
  intro first second same
  have read : some first = some second := by
    rw [← ofInt?_bits first, same, ofInt?_bits]
  exact Option.some.inj read

/-- A depth has ranks for all glyphs of a palette exactly when it has the bits that the palette
needs. -/
theorem Palette.size_le_ranks_iff (palette : Palette) (depth : BitDepth) :
    palette.size ≤ depth.ranks ↔ palette.depth.bits ≤ depth.bits := by
  have few : palette.size ≤ 4 := palette.limited
  unfold Palette.depth BitDepth.forGlyphCount
  cases depth with
  | one =>
    show palette.size ≤ 2 ↔ _
    split <;> simp only [BitDepth.bits] <;> omega
  | two =>
    show palette.size ≤ 4 ↔ _
    split <;> simp only [BitDepth.bits] <;> omega

/-- Causes that only the packing of pixels can have. -/
def Cause.concernsPacking : Cause → Bool
  | .capacity _ _ | .depth _ _ => true
  | _ => false

/-- Faults that only the packing of pixels can have. -/
def DrawingFault.concernsPacking : DrawingFault → Bool
  | .text fault => fault.cause.concernsPacking
  | .decoding _ => false
  | .packing _ | .shape _ => true

namespace Scan

variable {scan : Scan} {rows : List (List Glyph)} {bytes : List UInt8} {lineOffset : Int}

/-! ## Finished scans -/

/-- A scan without a fault has read a whole drawing. -/
theorem finished_of_ofBytes (done : ofBytes bytes lineOffset = (scan, none)) :
    ∃ rows, scan.Finished rows := by
  have ending := ends_ofBytes bytes lineOffset
  rw [done] at ending
  cases ending with
  | finished _ _ finished => exact ⟨_, finished⟩

/-- A fault of reading is none of packing. -/
theorem concernsPacking_of_ofBytes {fault : ReadFault}
    (stopped : ofBytes bytes lineOffset = (scan, some fault)) :
    (DrawingFault.ofRead fault).concernsPacking = false := by
  have ending := ends_ofBytes bytes lineOffset
  rw [stopped] at ending
  cases ending with
  | missing => rfl
  | refused _ _ refused => cases Drawn.refused_of_add refused <;> rfl
  | broken => rfl
  | unfinished _ _ early =>
    unfold Drawn.unfinished? at early
    split at early
    · cases early
      rfl
    · split at early
      · cases early
        rfl
      · contradiction

/-- A finished scan has a rank for every place of the picture. -/
theorem Finished.length_pixels (finished : scan.Finished rows) :
    scan.pixels.length = scan.width * scan.height := by
  rw [finished.shows.pixels, ranked, List.length_map, Scan.height, finished.shows.height,
    Nat.mul_comm]
  simpa [Drawn.pixels] using length_flatten_of_equal finished.equal

/-- Every rank of a finished scan fits the depth of the picture. -/
theorem Finished.pixels_fit (finished : scan.Finished rows) :
    ∀ pixel ∈ scan.pixels, pixel < scan.palette.depth.ranks := by
  intro pixel member
  rw [finished.shows.pixels, ranked, List.mem_map] at member
  obtain ⟨glyph, drawn, rfl⟩ := member
  rw [← finished.shows.glyphs]
  have held : glyph ∈ scan.palette.glyphs := by
    rw [finished.shows.glyphs]
    exact List.mem_eraseDups.mpr drawn
  calc
    scan.palette.glyphs.idxOf glyph < scan.palette.size := List.idxOf_lt_length_of_mem held
    _ ≤ scan.palette.depth.ranks := BitDepth.le_ranks_forGlyphCount scan.palette.limited

/-- The pixels of a finished scan are refused by a depth of too few bits, at the first rank that the
depth does not have. -/
theorem Finished.pushAll_snd (finished : scan.Finished rows) (packer : Packer) :
    (packer.pushAll scan.pixels).2 =
      if scan.palette.depth.bits ≤ packer.depth.bits then none
      else some (.misfit packer.depth.ranks packer.depth) := by
  have held : scan.palette.size = (Drawn.pixels { rows }).eraseDups.length :=
    congrArg List.length finished.shows.glyphs
  rw [Packer.pushAll_snd, finished.shows.pixels, find?_ranked, ← held]
  by_cases enough : scan.palette.size ≤ packer.depth.ranks
  · rw [if_neg (Nat.not_lt.mpr enough), if_pos ((Palette.size_le_ranks_iff _ _).mp enough)]
    rfl
  · have lacking := mt (Palette.size_le_ranks_iff _ _).mpr enough
    rw [if_pos (Nat.lt_of_not_le enough), if_neg lacking]
    rfl

/-! ## The sprite of a scan -/

/-- The bytes that a scanned picture takes. -/
def byteCount (scan : Scan) : Nat := scan.palette.depth.bytesFor (scan.width * scan.height)

/-- The pixels of a scan as a sprite. -/
def sprite (scan : Scan) (alignTail : Bool)
    (counted : scan.pixels.length = scan.width * scan.height) : Sprite where
  width := scan.width
  height := scan.height
  depth := scan.palette.depth
  data := (packPixels scan.palette.depth alignTail scan.pixels).toArray
  tailAligned := alignTail || scan.width * scan.height * scan.palette.depth.bits % 8 == 0
  size_data := by rw [List.size_toArray, length_packPixels, counted]
  aligned_of_full := by intro full; simp [full]

/-- The packed pixels suit the shape of the picture. -/
theorem ofBytes_sprite (alignTail : Bool)
    (counted : scan.pixels.length = scan.width * scan.height) :
    Sprite.ofBytes scan.width scan.height scan.palette.depth.bits
      (packPixels scan.palette.depth alignTail scan.pixels).toArray alignTail =
        .ok (scan.sprite alignTail counted) := by
  have size_data := (scan.sprite alignTail counted).size_data
  simp only [Sprite.ofBytes, BitDepth.ofInt?_bits, Int.toNat_natCast, Sprite.ofShape]
  rw [if_neg (by omega)]
  exact dif_pos size_data

end Scan

namespace Drawing

variable {bytes : List UInt8} {lineOffset : Int} {scan : Scan} {rows : List (List Glyph)}

/-- The sizing pass gives what the sprite of the scan takes. -/
theorem sizing_of_ofBytes (done : Scan.ofBytes bytes lineOffset = (scan, none)) :
    sizing bytes lineOffset = .ok ⟨scan.palette.depth, scan.byteCount⟩ := by
  simp only [sizing, done]
  rfl

/-- The sizing pass refuses what cannot be read. -/
theorem sizing_of_fault {fault : ReadFault}
    (stopped : Scan.ofBytes bytes lineOffset = (scan, some fault)) :
    sizing bytes lineOffset = .error (.ofRead fault) := by
  simp only [sizing, stopped]

/-- The sizing pass finds the faults of reading and no others. -/
theorem sizing_eq_error_iff {fault : DrawingFault} :
    sizing bytes lineOffset = .error fault ↔
      ∃ found, (Scan.ofBytes bytes lineOffset).2 = some found ∧ fault = .ofRead found := by
  cases read : Scan.ofBytes bytes lineOffset with
  | mk scan unread =>
    cases unread with
    | some found => simp [sizing_of_fault read, eq_comm]
    | none => simp [sizing_of_ofBytes read]

/-- What the sizing refuses is refused for the same fault, and a buffer is handed back as it was
given. -/
theorem build_eq_of_sizing_error {fault : DrawingFault}
    (refused : sizing bytes lineOffset = .error fault) (buffer : Option (Array UInt8))
    (alignTail : Bool) : build bytes buffer alignTail lineOffset = (.error fault, buffer) := by
  simp only [build, refused]

/-- What the sizing refuses is refused for the same fault, with a buffer or without. -/
theorem build_of_sizing_error {fault : DrawingFault}
    (refused : sizing bytes lineOffset = .error fault) (buffer : Option (Array UInt8))
    (alignTail : Bool) : (build bytes buffer alignTail lineOffset).1 = .error fault :=
  congrArg Prod.fst (build_eq_of_sizing_error refused buffer alignTail)

/-- The building pass gives the sprite of the scan in a buffer of the right depth and length, and
leaves the data of the sprite in it. -/
theorem buildInto_eq_of_fit (done : Scan.ofBytes bytes lineOffset = (scan, none))
    (finished : scan.Finished rows) {buffer : Array UInt8} (size : buffer.size = scan.byteCount)
    (alignTail : Bool) :
    buildInto bytes scan.palette.depth.bits buffer alignTail lineOffset =
      (.ok (scan.sprite alignTail finished.length_pixels),
        (scan.sprite alignTail finished.length_pixels).data) := by
  have fit := finished.pixels_fit
  have holds := Packer.finish_pushAll_start alignTail (some buffer) fit
  have accepted := (Packer.pushAll_snd_eq_none_iff
    { depth := scan.palette.depth, alignTail, buffer := some buffer }).mpr fit
  have counted : (packPixels scan.palette.depth alignTail scan.pixels).length = buffer.size := by
    rw [length_packPixels, finished.length_pixels, size, Scan.byteCount]
  have filled := holds.buffer
  rw [Option.map_some, overlay_of_length_eq counted] at filled
  have complete := holds.offset.trans counted
  simp [buildInto, Packer.start, done, accepted, complete, filled,
    Scan.ofBytes_sprite alignTail finished.length_pixels, Scan.sprite]

/-- The building pass gives the sprite of the scan in a buffer of the right depth and length. -/
theorem buildInto_of_fit (done : Scan.ofBytes bytes lineOffset = (scan, none))
    (finished : scan.Finished rows) {buffer : Array UInt8} (size : buffer.size = scan.byteCount)
    (alignTail : Bool) :
    (buildInto bytes scan.palette.depth.bits buffer alignTail lineOffset).1 =
      .ok (scan.sprite alignTail finished.length_pixels) :=
  congrArg Prod.fst (buildInto_eq_of_fit done finished size alignTail)

/-- A building pass with too few bits is refused at the first rank that it has no bits for. -/
theorem buildInto_of_shallow (done : Scan.ofBytes bytes lineOffset = (scan, none))
    (finished : scan.Finished rows) {depth : BitDepth}
    (shallow : depth.bits < scan.palette.depth.bits) (buffer : Array UInt8) (alignTail : Bool) :
    (buildInto bytes depth.bits buffer alignTail lineOffset).1 =
      .error (.packing (.misfit depth.ranks depth)) := by
  have misfit := finished.pushAll_snd { depth, alignTail, buffer := some buffer }
  rw [if_neg (Nat.not_le.mpr shallow)] at misfit
  simp [buildInto, Packer.start, done, misfit]

/-- A building pass with more bits than needed is refused when the drawing has been read. -/
theorem buildInto_of_deep (done : Scan.ofBytes bytes lineOffset = (scan, none))
    (finished : scan.Finished rows) {depth : BitDepth}
    (deep : scan.palette.depth.bits < depth.bits) (buffer : Array UInt8) (alignTail : Bool) :
    (buildInto bytes depth.bits buffer alignTail lineOffset).1 =
      .error (.ofCause (.depth depth scan.palette.depth)) := by
  have fits := finished.pushAll_snd { depth, alignTail, buffer := some buffer }
  rw [if_pos (Nat.le_of_lt deep)] at fits
  have other : scan.palette.depth ≠ depth := by
    rintro rfl
    exact Nat.lt_irrefl _ deep
  simp [buildInto, Packer.start, done, fits, other]

/-- A building pass at the depth of the drawing is refused in a buffer of another length. -/
theorem buildInto_of_other_length (done : Scan.ofBytes bytes lineOffset = (scan, none))
    (finished : scan.Finished rows) {buffer : Array UInt8} (other : buffer.size ≠ scan.byteCount)
    (alignTail : Bool) :
    (buildInto bytes scan.palette.depth.bits buffer alignTail lineOffset).1 =
      .error (.ofCause (.capacity buffer.size scan.byteCount)) := by
  let packer : Packer := { depth := scan.palette.depth, alignTail, buffer := some buffer }
  have fits := finished.pushAll_snd packer
  rw [if_pos (Nat.le_refl _)] at fits
  have offset := (Packer.finish_pushAll_start alignTail (some buffer) finished.pixels_fit).offset
  rw [length_packPixels, finished.length_pixels] at offset
  have produced : (packer.pushAll scan.pixels).1.finish.offset = scan.byteCount := offset
  simp [buildInto, Packer.start, done, packer, fits, produced, Ne.symm other]

/-- A building pass gives no sprite of a drawing that cannot be read. -/
theorem buildInto_of_fault {fault : ReadFault}
    (stopped : Scan.ofBytes bytes lineOffset = (scan, some fault)) (depth : BitDepth)
    (buffer : Array UInt8) (alignTail : Bool) :
    ∃ found, (buildInto bytes depth.bits buffer alignTail lineOffset).1 = .error found := by
  -- A rank that does not fit is met before the fault of reading.
  let packer : Packer := { depth, alignTail, buffer := some buffer }
  cases misfit : (packer.pushAll scan.pixels).2 <;>
    simp [buildInto, Packer.start, stopped, packer, misfit]

/-- A building pass that gives a sprite has read the drawing without a fault, in a buffer of the
depth and the length of the sprite. -/
theorem fit_of_buildInto {depth : BitDepth} {buffer : Array UInt8} {alignTail : Bool}
    {sprite : Sprite}
    (built : (buildInto bytes depth.bits buffer alignTail lineOffset).1 = .ok sprite) :
    ∃ scan, Scan.ofBytes bytes lineOffset = (scan, none) ∧ depth = scan.palette.depth ∧
      buffer.size = scan.byteCount := by
  cases read : Scan.ofBytes bytes lineOffset with
  | mk scan unread =>
    cases unread with
    | some fault =>
      obtain ⟨found, refused⟩ := buildInto_of_fault read depth buffer alignTail
      rw [refused] at built
      contradiction
    | none =>
      obtain ⟨rows, finished⟩ := Scan.finished_of_ofBytes read
      rcases Nat.lt_trichotomy depth.bits scan.palette.depth.bits with shallow | same | deep
      · rw [buildInto_of_shallow read finished shallow] at built
        contradiction
      · obtain rfl := BitDepth.bits_injective same
        by_cases length : buffer.size = scan.byteCount
        · exact ⟨scan, rfl, rfl, length⟩
        · rw [buildInto_of_other_length read finished length] at built
          contradiction
      · rw [buildInto_of_deep read finished deep] at built
        contradiction

/-- Both passes together give the sprite of the scan. -/
theorem build_of_finished (done : Scan.ofBytes bytes lineOffset = (scan, none))
    (finished : scan.Finished rows) (alignTail : Bool) :
    (build bytes none alignTail lineOffset).1 =
      .ok (scan.sprite alignTail finished.length_pixels) := by
  simp only [build, sizing_of_ofBytes done]
  exact buildInto_of_fit done finished Array.size_replicate alignTail

/-- Both passes together refuse a drawing for the fault that the sizing finds, which is none of
packing, or give a sprite of the depth and the length that the sizing gives. -/
theorem build_spec (bytes : List UInt8) (alignTail : Bool) (lineOffset : Int) :
    match sizing bytes lineOffset with
    | .error fault => (build bytes none alignTail lineOffset).1 = .error fault ∧
        fault.concernsPacking = false
    | .ok needs => ∃ sprite, (build bytes none alignTail lineOffset).1 = .ok sprite ∧
        sprite.depth = needs.depth ∧ sprite.byteCount = needs.byteCount := by
  cases read : Scan.ofBytes bytes lineOffset with
  | mk scan unread =>
    cases unread with
    | some fault =>
      have refused := sizing_of_fault read
      rw [refused]
      exact ⟨build_of_sizing_error refused none alignTail, Scan.concernsPacking_of_ofBytes read⟩
    | none =>
      obtain ⟨rows, finished⟩ := Scan.finished_of_ofBytes read
      rw [sizing_of_ofBytes read]
      exact ⟨_, build_of_finished read finished alignTail, rfl, Sprite.size_data _⟩

/-- Both passes together refuse what the sizing refuses and nothing else. -/
theorem build_eq_error_iff {alignTail : Bool} {fault : DrawingFault} :
    (build bytes none alignTail lineOffset).1 = .error fault ↔
      sizing bytes lineOffset = .error fault := by
  have whole := build_spec bytes alignTail lineOffset
  cases sized : sizing bytes lineOffset with
  | error found =>
    rw [sized] at whole
    rw [whole.1, Except.error.injEq, Except.error.injEq]
  | ok needs =>
    rw [sized] at whole
    obtain ⟨sprite, built, -⟩ := whole
    simp [built]

/-- A drawing is built into a buffer exactly when the sizing gives the buffer's depth and length,
and then it is the sprite that both passes together give. -/
theorem buildInto_eq_ok_iff {depth : BitDepth} {buffer : Array UInt8} {alignTail : Bool}
    {sprite : Sprite} :
    (buildInto bytes depth.bits buffer alignTail lineOffset).1 = .ok sprite ↔
      sizing bytes lineOffset = .ok ⟨depth, buffer.size⟩ ∧
        (build bytes none alignTail lineOffset).1 = .ok sprite := by
  constructor
  · intro built
    obtain ⟨scan, read, rfl, size⟩ := fit_of_buildInto built
    obtain ⟨rows, finished⟩ := Scan.finished_of_ofBytes read
    rw [buildInto_of_fit read finished size] at built
    exact ⟨by rw [sizing_of_ofBytes read, size],
      (build_of_finished read finished alignTail).trans built⟩
  · rintro ⟨sized, whole⟩
    cases read : Scan.ofBytes bytes lineOffset with
    | mk scan unread =>
      cases unread with
      | some fault =>
        rw [sizing_of_fault read] at sized
        contradiction
      | none =>
        obtain ⟨rows, finished⟩ := Scan.finished_of_ofBytes read
        rw [sizing_of_ofBytes read] at sized
        obtain ⟨rfl, size⟩ := Sizing.mk.inj (Except.ok.inj sized)
        rw [build_of_finished read finished] at whole
        rw [buildInto_of_fit read finished size.symm, whole]

/-- The sizing pass and the building pass agree on all bytes. Without a buffer, a drawing is refused
for the fault that the sizing finds, which is none of packing, or it is built as a sprite of the
depth and the length that the sizing gives. Into a buffer, it is built exactly when the sizing gives
the buffer's depth and length, and it is the same sprite. -/
theorem sizing_agrees_with_build (bytes : List UInt8) (alignTail : Bool) (lineOffset : Int) :
    (match sizing bytes lineOffset with
      | .error fault => (build bytes none alignTail lineOffset).1 = .error fault ∧
          fault.concernsPacking = false
      | .ok needs => ∃ sprite, (build bytes none alignTail lineOffset).1 = .ok sprite ∧
          sprite.depth = needs.depth ∧ sprite.byteCount = needs.byteCount) ∧
    ∀ (depth : BitDepth) (buffer : Array UInt8),
      ((∃ sprite, (buildInto bytes depth.bits buffer alignTail lineOffset).1 = .ok sprite) ↔
        sizing bytes lineOffset = .ok ⟨depth, buffer.size⟩) ∧
      ∀ sprite, (buildInto bytes depth.bits buffer alignTail lineOffset).1 = .ok sprite →
        (build bytes none alignTail lineOffset).1 = .ok sprite := by
  have whole := build_spec bytes alignTail lineOffset
  refine ⟨whole, fun depth buffer => ⟨⟨?_, ?_⟩, ?_⟩⟩
  · rintro ⟨sprite, built⟩
    exact (buildInto_eq_ok_iff.mp built).1
  · intro sized
    rw [sized] at whole
    obtain ⟨sprite, both, -⟩ := whole
    exact ⟨sprite, buildInto_eq_ok_iff.mpr ⟨sized, both⟩⟩
  · intro sprite built
    exact (buildInto_eq_ok_iff.mp built).2

end Drawing

end SpriteText
