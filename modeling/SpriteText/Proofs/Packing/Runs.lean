import SpriteText.Proofs.Packing.Accumulator
import SpriteText.Proofs.Packing.Bits

/-!
# Runs of a packer

The pixels that a packer accepts fall into segments, one for each end of a run and an open one
behind them (`Segments`). Their stream is the bytes of the finished segments and the full bytes of
the open one. The invariant `Packer.Streams` ties a packer to its segments: the pixels of the byte
in the making are those that the full bytes of the open segment leave over, and the bytes completed
are the stream. Every event keeps it, so it holds after any events.
-/

namespace SpriteText

/-- The pixel that an event adds, if it pushes one that the bits of the depth can spell. -/
def Packer.Event.pixel? (depth : BitDepth) : Packer.Event → Option Nat
  | .push rank => if 0 ≤ rank ∧ rank < 2 ^ depth.bits then some rank.toNat else none
  | .finish => none

/-- Pixels by the runs that they belong to. -/
structure Segments where
  /-- The runs that have ended, the first one first. -/
  finished : List (List Nat) := []
  /-- The pixels after the last end of a run. -/
  current : List Nat := []

namespace Segments

/-- The segments after one more event: a pixel lengthens the open segment, and the end of a run
finishes it. -/
def take (depth : BitDepth) (segments : Segments) (event : Packer.Event) : Segments :=
  match event with
  | .push _ => { segments with current := segments.current ++ (event.pixel? depth).toList }
  | .finish => { finished := segments.finished ++ [segments.current] }

/-- The segments of events. -/
def ofEvents (depth : BitDepth) (events : List Packer.Event) : Segments :=
  events.foldl (take depth) {}

/-- The bytes of the finished segments and the full bytes of the open one. -/
def stream (depth : BitDepth) (alignTail : Bool) (segments : Segments) : List UInt8 :=
  segments.finished.flatMap (segmentBytes depth alignTail) ++
    (segmentBytes depth alignTail segments.current).take
      (segments.current.length * depth.bits / 8)

/-- Every pixel can be spelled with the bits of the depth. -/
structure Fit (depth : BitDepth) (segments : Segments) : Prop where
  /-- Those of the finished segments. -/
  finished : ∀ segment ∈ segments.finished, ∀ pixel ∈ segment, pixel < depth.ranks
  /-- Those of the open segment. -/
  current : ∀ pixel ∈ segments.current, pixel < depth.ranks

/-- All pixels in order. -/
def pixels (segments : Segments) : List Nat := segments.finished.flatten ++ segments.current

variable {depth : BitDepth} {segments : Segments}

/-- A further event comes after the events before it. -/
theorem ofEvents_concat (depth : BitDepth) (events : List Packer.Event) (event : Packer.Event) :
    ofEvents depth (events ++ [event]) = (ofEvents depth events).take depth event := by
  rw [ofEvents, List.foldl_append]
  rfl

/-- The segments hold the pixels that the events add, in their order. -/
theorem pixels_ofEvents (depth : BitDepth) (events : List Packer.Event) :
    (ofEvents depth events).pixels = events.filterMap (Packer.Event.pixel? depth) := by
  induction events using List.reverseRecOn with
  | nil => rfl
  | append_singleton events event ih =>
    rw [ofEvents_concat, List.filterMap_append, ← ih]
    cases event with
    | finish => simp [take, pixels, Packer.Event.pixel?]
    | push rank =>
      rw [take, pixels, pixels, List.append_assoc]
      cases added : Packer.Event.pixel? depth (.push rank) <;> simp [added]

/-- An event adds only pixels that fit. -/
theorem lt_ranks_of_pixel? {event : Packer.Event} {pixel : Nat}
    (added : event.pixel? depth = some pixel) : pixel < depth.ranks := by
  cases event with
  | finish => contradiction
  | push rank =>
    by_cases inside : 0 ≤ rank ∧ rank < 2 ^ depth.bits
    · rw [Packer.Event.pixel?, if_pos inside, Option.some.injEq] at added
      have bound : rank < (depth.ranks : Int) := by
        rw [depth.ranks_eq_two_pow]
        push_cast
        exact inside.2
      omega
    · rw [Packer.Event.pixel?, if_neg inside] at added
      contradiction

/-- A pixel that fits leaves the segments fitting. -/
theorem Fit.push (fit : segments.Fit depth) {pixel : Nat} (fits : pixel < depth.ranks) :
    Fit depth { segments with current := segments.current ++ [pixel] } := by
  refine ⟨fit.finished, fun other member => ?_⟩
  rcases List.mem_append.mp member with old | new
  · exact fit.current other old
  · exact List.mem_singleton.mp new ▸ fits

/-- The end of a run leaves the segments fitting. -/
theorem Fit.finish (fit : segments.Fit depth) :
    Fit depth { finished := segments.finished ++ [segments.current] } := by
  refine ⟨fun segment member => ?_, fun pixel member => absurd member List.not_mem_nil⟩
  rcases List.mem_append.mp member with old | new
  · exact fit.finished segment old
  · exact List.mem_singleton.mp new ▸ fit.current

end Segments

namespace Packer

/-! ## Whole bytes -/

/-- Packing some pixels and then others is packing them together, if the first ones fill bytes. -/
theorem packPixels_append_of_dvd (depth : BitDepth) (alignTail : Bool) {front : List Nat}
    (full : depth.pixelsPerByte ∣ front.length) (back : List Nat) :
    packPixels depth alignTail (front ++ back) =
      packPixels depth alignTail front ++ packPixels depth alignTail back := by
  obtain ⟨count, length⟩ := full
  induction count generalizing front with
  | zero =>
    rw [Nat.mul_zero, List.length_eq_zero_iff] at length
    simp [length, packPixels]
  | succ count ih =>
    have byte : (front.take depth.pixelsPerByte).length = depth.pixelsPerByte := by
      rw [List.length_take, length, Nat.mul_succ]
      omega
    have rest : (front.drop depth.pixelsPerByte).length = depth.pixelsPerByte * count := by
      rw [List.length_drop, length, Nat.mul_succ]
      omega
    rw [← List.take_append_drop depth.pixelsPerByte front, List.append_assoc,
      packPixels_append_of_full _ _ byte, packPixels_append_of_full _ _ byte, ih rest,
      List.cons_append]

/-- The pixels of a segment that fill bytes. -/
def filling (depth : BitDepth) (pixels : List Nat) : Nat :=
  pixels.length / depth.pixelsPerByte * depth.pixelsPerByte

/-- The pixels that fill bytes come first. -/
theorem filling_le (depth : BitDepth) (pixels : List Nat) :
    filling depth pixels ≤ pixels.length := Nat.div_mul_le_self ..

/-- A pixel that completes a byte makes all pixels fill bytes. -/
theorem filling_concat_of_full {depth : BitDepth} {pixels : List Nat} {pixel : Nat}
    (full : pixels.length + 1 - filling depth pixels = depth.pixelsPerByte) :
    filling depth (pixels ++ [pixel]) = pixels.length + 1 := by
  rw [filling] at full
  rw [filling, List.length_append, List.length_singleton]
  cases depth <;> simp only [BitDepth.pixelsPerByte] at full ⊢ <;> omega

/-- A pixel that completes no byte leaves the pixels that fill bytes. -/
theorem filling_concat_of_short {depth : BitDepth} {pixels : List Nat} {pixel : Nat}
    (short : pixels.length + 1 - filling depth pixels ≠ depth.pixelsPerByte) :
    filling depth (pixels ++ [pixel]) = filling depth pixels := by
  rw [filling] at short
  rw [filling, filling, List.length_append, List.length_singleton]
  cases depth <;> simp only [BitDepth.pixelsPerByte] at short ⊢ <;> omega

/-- The pixels that fill bytes fill them. -/
theorem dvd_length_take_filling (depth : BitDepth) (pixels : List Nat) :
    depth.pixelsPerByte ∣ (pixels.take (filling depth pixels)).length := by
  rw [List.length_take, Nat.min_eq_left (filling_le depth pixels)]
  exact Nat.dvd_mul_left ..

/-- Packed pixels are those that fill bytes and then those left over. -/
theorem packPixels_eq_filling_append (depth : BitDepth) (alignTail : Bool) (pixels : List Nat) :
    packPixels depth alignTail pixels =
      packPixels depth alignTail (pixels.take (filling depth pixels)) ++
        packPixels depth alignTail (pixels.drop (filling depth pixels)) := by
  rw [← packPixels_append_of_dvd _ _ (dvd_length_take_filling depth pixels),
    List.take_append_drop]

/-- The full bytes of packed pixels are those of the pixels that fill bytes. -/
theorem take_packPixels (depth : BitDepth) (alignTail : Bool) (pixels : List Nat) :
    (packPixels depth alignTail pixels).take (pixels.length * depth.bits / 8) =
      packPixels depth alignTail (pixels.take (filling depth pixels)) := by
  have bytes : (packPixels depth alignTail (pixels.take (filling depth pixels))).length =
      pixels.length * depth.bits / 8 := by
    rw [length_packPixels, List.length_take, Nat.min_eq_left (filling_le depth pixels)]
    cases depth <;>
      simp only [filling, BitDepth.bytesFor, BitDepth.bits, BitDepth.pixelsPerByte] <;> omega
  rw [packPixels_eq_filling_append, ← bytes, List.take_left]

/-- The stream of segments that fit, by the pixels that fill bytes. -/
theorem stream_eq_packPixels {depth : BitDepth} {segments : Segments} (alignTail : Bool)
    (fit : segments.Fit depth) :
    segments.stream depth alignTail = segments.finished.flatMap (packPixels depth alignTail) ++
      packPixels depth alignTail (segments.current.take (filling depth segments.current)) := by
  have finished : segments.finished.flatMap (segmentBytes depth alignTail) =
      segments.finished.flatMap (packPixels depth alignTail) :=
    congrArg List.flatten (List.map_congr_left fun segment member =>
      (packPixels_eq_segmentBytes depth alignTail (fit.finished segment member)).symm)
  rw [Segments.stream, finished, ← packPixels_eq_segmentBytes depth alignTail fit.current,
    take_packPixels]

/-- A pixel that completes a byte lengthens the stream by this byte. -/
theorem stream_push_of_full {depth : BitDepth} {segments : Segments} (alignTail : Bool)
    (fit : segments.Fit depth) {pixel : Nat} (fits : pixel < depth.ranks)
    (full : segments.current.length + 1 - filling depth segments.current = depth.pixelsPerByte) :
    Segments.stream depth alignTail { segments with current := segments.current ++ [pixel] } =
      segments.stream depth alignTail ++ [packByte depth alignTail
        (segments.current.drop (filling depth segments.current) ++ [pixel])] := by
  have within := filling_le depth segments.current
  have all : (segments.current ++ [pixel]).take (filling depth (segments.current ++ [pixel])) =
      segments.current.take (filling depth segments.current) ++
        (segments.current.drop (filling depth segments.current) ++ [pixel]) := by
    rw [filling_concat_of_full full, ← List.append_assoc, List.take_append_drop]
    exact List.take_of_length_le (by simp)
  have byte : (segments.current.drop (filling depth segments.current) ++ [pixel]).length =
      depth.pixelsPerByte := by
    rw [List.length_append, List.length_drop, List.length_singleton]
    omega
  rw [stream_eq_packPixels _ (fit.push fits), stream_eq_packPixels _ fit, all,
    packPixels_append_of_dvd _ _ (dvd_length_take_filling ..),
    packPixels_of_short _ _ (List.concat_ne_nil _ _) (Nat.le_of_eq byte), List.append_assoc]

/-- A pixel that completes no byte leaves the stream. -/
theorem stream_push_of_short {depth : BitDepth} {segments : Segments} (alignTail : Bool)
    (fit : segments.Fit depth) {pixel : Nat} (fits : pixel < depth.ranks)
    (short : segments.current.length + 1 - filling depth segments.current ≠ depth.pixelsPerByte) :
    Segments.stream depth alignTail { segments with current := segments.current ++ [pixel] } =
      segments.stream depth alignTail := by
  rw [stream_eq_packPixels _ (fit.push fits), stream_eq_packPixels _ fit,
    filling_concat_of_short short, List.take_append_of_le_length (filling_le ..)]

/-- The end of a run lengthens the stream by the bytes of the pixels left over. -/
theorem stream_finish {depth : BitDepth} {segments : Segments} (alignTail : Bool)
    (fit : segments.Fit depth) :
    Segments.stream depth alignTail { finished := segments.finished ++ [segments.current] } =
      segments.stream depth alignTail ++ packPixels depth alignTail
        (segments.current.drop (filling depth segments.current)) := by
  rw [stream_eq_packPixels _ fit.finish, stream_eq_packPixels _ fit, List.append_assoc,
    ← packPixels_eq_filling_append]
  simp [packPixels]

/-! ## Events -/

variable {packer : Packer} {initial : Option (Array UInt8)} {segments : Segments}

/-- An event adds its pixel, is refused, or ends a run. -/
theorem step_eq (packer : Packer) (event : Event) :
    packer.step event = match event, event.pixel? packer.depth with
      | .push _, some pixel => (packer.add pixel, .ok none)
      | .push rank, none => (packer, .error (.misfit rank packer.depth))
      | .finish, _ => (packer.finish, .ok (some packer.finish.offset)) := by
  cases event with
  | finish => rfl
  | push rank =>
    have bound : (packer.depth.ranks : Int) = 2 ^ packer.depth.bits := by
      rw [packer.depth.ranks_eq_two_pow]
      push_cast
      rfl
    by_cases inside : 0 ≤ rank ∧ rank < 2 ^ packer.depth.bits
    · simp only [step, push, Event.pixel?, bound, if_pos inside]
    · simp only [step, push, Event.pixel?, bound, if_neg inside]

/-- Events leave the depth and the layout of a last byte. -/
theorem step_constants (packer : Packer) (event : Event) :
    (packer.step event).1.depth = packer.depth ∧
      (packer.step event).1.alignTail = packer.alignTail := by
  rw [step_eq]
  cases event with
  | finish =>
    simp only [finish]
    split <;> exact ⟨rfl, rfl⟩
  | push rank =>
    cases Event.pixel? packer.depth (.push rank) with
    | none => exact ⟨rfl, rfl⟩
    | some pixel =>
      simp only [add]
      split <;> exact ⟨rfl, rfl⟩

/-- A packer has completed the stream of some segments, and its byte in the making has the pixels
that are left over. -/
structure Streams (packer : Packer) (initial : Option (Array UInt8)) (segments : Segments) :
    Prop where
  /-- The pixels fit the depth. -/
  fit : segments.Fit packer.depth
  /-- The pixels are counted. -/
  pixels : packer.pixels = segments.pixels.length
  /-- The pixels of the open segment that do not fill a byte are pending. -/
  pending : packer.pending = segments.current.drop (filling packer.depth segments.current)
  /-- The bytes completed are the stream. -/
  holds : packer.Holds initial (segments.stream packer.depth packer.alignTail)

/-- A fresh packer has completed nothing. -/
theorem streams_start (depth : BitDepth) (alignTail : Bool) (buffer : Option (Array UInt8)) :
    Streams { depth, alignTail, buffer } buffer {} := by
  constructor
  case fit => constructor <;> simp
  case pixels => rfl
  case pending => exact List.drop_nil.symm
  case holds =>
    constructor
    · simp [Segments.stream]
    · cases buffer <;> simp [Segments.stream, overlay]

/-- A pixel that fits lengthens the byte in the making and completes it when it is full. -/
theorem Streams.add {pixel : Nat} (streams : packer.Streams initial segments)
    (fits : pixel < packer.depth.ranks) :
    (packer.add pixel).Streams initial
      { segments with current := segments.current ++ [pixel] } := by
  obtain ⟨fit, pixels, pending, holds⟩ := streams
  let next := { packer with pending := packer.pending ++ [pixel], pixels := packer.pixels + 1 }
  have counted : next.pixels =
      (Segments.pixels { segments with current := segments.current ++ [pixel] }).length := by
    simp [next, Segments.pixels, pixels, Nat.add_assoc]
  have grown : next.pending =
      segments.current.drop (filling packer.depth segments.current) ++ [pixel] := by
    rw [← pending]
  have within := filling_le packer.depth segments.current
  have length : next.pending.length =
      segments.current.length + 1 - filling packer.depth segments.current := by
    rw [grown, List.length_append, List.length_drop, List.length_singleton]
    omega
  have reached : next.Holds initial (segments.stream packer.depth packer.alignTail) :=
    ⟨holds.offset, holds.buffer⟩
  by_cases full : next.pending.length = packer.depth.pixelsPerByte
  · have flushed : packer.add pixel = next.flush := if_pos full
    rw [length] at full
    rw [flushed]
    refine ⟨fit.push fits, counted, ?_, ?_⟩
    · show [] = (segments.current ++ [pixel]).drop (filling packer.depth _)
      rw [filling_concat_of_full full]
      exact (List.drop_eq_nil_of_le (by simp)).symm
    · have completed := reached.flush
      rw [grown] at completed
      show next.flush.Holds initial (Segments.stream packer.depth packer.alignTail _)
      rw [stream_push_of_full packer.alignTail fit fits full]
      exact completed
  · have kept : packer.add pixel = next := if_neg full
    rw [length] at full
    rw [kept]
    refine ⟨fit.push fits, counted, ?_, ?_⟩
    · show next.pending = (segments.current ++ [pixel]).drop (filling packer.depth _)
      rw [filling_concat_of_short full, List.drop_append_of_le_length within, grown]
    · show next.Holds initial (Segments.stream packer.depth packer.alignTail _)
      rw [stream_push_of_short packer.alignTail fit fits full]
      exact reached

/-- The end of a run finishes the open segment. -/
theorem Streams.finish (streams : packer.Streams initial segments) :
    packer.finish.Streams initial { finished := segments.finished ++ [segments.current] } := by
  obtain ⟨fit, pixels, pending, holds⟩ := streams
  have ended : packer.finish.pixels = packer.pixels ∧ packer.finish.pending = [] := by
    unfold Packer.finish
    split
    · rename_i empty
      exact ⟨rfl, List.isEmpty_iff.mp empty⟩
    · exact ⟨rfl, rfl⟩
  obtain ⟨depth, alignTail⟩ := step_constants packer .finish
  have short : packer.pending.length ≤ packer.depth.pixelsPerByte := by
    rw [pending, List.length_drop, filling]
    cases packer.depth <;> simp only [BitDepth.pixelsPerByte] <;> omega
  have completed := holds.finish short
  rw [pending, ← stream_finish packer.alignTail fit] at completed
  rw [← depth] at fit
  constructor
  case fit => exact fit.finish
  case pixels => rw [ended.1, pixels]; simp [Segments.pixels]
  case pending => rw [ended.2]; exact List.drop_nil.symm
  case holds =>
    rw [← depth, ← alignTail] at completed
    exact completed

/-- An event acts on a packer as it acts on the segments. -/
theorem Streams.step (streams : packer.Streams initial segments) (event : Event) :
    (packer.step event).1.Streams initial (segments.take packer.depth event) := by
  rw [step_eq]
  cases event with
  | finish => exact streams.finish
  | push rank =>
    cases added : Event.pixel? packer.depth (.push rank) with
    | none => simpa [Segments.take, added] using streams
    | some pixel =>
      simpa [Segments.take, added] using streams.add (Segments.lt_ranks_of_pixel? added)

/-- A further event comes after the events before it. -/
theorem after_concat (packer : Packer) (events : List Event) (event : Event) :
    packer.after (events ++ [event]) = ((packer.after events).step event).1 := by
  rw [after, List.foldl_append]
  rfl

/-- After any events a packer keeps its depth and layout, and streams the segments of the
events. -/
theorem streams_after (depth : BitDepth) (alignTail : Bool) (buffer : Option (Array UInt8))
    (events : List Event) :
    (after { depth, alignTail, buffer } events).depth = depth ∧
      (after { depth, alignTail, buffer } events).alignTail = alignTail ∧
      (after { depth, alignTail, buffer } events).Streams buffer
        (Segments.ofEvents depth events) := by
  induction events using List.reverseRecOn with
  | nil => exact ⟨rfl, rfl, streams_start depth alignTail buffer⟩
  | append_singleton events event ih =>
    obtain ⟨same_depth, same_layout, streams⟩ := ih
    have constants := step_constants (after { depth, alignTail, buffer } events) event
    have next := streams.step event
    rw [after_concat, Segments.ofEvents_concat]
    rw [same_depth] at next
    exact ⟨constants.1.trans same_depth, constants.2.trans same_layout, next⟩

/-- The byte in the making has pixels that fit, and too few to fill it. -/
theorem Streams.short (streams : packer.Streams initial segments) :
    (∀ pixel ∈ packer.pending, pixel < packer.depth.ranks) ∧
      packer.pending.length < packer.depth.pixelsPerByte := by
  rw [streams.pending]
  refine ⟨fun pixel member => streams.fit.current pixel (List.mem_of_mem_drop member), ?_⟩
  rw [List.length_drop, filling]
  cases packer.depth <;> simp only [BitDepth.pixelsPerByte] <;> omega

/-- A packer that keeps the byte in the making as a number goes the same way over every run. -/
theorem accumulator_after (depth : BitDepth) (alignTail : Bool) (buffer : Option (Array UInt8))
    (events : List Event) :
    Accumulator.after { depth, alignTail, buffer } events =
      .ofPacker (after { depth, alignTail, buffer } events) := by
  induction events using List.reverseRecOn with
  | nil =>
    simp [Accumulator.after, after, Accumulator.ofPacker, joinPixels]
  | append_singleton events event ih =>
    obtain ⟨fit, short⟩ := (streams_after depth alignTail buffer events).2.2.short
    rw [Accumulator.after_concat, ih, Accumulator.step_ofPacker fit short, after_concat]

/-- A packer is correct over every run. A segment of pixels is laid out in as many bytes as its
bits need. After any events, with any numbers as ranks and with a buffer of any length or none, the
offset is the length of the stream, the pixels accepted are counted, and the buffer is overlaid
with the stream from its front on. A further pixel that the bits of the depth cannot spell is
refused and changes nothing, any other is accepted, and the end of a run answers with the offset
that it leads to. A packer that keeps the byte in the making as a number goes the same way, and
answers every further event as this one does. -/
theorem streams_over_every_run (depth : BitDepth) (alignTail : Bool)
    (buffer : Option (Array UInt8)) :
    (∀ pixels, (segmentBytes depth alignTail pixels).length =
      (pixels.length * depth.bits + 7) / 8) ∧
    ∃ fresh, start depth.bits buffer alignTail = .ok fresh ∧ ∀ events,
      (fresh.after events).offset =
        ((Segments.ofEvents depth events).stream depth alignTail).length ∧
      (fresh.after events).pixels = (events.filterMap (Event.pixel? depth)).length ∧
      (fresh.after events).buffer =
        buffer.map (overlay ((Segments.ofEvents depth events).stream depth alignTail)) ∧
      Accumulator.after { depth, alignTail, buffer } events = .ofPacker (fresh.after events) ∧
      ∀ event, ((Accumulator.after { depth, alignTail, buffer } events).step event).2 =
        ((fresh.after events).step event).2 ∧
      (fresh.after events).step event =
        match event with
        | .push rank =>
          if 0 ≤ rank ∧ rank < 2 ^ depth.bits then (fresh.after (events ++ [event]), .ok none)
          else (fresh.after events, .error (.misfit rank depth))
        | .finish =>
          (fresh.after (events ++ [event]),
            .ok (some (fresh.after (events ++ [event])).offset)) := by
  refine ⟨length_segmentBytes depth alignTail, { depth, alignTail, buffer }, ?_, fun events => ?_⟩
  · rw [start, BitDepth.ofInt?_bits]
  · obtain ⟨same_depth, -, streams⟩ := streams_after depth alignTail buffer events
    have layout := (streams_after depth alignTail buffer events).2.1
    have holds := streams.holds
    rw [same_depth, layout] at holds
    have kept := accumulator_after depth alignTail buffer events
    obtain ⟨fit, short⟩ := streams.short
    refine ⟨holds.offset, ?_, holds.buffer, kept, fun event => ⟨?_, ?_⟩⟩
    · rw [streams.pixels, Segments.pixels_ofEvents]
    · rw [kept, Accumulator.step_ofPacker fit short]
    · rw [after_concat, step_eq, same_depth]
      cases event with
      | finish => rfl
      | push rank =>
        by_cases inside : 0 ≤ rank ∧ rank < 2 ^ depth.bits
        · simp only [Event.pixel?, if_pos inside]
        · simp only [Event.pixel?, if_neg inside]

end Packer

end SpriteText
