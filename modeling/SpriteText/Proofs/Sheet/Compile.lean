import SpriteText.Proofs.Drawing.Picture
import SpriteText.Proofs.NameTable
import SpriteText.Sheet.Source

/-!
# The sprites of sources

Where a drawing stands in its sheet tells where its faults are and nothing of its sprite. So sources
of distinct names are compiled to their sprites as if each was the only drawing, in order.
-/

namespace SpriteText

namespace Scan

variable {scan other : Scan} {rows : List (List Glyph)}

/-- Two scans of the same rows, the second one with other glyphs in place of those of the first,
give the same sprite, if different glyphs stay different. -/
theorem Finished.sprite_eq_of_redrawn {image : Glyph → Glyph} (finished : scan.Finished rows)
    (again : other.Finished (rows.map (List.map image)))
    (injective : ∀ first ∈ rows.flatten, ∀ second ∈ rows.flatten,
      image first = image second → first = second) (alignTail : Bool) :
    other.sprite alignTail again.length_pixels = scan.sprite alignTail finished.length_pixels := by
  have drawn : Drawn.pixels { rows := rows.map (List.map image) } = rows.flatten.map image := by
    simp [Drawn.pixels, List.map_flatten]
  have before : Drawn.pixels { rows } = rows.flatten := by simp [Drawn.pixels]
  have width : other.width = scan.width := by
    rw [Scan.width, Scan.width, finished.shows.width, again.shows.width]
    cases rows <;> simp
  have height : other.height = scan.height := by
    rw [Scan.height, Scan.height, finished.shows.height, again.shows.height, List.length_map]
  have depth : other.palette.depth = scan.palette.depth := by
    rw [Palette.depth, Palette.size, Palette.depth, Palette.size, finished.shows.glyphs,
      again.shows.glyphs, drawn, before, eraseDups_map injective, List.length_map]
  have pixels : other.pixels = scan.pixels := by
    rw [finished.shows.pixels, again.shows.pixels, drawn, before, ranked_map injective]
  simp only [sprite, width, height, depth, pixels]

/-- Two scans of the same rows give the same sprite. -/
theorem Finished.sprite_eq (finished : scan.Finished rows) (again : other.Finished rows)
    (alignTail : Bool) :
    scan.sprite alignTail finished.length_pixels = other.sprite alignTail again.length_pixels := by
  have same : rows.map (List.map id) = rows := by simp
  have redrawn : scan.Finished (rows.map (List.map id)) := same.symm ▸ finished
  exact again.sprite_eq_of_redrawn redrawn (fun _ _ _ _ equal => equal) alignTail

end Scan

namespace Drawing

variable {text : String} {alignTail : Bool} {lineOffset : Int} {sprite : Sprite}

/-- A text that is compiled draws rows. -/
theorem draws_of_compile (compiled : compile text alignTail lineOffset = .ok sprite) :
    ∃ rows width, Draws (codes text) rows width := by
  rw [compile] at compiled
  cases read : Scan.ofBytes (Utf8.encode text) lineOffset with
  | mk scan unread =>
    cases unread with
    | some fault =>
      rw [build_of_sizing_error (sizing_of_fault read)] at compiled
      contradiction
    | none =>
      obtain ⟨rows, draws⟩ := Scan.draws_of_finished read
      exact ⟨rows, _, draws⟩

/-- A text is well-formed, so all that can be wrong with it is the drawing. -/
theorem text_of_compile_error {fault : DrawingFault}
    (refused : compile text alignTail lineOffset = .error fault) :
    ∃ found, fault = .text found := by
  rw [compile, build_eq_error_iff, sizing_eq_error_iff] at refused
  obtain ⟨found, read, rfl⟩ := refused
  have ending := Scan.ends_ofBytes (Utf8.encode text) lineOffset
  generalize Scan.ofBytes (Utf8.encode text) lineOffset = outcome at read ending
  generalize encoded : Utf8.encode text = bytes at ending
  cases ending with
  | missing none => cases read; exact ⟨_, rfl⟩
  | refused decoded before stopped => cases read; exact ⟨_, rfl⟩
  | unfinished decoded after early => cases read; exact ⟨_, rfl⟩
  | finished decoded after finished => contradiction
  | broken decoded after =>
    obtain ⟨rest, -, whole⟩ := Scan.codes_of_encode encoded
    rw [decoded] at whole
    exact absurd (congrArg Prod.snd whole) (Option.some_ne_none _)

/-- A text that draws the same rows with other glyphs is compiled to the same sprite, if different
glyphs stay different. -/
theorem compile_of_redrawn {other : String} {image : Glyph → Glyph} {rows : List (List Glyph)}
    {width : Nat} (compiled : compile text alignTail lineOffset = .ok sprite)
    (draws : Draws (codes text) rows width)
    (redraws : Draws (codes other) (rows.map (List.map image)) width)
    (injective : ∀ first ∈ rows.flatten, ∀ second ∈ rows.flatten,
      image first = image second → first = second) (otherOffset : Int) :
    compile other alignTail otherOffset = .ok sprite := by
  obtain ⟨first, done, finished⟩ := Scan.finished_of_draws draws lineOffset
  obtain ⟨second, again, finished_again⟩ := Scan.finished_of_draws redraws otherOffset
  rw [compile, build_of_finished done finished] at compiled
  rw [compile, build_of_finished again finished_again, ← compiled,
    finished.sprite_eq_of_redrawn finished_again injective]

/-- The line on which a drawing starts changes nothing of its sprite. -/
theorem compile_of_compile (compiled : compile text alignTail lineOffset = .ok sprite)
    (other : Int) : compile text alignTail other = .ok sprite := by
  obtain ⟨rows, width, draws⟩ := draws_of_compile compiled
  obtain ⟨first, done, finished⟩ := Scan.finished_of_draws draws lineOffset
  obtain ⟨second, again, finished_again⟩ := Scan.finished_of_draws draws other
  rw [compile, build_of_finished done finished] at compiled
  rw [compile, build_of_finished again finished_again, ← compiled,
    finished.sprite_eq finished_again]

/-- A drawing is compiled to the same sprite wherever it starts. -/
theorem compile_eq_ok_iff (other : Int) :
    compile text alignTail lineOffset = .ok sprite ↔ compile text alignTail other = .ok sprite :=
  ⟨fun compiled => compile_of_compile compiled other,
    fun compiled => compile_of_compile compiled lineOffset⟩

end Drawing

namespace Sheet

/-- Lists whose members have the same key in pairs have the same keys. -/
theorem map_eq_of_forall₂ {First Second Key : Type} {related : First → Second → Prop}
    {key : First → Key} {other_key : Second → Key}
    (same : ∀ first second, related first second → other_key second = key first)
    {items : List First} {others : List Second} (all : List.Forall₂ related items others) :
    others.map other_key = items.map key := by
  induction all with
  | nil => rfl
  | cons here _ ih => rw [List.map_cons, List.map_cons, same _ _ here, ih]

/-- An entry has the name of a source and the sprite that the drawing of the source has alone. -/
def Compiles (alignTail : Bool) (source : Source) (entry : String × Sprite) : Prop :=
  entry.1 = source.name ∧ Drawing.compile source.text alignTail 0 = .ok entry.2

variable {alignTail : Bool} {set : SpriteSet}

/-- A source has the sprite of its drawing. -/
theorem Source.compile_eq_ok_iff {source : Source} {sprite : Sprite} :
    source.compile alignTail = .ok sprite ↔
      Drawing.compile source.text alignTail 0 = .ok sprite := by
  have moved : Drawing.compile source.text alignTail 0 = .ok sprite ↔
      Drawing.compile source.text alignTail source.lineOffset = .ok sprite :=
    Drawing.compile_eq_ok_iff source.lineOffset
  rw [moved, Source.compile]
  cases Drawing.compile source.text alignTail source.lineOffset <;> simp

/-- All that can be wrong with a source is its drawing. -/
theorem Source.text_of_compile_error {source : Source} {fault : DrawingFault}
    (refused : source.compile alignTail = .error fault) : ∃ found, fault = .text found := by
  rw [Source.compile] at refused
  cases outcome : Drawing.compile source.text alignTail source.lineOffset with
  | ok sprite => simp [outcome] at refused
  | error found =>
    obtain ⟨cause, rfl⟩ := Drawing.text_of_compile_error outcome
    simp only [outcome, Except.error.injEq] at refused
    exact ⟨_, refused.symm⟩

/-- Sources of new names are put into a set with their sprites, in order. -/
theorem compileInto_eq_ok_iff {sources : List Source} {start : SpriteSet}
    (distinct : (start.names ++ sources.map Source.name).Nodup) :
    compileInto start alignTail sources = .ok set ↔
      ∃ entries, set.entries = start.entries ++ entries ∧
        List.Forall₂ (Compiles alignTail) sources entries := by
  induction sources generalizing start with
  | nil =>
    rw [compileInto]
    constructor
    · rintro same
      cases same
      exact ⟨[], (List.append_nil _).symm, .nil⟩
    · rintro ⟨entries, same, none⟩
      cases none
      rw [List.append_nil] at same
      rw [NameTable.ext_entries same]
  | cons source sources ih =>
    rw [compileInto]
    cases compiled : source.compile alignTail with
    | error fault =>
      constructor
      · intro none
        contradiction
      · rintro ⟨entries, -, all⟩
        cases all with
        | cons first others =>
          rw [Source.compile_eq_ok_iff.mpr first.2] at compiled
          contradiction
    | ok sprite =>
      have absent : source.name ∉ start.entries.map Prod.fst := by
        rw [List.map_cons, List.nodup_append] at distinct
        intro member
        exact distinct.2.2 _ member _ List.mem_cons_self rfl
      have inserted := NameTable.entries_insert_of_not_mem absent sprite
      have names : (start.insert source.name sprite).names = start.names ++ [source.name] := by
        rw [NameTable.names, inserted, List.map_append]
        rfl
      rw [List.map_cons, List.append_cons, ← names] at distinct
      show compileInto (start.insert source.name sprite) alignTail sources = .ok set ↔ _
      rw [ih distinct, inserted]
      have alone := Source.compile_eq_ok_iff.mp compiled
      constructor
      · rintro ⟨entries, same, all⟩
        exact ⟨(source.name, sprite) :: entries, by rw [same, List.append_assoc]; rfl,
          .cons ⟨rfl, alone⟩ all⟩
      · rintro ⟨entries, same, all⟩
        cases all with
        | @cons _ entry _ entries first others =>
          obtain ⟨name, found⟩ := entry
          obtain ⟨rfl, again⟩ := first
          rw [alone] at again
          cases again
          exact ⟨entries, by rw [same, List.append_assoc]; rfl, others⟩

/-- Sources of distinct names are compiled to their names and their sprites, in order. -/
theorem compileSources_eq_ok_iff {sources : List Source}
    (distinct : (sources.map Source.name).Nodup) :
    compileSources sources alignTail = .ok set ↔
      List.Forall₂ (Compiles alignTail) sources set.entries := by
  rw [compileSources, @compileInto_eq_ok_iff alignTail set sources .empty distinct]
  constructor
  · rintro ⟨entries, same, all⟩
    rwa [same]
  · intro all
    exact ⟨set.entries, rfl, all⟩

/-- Entries have the names of their sources. -/
theorem names_of_compiles {sources : List Source} {entries : List (String × Sprite)}
    (all : List.Forall₂ (Compiles alignTail) sources entries) :
    entries.map Prod.fst = sources.map Source.name :=
  map_eq_of_forall₂ (fun _ _ compiles => compiles.1) all

/-! ## Sources with the same drawings -/

/-- Two sources have one name and one drawing, perhaps on different lines of their sheets. -/
structure Source.SameDrawing (source other : Source) : Prop where
  /-- The names are the same. -/
  name : other.name = source.name
  /-- The drawings are the same. -/
  text : other.text = source.text

/-- The same drawings have the same names. -/
theorem names_of_sameDrawing {sources others : List Source}
    (same : List.Forall₂ Source.SameDrawing sources others) :
    others.map Source.name = sources.map Source.name :=
  map_eq_of_forall₂ (fun _ _ alike => alike.name) same

/-- Two attempts to compile agree: both give the same, or a drawing is refused in both. -/
inductive SameResult {Result : Type} :
    Except DrawingFault Result → Except DrawingFault Result → Prop
  /-- Both give the same. -/
  | compiled (result : Result) : SameResult (.ok result) (.ok result)
  /-- A drawing is refused in both. -/
  | refused (fault other : Fault) : SameResult (.error (.text fault)) (.error (.text other))

/-- The same drawing is compiled alike. -/
theorem Source.SameDrawing.compile {source other : Source} (same : source.SameDrawing other)
    (alignTail : Bool) : SameResult (source.compile alignTail) (other.compile alignTail) := by
  have sprites {sprite : Sprite} :
      source.compile alignTail = .ok sprite ↔ other.compile alignTail = .ok sprite := by
    rw [Source.compile_eq_ok_iff, Source.compile_eq_ok_iff, same.text]
  cases first : source.compile alignTail with
  | ok sprite =>
    rw [sprites.mp first]
    exact .compiled sprite
  | error fault =>
    obtain ⟨fault, rfl⟩ := Source.text_of_compile_error first
    cases second : other.compile alignTail with
    | ok sprite =>
      rw [sprites.mpr second] at first
      contradiction
    | error fault =>
      obtain ⟨again, rfl⟩ := Source.text_of_compile_error second
      exact .refused _ again

/-- The same drawings are compiled into a set alike. -/
theorem sameResult_compileInto {sources others : List Source}
    (same : List.Forall₂ Source.SameDrawing sources others) (start : SpriteSet)
    (alignTail : Bool) :
    SameResult (compileInto start alignTail sources) (compileInto start alignTail others) := by
  induction same generalizing start with
  | nil => exact .compiled start
  | @cons source other sources others first _ ih =>
    have outcome := first.compile alignTail
    rw [compileInto, compileInto, first.name]
    generalize source.compile alignTail = found, other.compile alignTail = again at outcome
    cases outcome with
    | compiled sprite => exact ih (start.insert source.name sprite)
    | refused fault other => exact .refused fault other

end Sheet

end SpriteText
