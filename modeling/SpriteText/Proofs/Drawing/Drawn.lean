import Mathlib.Data.List.Basic
import Mathlib.Data.List.Induction
import SpriteText.Grid

/-!
# Drawings in the making

The glyphs of a drawing stand for closed rows, an open row and possibly one glyph that waits for its
twin. `Drawn.add` draws one more glyph or gives the cause why it cannot be drawn: `Drawn.Step` and
`Drawn.Refused` list the ways of both. What is drawn after some glyphs is written back as these
glyphs without their blanks (`Drawn.Sound`).
-/

namespace SpriteText

/-! ## Ranks by first appearance -/

/-- A new item is appended to the distinct items, and an old one changes nothing. -/
theorem eraseDups_concat (items : List Glyph) (item : Glyph) :
    (items ++ [item]).eraseDups =
      if item ∈ items then items.eraseDups else items.eraseDups ++ [item] := by
  rw [List.eraseDups_append]
  by_cases held : item ∈ items
  · simp [List.removeAll, held]
  · simp [List.removeAll, held, List.eraseDups_cons]

/-- A new item stands behind all others. -/
theorem idxOf_concat_of_not_mem {items : List Glyph} {item : Glyph} (absent : item ∉ items) :
    (items ++ [item]).idxOf item = items.length := by
  rw [List.idxOf_append_of_notMem absent, List.idxOf_cons_self, Nat.add_zero]

/-- The ranks of items by their first appearance. -/
def ranked (items : List Glyph) : List Nat := items.map items.eraseDups.idxOf

/-- Ranks are settled when an item first appears: a further item leaves the earlier ranks. -/
theorem ranked_concat (items : List Glyph) (item : Glyph) :
    ranked (items ++ [item]) = ranked items ++ [(items ++ [item]).eraseDups.idxOf item] := by
  rw [ranked, List.map_append, List.map_singleton, ranked]
  congr 1
  apply List.map_congr_left
  intro known member
  rw [eraseDups_concat]
  split
  · rfl
  · rw [List.idxOf_append_of_mem (List.mem_eraseDups.mpr member)]

/-- A glyph stands first where its image stands first among the images. -/
theorem idxOf_map {image : Glyph → Glyph} {glyphs : List Glyph} {glyph : Glyph}
    (injective : ∀ other ∈ glyphs, image other = image glyph → other = glyph) :
    (glyphs.map image).idxOf (image glyph) = glyphs.idxOf glyph := by
  induction glyphs with
  | nil => rfl
  | cons first glyphs ih =>
    obtain ⟨here, later⟩ := List.forall_mem_cons.mp injective
    rw [List.map_cons, List.idxOf_cons, List.idxOf_cons, ih later]
    by_cases same : first = glyph
    · rw [beq_iff_eq.mpr same, beq_iff_eq.mpr (congrArg image same)]
    · rw [beq_eq_false_iff_ne.mpr same, beq_eq_false_iff_ne.mpr (mt here same)]

/-- Other items in place of items, so that different ones stay different, are distinct where these
are. -/
theorem eraseDups_map {image : Glyph → Glyph} {items : List Glyph}
    (injective : ∀ first ∈ items, ∀ second ∈ items, image first = image second → first = second) :
    (items.map image).eraseDups = items.eraseDups.map image := by
  induction items using List.reverseRecOn with
  | nil => rfl
  | append_singleton items item ih =>
    have earlier := ih fun first member second other =>
      injective first (List.mem_append_left _ member) second (List.mem_append_left _ other)
    have held : image item ∈ items.map image ↔ item ∈ items := by
      constructor
      · intro member
        obtain ⟨other, inside, same⟩ := List.mem_map.mp member
        rwa [← injective other (List.mem_append_left _ inside) item (by simp) same]
      · exact List.mem_map_of_mem
    rw [List.map_append, List.map_singleton, eraseDups_concat, eraseDups_concat, earlier]
    simp only [held]
    split
    · rfl
    · rw [List.map_append, List.map_singleton]

/-- Other items in place of items have the same ranks, if different ones stay different. -/
theorem ranked_map {image : Glyph → Glyph} {items : List Glyph}
    (injective : ∀ first ∈ items, ∀ second ∈ items, image first = image second → first = second) :
    ranked (items.map image) = ranked items := by
  rw [ranked, ranked, eraseDups_map injective, List.map_map]
  apply List.map_congr_left
  intro item member
  refine idxOf_map fun other inside same => ?_
  exact injective other (List.mem_eraseDups.mp inside) item member same

/-- Ranks appear in order: the first rank from a bound on is the bound itself, once so many other
glyphs have appeared. -/
theorem find?_ranked (bound : Nat) (items : List Glyph) :
    (ranked items).find? (fun rank => bound ≤ rank) =
      if bound < items.eraseDups.length then some bound else none := by
  induction items using List.reverseRecOn with
  | nil => rfl
  | append_singleton items item ih =>
    rw [ranked_concat, List.find?_append, ih, eraseDups_concat]
    by_cases held : item ∈ items
    · -- A glyph that is known has a rank below the number of glyphs.
      have within : items.eraseDups.idxOf item < items.eraseDups.length :=
        List.idxOf_lt_length_of_mem (List.mem_eraseDups.mpr held)
      rw [if_pos held]
      by_cases reached : bound < items.eraseDups.length
      · rw [if_pos reached, Option.some_or]
      · have below : ¬bound ≤ items.eraseDups.idxOf item := by omega
        rw [if_neg reached, Option.none_or, List.find?_singleton, if_neg (by simpa using below)]
    · -- A new glyph has the next rank.
      have absent : item ∉ items.eraseDups := fun member => held (List.mem_eraseDups.mp member)
      rw [if_neg held, idxOf_concat_of_not_mem absent, List.length_append, List.length_singleton,
        List.find?_singleton]
      by_cases reached : bound < items.eraseDups.length
      · rw [if_pos reached, Option.some_or, if_pos (by omega)]
      · rw [if_neg reached, Option.none_or]
        by_cases last : bound = items.eraseDups.length
        · rw [if_pos (by simp [last]), if_pos (by omega), last]
        · rw [if_neg (by simp; omega), if_neg (by omega)]

/-! ## Drawings in the making -/

/-- A blank is no newline. -/
theorem Glyph.ne_newline_of_isBlank {glyph : Glyph} (blank : glyph.isBlank = true) :
    glyph ≠ Glyph.newline := by
  rintro rfl
  exact absurd blank (by decide)

/-- A row with every glyph written twice. -/
def doubled (row : List Glyph) : List Glyph := row.flatMap fun glyph => [glyph, glyph]

/-- Rows as they are written, each ended by a newline. -/
def written (rows : List (List Glyph)) : List Glyph :=
  rows.flatMap fun row => doubled row ++ [Glyph.newline]

/-- The glyphs of a text without its blanks. -/
def visible (read : List Glyph) : List Glyph := read.filter fun glyph => !glyph.isBlank

/-- What has been drawn so far. -/
structure Drawn where
  /-- The closed rows. -/
  rows : List (List Glyph) := []
  /-- The pixels of the open row. -/
  row : List Glyph := []
  /-- The glyph that waits for its twin. -/
  waiting : Option Glyph := none

namespace Drawn

/-- The pixels drawn, in order. -/
def pixels (drawn : Drawn) : List Glyph := drawn.rows.flatten ++ drawn.row

/-- The glyphs that it takes to draw this much, without blanks. -/
def text (drawn : Drawn) : List Glyph :=
  written drawn.rows ++ doubled drawn.row ++ drawn.waiting.toList

/-- The end of the open row: it must not end within a pair and must be as wide as the first. -/
def close (drawn : Drawn) : Except Cause Drawn :=
  match drawn.waiting, drawn.rows.head? with
  | some _, _ => .error .pairMismatch
  | none, none => .ok { rows := drawn.rows ++ [drawn.row] }
  | none, some first =>
    if drawn.row.length = first.length then .ok { rows := drawn.rows ++ [drawn.row] }
    else .error (.rowWidth first.length drawn.row.length)

/-- One glyph of the open row. It opens a pair, or completes one unless it differs or there are
four other glyphs. -/
def mark (drawn : Drawn) (glyph : Glyph) : Except Cause Drawn :=
  match drawn.waiting with
  | none => .ok { drawn with waiting := some glyph }
  | some twin =>
    if glyph ≠ twin then .error .pairMismatch
    else if glyph ∉ drawn.pixels ∧ 4 ≤ drawn.pixels.eraseDups.length then .error .tooManyGlyphs
    else .ok { drawn with row := drawn.row ++ [glyph], waiting := none }

/-- One more glyph is drawn, or the cause why it cannot be. -/
def add (drawn : Drawn) (glyph : Glyph) : Except Cause Drawn :=
  if glyph.isBlank then .ok drawn
  else if glyph = Glyph.newline then drawn.close
  else drawn.mark glyph

end Drawn

namespace Drawn

/-- How a glyph is drawn. -/
inductive Step (drawn : Drawn) : Glyph → Drawn → Prop where
  /-- A blank draws nothing. -/
  | blank {glyph : Glyph} : glyph.isBlank = true → Step drawn glyph drawn
  /-- A newline closes a row of the first row's width. -/
  | close : drawn.waiting = none →
      (∀ first, drawn.rows.head? = some first → drawn.row.length = first.length) →
      Step drawn Glyph.newline { rows := drawn.rows ++ [drawn.row] }
  /-- A glyph opens a pair. -/
  | opened {glyph : Glyph} : glyph.isBlank = false → glyph ≠ Glyph.newline →
      drawn.waiting = none → Step drawn glyph { drawn with waiting := some glyph }
  /-- A glyph completes a pair. -/
  | complete {glyph : Glyph} : glyph.isBlank = false → glyph ≠ Glyph.newline →
      drawn.waiting = some glyph → (glyph ∈ drawn.pixels ∨ drawn.pixels.eraseDups.length < 4) →
      Step drawn glyph { drawn with row := drawn.row ++ [glyph], waiting := none }

/-- Why a glyph cannot be drawn. -/
inductive Refused (drawn : Drawn) : Glyph → Cause → Prop where
  /-- A row ends within a pair. -/
  | opened {twin : Glyph} : drawn.waiting = some twin → Refused drawn Glyph.newline .pairMismatch
  /-- A row has another width than the first. -/
  | width {first : List Glyph} : drawn.waiting = none → drawn.rows.head? = some first →
      drawn.row.length ≠ first.length →
      Refused drawn Glyph.newline (.rowWidth first.length drawn.row.length)
  /-- A glyph differs from the one that waits for its twin. -/
  | twin {glyph twin : Glyph} : glyph.isBlank = false → glyph ≠ Glyph.newline →
      drawn.waiting = some twin → glyph ≠ twin → Refused drawn glyph .pairMismatch
  /-- A pair is the first of a fifth glyph. -/
  | fifth {glyph : Glyph} : glyph.isBlank = false → glyph ≠ Glyph.newline →
      drawn.waiting = some glyph → glyph ∉ drawn.pixels → 4 ≤ drawn.pixels.eraseDups.length →
      Refused drawn glyph .tooManyGlyphs

/-- Every glyph is drawn or refused. -/
theorem add_spec (drawn : Drawn) (glyph : Glyph) :
    match drawn.add glyph with
    | .ok later => drawn.Step glyph later
    | .error cause => drawn.Refused glyph cause := by
  unfold add
  by_cases blank : glyph.isBlank
  · rw [if_pos blank]
    exact .blank blank
  · rw [if_neg blank]
    have visible : glyph.isBlank = false := Bool.eq_false_iff.mpr blank
    by_cases ending : glyph = Glyph.newline
    · subst ending
      rw [if_pos rfl, close]
      cases waiting : drawn.waiting with
      | some twin => exact .opened waiting
      | none =>
        cases head : drawn.rows.head? with
        | none => exact .close waiting (by simp [head])
        | some first =>
          by_cases same : drawn.row.length = first.length
          · simp only [if_pos same]
            exact .close waiting (by simp [head, same])
          · simp only [if_neg same]
            exact .width waiting head same
    · rw [if_neg ending, mark]
      cases waiting : drawn.waiting with
      | none => exact .opened visible ending waiting
      | some twin =>
        by_cases same : glyph = twin
        · subst same
          by_cases full : glyph ∉ drawn.pixels ∧ 4 ≤ drawn.pixels.eraseDups.length
          · simp only [ne_eq, not_true_eq_false, if_false, if_pos full]
            exact .fifth visible ending waiting full.1 full.2
          · simp only [ne_eq, not_true_eq_false, if_false, if_neg full]
            exact .complete visible ending waiting (by
              rw [not_and_or, not_not, Nat.not_le] at full
              exact full)
        · simp only [ne_eq, same, not_false_eq_true, if_true]
          exact .twin visible ending waiting same

/-- A glyph is drawn as a step. -/
theorem step_of_add {drawn later : Drawn} {glyph : Glyph} (added : drawn.add glyph = .ok later) :
    drawn.Step glyph later := by
  have spec := add_spec drawn glyph
  rwa [added] at spec

/-- A glyph that cannot be drawn is refused for its cause. -/
theorem refused_of_add {drawn : Drawn} {glyph : Glyph} {cause : Cause}
    (refused : drawn.add glyph = .error cause) : drawn.Refused glyph cause := by
  have spec := add_spec drawn glyph
  rwa [refused] at spec

/-- A glyph that is refused cannot be drawn. -/
theorem add_of_refused {drawn : Drawn} {glyph : Glyph} {cause : Cause}
    (refused : drawn.Refused glyph cause) : drawn.add glyph = .error cause := by
  have newline : Glyph.newline.isBlank = false := rfl
  cases refused with
  | opened waiting => simp [add, close, newline, waiting]
  | width waiting head differs => simp [add, close, newline, waiting, head, differs]
  | twin shown ending waiting differs => simp [add, mark, shown, ending, waiting, differs]
  | fifth shown ending waiting absent full =>
    simp [add, mark, shown, ending, waiting, absent, full]

/-- What is drawn after some glyphs, or the cause why one of them cannot be drawn. -/
def after (read : List Glyph) : Except Cause Drawn := read.foldlM add {}

/-- A further glyph is drawn onto what is drawn before it. -/
theorem after_concat {read : List Glyph} {drawn : Drawn} (before : after read = .ok drawn)
    (glyph : Glyph) : after (read ++ [glyph]) = drawn.add glyph := by
  rw [after, List.foldlM_append]
  rw [after] at before
  rw [before]
  cases added : drawn.add glyph <;> simp [bind, Except.bind, added, pure, Except.pure]

/-- Glyphs that are all drawn are drawn up to the last one. -/
theorem before_of_after {read : List Glyph} {glyph : Glyph} {later : Drawn}
    (done : after (read ++ [glyph]) = .ok later) :
    ∃ drawn, after read = .ok drawn ∧ drawn.add glyph = .ok later := by
  cases before : after read with
  | ok drawn => exact ⟨drawn, rfl, after_concat before glyph ▸ done⟩
  | error cause =>
    rw [after] at before done
    rw [List.foldlM_append, before] at done
    contradiction

/-- Where all glyphs are drawn, each is drawn onto what is drawn before it. -/
theorem added_of_after {front back : List Glyph} {glyph : Glyph} {later : Drawn}
    (done : after (front ++ glyph :: back) = .ok later) :
    ∃ drawn next, after front = .ok drawn ∧ drawn.add glyph = .ok next := by
  rw [after, List.foldlM_append] at done
  cases before : after front with
  | error cause =>
    rw [after] at before
    rw [before] at done
    contradiction
  | ok drawn =>
    rw [after] at before
    rw [before] at done
    cases added : drawn.add glyph with
    | ok next => exact ⟨drawn, next, rfl, added⟩
    | error cause =>
      simp only [bind, Except.bind, List.foldlM_cons, added] at done
      contradiction

/-- Glyphs are all drawn, or one of them is the first that cannot be drawn. -/
theorem after_cases (read : List Glyph) :
    (∃ drawn, after read = .ok drawn) ∨
      ∃ front glyph back drawn cause, read = front ++ glyph :: back ∧
        after front = .ok drawn ∧ drawn.add glyph = .error cause := by
  induction read using List.reverseRecOn with
  | nil => exact .inl ⟨_, rfl⟩
  | append_singleton read last ih =>
    rcases ih with ⟨drawn, before⟩ | ⟨front, glyph, back, drawn, cause, split, before, refused⟩
    · cases added : drawn.add last with
      | ok later => exact .inl ⟨later, (after_concat before last).trans added⟩
      | error cause => exact .inr ⟨read, last, [], drawn, cause, rfl, before, added⟩
    · refine .inr ⟨front, glyph, back ++ [last], drawn, cause, ?_, before, refused⟩
      rw [split, List.append_assoc, List.cons_append]

/-! ## Reading back what is drawn -/

/-- What is drawn is written back as the glyphs read, and keeps the rules of a drawing. -/
structure Sound (drawn : Drawn) (read : List Glyph) : Prop where
  /-- Written back, it is the glyphs without the blanks. -/
  text : visible read = drawn.text
  /-- Every row has the width of the first. -/
  equal : ∀ row ∈ drawn.rows, drawn.rows.head?.map List.length = some row.length
  /-- There are at most four glyphs. -/
  few : drawn.pixels.eraseDups.length ≤ 4
  /-- No pixel is a newline. -/
  inked : ∀ glyph ∈ drawn.pixels ++ drawn.waiting.toList, glyph ≠ Glyph.newline

/-- A step keeps what is drawn sound. -/
theorem Sound.step {drawn later : Drawn} {read : List Glyph} {glyph : Glyph}
    (sound : drawn.Sound read) (step : drawn.Step glyph later) :
    later.Sound (read ++ [glyph]) := by
  obtain ⟨text, equal, few, inked⟩ := sound
  cases step with
  | blank blank => exact ⟨by simpa [visible, blank] using text, equal, few, inked⟩
  | close complete fits =>
    have same : Drawn.pixels { rows := drawn.rows ++ [drawn.row] } = drawn.pixels := by
      simp [Drawn.pixels]
    constructor
    case text =>
      have shown : visible (read ++ [Glyph.newline]) = visible read ++ [Glyph.newline] := by
        simp [visible, Glyph.isBlank, Glyph.newline]
      rw [shown, text]
      simp [Drawn.text, written, doubled, complete]
    case equal =>
      intro row member
      simp only [List.mem_append, List.mem_singleton] at member
      simp only [List.head?_append]
      cases head : drawn.rows.head? with
      | none =>
        have empty : drawn.rows = [] := List.head?_eq_none_iff.mp head
        simp_all
      | some first =>
        rw [head] at equal
        rcases member with old | rfl
        · exact equal row old
        · simp [fits first head]
    case few => rw [same]; exact few
    case inked =>
      rw [same]
      simpa [complete] using inked
  | opened shown ending free =>
    constructor
    case text =>
      have kept : visible (read ++ [glyph]) = visible read ++ [glyph] := by simp [visible, shown]
      rw [kept, text]
      simp [Drawn.text, free]
    case equal => exact equal
    case few => exact few
    case inked =>
      intro other member
      rw [List.mem_append] at member
      rcases member with old | new
      · exact inked other (List.mem_append_left _ old)
      · simp_all
  | complete shown ending twin room =>
    have longer : Drawn.pixels { drawn with row := drawn.row ++ [glyph], waiting := none } =
        drawn.pixels ++ [glyph] := by simp [Drawn.pixels]
    constructor
    case text =>
      have kept : visible (read ++ [glyph]) = visible read ++ [glyph] := by simp [visible, shown]
      rw [kept, text]
      simp [Drawn.text, doubled, twin]
    case equal => exact equal
    case few =>
      rw [longer, eraseDups_concat]
      split
      · exact few
      · rename_i absent
        have below := room.resolve_left absent
        rw [List.length_append, List.length_singleton]
        omega
    case inked =>
      rw [longer]
      simpa [twin] using inked

/-- What is drawn after some glyphs is sound. -/
theorem sound_after {read : List Glyph} {drawn : Drawn} (done : after read = .ok drawn) :
    drawn.Sound read := by
  induction read using List.reverseRecOn generalizing drawn with
  | nil =>
    obtain rfl : {} = drawn := Except.ok.inj done
    constructor <;> simp [visible, Drawn.text, written, doubled, Drawn.pixels]
  | append_singleton read glyph ih =>
    obtain ⟨earlier, before, added⟩ := before_of_after done
    exact (ih before).step (step_of_add added)

/-! ## Drawing what is written -/

/-- A glyph that is drawn comes before the rest. -/
theorem foldlM_add_cons {drawn later : Drawn} {glyph : Glyph} (added : drawn.add glyph = .ok later)
    (rest : List Glyph) : (glyph :: rest).foldlM add drawn = rest.foldlM add later := by
  rw [List.foldlM_cons, added]
  rfl

/-- Blanks make no difference to what is drawn. -/
theorem foldlM_add_visible (read : List Glyph) (drawn : Drawn) :
    (visible read).foldlM add drawn = read.foldlM add drawn := by
  induction read generalizing drawn with
  | nil => rfl
  | cons glyph read ih =>
    cases blank : glyph.isBlank with
    | true =>
      have kept : drawn.add glyph = .ok drawn := by simp [add, blank]
      rw [show visible (glyph :: read) = visible read by simp [visible, blank], ih,
        foldlM_add_cons kept]
    | false =>
      rw [show visible (glyph :: read) = glyph :: visible read by simp [visible, blank]]
      cases added : drawn.add glyph with
      | ok later => rw [foldlM_add_cons added, foldlM_add_cons added, ih]
      | error cause => rw [List.foldlM_cons, List.foldlM_cons, added]; rfl

/-- A glyph written twice is drawn as one pixel, while there are at most four glyphs. -/
theorem foldlM_add_twice {rows : List (List Glyph)} {row : List Glyph} {glyph : Glyph}
    (shown : glyph.isBlank = false) (ending : glyph ≠ Glyph.newline)
    (few : (rows.flatten ++ row ++ [glyph]).eraseDups.length ≤ 4) (rest : List Glyph) :
    (glyph :: glyph :: rest).foldlM add { rows, row } =
      rest.foldlM add { rows, row := row ++ [glyph] } := by
  have opened : add { rows, row } glyph = .ok { rows, row, waiting := some glyph } := by
    simp [add, mark, shown, ending]
  have completed : add { rows, row, waiting := some glyph } glyph =
      .ok { rows, row := row ++ [glyph] } := by
    have room : ¬(glyph ∉ rows.flatten ++ row ∧ 4 ≤ (rows.flatten ++ row).eraseDups.length) := by
      rintro ⟨absent, full⟩
      rw [eraseDups_concat, if_neg absent, List.length_append, List.length_singleton] at few
      omega
    simp only [add, mark, pixels, shown, ending, room, Bool.false_eq_true, ne_eq,
      not_true_eq_false, if_false]
  rw [foldlM_add_cons opened, foldlM_add_cons completed]

/-- The distinct items of a front are not more than those of the whole. -/
theorem length_eraseDups_le (front back : List Glyph) :
    front.eraseDups.length ≤ (front ++ back).eraseDups.length := by
  rw [List.eraseDups_append, List.length_append]
  exact Nat.le_add_right ..

/-- A doubled row is drawn glyph by glyph. -/
theorem foldlM_add_doubled {rows : List (List Glyph)} {row : List Glyph} (glyphs : List Glyph)
    (shown : ∀ glyph ∈ glyphs, glyph.isBlank = false)
    (inked : ∀ glyph ∈ glyphs, glyph ≠ Glyph.newline)
    (few : (rows.flatten ++ row ++ glyphs).eraseDups.length ≤ 4) (rest : List Glyph) :
    (doubled glyphs ++ rest).foldlM add { rows, row } =
      rest.foldlM add { rows, row := row ++ glyphs } := by
  induction glyphs generalizing row with
  | nil => simp [doubled]
  | cons glyph glyphs ih =>
    rw [List.append_cons] at few
    have first : (rows.flatten ++ row ++ [glyph]).eraseDups.length ≤ 4 :=
      Nat.le_trans (length_eraseDups_le _ glyphs) few
    rw [List.append_assoc rows.flatten] at few
    rw [show doubled (glyph :: glyphs) ++ rest = glyph :: glyph :: (doubled glyphs ++ rest) by
        simp [doubled],
      foldlM_add_twice (shown glyph List.mem_cons_self) (inked glyph List.mem_cons_self) first,
      ih (fun other member => shown other (List.mem_cons_of_mem _ member))
        (fun other member => inked other (List.mem_cons_of_mem _ member)) few,
      List.append_assoc, List.singleton_append]

/-- Rows of one width are drawn row by row, while there are at most four glyphs. -/
theorem foldlM_add_written (done : List (List Glyph)) {rows : List (List Glyph)} {width : Nat}
    (equal : ∀ row ∈ done ++ rows, row.length = width)
    (shown : ∀ glyph ∈ rows.flatten, glyph.isBlank = false)
    (inked : ∀ glyph ∈ rows.flatten, glyph ≠ Glyph.newline)
    (few : (done ++ rows).flatten.eraseDups.length ≤ 4) :
    (written rows).foldlM add { rows := done } = .ok { rows := done ++ rows } := by
  induction rows generalizing done with
  | nil => simp [written]; rfl
  | cons row rows ih =>
    rw [List.append_cons] at equal few ⊢
    rw [List.flatten_cons] at shown inked
    have room : (done.flatten ++ [] ++ row).eraseDups.length ≤ 4 := by
      refine Nat.le_trans (length_eraseDups_le _ rows.flatten) ?_
      simpa using few
    have closed : add { rows := done, row := [] ++ row } Glyph.newline =
        .ok { rows := done ++ [row] } := by
      have other : Glyph.newline.isBlank = false := rfl
      cases head : done.head? with
      | none => simp [add, close, other, head]
      | some first =>
        have wide : row.length = first.length := by
          rw [equal row (by simp), equal first (by simp [List.mem_of_head? head])]
        simp [add, close, other, head, wide]
    rw [show written (row :: rows) = doubled row ++ (Glyph.newline :: written rows) by
        simp [written],
      foldlM_add_doubled row (fun glyph member => shown glyph (List.mem_append_left _ member))
        (fun glyph member => inked glyph (List.mem_append_left _ member)) room,
      foldlM_add_cons closed]
    exact ih _ equal (fun glyph member => shown glyph (List.mem_append_right _ member))
      (fun glyph member => inked glyph (List.mem_append_right _ member)) few

end Drawn

end SpriteText
