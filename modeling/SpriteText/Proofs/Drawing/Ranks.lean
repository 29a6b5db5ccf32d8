import SpriteText.Proofs.Drawing.TwoPasses

/-!
# Ranks over every run

A palette is asked for the ranks of glyphs, one call after another. What one call does is said once
(`Allots`), and every call keeps the ranks of first appearance (`Ranks.add`), so they hold over
every run, whether or not glyphs were refused on the way. No call moves or removes a glyph
(`Allots.grows`): a rank that was handed out early is the rank of its glyph for good, and it fits
the depth that is known only at the end. A palette that is a list written in place, which nothing
bounds, never tells anything else.
-/

namespace SpriteText.Palette

variable {palette next : Palette} {glyph : Glyph} {rank : Nat} {answer : Except Cause Nat}

/-! ## Positions -/

/-- A glyph is found where it stands, since it stands nowhere else. -/
theorem idxOf_of_getElem? (held : palette.glyphs[rank]? = some glyph) :
    palette.glyphs.idxOf glyph = rank := by
  obtain ⟨inside, rfl⟩ := List.getElem?_eq_some_iff.mp held
  exact palette.distinct.idxOf_getElem rank inside

/-- A glyph that is looked up has the rank of its position. -/
theorem rank_of_getElem? (held : palette.glyphs[rank]? = some glyph) :
    palette.rank glyph = .ok rank := by
  have member := List.mem_of_getElem? held
  rw [Palette.rank, rank?, if_pos member, idxOf_of_getElem? held]

/-- The bits of the depth spell every position. -/
theorem lt_two_pow_of_getElem? (held : palette.glyphs[rank]? = some glyph) :
    rank < 2 ^ palette.depth.bits := by
  obtain ⟨inside, -⟩ := List.getElem?_eq_some_iff.mp held
  rw [← palette.depth.ranks_eq_two_pow]
  apply Nat.lt_of_lt_of_le inside
  exact (palette.size_le_ranks_iff palette.depth).mpr le_rfl

/-- A glyph stays at its position when others come behind it. -/
theorem getElem?_of_prefix (grown : palette.glyphs <+: next.glyphs)
    (held : palette.glyphs[rank]? = some glyph) : next.glyphs[rank]? = some glyph := by
  obtain ⟨inside, rfl⟩ := List.getElem?_eq_some_iff.mp held
  exact List.prefix_iff_getElem?.mp grown rank inside

/-- A palette with further glyphs needs no fewer bits. -/
theorem bits_depth_le (grown : palette.glyphs <+: next.glyphs) :
    palette.depth.bits ≤ next.depth.bits := by
  apply (palette.size_le_ranks_iff next.depth).mp
  calc
    palette.size ≤ next.size := grown.length_le
    _ ≤ next.depth.ranks := (next.size_le_ranks_iff next.depth).mpr le_rfl

/-! ## One call -/

/-- One call: the palette after it, and the rank or the cause why there is none. -/
def call (palette : Palette) (glyph : Glyph) : Palette × Except Cause Nat :=
  match palette.allocate glyph with
  | .ok (next, rank) => (next, .ok rank)
  | .error cause => (palette, .error cause)

/-- What a call makes of a palette, and what it answers. -/
inductive Allots (palette : Palette) (glyph : Glyph) : Palette → Except Cause Nat → Prop where
  /-- A glyph that is held keeps its rank. -/
  | held : glyph ∈ palette.glyphs →
      Allots palette glyph palette (.ok (palette.glyphs.idxOf glyph))
  /-- A new glyph comes last while there is room. -/
  | appended {next : Palette} : glyph ∉ palette.glyphs → palette.glyphs.length < 4 →
      next.glyphs = palette.glyphs ++ [glyph] →
      Allots palette glyph next (.ok palette.glyphs.length)
  /-- A fifth glyph is refused. -/
  | refused : glyph ∉ palette.glyphs → palette.glyphs.length = 4 →
      Allots palette glyph palette (.error .tooManyGlyphs)

/-- A call does one of these things. -/
theorem allots_call (palette : Palette) (glyph : Glyph) :
    Allots palette glyph (palette.call glyph).1 (palette.call glyph).2 := by
  by_cases held : glyph ∈ palette.glyphs
  · simp only [call, allocate_of_mem held]
    exact .held held
  · by_cases room : palette.glyphs.length < 4
    · obtain ⟨next, allocated, grown⟩ := allocate_of_not_mem held room
      simp only [call, allocated]
      exact .appended held room grown
    · have limited := palette.limited
      simp only [call, allocate_of_full held room]
      exact .refused held (by omega)

/-- A call for a glyph that is held answers its position and changes nothing. -/
theorem call_of_getElem? (held : palette.glyphs[rank]? = some glyph) :
    palette.call glyph = (palette, .ok rank) := by
  have member := List.mem_of_getElem? held
  simp only [call, allocate_of_mem member, idxOf_of_getElem? held]

/-- No call moves or removes a glyph. -/
theorem Allots.grows (allots : Allots palette glyph next answer) :
    palette.glyphs <+: next.glyphs := by
  cases allots with
  | held | refused => exact List.prefix_rfl
  | appended absent room grown => exact ⟨[glyph], grown.symm⟩

/-- A call fails exactly if four glyphs are held and this glyph is none of them. -/
theorem Allots.refused_iff (allots : Allots palette glyph next answer) :
    answer = .error .tooManyGlyphs ↔ palette.glyphs.length = 4 ∧ glyph ∉ palette.glyphs := by
  cases allots with
  | held member => simp [member]
  | appended absent room grown => simp [Nat.ne_of_lt room]
  | refused absent full => simp [absent, full]

/-- A call that fails has one cause, and changes nothing. -/
theorem Allots.of_error {cause : Cause} (allots : Allots palette glyph next (.error cause)) :
    cause = .tooManyGlyphs ∧ next = palette := by
  cases allots with
  | refused => exact ⟨rfl, rfl⟩

/-! ## In place -/

/-- One call if the glyphs are a list that is written in place: nothing bounds the list, and what is
written before a failure stays written. -/
def allocateInPlace (glyph : Glyph) : ExceptT Cause (StateM (List Glyph)) Nat := do
  match (← get).idxOf? glyph with
  | some place => return place
  | none =>
    if 4 ≤ (← get).length then throw .tooManyGlyphs
    modify fun glyphs => glyphs ++ [glyph]
    return (← get).length - 1

/-- The list in place is read first, whatever is done with it then. -/
theorem run_get_bind {α : Type} (glyphs : List Glyph)
    (rest : List Glyph → ExceptT Cause (StateM (List Glyph)) α) :
    (get >>= rest).run.run glyphs = (rest glyphs).run.run glyphs := rfl

/-- A list in place that is a palette's goes on as the palette does, and answers as it does. -/
theorem run_allocateInPlace (palette : Palette) (glyph : Glyph) :
    (allocateInPlace glyph).run.run palette.glyphs =
      ((palette.call glyph).2, (palette.call glyph).1.glyphs) := by
  have allots := allots_call palette glyph
  generalize (palette.call glyph).1 = next at allots ⊢
  generalize (palette.call glyph).2 = answer at allots ⊢
  rw [allocateInPlace, run_get_bind]
  cases allots with
  | held member =>
    obtain ⟨place, found⟩ := Option.isSome_iff_exists.mp (List.isSome_idxOf?.mpr member)
    rw [List.idxOf_eq_getD_idxOf?, found]
    rfl
  | appended absent room grown =>
    rw [List.idxOf?_eq_none_iff.mpr absent, grown]
    simp only [run_get_bind, if_neg (Nat.not_le.mpr room)]
    show (Except.ok ((palette.glyphs ++ [glyph]).length - 1), palette.glyphs ++ [glyph]) = _
    rw [List.length_append, List.length_singleton, Nat.add_sub_cancel]
  | refused absent full =>
    rw [List.idxOf?_eq_none_iff.mpr absent]
    simp only [run_get_bind, if_pos (Nat.le_of_eq full.symm)]
    rfl

/-! ## Ranks of first appearance -/

/-- The answer to a glyph that is preceded by so many other ones, each counted once. -/
def answerAt (rank : Nat) : Except Cause Nat :=
  if rank < 4 then .ok rank else .error .tooManyGlyphs

/-- A rank is answered if it is one of four. -/
theorem answerAt_eq_ok_iff {place : Nat} : answerAt place = .ok rank ↔ place = rank ∧ rank < 4 := by
  unfold answerAt
  split
  · rename_i low
    rw [Except.ok.injEq]
    constructor
    · rintro rfl
      exact ⟨rfl, low⟩
    · exact And.left
  · rename_i high
    apply iff_of_false nofun
    omega

/-- A palette that holds the first four of the glyphs asked for goes on so, and its answer is by
the first appearance of the glyph. -/
theorem Allots.settles {asked : List Glyph} (allots : Allots palette glyph next answer)
    (glyphs : palette.glyphs = asked.eraseDups.take 4) :
    next.glyphs = (asked ++ [glyph]).eraseDups.take 4 ∧
      answer = answerAt ((asked ++ [glyph]).eraseDups.idxOf glyph) := by
  rw [eraseDups_concat]
  cases allots with
  | held member =>
    rw [glyphs] at member ⊢
    have known := List.mem_of_mem_take member
    have low := (List.mem_take_iff_idxOf_lt known).mp member
    rw [if_pos (List.mem_eraseDups.mp known), answerAt, if_pos low,
      (List.take_prefix 4 asked.eraseDups).idxOf_eq_of_mem member]
    exact ⟨rfl, rfl⟩
  | appended absent room grown =>
    rw [glyphs, List.length_take] at room
    have few : asked.eraseDups.length < 4 := by omega
    rw [List.take_of_length_le (Nat.le_of_lt few)] at glyphs
    rw [glyphs] at absent grown ⊢
    rw [if_neg (mt List.mem_eraseDups.mpr absent), idxOf_concat_of_not_mem absent, answerAt,
      if_pos few]
    refine ⟨?_, rfl⟩
    rw [grown, List.take_of_length_le]
    rw [List.length_append, List.length_singleton]
    omega
  | refused absent full =>
    rw [glyphs] at absent full ⊢
    rw [List.length_take] at full
    have enough : 4 ≤ asked.eraseDups.length := by omega
    -- The glyph comes behind the fourth one, whether or not it was asked for before.
    split
    · rename_i known
      have late := mt (List.mem_take_iff_idxOf_lt (List.mem_eraseDups.mpr known)).mpr absent
      rw [answerAt, if_neg late]
      exact ⟨rfl, rfl⟩
    · rename_i fresh
      rw [idxOf_concat_of_not_mem (mt List.mem_eraseDups.mp fresh), answerAt,
        if_neg (Nat.not_lt.mpr enough), List.take_append_of_le_length enough]
      exact ⟨rfl, rfl⟩

/-! ## Runs -/

/-- A palette after some calls. -/
structure History where
  /-- The palette. -/
  palette : Palette := .empty
  /-- What the calls have answered, in order. -/
  answers : List (Except Cause Nat) := []

/-- One more call. -/
def History.add (history : History) (glyph : Glyph) : History :=
  ⟨(history.palette.call glyph).1, history.answers ++ [(history.palette.call glyph).2]⟩

/-- What calls make of a palette that starts without glyphs. -/
def after (asked : List Glyph) : History := asked.foldl History.add {}

/-- A further call comes after the calls before it. -/
theorem after_concat (asked : List Glyph) (glyph : Glyph) :
    after (asked ++ [glyph]) = (after asked).add glyph := by
  rw [after, List.foldl_append]
  rfl

/-- A palette and its answers follow the first appearances of the glyphs that were asked for. -/
structure Ranks (asked : List Glyph) (history : History) : Prop where
  /-- The palette holds the first four glyphs. -/
  glyphs : history.palette.glyphs = asked.eraseDups.take 4
  /-- Every call was answered by the first appearance of its glyph. -/
  answers : history.answers = (ranked asked).map answerAt

/-- A call keeps the ranks. -/
theorem Ranks.add {asked : List Glyph} {history : History} (ranks : Ranks asked history)
    (glyph : Glyph) : Ranks (asked ++ [glyph]) (history.add glyph) := by
  obtain ⟨glyphs, answer⟩ := (allots_call history.palette glyph).settles ranks.glyphs
  constructor
  case glyphs => exact glyphs
  case answers =>
    rw [ranked_concat, List.map_append, List.map_singleton, ← ranks.answers, ← answer]
    rfl

/-- Calls keep the ranks. -/
theorem ranks_after (asked : List Glyph) : Ranks asked (after asked) := by
  induction asked using List.reverseRecOn with
  | nil => exact ⟨rfl, rfl⟩
  | append_singleton asked glyph ih =>
    rw [after_concat]
    exact ih.add glyph

/-- A fifth glyph is refused, and after it the glyphs that are held still have their ranks. -/
example : (after [122, 97, 122, 109, 98, 99, 97]).answers =
    [.ok 0, .ok 1, .ok 0, .ok 2, .ok 3, .error .tooManyGlyphs, .ok 1] := by rfl

/-- Further calls move or remove no glyph. -/
theorem prefix_after (asked more : List Glyph) :
    (after asked).palette.glyphs <+: (after (asked ++ more)).palette.glyphs := by
  induction more using List.reverseRecOn with
  | nil => simp only [List.append_nil, List.prefix_rfl]
  | append_singleton more glyph ih =>
    rw [← List.append_assoc, after_concat]
    exact ih.trans (allots_call _ glyph).grows

/-- A glyph that was answered with a rank is held at this position. -/
theorem Ranks.getElem?_of_answerAt {asked : List Glyph} {history : History}
    (ranks : Ranks asked history) (member : glyph ∈ asked)
    (answered : answerAt (asked.eraseDups.idxOf glyph) = .ok rank) :
    history.palette.glyphs[rank]? = some glyph := by
  obtain ⟨rfl, low⟩ := answerAt_eq_ok_iff.mp answered
  rw [ranks.glyphs, List.getElem?_take_of_lt low]
  exact List.getElem?_idxOf (List.mem_eraseDups.mpr member)

/-- The glyphs after some calls if they are a list that is written in place. -/
def inPlaceAfter (asked : List Glyph) : List Glyph :=
  asked.foldl (fun glyphs glyph => ((allocateInPlace glyph).run.run glyphs).2) []

/-- The list that is written in place is the palette's all the time. -/
theorem inPlaceAfter_eq (asked : List Glyph) :
    inPlaceAfter asked = (after asked).palette.glyphs := by
  induction asked using List.reverseRecOn with
  | nil => rfl
  | append_singleton asked glyph ih =>
    rw [inPlaceAfter, List.foldl_append, List.foldl_cons, List.foldl_nil, ← inPlaceAfter, ih,
      run_allocateInPlace, after_concat]
    rfl

/-- What holds of a palette after some calls, whether or not there were failures among them. -/
structure Settled (asked : List Glyph) (history : History) : Prop where
  /-- The glyphs are the first four different ones that were asked for, in the order of their first
  appearance. -/
  glyphs : history.palette.glyphs = asked.eraseDups.take 4
  /-- Every call was answered, with the number of different glyphs before the first appearance of
  its own if that is below four. -/
  answers : history.answers = (ranked asked).map answerAt
  /-- A rank that was handed out is the position of its glyph, whatever comes next: looking the
  glyph up answers it again, and so does every later call, which changes nothing. -/
  stable : ∀ (place : Nat) (glyph : Glyph) (rank : Nat), asked[place]? = some glyph →
    history.answers[place]? = some (.ok rank) → ∀ more,
      (after (asked ++ more)).palette.glyphs[rank]? = some glyph ∧
      (after (asked ++ more)).palette.rank glyph = .ok rank ∧
      (after (asked ++ more)).palette.call glyph = ((after (asked ++ more)).palette, .ok rank)
  /-- A further call fails exactly if four glyphs are held and its own is none of them. -/
  refused : ∀ glyph, (history.palette.call glyph).2 = .error .tooManyGlyphs ↔
    history.palette.glyphs.length = 4 ∧ glyph ∉ history.palette.glyphs
  /-- There is no other failure, and a failure changes nothing. -/
  unchanged : ∀ glyph cause, (history.palette.call glyph).2 = .error cause →
    cause = .tooManyGlyphs ∧ (history.palette.call glyph).1 = history.palette
  /-- The bits of the depth never become fewer. -/
  deepens : ∀ more, history.palette.depth.bits ≤ (after (asked ++ more)).palette.depth.bits
  /-- They spell every rank that was handed out so far. -/
  fits : ∀ rank, Except.ok rank ∈ history.answers → rank < 2 ^ history.palette.depth.bits
  /-- A list that is written in place is the palette's. -/
  inPlace : inPlaceAfter asked = history.palette.glyphs
  /-- It answers every further call as the palette does, and is the palette's then. -/
  answered : ∀ glyph, (allocateInPlace glyph).run.run (inPlaceAfter asked) =
    ((history.palette.call glyph).2, (history.palette.call glyph).1.glyphs)

/-- Ranks are settled over every run: they go by the first appearance of the glyphs, stay for good,
and fit the depth. -/
theorem settled_over_every_run (asked : List Glyph) : Settled asked (after asked) := by
  have ranks := ranks_after asked
  constructor
  case glyphs => exact ranks.glyphs
  case answers => exact ranks.answers
  case stable =>
    intro place glyph rank called answered more
    rw [ranks.answers, ranked, List.getElem?_map, List.getElem?_map, called, Option.map_some,
      Option.map_some, Option.some.injEq] at answered
    have held := ranks.getElem?_of_answerAt (List.mem_of_getElem? called) answered
    have kept := getElem?_of_prefix (prefix_after asked more) held
    exact ⟨kept, rank_of_getElem? kept, call_of_getElem? kept⟩
  case refused => exact fun glyph => (allots_call _ glyph).refused_iff
  case unchanged =>
    intro glyph cause failed
    have allots := allots_call (after asked).palette glyph
    rw [failed] at allots
    exact allots.of_error
  case deepens => exact fun more => bits_depth_le (prefix_after asked more)
  case fits =>
    intro rank answered
    rw [ranks.answers, ranked, List.map_map] at answered
    obtain ⟨glyph, member, same⟩ := List.mem_map.mp answered
    exact lt_two_pow_of_getElem? (ranks.getElem?_of_answerAt member same)
  case inPlace => exact inPlaceAfter_eq asked
  case answered =>
    intro glyph
    rw [inPlaceAfter_eq, run_allocateInPlace]

end SpriteText.Palette
