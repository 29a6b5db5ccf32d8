import SpriteText.Proofs.Sheet.Headings

/-!
# The first offence of a sheet

A line offends if it stands before the first header and is no comment, or if it is a header without
a name, with a name that is not plain, or with the name of an earlier header. A sheet with headers
is parsed exactly if no line offends; otherwise it is refused for the first line that does.
-/

namespace SpriteText.Sheet

/-- The lines of a sheet that offend, and why. -/
inductive Offence (text : String) : Nat → Cause → Prop
  /-- A line above all headers shows something that does not start a comment. -/
  | stray {line : Line} {first : Char} {rest : List Char} : line ∈ numberedLines text →
      (∀ heading ∈ headings text, line.number < heading.line) →
      Text.trim line.characters = first :: rest → first ≠ '#' →
      Offence text line.number .strayContent
  /-- A header has no name. -/
  | missing {number : Nat} : ⟨number, none⟩ ∈ headings text → Offence text number .missingName
  /-- The name of a header is no identifier, or it is reserved. -/
  | unfit {number : Nat} {name : String} : ⟨number, some name⟩ ∈ headings text →
      ¬PlainName name → Offence text number (.invalidName name)
  /-- The name of a header is that of an earlier one. -/
  | repeated {earlier number : Nat} {name : String} : ⟨earlier, some name⟩ ∈ headings text →
      ⟨number, some name⟩ ∈ headings text → earlier < number →
      Offence text number (.duplicateName name)

/-- A line is no comment if it shows something that does not start one. -/
theorem isComment_eq_false_iff {line : Line} : isComment line = false ↔
    ∃ first rest, Text.trim line.characters = first :: rest ∧ first ≠ '#' := by
  rw [isComment]
  cases Text.trim line.characters with
  | nil => simp
  | cons first rest => simp

/-! ## Headers without offence -/

/-- Headers have plain names, and no two of them have the same. -/
structure Sound (headings : List Heading) : Prop where
  /-- Every header has a plain name. -/
  plain : ∀ heading ∈ headings, ∃ name, heading.name = some name ∧ PlainName name
  /-- No name is given twice. -/
  distinct : (headings.map Heading.name).Nodup

variable {text : String} {front back : List Heading} {number : Nat} {cause : Cause}

/-- Headers of a sheet whose sections give sources are sound. -/
theorem sound_of_sourcesOf {sections : List Section} {sources : List Source}
    (done : sourcesOf [] sections = .ok sources)
    (inside : ∀ heading ∈ sections.map Section.heading, heading ∈ headings text) :
    Sound (sections.map Section.heading) := by
  have names := map_name_of_sourcesOf done
  constructor
  case plain =>
    intro heading member
    obtain ⟨part, held, rfl⟩ := List.mem_map.mp member
    have given : part.name ∈ sources.map fun source => some source.name := by
      rw [← names]
      exact List.mem_map_of_mem held
    obtain ⟨source, kept, same⟩ := List.mem_map.mp given
    have there := inside _ member
    rw [Section.heading, ← same] at there
    have valid := isSpriteName_of_sourcesOf done source kept
    exact ⟨source.name, same.symm, (isSpriteName_iff_of_mem_headings there).mp valid⟩
  case distinct =>
    have given : (sections.map Section.heading).map Heading.name =
        (sources.map Source.name).map some := by
      rw [List.map_map, List.map_map]
      exact names
    rw [given]
    exact (distinct_of_sourcesOf done).1.map (Option.some_injective _)

/-- If all lines before the headers are comments and the first headers are sound, no line above the
other headers offends. -/
theorem Offence.mem_back (offence : Offence text number cause)
    (comments : ∀ line ∈ (cut (numberedLines text)).1, isComment line = true)
    (split : headings text = front ++ back) (sound : Sound front) :
    ∃ heading ∈ back, heading.line = number := by
  have ascending := ascending_headings text
  rw [split] at ascending
  cases offence with
  | @stray line first rest member above shown other =>
    have early : line ∈ (cut (numberedLines text)).1 :=
      (mem_preamble_iff (ascending_numberedLines text)).mpr ⟨member, above⟩
    have comment := comments line early
    rw [isComment_eq_false_iff.mpr ⟨first, rest, shown, other⟩] at comment
    contradiction
  | missing member =>
    rw [split] at member
    rcases List.mem_append.mp member with early | late
    · obtain ⟨name, given, -⟩ := sound.plain _ early
      contradiction
    · exact ⟨_, late, rfl⟩
  | unfit member unplain =>
    rw [split] at member
    rcases List.mem_append.mp member with early | late
    · obtain ⟨name, given, plain⟩ := sound.plain _ early
      cases given
      contradiction
    · exact ⟨_, late, rfl⟩
  | @repeated earlier _ name first second before =>
    rw [split] at first second
    rcases List.mem_append.mp second with early | late
    · rcases List.mem_append.mp first with both | apart
      · have same := List.inj_on_of_nodup_map sound.distinct both early rfl
        cases same
        exact absurd before (Nat.lt_irrefl _)
      · have reversed : number < earlier := ascending.lt early apart
        exact absurd before (Nat.lt_asymm reversed)
    · exact ⟨_, late, rfl⟩

/-- The offence of a section whose name is wrong behind sources. -/
theorem offence_of_checkedName {sections : List Section} {sources : List Source} {part : Section}
    {fault : Fault} (done : sourcesOf [] sections = .ok sources)
    (split : headings text = sections.map Section.heading ++ part.heading :: back)
    (refused : part.checkedName ((sources.map Source.name).reverse ++ []) = .error fault) :
    ∃ cause, Offence text part.headerLine cause ∧ cause.kind = .sheet ∧
      fault = { cause, line := some part.headerLine } := by
  have here : part.heading ∈ headings text := by
    rw [split]
    exact List.mem_append_right _ List.mem_cons_self
  have outcome := part.checked ((sources.map Source.name).reverse ++ [])
  rw [refused] at outcome
  cases outcome with
  | missing given =>
    rw [Section.heading, given] at here
    exact ⟨_, .missing here, rfl, rfl⟩
  | @invalid name given invalid =>
    rw [Section.heading, given] at here
    have unplain : ¬PlainName name := by
      rw [← isSpriteName_iff_of_mem_headings here, invalid]
      exact Bool.false_ne_true
    exact ⟨_, .unfit here unplain, rfl, rfl⟩
  | @duplicate name given valid taken =>
    rw [Section.heading, given] at here
    have known : some name ∈ sections.map Section.name := by
      rw [map_name_of_sourcesOf done]
      obtain ⟨source, member, rfl⟩ : ∃ source ∈ sources, source.name = name := by
        simpa using taken
      exact List.mem_map_of_mem (f := fun source : Source => some source.name) member
    obtain ⟨earlier, member, same⟩ := List.mem_map.mp known
    have above : earlier.heading ∈ sections.map Section.heading := List.mem_map_of_mem member
    have ascending := ascending_headings text
    have first : earlier.heading ∈ headings text := by
      rw [split]
      exact List.mem_append_left _ above
    rw [split] at ascending
    have before : earlier.headerLine < part.headerLine := ascending.lt above List.mem_cons_self
    rw [Section.heading, same] at first
    exact ⟨_, .repeated first here before, rfl, rfl⟩

/-- The first line before the headers that is no comment offends first of all lines. -/
theorem Offence.le_of_stray (offence : Offence text number cause) {line : Line}
    (stray : (cut (numberedLines text)).1.find? (fun line => !isComment line) = some line) :
    line.number ≤ number := by
  have inside := @mem_preamble_iff _ (ascending_numberedLines text)
  obtain ⟨-, above⟩ := inside.mp (List.mem_of_find?_eq_some stray)
  cases offence with
  | @stray other first rest member other_above shown ink =>
    obtain ⟨-, front, back, split, comments⟩ := List.find?_eq_some_iff_append.mp stray
    have early := inside.mpr ⟨member, other_above⟩
    rw [split] at early
    rcases List.mem_append.mp early with before | after
    · have comment := comments other before
      rw [isComment_eq_false_iff.mpr ⟨first, rest, shown, ink⟩] at comment
      contradiction
    · obtain ⟨standing, -⟩ := prefix_of_cut 0 ((Text.lines text.toList).map dropReturn)
      have behind : line :: back <:+: numberedLines text :=
        (split ▸ List.suffix_append front (line :: back)).isInfix.trans standing.isInfix
      exact Ascending.first_le ((ascending_numberedLines text).sublist behind.sublist) after
  | missing member => exact Nat.le_of_lt (above _ member)
  | unfit member => exact Nat.le_of_lt (above _ member)
  | repeated _ member => exact Nat.le_of_lt (above _ member)

/-! ## What comes of a sheet with headers -/

/-- What comes of a sheet with headers. -/
inductive Judgement (text : String) : Except Fault (List Source) → Prop
  /-- No line offends. There is one source for each header, in order, with the name on it. -/
  | accepted {sources : List Source} : (∀ number cause, ¬Offence text number cause) →
      (headings text).map Heading.name = (sources.map fun source => some source.name) →
      Judgement text (.ok sources)
  /-- A line offends, and no line before it does. -/
  | refused {number : Nat} {cause : Cause} : Offence text number cause →
      (∀ other why, Offence text other why → number ≤ other) → cause.kind = .sheet →
      Judgement text (.error { cause, line := some number })

/-- A fault tells the first line that offends. -/
theorem Judgement.exists_offence {fault : Fault} (judged : Judgement text (.error fault)) :
    ∃ number : Nat, Offence text number fault.cause ∧
      (∀ other why, Offence text other why → number ≤ other) ∧
      fault.line = some (number : Int) := by
  cases judged with
  | refused offence least => exact ⟨_, offence, least, rfl⟩

/-- A sheet with headers is parsed exactly if no line offends, and then there is one source for each
header, in order, with the name on it. Otherwise it is refused for the first line that offends, in
whatever order the offences are looked for. -/
theorem parse_judgement {text : String} (some_header : headings text ≠ [])
    (defaultName : Option String) : Judgement text (parse text defaultName) := by
  have heads : (cut (numberedLines text)).2.map Section.heading = headings text :=
    map_heading_cut (numberedLines text)
  cases stray : (cut (numberedLines text)).1.find? fun line => !isComment line with
  | some line =>
    obtain ⟨member, before⟩ :=
      (mem_preamble_iff (ascending_numberedLines text)).mp (List.mem_of_find?_eq_some stray)
    have shown : isComment line = false := by
      simpa using List.find?_some stray
    obtain ⟨letter, rest, trimmed, other⟩ := isComment_eq_false_iff.mp shown
    rw [parse_of_stray some_header stray]
    exact .refused (.stray member before trimmed other)
      (fun number why offence => offence.le_of_stray stray) rfl
  | none =>
    have comments : ∀ line ∈ (cut (numberedLines text)).1, isComment line = true := by
      simpa using stray
    rw [parse_of_comments some_header stray]
    cases outcome : sourcesOf [] (cut (numberedLines text)).2 with
    | ok sources =>
      have sound := sound_of_sourcesOf outcome fun heading member => heads ▸ member
      have whole : headings text = (cut (numberedLines text)).2.map Section.heading ++ [] := by
        rw [List.append_nil, heads]
      refine .accepted (fun number cause offence => ?_) ?_
      · obtain ⟨heading, none, -⟩ := offence.mem_back comments whole sound
        contradiction
      · rw [← heads, List.map_map]
        exact map_name_of_sourcesOf outcome
    | error fault =>
      obtain ⟨front, part, back, sources, split, done, stopped⟩ :=
        exists_of_sourcesOf_error outcome
      have whole : headings text =
          front.map Section.heading ++ part.heading :: back.map Section.heading := by
        rw [← heads, split, List.map_append, List.map_cons]
      have inside : ∀ heading ∈ front.map Section.heading, heading ∈ headings text := by
        intro heading member
        rw [whole]
        exact List.mem_append_left _ member
      have sound := sound_of_sourcesOf done inside
      obtain ⟨cause, offence, kind, rfl⟩ := offence_of_checkedName done whole stopped
      refine .refused offence (fun number why other => ?_) kind
      obtain ⟨heading, member, rfl⟩ := other.mem_back comments whole sound
      have ascending := ascending_headings text
      rw [whole] at ascending
      exact Ascending.first_le (ascending.sublist (List.sublist_append_right _ _)) member

/-- Of a repeated name and a name that is no identifier, the sheet is refused for the one on the
earlier line. -/
theorem parse_judgement_of_two_offences :
    headings "@sprite a\n00\n@sprite a\n00\n@sprite 1\n" ≠ [] ∧
    Offence "@sprite a\n00\n@sprite a\n00\n@sprite 1\n" 3 (.duplicateName "a") ∧
    ∀ other why, Offence "@sprite a\n00\n@sprite a\n00\n@sprite 1\n" other why → 3 ≤ other := by
  generalize written : "@sprite a\n00\n@sprite a\n00\n@sprite 1\n" = sheet
  have some_header : headings sheet ≠ [] := by
    rw [← written]
    decide
  have refused : parse sheet none = .error { cause := .duplicateName "a", line := some 3 } := by
    rw [← written]
    rfl
  have judged := parse_judgement some_header none
  rw [refused] at judged
  obtain ⟨number, offence, least, line⟩ := judged.exists_offence
  have told : (3 : Int) = number := Option.some.inj line
  obtain rfl : number = 3 := by omega
  exact ⟨some_header, offence, least⟩

end SpriteText.Sheet
