import SpriteText.Sheet.Source

/-!
# The names of parsed sheets

Every source of a parsed sheet is named by a sprite name, so its name holds only letters, digits,
underscores and at most a line feed.
-/

namespace SpriteText.Sheet

/-- Parts of an identifier may stand before what ends one. -/
theorem isNameRest_append {front back : List Char}
    (parts : ∀ character ∈ front, isNamePart character = true) (rest : isNameRest back = true) :
    isNameRest (front ++ back) = true := by
  induction front with
  | nil => exact rest
  | cons first front ih =>
    obtain ⟨part, others⟩ := List.forall_mem_cons.mp parts
    rw [List.cons_append, isNameRest, part, ih others]
    · rfl
    · rintro rfl
      contradiction

/-- An identifier goes on with parts of one, and then at most with a line feed. -/
theorem exists_of_isNameRest {characters : List Char} (rest : isNameRest characters = true) :
    ∃ front, (∀ character ∈ front, isNamePart character = true) ∧
      (characters = front ∨ characters = front ++ ['\n']) := by
  fun_induction isNameRest characters with
  | case1 => exact ⟨[], List.forall_mem_nil _, .inl rfl⟩
  | case2 => exact ⟨[], List.forall_mem_nil _, .inr rfl⟩
  | case3 first characters _ ih =>
    rw [Bool.and_eq_true] at rest
    obtain ⟨front, parts, spelled⟩ := ih rest.2
    refine ⟨first :: front, List.forall_mem_cons.mpr ⟨rest.1, parts⟩, ?_⟩
    exact spelled.imp (congrArg (first :: ·)) (congrArg (first :: ·))

/-- What an identifier starts with is also a part of one. -/
theorem isNamePart_of_isNameStart {character : Char} (start : isNameStart character = true) :
    isNamePart character = true := by
  simp only [isNameStart, isNamePart, Char.isAlphanum, Bool.or_eq_true] at start ⊢
  exact start.imp_left Or.inl

/-- The characters of a sprite name are parts of an identifier, or a line feed. -/
theorem isNamePart_of_isSpriteName {name : String} (named : isSpriteName name = true) :
    ∀ character ∈ name.toList, isNamePart character = true ∨ character = '\n' := by
  simp only [isSpriteName, Bool.and_eq_true] at named
  have spelled := named.1
  cases characters : name.toList with
  | nil => simp
  | cons first rest =>
    rw [characters] at spelled
    simp only [isIdentifier, Bool.and_eq_true] at spelled
    obtain ⟨front, parts, ending⟩ := exists_of_isNameRest spelled.2
    intro character member
    rcases List.mem_cons.mp member with rfl | later
    · exact .inl (isNamePart_of_isNameStart spelled.1)
    · rcases ending with rfl | rfl
      · exact .inl (parts character later)
      · exact (List.mem_append.mp later).imp (parts character) List.mem_singleton.mp

/-- A sprite name does not end in the character that fills names up in an asset. -/
theorem getLast?_ne_of_isSpriteName {name : String} (named : isSpriteName name = true) :
    name.toList.getLast? ≠ some '\x00' := by
  intro ending
  rcases isNamePart_of_isSpriteName named _ (List.mem_of_getLast? ending) with part | feed
  · exact absurd part (by decide)
  · exact absurd feed (by decide)

/-- What comes of checking the name of a section, when some names are taken. -/
inductive Section.Checked (part : Section) (taken : List String) : Except Fault String → Prop
  /-- The name is a sprite name, and it is new. -/
  | fresh {name : String} : part.name = some name → isSpriteName name = true → name ∉ taken →
      Checked part taken (.ok name)
  /-- There is no name. -/
  | missing : part.name = none →
      Checked part taken (.error { cause := .missingName, line := some part.headerLine })
  /-- The name is no sprite name. -/
  | invalid {name : String} : part.name = some name → isSpriteName name = false →
      Checked part taken (.error { cause := .invalidName name, line := some part.headerLine })
  /-- The name is taken. -/
  | duplicate {name : String} : part.name = some name → isSpriteName name = true → name ∈ taken →
      Checked part taken (.error { cause := .duplicateName name, line := some part.headerLine })

/-- One of these comes of checking the name of a section. -/
theorem Section.checked (part : Section) (taken : List String) :
    part.Checked taken (part.checkedName taken) := by
  unfold checkedName
  cases given : part.name with
  | none => exact .missing given
  | some name =>
    cases valid : isSpriteName name with
    | false => simpa [valid] using Checked.invalid given valid
    | true =>
      by_cases used : name ∈ taken
      · simpa [valid, used] using Checked.duplicate given valid used
      · simpa [valid, used] using Checked.fresh given valid used

/-- A name that passes the checks on a header is a sprite name, and it is new. -/
theorem checkedName_spec {part : Section} {taken : List String} {name : String}
    (checked : part.checkedName taken = .ok name) : isSpriteName name = true ∧ name ∉ taken := by
  have outcome := part.checked taken
  rw [checked] at outcome
  cases outcome with
  | fresh _ valid new => exact ⟨valid, new⟩

/-- The sources of sections have sprite names. -/
theorem isSpriteName_of_sourcesOf {taken : List String} {sections : List Section}
    {sources : List Source} (done : sourcesOf taken sections = .ok sources) :
    ∀ source ∈ sources, isSpriteName source.name = true := by
  induction sections generalizing taken sources with
  | nil =>
    obtain rfl : [] = sources := Except.ok.inj done
    simp
  | cons part sections ih =>
    rw [sourcesOf] at done
    cases checked : part.checkedName taken with
    | error fault => simp [checked] at done
    | ok name =>
      cases others : sourcesOf (name :: taken) sections with
      | error fault => simp [checked, others] at done
      | ok later =>
        simp only [checked, others, Except.ok.injEq] at done
        subst done
        rw [List.forall_mem_cons]
        exact ⟨(checkedName_spec checked).1, ih others⟩

/-- The sources of sections have names of their own, none of them taken, one for each section. -/
theorem distinct_of_sourcesOf {taken : List String} {sections : List Section}
    {sources : List Source} (done : sourcesOf taken sections = .ok sources) :
    (sources.map Source.name).Nodup ∧ (∀ source ∈ sources, source.name ∉ taken) ∧
      sources.length = sections.length := by
  induction sections generalizing taken sources with
  | nil =>
    obtain rfl : [] = sources := Except.ok.inj done
    simp
  | cons part sections ih =>
    rw [sourcesOf] at done
    cases checked : part.checkedName taken with
    | error fault => simp [checked] at done
    | ok name =>
      cases others : sourcesOf (name :: taken) sections with
      | error fault => simp [checked, others] at done
      | ok later =>
        simp only [checked, others, Except.ok.injEq] at done
        subst done
        obtain ⟨distinct, free, length⟩ := ih others
        rw [List.map_cons, List.nodup_cons, List.forall_mem_cons, List.length_cons, length]
        refine ⟨⟨fun again => ?_, distinct⟩, ⟨(checkedName_spec checked).2, ?_⟩, rfl⟩
        · obtain ⟨source, member, same⟩ := List.mem_map.mp again
          exact free source member (same ▸ List.mem_cons_self)
        · intro source member known
          exact free source member (List.mem_cons_of_mem _ known)

/-- The sources of sections have the names on the headers. -/
theorem map_name_of_sourcesOf {taken : List String} {sections : List Section}
    {sources : List Source} (done : sourcesOf taken sections = .ok sources) :
    sections.map Section.name = sources.map fun source => some source.name := by
  induction sections generalizing taken sources with
  | nil =>
    obtain rfl : [] = sources := Except.ok.inj done
    rfl
  | cons part sections ih =>
    have outcome := part.checked taken
    rw [sourcesOf] at done
    cases checked : part.checkedName taken with
    | error fault => simp [checked] at done
    | ok name =>
      rw [checked] at outcome
      cases outcome with
      | fresh given =>
        cases others : sourcesOf (name :: taken) sections with
        | error fault => simp [checked, others] at done
        | ok later =>
          simp only [checked, others, Except.ok.injEq] at done
          rw [← done, List.map_cons, List.map_cons, ih others, given]
          rfl

/-- Sections are refused for the first whose name is wrong behind the names before it. -/
theorem exists_of_sourcesOf_error {taken : List String} {sections : List Section} {fault : Fault}
    (refused : sourcesOf taken sections = .error fault) :
    ∃ front part back sources, sections = front ++ part :: back ∧
      sourcesOf taken front = .ok sources ∧
      part.checkedName ((sources.map Source.name).reverse ++ taken) = .error fault := by
  induction sections generalizing taken with
  | nil => contradiction
  | cons part sections ih =>
    rw [sourcesOf] at refused
    cases checked : part.checkedName taken with
    | error found =>
      simp only [checked, Except.error.injEq] at refused
      exact ⟨[], part, sections, [], rfl, rfl, refused ▸ checked⟩
    | ok name =>
      cases others : sourcesOf (name :: taken) sections with
      | ok sources => simp [checked, others] at refused
      | error found =>
        simp only [checked, others, Except.error.injEq] at refused
        obtain ⟨front, wrong, back, sources, rfl, done, stopped⟩ := ih (refused ▸ others)
        refine ⟨part :: front, wrong, back, Source.ofBody name part.headerLine part.body :: sources,
          rfl, by simp [sourcesOf, checked, done], ?_⟩
        rw [List.map_cons, List.reverse_cons, List.append_assoc]
        exact stopped

/-- A parsed sheet is one drawing with a sprite name, or the drawings of its sections. -/
theorem parse_cases {text : String} {defaultName : Option String} {sources : List Source}
    (done : parse text defaultName = .ok sources) :
    (∃ name body, isSpriteName name = true ∧ sources = [Source.ofBody name 0 body]) ∨
      ∃ sections, sections ≠ [] ∧ sourcesOf [] sections = .ok sources := by
  simp only [parse] at done
  generalize cut (numberedLines text) = parts at done
  obtain ⟨preamble, sections⟩ := parts
  cases sections with
  | nil =>
    cases valid : isSpriteName (soleName defaultName) with
    | false => simp [valid] at done
    | true =>
      simp only [valid, if_true, Except.ok.injEq] at done
      exact .inl ⟨_, _, valid, done.symm⟩
  | cons part sections =>
    cases stray : preamble.find? fun line => !isComment line with
    | some line => simp [stray] at done
    | none =>
      simp only [stray] at done
      exact .inr ⟨part :: sections, List.cons_ne_nil _ _, done⟩

variable {text : String} {defaultName : Option String} {sources : List Source}

/-- The sources of a parsed sheet have sprite names. -/
theorem isSpriteName_of_parse (done : parse text defaultName = .ok sources) :
    ∀ source ∈ sources, isSpriteName source.name = true := by
  rcases parse_cases done with ⟨name, body, valid, rfl⟩ | ⟨sections, -, done⟩
  · rw [List.forall_mem_singleton]
    exact valid
  · exact isSpriteName_of_sourcesOf done

/-- The sources of a parsed sheet have names of their own. -/
theorem distinct_of_parse (done : parse text defaultName = .ok sources) :
    (sources.map Source.name).Nodup := by
  rcases parse_cases done with ⟨name, body, -, rfl⟩ | ⟨sections, -, done⟩
  · simp
  · exact (distinct_of_sourcesOf done).1

/-- A parsed sheet has a source. -/
theorem ne_nil_of_parse (done : parse text defaultName = .ok sources) : sources ≠ [] := by
  rcases parse_cases done with ⟨name, body, -, rfl⟩ | ⟨sections, some_section, done⟩
  · exact List.cons_ne_nil _ _
  · intro none
    have length := (distinct_of_sourcesOf done).2.2
    rw [none, List.length_nil, eq_comm, List.length_eq_zero_iff] at length
    exact some_section length

end SpriteText.Sheet
