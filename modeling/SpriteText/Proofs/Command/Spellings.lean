import Mathlib.Data.List.Nodup
import Mathlib.Data.List.TakeWhile
import SpriteText.Command.Word

/-!
# How options are spelled

An argument spells an option by one of its spellings, by the start of a long spelling that starts no
other, or by a short spelling with its value right behind it; other values stand behind an equals
sign. An argument is read as an option exactly if it spells one (`ofArgument_eq_option_iff`).
-/

namespace SpriteText.Command

/-- An argument spells an option, with what is attached to it. -/
inductive Spells (argument : String) : Flag → Option String → Prop
  /-- The argument is a spelling of the option. -/
  | exact {flag : Flag} (listed : (argument, flag) ∈ Flag.spellings) : Spells argument flag none
  /-- A value stands behind a spelling and an equals sign. -/
  | equals {flag : Flag} {spelling value : String} (listed : (spelling, flag) ∈ Flag.spellings)
    (whole : argument.toList = spelling.toList ++ '=' :: value.toList) :
    Spells argument flag (some value)
  /-- The start of a long spelling stands for it if no other starts so. -/
  | shortened {flag : Flag} {start spelling : String} {attached : Option String}
    (listed : (spelling, flag) ∈ Flag.spellings) (long : "--".toList <+: argument.toList)
    (only : ∀ entry ∈ Flag.spellings, start.toList <+: entry.1.toList ↔ entry = (spelling, flag))
    (whole : argument.toList =
      start.toList ++ attached.elim [] fun value => '=' :: value.toList) :
    Spells argument flag attached
  /-- A value stands right behind a short spelling. -/
  | short {flag : Flag} {spelling value : String} (listed : (spelling, flag) ∈ Flag.spellings)
    (short : spelling.length = 2) (whole : argument.toList = spelling.toList ++ value.toList)
    (some_value : value ≠ "") (unequal : value.toList.head? ≠ some '=') :
    Spells argument flag (some value)

/-- Arguments are split into words; behind the end of the options all are plain. -/
inductive Splits : List String → List Word → Prop
  /-- No argument is left. -/
  | nil : Splits [] []
  /-- Two dashes end the options. -/
  | terminator (arguments : List String) :
    Splits ("--" :: arguments) (.terminator :: arguments.map .plain)
  /-- An argument spells an option. -/
  | option {argument : String} {flag : Flag} {long : Bool} {attached : Option String}
    {arguments : List String} {words : List Word} (spells : Spells argument flag attached)
    (rest : Splits arguments words) :
    Splits (argument :: arguments) (.option flag long attached :: words)
  /-- An argument is plain: it spells no option. -/
  | plain {argument : String} {arguments : List String} {words : List Word}
    (no_option : ∀ flag attached, ¬Spells argument flag attached)
    (rest : Splits arguments words) : Splits (argument :: arguments) (.plain argument :: words)
  /-- An argument looks like an option and spells none. -/
  | unknown {argument : String} {arguments : List String} {words : List Word}
    (no_option : ∀ flag attached, ¬Spells argument flag attached)
    (rest : Splits arguments words) : Splits (argument :: arguments) (.unknown argument :: words)

namespace Word

variable {argument start : String} {attached : Option String} {flag : Flag}

/-- Spellings start with a dash, are at least two characters long and hold no equals sign. -/
theorem plain_spellings : ∀ entry ∈ Flag.spellings,
    entry.1.toList.head? = some '-' ∧ 2 ≤ entry.1.toList.length ∧ '=' ∉ entry.1.toList := by
  decide

/-- No spelling is listed twice. -/
theorem nodup_spellings : Flag.spellings.Nodup := by decide

/-- A spelling of two characters starts no other, and is not two dashes. -/
theorem short_spellings : ∀ short ∈ Flag.spellings, short.1.length = 2 →
    short.1 ≠ "--" ∧
      ∀ entry ∈ Flag.spellings, short.1.toList <+: entry.1.toList → entry = short := by
  decide

/-- Every listed spelling is looked up. -/
theorem lookup_of_listed (listed : (argument, flag) ∈ Flag.spellings) :
    Flag.spellings.lookup argument = some flag := by
  have all : ∀ entry ∈ Flag.spellings, Flag.spellings.lookup entry.1 = some entry.2 := by decide
  exact all _ listed

/-- An option that is looked up is listed. -/
theorem listed_of_lookup (found : Flag.spellings.lookup argument = some flag) :
    (argument, flag) ∈ Flag.spellings := by
  obtain ⟨before, after, whole, -⟩ := List.lookup_eq_some_iff.mp found
  rw [whole]
  exact List.mem_append_right _ List.mem_cons_self

/-- Nothing is looked up that is not listed. -/
theorem lookup_eq_none (unlisted : ∀ flag, (argument, flag) ∉ Flag.spellings) :
    Flag.spellings.lookup argument = none := by
  cases found : Flag.spellings.lookup argument with
  | none => rfl
  | some flag => exact absurd (listed_of_lookup found) (unlisted flag)

/-- Filtering for one listed spelling leaves it alone. -/
theorem filter_spellings {entry : String × Flag} {keeps : String × Flag → Bool}
    (listed : entry ∈ Flag.spellings)
    (only : ∀ other ∈ Flag.spellings, keeps other = true ↔ other = entry) :
    Flag.spellings.filter keeps = [entry] := by
  have same : Flag.spellings.filter keeps = Flag.spellings.filter (· == entry) :=
    List.filter_congr fun other member => by
      rw [Bool.eq_iff_iff, beq_iff_eq]
      exact only other member
  rw [same, List.filter_beq, List.count_eq_one_of_mem nodup_spellings listed]
  rfl

/-- What is cut at the first equals sign is the whole argument. -/
theorem whole_of_cutEquals (cut : cutEquals argument = (start, attached)) :
    argument.toList = start.toList ++ attached.elim [] fun value => '=' :: value.toList := by
  simp only [cutEquals] at cut
  split at cut
  · next dash value dropped =>
    cases cut
    have sign : dash = '=' := by
      have head := List.head?_dropWhile_not (fun character : Char => decide (character ≠ '='))
        argument.toList
      rw [dropped] at head
      simpa using head
    have joined := List.takeWhile_append_dropWhile
      (p := fun character : Char => decide (character ≠ '=')) (l := argument.toList)
    rw [dropped, sign] at joined
    simpa using joined.symm
  · cases cut
    simp

/-- A front without an equals sign is what is cut off. -/
theorem cutEquals_of_whole (uncut : '=' ∉ start.toList)
    (whole : argument.toList =
      start.toList ++ attached.elim [] fun value => '=' :: value.toList) :
    cutEquals argument = (start, attached) := by
  have letters : ∀ character ∈ start.toList, decide (character ≠ '=') = true := by
    intro character member
    have other : character ≠ '=' := by
      rintro rfl
      exact uncut member
    simpa using other
  simp only [cutEquals]
  cases attached with
  | none =>
    have same : argument = start := String.toList_injective (by simpa using whole)
    have dropped : (argument.toList.dropWhile fun character => decide (character ≠ '=')) = [] := by
      rw [same]
      exact List.dropWhile_eq_nil_iff.mpr letters
    rw [dropped, same]
  | some value =>
    have dropped : (argument.toList.dropWhile fun character => decide (character ≠ '=')) =
        '=' :: value.toList := by
      rw [whole, List.dropWhile_append_of_pos letters]
      simp
    have taken : (argument.toList.takeWhile fun character => decide (character ≠ '=')) =
        start.toList := by
      rw [whole, List.takeWhile_append_of_pos letters]
      simp
    rw [dropped, taken]
    simp

/-- A long argument may stand for every spelling that starts so. -/
theorem candidates_long (long : isLong argument = true)
    (cut : cutEquals argument = (start, attached)) :
    candidates argument =
      (Flag.spellings.filter fun entry => start.toList.isPrefixOf entry.1.toList, attached) := by
  simp only [candidates, long, if_true, cut]

/-- Any other argument may stand for the spelling that its first two characters are. -/
theorem candidates_short (short : isLong argument = false) :
    candidates argument =
      (Flag.spellings.filter fun entry => entry.1 = String.ofList (argument.toList.take 2),
        some (String.ofList (argument.toList.drop 2))) := by
  simp only [candidates, short, Bool.false_eq_true, if_false]

/-- An argument that is no spelling, with or without its value cut off, spells an option if it may
stand for it alone. -/
theorem spells_of_candidates {entry : String × Flag}
    (cut : cutEquals argument = (start, attached))
    (missing : Flag.spellings.lookup argument = none)
    (missing_start : Flag.spellings.lookup start = none) {value : Option String}
    (alone : candidates argument = ([entry], value)) : Spells argument entry.2 value := by
  cases long : isLong argument with
  | true =>
    rw [candidates_long long cut, Prod.mk.injEq] at alone
    obtain ⟨filtered, rfl⟩ := alone
    have only : ∀ other ∈ Flag.spellings, start.toList <+: other.1.toList ↔ other = entry := by
      intro other member
      have kept : other ∈ Flag.spellings.filter
          (fun entry => start.toList.isPrefixOf entry.1.toList) ↔ other = entry := by
        rw [filtered, List.mem_singleton]
      rwa [List.mem_filter, List.isPrefixOf_iff_prefix, and_iff_right member] at kept
    have listed : entry ∈ Flag.spellings :=
      List.mem_of_mem_filter (filtered ▸ List.mem_singleton_self entry)
    exact .shortened listed (List.isPrefixOf_iff_prefix.mp long) only (whole_of_cutEquals cut)
  | false =>
    rw [candidates_short long, Prod.mk.injEq] at alone
    obtain ⟨filtered, rfl⟩ := alone
    obtain ⟨listed, same⟩ := List.mem_filter.mp (filtered ▸ List.mem_singleton_self entry)
    have found_entry : Flag.spellings.lookup entry.1 = some entry.2 := lookup_of_listed listed
    have front : entry.1.toList = argument.toList.take 2 := by
      rw [decide_eq_true_iff.mp same, String.toList_ofList]
    have whole : argument.toList =
        entry.1.toList ++ (String.ofList (argument.toList.drop 2)).toList := by
      rw [front, String.toList_ofList, List.take_append_drop]
    refine .short listed ?_ whole (fun none => ?_) fun sign => ?_
    · have bound := (plain_spellings entry listed).2.1
      rw [front, List.length_take] at bound
      rw [← String.length_toList, front, List.length_take]
      omega
    · rw [none, String.toList_empty, List.append_nil] at whole
      rw [String.toList_injective whole, found_entry] at missing
      cases missing
    · obtain ⟨rest, behind⟩ := List.head?_eq_some_iff.mp sign
      have found : cutEquals argument = (entry.1, some (String.ofList rest)) := by
        refine cutEquals_of_whole (plain_spellings entry listed).2.2 ?_
        rw [whole, behind]
        simp
      rw [cut, Prod.mk.injEq] at found
      rw [found.1, found_entry] at missing_start
      cases missing_start

/-- An option that is read is spelled. -/
theorem spells_of_ofArgument {long : Bool}
    (read : ofArgument argument = .ok (.option flag long attached)) :
    Spells argument flag attached := by
  obtain ⟨start, value, cut⟩ : ∃ start value, cutEquals argument = (start, value) := ⟨_, _, rfl⟩
  simp only [ofArgument, cut] at read
  split at read
  · cases read
  · split at read
    · next found =>
      cases read
      exact .exact (listed_of_lookup found)
    · next missing found =>
      cases read
      have whole := whole_of_cutEquals cut
      cases attached with
      | none =>
        rw [Option.elim_none, List.append_nil] at whole
        rw [String.toList_injective whole, found] at missing
        cases missing
      | some value => exact .equals (listed_of_lookup found) whole
    · next missing missing_start =>
      split at read
      · next alone =>
        cases read
        exact spells_of_candidates cut missing missing_start alone
      · cases read
      · split at read <;> cases read

/-- An argument with a spelling and more at its start is an option or a mistake. -/
theorem dashed_of_listed {entry : String × Flag} {rest : List Char}
    (listed : entry ∈ Flag.spellings) (whole : argument.toList = entry.1.toList ++ rest) :
    ¬(argument.toList.head? ≠ some '-' ∨ argument = "-") := by
  obtain ⟨dash, long, -⟩ := plain_spellings entry listed
  have some_front : entry.1.toList ≠ [] := List.ne_nil_of_length_pos (by omega)
  rintro (other | rfl)
  · rw [whole, List.head?_append_of_ne_nil _ some_front] at other
    exact other dash
  · have count := congrArg List.length whole
    rw [List.length_append] at count
    have single : "-".toList.length = 1 := rfl
    omega

/-- A spelling is read. -/
theorem ofArgument_exact (listed : (argument, flag) ∈ Flag.spellings) :
    ofArgument argument = .ok (.option flag (isLong argument) none) := by
  have dashed : ¬(argument.toList.head? ≠ some '-' ∨ argument = "-") :=
    dashed_of_listed listed (List.append_nil argument.toList).symm
  simp only [ofArgument, if_neg dashed, lookup_of_listed listed]

/-- A spelling is read with a value behind an equals sign. -/
theorem ofArgument_equals {spelling value : String} (listed : (spelling, flag) ∈ Flag.spellings)
    (whole : argument.toList = spelling.toList ++ '=' :: value.toList) :
    ofArgument argument = .ok (.option flag (isLong spelling) (some value)) := by
  have dashed := dashed_of_listed listed whole
  have cut : cutEquals argument = (spelling, some value) :=
    cutEquals_of_whole (plain_spellings _ listed).2.2 whole
  have unlisted : Flag.spellings.lookup argument = none := by
    refine lookup_eq_none fun other again => (plain_spellings _ again).2.2 ?_
    simp [whole]
  simp only [ofArgument, if_neg dashed, cut, unlisted, lookup_of_listed listed]

/-- A start that stands for one long spelling is read as it, with its value. -/
theorem ofArgument_shortened {spelling : String} (listed : (spelling, flag) ∈ Flag.spellings)
    (long : "--".toList <+: argument.toList)
    (only : ∀ entry ∈ Flag.spellings, start.toList <+: entry.1.toList ↔ entry = (spelling, flag))
    (whole : argument.toList =
      start.toList ++ attached.elim [] fun value => '=' :: value.toList) :
    ∃ long, ofArgument argument = .ok (.option flag long attached) := by
  have starts : start.toList <+: spelling.toList := (only _ listed).mpr rfl
  have uncut : '=' ∉ start.toList := fun member =>
    (plain_spellings _ listed).2.2 (starts.subset member)
  have cut := cutEquals_of_whole uncut whole
  by_cases itself : ∃ other, (start, other) ∈ Flag.spellings
  · obtain ⟨other, again⟩ := itself
    obtain ⟨rfl, rfl⟩ := Prod.mk.inj ((only _ again).mp List.prefix_rfl)
    cases attached with
    | none =>
      have same : argument = start := String.toList_injective (by simpa using whole)
      exact ⟨_, same ▸ ofArgument_exact again⟩
    | some value => exact ⟨_, ofArgument_equals again whole⟩
  · rw [not_exists] at itself
    have dashed : ¬(argument.toList.head? ≠ some '-' ∨ argument = "-") := by
      obtain ⟨rest, behind⟩ := long
      rintro (other | rfl)
      · simp [← behind] at other
      · simp at behind
    have unlisted : Flag.spellings.lookup argument = none := by
      refine lookup_eq_none fun other again => ?_
      cases attached with
      | none =>
        have same : argument = start := String.toList_injective (by simpa using whole)
        exact itself other (same ▸ again)
      | some value =>
        refine (plain_spellings _ again).2.2 ?_
        simp [whole]
    have alone : candidates argument = ([(spelling, flag)], attached) := by
      rw [candidates_long (List.isPrefixOf_iff_prefix.mpr long) cut,
        filter_spellings listed fun entry member => ?_]
      rw [List.isPrefixOf_iff_prefix]
      exact only entry member
    refine ⟨isLong spelling, ?_⟩
    simp only [ofArgument, if_neg dashed, cut, unlisted, lookup_eq_none itself, alone]

/-- An argument that starts with a short spelling is not long. -/
theorem isLong_of_short {spelling : String} {rest : List Char}
    (listed : (spelling, flag) ∈ Flag.spellings) (short : spelling.length = 2)
    (whole : argument.toList = spelling.toList ++ rest) : isLong argument = false := by
  have length : spelling.toList.length = 2 := short
  rw [Bool.eq_false_iff]
  intro long
  obtain ⟨tail, dashes⟩ := List.isPrefixOf_iff_prefix.mp long
  refine (short_spellings _ listed short).1 (String.toList_injective ?_)
  have fronts := congrArg (List.take 2) (dashes.trans whole)
  rw [List.take_append_of_le_length (by simp), List.take_append_of_le_length length.ge,
    List.take_of_length_le length.le] at fronts
  exact fronts.symm

/-- An argument that starts with a short spelling may stand for it alone. -/
theorem candidates_of_short {spelling value : String}
    (listed : (spelling, flag) ∈ Flag.spellings) (short : spelling.length = 2)
    (whole : argument.toList = spelling.toList ++ value.toList) :
    candidates argument = ([(spelling, flag)], some value) := by
  have length : spelling.toList.length = 2 := short
  have front : argument.toList.take 2 = spelling.toList := by
    rw [whole, List.take_append_of_le_length length.ge, List.take_of_length_le length.le]
  have rest : argument.toList.drop 2 = value.toList := by
    rw [whole, ← length, List.drop_left]
  rw [candidates_short (isLong_of_short listed short whole), front, rest, String.ofList_toList,
    String.ofList_toList, filter_spellings listed fun entry member => ?_]
  rw [decide_eq_true_iff]
  constructor
  · intro same
    exact (short_spellings _ listed short).2 entry member (same ▸ List.prefix_rfl)
  · rintro rfl
    rfl

/-- A short spelling is read with a value right behind it. -/
theorem ofArgument_short {spelling value : String} (listed : (spelling, flag) ∈ Flag.spellings)
    (short : spelling.length = 2) (whole : argument.toList = spelling.toList ++ value.toList)
    (some_value : value ≠ "") (unequal : value.toList.head? ≠ some '=') :
    ofArgument argument = .ok (.option flag (isLong spelling) (some value)) := by
  obtain ⟨-, starts_none⟩ := short_spellings _ listed short
  have some_rest : value.toList ≠ [] := fun none => some_value (String.toList_injective none)
  have unlisted : Flag.spellings.lookup argument = none := by
    refine lookup_eq_none fun other again => some_rest ?_
    have same := congrArg Prod.fst (starts_none _ again ⟨_, whole.symm⟩)
    simpa [show argument = spelling from same] using whole
  have unlisted_start : Flag.spellings.lookup (cutEquals argument).1 = none := by
    obtain ⟨start, attached, cut⟩ : ∃ start attached, cutEquals argument = (start, attached) :=
      ⟨_, _, rfl⟩
    have cut_whole := whole_of_cutEquals cut
    rw [cut]
    cases attached with
    | none =>
      have same : argument = start := String.toList_injective (by simpa using cut_whole)
      exact same ▸ unlisted
    | some rest =>
      refine lookup_eq_none fun other again => unequal ?_
      have starts : spelling.toList <+: start.toList := by
        refine List.prefix_of_prefix_length_le ⟨_, whole.symm⟩ ⟨_, cut_whole.symm⟩ ?_
        rw [String.length_toList, short]
        exact (plain_spellings _ again).2.1
      have same : start = spelling := congrArg Prod.fst (starts_none _ again starts)
      rw [whole, same] at cut_whole
      rw [List.append_cancel_left cut_whole]
      rfl
  have alone := candidates_of_short listed short whole
  simp only [ofArgument, if_neg (dashed_of_listed listed whole), unlisted, unlisted_start, alone]

/-- What is not read as an option stands for itself. -/
theorem word_of_ofArgument {word : Word} (read : ofArgument argument = .ok word) :
    (∃ flag long attached, word = .option flag long attached) ∨ word = .plain argument ∨
      word = .unknown argument := by
  obtain ⟨start, value, cut⟩ : ∃ start value, cutEquals argument = (start, value) := ⟨_, _, rfl⟩
  simp only [ofArgument, cut] at read
  split at read
  · cases read
    exact .inr (.inl rfl)
  · split at read
    · cases read
      exact .inl ⟨_, _, _, rfl⟩
    · cases read
      exact .inl ⟨_, _, _, rfl⟩
    · split at read
      · cases read
        exact .inl ⟨_, _, _, rfl⟩
      · cases read
      · split at read
        · cases read
          exact .inr (.inl rfl)
        · cases read
          exact .inr (.inr rfl)

/-- An option is read exactly if it is spelled. -/
theorem ofArgument_eq_option_iff :
    (∃ long, ofArgument argument = .ok (.option flag long attached)) ↔
      Spells argument flag attached := by
  constructor
  · rintro ⟨long, read⟩
    exact spells_of_ofArgument read
  · intro spells
    cases spells with
    | exact listed => exact ⟨_, ofArgument_exact listed⟩
    | equals listed whole => exact ⟨_, ofArgument_equals listed whole⟩
    | shortened listed long only whole => exact ofArgument_shortened listed long only whole
    | short listed short whole some_value unequal =>
      exact ⟨_, ofArgument_short listed short whole some_value unequal⟩

end Word

/-- Arguments that are split into words are split as their spellings say. -/
theorem splits_of_ofArguments {arguments : List String} {words : List Word}
    (accepted : Word.ofArguments arguments = .ok words) : Splits arguments words := by
  induction arguments generalizing words with
  | nil =>
    cases accepted
    exact .nil
  | cons argument rest ih =>
    simp only [Word.ofArguments] at accepted
    split at accepted
    · next dashes =>
      cases accepted
      exact dashes ▸ .terminator rest
    · cases read : Word.ofArgument argument with
      | error fault => simp [read] at accepted
      | ok word =>
        cases behind : Word.ofArguments rest with
        | error fault => simp [read, behind] at accepted
        | ok more =>
          simp only [read, behind, Except.ok.injEq] at accepted
          subst accepted
          have no_option (other : ∀ flag long attached, word ≠ .option flag long attached)
              (flag : Flag) (attached : Option String) : ¬Spells argument flag attached := by
            intro spells
            obtain ⟨long, again⟩ := Word.ofArgument_eq_option_iff.mpr spells
            rw [read] at again
            exact other _ _ _ (Except.ok.inj again)
          rcases Word.word_of_ofArgument read with ⟨flag, long, attached, rfl⟩ | rfl | rfl
          · exact .option (Word.spells_of_ofArgument read) (ih behind)
          · exact .plain (no_option (by simp)) (ih behind)
          · exact .unknown (no_option (by simp)) (ih behind)

end SpriteText.Command
