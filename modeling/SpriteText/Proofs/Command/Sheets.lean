import Mathlib.Data.List.Forall2
import SpriteText.Command.Run
import SpriteText.Proofs.Files.Stems
import SpriteText.Proofs.Text.Newlines
import SpriteText.Proofs.Utf8.Encoding

/-!
# The sheet of a request

A run reads its sheet from the bytes of the input: they are decoded, and line ends become line
feeds. A sheet without headers takes the default name that is given, or the stem of the input's name
with underscores for hyphens and dots. The sources that are compiled are those whose names are asked
for.
-/

namespace SpriteText.Command

open Files (Tree)

variable {tree : Tree} {request : Request}

/-- A name is another one with an underscore for each hyphen and each dot. -/
def Underscored (name plain : List Char) : Prop :=
  List.Forall₂ (fun before after =>
    after = if before = '-' ∨ before = '.' then '_' else before) name plain

/-- Every name has one such name. -/
theorem underscored_iff {name plain : List Char} :
    Underscored name plain ↔ underscored (String.ofList name) = String.ofList plain := by
  have same (before : Char) : (if before = '-' ∨ before = '.' then '_' else before) =
      if before = '-' || before = '.' then '_' else before := by simp
  rw [underscored, String.toList_ofList, String.ofList_inj]
  constructor
  · intro replaced
    induction replaced with
    | nil => rfl
    | cons head _ ih => rw [List.map_cons, ih, head, same]
  · rintro rfl
    induction name with
    | nil => exact List.Forall₂.nil
    | cons before name ih => exact List.Forall₂.cons (same before).symm ih

/-- The name of the sprite of a sheet without headers. -/
inductive Request.Names (request : Request) : String → Prop
  /-- It is the default name that is given and not empty. -/
  | given {name : String} (given : request.name = some name) (some_name : name ≠ "") :
    Names request name
  /-- Otherwise it is the stem of the input's name, without hyphens and dots. -/
  | stem {stem : List Char} {name : String}
    (none_given : ∀ given, request.name = some given → given = "")
    (cut : Files.IsStem request.input.name.toList stem)
    (replaced : Underscored stem name.toList) : Names request name

/-- The stem of a path is the stem of its name. -/
theorem isStem_stem (path : Files.Path) : Files.IsStem path.name.toList path.stem.toList := by
  rw [Files.isStem_iff, Files.Path.stem, String.toList_ofList]

/-- A request names one default name. -/
theorem names_iff {name : String} : request.Names name ↔ defaultName request = name := by
  have from_stem : (∀ given, request.name = some given → given = "") →
      defaultName request = underscored request.input.stem := by
    intro none_given
    unfold defaultName
    split
    · next given found => rw [none_given given found]; rfl
    · rfl
  constructor
  · rintro (⟨given, some_name⟩ | ⟨none_given, cut, replaced⟩)
    · rw [defaultName, given]
      exact if_neg (by simpa using some_name)
    · rw [Files.isStem_iff] at cut
      rw [underscored_iff, String.ofList_toList] at replaced
      rw [from_stem none_given, ← replaced, ← cut]
      rfl
  · rintro rfl
    by_cases none_given : ∀ given, request.name = some given → given = ""
    · refine .stem none_given (isStem_stem request.input) ?_
      rw [underscored_iff, String.ofList_toList, String.ofList_toList]
      exact (from_stem none_given).symm
    · simp only [Classical.not_forall] at none_given
      obtain ⟨name, given, some_name⟩ := none_given
      have same : defaultName request = name := by
        rw [defaultName, given]
        exact if_neg (by simpa using some_name)
      rw [same]
      exact .given given some_name

/-- Bytes hold a text: they encode it with line ends of any kind. -/
def HoldsText (bytes : List UInt8) (text : String) : Prop :=
  ∃ written, Utf8.encode written = bytes ∧ Text.PlainEnds written.toList text.toList

/-- A text is read from bytes exactly if they hold it. -/
theorem holdsText_iff {bytes : List UInt8} {text : String} :
    HoldsText bytes text ↔ sheetText bytes = .ok text := by
  constructor
  · rintro ⟨written, encoded, ends⟩
    rw [sheetText, Utf8.decode_eq_ok_iff.mpr encoded]
    simp only [Text.plainEnds_iff.mp ends, String.ofList_toList]
  · intro read
    unfold sheetText at read
    split at read
    · cases read
    · next written decoded =>
      cases read
      refine ⟨written, Utf8.decode_eq_ok_iff.mp decoded, Text.plainEnds_iff.mpr ?_⟩
      rw [String.toList_ofList]

/-- A tree holds the sheet of a request, and the sheet has these sources. -/
def HoldsSheet (tree : Tree) (request : Request) (sources : List Sheet.Source) : Prop :=
  ∃ bytes text name, tree.read request.input = .ok bytes ∧ HoldsText bytes text ∧
    request.Names name ∧ Sheet.parse text (some name) = .ok sources

/-- What a run reads of the sheet. -/
theorem holdsSheet_iff {sources : List Sheet.Source} :
    HoldsSheet tree request sources ↔ ∃ bytes text, tree.read request.input = .ok bytes ∧
      sheetText bytes = .ok text ∧ Sheet.parse text (some (defaultName request)) = .ok sources := by
  constructor
  · rintro ⟨bytes, text, name, read, holds, names, parsed⟩
    cases names_iff.mp names
    exact ⟨bytes, text, read, holdsText_iff.mp holds, parsed⟩
  · rintro ⟨bytes, text, read, decoded, parsed⟩
    exact ⟨bytes, text, _, read, holdsText_iff.mpr decoded, names_iff.mpr rfl, parsed⟩

/-- A name is asked for: it is among the selected ones, or none is selected. -/
def Request.Selects (request : Request) (name : String) : Prop :=
  request.only = [] ∨ some name ∈ request.only

/-- It can be decided whether a name is asked for. -/
instance (request : Request) (name : String) : Decidable (request.Selects name) :=
  inferInstanceAs (Decidable (request.only = [] ∨ some name ∈ request.only))

/-- The sources that are selected are those whose names are asked for. -/
theorem selected_eq_filter (request : Request) (sources : List Sheet.Source) :
    selected request sources = sources.filter fun source => request.Selects source.name := by
  unfold selected
  split
  · next all =>
    rw [List.isEmpty_iff] at all
    exact (List.filter_eq_self.mpr fun source _ => decide_eq_true (.inl all)).symm
  · next some_only =>
    rw [List.isEmpty_iff] at some_only
    refine List.filter_congr fun source _ => ?_
    rw [Bool.eq_iff_iff, List.contains_iff_mem, decide_eq_true_iff, Request.Selects,
      or_iff_right some_only]

end SpriteText.Command
