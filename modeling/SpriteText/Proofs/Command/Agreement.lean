import SpriteText.Proofs.Command.Written
import SpriteText.Proofs.Sheet.Compile

/-!
# Runs that agree

Only the selected drawings of a sheet count. Two runs of one request on trees that differ in the
bytes of one file agree at every stage, if the sheets that they read select the same drawings
(`SameDrawing`), whatever else is in these sheets. What differs is the lines on which faults are
reported, where a drawing stands on other lines.
-/

namespace SpriteText.Command

open Files (Tree Path Location)

variable {host : Host} {tree other : Tree} {spot : Location} {request : Request} {path : Path}

/-- Two runs of a request agree: they end alike and print the same, their trees agree, drawings that
are placed alike are reported alike, and the same is read where an output has been written. -/
structure Outcome.AgreesBut (spot : Location) (request : Request) (placed : Prop)
    (outcome other : Outcome) : Prop where
  /-- The exits are the same. -/
  exit : other.exit = outcome.exit
  /-- The same is printed. -/
  output : other.output = outcome.output
  /-- The same is reported, if drawings are placed alike. -/
  errors : placed → other.errors = outcome.errors
  /-- The trees agree. -/
  tree : outcome.tree.AgreesBut spot other.tree
  /-- The outputs are the same. -/
  written : ∀ path, request.Outputs path → outcome.exit = .status 0 →
    other.tree.read path = outcome.tree.read path

/-! ## Writing the output -/

/-- Two attempts to store something agree: both fail alike, or both do not, and its path leads to
the same place. -/
structure SameStoring (spot : Location) (path : Path)
    (first second : Tree × Option OutputFault) : Prop where
  /-- The trees agree. -/
  tree : first.1.AgreesBut spot second.1
  /-- The faults are the same. -/
  fault : second.2 = first.2
  /-- What is stored is in the same place. -/
  place : first.2 = none → second.1.locate path = first.1.locate path

/-- Bytes are stored alike in trees that agree. -/
theorem sameStoring_storeBytes (agrees : tree.AgreesBut spot other) (path : Path)
    (bytes : List UInt8) :
    SameStoring spot path (storeBytes tree path bytes) (storeBytes other path bytes) := by
  unfold storeBytes
  rcases agrees.write_cases path bytes with
    ⟨fault, first, second⟩ | ⟨next, last, first, second, later, place⟩
  · rw [first, second]
    exact ⟨agrees, rfl, by simp⟩
  · rw [first, second]
    exact ⟨later, rfl, fun _ => place⟩

/-- A content is stored alike in trees that agree, if pictures are saved as a whole. -/
theorem sameStoring_store (whole : host.imaging.SavesWhole)
    (agrees : tree.AgreesBut spot other) (path : Path) (made : Content host.imaging) :
    SameStoring spot path (store host tree path made) (store host other path made) := by
  cases made with
  | bytes bytes => exact sameStoring_storeBytes agrees path bytes
  | text text =>
    simp only [store]
    cases host.encode text with
    | ok bytes => exact sameStoring_storeBytes agrees path bytes
    | error problem =>
      have opened := sameStoring_storeBytes agrees path []
      dsimp only
      generalize storeBytes tree path [] = first, storeBytes other path [] = second at opened
      obtain ⟨next, fault⟩ := first
      obtain ⟨last, fault_too⟩ := second
      obtain ⟨later, rfl, place⟩ := opened
      cases fault_too with
      | none => exact ⟨later, rfl, by simp⟩
      | some fault => exact ⟨later, rfl, place⟩
  | picture image =>
    simp only [store]
    rcases whole image path with ⟨fault, fails⟩ | ⟨bytes, saves⟩
    · rw [fails, fails]
      exact ⟨agrees, rfl, by simp⟩
    · rw [saves, saves]
      rcases agrees.write_cases path bytes with
        ⟨fault, first, second⟩ | ⟨next, last, first, second, later, place⟩
      · rw [first, second]
        exact ⟨agrees, rfl, by simp⟩
      · rw [first, second]
        exact ⟨later, rfl, fun _ => place⟩

/-- Two attempts to write an output agree: both write as many bytes and leave the same at its path,
or both fail alike. -/
structure SameWriting (spot : Location) (path : Path)
    (first second : Tree × Except OutputFault Nat) : Prop where
  /-- The trees agree. -/
  tree : first.1.AgreesBut spot second.1
  /-- The results are the same. -/
  result : second.2 = first.2
  /-- The same is read at the path. -/
  read : ∀ count, first.2 = .ok count → second.1.read path = first.1.read path

/-- An output is written alike to trees that agree. -/
theorem sameWriting_write (whole : host.imaging.SavesWhole)
    (agrees : tree.AgreesBut spot other) (path : Path) (sprites : SpriteSet)
    (sourceName : String) (scale : Int) :
    SameWriting spot path (write host tree path sprites sourceName scale)
      (write host other path sprites sourceName scale) := by
  unfold write
  cases content host.imaging path sprites sourceName scale with
  | error fault => exact ⟨agrees, rfl, by simp⟩
  | ok made =>
    have stored := sameStoring_store whole agrees path made
    dsimp only
    generalize store host tree path made = first, store host other path made = second at stored
    obtain ⟨next, fault⟩ := first
    obtain ⟨last, fault_too⟩ := second
    obtain ⟨later, rfl, place⟩ := stored
    cases fault_too with
    | some fault => exact ⟨later, rfl, by simp⟩
    | none =>
      have sizes : last.size path = next.size path := by
        simp only [Tree.size, place rfl]
      dsimp only
      rw [sizes]
      cases next.size path with
      | error fault => exact ⟨later, rfl, by simp⟩
      | ok count => exact ⟨later, rfl, fun _ _ => later.read_eq (place rfl)⟩

variable {placed : Prop}

/-- Runs that write nothing, or end otherwise than with status zero, agree if the trees do. -/
theorem Outcome.agreesBut_of_idle {exit : Exit} {output errors errors_too : String}
    (idle : exit = .status 0 → ∀ path, ¬request.Outputs path)
    (agrees : tree.AgreesBut spot other) (alike : placed → errors_too = errors) :
    AgreesBut spot request placed { exit, output, errors, tree }
      { exit, output, errors := errors_too, tree := other } :=
  ⟨rfl, rfl, alike, agrees, fun path outputs done => absurd outputs (idle done path)⟩

/-- Runs whose output cannot be made agree. -/
theorem agreesBut_outputExit (agrees : tree.AgreesBut spot other) (path : Path)
    (printed : String) (fault : OutputFault) :
    Outcome.AgreesBut spot request placed (outputExit tree path printed fault)
      (outputExit other path printed fault) := by
  unfold outputExit
  cases escape? fault with
  | some escape => exact Outcome.agreesBut_of_idle (by simp) agrees fun _ => rfl
  | none => exact Outcome.agreesBut_of_idle (by simp) agrees fun _ => rfl

/-- Runs that write the same output agree. -/
theorem agreesBut_finish (whole : host.imaging.SavesWhole)
    (agrees : tree.AgreesBut spot other) (outputs : request.Outputs path) (printed : String)
    (sprites : SpriteSet) :
    Outcome.AgreesBut spot request placed (finish host tree request printed sprites path)
      (finish host other request printed sprites path) := by
  have around := agrees.makeDirectories path.parent
  simp only [finish]
  generalize tree.makeDirectories path.parent = first,
    other.makeDirectories path.parent = second at around
  obtain ⟨made, failed⟩ := first
  obtain ⟨made_too, failed_too⟩ := second
  obtain ⟨later, rfl⟩ := around
  cases failed_too with
  | some fault => exact agreesBut_outputExit later path printed (.file fault)
  | none =>
    dsimp only
    generalize host.print printed (Format.ofPath path).warning = warning
    obtain ⟨warned, refused⟩ := warning
    cases refused with
    | some problem => exact agreesBut_outputExit later path warned (.printing problem)
    | none =>
      have writing := sameWriting_write whole later path sprites request.input.name request.scale
      dsimp only
      generalize write host made path sprites request.input.name request.scale = first,
        write host made_too path sprites request.input.name request.scale = second at writing
      obtain ⟨next, result⟩ := first
      obtain ⟨last, result_too⟩ := second
      obtain ⟨changed, rfl, read⟩ := writing
      cases result_too with
      | error fault => exact agreesBut_outputExit changed path warned fault
      | ok count =>
        simp only [report]
        split
        · exact Outcome.agreesBut_of_idle (by simp) changed fun _ => rfl
        · refine ⟨rfl, rfl, fun _ => rfl, changed, fun again outputs_too _ => ?_⟩
          cases outputs.output.symm.trans outputs_too.output
          exact read count rfl

/-! ## Compiling the selection -/

variable {chosen chosen_too : List Sheet.Source}

/-- Runs that compile the same drawings agree. -/
theorem agreesBut_build (whole : host.imaging.SavesWhole) (agrees : tree.AgreesBut spot other)
    (request : Request) (printed : String)
    (same : List.Forall₂ Sheet.Source.SameDrawing chosen chosen_too) :
    Outcome.AgreesBut spot request (chosen = chosen_too)
      (build host tree request printed chosen) (build host other request printed chosen_too) := by
  have results := Sheet.sameResult_compileInto same .empty request.alignTail
  have alike : chosen = chosen_too →
      Sheet.compileInto .empty request.alignTail chosen =
        Sheet.compileInto .empty request.alignTail chosen_too :=
    congrArg (Sheet.compileInto .empty request.alignTail)
  simp only [build, Sheet.compileSources]
  generalize Sheet.compileInto .empty request.alignTail chosen = first,
    Sheet.compileInto .empty request.alignTail chosen_too = second at results alike
  cases results with
  | refused fault again =>
    refine Outcome.agreesBut_of_idle (by simp) agrees fun equal => ?_
    cases alike equal
    rfl
  | compiled sprites =>
    dsimp only
    split
    · exact Outcome.agreesBut_of_idle (by simp) agrees fun _ => rfl
    · split
      · next path written output =>
        exact agreesBut_finish whole agrees ⟨output, written⟩ _ sprites
      · next preview_only =>
        refine Outcome.agreesBut_of_idle (fun _ path outputs => ?_) agrees fun _ => rfl
        exact preview_only path outputs.written outputs.output

/-! ## Selecting -/

variable {sources others : List Sheet.Source}

/-- A name that is asked for is a name of the sheet exactly if it is one of the selection. -/
theorem mem_names_selected_iff {name : String} (asked : some name ∈ request.only) :
    name ∈ (selected request sources).map Sheet.Source.name ↔
      name ∈ sources.map Sheet.Source.name := by
  have some_asked : ¬request.only.isEmpty = true := by
    rw [List.isEmpty_iff]
    exact List.ne_nil_of_mem asked
  rw [selected, if_neg some_asked, List.mem_map, List.mem_map]
  constructor
  · rintro ⟨source, member, rfl⟩
    exact ⟨source, (List.mem_filter.mp member).1, rfl⟩
  · rintro ⟨source, member, rfl⟩
    exact ⟨source, List.mem_filter.mpr ⟨member, List.contains_iff_mem.mpr asked⟩, rfl⟩

/-- The warnings depend on which of the names asked for are known. -/
theorem missingWarnings_congr (input : Path) {known known_too : List String}
    {only : List (Option String)}
    (same : ∀ name, some name ∈ only → (name ∈ known ↔ name ∈ known_too)) :
    missingWarnings input known only = missingWarnings input known_too only := by
  induction only with
  | nil => rfl
  | cons asked only ih =>
    cases asked with
    | none => rfl
    | some name =>
      have first : known.contains name = known_too.contains name := by
        rw [Bool.eq_iff_iff, List.contains_iff_mem, List.contains_iff_mem]
        exact same name List.mem_cons_self
      rw [missingWarnings, missingWarnings, first,
        ih fun name member => same name (List.mem_cons_of_mem _ member)]

/-- Runs on sources agree if the same drawings are selected. -/
theorem agreesBut_select (whole : host.imaging.SavesWhole) (agrees : tree.AgreesBut spot other)
    (same : List.Forall₂ Sheet.Source.SameDrawing (selected request sources)
      (selected request others)) :
    Outcome.AgreesBut spot request (selected request sources = selected request others)
      (select host tree request sources) (select host other request others) := by
  have warnings : missingWarnings request.input (others.map Sheet.Source.name) request.only =
      missingWarnings request.input (sources.map Sheet.Source.name) request.only := by
    refine missingWarnings_congr _ fun name asked => ?_
    rw [← mem_names_selected_iff asked, Sheet.names_of_sameDrawing same,
      mem_names_selected_iff asked]
  have none_chosen : (selected request others).isEmpty = (selected request sources).isEmpty := by
    have lengths := congrArg List.length (Sheet.names_of_sameDrawing same)
    rw [List.length_map, List.length_map] at lengths
    rw [Bool.eq_iff_iff, List.isEmpty_iff_length_eq_zero, List.isEmpty_iff_length_eq_zero,
      lengths]
  simp only [select, warnings, none_chosen]
  split
  · exact Outcome.agreesBut_of_idle (by simp) agrees fun _ => rfl
  · exact Outcome.agreesBut_of_idle (by simp) agrees fun _ => rfl
  · split
    · exact Outcome.agreesBut_of_idle (by simp) agrees fun _ => rfl
    · exact agreesBut_build whole agrees request _ same

/-- A run on a sheet that can be parsed is a run on its sources. -/
theorem perform_eq_select (holds : HoldsSheet tree request sources) :
    perform host tree request = select host tree request sources := by
  obtain ⟨bytes, text, read, decoded, parsed⟩ := holdsSheet_iff.mp holds
  simp only [perform, Tree.exists?_of_read read, read, decoded, compileText, parsed]

/-- Runs of a request agree if the sheets that they read select the same drawings. -/
theorem agreesBut_perform (whole : host.imaging.SavesWhole) (agrees : tree.AgreesBut spot other)
    (holds : HoldsSheet tree request sources) (holds_too : HoldsSheet other request others)
    (same : List.Forall₂ Sheet.Source.SameDrawing (selected request sources)
      (selected request others)) :
    Outcome.AgreesBut spot request (selected request sources = selected request others)
      (perform host tree request) (perform host other request) := by
  rw [perform_eq_select holds, perform_eq_select holds_too]
  exact agreesBut_select whole agrees same

end SpriteText.Command
