import SpriteText.Proofs.Command.Sheets
import SpriteText.Proofs.Files.Trees
import SpriteText.Proofs.Sheet.Names

/-!
# What a run writes

A run that is asked for an output and ends with status zero has gone through all of its stages: it
has read the sheet, compiled the selected sprites, at least one, and put their content where the
output is. Each stage has one lemma, which says what is known when the run ends so.
-/

namespace SpriteText.Command

open Files (Tree Path)

variable {host : Host} {tree : Tree} {request : Request} {path : Path}

/-- A tree holds the sprites of sources where a request writes them. -/
structure HoldsOutput (host : Host) (after : Tree) (request : Request) (path : Path)
    (chosen : List Sheet.Source) (sprites : SpriteSet) : Prop where
  /-- The sources are compiled to the sprites. -/
  compiled : Sheet.compileSources chosen request.alignTail = .ok sprites
  /-- Bytes that are made of the sprites are read at the path, if a file there can be read. -/
  stored : ∃ made, content host.imaging path sprites request.input.name request.scale = .ok made ∧
    ∀ bytes, made = .bytes bytes → after.IsReadable path → after.read path = .ok bytes

/-- A run whose output cannot be made does not end with status zero. -/
theorem exit_outputExit_ne (tree : Tree) (path : Path) (printed : String) (fault : OutputFault) :
    (outputExit tree path printed fault).exit ≠ .status 0 := by
  unfold outputExit
  cases escape? fault <;> simp

/-- Bytes that are stored are read at their path, if a file there can be read. -/
theorem read_of_storeBytes {bytes : List UInt8} {after : Tree}
    (stored : storeBytes tree path bytes = (after, none)) (readable : after.IsReadable path) :
    after.read path = .ok bytes := by
  unfold storeBytes at stored
  split at stored
  · cases stored
  · next written put =>
    cases stored
    exact Tree.read_written put readable

/-- An output that is written has been made, and stored. -/
theorem stored_of_write {sprites : SpriteSet} {sourceName : String} {scale : Int} {count : Nat}
    {after : Tree} (written : write host tree path sprites sourceName scale = (after, .ok count)) :
    ∃ made, content host.imaging path sprites sourceName scale = .ok made ∧
      store host tree path made = (after, none) ∧ after.size path = .ok count := by
  unfold write at written
  split at written
  · cases written
  · next made content_made =>
    split at written
    · cases written
    · next stored put =>
      split at written
      · cases written
      · next found size =>
        cases written
        exact ⟨made, content_made, put, size⟩

/-- What has been written stays, whether it can be told of or not. -/
theorem tree_report (tree : Tree) (path : Path) (printed : String) (count : Nat) :
    (report host tree path printed count).tree = tree := by
  unfold report
  split <;> rfl

/-- A run that ends with status zero has written its output, and left it so. -/
theorem written_of_finish {printed : String} {sprites : SpriteSet}
    (done : (finish host tree request printed sprites path).exit = .status 0) :
    ∃ around count, write host around path sprites request.input.name request.scale =
      ((finish host tree request printed sprites path).tree, .ok count) := by
  simp only [finish] at done ⊢
  generalize tree.makeDirectories path.parent = made at done ⊢
  obtain ⟨around, failed⟩ := made
  cases failed with
  | some fault => exact absurd done (exit_outputExit_ne around path printed _)
  | none =>
    generalize host.print printed (Format.ofPath path).warning = warning at done ⊢
    obtain ⟨warned, refused⟩ := warning
    cases refused with
    | some problem => exact absurd done (exit_outputExit_ne around path warned _)
    | none =>
      dsimp only at done ⊢
      generalize written : write host around path sprites request.input.name request.scale =
        result at done ⊢
      obtain ⟨after, ended⟩ := result
      cases ended with
      | error fault => exact absurd done (exit_outputExit_ne after path warned fault)
      | ok count => exact ⟨around, count, written.trans (by rw [tree_report])⟩

variable (path) in
/-- A request has an output and is not for previews alone. -/
structure Request.Outputs (request : Request) : Prop where
  /-- The output is at the path. -/
  output : request.output = some path
  /-- The output is written. -/
  written : request.previewOnly = false

/-- A run that builds its output has compiled its sources. -/
theorem holdsOutput_of_build {printed : String} {chosen : List Sheet.Source}
    (outputs : request.Outputs path)
    (done : (build host tree request printed chosen).exit = .status 0) :
    ∃ sprites,
      HoldsOutput host (build host tree request printed chosen).tree request path chosen
        sprites := by
  cases compiled : Sheet.compileSources chosen request.alignTail with
  | error fault => cases fault <;> simp [build, compiled] at done
  | ok sprites =>
    simp only [build, compiled, outputs.output, outputs.written] at done ⊢
    split at done
    · cases done
    · obtain ⟨around, count, written⟩ := written_of_finish done
      obtain ⟨made, content_made, put, -⟩ := stored_of_write written
      refine ⟨sprites, compiled, made, content_made, ?_⟩
      rintro bytes rfl readable
      exact read_of_storeBytes put readable

/-- The selection from a sheet has a source, unless the run ends for want of one. -/
theorem selected_ne_nil {sources : List Sheet.Source} (some_source : sources ≠ [])
    (goes_on : (!request.only.isEmpty && (selected request sources).isEmpty) = false) :
    selected request sources ≠ [] := by
  cases all : request.only.isEmpty with
  | true =>
    rw [selected, if_pos all]
    exact some_source
  | false => simpa [all] using goes_on

/-- A run on the sources of a sheet has selected at least one of them. -/
theorem holdsOutput_of_select {sources : List Sheet.Source} (outputs : request.Outputs path)
    (some_source : sources ≠ []) (done : (select host tree request sources).exit = .status 0) :
    ∃ sprites, selected request sources ≠ [] ∧
      HoldsOutput host (select host tree request sources).tree request path
        (selected request sources) sprites := by
  simp only [select] at done ⊢
  split at done
  · cases done
  · cases done
  · split at done
    · cases done
    · next goes_on =>
      rw [if_neg goes_on]
      obtain ⟨sprites, holds⟩ := holdsOutput_of_build outputs done
      exact ⟨sprites, selected_ne_nil some_source (by simpa using goes_on), holds⟩

/-- A run on the text of a sheet has parsed the sheet. -/
theorem holdsOutput_of_compileText {text : String} (outputs : request.Outputs path)
    (done : (compileText host tree request text).exit = .status 0) :
    ∃ sources sprites, Sheet.parse text (some (defaultName request)) = .ok sources ∧
      selected request sources ≠ [] ∧
      HoldsOutput host (compileText host tree request text).tree request path
        (selected request sources) sprites := by
  cases parsed : Sheet.parse text (some (defaultName request)) with
  | error fault => simp [compileText, parsed] at done
  | ok sources =>
    simp only [compileText, parsed] at done ⊢
    obtain ⟨sprites, some_chosen, holds⟩ :=
      holdsOutput_of_select outputs (Sheet.ne_nil_of_parse parsed) done
    exact ⟨sources, sprites, rfl, some_chosen, holds⟩

/-- A run has read the text of the sheet. -/
theorem holdsOutput_of_perform (outputs : request.Outputs path)
    (done : (perform host tree request).exit = .status 0) :
    ∃ sources sprites, HoldsSheet tree request sources ∧ selected request sources ≠ [] ∧
      HoldsOutput host (perform host tree request).tree request path (selected request sources)
        sprites := by
  cases present : tree.exists? request.input with
  | error fault => simp [perform, present] at done
  | ok found =>
    cases found with
    | false => simp [perform, present] at done
    | true =>
      cases read : tree.read request.input with
      | error fault => simp [perform, present, read] at done
      | ok bytes =>
        cases decoded : sheetText bytes with
        | error found => simp [perform, present, read, decoded] at done
        | ok text =>
          simp only [perform, present, read, decoded] at done ⊢
          obtain ⟨sources, sprites, parsed, some_chosen, holds⟩ :=
            holdsOutput_of_compileText outputs done
          exact ⟨sources, sprites, holdsSheet_iff.mpr ⟨bytes, text, read, decoded, parsed⟩,
            some_chosen, holds⟩

/-- An accepted argument list is carried out as its request. -/
theorem run_eq_perform {arguments : List String}
    (accepted : Request.ofArguments arguments = .ok request) (tree : Tree) :
    run host tree arguments = perform host tree request := by
  rw [run, accepted]

end SpriteText.Command
