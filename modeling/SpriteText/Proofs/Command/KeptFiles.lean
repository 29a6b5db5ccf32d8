import SpriteText.Proofs.Command.Written
import SpriteText.Proofs.Files.Kept
import SpriteText.Proofs.Picture.Canvas

/-!
# Files that a run keeps

The file at the output is all that a run ever changes (`Outcome.Changes`), and a run that changes it
ends with status zero, but for two exceptions. The last line, which tells of the output, is printed
when the file is written: where nothing but this line cannot be printed, the file stays. And text
that is generated is encoded when its file is open: where it has no encoding, the file is left
empty. After any other end all files are kept.
-/

namespace SpriteText.Command

open Files (Tree Path Location)

variable {host : Host} {tree : Tree} {request : Request} {path : Path}

/-- The same host, but everything can be printed. -/
def Host.accepting (host : Host) : Host := { host with refusal := fun _ _ => none }

/-- A run fails at its last line alone, which tells of bytes at a path: the same run with everything
printed leaves the same files, ends with status zero, and prints nothing but this line more. -/
structure Outcome.FailsToTell (outcome accepted : Outcome) (path : Path) (bytes : List UInt8)
    (problem : String) : Prop where
  /-- The line cannot be printed. -/
  exit : outcome.exit = .escape (.printing problem)
  /-- Otherwise the run ends with status zero. -/
  done : accepted.exit = .status 0
  /-- Otherwise the line is printed behind all others. -/
  output : accepted.output = outcome.output ++ createdLine path bytes.length
  /-- The files are the same. -/
  tree : accepted.tree = outcome.tree

/-- How a run ends that leaves bytes at its output, where it is told how the same run ends with
everything printed. -/
inductive Outcome.Leaves (host : Host) (outcome accepted : Outcome) (request : Request)
    (path : Path) (bytes : List UInt8) : Prop
  /-- It succeeds. -/
  | succeeded (done : outcome.exit = .status 0) : Leaves host outcome accepted request path bytes
  /-- It only cannot print the line that tells of the bytes. -/
  | untold {problem : String} (fails : outcome.FailsToTell accepted path bytes problem)
    (refused : host.refusal outcome.output (createdLine path bytes.length) = some problem) :
    Leaves host outcome accepted request path bytes
  /-- The text that is generated has no encoding, which is reported, and there are no bytes. -/
  | unencoded {sprites : SpriteSet} {text problem : String} (failed : outcome.exit = .status 1)
    (reported : outcome.errors = "Error: " ++ path.spelling ++ ": " ++ problem ++ "\n")
    (made : content host.imaging path sprites request.input.name request.scale =
      .ok (.text text))
    (no_encoding : host.encode text = .error problem) (empty : bytes = []) :
    Leaves host outcome accepted request path bytes

/-- A run changes a location: the path of an output that is written leads to a file there, and the
run ends so that it leaves the bytes of this file. -/
def Outcome.Changes (host : Host) (outcome accepted : Outcome) (request : Request)
    (location : Location) : Prop :=
  ∃ path bytes, request.Outputs path ∧ outcome.tree.locate path = .file location bytes ∧
    outcome.Leaves host accepted request path bytes

/-- A run whose output cannot be made changes no more than has been changed before. -/
theorem tree_outputExit (tree : Tree) (path : Path) (printed : String) (fault : OutputFault) :
    (outputExit tree path printed fault).tree = tree := by
  unfold outputExit
  split <;> rfl

/-! ## Storing the output -/

/-- A path leads to a file with bytes, and they are counted. -/
structure FileAt (tree : Tree) (path : Path) (location : Location) (bytes : List UInt8) : Prop where
  /-- The path leads there. -/
  leads : tree.locate path = .file location bytes
  /-- The number of bytes is told. -/
  size : tree.size path = .ok bytes.length

/-- Bytes that are written are at their path, and everything else is kept. -/
theorem keepsBut_written {bytes : List UInt8} {after : Tree}
    (written : tree.write path bytes = .ok after) :
    tree.KeepsBut (fun location => FileAt after path location bytes) after := by
  refine (Tree.keepsBut_write written).mono fun location leads => ⟨leads, ?_⟩
  simp only [Tree.size, (Tree.writes_of_write written).1, leads, Bool.false_eq_true, if_false]

/-- Bytes that are stored are at their path, and everything else is kept. -/
theorem keepsBut_storeBytes {bytes : List UInt8} {after : Tree} {fault : Option OutputFault}
    (stored : storeBytes tree path bytes = (after, fault)) :
    tree.KeepsBut (fun location => fault = none ∧ FileAt after path location bytes) after := by
  unfold storeBytes at stored
  split at stored
  · cases stored
    exact .refl _ tree
  · next written put =>
    cases stored
    exact (keepsBut_written put).mono fun location file => ⟨rfl, file⟩

/-- What storing a content changes, by its fault. -/
inductive StoresAt (host : Host) (made : Content host.imaging) (after : Tree) (path : Path)
    (location : Location) : Option OutputFault → Prop
  /-- The content is stored. -/
  | whole {bytes : List UInt8} (file : FileAt after path location bytes) :
    StoresAt host made after path location none
  /-- The content is a text without encoding, and the file is left empty. -/
  | emptied {text problem : String} (same : made = .text text)
    (no_encoding : host.encode text = .error problem) (file : FileAt after path location []) :
    StoresAt host made after path location (some (.encoding problem))

/-- A content that is stored is at its path, and everything else is kept. -/
theorem keepsBut_store (whole : host.imaging.SavesWhole) {made : Content host.imaging}
    {after : Tree} {fault : Option OutputFault}
    (stored : store host tree path made = (after, fault)) :
    tree.KeepsBut (fun location => StoresAt host made after path location fault) after := by
  have plain {bytes : List UInt8} (put : storeBytes tree path bytes = (after, fault)) :
      tree.KeepsBut (fun location => StoresAt host made after path location fault) after := by
    refine (keepsBut_storeBytes put).mono ?_
    rintro location ⟨rfl, file⟩
    exact .whole file
  cases made with
  | bytes bytes => exact plain stored
  | text text =>
    simp only [store] at stored
    cases encoded : host.encode text with
    | ok bytes =>
      rw [encoded] at stored
      exact plain stored
    | error problem =>
      simp only [encoded] at stored
      split at stored
      · next opened emptied =>
        cases stored
        exact (keepsBut_storeBytes emptied).mono fun location file => .emptied rfl encoded file.2
      · exact plain stored
  | picture image =>
    simp only [store] at stored
    rcases whole image path with ⟨problem, fails⟩ | ⟨bytes, saves⟩
    · rw [fails] at stored
      cases stored
      exact .refl _ tree
    · rw [saves] at stored
      cases put : tree.write path bytes with
      | error problem =>
        rw [put] at stored
        cases stored
        exact .refl _ tree
      | ok written =>
        rw [put] at stored
        cases stored
        exact (keepsBut_written put).mono fun location file => .whole file

/-- What writing an output changes, by its result. -/
inductive WritesAt (host : Host) (request : Request) (after : Tree) (path : Path)
    (location : Location) : Except OutputFault Nat → Prop
  /-- The output is written, and its bytes are counted. -/
  | whole {bytes : List UInt8} (leads : after.locate path = .file location bytes) :
    WritesAt host request after path location (.ok bytes.length)
  /-- The text that is generated has no encoding, and the file is left empty. -/
  | emptied {sprites : SpriteSet} {text problem : String}
    (made : content host.imaging path sprites request.input.name request.scale = .ok (.text text))
    (no_encoding : host.encode text = .error problem)
    (leads : after.locate path = .file location []) :
    WritesAt host request after path location (.error (.encoding problem))

/-- What is written is at its path, and everything else is kept. -/
theorem keepsBut_write (whole : host.imaging.SavesWhole) {sprites : SpriteSet} {after : Tree}
    {result : Except OutputFault Nat}
    (written : write host tree path sprites request.input.name request.scale = (after, result)) :
    tree.KeepsBut (fun location => WritesAt host request after path location result) after := by
  unfold write at written
  split at written
  · cases written
    exact .refl _ tree
  · next made content_made =>
    split at written
    · next stored fault put =>
      cases written
      refine (keepsBut_store whole put).mono ?_
      rintro location (_ | ⟨rfl, no_encoding, file⟩)
      exact .emptied content_made no_encoding file.leads
    · next stored put =>
      have keeps := keepsBut_store whole put
      split at written
      · next fault no_size =>
        cases written
        refine keeps.mono ?_
        rintro location (file | _)
        exact absurd (file.size.symm.trans no_size) (by simp)
      · next count size =>
        cases written
        refine keeps.mono ?_
        rintro location (file | _)
        cases file.size.symm.trans size
        exact .whole file.leads

/-! ## Stages of a run -/

/-- What has been printed is printed as well where everything can be printed. -/
theorem print_accepting {printed shown : String} {texts : List String}
    (done : host.print printed texts = (shown, none)) :
    host.accepting.print printed texts = (shown, none) := by
  induction texts generalizing printed with
  | nil => exact done
  | cons text texts ih =>
    simp only [Host.print] at done
    split at done
    · cases done
    · exact ih done

/-- Storing a content does not depend on what can be printed. -/
theorem store_accepting (tree : Tree) (path : Path) (made : Content host.imaging) :
    store host.accepting tree path made = store host tree path made := by
  cases made <;> rfl

/-- Writing an output does not depend on what can be printed. -/
theorem write_accepting (tree : Tree) (path : Path) (sprites : SpriteSet) (sourceName : String)
    (scale : Int) :
    write host.accepting tree path sprites sourceName scale =
      write host tree path sprites sourceName scale := by
  unfold write
  cases body : content host.imaging path sprites sourceName scale with
  | error fault =>
    have same : content host.accepting.imaging path sprites sourceName scale = .error fault := body
    rw [same]
  | ok made =>
    have same : content host.accepting.imaging path sprites sourceName scale = .ok made := body
    rw [same]
    dsimp only
    rw [store_accepting]

/-- A run that has written its output tells of it, or fails at this alone. -/
theorem leaves_report {printed : String} {bytes : List UInt8} :
    (report host tree path printed bytes.length).Leaves host
      (report host.accepting tree path printed bytes.length) request path bytes := by
  simp only [report, Host.print]
  cases refused : host.refusal printed (createdLine path bytes.length) with
  | none => exact .succeeded rfl
  | some problem => exact .untold ⟨rfl, rfl, rfl, rfl⟩ refused

/-- A run that comes to its output changes that file or none. -/
theorem keepsBut_finish (whole : host.imaging.SavesWhole) (outputs : request.Outputs path)
    (printed : String) (sprites : SpriteSet) :
    tree.KeepsBut ((finish host tree request printed sprites path).Changes host
        (finish host.accepting tree request printed sprites path) request)
      (finish host tree request printed sprites path).tree := by
  have around := tree.keeps_makeDirectories path.parent
  simp only [finish]
  generalize tree.makeDirectories path.parent = made at around ⊢
  obtain ⟨directory, failed⟩ := made
  have kept (changed : Location → Prop) : tree.KeepsBut changed directory :=
    around.mono fun location none => none.elim
  cases failed with
  | some fault =>
    rw [tree_outputExit]
    exact kept _
  | none =>
    dsimp only
    rcases told : host.print printed (Format.ofPath path).warning with ⟨warned, refused⟩
    cases refused with
    | some problem =>
      dsimp only
      rw [tree_outputExit]
      exact kept _
    | none =>
      rw [print_accepting told, write_accepting]
      dsimp only
      generalize written : write host directory path sprites request.input.name request.scale =
        attempt
      obtain ⟨after, result⟩ := attempt
      have keeps := (kept _).trans (keepsBut_write whole written)
      cases result with
      | error fault =>
        dsimp only
        rw [tree_outputExit]
        refine keeps.mono ?_
        rintro location (_ | ⟨made, no_encoding, leads⟩)
        refine ⟨path, [], outputs, ?_, .unencoded rfl rfl made no_encoding rfl⟩
        rw [tree_outputExit]
        exact leads
      | ok count =>
        dsimp only
        rw [tree_report]
        refine keeps.mono ?_
        rintro location (leads | _)
        refine ⟨path, _, outputs, ?_, leaves_report⟩
        rw [tree_report]
        exact leads

/-- A run that compiles its sources changes its output or no file. -/
theorem keepsBut_build (whole : host.imaging.SavesWhole) (tree : Tree) (request : Request)
    (printed : String) (chosen : List Sheet.Source) :
    tree.KeepsBut ((build host tree request printed chosen).Changes host
        (build host.accepting tree request printed chosen) request)
      (build host tree request printed chosen).tree := by
  simp only [build]
  cases Sheet.compileSources chosen request.alignTail with
  | error fault => cases fault <;> exact .refl _ tree
  | ok sprites =>
    dsimp only
    split
    · exact .refl _ tree
    · next shown told =>
      rw [print_accepting told]
      dsimp only
      split
      · next path written output => exact keepsBut_finish whole ⟨output, written⟩ _ sprites
      · exact .refl _ tree

/-- A run on the sources of a sheet changes its output or no file. -/
theorem keepsBut_select (whole : host.imaging.SavesWhole) (tree : Tree) (request : Request)
    (sources : List Sheet.Source) :
    tree.KeepsBut ((select host tree request sources).Changes host
        (select host.accepting tree request sources) request)
      (select host tree request sources).tree := by
  simp only [select]
  split
  · exact .refl _ tree
  · exact .refl _ tree
  · next printed told going =>
    rw [print_accepting told, going]
    dsimp only
    split
    · exact .refl _ tree
    · exact keepsBut_build whole tree request _ _

/-- A run of a request changes its output or no file. -/
theorem keepsBut_perform (whole : host.imaging.SavesWhole) (tree : Tree) (request : Request) :
    tree.KeepsBut ((perform host tree request).Changes host
        (perform host.accepting tree request) request)
      (perform host tree request).tree := by
  simp only [perform]
  cases tree.exists? request.input with
  | error fault => exact .refl _ tree
  | ok found =>
    cases found with
    | false => exact .refl _ tree
    | true =>
      cases tree.read request.input with
      | error fault => exact .refl _ tree
      | ok bytes =>
        dsimp only
        cases sheetText bytes with
        | error found => exact .refl _ tree
        | ok text =>
          simp only [compileText]
          cases Sheet.parse text (some (defaultName request)) with
          | error fault => exact .refl _ tree
          | ok sources => exact keepsBut_select whole tree request sources

/-- A run changes its output or no file. -/
theorem keepsBut_run (whole : host.imaging.SavesWhole) (tree : Tree) (arguments : List String) :
    tree.KeepsBut (fun location => ∃ request, Request.ofArguments arguments = .ok request ∧
      (run host tree arguments).Changes host (run host.accepting tree arguments) request location)
      (run host tree arguments).tree := by
  unfold run
  cases accepted : Request.ofArguments arguments with
  | ok request =>
    exact (keepsBut_perform whole tree request).mono fun location changes =>
      ⟨request, rfl, changes⟩
  | error stop => cases stop <;> exact .refl _ tree

/-- A run changes no file but the one at its output. Every location holds what it held, or a
directory where there was nothing, except for the file that a written output leads to after a run
that ends with status zero, that fails at its last line alone, or whose text has no encoding. After
any other end no file is made, removed or changed, and what could be read at a path
is still read. -/
theorem run_keeps_files (whole : host.imaging.SavesWhole) (tree : Tree)
    (arguments : List String) :
    tree.KeepsBut (fun location => ∃ request path bytes,
      Request.ofArguments arguments = .ok request ∧ request.Outputs path ∧
        (run host tree arguments).tree.locate path = .file location bytes ∧
        (run host tree arguments).Leaves host (run host.accepting tree arguments) request path
          bytes)
      (run host tree arguments).tree ∧
    ((∀ request path bytes, Request.ofArguments arguments = .ok request →
        request.Outputs path → ¬(run host tree arguments).Leaves host
          (run host.accepting tree arguments) request path bytes) →
      (∀ location bytes, (run host tree arguments).tree.node? location = some (.file bytes) ↔
        tree.node? location = some (.file bytes)) ∧
      ∀ path bytes, tree.read path = .ok bytes →
        (run host tree arguments).tree.read path = .ok bytes) := by
  have keeps := keepsBut_run whole tree arguments
  constructor
  · refine keeps.mono ?_
    rintro location ⟨request, accepted, path, bytes, outputs, leads, leaves⟩
    exact ⟨request, path, bytes, accepted, outputs, leads, leaves⟩
  · intro none_left
    have all : tree.Keeps (run host tree arguments).tree := by
      refine keeps.mono ?_
      rintro location ⟨request, accepted, path, bytes, outputs, leads, leaves⟩
      exact none_left request path bytes accepted outputs leaves
    exact ⟨fun location bytes => (all.elsewhere location not_false).file_iff bytes,
      fun path bytes found => all.read found⟩

/-- A sprite whose name is too long for an asset is refused, and the output is still what it was. -/
theorem run_keeps_files_long_name :
    let host : Host := { imaging := Picture.imaging }
    let tree : Tree := (Tree.put {} ["in.txt"] (.file (Utf8.encode
      "@sprite abcdefghijklmnopq\n0011\n"))).put ["out.bin"] (.file [1, 2, 3])
    let arguments := ["in.txt", "out.bin"]
    (run host tree arguments).exit = .status 1 ∧
      (run host tree arguments).tree.read (.ofString "out.bin") = .ok [1, 2, 3] := by
  intro host tree arguments
  let request : Request := {
    input := .ofString "in.txt"
    output := some (.ofString "out.bin")
    name := none
    only := []
    alignTail := false
    scale := 1
    preview := false
    previewOnly := false }
  have accepted : Request.ofArguments arguments = .ok request := by rfl
  have failed : (run host tree arguments).exit = .status 1 := by
    rw [run_eq_perform accepted]
    decide +kernel
  have none_left : ∀ asked path bytes, Request.ofArguments arguments = .ok asked →
      asked.Outputs path → ¬(run host tree arguments).Leaves host
        (run host.accepting tree arguments) asked path bytes := by
    rintro asked path bytes again outputs (done | ⟨fails, -⟩ | ⟨-, -, -, no_encoding, -⟩)
    · simp [failed] at done
    · simpa [failed] using fails.exit
    · cases no_encoding
  obtain ⟨-, kept⟩ := (run_keeps_files Picture.savesWhole_imaging tree arguments).2 none_left
  exact ⟨failed, kept _ _ (by decide +kernel)⟩

/-- Both exceptions occur. A sheet whose name has no encoding is named in the module that is made of
it, and the run fails and leaves its output empty. A console that prints nothing but ASCII refuses
the line that tells of an output with another name, and the run escapes and leaves its output
written. -/
theorem unsuccessful_runs_change_files :
    let lone := Char.ofNat 0x10DCFF
    let sheet := String.ofList (lone :: ".txt".toList)
    let encoder : Host := {
      imaging := Picture.imaging
      encode := fun text =>
        if text.toList.contains lone then .error "surrogates not allowed"
        else .ok (Utf8.encode text) }
    let console : Host := {
      imaging := Picture.imaging
      refusal := fun _ text =>
        if text.toList.all fun letter => letter.toNat < 0x80 then none
        else some "ordinal not in range(128)" }
    let tree (output : String) : Tree :=
      (Tree.put {} [sheet] (.file (Utf8.encode "@sprite a\n00\n"))).put [output] (.file [1, 2, 3])
    let unencoded := run encoder (tree "o.py") [sheet, "o.py"]
    let unreported := run console (tree "\u00e9.bin") [sheet, "\u00e9.bin"]
    unencoded.exit = .status 1 ∧ unencoded.tree.read (.ofString "o.py") = .ok [] ∧
      unreported.exit = .escape (.printing "ordinal not in range(128)") ∧
      (tree "\u00e9.bin").read (.ofString "\u00e9.bin") = .ok [1, 2, 3] ∧
      unreported.tree.read (.ofString "\u00e9.bin") ≠ .ok [1, 2, 3] := by
  decide +kernel

end SpriteText.Command
