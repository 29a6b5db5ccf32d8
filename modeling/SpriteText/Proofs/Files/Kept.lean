import SpriteText.Proofs.Files.Trees

/-!
# What a tree keeps

A later tree keeps what a tree holds if every location holds what it held, or a directory where
there was nothing (`KeepsBut`). Making directories keeps everything, whether it succeeds or fails on
the way, and writing a file keeps everything but that file.
-/

namespace SpriteText.Files.Tree

variable {tree next later : Tree} {location spot : Location} {path : Path} {bytes : List UInt8}
variable {changed : Location → Prop}

/-- What a location holds later: what it held, or a new directory. -/
inductive KeptNode : Option Node → Option Node → Prop
  /-- It holds the same. -/
  | same (found : Option Node) : KeptNode found found
  /-- A directory has been made where there was nothing. -/
  | made : KeptNode none (some .directory)

/-- What is kept is kept after more has been kept. -/
theorem KeptNode.trans {first second third : Option Node} (before : KeptNode first second)
    (after : KeptNode second third) : KeptNode first third := by
  cases before with
  | same => exact after
  | made =>
    cases after
    exact .made

/-- A file is kept as it is, and none is made. -/
theorem KeptNode.file_iff {found again : Option Node} (kept : KeptNode found again)
    (bytes : List UInt8) : again = some (.file bytes) ↔ found = some (.file bytes) := by
  cases kept with
  | same => rfl
  | made => simp

/-- A later tree keeps what a tree holds, but perhaps not at the changed locations. -/
structure KeepsBut (changed : Location → Prop) (tree later : Tree) : Prop where
  /-- Relative paths start at the same directory. -/
  workingDirectory : later.workingDirectory = tree.workingDirectory
  /-- The same is closed. -/
  closed : later.closed = tree.closed
  /-- All other locations are kept. -/
  elsewhere : ∀ location, ¬changed location →
    KeptNode (tree.node? location) (later.node? location)

/-- A later tree keeps all that a tree holds. -/
abbrev Keeps (tree later : Tree) : Prop := KeepsBut (fun _ => False) tree later

namespace KeepsBut

/-- A tree keeps what it holds. -/
theorem refl (changed : Location → Prop) (tree : Tree) : KeepsBut changed tree tree :=
  ⟨rfl, rfl, fun _ _ => .same _⟩

/-- What two changes keep is kept by both together. -/
theorem trans (before : KeepsBut changed tree next) (after : KeepsBut changed next later) :
    KeepsBut changed tree later :=
  ⟨after.workingDirectory.trans before.workingDirectory, after.closed.trans before.closed,
    fun location other =>
      (before.elsewhere location other).trans (after.elsewhere location other)⟩

/-- What is kept with some locations changed is kept with more of them changed. -/
theorem mono {wider : Location → Prop} (keeps : KeepsBut changed tree later)
    (more : ∀ location, changed location → wider location) : KeepsBut wider tree later :=
  ⟨keeps.workingDirectory, keeps.closed, fun location other =>
    keeps.elsewhere location fun changed => other (more location changed)⟩

end KeepsBut

/-! ## Making directories -/

/-- A directory that is put where there is nothing keeps everything. -/
theorem keeps_put_directory (below : location ≠ []) (nothing : tree.node? location = none) :
    tree.Keeps (tree.put location .directory) := by
  refine ⟨rfl, rfl, fun place _ => ?_⟩
  rw [tree.node?_put below]
  split
  · rename_i here
    rw [here, nothing]
    exact .made
  · exact .same _

/-- A directory that is made keeps everything. -/
theorem keeps_makeDirectory (made : tree.makeDirectory path = .ok next) : tree.Keeps next := by
  have ends := tree.ends_locate path
  unfold makeDirectory at made
  split at made
  · contradiction
  cases place : tree.locate path with
  | directory location => simp [place] at made
  | file location bytes => simp [place] at made
  | special location bytes => simp [place] at made
  | nowhere reason => simp [place] at made
  | vacant location =>
    simp only [place, enter_eq_ok_iff] at made
    rw [place] at ends
    rw [← made.2]
    exact keeps_put_directory ends.1 ends.2

/-- An excuse changes nothing. -/
theorem excuse_fst (tree : Tree) (path : Path) (fault : FileFault) :
    (tree.excuse path fault).1 = tree := by
  cases fault with
  | nullCharacter => rfl
  | refused reason refused =>
    rw [excuse]
    split <;> rfl

/-- A directory that may be there already is made and keeps everything. -/
theorem keeps_settle (tree : Tree) (path : Path) : tree.Keeps (tree.settle path).1 := by
  unfold settle
  cases made : tree.makeDirectory path with
  | ok next => exact keeps_makeDirectory made
  | error fault =>
    show tree.Keeps (tree.excuse path fault).1
    rw [excuse_fst]
    exact .refl _ tree

/-- A directory is made with those around it, and everything is kept. -/
theorem keeps_makeAll (tree : Tree) (root : String) (parts : List String) :
    tree.Keeps (tree.makeAll root parts).1 := by
  induction parts with
  | nil => exact tree.keeps_settle { root, parts := [] }
  | cons part outer ih =>
    let path : Path := { root, parts := (part :: outer).reverse }
    have settled := tree.keeps_settle path
    rw [makeAll_cons]
    show tree.Keeps (tree.makeOuter root outer path (tree.makeDirectory path)).1
    unfold makeOuter
    split
    · -- The directory around it is made first; where that fails, what has been made stays.
      generalize tree.makeAll root outer = around at ih
      obtain ⟨next, failed⟩ := around
      cases failed with
      | some fault => exact ih
      | none => exact ih.trans (next.keeps_settle path)
    · exact settled

/-- The directories around a file are made, and everything is kept. -/
theorem keeps_makeDirectories (tree : Tree) (path : Path) :
    tree.Keeps (tree.makeDirectories path).1 :=
  tree.keeps_makeAll path.root path.parts.reverse

/-! ## Writing a file -/

/-- A file that is put keeps everything elsewhere. -/
theorem keepsBut_put_file (below : location ≠ []) (bytes : List UInt8) :
    KeepsBut (· = location) tree (tree.put location (.file bytes)) := by
  refine ⟨rfl, rfl, fun place other => ?_⟩
  rw [tree.node?_put below, if_neg other]
  exact .same _

/-- A file that is written at a path is where the path leads, and everything else is kept. -/
theorem keepsBut_write (written : tree.write path bytes = .ok next) :
    KeepsBut (fun location => next.locate path = .file location bytes) tree next := by
  cases (writes_of_write written).2 with
  | lost special => exact .refl _ tree
  | put writable =>
    refine (keepsBut_put_file (writable_spec_locate writable).1 bytes).mono ?_
    rintro _ rfl
    exact locate_put writable bytes

/-! ## Reading what is kept -/

/-- A path ends at something that holds bytes. -/
inductive HoldsBytes : Place → Prop
  /-- It is a file. -/
  | file (location : Location) (bytes : List UInt8) : HoldsBytes (.file location bytes)
  /-- It is a special file. -/
  | special (location : Location) (bytes : List UInt8) : HoldsBytes (.special location bytes)

/-- A path that leads to bytes leads there in a tree that keeps everything. -/
theorem Keeps.follow (keeps : tree.Keeps later) {directory : Location} {parts : List String}
    (holds : HoldsBytes (tree.follow directory parts)) :
    later.follow directory parts = tree.follow directory parts := by
  induction parts generalizing directory with
  | nil => rfl
  | cons part parts ih =>
    rw [follow_cons] at holds ⊢
    rw [follow_cons, keeps.closed]
    split at holds
    · rfl
    rw [inward] at holds ⊢
    rw [inward]
    split at holds
    · rename_i up
      rw [if_pos up, if_pos up]
      exact ih holds
    rename_i down
    split at holds
    · contradiction
    rename_i short
    rw [if_neg down, if_neg short, if_neg down, if_neg short]
    have kept := keeps.elsewhere (directory ++ [part]) not_false
    generalize tree.node? (directory ++ [part]) = node, later.node? (directory ++ [part]) = again
      at kept holds
    cases kept with
    | made =>
      rw [onward] at holds
      split at holds <;> contradiction
    | same =>
      cases node with
      | none => rfl
      | some node =>
        cases node with
        | file old => rfl
        | special old => rfl
        | directory => exact ih holds

/-- A path that leads to bytes is located alike in a tree that keeps everything. -/
theorem Keeps.locate (keeps : tree.Keeps later) (holds : HoldsBytes (tree.locate path)) :
    later.locate path = tree.locate path := by
  unfold Tree.locate at holds ⊢
  rw [keeps.workingDirectory]
  split at holds
  · contradiction
  · rename_i short
    rw [if_neg short, if_neg short]
    exact keeps.follow holds

/-- What is read at a path is read there in a tree that keeps everything. -/
theorem Keeps.read (keeps : tree.Keeps later) (found : tree.read path = .ok bytes) :
    later.read path = .ok bytes := by
  unfold Tree.read at found ⊢
  split at found
  · contradiction
  rename_i clean
  rw [if_neg clean]
  cases place : tree.locate path with
  | directory location => simp [place] at found
  | vacant location => simp [place] at found
  | nowhere reason => simp [place] at found
  | file location old =>
    rw [keeps.locate (place ▸ .file location old), place]
    simpa only [place, enter, keeps.closed] using found
  | special location old =>
    rw [keeps.locate (place ▸ .special location old), place]
    simpa only [place, enter, keeps.closed] using found

end SpriteText.Files.Tree
