import SpriteText.Files.Tree

/-!
# Trees after writing, and trees that agree

A file that is written at a path is read at this path. Two trees that differ in the bytes of one
file only (`AgreesBut`) are changed alike by everything that is written to both.
-/

namespace SpriteText.Files.Tree

variable {tree other : Tree} {spot location : Location} {path : Path} {bytes : List UInt8}

/-! ## Following a path -/

/-- Where the rest of a path leads from what is at a location. -/
def onward (tree : Tree) (location : Location) (rest : List String) : Option Node → Place
  | none => if rest = [] then .vacant location else .nowhere .notFound
  | some (.file bytes) => if rest = [] then .file location bytes else .nowhere .notDirectory
  | some (.special bytes) => if rest = [] then .special location bytes else .nowhere .notDirectory
  | some .directory => tree.follow location rest

/-- Where a path leads from a directory that is open to searches. -/
def inward (tree : Tree) (directory : Location) (part : String) (rest : List String) : Place :=
  if part = ".." then tree.follow directory.dropLast rest
  else if maxPart < part.utf8ByteSize then .nowhere .nameTooLong
  else tree.onward (directory ++ [part]) rest (tree.node? (directory ++ [part]))

/-- A path is followed from its first part onward. -/
theorem follow_cons (tree : Tree) (directory : Location) (part : String) (rest : List String) :
    tree.follow directory (part :: rest) =
      match tree.closed directory .search with
      | some reason => .nowhere reason
      | none => tree.inward directory part rest := by
  simp only [follow, inward]
  cases tree.closed directory .search with
  | some reason => rfl
  | none =>
    generalize tree.node? (directory ++ [part]) = found
    cases found with
    | none => cases rest <;> rfl
    | some node => cases node <;> cases rest <;> rfl

/-- A node is found where it is put, and other nodes stay. -/
theorem node?_put (tree : Tree) (below : location ≠ []) (node : Node) (place : Location) :
    (tree.put location node).node? place =
      if place = location then some node else tree.node? place := by
  by_cases root : place = []
  · have apart : place ≠ location := by
      rintro rfl
      exact below root
    rw [if_neg apart, node?, node?, if_pos root, if_pos root]
  · rw [node?, node?, if_neg root, if_neg root, put, List.lookup_cons]
    by_cases same : place = location
    · rw [if_pos same, beq_iff_eq.mpr same]
    · rw [if_neg same, beq_eq_false_iff_ne.mpr same]

/-- What is at the end of a path that leads to a location below the root. -/
def Ends (tree : Tree) : Place → Prop
  | .directory _ | .nowhere _ => True
  | .vacant location => location ≠ [] ∧ tree.node? location = none
  | .file location bytes => location ≠ [] ∧ tree.node? location = some (.file bytes)
  | .special location bytes => location ≠ [] ∧ tree.node? location = some (.special bytes)

/-- A path leads to a file that is there, or to a location that holds nothing. -/
theorem ends_follow (tree : Tree) (directory : Location) (parts : List String) :
    tree.Ends (tree.follow directory parts) := by
  induction parts generalizing directory with
  | nil => trivial
  | cons part parts ih =>
    have below : directory ++ [part] ≠ [] := by simp
    rw [follow_cons]
    split
    · trivial
    rw [inward]
    split
    · exact ih directory.dropLast
    split
    · trivial
    have last (place : Place) (ends : tree.Ends place) (reason : Reason) :
        tree.Ends (if parts = [] then place else .nowhere reason) := by
      split
      · exact ends
      · trivial
    cases found : tree.node? (directory ++ [part]) with
    | none => exact last (.vacant _) ⟨below, found⟩ _
    | some node =>
      cases node with
      | directory => exact ih (directory ++ [part])
      | file bytes => exact last (.file _ bytes) ⟨below, found⟩ _
      | special bytes => exact last (.special _ bytes) ⟨below, found⟩ _

/-- A whole path leads to a file that is there, or to a location that holds nothing. -/
theorem ends_locate (tree : Tree) (path : Path) : tree.Ends (tree.locate path) := by
  unfold locate
  split
  · trivial
  · exact tree.ends_follow _ path.parts

/-! ## Reading what is written -/

/-- A file can be put at the location where a path ends. -/
inductive Writable : Place → Location → Prop
  /-- There is nothing. -/
  | vacant (location : Location) : Writable (.vacant location) location
  /-- There is a file. -/
  | file (location : Location) (bytes : List UInt8) : Writable (.file location bytes) location

/-- A location where a file can be put is below the root and no directory. -/
theorem writable_spec {directory : Location} {parts : List String}
    (writable : Writable (tree.follow directory parts) location) :
    location ≠ [] ∧ tree.node? location ≠ some .directory := by
  have ends := tree.ends_follow directory parts
  generalize tree.follow directory parts = place at writable ends
  cases writable with
  | vacant => exact ⟨ends.1, by simp [ends.2]⟩
  | file location bytes => exact ⟨ends.1, by simp [ends.2]⟩

/-- The location where a path ends and a file can be put is below the root. -/
theorem writable_spec_locate (writable : Writable (tree.locate path) location) :
    location ≠ [] ∧ tree.node? location ≠ some .directory := by
  unfold locate at writable
  split at writable
  · contradiction
  · exact writable_spec writable

/-- A path leads to the file that has been put at its end. -/
theorem follow_put {directory : Location} {parts : List String}
    (writable : Writable (tree.follow directory parts) location) (bytes : List UInt8) :
    (tree.put location (.file bytes)).follow directory parts = .file location bytes := by
  obtain ⟨below, no_directory⟩ := writable_spec writable
  have nodes := tree.node?_put below (.file bytes)
  induction parts generalizing directory with
  | nil => contradiction
  | cons part parts ih =>
    have doors : (tree.put location (.file bytes)).closed = tree.closed := rfl
    rw [follow_cons] at writable ⊢
    rw [doors]
    split at writable
    · contradiction
    rw [inward] at writable ⊢
    split at writable
    · rename_i up
      rw [if_pos up]
      exact ih writable
    rename_i down
    split at writable
    · contradiction
    rename_i short
    rw [if_neg down, if_neg short, nodes]
    -- the path ends here unless a directory is found, and then its end is further down
    have last {place : Place} {reason : Reason}
        (here : ∀ spot, Writable place spot → spot = directory ++ [part])
        (found : Writable (if parts = [] then place else .nowhere reason) location) :
        (tree.put location (.file bytes)).onward (directory ++ [part]) parts
          (if directory ++ [part] = location then some (.file bytes)
            else tree.node? (directory ++ [part])) = .file location bytes := by
      split at found
      · rename_i ended
        obtain rfl := here location found
        rw [if_pos rfl, onward, if_pos ended]
      · contradiction
    cases found : tree.node? (directory ++ [part]) with
    | none =>
      rw [found, onward] at writable
      rw [← found]
      exact last (fun spot writable => by cases writable; rfl) writable
    | some node =>
      cases node with
      | directory =>
        have apart : directory ++ [part] ≠ location := by
          rintro rfl
          exact no_directory found
        rw [found, onward] at writable
        rw [if_neg apart, onward]
        exact ih writable
      | file old =>
        rw [found, onward] at writable
        rw [← found]
        exact last (fun spot writable => by cases writable; rfl) writable
      | special old =>
        rw [found, onward] at writable
        rw [← found]
        exact last (fun spot writable => by cases writable) writable

/-- The end of a path that leads to a writable location is the file put there. -/
theorem locate_put (writable : Writable (tree.locate path) location) (bytes : List UInt8) :
    (tree.put location (.file bytes)).locate path = .file location bytes := by
  unfold locate at writable ⊢
  split at writable
  · contradiction
  · rename_i short
    rw [if_neg short]
    exact follow_put writable bytes

/-- What is opened is what is inside, and the location is not closed. -/
theorem enter_eq_ok_iff {α : Type} {access : Access} {inside found : α} :
    tree.enter location access path inside = .ok found ↔
      tree.closed location access = none ∧ inside = found := by
  unfold enter
  cases tree.closed location access <;> simp

/-- What writing to a path does. -/
inductive Writes (tree : Tree) (path : Path) (bytes : List UInt8) : Tree → Prop
  /-- The file that the path leads to is made or changed. -/
  | put {location : Location} (writable : Writable (tree.locate path) location) :
    Writes tree path bytes (tree.put location (.file bytes))
  /-- The path leads to a special file, and nothing is changed. -/
  | lost {location : Location} {found : List UInt8}
      (special : tree.locate path = .special location found) : Writes tree path bytes tree

/-- A path that is written to leads to a file afterwards, or to a special file. -/
theorem writes_of_write {next : Tree} (written : tree.write path bytes = .ok next) :
    hasNull path = false ∧ tree.Writes path bytes next := by
  unfold write at written
  split at written
  · contradiction
  rename_i clean
  refine ⟨Bool.eq_false_iff.mpr clean, ?_⟩
  cases place : tree.locate path with
  | directory location => simp [place] at written
  | nowhere reason => simp [place] at written
  | vacant location =>
    simp only [place, enter_eq_ok_iff] at written
    exact written.2 ▸ .put (place ▸ .vacant location)
  | file location old =>
    simp only [place, enter_eq_ok_iff] at written
    exact written.2 ▸ .put (place ▸ .file location old)
  | special location old =>
    simp only [place, enter_eq_ok_iff] at written
    exact written.2 ▸ .lost place

/-- A path that leads to no special file leads to what is written there. -/
theorem locate_written {next : Tree} (written : tree.write path bytes = .ok next)
    (plain : ∀ location found, next.locate path ≠ .special location found) :
    ∃ location, next.locate path = .file location bytes := by
  cases (writes_of_write written).2 with
  | put writable => exact ⟨_, locate_put writable bytes⟩
  | lost special => exact absurd special (plain _ _)

/-- A path is a file that may be read. -/
structure IsReadable (tree : Tree) (path : Path) : Prop where
  /-- It leads to no special file. -/
  plain : ∀ location found, tree.locate path ≠ .special location found
  /-- The file that it leads to is not closed to readers. -/
  unclosed : ∀ location found, tree.locate path = .file location found →
    tree.closed location .read = none

/-- What is written to a file that may be read is read there. -/
theorem read_written {next : Tree} (written : tree.write path bytes = .ok next)
    (readable : next.IsReadable path) : next.read path = .ok bytes := by
  obtain ⟨clean, -⟩ := writes_of_write written
  obtain ⟨location, leads⟩ := locate_written written readable.plain
  rw [read, if_neg (Bool.eq_false_iff.mp clean), leads]
  exact enter_eq_ok_iff.mpr ⟨readable.unclosed _ _ leads, rfl⟩

/-- A path where a file is read has something. -/
theorem exists?_of_read {bytes : List UInt8} (read : tree.read path = .ok bytes) :
    tree.exists? path = .ok true := by
  unfold Tree.read at read
  split at read
  · contradiction
  rename_i clean
  rw [exists?, if_neg clean]
  cases place : tree.locate path with
  | file location content => rfl
  | special location content => rfl
  | directory location => simp [place] at read
  | vacant location => simp [place] at read
  | nowhere reason => simp [place] at read

/-! ## Trees that agree -/

/-- Two trees are the same but for the bytes of a file that both have. -/
structure AgreesBut (spot : Location) (tree other : Tree) : Prop where
  /-- Relative paths start at the same directory. -/
  workingDirectory : other.workingDirectory = tree.workingDirectory
  /-- The same is closed. -/
  closed : other.closed = tree.closed
  /-- Everywhere else they hold the same. -/
  elsewhere : ∀ location, location ≠ spot → other.node? location = tree.node? location
  /-- The first tree has the file. -/
  here : ∃ bytes, tree.node? spot = some (.file bytes)
  /-- The second tree has the file. -/
  there : ∃ bytes, other.node? spot = some (.file bytes)

/-- Trees with two contents put into one file agree. -/
theorem agreesBut_put (tree : Tree) (below : spot ≠ []) (bytes new : List UInt8) :
    AgreesBut spot (tree.put spot (.file bytes)) (tree.put spot (.file new)) := by
  have nodes := tree.node?_put below
  refine ⟨rfl, rfl, fun place apart => ?_, ⟨bytes, ?_⟩, ⟨new, ?_⟩⟩
  · rw [nodes, nodes, if_neg apart, if_neg apart]
  · rw [nodes, if_pos rfl]
  · rw [nodes, if_pos rfl]

/-- Two paths end alike, but perhaps for the bytes of a file. -/
inductive SamePlace (spot : Location) : Place → Place → Prop
  /-- They end at the same place. -/
  | same (place : Place) : SamePlace spot place place
  /-- They end at the file. -/
  | spot (bytes other : List UInt8) : SamePlace spot (.file spot bytes) (.file spot other)

/-- Two attempts to change a tree agree: both change it alike, or both fail alike. -/
inductive SameChange (spot : Location) : Except FileFault Tree → Except FileFault Tree → Prop
  /-- Both change the tree. -/
  | changed {next last : Tree} (agrees : AgreesBut spot next last) :
    SameChange spot (.ok next) (.ok last)
  /-- Both fail with the same fault. -/
  | refused (fault : FileFault) : SameChange spot (.error fault) (.error fault)

/-- Makes a directory that may be there already. -/
def settle (tree : Tree) (path : Path) : Tree × Option FileFault :=
  match tree.makeDirectory path with
  | .ok next => (next, none)
  | .error fault => tree.excuse path fault

/-- Makes a directory whose first making has ended so: where the directory around it is missing,
that one is made first. -/
def makeOuter (tree : Tree) (root : String) (outer : List String) (path : Path) :
    Except FileFault Tree → Tree × Option FileFault
  | .error (.refused .notFound _) =>
    match tree.makeAll root outer with
    | (next, some fault) => (next, some fault)
    | (next, none) => next.settle path
  | _ => tree.settle path

/-- A directory and those around it are made from the inside out. -/
theorem makeAll_cons (tree : Tree) (root part : String) (outer : List String) :
    tree.makeAll root (part :: outer) =
      tree.makeOuter root outer { root, parts := (part :: outer).reverse }
        (tree.makeDirectory { root, parts := (part :: outer).reverse }) := by
  rw [makeAll]
  unfold makeOuter settle
  cases tree.makeDirectory { root, parts := (part :: outer).reverse } with
  | ok next => rfl
  | error fault =>
    cases fault with
    | nullCharacter => rfl
    | refused reason refused => cases reason <;> rfl

namespace AgreesBut

/-- Paths end alike in trees that agree. -/
theorem follow (agrees : AgreesBut spot tree other) (directory : Location) (parts : List String) :
    SamePlace spot (tree.follow directory parts) (other.follow directory parts) := by
  induction parts generalizing directory with
  | nil => exact .same _
  | cons part parts ih =>
    rw [follow_cons, follow_cons, agrees.closed]
    split
    · exact .same _
    rw [inward, inward]
    split
    · exact ih directory.dropLast
    split
    · exact .same _
    by_cases same : directory ++ [part] = spot
    · obtain ⟨bytes, here⟩ := agrees.here
      obtain ⟨new, there⟩ := agrees.there
      rw [same, here, there, onward, onward]
      split
      · exact .spot bytes new
      · exact .same _
    · rw [agrees.elsewhere _ same]
      cases tree.node? (directory ++ [part]) with
      | none => exact .same _
      | some node =>
        cases node with
        | file bytes => exact .same _
        | special bytes => exact .same _
        | directory => exact ih (directory ++ [part])

/-- Paths are located alike in trees that agree. -/
theorem locate (agrees : AgreesBut spot tree other) (path : Path) :
    SamePlace spot (tree.locate path) (other.locate path) := by
  rw [Tree.locate, Tree.locate, agrees.workingDirectory]
  split
  · exact .same _
  · exact agrees.follow _ path.parts

/-- Trees that agree have the same directories. -/
theorem isDirectory (agrees : AgreesBut spot tree other) (path : Path) :
    other.isDirectory path = tree.isDirectory path := by
  have places := agrees.locate path
  rw [Tree.isDirectory, Tree.isDirectory]
  generalize tree.locate path = place, other.locate path = found at places
  cases places <;> rfl

/-- A node that is put into both trees leaves them in agreement. -/
theorem put (agrees : AgreesBut spot tree other) (below : location ≠ []) {node : Node}
    (kept : location = spot → ∃ bytes, node = .file bytes) :
    AgreesBut spot (tree.put location node) (other.put location node) := by
  have nodes := tree.node?_put below node
  have others := other.node?_put below node
  refine ⟨agrees.workingDirectory, agrees.closed, fun place apart => ?_, ?_, ?_⟩
  · rw [nodes, others, agrees.elsewhere place apart]
  · rw [nodes]
    split
    · rename_i same
      obtain ⟨bytes, rfl⟩ := kept same.symm
      exact ⟨bytes, rfl⟩
    · exact agrees.here
  · rw [others]
    split
    · rename_i same
      obtain ⟨bytes, rfl⟩ := kept same.symm
      exact ⟨bytes, rfl⟩
    · exact agrees.there

/-- A location is entered alike in trees that agree, if what is inside agrees. -/
theorem enter (agrees : AgreesBut spot tree other) (location : Location) (access : Access)
    (path : Path) {next last : Tree} (inside : AgreesBut spot next last) :
    SameChange spot (tree.enter location access path next)
      (other.enter location access path last) := by
  unfold Tree.enter
  rw [agrees.closed]
  cases tree.closed location access with
  | some reason => exact .refused _
  | none => exact .changed inside

/-- A file is written alike to trees that agree. -/
theorem write (agrees : AgreesBut spot tree other) (path : Path) (bytes : List UInt8) :
    SameChange spot (tree.write path bytes) (other.write path bytes) := by
  have places := agrees.locate path
  have ends := tree.ends_locate path
  unfold Tree.write
  split
  · exact .refused _
  generalize tree.locate path = place, other.locate path = found at places ends
  have put {location : Location} (below : location ≠ []) :
      SameChange spot (tree.enter location .write path (tree.put location (.file bytes)))
        (other.enter location .write path (other.put location (.file bytes))) :=
    agrees.enter location .write path (agrees.put below fun _ => ⟨bytes, rfl⟩)
  cases places with
  | spot old new => exact put ends.1
  | same =>
    cases place with
    | directory location => exact .refused _
    | nowhere reason => exact .refused _
    | vacant location => exact put ends.1
    | file location old => exact put ends.1
    | special location old => exact agrees.enter location .write path agrees

/-- A path that is written alike in trees that agree leads to the same place afterwards. -/
theorem locate_written {next last : Tree} (agrees : AgreesBut spot next last)
    (first : tree.write path bytes = .ok next) (second : other.write path bytes = .ok last) :
    last.locate path = next.locate path := by
  have places := agrees.locate path
  have here := Tree.locate_written first
  have there := Tree.locate_written second
  generalize next.locate path = place, last.locate path = found at places here there ⊢
  cases places with
  | same => rfl
  | spot old new =>
    obtain ⟨location, same⟩ := here (by simp)
    obtain ⟨again, same_too⟩ := there (by simp)
    cases same
    cases same_too
    rfl

/-- A file is written to neither of two trees that agree, or to both. -/
theorem write_cases (agrees : AgreesBut spot tree other) (path : Path) (bytes : List UInt8) :
    (∃ fault, tree.write path bytes = .error fault ∧ other.write path bytes = .error fault) ∨
      ∃ next last, tree.write path bytes = .ok next ∧ other.write path bytes = .ok last ∧
        AgreesBut spot next last ∧ last.locate path = next.locate path := by
  have change := agrees.write path bytes
  generalize first : tree.write path bytes = written, second : other.write path bytes = again
    at change
  cases change with
  | refused fault => exact .inl ⟨fault, rfl, rfl⟩
  | changed later => exact .inr ⟨_, _, rfl, rfl, later, later.locate_written first second⟩

/-- The same is read at a path that leads to the same place. -/
theorem read_eq (agrees : AgreesBut spot tree other)
    (same : other.locate path = tree.locate path) : other.read path = tree.read path := by
  simp only [Tree.read, Tree.enter, same, agrees.closed]

/-- A directory is made alike in trees that agree. -/
theorem makeDirectory (agrees : AgreesBut spot tree other) (path : Path) :
    SameChange spot (tree.makeDirectory path) (other.makeDirectory path) := by
  have places := agrees.locate path
  have ends := tree.ends_locate path
  unfold Tree.makeDirectory
  split
  · exact .refused _
  generalize tree.locate path = place, other.locate path = found at places ends
  cases places with
  | spot old new => exact .refused _
  | same =>
    cases place with
    | directory location => exact .refused _
    | nowhere reason => exact .refused _
    | file location old => exact .refused _
    | special location old => exact .refused _
    | vacant location =>
      refine agrees.enter location .make path (agrees.put ends.1 fun same => ?_)
      obtain ⟨bytes, here⟩ := agrees.here
      rw [← same, ends.2] at here
      contradiction

/-- A failed making of a directory is excused alike in trees that agree. -/
theorem excuse (agrees : AgreesBut spot tree other) (path : Path) (fault : FileFault) :
    AgreesBut spot (tree.excuse path fault).1 (other.excuse path fault).1 ∧
      (other.excuse path fault).2 = (tree.excuse path fault).2 := by
  cases fault with
  | nullCharacter => exact ⟨agrees, rfl⟩
  | refused reason refused =>
    unfold Tree.excuse
    rw [agrees.isDirectory path]
    cases tree.isDirectory path <;> exact ⟨agrees, rfl⟩

/-- A directory that may be there already is made alike in trees that agree. -/
theorem settle (agrees : AgreesBut spot tree other) (path : Path) :
    AgreesBut spot (tree.settle path).1 (other.settle path).1 ∧
      (other.settle path).2 = (tree.settle path).2 := by
  have made := agrees.makeDirectory path
  unfold Tree.settle
  generalize tree.makeDirectory path = first, other.makeDirectory path = second at made
  cases made with
  | changed later => exact ⟨later, rfl⟩
  | refused fault => exact agrees.excuse path fault

/-- Directories are made alike in trees that agree. -/
theorem makeAll (agrees : AgreesBut spot tree other) (root : String) (parts : List String) :
    AgreesBut spot (tree.makeAll root parts).1 (other.makeAll root parts).1 ∧
      (other.makeAll root parts).2 = (tree.makeAll root parts).2 := by
  induction parts with
  | nil => exact agrees.settle { root, parts := [] }
  | cons part outer ih =>
    let path : Path := { root, parts := (part :: outer).reverse }
    have made := agrees.makeDirectory path
    have settled := agrees.settle path
    rw [makeAll_cons, makeAll_cons]
    show AgreesBut spot (tree.makeOuter root outer path (tree.makeDirectory path)).1
        (other.makeOuter root outer path (other.makeDirectory path)).1 ∧
      (other.makeOuter root outer path (other.makeDirectory path)).2 =
        (tree.makeOuter root outer path (tree.makeDirectory path)).2
    generalize tree.makeDirectory path = first, other.makeDirectory path = second at made
    cases made with
    | changed later => exact settled
    | refused fault =>
      cases fault with
      | nullCharacter => exact settled
      | refused reason refused =>
        cases reason with
        | notFound =>
          unfold makeOuter
          generalize tree.makeAll root outer = first, other.makeAll root outer = second at ih
          obtain ⟨next, failed⟩ := first
          obtain ⟨last, failed_too⟩ := second
          obtain ⟨later, rfl⟩ := ih
          cases failed_too with
          | none => exact later.settle path
          | some fault => exact ⟨later, rfl⟩
        | _ => exact settled

/-- The directories around a file are made alike in trees that agree. -/
theorem makeDirectories (agrees : AgreesBut spot tree other) (path : Path) :
    AgreesBut spot (tree.makeDirectories path).1 (other.makeDirectories path).1 ∧
      (other.makeDirectories path).2 = (tree.makeDirectories path).2 :=
  agrees.makeAll path.root path.parts.reverse

end AgreesBut

end SpriteText.Files.Tree
