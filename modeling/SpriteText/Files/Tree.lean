import SpriteText.Files.Path

/-!
# Files and directories

A tree holds files and directories at locations below a root, and a working directory where relative
paths start. A path is followed part by part: two dots lead to the directory above, every part but
the last must be a directory, and parts and whole paths have a greatest length. What is at the end
of a path may be closed to those who ask: a directory may not be searched, a file not be read, and
nothing be written or made at a location. A special file can be opened like a file, but it is read
as the same bytes whatever has been written to it.
-/

namespace SpriteText.Files

/-- The parts from the root on, the outermost first. -/
abbrev Location := List String

/-- What a location holds. -/
inductive Node where
  /-- A file. -/
  | file (bytes : List UInt8)
  /-- A directory. -/
  | directory
  /-- A special file, with the bytes that it is read as. -/
  | special (bytes : List UInt8)
deriving DecidableEq, Repr

/-- Why a path cannot be used. -/
inductive Reason where
  /-- A part is missing. -/
  | notFound
  /-- There is something already. -/
  | exists
  /-- A part that should be a directory is a file. -/
  | notDirectory
  /-- A directory is where a file should be. -/
  | isDirectory
  /-- A part or the whole path is too long. -/
  | nameTooLong
  /-- Access is refused: the file or the directory is closed to it, or the device. -/
  | refused (number : Nat) (text : String)
deriving DecidableEq, Repr

/-- The number of a reason in the operating system. -/
def Reason.number : Reason → Nat
  | .notFound => 2
  | .exists => 17
  | .notDirectory => 20
  | .isDirectory => 21
  | .nameTooLong => 36
  | .refused number _ => number

/-- The wording of a reason. -/
def Reason.text : Reason → String
  | .notFound => "No such file or directory"
  | .exists => "File exists"
  | .notDirectory => "Not a directory"
  | .isDirectory => "Is a directory"
  | .nameTooLong => "File name too long"
  | .refused _ text => text

/-- What a location may be closed to. -/
inductive Access where
  /-- Going on to what is in a directory. -/
  | search
  /-- Opening a file to read it. -/
  | read
  /-- Opening a file to write it, be it a new one. -/
  | write
  /-- Making a directory. -/
  | make
deriving DecidableEq, Repr

/-- Files and directories with a working directory. -/
structure Tree where
  /-- What is put where; an earlier entry hides later ones. -/
  nodes : List (Location × Node) := []
  /-- Where relative paths start. -/
  workingDirectory : Location := []
  /-- Why a location is closed, if it is. -/
  closed : Location → Access → Option Reason := fun _ _ => none

/-- A failed use of a path. -/
inductive FileFault where
  /-- The operating system refuses the path. -/
  | refused (reason : Reason) (path : Path)
  /-- The path holds a null character and is never handed on. -/
  | nullCharacter
deriving DecidableEq, Repr

/-- The wording of a failed use. -/
def FileFault.message : FileFault → String
  | .refused reason path =>
    let number := reason.number
    let text := reason.text
    let quoted := Text.quote path.spelling
    s!"[Errno {number}] {text}: {quoted}"
  | .nullCharacter => "embedded null byte"

/-- Where a path leads. -/
inductive Place where
  /-- To a directory. -/
  | directory (location : Location)
  /-- To a file. -/
  | file (location : Location) (bytes : List UInt8)
  /-- To a special file. -/
  | special (location : Location) (bytes : List UInt8)
  /-- To a location in a directory that holds nothing. -/
  | vacant (location : Location)
  /-- Nowhere. -/
  | nowhere (reason : Reason)
deriving DecidableEq

namespace Tree

/-- What a location holds; the root is always a directory. -/
def node? (tree : Tree) (location : Location) : Option Node :=
  if location = [] then some .directory else tree.nodes.lookup location

/-- The tree with a node at a location. -/
def put (tree : Tree) (location : Location) (node : Node) : Tree :=
  { tree with nodes := (location, node) :: tree.nodes }

/-- The greatest length of a part, in bytes. -/
def maxPart : Nat := 255

/-- The length, in bytes, from which on a path is too long. -/
def maxPath : Nat := 4096

/-- Follows parts from a directory. -/
def follow (tree : Tree) (directory : Location) : List String → Place
  | [] => .directory directory
  | part :: rest =>
    match tree.closed directory .search with
    | some reason => .nowhere reason
    | none =>
      if part = ".." then tree.follow directory.dropLast rest
      else if maxPart < part.utf8ByteSize then .nowhere .nameTooLong
      else
        let location := directory ++ [part]
        match tree.node? location, rest with
        | none, [] => .vacant location
        | none, _ :: _ => .nowhere .notFound
        | some (.file bytes), [] => .file location bytes
        | some (.special bytes), [] => .special location bytes
        | some (.file _), _ :: _ | some (.special _), _ :: _ => .nowhere .notDirectory
        | some .directory, _ => tree.follow location rest

/-- Follows a path. -/
def locate (tree : Tree) (path : Path) : Place :=
  if maxPath ≤ path.spelling.utf8ByteSize then .nowhere .nameTooLong
  else tree.follow (if path.root = "" then tree.workingDirectory else []) path.parts

/-- Whether a path holds a null character. -/
def hasNull (path : Path) : Bool := path.parts.any fun part => part.toList.contains (Char.ofNat 0)

/-- Whether a path leads to a directory. -/
def isDirectory (tree : Tree) (path : Path) : Bool :=
  match tree.locate path with
  | .directory _ => true
  | _ => false

/-- Whether there is a file or directory at a path. A path that leads nowhere has none, unless it
is too long or closed, so that it cannot be told. -/
def exists? (tree : Tree) (path : Path) : Except FileFault Bool :=
  if hasNull path then .ok false
  else match tree.locate path with
    | .directory _ | .file _ _ | .special _ _ => .ok true
    | .vacant _ | .nowhere .notFound | .nowhere .notDirectory => .ok false
    | .nowhere reason => .error (.refused reason path)

/-- What opening a location gives, unless the location is closed. -/
def enter {α : Type} (tree : Tree) (location : Location) (access : Access) (path : Path)
    (inside : α) : Except FileFault α :=
  match tree.closed location access with
  | some reason => .error (.refused reason path)
  | none => .ok inside

/-- The bytes of the file at a path. -/
def read (tree : Tree) (path : Path) : Except FileFault (List UInt8) :=
  if hasNull path then .error .nullCharacter
  else match tree.locate path with
    | .file location bytes | .special location bytes => tree.enter location .read path bytes
    | .directory _ => .error (.refused .isDirectory path)
    | .vacant _ => .error (.refused .notFound path)
    | .nowhere reason => .error (.refused reason path)

/-- The tree with a file written at a path. A special file stays as it is. -/
def write (tree : Tree) (path : Path) (bytes : List UInt8) : Except FileFault Tree :=
  if hasNull path then .error .nullCharacter
  else match tree.locate path with
    | .file location _ | .vacant location =>
      tree.enter location .write path (tree.put location (.file bytes))
    | .special location _ => tree.enter location .write path tree
    | .directory _ => .error (.refused .isDirectory path)
    | .nowhere reason => .error (.refused reason path)

/-- The size that is told of what a path leads to; only files have one. -/
def size (tree : Tree) (path : Path) : Except FileFault Nat :=
  if hasNull path then .error .nullCharacter
  else match tree.locate path with
    | .file _ bytes => .ok bytes.length
    | .directory _ | .special _ _ => .ok 0
    | .vacant _ => .error (.refused .notFound path)
    | .nowhere reason => .error (.refused reason path)

/-- The tree with one directory made at a path. -/
def makeDirectory (tree : Tree) (path : Path) : Except FileFault Tree :=
  if hasNull path then .error .nullCharacter
  else match tree.locate path with
    | .vacant location => tree.enter location .make path (tree.put location .directory)
    | .directory _ | .file _ _ | .special _ _ => .error (.refused .exists path)
    | .nowhere reason => .error (.refused reason path)

/-- A failed making of a directory does no harm where a directory is already. -/
def excuse (tree : Tree) (path : Path) (fault : FileFault) : Tree × Option FileFault :=
  match fault with
  | .nullCharacter => (tree, some fault)
  | .refused _ _ => if tree.isDirectory path then (tree, none) else (tree, some fault)

/-- Makes the directory whose parts are given innermost first, and those around it. Directories
made before a fault stay. -/
def makeAll (tree : Tree) (root : String) : List String → Tree × Option FileFault
  | [] =>
    let path : Path := { root, parts := [] }
    match tree.makeDirectory path with
    | .ok next => (next, none)
    | .error fault => tree.excuse path fault
  | part :: outer =>
    let path : Path := { root, parts := (part :: outer).reverse }
    match tree.makeDirectory path with
    | .ok next => (next, none)
    | .error (.refused .notFound _) =>
      match tree.makeAll root outer with
      | (next, some fault) => (next, some fault)
      | (next, none) =>
        match next.makeDirectory path with
        | .ok last => (last, none)
        | .error fault => next.excuse path fault
    | .error fault => tree.excuse path fault

/-- Makes the directory at a path and those around it, where they are missing. -/
def makeDirectories (tree : Tree) (path : Path) : Tree × Option FileFault :=
  tree.makeAll path.root path.parts.reverse

/-- The locations that hold something else than in an earlier tree, the oldest change first. -/
def changes (earlier later : Tree) : List (Location × Node) :=
  (later.nodes.reverse.map Prod.fst).eraseDups.filterMap fun location =>
    match later.node? location with
    | some node => if earlier.node? location = some node then none else some (location, node)
    | none => none

end Tree

end SpriteText.Files
