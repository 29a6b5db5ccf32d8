import SpriteText.Command.Run
import SpriteText.Picture.Canvas

/-!
# The program

Looks at the files that an argument list may touch, runs it on them, and carries out what the run
changed and printed. Pictures are made by the library of this development.
-/

namespace SpriteText.Program

open SpriteText.Files

/-- The spelling of a location. -/
def spell (location : Location) : String := "/" ++ "/".intercalate location

/-- The reason that the operating system gives for a failed call. -/
def reason : IO.Error → Reason
  | .permissionDenied _ code details => .refused code.toNat details
  | .unsupportedOperation code details => .refused code.toNat details
  | other => .refused 5 (toString other)

/-- The tree with a location closed. -/
def close (tree : Tree) (location : Location) (access : Access) (reason : Reason) : Tree :=
  { tree with
    closed := fun place way =>
      if place = location ∧ way = access then some reason else tree.closed place way }

/-- Tries to open what is at a location, and closes the location where that fails. -/
def tryOpen (tree : Tree) (location : Location) (access : Access) (mode : IO.FS.Mode) : IO Tree :=
  try
    discard <| IO.FS.Handle.mk (spell location) mode
    return tree
  catch error => return close tree location access (reason error)

/-- Adds what the operating system has at a location. Only a file that is to be read is read. -/
def look (tree : Tree) (location : Location) (reading : Bool) : IO Tree := do
  let here := (← IO.currentDir) / spell location
  if ← here.isDir then return tree.put location .directory
  else if ← here.pathExists then
    let special := (← here.metadata).type == .other
    let node (bytes : List UInt8) : Node := if special then .special bytes else .file bytes
    if reading then
      try
        return tree.put location (node (← IO.FS.readBinFile here).toList)
      catch error => return close (tree.put location (node [])) location .read (reason error)
    else tryOpen (tree.put location (node [])) location .write .readWrite
  else return tree

/-- Adds what is at the locations from the root to a location. -/
def survey (tree : Tree) (location : Location) (reading : Bool) : IO Tree := do
  let mut surveyed := tree
  for depth in List.range location.length do
    surveyed ← look surveyed (location.take (depth + 1)) (reading && depth + 1 == location.length)
  return surveyed

/-- The locations that a path leads through. -/
def passed (start : Location) (parts : List String) : List Location :=
  (parts.foldl
    (fun (reached : Location × List Location) part =>
      let next := if part = ".." then reached.1.dropLast else reached.1 ++ [part]
      (next, next :: reached.2))
    (start, [start])).2.reverse

/-- The files that an argument list may touch. -/
def gather (arguments : List String) : IO Tree := do
  let current ← IO.currentDir
  let workingDirectory := (Path.ofString current.toString).parts
  let mut tree : Tree := { workingDirectory }
  match Command.Request.ofArguments arguments with
  | .error _ => return tree
  | .ok request =>
    for path in request.output.toList ++ [request.input] do
      let start := if path.root = "" then workingDirectory else []
      for location in passed start path.parts do
        tree ← survey tree location (path = request.input)
    return tree

/-- Makes one change. Special files are left as they are. -/
def carryOut (change : Location × Node) : IO Unit :=
  match change with
  | (location, .directory) => IO.FS.createDirAll (spell location)
  | (location, .file bytes) => IO.FS.writeBinFile (spell location) (ByteArray.mk bytes.toArray)
  | (_, .special _) => pure ()

end SpriteText.Program

/-- Runs the command line. -/
def main (arguments : List String) : IO UInt32 := do
  let before ← SpriteText.Program.gather arguments
  let host : SpriteText.Command.Host := { imaging := SpriteText.Picture.imaging }
  let outcome := SpriteText.Command.run host before arguments
  for change in SpriteText.Files.Tree.changes before outcome.tree do
    SpriteText.Program.carryOut change
  (← IO.getStdout).putStr outcome.output
  (← IO.getStderr).putStr outcome.errors
  match outcome.exit with
  | .status code => return UInt32.ofNat code
  | .escape fault =>
    (← IO.getStderr).putStr (fault.message ++ "\n")
    return 1
