import SpriteText.Text.Blank
import SpriteText.Text.Quoted

/-!
# Paths

A path is a root, which is empty for a path that starts at the working directory, and its parts.
Empty parts and parts that are a single dot say nothing and are left out.
-/

namespace SpriteText.Files

/-- A path by its parts. -/
structure Path where
  /-- The slashes at its start: none, one, or exactly two. -/
  root : String
  /-- The parts, the outermost first. -/
  parts : List String
deriving DecidableEq, Repr

namespace Path

/-- The root of a spelled path. Three slashes and more count as one. -/
def rootOf (spelled : List Char) : String :=
  match (spelled.takeWhile fun character => character = '/').length with
  | 0 => ""
  | 2 => "//"
  | _ => "/"

/-- The path that a text spells. -/
def ofString (text : String) : Path where
  root := rootOf text.toList
  parts :=
    ((Text.pieces (fun character => character = '/') text.toList).map String.ofList).filter
      fun part => part ≠ "" && part ≠ "."

/-- The spelling of a path; the working directory is a single dot. -/
def spelling (path : Path) : String :=
  if path.root = "" ∧ path.parts = [] then "." else path.root ++ "/".intercalate path.parts

/-- The last part; there may be none. -/
def name (path : Path) : String := path.parts.getLastD ""

/-- The path without its last part. -/
def parent (path : Path) : Path := { path with parts := path.parts.dropLast }

/-- The path with one more part. -/
def child (path : Path) (part : String) : Path := { path with parts := path.parts ++ [part] }

/-- A name cut before its last dot, unless the dot is first or last. -/
def cutName (name : List Char) : List Char × List Char :=
  let after := name.reverse.takeWhile fun character => character ≠ '.'
  match name.reverse.dropWhile fun character => character ≠ '.' with
  | _ :: before =>
    if after ≠ [] ∧ before ≠ [] then (before.reverse, '.' :: after.reverse) else (name, [])
  | [] => (name, [])

/-- The last part without its suffix. -/
def stem (path : Path) : String := String.ofList (cutName path.name.toList).1

/-- The suffix of the last part, with its dot. -/
def suffix (path : Path) : String := String.ofList (cutName path.name.toList).2

/-- Whether the last part has a suffix after something other than dots. -/
def hasExtension (path : Path) : Bool :=
  (path.name.toList.dropWhile fun character => character = '.').contains '.'

end Path

end SpriteText.Files
