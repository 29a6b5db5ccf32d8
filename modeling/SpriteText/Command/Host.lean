import SpriteText.Picture.Imaging
import SpriteText.Utf8.WellFormed

/-!
# The host of a run

Besides files, a run depends on the imaging library, on how text that it generates is encoded, and
on what its output takes. None of them is a matter of sprites, and each can fail: names of files can
hold characters that have no encoding, and a terminal or a closed pipe can refuse a line.
-/

namespace SpriteText.Command

/-- What a run depends on besides the files. -/
structure Host where
  /-- The imaging library. -/
  imaging : Imaging
  /-- The bytes of a text that is written to a file, or why it has none. -/
  encode : String → Except String (List UInt8) := fun text => .ok (Utf8.encode text)
  /-- Why a text cannot be printed behind what has been printed, if it cannot. -/
  refusal : String → String → Option String := fun _ _ => none

/-- Prints texts in order behind what has been printed, up to the first one that is refused. -/
def Host.print (host : Host) (printed : String) : List String → String × Option String
  | [] => (printed, none)
  | text :: rest =>
    match host.refusal printed text with
    | some problem => (printed, some problem)
    | none => host.print (printed ++ text) rest

end SpriteText.Command
