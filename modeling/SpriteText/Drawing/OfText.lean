import SpriteText.Drawing.Build
import SpriteText.Text.CodePoint

/-!
# Drawings given as text

A drawing may be given as text. It is encoded first, and a text that has no encoding is no drawing.
-/

namespace SpriteText

/-- Why a text gives no sprite. -/
inductive TextFault where
  /-- The text has no encoding. -/
  | encoding (found : Text.Surrogates)
  /-- The drawing is at fault. -/
  | drawing (fault : DrawingFault)
deriving DecidableEq, Repr

/-- The same fault, found in a named sprite of a sheet. Surrogates are reported without the name. -/
def TextFault.inSprite (fault : TextFault) (name : String) : TextFault :=
  match fault with
  | .encoding found => .encoding found
  | .drawing fault => .drawing (fault.inSprite name)

/-- The wording of a fault with its place. -/
def TextFault.message : TextFault → String
  | .encoding found => found.message
  | .drawing fault => fault.message

namespace Drawing

/-- The answer to a text, by what its bytes are answered. -/
def onText {Result : Type} (text : List CodePoint)
    (answer : List UInt8 → Except DrawingFault Result) : Except TextFault Result :=
  match Text.encode? text with
  | .error found => .error (.encoding found)
  | .ok bytes => (answer bytes).mapError .drawing

/-- The depth and the data length of a drawing given as text. -/
def sizingText (text : List CodePoint) (lineOffset : Int) : Except TextFault Sizing :=
  onText text fun bytes => sizing bytes lineOffset

/-- Sizes and builds a drawing given as text. The caller's buffer is handed back, as it was if the
text has no encoding. -/
def buildText (text : List CodePoint) (buffer : Option (Array UInt8)) (alignTail : Bool)
    (lineOffset : Int) : Except TextFault Sprite × Option (Array UInt8) :=
  (onText text fun bytes => (build bytes buffer alignTail lineOffset).1,
    match Text.encode? text with
    | .error _ => buffer
    | .ok bytes => (build bytes buffer alignTail lineOffset).2)

/-- The sprite of a drawing given as text. -/
def compileText (text : List CodePoint) (alignTail : Bool) (lineOffset : Int) :
    Except TextFault Sprite :=
  (buildText text none alignTail lineOffset).1

end Drawing

end SpriteText
