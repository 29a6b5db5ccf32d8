import SpriteText.Text.Hexadecimal
import SpriteText.Utf8.WellFormed

/-!
# Code points

A text that is handed in is a list of code points. Most of them are characters, but surrogates are
not: a text that holds one on its own has no encoding, and is refused for the first run of them.
-/

namespace SpriteText

/-- A code point. -/
structure CodePoint where
  /-- Its number. -/
  value : Nat
  /-- There are so many. -/
  bounded : value < 0x110000
deriving DecidableEq, Repr

namespace CodePoint

/-- The code point of a character. -/
def ofChar (character : Char) : CodePoint where
  value := character.toNat
  bounded := by
    rcases character.valid with small | ⟨-, large⟩
    · exact Nat.lt_trans small (by decide)
    · exact large

/-- The null character, where some code point is wanted. -/
instance : Inhabited CodePoint := ⟨ofChar '\x00'⟩

/-- The line feed. -/
def newline : CodePoint := ofChar '\n'

/-- Whether a code point is a surrogate. -/
def isSurrogate (code : CodePoint) : Bool := 0xD800 ≤ code.value && code.value ≤ 0xDFFF

/-- The character that a code point is, if it is one. -/
def char? (code : CodePoint) : Option Char :=
  if valid : code.value.isValidChar then some (Char.ofNatAux code.value valid) else none

end CodePoint

namespace Text

/-- The code points of a text of characters. -/
def codePoints (text : String) : List CodePoint := text.toList.map .ofChar

/-- The text of characters that code points are, if all of them are characters. -/
def spelled? (codes : List CodePoint) : Option String :=
  (codes.mapM CodePoint.char?).map String.ofList

/-- The first run of surrogates in a text. -/
structure Surrogates where
  /-- The number of code points before it. -/
  start : Nat
  /-- The surrogates. -/
  run : List CodePoint
deriving DecidableEq, Repr

namespace Surrogates

/-- Looks for the first run; there is none in a text of characters. -/
def find (codes : List CodePoint) : Surrogates where
  start := (codes.takeWhile fun code => !code.isSurrogate).length
  run := (codes.dropWhile fun code => !code.isSurrogate).takeWhile CodePoint.isSurrogate

/-- The text of the report on surrogates. -/
def message (found : Surrogates) : String :=
  let start := found.start
  match found.run with
  | [code] =>
    let digits := hex .lower 4 code.value
    s!"'utf-8' codec can't encode character '\\u{digits}' in position {start}: " ++
      "surrogates not allowed"
  | run =>
    let last := start + run.length - 1
    s!"'utf-8' codec can't encode characters in position {start}-{last}: surrogates not allowed"

end Surrogates

/-- The bytes that encode a text, unless it holds surrogates. -/
def encode? (codes : List CodePoint) : Except Surrogates (List UInt8) :=
  match spelled? codes with
  | some text => .ok (Utf8.encode text)
  | none => .error (.find codes)

end Text

end SpriteText
