/-!
# Hexadecimal digits

Numbers in base sixteen with a fixed number of digits, in either case.
-/

namespace SpriteText.Text

/-- The case of the letters among hexadecimal digits. -/
inductive LetterCase where
  /-- Digits ten to fifteen are written `a` to `f`. -/
  | lower
  /-- Digits ten to fifteen are written `A` to `F`. -/
  | upper
deriving DecidableEq, Repr

/-- One hexadecimal digit of a number below sixteen. -/
def hexDigit (letters : LetterCase) (digit : Nat) : Char :=
  if digit < 10 then Char.ofNat (0x30 + digit)
  else match letters with
    | .lower => Char.ofNat (0x61 + (digit - 10))
    | .upper => Char.ofNat (0x41 + (digit - 10))

/-- The last so many hexadecimal digits of a number, the highest first. -/
def hexDigits (letters : LetterCase) : Nat → Nat → List Char
  | 0, _ => []
  | width + 1, value =>
    hexDigits letters width (value / 16) ++ [hexDigit letters (value % 16)]

/-- The last so many hexadecimal digits of a number as text. -/
def hex (letters : LetterCase) (width value : Nat) : String :=
  String.ofList (hexDigits letters width value)

/-- Bytes as lower-case hexadecimal digits, two to a byte. -/
def hexBytes (bytes : List UInt8) : String :=
  String.ofList (bytes.flatMap fun byte => hexDigits .lower 2 byte.toNat)

end SpriteText.Text
