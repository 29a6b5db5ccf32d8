import SpriteText.Text.Blank

/-!
# Integers in text

Integers are read in decimal digits of any script, with an optional sign, single underscores
between digits and blanks around them.
-/

namespace SpriteText.Text

/-- The zeros of the decimal digits; the nine code points after each are its digits. -/
def decimalZeros : List Nat :=
  [0x30, 0x660, 0x6F0, 0x7C0, 0x966, 0x9E6, 0xA66, 0xAE6, 0xB66, 0xBE6, 0xC66, 0xCE6, 0xD66,
    0xDE6, 0xE50, 0xED0, 0xF20, 0x1040, 0x1090, 0x17E0, 0x1810, 0x1946, 0x19D0, 0x1A80, 0x1A90,
    0x1B50, 0x1BB0, 0x1C40, 0x1C50, 0xA620, 0xA8D0, 0xA900, 0xA9D0, 0xA9F0, 0xAA50, 0xABF0,
    0xFF10, 0x104A0, 0x10D30, 0x11066, 0x110F0, 0x11136, 0x111D0, 0x112F0, 0x11450, 0x114D0,
    0x11650, 0x116C0, 0x11730, 0x118E0, 0x11950, 0x11C50, 0x11D50, 0x11DA0, 0x16A60, 0x16AC0,
    0x16B50, 0x1D7CE, 0x1D7D8, 0x1D7E2, 0x1D7EC, 0x1D7F6, 0x1E140, 0x1E2F0, 0x1E950, 0x1FBF0]

/-- The value of a decimal digit of any script. -/
def decimalValue? (character : Char) : Option Nat :=
  let code := character.toNat
  (decimalZeros.find? fun start => start ≤ code && code ≤ start + 9).map fun start => code - start

/-- Blanks that may surround a numeral: the information separators are none. -/
def isNumeralBlank (character : Char) : Bool :=
  isBlank character && !(0x1C ≤ character.toNat && character.toNat ≤ 0x1F)

/-- The longest numeral that is read, in digits. -/
def maxNumeralDigits : Nat := 4300

/-- The digit values of a numeral; an underscore must stand between two digits. -/
def digitValues? (afterDigit : Bool) : List Char → Option (List Nat)
  | [] => if afterDigit then some [] else none
  | character :: rest =>
    if character = '_' then
      if afterDigit then digitValues? false rest else none
    else match decimalValue? character with
      | none => none
      | some value => (digitValues? true rest).map (value :: ·)

/-- The natural number of a digit sequence that is not too long. -/
def natural? (digits : List Char) : Option Nat :=
  match digitValues? false digits with
  | none => none
  | some values =>
    if values.length ≤ maxNumeralDigits then
      some (values.foldl (fun value digit => value * 10 + digit) 0)
    else none

/-- The integer that a text spells. -/
def integer? (text : String) : Option Int :=
  let inner :=
    ((text.toList.dropWhile isNumeralBlank).reverse.dropWhile isNumeralBlank).reverse
  match inner with
  | '-' :: digits => (natural? digits).map fun value => -(value : Int)
  | '+' :: digits => (natural? digits).map fun value => (value : Int)
  | digits => (natural? digits).map fun value => (value : Int)

end SpriteText.Text
