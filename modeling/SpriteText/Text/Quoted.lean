import SpriteText.Text.Hexadecimal
import SpriteText.Text.Printable

/-!
# Quoted text

Text is quoted with apostrophes, or with quotation marks when it holds an apostrophe and no
quotation mark. The chosen mark and the backslash are escaped, as are code points that do not
print as themselves.
-/

namespace SpriteText.Text

/-- The mark put around a text. -/
def quoteMark (codes : List Nat) : Char :=
  if codes.contains 0x27 && !codes.contains 0x22 then '"' else '\''

/-- One code point between marks. -/
def quoteCode (mark : Char) (code : Nat) : List Char :=
  if code = mark.toNat then ['\\', mark]
  else if code = 0x5C then ['\\', '\\']
  else if code = 0xA then ['\\', 'n']
  else if code = 0xD then ['\\', 'r']
  else if code = 0x9 then ['\\', 't']
  else if isPrintable code then [Char.ofNat code]
  else if code < 0x100 then '\\' :: 'x' :: hexDigits .lower 2 code
  else if code < 0x10000 then '\\' :: 'u' :: hexDigits .lower 4 code
  else '\\' :: 'U' :: hexDigits .lower 8 code

/-- Code points between quotation marks; surrogates are admitted. -/
def quoteCodes (codes : List Nat) : String :=
  let mark := quoteMark codes
  String.ofList (mark :: codes.flatMap (quoteCode mark) ++ [mark])

/-- A text between quotation marks. -/
def quote (text : String) : String := quoteCodes (text.toList.map Char.toNat)

end SpriteText.Text
