import SpriteText.Text.Ranges

/-!
# Blank characters, words and lines

A character is blank when it is white space in Unicode or one of the four information separators.
Words are what blanks separate; lines are what line feeds separate.
-/

namespace SpriteText.Text

/-- The blank code points. -/
def blanks : List (Nat × Nat) :=
  [(0x9, 0xD), (0x1C, 0x20), (0x85, 0x85), (0xA0, 0xA0), (0x1680, 0x1680), (0x2000, 0x200A),
    (0x2028, 0x2029), (0x202F, 0x202F), (0x205F, 0x205F), (0x3000, 0x3000)]

/-- Whether a character is blank. -/
def isBlank (character : Char) : Bool := covers blanks character.toNat

/-- The pieces between the letters that a test picks out; there is always at least one. -/
def pieces {Letter : Type} (isBreak : Letter → Bool) (text : List Letter) : List (List Letter) :=
  text.foldr
    (fun letter rest =>
      if isBreak letter then [] :: rest
      else match rest with
        | [] => [[letter]]
        | piece :: others => (letter :: piece) :: others)
    [[]]

/-- The non-empty pieces between blanks. -/
def words (line : List Char) : List (List Char) :=
  (pieces isBlank line).filter fun piece => !piece.isEmpty

/-- The text without the blanks at both its ends. -/
def trim (line : List Char) : List Char :=
  ((line.dropWhile isBlank).reverse.dropWhile isBlank).reverse

/-- Lines end at a line feed; what follows the last one is a line only if it is not empty. -/
def lines (text : List Char) : List (List Char) :=
  let parts := pieces (fun character => character = '\n') text
  if parts.getLast? = some [] then parts.dropLast else parts

/-- The text with every carriage return, and the line feed right after it, as one line feed. -/
def plainNewlines (text : List Char) : List Char :=
  (text.foldr
    (fun character (rest : Bool × List Char) =>
      if character = '\r' then (false, if rest.1 then rest.2 else '\n' :: rest.2)
      else (character = '\n', character :: rest.2))
    (false, [])).2

end SpriteText.Text
