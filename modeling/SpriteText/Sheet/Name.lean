/-!
# Sprite names

A sprite is named by an identifier that is not reserved, so that constants can bear its name. One
line feed may follow the identifier.
-/

namespace SpriteText.Sheet

/-- Words that cannot name a constant. -/
def reserved : List String :=
  ["False", "None", "True", "and", "as", "assert", "async", "await", "break", "class", "continue",
    "def", "del", "elif", "else", "except", "finally", "for", "from", "global", "if", "import",
    "in", "is", "lambda", "nonlocal", "not", "or", "pass", "raise", "return", "try", "while",
    "with", "yield"]

/-- What an identifier starts with: a letter or an underscore. -/
def isNameStart (character : Char) : Bool := character.isAlpha || character = '_'

/-- What an identifier goes on with: a letter, a digit or an underscore. -/
def isNamePart (character : Char) : Bool := character.isAlphanum || character = '_'

/-- Whether characters after the first keep to an identifier, up to one line feed at the end. -/
def isNameRest : List Char → Bool
  | [] => true
  | ['\n'] => true
  | character :: rest => isNamePart character && isNameRest rest

/-- Whether characters spell an identifier, up to one line feed at the end. -/
def isIdentifier : List Char → Bool
  | [] => false
  | first :: rest => isNameStart first && isNameRest rest

/-- Whether a text can name a sprite. -/
def isSpriteName (name : String) : Bool :=
  isIdentifier name.toList && !reserved.contains name

end SpriteText.Sheet
