import SpriteText.Command.Usage
import SpriteText.Text.Numeral

/-!
# Words of an argument list

Each argument is an option, a plain argument, or unknown. Long options may be shortened as long as
only one option starts so, and values may be attached after an equals sign, or right after a short
option. Two dashes alone end the options. An argument with a single dash, a negative number, or one
with a space is plain unless it spells an option.
-/

namespace SpriteText.Command

/-- One argument. -/
inductive Word where
  /-- The end of the options. -/
  | terminator
  /-- A plain argument. -/
  | plain (text : String)
  /-- An option, with the value attached to it. -/
  | option (flag : Flag) (long : Bool) (attached : Option String)
  /-- An option that there is not. -/
  | unknown (text : String)
deriving DecidableEq, Repr

namespace Word

/-- Whether a character is a decimal digit of any script. -/
def isDigit (character : Char) : Bool := (Text.decimalValue? character).isSome

/-- Whether characters after a minus sign spell a number: digits, with digits after a point. -/
def isDigits (characters : List Char) : Bool :=
  match characters.dropWhile isDigit with
  | [] => !characters.isEmpty
  | '.' :: fraction => !fraction.isEmpty && fraction.all isDigit
  | _ => false

/-- Whether an argument spells a negative number; one line feed may follow it. -/
def isNegativeNumber (argument : List Char) : Bool :=
  match argument with
  | '-' :: rest => isDigits rest || (rest.getLast? = some '\n' && isDigits rest.dropLast)
  | _ => false

/-- Whether a spelling starts with two dashes. -/
def isLong (spelling : String) : Bool := "--".toList.isPrefixOf spelling.toList

/-- The part of an argument before its first equals sign, and the value after it. -/
def cutEquals (argument : String) : String × Option String :=
  let isName (character : Char) : Bool := character ≠ '='
  match argument.toList.dropWhile isName with
  | _ :: value =>
    (String.ofList (argument.toList.takeWhile isName), some (String.ofList value))
  | [] => (argument, none)

/-- The options that an argument may stand for, with the value attached to it. -/
def candidates (argument : String) : List (String × Flag) × Option String :=
  if isLong argument then
    let (start, attached) := cutEquals argument
    (Flag.spellings.filter fun entry => start.toList.isPrefixOf entry.1.toList, attached)
  else
    let short := String.ofList (argument.toList.take 2)
    (Flag.spellings.filter fun entry => entry.1 = short,
      some (String.ofList (argument.toList.drop 2)))

/-- The word of an argument before the end of the options. -/
def ofArgument (argument : String) : Except UsageFault Word :=
  let (start, attached) := cutEquals argument
  if argument.toList.head? ≠ some '-' ∨ argument = "-" then .ok (.plain argument)
  else match Flag.spellings.lookup argument, Flag.spellings.lookup start with
    | some flag, _ => .ok (.option flag (isLong argument) none)
    | none, some flag => .ok (.option flag (isLong start) attached)
    | none, none =>
      match candidates argument with
      | ([entry], value) => .ok (.option entry.2 (isLong entry.1) value)
      | (_ :: _ :: _, _) =>
        .error (.ambiguous argument ((candidates argument).1.map Prod.fst))
      | ([], _) =>
        if isNegativeNumber argument.toList || argument.contains ' ' then .ok (.plain argument)
        else .ok (.unknown argument)

/-- The words of an argument list; after the end of the options all are plain. -/
def ofArguments : List String → Except UsageFault (List Word)
  | [] => .ok []
  | argument :: rest =>
    if argument = "--" then .ok (.terminator :: rest.map .plain)
    else match ofArgument argument with
      | .error fault => .error fault
      | .ok word =>
        match ofArguments rest with
        | .error fault => .error fault
        | .ok words => .ok (word :: words)

/-- The argument that a word was read from, for words that can be left over. -/
def leftover : Word → List String
  | .terminator => ["--"]
  | .plain text | .unknown text => [text]
  | .option _ _ _ => []

end Word

end SpriteText.Command
