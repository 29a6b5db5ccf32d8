import SpriteText.Command.Word
import SpriteText.Files.Path

/-!
# Requests

An argument list asks for one run: an input, perhaps an output, and options. The output is the
argument right after the input, so an option between them takes its place away. Options act in the
order in which they stand, and the first mistake is reported. Two dashes attached to an option stand
for an empty value, which is no mistake until it is used.
-/

namespace SpriteText.Command

/-- One run as asked for. -/
structure Request where
  /-- The sheet to read. -/
  input : Files.Path
  /-- The file to write, if any. -/
  output : Option Files.Path
  /-- The name of the sprite of a sheet without headers. -/
  name : Option String
  /-- The names of the selected sprites, some of them perhaps empty; no entry selects all. -/
  only : List (Option String)
  /-- Whether the pixels of a last byte that is not filled go into its high bits. -/
  alignTail : Bool
  /-- How much pictures are enlarged. -/
  scale : Int
  /-- Whether the sprites are shown as text. -/
  preview : Bool
  /-- Whether nothing is written. -/
  previewOnly : Bool
deriving DecidableEq, Repr

/-- Why there is no run. -/
inductive Stop where
  /-- Help is asked for. -/
  | help
  /-- The arguments are misused. -/
  | usage (fault : UsageFault)
  /-- An empty value is given for the enlargement. -/
  | emptyScale
deriving DecidableEq, Repr

/-- Which plain argument is awaited. -/
inductive Awaiting where
  /-- The input. -/
  | input
  /-- The output, right after the input. -/
  | output
  /-- None; the end of the options may stand right after the output. -/
  | terminator
  /-- None. -/
  | nothing
deriving DecidableEq, Repr

/-- A value that must come next. -/
inductive Pending where
  /-- The value of an option. -/
  | value (flag : Flag)
  /-- The value of an option that is run together with the one for help. -/
  | beforeHelp (flag : Flag)
deriving DecidableEq, Repr

/-- The option whose value must come next. -/
def Pending.flag : Pending → Flag
  | .value flag | .beforeHelp flag => flag

/-- What has been gathered from an argument list. -/
structure Gathered where
  /-- The plain argument awaited. -/
  awaiting : Awaiting := .input
  /-- The value that must come next, if any. -/
  pending : Option Pending := none
  /-- The input. -/
  input : Option String := none
  /-- The output. -/
  output : Option String := none
  /-- The default name. -/
  name : Option String := none
  /-- The selected names; an empty value is no name. -/
  only : List (Option String) := []
  /-- Whether tails are aligned. -/
  alignTail : Bool := false
  /-- The enlargement; an empty value is no number. -/
  scale : Option Int := some 1
  /-- Whether sprites are shown. -/
  preview : Bool := false
  /-- Whether nothing is written. -/
  previewOnly : Bool := false
  /-- The arguments left over. -/
  leftovers : List String := []
deriving DecidableEq, Repr

namespace Gathered

/-- An option ends the wait for the output. -/
def passOption (gathered : Gathered) : Gathered :=
  if gathered.awaiting = .input then gathered else { gathered with awaiting := .nothing }

/-- A plain argument or the end of the options. The output cannot be two dashes. -/
def takePlain (gathered : Gathered) (word : Word) : Gathered :=
  let leave (next : Awaiting) : Gathered :=
    { gathered with awaiting := next, leftovers := gathered.leftovers ++ word.leftover }
  match gathered.awaiting, word with
  | .input, .plain text => { gathered with awaiting := .output, input := some text }
  | .output, .plain text =>
    { gathered with awaiting := .terminator, output := if text = "--" then none else some text }
  | .input, .terminator | .output, .terminator => gathered
  | .terminator, .terminator => { gathered with awaiting := .nothing }
  | .terminator, _ => leave .nothing
  | other, _ => leave other

/-- An option that takes no value. -/
def set (gathered : Gathered) : Flag → Except Stop Gathered
  | .help => .error .help
  | .alignTail => .ok { gathered with alignTail := true }
  | .preview => .ok { gathered with preview := true }
  | .previewOnly => .ok { gathered with previewOnly := true }
  | flag => .error (.usage (.missingValue flag))

/-- An option with its value. -/
def setValue (gathered : Gathered) (flag : Flag) (value : String) : Except Stop Gathered :=
  match flag with
  | .name => .ok { gathered with name := some value }
  | .only => .ok { gathered with only := gathered.only ++ [some value] }
  | .scale =>
    match Text.integer? value with
    | some scale => .ok { gathered with scale := some scale }
    | none => .error (.usage (.notAnInteger flag value))
  | _ => .error (.usage (.ignoredValue flag value))

/-- An option with an empty value. -/
def setEmpty (gathered : Gathered) (flag : Flag) : Except Stop Gathered :=
  match flag with
  | .name => .ok { gathered with name := none }
  | .only => .ok { gathered with only := gathered.only ++ [none] }
  | .scale => .ok { gathered with scale := none }
  | _ => .error (.usage (.ignoredValue flag "--"))

/-- Short options run together after the one for help: each letter is an option, up to one that
takes the rest as its value. Help is given unless a letter is no option; an option that still lacks
its value is handed out. -/
def helpCluster : List Char → Except Stop Flag
  | [] => .error (.usage (.ignoredValue .help ""))
  | letter :: rest =>
    match Flag.spellings.lookup (String.ofList ['-', letter]), rest with
    | none, _ => .error (.usage (.ignoredValue .help (String.ofList (letter :: rest))))
    | some flag, [] => if flag.takesValue then .ok flag else .error .help
    | some flag, _ :: _ => if flag.takesValue then .error .help else helpCluster rest

/-- An option with what is attached to it. Of the short options only the one for help takes no
value, and others may be run together with it. -/
def takeOption (gathered : Gathered) (flag : Flag) (long : Bool) (attached : Option String) :
    Except Stop Gathered :=
  match flag.takesValue, attached with
  | true, some value =>
    if value = "--" then gathered.setEmpty flag else gathered.setValue flag value
  | true, none => .ok { gathered with pending := some (.value flag) }
  | false, none => gathered.set flag
  | false, some value =>
    if long then .error (.usage (.ignoredValue flag value))
    else match helpCluster value.toList with
      | .ok later => .ok { gathered with pending := some (.beforeHelp later) }
      | .error stop => .error stop

/-- One more word. -/
def take (gathered : Gathered) (word : Word) : Except Stop Gathered :=
  match gathered.pending, word with
  | some (.value flag), .plain value => { gathered with pending := none }.setValue flag value
  | some (.beforeHelp _), .plain _ => .error .help
  | some pending, _ => .error (.usage (.missingValue pending.flag))
  | none, .option flag long attached => gathered.passOption.takeOption flag long attached
  | none, .unknown text =>
    let passed := gathered.passOption
    .ok { passed with leftovers := passed.leftovers ++ [text] }
  | none, word => .ok (gathered.takePlain word)

/-- Words in order, up to the first mistake. -/
def takeAll (gathered : Gathered) : List Word → Except Stop Gathered
  | [] => .ok gathered
  | word :: rest =>
    match gathered.take word with
    | .ok next => next.takeAll rest
    | .error stop => .error stop

/-- The request gathered, if nothing is missing and nothing is left over. -/
def request (gathered : Gathered) : Except Stop Request :=
  match gathered.pending, gathered.input with
  | some pending, _ => .error (.usage (.missingValue pending.flag))
  | none, none => .error (.usage .missingInput)
  | none, some input =>
    if !gathered.leftovers.isEmpty then .error (.usage (.unrecognized gathered.leftovers))
    else if gathered.output.isNone && !gathered.preview then .error (.usage .previewNeeded)
    else match gathered.scale with
      | none => .error .emptyScale
      | some scale =>
        if scale < 1 then .error (.usage .scaleTooSmall)
        else .ok {
          input := .ofString input
          output := gathered.output.map .ofString
          name := gathered.name
          only := gathered.only
          alignTail := gathered.alignTail
          scale
          preview := gathered.preview
          previewOnly := gathered.previewOnly || gathered.output.isNone }

end Gathered

/-- The request of an argument list. -/
def Request.ofArguments (arguments : List String) : Except Stop Request :=
  match Word.ofArguments arguments with
  | .error fault => .error (.usage fault)
  | .ok words =>
    match Gathered.takeAll {} words with
    | .error stop => .error stop
    | .ok gathered => gathered.request

end SpriteText.Command
