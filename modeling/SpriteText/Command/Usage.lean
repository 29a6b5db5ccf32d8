import SpriteText.Text.Quoted

/-!
# Options and their misuse

The options of the command line, their spellings, and what can be wrong with an argument list.
-/

namespace SpriteText.Command

/-- The options. -/
inductive Flag where
  /-- Asks for help. -/
  | help
  /-- Names the sprite of a sheet without headers. -/
  | name
  /-- Selects a sprite; may be repeated. -/
  | only
  /-- Puts the pixels of a last byte that is not filled into its high bits. -/
  | alignTail
  /-- Enlarges pictures. -/
  | scale
  /-- Shows the sprites as text. -/
  | preview
  /-- Shows the sprites and writes nothing. -/
  | previewOnly
deriving DecidableEq, Repr

namespace Flag

/-- All spellings of options, in the order in which they are listed. -/
def spellings : List (String × Flag) :=
  [("-h", help), ("--help", help), ("--name", name), ("-n", name), ("--only", only),
    ("--align-tail", alignTail), ("--scale", scale), ("-s", scale), ("--preview", preview),
    ("--preview-only", previewOnly)]

/-- The spellings of one option, in reports. -/
def label (flag : Flag) : String :=
  "/".intercalate ((spellings.filter fun entry => entry.2 = flag).map Prod.fst)

/-- Whether an option takes a value. -/
def takesValue : Flag → Bool
  | name | only | scale => true
  | help | alignTail | preview | previewOnly => false

end Flag

/-- What is wrong with an argument list. -/
inductive UsageFault where
  /-- A shortened option stands for several. -/
  | ambiguous (argument : String) (candidates : List String)
  /-- An option without a value is given one. -/
  | ignoredValue (flag : Flag) (value : String)
  /-- An option lacks its value. -/
  | missingValue (flag : Flag)
  /-- A value should be an integer. -/
  | notAnInteger (flag : Flag) (value : String)
  /-- There is no input. -/
  | missingInput
  /-- Arguments are left over. -/
  | unrecognized (arguments : List String)
  /-- There is neither an output nor a preview. -/
  | previewNeeded
  /-- The enlargement is not positive. -/
  | scaleTooSmall
deriving DecidableEq, Repr

/-- The wording of a usage fault. -/
def UsageFault.message : UsageFault → String
  | .ambiguous argument candidates =>
    let listed := ", ".intercalate candidates
    s!"ambiguous option: {argument} could match {listed}"
  | .ignoredValue flag value =>
    let label := flag.label
    let quoted := Text.quote value
    s!"argument {label}: ignored explicit argument {quoted}"
  | .missingValue flag =>
    let label := flag.label
    s!"argument {label}: expected one argument"
  | .notAnInteger flag value =>
    let label := flag.label
    let quoted := Text.quote value
    s!"argument {label}: invalid int value: {quoted}"
  | .missingInput => "the following arguments are required: input"
  | .unrecognized arguments => "unrecognized arguments: " ++ " ".intercalate arguments
  | .previewNeeded => "--preview is required when no output file is specified"
  | .scaleTooSmall => "--scale must be at least 1"

end SpriteText.Command
