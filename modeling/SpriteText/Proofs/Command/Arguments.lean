import SpriteText.Command.Request
import SpriteText.Proofs.Command.Spellings

/-!
# What an argument list says

An argument list is read as items: options with their values, and plain arguments. The request that
is gathered from it says what the items say: the default name is the last one given, every selected
name counts, an option without a value is set where it stands anywhere, and the two arguments are
the input and the output.
-/

namespace SpriteText.Command

/-- One item of an argument list. -/
inductive Item where
  /-- An option that takes no value. -/
  | given (flag : Flag)
  /-- An option with its value, which may be empty. -/
  | value (flag : Flag) (value : Option String)
  /-- A plain argument. -/
  | argument (text : String)
deriving DecidableEq, Repr

/-- An attached value; two dashes stand for an empty one. -/
def attachedValue (value : String) : Option String := if value = "--" then none else some value

/-- Words are read as items. -/
inductive Reads : List Word → List Item → Prop
  /-- No word is left. -/
  | nil : Reads [] []
  /-- An option takes no value. -/
  | given {flag : Flag} {long : Bool} {words : List Word} {items : List Item}
    (takes_none : flag.takesValue = false) (rest : Reads words items) :
    Reads (.option flag long none :: words) (.given flag :: items)
  /-- The value of an option is attached to it. -/
  | attached {flag : Flag} {long : Bool} {value : String} {words : List Word}
    {items : List Item} (takes_value : flag.takesValue = true) (rest : Reads words items) :
    Reads (.option flag long (some value) :: words) (.value flag (attachedValue value) :: items)
  /-- The value of an option is the next argument. -/
  | separate {flag : Flag} {long : Bool} {value : String} {words : List Word}
    {items : List Item} (takes_value : flag.takesValue = true) (rest : Reads words items) :
    Reads (.option flag long none :: .plain value :: words) (.value flag (some value) :: items)
  /-- Any other argument stands for itself. -/
  | argument {text : String} {words : List Word} {items : List Item} (rest : Reads words items) :
    Reads (.plain text :: words) (.argument text :: items)
  /-- The end of the options says nothing. -/
  | terminator {words : List Word} {items : List Item} (rest : Reads words items) :
    Reads (.terminator :: words) items

/-- The values of an option in items, in order. -/
def valuesOf (flag : Flag) (items : List Item) : List (Option String) :=
  items.filterMap fun item =>
    match item with
    | .value other value => if other = flag then some value else none
    | _ => none

/-- The plain arguments among items, in order. -/
def argumentsOf (items : List Item) : List String :=
  items.filterMap fun item =>
    match item with
    | .argument text => some text
    | _ => none

/-- The output that an argument names; two dashes name none. -/
def outputOf (text : String) : Option String := if text = "--" then none else some text

/-- A request says what items say. -/
structure Request.Says (request : Request) (items : List Item) : Prop where
  /-- The default name is the last one given. -/
  name : request.name = (valuesOf .name items).getLast?.getD none
  /-- All the names given are selected. -/
  only : request.only = valuesOf .only items
  /-- Tails are aligned if that is asked for. -/
  alignTail : request.alignTail = true ↔ .given .alignTail ∈ items
  /-- Sprites are shown if that is asked for. -/
  preview : request.preview = true ↔ .given .preview ∈ items
  /-- Nothing is written if that is asked for, or if there is no output. -/
  previewOnly : request.previewOnly = true ↔ .given .previewOnly ∈ items ∨ request.output = none
  /-- The enlargement is the last one given, an integer, and one if there is none. -/
  scale : (valuesOf .scale items = [] ∧ request.scale = 1) ∨
    ∃ text, (valuesOf .scale items).getLast? = some (some text) ∧
      Text.integer? text = some request.scale
  /-- The enlargement is positive. -/
  positive : 1 ≤ request.scale
  /-- The arguments are the input and perhaps the output. -/
  arguments : ∃ input, request.input = .ofString input ∧
    (argumentsOf items = [input] ∧ request.output = none ∨
      ∃ output, argumentsOf items = [input, output] ∧
        request.output = (outputOf output).map .ofString)

/-- An argument list asks for a request: it is split into words, these are read as items, and the
request says what they say. -/
def Request.Asks (request : Request) (arguments : List String) : Prop :=
  ∃ words items, Splits arguments words ∧ Reads words items ∧ request.Says items

/-! ## What one word adds -/

namespace Gathered

variable {before next after : Gathered} {flag : Flag}

/-- What items add to what has been gathered: the last value of an option counts, for selected names
every value. -/
structure Adds (before after : Gathered) (items : List Item) : Prop where
  /-- The default name. -/
  name : after.name = (valuesOf .name items).getLast?.getD before.name
  /-- The selected names. -/
  only : after.only = before.only ++ valuesOf .only items
  /-- The layout of tails. -/
  alignTail : after.alignTail = true ↔ before.alignTail = true ∨ .given .alignTail ∈ items
  /-- The enlargement. -/
  scale : after.scale =
    ((valuesOf .scale items).getLast?.map (Option.bind · Text.integer?)).getD before.scale
  /-- Whether sprites are shown. -/
  preview : after.preview = true ↔ before.preview = true ∨ .given .preview ∈ items
  /-- Whether nothing is written. -/
  previewOnly : after.previewOnly = true ↔
    before.previewOnly = true ∨ .given .previewOnly ∈ items

/-- What no option touches stays. -/
structure KeepsPlain (before after : Gathered) : Prop where
  /-- The plain argument that is awaited. -/
  awaiting : after.awaiting = before.awaiting
  /-- The input. -/
  input : after.input = before.input
  /-- The output. -/
  output : after.output = before.output
  /-- The arguments left over. -/
  leftovers : after.leftovers = before.leftovers
  /-- A value that must come next. -/
  pending : after.pending = before.pending

/-- No items add nothing. -/
theorem Adds.refl (gathered : Gathered) : gathered.Adds gathered [] := by
  constructor <;> simp [valuesOf]

/-- Items add up in order. -/
theorem Adds.trans {items more : List Item} (first : before.Adds next items)
    (second : next.Adds after more) : before.Adds after (items ++ more) := by
  have values (flag : Flag) : valuesOf flag (items ++ more) =
      valuesOf flag items ++ valuesOf flag more := List.filterMap_append
  constructor
  case name =>
    rw [second.name, first.name, values, List.getLast?_append]
    cases (valuesOf .name more).getLast? <;> rfl
  case only => rw [second.only, first.only, values, List.append_assoc]
  case alignTail => rw [second.alignTail, first.alignTail, List.mem_append, or_assoc]
  case scale =>
    rw [second.scale, first.scale, values, List.getLast?_append]
    cases (valuesOf .scale more).getLast? <;> rfl
  case preview => rw [second.preview, first.preview, List.mem_append, or_assoc]
  case previewOnly => rw [second.previewOnly, first.previewOnly, List.mem_append, or_assoc]

/-- An option without a value is set. -/
theorem adds_of_set (accepted : before.set flag = .ok after) :
    before.Adds after [.given flag] ∧ before.KeepsPlain after := by
  cases flag <;> simp only [set, Except.ok.injEq, reduceCtorEq] at accepted <;> subst accepted <;>
    constructor <;> constructor <;> simp [valuesOf]

/-- A value is set. -/
theorem adds_of_setValue {value : String} (accepted : before.setValue flag value = .ok after) :
    before.Adds after [.value flag (some value)] ∧ before.KeepsPlain after := by
  cases flag
  case scale =>
    simp only [setValue] at accepted
    cases number : Text.integer? value with
    | none => simp [number] at accepted
    | some scale =>
      simp only [number, Except.ok.injEq] at accepted
      subst accepted
      constructor <;> constructor <;> simp [valuesOf, number]
  all_goals
    simp only [setValue, Except.ok.injEq, reduceCtorEq] at accepted
    try (subst accepted; constructor <;> constructor <;> simp [valuesOf])

/-- An empty value is set. -/
theorem adds_of_setEmpty (accepted : before.setEmpty flag = .ok after) :
    before.Adds after [.value flag none] ∧ before.KeepsPlain after := by
  cases flag <;> simp only [setEmpty, Except.ok.injEq, reduceCtorEq] at accepted <;>
    subst accepted <;> constructor <;> constructor <;> simp [valuesOf]

/-- An attached value is set, and two dashes set an empty one. -/
theorem adds_of_attached {value : String}
    (accepted : (if value = "--" then before.setEmpty flag else before.setValue flag value) =
      .ok after) :
    before.Adds after [.value flag (attachedValue value)] ∧ before.KeepsPlain after := by
  unfold attachedValue
  split at accepted
  · next dashes => rw [if_pos dashes]; exact adds_of_setEmpty accepted
  · next other => rw [if_neg other]; exact adds_of_setValue accepted

/-! ## Where arguments go -/

/-- Plain arguments are taken as the input and, right behind it, the output. -/
inductive Takes (before after : Gathered) : List String → Prop
  /-- There is no argument. -/
  | none (input : after.input = before.input) (output : after.output = before.output) :
    Takes before after []
  /-- The only argument is the output. -/
  | output {text : String} (awaited : before.awaiting = .output)
    (input : after.input = before.input) (output : after.output = outputOf text) :
    Takes before after [text]
  /-- The only argument is the input. -/
  | input {text : String} (awaited : before.awaiting = .input)
    (input : after.input = some text) (output : after.output = before.output) :
    Takes before after [text]
  /-- The arguments are the input and the output. -/
  | both {first second : String} (awaited : before.awaiting = .input)
    (input : after.input = some first) (output : after.output = outputOf second) :
    Takes before after [first, second]

/-- An option never brings an argument about that is not awaited. -/
structure Passes (before after : Gathered) : Prop where
  /-- The input stays. -/
  input : after.input = before.input
  /-- The output stays. -/
  output : after.output = before.output
  /-- An input is awaited only as before. -/
  awaits_input : after.awaiting = .input → before.awaiting = .input
  /-- An output is awaited only as before. -/
  awaits_output : after.awaiting = .output → before.awaiting = .output
  /-- What is left over stays. -/
  leftovers : after.leftovers = before.leftovers

/-- Arguments behind an option are taken as without it. -/
theorem Takes.behind {arguments : List String} (passes : before.Passes next)
    (takes : next.Takes after arguments) : before.Takes after arguments := by
  cases takes with
  | none input output =>
    exact .none (input.trans passes.input) (output.trans passes.output)
  | output awaited input output =>
    exact .output (passes.awaits_output awaited) (input.trans passes.input) output
  | input awaited input output =>
    exact .input (passes.awaits_input awaited) input (output.trans passes.output)
  | both awaited input output => exact .both (passes.awaits_input awaited) input output

/-- Behind the input, the only argument is the output. -/
theorem Takes.behind_input {text : String} {arguments : List String}
    (takes : { before with awaiting := .output, input := some text }.Takes after arguments)
    (awaited : before.awaiting = .input) : before.Takes after (text :: arguments) := by
  cases takes with
  | none input output => exact .input awaited input output
  | output _ input output => exact .both awaited input output
  | input other => cases other
  | both other => cases other

/-- Behind the output there is no argument. -/
theorem Takes.behind_output {text : String} {arguments : List String}
    (takes : { before with awaiting := .terminator, output := outputOf text }.Takes after arguments)
    (awaited : before.awaiting = .output) : before.Takes after (text :: arguments) := by
  cases takes with
  | none input output => exact .output awaited input output
  | output other => cases other
  | input other => cases other
  | both other => cases other

/-- The wait for an output ends with an option; nothing else changes. -/
theorem passes_passOption (gathered : Gathered) : gathered.Passes gathered.passOption := by
  unfold passOption
  split
  · exact ⟨rfl, rfl, id, id, rfl⟩
  · exact ⟨rfl, rfl, by simp, by simp, rfl⟩

/-- Nothing is added by the end of the wait for an output. -/
theorem adds_passOption (gathered : Gathered) : gathered.Adds gathered.passOption [] := by
  unfold passOption
  split <;> constructor <;> simp [valuesOf]

/-- A plain argument adds nothing to the options. -/
theorem adds_argument {text : String} {awaiting : Awaiting} {input output : Option String} :
    before.Adds { before with awaiting, input, output } [.argument text] := by
  constructor <;> simp [valuesOf]

/-- What keeps the plain arguments passes them. -/
theorem KeepsPlain.passes (keeps : before.KeepsPlain after) : before.Passes after :=
  ⟨keeps.input, keeps.output, fun awaited => keeps.awaiting ▸ awaited,
    fun awaited => keeps.awaiting ▸ awaited, keeps.leftovers⟩

/-- One passes behind another. -/
theorem Passes.trans (first : before.Passes next) (second : next.Passes after) :
    before.Passes after :=
  ⟨second.input.trans first.input, second.output.trans first.output,
    fun awaited => first.awaits_input (second.awaits_input awaited),
    fun awaited => first.awaits_output (second.awaits_output awaited),
    second.leftovers.trans first.leftovers⟩

/-! ## Words in order -/

/-- What is left over stays left over. -/
theorem leftovers_of_takePlain (gathered : Gathered) (word : Word) :
    gathered.leftovers <+: (gathered.takePlain word).leftovers := by
  unfold takePlain
  split <;> simp

/-- A plain argument that is not left over is the input or the output. -/
theorem takePlain_plain {text : String}
    (none_left : (before.takePlain (.plain text)).leftovers = []) :
    (before.awaiting = .input ∧
      before.takePlain (.plain text) = { before with awaiting := .output, input := some text }) ∨
    before.awaiting = .output ∧
      before.takePlain (.plain text) =
        { before with awaiting := .terminator, output := outputOf text } := by
  cases awaited : before.awaiting <;> simp_all [takePlain, outputOf, Word.leftover]

/-- The end of the options changes only what is awaited, unless it is left over. -/
theorem takePlain_terminator (none_left : (before.takePlain .terminator).leftovers = []) :
    before.Passes (before.takePlain .terminator) ∧
      before.Adds (before.takePlain .terminator) [] ∧
      (before.takePlain .terminator).pending = before.pending := by
  cases awaited : before.awaiting <;> simp only [takePlain, awaited, Word.leftover] at none_left ⊢
  case input | output => exact ⟨⟨rfl, rfl, id, id, rfl⟩, .refl _, trivial⟩
  case terminator =>
    exact ⟨⟨rfl, rfl, by simp, by simp, rfl⟩, by constructor <;> simp [valuesOf], trivial⟩
  case nothing => simp at none_left

/-- What an option with what is attached to it does: it is set, or its value must come next. -/
theorem takeOption_cases {long : Bool} {attached : Option String}
    (accepted : before.takeOption flag long attached = .ok after) :
    (flag.takesValue = false ∧ attached = none ∧
      before.Adds after [.given flag] ∧ before.KeepsPlain after) ∨
    (∃ value, flag.takesValue = true ∧ attached = some value ∧
      before.Adds after [.value flag (attachedValue value)] ∧ before.KeepsPlain after) ∨
    (flag.takesValue = true ∧ attached = none ∧
      after = { before with pending := some (.value flag) }) ∨
    ∃ later, after = { before with pending := some (.beforeHelp later) } := by
  unfold takeOption at accepted
  split at accepted
  case h_1 value takes_value =>
    exact .inr (.inl ⟨value, takes_value, rfl, adds_of_attached accepted⟩)
  case h_2 takes_value =>
    cases accepted
    exact .inr (.inr (.inl ⟨takes_value, rfl, rfl⟩))
  case h_3 takes_none => exact .inl ⟨takes_none, rfl, adds_of_set accepted⟩
  case h_4 value takes_none =>
    split at accepted
    · cases accepted
    · split at accepted
      · next later _ =>
        cases accepted
        exact .inr (.inr (.inr ⟨later, rfl⟩))
      · cases accepted

/-- What is left over stays left over with one more word. -/
theorem leftovers_of_take {word : Word} (taken : before.take word = .ok next) :
    before.leftovers <+: next.leftovers := by
  unfold take at taken
  split at taken
  case h_1 =>
    have keeps := (adds_of_setValue taken).2
    exact keeps.leftovers ▸ List.prefix_rfl
  case h_2 => cases taken
  case h_3 => cases taken
  case h_4 =>
    have passed := (passes_passOption before).leftovers
    have same : next.leftovers = before.passOption.leftovers := by
      rcases takeOption_cases taken with
        ⟨-, -, -, keeps⟩ | ⟨-, -, -, -, keeps⟩ | ⟨-, -, rfl⟩ | ⟨-, rfl⟩
      · exact keeps.leftovers
      · exact keeps.leftovers
      · rfl
      · rfl
    exact (same.trans passed) ▸ List.prefix_rfl
  case h_5 =>
    cases taken
    exact (passes_passOption before).leftovers ▸ List.prefix_append _ _
  case h_6 =>
    cases taken
    exact leftovers_of_takePlain before _

/-- What is left over stays left over with all words that follow. -/
theorem leftovers_of_takeAll {words : List Word} (taken : before.takeAll words = .ok after) :
    before.leftovers <+: after.leftovers := by
  induction words generalizing before with
  | nil =>
    cases taken
    exact List.prefix_refl _
  | cons word words ih =>
    simp only [takeAll] at taken
    split at taken
    · next middle step => exact (leftovers_of_take step).trans (ih taken)
    · cases taken

/-- Nothing is left over before the end if nothing is at the end. -/
theorem leftovers_eq_nil {words : List Word} (taken : before.takeAll words = .ok after)
    (none_left : after.leftovers = []) : before.leftovers = [] :=
  List.prefix_nil.mp (none_left ▸ leftovers_of_takeAll taken)

/-- After an option that awaits its value, the value is the next word. -/
theorem value_of_pending {words : List Word} (taken : before.takeAll words = .ok after)
    (awaits : before.pending = some (.value flag)) (settled : after.pending = none) :
    ∃ value rest, words = .plain value :: rest ∧
      ∃ next, { before with pending := none }.setValue flag value = .ok next ∧
        next.takeAll rest = .ok after := by
  cases words with
  | nil =>
    cases taken
    rw [awaits] at settled
    cases settled
  | cons word rest =>
    simp only [takeAll, take, awaits] at taken
    cases word with
    | plain value =>
      simp only at taken
      cases step : { before with pending := none }.setValue flag value with
      | error stop => simp [step] at taken
      | ok next =>
        rw [step] at taken
        exact ⟨value, rest, rfl, next, step, taken⟩
    | terminator | option | unknown => simp at taken

/-- Behind options that are run together with the one for help there is no request. -/
theorem not_beforeHelp {words : List Word} (taken : before.takeAll words = .ok after)
    (settled : after.pending = none) : before.pending ≠ some (.beforeHelp flag) := by
  intro awaits
  cases words with
  | nil =>
    cases taken
    rw [awaits] at settled
    cases settled
  | cons word rest => cases word <;> simp [takeAll, take, awaits] at taken

/-- What one word is read as where no value is awaited. -/
inductive FirstRead (before next : Gathered) (word : Word) : Prop
  /-- It is read by itself, as the items that it adds. -/
  | alone {read : List Item} (quiet : next.pending = none)
    (reads : ∀ {words items}, Reads words items → Reads (word :: words) (read ++ items))
    (adds : before.Adds next read)
    (takes : ∀ {after arguments}, next.Takes after arguments →
      before.Takes after (argumentsOf read ++ arguments)) : FirstRead before next word
  /-- It is an option whose value is the next word. -/
  | awaits {flag : Flag} {long : Bool} (same : word = .option flag long none)
    (takes_value : flag.takesValue = true)
    (awaited : next = { before.passOption with pending := some (.value flag) }) :
    FirstRead before next word
  /-- It is an option run together with the one for help. -/
  | beforeHelp {flag : Flag} (awaited : next.pending = some (.beforeHelp flag)) :
    FirstRead before next word

/-- An option is read by itself, or its value is the next word. -/
theorem firstRead_of_takeOption {long : Bool} {attached : Option String}
    (accepted : before.passOption.takeOption flag long attached = .ok next)
    (free : before.pending = none) : FirstRead before next (.option flag long attached) := by
  have passed := passes_passOption before
  have quiet : before.passOption.pending = none := by
    unfold passOption
    split <;> exact free
  rcases takeOption_cases accepted with ⟨takes_none, rfl, adds, keeps⟩ |
    ⟨value, takes_value, rfl, adds, keeps⟩ | ⟨takes_value, rfl, awaited⟩ | ⟨later, rfl⟩
  · exact .alone (keeps.pending.trans quiet) (.given takes_none)
      ((adds_passOption before).trans adds) (Takes.behind (passed.trans keeps.passes))
  · exact .alone (keeps.pending.trans quiet) (.attached takes_value)
      ((adds_passOption before).trans adds) (Takes.behind (passed.trans keeps.passes))
  · exact .awaits rfl takes_value awaited
  · exact .beforeHelp rfl

/-- A word that is not left over is read by itself, unless it is an option that awaits more. -/
theorem firstRead_of_take {word : Word} (step : before.take word = .ok next)
    (free : before.pending = none) (none_left : next.leftovers = []) :
    FirstRead before next word := by
  unfold take at step
  rw [free] at step
  cases word with
  | terminator =>
    cases step
    obtain ⟨passes, adds, still⟩ := takePlain_terminator none_left
    exact .alone (still.trans free) .terminator adds (Takes.behind passes)
  | unknown text =>
    cases step
    simp at none_left
  | plain text =>
    cases step
    rcases takePlain_plain none_left with ⟨awaited, placed⟩ | ⟨awaited, placed⟩
    · rw [placed]
      exact .alone free .argument adds_argument fun takes => takes.behind_input awaited
    · rw [placed]
      exact .alone free .argument adds_argument fun takes => takes.behind_output awaited
  | option flag long attached => exact firstRead_of_takeOption step free

/-- Words that are all taken are read as items, which say what is gathered. -/
theorem reads_of_takeAll {words : List Word} (taken : before.takeAll words = .ok after)
    (free : before.pending = none) (settled : after.pending = none)
    (none_left : after.leftovers = []) :
    ∃ items, Reads words items ∧ before.Adds after items ∧
      before.Takes after (argumentsOf items) := by
  -- an option and its value are two words, so the induction is on the number of words
  induction count : words.length using Nat.strongRecOn generalizing words before with
  | ind count ih =>
    cases words with
    | nil =>
      cases taken
      exact ⟨[], .nil, .refl _, .none rfl rfl⟩
    | cons word words =>
      rw [List.length_cons] at count
      simp only [takeAll] at taken
      split at taken
      case h_2 => cases taken
      case h_1 next step =>
        cases firstRead_of_take step free (leftovers_eq_nil taken none_left) with
        | @alone read quiet reads adds takes =>
          obtain ⟨items, others, more, rest⟩ := ih words.length (by omega) taken quiet rfl
          refine ⟨read ++ items, reads others, adds.trans more, ?_⟩
          rw [argumentsOf, List.filterMap_append]
          exact takes rest
        | awaits same takes_value awaited =>
          subst same awaited
          obtain ⟨value, rest, rfl, last, set, taken⟩ := value_of_pending taken rfl settled
          obtain ⟨adds, keeps⟩ := adds_of_setValue set
          rw [List.length_cons] at count
          obtain ⟨items, reads, more, takes⟩ :=
            ih rest.length (by omega) taken keeps.pending rfl
          have added : before.passOption.Adds last [.value _ (some value)] := ⟨adds.name,
            adds.only, adds.alignTail, adds.scale, adds.preview, adds.previewOnly⟩
          have passes : before.passOption.Passes last :=
            ⟨keeps.input, keeps.output, keeps.passes.awaits_input, keeps.passes.awaits_output,
              keeps.leftovers⟩
          exact ⟨_, .separate takes_value reads, (adds_passOption before).trans (added.trans more),
            takes.behind ((passes_passOption before).trans passes)⟩
        | beforeHelp awaited => exact absurd awaited (not_beforeHelp taken settled)

end Gathered

/-! ## The whole list -/

variable {arguments : List String} {request : Request}

/-- What a request is made of: nothing is missing or left over, and the enlargement is positive. -/
theorem request_eq_ok {gathered : Gathered} (accepted : gathered.request = .ok request) :
    gathered.pending = none ∧ gathered.leftovers = [] ∧
      ∃ input scale, gathered.input = some input ∧ gathered.scale = some scale ∧ 1 ≤ scale ∧
        request = {
          input := .ofString input
          output := gathered.output.map .ofString
          name := gathered.name
          only := gathered.only
          alignTail := gathered.alignTail
          scale
          preview := gathered.preview
          previewOnly := gathered.previewOnly || gathered.output.isNone } := by
  unfold Gathered.request at accepted
  split at accepted
  case h_1 => cases accepted
  case h_2 => cases accepted
  case h_3 input settled some_input =>
    split at accepted
    · cases accepted
    · next none_left =>
      split at accepted
      · cases accepted
      · split at accepted
        · cases accepted
        · next scale some_scale =>
          split at accepted
          · cases accepted
          · next positive =>
            exact ⟨settled, by simpa using none_left, input, scale, some_input, some_scale,
              by omega, (Except.ok.inj accepted).symm⟩

/-- What is gathered from an empty start makes a request that says what the items say. -/
theorem says_of_request {gathered : Gathered} {items : List Item}
    (adds : Gathered.Adds {} gathered items)
    (takes : Gathered.Takes {} gathered (argumentsOf items))
    (accepted : gathered.request = .ok request) : request.Says items := by
  obtain ⟨-, -, input, scale, some_input, some_scale, positive, rfl⟩ := request_eq_ok accepted
  constructor
  case name => exact adds.name
  case only => exact adds.only
  case alignTail => simpa using adds.alignTail
  case preview => simpa using adds.preview
  case previewOnly => simp [adds.previewOnly]
  case scale =>
    have given := adds.scale
    rw [some_scale] at given
    cases last : (valuesOf .scale items).getLast? with
    | none =>
      rw [last] at given
      exact .inl ⟨List.getLast?_eq_none_iff.mp last, Option.some.inj given⟩
    | some value =>
      rw [last] at given
      obtain ⟨text, rfl, number⟩ := Option.bind_eq_some_iff.mp given.symm
      exact .inr ⟨text, rfl, number⟩
  case positive => exact positive
  case arguments =>
    refine ⟨input, rfl, ?_⟩
    generalize argumentsOf items = listed at takes ⊢
    cases takes with
    | none same => simp [same] at some_input
    | output awaited => cases awaited
    | input _ first none =>
      cases some_input.symm.trans first
      exact .inl ⟨rfl, by simp [none]⟩
    | both _ first second =>
      cases some_input.symm.trans first
      exact .inr ⟨_, rfl, by simp [second]⟩

/-- The request of an argument list says what its options and arguments say. -/
theorem asks_of_ofArguments (accepted : Request.ofArguments arguments = .ok request) :
    request.Asks arguments := by
  unfold Request.ofArguments at accepted
  split at accepted
  · cases accepted
  · next words split_words =>
    split at accepted
    · cases accepted
    · next gathered taken =>
      obtain ⟨settled, none_left, -⟩ := request_eq_ok accepted
      obtain ⟨items, reads, adds, takes⟩ := Gathered.reads_of_takeAll taken rfl settled none_left
      exact ⟨words, items, splits_of_ofArguments split_words, reads,
        says_of_request adds takes accepted⟩

end SpriteText.Command
