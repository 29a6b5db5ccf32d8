import SpriteText.Proofs.Constants.Lexing
import SpriteText.Proofs.NameTable

/-!
# Executing a module

The statements of a module are executed in order. They share one namespace: a definition reads the
names that it uses as they are bound when it is executed, and binds its own name. A name that is not
bound may be one that is known from the start, as the type of bytes is.
-/

namespace SpriteText.Constants

/-! ## Statements -/

/-- A feature of what a name is bound to, `owner.feature`. -/
structure Reference where
  /-- The name. -/
  owner : String
  /-- The feature. -/
  feature : String
deriving DecidableEq, Repr

/-- A definition, `name = maker(decoder('digits'), (width, height), depth, tail_aligned=…)`. -/
structure Definition where
  /-- The name that it binds. -/
  name : String
  /-- What is called with the parts of a sprite. -/
  maker : Reference
  /-- What is called with the digits. -/
  decoder : Reference
  /-- The digits of the data. -/
  digits : String
  /-- Pixels across. -/
  width : Nat
  /-- Pixels down. -/
  height : Nat
  /-- The depth. -/
  depth : Reference
  /-- Whether the tail is aligned, as it is if nothing is said. -/
  tailAligned : Bool
deriving DecidableEq, Repr

/-- A statement of a module. -/
inductive Statement where
  /-- A text by itself. -/
  | remark (content : String)
  /-- Names that another module gives. -/
  | imports (path names : List String)
  /-- The definition of a sprite. -/
  | define (made : Definition)
  /-- The definition of a list of texts. -/
  | list (name : String) (items : List String)
deriving DecidableEq, Repr

/-- Whether a name can be bound: it is no keyword, and not the one name that is no keyword and
cannot be bound. -/
def isBindable (name : String) : Bool := !Sheet.reserved.contains name && name ≠ "__debug__"

/-- Names with commas between them. -/
def names? : List Token → Option (List String)
  | [.word name] => some [name]
  | .word name :: .comma :: rest => (names? rest).map (name :: ·)
  | _ => none

/-- Texts with commas between them, up to the bracket that closes a list. -/
def items? : List Token → Option (List String)
  | [.closeSquare] => some []
  | [.text item, .closeSquare] => some [item]
  | .text item :: .comma :: rest => (items? rest).map (item :: ·)
  | _ => none

/-- How a definition ends, and whether the tail is aligned then. -/
def tailAligned? : List Token → Option Bool
  | [.closeRound] => some true
  | [.word option, .equals, .word value, .comma, .closeRound] =>
    if option ≠ "tail_aligned" then none
    else if value = "False" then some false
    else if value = "True" then some true
    else none
  | _ => none

/-- The statement that the tokens of a line spell. -/
def statement? : List Token → Option Statement
  | [.text content] => some (.remark content)
  | .word first :: .word package :: .dot :: .word part :: .word second :: names =>
    if first = "from" && second = "import" then (names? names).map (.imports [package, part])
    else none
  | .word name :: .equals :: .openSquare :: items =>
    if isBindable name then (items? items).map (.list name) else none
  | .word name :: .equals :: .word maker :: .dot :: .word making :: .openRound ::
      .word decoder :: .dot :: .word decoding :: .openRound :: .text digits :: .closeRound ::
      .comma :: .openRound :: .number width :: .comma :: .number height :: .closeRound ::
      .comma :: .word depths :: .dot :: .word depth :: .comma :: ending =>
    if isBindable name then
      (tailAligned? ending).map fun tailAligned => .define {
        name, maker := ⟨maker, making⟩, decoder := ⟨decoder, decoding⟩, digits, width, height
        depth := ⟨depths, depth⟩, tailAligned }
    else none
  | _ => none

/-- The statements that lines spell; an empty line spells none. -/
def statementsOf : List (List Token) → Option (List Statement)
  | [] => some []
  | line :: lines =>
    if line = [] then statementsOf lines
    else match statement? line, statementsOf lines with
      | some first, some others => some (first :: others)
      | _, _ => none

/-- The statements that tokens spell, line by line. -/
def statements? (tokens : List Token) : Option (List Statement) :=
  statementsOf (tokens.splitOnP fun token => token = .lineEnd)

/-! ## Values -/

/-- What a name is bound to. -/
inductive Value where
  /-- The type of bytes. -/
  | bytesType
  /-- The type of sprites. -/
  | spriteType
  /-- The table of depths. -/
  | depthTable
  /-- A sprite. -/
  | sprite (sprite : Sprite)
  /-- A list of texts. -/
  | names (names : List String)

/-- What a feature of a value does. -/
inductive Feature where
  /-- It makes a sprite of its parts. -/
  | make
  /-- It makes bytes of hexadecimal digits. -/
  | decode
  /-- It is a depth. -/
  | depth (depth : BitDepth)

/-- Why a module is not executed to its end. -/
inductive Failure where
  /-- The text is no module. -/
  | unreadable
  /-- A module or a name in it is not there. -/
  | noImport (path : List String) (name : String)
  /-- A name is not bound. -/
  | unbound (name : String)
  /-- What a name is bound to has no such feature. -/
  | noFeature (reference : Reference)
  /-- A feature is used for what it does not do. -/
  | misused (reference : Reference)
  /-- Digits are not hexadecimal, or there is an odd number of them. -/
  | noDigits (digits : String)
  /-- The parts do not make a sprite. -/
  | shape (fault : ShapeFault)
deriving DecidableEq, Repr

/-- The names that are bound so far. -/
abbrev Namespace := NameTable Value

/-- What a name is bound to, or known as. -/
def Namespace.value (names : Namespace) (name : String) : Except Failure Value :=
  match names.get? name with
  | some value => .ok value
  | none => if name = "bytes" then .ok .bytesType else .error (.unbound name)

/-- The features of values that a module uses. A sprite has that of its type. -/
def Value.feature? : Value → String → Option Feature
  | .spriteType, "from_byte_array" | .sprite _, "from_byte_array" => some .make
  | .bytesType, "fromhex" => some .decode
  | .depthTable, "ONE" => some (.depth .one)
  | .depthTable, "TWO" => some (.depth .two)
  | _, _ => none

/-- The feature that a reference stands for. -/
def Reference.feature? (reference : Reference) (names : Namespace) : Except Failure Feature :=
  match names.value reference.owner with
  | .error failure => .error failure
  | .ok value =>
    match value.feature? reference.feature with
    | some found => .ok found
    | none => .error (.noFeature reference)

/-- The value of a hexadecimal digit, of either case. -/
def hexValue? (digit : Char) : Option Nat :=
  if digit.isDigit then some (digit.toNat - 0x30)
  else if 'a' ≤ digit && digit ≤ 'f' then some (digit.toNat - 0x61 + 10)
  else if 'A' ≤ digit && digit ≤ 'F' then some (digit.toNat - 0x41 + 10)
  else none

/-- The bytes that hexadecimal digits spell, two for each. -/
def hexBytes? : List Char → Option (List UInt8)
  | [] => some []
  | [_] => none
  | high :: low :: rest =>
    match hexValue? high, hexValue? low, hexBytes? rest with
    | some upper, some lower, some bytes => some (UInt8.ofNat (16 * upper + lower) :: bytes)
    | _, _, _ => none

/-- A hexadecimal digit has the value that it was written for. -/
theorem hexValue?_hexDigit (letters : Text.LetterCase) {digit : Nat} (small : digit < 16) :
    hexValue? (Text.hexDigit letters digit) = some digit := by
  cases letters with
  | lower =>
    exact (by decide : ∀ digit < 16, hexValue? (Text.hexDigit .lower digit) = some digit) _ small
  | upper =>
    exact (by decide : ∀ digit < 16, hexValue? (Text.hexDigit .upper digit) = some digit) _ small

/-- The two digits of a byte are read as the byte. -/
theorem hexBytes?_hexDigits (letters : Text.LetterCase) (byte : UInt8) (rest : List Char) :
    hexBytes? (Text.hexDigits letters 2 byte.toNat ++ rest) =
      (hexBytes? rest).map (byte :: ·) := by
  have bound : byte.toNat < 256 := byte.toNat_lt
  have upper := hexValue?_hexDigit letters (Nat.mod_lt (byte.toNat / 16) (by decide))
  have lower := hexValue?_hexDigit letters (Nat.mod_lt byte.toNat (by decide))
  have whole : 16 * (byte.toNat / 16 % 16) + byte.toNat % 16 = byte.toNat := by omega
  have digits : Text.hexDigits letters 2 byte.toNat ++ rest =
      Text.hexDigit letters (byte.toNat / 16 % 16) ::
        Text.hexDigit letters (byte.toNat % 16) :: rest := rfl
  rw [digits, hexBytes?, upper, lower]
  cases hexBytes? rest with
  | none => rfl
  | some bytes => simp only [whole, UInt8.ofNat_toNat, Option.map_some]

/-- The digits of bytes are read as the bytes. -/
theorem hexBytes?_hexBytes (bytes : List UInt8) :
    hexBytes? (Text.hexBytes bytes).toList = some bytes := by
  rw [Text.hexBytes, String.toList_ofList]
  induction bytes with
  | nil => rfl
  | cons byte bytes ih => rw [List.flatMap_cons, hexBytes?_hexDigits, ih, Option.map_some]

/-- The sprite that a definition gives. Its references are read in the order in which they stand. -/
def Definition.sprite? (made : Definition) (names : Namespace) : Except Failure Sprite := do
  let maker ← made.maker.feature? names
  let decoder ← made.decoder.feature? names
  let data ←
    match decoder, hexBytes? made.digits.toList with
    | .decode, some bytes => .ok bytes
    | .decode, none => .error (.noDigits made.digits)
    | _, _ => .error (.misused made.decoder)
  let depth ← made.depth.feature? names
  match maker, depth with
  | .make, .depth depth =>
    match Sprite.ofBytes made.width made.height depth.bits data.toArray made.tailAligned with
    | .ok sprite => .ok sprite
    | .error fault => .error (.shape fault)
  | .make, _ => .error (.misused made.depth)
  | _, _ => .error (.misused made.maker)

/-! ## Execution -/

/-- What a name of the module of bitmaps stands for. -/
def exported? : String → Option Value
  | "BitsPerPixel" => some .depthTable
  | "Sprite" => some .spriteType
  | _ => none

/-- The namespace with imported names. -/
def Namespace.withImports (names : Namespace) (path : List String) :
    List String → Except Failure Namespace
  | [] => .ok names
  | name :: others =>
    match path, exported? name with
    | ["spritec", "bitmap"], some value =>
      Namespace.withImports (names.insert name value) path others
    | _, _ => .error (.noImport path name)

/-- The namespace after a statement. -/
def Statement.execute (names : Namespace) : Statement → Except Failure Namespace
  | .remark _ => .ok names
  | .imports path others => names.withImports path others
  | .define made =>
    match made.sprite? names with
    | .ok sprite => .ok (names.insert made.name (.sprite sprite))
    | .error failure => .error failure
  | .list name items => .ok (names.insert name (.names items))

/-- The namespace after statements in order, up to the first that fails. -/
def executeAll (names : Namespace) : List Statement → Except Failure Namespace
  | [] => .ok names
  | statement :: rest =>
    match statement.execute names with
    | .ok next => executeAll next rest
    | .error failure => .error failure

/-- The namespace of the module of a text. Nothing is executed of a text that is no module. -/
def execute (text : String) : Except Failure Namespace :=
  match (tokens? text).bind statements? with
  | some statements => executeAll .empty statements
  | none => .error .unreadable

end SpriteText.Constants
