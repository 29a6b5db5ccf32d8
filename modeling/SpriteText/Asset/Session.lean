import SpriteText.Asset.Reader

/-!
# Sessions on an open asset

A session keeps the file of an asset open. Its calls share one position in the file: loading a
sprite moves the position to the sprite's data and reads from there, also if the load then fails.
-/

namespace SpriteText.Asset

/-- An open file and the position where reading goes on. -/
structure Handle where
  /-- The bytes of the file. -/
  bytes : List UInt8
  /-- The position of the byte that is read next. -/
  position : Nat := 0
  /-- Whether the file has been closed. -/
  closed : Bool := false

namespace Handle

/-- Moves to a position, which may lie past the end. -/
def seek (handle : Handle) (position : Nat) : Except AssetFault Handle :=
  if handle.closed then .error .closed else .ok { handle with position }

/-- Reads so many bytes, or those that are left, and moves behind them. -/
def read (handle : Handle) (count : Nat) : List UInt8 × Handle :=
  let found := field handle.bytes handle.position count
  (found, { handle with position := handle.position + found.length })

end Handle

/-- Why a sprite cannot be loaded. -/
inductive LoadFault where
  /-- The asset cannot be read. -/
  | asset (fault : AssetFault)
  /-- The bytes that were read are no sprite of the shape. -/
  | shape (fault : ShapeFault)
deriving DecidableEq, Repr

/-- The wording of a load fault. -/
def LoadFault.message : LoadFault → String
  | .asset fault => fault.message
  | .shape fault => fault.message

/-- An asset whose index has been read. -/
structure Session where
  /-- The open file. -/
  handle : Handle
  /-- The number of entries that the header tells. -/
  count : Nat
  /-- The entries by name. -/
  index : NameTable Entry

namespace Session

/-- Opens an asset. -/
def open? (file : List UInt8) : Except AssetFault Session :=
  let (head, handle) := Handle.read { bytes := file } headerSize
  if head.length ≠ headerSize ∨ head.take 2 ≠ mark then .error .notAnAsset
  else if head.getD 2 0 ≠ version then .error (.version (head.getD 2 0))
  else
    let count := LittleEndian.read (field head 4 2)
    let (indexed, handle) := handle.read (count * entrySize)
    if indexed.length ≠ count * entrySize then .error .truncatedIndex
    else match readIndex .empty count indexed with
      | .error fault => .error fault
      | .ok index => .ok { handle, count, index }

/-- Where the data section starts. -/
def dataStart (session : Session) : Nat := headerSize + session.count * entrySize

/-- Loads the sprite of an entry. -/
def load (session : Session) (name : String) (entry : Entry) :
    Except LoadFault Sprite × Session :=
  match session.handle.seek (session.dataStart + entry.offset) with
  | .error fault => (.error (.asset fault), session)
  | .ok handle =>
    let (data, handle) := handle.read entry.byteCount
    let session := { session with handle }
    if data.length ≠ entry.byteCount then (.error (.asset (.truncatedData name)), session)
    else
      match Sprite.ofBytes entry.width entry.height entry.depth.bits data.toArray
          entry.tailAligned with
      | .ok sprite => (.ok sprite, session)
      | .error fault => (.error (.shape fault), session)

/-- The sprite of a name, if the index has it. -/
def get? (session : Session) (name : String) : Except LoadFault (Option Sprite) × Session :=
  match session.index.get? name with
  | none => (.ok none, session)
  | some entry =>
    match session.load name entry with
    | (.ok sprite, session) => (.ok (some sprite), session)
    | (.error fault, session) => (.error fault, session)

/-- Loads sprites in order into a set. -/
def loadInto (session : Session) (set : SpriteSet) :
    List (String × Entry) → Except LoadFault SpriteSet × Session
  | [] => (.ok set, session)
  | (name, entry) :: rest =>
    match session.load name entry with
    | (.ok sprite, session) => session.loadInto (set.insert name sprite) rest
    | (.error fault, session) => (.error fault, session)

/-- All sprites in order. -/
def loadAll (session : Session) : Except LoadFault SpriteSet × Session :=
  session.loadInto .empty session.index.entries

/-- The session with its file closed. -/
def close (session : Session) : Session :=
  { session with handle := { session.handle with closed := true } }

/-- What a session can be asked. -/
inductive Call where
  /-- The names in order. -/
  | names
  /-- Whether a name is in the index. -/
  | contains (name : String)
  /-- The sprite of a name. -/
  | get (name : String)
  /-- All sprites. -/
  | loadAll
deriving DecidableEq, Repr

/-- What a session answers. -/
inductive Answer where
  /-- The names in order. -/
  | names (names : List String)
  /-- Whether a name is in the index. -/
  | held (held : Bool)
  /-- The sprite of a name, if the index has it. -/
  | sprite (found : Option Sprite)
  /-- All sprites. -/
  | sprites (set : SpriteSet)
  /-- The call fails. -/
  | refused (fault : LoadFault)

/-- Answers a call. -/
def call (session : Session) : Call → Answer × Session
  | .names => (.names session.index.names, session)
  | .contains name => (.held (session.index.contains name), session)
  | .get name =>
    match session.get? name with
    | (.ok found, session) => (.sprite found, session)
    | (.error fault, session) => (.refused fault, session)
  | .loadAll =>
    match session.loadAll with
    | (.ok set, session) => (.sprites set, session)
    | (.error fault, session) => (.refused fault, session)

/-- The session after calls in order. -/
def after (session : Session) (calls : List Call) : Session :=
  calls.foldl (fun session call => (session.call call).2) session

end Session

end SpriteText.Asset
