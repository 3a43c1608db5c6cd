import HostLink.Config
import HostLink.Decode.Scalar

/-!
# Decoding wire formats and configurations

Both records are read from the members of an object in the order met.  Every member is optional and
falls back to its default, a member under an unknown name is ignored, and a known name may occur
only once.  A configuration keeps the wire format's members beside its own: its own members are
checked first, and what they leave is then read as a wire format.

Drafts hold the members read so far; the text readers of `HostLink.Decode.Text` fill the same
drafts.
-/

namespace HostLink

/-! ## Id formats -/

namespace IdFormat

/-- Null, or an empty object where `emptyObject` allows that too. -/
def readUnit (emptyObject : Bool) : Json → Except DataError Unit
  | .obj [] => if emptyObject then .ok () else .error (.invalidType .map .unit)
  | value => value.head.toUnit

/-- An id format: its name, or an object whose only member has that name and is null. -/
def ofJson (emptyObject : Bool) : Json → Except DataError IdFormat
  | .str name => Head.formatNamed name
  | .obj [(name, value)] => do
    let format ← Head.formatNamed name
    readUnit emptyObject value
    .ok format
  | .obj _ => .error .notOneMember
  | value => .error (.invalidType value.head .idFormat)

end IdFormat

/-! ## Wire formats -/

namespace WireFormat

/-- A member of a wire format. -/
inductive Key where
  | slot (place : Slot)
  | idFormat
deriving DecidableEq

namespace Key

/-- The name of the member. -/
def name : Key → String
  | .slot place => place.key
  | .idFormat => "id_format"

/-- The members in the order in which a list gives them. -/
def inOrder : List Key :=
  [.slot .command, .slot .correlation, .idFormat, .slot .data, .slot .error, .slot .event]

/-- The member of a name. -/
def ofName? (name : String) : Option Key := inOrder.find? fun key => key.name = name

end Key

/-- The members of a wire format read so far. -/
structure Draft where
  texts : List (Slot × String) := []
  idFormat : Option IdFormat := none

namespace Draft

/-- The field name read for a slot. -/
def text? (draft : Draft) (place : Slot) : Option String := draft.texts.lookup place

/-- Whether a member has been read. -/
def holds (draft : Draft) : Key → Bool
  | .slot place => (draft.text? place).isSome
  | .idFormat => draft.idFormat.isSome

/-- Note a field name. -/
def withText (draft : Draft) (slot : Slot) (name : String) : Draft :=
  { draft with texts := (slot, name) :: draft.texts }

/-- Note the id format. -/
def withFormat (draft : Draft) (format : IdFormat) : Draft := { draft with idFormat := some format }

/-- The wire format, with defaults for what was not read. -/
def finish (draft : Draft) : WireFormat :=
  let text (slot : Slot) := (draft.text? slot).getD (({} : WireFormat).field slot)
  { commandField := text .command
    correlationField := text .correlation
    idFormat := draft.idFormat.getD ({} : WireFormat).idFormat
    dataField := text .data
    errorField := text .error
    eventField := text .event }

/-- Read a member's value. -/
def addValue (emptyObject : Bool) (draft : Draft) (key : Key) (value : Json) :
    Except DataError Draft :=
  match key with
  | .slot place => value.head.toText.map (draft.withText place)
  | .idFormat => (IdFormat.ofJson emptyObject value).map draft.withFormat

/-- Read a member: one that was read before is refused, an unknown one is ignored. -/
def addMember (emptyObject : Bool) (draft : Draft) (member : String × Json) :
    Except DataError Draft :=
  match Key.ofName? member.1 with
  | none => .ok draft
  | some key =>
    if draft.holds key then .error (.duplicateField member.1)
    else draft.addValue emptyObject key member.2

/-- Read members in the order met. -/
def addMembers (emptyObject : Bool) (draft : Draft) (members : List (String × Json)) :
    Except DataError Draft :=
  members.foldlM (addMember emptyObject) draft

/-- Read the elements of a list as the members of the given keys, one each. -/
def addElements (draft : Draft) : List Key → List Json → Except DataError Draft
  | key :: keys, value :: values => do
    let draft ← draft.addValue false key value
    draft.addElements keys values
  | _, _ => .ok draft

end Draft

/-- A wire format from an object, or from a list of its members in order; the list may end early. -/
def ofJson : Json → Except DataError WireFormat
  | .obj members => (({} : Draft).addMembers false members).map Draft.finish
  | .arr items => do
    let draft ← ({} : Draft).addElements Key.inOrder items
    if items.length ≤ Key.inOrder.length then .ok draft.finish
    else .error (.tooLong items.length)
  | value => .error (.invalidType value.head .wireFormat)

end WireFormat

/-! ## Configurations -/

namespace Config

/-- A member of a configuration that is not one of its wire format. -/
inductive Key where
  | extension
  | activationCommand
  | requestTimeout
deriving DecidableEq

namespace Key

/-- The name of the member. -/
def name : Key → String
  | .extension => "extension"
  | .activationCommand => "activation_command"
  | .requestTimeout => "request_timeout_ms"

/-- The member of a name. -/
def ofName? (name : String) : Option Key :=
  [extension, activationCommand, requestTimeout].find? fun key => key.name = name

end Key

/-- The members of a configuration read so far; `others` are those under other names, in order. -/
structure Draft where
  extension : Option String := none
  activationCommand : Option String := none
  requestTimeoutMs : Option (Option UInt64) := none
  others : List (String × Json) := []

namespace Draft

/-- Whether a member has been read. -/
def holds (draft : Draft) : Key → Bool
  | .extension => draft.extension.isSome
  | .activationCommand => draft.activationCommand.isSome
  | .requestTimeout => draft.requestTimeoutMs.isSome

/-- Read a member's value, of which the head says all. -/
def addHead (draft : Draft) (key : Key) (head : Head) : Except DataError Draft :=
  match key with
  | .extension => head.toText.map fun name => { draft with extension := some name }
  | .activationCommand => head.toText.map fun name => { draft with activationCommand := some name }
  | .requestTimeout =>
    head.toOptionalUInt64.map fun ms => { draft with requestTimeoutMs := some ms }

/-- Keep a member under another name for the wire format. -/
def keep (draft : Draft) (member : String × Json) : Draft :=
  { draft with others := draft.others ++ [member] }

/-- Read a member: one that was read before is refused, one under another name is kept. -/
def addMember (draft : Draft) (member : String × Json) : Except DataError Draft :=
  match Key.ofName? member.1 with
  | none => .ok (draft.keep member)
  | some key =>
    if draft.holds key then .error (.duplicateField member.1)
    else draft.addHead key member.2.head

/-- The configuration, its wire format read from the kept members. -/
def finish (draft : Draft) : Except DataError Config := do
  let wire ← ({} : WireFormat.Draft).addMembers true draft.others
  .ok { extension := draft.extension.getD ({} : Config).extension
        wire := wire.finish
        activationCommand := draft.activationCommand.getD ({} : Config).activationCommand
        requestTimeoutMs := draft.requestTimeoutMs.getD ({} : Config).requestTimeoutMs }

end Draft

/-- A configuration from the members of an object. -/
def ofMembers (members : List (String × Json)) : Except DataError Config := do
  let draft ← members.foldlM Draft.addMember ({} : Draft)
  draft.finish

/-- A configuration from an object. -/
def ofJson : Json → Except DataError Config
  | .obj members => ofMembers members
  | value => .error (.invalidType value.head .config)

end Config
end HostLink
