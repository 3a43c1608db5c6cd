import HostLink.Decode.Record
import HostLink.Json.Parser

/-!
# Decoding from text

Typed decoding reads a text from left to right and stops at the first thing wrong, be it in the
grammar or in the shape: a value of the wrong kind is refused at its head, and what follows is not
looked at.  Members under unknown names are passed over without being read for their value, except
in a configuration, which reads them for its wire format.
-/

namespace HostLink
namespace Decode

/-- A reader whose value may also have the wrong shape. -/
abbrev TypedReader (α : Type) := List Char → Except DecodeError (α × List Char)

/-- A reader of JSON words as one that decodes. -/
def lift {α : Type} (reader : Json.Reader α) : TypedReader α := fun cs =>
  match reader cs with
  | .ok answer => .ok answer
  | .error e => .error (.text e)

/-- The outcome of a check on shapes, in front of the rest of the text. -/
def checked {α : Type} (answer : Except DataError α) : TypedReader α := fun rest =>
  match answer with
  | .ok value => .ok (value, rest)
  | .error e => .error (.shape e)

/-! ## Heads -/

/-- The head of the next value: a scalar is read to its end, of an array or an object only the
opening bracket is looked at. -/
def readHead : TypedReader Head := fun cs =>
  match Json.skipBlank cs with
  | [] => .error (.text .ended)
  | c :: rest =>
    if c = 'n' then lift (Json.readWord .null ['u', 'l', 'l']) rest
    else if c = 't' then lift (Json.readWord (.bool true) ['r', 'u', 'e']) rest
    else if c = 'f' then lift (Json.readWord (.bool false) ['a', 'l', 's', 'e']) rest
    else if c = '"' then do
      let (text, rest) ← lift Json.Lexicon.strict.text rest
      .ok (.str text, rest)
    else if c = '-' ∨ c.isDigit then do
      let (number, rest) ← lift Json.Lexicon.strict.number (c :: rest)
      .ok (.num number, rest)
    else if c = '[' then .ok (.list, c :: rest)
    else if c = '\x7b' then .ok (.map, c :: rest)
    else .error (.text .malformed)

/-- A scalar, decided by its head. -/
def readScalar {α : Type} (decode : Head → Except DataError α) : TypedReader α := fun cs => do
  let (head, rest) ← readHead cs
  checked (decode head) rest

/-! ## Members -/

/-- The members of an object, at least one, up to and with the closing brace.  `member` reads from
behind a name, so from before the colon. -/
def readMembers {σ : Type} (member : σ → String → TypedReader σ) :
    (fuel : Nat) → σ → TypedReader σ
  | 0, _, _ => .error (.text .malformed)
  | fuel + 1, state, cs => do
    let ((), rest) ← lift (Json.readMark '"') cs
    let (name, rest) ← lift Json.Lexicon.strict.text rest
    let (state, rest) ← member state name rest
    match Json.skipBlank rest with
    | [] => .error (.text .ended)
    | c :: rest =>
      if c = ',' then readMembers member fuel state rest
      else if c = '\x7d' then .ok (state, rest)
      else .error (.text .malformed)

/-- The members of an object from behind its opening brace. -/
def readObject {σ : Type} (member : σ → String → TypedReader σ) (state : σ) : TypedReader σ :=
  fun cs =>
    match Json.skipBlank cs with
    | '\x7d' :: rest => .ok (state, rest)
    | rest => readMembers member (Json.fuelFor rest) state rest

/-! ## Id formats -/

/-- An id format: its name, or an object whose only member has that name and is null.  The name of a
member is a string by the grammar, so anything else in its place is malformed. -/
def readIdFormat : TypedReader IdFormat := fun cs =>
  match Json.skipBlank cs with
  | [] => .error (.text .ended)
  | c :: rest =>
    if c = '"' then do
      let (name, rest) ← lift Json.Lexicon.strict.text rest
      checked (Head.formatNamed name) rest
    else if c = '\x7b' then do
      let ((), rest) ← lift (Json.readMark '"') rest
      let (name, rest) ← lift Json.Lexicon.strict.text rest
      let (format, rest) ← checked (Head.formatNamed name) rest
      let ((), rest) ← lift (Json.readMark ':') rest
      let ((), rest) ← readScalar Head.toUnit rest
      let ((), rest) ← lift (Json.readMark '\x7d') rest
      .ok (format, rest)
    else .error (.text .malformed)

/-! ## Wire formats -/

/-- The value of a wire format's member. -/
def readWireValue (draft : WireFormat.Draft) : WireFormat.Key → TypedReader WireFormat.Draft
  | .slot place => fun cs => do
    let (name, rest) ← readScalar Head.toText cs
    .ok (draft.withText place name, rest)
  | .idFormat => fun cs => do
    let (format, rest) ← readIdFormat cs
    .ok (draft.withFormat format, rest)

/-- A member of a wire format from behind its name. -/
def readWireMember (draft : WireFormat.Draft) (name : String) : TypedReader WireFormat.Draft :=
  fun cs =>
    match WireFormat.Key.ofName? name with
    | none => do
      let ((), rest) ← lift (Json.readMark ':') cs
      let ((), rest) ← lift Json.skipValue rest
      .ok (draft, rest)
    | some key =>
      if draft.holds key then .error (.shape (.duplicateField name))
      else do
        let ((), rest) ← lift (Json.readMark ':') cs
        readWireValue draft key rest

/-- The elements of a list as the members of the given keys, up to and with the closing bracket;
`first` says that no element stands in front. -/
def readWireElements (first : Bool) (draft : WireFormat.Draft) :
    List WireFormat.Key → TypedReader WireFormat.Draft
  | [], cs => do
    let ((), rest) ← lift (Json.readMark ']') cs
    .ok (draft, rest)
  | key :: keys, cs =>
    match Json.skipBlank cs with
    | [] => .error (.text .ended)
    | c :: rest =>
      if c = ']' then .ok (draft, rest)
      else if first then do
        let (draft, rest) ← readWireValue draft key (c :: rest)
        readWireElements false draft keys rest
      else if c = ',' then
        match Json.skipBlank rest with
        | ']' :: _ => .error (.text .malformed)
        | rest => do
          let (draft, rest) ← readWireValue draft key rest
          readWireElements false draft keys rest
      else .error (.text .malformed)

/-- A wire format from an object, or from a list of its members in order. -/
def readWireFormat : TypedReader WireFormat := fun cs => do
  let (head, rest) ← readHead cs
  match head with
  | .map => do
    let (draft, rest) ← readObject readWireMember {} (rest.drop 1)
    .ok (draft.finish, rest)
  | .list => do
    let (draft, rest) ← readWireElements true {} WireFormat.Key.inOrder (rest.drop 1)
    .ok (draft.finish, rest)
  | found => .error (.shape (.invalidType found .wireFormat))

/-! ## Configurations -/

/-- A member of a configuration from behind its name. -/
def readConfigMember (draft : Config.Draft) (name : String) : TypedReader Config.Draft := fun cs =>
  match Config.Key.ofName? name with
  | none => do
    let ((), rest) ← lift (Json.readMark ':') cs
    let (value, rest) ← lift (Json.readTree (Json.maxDepth - 1)) rest
    .ok (draft.keep (name, value), rest)
  | some key =>
    if draft.holds key then .error (.shape (.duplicateField name))
    else do
      let ((), rest) ← lift (Json.readMark ':') cs
      readScalar (draft.addHead key) rest

/-- A configuration from an object. -/
def readConfig : TypedReader Config := fun cs => do
  let (head, rest) ← readHead cs
  match head with
  | .map => do
    let (draft, rest) ← readObject readConfigMember {} (rest.drop 1)
    checked draft.finish rest
  | found => .error (.shape (.invalidType found .config))

/-! ## Whole texts -/

/-- The value of a whole text. -/
def ofText {α : Type} (reader : TypedReader α) (text : String) : Except DecodeError α := do
  let (value, rest) ← reader text.toList
  match Json.readEnd rest with
  | .ok () => .ok value
  | .error e => .error (.text e)

end Decode

/-- A correlation id from a text. -/
def CorrelationId.ofJsonText (text : String) : Except DecodeError CorrelationId :=
  Decode.ofText (Decode.readScalar Head.toCorrelationId) text

/-- An id format from a text. -/
def IdFormat.ofJsonText (text : String) : Except DecodeError IdFormat :=
  Decode.ofText Decode.readIdFormat text

/-- A wire format from a text. -/
def WireFormat.ofJsonText (text : String) : Except DecodeError WireFormat :=
  Decode.ofText Decode.readWireFormat text

/-- A configuration from a text. -/
def Config.ofJsonText (text : String) : Except DecodeError Config :=
  Decode.ofText Decode.readConfig text

end HostLink
