import HostLink.Error

/-!
# Payloads

What a caller hands to a command.  A payload is data of the caller's own, richer than JSON: floats
may be not a number or infinite, integers may be of any size, and the keys of a map may be any data.
`Datum.toJson` gives its JSON form where there is one: floats that JSON cannot hold become null,
keys that are integers or truth values become their text, and all other keys are refused, floats
among them.

Next to the command only an object can travel; null counts as an object without members.
-/

namespace HostLink

/-- Data that a caller hands over. -/
inductive Datum where
  | json (value : Json)
  | absent
  | bool (value : Bool)
  | int (value : Int)
  | float (value : Double)
  /-- A float that is infinite or not a number. -/
  | nonFinite
  | text (value : String)
  | list (items : List Datum)
  | map (entries : List (Datum × Datum))

namespace Datum

/-- The member name that a key becomes: its text if it is a text, an integer or a truth value.  A
float is no key. -/
def keyText : Datum → Except PayloadError String
  | .text s => .ok s
  | .int z => .ok (String.ofList (Number.renderInt z))
  | .bool true => .ok "true"
  | .bool false => .ok "false"
  | _ => .error .keyNotText

mutual
/-- The JSON form of data. -/
def toJson : Datum → Except PayloadError Json
  | .json value => .ok value
  | .absent => .ok .null
  | .bool b => .ok (.bool b)
  | .int z =>
    match Number.ofInt? z with
    | some n => .ok (.num n)
    | none => .error .integerOutOfRange
  | .float x => .ok (.num (.float x))
  | .nonFinite => .ok .null
  | .text s => .ok (.str s)
  | .list items => do
    let items ← toJsonItems items
    .ok (.arr items)
  | .map entries => do
    let members ← toJsonMembers entries
    .ok (.obj (Fields.ofPairs members))

/-- The JSON forms of items. -/
def toJsonItems : List Datum → Except PayloadError (List Json)
  | [] => .ok []
  | item :: rest => do
    let item ← item.toJson
    let rest ← toJsonItems rest
    .ok (item :: rest)

/-- The JSON forms of the entries of a map, in the order given. -/
def toJsonMembers : List (Datum × Datum) → Except PayloadError (List (String × Json))
  | [] => .ok []
  | (key, value) :: rest => do
    let name ← key.keyText
    let value ← value.toJson
    let rest ← toJsonMembers rest
    .ok ((name, value) :: rest)
end

/-- The fields that travel next to the command. -/
def payloadFields (payload : Datum) : Except BridgeError (Fields Json) :=
  match payload.toJson with
  | .error e => .error (.serialization (.payload e))
  | .ok .null => .ok []
  | .ok (.obj members) => .ok members
  | .ok other => .error (.invalidArgument (.payloadNotObject other))

end Datum
end HostLink
