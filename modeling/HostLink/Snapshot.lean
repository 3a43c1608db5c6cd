import HostLink.Error

/-!
# Frozen payloads

Replies and events reach their consumers as read-only copies.  Of an object payload the top-level
fields are frozen, and a field that holds a non-empty array of objects is kept as records, whose
fields are frozen in turn; everything deeper is a plain value.

`Snapshot.toJson` gives the payload back; nothing is lost on the way, and every attempt to set a
field fails without effect.
-/

namespace HostLink

/-- A frozen object inside an array of objects. -/
structure Record where
  fields : Fields Json

/-- A frozen top-level field. -/
inductive Field where
  | value (plain : Json)
  | records (rows : List Record)

/-- A frozen payload: an object field by field, or any other value as it is. -/
inductive Snapshot where
  | object (fields : Fields Field)
  | other (value : Json)

namespace Record

/-- The record of an object. -/
def freeze? : Json → Option Record
  | .obj members => some ⟨members⟩
  | _ => none

/-- The object of a record. -/
def toJson (record : Record) : Json := .obj record.fields

/-- The value of a field. -/
def get? (record : Record) (name : String) : Option Json := Fields.lookup name record.fields

/-- The names of the fields, in order. -/
def names (record : Record) : List String := Fields.names record.fields

/-- The number of fields. -/
def size (record : Record) : Nat := record.fields.length

/-- Setting a field fails and leaves the record as it is. -/
def set (record : Record) (name : String) (_value : Json) : Except BridgeError Unit × Record :=
  (.error (.readOnly name), record)

/-- Equality of records. -/
def same (a b : Record) : Bool := Json.sameMembers a.fields b.fields

end Record

namespace Field

/-- A field's value, kept as records if it is a non-empty array of objects. -/
def freeze : Json → Field
  | .arr items =>
    if !items.isEmpty && items.all Json.isObject then .records (items.filterMap Record.freeze?)
    else .value (.arr items)
  | plain => .value plain

/-- The value of a field. -/
def toJson : Field → Json
  | .value plain => plain
  | .records rows => .arr (rows.map Record.toJson)

/-- Equality of fields, which also tells records from plain values. -/
def same : Field → Field → Bool
  | .value a, .value b => a.same b
  | .records as, .records bs =>
    as.length == bs.length && (as.zip bs).all fun pair => pair.1.same pair.2
  | _, _ => false

end Field

namespace Snapshot

/-- A read-only copy of a payload. -/
def freeze : Json → Snapshot
  | .obj members => .object (members.map fun member => (member.1, Field.freeze member.2))
  | value => .other value

/-- The snapshot of null. -/
def empty : Snapshot := .other .null

/-- Whether the payload is an object. -/
def isObject : Snapshot → Bool
  | .object _ => true
  | .other _ => false

/-- A top-level field. -/
def field? (name : String) : Snapshot → Option Field
  | .object fields => Fields.lookup name fields
  | .other _ => none

/-- The value of a top-level field that is not kept as records. -/
def get? (name : String) (snapshot : Snapshot) : Option Json :=
  match snapshot.field? name with
  | some (.value value) => some value
  | _ => none

/-- The records of a top-level field that is kept as records. -/
def records? (name : String) (snapshot : Snapshot) : Option (List Record) :=
  match snapshot.field? name with
  | some (.records records) => some records
  | _ => none

/-- The names of the top-level fields, in order. -/
def names : Snapshot → List String
  | .object fields => Fields.names fields
  | .other _ => []

/-- The number of top-level fields. -/
def size : Snapshot → Nat
  | .object fields => fields.length
  | .other _ => 0

/-- Setting a field fails and leaves the snapshot as it is. -/
def set (snapshot : Snapshot) (name : String) (_value : Json) :
    Except BridgeError Unit × Snapshot :=
  (.error (.readOnly name), snapshot)

/-- The payload. -/
def toJson : Snapshot → Json
  | .object fields => .obj (fields.map fun field => (field.1, field.2.toJson))
  | .other value => value

/-- Equality of snapshots. -/
def same : Snapshot → Snapshot → Bool
  | .object as, .object bs =>
    as.length == bs.length &&
      (as.zip bs).all fun pair => pair.1.1 == pair.2.1 && pair.1.2.same pair.2.2
  | .other a, .other b => a.same b
  | _, _ => false

/-- Whether the payload equals a value. -/
def sameJson (snapshot : Snapshot) (value : Json) : Bool := snapshot.toJson.same value

end Snapshot

/-- What a request ends with: the frozen payload of its reply, or an error. -/
abbrev Outcome := Except BridgeError Snapshot

end HostLink
