import HostLink.Json.Basic
import HostLink.Text.Blank
import HostLink.Text.Natural

/-!
# Correlation ids

A correlation id links a request to its reply.  Ids are 64-bit counters; on the wire an id travels
as a JSON integer or as a text that holds one, as the extension's id format says, and both forms are
accepted on the way back.
-/

namespace HostLink

/-- The id of a request. -/
structure CorrelationId where
  value : UInt64
deriving DecidableEq

/-- How an extension writes correlation ids. -/
inductive IdFormat where
  | string
  | number
deriving DecidableEq

namespace IdFormat

/-- The name of a format in configurations. -/
def name : IdFormat → String
  | .string => "string"
  | .number => "number"

/-- The format of a name. -/
def ofName? : String → Option IdFormat
  | "string" => some .string
  | "number" => some .number
  | _ => none

theorem ofName?_name (format : IdFormat) : ofName? format.name = some format := by
  cases format <;> rfl

end IdFormat

namespace CorrelationId

/-- The id in decimal. -/
def text (id : CorrelationId) : String := Nat.repr id.value.toNat

/-- The id as a JSON integer, which is also its form outside of messages. -/
def toJson (id : CorrelationId) : Json := .num (.ofUInt64 id.value)

/-- The id as messages carry it. -/
def encode (format : IdFormat) (id : CorrelationId) : Json :=
  match format with
  | .string => .str id.text
  | .number => id.toJson

/-- The id that a text holds between white space. -/
def ofText (s : String) : Except NaturalError CorrelationId :=
  (readNatural (trimBlank s.toList)).map CorrelationId.mk

/-- The id that a message carries: a non-negative integer or a text that holds one. -/
def decode? : Json → Option CorrelationId
  | .num n => n.toUInt64?.map CorrelationId.mk
  | .str s => (ofText s).toOption
  | _ => none

end CorrelationId
end HostLink
