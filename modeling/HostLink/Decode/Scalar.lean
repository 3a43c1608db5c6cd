import HostLink.Correlation
import HostLink.Decode.Shape

/-!
# Decoding scalars

The scalar types are decided by the head of a value alone, so one definition serves values and text.
-/

namespace HostLink
namespace Head

/-- A text. -/
def toText : Head → Except DataError String
  | .str s => .ok s
  | found => .error (.invalidType found .text)

/-- An integer from zero to `limit - 1`. -/
def toNatural (limit : Nat) (expected : Expectation) : Head → Except DataError Nat
  | .num (.int z _) =>
    if 0 ≤ z ∧ z < limit then .ok z.toNat else .error (.outOfRange z expected)
  | found => .error (.invalidType found expected)

/-- An unsigned 32-bit number. -/
def toUInt32 (head : Head) : Except DataError UInt32 :=
  (head.toNatural 4294967296 .u32).map UInt32.ofNat

/-- An unsigned 64-bit number. -/
def toUInt64 (head : Head) : Except DataError UInt64 :=
  (head.toNatural 18446744073709551616 .u64).map UInt64.ofNat

/-- An unsigned 64-bit number or null. -/
def toOptionalUInt64 : Head → Except DataError (Option UInt64)
  | .null => .ok none
  | head => head.toUInt64.map some

/-- Null. -/
def toUnit : Head → Except DataError Unit
  | .null => .ok ()
  | found => .error (.invalidType found .unit)

/-- A correlation id: a non-negative integer or a text that holds one. -/
def toCorrelationId : Head → Except DataError CorrelationId
  | .num (.int z _) => if 0 ≤ z then .ok ⟨UInt64.ofNat z.toNat⟩ else .error .negativeId
  | .str s =>
    match CorrelationId.ofText s with
    | .ok id => .ok id
    | .error e => .error (.invalidId e)
  | found => .error (.invalidType found .correlationId)

/-- The format with a given name. -/
def formatNamed (name : String) : Except DataError IdFormat :=
  match IdFormat.ofName? name with
  | some format => .ok format
  | none => .error (.unknownFormat name)

end Head
end HostLink
