import HostLink.Json.Printer
import HostLink.Json.Lexer
import HostLink.Text.Natural
import HostLink.Text.Quoted

/-!
# Shapes and mismatches

Typed decoding compares the shape of a JSON value with the shape it expects.  The head of a value is
what decides: the whole of a scalar, and of an array or an object only that it is one.  A mismatch
is a `DataError`, which keeps both sides; its wording is fixed by `DataError.message`.
-/

namespace HostLink

/-- The head of a JSON value. -/
inductive Head where
  | null
  | bool (value : Bool)
  | num (value : Number)
  | str (value : String)
  | list
  | map

namespace Head

/-- The head as messages describe it. -/
def describe : Head → String
  | .null => "null"
  | .bool true => "boolean \x60true\x60"
  | .bool false => "boolean \x60false\x60"
  | .num (.int z _) => "integer \x60" ++ String.ofList (Number.renderInt z) ++ "\x60"
  | .num (.float x) =>
    "floating point \x60" ++ String.ofList (FloatLayout.json.render x) ++ "\x60"
  | .str s => "string " ++ quoted s
  | .list => "sequence"
  | .map => "map"

end Head

/-- The head of a value. -/
def Json.head : Json → Head
  | .null => .null
  | .bool b => .bool b
  | .num n => .num n
  | .str s => .str s
  | .arr _ => .list
  | .obj _ => .map

/-- What a decoder expects in some place. -/
inductive Expectation where
  | u32
  | u64
  | text
  | list
  | unit
  | cpuInfo
  | wireFormat
  | config
  | correlationId
  | idFormat

namespace Expectation

/-- The expectation as messages describe it. -/
def describe : Expectation → String
  | .u32 => "u32"
  | .u64 => "u64"
  | .text => "a string"
  | .list => "a sequence"
  | .unit => "unit"
  | .cpuInfo => "struct CpuInfo"
  | .wireFormat => "struct WireFormat"
  | .config => "struct BridgeConfig"
  | .correlationId => "a non-negative integer or a string holding one"
  | .idFormat => "string or map"

end Expectation

/-- Why well-formed JSON is not a value of the type asked for. -/
inductive DataError where
  /-- A value of another kind. -/
  | invalidType (found : Head) (expected : Expectation)
  /-- An integer out of range. -/
  | outOfRange (value : Int) (expected : Expectation)
  /-- A negative correlation id. -/
  | negativeId
  /-- A text that holds no correlation id. -/
  | invalidId (error : NaturalError)
  /-- A text that names no id format. -/
  | unknownFormat (name : String)
  /-- An object that stands for an id format and has no member or several. -/
  | notOneMember
  /-- A required member that is absent. -/
  | missingField (name : String)
  /-- A member that occurs twice. -/
  | duplicateField (name : String)
  /-- A list that ends before both elements of a processor description. -/
  | tooShort (length : Nat)
  /-- A list with more elements than the type has. -/
  | tooLong (length : Nat)

namespace DataError

/-- The wording of a mismatch. -/
def message : DataError → String
  | .invalidType found expected =>
    "invalid type: " ++ found.describe ++ ", expected " ++ expected.describe
  | .outOfRange value expected =>
    "invalid value: integer \x60" ++ String.ofList (Number.renderInt value) ++ "\x60, expected " ++
      expected.describe
  | .negativeId => "negative correlation id"
  | .invalidId error => error.message
  | .unknownFormat name =>
    "unknown variant \x60" ++ name ++ "\x60, expected \x60string\x60 or \x60number\x60"
  | .notOneMember => "invalid value: map, expected map with a single key"
  | .missingField name => "missing field \x60" ++ name ++ "\x60"
  | .duplicateField name => "duplicate field \x60" ++ name ++ "\x60"
  | .tooShort length =>
    "invalid length " ++ Nat.repr length ++ ", expected struct CpuInfo with 2 elements"
  | .tooLong length =>
    "invalid length " ++ Nat.repr length ++ ", expected fewer elements in array"

end DataError

/-- Why a text does not decode: it is no JSON text, or its JSON has another shape. -/
inductive DecodeError where
  | text (error : Json.ReadError)
  | shape (error : DataError)

end HostLink
