import HostLink.Double.Basic
import HostLink.Fields

/-!
# JSON values

A JSON value as the bridge and the native side exchange it.  Integers that fit an unsigned or a
signed 64-bit word stay integers, all other numbers are binary64, and the two are never equal.  An
object is a list of members; in `Json.Canonical` values, the only ones that reading produces, the
members of every object are sorted by name with each name once.

`Json.normalize` brings a tree as written into that form, and `Json.same` is the equality of values,
which takes the two float zeros for one.
-/

namespace HostLink

/-- A JSON number: a 64-bit integer or a binary64. -/
inductive Number where
  /-- An integer from the least signed to the greatest unsigned 64-bit one. -/
  | int (value : Int) (inRange : -9223372036854775808 ≤ value ∧ value < 18446744073709551616)
  /-- Any other number. -/
  | float (value : Double)
deriving DecidableEq

namespace Number

/-- The number of an unsigned 64-bit word. -/
def ofUInt64 (n : UInt64) : Number := .int (n.toNat : Int) (by have := n.toNat_lt; omega)

/-- The integer `z`, if it fits a signed or an unsigned 64-bit word. -/
def ofInt? (z : Int) : Option Number :=
  if h : -9223372036854775808 ≤ z ∧ z < 18446744073709551616 then some (.int z h) else none

/-- The unsigned 64-bit word that an integer number holds. -/
def toUInt64? : Number → Option UInt64
  | .int z _ => if 0 ≤ z then some (UInt64.ofNat z.toNat) else none
  | .float _ => none

/-- Whether the number is zero, as an integer or as either float. -/
def isZero : Number → Bool
  | .int z _ => z == 0
  | .float x => x.isZero

/-- Equality of values: integers and floats differ, the float zeros are one. -/
def same : Number → Number → Bool
  | .int a _, .int b _ => a == b
  | .float x, .float y => x.sameValue y
  | _, _ => false

end Number

/-- A JSON value, or a tree as written, whose objects may hold a name twice. -/
inductive Json where
  | null
  | bool (value : Bool)
  | num (value : Number)
  | str (value : String)
  | arr (items : List Json)
  | obj (members : List (String × Json))

namespace Json

instance : Inhabited Json := ⟨.null⟩

/-! ## Looking inside -/

/-- The member `name` of an object. -/
def member? (name : String) : Json → Option Json
  | .obj members => Fields.lookup name members
  | _ => none

/-- Whether the value is an object. -/
def isObject : Json → Bool
  | .obj _ => true
  | _ => false

/-- Falsy values mark the absence of an error: null, false, a number equal to zero and the empty
text.  All other values are truthy. -/
def isTruthy : Json → Bool
  | .null => false
  | .bool b => b
  | .num n => !n.isZero
  | .str s => s ≠ ""
  | .arr _ => true
  | .obj _ => true

mutual
/-- How many arrays and objects are open at the deepest point. -/
def depth : Json → Nat
  | .arr items => depthOfItems items + 1
  | .obj members => depthOfMembers members + 1
  | _ => 0

/-- The greatest depth among items. -/
def depthOfItems : List Json → Nat
  | [] => 0
  | item :: rest => max item.depth (depthOfItems rest)

/-- The greatest depth among members. -/
def depthOfMembers : List (String × Json) → Nat
  | [] => 0
  | (_, value) :: rest => max value.depth (depthOfMembers rest)
end

/-! ## The canonical form -/

mutual
/-- In every object of the value the names strictly increase. -/
def Canonical : Json → Prop
  | .arr items => CanonicalItems items
  | .obj members => Fields.Sorted members ∧ CanonicalMembers members
  | _ => True

/-- Every item is canonical. -/
def CanonicalItems : List Json → Prop
  | [] => True
  | item :: rest => item.Canonical ∧ CanonicalItems rest

/-- Every member's value is canonical. -/
def CanonicalMembers : List (String × Json) → Prop
  | [] => True
  | (_, value) :: rest => value.Canonical ∧ CanonicalMembers rest
end

mutual
/-- The canonical form of a tree as written: members are sorted by name and of two members of one
name the later one stays. -/
def normalize : Json → Json
  | .arr items => .arr (normalizeItems items)
  | .obj members => .obj (Fields.ofPairs (normalizeMembers members))
  | .null => .null
  | .bool b => .bool b
  | .num n => .num n
  | .str s => .str s

/-- Every item in canonical form. -/
def normalizeItems : List Json → List Json
  | [] => []
  | item :: rest => item.normalize :: normalizeItems rest

/-- Every member's value in canonical form, the members in the order written. -/
def normalizeMembers : List (String × Json) → List (String × Json)
  | [] => []
  | (name, value) :: rest => (name, value.normalize) :: normalizeMembers rest
end

/-! ## Equality -/

mutual
/-- Equality of values. -/
def same : Json → Json → Bool
  | .null, .null => true
  | .bool a, .bool b => a == b
  | .num a, .num b => a.same b
  | .str a, .str b => a == b
  | .arr a, .arr b => sameItems a b
  | .obj a, .obj b => sameMembers a b
  | _, _ => false

/-- Equality of arrays, item by item. -/
def sameItems : List Json → List Json → Bool
  | [], [] => true
  | a :: as, b :: bs => a.same b && sameItems as bs
  | _, _ => false

/-- Equality of objects, member by member. -/
def sameMembers : List (String × Json) → List (String × Json) → Bool
  | [], [] => true
  | (m, a) :: as, (n, b) :: bs => m == n && a.same b && sameMembers as bs
  | _, _ => false
end

end Json
end HostLink
