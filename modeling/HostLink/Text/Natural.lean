/-!
# Whole numbers in text

A whole number is written as an optional plus sign and at least one ASCII digit, leading zeros
allowed.  Reading it goes from left to right and refuses the first character that is no digit, or
the digit at which the number leaves the 64-bit range.
-/

namespace HostLink

/-- Why a text is no 64-bit whole number. -/
inductive NaturalError where
  | empty
  | invalidDigit
  | overflow
deriving DecidableEq

namespace NaturalError

/-- The wording of the error. -/
def message : NaturalError → String
  | .empty => "cannot parse integer from empty string"
  | .invalidDigit => "invalid digit found in string"
  | .overflow => "number too large to fit in target type"

end NaturalError

/-- Digits appended to the number `n`. -/
def readDigitsFrom (n : Nat) : List Char → Except NaturalError Nat
  | [] => .ok n
  | c :: rest =>
    if c.isDigit then
      let next := 10 * n + (c.toNat - 48)
      if next < 18446744073709551616 then readDigitsFrom next rest else .error .overflow
    else .error .invalidDigit

/-- The 64-bit whole number that the characters spell. -/
def readNatural (cs : List Char) : Except NaturalError UInt64 :=
  match cs with
  | [] => .error .empty
  | ['+'] => .error .invalidDigit
  | '+' :: digits => (readDigitsFrom 0 digits).map UInt64.ofNat
  | digits => (readDigitsFrom 0 digits).map UInt64.ofNat

end HostLink
