import HostLink.Json.Basic

/-!
# The words of JSON text

Readers for blanks, fixed words, numbers and quoted texts.  A reader takes the characters that are
left and gives what it read with the characters after it, or the reason why it could not: the text
ended too early, or the next character fits no continuation.

Numbers and quoted texts come in two degrees of care.  `Lexicon.strict` reads them for their value
and so refuses numbers beyond binary64 and lone surrogate escapes; `Lexicon.lenient` reads them only
to get past them.
-/

namespace HostLink

/-! ## Steps that may fail -/

theorem bind_eq_ok_iff {ε α β : Type} {x : Except ε α} {f : α → Except ε β} {b : β} :
    (x >>= f) = .ok b ↔ ∃ a, x = .ok a ∧ f a = .ok b := by
  cases x <;> simp [bind, Except.bind]

theorem map_eq_ok_iff {ε α β : Type} {x : Except ε α} {f : α → β} {b : β} :
    x.map f = .ok b ↔ ∃ a, x = .ok a ∧ f a = b := by
  cases x <;> simp [Except.map]

namespace Json

/-! ## Readers -/

/-- Why a text is no JSON text. -/
inductive ReadError where
  /-- The text ended where more had to follow. -/
  | ended
  /-- A character stands where it may not, or a number or a nesting is out of range. -/
  | malformed
deriving DecidableEq

/-- A reader takes characters from the front and gives back the rest. -/
abbrev Reader (α : Type) := List Char → Except ReadError (α × List Char)

/-! ## Blanks and words -/

/-- The blanks of JSON text: space, tab, line feed and carriage return. -/
def isBlank (c : Char) : Bool := c = ' ' ∨ c = '\t' ∨ c = '\n' ∨ c = '\r'

/-- The text behind its leading blanks. -/
def skipBlank (cs : List Char) : List Char := cs.dropWhile isBlank

/-- The rest of a fixed word, which then stands for `value`. -/
def readWord {α : Type} (value : α) : List Char → Reader α
  | [], rest => .ok (value, rest)
  | _ :: _, [] => .error .ended
  | expected :: word, c :: rest =>
    if c = expected then readWord value word rest else .error .malformed

/-- A separator after blanks. -/
def readMark (mark : Char) : Reader Unit := fun cs =>
  match skipBlank cs with
  | [] => .error .ended
  | c :: rest => if c = mark then .ok ((), rest) else .error .malformed

/-! ## Numbers -/

/-- A number as written: `digits * 10 ^ exponent` with a sign, and whether it has neither a fraction
nor an exponent part. -/
structure Numeral where
  negative : Bool
  digits : Nat
  exponent : Int
  whole : Bool

namespace Numeral

/-- The number that a numeral denotes.  A whole numeral that fits a 64-bit word is an integer, apart
from minus zero; all else is the nearest binary64, or nothing if that is out of range.  Rounding is
exact, where a default reader may miss the nearest number by a little. -/
def value? (n : Numeral) : Option Number :=
  let float := (Double.ofDecimal? n.negative n.digits n.exponent).map Number.float
  if n.whole && !(n.negative && n.digits == 0) then
    match Number.ofInt? (if n.negative then -(n.digits : Int) else n.digits) with
    | some number => some number
    | none => float
  else float

end Numeral

/-- The value of a run of decimal digits. -/
def digitsValue (digits : List Char) : Nat :=
  digits.foldl (fun n c => 10 * n + (c.toNat - 48)) 0

/-- At least one digit; `atEnd` is the error of a text that ends instead. -/
def readDigits (atEnd : ReadError) : Reader (List Char) := fun cs =>
  match cs.takeWhile Char.isDigit, cs.dropWhile Char.isDigit with
  | [], [] => .error atEnd
  | [], _ :: _ => .error .malformed
  | digits, rest => .ok (digits, rest)

/-- The digits of an integer part, which starts with no superfluous zero. -/
def readWhole (atEnd : ReadError) : Reader (List Char) := fun cs => do
  let (digits, rest) ← readDigits atEnd cs
  match digits with
  | '0' :: _ :: _ => .error .malformed
  | _ => .ok (digits, rest)

/-- The digits behind a point, none if there is no point. -/
def readFraction (atEnd : ReadError) : Reader (List Char)
  | '.' :: rest => readDigits atEnd rest
  | rest => .ok ([], rest)

/-- The sign in front of an exponent: whether it is a minus. -/
def readSign : List Char → Bool × List Char
  | '-' :: rest => (true, rest)
  | '+' :: rest => (false, rest)
  | rest => (false, rest)

/-- The exponent part, if there is one. -/
def readExponent (atEnd : ReadError) (cs : List Char) :
    Except ReadError (Option Int × List Char) :=
  match cs with
  | c :: after =>
    if c = 'e' ∨ c = 'E' then do
      let (negative, rest) := readSign after
      let (digits, rest) ← readDigits atEnd rest
      let size : Int := digitsValue digits
      .ok (some (if negative then -size else size), rest)
    else .ok (none, cs)
  | [] => .ok (none, [])

/-- A numeral, which starts with a minus sign or a digit. -/
def readNumeral (atEnd : ReadError) : Reader Numeral := fun cs => do
  let (negative, rest) := match cs with
    | '-' :: rest => (true, rest)
    | rest => (false, rest)
  let (whole, rest) ← readWhole atEnd rest
  let (fraction, rest) ← readFraction atEnd rest
  let (exponent, rest) ← readExponent atEnd rest
  .ok ({ negative
         digits := digitsValue (whole ++ fraction)
         exponent := exponent.getD 0 - fraction.length
         whole := fraction.isEmpty && exponent.isNone }, rest)

/-! ## Quoted texts -/

/-- Where the reader of a quoted text stands. -/
inductive TextState where
  /-- Between characters. -/
  | plain
  /-- Behind a backslash. -/
  | escape
  /-- Behind a backslash, the letter u and `count` digits of worth `value`; `lead` is the leading
  surrogate that this escape has to complete. -/
  | hex (lead : Option Nat) (count value : Nat)
  /-- Behind the escape of a leading surrogate. -/
  | lead (unit : Nat)
  /-- Behind the escape of a leading surrogate and a backslash. -/
  | leadEscape (unit : Nat)

/-- The worth of a hexadecimal digit in either case. -/
def hexValue? (c : Char) : Option Nat :=
  if '0' ≤ c ∧ c ≤ '9' then some (c.toNat - 48)
  else if 'a' ≤ c ∧ c ≤ 'f' then some (c.toNat - 87)
  else if 'A' ≤ c ∧ c ≤ 'F' then some (c.toNat - 55)
  else none

/-- The character that a backslash and a letter stand for. -/
def shortEscape? (c : Char) : Option Char :=
  match c with
  | '"' => some '"'
  | '\\' => some '\\'
  | '/' => some '/'
  | 'b' => some '\x08'
  | 'f' => some '\x0c'
  | 'n' => some '\n'
  | 'r' => some '\r'
  | 't' => some '\t'
  | _ => none

/-- Whether a number is a leading (high) surrogate. -/
def isLead (unit : Nat) : Bool := 0xD800 ≤ unit ∧ unit ≤ 0xDBFF

/-- Whether a number is a trailing (low) surrogate. -/
def isTrail (unit : Nat) : Bool := 0xDC00 ≤ unit ∧ unit ≤ 0xDFFF

/-- What four hexadecimal digits of worth `unit` lead to: the next state and the character that they
complete, if they do. -/
def hexDone (strict : Bool) (lead : Option Nat) (unit : Nat) :
    Except ReadError (TextState × Option Char) :=
  if !strict then .ok (.plain, some '\uFFFD')
  else match lead with
    | none =>
      if isTrail unit then .error .malformed
      else if isLead unit then .ok (.lead unit, none)
      else .ok (.plain, some (Char.ofNat unit))
    | some high =>
      if isTrail unit then
        .ok (.plain, some (Char.ofNat (0x10000 + (high - 0xD800) * 0x400 + (unit - 0xDC00))))
      else .error .malformed

/-- The number of bytes that characters take in UTF-8. -/
def byteCount (cs : List Char) : Nat := cs.foldl (fun n c => n + c.utf8Size) 0

/-- The rest of a quoted text up to and with its closing quote.  `done` holds the characters so far,
last first.  An escape that has fewer than four bytes behind its letter u has met the end of the
text, whatever the bytes are. -/
def readTextFrom (strict : Bool) : TextState → List Char → Reader String
  | _, _, [] => .error .ended
  | .plain, done, c :: rest =>
    if c = '"' then .ok (String.ofList done.reverse, rest)
    else if c = '\\' then readTextFrom strict .escape done rest
    else if c.toNat < 0x20 then .error .malformed
    else readTextFrom strict .plain (c :: done) rest
  | .escape, done, c :: rest =>
    if c = 'u' then readTextFrom strict (.hex none 0 0) done rest
    else match shortEscape? c with
      | some short => readTextFrom strict .plain (short :: done) rest
      | none => .error .malformed
  | .hex lead count value, done, c :: rest =>
    match hexValue? c with
    | none => if count + byteCount (c :: rest) < 4 then .error .ended else .error .malformed
    | some digit =>
      if count < 3 then readTextFrom strict (.hex lead (count + 1) (16 * value + digit)) done rest
      else match hexDone strict lead (16 * value + digit) with
        | .error e => .error e
        | .ok (state, some char) => readTextFrom strict state (char :: done) rest
        | .ok (state, none) => readTextFrom strict state done rest
  | .lead unit, done, c :: rest =>
    if c = '\\' then readTextFrom strict (.leadEscape unit) done rest else .error .malformed
  | .leadEscape unit, done, c :: rest =>
    if c = 'u' then readTextFrom strict (.hex (some unit) 0 0) done rest else .error .malformed

/-! ## Degrees of care -/

/-- How numbers and quoted texts are read. -/
structure Lexicon where
  /-- A number, from its first character. -/
  number : Reader Number
  /-- A quoted text, from behind its opening quote. -/
  text : Reader String

namespace Lexicon

/-- Numbers and texts are read for their value. -/
def strict : Lexicon where
  number cs := do
    let (numeral, rest) ← readNumeral .ended cs
    match numeral.value? with
    | some number => .ok (number, rest)
    | none => .error .malformed
  text := readTextFrom true .plain []

/-- Numbers and texts are only passed over: any number will do, and so will any escape of four
hexadecimal digits; a number cut off by the end of the text counts as malformed. -/
def lenient : Lexicon where
  number cs := do
    let (_, rest) ← readNumeral .malformed cs
    .ok (.float (.zero false), rest)
  text := readTextFrom false .plain []

end Lexicon
end Json
end HostLink
