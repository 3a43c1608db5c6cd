import HostLink.Double.Shortest
import HostLink.Json.Basic

/-!
# JSON text

The compact text of a JSON value: no blanks, members in their order, integers in decimal, and floats
with the fewest digits that read back.  Between `0.00001` and `10 ^ 16` a float is written
positionally with at least one decimal, outside with an exponent that always has a sign.

A text escapes the quote, the backslash and the characters below U+0020, nothing else.
-/

namespace HostLink

/-! ## Floats -/

/-- Where the text of a float changes between its two layouts: positional notation is used when the
exponent of the leading digit is at least `least` and below `limit`. -/
structure FloatLayout where
  least : Int
  limit : Int

namespace FloatLayout

/-- JSON floats are positional from `0.00001` up to, and without, `10 ^ 16`. -/
def json : FloatLayout := ⟨-5, 16⟩

/-- Digits with the point after `point` of them; `point` may lie outside the digits, and at least
one digit stands on either side of the point. -/
def positional (digits : List Char) (point : Int) : List Char :=
  if point ≤ 0 then
    '0' :: '.' :: (List.replicate point.natAbs '0' ++ digits)
  else if digits.length ≤ point.toNat then
    digits ++ List.replicate (point.toNat - digits.length) '0' ++ ['.', '0']
  else
    digits.take point.toNat ++ '.' :: digits.drop point.toNat

/-- Digits with the point after the first, if there are more, and a signed exponent. -/
def scientific (digits : List Char) (exponent : Int) : List Char :=
  let fraction := match digits.drop 1 with
    | [] => []
    | rest => '.' :: rest
  digits.take 1 ++ fraction ++
    ('e' :: (if exponent < 0 then '-' else '+') :: Nat.toDigits 10 exponent.natAbs)

/-- The digits of a decimal number without the zeros at its end, and the position of the point
behind them. -/
def significant (d : Decimal) : List Char × Int :=
  let digits := Nat.toDigits 10 d.digits
  ((digits.reverse.dropWhile (· == '0')).reverse, (digits.length : Int) + d.exponent)

/-- The text of a float. -/
def render (layout : FloatLayout) (x : Double) : List Char :=
  let magnitude :=
    if x.isZero then ['0', '.', '0']
    else
      let (digits, point) := significant x.shortest
      if layout.least ≤ point - 1 ∧ point - 1 < layout.limit then positional digits point
      else scientific digits (point - 1)
  if x.negative then '-' :: magnitude else magnitude

end FloatLayout

namespace Number

/-- The decimal text of an integer. -/
def renderInt (z : Int) : List Char :=
  if z < 0 then '-' :: Nat.toDigits 10 z.natAbs else Nat.toDigits 10 z.natAbs

/-- The text of a number. -/
def render : Number → List Char
  | .int z _ => renderInt z
  | .float x => FloatLayout.json.render x

end Number

/-! ## Texts -/

namespace Json

/-- A hexadecimal digit in lower case. -/
def hexDigit (n : Nat) : Char := if n < 10 then Char.ofNat (48 + n) else Char.ofNat (87 + n)

/-- A character as it stands between the quotes of a JSON text. -/
def escapeChar (c : Char) : List Char :=
  if c = '"' then ['\\', '"']
  else if c = '\\' then ['\\', '\\']
  else if c = '\x08' then ['\\', 'b']
  else if c = '\t' then ['\\', 't']
  else if c = '\n' then ['\\', 'n']
  else if c = '\x0c' then ['\\', 'f']
  else if c = '\r' then ['\\', 'r']
  else if c.toNat < 0x20 then
    ['\\', 'u', '0', '0', hexDigit (c.toNat / 16), hexDigit (c.toNat % 16)]
  else [c]

/-- A text in quotes. -/
def renderText (s : String) : List Char := '"' :: s.toList.flatMap escapeChar ++ ['"']

/-! ## Values -/

mutual
/-- The characters of the compact text of a value. -/
def render : Json → List Char
  | .null => ['n', 'u', 'l', 'l']
  | .bool true => ['t', 'r', 'u', 'e']
  | .bool false => ['f', 'a', 'l', 's', 'e']
  | .num n => n.render
  | .str s => renderText s
  | .arr items => '[' :: renderItems items ++ [']']
  | .obj members => '{' :: renderMembers members ++ ['}']

/-- Items with commas between them. -/
def renderItems : List Json → List Char
  | [] => []
  | [item] => item.render
  | item :: next :: rest => item.render ++ ',' :: renderItems (next :: rest)

/-- Members with commas between them. -/
def renderMembers : List (String × Json) → List Char
  | [] => []
  | [(name, value)] => renderText name ++ ':' :: value.render
  | (name, value) :: next :: rest =>
    renderText name ++ ':' :: (value.render ++ ',' :: renderMembers (next :: rest))
end

/-- The compact text of a value. -/
def compact (value : Json) : String := String.ofList value.render

end Json
end HostLink
