import HostLink.Json.Lexer

/-!
# Reading JSON text

The grammar is that of RFC 8259 without extensions: four kinds of blanks, no comments, no trailing
commas.  Arrays and objects may be open `maxDepth` levels deep.

`Json.readTree` reads a tree as written from the front of a text; `Json.parse` reads a whole text
and gives the canonical value.  The fuel of the readers is spent once per call and the calls number
at most two per character, so a text's own length bounds it.

A decimal is read as the binary64 number nearest to it.  That idealizes readers which by default
give up the last place of long decimals for speed.  On decimals of at most fifteen digits and a
moderate exponent the two agree.
-/

namespace HostLink
namespace Json

/-- How many arrays and objects may be open at once. -/
def maxDepth : Nat := 127

mutual
/-- A value after blanks, with at most `depth` further levels. -/
def readValue (words : Lexicon) : (fuel depth : Nat) → Reader Json
  | 0, _, _ => .error .malformed
  | fuel + 1, depth, cs =>
    match skipBlank cs with
    | [] => .error .ended
    | c :: rest =>
      if c = 'n' then readWord .null ['u', 'l', 'l'] rest
      else if c = 't' then readWord (.bool true) ['r', 'u', 'e'] rest
      else if c = 'f' then readWord (.bool false) ['a', 'l', 's', 'e'] rest
      else if c = '"' then do
        let (text, rest) ← words.text rest
        .ok (.str text, rest)
      else if c = '-' ∨ c.isDigit then do
        let (number, rest) ← words.number (c :: rest)
        .ok (.num number, rest)
      else if c = '[' then
        match depth, skipBlank rest with
        | 0, _ => .error .malformed
        | _ + 1, ']' :: rest => .ok (.arr [], rest)
        | depth + 1, rest => do
          let (items, rest) ← readItems words fuel depth rest
          .ok (.arr items, rest)
      else if c = '\x7b' then
        match depth, skipBlank rest with
        | 0, _ => .error .malformed
        | _ + 1, '\x7d' :: rest => .ok (.obj [], rest)
        | depth + 1, rest => do
          let (members, rest) ← readMembers words fuel depth rest
          .ok (.obj members, rest)
      else .error .malformed

/-- The items of an array, at least one, up to and with the closing bracket. -/
def readItems (words : Lexicon) : (fuel depth : Nat) → Reader (List Json)
  | 0, _, _ => .error .malformed
  | fuel + 1, depth, cs => do
    let (item, rest) ← readValue words fuel depth cs
    match skipBlank rest with
    | [] => .error .ended
    | c :: rest =>
      if c = ',' then do
        let (items, rest) ← readItems words fuel depth rest
        .ok (item :: items, rest)
      else if c = ']' then .ok ([item], rest)
      else .error .malformed

/-- The members of an object, at least one, up to and with the closing brace. -/
def readMembers (words : Lexicon) : (fuel depth : Nat) → Reader (List (String × Json))
  | 0, _, _ => .error .malformed
  | fuel + 1, depth, cs => do
    let ((), rest) ← readMark '"' cs
    let (name, rest) ← words.text rest
    let ((), rest) ← readMark ':' rest
    let (value, rest) ← readValue words fuel depth rest
    match skipBlank rest with
    | [] => .error .ended
    | c :: rest =>
      if c = ',' then do
        let (members, rest) ← readMembers words fuel depth rest
        .ok ((name, value) :: members, rest)
      else if c = '\x7d' then .ok ([(name, value)], rest)
      else .error .malformed
end

/-- Fuel that no reading of these characters uses up. -/
def fuelFor (cs : List Char) : Nat := 2 * cs.length + 1

/-- A tree as written from the front of a text, at most `depth` levels deep. -/
def readTree (depth : Nat) : Reader Json := fun cs => readValue .strict (fuelFor cs) depth cs

/-- Pass over one value of any depth. -/
def skipValue : Reader Unit := fun cs => do
  let (_, rest) ← readValue .lenient (fuelFor cs) cs.length cs
  .ok ((), rest)

/-- Only blanks are left. -/
def readEnd (cs : List Char) : Except ReadError Unit :=
  if (skipBlank cs).isEmpty then .ok () else .error .malformed

/-- The value of a whole text, its decimals rounded exactly. -/
def parse (text : String) : Except ReadError Json := do
  let (tree, rest) ← readTree maxDepth text.toList
  readEnd rest
  .ok tree.normalize

end Json
end HostLink
