import HostLink.Text.Unprintable

/-!
# Quoted texts

A text in quotes on one line, for messages and descriptions: the quote, the backslash, the usual
controls and NUL have short escapes, and every other unprintable character is shown by its number in
lower-case hexadecimal between braces.  An apostrophe stands as it is.
-/

namespace HostLink

/-- A character as it stands in a quoted text. -/
def quotedChar (c : Char) : List Char :=
  if c = '\x00' then ['\\', '0']
  else if c = '\t' then ['\\', 't']
  else if c = '\n' then ['\\', 'n']
  else if c = '\r' then ['\\', 'r']
  else if c = '"' then ['\\', '"']
  else if c = '\\' then ['\\', '\\']
  else if isUnprintable c then
    ['\\', 'u', '\x7b'] ++ Nat.toDigits 16 c.toNat ++ ['\x7d']
  else [c]

/-- A text in quotes. -/
def quoted (s : String) : String := String.ofList ('"' :: s.toList.flatMap quotedChar ++ ['"'])

end HostLink
