import LayerPress.Text.Printable

/-!
# Quoted text

A text between double quotes in which every character can be told apart: quotes and backslashes
are escaped, tab, line feed, carriage return and NUL have short escapes, and every other
character that does not show by itself is written by its code point in lower-case hexadecimal.
-/

namespace LayerPress.Text.Quoted

/-- One character between the quotes. -/
def escape (c : Char) : List Char :=
  if c == '"' then ['\\', '"']
  else if c == '\\' then ['\\', '\\']
  else if c == '\t' then ['\\', 't']
  else if c == '\n' then ['\\', 'n']
  else if c == '\r' then ['\\', 'r']
  else if c.toNat == 0 then ['\\', '0']
  else if isPrintable c then [c]
  else ['\\', 'u', Char.ofNat 0x7b] ++ Nat.toDigits 16 c.toNat ++ [Char.ofNat 0x7d]

/-- The quoted form of a text. -/
def quote (s : String) : String :=
  String.ofList ('"' :: (s.toList.flatMap escape ++ ['"']))

end LayerPress.Text.Quoted
