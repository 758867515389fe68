import TreeAssist.Text.Printable

/-!
# Quoted texts

A text between double quotes, in which the quote, the backslash and whatever cannot be shown are
escaped: tab, carriage return, line feed and NUL by a letter, other characters by their number.
-/

namespace TreeAssist.Text

/-- The written form of one character inside quotes. -/
def escape (c : Char) : List Char :=
  if c = '\t' then ['\\', 't']
  else if c = '\r' then ['\\', 'r']
  else if c = '\n' then ['\\', 'n']
  else if c = '\x00' then ['\\', '0']
  else if c = '\\' then ['\\', '\\']
  else if c = '"' then ['\\', '"']
  else if isPrintable c then [c]
  else ['\\', 'u', '\x7b'] ++ Nat.toDigits 16 c.toNat ++ ['\x7d']

/-- The text between double quotes. -/
def quoted (s : String) : String :=
  String.ofList ('"' :: (s.toList.flatMap escape ++ ['"']))

end TreeAssist.Text
