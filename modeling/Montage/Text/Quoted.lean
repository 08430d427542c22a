import Montage.Text.Numbered

/-!
# Quoted text

Messages show labels and formats in double quotes, with a backslash before a
quote or a backslash, short escapes for the common controls, and `\u` with a
hexadecimal code point in braces for every other character that would not show
as itself.
-/

namespace Montage.Text

/-- A code point in hexadecimal. -/
def hexText (n : Nat) : String := String.ofList (Nat.toDigits 16 n)

/-- A character as it stands between double quotes. -/
def quotedChar (c : Char) : String :=
  if c = '"' then "\\\""
  else if c = '\\' then "\\\\"
  else if c = '\n' then "\\n"
  else if c = '\r' then "\\r"
  else if c = '\t' then "\\t"
  else if c.toNat = 0 then "\\0"
  else if isNumbered c then "\\u\x7b" ++ hexText c.toNat ++ "\x7d"
  else c.toString

/-- A text in double quotes. -/
def quoted (text : String) : String :=
  "\"" ++ String.join (text.toList.map quotedChar) ++ "\""

end Montage.Text
