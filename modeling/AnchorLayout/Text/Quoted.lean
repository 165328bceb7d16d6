import AnchorLayout.Text.Printable

/-!
# Text shown between quotation marks in a message

A message shows a foreign text between double quotes. Quotes, backslashes and the common control
characters are escaped by a letter; whatever cannot be seen on its own, because it is not printable
or joins the character before it, is written by its code point in braces.
-/

namespace AnchorLayout.Text

/-- Lower-case hexadecimal digits of a number. -/
def hexadecimal (n : Nat) : String := String.ofList (Nat.toDigits 16 n)

/-- One character as it stands between the quotes. -/
def quoteChar (c : Char) : String :=
  if c = '\x00' then "\\0"
  else if c = '\t' then "\\t"
  else if c = '\r' then "\\r"
  else if c = '\n' then "\\n"
  else if c = '\\' then "\\\\"
  else if c = '"' then "\\\""
  else if isGraphemeExtend c || !isPrintable c then
    "\\u\x7b" ++ hexadecimal c.toNat ++ "\x7d"
  else c.toString

/-- A text between double quotes. -/
def quote (s : String) : String :=
  "\"" ++ String.join (s.toList.map quoteChar) ++ "\""

end AnchorLayout.Text
