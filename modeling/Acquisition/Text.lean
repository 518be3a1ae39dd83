/-
# Acquisition.Text — names in quotes, numbers in columns

`quoted` writes a name between double quotes so that it can be told where it ends
and what is in it: quotes and backslashes are escaped, and characters that do not
show (`isHidden`) are written by their code. `alignRight` fills a text up with blanks in
front.
-/
import Acquisition.Text.Blank
import Acquisition.Text.Hidden

namespace Acquisition.Text

set_option autoImplicit false

/-- The hexadecimal digits of a number, in lower case. -/
def hex (number : Nat) : String :=
  String.ofList (Nat.toDigits 16 number)

/-- A character as it is written between quotes. -/
def escaped (char : Char) : String :=
  if char = '\x00' then "\\0"
  else if char = '\t' then "\\t"
  else if char = '\n' then "\\n"
  else if char = '\r' then "\\r"
  else if char = '"' then "\\\""
  else if char = '\\' then "\\\\"
  else if isHidden char then "\\u\x7b" ++ hex char.toNat ++ "\x7d"
  else String.singleton char

/-- A name between double quotes. -/
def quoted (name : String) : String :=
  "\"" ++ String.join (name.toList.map escaped) ++ "\""

/-- A text filled up with blanks in front to a width. -/
def alignRight (width : Nat) (text : String) : String :=
  String.ofList (List.replicate (width - text.length) ' ') ++ text

end Acquisition.Text
