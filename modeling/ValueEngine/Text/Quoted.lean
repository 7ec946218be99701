import ValueEngine.Text.Shapeless

/-!
# Quoted text

A name is shown in double quotes. Quotes and backslashes are written behind a
backslash, the usual controls by a letter, and any other character without a
shape of its own by its number.
-/

set_option autoImplicit false

namespace ValueEngine.Text

/-- The number of a character in base sixteen. -/
def hexadecimal (number : Nat) : String := String.ofList (Nat.toDigits 16 number)

/-- How a character is written between quotes. -/
def escape (character : Char) : String :=
  if character = '\x00' then "\\0"
  else if character = '\t' then "\\t"
  else if character = '\r' then "\\r"
  else if character = '\n' then "\\n"
  else if character = '"' then "\\\""
  else if character = '\\' then "\\\\"
  else if isShapeless character then "\\u\x7b" ++ hexadecimal character.toNat ++ "\x7d"
  else character.toString

/-- A text in quotes. -/
def quote (text : String) : String := "\"" ++ String.join (text.toList.map escape) ++ "\""

end ValueEngine.Text
