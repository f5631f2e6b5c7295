import FluentSql.Text.Shown

/-!
# Texts in descriptions

A text in a description stands in double quotes. Quotes, backslashes and the common
control characters are escaped by a letter or digit, and other characters that cannot be
shown by their number.
-/

namespace FluentSql.Text

/-- A character inside the quotes of a description. -/
def describeChar (char : Char) : List Char :=
  if char = '"' then ['\\', '"']
  else if char = '\\' then ['\\', '\\']
  else if char = '\n' then ['\\', 'n']
  else if char = '\r' then ['\\', 'r']
  else if char = '\t' then ['\\', 't']
  else if char.toNat = 0 then ['\\', '0']
  else if isHidden char then
    "\\u\x7b".toList ++ Nat.toDigits 16 char.toNat ++ ['\x7d']
  else [char]

/-- A text in quotes. -/
def described (text : List Char) : List Char := '"' :: text.flatMap describeChar ++ ['"']

end FluentSql.Text
