import FluentSql.Dictionary
import FluentSql.Number.Layout

/-!
# JSON values and their text

A JSON value keeps the order of an object's keys. Its text has no blanks. In a string
only quotes, backslashes and the control characters below the space are escaped.
-/

namespace FluentSql

/-- A JSON value. Numbers are integers or finite numbers of 64 bits. -/
inductive Json where
  | null
  | bool (value : Bool)
  | integer (value : Int)
  | float (bits : UInt64)
  | string (value : String)
  | array (items : List Json)
  | object (fields : List (String × Json))
deriving Inhabited

namespace Json

/-- A number of 64 bits as JSON; what is no finite number is null. -/
def ofDouble (bits : UInt64) : Json :=
  match Number.double.magnitude bits.toNat with
  | .finite _ _ => .float bits
  | _ => .null

/-- An object written by some fields, one after the other. -/
def ofFields (fields : List (String × Json)) : Json :=
  .object (Dictionary.ofList fields).entries

/-- One hexadecimal digit, in small letters. -/
def hexDigit (digit : Nat) : Char := Nat.digitChar digit

/-- A character inside the quotes of a JSON string. -/
def escapeChar (char : Char) : List Char :=
  if char = '"' then ['\\', '"']
  else if char = '\\' then ['\\', '\\']
  else if char = '\n' then ['\\', 'n']
  else if char = '\r' then ['\\', 'r']
  else if char = '\t' then ['\\', 't']
  else if char.toNat = 8 then ['\\', 'b']
  else if char.toNat = 12 then ['\\', 'f']
  else if char.toNat < 32 then
    ['\\', 'u', '0', '0', hexDigit (char.toNat / 16), hexDigit (char.toNat % 16)]
  else [char]

/-- A text as a JSON string. -/
def quote (text : List Char) : List Char := '"' :: text.flatMap escapeChar ++ ['"']

mutual

/-- The text of a value. -/
def text : Json → List Char
  | .null => "null".toList
  | .bool value => (if value then "true" else "false").toList
  | .integer value => Number.decimal value
  | .float bits => Number.jsonDouble bits
  | .string value => quote value.toList
  | .array items => '[' :: List.intercalate [','] (itemTexts items) ++ [']']
  | .object fields => '\x7b' :: List.intercalate [','] (fieldTexts fields) ++ ['\x7d']

/-- The texts of the items of an array. -/
def itemTexts : List Json → List (List Char)
  | [] => []
  | item :: rest => item.text :: itemTexts rest

/-- The texts of the fields of an object. -/
def fieldTexts : List (String × Json) → List (List Char)
  | [] => []
  | (key, value) :: rest => (quote key.toList ++ ':' :: value.text) :: fieldTexts rest

end

end Json

end FluentSql
