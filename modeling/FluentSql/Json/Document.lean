/-!
# Reading JSON text

A strict reader of JSON text. Blanks are the space, tab, line feed and carriage return.
Control characters in strings, unknown escapes, leading zeros and commas without a value
after them are refused, and so is anything after the value. A string may hold escaped
surrogates without partner; it then has no text, which is for its user to refuse.
-/

namespace FluentSql

/-- JSON as read from text. Numbers are not kept. -/
inductive Document where
  | null
  | bool (value : Bool)
  | number
  /-- A string, with its text if it has one. -/
  | string (text? : Option String)
  | array (items : List Document)
  | object (fields : List (Option String × Document))
deriving Inhabited

namespace Document

/-- Drop the blanks in front. -/
def skipBlanks (text : List Char) : List Char :=
  text.dropWhile fun char => char = ' ' || char = '\t' || char = '\n' || char = '\r'

/-- The value of a hexadecimal digit. -/
def hexValue? (char : Char) : Option Nat :=
  if char.isDigit then some (char.toNat - '0'.toNat)
  else if 'a' ≤ char ∧ char ≤ 'f' then some (char.toNat - 'a'.toNat + 10)
  else if 'A' ≤ char ∧ char ≤ 'F' then some (char.toNat - 'A'.toNat + 10)
  else none

/-- The value of four hexadecimal digits. -/
def hexWord? (first second third fourth : Char) : Option Nat := do
  let high := (← hexValue? first) * 16 + (← hexValue? second)
  let low := (← hexValue? third) * 16 + (← hexValue? fourth)
  return high * 256 + low

/-- What an escape of one letter stands for. -/
def escaped? (char : Char) : Option Nat :=
  if char = '"' ∨ char = '\\' ∨ char = '/' then some char.toNat
  else if char = 'b' then some 8
  else if char = 'f' then some 12
  else if char = 'n' then some 10
  else if char = 'r' then some 13
  else if char = 't' then some 9
  else none

/-- The code points and escaped words of a string after its opening quote, and the text
after its closing quote. -/
def readString : List Char → Option (List Nat × List Char)
  | [] => none
  | '"' :: rest => some ([], rest)
  | '\\' :: 'u' :: first :: second :: third :: fourth :: rest => do
    let word ← hexWord? first second third fourth
    let (words, rest) ← readString rest
    return (word :: words, rest)
  | '\\' :: char :: rest => do
    let code ← escaped? char
    let (words, rest) ← readString rest
    return (code :: words, rest)
  | char :: rest =>
    if char.toNat < 32 then none
    else do
      let (words, rest) ← readString rest
      return (char.toNat :: words, rest)

/-- The text of code points and escaped words. A high surrogate takes the low one after it
as partner; without partner there is no text. -/
def joinSurrogates? : List Nat → Option (List Char)
  | [] => some []
  | word :: rest =>
    if 0xD800 ≤ word ∧ word < 0xDC00 then
      match rest with
      | low :: rest =>
        if 0xDC00 ≤ low ∧ low < 0xE000 then
          (joinSurrogates? rest).map fun text =>
            Char.ofNat (0x10000 + (word - 0xD800) * 0x400 + (low - 0xDC00)) :: text
        else none
      | [] => none
    else if 0xDC00 ≤ word ∧ word < 0xE000 then none
    else (joinSurrogates? rest).map fun text => Char.ofNat word :: text

/-- The text after at least one digit. -/
def skipDigits? : List Char → Option (List Char)
  | [] => none
  | char :: rest => if char.isDigit then some (rest.dropWhile Char.isDigit) else none

/-- The text after the digits in front of a number's point: zero, or digits that do not
begin with zero. -/
def skipWhole? : List Char → Option (List Char)
  | '0' :: rest => some rest
  | text => skipDigits? text

/-- The text after a point and digits, if there is a point. -/
def skipFraction? : List Char → Option (List Char)
  | '.' :: rest => skipDigits? rest
  | text => some text

/-- The text after a sign, if there is one. -/
def skipSign : List Char → List Char
  | '+' :: rest => rest
  | '-' :: rest => rest
  | text => text

/-- The text after an exponent, if there is one. -/
def skipExponent? : List Char → Option (List Char)
  | 'e' :: rest => skipDigits? (skipSign rest)
  | 'E' :: rest => skipDigits? (skipSign rest)
  | text => some text

/-- The text after a number. -/
def skipNumber? : List Char → Option (List Char)
  | '-' :: rest => do skipExponent? (← skipFraction? (← skipWhole? rest))
  | text => do skipExponent? (← skipFraction? (← skipWhole? text))

mutual

/-- Read a value; `fuel` bounds the number of values and members begun. -/
def readValue : (fuel : Nat) → List Char → Option (Document × List Char)
  | 0, _ => none
  | fuel + 1, text =>
    match skipBlanks text with
    | 'n' :: 'u' :: 'l' :: 'l' :: rest => some (.null, rest)
    | 't' :: 'r' :: 'u' :: 'e' :: rest => some (.bool true, rest)
    | 'f' :: 'a' :: 'l' :: 's' :: 'e' :: rest => some (.bool false, rest)
    | '"' :: rest => do
      let (words, rest) ← readString rest
      return (.string ((joinSurrogates? words).map String.ofList), rest)
    | '[' :: rest =>
      match skipBlanks rest with
      | ']' :: rest => some (.array [], rest)
      | rest => do
        let (items, rest) ← readItems fuel rest
        return (.array items, rest)
    | '\x7b' :: rest =>
      match skipBlanks rest with
      | '\x7d' :: rest => some (.object [], rest)
      | rest => do
        let (fields, rest) ← readFields fuel rest
        return (.object fields, rest)
    | text => do
      let rest ← skipNumber? text
      return (.number, rest)

/-- Read the items of an array that is not empty. -/
def readItems : (fuel : Nat) → List Char → Option (List Document × List Char)
  | 0, _ => none
  | fuel + 1, text => do
    let (item, rest) ← readValue fuel text
    match skipBlanks rest with
    | ',' :: rest =>
      let (items, rest) ← readItems fuel rest
      return (item :: items, rest)
    | ']' :: rest => return ([item], rest)
    | _ => none

/-- Read the fields of an object that is not empty. -/
def readFields : (fuel : Nat) → List Char → Option (List (Option String × Document) × List Char)
  | 0, _ => none
  | fuel + 1, text =>
    match skipBlanks text with
    | '"' :: rest => do
      let (words, rest) ← readString rest
      let key := (joinSurrogates? words).map String.ofList
      match skipBlanks rest with
      | ':' :: rest =>
        let (value, rest) ← readValue fuel rest
        match skipBlanks rest with
        | ',' :: rest =>
          let (fields, rest) ← readFields fuel rest
          return ((key, value) :: fields, rest)
        | '\x7d' :: rest => return ([(key, value)], rest)
        | _ => none
      | _ => none
    | _ => none

end

/-- Read a text that is one value. A value or member begins at most twice at any place. -/
def ofText? (text : List Char) : Option Document := do
  let (document, rest) ← readValue (2 * text.length + 2) text
  if (skipBlanks rest).isEmpty then some document else none

end Document

end FluentSql
