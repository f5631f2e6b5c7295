import FluentSql.Number.Decimal
import FluentSql.Number.Shortest

/-!
# Layouts of floating point text

A layout says how the digits of a number are set: where positional notation ends,
whether a whole number keeps a point and a zero, and what stands for values that are
no finite number.
-/

namespace FluentSql.Number

/-- The decisions of one text format. -/
structure Layout where
  tie : Tie
  /-- Whether a number whose first digit has this power of ten is written without one. -/
  positional : Int → Bool
  /-- Whether a whole number in positional notation ends in `.0`. -/
  keepsPoint : Bool
  nan : List Char
  /-- Positive and negative infinity. -/
  infinity : List Char
  negativeInfinity : List Char

/-- Digits in positional notation. -/
def Layout.writePositional (layout : Layout) (number : Scientific) : List Char :=
  if number.exponent < 0 then
    '0' :: '.' :: List.replicate ((-number.exponent).toNat - 1) '0' ++ number.digits
  else
    let whole := number.exponent.toNat + 1
    if number.digits.length ≤ whole then
      number.digits ++ List.replicate (whole - number.digits.length) '0' ++
        if layout.keepsPoint then ['.', '0'] else []
    else
      number.digits.take whole ++ '.' :: number.digits.drop whole

/-- Digits with a point after the first one and a signed power of ten. -/
def writeScientific (number : Scientific) : List Char :=
  let fraction := match number.digits.drop 1 with
    | [] => []
    | rest => '.' :: rest
  let power := if number.exponent < 0 then decimal number.exponent
    else '+' :: decimal number.exponent
  number.digits.take 1 ++ fraction ++ 'e' :: power

/-- The text of a positive finite number. -/
def Layout.writeScientificOrPositional (layout : Layout) (number : Scientific) : List Char :=
  if layout.positional number.exponent then layout.writePositional number
  else writeScientific number

/-- The text of the number that a bit pattern stands for. -/
def Layout.write (layout : Layout) (format : BinaryFormat) (bits : Nat) : List Char :=
  let negative := format.isNegative bits
  let signed (text : List Char) : List Char := if negative then '-' :: text else text
  match format.magnitude bits with
  | .nan _ => layout.nan
  | .infinite => if negative then layout.negativeInfinity else layout.infinity
  | .finite significand exponent =>
    if significand = 0 then
      signed ('0' :: if layout.keepsPoint then ['.', '0'] else [])
    else
      signed (layout.writeScientificOrPositional (shortest layout.tie format significand exponent))

/-- Text for people: always positional, nothing after a whole number, a half goes up. -/
def displayLayout : Layout where
  tie := .up
  positional := fun _ => true
  keepsPoint := false
  nan := "NaN".toList
  infinity := "inf".toList
  negativeInfinity := "-inf".toList

/-- Text in JSON: positional while the first digit has a power of ten between
`lowest` and `highest`, a half goes to the even neighbour, and `null` for anything
that is no finite number. -/
def jsonLayout (lowest highest : Int) : Layout where
  tie := .toEven
  positional := fun exponent => lowest ≤ exponent && exponent ≤ highest
  keepsPoint := true
  nan := "null".toList
  infinity := "null".toList
  negativeInfinity := "null".toList

/-- The JSON text of a number of 64 bits. -/
def jsonDouble (bits : UInt64) : List Char := (jsonLayout (-5) 15).write double bits.toNat

/-- The JSON text of a number of 32 bits. -/
def jsonSingle (bits : UInt32) : List Char := (jsonLayout (-6) 12).write single bits.toNat

/-- The text for people of a number of 64 bits. -/
def displayDouble (bits : UInt64) : List Char := displayLayout.write double bits.toNat

/-- The text for people of a number of 32 bits. -/
def displaySingle (bits : UInt32) : List Char := displayLayout.write single bits.toNat

end FluentSql.Number
