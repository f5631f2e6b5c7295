import FluentSql.Number.Layout
import FluentSql.Text.Blank

/-!
# Bound values

The scalars that are bound to the placeholders of a statement. Integers keep the
width they came with. Floating point values are kept as bit patterns.
-/

namespace FluentSql

/-- An integer together with its width. -/
inductive Integer where
  | int8 (value : Int8)
  | int16 (value : Int16)
  | int32 (value : Int32)
  | int64 (value : Int64)
  | uint8 (value : UInt8)
  | uint16 (value : UInt16)
  | uint32 (value : UInt32)
  | uint64 (value : UInt64)
deriving DecidableEq, Repr

/-- The number, its width left out. -/
def Integer.toInt : Integer → Int
  | .int8 value => value.toInt
  | .int16 value => value.toInt
  | .int32 value => value.toInt
  | .int64 value => value.toInt
  | .uint8 value => value.toNat
  | .uint16 value => value.toNat
  | .uint32 value => value.toNat
  | .uint64 value => value.toNat

/-- A scalar that can be bound. -/
inductive Bind where
  | null
  | text (value : String)
  | bool (value : Bool)
  | integer (value : Integer)
  | float32 (bits : UInt32)
  | float64 (bits : UInt64)
deriving DecidableEq, Repr, Inhabited

namespace Bind

/-- The 64 bit integer bound as itself. -/
def int64 (value : Int64) : Bind := .integer (.int64 value)

/-- Whether the value is null. -/
def isNull : Bind → Bool
  | .null => true
  | _ => false

/-- The text of a text value, and nothing for any other. -/
def asText : Bind → Option String
  | .text value => some value
  | _ => none

/-- The value as a signed 64 bit integer. Truth values count as 0 and 1, floating point
numbers lose their fraction and stop at the ends of the range, and a text is read
after trimming. -/
def asInt64 : Bind → Option Int64
  | .null => none
  | .text value => (Number.readInteger? (Text.trim value.toList)).bind Number.toInt64?
  | .bool value => some (if value then 1 else 0)
  | .integer value => Number.toInt64? value.toInt
  | .float32 bits =>
    some (Int64.ofInt (Number.truncateToInt64 (Number.single.isNegative bits.toNat)
      (Number.single.magnitude bits.toNat)))
  | .float64 bits =>
    some (Int64.ofInt (Number.truncateToInt64 (Number.double.isNegative bits.toNat)
      (Number.double.magnitude bits.toNat)))

/-- The text of a value for people; null has none. -/
def display : Bind → String
  | .null => ""
  | .text value => value
  | .bool value => if value then "true" else "false"
  | .integer value => String.ofList (Number.decimal value.toInt)
  | .float32 bits => String.ofList (Number.displaySingle bits)
  | .float64 bits => String.ofList (Number.displayDouble bits)

/-- Whether two values are equal: of the same type and width, and floating point values
equal as numbers. -/
def equals : Bind → Bind → Bool
  | .float32 left, .float32 right =>
    Number.equalNumbers Number.single left.toNat right.toNat
  | .float64 left, .float64 right =>
    Number.equalNumbers Number.double left.toNat right.toNat
  | left, right => left = right

end Bind

end FluentSql
