import FluentSql.Bind
import FluentSql.Json.Value

/-!
# Bound values as JSON

A bound value has a JSON text of its own, in which a number of 32 bits has the digits
that tell it from others of 32 bits. As a JSON value such a number is widened first.
-/

namespace FluentSql

namespace Bind

/-- The JSON text of a bound value. -/
def jsonText : Bind → List Char
  | .null => "null".toList
  | .text value => Json.quote value.toList
  | .bool value => (if value then "true" else "false").toList
  | .integer value => Number.decimal value.toInt
  | .float32 bits => Number.jsonSingle bits
  | .float64 bits => Number.jsonDouble bits

/-- A bound value as a JSON value. -/
def toJson : Bind → Json
  | .null => .null
  | .text value => .string value
  | .bool value => .bool value
  | .integer value => .integer value.toInt
  | .float32 bits => Json.ofDouble (UInt64.ofNat (Number.widen bits.toNat))
  | .float64 bits => Json.ofDouble bits

end Bind

end FluentSql
