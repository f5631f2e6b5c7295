import FluentSql.Bind
import FluentSql.Fault
import FluentSql.Text.Utf8

/-!
# Values in SQLite

SQLite stores signed integers and binary numbers of 64 bits, texts and bytes. Bound values
go in by the nearest of these types, and an unsigned integer that has none is refused.
Stored texts and bytes come out as text, broken UTF-8 replaced. What the database makes of a
value in between is its own affair and no part of the two conversions.
-/

namespace FluentSql

/-- A value as it is put into SQLite. -/
inductive Stored where
  | null
  | integer (value : Int64)
  | real (bits : UInt64)
  | text (value : String)
deriving DecidableEq, Repr

/-- A value as SQLite gives it out. -/
inductive Fetched where
  | null
  | integer (value : Int64)
  | real (bits : UInt64)
  | text (bytes : List UInt8)
  | blob (bytes : List UInt8)
deriving DecidableEq, Repr

/-- A bound value as SQLite stores it. -/
def Bind.store : Bind → Except Fault Stored
  | .null => .ok .null
  | .text value => .ok (.text value)
  | .bool value => .ok (.integer (if value then 1 else 0))
  | .integer value =>
    match Number.toInt64? value.toInt with
    | some value => .ok (.integer value)
    | none => .error .integerTooLarge
  | .float32 bits => .ok (.real (UInt64.ofNat (Number.widen bits.toNat)))
  | .float64 bits => .ok (.real bits)

/-- A value given out by SQLite as a bound value. -/
def Bind.ofFetched : Fetched → Bind
  | .null => .null
  | .integer value => .int64 value
  | .real bits => .float64 bits
  | .text bytes | .blob bytes => .text (String.ofList (Text.decodeUtf8 bytes))

end FluentSql
