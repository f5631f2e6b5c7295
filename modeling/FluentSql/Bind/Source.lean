import FluentSql.Bind
import FluentSql.Calendar

/-!
# Binding values of other types

Values that are no scalars of their own are bound as one: characters, dates, times and
identifiers as text, machine sizes as unsigned integers of 64 bits, and an absent value
as null.
-/

namespace FluentSql.Bind

/-- Bind a character. -/
def ofChar (char : Char) : Bind := .text (String.singleton char)

/-- Bind a machine size. -/
def ofSize (size : UInt64) : Bind := .integer (.uint64 size)

/-- Bind a value that may be absent. -/
def ofOption (value : Option Bind) : Bind := value.getD .null

/-- Bind a date. -/
def ofDate (date : Date) : Bind := .text (String.ofList date.text)

/-- Bind a time of day. -/
def ofTime (time : Time) : Bind := .text (String.ofList time.text)

/-- Bind a date with a time. -/
def ofDateTime (date : Date) (time : Time) : Bind :=
  .text (String.ofList (date.text ++ ' ' :: time.text))

/-- Bind an identifier of 128 bits. -/
def ofUuid (identifier : Nat) : Bind := .text (String.ofList (uuidText identifier))

end FluentSql.Bind
