import FluentSql.Fault
import FluentSql.Json.Bound

/-!
# Records

A record is one fetched row: its columns with their values in the order of the select
list. It can be written as a JSON object, and read through JSON as a value of another
type.
-/

namespace FluentSql

/-- One fetched row. -/
abbrev Record := Dictionary Bind

namespace Record

/-- The value of the first column. -/
def firstValue? (record : Record) : Option Bind := (record.entry? 0).map Prod.snd

/-- The JSON text of a record. -/
def jsonText (record : Record) : List Char :=
  '\x7b' :: List.intercalate [','] (record.entries.map fun entry =>
    Json.quote entry.1.toList ++ ':' :: entry.2.jsonText) ++ ['\x7d']

/-- A record as a JSON object. -/
def toJson (record : Record) : Json :=
  .object (record.entries.map fun entry => (entry.1, entry.2.toJson))

end Record

/-- A JSON reader of values of a type. -/
abbrev JsonReader (α : Type) := Json → Except Fault α

namespace JsonReader

/-- Any value. -/
def any : JsonReader Json := .ok

/-- A text. -/
def string : JsonReader String
  | .string value => .ok value
  | _ => .error .malformedJson

/-- An integer of 64 bits; a number with a fraction part is none, even if it is zero. -/
def int64 : JsonReader Int64
  | .integer value =>
    match Number.toInt64? value with
    | some value => .ok value
    | none => .error .malformedJson
  | _ => .error .malformedJson

/-- A value that may be null. -/
def optional {α : Type} (reader : JsonReader α) : JsonReader (Option α)
  | .null => .ok none
  | value => (reader value).map some

/-- The field of an object, or null if there is none. -/
def fieldOrNull (name : String) : JsonReader Json
  | .object fields => .ok (((fields.find? fun field => field.1 = name).map Prod.snd).getD .null)
  | _ => .error .malformedJson

/-- The field of an object. -/
def field (name : String) : JsonReader Json
  | .object fields =>
    match fields.find? fun field => field.1 = name with
    | some (_, value) => .ok value
    | none => .error .malformedJson
  | _ => .error .malformedJson

end JsonReader

/-- A record read by a JSON reader. -/
def Record.read {α : Type} (reader : JsonReader α) (record : Record) : Except Fault α :=
  reader (Record.toJson record)

/-- A user of an application, as an example of a type that records are read as. -/
structure User where
  id : Int64
  name : String
  nickname : Option String
deriving DecidableEq, Repr

/-- Read a user by the names of the fields. A nickname may be missing, and further columns
are not looked at. -/
def User.reader : JsonReader User := fun value => do
  let id ← JsonReader.int64 (← JsonReader.field "id" value)
  let name ← JsonReader.string (← JsonReader.field "name" value)
  let nickname ← JsonReader.optional JsonReader.string (← JsonReader.fieldOrNull "nickname" value)
  return ⟨id, name, nickname⟩

end FluentSql
