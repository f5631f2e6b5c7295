import FluentSql.Dialect
import FluentSql.Fault
import FluentSql.Json.Document

/-!
# Connection settings

Settings are read from a JSON object by the names of its fields, or from an array by
position. What is missing has its default. A known field that comes twice or has no
fitting value is refused; unknown fields are not looked at.
-/

namespace FluentSql

/-- Which database to connect to. -/
structure Config where
  driver : Dialect
  /-- Where the database is. -/
  url : String
  /-- What is put in front of every table name. -/
  tablePrefix : String
deriving DecidableEq, Repr

namespace Config

/-- The settings when none are given. -/
def standard : Config := ⟨default, ":memory:", ""⟩

/-- The settings that can be given, in the order of an array. -/
inductive Setting where
  | driver
  | url
  | tablePrefix
deriving DecidableEq, Repr

/-- All settings in the order of an array. -/
def settings : List Setting := [.driver, .url, .tablePrefix]

/-- The field of a setting. -/
def Setting.name : Setting → String
  | .driver => "driver"
  | .url => "url"
  | .tablePrefix => "prefix"

/-- The dialect in a document: its name, or an object whose one field has that name and is
null. -/
def readDialect? : Document → Option Dialect
  | .string (some name) => Dialect.ofName? name
  | .object [(some name, .null)] => Dialect.ofName? name
  | _ => none

/-- The text in a document. -/
def readText? : Document → Option String
  | .string (some text) => some text
  | _ => none

/-- Take over one setting. -/
def read? (config : Config) (setting : Setting) (document : Document) : Option Config :=
  match setting with
  | .driver => (readDialect? document).map fun driver => { config with driver := driver }
  | .url => (readText? document).map fun url => { config with url := url }
  | .tablePrefix => (readText? document).map fun text => { config with tablePrefix := text }

/-- Take over the fields of an object, where `seen` have been given before. -/
def readFields? (config : Config) (seen : List Setting) :
    List (Option String × Document) → Option Config
  | [] => some config
  | (key, value) :: rest => do
    let name ← key
    match settings.find? fun setting => setting.name = name with
    | some setting =>
      if setting ∈ seen then none
      else readFields? (← read? config setting value) (setting :: seen) rest
    | none => readFields? config seen rest

/-- Take over the items of an array for the settings in order. -/
def readItems? (config : Config) : List Setting → List Document → Option Config
  | _, [] => some config
  | [], _ :: _ => none
  | setting :: settings, document :: rest => do
    readItems? (← read? config setting document) settings rest

/-- The settings in a document. -/
def ofDocument? : Document → Option Config
  | .object fields => readFields? standard [] fields
  | .array items => readItems? standard settings items
  | _ => none

/-- The settings in a JSON text. -/
def ofJson (text : String) : Except Fault Config :=
  match (Document.ofText? text.toList).bind ofDocument? with
  | some config => .ok config
  | none => .error .malformedJson

end Config

end FluentSql
