/-!
# Dialects

The two dialects of SQL that statements are written in.
-/

namespace FluentSql

/-- A dialect of SQL. -/
inductive Dialect where
  | mysql
  | sqlite
deriving DecidableEq, Repr

/-- MySQL is the dialect of a builder that was given none. -/
instance : Inhabited Dialect := ⟨.mysql⟩

namespace Dialect

/-- The name of a dialect in configurations. -/
def name : Dialect → String
  | mysql => "mysql"
  | sqlite => "sqlite"

/-- The dialect of a name. -/
def ofName? (name : String) : Option Dialect :=
  [mysql, sqlite].find? fun dialect => dialect.name = name

/-- The name of a dialect in descriptions. -/
def title : Dialect → String
  | mysql => "MySql"
  | sqlite => "Sqlite"

/-- Whether an update or delete may have joins. -/
def joinsMutations : Dialect → Bool
  | mysql => true
  | sqlite => false

end Dialect

end FluentSql
