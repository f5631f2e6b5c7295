/-!
# Faults

What can go wrong, by cause. A cause belongs to one kind, and its wording is fixed in
`Fault.message`.
-/

namespace FluentSql

/-- What a statement does. -/
inductive StatementKind where
  | select
  | insert
  | update
  | delete
deriving DecidableEq, Repr, Inhabited

/-- The keyword that begins a statement. -/
def StatementKind.keyword : StatementKind → String
  | .select => "select"
  | .insert => "insert"
  | .update => "update"
  | .delete => "delete"

/-- The kinds of faults that a caller can tell apart. -/
inductive FaultKind where
  /-- An argument that no query can hold. -/
  | invalidArgument
  /-- A statement that the dialect cannot express. -/
  | unsupportedOperation
  /-- A query that lacks what its statement needs. -/
  | compilationPrecondition
  /-- A failure reported by the connection. -/
  | connection
  /-- A value that SQLite cannot store. -/
  | sqlite
  /-- Text or data that is not what a JSON reader expects. -/
  | json
deriving DecidableEq, Repr

/-- A cause of failure. -/
inductive Fault where
  | unknownBucket (name : String)
  | emptyOperator
  | operatorWithPlaceholder (text : String)
  | missingColumn (label : String)
  /-- An update or delete with joins where the dialect has none. -/
  | joinedMutation (statement : StatementKind)
  | noBundledDriver
  | missingTable (statement : StatementKind)
  | listingWithoutTable
  | noRows
  | noAssignments
  | executedSelect
  | connection (report : String)
  | integerTooLarge
  | malformedJson
deriving DecidableEq, Repr

namespace Fault

/-- The kind of a cause. -/
def kind : Fault → FaultKind
  | unknownBucket _ | emptyOperator | operatorWithPlaceholder _ | missingColumn _ =>
    .invalidArgument
  | joinedMutation _ | noBundledDriver => .unsupportedOperation
  | missingTable _ | listingWithoutTable | noRows | noAssignments | executedSelect =>
    .compilationPrecondition
  | .connection _ => .connection
  | integerTooLarge => .sqlite
  | malformedJson => .json

/-- The cause in words. -/
def detail : Fault → String
  | unknownBucket name => "invalid binding type: " ++ name
  | emptyOperator => "empty operator"
  | operatorWithPlaceholder text => "operator `" ++ text ++ "` contains a placeholder"
  | missingColumn label => "column `" ++ label ++ "` missing from result"
  | joinedMutation statement =>
    "this grammar does not support " ++ statement.keyword ++ " with join clauses"
  | noBundledDriver => "no mysql driver is bundled, wrap one in a Connection and use Db::new"
  | missingTable statement => statement.keyword ++ " requires a table"
  | listingWithoutTable => "column listing requires a table"
  | noRows => "insert requires at least one row"
  | noAssignments => "update requires at least one assignment"
  | executedSelect => "execute requires an insert, update or delete"
  | .connection report => report
  | integerTooLarge => "number too large to fit in target type"
  | malformedJson => ""

end Fault

/-- The words in front of every fault of a kind. -/
def FaultKind.heading : FaultKind → String
  | invalidArgument => "invalid argument: "
  | unsupportedOperation => "unsupported operation: "
  | compilationPrecondition => "cannot compile query: "
  | connection => "connection error: "
  | sqlite => "sqlite error: "
  | json => "json error: "

/-- The full wording of a fault. -/
def Fault.message (fault : Fault) : String := fault.kind.heading ++ fault.detail

end FluentSql
