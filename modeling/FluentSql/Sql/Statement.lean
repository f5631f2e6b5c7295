import FluentSql.Query.Builder
import FluentSql.Sql.Clause

/-!
# Statements

A query becomes a statement of its kind. First it is checked that the query has what
the statement needs and that every operator that will be written can be written; the
first thing missing is reported. Then the statement is written, which never fails.
-/

namespace FluentSql

namespace Sql

open Fragment

/-- Columns with commas between them, or `*` if there is none. -/
def columnList (dialect : Dialect) (columns : List Reference) : Fragment :=
  match columns with
  | [] => fixed "*"
  | columns => separated ", " (columns.map (reference dialect))

/-- The columns of a select list, JSON values without their quotes. -/
def selectList (dialect : Dialect) (columns : List Reference) : Fragment :=
  match columns with
  | [] => fixed "*"
  | columns => separated ", "
      (columns.map fun column => [.text (wrap dialect (unquoteSelected column.toList))])

/-- The words that begin a plain select. -/
def selectHead (dialect : Dialect) (query : Query) : Fragment :=
  fixed (if query.distinct then "select distinct " else "select ") ++
    selectList dialect query.columns.toList

/-- The words that begin an aggregate select. All columns are not told apart, so a single
`*` is not counted as distinct. -/
def aggregateHead (dialect : Dialect) (query : Query) (aggregate : Aggregate) : Fragment :=
  let wildcard := aggregate.columns.size ≤ 1 && Columns.isWildcard aggregate.columns
  fixed "select " ++ fixed aggregate.function.name ++ fixed "(" ++
    (if query.distinct && !wildcard then fixed "distinct " else []) ++
    columnList dialect aggregate.columns.toList ++ fixed ") as aggregate"

/-- One join. -/
def join (dialect : Dialect) (join : Join) : Fragment :=
  fixed " " ++ fixed join.kind.keyword ++ fixed " " ++ reference dialect join.table ++
    if join.constraints.isEmpty then [] else fixed " on " ++ constraints dialect join.constraints

/-- All joins. -/
def joins (dialect : Dialect) (joins : List Join) : Fragment := joins.flatMap (join dialect)

/-- The where part. -/
def wheres (dialect : Dialect) (list : List (Connector × Condition)) : Fragment :=
  if list.isEmpty then [] else fixed " where " ++ conditions dialect list

/-- The grouping. -/
def groups (dialect : Dialect) (columns : Columns) : Fragment :=
  if columns.isEmpty then [] else fixed " group by " ++ columnList dialect columns.toList

/-- The order. -/
def orders (dialect : Dialect) (orders : List Ordering) : Fragment :=
  if orders.isEmpty then []
  else fixed " order by " ++ separated ", " (orders.map fun order =>
    reference dialect order.column ++ fixed " " ++ fixed order.direction.keyword)

/-- A number in a statement. -/
def number (value : Nat) : Fragment := [.text (Number.digits value)]

/-- The limit. -/
def limit (pagination : Pagination) : Fragment :=
  match pagination.limit? with
  | some count => fixed " limit " ++ number count
  | none => []

/-- The offset. -/
def offset (pagination : Pagination) : Fragment :=
  match pagination.offset? with
  | some count => fixed " offset " ++ number count
  | none => []

/-- The lock; SQLite has none. -/
def lock (dialect : Dialect) (lock? : Option Lock) : Fragment :=
  match dialect, lock? with
  | .mysql, some .forUpdate => fixed " for update"
  | .mysql, some .shared => fixed " lock in share mode"
  | _, _ => []

/-- What follows the select list. -/
def selectTail (dialect : Dialect) (query : Query) : Fragment :=
  (match query.table? with
    | some table => fixed " from " ++ reference dialect table
    | none => []) ++
  joins dialect query.joins ++ wheres dialect query.conditions ++ groups dialect query.groups ++
    orders dialect query.orders ++ limit query.pagination ++ offset query.pagination ++
    lock dialect query.lock?

/-- A select. -/
def select (dialect : Dialect) (query : Query) : Fragment :=
  (match query.aggregate? with
    | some aggregate => aggregateHead dialect query aggregate
    | none => selectHead dialect query) ++ selectTail dialect query

/-- An insert. All rows are taken to have the columns of the first. -/
def insert (dialect : Dialect) (table : Reference) (first : Row) (rows : List Row) : Fragment :=
  fixed "insert into " ++ reference dialect table ++ fixed " (" ++
    columnList dialect first.keys ++ fixed ") values " ++
    separated ", " (rows.map fun _ => parenthesized (placeholderList first.size))

/-- One assignment. A JSON selector changes its field at a path. -/
def assignment (dialect : Dialect) (column : Reference) : Fragment :=
  if Text.contains arrow column.toList then
    let place := JsonPlace.ofText column.toList
    placeField dialect place ++ fixed " = json_set(" ++ placeField dialect place ++
      placePath place ++ fixed ", " ++ placeholder ++ fixed ")"
  else reference dialect column ++ fixed " = " ++ placeholder

/-- What follows the assignments of an update or the table of a delete. -/
def mutationTail (dialect : Dialect) (query : Query) : Fragment :=
  wheres dialect query.conditions ++ orders dialect query.orders ++ limit query.pagination

/-- An update. -/
def update (dialect : Dialect) (table : Reference) (query : Query) : Fragment :=
  fixed "update " ++ reference dialect table ++ joins dialect query.joins ++ fixed " set " ++
    separated ", " (query.updates.keys.map (assignment dialect)) ++ mutationTail dialect query

/-- The name by which a delete with joins calls its own table. -/
def deletedName (dialect : Dialect) (table : Reference) : Fragment :=
  match Reference.alias? table with
  | some name => [.text (quoteIdentifier (Text.trim name))]
  | none => reference dialect table

/-- A delete. With joins it has neither order nor limit. -/
def delete (dialect : Dialect) (table : Reference) (query : Query) : Fragment :=
  if query.hasJoins then
    fixed "delete " ++ deletedName dialect table ++ fixed " from " ++ reference dialect table ++
      joins dialect query.joins ++ wheres dialect query.conditions
  else fixed "delete from " ++ reference dialect table ++ mutationTail dialect query

end Sql

namespace Query

/-- The operators that a statement writes in its joins and conditions, in order. -/
def operators (query : Query) : List Operator :=
  (query.joins.flatMap fun join => Constraint.allOperators join.constraints) ++
    Condition.allOperators query.conditions

/-- Refuse a query with an operator that cannot be written, because of the first such. -/
def checkOperators (query : Query) : Except Fault Unit :=
  match query.operators.findSome? Operator.fault? with
  | some fault => .error fault
  | none => .ok ()

/-- The table of a statement that needs one. -/
def requireTable (query : Query) (statement : StatementKind) : Except Fault Reference :=
  match query.table? with
  | some table => .ok table
  | none => .error (.missingTable statement)

/-- Refuse a statement with joins in a dialect that has none for it. -/
def checkJoins (query : Query) (dialect : Dialect) (statement : StatementKind) :
    Except Fault Unit :=
  if query.hasJoins && !dialect.joinsMutations then .error (.joinedMutation statement) else .ok ()

/-- The statement of a query, or the first thing that keeps it from being written. -/
def compile (dialect : Dialect) (query : Query) : Except Fault Fragment :=
  match query.kind with
  | .select => do
    query.checkOperators
    return Sql.select dialect query
  | .insert => do
    let table ← query.requireTable .insert
    match query.rows with
    | [] => throw .noRows
    | first :: rest => return Sql.insert dialect table first (first :: rest)
  | .update => do
    query.checkJoins dialect .update
    let table ← query.requireTable .update
    if query.updates.isEmpty then throw .noAssignments
    query.checkOperators
    return Sql.update dialect table query
  | .delete => do
    query.checkJoins dialect .delete
    let table ← query.requireTable .delete
    query.checkOperators
    return Sql.delete dialect table query

/-- The text of the statement. -/
def sql (dialect : Dialect) (query : Query) : Except Fault String :=
  match query.compile dialect with
  | .ok statement => .ok (String.ofList statement.text)
  | .error fault => .error fault

end Query

namespace Builder

/-- The text of the statement in the builder's own dialect. -/
def sql (builder : Builder) : Except Fault String := builder.query.sql builder.dialect

end Builder

end FluentSql
