import FluentSql.Dialect
import FluentSql.Json.Value
import FluentSql.Query.Join

/-!
# Building queries

A builder is a query together with the dialect that it is to be written in. Every
operation returns a new builder. Operations add to what is there; only `select`,
`from`, `update`, the pagination, the locks and the dialect replace. The first
initiating operation (`select`, `insert`, `update`, `set`, `delete`) decides the kind of
the statement; a later one of another kind leaves the kind alone and still does the
rest of its work.
-/

namespace FluentSql

/-- A query and the dialect that it is written in. -/
structure Builder where
  dialect : Dialect
  query : Query

namespace Builder

/-- A builder that knows nothing but its dialect. -/
def new (dialect : Dialect) : Builder := ⟨dialect, .empty⟩

/-- A builder for a table. -/
def table (dialect : Dialect) (table : Reference) : Builder :=
  ⟨dialect, { Query.empty with table? := some table }⟩

/-- A builder on which no call has been made. -/
inductive Fresh : Builder → Prop where
  | new (dialect : Dialect) : Fresh (Builder.new dialect)
  | table (dialect : Dialect) (table : Reference) : Fresh (Builder.table dialect table)

/-- Change the query. -/
def modify (change : Query → Query) (builder : Builder) : Builder :=
  { builder with query := change builder.query }

/-- Write in another dialect. -/
def withDialect (dialect : Dialect) (builder : Builder) : Builder :=
  { builder with dialect := dialect }

/-- Choose the kind of the statement, unless it is chosen. -/
def initiate (kind : StatementKind) : Builder → Builder :=
  modify fun query => { query with kind? := some (query.kind?.getD kind) }

/-! ## Statement and columns -/

/-- Start a select, or replace the columns. -/
def select (columns : Columns) (builder : Builder) : Builder :=
  (builder.initiate .select).modify fun query => { query with columns := columns }

/-- Add columns to the select list. -/
def addSelect (columns : Columns) : Builder → Builder :=
  modify fun query => { query with columns := query.columns ++ columns }

/-- Ask for different rows only. -/
def distinct : Builder → Builder := modify fun query => { query with distinct := true }

/-- Replace the table. -/
def fromTable (table : Reference) : Builder → Builder :=
  modify fun query => { query with table? := some table }

/-- Add one row to insert, its values to the bucket of inserts. -/
def addRow (row : Row) : Builder → Builder :=
  modify fun query => { query with
    buckets := query.buckets.add .inserts (.ofList row.values)
    rows := query.rows ++ [row] }

/-- Start an insert, or add rows to it. -/
def insert (rows : List Row) (builder : Builder) : Builder :=
  rows.foldl (fun builder row => builder.addRow row) (builder.initiate .insert)

/-- Start an update, or replace its assignments. -/
def update (values : Row) (builder : Builder) : Builder :=
  (builder.initiate .update).modify fun query => { query with updates := values }

/-- Start an update, or add one assignment to it. -/
def set (column : Reference) (value : Bind) (builder : Builder) : Builder :=
  (builder.initiate .update).modify fun query =>
    { query with updates := query.updates.insert column value }

/-- Start a delete. -/
def delete : Builder → Builder := initiate .delete

/-! ## Joins -/

/-- Add a join and take over its bindings. -/
def addJoin (join : Join) : Builder → Builder :=
  modify fun query => { query with
    buckets := query.buckets.add .join join.bindings
    joins := query.joins ++ [{ join with bindings := .none }] }

/-- Join a table on two columns. -/
def joinColumns (kind : JoinKind) (table first : Reference) (operator : Operator)
    (second : Reference) : Builder → Builder :=
  addJoin ((Join.on kind table).compareColumns .and first operator second)

/-- Join a table on a column and a value. -/
def joinValue (kind : JoinKind) (table column : Reference) (operator : Operator)
    (value : Bind) : Builder → Builder :=
  addJoin ((Join.on kind table).compareValue .and column operator value)

/-- Join a table on the constraints added by `fill`. -/
def joinWith (kind : JoinKind) (table : Reference) (fill : Join → Join) : Builder → Builder :=
  addJoin (fill (Join.on kind table))

/-! ## Where conditions -/

/-- Add one condition and the values that it binds. -/
def addCondition (connector : Connector) (condition : Condition) (values : Items Bind) :
    Builder → Builder :=
  modify fun query => { query with
    buckets := query.buckets.add .filter values
    conditions := query.conditions ++ [(connector, condition)] }

/-- Compare a column with a value. With null, equality asks whether the column is null,
and any other operator whether it is not. -/
def compare (connector : Connector) (column : Reference) (operator : Operator) (value : Bind) :
    Builder → Builder :=
  if value.isNull then addCondition connector (.null column (operator ≠ .equal)) .none
  else addCondition connector (.compare column operator value) (.one value)

/-- Compare several columns for equality, all with the same connector. -/
def compareAll (connector : Connector) (values : List (Reference × Bind)) (builder : Builder) :
    Builder :=
  values.foldl (fun builder entry => builder.compare connector entry.1 .equal entry.2) builder

/-- The builder that a group is filled on: it knows the dialect and the table only. -/
def nested (builder : Builder) : Builder :=
  ⟨builder.dialect, { Query.empty with table? := builder.query.table? }⟩

/-- Add the conditions of a query filled by `fill`, as one group. All values of that query
go to the where bucket; a query without conditions adds nothing. -/
def group (connector : Connector) (fill : Builder → Builder) (builder : Builder) : Builder :=
  let inner := (fill builder.nested).query
  if inner.conditions.isEmpty then builder
  else builder.addCondition connector
    (.group { inner.toFrame with buckets := .empty } inner.conditions) inner.buckets.gathered

/-- Ask whether a column is between two values. -/
def between (connector : Connector) (column : Reference) (low high : Bind) (negated : Bool) :
    Builder → Builder :=
  addCondition connector (.between column negated) (.many [low, high])

/-- Ask whether a column is among some values. -/
def among (connector : Connector) (column : Reference) (values : Items Bind) (negated : Bool) :
    Builder → Builder :=
  addCondition connector (.among column values negated) values

/-- Ask whether a column is null. -/
def null (connector : Connector) (column : Reference) (negated : Bool) : Builder → Builder :=
  addCondition connector (.null column negated) .none

/-- Compare a part of a date or time with a value. -/
def datePart (connector : Connector) (unit : DateUnit) (column : Reference) (operator : Operator)
    (value : Bind) : Builder → Builder :=
  addCondition connector (.datePart unit column operator value) (.one value)

/-- Ask whether a JSON column contains a value, which is bound as JSON text. -/
def jsonContains (connector : Connector) (column : Reference) (value : Json) (negated : Bool) :
    Builder → Builder :=
  let value := Bind.text (String.ofList value.text)
  addCondition connector (.jsonContains column value negated) (.one value)

/-- Compare the length of a JSON column with a value. -/
def jsonLength (connector : Connector) (column : Reference) (operator : Operator) (value : Bind) :
    Builder → Builder :=
  addCondition connector (.jsonLength column operator value) (.one value)

/-- Start a delete of the row with an id. -/
def deleteId (id : Bind) (builder : Builder) : Builder :=
  builder.delete.compare .and "id" .equal id

/-! ## Grouping, order, pages and locks -/

/-- Add columns to group by. -/
def groupBy (columns : Columns) : Builder → Builder :=
  modify fun query => { query with groups := query.groups ++ columns }

/-- Add a column to order by. -/
def orderBy (column : Reference) (direction : Direction) : Builder → Builder :=
  modify fun query => { query with orders := query.orders ++ [⟨column, direction⟩] }

/-- Change the pagination. -/
def paginate (change : Pagination → Pagination) : Builder → Builder :=
  modify fun query => { query with pagination := change query.pagination }

/-- Ask for a lock. -/
def lock (request : Lock) : Builder → Builder :=
  modify fun query => { query with lock? := some request }

/-! ## Buckets -/

/-- Add values to a bucket. -/
def addBindings (values : Items Bind) (bucket : Bucket) : Builder → Builder :=
  modify fun query => { query with buckets := query.buckets.add bucket values }

/-- Replace the values of a bucket. -/
def setBindings (values : Items Bind) (bucket : Bucket) : Builder → Builder :=
  modify fun query => { query with buckets := query.buckets.set bucket values }

/-- All bound values in the order of the buckets. -/
def bindings (builder : Builder) : List Bind := builder.query.bindings

/-- The bound values in the order in which the statement asks for them. -/
def executionBindings (builder : Builder) : List Bind := builder.query.executionBindings

end Builder

end FluentSql
