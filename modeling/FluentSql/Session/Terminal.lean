import FluentSql.Session.Connection
import FluentSql.Sql.Listing
import FluentSql.Sql.Statement

/-!
# Running queries

The calls that end a query: each compiles it, sends it over a connection and reads the
answer. Some change the query for the time of the call (the columns, the select bucket,
an aggregate) and put back what they changed, however the call ends; these return the
builder as well. A query that cannot be written is not sent.
-/

namespace FluentSql

namespace Builder

variable {σ α β : Type}

/-- Send the statement with the values of all buckets. -/
def send (builder : Builder) (call : String → List Bind → Exchange σ α) : Exchange σ α :=
  match builder.sql with
  | .ok sql => call sql builder.bindings
  | .error fault => .done (.error fault)

/-- Run an insert, update or delete. An insert without rows has nothing to do and is not
sent. -/
def execute (connection : Connection σ) (builder : Builder) : Exchange σ Outcome :=
  match builder.query.kind with
  | .select => .done (.error .executedSelect)
  | kind =>
    if kind = .insert ∧ builder.query.rows = [] then .done (.ok .nothing)
    else match builder.sql with
      | .ok sql => connection.execute sql builder.executionBindings
      | .error fault => .done (.error fault)

/-- Run an insert and give the id of its row. -/
def insertGetId (connection : Connection σ) (builder : Builder) : Exchange σ (Option Int64) :=
  (builder.execute connection).map Outcome.lastInsertId?

/-- Fetch the first row. -/
def fetchRow (connection : Connection σ) (builder : Builder) : Exchange σ (Option Record) :=
  builder.send connection.fetchRow

/-- Fetch all rows. -/
def fetchRows (connection : Connection σ) (builder : Builder) : Exchange σ (List Record) :=
  builder.send connection.fetchRows

/-- Fetch the first column of the first row. -/
def fetchValue (connection : Connection σ) (builder : Builder) : Exchange σ (Option Bind) :=
  builder.send connection.fetchValue

/-- Fetch the first column of all rows that have one. -/
def fetchFirstColumn (connection : Connection σ) (builder : Builder) : Exchange σ (List Bind) :=
  (builder.fetchRows connection).map fun records => records.filterMap Record.firstValue?

/-- Fetch the first row as a value of another type. -/
def fetchObject (connection : Connection σ) (reader : JsonReader α) (builder : Builder) :
    Exchange σ (Option α) :=
  (builder.fetchRow connection).andThen fun record? =>
    match record? with
    | some record => (Record.read reader record).map some
    | none => .ok none

/-- Fetch all rows as values of another type. -/
def fetchObjects (connection : Connection σ) (reader : JsonReader α) (builder : Builder) :
    Exchange σ (List α) :=
  (builder.fetchRows connection).andThen fun records => records.mapM (Record.read reader)

/-- Fetch the names of the columns of the builder's table. -/
def fetchColumnListing (connection : Connection σ) (builder : Builder) :
    Exchange σ (List String) :=
  match builder.columnListing with
  | .ok (sql, values) => (connection.fetchRows sql values).map fun records =>
      records.filterMap fun record => (Record.firstValue? record).map Bind.display
  | .error fault => .done (.error fault)

/-! ## Calls that change the query for their time -/

/-- A step that gives a builder back beside its result. -/
abbrev Borrowing (σ α : Type) := σ → Except Fault α × Builder × σ

/-- Replace the columns. -/
def withColumns (columns : Columns) : Builder → Builder :=
  modify fun query => { query with columns := columns }

/-- Run a step on a changed builder and put the builder back afterwards. -/
def borrowing (asked : Builder) (restore : Builder → Builder) (step : Builder → Exchange σ α) :
    Borrowing σ α := fun state =>
  let (result, state) := step asked state
  (result, restore asked, state)

/-- The rows by the text of the column `label`; the last row of a text is kept, in the place
of the first. -/
def keyRows (label : String) (records : List Record) : Except Fault (Dictionary Record) :=
  records.foldlM (fun keyed record =>
    match record.get? label with
    | some value => .ok (keyed.insert value.display record)
    | none => .error (.missingColumn label)) .empty

/-- Whether a select list shows the column of a key. -/
def shows (columns : Columns) (key : Reference) : Bool :=
  Columns.isWildcard columns ||
    columns.toList.any fun column => Reference.label column = Reference.label key

/-- Fetch all rows by a key column, which is put in front of the select list unless it is
shown there. -/
def fetchKeyed (connection : Connection σ) (key : Reference) (builder : Builder) :
    Borrowing σ (Dictionary Record) :=
  let columns := builder.query.columns
  let asked := if shows columns key then builder else builder.withColumns (.one key ++ columns)
  borrowing asked (withColumns columns) fun asked =>
    (asked.fetchRows connection).andThen (keyRows (Reference.label key))

/-- The second column of every row by the text of its first; rows of fewer columns are left
out. -/
def pairRows (records : List Record) : Dictionary Bind :=
  Dictionary.ofList (records.filterMap fun record =>
    match record.entries with
    | (_, key) :: (_, value) :: _ => some (key.display, value)
    | _ => none)

/-- Fetch the values of one column by those of another. -/
def fetchPairs (connection : Connection σ) (key value : Reference) (builder : Builder) :
    Borrowing σ (Dictionary Bind) :=
  borrowing (builder.withColumns (.many [key, value])) (withColumns builder.query.columns)
    fun asked => (asked.fetchRows connection).map pairRows

/-- The builder that asks for an aggregate: without columns and without select values. -/
def asking (aggregate : Aggregate) : Builder → Builder :=
  modify fun query => { query with
    columns := .none
    buckets := query.buckets.clear .select
    aggregate? := some aggregate }

/-- The columns of an aggregate; none means all. -/
def aggregateColumns (columns : Columns) : Columns :=
  if columns.isEmpty then .one "*" else columns

/-- The value of an aggregate in a fetched row. -/
def aggregateValue (record? : Option Record) : Bind :=
  (record?.bind fun record => record.get? "aggregate").getD .null

/-- Fetch an aggregate. -/
def aggregate (connection : Connection σ) (function : AggregateFunction) (columns : Columns)
    (builder : Builder) : Borrowing σ Bind :=
  borrowing (builder.asking ⟨function, aggregateColumns columns⟩)
    (modify fun query => { query with
      columns := builder.query.columns
      buckets := query.buckets.set .select (builder.query.buckets.get .select)
      aggregate? := none })
    fun asked => (asked.fetchRow connection).map aggregateValue

/-- Change the result of a step that gives a builder back. -/
def Borrowing.map (change : α → β) (step : Borrowing σ α) : Borrowing σ β := fun state =>
  let (result, builder, state) := step state
  (result.map change, builder, state)

/-- Count rows; what cannot be read as a number counts as zero. -/
def count (connection : Connection σ) (columns : Columns) (builder : Builder) :
    Borrowing σ Int64 :=
  Borrowing.map (fun value => value.asInt64.getD 0) (builder.aggregate connection .count columns)

/-- The sum of a column; null counts as zero. -/
def sum (connection : Connection σ) (column : Reference) (builder : Builder) : Borrowing σ Bind :=
  Borrowing.map (fun value => if value.isNull then .int64 0 else value)
    (builder.aggregate connection .sum (.one column))

end Builder

/-- A value that records are read as where a program asks for no type of its own: any JSON
value, or a user. -/
inductive Object where
  | any (value : Json)
  | user (user : User)

/-- A type that records are read as, by a JSON reader for it. -/
structure Target (α : Type := Object) where
  reader : JsonReader α

def Target.any : Target := ⟨fun value => (JsonReader.any value).map .any⟩

def Target.user : Target := ⟨fun value => (User.reader value).map .user⟩

/-- A call that ends a query. The rows that it fetches may be read as values of any one type. -/
inductive Terminal (α : Type := Object) where
  | execute
  | insertGetId
  | fetchRow
  | fetchRows
  | fetchFirstColumn
  | fetchValue
  | fetchKeyed (key : Reference)
  | fetchPairs (key value : Reference)
  | fetchObject (target : Target α)
  | fetchObjects (target : Target α)
  | count (columns : Columns)
  | sum (column : Reference)
  | aggregate (function : AggregateFunction) (columns : Columns)
  | fetchColumnListing

/-- What a call that ends a query gives. -/
inductive Answer (α : Type := Object) where
  | outcome (outcome : Outcome)
  | id (id? : Option Int64)
  | record (record? : Option Record)
  | records (records : List Record)
  | values (values : List Bind)
  | value (value? : Option Bind)
  | keyed (records : Dictionary Record)
  | pairs (values : Dictionary Bind)
  | object (object? : Option α)
  | objects (objects : List α)
  | number (number : Int64)
  | bind (value : Bind)
  | names (names : List String)

namespace Terminal

open Builder

variable {σ α β : Type}

/-- A step that leaves the builder as it is. -/
def keeping (builder : Builder) (wrap : β → Answer α) (step : Exchange σ β) :
    Borrowing σ (Answer α) := fun state =>
  let (result, state) := step state
  (result.map wrap, builder, state)

/-- Run a call on a builder over a connection. -/
def run (connection : Connection σ) (builder : Builder) :
    Terminal α → Borrowing σ (Answer α)
  | .execute => keeping builder .outcome (builder.execute connection)
  | .insertGetId => keeping builder .id (builder.insertGetId connection)
  | .fetchRow => keeping builder .record (builder.fetchRow connection)
  | .fetchRows => keeping builder .records (builder.fetchRows connection)
  | .fetchFirstColumn => keeping builder .values (builder.fetchFirstColumn connection)
  | .fetchValue => keeping builder .value (builder.fetchValue connection)
  | .fetchKeyed key => Borrowing.map .keyed (builder.fetchKeyed connection key)
  | .fetchPairs key value => Borrowing.map .pairs (builder.fetchPairs connection key value)
  | .fetchObject target => keeping builder .object (builder.fetchObject connection target.reader)
  | .fetchObjects target =>
    keeping builder .objects (builder.fetchObjects connection target.reader)
  | .count columns => Borrowing.map .number (builder.count connection columns)
  | .sum column => Borrowing.map .bind (builder.sum connection column)
  | .aggregate function columns =>
    Borrowing.map .bind (builder.aggregate connection function columns)
  | .fetchColumnListing => keeping builder .names (builder.fetchColumnListing connection)

end Terminal

end FluentSql
