import FluentSql.Query.Builder

/-!
# Calls on a builder

Calls are data, so that programs on a builder can be written down, compared and run.
A call that names a bucket may name one that does not exist; it then fails and leaves
the builder as it was.
-/

namespace FluentSql

/-- A call on a builder. -/
inductive Call where
  | select (columns : Columns)
  | addSelect (columns : Columns)
  | distinct
  | fromTable (table : Reference)
  | insert (rows : List Row)
  | update (values : Row)
  | set (column : Reference) (value : Bind)
  | delete
  | deleteId (id : Bind)
  | withDialect (dialect : Dialect)
  | joinColumns (kind : JoinKind) (table first : Reference) (operator : Operator)
      (second : Reference)
  | joinValue (kind : JoinKind) (table column : Reference) (operator : Operator) (value : Bind)
  | joinWith (kind : JoinKind) (table : Reference) (calls : List JoinCall)
  | compare (connector : Connector) (column : Reference) (operator : Operator) (value : Bind)
  | compareAll (connector : Connector) (values : List (Reference × Bind))
  | group (connector : Connector) (calls : List Call)
  | between (connector : Connector) (column : Reference) (low high : Bind) (negated : Bool)
  | among (connector : Connector) (column : Reference) (values : Items Bind) (negated : Bool)
  | null (connector : Connector) (column : Reference) (negated : Bool)
  | datePart (connector : Connector) (unit : DateUnit) (column : Reference) (operator : Operator)
      (value : Bind)
  | jsonContains (connector : Connector) (column : Reference) (value : Json) (negated : Bool)
  | jsonLength (connector : Connector) (column : Reference) (operator : Operator) (value : Bind)
  | groupBy (columns : Columns)
  | orderBy (column : Reference) (direction : Direction)
  | limit (count : Int64)
  | offset (count : Int64)
  | limitOffset (count start : Int64)
  | page (number size : Int64)
  | lock (request : Lock)
  | addBindings (values : Items Bind) (bucket : String)
  | setBindings (values : Items Bind) (bucket : String)

namespace Call

/-- Why a call fails, if it does. -/
def fault? : Call → Option Fault
  | .addBindings _ name | .setBindings _ name =>
    match Bucket.ofName? name with
    | .ok _ => none
    | .error fault => some fault
  | _ => none

mutual

/-- The builder after a call. -/
def run : Call → Builder → Builder
  | .select columns => Builder.select columns
  | .addSelect columns => Builder.addSelect columns
  | .distinct => Builder.distinct
  | .fromTable table => Builder.fromTable table
  | .insert rows => Builder.insert rows
  | .update values => Builder.update values
  | .set column value => Builder.set column value
  | .delete => Builder.delete
  | .deleteId id => Builder.deleteId id
  | .withDialect dialect => Builder.withDialect dialect
  | .joinColumns kind table first operator second =>
    Builder.joinColumns kind table first operator second
  | .joinValue kind table column operator value =>
    Builder.joinValue kind table column operator value
  | .joinWith kind table calls => Builder.joinWith kind table (JoinCall.runAll calls)
  | .compare connector column operator value => Builder.compare connector column operator value
  | .compareAll connector values => Builder.compareAll connector values
  | .group connector calls => Builder.group connector (runAll calls)
  | .between connector column low high negated => Builder.between connector column low high negated
  | .among connector column values negated => Builder.among connector column values negated
  | .null connector column negated => Builder.null connector column negated
  | .datePart connector unit column operator value =>
    Builder.datePart connector unit column operator value
  | .jsonContains connector column value negated =>
    Builder.jsonContains connector column value negated
  | .jsonLength connector column operator value =>
    Builder.jsonLength connector column operator value
  | .groupBy columns => Builder.groupBy columns
  | .orderBy column direction => Builder.orderBy column direction
  | .limit count => Builder.paginate (Pagination.limit count)
  | .offset count => Builder.paginate (Pagination.offset count)
  | .limitOffset count start =>
    Builder.paginate fun pagination => (pagination.limit count).offset start
  | .page number size => Builder.paginate (Pagination.page number size)
  | .lock request => Builder.lock request
  | .addBindings values name => fun builder =>
    match Bucket.ofName? name with
    | .ok bucket => builder.addBindings values bucket
    | .error _ => builder
  | .setBindings values name => fun builder =>
    match Bucket.ofName? name with
    | .ok bucket => builder.setBindings values bucket
    | .error _ => builder

/-- The builder after some calls. -/
def runAll : List Call → Builder → Builder
  | [] => id
  | call :: rest => fun builder => runAll rest (call.run builder)

end

@[simp] theorem runAll_nil (builder : Builder) : runAll [] builder = builder := by simp [runAll]

@[simp] theorem runAll_cons (call : Call) (rest : List Call) (builder : Builder) :
    runAll (call :: rest) builder = runAll rest (call.run builder) := by simp [runAll]

/-- Calls run one after the other. -/
theorem runAll_append (first second : List Call) (builder : Builder) :
    runAll (first ++ second) builder = runAll second (runAll first builder) := by
  induction first generalizing builder with
  | nil => simp
  | cons call rest inductionHypothesis => simp [inductionHypothesis]

end Call

end FluentSql
