import FluentSql.Query.Condition

/-!
# Building joins

Constraints are added to a join one after the other, each with a connector. A value
that a constraint binds goes to the end of the join's bindings, null included. A group
is filled like a join of its own; a group that stays empty adds nothing.
-/

namespace FluentSql

namespace Join

/-- A join without constraints. -/
def on (kind : JoinKind) (table : Reference) : Join := ⟨kind, table, [], .none⟩

/-- Whether there is no constraint. -/
def isEmpty (join : Join) : Bool := join.constraints.isEmpty

/-- Add one constraint and the values that it binds. -/
def add (connector : Connector) (constraint : Constraint) (values : Items Bind) (join : Join) :
    Join :=
  { join with
    constraints := join.constraints ++ [(connector, constraint)]
    bindings := join.bindings ++ values }

/-- Compare two columns. -/
def compareColumns (connector : Connector) (first : Reference) (operator : Operator)
    (second : Reference) : Join → Join :=
  add connector (.columns first operator second) .none

/-- Compare a column with a value. -/
def compareValue (connector : Connector) (column : Reference) (operator : Operator)
    (value : Bind) : Join → Join :=
  add connector (.value column operator) (.one value)

/-- Ask whether a column is null. -/
def null (connector : Connector) (column : Reference) (negated : Bool) : Join → Join :=
  add connector (.null column negated) .none

/-- Ask whether a column is among some values. -/
def among (connector : Connector) (column : Reference) (values : Items Bind) (negated : Bool) :
    Join → Join :=
  add connector (.among column values negated) values

/-- Add a group filled by `fill`. -/
def group (connector : Connector) (fill : Join → Join) (join : Join) : Join :=
  let inner := fill (on join.kind join.table)
  if inner.isEmpty then join
  else join.add connector (.group inner.constraints) inner.bindings

end Join

/-- A call on a join. -/
inductive JoinCall where
  | compareColumns (connector : Connector) (first : Reference) (operator : Operator)
      (second : Reference)
  | compareValue (connector : Connector) (column : Reference) (operator : Operator) (value : Bind)
  | null (connector : Connector) (column : Reference) (negated : Bool)
  | among (connector : Connector) (column : Reference) (values : Items Bind) (negated : Bool)
  | group (connector : Connector) (calls : List JoinCall)

namespace JoinCall

mutual

/-- The join after a call. -/
def run : JoinCall → Join → Join
  | .compareColumns connector first operator second =>
    Join.compareColumns connector first operator second
  | .compareValue connector column operator value =>
    Join.compareValue connector column operator value
  | .null connector column negated => Join.null connector column negated
  | .among connector column values negated => Join.among connector column values negated
  | .group connector calls => Join.group connector (runAll calls)

/-- The join after some calls. -/
def runAll : List JoinCall → Join → Join
  | [] => id
  | call :: rest => fun join => runAll rest (call.run join)

end

@[simp] theorem runAll_nil (join : Join) : runAll [] join = join := by simp [runAll]

@[simp] theorem runAll_cons (call : JoinCall) (rest : List JoinCall) (join : Join) :
    runAll (call :: rest) join = runAll rest (call.run join) := by simp [runAll]

/-- Calls run one after the other. -/
theorem runAll_append (first second : List JoinCall) (join : Join) :
    runAll (first ++ second) join = runAll second (runAll first join) := by
  induction first generalizing join with
  | nil => simp
  | cons call rest inductionHypothesis => simp [inductionHypothesis]

end JoinCall

end FluentSql
