import FluentSql.Bind
import FluentSql.Buckets
import FluentSql.Dictionary
import FluentSql.Operator
import FluentSql.Pagination
import FluentSql.Reference

/-!
# Conditions and queries

A query is what is known of a statement so far. Its where conditions form a tree: a
group of conditions is itself a query, of which only the conditions are written. A
`Frame` is a query without its where conditions, so that a query is a frame together
with a list of conditions, and the tree grows through that list alone.
-/

namespace FluentSql

/-- How a condition is joined to the ones before it. -/
inductive Connector where
  | and
  | or
deriving DecidableEq, Repr, Inhabited

/-- The keyword of a connector. -/
def Connector.keyword : Connector → String
  | .and => "and"
  | .or => "or"

/-- The part of a date or time that a condition looks at. -/
inductive DateUnit where
  | date
  | day
  | month
  | year
  | time
deriving DecidableEq, Repr

/-- The function that takes the part out of a column. -/
def DateUnit.function : DateUnit → String
  | .date => "date"
  | .day => "day"
  | .month => "month"
  | .year => "year"
  | .time => "time"

/-- The functions of an aggregate statement. -/
inductive AggregateFunction where
  | count
  | sum
  | min
  | max
  | avg
deriving DecidableEq, Repr

/-- The name of an aggregate function. -/
def AggregateFunction.name : AggregateFunction → String
  | .count => "count"
  | .sum => "sum"
  | .min => "min"
  | .max => "max"
  | .avg => "avg"

/-- A function of columns that stands in place of a select list. -/
structure Aggregate where
  function : AggregateFunction
  columns : Columns
deriving DecidableEq, Repr

/-- The direction of an order. -/
inductive Direction where
  | ascending
  | descending
deriving DecidableEq, Repr

namespace Direction

/-- The keyword of a direction. -/
def keyword : Direction → String
  | ascending => "asc"
  | descending => "desc"

/-- Anything but `asc`, in capitals or not, is descending. -/
def ofText (text : String) : Direction :=
  if Text.lower text.toList = "asc".toList then ascending else descending

end Direction

/-- A column to order by. -/
structure Ordering where
  column : Reference
  direction : Direction
deriving DecidableEq, Repr

/-- The locks that a select may ask for. -/
inductive Lock where
  | forUpdate
  | shared
deriving DecidableEq, Repr

/-- The kinds of joins. -/
inductive JoinKind where
  | inner
  | left
  | right
deriving DecidableEq, Repr, Inhabited

/-- The keywords of a join. -/
def JoinKind.keyword : JoinKind → String
  | .inner => "inner join"
  | .left => "left join"
  | .right => "right join"

/-- One constraint of a join. The values that it binds are held by the join. -/
inductive Constraint where
  | columns (first : Reference) (operator : Operator) (second : Reference)
  | value (column : Reference) (operator : Operator)
  | among (column : Reference) (values : Items Bind) (negated : Bool)
  | null (column : Reference) (negated : Bool)
  | group (constraints : List (Connector × Constraint))

/-- A table to join and the constraints that it is joined on. -/
structure Join where
  kind : JoinKind
  table : Reference
  constraints : List (Connector × Constraint)
  /-- Values bound by the constraints that no query has taken over yet. -/
  bindings : Items Bind

/-- The values of a row, or the assignments of an update. -/
abbrev Row := Dictionary Bind

/-- A query without its where conditions. -/
structure Frame where
  /-- The kind that the first initiating call chose; a query without one is a select. -/
  kind? : Option StatementKind
  columns : Columns
  distinct : Bool
  table? : Option Reference
  joins : List Join
  groups : Columns
  orders : List Ordering
  pagination : Pagination
  aggregate? : Option Aggregate
  lock? : Option Lock
  rows : List Row
  updates : Row
  buckets : Buckets

/-- One where condition. -/
inductive Condition where
  | compare (column : Reference) (operator : Operator) (value : Bind)
  /-- Conditions in parentheses, with the frame of the query that they were made on. -/
  | group (frame : Frame) (conditions : List (Connector × Condition))
  | between (column : Reference) (negated : Bool)
  | among (column : Reference) (values : Items Bind) (negated : Bool)
  | null (column : Reference) (negated : Bool)
  | datePart (unit : DateUnit) (column : Reference) (operator : Operator) (value : Bind)
  | jsonContains (column : Reference) (value : Bind) (negated : Bool)
  | jsonLength (column : Reference) (operator : Operator) (value : Bind)

/-- What is known of a statement. -/
structure Query extends Frame where
  /-- The where conditions, each with the connector it was added with. -/
  conditions : List (Connector × Condition)

namespace Frame

/-- Nothing is known. -/
def empty : Frame where
  kind? := none
  columns := .none
  distinct := false
  table? := none
  joins := []
  groups := .none
  orders := []
  pagination := .all
  aggregate? := none
  lock? := none
  rows := []
  updates := .empty
  buckets := .empty

/-- The kind of the statement. -/
def kind (frame : Frame) : StatementKind := frame.kind?.getD .select

/-- Whether there is a join. -/
def hasJoins (frame : Frame) : Bool := !frame.joins.isEmpty

end Frame

namespace Query

/-- The query of which nothing is known. -/
def empty : Query := { Frame.empty with conditions := [] }

instance : Inhabited Query := ⟨empty⟩

/-- All bound values in the order of the buckets. -/
def bindings (query : Query) : List Bind := query.buckets.flatten

/-- The bound values in the order in which the statement asks for them: the values of an
update's assignments come right after those of its joins. -/
def executionBindings (query : Query) : List Bind :=
  match query.kind with
  | .update => Bucket.all.flatMap fun bucket =>
      (query.buckets.get bucket).toList ++ if bucket = .join then query.updates.values else []
  | _ => query.bindings

/-- Only an update binds the values of assignments. -/
theorem executionBindings_eq_bindings {query : Query} (kind : query.kind ≠ .update) :
    query.executionBindings = query.bindings := by
  unfold executionBindings
  split
  · rename_i isUpdate
    exact absurd isUpdate kind
  · rfl

theorem executionBindings_eq_of_update {query : Query} (isUpdate : query.kind = .update) :
    query.executionBindings = Bucket.all.flatMap fun bucket =>
      (query.buckets.get bucket).toList ++ if bucket = .join then query.updates.values else [] := by
  unfold executionBindings
  rw [isUpdate]

end Query

namespace Constraint

/-- A property of every constraint holds if it holds of the simple ones, and of a group
whenever it holds of all its members. -/
@[elab_as_elim]
theorem induction {motive : Constraint → Prop}
    (columns : ∀ first operator second, motive (.columns first operator second))
    (value : ∀ column operator, motive (.value column operator))
    (among : ∀ column values negated, motive (.among column values negated))
    (null : ∀ column negated, motive (.null column negated))
    (group : ∀ constraints, (∀ member ∈ constraints, motive member.2) →
      motive (.group constraints)) :
    ∀ constraint, motive constraint
  | .columns first operator second => columns first operator second
  | .value column operator => value column operator
  | .among column values negated => among column values negated
  | .null column negated => null column negated
  | .group constraints => group constraints fun member _ =>
      induction columns value among null group member.2
termination_by constraint => sizeOf constraint
decreasing_by
  rename_i isMember
  have smaller := List.sizeOf_lt_of_mem isMember
  have second : sizeOf member.2 < sizeOf member := by
    obtain ⟨connector, constraint⟩ := member
    simp only [Prod.mk.sizeOf_spec]
    omega
  simp only [Constraint.group.sizeOf_spec]
  omega

end Constraint

namespace Condition

/-- A property of every condition holds if it holds of the simple ones, and of a group
whenever it holds of all its members. -/
@[elab_as_elim]
theorem induction {motive : Condition → Prop}
    (compare : ∀ column operator value, motive (.compare column operator value))
    (group : ∀ frame conditions, (∀ member ∈ conditions, motive member.2) →
      motive (.group frame conditions))
    (between : ∀ column negated, motive (.between column negated))
    (among : ∀ column values negated, motive (.among column values negated))
    (null : ∀ column negated, motive (.null column negated))
    (datePart : ∀ unit column operator value, motive (.datePart unit column operator value))
    (jsonContains : ∀ column value negated, motive (.jsonContains column value negated))
    (jsonLength : ∀ column operator value, motive (.jsonLength column operator value)) :
    ∀ condition, motive condition
  | .compare column operator value => compare column operator value
  | .group frame conditions => group frame conditions fun member _ =>
      induction compare group between among null datePart jsonContains jsonLength member.2
  | .between column negated => between column negated
  | .among column values negated => among column values negated
  | .null column negated => null column negated
  | .datePart unit column operator value => datePart unit column operator value
  | .jsonContains column value negated => jsonContains column value negated
  | .jsonLength column operator value => jsonLength column operator value
termination_by condition => sizeOf condition
decreasing_by
  rename_i isMember
  have smaller := List.sizeOf_lt_of_mem isMember
  have second : sizeOf member.2 < sizeOf member := by
    obtain ⟨connector, condition⟩ := member
    simp only [Prod.mk.sizeOf_spec]
    omega
  simp only [Condition.group.sizeOf_spec]
  omega

end Condition

end FluentSql
