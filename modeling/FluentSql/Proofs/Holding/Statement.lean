import FluentSql.Proofs.Bare
import FluentSql.Proofs.Holding

/-!
# The compact form of a query

A compact query holds all its items in the smallest way, at any depth: its columns and
groupings, its buckets, and the lists of its conditions and joins. Nothing that is written
or bound depends on how they were held (`Query.sql_compact`).
-/

namespace FluentSql

namespace Buckets

/-- The buckets with their values held in the smallest way. -/
def compact (buckets : Buckets) : Buckets where
  select := buckets.select.compact
  join := buckets.join.compact
  filter := buckets.filter.compact
  having := buckets.having.compact
  order := buckets.order.compact
  inserts := buckets.inserts.compact

@[simp] theorem get_compact (buckets : Buckets) (bucket : Bucket) :
    buckets.compact.get bucket = (buckets.get bucket).compact := by
  cases bucket <;> rfl

theorem compact_set (buckets : Buckets) (bucket : Bucket) (values : Items Bind) :
    (buckets.set bucket values).compact = buckets.compact.set bucket values.compact := by
  cases bucket <;> rfl

theorem compact_add (buckets : Buckets) (bucket : Bucket) (values : Items Bind) :
    (buckets.add bucket values).compact =
      buckets.compact.set bucket (buckets.compact.get bucket ++ values.compact).compact := by
  rw [add, compact_set, get_compact, Items.compact_append]

@[simp] theorem flatten_compact (buckets : Buckets) :
    buckets.compact.flatten = buckets.flatten := by
  simp [flatten]

end Buckets

namespace Constraint

mutual

/-- A constraint with its values held in the smallest way, in groups at any depth. -/
def compact : Constraint → Constraint
  | .among column values negated => .among column values.compact negated
  | .group constraints => .group (allCompact constraints)
  | constraint => constraint

/-- Some constraints with their values held in the smallest way. -/
def allCompact : List (Connector × Constraint) → List (Connector × Constraint)
  | [] => []
  | (connector, first) :: rest => (connector, first.compact) :: allCompact rest

end

theorem allCompact_eq_map (list : List (Connector × Constraint)) :
    allCompact list = list.map fun part => (part.1, part.2.compact) := by
  induction list with
  | nil => simp [allCompact]
  | cons part rest inductionHypothesis => simp [allCompact, inductionHypothesis]

theorem allCompact_concat (list : List (Connector × Constraint)) (connector : Connector)
    (clause : Constraint) :
    allCompact (list ++ [(connector, clause)]) =
      allCompact list ++ [(connector, clause.compact)] := by
  simp only [allCompact_eq_map, List.map_append, List.map_cons, List.map_nil]

/-- Compact constraints are written like the constraints if each single one is. -/
theorem constraintParts_allCompact {dialect : Dialect} {list : List (Connector × Constraint)}
    (each : ∀ member ∈ list,
      Sql.constraint dialect member.2.compact = Sql.constraint dialect member.2) :
    Sql.constraintParts dialect (allCompact list) = Sql.constraintParts dialect list := by
  rw [Sql.constraintParts_eq_map, Sql.constraintParts_eq_map, allCompact_eq_map, List.map_map]
  exact List.map_congr_left fun member isMember =>
    congrArg (Prod.mk member.1) (each member isMember)

theorem allOperators_allCompact {list : List (Connector × Constraint)}
    (each : ∀ member ∈ list, member.2.compact.operators = member.2.operators) :
    allOperators (allCompact list) = allOperators list := by
  rw [allOperators_eq_flatMap, allOperators_eq_flatMap, allCompact_eq_map, List.flatMap_map,
    List.flatMap_def, List.flatMap_def]
  exact congrArg List.flatten (List.map_congr_left each)

theorem constraint_compact (dialect : Dialect) (clause : Constraint) :
    Sql.constraint dialect clause.compact = Sql.constraint dialect clause := by
  induction clause using Constraint.induction with
  | among column values negated =>
    rw [compact, Sql.constraint, Sql.constraint, Items.size_compact]
  | group members inductionHypothesis =>
    rw [compact, Sql.constraint, Sql.constraint, constraintParts_allCompact inductionHypothesis]
  | columns | value | null => rfl

theorem operators_compact (clause : Constraint) : clause.compact.operators = clause.operators := by
  induction clause using Constraint.induction with
  | group members inductionHypothesis =>
    rw [compact, operators, operators, allOperators_allCompact inductionHypothesis]
  | columns | value | among | null => rfl

end Constraint

namespace Join

/-- A join with its values held in the smallest way. -/
def compact (join : Join) : Join :=
  { join with
    constraints := Constraint.allCompact join.constraints
    bindings := join.bindings.compact }

theorem join_compact (dialect : Dialect) (clause : Join) :
    Sql.join dialect clause.compact = Sql.join dialect clause := by
  have isEmpty : (Constraint.allCompact clause.constraints).isEmpty =
      clause.constraints.isEmpty := by
    rw [Constraint.allCompact_eq_map, List.isEmpty_map]
  have same : Sql.constraintParts dialect (Constraint.allCompact clause.constraints) =
      Sql.constraintParts dialect clause.constraints :=
    Constraint.constraintParts_allCompact fun member _ => member.2.constraint_compact dialect
  simp only [Sql.join, Sql.constraints, compact, isEmpty, same]

theorem operators_compact (clause : Join) :
    Constraint.allOperators clause.compact.constraints =
      Constraint.allOperators clause.constraints :=
  Constraint.allOperators_allCompact fun member _ => member.2.operators_compact

end Join

namespace Condition

mutual

/-- A condition with its values held in the smallest way and empty frames, in groups at any
depth. -/
def compact : Condition → Condition
  | .among column values negated => .among column values.compact negated
  | .group _ conditions => .group .empty (allCompact conditions)
  | condition => condition

/-- Some conditions with their values held in the smallest way and empty frames. -/
def allCompact : List (Connector × Condition) → List (Connector × Condition)
  | [] => []
  | (connector, first) :: rest => (connector, first.compact) :: allCompact rest

end

theorem allCompact_eq_map (list : List (Connector × Condition)) :
    allCompact list = list.map fun part => (part.1, part.2.compact) := by
  induction list with
  | nil => simp [allCompact]
  | cons part rest inductionHypothesis => simp [allCompact, inductionHypothesis]

theorem allCompact_concat (list : List (Connector × Condition)) (connector : Connector)
    (clause : Condition) :
    allCompact (list ++ [(connector, clause)]) =
      allCompact list ++ [(connector, clause.compact)] := by
  simp only [allCompact_eq_map, List.map_append, List.map_cons, List.map_nil]

theorem condition_compact (dialect : Dialect) (clause : Condition) :
    Sql.condition dialect clause.compact = Sql.condition dialect clause := by
  induction clause using Condition.induction with
  | among column values negated => rw [compact, Sql.condition, Sql.condition, Items.size_compact]
  | group frame members inductionHypothesis =>
    rw [compact, Sql.condition, Sql.condition, allCompact_eq_map,
      conditionParts_map inductionHypothesis]
  | compare | between | null | datePart | jsonContains | jsonLength => rfl

theorem operators_compact (clause : Condition) : clause.compact.operators = clause.operators := by
  induction clause using Condition.induction with
  | group frame members inductionHypothesis =>
    rw [compact, operators, operators, allCompact_eq_map, allOperators_map inductionHypothesis]
  | compare | between | among | null | datePart | jsonContains | jsonLength => rfl

end Condition

namespace Query

/-- A query with all its items held in the smallest way, and empty frames in its groups. An
aggregate is left as it is. -/
def compact (query : Query) : Query :=
  { query with
    columns := query.columns.compact
    joins := query.joins.map Join.compact
    groups := query.groups.compact
    buckets := query.buckets.compact
    conditions := Condition.allCompact query.conditions }

variable (dialect : Dialect) (query : Query)

theorem joins_compact : Sql.joins dialect query.compact.joins = Sql.joins dialect query.joins := by
  rw [Sql.joins, Sql.joins, compact, List.flatMap_map, List.flatMap_def, List.flatMap_def]
  exact congrArg List.flatten (List.map_congr_left fun clause _ => clause.join_compact dialect)

theorem wheres_compact :
    Sql.wheres dialect query.compact.conditions = Sql.wheres dialect query.conditions := by
  have same : Sql.conditionParts dialect query.compact.conditions =
      Sql.conditionParts dialect query.conditions := by
    rw [compact, Condition.allCompact_eq_map]
    exact Condition.conditionParts_map fun member _ => member.2.condition_compact dialect
  have isEmpty : query.compact.conditions.isEmpty = query.conditions.isEmpty := by
    rw [compact, Condition.allCompact_eq_map, List.isEmpty_map]
  rw [Sql.wheres, Sql.wheres, Sql.conditions, Sql.conditions, same, isEmpty]

theorem groups_compact :
    Sql.groups dialect query.compact.groups = Sql.groups dialect query.groups := by
  rw [Sql.groups, Sql.groups, compact, Items.isEmpty_compact, Items.toList_compact]

theorem selectHead_compact :
    Sql.selectHead dialect query.compact = Sql.selectHead dialect query := by
  rw [Sql.selectHead, Sql.selectHead, compact, Items.toList_compact]

theorem operators_compact : query.compact.operators = query.operators := by
  have conditions : Condition.allOperators query.compact.conditions =
      Condition.allOperators query.conditions := by
    rw [compact, Condition.allCompact_eq_map]
    exact Condition.allOperators_map fun member _ => member.2.operators_compact
  have joins : (query.compact.joins.flatMap fun join => Constraint.allOperators join.constraints) =
      query.joins.flatMap fun join => Constraint.allOperators join.constraints := by
    rw [compact, List.flatMap_map, List.flatMap_def, List.flatMap_def]
    exact congrArg List.flatten (List.map_congr_left fun clause _ => clause.operators_compact)
  rw [operators, operators, conditions, joins]

theorem hasJoins_compact : query.compact.hasJoins = query.hasJoins := by
  rw [Frame.hasJoins, Frame.hasJoins, compact, List.isEmpty_map]

/-- How items are held decides neither the statement nor the fault. -/
theorem compile_compact : query.compact.compile dialect = query.compile dialect := by
  have checked : query.compact.checkOperators = query.checkOperators := by
    rw [checkOperators, checkOperators, operators_compact]
  have joined : query.compact.checkJoins dialect = query.checkJoins dialect := by
    funext kind
    rw [checkJoins, checkJoins, hasJoins_compact]
  have select : Sql.select dialect query.compact = Sql.select dialect query := by
    rw [Sql.select, Sql.select, Sql.selectTail, Sql.selectTail, wheres_compact, joins_compact,
      groups_compact, selectHead_compact]
    rfl
  have tail : Sql.mutationTail dialect query.compact = Sql.mutationTail dialect query := by
    rw [Sql.mutationTail, Sql.mutationTail, wheres_compact]
    rfl
  have update : ∀ table, Sql.update dialect table query.compact =
      Sql.update dialect table query := by
    intro table
    rw [Sql.update, Sql.update, tail, joins_compact]
    rfl
  have delete : ∀ table, Sql.delete dialect table query.compact =
      Sql.delete dialect table query := by
    intro table
    rw [Sql.delete, Sql.delete, tail, wheres_compact, joins_compact, hasJoins_compact]
  simp only [compile, checked, joined, select, update, delete]
  rfl

theorem sql_compact : query.compact.sql dialect = query.sql dialect := by
  rw [sql, sql, compile_compact]

@[simp] theorem bindings_compact : query.compact.bindings = query.bindings :=
  query.buckets.flatten_compact

@[simp] theorem executionBindings_compact :
    query.compact.executionBindings = query.executionBindings := by
  have values : ∀ bucket, (query.compact.buckets.get bucket).toList =
      (query.buckets.get bucket).toList := by
    intro bucket
    rw [compact, Buckets.get_compact, Items.toList_compact]
  by_cases isUpdate : query.kind = .update
  · have compactUpdate : query.compact.kind = .update := isUpdate
    rw [executionBindings_eq_of_update isUpdate, executionBindings_eq_of_update compactUpdate]
    simp only [values]
    rfl
  · have compactOther : query.compact.kind ≠ .update := isUpdate
    rw [executionBindings_eq_bindings isUpdate, executionBindings_eq_bindings compactOther,
      bindings_compact]

end Query

end FluentSql
