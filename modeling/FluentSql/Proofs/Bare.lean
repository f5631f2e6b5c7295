import FluentSql.Sql.Statement

/-!
# Groups without their frames

A group keeps the frame of the query that it was filled on, but only its conditions are
written. A bare query has empty frames in all its groups, and is the same query otherwise;
neither its statement nor its fault, in either dialect, nor its values are others.
-/

namespace FluentSql

namespace Condition

mutual

/-- A condition with empty frames in its groups at any depth. -/
def bare : Condition → Condition
  | .group _ conditions => .group .empty (allBare conditions)
  | condition => condition

/-- Some conditions with empty frames in their groups at any depth. -/
def allBare : List (Connector × Condition) → List (Connector × Condition)
  | [] => []
  | (connector, first) :: rest => (connector, first.bare) :: allBare rest

end

theorem allBare_eq_map (list : List (Connector × Condition)) :
    allBare list = list.map fun part => (part.1, part.2.bare) := by
  induction list with
  | nil => simp [allBare]
  | cons part rest inductionHypothesis => simp [allBare, inductionHypothesis]

@[simp] theorem allBare_append (first second : List (Connector × Condition)) :
    allBare (first ++ second) = allBare first ++ allBare second := by
  simp [allBare_eq_map]

@[simp] theorem isEmpty_allBare (list : List (Connector × Condition)) :
    (allBare list).isEmpty = list.isEmpty := by
  simp [allBare_eq_map]

/-- Changed conditions are written like the conditions if each single one is. -/
theorem conditionParts_map {dialect : Dialect} {change : Condition → Condition}
    {list : List (Connector × Condition)}
    (each : ∀ member ∈ list,
      Sql.condition dialect (change member.2) = Sql.condition dialect member.2) :
    Sql.conditionParts dialect (list.map fun part => (part.1, change part.2)) =
      Sql.conditionParts dialect list := by
  rw [Sql.conditionParts_eq_map, Sql.conditionParts_eq_map, List.map_map]
  exact List.map_congr_left fun member isMember =>
    congrArg (Prod.mk member.1) (each member isMember)

theorem allOperators_map {change : Condition → Condition} {list : List (Connector × Condition)}
    (each : ∀ member ∈ list, (change member.2).operators = member.2.operators) :
    allOperators (list.map fun part => (part.1, change part.2)) = allOperators list := by
  rw [allOperators_eq_flatMap, allOperators_eq_flatMap, List.flatMap_map,
    List.flatMap_def, List.flatMap_def]
  exact congrArg List.flatten (List.map_congr_left each)

/-- The frame of a group is not written. -/
theorem condition_bare (dialect : Dialect) (clause : Condition) :
    Sql.condition dialect clause.bare = Sql.condition dialect clause := by
  induction clause using Condition.induction with
  | group frame members inductionHypothesis =>
    rw [bare, Sql.condition, Sql.condition, allBare_eq_map, conditionParts_map inductionHypothesis]
  | compare | between | among | null | datePart | jsonContains | jsonLength => rfl

theorem operators_bare (clause : Condition) : clause.bare.operators = clause.operators := by
  induction clause using Condition.induction with
  | group frame members inductionHypothesis =>
    rw [bare, operators, operators, allBare_eq_map, allOperators_map inductionHypothesis]
  | compare | between | among | null | datePart | jsonContains | jsonLength => rfl

end Condition

namespace Query

/-- A query with empty frames in the groups of its conditions. -/
def bare (query : Query) : Query :=
  { query with conditions := Condition.allBare query.conditions }

variable (dialect : Dialect) (query : Query)

theorem wheres_bare :
    Sql.wheres dialect query.bare.conditions = Sql.wheres dialect query.conditions := by
  have same : Sql.conditionParts dialect query.bare.conditions =
      Sql.conditionParts dialect query.conditions := by
    rw [bare, Condition.allBare_eq_map]
    exact Condition.conditionParts_map fun member _ => member.2.condition_bare dialect
  have empty : query.bare.conditions.isEmpty = query.conditions.isEmpty :=
    Condition.isEmpty_allBare _
  rw [Sql.wheres, Sql.wheres, Sql.conditions, Sql.conditions, same, empty]

theorem operators_bare : query.bare.operators = query.operators := by
  have same : Condition.allOperators query.bare.conditions =
      Condition.allOperators query.conditions := by
    rw [bare, Condition.allBare_eq_map]
    exact Condition.allOperators_map fun member _ => member.2.operators_bare
  rw [operators, operators, same]
  rfl

/-- The frames of groups decide neither the statement nor the fault. -/
theorem compile_bare : query.bare.compile dialect = query.compile dialect := by
  have checked : query.bare.checkOperators = query.checkOperators := by
    rw [checkOperators, checkOperators, operators_bare]
  have select : Sql.select dialect query.bare = Sql.select dialect query := by
    rw [Sql.select, Sql.select, Sql.selectTail, Sql.selectTail, wheres_bare]
    rfl
  have tail : Sql.mutationTail dialect query.bare = Sql.mutationTail dialect query := by
    rw [Sql.mutationTail, Sql.mutationTail, wheres_bare]
    rfl
  have update : ∀ table, Sql.update dialect table query.bare =
      Sql.update dialect table query := by
    intro table
    rw [Sql.update, Sql.update, tail]
    rfl
  have delete : ∀ table, Sql.delete dialect table query.bare =
      Sql.delete dialect table query := by
    intro table
    rw [Sql.delete, Sql.delete, tail, wheres_bare]
    rfl
  simp only [compile, checked, select, update, delete]
  rfl

theorem sql_bare : query.bare.sql dialect = query.sql dialect := by
  rw [sql, sql, compile_bare]

end Query

end FluentSql
