import FluentSql.Query.Condition

/-!
# Constraints and conditions at any depth

`within` lists a constraint or condition together with everything that stands in it, however
deep in groups. What is said of all members of such a list is said of a whole tree; the laws
say what the list is for a group, and for trees put one after the other.
-/

namespace FluentSql

namespace Constraint

mutual

/-- A constraint and, if it is a group, the constraints in it at any depth. -/
def within : Constraint → List Constraint
  | .columns first operator second => [.columns first operator second]
  | .value column operator => [.value column operator]
  | .among column values negated => [.among column values negated]
  | .null column negated => [.null column negated]
  | .group constraints => .group constraints :: allWithin constraints

/-- Some constraints and the constraints in their groups at any depth. -/
def allWithin : List (Connector × Constraint) → List Constraint
  | [] => []
  | (_, first) :: rest => first.within ++ allWithin rest

end

theorem allWithin_eq_flatMap (list : List (Connector × Constraint)) :
    allWithin list = list.flatMap fun part => part.2.within := by
  induction list with
  | nil => simp [allWithin]
  | cons part rest inductionHypothesis => simp [allWithin, inductionHypothesis]

@[simp] theorem allWithin_append (first second : List (Connector × Constraint)) :
    allWithin (first ++ second) = allWithin first ++ allWithin second := by
  simp [allWithin_eq_flatMap]

end Constraint

namespace Condition

mutual

/-- A condition and, if it is a group, the conditions in it at any depth. -/
def within : Condition → List Condition
  | .compare column operator value => [.compare column operator value]
  | .group frame conditions => .group frame conditions :: allWithin conditions
  | .between column negated => [.between column negated]
  | .among column values negated => [.among column values negated]
  | .null column negated => [.null column negated]
  | .datePart unit column operator value => [.datePart unit column operator value]
  | .jsonContains column value negated => [.jsonContains column value negated]
  | .jsonLength column operator value => [.jsonLength column operator value]

/-- Some conditions and the conditions in their groups at any depth. -/
def allWithin : List (Connector × Condition) → List Condition
  | [] => []
  | (_, first) :: rest => first.within ++ allWithin rest

end

theorem allWithin_eq_flatMap (list : List (Connector × Condition)) :
    allWithin list = list.flatMap fun part => part.2.within := by
  induction list with
  | nil => simp [allWithin]
  | cons part rest inductionHypothesis => simp [allWithin, inductionHypothesis]

@[simp] theorem allWithin_append (first second : List (Connector × Condition)) :
    allWithin (first ++ second) = allWithin first ++ allWithin second := by
  simp [allWithin_eq_flatMap]

theorem self_mem_within (condition : Condition) : condition ∈ condition.within := by
  cases condition <;> simp [within]

end Condition

end FluentSql
