import FluentSql.Query.Condition
import FluentSql.Sql.Expression
import FluentSql.Sql.Fragment

/-!
# Conditions and constraints as text

A list of conditions is written with their connectors between them; the connector of
the first is never written. Every condition is written the same way in both dialects,
except those on JSON columns. Writing never fails: whether the operators can be
written is asked beforehand of the list of operators that a condition holds, in the
order in which they are written.
-/

namespace FluentSql.Sql

open Fragment

/-- A reference in a statement. -/
def reference (dialect : Dialect) (reference : Reference) : Fragment :=
  [.text (wrap dialect reference.toList)]

/-- Fragments joined by connectors; the first connector is left out. -/
def chain : List (Connector × Fragment) → Fragment
  | [] => []
  | (_, first) :: rest =>
    first ++ rest.flatMap fun part => fixed " " ++ fixed part.1.keyword ++ fixed " " ++ part.2

/-- An operator with blanks around it. -/
def infixed (operator : Operator) : Fragment := fixed " " ++ fixed operator.text ++ fixed " "

/-- Whether a column is among some values. An empty list needs no column and no value. -/
def among (dialect : Dialect) (column : Reference) (count : Nat) (negated : Bool) : Fragment :=
  if count = 0 then fixed (if negated then "1 = 1" else "0 = 1")
  else reference dialect column ++ fixed (if negated then " not in (" else " in (") ++
    placeholderList count ++ fixed ")"

/-- Whether a column is null. -/
def null (dialect : Dialect) (column : Reference) (negated : Bool) : Fragment :=
  reference dialect column ++ fixed (if negated then " is not null" else " is null")

/-- The column of a JSON place. -/
def placeField (dialect : Dialect) (place : JsonPlace) : Fragment :=
  [.text (place.field.render dialect)]

/-- The path of a JSON place as a further argument. -/
def placePath (place : JsonPlace) : Fragment := [.text place.pathArgument]

/-- Whether a JSON column contains a value. -/
def jsonContains (dialect : Dialect) (column : Reference) (negated : Bool) : Fragment :=
  let place := JsonPlace.ofText column.toList
  (if negated then fixed "not " else []) ++
  match dialect with
  | .mysql =>
    fixed "json_contains(" ++ placeField dialect place ++ fixed ", " ++ placeholder ++
      placePath place ++ fixed ")"
  | .sqlite =>
    fixed "exists (select 1 from json_each(" ++ placeField dialect place ++ placePath place ++
      fixed ") where json_each.value = json_extract(" ++ placeholder ++ fixed ", '$'))"

/-- The function that counts the items of a JSON value. -/
def jsonLengthFunction : Dialect → String
  | .mysql => "json_length("
  | .sqlite => "json_array_length("

/-- Compare the length of a JSON column with a value. -/
def jsonLength (dialect : Dialect) (column : Reference) (operator : Operator) : Fragment :=
  let place := JsonPlace.ofText column.toList
  fixed (jsonLengthFunction dialect) ++ placeField dialect place ++ placePath place ++ fixed ")" ++
    infixed operator ++ placeholder

mutual

/-- A constraint of a join. -/
def constraint (dialect : Dialect) : Constraint → Fragment
  | .columns first operator second =>
    reference dialect first ++ infixed operator ++ reference dialect second
  | .value column operator =>
    reference dialect column ++ infixed operator ++
      if operator.isList then parenthesized placeholder else placeholder
  | .among column values negated => among dialect column values.size negated
  | .null column negated => null dialect column negated
  | .group constraints => parenthesized (chain (constraintParts dialect constraints))

/-- The constraints of a join, each with its connector. -/
def constraintParts (dialect : Dialect) :
    List (Connector × Constraint) → List (Connector × Fragment)
  | [] => []
  | (connector, first) :: rest =>
    (connector, constraint dialect first) :: constraintParts dialect rest

end

mutual

/-- A where condition. -/
def condition (dialect : Dialect) : Condition → Fragment
  | .compare column operator _ => reference dialect column ++ infixed operator ++ placeholder
  | .group _ conditions => parenthesized (chain (conditionParts dialect conditions))
  | .between column negated =>
    reference dialect column ++ fixed (if negated then " not between " else " between ") ++
      placeholder ++ fixed " and " ++ placeholder
  | .among column values negated => among dialect column values.size negated
  | .null column negated => null dialect column negated
  | .datePart unit column operator _ =>
    fixed unit.function ++ parenthesized (reference dialect column) ++ infixed operator ++
      placeholder
  | .jsonContains column _ negated => jsonContains dialect column negated
  | .jsonLength column operator _ => jsonLength dialect column operator

/-- Where conditions, each with its connector. -/
def conditionParts (dialect : Dialect) :
    List (Connector × Condition) → List (Connector × Fragment)
  | [] => []
  | (connector, first) :: rest =>
    (connector, condition dialect first) :: conditionParts dialect rest

end

/-- The constraints of a join. -/
def constraints (dialect : Dialect) (list : List (Connector × Constraint)) : Fragment :=
  chain (constraintParts dialect list)

/-- Where conditions. -/
def conditions (dialect : Dialect) (list : List (Connector × Condition)) : Fragment :=
  chain (conditionParts dialect list)

theorem constraintParts_eq_map (dialect : Dialect) (list : List (Connector × Constraint)) :
    constraintParts dialect list = list.map fun part => (part.1, constraint dialect part.2) := by
  induction list with
  | nil => simp [constraintParts]
  | cons part rest inductionHypothesis => simp [constraintParts, inductionHypothesis]

theorem conditionParts_eq_map (dialect : Dialect) (list : List (Connector × Condition)) :
    conditionParts dialect list = list.map fun part => (part.1, condition dialect part.2) := by
  induction list with
  | nil => simp [conditionParts]
  | cons part rest inductionHypothesis => simp [conditionParts, inductionHypothesis]

end FluentSql.Sql

namespace FluentSql

mutual

/-- The operators that a constraint writes, in order. -/
def Constraint.operators : Constraint → List Operator
  | .columns _ operator _ => [operator]
  | .value _ operator => [operator]
  | .among _ _ _ => []
  | .null _ _ => []
  | .group constraints => Constraint.allOperators constraints

/-- The operators that some constraints write, in order. -/
def Constraint.allOperators : List (Connector × Constraint) → List Operator
  | [] => []
  | (_, first) :: rest => first.operators ++ Constraint.allOperators rest

end

mutual

/-- The operators that a condition writes, in order. -/
def Condition.operators : Condition → List Operator
  | .compare _ operator _ => [operator]
  | .group _ conditions => Condition.allOperators conditions
  | .between _ _ => []
  | .among _ _ _ => []
  | .null _ _ => []
  | .datePart _ _ operator _ => [operator]
  | .jsonContains _ _ _ => []
  | .jsonLength _ operator _ => [operator]

/-- The operators that some conditions write, in order. -/
def Condition.allOperators : List (Connector × Condition) → List Operator
  | [] => []
  | (_, first) :: rest => first.operators ++ Condition.allOperators rest

end

theorem Constraint.allOperators_eq_flatMap (list : List (Connector × Constraint)) :
    allOperators list = list.flatMap fun part => part.2.operators := by
  induction list with
  | nil => simp [allOperators]
  | cons part rest inductionHypothesis => simp [allOperators, inductionHypothesis]

theorem Condition.allOperators_eq_flatMap (list : List (Connector × Condition)) :
    allOperators list = list.flatMap fun part => part.2.operators := by
  induction list with
  | nil => simp [allOperators]
  | cons part rest inductionHypothesis => simp [allOperators, inductionHypothesis]

end FluentSql
