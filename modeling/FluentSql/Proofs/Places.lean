import FluentSql.Proofs.Compilation

/-!
# How many values a statement asks for

Each clause asks for as many values as it binds: a comparison for one, a range for two, a
list for its members, a group for those of its members. `placeholders_compile` counts the
placeholders of a whole statement by its clauses, in either dialect.
-/

namespace FluentSql

mutual

/-- The number of values that a constraint asks for. -/
def Constraint.places : Constraint → Nat
  | .columns _ _ _ => 0
  | .value _ _ => 1
  | .among _ values _ => values.size
  | .null _ _ => 0
  | .group constraints => Constraint.allPlaces constraints

/-- The number of values that some constraints ask for. -/
def Constraint.allPlaces : List (Connector × Constraint) → Nat
  | [] => 0
  | (_, first) :: rest => first.places + Constraint.allPlaces rest

end

mutual

/-- The number of values that a condition asks for. -/
def Condition.places : Condition → Nat
  | .compare _ _ _ => 1
  | .group _ conditions => Condition.allPlaces conditions
  | .between _ _ => 2
  | .among _ values _ => values.size
  | .null _ _ => 0
  | .datePart _ _ _ _ => 1
  | .jsonContains _ _ _ => 1
  | .jsonLength _ _ _ => 1

/-- The number of values that some conditions ask for. -/
def Condition.allPlaces : List (Connector × Condition) → Nat
  | [] => 0
  | (_, first) :: rest => first.places + Condition.allPlaces rest

end

theorem Constraint.allPlaces_append (first second : List (Connector × Constraint)) :
    allPlaces (first ++ second) = allPlaces first + allPlaces second := by
  induction first with
  | nil => simp [allPlaces]
  | cons part rest inductionHypothesis =>
    rw [List.cons_append, allPlaces, allPlaces, inductionHypothesis, Nat.add_assoc]

namespace Query

/-- The number of values that the joins of a query ask for. -/
def joinPlaces (query : Query) : Nat :=
  Constraint.allPlaces (query.joins.flatMap Join.constraints)

/-- The number of values that a statement asks for. An insert asks for every row for as many
values as its first row has. -/
def places (query : Query) : Nat :=
  match query.kind with
  | .select | .delete => query.joinPlaces + Condition.allPlaces query.conditions
  | .insert => query.rows.length * (query.rows.head?.elim 0 Dictionary.size)
  | .update => query.joinPlaces + query.updates.size + Condition.allPlaces query.conditions

end Query

namespace Sql

open Fragment

variable {dialect : Dialect}

@[simp] theorem placeholders_text (chars : List Char) : placeholders [.text chars] = 0 := rfl

@[simp] theorem placeholders_parenthesized (fragment : Fragment) :
    placeholders (parenthesized fragment) = placeholders fragment := by
  simp [parenthesized]

/-- Separators ask for nothing. -/
theorem placeholders_separated (separator : String) :
    ∀ fragments : List Fragment,
      placeholders (separated separator fragments) = placeholders fragments.flatten
  | [] => rfl
  | [only] => by simp [separated, List.intercalate]
  | first :: second :: rest => by
    have later := placeholders_separated separator (second :: rest)
    have whole : separated separator (first :: second :: rest) =
        first ++ (fixed separator ++ separated separator (second :: rest)) := by
      simp [separated, List.intercalate]
    rw [whole, placeholders_append, placeholders_append, later]
    simp

theorem placeholders_separated_of_forall (separator : String) {fragments : List Fragment}
    (count : Nat) (each : ∀ fragment ∈ fragments, placeholders fragment = count) :
    placeholders (separated separator fragments) = fragments.length * count := by
  rw [placeholders_separated]
  induction fragments with
  | nil => simp
  | cons first rest inductionHypothesis =>
    rw [List.forall_mem_cons] at each
    rw [List.flatten_cons, placeholders_append, each.1, inductionHypothesis each.2,
      List.length_cons, Nat.succ_mul, Nat.add_comm]

@[simp] theorem placeholders_placeholderList (count : Nat) :
    placeholders (placeholderList count) = count := by
  have each : ∀ fragment ∈ List.replicate count placeholder, placeholders fragment = 1 := by
    intro fragment member
    rw [List.eq_of_mem_replicate member]
    rfl
  rw [placeholderList, placeholders_separated_of_forall ", " 1 each, List.length_replicate,
    Nat.mul_one]

/-- Connectors ask for nothing. -/
theorem placeholders_chain (parts : List (Connector × Fragment)) :
    placeholders (chain parts) = placeholders (parts.flatMap Prod.snd) := by
  cases parts with
  | nil => rfl
  | cons first rest =>
    rw [chain, List.flatMap_cons, placeholders_append, placeholders_append]
    congr 1
    induction rest with
    | nil => rfl
    | cons second later inductionHypothesis =>
      rw [List.flatMap_cons, List.flatMap_cons, placeholders_append, placeholders_append,
        inductionHypothesis]
      simp

/-- Some constraints ask for as many values as each does. -/
theorem placeholders_constraintParts {list : List (Connector × Constraint)}
    (each : ∀ member ∈ list, placeholders (constraint dialect member.2) = member.2.places) :
    placeholders (chain (constraintParts dialect list)) = Constraint.allPlaces list := by
  rw [placeholders_chain]
  induction list with
  | nil => simp [constraintParts, Constraint.allPlaces]
  | cons first rest inductionHypothesis =>
    rw [List.forall_mem_cons] at each
    rw [constraintParts, List.flatMap_cons, placeholders_append, each.1,
      inductionHypothesis each.2, Constraint.allPlaces]

/-- Some conditions ask for as many values as each does. -/
theorem placeholders_conditionParts {list : List (Connector × Condition)}
    (each : ∀ member ∈ list, placeholders (condition dialect member.2) = member.2.places) :
    placeholders (chain (conditionParts dialect list)) = Condition.allPlaces list := by
  rw [placeholders_chain]
  induction list with
  | nil => simp [conditionParts, Condition.allPlaces]
  | cons first rest inductionHypothesis =>
    rw [List.forall_mem_cons] at each
    rw [conditionParts, List.flatMap_cons, placeholders_append, each.1,
      inductionHypothesis each.2, Condition.allPlaces]

@[simp] theorem placeholders_reference (column : Reference) :
    placeholders (reference dialect column) = 0 := rfl

@[simp] theorem placeholders_infixed (operator : Operator) :
    placeholders (infixed operator) = 0 := rfl

@[simp] theorem placeholders_placeField (place : JsonPlace) :
    placeholders (placeField dialect place) = 0 := rfl

@[simp] theorem placeholders_placePath (place : JsonPlace) : placeholders (placePath place) = 0 :=
  rfl

/-- An empty list asks for nothing, and its column is not written. -/
@[simp] theorem placeholders_among (column : Reference) (count : Nat) (negated : Bool) :
    placeholders (among dialect column count negated) = count := by
  unfold among
  split
  · rename_i isEmpty
    simp [isEmpty]
  · simp

@[simp] theorem placeholders_jsonContains (column : Reference) (negated : Bool) :
    placeholders (jsonContains dialect column negated) = 1 := by
  cases dialect <;> cases negated <;> simp [jsonContains]

theorem placeholders_constraint (clause : Constraint) :
    placeholders (constraint dialect clause) = clause.places := by
  induction clause using Constraint.induction with
  | columns first operator second => simp [constraint, Constraint.places]
  | value column operator =>
    rw [constraint, Constraint.places]
    split <;> simp
  | among column values negated => simp [constraint, Constraint.places]
  | null column negated => simp [constraint, Constraint.places, null]
  | group members inductionHypothesis =>
    rw [constraint, placeholders_parenthesized, Constraint.places]
    exact placeholders_constraintParts inductionHypothesis

theorem placeholders_condition (clause : Condition) :
    placeholders (condition dialect clause) = clause.places := by
  induction clause using Condition.induction with
  | compare column operator value => simp [condition, Condition.places]
  | group frame members inductionHypothesis =>
    rw [condition, placeholders_parenthesized, Condition.places]
    exact placeholders_conditionParts inductionHypothesis
  | between column negated => simp [condition, Condition.places]
  | among column values negated => simp [condition, Condition.places]
  | null column negated => simp [condition, Condition.places, null]
  | datePart unit column operator value => simp [condition, Condition.places]
  | jsonContains column value negated => simp [condition, Condition.places]
  | jsonLength column operator value =>
    simp [condition, Condition.places, jsonLength]

@[simp] theorem placeholders_columnList (columns : List Reference) :
    placeholders (columnList dialect columns) = 0 := by
  unfold columnList
  split
  · rfl
  · rw [placeholders_separated_of_forall _ 0 (by simp), Nat.mul_zero]

@[simp] theorem placeholders_selectList (columns : List Reference) :
    placeholders (selectList dialect columns) = 0 := by
  unfold selectList
  split
  · rfl
  · rw [placeholders_separated_of_forall _ 0 (by simp), Nat.mul_zero]

theorem placeholders_join (clause : Join) :
    placeholders (join dialect clause) = Constraint.allPlaces clause.constraints := by
  rw [join]
  split
  · rename_i isEmpty
    simp [List.isEmpty_iff.mp isEmpty, Constraint.allPlaces]
  · have constrained : placeholders (constraints dialect clause.constraints) =
        Constraint.allPlaces clause.constraints :=
      placeholders_constraintParts fun member _ => placeholders_constraint member.2
    simp [constrained]

@[simp] theorem placeholders_joins (list : List Join) :
    placeholders (joins dialect list) = Constraint.allPlaces (list.flatMap Join.constraints) := by
  rw [joins]
  induction list with
  | nil => simp [Constraint.allPlaces]
  | cons first rest inductionHypothesis =>
    rw [List.flatMap_cons, List.flatMap_cons, placeholders_append, placeholders_join,
      inductionHypothesis, Constraint.allPlaces_append]

@[simp] theorem placeholders_wheres (list : List (Connector × Condition)) :
    placeholders (wheres dialect list) = Condition.allPlaces list := by
  unfold wheres
  split
  · rename_i isEmpty
    simp [List.isEmpty_iff.mp isEmpty, Condition.allPlaces]
  · have written : placeholders (conditions dialect list) = Condition.allPlaces list :=
      placeholders_conditionParts fun member _ => placeholders_condition member.2
    simp [written]

@[simp] theorem placeholders_groups (columns : Columns) :
    placeholders (groups dialect columns) = 0 := by
  unfold groups
  split <;> simp

@[simp] theorem placeholders_orders (list : List Ordering) :
    placeholders (orders dialect list) = 0 := by
  unfold orders
  split
  · rfl
  · rw [placeholders_append, placeholders_separated_of_forall _ 0 (by simp), Nat.mul_zero]
    rfl

@[simp] theorem placeholders_limit (pagination : Pagination) :
    placeholders (limit pagination) = 0 := by
  unfold limit
  split <;> simp [number]

@[simp] theorem placeholders_offset (pagination : Pagination) :
    placeholders (offset pagination) = 0 := by
  unfold offset
  split <;> simp [number]

@[simp] theorem placeholders_lock (lock? : Option Lock) :
    placeholders (lock dialect lock?) = 0 := by
  unfold lock
  split <;> rfl

@[simp] theorem placeholders_mutationTail (query : Query) :
    placeholders (mutationTail dialect query) = Condition.allPlaces query.conditions := by
  simp [mutationTail]

@[simp] theorem placeholders_selectHead (query : Query) :
    placeholders (selectHead dialect query) = 0 := by
  simp [selectHead]

@[simp] theorem placeholders_aggregateHead (query : Query) (aggregate : Aggregate) :
    placeholders (aggregateHead dialect query aggregate) = 0 := by
  simp only [aggregateHead, placeholders_append]
  split <;> simp

@[simp] theorem placeholders_selectTail (query : Query) :
    placeholders (selectTail dialect query) =
      query.joinPlaces + Condition.allPlaces query.conditions := by
  unfold selectTail
  split <;> simp [Query.joinPlaces]

theorem placeholders_select (query : Query) :
    placeholders (select dialect query) =
      query.joinPlaces + Condition.allPlaces query.conditions := by
  unfold select
  split <;> simp

theorem placeholders_insert (table : Reference) (first : Row) (rows : List Row) :
    placeholders (insert dialect table first rows) = rows.length * first.size := by
  have values : placeholders (separated ", " (rows.map fun _ =>
      parenthesized (placeholderList first.size))) = rows.length * first.size := by
    rw [placeholders_separated_of_forall _ first.size (by simp), List.length_map]
  unfold insert
  rw [placeholders_append, values]
  simp

theorem placeholders_assignment (column : Reference) :
    placeholders (assignment dialect column) = 1 := by
  unfold assignment
  split <;> simp

theorem placeholders_update (table : Reference) (query : Query) :
    placeholders (update dialect table query) =
      query.joinPlaces + query.updates.size + Condition.allPlaces query.conditions := by
  have assigned : placeholders (separated ", " (query.updates.keys.map (assignment dialect))) =
      query.updates.size := by
    rw [placeholders_separated_of_forall _ 1 (by simp [placeholders_assignment])]
    simp [Dictionary.size, Dictionary.keys]
  simp only [update, placeholders_append, assigned, placeholders_joins, placeholders_mutationTail]
  simp [Query.joinPlaces]

theorem placeholders_delete (table : Reference) (query : Query) :
    placeholders (delete dialect table query) =
      query.joinPlaces + Condition.allPlaces query.conditions := by
  have name : placeholders (deletedName dialect table) = 0 := by
    unfold deletedName
    split <;> simp
  unfold delete
  split
  · simp [name, Query.joinPlaces]
  · rename_i noJoins
    have joins : query.joins = [] := by simpa [Frame.hasJoins] using noJoins
    simp [Query.joinPlaces, joins, Constraint.allPlaces]

end Sql

/-- A statement asks for as many values as its clauses do. -/
theorem Query.placeholders_compile {dialect : Dialect} {query : Query} {statement : Fragment}
    (written : query.compile dialect = .ok statement) :
    statement.placeholders = query.places := by
  unfold places
  cases compile_eq_ok_iff.mp written with
  | select isSelect => rw [isSelect, Sql.placeholders_select]
  | insert isInsert _ rows => rw [isInsert, Sql.placeholders_insert, rows]; rfl
  | update isUpdate => rw [isUpdate, Sql.placeholders_update]
  | delete isDelete => rw [isDelete, Sql.placeholders_delete]

end FluentSql
