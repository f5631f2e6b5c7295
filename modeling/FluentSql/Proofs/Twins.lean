import FluentSql.Proofs.Heading
import FluentSql.Query.Call

/-!
# Methods and their twins

Every method that adds to a list of conditions or constraints comes in two: the plain one adds
with `and`, its twin with `or`. What a method adds does not depend on the connector, so the two
leave states that differ in the connectors of what was added and in nothing else
(`Builder.Method.run_or`, `Join.Method.run_or`). The first connector of a list is not written;
hence a method that adds no more than one condition may be swapped for its twin on the first
condition of a list, at any depth, and neither statement nor values are others
(`Builder.Swapped.alike`). Of all methods only a list of comparisons can add several, and then the
connectors between them are written (`Builder.Method.text_wheres_eq_iff`).
-/

namespace FluentSql

/-! ## What methods add -/

namespace Builder

/-- A method that takes a connector; its group is filled in any way. -/
inductive Method where
  | compare (column : Reference) (operator : Operator) (value : Bind)
  | compareAll (values : List (Reference × Bind))
  | group (fill : Builder → Builder)
  | between (column : Reference) (low high : Bind) (negated : Bool)
  | among (column : Reference) (values : Items Bind) (negated : Bool)
  | null (column : Reference) (negated : Bool)
  | datePart (unit : DateUnit) (column : Reference) (operator : Operator) (value : Bind)
  | jsonContains (column : Reference) (value : Json) (negated : Bool)
  | jsonLength (column : Reference) (operator : Operator) (value : Bind)

/-- A comparison and the values that it binds. -/
def comparison (column : Reference) (operator : Operator) (value : Bind) :
    Condition × Items Bind :=
  if value.isNull then (.null column (operator ≠ .equal), .none)
  else (.compare column operator value, .one value)

/-- Add some conditions with one connector, and the values that they bind. -/
def addConditions (connector : Connector) (parts : List (Condition × Items Bind))
    (builder : Builder) : Builder :=
  parts.foldl (fun builder part => builder.addCondition connector part.1 part.2) builder

theorem compare_eq_addCondition (connector : Connector) (column : Reference)
    (operator : Operator) (value : Bind) (builder : Builder) :
    builder.compare connector column operator value =
      builder.addCondition connector (comparison column operator value).1
        (comparison column operator value).2 := by
  unfold compare comparison
  split <;> rfl

theorem addConditions_eq (connector : Connector) (parts : List (Condition × Items Bind))
    (builder : Builder) :
    builder.addConditions connector parts = builder.modify fun query => { query with
      buckets := parts.foldl (fun buckets part => buckets.add .filter part.2) query.buckets
      conditions := query.conditions ++ parts.map fun part => (connector, part.1) } := by
  unfold addConditions
  induction parts generalizing builder with
  | nil => simp [modify]
  | cons part rest inductionHypothesis =>
    rw [List.foldl_cons, inductionHypothesis]
    simp [addCondition, modify]

namespace Method

/-- The builder after a method. -/
def run (connector : Connector) : Method → Builder → Builder
  | compare column operator value => Builder.compare connector column operator value
  | compareAll values => Builder.compareAll connector values
  | group fill => Builder.group connector fill
  | between column low high negated => Builder.between connector column low high negated
  | among column values negated => Builder.among connector column values negated
  | null column negated => Builder.null connector column negated
  | datePart unit column operator value => Builder.datePart connector unit column operator value
  | jsonContains column value negated => Builder.jsonContains connector column value negated
  | jsonLength column operator value => Builder.jsonLength connector column operator value

/-- The conditions that a method adds, each with the values that it binds: one for each entry of
a list of comparisons, none for a group that stays empty, else a single one. -/
def added (builder : Builder) : Method → List (Condition × Items Bind)
  | compare column operator value => [comparison column operator value]
  | compareAll values => values.map fun entry => comparison entry.1 .equal entry.2
  | group fill =>
    let inner := (fill builder.nested).query
    if inner.conditions.isEmpty then []
    else [(.group { inner.toFrame with buckets := .empty } inner.conditions,
      inner.buckets.gathered)]
  | between column low high negated => [(.between column negated, .many [low, high])]
  | among column values negated => [(.among column values negated, values)]
  | null column negated => [(.null column negated, .none)]
  | datePart unit column operator value =>
    [(.datePart unit column operator value, .one value)]
  | jsonContains column value negated =>
    let value := Bind.text (String.ofList value.text)
    [(.jsonContains column value negated, .one value)]
  | jsonLength column operator value => [(.jsonLength column operator value, .one value)]

/-- The methods that add one condition at most: all but a list of several comparisons. -/
def Swappable : Method → Prop
  | compareAll values => values.length ≤ 1
  | _ => True

theorem length_added_le_one_iff (method : Method) (builder : Builder) :
    (method.added builder).length ≤ 1 ↔ method.Swappable := by
  cases method with
  | compareAll values => rw [added, List.length_map, Swappable]
  | group fill =>
    refine iff_of_true ?_ trivial
    simp only [added]
    split
    · exact Nat.zero_le 1
    · exact Nat.le_refl 1
  | compare | between | among | null | datePart | jsonContains | jsonLength =>
    exact iff_of_true (Nat.le_refl 1) trivial

/-- What is added does not depend on the connector. -/
theorem run_eq (method : Method) (connector : Connector) (builder : Builder) :
    method.run connector builder = builder.addConditions connector (method.added builder) := by
  cases method with
  | compare column operator value => exact compare_eq_addCondition connector column operator value _
  | compareAll values =>
    simp only [run, added, Builder.compareAll, addConditions, List.foldl_map,
      compare_eq_addCondition]
  | group fill =>
    simp only [run, added, Builder.group]
    split <;> rfl
  | between | among | null | datePart | jsonContains | jsonLength => rfl

variable (method : Method) (builder : Builder)

theorem conditions_run (connector : Connector) :
    (method.run connector builder).query.conditions =
      builder.query.conditions ++ (method.added builder).map fun part => (connector, part.1) := by
  rw [run_eq, addConditions_eq]
  rfl

/-- A twin leaves what the method leaves, but for the connectors of what is added. -/
theorem run_or : method.run .or builder =
    (method.run .and builder).modify fun query => { query with
      conditions := builder.query.conditions ++
        (method.added builder).map fun part => (.or, part.1) } := by
  simp only [run_eq, addConditions_eq]
  rfl

end Method

end Builder

namespace Join

/-- A method of a join that takes a connector; its group is filled in any way. -/
inductive Method where
  | compareColumns (first : Reference) (operator : Operator) (second : Reference)
  | compareValue (column : Reference) (operator : Operator) (value : Bind)
  | null (column : Reference) (negated : Bool)
  | among (column : Reference) (values : Items Bind) (negated : Bool)
  | group (fill : Join → Join)

namespace Method

/-- The join after a method. -/
def run (connector : Connector) : Method → Join → Join
  | compareColumns first operator second => Join.compareColumns connector first operator second
  | compareValue column operator value => Join.compareValue connector column operator value
  | null column negated => Join.null connector column negated
  | among column values negated => Join.among connector column values negated
  | group fill => Join.group connector fill

/-- The constraint that a method adds and the values that it binds; a group that stays empty
adds none. -/
def added? (join : Join) : Method → Option (Constraint × Items Bind)
  | compareColumns first operator second => some (.columns first operator second, .none)
  | compareValue column operator value => some (.value column operator, .one value)
  | null column negated => some (.null column negated, .none)
  | among column values negated => some (.among column values negated, values)
  | group fill =>
    let inner := fill (.on join.kind join.table)
    if inner.isEmpty then none else some (.group inner.constraints, inner.bindings)

/-- What is added does not depend on the connector. -/
theorem run_eq (method : Method) (connector : Connector) (join : Join) :
    method.run connector join =
      match method.added? join with
      | some part => join.add connector part.1 part.2
      | none => join := by
  cases method with
  | group fill =>
    simp only [run, added?, Join.group]
    split <;> rfl
  | compareColumns | compareValue | null | among => rfl

variable (method : Method) (join : Join)

theorem constraints_run (connector : Connector) :
    (method.run connector join).constraints =
      join.constraints ++ (method.added? join).toList.map fun part => (connector, part.1) := by
  rw [run_eq]
  cases method.added? join <;> simp [Join.add]

/-- A twin leaves what the method leaves, but for the connector of what is added. -/
theorem run_or : method.run .or join = { method.run .and join with
    constraints := join.constraints ++
      (method.added? join).toList.map fun part => (.or, part.1) } := by
  rw [run_eq, run_eq]
  cases method.added? join <;> simp [Join.add]

end Method

end Join

/-! ## Lists that differ in their first connector -/

namespace Sql

/-- Of the parts in front only what is written matters for what comes after, and whether there
are any. -/
theorem chain_append_congr {left right : List (Connector × Fragment)}
    (empty : left = [] ↔ right = []) (same : chain left = chain right)
    (rest : List (Connector × Fragment)) : chain (left ++ rest) = chain (right ++ rest) := by
  cases left with
  | nil => rw [empty.mp rfl]
  | cons first left =>
    obtain ⟨second, right, rfl⟩ :=
      List.exists_cons_of_ne_nil (mt empty.mpr (List.cons_ne_nil first left))
    simp only [chain, List.cons_append, List.flatMap_append, ← List.append_assoc] at same ⊢
    rw [same]

end Sql

/-- Two lists that are written alike, item by item and operator by operator; their first
connectors may be others. -/
structure WrittenAlike {α : Type} (write : Dialect → α → Fragment)
    (operators : α → List Operator) (left right : List (Connector × α)) : Prop where
  empty : left = [] ↔ right = []
  written : ∀ dialect, Sql.chain (left.map fun part => (part.1, write dialect part.2)) =
    Sql.chain (right.map fun part => (part.1, write dialect part.2))
  operators : (left.flatMap fun part => operators part.2) =
    right.flatMap fun part => operators part.2

namespace WrittenAlike

variable {α : Type} {write : Dialect → α → Fragment} {operators : α → List Operator}
  {left right : List (Connector × α)}

theorem refl (list : List (Connector × α)) : WrittenAlike write operators list list :=
  ⟨.rfl, fun _ => rfl, rfl⟩

theorem isEmpty (alike : WrittenAlike write operators left right) :
    left.isEmpty = right.isEmpty := by
  rw [Bool.eq_iff_iff, List.isEmpty_iff, List.isEmpty_iff, alike.empty]

theorem append (alike : WrittenAlike write operators left right) (rest : List (Connector × α)) :
    WrittenAlike write operators (left ++ rest) (right ++ rest) where
  empty := by rw [List.append_eq_nil_iff, List.append_eq_nil_iff, alike.empty]
  written := fun dialect => by
    rw [List.map_append, List.map_append]
    refine Sql.chain_append_congr ?_ (alike.written dialect) _
    rw [List.map_eq_nil_iff, List.map_eq_nil_iff, alike.empty]
  operators := by rw [List.flatMap_append, List.flatMap_append, alike.operators]

/-- The first connector is not written. -/
theorem first (connector other : Connector) (item : α) :
    WrittenAlike write operators [(connector, item)] [(other, item)] :=
  ⟨by simp, fun _ => rfl, rfl⟩

theorem concat (front : List (Connector × α)) (connector : Connector) {item other : α}
    (written : ∀ dialect, write dialect item = write dialect other)
    (same : operators item = operators other) :
    WrittenAlike write operators (front ++ [(connector, item)])
      (front ++ [(connector, other)]) where
  empty := by simp
  written := fun dialect => by
    simp only [List.map_append, List.map_singleton, written dialect]
  operators := by simp only [List.flatMap_append, List.flatMap_singleton, same]

end WrittenAlike

/-- Conditions that are written alike. -/
abbrev Condition.Alike := WrittenAlike Sql.condition Condition.operators

/-- Constraints that are written alike. -/
abbrev Constraint.Alike := WrittenAlike Sql.constraint Constraint.operators

namespace Sql

variable (dialect : Dialect)

theorem conditions_eq_of_alike {left right : List (Connector × Condition)}
    (alike : Condition.Alike left right) :
    conditions dialect left = conditions dialect right := by
  rw [conditions, conditions, conditionParts_eq_map, conditionParts_eq_map, alike.written]

theorem constraints_eq_of_alike {left right : List (Connector × Constraint)}
    (alike : Constraint.Alike left right) :
    constraints dialect left = constraints dialect right := by
  rw [constraints, constraints, constraintParts_eq_map, constraintParts_eq_map, alike.written]

theorem wheres_eq_of_alike {left right : List (Connector × Condition)}
    (alike : Condition.Alike left right) : wheres dialect left = wheres dialect right := by
  rw [wheres, wheres, alike.isEmpty, conditions_eq_of_alike dialect alike]

/-- The first connector that is written is that of the second condition. -/
theorem text_wheres_cons_cons (first second : Connector × Condition)
    (rest : List (Connector × Condition)) :
    (wheres dialect (first :: second :: rest)).text =
      (" where ".toList ++ (condition dialect first.2).text ++ [' ']) ++ (second.1.keyword.toList ++
        ' ' :: (chain (conditionParts dialect (second :: rest))).text) := by
  simp [wheres, conditions, conditionParts_eq_map, chain]

/-- A list of several conditions is written differently for either connector. -/
theorem text_wheres_ne (first second : Condition) (rest : List Condition) :
    (wheres dialect ((first :: second :: rest).map (Prod.mk .and))).text ≠
      (wheres dialect ((first :: second :: rest).map (Prod.mk .or))).text := by
  simp only [List.map_cons, text_wheres_cons_cons]
  intro same
  have keywords := List.append_cancel_left same
  cases keywords

end Sql

theorem Condition.allOperators_eq_of_alike {left right : List (Connector × Condition)}
    (alike : Condition.Alike left right) : allOperators left = allOperators right := by
  rw [allOperators_eq_flatMap, allOperators_eq_flatMap, alike.operators]

theorem Constraint.allOperators_eq_of_alike {left right : List (Connector × Constraint)}
    (alike : Constraint.Alike left right) : allOperators left = allOperators right := by
  rw [allOperators_eq_flatMap, allOperators_eq_flatMap, alike.operators]

/-! ## Joins that are written alike -/

/-- Two joins that bind the same and whose constraints are written alike. -/
structure Join.Alike (left right : Join) : Prop where
  kind : left.kind = right.kind
  table : left.table = right.table
  bindings : left.bindings = right.bindings
  constraints : Constraint.Alike left.constraints right.constraints

/-- Two lists of joins that are written alike. -/
structure Joins.Alike (left right : List Join) : Prop where
  empty : left = [] ↔ right = []
  written : ∀ dialect, Sql.joins dialect left = Sql.joins dialect right
  operators : (left.flatMap fun join => Constraint.allOperators join.constraints) =
    right.flatMap fun join => Constraint.allOperators join.constraints

namespace Joins.Alike

theorem refl (list : List Join) : Alike list list := ⟨.rfl, fun _ => rfl, rfl⟩

theorem append {left right : List Join} (alike : Alike left right) (rest : List Join) :
    Alike (left ++ rest) (right ++ rest) where
  empty := by rw [List.append_eq_nil_iff, List.append_eq_nil_iff, alike.empty]
  written := fun dialect => by
    have before := alike.written dialect
    rw [Sql.joins, Sql.joins] at before ⊢
    rw [List.flatMap_append, List.flatMap_append, before]
  operators := by rw [List.flatMap_append, List.flatMap_append, alike.operators]

/-- The last join may be any that is written alike. -/
theorem concat (front : List Join) {join twin : Join} (table : join.table = twin.table)
    (kind : join.kind = twin.kind)
    (constraints : Constraint.Alike join.constraints twin.constraints) :
    Alike (front ++ [join]) (front ++ [twin]) where
  empty := by simp
  written := fun dialect => by
    have last : Sql.join dialect join = Sql.join dialect twin := by
      simp only [Sql.join, table, kind, constraints.isEmpty,
        Sql.constraints_eq_of_alike dialect constraints]
    simp only [Sql.joins, List.flatMap_append, List.flatMap_singleton, last]
  operators := by
    simp only [List.flatMap_append, List.flatMap_singleton,
      Constraint.allOperators_eq_of_alike constraints]

end Joins.Alike

namespace Join

variable {left right : Join}

theorem Alike.add (alike : left.Alike right) (connector : Connector) (constraint : Constraint)
    (values : Items Bind) :
    (left.add connector constraint values).Alike (right.add connector constraint values) :=
  ⟨alike.kind, alike.table, congrArg (· ++ values) alike.bindings, alike.constraints.append _⟩

/-- A method sees of a join its kind and its table only. -/
theorem Alike.method (alike : left.Alike right) (method : Method) (connector : Connector) :
    (method.run connector left).Alike (method.run connector right) := by
  have added : method.added? left = method.added? right := by
    cases method with
    | group fill => simp only [Method.added?, alike.kind, alike.table]
    | _ => rfl
  rw [Method.run_eq, Method.run_eq, added]
  cases method.added? right with
  | none => exact alike
  | some part => exact alike.add connector part.1 part.2

theorem Alike.group (join : Join) (connector : Connector) {fill twin : Join → Join}
    (inner : (fill (.on join.kind join.table)).Alike (twin (.on join.kind join.table))) :
    (join.group connector fill).Alike (join.group connector twin) := by
  have isEmpty : (fill (.on join.kind join.table)).isEmpty =
      (twin (.on join.kind join.table)).isEmpty := inner.constraints.isEmpty
  simp only [Join.group, isEmpty, inner.bindings]
  split
  · exact ⟨rfl, rfl, rfl, .refl _⟩
  · refine ⟨rfl, rfl, rfl, .concat _ _ (fun dialect => ?_) ?_⟩
    · rw [Sql.constraint, Sql.constraint]
      exact congrArg Fragment.parenthesized (Sql.constraints_eq_of_alike dialect inner.constraints)
    · rw [Constraint.operators, Constraint.operators]
      exact Constraint.allOperators_eq_of_alike inner.constraints

/-- What two joins are whose calls are the same, but for a method that is swapped for its twin
on the first constraint of a list. -/
inductive Swapped : Join → Join → Prop where
  | first {join : Join} (none : join.constraints = []) (method : Method) :
      Swapped (method.run .and join) (method.run .or join)
  | within (join : Join) (connector : Connector) {fill twin : Join → Join}
      (inner : Swapped (fill (.on join.kind join.table)) (twin (.on join.kind join.table))) :
      Swapped (join.group connector fill) (join.group connector twin)
  | method {left right : Join} (swapped : Swapped left right) (connector : Connector)
      (method : Method) : Swapped (method.run connector left) (method.run connector right)

theorem Swapped.alike (swapped : Swapped left right) : left.Alike right := by
  induction swapped with
  | @first join none method =>
    rw [Method.run_eq, Method.run_eq]
    cases method.added? join with
    | none => exact ⟨rfl, rfl, rfl, .refl _⟩
    | some part =>
      refine ⟨rfl, rfl, rfl, ?_⟩
      simp only [Join.add, none]
      exact .first .and .or part.1
  | within join connector _ inductionHypothesis => exact .group join connector inductionHypothesis
  | method _ connector method inductionHypothesis =>
    exact inductionHypothesis.method method connector

end Join

/-- Joins and conditions that are written alike decide neither the statement nor the fault. -/
theorem Query.sql_congr (query : Query) (dialect : Dialect) {joins twins : List Join}
    (alike : Joins.Alike joins twins) {conditions others : List (Connector × Condition)}
    (same : Condition.Alike conditions others) :
    sql dialect { query with joins := joins, conditions := conditions } =
      sql dialect { query with joins := twins, conditions := others } := by
  have operators : Query.operators { query with joins := joins, conditions := conditions } =
      Query.operators { query with joins := twins, conditions := others } := by
    simp only [Query.operators, alike.operators, Condition.allOperators_eq_of_alike same]
  have hasJoins : (!joins.isEmpty) = !twins.isEmpty := by
    rw [Bool.eq_iff_iff]
    simp [alike.empty]
  simp only [sql, compile, checkOperators, operators, checkJoins, Frame.hasJoins, hasJoins,
    Sql.select, Sql.selectHead, Sql.aggregateHead, Sql.selectTail, Sql.update, Sql.delete,
    Sql.mutationTail, alike.written, Sql.wheres_eq_of_alike dialect same]
  rfl

/-! ## Builders that are written alike -/

namespace Builder

/-- A builder without its joins and conditions. -/
def alone : Builder → Builder := modify fun query => { query with joins := [], conditions := [] }

/-- Put joins and conditions in front of those of a builder. -/
def behind (joins : List Join) (conditions : List (Connector × Condition)) : Builder → Builder :=
  modify fun query => { query with
    joins := joins ++ query.joins
    conditions := conditions ++ query.conditions }

theorem behind_alone (builder : Builder) :
    builder.alone.behind builder.query.joins builder.query.conditions = builder := by
  simp [alone, behind, modify]

/-- A step that does not see which joins and conditions there are. -/
def Blind (step : Builder → Builder) : Prop :=
  ∀ joins conditions builder,
    step (builder.behind joins conditions) = (step builder).behind joins conditions

namespace Blind

variable {step next : Builder → Builder}

theorem comp (first : Blind step) (second : Blind next) :
    Blind fun builder => next (step builder) :=
  fun joins conditions builder => (congrArg next (first joins conditions builder)).trans
    (second joins conditions (step builder))

theorem foldl {α : Type} (step : α → Builder → Builder) (each : ∀ item, Blind (step item))
    (items : List α) :
    Blind fun builder => items.foldl (fun builder item => step item builder) builder := by
  induction items with
  | nil => exact fun _ _ _ => rfl
  | cons item rest inductionHypothesis => exact (each item).comp inductionHypothesis

theorem addCondition (connector : Connector) (condition : Condition) (values : Items Bind) :
    Blind (Builder.addCondition connector condition values) :=
  fun joins conditions builder => by
    simp [Builder.addCondition, behind, modify, List.append_assoc]

theorem addJoin (join : Join) : Blind (Builder.addJoin join) :=
  fun joins conditions builder => by simp [Builder.addJoin, behind, modify, List.append_assoc]

theorem addConditions (connector : Connector) (parts : List (Condition × Items Bind)) :
    Blind (Builder.addConditions connector parts) :=
  foldl (fun (part : Condition × Items Bind) => Builder.addCondition connector part.1 part.2)
    (fun part => addCondition connector part.1 part.2) parts

/-- A method sees the dialect and the table only. -/
theorem method (method : Method) (connector : Connector) : Blind (method.run connector) := by
  intro joins conditions builder
  rw [Method.run_eq, Method.run_eq, addConditions connector]
  rfl

theorem initiate (kind : StatementKind) : Blind (Builder.initiate kind) := fun _ _ _ => rfl

theorem insert (rows : List Row) : Blind (Builder.insert rows) :=
  (initiate .insert).comp (foldl addRow (fun _ _ _ _ => rfl) rows)

theorem call (call : Call) : Blind call.run := by
  cases call with
  | compare connector column operator value =>
    exact method (.compare column operator value) connector
  | compareAll connector values => exact method (.compareAll values) connector
  | group connector calls => exact method (.group (Call.runAll calls)) connector
  | between | among | null | datePart | jsonContains | jsonLength =>
    exact addCondition _ _ _
  | deleteId id => exact (initiate .delete).comp (method (.compare "id" .equal id) .and)
  | joinColumns | joinValue | joinWith => exact addJoin _
  | insert rows => exact insert rows
  | addBindings values name | setBindings values name =>
    intro joins conditions builder
    simp only [Call.run]
    split <;> rfl
  | _ => exact fun _ _ _ => rfl

end Blind

/-- Two builders that know the same, but for joins and conditions, which are written alike. -/
structure Alike (left right : Builder) : Prop where
  alone : left.alone = right.alone
  joins : Joins.Alike left.query.joins right.query.joins
  conditions : Condition.Alike left.query.conditions right.query.conditions

namespace Alike

variable {left right : Builder}

theorem behind (alike : left.Alike right) (builder : Builder) :
    (builder.behind left.query.joins left.query.conditions).Alike
      (builder.behind right.query.joins right.query.conditions) where
  alone := rfl
  joins := alike.joins.append builder.query.joins
  conditions := alike.conditions.append builder.query.conditions

/-- What does not see joins and conditions leaves alike builders alike. -/
theorem step (alike : left.Alike right) {step : Builder → Builder} (blind : Blind step) :
    (step left).Alike (step right) := by
  have before : ∀ builder : Builder, step builder =
      (step builder.alone).behind builder.query.joins builder.query.conditions :=
    fun builder => (congrArg step builder.behind_alone.symm).trans (blind _ _ _)
  rw [before left, before right, alike.alone]
  exact alike.behind _

theorem group (builder : Builder) (connector : Connector) {fill twin : Builder → Builder}
    (inner : (fill builder.nested).Alike (twin builder.nested)) :
    (builder.group connector fill).Alike (builder.group connector twin) := by
  have buckets : (fill builder.nested).query.buckets = (twin builder.nested).query.buckets :=
    congrArg (fun builder => builder.query.buckets) inner.alone
  simp only [Builder.group, inner.conditions.isEmpty, buckets]
  split
  · exact ⟨rfl, .refl _, .refl _⟩
  · refine ⟨rfl, .refl _, .concat _ _ (fun dialect => ?_) ?_⟩
    · rw [Sql.condition, Sql.condition]
      exact congrArg Fragment.parenthesized (Sql.conditions_eq_of_alike dialect inner.conditions)
    · rw [Condition.operators, Condition.operators]
      exact Condition.allOperators_eq_of_alike inner.conditions

theorem joinWith (builder : Builder) (kind : JoinKind) (table : Reference)
    {fill twin : Join → Join} (inner : (fill (.on kind table)).Alike (twin (.on kind table))) :
    (builder.joinWith kind table fill).Alike (builder.joinWith kind table twin) := by
  refine ⟨?_, .concat _ inner.table inner.kind inner.constraints, .refl _⟩
  simp only [Builder.joinWith, addJoin, inner.bindings]
  rfl

theorem sql_eq (alike : left.Alike right) (dialect : Dialect) :
    left.query.sql dialect = right.query.sql dialect := by
  calc left.query.sql dialect
      = Query.sql dialect { left.alone.query with
          joins := left.query.joins, conditions := left.query.conditions } := rfl
    _ = Query.sql dialect { right.alone.query with
          joins := left.query.joins, conditions := left.query.conditions } := by rw [alike.alone]
    _ = right.query.sql dialect :=
        right.alone.query.sql_congr dialect alike.joins alike.conditions

theorem own_sql_eq (alike : left.Alike right) : left.sql = right.sql := by
  have dialect : left.dialect = right.dialect :=
    congrArg (fun builder => builder.dialect) alike.alone
  rw [sql, sql, dialect, alike.sql_eq]

theorem fetched?_eq (alike : left.Alike right) (ask : String → List Bind → Message) :
    left.fetched? ask = right.fetched? ask := by
  have bindings : left.bindings = right.bindings :=
    congrArg (fun builder => builder.bindings) alike.alone
  rw [fetched?, fetched?, alike.own_sql_eq, bindings]

theorem executed?_eq (alike : left.Alike right) : left.executed? = right.executed? := by
  have kind : left.query.kind = right.query.kind :=
    congrArg (fun builder => builder.query.kind) alike.alone
  have bindings : left.executionBindings = right.executionBindings :=
    congrArg (fun builder => builder.executionBindings) alike.alone
  rw [executed?, executed?, kind, alike.own_sql_eq, bindings]

/-- What a call borrows does not depend on joins and conditions. -/
theorem asked {α : Type} (alike : left.Alike right) (terminal : Terminal α) :
    (terminal.asked left).Alike (terminal.asked right) := by
  have blind : Blind fun builder => terminal.asked builder := by
    intro joins conditions builder
    cases terminal with
    | fetchKeyed key =>
      have columns : (builder.behind joins conditions).query.columns = builder.query.columns := rfl
      simp only [Terminal.asked, askingKeyed, columns]
      split <;> rfl
    | _ => rfl
  exact alike.step blind

theorem message?_eq {α : Type} (alike : left.Alike right) (terminal : Terminal α) :
    terminal.message? left = terminal.message? right := by
  have listing : left.columnListing = right.columnListing :=
    congrArg (fun builder => builder.columnListing) alike.alone
  cases terminal with
  | execute | insertGetId => exact alike.executed?_eq
  | fetchColumnListing => simp only [Terminal.message?, listing]
  | fetchValue => exact alike.fetched?_eq .fetchValue
  | _ => exact (alike.asked _).fetched?_eq _

end Alike

/-- What two builders are whose calls are the same, but for a method that is swapped for its twin
on the first condition of a list: of the builder itself, of a group at any depth, or of a join. -/
inductive Swapped : Builder → Builder → Prop where
  | first {builder : Builder} (none : builder.query.conditions = []) (method : Method)
      (swappable : method.Swappable) : Swapped (method.run .and builder) (method.run .or builder)
  | within (builder : Builder) (connector : Connector) {fill twin : Builder → Builder}
      (inner : Swapped (fill builder.nested) (twin builder.nested)) :
      Swapped (builder.group connector fill) (builder.group connector twin)
  | joined (builder : Builder) (kind : JoinKind) (table : Reference) {fill twin : Join → Join}
      (inner : (fill (.on kind table)).Swapped (twin (.on kind table))) :
      Swapped (builder.joinWith kind table fill) (builder.joinWith kind table twin)
  | call {left right : Builder} (swapped : Swapped left right) (call : Call) :
      Swapped (call.run left) (call.run right)
  | method {left right : Builder} (swapped : Swapped left right) (connector : Connector)
      (method : Method) : Swapped (method.run connector left) (method.run connector right)
  | joinWith {left right : Builder} (swapped : Swapped left right) (kind : JoinKind)
      (table : Reference) (fill : Join → Join) :
      Swapped (left.joinWith kind table fill) (right.joinWith kind table fill)

/-- One condition at most is added to a list without conditions. -/
theorem Alike.first {builder : Builder} (none : builder.query.conditions = [])
    {method : Method} (swappable : method.Swappable) :
    (method.run .and builder).Alike (method.run .or builder) := by
  have single := (method.length_added_le_one_iff builder).mpr swappable
  rw [Method.run_eq, Method.run_eq]
  rcases added : method.added builder with - | ⟨part, rest⟩
  · exact ⟨rfl, .refl _, .refl _⟩
  · rw [added] at single
    obtain rfl : rest = [] := by simpa using single
    refine ⟨rfl, .refl _, ?_⟩
    simp only [addConditions_eq, modify, none]
    exact .first .and .or part.1

/-- On a list without conditions only a method that adds one condition at most is written as its
twin. -/
theorem Method.text_wheres_eq_iff {builder : Builder} (none : builder.query.conditions = [])
    (method : Method) (dialect : Dialect) :
    (Sql.wheres dialect (method.run .and builder).query.conditions).text =
      (Sql.wheres dialect (method.run .or builder).query.conditions).text ↔ method.Swappable := by
  constructor
  · intro same
    rw [← method.length_added_le_one_iff builder]
    rw [conditions_run, conditions_run, none, List.nil_append, List.nil_append] at same
    rcases added : method.added builder with - | ⟨first, - | ⟨second, rest⟩⟩
    · exact Nat.zero_le 1
    · exact Nat.le_refl 1
    · rw [added] at same
      have differ := Sql.text_wheres_ne dialect first.1 second.1 (rest.map Prod.fst)
      simp only [List.map_cons, List.map_map] at differ
      exact absurd same differ
  · intro swappable
    exact congrArg Fragment.text
      (Sql.wheres_eq_of_alike dialect (Alike.first none swappable).conditions)

theorem Swapped.alike {left right : Builder} (swapped : left.Swapped right) :
    left.Alike right := by
  induction swapped with
  | first none method swappable => exact .first none swappable
  | within builder connector _ inductionHypothesis =>
    exact .group builder connector inductionHypothesis
  | joined builder kind table inner => exact .joinWith builder kind table inner.alike
  | call _ call inductionHypothesis => exact inductionHypothesis.step (.call call)
  | method _ connector method inductionHypothesis =>
    exact inductionHypothesis.step (.method method connector)
  | joinWith _ kind table fill inductionHypothesis =>
    exact inductionHypothesis.step (.addJoin _)

/-- A method and its twin leave the same but for the connectors of what they add, whatever the
state and the arguments. A method that is no list of several comparisons may be swapped for its
twin on the first condition of a list: both lead to the same statement in either dialect, the same
values and the same messages to a connection. A list of several comparisons may not, for the
connectors between them are written. -/
theorem twins_differ_in_connectors :
    (∀ (method : Method) (builder : Builder),
      let added := (method.added builder).map Prod.fst
      (method.run .and builder).query.conditions =
          builder.query.conditions ++ added.map (Prod.mk .and) ∧
        method.run .or builder = (method.run .and builder).modify fun query => { query with
          conditions := builder.query.conditions ++ added.map (Prod.mk .or) }) ∧
    (∀ (method : Join.Method) (join : Join),
      let added := (method.added? join).toList.map Prod.fst
      (method.run .and join).constraints = join.constraints ++ added.map (Prod.mk .and) ∧
        method.run .or join = { method.run .and join with
          constraints := join.constraints ++ added.map (Prod.mk .or) }) ∧
    (∀ left right : Builder, left.Swapped right →
      left.query.buckets = right.query.buckets ∧
        (∀ dialect, left.query.sql dialect = right.query.sql dialect) ∧
        ∀ {α : Type} (terminal : Terminal α),
          terminal.message? left = terminal.message? right) ∧
    ∀ (method : Method) (builder : Builder), builder.query.conditions = [] → ∀ dialect,
      ((Sql.wheres dialect (method.run .and builder).query.conditions).text =
        (Sql.wheres dialect (method.run .or builder).query.conditions).text ↔
          method.Swappable) := by
  refine ⟨fun method builder => ?_, fun method join => ?_, fun left right swapped => ?_,
    fun method builder none => method.text_wheres_eq_iff none⟩
  · simp only [List.map_map]
    exact ⟨method.conditions_run builder .and, method.run_or builder⟩
  · simp only [List.map_map]
    exact ⟨method.constraints_run join .and, method.run_or join⟩
  · have alike := swapped.alike
    exact ⟨congrArg (fun builder => builder.query.buckets) alike.alone, alike.sql_eq,
      alike.message?_eq⟩

/-- A group at the head of a group is swapped for its twin, and so are a comparison of columns at
the head of a join after a group that stays empty, and a list of one comparison. -/
theorem twins_differ_in_connectors_nested :
    let grouped (connector : Connector) :=
      ((table .mysql "t").distinct.group .or fun inner =>
        (inner.group connector fun deeper =>
          (deeper.null .and "a" true).among .or "b->c" .none false).compare .or "d" .less
            (.int64 1)).paginate (Pagination.limit 3)
    let joined (connector : Connector) :=
      ((new .sqlite).joinWith .left "u as v" fun join =>
        ((join.group .or id).compareColumns connector "v.id" .equal "t.id").among .or "v.k"
          (.many [.null, .int64 2]) true).compareAll .and [("e", .null), ("f", .text "?")]
    let compared (connector : Connector) :=
      (Method.compareAll [("a", .null)]).run connector (table .mysql "t")
    (grouped .and).Swapped (grouped .or) ∧ (joined .and).Swapped (joined .or) ∧
      (grouped .and).query.buckets = (grouped .or).query.buckets ∧
      (∀ dialect, (grouped .and).query.sql dialect = (grouped .or).query.sql dialect) ∧
      (∀ dialect, (joined .and).query.sql dialect = (joined .or).query.sql dialect) ∧
      (Sql.wheres .mysql (compared .and).query.conditions).text =
        (Sql.wheres .mysql (compared .or).query.conditions).text :=
  have grouped : Swapped _ _ := .call (.within _ .or (.method
    (.first rfl (.group fun deeper => (deeper.null .and "a" true).among .or "b->c" .none false)
      trivial) .or (.compare "d" .less (.int64 1)))) (.limit 3)
  have joined : Swapped _ _ := .method (.joined (new .sqlite) .left "u as v" (.method
    (.first rfl (.compareColumns "v.id" .equal "t.id")) .or
      (.among "v.k" (.many [.null, .int64 2]) true))) .and
        (.compareAll [("e", .null), ("f", .text "?")])
  have same := twins_differ_in_connectors.2.2.1
  have compared := (twins_differ_in_connectors.2.2.2 (.compareAll [("a", .null)])
    (table .mysql "t") rfl .mysql).mpr (Nat.le_refl 1)
  ⟨grouped, joined, (same _ _ grouped).1, (same _ _ grouped).2.1, (same _ _ joined).2.1, compared⟩

/-- Two comparisons are written differently by their method and by its twin, though there are no
conditions in front of them. -/
theorem twins_differ_in_comparisons :
    let comparisons := Method.compareAll
      [("a", .integer (.int32 1)), ("b", .integer (.int32 2))]
    let plain := comparisons.run .and (table .sqlite "t")
    let twin := comparisons.run .or (table .sqlite "t")
    (table .sqlite "t").query.conditions = [] ∧ ¬ comparisons.Swappable ∧
      plain.sql = .ok "select * from `t` where `a` = ? and `b` = ?" ∧
      twin.sql = .ok "select * from `t` where `a` = ? or `b` = ?" ∧ plain.sql ≠ twin.sql := by
  intro comparisons plain twin
  have plainly : plain.sql = .ok "select * from `t` where `a` = ? and `b` = ?" :=
    (Query.sql_eq_ok_iff_of_select rfl).mpr ⟨rfl, by decide +kernel⟩
  have swapped : twin.sql = .ok "select * from `t` where `a` = ? or `b` = ?" :=
    (Query.sql_eq_ok_iff_of_select rfl).mpr ⟨rfl, by decide +kernel⟩
  refine ⟨rfl, Nat.not_succ_le_self 1, plainly, swapped, ?_⟩
  rw [plainly, swapped]
  exact fun same => absurd (Except.ok.inj same) (by decide)

end Builder

end FluentSql
