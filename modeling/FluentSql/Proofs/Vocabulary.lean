import FluentSql.Proofs.Kept
import FluentSql.Sql.Statement

/-!
# The vocabulary that queries and joins share

Conditions of a query and constraints of a join are made by calls of the same names. A group of
conditions is a whole query and a group of constraints a list; values go to a bucket here and to
the join's own bindings there; and each kind is written by a writer of its own. The same calls
nevertheless say the same: `InStep` is kept by every call, groups at any depth included, and
`SharedCall.same_language` reads it off the two statements.
-/

namespace FluentSql

/-- A call that can be made on a builder and on a join. A comparison is with a single value that
is not null. -/
inductive SharedCall where
  | compare (connector : Connector) (column : Reference) (operator : Operator) (value : Bind)
      (single : operator.isList = false) (present : value.isNull = false)
  | null (connector : Connector) (column : Reference) (negated : Bool)
  | among (connector : Connector) (column : Reference) (values : Items Bind) (negated : Bool)
  | group (connector : Connector) (calls : List SharedCall)

namespace SharedCall

mutual

/-- The call on a builder. -/
def onBuilder : SharedCall → Call
  | .compare connector column operator value _ _ => .compare connector column operator value
  | .null connector column negated => .null connector column negated
  | .among connector column values negated => .among connector column values negated
  | .group connector calls => .group connector (allOnBuilder calls)

/-- The calls on a builder. -/
def allOnBuilder : List SharedCall → List Call
  | [] => []
  | call :: rest => call.onBuilder :: allOnBuilder rest

end

mutual

/-- The call on a join. -/
def onJoin : SharedCall → JoinCall
  | .compare connector column operator value _ _ => .compareValue connector column operator value
  | .null connector column negated => .null connector column negated
  | .among connector column values negated => .among connector column values negated
  | .group connector calls => .group connector (allOnJoin calls)

/-- The calls on a join. -/
def allOnJoin : List SharedCall → List JoinCall
  | [] => []
  | call :: rest => call.onJoin :: allOnJoin rest

end

end SharedCall

/-! ## Queries and joins in step -/

/-- A condition and a constraint that say the same, and write the same operators. -/
structure SaysAlike (condition : Condition) (constraint : Constraint) : Prop where
  written : ∀ dialect, Sql.condition dialect condition = Sql.constraint dialect constraint
  operators : condition.operators = constraint.operators

/-- A query whose conditions are those of a join, each with the same connector, and whose values
are the values of these conditions. -/
structure InStep (query : Query) (join : Join) : Prop where
  values : query.buckets.filter = join.bindings
  noOthers : ∀ bucket, bucket ≠ .filter → query.buckets.get bucket = .none
  parts : ∀ dialect,
    Sql.conditionParts dialect query.conditions = Sql.constraintParts dialect join.constraints
  operators : Condition.allOperators query.conditions = Constraint.allOperators join.constraints

theorem Items.append_none {α : Type} (items : Items α) : items ++ .none = items := by
  cases items <;> rfl

/-- Values that are in one bucket only are gathered as they are held there. -/
theorem Buckets.gathered_eq_filter {buckets : Buckets}
    (noOthers : ∀ bucket, bucket ≠ .filter → buckets.get bucket = .none) :
    buckets.gathered = buckets.filter := by
  have first : ∀ items : Items Bind, Items.none ++ items = items := fun _ => rfl
  simp only [gathered, Bucket.all, List.foldl_cons, List.foldl_nil, noOthers, ne_eq, reduceCtorEq,
    not_false_eq_true, Items.append_none, first]
  rfl

namespace InStep

theorem fresh {builder : Builder} (isFresh : builder.Fresh) (kind : JoinKind)
    (table : Reference) : InStep builder.query (.on kind table) := by
  cases isFresh <;>
    exact ⟨rfl, fun bucket _ => by cases bucket <;> rfl, fun _ => rfl, rfl⟩

theorem nested (builder : Builder) (kind : JoinKind) (table : Reference) :
    InStep builder.nested.query (.on kind table) :=
  ⟨rfl, fun bucket _ => by cases bucket <;> rfl, fun _ => rfl, rfl⟩

variable {builder : Builder} {join : Join} (inStep : InStep builder.query join)

include inStep

theorem isEmpty : builder.query.conditions.isEmpty = join.isEmpty := by
  have lengths := congrArg List.length (inStep.parts .mysql)
  rw [Sql.conditionParts_eq_map, Sql.constraintParts_eq_map, List.length_map,
    List.length_map] at lengths
  rw [Join.isEmpty, Bool.eq_iff_iff, List.isEmpty_iff_length_eq_zero,
    List.isEmpty_iff_length_eq_zero, lengths]

/-- A condition and a constraint that say the same are added in step. -/
theorem add (connector : Connector) {condition : Condition} {constraint : Constraint}
    (alike : SaysAlike condition constraint) (values : Items Bind) :
    InStep (builder.addCondition connector condition values).query
      (join.add connector constraint values) where
  values := congrArg (· ++ values) inStep.values
  noOthers := fun bucket other =>
    (builder.query.buckets.get_set_of_ne other _).trans (inStep.noOthers bucket other)
  parts := fun dialect => by
    have before := inStep.parts dialect
    rw [Sql.conditionParts_eq_map, Sql.constraintParts_eq_map] at before ⊢
    simp only [Builder.addCondition, Builder.modify, Join.add, List.map_append, before,
      List.map_singleton, alike.written]
  operators := by
    have before := inStep.operators
    rw [Condition.allOperators_eq_flatMap, Constraint.allOperators_eq_flatMap] at before ⊢
    simp only [Builder.addCondition, Builder.modify, Join.add, List.flatMap_append, before,
      List.flatMap_singleton, alike.operators]

/-- What is in step inside of a group says the same as a group. -/
theorem group (connector : Connector) {fill : Builder → Builder} {fillJoin : Join → Join}
    (inner : InStep (fill builder.nested).query (fillJoin (.on join.kind join.table))) :
    InStep (builder.group connector fill).query (join.group connector fillJoin) := by
  simp only [Builder.group, Join.group, inner.isEmpty]
  split
  · exact inStep
  · rw [Buckets.gathered_eq_filter inner.noOthers, inner.values]
    refine inStep.add connector ⟨fun dialect => ?_, ?_⟩ _
    · rw [Sql.condition, Sql.constraint, inner.parts dialect]
    · rw [Condition.operators, Constraint.operators, inner.operators]

end InStep

namespace SharedCall

mutual

/-- A call keeps a query and a join in step; a group is filled in step. -/
theorem inStep_run (call : SharedCall) {builder : Builder} {join : Join}
    (inStep : InStep builder.query join) :
    InStep (call.onBuilder.run builder).query (call.onJoin.run join) := by
  cases call with
  | compare connector column operator value single present =>
    have plain : Builder.compare connector column operator value =
        Builder.addCondition connector (.compare column operator value) (.one value) :=
      funext fun builder => by rw [Builder.compare, present]; rfl
    rw [onBuilder, onJoin, Call.run, JoinCall.run, plain]
    refine inStep.add connector ⟨fun dialect => ?_, rfl⟩ (.one value)
    rw [Sql.condition, Sql.constraint, single]
    rfl
  | null connector column negated => exact inStep.add connector ⟨fun _ => rfl, rfl⟩ .none
  | among connector column values negated =>
    exact inStep.add connector ⟨fun _ => rfl, rfl⟩ values
  | group connector calls =>
    exact inStep.group connector (inStep_runAll calls (.nested builder join.kind join.table))

theorem inStep_runAll (calls : List SharedCall) {builder : Builder} {join : Join}
    (inStep : InStep builder.query join) :
    InStep (Call.runAll (allOnBuilder calls) builder).query
      (JoinCall.runAll (allOnJoin calls) join) := by
  cases calls with
  | nil => exact inStep
  | cons call rest =>
    rw [allOnBuilder, allOnJoin, Call.runAll_cons, JoinCall.runAll_cons]
    exact inStep_runAll rest (inStep_run call inStep)

end

/-- Calls on a builder change its conditions and values only. -/
theorem query_runAll (calls : List SharedCall) (builder : Builder) :
    let after := (Call.runAll (allOnBuilder calls) builder).query
    after = { builder.query with buckets := after.buckets, conditions := after.conditions } := by
  let view (builder : Builder) : Query :=
    { builder.query with buckets := .empty, conditions := [] }
  have kept : ∀ connector condition values builder,
      view (Builder.addCondition connector condition values builder) = view builder :=
    fun _ _ _ _ => rfl
  have same : view (Call.runAll (allOnBuilder calls) builder) = view builder := by
    induction calls generalizing builder with
    | nil => rfl
    | cons call rest inductionHypothesis =>
      rw [allOnBuilder, Call.runAll_cons, inductionHypothesis]
      cases call with
      | compare => exact Builder.keeps_compare view kept _ _ _ _ builder
      | group => exact Builder.keeps_group view kept _ _ builder
      | null | among => rfl
  intro after
  exact congrArg (fun query : Query =>
    { query with buckets := after.buckets, conditions := after.conditions }) same

end SharedCall

/-! ## The two statements -/

/-- Why some operators cannot be written, if one cannot; else the text. -/
def Sql.orFault (operators : List Operator) (text : List Char) : Except Fault String :=
  match operators.findSome? Operator.fault? with
  | some fault => .error fault
  | none => .ok (String.ofList text)

theorem Query.sql_of_select {query : Query} (isSelect : query.kind = .select) (dialect : Dialect) :
    query.sql dialect = Sql.orFault query.operators (Sql.select dialect query).text := by
  rw [sql, compile, isSelect, Sql.orFault]
  unfold checkOperators
  cases query.operators.findSome? Operator.fault? <;> rfl

namespace Builder.Fresh

variable {builder : Builder} (isFresh : builder.Fresh)

include isFresh

/-- The statement of a fresh builder to which only joins and conditions are added ends with
them. -/
theorem sql_with (dialect : Dialect) (buckets : Buckets) (joins : List Join)
    (conditions : List (Connector × Condition)) :
    Query.sql dialect { builder.query with
        buckets := buckets, joins := joins, conditions := conditions } =
      Sql.orFault ((joins.flatMap fun join => Constraint.allOperators join.constraints) ++
          Condition.allOperators conditions)
        ((Sql.select dialect builder.query).text ++
          ((Sql.joins dialect joins).text ++ (Sql.wheres dialect conditions).text)) := by
  have nothingElse : Sql.groups dialect .none = [] ∧ Sql.orders dialect [] = [] ∧
      Sql.limit .all = [] ∧ Sql.offset .all = [] ∧ Sql.lock dialect none = [] :=
    ⟨rfl, rfl, rfl, rfl, by cases dialect <;> rfl⟩
  obtain ⟨groups, orders, limit, offset, lock⟩ := nothingElse
  cases isFresh <;>
  · rw [Query.sql_of_select rfl]
    simp [Query.operators, Sql.select, Sql.selectHead, Sql.selectTail, Builder.new, Builder.table,
      Query.empty, Frame.empty, groups, orders, limit, offset, lock, Sql.joins, Sql.wheres]

/-- The statement of a fresh builder to which only conditions are added. -/
theorem sql_of_conditions (dialect : Dialect) (buckets : Buckets)
    (conditions : List (Connector × Condition)) :
    Query.sql dialect { builder.query with buckets := buckets, conditions := conditions } =
      Sql.orFault (Condition.allOperators conditions)
        ((Sql.select dialect builder.query).text ++ (Sql.wheres dialect conditions).text) := by
  have joins : builder.query.joins = [] := by cases isFresh <;> rfl
  have written := isFresh.sql_with dialect buckets [] conditions
  simpa [joins, Sql.joins] using written

theorem sql_addJoin (dialect : Dialect) (join : Join) :
    (builder.addJoin join).query.sql dialect =
      Sql.orFault (Constraint.allOperators join.constraints)
        ((Sql.select dialect builder.query).text ++ (Sql.join dialect join).text) := by
  have none : builder.query.joins = [] ∧ builder.query.conditions = [] := by
    cases isFresh <;> exact ⟨rfl, rfl⟩
  have written := isFresh.sql_with dialect (builder.query.buckets.add .join join.bindings)
    [{ join with bindings := .none }] []
  have same : Sql.join dialect { join with bindings := .none } = Sql.join dialect join := rfl
  simpa [Builder.addJoin, Builder.modify, none, Sql.joins, Sql.wheres, Condition.allOperators,
    same] using written

end Builder.Fresh

/-- Calls on a join leave its kind and its table alone. -/
theorem JoinCall.joined_runAll (calls : List JoinCall) (join : Join) :
    (runAll calls join).kind = join.kind ∧ (runAll calls join).table = join.table := by
  induction calls generalizing join with
  | nil => exact ⟨rfl, rfl⟩
  | cons call rest inductionHypothesis =>
    have once : (call.run join).kind = join.kind ∧ (call.run join).table = join.table := by
      cases call with
      | group connector calls =>
        simp only [run, Join.group]
        split <;> exact ⟨rfl, rfl⟩
      | _ => exact ⟨rfl, rfl⟩
    rw [runAll_cons, (inductionHypothesis _).1, (inductionHypothesis _).2]
    exact once

namespace Sql

/-- A keyword and what is said after it, if anything is said. -/
def introduced (keyword : String) (said? : Option String) : String :=
  match said? with
  | some said => keyword ++ said
  | none => ""

/-- What some parts say, if there is one. -/
def said? (parts : List (Connector × Fragment)) : Option String :=
  if parts.isEmpty then none else some (String.ofList (chain parts).text)

theorem said?_conditionParts_eq_none_iff {dialect : Dialect}
    {list : List (Connector × Condition)} :
    said? (conditionParts dialect list) = none ↔ list = [] := by
  simp [said?, conditionParts_eq_map]

theorem text_wheres (dialect : Dialect) (list : List (Connector × Condition)) :
    (wheres dialect list).text =
      (introduced " where " (said? (conditionParts dialect list))).toList := by
  cases list <;> simp [wheres, said?, introduced, conditions, conditionParts]

theorem text_join (dialect : Dialect) (join : Join) :
    (Sql.join dialect join).text = (Sql.join dialect (.on join.kind join.table)).text ++
      (introduced " on " (said? (constraintParts dialect join.constraints))).toList := by
  obtain ⟨kind, table, list, bindings⟩ := join
  cases list <;> simp [Sql.join, Join.on, said?, introduced, constraints, constraintParts]

end Sql

namespace SharedCall

open Sql

/-- The same calls on a builder and on a join bind the same values, and write the same after
`where` and after `on`, or cannot be written for the same reason. -/
theorem same_language (calls : List SharedCall) {filtering joining : Builder}
    (filteringFresh : filtering.Fresh) (joiningFresh : joining.Fresh) (kind : JoinKind)
    (table : Reference) (dialect : Dialect) :
    let query := (Call.runAll (allOnBuilder calls) filtering).query
    let join := JoinCall.runAll (allOnJoin calls) (.on kind table)
    let joined := (joining.joinWith kind table (JoinCall.runAll (allOnJoin calls))).query
    query.buckets.filter = join.bindings ∧
    ((∃ fault, query.sql dialect = .error fault ∧ joined.sql dialect = .error fault) ∨
      ∃ front joinFront said?,
        filtering.query.sql dialect = .ok front ∧
        (joining.joinWith kind table id).query.sql dialect = .ok joinFront ∧
        (said? = none ↔ query.conditions = []) ∧
        query.sql dialect = .ok (front ++ introduced " where " said?) ∧
        joined.sql dialect = .ok (joinFront ++ introduced " on " said?)) := by
  intro query join joined
  have inStep : InStep query join := inStep_runAll calls (.fresh filteringFresh kind table)
  have filtered : query.sql dialect = orFault (Condition.allOperators query.conditions)
      ((select dialect filtering.query).text ++ (wheres dialect query.conditions).text) :=
    (congrArg (Query.sql dialect) (query_runAll calls filtering)).trans
      (filteringFresh.sql_of_conditions dialect _ _)
  have joinedAlike : joined.sql dialect = orFault (Constraint.allOperators join.constraints)
      ((select dialect joining.query).text ++ (Sql.join dialect join).text) :=
    joiningFresh.sql_addJoin dialect join
  refine ⟨inStep.values, ?_⟩
  cases writable : (Constraint.allOperators join.constraints).findSome? Operator.fault? with
  | some fault =>
    refine .inl ⟨fault, ?_, ?_⟩
    · rw [filtered, inStep.operators, orFault, writable]
    · rw [joinedAlike, orFault, writable]
  | none =>
    obtain ⟨sameKind, sameTable⟩ : join.kind = kind ∧ join.table = table :=
      JoinCall.joined_runAll _ _
    refine .inr ⟨String.ofList (select dialect filtering.query).text,
      String.ofList ((select dialect joining.query).text ++
        (Sql.join dialect (.on kind table)).text),
      said? (conditionParts dialect query.conditions), ?_, ?_, said?_conditionParts_eq_none_iff,
      ?_, ?_⟩
    · cases filteringFresh <;> exact Query.sql_of_select rfl dialect
    · exact joiningFresh.sql_addJoin dialect (.on kind table)
    · rw [filtered, inStep.operators, orFault, writable, text_wheres]
      simp
    · rw [joinedAlike, orFault, writable, text_join, sameKind, sameTable, inStep.parts dialect,
        ← List.append_assoc]
      simp only [String.ofList_append, String.ofList_toList]

/-- Groups in groups, one of them empty, an empty list of values and both connectors. -/
theorem same_language_nested :
    let calls : List SharedCall := [
      .group .or [.null .or "a->b" true, .group .and [], .group .and
        [.compare .and "t.c" (.other "regexp") (.text "x?") rfl rfl, .among .or "d" .none true]],
      .among .and "e" (.many [.null, .int64 2]) false]
    let query := (Call.runAll (allOnBuilder calls) (.table .mysql "t")).query
    let join := JoinCall.runAll (allOnJoin calls) (.on .left "u as v")
    let joined := ((Builder.new .sqlite).joinWith .left "u as v"
      (JoinCall.runAll (allOnJoin calls))).query
    query.buckets.filter = join.bindings ∧
    ((∃ fault, query.sql .sqlite = .error fault ∧ joined.sql .sqlite = .error fault) ∨
      ∃ front joinFront said?,
        (Builder.table .mysql "t").query.sql .sqlite = .ok front ∧
        ((Builder.new .sqlite).joinWith .left "u as v" id).query.sql .sqlite = .ok joinFront ∧
        (said? = none ↔ query.conditions = []) ∧
        query.sql .sqlite = .ok (front ++ introduced " where " said?) ∧
        joined.sql .sqlite = .ok (joinFront ++ introduced " on " said?)) :=
  same_language _ (.table .mysql "t") (.new .sqlite) .left "u as v" .sqlite

end SharedCall

end FluentSql
