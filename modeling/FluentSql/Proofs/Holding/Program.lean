import FluentSql.Proofs.Holding.Statement
import FluentSql.Query.Call

/-!
# Programs whose items are held differently

Two programs have the same compact form if they differ at most in how the items of their
arguments are held. Each operation on a join or a builder takes alike ones, which have one
compact form, to alike ones; so a program and its compact form, run side by side, stay at
builders that are alike (`Call.alike_runAll`).
-/

namespace FluentSql

/-! ## Joins -/

namespace Join

variable {left right : Join}

theorem compact_add (connector : Connector) (clause : Constraint) (values : Items Bind)
    (join : Join) : (join.add connector clause values).compact =
      { join.compact with
        constraints := join.compact.constraints ++ [(connector, clause.compact)]
        bindings := (join.compact.bindings ++ values.compact).compact } := by
  simp only [add, compact, Constraint.allCompact_concat, Items.compact_append]

theorem alike_add (alike : left.compact = right.compact) (connector : Connector)
    {clause twin : Constraint} (clauses : clause.compact = twin.compact)
    {values others : Items Bind} (same : values.compact = others.compact) :
    (left.add connector clause values).compact = (right.add connector twin others).compact := by
  rw [compact_add, compact_add, alike, clauses, same]

theorem isEmpty_compact (join : Join) : join.compact.isEmpty = join.isEmpty := by
  rw [isEmpty, isEmpty, compact, Constraint.allCompact_eq_map, List.isEmpty_map]

theorem alike_group (alike : left.compact = right.compact) (connector : Connector)
    {fill twin : Join → Join}
    (filled : (fill (on left.kind left.table)).compact =
      (twin (on right.kind right.table)).compact) :
    (left.group connector fill).compact = (right.group connector twin).compact := by
  have isEmpty : (fill (on left.kind left.table)).isEmpty =
      (twin (on right.kind right.table)).isEmpty := by
    rw [← isEmpty_compact, filled, isEmpty_compact]
  have members : (Constraint.group (fill (on left.kind left.table)).constraints).compact =
      (Constraint.group (twin (on right.kind right.table)).constraints).compact := by
    rw [Constraint.compact, Constraint.compact]
    exact congrArg Constraint.group (congrArg constraints filled)
  simp only [group, isEmpty]
  split
  · exact alike
  · exact alike_add alike connector members (congrArg bindings filled)

end Join

namespace JoinCall

mutual

/-- A call on a join with its items held in the smallest way, in groups at any depth. -/
def compact : JoinCall → JoinCall
  | .among connector column values negated => .among connector column values.compact negated
  | .group connector calls => .group connector (allCompact calls)
  | call => call

/-- Some calls on a join with their items held in the smallest way. -/
def allCompact : List JoinCall → List JoinCall
  | [] => []
  | call :: rest => call.compact :: allCompact rest

end

mutual

/-- A call does the same to alike joins, however its items are held. -/
theorem alike_run (call : JoinCall) {left right : Join} (alike : left.compact = right.compact) :
    (call.run left).compact = (call.compact.run right).compact := by
  cases call with
  | compareColumns | compareValue | null => exact Join.alike_add alike _ rfl rfl
  | among connector column values negated =>
    have clauses : (Constraint.among column values negated).compact =
        (Constraint.among column values.compact negated).compact := by
      rw [Constraint.compact, Constraint.compact, Items.compact_compact]
    exact Join.alike_add alike connector clauses values.compact_compact.symm
  | group connector calls =>
    have started : (Join.on left.kind left.table).compact =
        (Join.on right.kind right.table).compact :=
      congrArg (fun join => (Join.on join.kind join.table).compact) alike
    exact Join.alike_group alike connector (alike_runAll calls started)

theorem alike_runAll (calls : List JoinCall) {left right : Join}
    (alike : left.compact = right.compact) :
    (runAll calls left).compact = (runAll (allCompact calls) right).compact := by
  cases calls with
  | nil =>
    rw [allCompact, runAll_nil, runAll_nil]
    exact alike
  | cons call rest =>
    rw [allCompact, runAll_cons, runAll_cons]
    exact alike_runAll rest (alike_run call alike)

end

end JoinCall

/-! ## Builders -/

namespace Builder

/-- A builder with all items of its query held in the smallest way. -/
def compact : Builder → Builder := modify Query.compact

variable {left right : Builder}

/-- Two changes of a query that make the same change to its compact form. -/
theorem alike_modify (compacted : Query → Query) {change twin : Query → Query}
    (first : ∀ query, (change query).compact = compacted query.compact)
    (second : ∀ query, (twin query).compact = compacted query.compact)
    (alike : left.compact = right.compact) :
    (left.modify change).compact = (right.modify twin).compact := by
  have whole : ∀ {change : Query → Query},
      (∀ query, (change query).compact = compacted query.compact) →
      ∀ builder : Builder, (builder.modify change).compact = builder.compact.modify compacted :=
    fun same builder => congrArg (Builder.mk builder.dialect) (same builder.query)
  rw [whole first, whole second, alike]

/-- A change that does not look at held items. -/
theorem alike_modify_of_blind {change : Query → Query}
    (blind : ∀ query, (change query).compact = change query.compact)
    (alike : left.compact = right.compact) :
    (left.modify change).compact = (right.modify change).compact :=
  alike_modify change blind blind alike

theorem alike_initiate (alike : left.compact = right.compact) (kind : StatementKind) :
    (left.initiate kind).compact = (right.initiate kind).compact :=
  alike_modify_of_blind (fun _ => rfl) alike

theorem alike_select (alike : left.compact = right.compact) {columns twin : Columns}
    (same : columns.compact = twin.compact) :
    (left.select columns).compact = (right.select twin).compact :=
  alike_modify (fun query => { query with columns := columns.compact }) (fun _ => rfl)
    (fun query => by rw [same]; rfl) (alike_initiate alike .select)

theorem alike_addSelect (alike : left.compact = right.compact) {columns twin : Columns}
    (same : columns.compact = twin.compact) :
    (left.addSelect columns).compact = (right.addSelect twin).compact := by
  refine alike_modify
    (fun query => { query with columns := (query.columns ++ columns.compact).compact })
    (fun query => ?_) (fun query => ?_) alike
  · simp only [Query.compact, Items.compact_append]
  · simp only [Query.compact, same, Items.compact_append]

theorem alike_groupBy (alike : left.compact = right.compact) {columns twin : Columns}
    (same : columns.compact = twin.compact) :
    (left.groupBy columns).compact = (right.groupBy twin).compact := by
  refine alike_modify
    (fun query => { query with groups := (query.groups ++ columns.compact).compact })
    (fun query => ?_) (fun query => ?_) alike
  · simp only [Query.compact, Items.compact_append]
  · simp only [Query.compact, same, Items.compact_append]

theorem alike_addBindings (alike : left.compact = right.compact) (bucket : Bucket)
    {values twin : Items Bind} (same : values.compact = twin.compact) :
    (left.addBindings values bucket).compact = (right.addBindings twin bucket).compact := by
  refine alike_modify
    (fun query => { query with
      buckets := query.buckets.set bucket (query.buckets.get bucket ++ values.compact).compact })
    (fun query => ?_) (fun query => ?_) alike
  · simp only [Query.compact, Buckets.compact_add]
  · simp only [Query.compact, Buckets.compact_add, same]

theorem alike_setBindings (alike : left.compact = right.compact) (bucket : Bucket)
    {values twin : Items Bind} (same : values.compact = twin.compact) :
    (left.setBindings values bucket).compact = (right.setBindings twin bucket).compact := by
  refine alike_modify
    (fun query => { query with buckets := query.buckets.set bucket values.compact })
    (fun query => ?_) (fun query => ?_) alike
  · simp only [Query.compact, Buckets.compact_set]
  · simp only [Query.compact, Buckets.compact_set, same]

theorem alike_addCondition (alike : left.compact = right.compact) (connector : Connector)
    {clause twin : Condition} (clauses : clause.compact = twin.compact)
    {values others : Items Bind} (same : values.compact = others.compact) :
    (left.addCondition connector clause values).compact =
      (right.addCondition connector twin others).compact := by
  refine alike_modify
    (fun query => { query with
      buckets := query.buckets.set .filter (query.buckets.get .filter ++ values.compact).compact
      conditions := query.conditions ++ [(connector, clause.compact)] })
    (fun query => ?_) (fun query => ?_) alike
  · simp only [Query.compact, Buckets.compact_add, Condition.allCompact_concat]
  · simp only [Query.compact, Buckets.compact_add, Condition.allCompact_concat, same, clauses]

theorem alike_compare (alike : left.compact = right.compact) (connector : Connector)
    (column : Reference) (operator : Operator) (value : Bind) :
    (left.compare connector column operator value).compact =
      (right.compare connector column operator value).compact := by
  unfold compare
  split
  · exact alike_addCondition alike connector rfl rfl
  · exact alike_addCondition alike connector rfl rfl

theorem alike_compareAll (alike : left.compact = right.compact) (connector : Connector)
    (values : List (Reference × Bind)) :
    (left.compareAll connector values).compact = (right.compareAll connector values).compact := by
  unfold compareAll
  induction values generalizing left right with
  | nil => exact alike
  | cons entry rest inductionHypothesis =>
    exact inductionHypothesis (alike_compare alike connector entry.1 .equal entry.2)

theorem alike_addRow (alike : left.compact = right.compact) (row : Row) :
    (left.addRow row).compact = (right.addRow row).compact := by
  refine alike_modify
    (fun query => { query with
      buckets := query.buckets.set .inserts
        (query.buckets.get .inserts ++ (Items.ofList row.values).compact).compact
      rows := query.rows ++ [row] })
    (fun query => ?_) (fun query => ?_) alike
  · simp only [Query.compact, Buckets.compact_add]
  · simp only [Query.compact, Buckets.compact_add]

theorem alike_insert (alike : left.compact = right.compact) (rows : List Row) :
    (left.insert rows).compact = (right.insert rows).compact := by
  have started := alike_initiate alike .insert
  unfold insert
  generalize left.initiate .insert = first, right.initiate .insert = second at started ⊢
  induction rows generalizing first second with
  | nil => exact started
  | cons row rest inductionHypothesis =>
    exact inductionHypothesis _ _ (alike_addRow started row)

theorem alike_addJoin (alike : left.compact = right.compact) {join twin : Join}
    (joined : join.compact = twin.compact) :
    (left.addJoin join).compact = (right.addJoin twin).compact := by
  have bindings : join.bindings.compact = twin.bindings.compact := congrArg Join.bindings joined
  have unbound : ({ join with bindings := .none } : Join).compact =
      ({ twin with bindings := .none } : Join).compact :=
    congrArg (fun join : Join => { join with bindings := .none }) joined
  refine alike_modify
    (fun query => { query with
      buckets := query.buckets.set .join (query.buckets.get .join ++ join.bindings.compact).compact
      joins := query.joins ++ [({ join with bindings := .none } : Join).compact] })
    (fun query => ?_) (fun query => ?_) alike
  · simp only [Query.compact, Buckets.compact_add, List.map_append, List.map_cons, List.map_nil]
  · simp only [Query.compact, Buckets.compact_add, List.map_append, List.map_cons, List.map_nil,
      bindings, unbound]

theorem alike_group (alike : left.compact = right.compact) (connector : Connector)
    {fill twin : Builder → Builder}
    (filled : (fill left.nested).compact = (twin right.nested).compact) :
    (left.group connector fill).compact = (right.group connector twin).compact := by
  have queries : (fill left.nested).query.compact = (twin right.nested).query.compact :=
    congrArg query filled
  have members : Condition.allCompact (fill left.nested).query.conditions =
      Condition.allCompact (twin right.nested).query.conditions :=
    congrArg Query.conditions queries
  have isEmpty : (fill left.nested).query.conditions.isEmpty =
      (twin right.nested).query.conditions.isEmpty := by
    have lengths := congrArg List.isEmpty members
    rwa [Condition.allCompact_eq_map, Condition.allCompact_eq_map, List.isEmpty_map,
      List.isEmpty_map] at lengths
  have values : (fill left.nested).query.buckets.gathered.compact =
      (twin right.nested).query.buckets.gathered.compact := by
    apply Items.compact_eq_iff.mpr
    rw [Buckets.toList_gathered, Buckets.toList_gathered, ← Buckets.flatten_compact,
      ← Buckets.flatten_compact (twin right.nested).query.buckets]
    exact congrArg (fun query => query.buckets.flatten) queries
  -- the compact form of a group has no frame, so nothing else of the two queries has to agree
  simp only [group, isEmpty]
  split
  · exact alike
  · refine alike_addCondition alike connector ?_ values
    rw [Condition.compact, Condition.compact, members]

theorem alike_nested (alike : left.compact = right.compact) :
    left.nested.compact = right.nested.compact :=
  congrArg (fun builder => builder.nested.compact) alike

end Builder

/-! ## Calls -/

namespace Call

mutual

/-- A call with its items held in the smallest way, in joins and groups at any depth. -/
def compact : Call → Call
  | .select columns => .select columns.compact
  | .addSelect columns => .addSelect columns.compact
  | .joinWith kind table calls => .joinWith kind table (JoinCall.allCompact calls)
  | .group connector calls => .group connector (allCompact calls)
  | .among connector column values negated => .among connector column values.compact negated
  | .groupBy columns => .groupBy columns.compact
  | .addBindings values name => .addBindings values.compact name
  | .setBindings values name => .setBindings values.compact name
  | call => call

/-- Some calls with their items held in the smallest way. -/
def allCompact : List Call → List Call
  | [] => []
  | call :: rest => call.compact :: allCompact rest

end

open Builder

mutual

/-- A call does the same to alike builders, however its items are held. -/
theorem alike_run (call : Call) {left right : Builder} (alike : left.compact = right.compact) :
    (call.run left).compact = (call.compact.run right).compact := by
  cases call with
  | select columns => exact alike_select alike columns.compact_compact.symm
  | addSelect columns => exact alike_addSelect alike columns.compact_compact.symm
  | groupBy columns => exact alike_groupBy alike columns.compact_compact.symm
  | distinct | fromTable | orderBy | limit | offset | limitOffset | page | lock =>
    exact alike_modify_of_blind (fun _ => rfl) alike
  | update | set => exact alike_modify_of_blind (fun _ => rfl) (alike_initiate alike .update)
  | delete => exact alike_initiate alike .delete
  | insert rows => exact alike_insert alike rows
  | deleteId id => exact alike_compare (alike_initiate alike .delete) .and "id" .equal id
  | withDialect dialect => exact congrArg (Builder.withDialect dialect) alike
  | joinColumns | joinValue => exact alike_addJoin alike rfl
  | joinWith kind table calls => exact alike_addJoin alike (JoinCall.alike_runAll calls rfl)
  | compare connector column operator value =>
    exact alike_compare alike connector column operator value
  | compareAll connector values => exact alike_compareAll alike connector values
  | group connector calls =>
    exact alike_group alike connector (alike_runAll calls (alike_nested alike))
  | among connector column values negated =>
    have clauses : (Condition.among column values negated).compact =
        (Condition.among column values.compact negated).compact := by
      rw [Condition.compact, Condition.compact, Items.compact_compact]
    exact alike_addCondition alike connector clauses values.compact_compact.symm
  | between | null | datePart | jsonContains | jsonLength =>
    exact alike_addCondition alike _ rfl rfl
  | addBindings values name =>
    simp only [run, compact]
    split
    · exact alike_addBindings alike _ values.compact_compact.symm
    · exact alike
  | setBindings values name =>
    simp only [run, compact]
    split
    · exact alike_setBindings alike _ values.compact_compact.symm
    · exact alike

/-- Calls run side by side with their compact forms stay alike. -/
theorem alike_runAll (calls : List Call) {left right : Builder}
    (alike : left.compact = right.compact) :
    (runAll calls left).compact = (runAll (allCompact calls) right).compact := by
  cases calls with
  | nil =>
    rw [allCompact, runAll_nil, runAll_nil]
    exact alike
  | cons call rest =>
    rw [allCompact, runAll_cons, runAll_cons]
    exact alike_runAll rest (alike_run call alike)

end

end Call

end FluentSql
