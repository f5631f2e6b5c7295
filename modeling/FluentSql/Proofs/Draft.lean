import FluentSql.Proofs.Inline
import FluentSql.Proofs.Kept

/-!
# What calls write

A draft is what calls on a builder write if each writes its own values in place: joins and
conditions as text, rows and assignments as data. It is kept call by call and knows neither
buckets nor placeholders. `Tracks` says that a query and a draft agree; every call that
leaves the buckets to the builder keeps them in step (`Call.tracks_run`), so they agree
after any run (`Call.tracks_runAll`).
-/

namespace FluentSql

open Sql Fragment

mutual

/-- The constraints that a call adds to a join. A group without constraints adds nothing. -/
def JoinCall.inline (dialect : Dialect) : JoinCall → List (Connector × List Symbol)
  | .compareColumns connector first operator second =>
    [(connector, plain (constraint dialect (.columns first operator second)))]
  | .compareValue connector column operator value =>
    [(connector, inlineJoinValue dialect column operator value)]
  | .null connector column negated => [(connector, plain (Sql.null dialect column negated))]
  | .among connector column values negated =>
    [(connector, inlineAmong dialect column values.toList negated)]
  | .group connector calls =>
    let parts := JoinCall.inlineAll dialect calls
    if parts.isEmpty then [] else [(connector, inlineParenthesized (inlineChain parts))]

/-- The constraints that some calls add to a join. -/
def JoinCall.inlineAll (dialect : Dialect) : List JoinCall → List (Connector × List Symbol)
  | [] => []
  | call :: rest => call.inline dialect ++ JoinCall.inlineAll dialect rest

end

/-- A join with its constraints. -/
def inlineJoin (dialect : Dialect) (kind : JoinKind) (table : Reference)
    (parts : List (Connector × List Symbol)) : List Symbol :=
  plain (fixed " " ++ fixed kind.keyword ++ fixed " " ++ reference dialect table) ++
    if parts.isEmpty then [] else plain (fixed " on ") ++ inlineChain parts

/-- A comparison; with null it asks whether the column is null. -/
def inlineComparison (dialect : Dialect) (column : Reference) (operator : Operator)
    (value : Bind) : List Symbol :=
  if value.isNull then plain (Sql.null dialect column (operator ≠ .equal))
  else inlineCompare dialect column operator value

namespace Call

/-- The joins that a call adds. -/
def inlineJoins (dialect : Dialect) : Call → List Symbol
  | .joinColumns kind table first operator second =>
    inlineJoin dialect kind table
      (JoinCall.inline dialect (.compareColumns .and first operator second))
  | .joinValue kind table column operator value =>
    inlineJoin dialect kind table
      (JoinCall.inline dialect (.compareValue .and column operator value))
  | .joinWith kind table calls =>
    inlineJoin dialect kind table (JoinCall.inlineAll dialect calls)
  | _ => []

mutual

/-- The conditions that a call adds. A group without conditions adds nothing. -/
def inline (dialect : Dialect) : Call → List (Connector × List Symbol)
  | .deleteId id => [(.and, inlineComparison dialect "id" .equal id)]
  | .compare connector column operator value =>
    [(connector, inlineComparison dialect column operator value)]
  | .compareAll connector values =>
    values.map fun entry => (connector, inlineComparison dialect entry.1 .equal entry.2)
  | .group connector calls =>
    let parts := inlineAll dialect calls
    if parts.isEmpty then [] else [(connector, inlineParenthesized (inlineChain parts))]
  | .between connector column low high negated =>
    [(connector, inlineBetween dialect column low high negated)]
  | .among connector column values negated =>
    [(connector, inlineAmong dialect column values.toList negated)]
  | .null connector column negated => [(connector, plain (Sql.null dialect column negated))]
  | .datePart connector unit column operator value =>
    [(connector, inlineDatePart dialect unit column operator value)]
  | .jsonContains connector column value negated =>
    [(connector, inlineJsonContains dialect column (.text (String.ofList value.text)) negated)]
  | .jsonLength connector column operator value =>
    [(connector, inlineJsonLength dialect column operator value)]
  | _ => []

/-- The conditions that some calls add. -/
def inlineAll (dialect : Dialect) : List Call → List (Connector × List Symbol)
  | [] => []
  | call :: rest => call.inline dialect ++ inlineAll dialect rest

end

/-- The rows that a call adds to insert. -/
def addedRows : Call → List Row
  | .insert rows => rows
  | _ => []

/-- The assignments after a call. -/
def assign : Call → Row → Row
  | .update values => fun _ => values
  | .set column value => Dictionary.insert column value
  | _ => id

/-- The kind of statement that a call starts. -/
def initiates? : Call → Option StatementKind
  | .select _ => some .select
  | .insert _ => some .insert
  | .update _ | .set _ _ => some .update
  | .delete | .deleteId _ => some .delete
  | _ => none

mutual

/-- Whether a call adds conditions and does nothing else, in groups at any depth. -/
def isWhere : Call → Bool
  | .compare _ _ _ _ | .compareAll _ _ | .between _ _ _ _ _ | .among _ _ _ _ | .null _ _ _
  | .datePart _ _ _ _ _ | .jsonContains _ _ _ _ | .jsonLength _ _ _ _ => true
  | .group _ calls => allWhere calls
  | _ => false

/-- Whether some calls add conditions and do nothing else. -/
def allWhere : List Call → Bool
  | [] => true
  | call :: rest => call.isWhere && allWhere rest

end

/-- Whether a call leaves the buckets to the builder, and groups have conditions only. -/
def keepsBuckets : Call → Bool
  | .addBindings _ _ | .setBindings _ _ => false
  | .group _ calls => allWhere calls
  | _ => true

end Call

/-- What calls on a builder have written, their values in place. -/
structure Draft where
  joins : List Symbol
  conditions : List (Connector × List Symbol)
  rows : List Row
  updates : Row

namespace Draft

/-- Nothing is written. -/
def empty : Draft := ⟨[], [], [], .empty⟩

/-- Write what one call adds. -/
def extend (dialect : Dialect) (draft : Draft) (call : Call) : Draft where
  joins := draft.joins ++ call.inlineJoins dialect
  conditions := draft.conditions ++ call.inline dialect
  rows := draft.rows ++ call.addedRows
  updates := call.assign draft.updates

/-- What some calls write, one after the other. -/
def ofCalls (dialect : Dialect) (calls : List Call) : Draft := calls.foldl (extend dialect) empty

/-- Write some conditions. -/
def addConditions (draft : Draft) (parts : List (Connector × List Symbol)) : Draft :=
  { draft with conditions := draft.conditions ++ parts }

@[simp] theorem addConditions_nil (draft : Draft) : draft.addConditions [] = draft := by
  simp [addConditions]

@[simp] theorem addConditions_append (draft : Draft)
    (first second : List (Connector × List Symbol)) :
    draft.addConditions (first ++ second) =
      (draft.addConditions first).addConditions second := by
  simp [addConditions]

end Draft

/-- A join asks for the values that its bindings hold, in order. -/
structure Join.Tracks (dialect : Dialect) (kind : JoinKind) (table : Reference) (join : Join)
    (parts : List (Connector × List Symbol)) : Prop where
  kind : join.kind = kind
  table : join.table = table
  constraints :
    PartsRender (constraintParts dialect join.constraints) join.bindings.toList parts

namespace Join

variable {dialect : Dialect} {kind : JoinKind} {table : Reference} {join : Join}
  {parts : List (Connector × List Symbol)}

theorem tracks_on (dialect : Dialect) (kind : JoinKind) (table : Reference) :
    (Join.on kind table).Tracks dialect kind table [] where
  kind := rfl
  table := rfl
  constraints := .nil

theorem Tracks.add (tracks : join.Tracks dialect kind table parts) (connector : Connector)
    {clause : Constraint} {values : Items Bind} {symbols : List Symbol}
    (renders : Renders (constraint dialect clause) values.toList symbols) :
    (join.add connector clause values).Tracks dialect kind table
      (parts ++ [(connector, symbols)]) where
  kind := tracks.kind
  table := tracks.table
  constraints := by
    have whole := tracks.constraints.append (.single connector renders)
    simpa [Join.add, constraintParts_eq_map] using whole

/-- A join with its constraints renders with the values that it holds. -/
theorem Tracks.renders (tracks : join.Tracks dialect kind table parts) :
    Renders (Sql.join dialect join) join.bindings.toList
      (inlineJoin dialect kind table parts) := by
  have isEmpty := tracks.constraints.isEmpty_eq
  rw [constraintParts_eq_map, List.isEmpty_map] at isEmpty
  rw [Sql.join, tracks.kind, tracks.table, inlineJoin, isEmpty]
  refine (renders_plain rfl).append_left ?_
  split
  · rename_i none
    have constraints := tracks.constraints
    rw [List.isEmpty_iff.mp none] at constraints
    rw [constraints.values_eq_nil]
    exact .nil
  · exact (renders_plain rfl).append_left tracks.constraints.chain

end Join

namespace JoinCall

variable {dialect : Dialect}

mutual

/-- A call on a join asks for the values that it adds to the join's bindings. -/
theorem tracks_run (call : JoinCall) {kind : JoinKind} {table : Reference} {join : Join}
    {parts : List (Connector × List Symbol)}
    (tracks : join.Tracks dialect kind table parts) :
    (call.run join).Tracks dialect kind table (parts ++ call.inline dialect) := by
  cases call with
  | compareColumns connector first operator second =>
    exact tracks.add connector (renders_plain rfl)
  | compareValue connector column operator value =>
    exact tracks.add connector (renders_joinValue column operator value)
  | null connector column negated => exact tracks.add connector (renders_plain rfl)
  | among connector column values negated =>
    exact tracks.add connector (renders_among column values negated)
  | group connector calls =>
    have inner : ((JoinCall.runAll calls) (Join.on join.kind join.table)).Tracks dialect join.kind
        join.table (JoinCall.inlineAll dialect calls) := tracks_runAll calls (Join.tracks_on _ _ _)
    have isEmpty := inner.constraints.isEmpty_eq
    rw [constraintParts_eq_map, List.isEmpty_map] at isEmpty
    rw [run, inline, Join.group, Join.isEmpty, isEmpty]
    split
    · rw [List.append_nil]
      exact tracks
    · exact tracks.add connector (renders_parenthesized inner.constraints.chain)

theorem tracks_runAll (calls : List JoinCall) {kind : JoinKind} {table : Reference} {join : Join}
    {parts : List (Connector × List Symbol)} (tracks : join.Tracks dialect kind table parts) :
    (runAll calls join).Tracks dialect kind table (parts ++ inlineAll dialect calls) := by
  cases calls with
  | nil =>
    rw [runAll_nil, inlineAll, List.append_nil]
    exact tracks
  | cons call rest =>
    rw [runAll_cons, inlineAll, ← List.append_assoc]
    exact tracks_runAll rest (tracks_run call tracks)

end

end JoinCall

/-- A query and a draft agree: the query asks for the values that the draft has in place, and
holds them in the buckets of joins, conditions and inserts in the same order. -/
structure Tracks (dialect : Dialect) (query : Query) (draft : Draft) : Prop where
  joins : Renders (Sql.joins dialect query.joins) query.buckets.join.toList draft.joins
  conditions : PartsRender (conditionParts dialect query.conditions)
    query.buckets.filter.toList draft.conditions
  rows : query.rows = draft.rows
  inserts : query.buckets.inserts.toList = draft.rows.flatMap Dictionary.values
  updates : query.updates = draft.updates
  select : query.buckets.select.toList = []
  having : query.buckets.having.toList = []
  order : query.buckets.order.toList = []
  aggregate : query.aggregate? = none

namespace Tracks

variable {dialect : Dialect} {builder : Builder} {draft : Draft}

theorem empty (table? : Option Reference) :
    Tracks dialect { Query.empty with table? := table? } .empty where
  joins := .nil
  conditions := .nil
  rows := rfl
  inserts := rfl
  updates := rfl
  select := rfl
  having := rfl
  order := rfl
  aggregate := rfl

/-- The kind of the statement has no part in it. -/
theorem initiate (tracks : Tracks dialect builder.query draft) (kind : StatementKind) :
    Tracks dialect (builder.initiate kind).query draft :=
  { tracks with }

theorem addCondition (tracks : Tracks dialect builder.query draft) (connector : Connector)
    {clause : Condition} {values : Items Bind} {symbols : List Symbol}
    (renders : Renders (condition dialect clause) values.toList symbols) :
    Tracks dialect (builder.addCondition connector clause values).query
      (draft.addConditions [(connector, symbols)]) := by
  have whole := tracks.conditions.append (.single connector renders)
  exact { tracks with
    conditions := by
      simpa [Builder.addCondition, Builder.modify, Buckets.add, Buckets.set, Buckets.get,
        Draft.addConditions, conditionParts_eq_map] using whole }

theorem compare (tracks : Tracks dialect builder.query draft) (connector : Connector)
    (column : Reference) (operator : Operator) (value : Bind) :
    Tracks dialect (builder.compare connector column operator value).query
      (draft.addConditions [(connector, inlineComparison dialect column operator value)]) := by
  unfold Builder.compare inlineComparison
  split
  · exact tracks.addCondition connector (renders_plain rfl)
  · exact tracks.addCondition connector (renders_compare column operator value)

theorem compareAll (tracks : Tracks dialect builder.query draft) (connector : Connector)
    (values : List (Reference × Bind)) :
    Tracks dialect (builder.compareAll connector values).query
      (draft.addConditions (values.map fun entry =>
        (connector, inlineComparison dialect entry.1 .equal entry.2))) := by
  unfold Builder.compareAll
  induction values generalizing builder draft with
  | nil =>
    rw [List.map_nil, Draft.addConditions_nil]
    exact tracks
  | cons entry rest inductionHypothesis =>
    have first := tracks.compare connector entry.1 .equal entry.2
    have whole := inductionHypothesis first
    rw [← Draft.addConditions_append] at whole
    exact whole

/-- The values of a group are those of its conditions alone. -/
theorem group (tracks : Tracks dialect builder.query draft) (connector : Connector)
    {fill : Builder → Builder} {parts : List (Connector × List Symbol)}
    (filled : Tracks dialect (fill builder.nested).query (Draft.empty.addConditions parts)) :
    Tracks dialect (builder.group connector fill).query (draft.addConditions
      (if parts.isEmpty then [] else [(connector, inlineParenthesized (inlineChain parts))])) := by
  have sameEmpty : (fill builder.nested).query.conditions.isEmpty = parts.isEmpty := by
    have isEmpty := filled.conditions.isEmpty_eq
    rwa [conditionParts_eq_map, List.isEmpty_map] at isEmpty
  have noJoins : (fill builder.nested).query.buckets.join.toList = [] := filled.joins.values_eq
  have noRows : (fill builder.nested).query.buckets.inserts.toList = [] := filled.inserts
  have gathered : (fill builder.nested).query.buckets.gathered.toList =
      (fill builder.nested).query.buckets.filter.toList := by
    simp [Buckets.flatten, Bucket.all, Buckets.get, filled.select, noJoins, filled.having,
      filled.order, noRows]
  by_cases none : parts.isEmpty
  · have same : builder.group connector fill = builder := if_pos (sameEmpty.trans none)
    rw [same, if_pos none, Draft.addConditions_nil]
    exact tracks
  · have nonempty : ¬ (fill builder.nested).query.conditions.isEmpty := fun isEmpty =>
      none (sameEmpty.symm.trans isEmpty)
    simp only [Builder.group]
    rw [if_neg none, if_neg nonempty]
    refine tracks.addCondition connector ?_
    rw [gathered]
    exact renders_parenthesized filled.conditions.chain

theorem addJoin (tracks : Tracks dialect builder.query draft) {kind : JoinKind}
    {table : Reference} {join : Join} {parts : List (Connector × List Symbol)}
    (joined : join.Tracks dialect kind table parts) :
    Tracks dialect (builder.addJoin join).query
      { draft with joins := draft.joins ++ inlineJoin dialect kind table parts } := by
  have unbound : Sql.join dialect { join with bindings := .none } = Sql.join dialect join := rfl
  have whole := tracks.joins.append joined.renders
  exact { tracks with
    joins := by
      simpa [Builder.addJoin, Builder.modify, Buckets.add, Buckets.set, Buckets.get, Sql.joins,
        unbound] using whole }

theorem update (tracks : Tracks dialect builder.query draft) (values : Row) :
    Tracks dialect (builder.update values).query { draft with updates := values } :=
  { tracks with updates := rfl }

theorem set (tracks : Tracks dialect builder.query draft) (column : Reference) (value : Bind) :
    Tracks dialect (builder.set column value).query
      { draft with updates := draft.updates.insert column value } :=
  { tracks with updates := congrArg (Dictionary.insert column value) tracks.updates }

theorem insert (tracks : Tracks dialect builder.query draft) (rows : List Row) :
    Tracks dialect (builder.insert rows).query { draft with rows := draft.rows ++ rows } := by
  unfold Builder.insert
  replace tracks := tracks.initiate .insert
  generalize builder.initiate .insert = initiated at tracks ⊢
  induction rows generalizing initiated draft with
  | nil =>
    rw [List.append_nil]
    exact tracks
  | cons row rest inductionHypothesis =>
    have values := tracks.inserts
    have added : Tracks dialect (initiated.addRow row).query
        { draft with rows := draft.rows ++ [row] } :=
      { tracks with
        rows := by simp [Builder.addRow, Builder.modify, tracks.rows]
        inserts := by
          simp [Builder.addRow, Builder.modify, Buckets.add, Buckets.set, Buckets.get, values] }
    have whole := inductionHypothesis _ added
    simpa using whole

end Tracks

namespace Call

variable {dialect : Dialect}

mutual

/-- A call that adds conditions adds the same to the draft. -/
theorem tracks_where (call : Call) {builder : Builder} {draft : Draft}
    (conditional : call.isWhere) (tracks : Tracks dialect builder.query draft) :
    Tracks dialect (call.run builder).query (draft.addConditions (call.inline dialect)) := by
  cases call with
  | compare connector column operator value =>
    exact tracks.compare connector column operator value
  | compareAll connector values => exact tracks.compareAll connector values
  | group connector calls =>
    exact tracks.group connector (tracks_allWhere calls conditional (.empty builder.query.table?))
  | between connector column low high negated =>
    exact tracks.addCondition connector (renders_between column low high negated)
  | among connector column values negated =>
    exact tracks.addCondition connector (renders_among column values negated)
  | null connector column negated => exact tracks.addCondition connector (renders_plain rfl)
  | datePart connector unit column operator value =>
    exact tracks.addCondition connector (renders_datePart unit column operator value)
  | jsonContains connector column value negated =>
    exact tracks.addCondition connector (renders_jsonContains column _ negated)
  | jsonLength connector column operator value =>
    exact tracks.addCondition connector (renders_jsonLength column operator value)
  | _ => cases conditional

theorem tracks_allWhere (calls : List Call) {builder : Builder} {draft : Draft}
    (conditional : allWhere calls) (tracks : Tracks dialect builder.query draft) :
    Tracks dialect (runAll calls builder).query
      (draft.addConditions (inlineAll dialect calls)) := by
  cases calls with
  | nil =>
    rw [runAll_nil, inlineAll, Draft.addConditions_nil]
    exact tracks
  | cons call rest =>
    rw [allWhere, Bool.and_eq_true] at conditional
    rw [runAll_cons, inlineAll, Draft.addConditions_append]
    exact tracks_allWhere rest conditional.2 (tracks_where call conditional.1 tracks)

end

/-- One call keeps query and draft in step. -/
theorem tracks_run (call : Call) {builder : Builder} {draft : Draft} (keeps : call.keepsBuckets)
    (tracks : Tracks dialect builder.query draft) :
    Tracks dialect (call.run builder).query (draft.extend dialect call) := by
  have written : ∀ {call : Call} {result : Draft}, Tracks dialect (call.run builder).query result →
      draft.extend dialect call = result →
      Tracks dialect (call.run builder).query (draft.extend dialect call) := by
    intro call result tracks same
    rw [same]
    exact tracks
  cases call with
  | compare | compareAll | between | among | null | datePart | jsonContains | jsonLength =>
    exact written (tracks_where _ rfl tracks)
      (by simp [Draft.extend, Draft.addConditions, inlineJoins, addedRows, assign])
  | group connector calls =>
    exact written (tracks_where _ keeps tracks)
      (by simp [Draft.extend, Draft.addConditions, inlineJoins, addedRows, assign])
  | deleteId id =>
    exact written ((tracks.initiate .delete).compare .and "id" .equal id)
      (by simp [Draft.extend, Draft.addConditions, inlineJoins, inline, addedRows, assign])
  | joinColumns kind table first operator second =>
    have joined := JoinCall.tracks_run (.compareColumns .and first operator second)
      (Join.tracks_on dialect kind table)
    exact written (tracks.addJoin joined)
      (by simp [Draft.extend, inlineJoins, inline, addedRows, assign])
  | joinValue kind table column operator value =>
    have joined := JoinCall.tracks_run (.compareValue .and column operator value)
      (Join.tracks_on dialect kind table)
    exact written (tracks.addJoin joined)
      (by simp [Draft.extend, inlineJoins, inline, addedRows, assign])
  | joinWith kind table calls =>
    have joined := JoinCall.tracks_runAll calls
      (Join.tracks_on dialect kind table)
    exact written (tracks.addJoin joined)
      (by simp [Draft.extend, inlineJoins, inline, addedRows, assign])
  | insert rows =>
    exact written (tracks.insert rows)
      (by simp [Draft.extend, inlineJoins, inline, addedRows, assign])
  | update values =>
    exact written (tracks.update values)
      (by simp [Draft.extend, inlineJoins, inline, addedRows, assign])
  | set column value =>
    exact written (tracks.set column value)
      (by simp [Draft.extend, inlineJoins, inline, addedRows, assign])
  | addBindings => cases keeps
  | setBindings => cases keeps
  | select | addSelect | distinct | fromTable | delete | withDialect | groupBy | orderBy | limit
  | offset | limitOffset | page | lock =>
    exact written { tracks with } (by simp [Draft.extend, inlineJoins, inline, addedRows, assign])

/-- Any run of calls keeps query and draft in step. -/
theorem tracks_runAll {calls : List Call} {builder : Builder} {draft : Draft}
    (keeps : ∀ call ∈ calls, call.keepsBuckets) (tracks : Tracks dialect builder.query draft) :
    Tracks dialect (runAll calls builder).query (calls.foldl (Draft.extend dialect) draft) := by
  induction calls generalizing builder draft with
  | nil => exact tracks
  | cons call rest inductionHypothesis =>
    rw [runAll_cons, List.foldl_cons]
    exact inductionHypothesis (fun later member => keeps later (List.mem_cons_of_mem _ member))
      (tracks_run call (keeps call List.mem_cons_self) tracks)

theorem kind_initiate (kind : StatementKind) (builder : Builder) :
    (builder.initiate kind).query.kind? = builder.query.kind?.or (some kind) := by
  change some (builder.query.kind?.getD kind) = _
  cases builder.query.kind? <;> rfl

/-- A call decides the kind of a statement that has none yet. -/
theorem kind_run (call : Call) (builder : Builder) :
    (call.run builder).query.kind? = builder.query.kind?.or call.initiates? := by
  let kind? (builder : Builder) := builder.query.kind?
  have condition : ∀ connector condition values (builder : Builder),
      kind? (builder.addCondition connector condition values) = kind? builder :=
    fun _ _ _ _ => rfl
  cases call with
  | select | update | set | delete => exact kind_initiate _ builder
  | deleteId id =>
    exact (Builder.keeps_compare kind? condition _ _ _ _ _).trans (kind_initiate _ builder)
  | insert rows =>
    exact (Builder.keeps_insert kind? (fun _ _ => rfl) rows builder).trans
      (kind_initiate _ builder)
  | compare =>
    exact (Builder.keeps_compare kind? condition _ _ _ _ builder).trans Option.or_none.symm
  | compareAll =>
    exact (Builder.keeps_compareAll kind? condition _ _ builder).trans Option.or_none.symm
  | group =>
    exact (Builder.keeps_group kind? condition _ _ builder).trans Option.or_none.symm
  | addBindings values name | setBindings values name =>
    refine Eq.trans ?_ Option.or_none.symm
    simp only [run]
    split <;> rfl
  | _ => exact Option.or_none.symm

theorem kind_runAll (calls : List Call) (builder : Builder) :
    (runAll calls builder).query.kind? =
      builder.query.kind?.or (calls.findSome? initiates?) := by
  induction calls generalizing builder with
  | nil => simp
  | cons call rest inductionHypothesis =>
    rw [runAll_cons, inductionHypothesis, kind_run, List.findSome?_cons, Option.or_assoc]
    cases call.initiates? <;> rfl

end Call

end FluentSql
