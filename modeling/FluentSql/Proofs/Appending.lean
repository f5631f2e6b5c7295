import FluentSql.Proofs.Draft
import FluentSql.Proofs.Restoration

/-!
# Builders only grow

Calls add to the end of what a builder has: its joins, conditions, groups, orders, rows and
bound values. `Query.Appends` says this of a query before and after, with the buckets that
may get values and those whose values may be replaced. It holds of each operation
(`Builder.Step.appends_run`), and from there of any run (`Builder.Step.appends_runAll`),
whatever fills the groups and whatever a connection answers. The kind of a statement is
chosen once in a run, by the first step that initiates one (`Builder.Step.kind?_runAll`).
-/

namespace FluentSql

/-- Every list of a query is a prefix of what it is afterwards, and a chosen kind stays.
A bucket that is not filled is as it was; one that is not replaced keeps its values in front. -/
structure Query.Appends (filled replaced : Bucket → Prop) (before after : Query) : Prop where
  kind : ∀ kind, before.kind? = some kind → after.kind? = some kind
  joins : before.joins <+: after.joins
  conditions : before.conditions <+: after.conditions
  groups : before.groups.toList <+: after.groups.toList
  orders : before.orders <+: after.orders
  rows : before.rows <+: after.rows
  buckets : ∀ bucket, ¬ replaced bucket →
    (before.buckets.get bucket).toList <+: (after.buckets.get bucket).toList
  untouched : ∀ bucket, ¬ filled bucket → after.buckets.get bucket = before.buckets.get bucket

namespace Call

/-- The bucket that a call is about. -/
def bucket? : Call → Option Bucket
  | .insert _ => some .inserts
  | .joinColumns _ _ _ _ _ | .joinValue _ _ _ _ _ | .joinWith _ _ _ => some .join
  | .deleteId _ | .compare _ _ _ _ | .compareAll _ _ | .group _ _ | .between _ _ _ _ _
  | .among _ _ _ _ | .null _ _ _ | .datePart _ _ _ _ _ | .jsonContains _ _ _ _
  | .jsonLength _ _ _ _ => some .filter
  | .addBindings _ name | .setBindings _ name => (Bucket.ofName? name).toOption
  | _ => none

/-- The bucket whose values a call replaces. -/
def replaced? : Call → Option Bucket
  | .setBindings _ name => (Bucket.ofName? name).toOption
  | _ => none

end Call

namespace Builder

/-- A step of a program on a builder: a call, a group that the program fills in any way, or a
terminal over any connection. -/
inductive Step : Type 1 where
  | call (call : Call)
  | group (connector : Connector) (fill : Builder → Builder)
  | terminal {σ α : Type} (connection : Connection σ) (terminal : Terminal α) (state : σ)

namespace Step

/-- The builder after a step. -/
def run (step : Step) (builder : Builder) : Builder :=
  match step with
  | .call issued => issued.run builder
  | .group connector fill => builder.group connector fill
  | .terminal connection closing state => (closing.run connection builder state).2.1

/-- The builder after some steps. -/
def runAll (steps : List Step) (builder : Builder) : Builder :=
  steps.foldl (fun builder step => step.run builder) builder

/-- The kind that a step chooses if none is chosen. -/
def initiates? : Step → Option StatementKind
  | .call issued => issued.initiates?
  | _ => none

/-- The bucket that a step is about. -/
def bucket? : Step → Option Bucket
  | .call issued => issued.bucket?
  | .group _ _ => some .filter
  | .terminal _ _ _ => none

/-- The bucket whose values a step replaces. -/
def replaced? : Step → Option Bucket
  | .call issued => issued.replaced?
  | _ => none

end Step

end Builder

/-! ## What is added -/

namespace Bucket

theorem ofName?_of_unknown {name : String} (unknown : ∀ bucket : Bucket, bucket.name ≠ name) :
    ofName? name = .error (.unknownBucket name) := by
  have none : all.find? (fun bucket => bucket.name = name) = none :=
    List.find?_eq_none.mpr fun bucket _ => by simpa using unknown bucket
  rw [ofName?, none]

end Bucket

namespace Buckets

variable (buckets : Buckets) (bucket other : Bucket) (values : Items Bind)

theorem prefix_get_add :
    (buckets.get other).toList <+: ((buckets.add bucket values).get other).toList := by
  by_cases same : other = bucket
  · subst same
    rw [add, get_set, Items.toList_append]
    exact List.prefix_append _ _
  · have kept : (buckets.add bucket values).get other = buckets.get other :=
      get_set_of_ne buckets same _
    exact kept ▸ List.prefix_rfl

end Buckets

namespace Query.Appends

variable {filled replaced : Bucket → Prop} {before between after : Query}

theorem refl (query : Query) : query.Appends filled replaced query where
  kind := fun _ chosen => chosen
  joins := List.prefix_rfl
  conditions := List.prefix_rfl
  groups := List.prefix_rfl
  orders := List.prefix_rfl
  rows := List.prefix_rfl
  buckets := fun _ _ => List.prefix_rfl
  untouched := fun _ _ => rfl

theorem trans (first : before.Appends filled replaced between)
    (second : between.Appends filled replaced after) : before.Appends filled replaced after where
  kind := fun kind chosen => second.kind kind (first.kind kind chosen)
  joins := first.joins.trans second.joins
  conditions := first.conditions.trans second.conditions
  groups := first.groups.trans second.groups
  orders := first.orders.trans second.orders
  rows := first.rows.trans second.rows
  buckets := fun bucket kept => (first.buckets bucket kept).trans (second.buckets bucket kept)
  untouched := fun bucket apart =>
    (second.untouched bucket apart).trans (first.untouched bucket apart)

/-- What may be filled or replaced may be more. -/
theorem mono (appends : before.Appends filled replaced after) {filled' replaced' : Bucket → Prop}
    (fills : ∀ bucket, filled bucket → filled' bucket)
    (replaces : ∀ bucket, replaced bucket → replaced' bucket) :
    before.Appends filled' replaced' after :=
  { appends with
    buckets := fun bucket kept => appends.buckets bucket (mt (replaces bucket) kept)
    untouched := fun bucket apart => appends.untouched bucket (mt (fills bucket) apart) }

end Query.Appends

namespace Builder

variable {filled replaced : Bucket → Prop} (builder : Builder)

theorem appends_initiate (kind : StatementKind) :
    builder.query.Appends filled replaced (builder.initiate kind).query :=
  { Query.Appends.refl builder.query with
    kind := fun first chosen => by simp [initiate, modify, chosen] }

theorem appends_addBindings {bucket : Bucket} (fills : filled bucket) (values : Items Bind) :
    builder.query.Appends filled replaced (builder.addBindings values bucket).query :=
  { (.refl _ : builder.query.Appends filled replaced builder.query) with
    buckets := fun other _ => builder.query.buckets.prefix_get_add bucket other values
    untouched := fun other apart => by
      have different : other ≠ bucket := fun same => apart (same ▸ fills)
      exact builder.query.buckets.get_set_of_ne different _ }

theorem appends_setBindings {bucket : Bucket} (fills : filled bucket) (replaces : replaced bucket)
    (values : Items Bind) :
    builder.query.Appends filled replaced (builder.setBindings values bucket).query :=
  { (.refl _ : builder.query.Appends filled replaced builder.query) with
    buckets := fun other kept => by
      have different : other ≠ bucket := fun same => kept (same ▸ replaces)
      have same : (builder.setBindings values bucket).query.buckets.get other =
          builder.query.buckets.get other := builder.query.buckets.get_set_of_ne different _
      exact same ▸ List.prefix_rfl
    untouched := fun other apart => by
      have different : other ≠ bucket := fun same => apart (same ▸ fills)
      exact builder.query.buckets.get_set_of_ne different _ }

theorem appends_addCondition (fills : filled .filter) (connector : Connector)
    (condition : Condition) (values : Items Bind) :
    builder.query.Appends filled replaced
      (builder.addCondition connector condition values).query :=
  { builder.appends_addBindings fills values with
    conditions := List.prefix_append _ _ }

theorem appends_addJoin (fills : filled .join) (join : Join) :
    builder.query.Appends filled replaced (builder.addJoin join).query :=
  { builder.appends_addBindings fills join.bindings with
    joins := List.prefix_append _ _ }

theorem appends_addRow (fills : filled .inserts) (row : Row) :
    builder.query.Appends filled replaced (builder.addRow row).query :=
  { builder.appends_addBindings fills (.ofList row.values) with
    rows := List.prefix_append _ _ }

theorem appends_compare (fills : filled .filter) (connector : Connector) (column : Reference)
    (operator : Operator) (value : Bind) :
    builder.query.Appends filled replaced
      (builder.compare connector column operator value).query := by
  unfold compare
  split
  · exact builder.appends_addCondition fills _ _ _
  · exact builder.appends_addCondition fills _ _ _

theorem appends_compareAll (fills : filled .filter) (connector : Connector)
    (values : List (Reference × Bind)) :
    builder.query.Appends filled replaced (builder.compareAll connector values).query :=
  List.foldlRecOn (motive := fun after : Builder =>
      builder.query.Appends filled replaced after.query) values _ (.refl _)
    fun after appends entry _ =>
      appends.trans (after.appends_compare fills connector entry.1 .equal entry.2)

/-- What fills a group is seen in the one condition only that the group adds. -/
theorem appends_group (fills : filled .filter) (connector : Connector)
    (fill : Builder → Builder) :
    builder.query.Appends filled replaced (builder.group connector fill).query := by
  simp only [group]
  split
  · exact .refl _
  · exact builder.appends_addCondition fills _ _ _

theorem appends_insert (fills : filled .inserts) (rows : List Row) :
    builder.query.Appends filled replaced (builder.insert rows).query :=
  List.foldlRecOn (motive := fun after : Builder =>
      builder.query.Appends filled replaced after.query) rows _ (builder.appends_initiate _)
    fun after appends row _ => appends.trans (after.appends_addRow fills row)

end Builder

/-! ## Steps and runs -/

namespace Call

/-- A call adds to the bucket that it is about, and leaves the others as they are. -/
theorem appends_run (call : Call) (builder : Builder) :
    builder.query.Appends (fun bucket => call.bucket? = some bucket)
      (fun bucket => call.replaced? = some bucket) (call.run builder).query := by
  cases call with
  | select | update | set | delete =>
    exact { builder.appends_initiate _ with }
  | insert rows => exact builder.appends_insert (by rfl) rows
  | deleteId id =>
    exact (builder.appends_initiate .delete).trans
      (builder.delete.appends_compare (by rfl) .and "id" .equal id)
  | joinColumns | joinValue | joinWith => exact builder.appends_addJoin (by rfl) _
  | compare => exact builder.appends_compare (by rfl) _ _ _ _
  | compareAll => exact builder.appends_compareAll (by rfl) _ _
  | group => exact builder.appends_group (by rfl) _ _
  | between | among | null | datePart | jsonContains | jsonLength =>
    exact builder.appends_addCondition (by rfl) _ _ _
  | groupBy columns =>
    exact { Query.Appends.refl builder.query with
      groups := by
        rw [run, Builder.groupBy, Builder.modify, Items.toList_append]
        exact List.prefix_append _ _ }
  | orderBy =>
    exact { Query.Appends.refl builder.query with orders := List.prefix_append _ _ }
  | addBindings values name =>
    simp only [run, bucket?]
    cases Bucket.ofName? name with
    | ok bucket => exact builder.appends_addBindings (by rfl) values
    | error => exact .refl _
  | setBindings values name =>
    simp only [run, bucket?, replaced?]
    cases Bucket.ofName? name with
    | ok bucket => exact builder.appends_setBindings (by rfl) (by rfl) values
    | error => exact .refl _
  | _ => exact { Query.Appends.refl builder.query with }

/-- A call that fails leaves the builder as it was. -/
theorem run_of_fault? {call : Call} {fault : Fault} (fails : call.fault? = some fault)
    (builder : Builder) : call.run builder = builder := by
  cases call with
  | addBindings values name | setBindings values name =>
    simp only [fault?, run] at fails ⊢
    split at fails
    · cases fails
    · rfl
  | _ => cases fails

end Call

namespace Builder.Step

variable {builder : Builder}

theorem run_terminal (unasked : builder.aggregate? = none) {σ α : Type}
    (connection : Connection σ) (closing : Terminal α) (state : σ) :
    (terminal connection closing state).run builder = builder :=
  closing.builder_run connection unasked state

theorem appends_run (unasked : builder.aggregate? = none) (step : Step) :
    builder.query.Appends (fun bucket => step.bucket? = some bucket)
      (fun bucket => step.replaced? = some bucket) (step.run builder).query := by
  cases step with
  | call issued => exact issued.appends_run builder
  | group connector fill => exact builder.appends_group (by rfl) connector fill
  | terminal connection closing state =>
    rw [run_terminal unasked]
    exact .refl _

theorem aggregate?_run (unasked : builder.aggregate? = none) (step : Step) :
    (step.run builder).aggregate? = none := by
  cases step with
  | call issued => exact (issued.aggregate?_run builder).trans unasked
  | group connector fill =>
    exact (keeps_group Builder.aggregate? (fun _ _ _ _ => rfl) connector fill builder).trans unasked
  | terminal connection closing state =>
    rw [run_terminal unasked]
    exact unasked

theorem kind?_run (unasked : builder.aggregate? = none) (step : Step) :
    (step.run builder).query.kind? = builder.query.kind?.or step.initiates? := by
  cases step with
  | call issued => exact issued.kind_run builder
  | group connector fill =>
    exact (keeps_group (fun builder => builder.query.kind?) (fun _ _ _ _ => rfl) connector fill
      builder).trans Option.or_none.symm
  | terminal connection closing state =>
    rw [run_terminal unasked]
    exact Option.or_none.symm

/-- A run fills the buckets that its steps are about. -/
theorem appends_runAll (unasked : builder.aggregate? = none) (steps : List Step) :
    builder.query.Appends (fun bucket => ∃ step ∈ steps, step.bucket? = some bucket)
      (fun bucket => ∃ step ∈ steps, step.replaced? = some bucket)
      (runAll steps builder).query := by
  induction steps generalizing builder with
  | nil => exact .refl _
  | cons step rest inductionHypothesis =>
    have first := step.appends_run unasked
    have further := inductionHypothesis (step.aggregate?_run unasked)
    refine (first.mono ?_ ?_).trans (further.mono ?_ ?_)
    · exact fun bucket about => ⟨step, List.mem_cons_self, about⟩
    · exact fun bucket about => ⟨step, List.mem_cons_self, about⟩
    · exact fun bucket ⟨later, isLater, about⟩ => ⟨later, List.mem_cons_of_mem _ isLater, about⟩
    · exact fun bucket ⟨later, isLater, about⟩ => ⟨later, List.mem_cons_of_mem _ isLater, about⟩

/-- The first step that initiates a statement chooses its kind, unless it is chosen before. -/
theorem kind?_runAll (unasked : builder.aggregate? = none) (steps : List Step) :
    (runAll steps builder).query.kind? =
      builder.query.kind?.or (steps.findSome? initiates?) := by
  induction steps generalizing builder with
  | nil => simp [runAll]
  | cons step rest inductionHypothesis =>
    have further := inductionHypothesis (step.aggregate?_run unasked)
    rw [runAll, List.foldl_cons, ← runAll, further, step.kind?_run unasked,
      List.findSome?_cons, Option.or_assoc]
    cases step.initiates? <;> rfl

end Builder.Step

namespace Builder

/-- On a builder that a program can hold, no step takes anything back that was added, and only
a replacement of bound values takes back values, those of the bucket that it names. The kind
of a statement is that of the first step that initiates one, or a select. A call that names an
unknown bucket fails and changes nothing. -/
theorem Reachable.only_appends {builder : Builder} (reached : builder.Reachable) :
    (∀ step : Step, builder.query.Appends (fun bucket => step.bucket? = some bucket)
      (fun bucket => step.replaced? = some bucket) (step.run builder).query) ∧
    (∀ steps : List Step,
      builder.query.Appends (fun bucket => ∃ step ∈ steps, step.bucket? = some bucket)
        (fun bucket => ∃ step ∈ steps, step.replaced? = some bucket)
        (Step.runAll steps builder).query ∧
      (Step.runAll steps builder).query.kind? =
        builder.query.kind?.or (steps.findSome? Step.initiates?) ∧
      (builder.query.kind? = none → (Step.runAll steps builder).query.kind =
        (steps.findSome? Step.initiates?).getD .select)) ∧
    ∀ name values, (∀ bucket : Bucket, bucket.name ≠ name) →
      ∀ call ∈ [Call.addBindings values name, Call.setBindings values name],
        call.fault? = some (.unknownBucket name) ∧ call.run builder = builder := by
  have unasked := reached.aggregate?_eq_none
  refine ⟨fun step => step.appends_run unasked, fun steps => ?_, ?_⟩
  · have kind := Step.kind?_runAll unasked steps
    refine ⟨Step.appends_runAll unasked steps, kind, fun unchosen => ?_⟩
    rw [Frame.kind, kind, unchosen, Option.none_or]
  · intro name values unknown call isCall
    have fails : call.fault? = some (.unknownBucket name) := by
      have named := Bucket.ofName?_of_unknown unknown
      simp only [List.mem_cons, List.not_mem_nil, or_false] at isCall
      rcases isCall with rfl | rfl <;> simp only [Call.fault?, named]
    exact ⟨fails, call.run_of_fault? fails builder⟩

/-- A delete by id after a select, rows, a group, a replaced bucket, a call that fails and a
count that the connection refuses. -/
theorem Reachable.only_appends_after_select :
    let builder := Call.runAll [.select (.one "a"), .compare .and "b" .equal (.int64 1)]
      (Builder.table .mysql "t")
    let steps : List Step := [.call (.deleteId (.int64 7)),
      .call (.insert [.ofList [("c", .null)]]),
      .group .or (fun inner => inner.compare .and "d" .less (.int64 2)),
      .call (.setBindings (.one (.int64 3)) "having"), .call (.addBindings .none "nowhere"),
      .terminal (Script.connection .mysql) (.count .none : Terminal)
        (Script.start [.error "gone"] [] [])]
    let after := Step.runAll steps builder
    builder.Reachable ∧
      builder.query.Appends (fun bucket => ∃ step ∈ steps, step.bucket? = some bucket)
        (fun bucket => ∃ step ∈ steps, step.replaced? = some bucket) after.query ∧
      after.query.kind? = some .select := by
  intro builder steps after
  have reached : builder.Reachable := (Reachable.fresh (.table .mysql "t")).runAll _
  have run := reached.only_appends.2.1 steps
  exact ⟨reached, run.1, run.2.1⟩

end Builder

end FluentSql
