import FluentSql.Proofs.Reachable
import FluentSql.Session.Script

/-!
# Terminals give the builder back

Three kinds of terminals change a builder for the time of a call: a fetch by a key column
and a fetch of pairs change its columns, an aggregate its columns, its select bucket and
the aggregate slot. What they put back is what was there (`Terminal.builder_run`), whatever
came of the call between. An aggregate clears its slot instead of putting it back, so this
rests on no builder holding an aggregate between calls (`Builder.Reachable.aggregate?_eq_none`).
-/

namespace FluentSql

/-- A bucket that was emptied and got its values back. -/
theorem Buckets.set_clear (buckets : Buckets) (bucket : Bucket) :
    (buckets.clear bucket).set bucket (buckets.get bucket) = buckets := by
  cases bucket <;> rfl

namespace Builder

variable {σ α : Type} (builder : Builder)

theorem withColumns_withColumns (columns : Columns) :
    (builder.withColumns columns).withColumns builder.query.columns = builder := rfl

theorem builder_borrowing {asked : Builder} {restore : Builder → Builder}
    (restored : restore asked = builder) (step : Builder → Exchange σ α) (state : σ) :
    (borrowing asked restore step state).2.1 = builder := restored

variable (connection : Connection σ)

theorem builder_fetchKeyed (key : Reference) (state : σ) :
    (builder.fetchKeyed connection key state).2.1 = builder := by
  unfold fetchKeyed
  apply builder_borrowing
  split
  · rfl
  · exact builder.withColumns_withColumns _

theorem builder_fetchPairs (key value : Reference) (state : σ) :
    (builder.fetchPairs connection key value state).2.1 = builder :=
  builder_borrowing builder (builder.withColumns_withColumns _) _ state

theorem builder_aggregate (unasked : builder.aggregate? = none) (function : AggregateFunction)
    (columns : Columns) (state : σ) :
    (builder.aggregate connection function columns state).2.1 = builder := by
  apply builder_borrowing
  change ({ builder with query := { builder.query with
    buckets := (builder.query.buckets.clear .select).set .select (builder.query.buckets.get .select)
    aggregate? := none } } : Builder) = builder
  rw [Buckets.set_clear, ← (unasked : builder.query.aggregate? = none)]
  rfl

end Builder

namespace Terminal

open Builder

variable {σ α : Type} {builder : Builder} (connection : Connection σ)

/-- A terminal gives back the builder that it was called on. -/
theorem builder_run (unasked : builder.aggregate? = none) (terminal : Terminal α) (state : σ) :
    (terminal.run connection builder state).2.1 = builder := by
  cases terminal with
  | fetchKeyed key => exact builder.builder_fetchKeyed connection key state
  | fetchPairs key value => exact builder.builder_fetchPairs connection key value state
  | count columns => exact builder.builder_aggregate connection unasked .count columns state
  | sum column => exact builder.builder_aggregate connection unasked .sum (.one column) state
  | aggregate function columns =>
    exact builder.builder_aggregate connection unasked function columns state
  | execute | insertGetId | fetchRow | fetchRows | fetchFirstColumn | fetchValue | fetchObject
  | fetchObjects | fetchColumnListing => rfl

/-- Run some calls one after the other, each on the builder that the last one gave back. -/
def runAll (connection : Connection σ) : List (Terminal α) → Builder → σ →
    List (Except Fault (Answer α)) × Builder × σ
  | [], builder, state => ([], builder, state)
  | terminal :: rest, builder, state =>
    let (result, builder, state) := terminal.run connection builder state
    let (results, builder, state) := runAll connection rest builder state
    (result :: results, builder, state)

theorem builder_runAll (unasked : builder.aggregate? = none) (terminals : List (Terminal α))
    (state : σ) : (runAll connection terminals builder state).2.1 = builder := by
  induction terminals generalizing state with
  | nil => rfl
  | cons terminal rest inductionHypothesis =>
    change (runAll connection rest (terminal.run connection builder state).2.1
      (terminal.run connection builder state).2.2).2.1 = builder
    rw [builder_run connection unasked terminal state]
    exact inductionHypothesis _

end Terminal

namespace Builder

/-- No builder asks for an aggregate between calls. -/
theorem Reachable.aggregate?_eq_none {builder : Builder} (reached : builder.Reachable) :
    builder.aggregate? = none := by
  induction reached with
  | fresh fresh => cases fresh <;> rfl
  | call _ call inductionHypothesis => exact (call.aggregate?_run _).trans inductionHypothesis
  | terminal _ connection terminal state inductionHypothesis =>
    rw [terminal.builder_run connection inductionHypothesis state]
    exact inductionHypothesis
  | nested => rfl
  | group _ connector _ inductionHypothesis =>
    exact (keeps_group Builder.aggregate? (fun _ _ _ _ => rfl) connector _ _).trans
      inductionHypothesis

end Builder

namespace Terminal

variable {σ α : Type} {builder : Builder}

/-- Any run of terminals, whatever the connection answers to each, gives back the whole
builder, so that neither its statements nor its values change. -/
theorem runAll_gives_back (reached : builder.Reachable) (connection : Connection σ)
    (terminals : List (Terminal α)) (state : σ) :
    let after := (runAll connection terminals builder state).2.1
    after = builder ∧ (∀ dialect, after.query.sql dialect = builder.query.sql dialect) ∧
      after.bindings = builder.bindings ∧ after.executionBindings = builder.executionBindings := by
  have same : (runAll connection terminals builder state).2.1 = builder :=
    builder_runAll connection reached.aggregate?_eq_none terminals state
  simp [same]

/-- A maximum that the connection refuses, a row without the key column, a count of nothing
and pairs, on a builder with columns and a value in the select bucket. -/
theorem runAll_gives_back_refused :
    let builder := Call.runAll [.select (.many ["name", "age"]), .distinct,
      .addBindings (.one (.text "x")) "select", .null .and "left_at" true]
      (Builder.table .mysql "users")
    let script := Script.start [.error "gone", .ok [.ofList [("name", .text "ann")]], .ok []] [] []
    let terminals : List Terminal := [.aggregate .max (.one "age"), .fetchKeyed "id",
      .count .none, .fetchPairs "id" "name"]
    let after := (runAll (Script.connection .mysql) terminals builder script).2.1
    builder.Reachable ∧ after = builder ∧
      (∀ dialect, after.query.sql dialect = builder.query.sql dialect) ∧
      after.bindings = builder.bindings ∧ after.executionBindings = builder.executionBindings :=
  have reached := (Builder.Reachable.fresh (.table .mysql "users")).runAll _
  ⟨reached, runAll_gives_back reached _ _ _⟩

end Terminal

end FluentSql
