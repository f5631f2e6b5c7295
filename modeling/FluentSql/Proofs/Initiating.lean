import FluentSql.Proofs.Draft

/-!
# Calls of another kind

A call that starts a statement of another kind than the one a builder has chosen leaves the
kind alone and still does the rest of its work: a select replaces the columns, an insert adds
rows, an update or a single assignment changes the assignments. A statement reads none of
these unless it is of that kind, so it stays as it is. But the values of added rows are bound,
behind all others, so they are sent with a statement that has no placeholder for them
(`Call.run_of_other_kind`).
-/

namespace FluentSql

/-- Columns are read by a select only, rows by an insert, assignments by an update, and bound
values by none. -/
theorem Query.sql_replace {query : Query} {columns : Columns} {rows : List Row} {updates : Row}
    (select : query.kind = .select → columns = query.columns)
    (insert : query.kind = .insert → rows = query.rows)
    (update : query.kind = .update → updates = query.updates) (buckets : Buckets)
    (dialect : Dialect) :
    ({ query with columns, rows, updates, buckets } : Query).sql dialect = query.sql dialect := by
  have same : ({ query with columns, rows, updates, buckets } : Query).kind = query.kind := rfl
  have compiled : ({ query with columns, rows, updates, buckets } : Query).compile dialect =
      query.compile dialect := by
    unfold compile
    rw [same]
    cases chosen : query.kind with
    | select =>
      obtain rfl := select chosen
      rfl
    | insert =>
      obtain rfl := insert chosen
      rfl
    | update =>
      obtain rfl := update chosen
      rfl
    | delete => rfl
  rw [sql, sql, compiled]

namespace Builder

/-- A later builder writes the same statements, of the same kind, and binds some values more,
behind those of the earlier one. -/
structure StillWrites (before after : Builder) (more : List Bind) : Prop where
  kind? : after.query.kind? = before.query.kind?
  sql : ∀ dialect, after.query.sql dialect = before.query.sql dialect
  bindings : after.bindings = before.bindings ++ more
  executionBindings : after.executionBindings = before.executionBindings ++ more

namespace StillWrites

variable {before between after : Builder} {some more : List Bind}

theorem refl (builder : Builder) : builder.StillWrites builder [] where
  kind? := rfl
  sql := fun _ => rfl
  bindings := (List.append_nil _).symm
  executionBindings := (List.append_nil _).symm

theorem trans (first : before.StillWrites between some) (second : between.StillWrites after more) :
    before.StillWrites after (some ++ more) where
  kind? := second.kind?.trans first.kind?
  sql := fun dialect => (second.sql dialect).trans (first.sql dialect)
  bindings := by rw [second.bindings, first.bindings, List.append_assoc]
  executionBindings := by
    rw [second.executionBindings, first.executionBindings, List.append_assoc]

end StillWrites

variable {builder : Builder}

/-- A kind that is chosen stays. -/
theorem initiate_of_chosen {chosen : StatementKind} (fixed : builder.query.kind? = some chosen)
    (kind : StatementKind) : builder.initiate kind = builder := by
  have kept : some (builder.query.kind?.getD kind) = builder.query.kind? := by
    rw [fixed, Option.getD_some]
  exact congrArg (fun kind? => { builder with query := { builder.query with kind? } }) kept

theorem stillWrites_columns (kind : builder.query.kind ≠ .select) (columns : Columns) :
    builder.StillWrites (builder.modify fun query => { query with columns := columns }) [] where
  kind? := rfl
  sql := Query.sql_replace (fun isSelect => absurd isSelect kind) (fun _ => rfl) (fun _ => rfl)
    builder.query.buckets
  bindings := (List.append_nil _).symm
  executionBindings := (List.append_nil _).symm

theorem stillWrites_updates (kind : builder.query.kind ≠ .update) (updates : Row) :
    builder.StillWrites (builder.modify fun query => { query with updates := updates }) [] where
  kind? := rfl
  sql := Query.sql_replace (fun _ => rfl) (fun _ => rfl) (fun isUpdate => absurd isUpdate kind)
    builder.query.buckets
  bindings := (List.append_nil _).symm
  executionBindings := by
    have later : (builder.modify fun query => { query with updates := updates }).query.kind ≠
        .update := kind
    rw [List.append_nil, executionBindings, executionBindings,
      Query.executionBindings_eq_bindings kind, Query.executionBindings_eq_bindings later]
    rfl

theorem bindings_addRow (row : Row) (builder : Builder) :
    (builder.addRow row).bindings = builder.bindings ++ row.values := by
  simp [bindings, Query.bindings, Buckets.flatten, Bucket.all, addRow, modify, Buckets.add,
    Buckets.set, Buckets.get]

/-- The bucket of inserts is the last one, also where assignments are bound in between. -/
theorem executionBindings_addRow (row : Row) (builder : Builder) :
    (builder.addRow row).executionBindings = builder.executionBindings ++ row.values := by
  by_cases isUpdate : builder.query.kind = .update
  · have later : (builder.addRow row).query.kind = .update := isUpdate
    rw [executionBindings, executionBindings, Query.executionBindings_eq_of_update isUpdate,
      Query.executionBindings_eq_of_update later]
    simp [Bucket.all, addRow, modify, Buckets.add, Buckets.set, Buckets.get]
  · have later : (builder.addRow row).query.kind ≠ .update := isUpdate
    rw [executionBindings, executionBindings, Query.executionBindings_eq_bindings isUpdate,
      Query.executionBindings_eq_bindings later]
    exact bindings_addRow row builder

theorem stillWrites_addRow (kind : builder.query.kind ≠ .insert) (row : Row) :
    builder.StillWrites (builder.addRow row) row.values where
  kind? := rfl
  sql := Query.sql_replace (fun _ => rfl) (fun isInsert => absurd isInsert kind) (fun _ => rfl) _
  bindings := bindings_addRow row builder
  executionBindings := executionBindings_addRow row builder

theorem stillWrites_addRows (kind : builder.query.kind ≠ .insert) (rows : List Row) :
    builder.StillWrites (rows.foldl (fun builder row => builder.addRow row) builder)
      (rows.flatMap Dictionary.values) := by
  induction rows generalizing builder with
  | nil => exact .refl builder
  | cons row rest inductionHypothesis =>
    have later : (builder.addRow row).query.kind ≠ .insert := kind
    exact (stillWrites_addRow kind row).trans (inductionHypothesis later)

end Builder

namespace Call

open Builder

variable {builder : Builder} {chosen other : StatementKind}

/-- Another kind is not the kind of a builder that has chosen one. -/
theorem kind_ne_of_chosen (fixed : builder.query.kind? = some chosen) (different : other ≠ chosen) :
    builder.query.kind ≠ other := by
  intro same
  apply different
  rw [← same, Frame.kind, fixed, Option.getD_some]

/-- What a call of another kind changes is not read by the statement of the chosen kind. -/
theorem stillWrites_run (fixed : builder.query.kind? = some chosen) {call : Call}
    (initiates : call.initiates? = some other) (different : other ≠ chosen)
    (unconditional : ∀ id, call ≠ .deleteId id) :
    builder.StillWrites (call.run builder) (call.addedRows.flatMap Dictionary.values) := by
  have kind : builder.query.kind ≠ other := kind_ne_of_chosen fixed different
  have kept : ∀ kind, builder.initiate kind = builder := initiate_of_chosen fixed
  cases call with
  | select columns =>
    cases initiates
    have same : (select columns).run builder =
        builder.modify fun query => { query with columns := columns } := by
      simp only [run, Builder.select, kept]
    rw [same]
    exact stillWrites_columns kind columns
  | insert rows =>
    cases initiates
    have same : (insert rows).run builder =
        rows.foldl (fun builder row => builder.addRow row) builder := by
      simp only [run, Builder.insert, kept]
    rw [same]
    exact stillWrites_addRows kind rows
  | update values =>
    cases initiates
    have same : (update values).run builder =
        builder.modify fun query => { query with updates := values } := by
      simp only [run, Builder.update, kept]
    rw [same]
    exact stillWrites_updates kind values
  | set column value =>
    cases initiates
    have same : (set column value).run builder = builder.modify fun query =>
        { query with updates := builder.query.updates.insert column value } := by
      simp only [run, Builder.set, kept]
      rfl
    rw [same]
    exact stillWrites_updates kind _
  | delete =>
    have same : delete.run builder = builder := kept .delete
    rw [same]
    exact .refl builder
  | deleteId id => exact absurd rfl (unconditional id)
  | _ => cases initiates

/-- A call that starts a statement of another kind than the chosen one, and adds no condition,
changes neither the kind nor the statements of a builder. It binds the values of the rows that
it adds, behind all others; so the values that are sent stay the same if and only if it adds
no row with values. -/
theorem run_of_other_kind (fixed : builder.query.kind? = some chosen) {call : Call}
    (initiates : call.initiates? = some other) (different : other ≠ chosen)
    (unconditional : ∀ id, call ≠ .deleteId id) :
    let after := call.run builder
    builder.StillWrites after (call.addedRows.flatMap Dictionary.values) ∧
      (after.executionBindings = builder.executionBindings ↔
        ∀ row ∈ call.addedRows, row.values = []) := by
  intro after
  have writes := stillWrites_run fixed initiates different unconditional
  refine ⟨writes, ?_⟩
  rw [writes.executionBindings, List.append_right_eq_self, List.flatMap_eq_nil_iff]

/-- A row without values and one with a value, inserted on a builder that updates. -/
theorem run_of_other_kind_rows :
    let builder := runAll [.set "a" (.text "x"), .compare .and "b" .equal (.text "y")]
      (Builder.table .mysql "t")
    let call := Call.insert [.empty, .ofList [("c", .text "z")]]
    let after := call.run builder
    builder.query.kind? = some .update ∧ call.initiates? = some .insert ∧
      builder.StillWrites after (call.addedRows.flatMap Dictionary.values) ∧
      (after.executionBindings = builder.executionBindings ↔
        ∀ row ∈ call.addedRows, row.values = []) := by
  intro builder call after
  have fixed : builder.query.kind? = some .update := by decide +kernel
  have initiates : call.initiates? = some .insert := rfl
  have unconditional : ∀ id, call ≠ .deleteId id := by
    intro id
    simp [call]
  obtain ⟨writes, same⟩ := run_of_other_kind fixed initiates (by decide) unconditional
  exact ⟨fixed, initiates, writes, same⟩

/-- A row inserted on a select is ignored by the statement, and its value is bound. -/
theorem insert_binds_on_select :
    let builder := runAll [.select (.one "*")] (Builder.table .sqlite "t")
    let call := Call.insert [.ofList [("a", .integer (.int32 1))]]
    let after := call.run builder
    builder.query.kind? = some .select ∧ call.initiates? = some .insert ∧
      builder.executionBindings = [] ∧ after.executionBindings = [.integer (.int32 1)] ∧
      ∀ dialect, (after.query.sql dialect).toOption = some "select * from `t`" := by
  intro builder call after
  refine ⟨by decide +kernel, rfl, by decide +kernel, by decide +kernel, fun dialect => ?_⟩
  cases dialect <;> decide +kernel

end Call

end FluentSql
