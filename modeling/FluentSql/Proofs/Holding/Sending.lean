import FluentSql.Proofs.Holding.Program
import FluentSql.Proofs.Sending
import FluentSql.Session.Script

/-!
# What alike builders write and send

Builders that are alike write and bind the same, and every call that ends a query sends the
same from both, but for a fetch by a key column, which looks at how a select list is held. So
programs that differ at most in how the items of their arguments are held cannot be told
apart (`Call.indistinct_of_allCompact_eq`).
-/

namespace FluentSql

namespace Builder

variable {left right : Builder}

theorem sql_alike (alike : left.compact = right.compact) (dialect : Dialect) :
    left.query.sql dialect = right.query.sql dialect := by
  calc left.query.sql dialect
      = left.compact.query.sql dialect := (left.query.sql_compact dialect).symm
    _ = right.compact.query.sql dialect := congrArg (fun builder => builder.query.sql dialect) alike
    _ = right.query.sql dialect := right.query.sql_compact dialect

theorem bindings_alike (alike : left.compact = right.compact) : left.bindings = right.bindings := by
  calc left.bindings
      = left.compact.bindings := left.query.bindings_compact.symm
    _ = right.compact.bindings := congrArg bindings alike
    _ = right.bindings := right.query.bindings_compact

theorem executionBindings_alike (alike : left.compact = right.compact) :
    left.executionBindings = right.executionBindings := by
  calc left.executionBindings
      = left.compact.executionBindings := left.query.executionBindings_compact.symm
    _ = right.compact.executionBindings := congrArg executionBindings alike
    _ = right.executionBindings := right.query.executionBindings_compact

theorem own_sql_alike (alike : left.compact = right.compact) : left.sql = right.sql := by
  have dialect : left.dialect = right.dialect := congrArg (fun builder => builder.dialect) alike
  rw [sql, sql, dialect, sql_alike alike]

theorem fetched?_alike (alike : left.compact = right.compact)
    (ask : String → List Bind → Message) : left.fetched? ask = right.fetched? ask := by
  rw [fetched?, fetched?, own_sql_alike alike, bindings_alike alike]

theorem executed?_alike (alike : left.compact = right.compact) :
    left.executed? = right.executed? := by
  have kind : left.query.kind = right.query.kind :=
    congrArg (fun builder => builder.query.kind) alike
  rw [executed?, executed?, kind, own_sql_alike alike, executionBindings_alike alike]

end Builder

namespace Columns

/-- With a column, whether columns mean all columns is decided by the first one. -/
theorem isWildcard_eq {columns : Columns} (nonempty : columns.toList ≠ []) :
    columns.isWildcard = columns.toList.head?.any Reference.isWildcard := by
  cases columns with
  | none => exact absurd rfl nonempty
  | one column => rfl
  | many columns => rfl

end Columns

namespace Builder

theorem toList_aggregateColumns (columns : Columns) :
    (aggregateColumns columns).toList =
      if columns.toList.isEmpty then ["*"] else columns.toList := by
  unfold aggregateColumns
  rw [Items.isEmpty_eq]
  split <;> rfl

theorem aggregateColumns_ne_nil (columns : Columns) : (aggregateColumns columns).toList ≠ [] := by
  rw [toList_aggregateColumns]
  split
  · simp
  · rename_i nonempty
    exact fun nil => nonempty (List.isEmpty_iff.mpr nil)

/-- The words of an aggregate do not tell how its columns are held. -/
theorem aggregateHead_compact (dialect : Dialect) (query : Query) (function : AggregateFunction)
    (columns : Columns) :
    Sql.aggregateHead dialect query ⟨function, aggregateColumns columns⟩ =
      Sql.aggregateHead dialect query ⟨function, aggregateColumns columns.compact⟩ := by
  have same : (aggregateColumns columns).toList = (aggregateColumns columns.compact).toList := by
    rw [toList_aggregateColumns, toList_aggregateColumns, Items.toList_compact]
  -- an aggregate has a column, so the one case where the shape decides does not come up
  have wildcard : (aggregateColumns columns).isWildcard =
      (aggregateColumns columns.compact).isWildcard := by
    rw [Columns.isWildcard_eq (aggregateColumns_ne_nil columns),
      Columns.isWildcard_eq (aggregateColumns_ne_nil columns.compact), same]
  simp only [Sql.aggregateHead, Items.size_eq, wildcard, same]

theorem sql_asking (builder : Builder) (function : AggregateFunction) (columns : Columns) :
    (builder.asking ⟨function, aggregateColumns columns⟩).sql =
      (builder.asking ⟨function, aggregateColumns columns.compact⟩).sql := by
  have select : ∀ dialect, Sql.select dialect
        (builder.asking ⟨function, aggregateColumns columns⟩).query =
      Sql.select dialect (builder.asking ⟨function, aggregateColumns columns.compact⟩).query :=
    fun dialect => congrArg (· ++ Sql.selectTail dialect (builder.asking _).query)
      (aggregateHead_compact dialect _ function columns)
  have compiled : ∀ dialect,
      (builder.asking ⟨function, aggregateColumns columns⟩).query.compile dialect =
      (builder.asking ⟨function, aggregateColumns columns.compact⟩).query.compile dialect := by
    intro dialect
    simp only [Query.compile, select]
    rfl
  simp only [sql, Query.sql, compiled]
  rfl

theorem asking_alike {left right : Builder} (alike : left.compact = right.compact)
    (function : AggregateFunction) (columns : Columns) :
    (left.asking ⟨function, aggregateColumns columns⟩).fetched? .fetchRow =
      (right.asking ⟨function, aggregateColumns columns.compact⟩).fetched? .fetchRow := by
  have asked : ∀ aggregate, (left.asking aggregate).compact = (right.asking aggregate).compact := by
    intro aggregate
    refine alike_modify
      (fun query => { query with
        columns := .none
        buckets := query.buckets.set .select .none
        aggregate? := some aggregate })
      (fun query => ?_) (fun query => ?_) alike
    · simp only [Query.compact, Buckets.clear, Buckets.compact_set]
      rfl
    · simp only [Query.compact, Buckets.clear, Buckets.compact_set]
      rfl
  rw [fetched?_alike (asked _), fetched?, fetched?, sql_asking]
  rfl

end Builder

namespace Terminal

open Builder

variable {α : Type}

/-- A call that ends a query with its columns held in the smallest way. -/
def compact : Terminal α → Terminal α
  | .count columns => .count columns.compact
  | .aggregate function columns => .aggregate function columns.compact
  | terminal => terminal

/-- The calls that do not fetch by a key column. -/
def Keyless : Terminal α → Prop
  | .fetchKeyed _ => False
  | _ => True

theorem keyless_compact {terminal : Terminal α} : terminal.compact.Keyless ↔ terminal.Keyless := by
  cases terminal <;> exact Iff.rfl

/-- A call sends the same from alike builders, however its columns are held. -/
theorem message?_alike {left right : Builder} (alike : left.compact = right.compact)
    {terminal : Terminal α} (keyless : terminal.Keyless) :
    terminal.message? left = terminal.compact.message? right := by
  cases terminal with
  | execute | insertGetId => exact executed?_alike alike
  | fetchRow | fetchRows | fetchFirstColumn | fetchValue | fetchObject | fetchObjects =>
    exact fetched?_alike alike _
  | fetchKeyed key => exact absurd keyless id
  | fetchPairs key value =>
    have replaced : (left.withColumns (.many [key, value])).compact =
        (right.withColumns (.many [key, value])).compact :=
      alike_modify_of_blind (fun _ => rfl) alike
    exact fetched?_alike replaced .fetchRows
  | count columns => exact asking_alike alike .count columns
  | sum column => exact asking_alike alike .sum (.one column)
  | aggregate function columns => exact asking_alike alike function columns
  | fetchColumnListing =>
    exact congrArg (fun builder : Builder => builder.columnListing.toOption.map fun listing =>
      Message.fetchRows listing.1 listing.2) alike

end Terminal

/-- Two builders that nothing tells apart: not what they write or bind, and not what any call
but a fetch by a key column sends to a connection, aggregates included. -/
structure Builder.Indistinct (left right : Builder) : Prop where
  sql : ∀ dialect, left.query.sql dialect = right.query.sql dialect
  bindings : left.bindings = right.bindings
  executionBindings : left.executionBindings = right.executionBindings
  sends : ∀ {α : Type} {terminal twin : Terminal α}, terminal.compact = twin.compact →
    terminal.Keyless → ∀ {σ : Type} (connection : Connection σ) (state : σ),
      terminal.transcript connection left state = twin.transcript connection right state

theorem Builder.indistinct_of_alike {left right : Builder} (alike : left.compact = right.compact) :
    left.Indistinct right where
  sql := sql_alike alike
  bindings := bindings_alike alike
  executionBindings := executionBindings_alike alike
  sends := by
    intro α terminal twin same keyless σ connection state
    have twinKeyless : twin.Keyless := by
      rw [← Terminal.keyless_compact, ← same, Terminal.keyless_compact]
      exact keyless
    have messages : terminal.message? left = twin.message? right := by
      rw [Terminal.message?_alike alike keyless, same, ← Terminal.message?_alike rfl twinKeyless]
    rw [Terminal.transcript_eq, Terminal.transcript_eq, messages]

namespace Call

universe u

/-- How items are held is not observable. Edits of items are the edits of their list, and
programs that differ at most in how the items of their arguments are held end at builders
that nothing tells apart. -/
theorem indistinct_of_allCompact_eq {α : Type u} (edits : List (Items.Edit α)) (items : Items α)
    {calls twins : List Call} (same : allCompact calls = allCompact twins) (builder : Builder) :
    Items.Follows (Items.Edit.runAll edits items) (Items.Edit.runListAll edits items.toList) ∧
      (runAll calls builder).Indistinct (runAll twins builder) := by
  refine ⟨Items.follows_runAll edits items, Builder.indistinct_of_alike ?_⟩
  calc (runAll calls builder).compact
      = (runAll (allCompact calls) builder).compact := alike_runAll calls rfl
    _ = (runAll (allCompact twins) builder).compact := by rw [same]
    _ = (runAll twins builder).compact := (alike_runAll twins rfl).symm

/-- One column as one and as many, no value as none and as many, in a join and in a group. -/
theorem indistinct_of_allCompact_eq_nested :
    let edits := [Items.Edit.append (.one "b"), .take, .append (.many []), .push "c", .reconvert]
    let items := Items.many ["a"]
    let calls : List Call := [.select (.one "name"), .distinct,
      .joinWith .left "posts" [.among .and "posts.kind" (.one (.text "note")) false],
      .group .or [.among .and "id" .none true, .groupBy (.many ["age"])]]
    let twins : List Call := [.select (.many ["name"]), .distinct,
      .joinWith .left "posts" [.among .and "posts.kind" (.many [.text "note"]) false],
      .group .or [.among .and "id" (.many []) true, .groupBy (.one "age")]]
    let builder := Builder.table .mysql "users"
    allCompact calls = allCompact twins ∧
      Items.Follows (Items.Edit.runAll edits items) (Items.Edit.runListAll edits items.toList) ∧
      (runAll calls builder).Indistinct (runAll twins builder) := by
  intro edits items calls twins builder
  have same : allCompact calls = allCompact twins := rfl
  exact ⟨same, indistinct_of_allCompact_eq edits items same builder⟩

/-- A fetch by a key column does tell. No columns held as `many` do not show the key. -/
example : Builder.shows (.many []) "id" = false ∧ Builder.shows .none "id" = true := by
  decide

end Call

end FluentSql
