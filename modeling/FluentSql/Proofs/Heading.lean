import FluentSql.Proofs.Holding.Sending
import FluentSql.Proofs.Restoration

/-!
# What begins a select

A select is a head followed by what does not depend on it: the table, the joins, the conditions
and all that comes behind them (`selectTail`). A plain select has its columns as a head, a select
that asks for an aggregate has the function of its columns. Whether a select can be written is
not asked of the head. So the statement of an aggregate is the plain statement of the builder
with another head, and the values of the old head are left out of it
(`Terminal.aggregate_reheads`).
-/

namespace FluentSql

open Sql Fragment

/-! ## Heads -/

/-- At most one column that means all columns is a single `*`. -/
theorem Columns.isSingleWildcard_iff {columns : Columns} (nonempty : columns.toList ≠ []) :
    (columns.size ≤ 1 && columns.isWildcard) = true ↔ columns.toList = ["*"] := by
  rw [Columns.isWildcard_eq nonempty, Items.size_eq, Bool.and_eq_true, decide_eq_true_iff]
  obtain ⟨first, rest, held⟩ := List.exists_cons_of_ne_nil nonempty
  rw [held, List.head?_cons, Option.any_some, Reference.isWildcard, decide_eq_true_iff]
  constructor
  · rintro ⟨short, rfl⟩
    have alone : rest = [] := by simpa using short
    rw [alone]
  · intro single
    obtain ⟨rfl, rfl⟩ := List.cons_eq_cons.mp single
    exact ⟨Nat.le_refl 1, rfl⟩

namespace Sql

/-- A plain select of some columns, up to the end of its select list. -/
def plainHead (dialect : Dialect) (distinct : Bool) (columns : List Reference) : Fragment :=
  fixed "select " ++ (if distinct then fixed "distinct " else []) ++ selectList dialect columns

/-- A select for a function of some columns, up to the end of what stands in place of a select
list. The columns are told apart if rows are, but for the single `*`. -/
def functionHead (dialect : Dialect) (distinct : Bool) (function : AggregateFunction)
    (columns : List Reference) : Fragment :=
  fixed "select " ++ fixed function.name ++ fixed "(" ++
    (if distinct = true ∧ columns ≠ ["*"] then fixed "distinct " else []) ++
    columnList dialect columns ++ fixed ") as aggregate"

variable (dialect : Dialect) {query : Query}

theorem text_selectHead (query : Query) : (selectHead dialect query).text =
    (plainHead dialect query.distinct query.columns.toList).text := by
  have words : "select distinct ".toList = "select ".toList ++ "distinct ".toList := by decide
  rw [selectHead, plainHead, text_append, text_append, text_append, text_fixed, text_fixed]
  by_cases distinct : query.distinct = true
  · rw [if_pos distinct, if_pos distinct, words, text_fixed]
  · rw [if_neg distinct, if_neg distinct, text_nil, List.append_nil]

theorem aggregateHead_eq_functionHead {aggregate : Aggregate}
    (nonempty : aggregate.columns.toList ≠ []) (query : Query) :
    aggregateHead dialect query aggregate =
      functionHead dialect query.distinct aggregate.function aggregate.columns.toList := by
  have told : (query.distinct && !(aggregate.columns.size ≤ 1 &&
      Columns.isWildcard aggregate.columns)) = true ↔
      query.distinct = true ∧ aggregate.columns.toList ≠ ["*"] := by
    rw [Bool.and_eq_true, Bool.not_eq_true', ← Bool.not_eq_true,
      Columns.isSingleWildcard_iff nonempty]
  simp only [aggregateHead, functionHead, told]

/-- A select is its head and its tail. -/
theorem text_select_plain (plain : query.aggregate? = none) :
    (select dialect query).text =
      (plainHead dialect query.distinct query.columns.toList).text ++
        (selectTail dialect query).text := by
  rw [select, plain, text_append, text_selectHead]

theorem text_select_aggregate {aggregate : Aggregate} (asked : query.aggregate? = some aggregate)
    (nonempty : aggregate.columns.toList ≠ []) :
    (select dialect query).text =
      (functionHead dialect query.distinct aggregate.function aggregate.columns.toList).text ++
        (selectTail dialect query).text := by
  rw [select, asked, text_append, ← aggregateHead_eq_functionHead dialect nonempty query]

end Sql

/-! ## Selects with another head -/

namespace Query

variable {query : Query} (isSelect : query.kind = .select)

include isSelect

/-- A select is written unless one of its operators cannot be. -/
theorem sql_eq_map_of_select (dialect : Dialect) :
    query.sql dialect =
      query.checkOperators.map fun _ => String.ofList (select dialect query).text := by
  unfold sql compile
  rw [isSelect]
  cases query.checkOperators <;> rfl

theorem sql_eq_ok_iff_of_select {dialect : Dialect} {text : String} :
    query.sql dialect = .ok text ↔
      query.checkOperators = .ok () ∧ text.toList = (select dialect query).text := by
  rw [sql_eq_map_of_select isSelect, Exchange.map_eq_ok_iff]
  constructor
  · rintro ⟨⟨⟩, writable, rfl⟩
    exact ⟨writable, String.toList_ofList⟩
  · rintro ⟨writable, same⟩
    exact ⟨(), writable, String.toList_injective (String.toList_ofList.trans same.symm)⟩

theorem sql_eq_error_iff_of_select {dialect : Dialect} {fault : Fault} :
    query.sql dialect = .error fault ↔ query.checkOperators = .error fault := by
  rw [sql_eq_map_of_select isSelect, Exchange.map_eq_error_iff]

end Query

/-- The values of the other buckets stand behind those of the select bucket. -/
theorem Buckets.flatten_clear_select (buckets : Buckets) :
    buckets.flatten = (buckets.get .select).toList ++ (buckets.clear .select).flatten := by
  simp [flatten, Bucket.all, clear, set, get]

namespace Builder

variable {builder : Builder} (isSelect : builder.query.kind = .select) {plain : String}
  (written : builder.sql = .ok plain)

include isSelect written

/-- What is behind the head of a written select is also behind any other. -/
theorem sql_withColumns (unasked : builder.aggregate? = none) (columns : Columns) :
    ∃ text, (builder.withColumns columns).sql = .ok text ∧
      text.toList =
        (plainHead builder.dialect builder.query.distinct columns.toList).text ++
          (selectTail builder.dialect builder.query).text := by
  have writable := ((Query.sql_eq_ok_iff_of_select isSelect).mp written).1
  have plain : (builder.withColumns columns).query.aggregate? = none := unasked
  have isSelectToo : (builder.withColumns columns).query.kind = .select := isSelect
  refine ⟨_, (Query.sql_eq_ok_iff_of_select isSelectToo).mpr ⟨writable, String.toList_ofList⟩, ?_⟩
  rw [String.toList_ofList]
  exact text_select_plain builder.dialect plain

theorem sql_asking_of_written (aggregate : Aggregate)
    (nonempty : aggregate.columns.toList ≠ []) :
    ∃ text, (builder.asking aggregate).sql = .ok text ∧
      text.toList = (functionHead builder.dialect builder.query.distinct aggregate.function
        aggregate.columns.toList).text ++ (selectTail builder.dialect builder.query).text := by
  have writable := ((Query.sql_eq_ok_iff_of_select isSelect).mp written).1
  have asked : (builder.asking aggregate).query.aggregate? = some aggregate := rfl
  have isSelectToo : (builder.asking aggregate).query.kind = .select := isSelect
  refine ⟨_, (Query.sql_eq_ok_iff_of_select isSelectToo).mpr ⟨writable, String.toList_ofList⟩, ?_⟩
  rw [String.toList_ofList]
  exact text_select_aggregate builder.dialect asked nonempty

end Builder

/-! ## Aggregates -/

namespace Terminal

open Builder

variable {α : Type}

/-- What a call asks for in place of a select list, with the columns as they were given. -/
def aggregate? : Terminal α → Option Aggregate
  | .count columns => some ⟨.count, columns⟩
  | .sum column => some ⟨.sum, .one column⟩
  | .aggregate function columns => some ⟨function, columns⟩
  | _ => none

variable {terminal : Terminal α} {aggregate : Aggregate} {builder : Builder}

theorem message?_of_aggregate? (asks : terminal.aggregate? = some aggregate) (builder : Builder) :
    terminal.message? builder =
      (builder.asking ⟨aggregate.function, aggregateColumns aggregate.columns⟩).fetched?
        .fetchRow := by
  cases terminal with
  | count columns =>
    cases asks
    rfl
  | sum column =>
    cases asks
    rfl
  | aggregate function columns =>
    cases asks
    rfl
  | _ => cases asks

/-- A statement for an aggregate has the head of the aggregate where the plain statement of the
builder has its own, and its values are those of the builder but for the select bucket. -/
structure Reheads (builder : Builder) (aggregate : Aggregate) (plain text : String)
    (values : List Bind) : Prop where
  plain : plain.toList =
    (plainHead builder.dialect builder.query.distinct builder.query.columns.toList).text ++
      (selectTail builder.dialect builder.query).text
  /-- No columns count as `*`. -/
  asked : text.toList =
    (functionHead builder.dialect builder.query.distinct aggregate.function
      (if aggregate.columns.toList = [] then ["*"] else aggregate.columns.toList)).text ++
      (selectTail builder.dialect builder.query).text
  values : builder.bindings = (builder.query.buckets.get .select).toList ++ values

variable {σ : Type}

/-- The one statement that an aggregate on a select sends is the plain statement with another
head, with the values that the plain statement has behind its head. -/
theorem aggregate_reheads (reached : builder.Reachable) (isSelect : builder.query.kind = .select)
    {plain : String} (written : builder.sql = .ok plain)
    (asks : terminal.aggregate? = some aggregate) (connection : Connection σ) (state : σ) :
    ∃ text values, Reheads builder aggregate plain text values ∧
      (terminal.transcript connection builder state).map Turn.message =
        [.fetchRow text values] := by
  have held : (aggregateColumns aggregate.columns).toList =
      if aggregate.columns.toList = [] then ["*"] else aggregate.columns.toList := by
    simp only [toList_aggregateColumns, List.isEmpty_iff]
  obtain ⟨text, asked, sameText⟩ := sql_asking_of_written isSelect written
    ⟨aggregate.function, aggregateColumns aggregate.columns⟩
    (aggregateColumns_ne_nil aggregate.columns)
  rw [held] at sameText
  refine ⟨text, (builder.query.buckets.clear .select).flatten, ⟨?_, sameText,
    builder.query.buckets.flatten_clear_select⟩, ?_⟩
  · rw [((Query.sql_eq_ok_iff_of_select isSelect).mp written).2,
      text_select_plain builder.dialect reached.aggregate?_eq_none]
  · rw [transcript_eq, message?_of_aggregate? asks, fetched?, asked]
    rfl

/-- Columns counted on a builder that tells rows apart, with a value in its select bucket, a
condition and a limit. -/
theorem aggregate_reheads_distinct :
    let builder := Call.runAll [.select (.one "a"), .distinct,
      .addBindings (.one (.text "x")) "select", .compare .and "c" .less (.int64 9), .limit 2]
      (Builder.table .mysql "t")
    let plain := "select distinct `a` from `t` where `c` < ? limit 2"
    let text := "select count(distinct `a`, `b`) as aggregate from `t` where `c` < ? limit 2"
    let terminal : Terminal := .count (.many ["a", "b"])
    let transcript := terminal.transcript (Script.connection .mysql) builder (Script.start [] [] [])
    builder.Reachable ∧ builder.query.kind = .select ∧ builder.sql = .ok plain ∧
      terminal.aggregate? = some ⟨.count, .many ["a", "b"]⟩ ∧
      Reheads builder ⟨.count, .many ["a", "b"]⟩ plain text [.int64 9] ∧
      transcript.map Turn.message = [.fetchRow text [.int64 9]] := by
  intro builder plain text terminal transcript
  have reached : builder.Reachable := (Builder.Reachable.fresh (.table .mysql "t")).runAll _
  have isSelect : builder.query.kind = .select := by decide +kernel
  have written : builder.sql = .ok plain :=
    (Query.sql_eq_ok_iff_of_select isSelect).mpr ⟨rfl, by decide +kernel⟩
  have sent : transcript.map Turn.message = [.fetchRow text [.int64 9]] := by decide +kernel
  obtain ⟨_, _, reheads, same⟩ := aggregate_reheads reached isSelect written
    (rfl : terminal.aggregate? = _) (Script.connection .mysql) (Script.start [] [] [])
  obtain ⟨rfl, rfl⟩ := Message.fetchRow.inj (List.cons.inj (sent.symm.trans same)).1
  exact ⟨reached, isSelect, written, rfl, reheads, sent⟩

end Terminal

end FluentSql
