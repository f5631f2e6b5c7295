import FluentSql.Proofs.Reachable
import FluentSql.Proofs.Sending
import FluentSql.Session.Script

/-!
# What aggregates send

An aggregate is fetched by the statement of its builder, with the aggregate in place of the
columns. Only a select has columns, so only on a select does the statement ask for the
aggregate (`Terminal.aggregate_selects_iff`). A builder of another kind has its insert,
update or delete sent as it is, and the answer is read as an aggregate
(`Terminal.count_sends_delete`).
-/

namespace FluentSql

open Sql Fragment

/-- A statement asks for an aggregate. -/
def AggregateFunction.Selects (function : AggregateFunction) (sql : List Char) : Prop :=
  "select ".toList ++ function.name.toList ++ ['('] <+: sql ∧ ") as aggregate".toList <:+: sql

theorem Fragment.prefix_text_fixed {word : List Char} {content : String}
    (begins : word <+: content.toList) (rest : Fragment) :
    word <+: (fixed content ++ rest).text := by
  rw [text_append, text_fixed]
  exact begins.trans (List.prefix_append _ _)

namespace Query

variable {dialect : Dialect} {query : Query} {statement : Fragment}

/-- A statement begins with the keyword of its kind. -/
theorem keyword_prefix_of_compile (compiled : query.compile dialect = .ok statement) :
    query.kind.keyword.toList ++ [' '] <+: statement.text := by
  cases compile_eq_ok_iff.mp compiled with
  | select isSelect =>
    rw [isSelect, Sql.select]
    split
    · rw [aggregateHead]
      simp only [List.append_assoc]
      exact prefix_text_fixed (by decide) _
    · rw [selectHead, List.append_assoc]
      split
      · exact prefix_text_fixed (by decide) _
      · exact prefix_text_fixed (by decide) _
  | insert isInsert =>
    rw [isInsert, Sql.insert]
    simp only [List.append_assoc]
    exact prefix_text_fixed (by decide) _
  | update isUpdate =>
    rw [isUpdate, Sql.update]
    simp only [List.append_assoc]
    exact prefix_text_fixed (by decide) _
  | delete isDelete =>
    rw [isDelete, Sql.delete]
    split
    · simp only [List.append_assoc]
      exact prefix_text_fixed (by decide) _
    · simp only [List.append_assoc]
      exact prefix_text_fixed (by decide) _

/-- A select asks for the aggregate that stands in place of its columns. -/
theorem selects_of_compile (isSelect : query.kind = .select) {aggregate : Aggregate}
    (asked : query.aggregate? = some aggregate)
    (compiled : query.compile dialect = .ok statement) :
    aggregate.function.Selects statement.text := by
  cases compile_eq_ok_iff.mp compiled with
  | select =>
    rw [Sql.select, asked, text_append]
    constructor
    · simp only [aggregateHead, text_append, text_fixed, List.append_assoc]
      exact (List.prefix_append_right_inj _).mpr
        ((List.prefix_append_right_inj _).mpr (List.prefix_append ['('] _))
    · simp only [aggregateHead]
      rw [text_append, text_fixed]
      exact ⟨_, _, rfl⟩
  | insert isInsert => simp [isSelect] at isInsert
  | update isUpdate => simp [isSelect] at isUpdate
  | delete isDelete => simp [isSelect] at isDelete

end Query

/-- A statement with an aggregate begins with the keyword of its kind, and it asks for the
aggregate exactly if it is a select. -/
theorem Builder.selects_iff_of_sql {builder : Builder} {aggregate : Aggregate}
    (asked : builder.query.aggregate? = some aggregate) {text : String}
    (written : builder.sql = .ok text) :
    builder.query.kind.keyword.toList ++ [' '] <+: text.toList ∧
      (aggregate.function.Selects text.toList ↔ builder.query.kind = .select) := by
  unfold sql Query.sql at written
  split at written
  · rename_i statement compiled
    obtain rfl := Except.ok.inj written
    rw [String.toList_ofList]
    have keyword := Query.keyword_prefix_of_compile compiled
    refine ⟨keyword, fun selects => ?_, fun isSelect =>
      Query.selects_of_compile isSelect asked compiled⟩
    have starts : "select ".toList <+: statement.text := by
      refine List.IsPrefix.trans ?_ selects.1
      rw [List.append_assoc]
      exact List.prefix_append _ _
    -- two words at the same place, of which one would have to begin the other
    have nested := List.prefix_or_prefix_of_prefix keyword starts
    cases kind : builder.query.kind with
    | select => rfl
    | insert | update | delete =>
      rw [kind] at nested
      exact absurd nested (by decide)
  · cases written

namespace Terminal

open Builder

variable {α : Type}

/-- The aggregate function that a call fetches. A minimum, a maximum and an average are
aggregates of one column. -/
def function? : Terminal α → Option AggregateFunction
  | .count _ => some .count
  | .sum _ => some .sum
  | .aggregate function _ => some function
  | _ => none

variable {terminal : Terminal α} {function : AggregateFunction} {builder : Builder}

/-- An aggregate asks for one row, with the function in place of the columns. -/
theorem message?_of_function? (fetches : terminal.function? = some function)
    (builder : Builder) : ∃ columns,
      terminal.message? builder = (builder.asking ⟨function, columns⟩).fetched? .fetchRow := by
  cases terminal with
  | count columns =>
    cases fetches
    exact ⟨_, rfl⟩
  | sum column =>
    cases fetches
    exact ⟨_, rfl⟩
  | aggregate other columns =>
    cases fetches
    exact ⟨_, rfl⟩
  | _ => cases fetches

variable {σ : Type}

/-- An aggregate sends at most one statement, which asks for one row. It asks for the
aggregate exactly on a select, and on any other builder it is the builder's own statement. -/
theorem aggregate_selects_iff (fetches : terminal.function? = some function)
    (connection : Connection σ) (builder : Builder) (state : σ) :
    (terminal.transcript connection builder state).length ≤ 1 ∧
      ∀ turn ∈ terminal.transcript connection builder state, ∃ text values,
        turn.message = .fetchRow text values ∧
        builder.query.kind.keyword.toList ++ [' '] <+: text.toList ∧
        (function.Selects text.toList ↔ builder.query.kind = .select) := by
  obtain ⟨columns, asks⟩ := message?_of_function? fetches builder
  rw [transcript_eq, asks, fetched?]
  cases written : (builder.asking ⟨function, columns⟩).sql with
  | ok text =>
    refine ⟨Nat.le_refl 1, fun turn member => ?_⟩
    obtain rfl := List.mem_singleton.mp member
    have asked : (builder.asking ⟨function, columns⟩).query.aggregate? =
        some ⟨function, columns⟩ := rfl
    exact ⟨text, _, rfl, selects_iff_of_sql asked written⟩
  | error fault =>
    refine ⟨Nat.zero_le 1, fun turn member => ?_⟩
    cases member

/-- The rows with an id, counted without duplicates, over a connection that has one row. -/
theorem aggregate_selects_iff_distinct :
    let builder := (Builder.table .mysql "users").distinct.compare .and "id" .equal (.bool true)
    let script := Script.start [.ok [.ofList [("aggregate", .bool true)]]] [] []
    let terminal : Terminal := .count (.one "id")
    let transcript := terminal.transcript (Script.connection .mysql) builder script
    terminal.function? = some .count ∧ transcript.length ≤ 1 ∧
      ∀ turn ∈ transcript, ∃ text values, turn.message = .fetchRow text values ∧
        builder.query.kind.keyword.toList ++ [' '] <+: text.toList ∧
        (AggregateFunction.count.Selects text.toList ↔ builder.query.kind = .select) :=
  ⟨rfl, aggregate_selects_iff rfl _ _ _⟩

/-- Rows counted on a builder that deletes are deleted. -/
theorem count_sends_delete :
    let builder := Call.runAll [.deleteId (.integer (.int32 7))] (Builder.table .sqlite "users")
    let text := "delete from `users` where `id` = ?"
    let terminal : Terminal := .count (.one "*")
    builder.Reachable ∧
      terminal.transcript (Script.connection .sqlite) builder (Script.start [.ok []] [] []) =
        [⟨.fetchRow text [.integer (.int32 7)], true⟩] ∧
      ¬ AggregateFunction.count.Selects text.toList := by
  refine ⟨(Builder.Reachable.fresh (.table .sqlite "users")).runAll _, ?_, ?_⟩
  · decide +kernel
  · exact fun selects => absurd selects.1 (by decide)

end Terminal

end FluentSql
