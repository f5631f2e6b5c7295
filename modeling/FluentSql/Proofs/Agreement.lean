import FluentSql.Proofs.Depth
import FluentSql.Proofs.Provenance
import FluentSql.Proofs.Refusal
import FluentSql.Query.Call

/-!
# Where the dialects agree

The dialects differ in what they make of JSON selectors, of conditions on JSON columns, of
joins in statements that change rows, and of locks. A query is portable if it has none of
the first three. Clause by clause, and through every expression behind a reference, what is
written of a portable query does not depend on the dialect; `Query.sql_mysql_of_portable`
says so of whole statements and faults, with the lock as the one difference left.
-/

namespace FluentSql

/-- Whether a condition asks about a JSON column. -/
def Condition.isJson : Condition → Bool
  | .jsonContains _ _ _ | .jsonLength _ _ _ => true
  | _ => false

namespace Sql

open Fragment

variable {dialect : Dialect} (other : Dialect)

namespace Expression

/-- Without an arrow in a reference there is no selector behind it, in aliases and calls
neither. -/
theorem render_eq_of_arrowless {text : List Char} (arrowless : ¬ arrow <:+: text) :
    (ofText text).render dialect = (ofText text).render other := by
  fun_induction ofText text with
  | case1 text => rfl
  | case2 text _ base name cut inductionHypothesis =>
    have inBase : ¬ arrow <:+: Text.trim base := fun occurs =>
      arrowless ((occurs.trans (Text.trim_infix base)).trans (Text.infix_of_cutAlias cut).1)
    rw [render, render, inductionHypothesis inBase]
  | case3 text _ _ function argument cut inductionHypothesis =>
    have inArgument : ¬ arrow <:+: argument := fun occurs =>
      arrowless (occurs.trans (infix_of_cutCall cut).2.1)
    rw [render, render, inductionHypothesis inArgument]
  | case4 text _ _ _ unquoted field path cut =>
    rw [cutSelector_eq_none arrowless] at cut
    cases cut
  | case5 text => rfl

end Expression

theorem reference_eq_of_arrowless {column : Reference}
    (arrowless : ¬ arrow <:+: column.toList) :
    reference dialect column = reference other column :=
  congrArg (fun text => [Piece.text text]) (Expression.render_eq_of_arrowless other arrowless)

section Columns

variable {columns : List Reference}
  (arrowless : ∀ column ∈ columns, ¬ arrow <:+: column.toList)

include arrowless

theorem columnList_eq_of_arrowless : columnList dialect columns = columnList other columns := by
  have same : columns.map (reference dialect) = columns.map (reference other) :=
    List.map_congr_left fun column member =>
      reference_eq_of_arrowless other (arrowless column member)
  cases columns with
  | nil => rfl
  | cons first rest => exact congrArg (separated ", ") same

theorem selectList_eq_of_arrowless : selectList dialect columns = selectList other columns := by
  have same : (columns.map fun column =>
        [Piece.text (wrap dialect (unquoteSelected column.toList))]) =
      columns.map fun column => [Piece.text (wrap other (unquoteSelected column.toList))] :=
    List.map_congr_left fun column member => by
      rw [unquoteSelected_of_arrowless (arrowless column member)]
      exact reference_eq_of_arrowless other (arrowless column member)
  cases columns with
  | nil => rfl
  | cons first rest => exact congrArg (separated ", ") same

/-- An assignment to a reference without an arrow sets a whole column. -/
theorem assignments_eq_of_arrowless :
    columns.map (assignment dialect) = columns.map (assignment other) :=
  List.map_congr_left fun column member => by
    have plain := Text.contains_eq_false_iff.mpr (arrowless column member)
    unfold assignment
    rw [if_neg (Bool.eq_false_iff.mp plain), if_neg (Bool.eq_false_iff.mp plain),
      reference_eq_of_arrowless other (arrowless column member)]

end Columns

section Clauses

variable {column : Reference} (arrowless : ¬ arrow <:+: column.toList)

include arrowless

theorem among_eq_of_arrowless (count : Nat) (negated : Bool) :
    among dialect column count negated = among other column count negated := by
  rw [among, among, reference_eq_of_arrowless other arrowless]

theorem null_eq_of_arrowless (negated : Bool) :
    null dialect column negated = null other column negated := by
  rw [null, null, reference_eq_of_arrowless other arrowless]

end Clauses

theorem constraint_eq_of_arrowless (clause : Constraint)
    (arrowless : ∀ column ∈ clause.references, ¬ arrow <:+: column.toList) :
    constraint dialect clause = constraint other clause := by
  induction clause using Constraint.induction with
  | columns first operator second =>
    rw [Constraint.references, List.forall_mem_cons, List.forall_mem_singleton] at arrowless
    rw [constraint, constraint, reference_eq_of_arrowless other arrowless.1,
      reference_eq_of_arrowless other arrowless.2]
  | value column operator =>
    rw [Constraint.references, List.forall_mem_singleton] at arrowless
    rw [constraint, constraint, reference_eq_of_arrowless other arrowless]
  | among column values negated =>
    rw [Constraint.references, List.forall_mem_singleton] at arrowless
    rw [constraint, constraint, among_eq_of_arrowless other arrowless]
  | null column negated =>
    rw [Constraint.references, List.forall_mem_singleton] at arrowless
    rw [constraint, constraint, null_eq_of_arrowless other arrowless]
  | group members inductionHypothesis =>
    rw [Constraint.references, Constraint.allReferences_eq_flatMap,
      List.forall_mem_flatMap] at arrowless
    rw [constraint, constraint, constraintParts_eq_map, constraintParts_eq_map,
      List.map_congr_left fun member isMember => congrArg (Prod.mk member.1)
        (inductionHypothesis member isMember (arrowless member isMember))]

theorem condition_eq_of_arrowless (clause : Condition)
    (arrowless : ∀ column ∈ clause.references, ¬ arrow <:+: column.toList)
    (plain : ∀ inner ∈ clause.within, inner.isJson = false) :
    condition dialect clause = condition other clause := by
  induction clause using Condition.induction with
  | compare column operator value =>
    rw [Condition.references, List.forall_mem_singleton] at arrowless
    rw [condition, condition, reference_eq_of_arrowless other arrowless]
  | group frame members inductionHypothesis =>
    rw [Condition.references, Condition.allReferences_eq_flatMap,
      List.forall_mem_flatMap] at arrowless
    rw [Condition.within, Condition.allWithin_eq_flatMap, List.forall_mem_cons,
      List.forall_mem_flatMap] at plain
    rw [condition, condition, conditionParts_eq_map, conditionParts_eq_map,
      List.map_congr_left fun member isMember => congrArg (Prod.mk member.1)
        (inductionHypothesis member isMember (arrowless member isMember)
          (plain.2 member isMember))]
  | between column negated =>
    rw [Condition.references, List.forall_mem_singleton] at arrowless
    rw [condition, condition, reference_eq_of_arrowless other arrowless]
  | among column values negated =>
    rw [Condition.references, List.forall_mem_singleton] at arrowless
    rw [condition, condition, among_eq_of_arrowless other arrowless]
  | null column negated =>
    rw [Condition.references, List.forall_mem_singleton] at arrowless
    rw [condition, condition, null_eq_of_arrowless other arrowless]
  | datePart unit column operator value =>
    rw [Condition.references, List.forall_mem_singleton] at arrowless
    rw [condition, condition, reference_eq_of_arrowless other arrowless]
  | jsonContains | jsonLength => cases plain _ (Condition.self_mem_within _)

theorem join_eq_of_arrowless (clause : Join)
    (arrowless : ∀ column ∈ clause.references, ¬ arrow <:+: column.toList) :
    join dialect clause = join other clause := by
  rw [Join.references, List.forall_mem_cons, Constraint.allReferences_eq_flatMap,
    List.forall_mem_flatMap] at arrowless
  have same : constraintParts dialect clause.constraints =
      constraintParts other clause.constraints := by
    rw [constraintParts_eq_map, constraintParts_eq_map]
    exact List.map_congr_left fun member isMember => congrArg (Prod.mk member.1)
      (constraint_eq_of_arrowless other member.2 (arrowless.2 member isMember))
  rw [join, join, constraints, constraints, same, reference_eq_of_arrowless other arrowless.1]

theorem joins_eq_of_arrowless (list : List Join)
    (arrowless : ∀ column ∈ list.flatMap Join.references, ¬ arrow <:+: column.toList) :
    joins dialect list = joins other list := by
  rw [List.forall_mem_flatMap] at arrowless
  unfold joins
  rw [List.flatMap_def, List.flatMap_def, List.map_congr_left fun clause isClause =>
    join_eq_of_arrowless other clause (arrowless clause isClause)]

theorem wheres_eq_of_arrowless (list : List (Connector × Condition))
    (arrowless : ∀ column ∈ Condition.allReferences list, ¬ arrow <:+: column.toList)
    (plain : ∀ inner ∈ Condition.allWithin list, inner.isJson = false) :
    wheres dialect list = wheres other list := by
  rw [Condition.allReferences_eq_flatMap, List.forall_mem_flatMap] at arrowless
  rw [Condition.allWithin_eq_flatMap, List.forall_mem_flatMap] at plain
  have same : conditionParts dialect list = conditionParts other list := by
    rw [conditionParts_eq_map, conditionParts_eq_map]
    exact List.map_congr_left fun member isMember => congrArg (Prod.mk member.1)
      (condition_eq_of_arrowless other member.2 (arrowless member isMember)
        (plain member isMember))
  rw [wheres, wheres, conditions, conditions, same]

theorem orders_eq_of_arrowless (list : List Ordering)
    (arrowless : ∀ column ∈ list.map Ordering.column, ¬ arrow <:+: column.toList) :
    orders dialect list = orders other list := by
  rw [List.forall_mem_map] at arrowless
  have same : (list.map fun order =>
        reference dialect order.column ++ fixed " " ++ fixed order.direction.keyword) =
      list.map fun order =>
        reference other order.column ++ fixed " " ++ fixed order.direction.keyword :=
    List.map_congr_left fun order isOrder => by
      rw [reference_eq_of_arrowless other (arrowless order isOrder)]
  rw [orders, orders, same]

theorem groups_eq_of_arrowless (columns : Columns)
    (arrowless : ∀ column ∈ columns.toList, ¬ arrow <:+: column.toList) :
    groups dialect columns = groups other columns := by
  rw [groups, groups, columnList_eq_of_arrowless other arrowless]

end Sql

namespace Query

open Sql Fragment

/-- A query that says nothing that only one dialect can, or that each has its own words for.
Locks are left to themselves. -/
structure Portable (query : Query) : Prop where
  references : ∀ reference ∈ query.references, ¬ arrow <:+: reference.toList
  conditions : ∀ condition ∈ Condition.allWithin query.conditions, condition.isJson = false
  joins : query.Mutates → query.joins = []

/-- The words of a lock at the end of a MySQL select. -/
def lockText (query : Query) : String :=
  match query.kind, query.lock? with
  | .select, some .forUpdate => " for update"
  | .select, some .shared => " lock in share mode"
  | _, _ => ""

namespace Portable

variable {query : Query} {dialect : Dialect} (portable : query.Portable) (other : Dialect)

include portable

/-- No reference has an arrow, part by part. -/
theorem arrowless :
    (∀ column ∈ query.columns.toList, ¬ arrow <:+: column.toList) ∧
    (∀ table ∈ query.table?.toList, ¬ arrow <:+: table.toList) ∧
    (∀ column ∈ query.joins.flatMap Join.references, ¬ arrow <:+: column.toList) ∧
    (∀ column ∈ Condition.allReferences query.conditions, ¬ arrow <:+: column.toList) ∧
    (∀ column ∈ query.groups.toList, ¬ arrow <:+: column.toList) ∧
    (∀ column ∈ query.orders.map Ordering.column, ¬ arrow <:+: column.toList) ∧
    (∀ column ∈ query.rows.flatMap Dictionary.keys, ¬ arrow <:+: column.toList) ∧
    (∀ column ∈ query.updates.keys, ¬ arrow <:+: column.toList) ∧
    ∀ column ∈ query.aggregate?.toList.flatMap fun aggregate => aggregate.columns.toList,
      ¬ arrow <:+: column.toList := by
  simpa only [Query.references, List.forall_mem_append, and_assoc] using portable.references

theorem reference_table {table : Reference} (known : query.table? = some table) :
    reference dialect table = reference other table := by
  have arrowless := portable.arrowless.2.1
  rw [known, Option.toList_some, List.forall_mem_singleton] at arrowless
  exact reference_eq_of_arrowless other arrowless

theorem mutationTail_eq : mutationTail dialect query = mutationTail other query := by
  obtain ⟨-, -, -, conditions, -, orders, -, -, -⟩ := portable.arrowless
  rw [mutationTail, mutationTail, wheres_eq_of_arrowless other _ conditions portable.conditions,
    orders_eq_of_arrowless other _ orders]

theorem aggregateHead_eq {aggregate : Aggregate} (asked : query.aggregate? = some aggregate) :
    aggregateHead dialect query aggregate = aggregateHead other query aggregate := by
  obtain ⟨-, -, -, -, -, -, -, -, columns⟩ := portable.arrowless
  rw [asked, Option.toList_some, List.flatMap_singleton] at columns
  rw [aggregateHead, aggregateHead, columnList_eq_of_arrowless other columns]

theorem selectTail_mysql : selectTail .mysql query =
    selectTail .sqlite query ++ lock .mysql query.lock? := by
  obtain ⟨-, -, joins, conditions, groups, orders, -, -, -⟩ := portable.arrowless
  have unlocked : lock .sqlite query.lock? = [] := rfl
  rw [selectTail, selectTail, unlocked, List.append_nil, joins_eq_of_arrowless .sqlite _ joins,
    wheres_eq_of_arrowless .sqlite _ conditions portable.conditions,
    groups_eq_of_arrowless .sqlite _ groups, orders_eq_of_arrowless .sqlite _ orders]
  cases known : query.table? with
  | none => rfl
  | some table => simp only [portable.reference_table .sqlite known]

/-- Of a select only the lock depends on the dialect. -/
theorem select_mysql : Sql.select .mysql query =
    Sql.select .sqlite query ++ lock .mysql query.lock? := by
  rw [Sql.select, Sql.select, portable.selectTail_mysql, List.append_assoc]
  cases asked : query.aggregate? with
  | none => rw [selectHead, selectHead, selectList_eq_of_arrowless .sqlite portable.arrowless.1]
  | some aggregate => simp only [portable.aggregateHead_eq .sqlite asked]

theorem insert_eq {table : Reference} (known : query.table? = some table) {first : Row}
    {rest : List Row} (rows : query.rows = first :: rest) :
    Sql.insert dialect table first (first :: rest) =
      Sql.insert other table first (first :: rest) := by
  obtain ⟨-, -, -, -, -, -, keys, -, -⟩ := portable.arrowless
  rw [rows, List.flatMap_cons, List.forall_mem_append] at keys
  rw [Sql.insert, Sql.insert, portable.reference_table other known,
    columnList_eq_of_arrowless other keys.1]

theorem update_eq {table : Reference} (known : query.table? = some table) :
    Sql.update dialect table query = Sql.update other table query := by
  obtain ⟨-, -, joins, -, -, -, -, updates, -⟩ := portable.arrowless
  rw [Sql.update, Sql.update, portable.reference_table other known,
    joins_eq_of_arrowless other _ joins, assignments_eq_of_arrowless other updates,
    portable.mutationTail_eq other]

/-- A delete without joins does not call its table by a name of its own. -/
theorem delete_eq {table : Reference} (known : query.table? = some table)
    (noJoins : query.joins = []) :
    Sql.delete dialect table query = Sql.delete other table query := by
  have alone : ¬ query.hasJoins := by simp [Frame.hasJoins, noJoins]
  rw [Sql.delete, Sql.delete, if_neg alone, if_neg alone, portable.reference_table other known,
    portable.mutationTail_eq other]

theorem compile_eq_of_insert (isInsert : query.kind = .insert) :
    query.compile dialect = query.compile other := by
  unfold compile
  rw [isInsert]
  cases known : query.requireTable .insert with
  | error fault => rfl
  | ok table =>
    cases rows : query.rows with
    | nil => rfl
    | cons first rest =>
      exact congrArg Except.ok
        (portable.insert_eq other (requireTable_eq_ok_iff.mp known) rows)

theorem compile_eq_of_mutates (mutates : query.Mutates) :
    query.compile dialect = query.compile other := by
  have noJoins : query.joins = [] := portable.joins mutates
  have allowed : ∀ dialect, query.checkJoins dialect query.kind = .ok () := fun dialect =>
    checkJoins_of_not_joinsInVain (fun vain => vain.2 noJoins) _
  rw [compile_of_mutates mutates, compile_of_mutates mutates, allowed, allowed]
  cases known : query.requireTable query.kind with
  | error fault => rfl
  | ok table =>
    have isTable := requireTable_eq_ok_iff.mp known
    simp only [Except.bind, portable.update_eq other isTable,
      portable.delete_eq other isTable noJoins]

theorem compile_mysql_of_select (isSelect : query.kind = .select) :
    query.compile .mysql = (query.compile .sqlite).map (· ++ lock .mysql query.lock?) := by
  unfold compile
  rw [isSelect]
  cases query.checkOperators with
  | error fault => rfl
  | ok => exact congrArg Except.ok portable.select_mysql

end Portable

theorem text_lock {query : Query} (isSelect : query.kind = .select) :
    (lock .mysql query.lock?).text = query.lockText.toList := by
  unfold lockText
  rw [isSelect]
  cases query.lock? with
  | none => rfl
  | some request => cases request <;> simp [lock]

theorem lockText_of_ne_select {query : Query} (notSelect : query.kind ≠ .select) :
    query.lockText = "" := by
  unfold lockText
  split
  · rename_i isSelect _
    exact absurd isSelect notSelect
  · rename_i isSelect _
    exact absurd isSelect notSelect
  · rfl

/-- A query that says nothing of JSON, and has no joins in an update or delete, is the same
statement in both dialects or the same fault; a MySQL select has the words of its lock at the
end. -/
theorem sql_mysql_of_portable {query : Query} (portable : query.Portable) :
    query.sql .mysql = (query.sql .sqlite).map (· ++ query.lockText) := by
  have others (notSelect : query.kind ≠ .select)
      (same : query.compile .mysql = query.compile .sqlite) :
      query.sql .mysql = (query.sql .sqlite).map (· ++ query.lockText) := by
    unfold sql
    rw [lockText_of_ne_select notSelect, same]
    cases query.compile .sqlite <;> simp [Except.map]
  cases kind : query.kind with
  | select =>
    unfold sql
    rw [portable.compile_mysql_of_select kind]
    cases query.compile .sqlite with
    | error fault => rfl
    | ok statement => simp [Except.map, text_lock kind]
  | insert => exact others (by simp [kind]) (portable.compile_eq_of_insert .sqlite kind)
  | update => exact others (by simp [kind]) (portable.compile_eq_of_mutates .sqlite (.inl kind))
  | delete => exact others (by simp [kind]) (portable.compile_eq_of_mutates .sqlite (.inr kind))

/-- An aggregate over a join and groups in groups, with a function, an alias and a lock. -/
theorem sql_mysql_of_portable_locked :
    let builder := Call.runAll [.distinct,
      .joinWith .left "posts as p" [.compareColumns .and "p.author" .equal "users.id",
        .group .or [.compareValue .and "p.kind" .inList (.text "note")]],
      .group .and [.compare .and "Max(age)" (.other "<=>") (.bool true),
        .group .or [.datePart .and .year "born ? at" .less (.text "2000"),
          .between .or "is null" (.text "a") (.text "b") true]],
      .groupBy (.many ["date(seen)", "*"]), .orderBy "seen" .descending, .limit 3,
      .lock .shared] (Builder.table .mysql "users")
    let query := (builder.asking ⟨.count, .many ["users.id", "name as n"]⟩).query
    query.Portable ∧ query.sql .mysql = (query.sql .sqlite).map (· ++ query.lockText) :=
  have portable : Query.Portable _ := ⟨by decide +kernel, by decide +kernel, fun mutates => by
    rcases mutates with isUpdate | isDelete
    · cases isUpdate
    · cases isDelete⟩
  ⟨portable, sql_mysql_of_portable portable⟩

end Query

end FluentSql
