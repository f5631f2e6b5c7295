import FluentSql.Proofs.Compilation
import FluentSql.Proofs.Containment.Clause
import FluentSql.Proofs.Places

/-!
# Contained statements

The clauses of a MySQL statement are tails or sealed, so whatever a query compiles to is
spelled: `spelled_compile`.
-/

namespace FluentSql

namespace Sql

open Fragment Lexer

theorem sealed_columnList {columns : List Reference}
    (noNull : ∀ reference ∈ columns, mentionsNull reference.toList = false) :
    Sealed (columnList .mysql columns) := by
  unfold columnList
  split
  · exact sealed_fixed (by decide)
  · apply sealed_separated sealed_comma
    intro fragment member
    obtain ⟨column, isColumn, rfl⟩ := List.mem_map.mp member
    exact sealed_reference (noNull column isColumn)

theorem sealed_selectList {columns : List Reference}
    (noNull : ∀ reference ∈ columns, mentionsNull reference.toList = false) :
    Sealed (selectList .mysql columns) := by
  unfold selectList
  split
  · exact sealed_fixed (by decide)
  · apply sealed_separated sealed_comma
    intro fragment member
    obtain ⟨column, isColumn, rfl⟩ := List.mem_map.mp member
    exact Expression.sealed_render (mentionsNull_unquoteSelected (noNull column isColumn))

theorem sealed_selectHead {query : Query}
    (noNull : ∀ reference ∈ query.columns.toList, mentionsNull reference.toList = false) :
    Sealed (selectHead .mysql query) := by
  have opening : Sealed (fixed (if query.distinct then "select distinct " else "select ")) := by
    split <;> exact sealed_fixed (by decide)
  exact opening.append (sealed_selectList noNull)

theorem spelled_aggregateHead {query : Query} {aggregate : Aggregate}
    (noNull : ∀ reference ∈ aggregate.columns.toList, mentionsNull reference.toList = false) :
    Spelled (aggregateHead .mysql query aggregate) := by
  have opening : Sealed (fixed "select ") := sealed_fixed (by decide)
  have function : Spelled (fixed aggregate.function.name) := by
    cases aggregate.function <;> exact spelled_fixed (by decide)
  have called : Sealed (fixed "select " ++ fixed aggregate.function.name ++ fixed "(") :=
    (opening.append_spelled function).close sealed_opening (by decide)
  refine ((called.append ?_).append (sealed_columnList noNull)).append_spelled
    (spelled_fixed (by decide))
  split
  · exact sealed_fixed (by decide)
  · exact sealed_nil

theorem tail_join {clause : Join}
    (noNull : ∀ reference ∈ clause.references, mentionsNull reference.toList = false)
    (known : ∀ operator ∈ Constraint.allOperators clause.constraints, operator.isKnown) :
    Tail (join .mysql clause) := by
  have keyword : Spelled (fixed clause.kind.keyword) := by
    cases clause.kind <;> exact spelled_fixed (by decide)
  have table := sealed_reference (noNull clause.table List.mem_cons_self)
  have constrained : Spelled (if clause.constraints.isEmpty then []
      else fixed " on " ++ constraints .mysql clause.constraints) := by
    split
    · exact sealed_nil.toSpelled
    · rw [constraints, constraintParts_eq_map]
      refine Sealed.append_spelled (sealed_fixed (by decide)) (spelled_chain fun part isPart => ?_)
      obtain ⟨member, isMember, rfl⟩ := List.mem_map.mp isPart
      rw [Join.references, Constraint.allReferences_eq_flatMap] at noNull
      rw [Constraint.allOperators_eq_flatMap] at known
      refine spelled_constraint member.2 (fun name isName => noNull name ?_) fun operator used =>
        known operator (List.mem_flatMap.mpr ⟨member, isMember, used⟩)
      exact List.mem_cons_of_mem _ (List.mem_flatMap.mpr ⟨member, isMember, isName⟩)
  have introduced := (sealed_blank.append_spelled keyword).close sealed_blank (by decide)
  have whole := (introduced.append table).append_spelled constrained
  simp only [List.append_assoc] at whole
  simpa only [join, List.append_assoc] using whole.tail (by decide)

theorem tail_joins {list : List Join}
    (noNull : ∀ reference ∈ list.flatMap Join.references, mentionsNull reference.toList = false)
    (known : ∀ operator ∈ list.flatMap fun join => Constraint.allOperators join.constraints,
      operator.isKnown) : Tail (joins .mysql list) := by
  refine tail_flatMap fun clause isClause => tail_join ?_ ?_
  · exact fun name isName => noNull name (List.mem_flatMap.mpr ⟨clause, isClause, isName⟩)
  · exact fun operator used => known operator (List.mem_flatMap.mpr ⟨clause, isClause, used⟩)

theorem tail_wheres {list : List (Connector × Condition)}
    (noNull : ∀ reference ∈ Condition.allReferences list, mentionsNull reference.toList = false)
    (known : ∀ operator ∈ Condition.allOperators list, operator.isKnown) :
    Tail (wheres .mysql list) := by
  unfold wheres
  split
  · exact tail_nil
  · rw [Condition.allReferences_eq_flatMap] at noNull
    rw [Condition.allOperators_eq_flatMap] at known
    rw [conditions, conditionParts_eq_map]
    refine tail_fixed (by decide) (by decide) (spelled_chain fun part isPart => ?_)
    obtain ⟨member, isMember, rfl⟩ := List.mem_map.mp isPart
    exact spelled_condition member.2
      (fun name isName => noNull name (List.mem_flatMap.mpr ⟨member, isMember, isName⟩))
      (fun operator used => known operator (List.mem_flatMap.mpr ⟨member, isMember, used⟩))

theorem tail_groups {columns : Columns}
    (noNull : ∀ reference ∈ columns.toList, mentionsNull reference.toList = false) :
    Tail (groups .mysql columns) := by
  unfold groups
  split
  · exact tail_nil
  · exact tail_fixed (by decide) (by decide) (sealed_columnList noNull).toSpelled

theorem tail_orders {list : List Ordering}
    (noNull : ∀ reference ∈ list.map Ordering.column, mentionsNull reference.toList = false) :
    Tail (orders .mysql list) := by
  unfold orders
  split
  · exact tail_nil
  · have separates : beginsApart ", ".toList := by decide
    refine tail_fixed (by decide) (by decide)
      (spelled_separated sealed_comma separates fun fragment member => ?_)
    obtain ⟨order, isOrder, rfl⟩ := List.mem_map.mp member
    have column := sealed_reference (noNull order.column (List.mem_map_of_mem isOrder))
    refine (column.append sealed_blank).append_spelled ?_
    cases order.direction <;> exact spelled_fixed (by decide)

/-- Digits are one of the grammar's own words. -/
theorem spelled_number (value : Nat) : Spelled (number value) := by
  have digits : ∀ char ∈ Number.digits value, char.isDigit := fun _ =>
    Number.isDigit_of_mem_digits
  have plain : ∀ char ∈ Number.digits value, char ∉ separators := by
    intro char member separates
    have none : separators.all fun separator => !separator.isDigit := by decide
    have noDigit : char.isDigit = false := by simpa using List.all_eq_true.mp none char separates
    exact absurd (digits char member) (Bool.eq_false_iff.mp noDigit)
  have some : Number.digits value ≠ [] := Nat.toDigits_ne_nil
  have reads := run_between_word some plain
  apply spelled_text
  · rw [reads]
    simp
  · rw [reads]
    have number : (Token.word (Number.digits value)).isOwn := by
      simpa [Token.isOwn, some] using .inr digits
    simp [Lexer.isContained, Token.isContained, number]

theorem tail_limit (pagination : Pagination) : Tail (limit pagination) := by
  unfold limit
  split
  · exact tail_fixed (by decide) (by decide) (spelled_number _)
  · exact tail_nil

theorem tail_offset (pagination : Pagination) : Tail (offset pagination) := by
  unfold offset
  split
  · exact tail_fixed (by decide) (by decide) (spelled_number _)
  · exact tail_nil

theorem tail_lock (lock? : Option Lock) : Tail (lock .mysql lock?) := by
  have fixedTail : ∀ {text : String}, Spelled (fixed text) → beginsApart text.toList →
      Tail (fixed text) := by
    intro text spelled begins
    have tail : Tail (fixed text ++ []) := Spelled.tail (by simpa using spelled) begins
    simpa using tail
  rcases lock? with _ | request
  · exact tail_nil
  · cases request
    · exact fixedTail (spelled_fixed (by decide)) (by decide)
    · exact fixedTail (spelled_fixed (by decide)) (by decide)

theorem sealed_assignment {column : Reference} (noNull : mentionsNull column.toList = false) :
    Sealed (assignment .mysql column) := by
  unfold assignment
  split
  · have field := sealed_placeField noNull
    have setting : Sealed (fixed " = json_set(") := sealed_fixed (by decide)
    exact (((((field.append setting).append field).append (sealed_placePath _)).append
      sealed_comma).append sealed_placeholder).append sealed_closing
  · have assigning : Sealed (fixed " = ") := sealed_fixed (by decide)
    exact ((sealed_reference noNull).append assigning).append sealed_placeholder

theorem sealed_deletedName {table : Reference} (noNull : mentionsNull table.toList = false) :
    Sealed (deletedName .mysql table) := by
  unfold deletedName
  split
  · exact sealed_quoteIdentifier _
  · exact sealed_reference noNull

end Sql

open Sql Fragment Lexer

namespace Query

variable {query : Query}

section Statements

variable (noNull : ∀ reference ∈ query.references, mentionsNull reference.toList = false)
  (known : ∀ operator ∈ query.operators, operator.isKnown)

include noNull

private theorem sealed_table {table : Reference} (isTable : query.table? = some table) :
    Sealed (reference .mysql table) :=
  sealed_reference (noNull table (by simp [references, isTable]))

private theorem tail_queryOrders : Tail (orders .mysql query.orders) := by
  refine tail_orders fun name member => noNull name ?_
  simp only [references, List.mem_append, member, true_or, or_true]

include known

private theorem tail_queryJoins : Tail (joins .mysql query.joins) := by
  refine tail_joins (fun name member => noNull name ?_) fun operator member => known operator ?_
  · simp only [references, List.mem_append, member, true_or, or_true]
  · simp only [operators, List.mem_append, member, true_or]

private theorem tail_queryWheres : Tail (wheres .mysql query.conditions) := by
  refine tail_wheres (fun name member => noNull name ?_) fun operator member => known operator ?_
  · simp only [references, List.mem_append, member, true_or, or_true]
  · simp only [operators, List.mem_append, member, or_true]

theorem tail_mutationTail : Tail (mutationTail .mysql query) :=
  ((tail_queryWheres noNull known).append (tail_queryOrders noNull)).append (tail_limit _)

theorem tail_selectTail : Tail (selectTail .mysql query) := by
  have grouping : Tail (groups .mysql query.groups) := by
    refine tail_groups fun name member => noNull name ?_
    simp only [references, List.mem_append, member, true_or, or_true]
  have joined : ∀ {source : Fragment}, Tail source →
      Tail (source ++ joins .mysql query.joins ++ wheres .mysql query.conditions ++
        groups .mysql query.groups ++ orders .mysql query.orders ++ limit query.pagination ++
        offset query.pagination ++ lock .mysql query.lock?) := by
    intro source isTail
    exact ((((((isTail.append (tail_queryJoins noNull known)).append
      (tail_queryWheres noNull known)).append grouping).append
      (tail_queryOrders noNull)).append (tail_limit _)).append (tail_offset _)).append
      (tail_lock _)
  unfold selectTail
  split
  · rename_i table isTable
    exact joined (tail_fixed (by decide) (by decide) (sealed_table noNull isTable).toSpelled)
  · exact joined tail_nil

theorem spelled_select : Spelled (Sql.select .mysql query) := by
  have tail := tail_selectTail noNull known
  unfold Sql.select
  split
  · rename_i aggregate isAggregate
    refine (spelled_aggregateHead fun name member => noNull name ?_).append_tail tail
    simp only [references, isAggregate, Option.toList_some, List.flatMap_singleton,
      List.mem_append]
    exact .inr member
  · refine (sealed_selectHead fun name member => noNull name ?_).toSpelled.append_tail tail
    simp only [references, List.mem_append, member, true_or]

omit known in
theorem spelled_insert {table : Reference} (isTable : query.table? = some table) {first : Row}
    {rest : List Row} (rows : query.rows = first :: rest) :
    Spelled (Sql.insert .mysql table first (first :: rest)) := by
  have columns : Sealed (columnList .mysql first.keys) := by
    refine sealed_columnList fun name member => noNull name ?_
    simp only [references, rows, List.flatMap_cons, List.mem_append, member, true_or, or_true]
  have values : Sealed (separated ", " ((first :: rest).map fun _ =>
      parenthesized (placeholderList first.size))) := by
    refine sealed_separated sealed_comma fun fragment member => ?_
    obtain ⟨row, -, rfl⟩ := List.mem_map.mp member
    exact sealed_parenthesized (sealed_placeholderList _).toSpelled
  have opening : Sealed (fixed "insert into ") := sealed_fixed (by decide)
  have parenthesis : Sealed (fixed " (") := sealed_fixed (by decide)
  have middle : Sealed (fixed ") values ") := sealed_fixed (by decide)
  exact (((((opening.append (sealed_table noNull isTable)).append parenthesis).append
    columns).append middle).append values).toSpelled

theorem spelled_update {table : Reference} (isTable : query.table? = some table) :
    Spelled (Sql.update .mysql table query) := by
  have assignments : Sealed (separated ", " (query.updates.keys.map (assignment .mysql))) := by
    refine sealed_separated sealed_comma fun fragment member => ?_
    obtain ⟨column, isColumn, rfl⟩ := List.mem_map.mp member
    refine sealed_assignment (noNull column ?_)
    simp only [references, List.mem_append, show column ∈ query.updates.keys from isColumn,
      true_or, or_true]
  have opening : Sealed (fixed "update ") := sealed_fixed (by decide)
  have joined := (opening.append (sealed_table noNull isTable)).toSpelled.append_tail
    (tail_queryJoins noNull known)
  have setting : Sealed (fixed " set ") := sealed_fixed (by decide)
  exact ((joined.close setting (by decide)).append assignments).toSpelled.append_tail
    (tail_mutationTail noNull known)

theorem spelled_delete {table : Reference} (isTable : query.table? = some table) :
    Spelled (Sql.delete .mysql table query) := by
  have isWritten := sealed_table noNull isTable
  unfold Sql.delete
  split
  · have name := sealed_deletedName (noNull table (by simp [references, isTable]))
    have opening : Sealed (fixed "delete ") := sealed_fixed (by decide)
    have middle : Sealed (fixed " from ") := sealed_fixed (by decide)
    have source := ((opening.append name).append middle).append isWritten
    exact (source.toSpelled.append_tail (tail_queryJoins noNull known)).append_tail
      (tail_queryWheres noNull known)
  · have opening : Sealed (fixed "delete from ") := sealed_fixed (by decide)
    exact (opening.append isWritten).toSpelled.append_tail (tail_mutationTail noNull known)

/-- What a query compiles to for MySQL is spelled. -/
theorem spelled_compile {statement : Fragment} (written : query.compile .mysql = .ok statement) :
    Spelled statement := by
  cases compile_eq_ok_iff.mp written with
  | select => exact spelled_select noNull known
  | insert _ isTable rows => exact spelled_insert noNull isTable rows
  | update _ _ isTable => exact spelled_update noNull known isTable
  | delete _ _ isTable => exact spelled_delete noNull known isTable

end Statements

/-- The text of references stays in its quotes. A MySQL statement with known operators whose
references do not mention `null` is read to its end with no quote open; what is read outside
of quotes is the grammar's own. At every point of the statement as many question marks have
been read as placeholders were written, and in all as many as the clauses ask for. -/
theorem contained_compile {statement : Fragment}
    (noNull : ∀ reference ∈ query.references, mentionsNull reference.toList = false)
    (known : ∀ operator ∈ query.operators, operator.isKnown)
    (written : query.compile .mysql = .ok statement) :
    (∃ tokens, Lexer.read statement.text = some tokens ∧
      ∀ token ∈ tokens, token.isQuoted ∨ token.isOwn) ∧
    (∀ front : Fragment, front <+: statement → questionMarks front.text = front.placeholders) ∧
    questionMarks statement.text = query.places := by
  have spelled := spelled_compile noNull known written
  obtain ⟨tokens, reads, contained⟩ := spelled.read
  refine ⟨⟨tokens, reads, fun token member => ?_⟩, spelled.marks, ?_⟩
  · simpa [Token.isContained] using contained token member
  · rw [spelled.marks statement List.prefix_rfl, placeholders_compile written]

/-- References with quotes, backslashes, parentheses and question marks. -/
theorem contained_compile_hostile :
    let query := ((Builder.table .mysql "t`able ?").select
        (.many ["a' or ? = '->>b\\' -- ", "COUNT(c`?)"])
      |>.compare .and "d->\\" .like (.bool true)).query
    let statement := Sql.select .mysql query
    (∃ tokens, Lexer.read statement.text = some tokens ∧
      ∀ token ∈ tokens, token.isQuoted ∨ token.isOwn) ∧
    (∀ front : Fragment, front <+: statement → questionMarks front.text = front.placeholders) ∧
    questionMarks statement.text = query.places :=
  contained_compile (by decide) (by decide) rfl

end Query

end FluentSql
