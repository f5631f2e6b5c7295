import FluentSql.Proofs.Compilation
import FluentSql.Proofs.Provenance

/-!
# Where the texts of a whole statement come from

The parts of a statement are traced one after the other; `traced_compile` puts them
together for whatever statement a query compiles to.
-/

namespace FluentSql

namespace Sql

open Fragment

variable {dialect : Dialect} {references : List Reference} {operators : List Operator}

theorem traced_columnList {columns : List Reference} (held : columns ⊆ references) :
    Traced dialect references operators (columnList dialect columns) := by
  unfold columnList
  split
  · exact traced_shared (by decide)
  · apply traced_separated (by decide)
    intro fragment member
    obtain ⟨column, isColumn, rfl⟩ := List.mem_map.mp member
    exact traced_reference (held isColumn)

theorem traced_selectList {columns : List Reference} (held : columns ⊆ references) :
    Traced dialect references operators (selectList dialect columns) := by
  unfold selectList
  split
  · exact traced_shared (by decide)
  · apply traced_separated (by decide)
    intro fragment member
    obtain ⟨column, isColumn, rfl⟩ := List.mem_map.mp member
    exact traced_text (.selected (held isColumn))

theorem traced_selectHead {query : Query} (held : query.columns.toList ⊆ references) :
    Traced dialect references operators (selectHead dialect query) := by
  simp only [selectHead, traced_append]
  refine ⟨?_, traced_selectList held⟩
  split <;> exact traced_shared (by decide)

theorem traced_aggregateHead {query : Query} {aggregate : Aggregate}
    (held : aggregate.columns.toList ⊆ references) :
    Traced dialect references operators (aggregateHead dialect query aggregate) := by
  simp only [aggregateHead, traced_append]
  refine ⟨⟨⟨⟨⟨traced_shared (by decide), ?_⟩, traced_shared (by decide)⟩, ?_⟩,
    traced_columnList held⟩, traced_shared (by decide)⟩
  · cases aggregate.function <;> exact traced_shared (by decide)
  · split
    · exact traced_shared (by decide)
    · exact traced_nil

theorem traced_join {clause : Join} (held : clause.references ⊆ references)
    (used : Constraint.allOperators clause.constraints ⊆ operators) :
    Traced dialect references operators (join dialect clause) := by
  simp only [join, traced_append]
  refine ⟨⟨⟨⟨traced_shared (by decide), ?_⟩, traced_shared (by decide)⟩,
    traced_reference (held List.mem_cons_self)⟩, ?_⟩
  · cases clause.kind <;> exact traced_shared (by decide)
  · split
    · exact traced_nil
    · simp only [traced_append]
      refine ⟨traced_shared (by decide), ?_⟩
      rw [constraints, constraintParts_eq_map]
      refine traced_chain fun part isPart => ?_
      obtain ⟨member, isMember, rfl⟩ := List.mem_map.mp isPart
      rw [Constraint.allOperators_eq_flatMap] at used
      refine traced_constraint member.2 (fun name isName => held ?_)
        (fun operator isOperator => used (List.mem_flatMap.mpr ⟨member, isMember, isOperator⟩))
      rw [Join.references, Constraint.allReferences_eq_flatMap]
      exact List.mem_cons_of_mem _ (List.mem_flatMap.mpr ⟨member, isMember, isName⟩)

theorem traced_joins {list : List Join} (held : list.flatMap Join.references ⊆ references)
    (used : (list.flatMap fun join => Constraint.allOperators join.constraints) ⊆ operators) :
    Traced dialect references operators (joins dialect list) := by
  intro chars member
  obtain ⟨clause, isClause, isPiece⟩ := List.mem_flatMap.mp member
  exact traced_join
    (fun name isName => held (List.mem_flatMap.mpr ⟨clause, isClause, isName⟩))
    (fun operator isOperator => used (List.mem_flatMap.mpr ⟨clause, isClause, isOperator⟩))
    chars isPiece

theorem traced_wheres {list : List (Connector × Condition)}
    (held : Condition.allReferences list ⊆ references)
    (used : Condition.allOperators list ⊆ operators) :
    Traced dialect references operators (wheres dialect list) := by
  unfold wheres
  split
  · exact traced_nil
  · rw [Condition.allReferences_eq_flatMap] at held
    rw [Condition.allOperators_eq_flatMap] at used
    rw [traced_append, conditions, conditionParts_eq_map]
    refine ⟨traced_shared (by decide), traced_chain fun part isPart => ?_⟩
    obtain ⟨member, isMember, rfl⟩ := List.mem_map.mp isPart
    exact traced_condition member.2
      (fun name isName => held (List.mem_flatMap.mpr ⟨member, isMember, isName⟩))
      (fun operator isOperator => used (List.mem_flatMap.mpr ⟨member, isMember, isOperator⟩))

theorem traced_groups {columns : Columns} (held : columns.toList ⊆ references) :
    Traced dialect references operators (groups dialect columns) := by
  unfold groups
  split
  · exact traced_nil
  · rw [traced_append]
    exact ⟨traced_shared (by decide), traced_columnList held⟩

theorem traced_orders {list : List Ordering} (held : list.map Ordering.column ⊆ references) :
    Traced dialect references operators (orders dialect list) := by
  unfold orders
  split
  · exact traced_nil
  · rw [traced_append]
    refine ⟨traced_shared (by decide), traced_separated (by decide) fun fragment member => ?_⟩
    obtain ⟨order, isOrder, rfl⟩ := List.mem_map.mp member
    simp only [traced_append]
    refine ⟨⟨traced_reference (held (List.mem_map_of_mem isOrder)), traced_shared (by decide)⟩, ?_⟩
    cases order.direction <;> exact traced_shared (by decide)

theorem traced_limit (pagination : Pagination) :
    Traced dialect references operators (limit pagination) := by
  unfold limit
  split
  · rw [traced_append]
    exact ⟨traced_shared (by decide), traced_text (.number _)⟩
  · exact traced_nil

theorem traced_offset (pagination : Pagination) :
    Traced dialect references operators (offset pagination) := by
  unfold offset
  split
  · rw [traced_append]
    exact ⟨traced_shared (by decide), traced_text (.number _)⟩
  · exact traced_nil

theorem traced_lock (lock? : Option Lock) :
    Traced dialect references operators (lock dialect lock?) := by
  unfold lock
  split
  · exact traced_fixed (by decide)
  · exact traced_fixed (by decide)
  · exact traced_nil

theorem traced_assignment {column : Reference} (member : column ∈ references) :
    Traced dialect references operators (assignment dialect column) := by
  unfold assignment
  split
  · simp only [traced_append]
    exact ⟨⟨⟨⟨⟨⟨traced_placeField member, traced_shared (by decide)⟩, traced_placeField member⟩,
      traced_placePath member⟩, traced_shared (by decide)⟩, traced_placeholder⟩,
      traced_shared (by decide)⟩
  · simp only [traced_append]
    exact ⟨⟨traced_reference member, traced_shared (by decide)⟩, traced_placeholder⟩

theorem traced_deletedName {table : Reference} (member : table ∈ references) :
    Traced dialect references operators (deletedName dialect table) := by
  unfold deletedName
  split
  · rename_i name named
    exact traced_text (.aliasName member named)
  · exact traced_reference member

end Sql

open Sql Fragment

namespace Query

variable {dialect : Dialect} (query : Query)

private theorem held_tail : Condition.allReferences query.conditions ⊆ query.references ∧
    query.orders.map Ordering.column ⊆ query.references ∧
    query.joins.flatMap Join.references ⊆ query.references := by
  refine ⟨?_, ?_, ?_⟩ <;> intro name member <;>
    simp only [references, List.mem_append, member, true_or, or_true]

private theorem used_parts : Condition.allOperators query.conditions ⊆ query.operators ∧
    (query.joins.flatMap fun join => Constraint.allOperators join.constraints) ⊆
      query.operators := by
  constructor <;> intro operator member <;>
    simp only [operators, List.mem_append, member, true_or, or_true]

private theorem held_table {table : Reference} (known : query.table? = some table) :
    table ∈ query.references := by
  simp [references, known]

theorem traced_mutationTail :
    Traced dialect query.references query.operators (mutationTail dialect query) := by
  simp only [mutationTail, traced_append]
  exact ⟨⟨traced_wheres query.held_tail.1 query.used_parts.1, traced_orders query.held_tail.2.1⟩,
    traced_limit _⟩

theorem traced_select :
    Traced dialect query.references query.operators (Sql.select dialect query) := by
  rw [Sql.select, traced_append]
  constructor
  · split
    · rename_i aggregate known
      apply traced_aggregateHead
      intro name member
      simp only [references, known, Option.toList_some, List.flatMap_singleton, List.mem_append]
      exact .inr member
    · apply traced_selectHead
      intro name member
      simp only [references, List.mem_append, member, true_or]
  · simp only [selectTail, traced_append]
    refine ⟨⟨⟨⟨⟨⟨⟨?_, traced_joins query.held_tail.2.2 query.used_parts.2⟩,
      traced_wheres query.held_tail.1 query.used_parts.1⟩, traced_groups ?_⟩,
      traced_orders query.held_tail.2.1⟩, traced_limit _⟩, traced_offset _⟩, traced_lock _⟩
    · split
      · rename_i table known
        rw [traced_append]
        exact ⟨traced_shared (by decide), traced_reference (query.held_table known)⟩
      · exact traced_nil
    · intro name member
      simp only [references, List.mem_append, member, true_or, or_true]

theorem traced_insert {table : Reference} (known : query.table? = some table) {first : Row}
    {rest : List Row} (rows : query.rows = first :: rest) :
    Traced dialect query.references query.operators
      (Sql.insert dialect table first (first :: rest)) := by
  simp only [Sql.insert, traced_append]
  refine ⟨⟨⟨⟨⟨traced_shared (by decide), traced_reference (query.held_table known)⟩,
    traced_shared (by decide)⟩, traced_columnList ?_⟩, traced_shared (by decide)⟩,
    traced_separated (by decide) fun fragment member => ?_⟩
  · intro name member
    simp only [references, rows, List.flatMap_cons, List.mem_append, member, true_or, or_true]
  · obtain ⟨row, -, rfl⟩ := List.mem_map.mp member
    exact traced_parenthesized (traced_placeholderList _)

theorem traced_update {table : Reference} (known : query.table? = some table) :
    Traced dialect query.references query.operators (Sql.update dialect table query) := by
  simp only [Sql.update, traced_append]
  refine ⟨⟨⟨⟨⟨traced_shared (by decide), traced_reference (query.held_table known)⟩,
    traced_joins query.held_tail.2.2 query.used_parts.2⟩, traced_shared (by decide)⟩,
    traced_separated (by decide) fun fragment member => ?_⟩, query.traced_mutationTail⟩
  obtain ⟨column, isColumn, rfl⟩ := List.mem_map.mp member
  apply traced_assignment
  simp only [references, List.mem_append, show column ∈ query.updates.keys from isColumn, true_or,
    or_true]

theorem traced_delete {table : Reference} (known : query.table? = some table) :
    Traced dialect query.references query.operators (Sql.delete dialect table query) := by
  have isTable := query.held_table known
  unfold Sql.delete
  split
  · simp only [traced_append]
    exact ⟨⟨⟨⟨⟨traced_shared (by decide), traced_deletedName isTable⟩, traced_shared (by decide)⟩,
      traced_reference isTable⟩, traced_joins query.held_tail.2.2 query.used_parts.2⟩,
      traced_wheres query.held_tail.1 query.used_parts.1⟩
  · simp only [traced_append]
    exact ⟨⟨traced_shared (by decide), traced_reference isTable⟩, query.traced_mutationTail⟩

/-- Every text piece of a compiled statement has an origin in the query. -/
theorem traced_compile {statement : Fragment} (written : query.compile dialect = .ok statement) :
    Traced dialect query.references query.operators statement := by
  cases compile_eq_ok_iff.mp written with
  | select => exact query.traced_select
  | insert _ known rows => exact query.traced_insert known rows
  | update _ _ known => exact query.traced_update known
  | delete _ _ known => exact query.traced_delete known

end Query

end FluentSql
