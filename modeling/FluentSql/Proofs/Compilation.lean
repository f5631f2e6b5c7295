import FluentSql.Sql.Statement

/-!
# What a query compiles to

`Compiled` lists the four statements a query can become, each with everything that was
checked before it was written. `compile_eq_ok_iff` makes it the exact account of
successful compilation, so no later proof opens the checks.
-/

namespace FluentSql

namespace Query

/-- A query compiles to a statement, and why it does. -/
inductive Compiled (dialect : Dialect) (query : Query) : Fragment → Prop where
  | select (isSelect : query.kind = .select) (writable : query.checkOperators = .ok ()) :
      Compiled dialect query (Sql.select dialect query)
  | insert (isInsert : query.kind = .insert) {table : Reference}
      (known : query.table? = some table) {first : Row} {rest : List Row}
      (rows : query.rows = first :: rest) :
      Compiled dialect query (Sql.insert dialect table first (first :: rest))
  | update (isUpdate : query.kind = .update)
      (allowed : query.checkJoins dialect .update = .ok ()) {table : Reference}
      (known : query.table? = some table) (assigned : query.updates.isEmpty = false)
      (writable : query.checkOperators = .ok ()) :
      Compiled dialect query (Sql.update dialect table query)
  | delete (isDelete : query.kind = .delete)
      (allowed : query.checkJoins dialect .delete = .ok ()) {table : Reference}
      (known : query.table? = some table) (writable : query.checkOperators = .ok ()) :
      Compiled dialect query (Sql.delete dialect table query)

variable {dialect : Dialect} {query : Query} {statement : Fragment}

theorem requireTable_eq_ok_iff {kind : StatementKind} {table : Reference} :
    query.requireTable kind = .ok table ↔ query.table? = some table := by
  unfold requireTable
  cases query.table? <;> simp

/-- Steps that succeed together succeed one after the other. -/
private theorem bind_eq_ok_iff {α β : Type} {first : Except Fault α} {next : α → Except Fault β}
    {result : β} :
    (first >>= next) = .ok result ↔ ∃ value, first = .ok value ∧ next value = .ok result := by
  cases first <;> simp [bind, Except.bind]

/-- Compilation succeeds with a statement exactly in the four ways of `Compiled`. -/
theorem compile_eq_ok_iff :
    query.compile dialect = .ok statement ↔ Compiled dialect query statement := by
  constructor
  · intro written
    unfold compile at written
    split at written
    · rename_i isSelect
      obtain ⟨⟨⟩, writable, wrote⟩ := bind_eq_ok_iff.mp written
      cases wrote
      exact .select isSelect writable
    · rename_i isInsert
      obtain ⟨table, known, wrote⟩ := bind_eq_ok_iff.mp written
      split at wrote
      · cases wrote
      · rename_i first rest rows
        cases wrote
        exact .insert isInsert (requireTable_eq_ok_iff.mp known) rows
    · rename_i isUpdate
      obtain ⟨⟨⟩, allowed, wrote⟩ := bind_eq_ok_iff.mp written
      obtain ⟨table, known, wrote⟩ := bind_eq_ok_iff.mp wrote
      split at wrote
      · cases wrote
      · rename_i assigned
        obtain ⟨⟨⟩, writable, wrote⟩ := bind_eq_ok_iff.mp wrote
        cases wrote
        exact .update isUpdate allowed (requireTable_eq_ok_iff.mp known)
          (Bool.eq_false_iff.mpr assigned) writable
    · rename_i isDelete
      obtain ⟨⟨⟩, allowed, wrote⟩ := bind_eq_ok_iff.mp written
      obtain ⟨table, known, wrote⟩ := bind_eq_ok_iff.mp wrote
      obtain ⟨⟨⟩, writable, wrote⟩ := bind_eq_ok_iff.mp wrote
      cases wrote
      exact .delete isDelete allowed (requireTable_eq_ok_iff.mp known) writable
  · intro compiled
    cases compiled with
    | select isSelect writable => simp [compile, isSelect, writable, bind, Except.bind]; rfl
    | insert isInsert known rows =>
      simp [compile, isInsert, requireTable_eq_ok_iff.mpr known, rows, bind, Except.bind]; rfl
    | update isUpdate allowed known assigned writable =>
      simp [compile, isUpdate, allowed, requireTable_eq_ok_iff.mpr known, assigned, writable, bind,
        Except.bind]; rfl
    | delete isDelete allowed known writable =>
      simp [compile, isDelete, allowed, requireTable_eq_ok_iff.mpr known, writable, bind,
        Except.bind]; rfl

/-- What is written is the text of a statement that the query compiles to. -/
theorem sql_eq_ok_iff_compiled {text : String} :
    query.sql dialect = .ok text ↔
      ∃ statement, Compiled dialect query statement ∧ text.toList = statement.text := by
  simp only [← compile_eq_ok_iff]
  unfold sql
  cases query.compile dialect with
  | error fault => simp
  | ok statement =>
    constructor
    · intro written
      exact ⟨statement, rfl, by rw [← Except.ok.inj written, String.toList_ofList]⟩
    · rintro ⟨_, ⟨⟩, same⟩
      exact congrArg Except.ok (String.toList_injective (String.toList_ofList.trans same.symm))

end Query

end FluentSql
