import FluentSql.Proofs.Kept
import FluentSql.Proofs.Refusal

/-!
# Limits of updates and deletes

A limit that a call sets stays in force until a later call sets another one, for a count that is
not positive sets none. An update or a delete ends with the limit in force, and what stands
before it is the statement without a limit. There is one exception: a delete with joins, where
the dialect has them, is written as if there were no limit (`Builder.limit_kept_iff`), and
nothing tells so.
-/

namespace FluentSql

namespace Pagination

/-- The limit that a count sets, if it sets one. -/
def bound? (count : Int64) : Option Nat :=
  if 0 < count.toInt then some count.toInt.toNat else none

theorem limit?_limit (count : Int64) (pagination : Pagination) :
    (pagination.limit count).limit? = (bound? count).or pagination.limit? := by
  unfold limit bound?
  split <;> rfl

end Pagination

/-! ## The limit in force -/

namespace Builder

/-- The limit in force. -/
def limit? (builder : Builder) : Option Nat := builder.query.pagination.limit?

end Builder

namespace Call

/-- The limit that a call sets, if it sets one. A call that fills a group may set one on the
query of the group only. -/
def limit? : Call → Option Nat
  | .limit count | .limitOffset count _ | .page _ count => Pagination.bound? count
  | _ => none

theorem limit?_run (call : Call) (builder : Builder) :
    (call.run builder).limit? = call.limit?.or builder.limit? := by
  have condition : ∀ connector condition values (builder : Builder),
      (builder.addCondition connector condition values).limit? = builder.limit? :=
    fun _ _ _ _ => rfl
  cases call with
  | limit count | limitOffset count | page _ count =>
    exact Pagination.limit?_limit count _
  | compare => exact Builder.keeps_compare _ condition _ _ _ _ builder
  | deleteId id => exact Builder.keeps_compare _ condition _ _ _ _ builder.delete
  | compareAll => exact Builder.keeps_compareAll _ condition _ _ builder
  | group => exact Builder.keeps_group _ condition _ _ builder
  | insert rows => exact Builder.keeps_insert Builder.limit? (fun _ _ => rfl) rows builder
  | addBindings values name | setBindings values name =>
    simp only [run]
    split <;> rfl
  | _ => rfl

/-- After some calls the last limit that one of them has set is in force. -/
theorem limit?_runAll (calls : List Call) (builder : Builder) :
    (runAll calls builder).limit? = (calls.filterMap limit?).getLast?.or builder.limit? := by
  induction calls generalizing builder with
  | nil => rw [runAll_nil, List.filterMap_nil, List.getLast?_nil, Option.none_or]
  | cons call rest inductionHypothesis =>
    rw [runAll_cons, inductionHypothesis, limit?_run]
    cases sets : call.limit? with
    | none => rw [List.filterMap_cons_none sets, Option.none_or]
    | some count =>
      rw [List.filterMap_cons_some sets, List.getLast?_cons, Option.some_or]
      cases (rest.filterMap limit?).getLast? <;> rfl

end Call

/-! ## Statements with and without a limit -/

namespace Query

/-- The query without its limit. -/
def unlimited (query : Query) : Query :=
  { query with pagination := { query.pagination with limit? := none } }

/-- Whatever is written is what would be written without a limit, and behind it a limit. -/
def KeepsLimit (dialect : Dialect) (count : Nat) (query : Query) : Prop :=
  ∀ text, query.sql dialect = .ok text →
    ∃ rest, query.unlimited.sql dialect = .ok rest ∧
      text.toList = rest.toList ++ " limit ".toList ++ Number.digits count

/-- A delete that is written with joins. -/
structure DeletesJoined (dialect : Dialect) (query : Query) : Prop where
  isDelete : query.kind = .delete
  joined : query.joins ≠ []
  written : ∃ text, query.sql dialect = .ok text

variable {dialect : Dialect} {query : Query}

/-- No other dialect has joins in a delete. -/
theorem DeletesJoined.mysql (deletes : query.DeletesJoined dialect) : dialect = .mysql := by
  cases dialect with
  | mysql => rfl
  | sqlite =>
    have refused : query.Refused .sqlite .unsupportedOperation :=
      .joined (.inr deletes.isDelete) ⟨rfl, deletes.joined⟩
    exact absurd refused (sql_eq_ok_iff.mp deletes.written _)

/-- A delete with joins does not look at its limit. -/
theorem sql_unlimited_of_joined (isDelete : query.kind = .delete) (joined : query.joins ≠ []) :
    query.unlimited.sql dialect = query.sql dialect := by
  have hasJoins : query.hasJoins = true := by simp [Frame.hasJoins, joined]
  have hasJoinsToo : query.unlimited.hasJoins = true := hasJoins
  have isDeleteToo : query.unlimited.kind = .delete := isDelete
  have delete : ∀ table,
      Sql.delete dialect table query.unlimited = Sql.delete dialect table query := by
    intro table
    rw [Sql.delete, Sql.delete, if_pos hasJoins, if_pos hasJoinsToo]
    rfl
  rw [sql, sql, compile, compile, isDelete, isDeleteToo]
  simp only [delete]
  rfl

theorem mutationTail_eq_unlimited : Sql.mutationTail dialect query =
    Sql.mutationTail dialect query.unlimited ++ Sql.limit query.pagination := by
  have unlimited : Sql.mutationTail dialect query.unlimited =
      Sql.wheres dialect query.conditions ++ Sql.orders dialect query.orders :=
    List.append_nil _
  rw [unlimited, Sql.mutationTail]

theorem update_eq_unlimited (table : Reference) : Sql.update dialect table query =
    Sql.update dialect table query.unlimited ++ Sql.limit query.pagination := by
  rw [Sql.update, mutationTail_eq_unlimited, ← List.append_assoc]
  rfl

theorem delete_eq_unlimited (alone : query.joins = []) (table : Reference) :
    Sql.delete dialect table query =
      Sql.delete dialect table query.unlimited ++ Sql.limit query.pagination := by
  have noJoins : ¬ query.hasJoins = true := by simp [Frame.hasJoins, alone]
  have noJoinsToo : ¬ query.unlimited.hasJoins = true := noJoins
  rw [Sql.delete, Sql.delete, if_neg noJoins, if_neg noJoinsToo, mutationTail_eq_unlimited,
    ← List.append_assoc]

/-- Every update, and every delete without joins, compiles to its unlimited statement with the
limit behind it. -/
theorem Compiled.unlimited (mutates : query.Mutates)
    (unjoined : ¬ (query.kind = .delete ∧ query.joins ≠ [])) {statement : Fragment}
    (compiled : Compiled dialect query statement) :
    ∃ rest, Compiled dialect query.unlimited rest ∧
      statement = rest ++ Sql.limit query.pagination := by
  cases compiled with
  | select isSelect | insert isInsert => simp_all [Mutates]
  | @update isUpdate allowed table known assigned writable =>
    exact ⟨_, @Compiled.update dialect query.unlimited isUpdate allowed table known assigned
      writable, update_eq_unlimited table⟩
  | @delete isDelete allowed table known writable =>
    have alone : query.joins = [] := by simpa [isDelete] using unjoined
    exact ⟨_, @Compiled.delete dialect query.unlimited isDelete allowed table known writable,
      delete_eq_unlimited alone table⟩

theorem keepsLimit_of_unjoined {count : Nat} (limited : query.pagination.limit? = some count)
    (mutates : query.Mutates) (unjoined : ¬ (query.kind = .delete ∧ query.joins ≠ [])) :
    query.KeepsLimit dialect count := by
  have limit : (Sql.limit query.pagination).text = " limit ".toList ++ Number.digits count := by
    rw [Sql.limit, limited, Fragment.text_append, Fragment.text_fixed, Sql.number,
      Fragment.text_text]
  intro text written
  obtain ⟨statement, compiled, same⟩ := sql_eq_ok_iff_compiled.mp written
  obtain ⟨rest, without, rfl⟩ := compiled.unlimited mutates unjoined
  refine ⟨String.ofList rest.text,
    sql_eq_ok_iff_compiled.mpr ⟨rest, without, String.toList_ofList⟩, ?_⟩
  rw [same, String.toList_ofList, Fragment.text_append, limit, List.append_assoc]

theorem DeletesJoined.not_keepsLimit (deletes : query.DeletesJoined dialect) (count : Nat) :
    ¬ query.KeepsLimit dialect count := by
  intro keeps
  obtain ⟨text, written⟩ := deletes.written
  obtain ⟨rest, without, limited⟩ := keeps text written
  -- the statement is its own unlimited one, so there is no place for a limit behind it
  rw [sql_unlimited_of_joined deletes.isDelete deletes.joined, written] at without
  obtain rfl := Except.ok.inj without
  have length := congrArg List.length limited
  simp at length

end Query

namespace Builder

/-- After calls on any builder that leave an update or a delete with a limit in force, the
statement ends with that limit, or is refused, unless it is a delete that is written with joins.
That one is written, in the dialect that has it, as if no limit had been set. -/
theorem limit_kept_iff (calls : List Call) (builder : Builder)
    (mutates : (Call.runAll calls builder).query.Mutates) {count : Nat}
    (limited : (calls.filterMap Call.limit?).getLast?.or builder.limit? = some count)
    (dialect : Dialect) :
    let query := (Call.runAll calls builder).query
    query.pagination.limit? = some count ∧
      (query.KeepsLimit dialect count ↔ ¬ query.DeletesJoined dialect) ∧
      (query.DeletesJoined dialect → dialect = .mysql ∧
        query.unlimited.sql dialect = query.sql dialect) := by
  intro query
  have inForce : query.pagination.limit? = some count :=
    (Call.limit?_runAll calls builder).trans limited
  refine ⟨inForce, ⟨?_, ?_⟩, ?_⟩
  · intro keeps deletes
    exact deletes.not_keepsLimit count keeps
  · intro allowed text written
    refine Query.keepsLimit_of_unjoined inForce mutates ?_ text written
    rintro ⟨isDelete, joined⟩
    exact allowed ⟨isDelete, joined, text, written⟩
  · intro deletes
    exact ⟨deletes.mysql, Query.sql_unlimited_of_joined deletes.isDelete deletes.joined⟩

/-- A second page of five on a delete with a join. The limit of zero behind it sets none. -/
theorem limit_kept_iff_joined :
    let calls : List Call := [.delete, .limit 9,
      .joinColumns .inner "posts" "posts.user_id" .equal "users.id", .page 2 5, .limit 0]
    let builder := Builder.table .mysql "users"
    let query := (Call.runAll calls builder).query
    query.Mutates ∧ (calls.filterMap Call.limit?).getLast?.or builder.limit? = some 5 ∧
      query.pagination.limit? = some 5 ∧
      (query.KeepsLimit .mysql 5 ↔ ¬ query.DeletesJoined .mysql) ∧
      (query.DeletesJoined .mysql → Dialect.mysql = .mysql ∧
        query.unlimited.sql .mysql = query.sql .mysql) := by
  intro calls builder query
  have mutates : query.Mutates := .inr rfl
  have limited : (calls.filterMap Call.limit?).getLast?.or builder.limit? = some 5 := by decide
  exact ⟨mutates, limited, limit_kept_iff calls builder mutates limited .mysql⟩

/-- No more than five users are to be deleted, but all that have a post are. -/
theorem limit_lost_with_joins :
    let query := (Call.runAll
      [.delete, .joinColumns .inner "posts" "posts.user_id" .equal "users.id", .limit 5]
      (Builder.table .mysql "users")).query
    query.Mutates ∧ query.pagination.limit? = some 5 ∧
      ∃ text, query.sql .mysql = .ok text ∧ ¬ " limit 5".toList <:+ text.toList := by
  intro query
  refine ⟨.inr rfl, by decide, _, rfl, ?_⟩
  rw [String.toList_ofList]
  decide +kernel

end Builder

end FluentSql
