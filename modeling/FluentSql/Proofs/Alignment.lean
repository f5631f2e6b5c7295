import FluentSql.Proofs.Draft
import FluentSql.Proofs.QuestionMark

/-!
# Placeholders and bindings

A builder sorts its values into buckets while calls are made; a statement writes its
placeholders clause by clause. `Builder.executionBindings_aligned` says that both give the
same order: with the execution bindings put in for the question marks, a statement reads
like a draft, in which every call has written its own values in place.
-/

namespace FluentSql

open Sql Fragment

namespace Operator

/-- An operator that can be written has no question mark. -/
theorem unmarked_of_writable {operator : Operator} (writable : operator.fault? = none) :
    '?' ∉ operator.text.toList := by
  cases operator with
  | other text =>
    intro member
    have nonempty : text.toList ≠ [] := List.ne_nil_of_mem member
    have isMember : '?' ∈ text.toList := member
    simp [fault?, nonempty, isMember] at writable
  | _ => decide

end Operator

namespace Query

variable {query : Query} {dialect : Dialect}

theorem writable_of_checkOperators (checked : query.checkOperators = .ok ()) :
    ∀ operator ∈ query.operators, '?' ∉ operator.text.toList := by
  intro operator member
  unfold checkOperators at checked
  split at checked
  · cases checked
  · rename_i none
    exact Operator.unmarked_of_writable (List.findSome?_eq_none_iff.mp none operator member)

/-- An insert that has no joins and no conditions, and whose rows have the same columns in
the same order. -/
structure PlainInsert (query : Query) : Prop where
  joins : query.joins = []
  conditions : query.conditions = []
  rows : ∀ row ∈ query.rows, ∀ other ∈ query.rows, row.keys = other.keys

/-- The only question marks of a statement are its placeholders. -/
theorem unmarked_compile {statement : Fragment} (written : query.compile dialect = .ok statement)
    (unmarked : ∀ reference ∈ query.references, '?' ∉ reference.toList)
    (inserted : query.kind = .insert → query.PlainInsert) :
    ∀ chars, .text chars ∈ statement → '?' ∉ chars := by
  intro chars member
  refine (query.traced_compile written chars member).unmarked unmarked ?_
  cases compile_eq_ok_iff.mp written with
  | select _ writable => exact writable_of_checkOperators writable
  | insert isInsert =>
    have plain := inserted isInsert
    intro operator used
    simp [operators, plain.joins, plain.conditions, Condition.allOperators] at used
  | update _ _ _ _ writable => exact writable_of_checkOperators writable
  | delete _ _ _ writable => exact writable_of_checkOperators writable

end Query

namespace Draft

variable (dialect : Dialect) (query : Query) (draft : Draft)

/-- The where part. -/
def wheres : List Symbol :=
  if draft.conditions.isEmpty then [] else plain (fixed " where ") ++ inlineChain draft.conditions

/-- What follows the assignments of an update or the table of a delete. -/
def mutationTail : List Symbol :=
  draft.wheres ++ plain (orders dialect query.orders ++ limit query.pagination)

/-- A select. -/
def select : List Symbol :=
  plain (selectHead dialect query) ++
    (match query.table? with
      | some table => plain (fixed " from " ++ reference dialect table)
      | none => []) ++
    draft.joins ++ draft.wheres ++
    plain (groups dialect query.groups ++ orders dialect query.orders ++ limit query.pagination ++
      offset query.pagination ++ lock dialect query.lock?)

/-- An insert, row by row. -/
def insert (table : Reference) (first : Row) : List Symbol :=
  plain (fixed "insert into " ++ reference dialect table ++ fixed " (" ++
    columnList dialect first.keys ++ fixed ") values ") ++
    List.intercalate (plain (fixed ", "))
      (draft.rows.map fun row => inlineParenthesized (inlineList row.values))

/-- An update, assignment by assignment. -/
def update (table : Reference) : List Symbol :=
  plain (fixed "update " ++ reference dialect table) ++ draft.joins ++ plain (fixed " set ") ++
    List.intercalate (plain (fixed ", "))
      (draft.updates.entries.map fun entry => inlineAssignment dialect entry.1 entry.2) ++
    draft.mutationTail dialect query

/-- A delete. -/
def delete (table : Reference) : List Symbol :=
  if query.hasJoins then
    plain (fixed "delete " ++ deletedName dialect table ++ fixed " from " ++
      reference dialect table) ++ draft.joins ++ draft.wheres
  else plain (fixed "delete from " ++ reference dialect table) ++ draft.mutationTail dialect query

/-- The statement of a draft. What has no values is taken from the query. -/
def statement : List Symbol :=
  match query.kind, query.table? with
  | .select, _ => draft.select dialect query
  | .insert, some table =>
    match draft.rows with
    | [] => []
    | first :: _ => draft.insert dialect table first
  | .update, some table => draft.update dialect query table
  | .delete, some table => draft.delete dialect query table
  | _, none => []

end Draft

namespace Tracks

variable {dialect : Dialect} {query : Query} {draft : Draft}

theorem renders_wheres (tracks : Tracks dialect query draft) :
    Renders (wheres dialect query.conditions) query.buckets.filter.toList draft.wheres := by
  have isEmpty := tracks.conditions.isEmpty_eq
  rw [conditionParts_eq_map, List.isEmpty_map] at isEmpty
  rw [wheres, Draft.wheres, isEmpty]
  split
  · rename_i none
    have conditions := tracks.conditions
    rw [List.isEmpty_iff.mp none] at conditions
    rw [conditions.values_eq_nil]
    exact .nil
  · exact (renders_plain rfl).append_left tracks.conditions.chain

theorem renders_mutationTail (tracks : Tracks dialect query draft) :
    Renders (mutationTail dialect query) query.buckets.filter.toList
      (draft.mutationTail dialect query) := by
  have rest : placeholders (orders dialect query.orders ++ limit query.pagination) = 0 := by simp
  rw [mutationTail, List.append_assoc]
  exact tracks.renders_wheres.append_right (renders_plain rest)

theorem renders_select (tracks : Tracks dialect query draft) :
    Renders (Sql.select dialect query)
      (query.buckets.join.toList ++ query.buckets.filter.toList) (draft.select dialect query) := by
  have head : placeholders (selectHead dialect query) = 0 := by simp
  have rest : placeholders (groups dialect query.groups ++ orders dialect query.orders ++
      limit query.pagination ++ offset query.pagination ++ lock dialect query.lock?) = 0 := by simp
  have clauses := (tracks.joins.append tracks.renders_wheres).append_right (renders_plain rest)
  rw [Sql.select, tracks.aggregate, selectTail, Draft.select]
  cases query.table? with
  | none =>
    have whole := (renders_plain head).append_left clauses
    simpa [List.append_assoc] using whole
  | some table =>
    have source : Renders (fixed " from " ++ reference dialect table) []
        (plain (fixed " from " ++ reference dialect table)) := renders_plain rfl
    have whole := (renders_plain head).append_left (source.append_left clauses)
    simpa [List.append_assoc] using whole

theorem renders_update (tracks : Tracks dialect query draft) (table : Reference) :
    Renders (Sql.update dialect table query)
      (query.buckets.join.toList ++ query.updates.values ++ query.buckets.filter.toList)
      (draft.update dialect query table) := by
  have assignments : Renders (separated ", " (query.updates.keys.map (assignment dialect)))
      query.updates.values (List.intercalate (plain (fixed ", "))
        (draft.updates.entries.map fun entry => inlineAssignment dialect entry.1 entry.2)) := by
    have each : Renders
        (separated ", " (query.updates.entries.map fun entry => assignment dialect entry.1))
        (query.updates.entries.flatMap fun entry => [entry.2])
        (List.intercalate (plain (fixed ", "))
          (query.updates.entries.map fun entry => inlineAssignment dialect entry.1 entry.2)) :=
      renders_separated ", " fun entry _ => renders_assignment entry.1 entry.2
    rw [← List.map_eq_flatMap] at each
    rw [← tracks.updates]
    simpa [Dictionary.keys, Dictionary.values, Function.comp_def] using each
  have opening : Renders (fixed "update " ++ reference dialect table) []
      (plain (fixed "update " ++ reference dialect table)) := renders_plain rfl
  exact (((opening.append_left tracks.joins).append_right (renders_plain rfl)).append
    assignments).append tracks.renders_mutationTail

theorem renders_delete (tracks : Tracks dialect query draft) (table : Reference) :
    Renders (Sql.delete dialect table query)
      (query.buckets.join.toList ++ query.buckets.filter.toList)
      (draft.delete dialect query table) := by
  have name : placeholders (deletedName dialect table) = 0 := by
    unfold deletedName
    split <;> rfl
  have opening : placeholders (fixed "delete " ++ deletedName dialect table ++ fixed " from " ++
      reference dialect table) = 0 := by simp [name]
  unfold Sql.delete Draft.delete
  split
  · exact ((renders_plain opening).append_left tracks.joins).append tracks.renders_wheres
  · rename_i noJoins
    have isEmpty : query.joins = [] := by simpa [Frame.hasJoins] using noJoins
    have joins := tracks.joins
    rw [isEmpty] at joins
    rw [joins.eq_nil.1]
    exact (renders_plain rfl).append_left tracks.renders_mutationTail

theorem renders_insert (tracks : Tracks dialect query draft) (table : Reference) {first : Row}
    (sizes : ∀ row ∈ draft.rows, row.keys = first.keys) :
    Renders (Sql.insert dialect table first query.rows) query.buckets.inserts.toList
      (draft.insert dialect table first) := by
  have lengths : ∀ row ∈ draft.rows, row.values.length = first.size := by
    intro row member
    rw [row.length_values, ← row.length_keys, sizes row member, first.length_keys]
  rw [tracks.inserts, tracks.rows]
  exact renders_rows table lengths

theorem executionBindings_of_ne_update (tracks : Tracks dialect query draft)
    (other : query.kind ≠ .update) :
    query.executionBindings = query.buckets.join.toList ++ query.buckets.filter.toList ++
      query.buckets.inserts.toList := by
  rw [Query.executionBindings_eq_bindings other]
  simp [Query.bindings, Buckets.flatten, Bucket.all, Buckets.get, tracks.select, tracks.having,
    tracks.order]

theorem executionBindings_of_update (tracks : Tracks dialect query draft)
    (isUpdate : query.kind = .update) :
    query.executionBindings = query.buckets.join.toList ++ query.updates.values ++
      query.buckets.filter.toList ++ query.buckets.inserts.toList := by
  rw [Query.executionBindings_eq_of_update isUpdate]
  simp [Bucket.all, Buckets.get, tracks.select, tracks.having, tracks.order]

/-- A compiled statement asks for its execution bindings in order. -/
theorem renders_compile (tracks : Tracks dialect query draft) {statement : Fragment}
    (noRows : query.kind ≠ .insert → draft.rows = [])
    (inserted : query.kind = .insert → query.PlainInsert)
    (written : query.compile dialect = .ok statement) :
    Renders statement query.executionBindings (draft.statement dialect query) := by
  have noInserts : query.kind ≠ .insert → query.buckets.inserts.toList = [] := by
    intro other
    rw [tracks.inserts, noRows other]
    rfl
  cases Query.compile_eq_ok_iff.mp written with
  | select isSelect =>
    rw [tracks.executionBindings_of_ne_update (by simp [isSelect]), noInserts (by simp [isSelect]),
      List.append_nil, Draft.statement, isSelect]
    exact tracks.renders_select
  | @insert isInsert table known first rest rows =>
    have plain := inserted isInsert
    have joins := tracks.joins
    have conditions := tracks.conditions
    rw [plain.joins] at joins
    rw [plain.conditions] at conditions
    have noValues : query.executionBindings = query.buckets.inserts.toList := by
      rw [tracks.executionBindings_of_ne_update (by simp [isInsert]), joins.eq_nil.1,
        conditions.eq_nil.1]
      rfl
    have sizes : ∀ row ∈ draft.rows, row.keys = first.keys := by
      intro row member
      rw [← tracks.rows] at member
      exact plain.rows row member first (by simp [rows])
    have isDraft : draft.statement dialect query = draft.insert dialect table first := by
      rw [Draft.statement, isInsert, known, ← tracks.rows, rows]
    rw [noValues, isDraft, ← rows]
    exact tracks.renders_insert table sizes
  | @update isUpdate _ table known =>
    rw [tracks.executionBindings_of_update isUpdate, noInserts (by simp [isUpdate]),
      List.append_nil, Draft.statement, isUpdate, known]
    exact tracks.renders_update table
  | @delete isDelete _ table known =>
    rw [tracks.executionBindings_of_ne_update (by simp [isDelete]), noInserts (by simp [isDelete]),
      List.append_nil, Draft.statement, isDelete, known]
    exact tracks.renders_delete table

end Tracks

namespace Draft

/-- The rows of a draft are those of the calls, in order. -/
theorem rows_foldl (dialect : Dialect) (calls : List Call) (draft : Draft) :
    (calls.foldl (extend dialect) draft).rows = draft.rows ++ calls.flatMap Call.addedRows := by
  induction calls generalizing draft with
  | nil => simp
  | cons call rest inductionHypothesis =>
    rw [List.foldl_cons, inductionHypothesis, List.flatMap_cons, ← List.append_assoc]
    rfl

end Draft

/-- Whether all calls that start a statement start one of a kind. -/
def Call.SingleKind (calls : List Call) : Prop :=
  ∃ kind, ∀ call ∈ calls, call.initiates? = none ∨ call.initiates? = some kind

namespace Builder

variable {start : Builder} {calls : List Call} {dialect : Dialect}

theorem Fresh.tracks (fresh : start.Fresh) (keeps : ∀ call ∈ calls, call.keepsBuckets) :
    Tracks dialect (Call.runAll calls start).query (Draft.ofCalls dialect calls) := by
  apply Call.tracks_runAll keeps
  cases fresh with
  | new => exact .empty none
  | table _ table => exact .empty (some table)

/-- Only a statement that inserts has rows. -/
theorem Fresh.rows_eq_nil (fresh : start.Fresh) (single : Call.SingleKind calls)
    (other : (Call.runAll calls start).query.kind ≠ .insert) :
    (Draft.ofCalls dialect calls).rows = [] := by
  rw [Draft.ofCalls, Draft.rows_foldl, Draft.empty, List.nil_append, List.flatMap_eq_nil_iff]
  intro call member
  cases call with
  | insert rows =>
    obtain ⟨kind, one⟩ := single
    have isKind : kind = .insert := by
      rcases one _ member with none | isKind
      · cases none
      · exact (Option.some.inj isKind).symm
    have unset : start.query.kind? = none := by
      cases fresh <;> rfl
    have chosen := Call.kind_runAll calls start
    rw [unset, Option.none_or] at chosen
    rcases found : calls.findSome? Call.initiates? with _ | started
    · have none := List.findSome?_eq_none_iff.mp found _ member
      cases none
    · obtain ⟨first, isFirst, starts⟩ := List.exists_of_findSome?_eq_some found
      rw [found] at chosen
      have isInsert : started = .insert := by
        rcases one first isFirst with none | isStarted
        · rw [none] at starts
          cases starts
        · rw [isStarted, isKind] at starts
          exact (Option.some.inj starts).symm
      exact absurd (by rw [Frame.kind, chosen, isInsert]; rfl) other
  | _ => rfl

/-- The `k`-th question mark of a statement is the place of the `k`-th execution binding. -/
theorem executionBindings_aligned {text : String} (fresh : start.Fresh)
    (keeps : ∀ call ∈ calls, call.keepsBuckets) (single : Call.SingleKind calls)
    (inserted : (Call.runAll calls start).query.kind = .insert →
      (Call.runAll calls start).query.PlainInsert)
    (unmarked : ∀ reference ∈ (Call.runAll calls start).query.references,
      '?' ∉ reference.toList)
    (written : (Call.runAll calls start).query.sql dialect = .ok text) :
    text.toList.count '?' = (Call.runAll calls start).executionBindings.length ∧
      substitute text.toList (Call.runAll calls start).executionBindings =
        (Draft.ofCalls dialect calls).statement dialect (Call.runAll calls start).query := by
  have tracks : Tracks dialect (Call.runAll calls start).query (Draft.ofCalls dialect calls) :=
    fresh.tracks keeps
  unfold Query.sql at written
  split at written
  · rename_i statement compiled
    obtain rfl := Except.ok.inj written
    have renders := tracks.renders_compile (fresh.rows_eq_nil single) inserted compiled
    rw [String.toList_ofList]
    exact renders.substitute_eq (Query.unmarked_compile compiled unmarked inserted)
  · cases written

/-- Conditions before joins, a group in a group, an empty list and null. -/
theorem executionBindings_aligned_mixed :
    let calls : List Call :=
      [.compare .and "a" .equal (.text "first"),
        .group .or [.among .and "b" (.many [.bool true, .bool false]) true,
          .group .and [.compare .or "c" .notEqual .null,
            .between .or "d" (.text "x") (.text "y") false],
          .among .or "e" .none false],
        .joinWith .left "t" [.compareValue .and "f" .inList (.text "third")],
        .update (.ofList [("g->h", .text "second")])]
    let builder := Call.runAll calls (Builder.table .mysql "t")
    let text := String.ofList (Sql.update .mysql "t" builder.query).text
    text.toList.count '?' = builder.executionBindings.length ∧
      substitute text.toList builder.executionBindings =
        (Draft.ofCalls .mysql calls).statement .mysql builder.query :=
  executionBindings_aligned (.table .mysql "t") (by decide) ⟨.update, by decide⟩
    (fun isInsert => by cases isInsert) (by decide) rfl

end Builder

end FluentSql
