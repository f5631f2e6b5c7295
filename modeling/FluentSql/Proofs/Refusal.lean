import FluentSql.Proofs.Sending

/-!
# Which queries are refused

`Query.Refused` says why a query cannot be written in a dialect, by the kind of the fault
and with the order in which the reasons count. It speaks of the query alone: of the
operators, `Query.Compares` finds those in the joins and conditions, in groups at any depth.
A query is refused with a kind of fault exactly if it compiles to a fault of that kind, and
what is not refused is written; executing a builder reaches the connection accordingly.
-/

namespace FluentSql

namespace Operator

/-- An operator that no statement can hold: an unknown one that is empty or has a `?`. -/
def Unwritable (operator : Operator) : Prop :=
  ∃ text, operator = .other text ∧ (text = "" ∨ '?' ∈ text.toList)

theorem fault?_eq_none_iff {operator : Operator} :
    operator.fault? = none ↔ ¬ operator.Unwritable := by
  cases operator with
  | other text =>
    have isEmpty : text.toList = [] ↔ text = "" := String.toList_eq_nil_iff
    by_cases empty : text = ""
    · simp [fault?, Unwritable, empty]
    · by_cases marked : '?' ∈ text.toList
      · simp [fault?, Unwritable, isEmpty, empty, marked]
      · simp [fault?, Unwritable, isEmpty, empty, marked]
  | _ => simp [fault?, Unwritable]

theorem kind_of_fault? {operator : Operator} {fault : Fault}
    (unwritable : operator.fault? = some fault) : fault.kind = .invalidArgument := by
  unfold fault? at unwritable
  split at unwritable
  · split at unwritable
    · cases unwritable
      rfl
    · split at unwritable
      · cases unwritable
        rfl
      · cases unwritable
  · cases unwritable

end Operator

/-- A constraint compares by an operator, by itself or in a group at any depth. -/
inductive Constraint.Compares (operator : Operator) : Constraint → Prop where
  | columns {first second : Reference} : Compares operator (.columns first operator second)
  | value {column : Reference} : Compares operator (.value column operator)
  | group {constraints : List (Connector × Constraint)} {member : Connector × Constraint}
      (isMember : member ∈ constraints) (compares : Compares operator member.2) :
      Compares operator (.group constraints)

/-- A condition compares by an operator, by itself or in a group at any depth. -/
inductive Condition.Compares (operator : Operator) : Condition → Prop where
  | compare {column : Reference} {value : Bind} :
      Compares operator (.compare column operator value)
  | datePart {unit : DateUnit} {column : Reference} {value : Bind} :
      Compares operator (.datePart unit column operator value)
  | jsonLength {column : Reference} {value : Bind} :
      Compares operator (.jsonLength column operator value)
  | group {frame : Frame} {conditions : List (Connector × Condition)}
      {member : Connector × Condition} (isMember : member ∈ conditions)
      (compares : Compares operator member.2) : Compares operator (.group frame conditions)

theorem Constraint.mem_operators_iff {operator : Operator} {constraint : Constraint} :
    operator ∈ constraint.operators ↔ constraint.Compares operator := by
  induction constraint using Constraint.induction with
  | columns first other second =>
    rw [operators, List.mem_singleton]
    exact ⟨by rintro rfl; exact .columns, by rintro ⟨⟩; rfl⟩
  | value column other =>
    rw [operators, List.mem_singleton]
    exact ⟨by rintro rfl; exact .value, by rintro ⟨⟩; rfl⟩
  | among | null => exact ⟨by simp [operators], by rintro ⟨⟩⟩
  | group constraints inductionHypothesis =>
    rw [operators, allOperators_eq_flatMap, List.mem_flatMap]
    constructor
    · rintro ⟨member, isMember, found⟩
      exact .group isMember ((inductionHypothesis member isMember).mp found)
    · intro compares
      cases compares with
      | @group _ member isMember inner =>
        exact ⟨member, isMember, (inductionHypothesis member isMember).mpr inner⟩

theorem Condition.mem_operators_iff {operator : Operator} {condition : Condition} :
    operator ∈ condition.operators ↔ condition.Compares operator := by
  induction condition using Condition.induction with
  | compare column other value =>
    rw [operators, List.mem_singleton]
    exact ⟨by rintro rfl; exact .compare, by rintro ⟨⟩; rfl⟩
  | datePart unit column other value =>
    rw [operators, List.mem_singleton]
    exact ⟨by rintro rfl; exact .datePart, by rintro ⟨⟩; rfl⟩
  | jsonLength column other value =>
    rw [operators, List.mem_singleton]
    exact ⟨by rintro rfl; exact .jsonLength, by rintro ⟨⟩; rfl⟩
  | between | among | null | jsonContains => exact ⟨by simp [operators], by rintro ⟨⟩⟩
  | group frame conditions inductionHypothesis =>
    rw [operators, allOperators_eq_flatMap, List.mem_flatMap]
    constructor
    · rintro ⟨member, isMember, found⟩
      exact .group isMember ((inductionHypothesis member isMember).mp found)
    · intro compares
      cases compares with
      | @group _ _ member isMember inner =>
        exact ⟨member, isMember, (inductionHypothesis member isMember).mpr inner⟩

namespace Query

/-- A query compares by an operator in the constraints of a join or in a condition. -/
def Compares (query : Query) (operator : Operator) : Prop :=
  (∃ join ∈ query.joins, ∃ part ∈ join.constraints, part.2.Compares operator) ∨
    ∃ part ∈ query.conditions, part.2.Compares operator

theorem mem_operators_iff {query : Query} {operator : Operator} :
    operator ∈ query.operators ↔ query.Compares operator := by
  simp only [operators, Compares, List.mem_append, List.mem_flatMap,
    Constraint.allOperators_eq_flatMap, Condition.allOperators_eq_flatMap,
    Constraint.mem_operators_iff, Condition.mem_operators_iff]

theorem checkOperators_eq_ok_iff {query : Query} :
    query.checkOperators = .ok () ↔
      ∀ operator, query.Compares operator → ¬ operator.Unwritable := by
  have none : query.checkOperators = .ok () ↔
      query.operators.findSome? Operator.fault? = none := by
    unfold checkOperators
    split <;> simp_all
  simp only [none, List.findSome?_eq_none_iff, mem_operators_iff, Operator.fault?_eq_none_iff]

/-- An operator that cannot be written is an invalid argument. -/
theorem kind_of_checkOperators {query : Query} {fault : Fault}
    (refused : query.checkOperators = .error fault) : fault.kind = .invalidArgument := by
  unfold checkOperators at refused
  split at refused
  · rename_i found
    cases refused
    obtain ⟨operator, -, unwritable⟩ := List.exists_of_findSome?_eq_some found
    exact Operator.kind_of_fault? unwritable
  · cases refused

/-- The statement changes rows that are there. -/
def Mutates (query : Query) : Prop := query.kind = .update ∨ query.kind = .delete

/-- The dialect has no joins in statements that change rows, and the query has one. -/
def JoinsInVain (dialect : Dialect) (query : Query) : Prop :=
  dialect = .sqlite ∧ query.joins ≠ []

/-- There is no table to change, or nothing to assign. -/
def LacksChange (query : Query) : Prop :=
  query.table? = none ∨ query.kind = .update ∧ query.updates.entries = []

/-- Why a query cannot be written: a reason counts only if those before it do not apply. An
insert is not looked at for its operators, and a select for nothing else. -/
inductive Refused (dialect : Dialect) (query : Query) : FaultKind → Prop where
  | rowless (isInsert : query.kind = .insert) (lacks : query.table? = none ∨ query.rows = []) :
      Refused dialect query .compilationPrecondition
  | joined (mutates : query.Mutates) (joins : query.JoinsInVain dialect) :
      Refused dialect query .unsupportedOperation
  | changeless (mutates : query.Mutates) (joins : ¬ query.JoinsInVain dialect)
      (lacks : query.LacksChange) : Refused dialect query .compilationPrecondition
  | unwritable (complete : query.kind = .select ∨
        query.Mutates ∧ ¬ query.JoinsInVain dialect ∧ ¬ query.LacksChange)
      {operator : Operator} (compares : query.Compares operator)
      (unwritable : operator.Unwritable) : Refused dialect query .invalidArgument

variable {dialect : Dialect} {query : Query} {kind : FaultKind}

theorem checkJoins_of_joinsInVain (joins : query.JoinsInVain dialect)
    (statement : StatementKind) :
    query.checkJoins dialect statement = .error (.joinedMutation statement) := by
  obtain ⟨rfl, some⟩ := joins
  simp [checkJoins, Frame.hasJoins, Dialect.joinsMutations, some]

theorem checkJoins_of_not_joinsInVain (joins : ¬ query.JoinsInVain dialect)
    (statement : StatementKind) : query.checkJoins dialect statement = .ok () := by
  cases dialect with
  | mysql => simp [checkJoins, Dialect.joinsMutations]
  | sqlite =>
    have none : query.joins = [] := by simpa [JoinsInVain] using joins
    simp [checkJoins, Frame.hasJoins, none]

/-- An update and a delete are checked alike, but that an update has to assign something. -/
theorem compile_of_mutates (mutates : query.Mutates) :
    query.compile dialect =
      (query.checkJoins dialect query.kind).bind fun _ =>
      (query.requireTable query.kind).bind fun table =>
      if query.kind = .update ∧ query.updates.isEmpty then .error .noAssignments
      else query.checkOperators.map fun _ =>
        if query.kind = .update then Sql.update dialect table query
        else Sql.delete dialect table query := by
  unfold compile
  rcases mutates with isUpdate | isDelete
  · rw [isUpdate]
    cases query.checkJoins dialect .update with
    | error fault => rfl
    | ok =>
      cases query.requireTable .update with
      | error fault => rfl
      | ok table => cases query.updates.isEmpty <;> cases query.checkOperators <;> rfl
  · rw [isDelete]
    cases query.checkJoins dialect .delete with
    | error fault => rfl
    | ok =>
      cases query.requireTable .delete with
      | error fault => rfl
      | ok table => cases query.checkOperators <;> rfl

/-- What is refused does not compile, with a fault of that kind. -/
theorem Refused.compile (refused : query.Refused dialect kind) :
    ∃ fault, query.compile dialect = .error fault ∧ fault.kind = kind := by
  cases refused with
  | rowless isInsert lacks =>
    unfold Query.compile
    rw [isInsert]
    cases known : query.table? with
    | none => exact ⟨.missingTable .insert, by rw [requireTable, known]; rfl, rfl⟩
    | some table =>
      have none : query.rows = [] := lacks.resolve_left (by simp [known])
      exact ⟨.noRows, by rw [requireTable, known, none]; rfl, rfl⟩
  | joined mutates joins =>
    rw [compile_of_mutates mutates, checkJoins_of_joinsInVain joins]
    exact ⟨_, rfl, rfl⟩
  | changeless mutates joins lacks =>
    rw [compile_of_mutates mutates, checkJoins_of_not_joinsInVain joins]
    cases known : query.table? with
    | none => exact ⟨.missingTable query.kind, by rw [requireTable, known]; rfl, rfl⟩
    | some table =>
      obtain ⟨isUpdate, empty⟩ := lacks.resolve_left (by simp [known])
      refine ⟨.noAssignments, ?_, rfl⟩
      rw [requireTable, known]
      exact if_pos ⟨isUpdate, List.isEmpty_iff.mpr empty⟩
  | @unwritable complete operator compares unwritable =>
    obtain ⟨fault, refused⟩ : ∃ fault, query.checkOperators = .error fault := by
      cases checked : query.checkOperators with
      | ok => exact absurd unwritable (checkOperators_eq_ok_iff.mp checked operator compares)
      | error fault => exact ⟨fault, rfl⟩
    refine ⟨fault, ?_, kind_of_checkOperators refused⟩
    rcases complete with isSelect | ⟨mutates, joins, change⟩
    · unfold Query.compile
      rw [isSelect, refused]
      rfl
    · obtain ⟨table, known⟩ := Option.ne_none_iff_exists'.mp fun none => change (.inl none)
      rw [compile_of_mutates mutates, checkJoins_of_not_joinsInVain joins, requireTable, known,
        refused]
      refine if_neg fun empty => change (.inr ⟨empty.1, List.isEmpty_iff.mp empty.2⟩)

/-- What is not refused compiles. -/
theorem compile_of_not_refused (accepted : ∀ kind, ¬ query.Refused dialect kind) :
    ∃ statement, query.compile dialect = .ok statement := by
  have writable (complete : query.kind = .select ∨
      query.Mutates ∧ ¬ query.JoinsInVain dialect ∧ ¬ query.LacksChange) :
      query.checkOperators = .ok () :=
    checkOperators_eq_ok_iff.mpr fun operator compares unwritable =>
      accepted _ (.unwritable complete compares unwritable)
  have changes (mutates : query.Mutates) :
      ¬ query.JoinsInVain dialect ∧ ¬ query.LacksChange := by
    have joins : ¬ query.JoinsInVain dialect := fun joins => accepted _ (.joined mutates joins)
    exact ⟨joins, fun lacks => accepted _ (.changeless mutates joins lacks)⟩
  cases kind : query.kind with
  | select => exact ⟨_, compile_eq_ok_iff.mpr (.select kind (writable (.inl kind)))⟩
  | insert =>
    have complete : query.table? ≠ none ∧ query.rows ≠ [] :=
      not_or.mp fun lacks => accepted _ (.rowless kind lacks)
    obtain ⟨table, known⟩ := Option.ne_none_iff_exists'.mp complete.1
    obtain ⟨first, rest, rows⟩ := List.exists_cons_of_ne_nil complete.2
    exact ⟨_, compile_eq_ok_iff.mpr (.insert kind known rows)⟩
  | update =>
    obtain ⟨joins, change⟩ := changes (.inl kind)
    obtain ⟨table, known⟩ := Option.ne_none_iff_exists'.mp fun none => change (.inl none)
    have assigned : query.updates.isEmpty = false := by
      cases empty : query.updates.isEmpty with
      | false => rfl
      | true => exact absurd (.inr ⟨kind, List.isEmpty_iff.mp empty⟩) change
    exact ⟨_, compile_eq_ok_iff.mpr (.update kind (checkJoins_of_not_joinsInVain joins _) known
      assigned (writable (.inr ⟨.inl kind, joins, change⟩)))⟩
  | delete =>
    obtain ⟨joins, change⟩ := changes (.inr kind)
    obtain ⟨table, known⟩ := Option.ne_none_iff_exists'.mp fun none => change (.inl none)
    exact ⟨_, compile_eq_ok_iff.mpr (.delete kind (checkJoins_of_not_joinsInVain joins _) known
      (writable (.inr ⟨.inr kind, joins, change⟩)))⟩

/-- A query compiles to a fault of a kind exactly if it is refused with that kind. -/
theorem compile_eq_error_iff :
    (∃ fault, query.compile dialect = .error fault ∧ fault.kind = kind) ↔
      query.Refused dialect kind := by
  constructor
  · rintro ⟨fault, failed, rfl⟩
    have accepted : ¬ ∀ kind, ¬ query.Refused dialect kind := by
      intro accepted
      obtain ⟨statement, written⟩ := compile_of_not_refused accepted
      simp [failed] at written
    -- some reason applies, and its fault is the one that compiling has given
    obtain ⟨kind, refused⟩ := Classical.not_forall_not.mp accepted
    obtain ⟨same, failedAlike, rfl⟩ := refused.compile
    obtain rfl := Except.error.inj (failed.symm.trans failedAlike)
    exact refused
  · exact Refused.compile

theorem sql_eq_error_iff :
    (∃ fault, query.sql dialect = .error fault ∧ fault.kind = kind) ↔
      query.Refused dialect kind := by
  rw [← compile_eq_error_iff]
  unfold sql
  cases query.compile dialect <;> simp

theorem sql_eq_ok_iff :
    (∃ text, query.sql dialect = .ok text) ↔ ∀ kind, ¬ query.Refused dialect kind := by
  constructor
  · rintro ⟨text, written⟩ kind refused
    obtain ⟨fault, failed, -⟩ := sql_eq_error_iff.mpr refused
    simp [written] at failed
  · intro accepted
    obtain ⟨statement, compiled⟩ := compile_of_not_refused accepted
    exact ⟨String.ofList statement.text, by rw [sql, compiled]⟩

end Query

namespace Builder

variable {σ : Type}

/-- Executing a builder sends its statement once, if it has one to execute, and otherwise
ends without the connection. -/
structure ExecutesOnce (connection : Connection σ) (builder : Builder) (state : σ) : Prop where
  /-- The connection is reached exactly once for a statement that can be written. -/
  reached : ((builder.execute connection.recorded).transcript state).length = 1 ↔
    builder.query.kind ≠ .select ∧ ∃ text, builder.sql = .ok text
  /-- And else it is not reached at all. -/
  unreached : ¬ (builder.query.kind ≠ .select ∧ ∃ text, builder.sql = .ok text) →
    (builder.execute connection.recorded).transcript state = []
  /-- What is sent is the statement with its values, and what is answered is passed on. -/
  answer {text : String} (notSelect : builder.query.kind ≠ .select)
      (written : builder.sql = .ok text) :
    builder.execute connection state =
        connection.execute text builder.executionBindings state ∧
      ∃ granted, (builder.execute connection.recorded).transcript state =
        [⟨.execute text builder.executionBindings, granted⟩]
  /-- An insert without rows succeeds. -/
  rowless (isInsert : builder.query.kind = .insert) (none : builder.query.rows = []) :
    builder.execute connection state = (.ok .nothing, state)
  /-- A select is refused. -/
  select (isSelect : builder.query.kind = .select) :
    builder.execute connection state = (.error .executedSelect, state)
  /-- What cannot be written fails with the reason. -/
  refused {fault : Fault} (notSelect : builder.query.kind ≠ .select)
      (rows : ¬ (builder.query.kind = .insert ∧ builder.query.rows = []))
      (unwritten : builder.sql = .error fault) :
    builder.execute connection state = (.error fault, state)

theorem executesOnce (connection : Connection σ) (builder : Builder) (state : σ) :
    ExecutesOnce connection builder state where
  reached := by
    rw [(builder.sends_execute connection.recorded).transcript state]
    constructor
    · intro once
      apply Classical.byContradiction
      intro unwritten
      rw [builder.executed?_eq_none unwritten] at once
      cases once
    · rintro ⟨notSelect, text, written⟩
      rw [builder.executed?_of_sql_eq_ok notSelect written]
      rfl
  unreached unwritten := by
    rw [(builder.sends_execute connection.recorded).transcript state,
      builder.executed?_eq_none unwritten]
    rfl
  answer notSelect written := by
    refine ⟨by rw [builder.execute_of_sql_eq_ok connection notSelect written], ?_⟩
    rw [(builder.sends_execute connection.recorded).transcript state,
      builder.executed?_of_sql_eq_ok notSelect written]
    exact ⟨_, rfl⟩
  rowless isInsert none := by
    rw [builder.execute_of_rows_eq_nil connection isInsert none]
    rfl
  select isSelect := by
    rw [builder.execute_of_select connection isSelect]
    rfl
  refused notSelect rows unwritten := by
    rw [builder.execute_of_sql_eq_error connection notSelect rows unwritten]
    rfl

/-- In either dialect a builder is refused for the reasons of `Query.Refused` and for no
other, and executing it sends what is not refused once. -/
theorem sql_refused_iff_and_executesOnce (builder : Builder) :
    (∀ dialect kind, (∃ fault, builder.query.sql dialect = .error fault ∧ fault.kind = kind) ↔
      builder.query.Refused dialect kind) ∧
    (∀ dialect, (∃ text, builder.query.sql dialect = .ok text) ↔
      ∀ kind, ¬ builder.query.Refused dialect kind) ∧
    ∀ (connection : Connection σ) (state : σ), ExecutesOnce connection builder state :=
  ⟨fun _ _ => Query.sql_eq_error_iff, fun _ => Query.sql_eq_ok_iff,
    fun connection state => executesOnce connection builder state⟩

end Builder

end FluentSql
