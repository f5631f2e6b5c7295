import FluentSql.Proofs.Sending
import FluentSql.Session.Program

/-!
# What a session remembers

A session remembers one bit. After a program the bit is set exactly if the connection has
refused a statement and the session has had no reason to forget it since
(`Session.failed_after_iff`). Only two actions are reasons to forget: a call of `begin`,
granted or not, and a `commitOrRollback` that has rolled back.
-/

namespace FluentSql

variable {α σ : Type} {held kept : α → Prop}

/-- `held` was true of one element, and `kept` is true of all after it. -/
def Since (held kept : α → Prop) (elements : List α) : Prop :=
  ∃ earlier element later, elements = earlier ++ element :: later ∧ held element ∧
    ∀ element ∈ later, kept element

namespace Since

theorem not_nil : ¬ Since held kept [] := by
  rintro ⟨earlier, element, later, split, -, -⟩
  simp at split

/-- It began with the first element or with a later one. -/
theorem cons_iff {first : α} {rest : List α} :
    Since held kept (first :: rest) ↔
      Since held kept rest ∨ held first ∧ ∀ element ∈ rest, kept element := by
  constructor
  · rintro ⟨earlier, element, later, split, holds, keeps⟩
    cases earlier with
    | nil =>
      obtain ⟨rfl, rfl⟩ := List.cons.inj split
      exact .inr ⟨holds, keeps⟩
    | cons head earlier =>
      exact .inl ⟨earlier, element, later, (List.cons.inj split).2, holds, keeps⟩
  · rintro (⟨earlier, element, later, rfl, holds, keeps⟩ | ⟨holds, keeps⟩)
    · exact ⟨first :: earlier, element, later, rfl, holds, keeps⟩
    · exact ⟨[], first, rest, rfl, holds, keeps⟩

theorem imp {kept' : α → Prop} {elements : List α} (since : Since held kept elements)
    (weaken : ∀ element ∈ elements, kept element → kept' element) : Since held kept' elements := by
  obtain ⟨earlier, element, later, rfl, holds, keeps⟩ := since
  refine ⟨earlier, element, later, rfl, holds, fun after member => ?_⟩
  exact weaken after (List.mem_append_right _ (.tail _ member)) (keeps after member)

/-- What was kept since either of two elements was kept since the later one. -/
theorem and {kept' : α → Prop} {elements : List α} (since : Since held kept elements)
    (since' : Since held kept' elements) :
    Since held (fun element => kept element ∧ kept' element) elements := by
  induction elements with
  | nil => exact (not_nil since).elim
  | cons first rest inductionHypothesis =>
    rw [cons_iff] at since since' ⊢
    rcases since with since | ⟨holds, keeps⟩ <;> rcases since' with since' | ⟨holds', keeps'⟩
    · exact .inl (inductionHypothesis since since')
    · exact .inl (since.imp fun element member kept => ⟨kept, keeps' element member⟩)
    · exact .inl (since'.imp fun element member kept => ⟨keeps element member, kept⟩)
    · exact .inr ⟨holds, fun element member => ⟨keeps element member, keeps' element member⟩⟩

end Since

/-- The message of a call on a session, which depends on whether a statement has failed. -/
def Operation.message (failed : Bool) : Operation → Message
  | .execute sql values => .execute sql values
  | .fetchRow sql values => .fetchRow sql values
  | .fetchRows sql values => .fetchRows sql values
  | .fetchValue sql values => .fetchValue sql values
  | .begin => .begin
  | .commit => .commit
  | .rollback => .rollback
  | .commitOrRollback wantsRollback => if wantsRollback && failed then .rollback else .commit

namespace Session

variable (connection : Connection σ)

/-! ## What is asked of the connection -/

namespace Action

/-- What an action asks of the connection, if anything. -/
def message? (failed : Bool) : Action α → Option Message
  | .operation call => some (call.message failed)
  | .terminal builder call => call.message? builder

/-- All that an action does to the connection is to send its message. -/
theorem state_after (action : Action α) (session : Session σ) :
    (action.after connection session).state =
      (Message.after (asConnection connection) (action.message? session.failed) session).state := by
  cases action with
  | operation call =>
    cases call with
    | commitOrRollback wantsRollback =>
      by_cases wanted : (wantsRollback && session.failed) = true
      · simp [after, run, Operation.run, commitOrRollback_of_wanted wanted, message?,
          Operation.message, wanted, Message.after, Message.send, asConnection]
      · simp [after, run, Operation.run, commitOrRollback_of_not_wanted wanted, message?,
          Operation.message, wanted, Message.after, Message.send, asConnection, forward]
    | _ =>
      simp [after, run, Operation.run, message?, Operation.message, Message.after, Message.send]
  | terminal builder call => exact congrArg Session.state (call.snd_run _ _ _)

end Action

/-- What is asked over a session is asked of the connection behind it. -/
theorem turns_after_recording (message? : Option Message) (session : Session σ) :
    (Message.after (asConnection connection.recorded) message? session.recording).state.turns =
      Message.turns connection message? session.state := by
  cases message? with
  | none => rfl
  | some message =>
    cases message with
    | execute sql values =>
      simp [Message.after, Message.turns, Message.send, asConnection_execute, forward, recording,
        Connection.recorded, Exchange.recorded]
    | begin | commit | rollback | fetchRow | fetchRows | fetchValue =>
      simp [Message.after, Message.turns, Message.send, asConnection, begin, forward, recording,
        Connection.recorded, Exchange.recorded]

theorem Action.turns_entry (action : Action α) (session : Session σ) :
    (action.entry connection session).turns =
      Message.turns connection (action.message? session.failed) session.state :=
  (congrArg Recorded.turns (action.state_after connection.recorded session.recording)).trans
    (turns_after_recording connection _ session)

/-! ## One action -/

/-- The action executes a statement: directly, or by ending a query that changes rows. -/
def Action.Executes : Action α → Prop
  | .operation (.execute _ _) => True
  | .operation _ => False
  | .terminal _ call => call.Executes

/-- A statement was executed, reached the connection, and failed. -/
def Entry.Refused (entry : Entry α) : Prop :=
  entry.action.Executes ∧ entry.turns ≠ [] ∧ ∃ fault, entry.result = .error fault

/-- A reason to forget what has failed before. -/
def Entry.Forgets (entry : Entry α) : Prop :=
  entry.action = .operation .begin ∨
    (∃ wantsRollback, entry.action = .operation (.commitOrRollback wantsRollback)) ∧
      entry.result = .ok (.reply (.committed false))

theorem failed_execute (sql : String) (values : List Bind) (session : Session σ) :
    ((asConnection connection).execute sql values session).2.failed = true ↔
      (∃ fault, ((asConnection connection).execute sql values session).1 = .error fault) ∨
        session.failed = true := by
  rw [asConnection_execute, ← Exchange.toBool_eq_false_iff]
  simp [or_comm]

/-- The bit after executing a builder. A statement that cannot be written does not count. -/
theorem failed_executeBuilder (builder : Builder) (session : Session σ) :
    (builder.execute (asConnection connection) session).2.failed = true ↔
      (Message.turns connection builder.executed? session.state ≠ [] ∧
        ∃ fault, (builder.execute (asConnection connection) session).1 = .error fault) ∨
      session.failed = true := by
  by_cases written : builder.query.kind ≠ .select ∧ ∃ text, builder.sql = .ok text
  · obtain ⟨notSelect, text, written⟩ := written
    rw [builder.execute_of_sql_eq_ok _ notSelect written, failed_execute,
      builder.executed?_of_sql_eq_ok notSelect written]
    simp [Message.turns]
  · rw [builder.sends_execute, builder.executed?_eq_none written]
    simp [Message.after, Message.turns]

/-- A message that asks for rows leaves the bit alone. -/
theorem failed_after_fetch {message? : Option Message}
    (fetches : ∀ message, message? = some message → message.Fetches) (session : Session σ) :
    (Message.after (asConnection connection) message? session).failed = session.failed := by
  cases message? with
  | none => rfl
  | some message =>
    cases message with
    | fetchRow | fetchRows | fetchValue =>
      simp [Message.after, Message.send, asConnection, forward]
    | execute | begin | commit | rollback => exact (fetches _ rfl).elim

namespace Action

/-- Ending a query forgets nothing. -/
theorem not_forgets_terminal (builder : Builder) (call : Terminal α) (session : Session σ) :
    ¬ ((terminal builder call).entry connection session).Forgets := by
  simp [entry, run, Entry.Forgets]

theorem failed_terminal (builder : Builder) (call : Terminal α) (session : Session σ) :
    ((terminal builder call).after connection session).failed = true ↔
      ((terminal builder call).entry connection session).Refused ∨ session.failed = true := by
  by_cases executes : call.Executes
  · unfold Entry.Refused
    rw [turns_entry]
    cases call with
    | execute =>
      refine (failed_executeBuilder connection builder session).trans ?_
      simp [entry, run, Terminal.run, Terminal.keeping, Executes, Terminal.Executes, message?,
        Terminal.message?]
    | insertGetId =>
      -- the id is read off the outcome, so the fault is the same
      have executed := failed_executeBuilder connection builder session
      simpa [after, entry, run, Terminal.run, Terminal.keeping, Builder.insertGetId, Executes,
        Terminal.Executes, message?, Terminal.message?] using executed
    | _ => exact executes.elim
  · have idle : (terminal builder call).after connection session =
        Message.after (asConnection connection) (call.message? builder) session :=
      call.snd_run _ _ _
    rw [idle, failed_after_fetch connection fun _ => Terminal.fetches_of_message? executes]
    simp [entry, Entry.Refused, Executes, executes]

theorem failed_operation (call : Operation) (session : Session σ) :
    ((operation call : Action α).after connection session).failed = true ↔
      ((operation call : Action α).entry connection session).Refused ∨
        session.failed = true ∧
          ¬ ((operation call : Action α).entry connection session).Forgets := by
  unfold Entry.Refused
  rw [turns_entry]
  cases call with
  | execute sql values =>
    simp [after, entry, run, Operation.run, Entry.Forgets, Executes, failed_execute, message?,
      Message.turns]
  | begin =>
    simp [after, entry, run, Operation.run, Entry.Forgets, Executes, asConnection, begin, forward]
  | commitOrRollback wantsRollback =>
    by_cases wanted : (wantsRollback && session.failed) = true
    · have failed : session.failed = true := (Bool.and_eq_true_iff.mp wanted).2
      have refused : (connection.rollback session.state).1.toBool = false ↔
          ∀ value, (connection.rollback session.state).1 ≠ .ok value := by
        cases (connection.rollback session.state).1 <;> simp [Except.toBool]
      simp [after, entry, run, Operation.run, Entry.Forgets, Executes,
        commitOrRollback_of_wanted wanted, failed, forward, refused]
    · simp [after, entry, run, Operation.run, Entry.Forgets, Executes, forward,
        commitOrRollback_of_not_wanted wanted]
  | commit | rollback | fetchRow | fetchRows | fetchValue =>
    simp [after, entry, run, Operation.run, Entry.Forgets, Executes, asConnection, forward]

/-- What one action does to the bit. -/
theorem failed_after (action : Action α) (session : Session σ) :
    (action.after connection session).failed = true ↔
      (action.entry connection session).Refused ∨
        session.failed = true ∧ ¬ (action.entry connection session).Forgets := by
  cases action with
  | operation call => exact failed_operation connection call session
  | terminal builder call =>
    rw [failed_terminal, and_iff_left (not_forgets_terminal connection builder call session)]

end Action

/-! ## A whole program -/

theorem failed_after_program (actions : List (Action α)) (session : Session σ) :
    (after connection actions session).failed = true ↔
      Since Entry.Refused (¬ ·.Forgets) (history connection actions session) ∨
        session.failed = true ∧ ∀ entry ∈ history connection actions session, ¬ entry.Forgets := by
  induction actions generalizing session with
  | nil => simp [after, history, Since.not_nil]
  | cons action actions inductionHypothesis =>
    rw [history, Since.cons_iff, List.forall_mem_cons]
    refine (inductionHypothesis (action.after connection session)).trans ?_
    -- the bit after the first action was set by it, or was set before it and kept
    rw [action.failed_after, or_and_right, and_assoc, or_assoc]

/-- After a program that began without a failure, the bit is set exactly if a statement was
refused and there has been no reason to forget it since. -/
theorem failed_after_iff (tablePrefix : String) (state : σ) (actions : List (Action α)) :
    (after connection actions (start connection tablePrefix state)).failed = true ↔
      Since Entry.Refused (¬ ·.Forgets)
        (history connection actions (start connection tablePrefix state)) := by
  rw [failed_after_program]
  simp [start]

end Session

end FluentSql
