import FluentSql.Proofs.Remembering

/-!
# What a session hands on

A session stands between a program and a connection. A call on it sends one message and
hands the answer back as it is (`Operation.fst_run`); only `commitOrRollback` has a choice of
messages, and says of the one that was granted which it was. `Session.forwards_and_remembers`
puts this together with what a session remembers: it holds at every place of every program,
whatever the connection answers.
-/

namespace FluentSql

variable {σ α β γ : Type}

theorem Exchange.map_map (result : Except Fault α) (change : α → β) (further : β → γ) :
    (result.map change).map further = result.map (further ∘ change) := by
  cases result <;> rfl

/-- What a connection answers to a message. -/
def Message.answer (connection : Connection σ) : Message → Exchange σ Reply
  | .execute sql values => (connection.execute sql values).map .outcome
  | .fetchRow sql values => (connection.fetchRow sql values).map .row
  | .fetchRows sql values => (connection.fetchRows sql values).map .rows
  | .fetchValue sql values => (connection.fetchValue sql values).map .value
  | .begin => connection.begin.map fun _ => .done
  | .commit => connection.commit.map fun _ => .done
  | .rollback => connection.rollback.map fun _ => .done

/-- To send a message is to have it answered and to forget the answer. -/
theorem Message.send_eq (connection : Connection σ) (message : Message) (state : σ) :
    message.send connection state = ((message.answer connection).map fun _ => ()) state := by
  cases message with
  | execute | fetchRow | fetchRows | fetchValue =>
    apply Prod.ext <;> simp [send, answer, Exchange.map_map, Function.comp_def]
  | begin | commit | rollback =>
    apply Prod.ext
    · simp only [send, answer, Exchange.fst_map, Exchange.map_map]
      exact (congrFun Except.map_id _).symm
    · simp [send, answer]

namespace Operation

/-- What a call says of a granted message: what was answered, but that `commitOrRollback` says
whether it was a commit. -/
def told (failed : Bool) : Operation → Reply → Reply
  | .commitOrRollback wantsRollback => fun _ => .committed !(wantsRollback && failed)
  | _ => id

/-- What the connection behind a session answers to the message of a call. -/
def answer (connection : Connection σ) (call : Operation) (session : Session σ) :
    Except Fault Reply × σ :=
  (call.message session.failed).answer connection session.state

end Operation

namespace Session

variable (connection : Connection σ) (wantsRollback : Bool) (session : Session σ)

/-- What `commitOrRollback` gives is what became of the message that it chose. -/
theorem fst_commitOrRollback : (commitOrRollback connection wantsRollback session).1 =
    if wantsRollback && session.failed then
      (connection.rollback session.state).1.map fun _ => false
    else (connection.commit session.state).1.map fun _ => true := by
  split
  · rename_i wanted
    rw [commitOrRollback_of_wanted wanted]
    rfl
  · rename_i spared
    rw [commitOrRollback_of_not_wanted spared, Exchange.fst_map]
    rfl

/-- A message to a session is a message to the connection behind it. -/
theorem state_send (message : Message) :
    (message.send (asConnection connection) session).2.state =
      (message.send connection session.state).2 := by
  cases message with
  | execute sql values => simp [Message.send, asConnection_execute, forward]
  | fetchRow | fetchRows | fetchValue | begin | commit | rollback =>
    simp [Message.send, asConnection, begin, forward]

end Session

namespace Operation

variable (connection : Connection σ) (call : Operation) (session : Session σ)

/-- A call gives what the connection answers, as far as the answer is not its own. -/
theorem fst_run : (call.run connection session).1 =
    (call.answer connection session).1.map (call.told session.failed) := by
  cases call with
  | execute sql values =>
    simp [run, answer, Message.answer, message, told, Session.asConnection_execute,
      Session.forward, Except.map_id]
  | fetchRow | fetchRows | fetchValue | begin | commit | rollback =>
    simp [run, answer, Message.answer, message, told, Session.asConnection, Session.begin,
      Session.forward, Except.map_id]
  | commitOrRollback wantsRollback =>
    rw [run, Exchange.fst_map, Session.fst_commitOrRollback, answer, message]
    by_cases wanted : (wantsRollback && session.failed) = true <;>
      simp [wanted, told, Message.answer, Exchange.map_map, Function.comp_def]

end Operation

namespace Session

/-- A call on a session was handed on: one message was sent, the answer came back, and
nothing else was done to the connection. -/
structure Entry.HandsOn (connection : Connection σ) (call : Operation) (before : Session σ)
    (entry : Entry α) : Prop where
  turns : entry.turns =
    [⟨call.message before.failed, (call.answer connection before).1.toBool⟩]
  result : entry.result =
    (call.answer connection before).1.map fun reply => .reply (call.told before.failed reply)
  state : ((.operation call : Action α).after connection before).state =
    (call.answer connection before).2

/-- A transaction was ended: by a rollback if that was wanted and a statement had failed, and
by a commit otherwise. It is reported which of them was granted, or why it was not. -/
structure Entry.Ends (connection : Connection σ) (wantsRollback : Bool) (before : Session σ)
    (entry : Entry α) : Prop where
  rollback : (∃ granted, entry.turns = [⟨.rollback, granted⟩]) ↔
    wantsRollback = true ∧ before.failed = true
  commit : (∃ granted, entry.turns = [⟨.commit, granted⟩]) ↔
    ¬ (wantsRollback = true ∧ before.failed = true)
  undone : entry.result = .ok (.reply (.committed false)) ↔ entry.turns = [⟨.rollback, true⟩]
  kept : entry.result = .ok (.reply (.committed true)) ↔ entry.turns = [⟨.commit, true⟩]
  refused : ∀ fault, entry.result = .error fault ↔
    (Operation.answer connection (.commitOrRollback wantsRollback) before).1 = .error fault

variable (connection : Connection σ) (session : Session σ)

theorem Action.handsOn_entry (α : Type) (call : Operation) :
    ((operation call : Action α).entry connection session).HandsOn connection call session where
  turns := by
    rw [turns_entry]
    simp [message?, Message.turns, Message.send_eq, Operation.answer]
  result := by
    change ((call.run connection).map Response.reply session).1 = _
    rw [Exchange.fst_map, call.fst_run, Exchange.map_map]
    rfl
  state := by
    rw [state_after]
    change ((call.message session.failed).send (asConnection connection) session).2.state = _
    rw [state_send, Message.send_eq, Exchange.snd_map]
    rfl

theorem Action.ends_entry (wantsRollback : Bool) :
    ((operation (.commitOrRollback wantsRollback) : Action α).entry connection session).Ends
      connection wantsRollback session := by
  obtain ⟨turns, result, -⟩ :=
    handsOn_entry connection session α (.commitOrRollback wantsRollback)
  simp only [Operation.message, Operation.told] at turns result
  have wish : (wantsRollback = true ∧ session.failed = true) ↔
      (wantsRollback && session.failed) = true := Bool.and_eq_true_iff.symm
  generalize answered : (Operation.answer connection (.commitOrRollback wantsRollback) session).1
    = answer at turns result
  constructor
  · rw [turns, wish]
    split <;> simp_all
  · rw [turns, wish]
    split <;> simp_all
  · rw [turns, result]
    cases (wantsRollback && session.failed) <;> cases answer <;> simp [Except.map, Except.toBool]
  · rw [turns, result]
    cases (wantsRollback && session.failed) <;> cases answer <;> simp [Except.map, Except.toBool]
  · intro fault
    rw [result, answered, Exchange.map_eq_error_iff]

/-- The entries of two programs, one after the other. -/
theorem history_append (first second : List (Action α)) (session : Session σ) :
    history connection (first ++ second) session =
      history connection first session ++
        history connection second (after connection first session) := by
  induction first generalizing session with
  | nil => rfl
  | cons action rest inductionHypothesis =>
    exact congrArg (action.entry connection session :: ·) (inductionHypothesis _)

/-- At every place of every program, a call on a session is one message to the connection,
whose answer is handed back; a transaction is rolled back exactly if that is wanted and the
session remembers a failure; and it remembers one exactly if a statement was refused and
there has been no reason to forget it since. -/
theorem forwards_and_remembers (tablePrefix : String) (state : σ) (earlier later : List (Action α))
    (call : Operation) (wantsRollback : Bool) :
    let begun := start connection tablePrefix state
    let before := after connection earlier begun
    let entry := (.operation call : Action α).entry connection before
    let ending := (.operation (.commitOrRollback wantsRollback) : Action α).entry connection before
    history connection (earlier ++ .operation call :: later) begun =
        history connection earlier begun ++
          entry :: history connection later ((.operation call : Action α).after connection before) ∧
      entry.HandsOn connection call before ∧
      ending.Ends connection wantsRollback before ∧
      (before.failed = true ↔
        Since Entry.Refused (¬ ·.Forgets) (history connection earlier begun)) := by
  intro begun before entry ending
  refine ⟨history_append connection earlier _ begun, ?_, ?_, ?_⟩
  · exact Action.handsOn_entry connection before α call
  · exact Action.ends_entry connection before wantsRollback
  · exact failed_after_iff connection tablePrefix state earlier

end Session

end FluentSql
