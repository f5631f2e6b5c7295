import FluentSql.Proofs.Remembering
import FluentSql.Query.Call
import FluentSql.Session.Script

/-!
# Rolling back what failed

`commitOrRollback` is there to undo a transaction in which a statement was refused. It does
so as long as the session remembers (`Session.commitOrRollback_rolls_back_iff`). The session
also forgets when `begin` is refused, and then a transaction that is still open is committed
with the failure in it (`Session.commitOrRollback_commits_refused`).
-/

namespace FluentSql.Session

variable {σ α : Type}

/-- The action begins or ends a transaction. -/
def Action.Delimits : Action α → Prop
  | .operation .begin | .operation .commit | .operation .rollback
  | .operation (.commitOrRollback _) => True
  | _ => False

/-- A transaction was begun or ended: a failure before it is of no concern after it. -/
def Entry.Settles (entry : Entry α) : Prop :=
  entry.action.Delimits ∧ ∃ response, entry.result = .ok response

/-- A rollback is all that was asked of the connection, and no commit is reported. -/
def Entry.RollsBack (entry : Entry α) : Prop :=
  (∃ granted, entry.turns = [⟨.rollback, granted⟩]) ∧
    entry.result ≠ .ok (.reply (.committed true))

/-- A commit is all that was asked of the connection. -/
def Entry.Commits (entry : Entry α) : Prop :=
  ∃ granted, entry.turns = [⟨.commit, granted⟩]

/-- The entry of a wish to undo a transaction if a statement has failed. -/
def closing (connection : Connection σ) (session : Session σ) : Entry α :=
  (Action.operation (.commitOrRollback true)).entry connection session

section

variable (connection : Connection σ)

theorem turns_closing (α : Type) (session : Session σ) : ∃ granted,
    (closing connection session : Entry α).turns =
      [⟨if session.failed then .rollback else .commit, granted⟩] :=
  ⟨_, Action.turns_entry connection _ session⟩

theorem closing_rollsBack_iff {session : Session σ} :
    (closing connection session : Entry α).RollsBack ↔ session.failed = true := by
  obtain ⟨granted, turns⟩ := turns_closing connection α session
  constructor
  · rintro ⟨⟨_, rolledBack⟩, -⟩
    rw [turns] at rolledBack
    by_cases failed : session.failed = true
    · exact failed
    · simp [failed] at rolledBack
  · intro failed
    refine ⟨⟨granted, by rw [turns, if_pos failed]⟩, ?_⟩
    have wanted : (true && session.failed) = true := failed
    simp [closing, Action.entry, Action.run, Operation.run, commitOrRollback_of_wanted wanted]

theorem closing_commits_iff {session : Session σ} :
    (closing connection session : Entry α).Commits ↔ ¬ session.failed = true := by
  obtain ⟨granted, turns⟩ := turns_closing connection α session
  unfold Entry.Commits
  rw [turns]
  by_cases failed : session.failed = true <;> simp [failed]

end

/-- To roll back is a reason to forget that settles what failed. -/
theorem Entry.begin_or_settles_of_forgets {entry : Entry α} (forgets : entry.Forgets) :
    entry.action = .operation .begin ∨ entry.Settles := by
  rcases forgets with begins | ⟨⟨wantsRollback, asked⟩, rolledBack⟩
  · exact .inl begins
  · exact .inr ⟨by rw [asked]; trivial, _, rolledBack⟩

/-- While no transaction is begun or ended, only a call of `begin` makes a session forget. -/
theorem since_not_forgets_iff {entries : List (Entry α)}
    (owed : Since Entry.Refused (¬ ·.Settles) entries) :
    Since Entry.Refused (¬ ·.Forgets) entries ↔
      Since Entry.Refused (·.action ≠ .operation .begin) entries := by
  constructor
  · exact fun since => since.imp fun entry _ kept begins => kept (.inl begins)
  · intro since
    refine (owed.and since).imp fun entry _ kept forgets => ?_
    exact (Entry.begin_or_settles_of_forgets forgets).elim kept.2 kept.1

/-- A wish to undo a transaction is granted by a rollback exactly if a statement was refused
and not forgotten since, and else a commit is asked for. If a statement was refused and no
transaction was begun or ended since, it is forgotten exactly if a `begin` was refused. -/
theorem commitOrRollback_rolls_back_iff (connection : Connection σ) (tablePrefix : String)
    (state : σ) (actions : List (Action α)) :
    let session := start connection tablePrefix state
    let entries := history connection actions session
    let last : Entry α := closing connection (after connection actions session)
    (last.RollsBack ↔ Since Entry.Refused (¬ ·.Forgets) entries) ∧
      (last.Commits ↔ ¬ Since Entry.Refused (¬ ·.Forgets) entries) ∧
      (Since Entry.Refused (¬ ·.Settles) entries →
        (last.RollsBack ↔ Since Entry.Refused (·.action ≠ .operation .begin) entries)) := by
  intro session entries last
  have remembers : (after connection actions session).failed = true ↔
      Since Entry.Refused (¬ ·.Forgets) entries :=
    failed_after_iff connection tablePrefix state actions
  have rollsBack : last.RollsBack ↔ Since Entry.Refused (¬ ·.Forgets) entries :=
    (closing_rollsBack_iff connection).trans remembers
  exact ⟨rollsBack, (closing_commits_iff connection).trans (not_congr remembers),
    fun owed => rollsBack.trans (since_not_forgets_iff owed)⟩

/-- A deletion is refused, and so is the first rollback of it. -/
theorem commitOrRollback_rolls_back_again :
    let connection := Script.connection .sqlite
    let session := start connection "" (Script.start [] [.error "locked"] [.ok (), .error "busy"])
    let deletion := Call.runAll [.deleteId (.integer (.int32 7))] (Builder.table .sqlite "users")
    let actions : List (Action Object) := [.operation .begin, .terminal deletion .execute,
      .operation (.commitOrRollback true)]
    Since Entry.Refused (¬ ·.Settles) (history connection actions session) ∧
      (closing connection (after connection actions session) : Entry Object).RollsBack := by
  intro connection session deletion actions
  obtain ⟨begun, refused, again, entries, isRefused, isAgain, fault, refusedAgain⟩ :
      ∃ begun refused again, history connection actions session = [begun, refused, again] ∧
        refused.Refused ∧ again.action = .operation (.commitOrRollback true) ∧
        ∃ fault, again.result = .error fault := by
    refine ⟨_, _, _, rfl, ⟨trivial, ?_, ?_⟩, rfl, ?_⟩
    · decide +kernel
    · rw [← Exchange.toBool_eq_false_iff]
      decide +kernel
    · rw [← Exchange.toBool_eq_false_iff]
      decide +kernel
  rw [entries]
  have owed : Since Entry.Refused (¬ ·.Settles) [begun, refused, again] := by
    refine ⟨[begun], refused, [again], rfl, isRefused, fun later member settles => ?_⟩
    obtain rfl := List.mem_singleton.mp member
    obtain ⟨-, response, granted⟩ := settles
    simp [refusedAgain] at granted
  have rollsBack := (commitOrRollback_rolls_back_iff connection "" _ actions).2.2 (entries ▸ owed)
  refine ⟨owed, rollsBack.mpr ?_⟩
  rw [entries]
  refine ⟨[begun], refused, [again], rfl, isRefused, fun later member => ?_⟩
  obtain rfl := List.mem_singleton.mp member
  simp [isAgain]

/-- A statement is refused in a transaction that was begun, then `begin` is refused, and the
transaction is committed. -/
theorem commitOrRollback_commits_refused :
    let connection := Script.connection .sqlite
    let nested := "cannot start a transaction within a transaction"
    let session := start connection "" (Script.start [] [.error "boom"] [.ok (), .error nested])
    let actions : List (Action Object) :=
      [.operation .begin, .operation (.execute "delete from t" []), .operation .begin]
    let last : Entry Object := closing connection (after connection actions session)
    (∃ begun refused renewed, history connection actions session = [begun, refused, renewed] ∧
      begun.action = .operation .begin ∧ begun.Settles ∧ refused.Refused ∧ ¬ renewed.Settles) ∧
      last.turns = [⟨.commit, true⟩] ∧ last.result = .ok (.reply (.committed true)) := by
  intro connection nested session actions last
  refine ⟨⟨_, _, _, rfl, rfl, ⟨trivial, _, rfl⟩, ⟨trivial, ?_, _, rfl⟩, ?_⟩, rfl, rfl⟩
  · exact List.cons_ne_nil _ _
  · rintro ⟨-, response, granted⟩
    cases granted

end FluentSql.Session
