import FluentSql.Session.Program

/-!
# Recording changes nothing

A connection mirrors another if it gives the same answers over a state of which the state of
the other is a part. A recorded connection mirrors the one behind it, and every program over
a connection gives the same results over its mirror. So what is read off a transcript was
asked by the program itself, not only by a program under observation.
-/

namespace FluentSql

variable {σ τ α β : Type}

/-- Two steps give the same result and the same state, as far as `view` shows the first. -/
def Exchange.Mirrors (view : τ → σ) (mirror : Exchange τ α) (step : Exchange σ α) : Prop :=
  ∀ state, (mirror state).1 = (step (view state)).1 ∧
    view (mirror state).2 = (step (view state)).2

/-- Two connections give the same answers. -/
structure Connection.Mirrors (view : τ → σ) (mirror : Connection τ) (connection : Connection σ) :
    Prop where
  execute : ∀ sql values,
    (mirror.execute sql values).Mirrors view (connection.execute sql values)
  fetchRow : ∀ sql values,
    (mirror.fetchRow sql values).Mirrors view (connection.fetchRow sql values)
  fetchRows : ∀ sql values,
    (mirror.fetchRows sql values).Mirrors view (connection.fetchRows sql values)
  fetchValue : ∀ sql values,
    (mirror.fetchValue sql values).Mirrors view (connection.fetchValue sql values)
  begin : mirror.begin.Mirrors view connection.begin
  commit : mirror.commit.Mirrors view connection.commit
  rollback : mirror.rollback.Mirrors view connection.rollback

/-- A recorded connection gives the answers of the connection behind it. -/
theorem Connection.recorded_mirrors (connection : Connection σ) :
    connection.recorded.Mirrors Recorded.state connection where
  execute _ _ _ := ⟨rfl, rfl⟩
  fetchRow _ _ _ := ⟨rfl, rfl⟩
  fetchRows _ _ _ := ⟨rfl, rfl⟩
  fetchValue _ _ _ := ⟨rfl, rfl⟩
  begin _ := ⟨rfl, rfl⟩
  commit _ := ⟨rfl, rfl⟩
  rollback _ := ⟨rfl, rfl⟩

variable {view : τ → σ}

namespace Exchange.Mirrors

variable {mirror : Exchange τ α} {step : Exchange σ α}

theorem done (result : Except Fault α) :
    (Exchange.done result).Mirrors view (Exchange.done result) :=
  fun _ => ⟨rfl, rfl⟩

theorem andThen (mirrors : mirror.Mirrors view step) (next : α → Except Fault β) :
    (mirror.andThen next).Mirrors view (step.andThen next) := by
  intro state
  obtain ⟨result, shown⟩ := mirrors state
  simp only [Exchange.fst_andThen, Exchange.snd_andThen]
  exact ⟨by rw [result], shown⟩

theorem map (mirrors : mirror.Mirrors view step) (change : α → β) :
    (mirror.map change).Mirrors view (step.map change) :=
  mirrors.andThen _

end Exchange.Mirrors

namespace Builder

variable {mirror : Connection τ} {connection : Connection σ} (builder : Builder)

theorem mirrors_send {call' : String → List Bind → Exchange τ α}
    {call : String → List Bind → Exchange σ α}
    (mirrors : ∀ sql values, (call' sql values).Mirrors view (call sql values)) :
    (builder.send call').Mirrors view (builder.send call) := by
  unfold send
  cases builder.sql with
  | ok sql => exact mirrors sql builder.bindings
  | error fault => exact .done _

theorem mirrors_execute (mirrors : mirror.Mirrors view connection) :
    (builder.execute mirror).Mirrors view (builder.execute connection) := by
  unfold execute
  split
  · exact .done _
  · split
    · exact .done _
    · cases builder.sql with
      | ok sql => exact mirrors.execute sql builder.executionBindings
      | error fault => exact .done _

theorem mirrors_fetchColumnListing (mirrors : mirror.Mirrors view connection) :
    (builder.fetchColumnListing mirror).Mirrors view (builder.fetchColumnListing connection) := by
  unfold fetchColumnListing
  cases builder.columnListing with
  | ok listing => exact (mirrors.fetchRows listing.1 listing.2).map _
  | error fault => exact .done _

/-- Two steps that give builders back give the same ones as well. -/
def Borrowing.Mirrors (view : τ → σ) (mirror : Borrowing τ α) (step : Borrowing σ α) : Prop :=
  ∀ state, (mirror state).1 = (step (view state)).1 ∧
    (mirror state).2.1 = (step (view state)).2.1 ∧
    view (mirror state).2.2 = (step (view state)).2.2

theorem Borrowing.Mirrors.map {mirror : Borrowing τ α} {step : Borrowing σ α}
    (mirrors : mirror.Mirrors view step) (change : α → β) :
    (Borrowing.map change mirror).Mirrors view (Borrowing.map change step) := by
  intro state
  obtain ⟨result, given, shown⟩ := mirrors state
  exact ⟨congrArg (Except.map change) result, given, shown⟩

theorem mirrors_borrowing {mirror : Builder → Exchange τ α} {step : Builder → Exchange σ α}
    (mirrors : ∀ asked, (mirror asked).Mirrors view (step asked)) (asked : Builder)
    (restore : Builder → Builder) :
    (borrowing asked restore mirror).Mirrors view (borrowing asked restore step) := by
  intro state
  obtain ⟨result, shown⟩ := mirrors asked state
  exact ⟨result, rfl, shown⟩

end Builder

namespace Terminal

open Builder

variable {mirror : Connection τ} {connection : Connection σ}

theorem mirrors_keeping {mirror : Exchange τ β} {step : Exchange σ β}
    (mirrors : mirror.Mirrors view step) (builder : Builder) (wrap : β → Answer α) :
    (keeping builder wrap mirror).Mirrors view (keeping builder wrap step) := by
  intro state
  obtain ⟨result, shown⟩ := mirrors state
  exact ⟨congrArg (Except.map wrap) result, rfl, shown⟩

/-- A query that is ended over a mirror ends as it does over what is mirrored. -/
theorem mirrors_run (mirrors : mirror.Mirrors view connection) (builder : Builder)
    (terminal : Terminal α) :
    (terminal.run mirror builder).Mirrors view (terminal.run connection builder) := by
  have fetchRow (builder : Builder) :
      (builder.fetchRow mirror).Mirrors view (builder.fetchRow connection) :=
    builder.mirrors_send mirrors.fetchRow
  have fetchRows (builder : Builder) :
      (builder.fetchRows mirror).Mirrors view (builder.fetchRows connection) :=
    builder.mirrors_send mirrors.fetchRows
  have aggregate (function : AggregateFunction) (columns : Columns) :
      (builder.aggregate mirror function columns).Mirrors view
        (builder.aggregate connection function columns) :=
    mirrors_borrowing (fun asked => (fetchRow asked).map _) _ _
  cases terminal with
  | execute => exact mirrors_keeping (builder.mirrors_execute mirrors) _ _
  | insertGetId => exact mirrors_keeping ((builder.mirrors_execute mirrors).map _) _ _
  | fetchRow => exact mirrors_keeping (fetchRow _) _ _
  | fetchRows => exact mirrors_keeping (fetchRows _) _ _
  | fetchFirstColumn => exact mirrors_keeping ((fetchRows _).map _) _ _
  | fetchValue => exact mirrors_keeping (builder.mirrors_send mirrors.fetchValue) _ _
  | fetchKeyed key =>
    exact .map (mirrors_borrowing (fun asked => (fetchRows asked).andThen _) _ _) _
  | fetchPairs key value =>
    exact .map (mirrors_borrowing (fun asked => (fetchRows asked).map _) _ _) _
  | fetchObject target => exact mirrors_keeping ((fetchRow _).andThen _) _ _
  | fetchObjects target => exact mirrors_keeping ((fetchRows _).andThen _) _ _
  | count columns => exact .map (.map (aggregate .count columns) _) _
  | sum column => exact .map (.map (aggregate .sum (.one column)) _) _
  | aggregate function columns => exact .map (aggregate function columns) _
  | fetchColumnListing => exact mirrors_keeping (builder.mirrors_fetchColumnListing mirrors) _ _

end Terminal

namespace Session

variable {mirror : Connection τ} {connection : Connection σ}

/-- What a session over a mirror shows of a session over what is mirrored. -/
def viewed (view : τ → σ) (session : Session τ) : Session σ :=
  ⟨session.database, session.failed, view session.state⟩

theorem mirrors_forward {mirror : Exchange τ α} {step : Exchange σ α}
    (mirrors : mirror.Mirrors view step) :
    (forward mirror).Mirrors (viewed view) (forward step) := by
  intro session
  obtain ⟨result, shown⟩ := mirrors session.state
  exact ⟨result, by simp [viewed, forward, shown]⟩

theorem asConnection_mirrors (mirrors : mirror.Mirrors view connection) :
    (asConnection mirror).Mirrors (viewed view) (asConnection connection) where
  execute sql values session := by
    obtain ⟨result, shown⟩ := mirrors_forward (mirrors.execute sql values) session
    rw [asConnection_execute, asConnection_execute, ← result, ← shown]
    exact ⟨rfl, rfl⟩
  fetchRow sql values := mirrors_forward (mirrors.fetchRow sql values)
  fetchRows sql values := mirrors_forward (mirrors.fetchRows sql values)
  fetchValue sql values := mirrors_forward (mirrors.fetchValue sql values)
  begin session := mirrors_forward mirrors.begin { session with failed := false }
  commit := mirrors_forward mirrors.commit
  rollback := mirrors_forward mirrors.rollback

theorem mirrors_commitOrRollback (mirrors : mirror.Mirrors view connection)
    (wantsRollback : Bool) :
    (commitOrRollback mirror wantsRollback).Mirrors (viewed view)
      (commitOrRollback connection wantsRollback) := by
  intro session
  have flagAlike : (viewed view session).failed = session.failed := rfl
  by_cases wanted : (wantsRollback && session.failed) = true
  · obtain ⟨result, shown⟩ := mirrors_forward mirrors.rollback session
    rw [commitOrRollback_of_wanted wanted, commitOrRollback_of_wanted (flagAlike ▸ wanted),
      ← result, ← shown]
    exact ⟨rfl, rfl⟩
  · rw [commitOrRollback_of_not_wanted wanted,
      commitOrRollback_of_not_wanted (flagAlike ▸ wanted)]
    exact (mirrors_forward mirrors.commit).map _ session

/-- An action over a mirror gives the result that it gives over what is mirrored. -/
theorem Action.mirrors_run (mirrors : mirror.Mirrors view connection) (action : Action α) :
    (action.run mirror).Mirrors (viewed view) (action.run connection) := by
  have mirrored := asConnection_mirrors mirrors
  cases action with
  | operation call =>
    refine Exchange.Mirrors.map ?_ _
    cases call with
    | execute sql values => exact (mirrored.execute sql values).map _
    | fetchRow sql values => exact (mirrored.fetchRow sql values).map _
    | fetchRows sql values => exact (mirrored.fetchRows sql values).map _
    | fetchValue sql values => exact (mirrored.fetchValue sql values).map _
    | begin => exact mirrored.begin.map _
    | commit => exact mirrored.commit.map _
    | rollback => exact mirrored.rollback.map _
    | commitOrRollback wantsRollback => exact (mirrors_commitOrRollback mirrors _).map _
  | terminal builder call =>
    intro session
    obtain ⟨result, -, shown⟩ := call.mirrors_run mirrored builder session
    exact ⟨congrArg (Except.map Response.answer) result, shown⟩

/-- The transcript of an entry was made by a run with the result of the entry. -/
theorem Action.run_recording (connection : Connection σ) (action : Action α)
    (session : Session σ) :
    (action.run connection.recorded session.recording).1 = (action.run connection session).1 ∧
      viewed Recorded.state (action.run connection.recorded session.recording).2 =
        (action.run connection session).2 :=
  action.mirrors_run connection.recorded_mirrors session.recording

end Session

end FluentSql
