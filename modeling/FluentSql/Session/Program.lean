import FluentSql.Session.Database
import FluentSql.Session.Terminal
import FluentSql.Session.Transcript

/-!
# Programs

A program calls a session, or ends queries over it. Its history has one entry for every
action: the action, its result, and what was asked of the connection behind the session.
-/

namespace FluentSql.Session

variable {σ α : Type}

/-- What a program can do with a session, if it reads rows as values of a type. -/
inductive Action (α : Type) where
  | operation (call : Operation)
  | terminal (builder : Builder) (call : Terminal α)

/-- What an action gives. -/
inductive Response (α : Type) where
  | reply (reply : Reply)
  | answer (answer : Answer α)

/-- Do one action. A query is ended over the session as over any connection. -/
def Action.run (connection : Connection σ) : Action α → Exchange (Session σ) (Response α)
  | .operation call => (call.run connection).map .reply
  | .terminal builder call => fun session =>
    let (result, _, session) := call.run (asConnection connection) builder session
    (result.map .answer, session)

/-- The session over a recorded connection that has not been asked for anything. -/
def recording (session : Session σ) : Session (Recorded σ) :=
  ⟨session.database, session.failed, ⟨session.state, []⟩⟩

/-- What is known of an action after it. -/
structure Entry (α : Type) where
  action : Action α
  result : Except Fault (Response α)
  turns : List Turn

/-- The session after an action. -/
def Action.after (connection : Connection σ) (action : Action α) (session : Session σ) :
    Session σ :=
  (action.run connection session).2

/-- The entry of an action. -/
def Action.entry (connection : Connection σ) (action : Action α) (session : Session σ) :
    Entry α where
  action := action
  result := (action.run connection session).1
  turns := (action.run connection.recorded session.recording).2.state.turns

/-- The session after a program. -/
def after (connection : Connection σ) (actions : List (Action α)) (session : Session σ) :
    Session σ :=
  actions.foldl (fun session action => action.after connection session) session

/-- The entries of a program, in order. -/
def history (connection : Connection σ) : List (Action α) → Session σ → List (Entry α)
  | [], _ => []
  | action :: actions, session =>
    action.entry connection session ::
      history connection actions (action.after connection session)

end FluentSql.Session
