import FluentSql.Config
import FluentSql.Session.Connection
import FluentSql.Sql.Statement
import FluentSql.Text.Described

/-!
# Databases and sessions

A database has a dialect and a text that is put in front of every table name. A session
uses a database over a connection and remembers whether a statement has failed since it
last had reason to forget: when a transaction begins, asked for or not granted, and when
`commitOrRollback` has rolled back. Sessions hand every call on as it is, so a session is a
connection too.
-/

namespace FluentSql

/-- A dialect and what is put in front of table names. -/
structure Database where
  dialect : Dialect
  tablePrefix : String
deriving DecidableEq, Repr

namespace Database

/-- A builder for a table of the database. -/
def table (database : Database) (name : Reference) : Builder :=
  Builder.table database.dialect (Reference.prefixed database.tablePrefix name)

end Database

/-- The database of some settings. Only SQLite can be reached without a driver from outside. -/
def Config.connect (config : Config) : Except Fault Database :=
  match config.driver with
  | .mysql => .error .noBundledDriver
  | .sqlite => .ok ⟨.sqlite, config.tablePrefix⟩

/-- A database in use. -/
structure Session (σ : Type) where
  database : Database
  /-- Whether a statement has failed since the last reason to forget. -/
  failed : Bool
  /-- The state of the connection. -/
  state : σ

namespace Session

variable {σ α : Type}

/-- Use a database over a connection. -/
def start (connection : Connection σ) (tablePrefix : String) (state : σ) : Session σ :=
  ⟨⟨connection.dialect, tablePrefix⟩, false, state⟩

/-- Hand a call on to the connection. -/
def forward (step : Exchange σ α) : Exchange (Session σ) α := fun session =>
  let (result, state) := step session.state
  (result, { session with state := state })

/-- Hand a statement on and remember a failure. -/
def execute (connection : Connection σ) (sql : String) (values : List Bind) :
    Exchange (Session σ) Outcome := fun session =>
  match forward (connection.execute sql values) session with
  | (.ok outcome, session) => (.ok outcome, session)
  | (.error fault, session) => (.error fault, { session with failed := true })

/-- Begin a transaction. What has failed before is forgotten whether or not it begins. -/
def begin (connection : Connection σ) : Exchange (Session σ) Unit := fun session =>
  forward connection.begin { session with failed := false }

/-- End a transaction: by a rollback if a statement has failed and that is wanted, else by a
commit. The answer says whether it was a commit. -/
def commitOrRollback (connection : Connection σ) (wantsRollback : Bool) :
    Exchange (Session σ) Bool := fun session =>
  if wantsRollback && session.failed then
    match forward connection.rollback session with
    | (.ok _, session) => (.ok false, { session with failed := false })
    | (.error fault, session) => (.error fault, session)
  else (forward connection.commit).map (fun _ => true) session

/-- The session as a connection. -/
def asConnection (connection : Connection σ) : Connection (Session σ) where
  dialect := connection.dialect
  execute := execute connection
  fetchRow sql values := forward (connection.fetchRow sql values)
  fetchRows sql values := forward (connection.fetchRows sql values)
  fetchValue sql values := forward (connection.fetchValue sql values)
  begin := begin connection
  commit := forward connection.commit
  rollback := forward connection.rollback

variable (connection : Connection σ)

/-- A statement is handed on, and its failure is remembered beside what was before. -/
theorem asConnection_execute (sql : String) (values : List Bind) (session : Session σ) :
    (asConnection connection).execute sql values session =
      ((forward (connection.execute sql values) session).1,
        { (forward (connection.execute sql values) session).2 with
          failed := session.failed ||
            !(forward (connection.execute sql values) session).1.toBool }) := by
  unfold asConnection execute
  rcases answered : connection.execute sql values session.state with ⟨_ | _, _⟩ <;>
    simp [forward, answered, Except.toBool]

variable {connection} {session : Session σ} {wantsRollback : Bool}

/-- A failure is forgotten only once the rollback is granted. -/
theorem commitOrRollback_of_wanted (wanted : (wantsRollback && session.failed) = true) :
    commitOrRollback connection wantsRollback session =
      ((forward connection.rollback session).1.map fun _ => false,
        { (forward connection.rollback session).2 with
          failed := !(forward connection.rollback session).1.toBool }) := by
  have failed : session.failed = true := (Bool.and_eq_true_iff.mp wanted).2
  unfold commitOrRollback
  rw [if_pos wanted]
  rcases answered : connection.rollback session.state with ⟨_ | _, _⟩ <;>
    simp [failed, forward, answered, Except.map, Except.toBool]

/-- Without a failure to remember, or a wish to roll back, a transaction is committed. -/
theorem commitOrRollback_of_not_wanted (spared : ¬ (wantsRollback && session.failed) = true) :
    commitOrRollback connection wantsRollback session =
      (forward connection.commit).map (fun _ => true) session :=
  if_neg spared

/-- The description of a session for people. -/
def description (session : Session σ) : String :=
  "Db \x7b dialect: " ++ session.database.dialect.title ++ ", prefix: " ++
    String.ofList (Text.described session.database.tablePrefix.toList) ++
    ", transaction_error: " ++ (if session.failed then "true" else "false") ++ " \x7d"

end Session

/-- A call on a session. -/
inductive Operation where
  | execute (sql : String) (values : List Bind)
  | fetchRow (sql : String) (values : List Bind)
  | fetchRows (sql : String) (values : List Bind)
  | fetchValue (sql : String) (values : List Bind)
  | begin
  | commit
  | rollback
  | commitOrRollback (wantsRollback : Bool)
deriving DecidableEq, Repr

/-- What a call on a session gives. -/
inductive Reply where
  | done
  | outcome (outcome : Outcome)
  | row (record? : Option Record)
  | rows (records : List Record)
  | value (value? : Option Bind)
  | committed (committed : Bool)
deriving DecidableEq

/-- The reply to a call, and the session after it. -/
def Operation.run {σ : Type} (connection : Connection σ) : Operation → Exchange (Session σ) Reply
  | .execute sql values => ((Session.asConnection connection).execute sql values).map .outcome
  | .fetchRow sql values => ((Session.asConnection connection).fetchRow sql values).map .row
  | .fetchRows sql values => ((Session.asConnection connection).fetchRows sql values).map .rows
  | .fetchValue sql values => ((Session.asConnection connection).fetchValue sql values).map .value
  | .begin => (Session.asConnection connection).begin.map fun _ => .done
  | .commit => (Session.asConnection connection).commit.map fun _ => .done
  | .rollback => (Session.asConnection connection).rollback.map fun _ => .done
  | .commitOrRollback wantsRollback =>
    (Session.commitOrRollback connection wantsRollback).map .committed

end FluentSql
