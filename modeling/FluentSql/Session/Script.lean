import FluentSql.Session.Connection

/-!
# Scripted connections

A connection that answers from a script: three queues hold the answers to fetches, to
statements and to the calls on transactions. When a queue has run out, a fetch fails, a
statement changes one row and takes the number of statements so far as its id, and a
transaction call succeeds. Every call is logged, and every fetch counts as a statement.
-/

namespace FluentSql

/-- A call that a connection has received. -/
inductive Request where
  | begin
  | commit
  | rollback
  | execute (sql : String) (values : List Bind)
  | fetchRow (sql : String) (values : List Bind)
  | fetchRows (sql : String) (values : List Bind)
deriving DecidableEq, Repr

/-- The answers to come, and what has been asked. A failure is given by its report. -/
structure Script where
  rows : List (Except String (List Record))
  outcomes : List (Except String Outcome)
  transactions : List (Except String Unit)
  statements : Nat
  log : List Request

namespace Script

/-- A script before the first call. -/
def start (rows : List (Except String (List Record))) (outcomes : List (Except String Outcome))
    (transactions : List (Except String Unit)) : Script :=
  ⟨rows, outcomes, transactions, 0, []⟩

/-- A scripted answer as a result. -/
def result {α : Type} : Except String α → Except Fault α
  | .ok value => .ok value
  | .error report => .error (.connection report)

/-- Log a call. -/
def received (request : Request) (script : Script) : Script :=
  { script with log := script.log ++ [request] }

/-- Answer a fetch. -/
def fetch (request : Request) : Exchange Script (List Record) := fun script =>
  let script := { script.received request with statements := script.statements + 1 }
  match script.rows with
  | [] => (.error (.connection "no rows queued"), script)
  | answer :: rest => (result answer, { script with rows := rest })

/-- Answer a statement. -/
def executed (request : Request) : Exchange Script Outcome := fun script =>
  let script := { script.received request with statements := script.statements + 1 }
  match script.outcomes with
  | [] => (.ok ⟨1, some (Int64.ofNat script.statements)⟩, script)
  | answer :: rest => (result answer, { script with outcomes := rest })

/-- Answer a call on a transaction. -/
def transaction (request : Request) : Exchange Script Unit := fun script =>
  let script := script.received request
  match script.transactions with
  | [] => (.ok (), script)
  | answer :: rest => (result answer, { script with transactions := rest })

/-- The connection that follows its script. -/
def connection (dialect : Dialect) : Connection Script where
  dialect := dialect
  execute sql values := executed (.execute sql values)
  fetchRow sql values := (fetch (.fetchRow sql values)).map List.head?
  fetchRows sql values := fetch (.fetchRows sql values)
  begin := transaction .begin
  commit := transaction .commit
  rollback := transaction .rollback

end Script

end FluentSql
