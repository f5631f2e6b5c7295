import FluentSql.Session.Connection

/-!
# Transcripts

Every call on a connection is a message. A recorded connection answers as the connection
behind it does and writes down each message, with whether it was granted. What a program
asks of a database can so be read off its transcript, whatever the database answers.
-/

namespace FluentSql

/-- What a connection can be asked. -/
inductive Message where
  | execute (sql : String) (values : List Bind)
  | fetchRow (sql : String) (values : List Bind)
  | fetchRows (sql : String) (values : List Bind)
  | fetchValue (sql : String) (values : List Bind)
  | begin
  | commit
  | rollback
deriving DecidableEq, Repr

/-- A message that was sent, and whether it was granted. -/
structure Turn where
  message : Message
  granted : Bool
deriving DecidableEq, Repr

/-- The state of a connection, and all turns so far. -/
structure Recorded (σ : Type) where
  state : σ
  turns : List Turn

variable {σ α β : Type}

namespace Exchange

@[simp] theorem fst_andThen (step : Exchange σ α) (next : α → Except Fault β) (state : σ) :
    (step.andThen next state).1 = (step state).1.bind next := by
  unfold andThen
  split <;> simp_all [Except.bind]

@[simp] theorem snd_andThen (step : Exchange σ α) (next : α → Except Fault β) (state : σ) :
    (step.andThen next state).2 = (step state).2 := by
  unfold andThen
  split <;> simp_all

@[simp] theorem fst_map (change : α → β) (step : Exchange σ α) (state : σ) :
    (step.map change state).1 = (step state).1.map change := by
  unfold map andThen
  split <;> simp_all [Except.map]

@[simp] theorem snd_map (change : α → β) (step : Exchange σ α) (state : σ) :
    (step.map change state).2 = (step state).2 :=
  snd_andThen step _ state

@[simp] theorem toBool_map (change : α → β) (result : Except Fault α) :
    (result.map change).toBool = result.toBool := by
  cases result <;> rfl

theorem toBool_eq_false_iff {result : Except Fault α} :
    result.toBool = false ↔ ∃ fault, result = .error fault := by
  cases result <;> simp [Except.toBool]

@[simp] theorem map_eq_error_iff {change : α → β} {result : Except Fault α} {fault : Fault} :
    result.map change = .error fault ↔ result = .error fault := by
  cases result <;> simp [Except.map]

@[simp] theorem map_eq_ok_iff {change : α → β} {result : Except Fault α} {changed : β} :
    result.map change = .ok changed ↔ ∃ value, result = .ok value ∧ change value = changed := by
  cases result <;> simp [Except.map]

/-- Write down a message with whether it was granted. -/
def recorded (message : Message) (step : Exchange σ α) : Exchange (Recorded σ) α :=
  fun recorded =>
    let (result, state) := step recorded.state
    (result, ⟨state, recorded.turns ++ [⟨message, result.toBool⟩]⟩)

/-- It is written down whether a message was granted, not what was answered. -/
theorem map_recorded (message : Message) (change : α → β) (step : Exchange σ α) :
    (step.recorded message).map change = (step.map change).recorded message := by
  funext recorded
  apply Prod.ext
  · simp [Exchange.recorded]
  · simp [Exchange.recorded]

end Exchange

/-- The connection that writes down what it is asked. -/
def Connection.recorded (connection : Connection σ) : Connection (Recorded σ) where
  dialect := connection.dialect
  execute sql values := (connection.execute sql values).recorded (.execute sql values)
  fetchRow sql values := (connection.fetchRow sql values).recorded (.fetchRow sql values)
  fetchRows sql values := (connection.fetchRows sql values).recorded (.fetchRows sql values)
  fetchValue sql values := (connection.fetchValue sql values).recorded (.fetchValue sql values)
  begin := connection.begin.recorded .begin
  commit := connection.commit.recorded .commit
  rollback := connection.rollback.recorded .rollback

/-- What was asked during a step. -/
def Exchange.transcript (step : Exchange (Recorded σ) α) (state : σ) : List Turn :=
  (step ⟨state, []⟩).2.turns

/-- Send a message; of the answer it is kept whether the message was granted. -/
def Message.send (connection : Connection σ) : Message → Exchange σ Unit
  | .execute sql values => (connection.execute sql values).map fun _ => ()
  | .fetchRow sql values => (connection.fetchRow sql values).map fun _ => ()
  | .fetchRows sql values => (connection.fetchRows sql values).map fun _ => ()
  | .fetchValue sql values => (connection.fetchValue sql values).map fun _ => ()
  | .begin => connection.begin
  | .commit => connection.commit
  | .rollback => connection.rollback

/-- A message to a recorded connection is written down and otherwise sent as it is. -/
theorem Message.send_recorded (connection : Connection σ) (message : Message) :
    message.send connection.recorded = (message.send connection).recorded message := by
  cases message with
  | execute | fetchRow | fetchRows | fetchValue => exact Exchange.map_recorded _ _ _
  | begin | commit | rollback => rfl

end FluentSql
