import FluentSql.Proofs.Compilation
import FluentSql.Session.Terminal
import FluentSql.Session.Transcript

/-!
# What terminals send

A call that ends a query sends one message or none, and which one can be read off the
builder before the call (`Terminal.message?`). All that the call does to the connection is
to send it (`Terminal.snd_run`), so what later proofs know of the fourteen calls is what
they know of their messages.
-/

namespace FluentSql

variable {σ α β : Type}

/-- The message asks for rows. -/
def Message.Fetches : Message → Prop
  | .fetchRow _ _ | .fetchRows _ _ | .fetchValue _ _ => True
  | _ => False

/-- The state of a connection after a message, if there is one. -/
def Message.after (connection : Connection σ) (message? : Option Message) (state : σ) : σ :=
  message?.elim state fun message => (message.send connection state).2

/-- What is written down of a message, if there is one. -/
def Message.turns (connection : Connection σ) (message? : Option Message) (state : σ) :
    List Turn :=
  message?.toList.map fun message => ⟨message, (message.send connection state).1.toBool⟩

theorem Message.turns_after (connection : Connection σ) (message? : Option Message)
    (recorded : Recorded σ) : (Message.after connection.recorded message? recorded).turns =
      recorded.turns ++ Message.turns connection message? recorded.state := by
  cases message? with
  | none => exact (List.append_nil _).symm
  | some message => exact congrArg (fun step => (step recorded).2.turns) (message.send_recorded _)

/-- A step does to a connection what sending a message does, or nothing. -/
def Exchange.Sends (connection : Connection σ) (message? : Option Message)
    (step : Exchange σ α) : Prop :=
  ∀ state, (step state).2 = Message.after connection message? state

namespace Exchange

variable {connection : Connection σ} {message? : Option Message} {step : Exchange σ α}

theorem Sends.andThen (sends : Sends connection message? step) (next : α → Except Fault β) :
    Sends connection message? (step.andThen next) :=
  fun state => (snd_andThen step next state).trans (sends state)

theorem Sends.map (sends : Sends connection message? step) (change : α → β) :
    Sends connection message? (step.map change) :=
  sends.andThen _

theorem Sends.transcript {step : Exchange (Recorded σ) α}
    (sends : Sends connection.recorded message? step) (state : σ) :
    step.transcript state = Message.turns connection message? state :=
  (congrArg Recorded.turns (sends ⟨state, []⟩)).trans (Message.turns_after _ _ _)

end Exchange

namespace Builder

/-- The message that asks for the rows of a builder, if it can be written. -/
def fetched? (builder : Builder) (ask : String → List Bind → Message) : Option Message :=
  builder.sql.toOption.map fun sql => ask sql builder.bindings

/-- The message that executes a builder; a select has none. -/
def executed? (builder : Builder) : Option Message :=
  if builder.query.kind = .select then none
  else builder.sql.toOption.map fun sql => .execute sql builder.executionBindings

/-- The builder that asks for rows by a key column. -/
def askingKeyed (key : Reference) (builder : Builder) : Builder :=
  if shows builder.query.columns key then builder
  else builder.withColumns (.one key ++ builder.query.columns)

variable (connection : Connection σ) (builder : Builder)

/-- An insert without rows cannot be written. -/
theorem toOption_sql_of_rows_eq_nil (isInsert : builder.query.kind = .insert)
    (none : builder.query.rows = []) : builder.sql.toOption = .none := by
  unfold sql Query.sql
  split
  · rename_i statement compiled
    cases Query.compile_eq_ok_iff.mp compiled with
    | insert _ _ rows => simp [none] at rows
    | select isSelect => simp [isInsert] at isSelect
    | update isUpdate => simp [isInsert] at isUpdate
    | delete isDelete => simp [isInsert] at isDelete
  · rfl

theorem execute_of_select (isSelect : builder.query.kind = .select) :
    builder.execute connection = .done (.error .executedSelect) := by
  unfold execute
  rw [isSelect]

theorem execute_of_rows_eq_nil (isInsert : builder.query.kind = .insert)
    (none : builder.query.rows = []) : builder.execute connection = .done (.ok .nothing) := by
  unfold execute
  rw [isInsert]
  exact if_pos ⟨rfl, none⟩

theorem execute_of_sql_eq_ok (notSelect : builder.query.kind ≠ .select) {text : String}
    (written : builder.sql = .ok text) :
    builder.execute connection = connection.execute text builder.executionBindings := by
  have rows : ¬ (builder.query.kind = .insert ∧ builder.query.rows = []) := fun nothing => by
    have unwritten := builder.toOption_sql_of_rows_eq_nil nothing.1 nothing.2
    simp [written, Except.toOption] at unwritten
  unfold execute
  cases kind : builder.query.kind with
  | select => exact absurd kind notSelect
  | insert | update | delete =>
    rw [kind] at rows
    rw [written]
    exact if_neg rows

theorem execute_of_sql_eq_error (notSelect : builder.query.kind ≠ .select)
    (rows : ¬ (builder.query.kind = .insert ∧ builder.query.rows = [])) {fault : Fault}
    (refused : builder.sql = .error fault) :
    builder.execute connection = .done (.error fault) := by
  unfold execute
  cases kind : builder.query.kind with
  | select => exact absurd kind notSelect
  | insert | update | delete =>
    rw [kind] at rows
    rw [refused]
    exact if_neg rows

theorem executed?_of_sql_eq_ok (notSelect : builder.query.kind ≠ .select) {text : String}
    (written : builder.sql = .ok text) :
    builder.executed? = some (.execute text builder.executionBindings) := by
  rw [executed?, if_neg notSelect, written]
  rfl

theorem executed?_eq_none
    (unwritten : ¬ (builder.query.kind ≠ .select ∧ ∃ text, builder.sql = .ok text)) :
    builder.executed? = none := by
  unfold executed?
  split
  · rfl
  · rename_i notSelect
    cases written : builder.sql with
    | ok text => exact absurd ⟨notSelect, text, written⟩ unwritten
    | error fault => rfl

/-- Executing sends the statement of an insert, update or delete that can be written. -/
theorem sends_execute : (builder.execute connection).Sends connection builder.executed? := by
  intro state
  by_cases isSelect : builder.query.kind = .select
  · rw [builder.executed?_eq_none fun written => written.1 isSelect,
      builder.execute_of_select connection isSelect]
    rfl
  · cases written : builder.sql with
    | ok text =>
      rw [builder.executed?_of_sql_eq_ok isSelect written,
        builder.execute_of_sql_eq_ok connection isSelect written]
      exact (Exchange.snd_map _ _ state).symm
    | error fault =>
      rw [builder.executed?_eq_none (by simp [written])]
      by_cases nothing : builder.query.kind = .insert ∧ builder.query.rows = []
      · rw [builder.execute_of_rows_eq_nil connection nothing.1 nothing.2]
        rfl
      · rw [builder.execute_of_sql_eq_error connection isSelect nothing written]
        rfl

theorem send_of_sql_eq_ok {text : String} (written : builder.sql = .ok text)
    (call : String → List Bind → Exchange σ α) :
    builder.send call = call text builder.bindings := by
  rw [send, written]

theorem send_of_sql_eq_error {fault : Fault} (refused : builder.sql = .error fault)
    (call : String → List Bind → Exchange σ α) :
    builder.send call = .done (.error fault) := by
  rw [send, refused]

/-- A step that sends the statement of a builder asks for its rows. -/
theorem sends_send {call : String → List Bind → Exchange σ α}
    {ask : String → List Bind → Message}
    (asks : ∀ sql values, (call sql values).Sends connection (some (ask sql values))) :
    (builder.send call).Sends connection (builder.fetched? ask) := by
  unfold send fetched?
  cases builder.sql with
  | ok sql => exact asks sql builder.bindings
  | error fault => exact fun _ => rfl

theorem sends_fetchRow :
    (builder.fetchRow connection).Sends connection (builder.fetched? .fetchRow) :=
  builder.sends_send connection fun _ _ state => (Exchange.snd_map _ _ state).symm

theorem sends_fetchRows :
    (builder.fetchRows connection).Sends connection (builder.fetched? .fetchRows) :=
  builder.sends_send connection fun _ _ state => (Exchange.snd_map _ _ state).symm

theorem sends_fetchValue :
    (builder.fetchValue connection).Sends connection (builder.fetched? .fetchValue) :=
  builder.sends_send connection fun _ _ state => (Exchange.snd_map _ _ state).symm

theorem sends_fetchColumnListing :
    (builder.fetchColumnListing connection).Sends connection
      (builder.columnListing.toOption.map fun listing => .fetchRows listing.1 listing.2) := by
  intro state
  unfold fetchColumnListing
  cases builder.columnListing with
  | ok listing => exact (Exchange.snd_map _ _ state).trans (Exchange.snd_map _ _ state).symm
  | error fault => rfl

end Builder

namespace Terminal

/-- The builder that a call sends, which differs from the builder that it is made on by what
the call borrows. -/
def asked (builder : Builder) : Terminal α → Builder
  | .fetchKeyed key => builder.askingKeyed key
  | .fetchPairs key value => builder.withColumns (.many [key, value])
  | .count columns => builder.asking ⟨.count, Builder.aggregateColumns columns⟩
  | .sum column => builder.asking ⟨.sum, Builder.aggregateColumns (.one column)⟩
  | .aggregate function columns => builder.asking ⟨function, Builder.aggregateColumns columns⟩
  | _ => builder

/-- What a call sends, if anything. -/
def message? (builder : Builder) (terminal : Terminal α) : Option Message :=
  match terminal with
  | .execute | .insertGetId => builder.executed?
  | .fetchRow | .fetchObject _ | .count _ | .sum _ | .aggregate _ _ =>
    (terminal.asked builder).fetched? .fetchRow
  | .fetchRows | .fetchFirstColumn | .fetchObjects _ | .fetchKeyed _ | .fetchPairs _ _ =>
    (terminal.asked builder).fetched? .fetchRows
  | .fetchValue => builder.fetched? .fetchValue
  | .fetchColumnListing =>
    builder.columnListing.toOption.map fun listing => .fetchRows listing.1 listing.2

/-- All that a call does to a connection is to send its message. -/
theorem snd_run (connection : Connection σ) (builder : Builder) (terminal : Terminal α)
    (state : σ) : (terminal.run connection builder state).2.2 =
      Message.after connection (terminal.message? builder) state := by
  cases terminal with
  | execute => exact builder.sends_execute connection state
  | insertGetId => exact (builder.sends_execute connection).map _ state
  | fetchRow => exact builder.sends_fetchRow connection state
  | fetchRows => exact builder.sends_fetchRows connection state
  | fetchFirstColumn => exact (builder.sends_fetchRows connection).map _ state
  | fetchValue => exact builder.sends_fetchValue connection state
  | fetchKeyed key =>
    exact ((builder.askingKeyed key).sends_fetchRows connection).andThen _ state
  | fetchPairs key value =>
    exact ((asked builder (.fetchPairs key value)).sends_fetchRows connection).map _ state
  | fetchObject target => exact (builder.sends_fetchRow connection).andThen _ state
  | fetchObjects target => exact (builder.sends_fetchRows connection).andThen _ state
  | count columns =>
    exact ((asked builder (.count columns)).sends_fetchRow connection).map _ state
  | sum column => exact ((asked builder (.sum column)).sends_fetchRow connection).map _ state
  | aggregate function columns =>
    exact ((asked builder (.aggregate function columns)).sends_fetchRow connection).map _ state
  | fetchColumnListing => exact builder.sends_fetchColumnListing connection state

/-- The calls that end an insert, update or delete. -/
def Executes : Terminal α → Prop
  | .execute | .insertGetId => True
  | _ => False

/-- All other calls ask for rows. -/
theorem fetches_of_message? {builder : Builder} {terminal : Terminal α}
    (idle : ¬ terminal.Executes) {message : Message}
    (sends : terminal.message? builder = some message) : message.Fetches := by
  cases terminal with
  | execute | insertGetId => exact absurd trivial idle
  | _ =>
    obtain ⟨asked, -, rfl⟩ := Option.map_eq_some_iff.mp sends
    exact trivial

/-- What a call asks of a connection. -/
def transcript (connection : Connection σ) (builder : Builder) (terminal : Terminal α)
    (state : σ) : List Turn :=
  (terminal.run connection.recorded builder ⟨state, []⟩).2.2.turns

theorem transcript_eq (connection : Connection σ) (builder : Builder) (terminal : Terminal α)
    (state : σ) : terminal.transcript connection builder state =
      Message.turns connection (terminal.message? builder) state :=
  (congrArg Recorded.turns (terminal.snd_run _ _ _)).trans (Message.turns_after _ _ _)

end Terminal

end FluentSql
