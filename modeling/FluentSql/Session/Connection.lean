import FluentSql.Dialect
import FluentSql.Record

/-!
# Connections

A connection answers calls and may change its state with every answer, also with a
failure. Nothing else is known of it, so what is shown of programs over a connection
holds for every behaviour of a database behind it.
-/

namespace FluentSql

/-- What a statement without rows has done. -/
structure Outcome where
  rowsAffected : Nat
  lastInsertId? : Option Int64
deriving DecidableEq, Repr

namespace Outcome

/-- Nothing was done. -/
def nothing : Outcome := ⟨0, none⟩

end Outcome

/-- A step over a state that ends with a result or a fault. -/
abbrev Exchange (σ α : Type) := σ → Except Fault α × σ

namespace Exchange

variable {σ α β : Type}

/-- End with a given result and leave the state alone. -/
def done (result : Except Fault α) : Exchange σ α := fun state => (result, state)

/-- Go on with what a step gave, without a further step. -/
def andThen (step : Exchange σ α) (next : α → Except Fault β) : Exchange σ β := fun state =>
  match step state with
  | (.ok value, state) => (next value, state)
  | (.error fault, state) => (.error fault, state)

/-- Change what a step gave. -/
def map (change : α → β) (step : Exchange σ α) : Exchange σ β :=
  step.andThen fun value => .ok (change value)

end Exchange

/-- What answers calls. Placeholders of a statement and bound values match one by one. -/
structure Connection (σ : Type) where
  dialect : Dialect
  execute : String → List Bind → Exchange σ Outcome
  fetchRow : String → List Bind → Exchange σ (Option Record)
  fetchRows : String → List Bind → Exchange σ (List Record)
  /-- The first column of the first row, taken from a fetched row unless the connection has a
  way of its own. -/
  fetchValue : String → List Bind → Exchange σ (Option Bind) := fun sql values =>
    (fetchRow sql values).map fun row => row.bind Record.firstValue?
  begin : Exchange σ Unit
  commit : Exchange σ Unit
  rollback : Exchange σ Unit

end FluentSql
