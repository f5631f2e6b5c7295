import FluentSql.Proofs.Kept
import FluentSql.Session.Terminal

/-!
# Reachable builders

`Builder.Reachable` says which builders a program can hold: those made by calls and by
terminals over any connection, on a builder of its own or on one that it was given to fill
a group. No such builder asks for an aggregate; only terminals do, for the time of a call.
-/

namespace FluentSql

namespace Builder

/-- A builder that a program can hold. -/
inductive Reachable : Builder → Prop where
  | fresh {builder : Builder} (fresh : builder.Fresh) : Reachable builder
  | call {builder : Builder} (prior : Reachable builder) (call : Call) :
      Reachable (call.run builder)
  | terminal {builder : Builder} (prior : Reachable builder) {σ α : Type}
      (connection : Connection σ) (terminal : Terminal α) (state : σ) :
      Reachable (terminal.run connection builder state).2.1
  /-- The builder that is handed out to fill a group. -/
  | nested {builder : Builder} (outer : Reachable builder) : Reachable builder.nested
  /-- A group filled in any way that a program can fill it, terminals included. -/
  | group {builder : Builder} (outer : Reachable builder) (connector : Connector)
      {fill : Builder → Builder} (filled : Reachable (fill builder.nested)) :
      Reachable (builder.group connector fill)

theorem Reachable.runAll {builder : Builder} (reached : builder.Reachable) (calls : List Call) :
    (Call.runAll calls builder).Reachable := by
  induction calls generalizing builder with
  | nil =>
    rw [Call.runAll_nil]
    exact reached
  | cons call rest inductionHypothesis =>
    rw [Call.runAll_cons]
    exact inductionHypothesis (reached.call call)

/-- What is asked for in place of a select list. -/
def aggregate? (builder : Builder) : Option Aggregate := builder.query.aggregate?

end Builder

/-- No call asks for an aggregate or takes one back. -/
theorem Call.aggregate?_run (call : Call) (builder : Builder) :
    (call.run builder).aggregate? = builder.aggregate? := by
  have condition : ∀ connector condition values (builder : Builder),
      (builder.addCondition connector condition values).aggregate? = builder.aggregate? :=
    fun _ _ _ _ => rfl
  cases call with
  | compare => exact Builder.keeps_compare _ condition _ _ _ _ builder
  | deleteId id => exact Builder.keeps_compare _ condition _ _ _ _ builder.delete
  | compareAll => exact Builder.keeps_compareAll _ condition _ _ builder
  | group => exact Builder.keeps_group _ condition _ _ builder
  | insert rows => exact Builder.keeps_insert Builder.aggregate? (fun _ _ => rfl) rows builder
  | addBindings values name | setBindings values name =>
    simp only [run]
    split <;> rfl
  | _ => rfl

end FluentSql
