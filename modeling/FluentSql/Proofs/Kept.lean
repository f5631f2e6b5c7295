import FluentSql.Query.Call

/-!
# What compound operations keep

Several operations on a builder are made of smaller ones: comparisons, lists of comparisons
and groups add conditions, and an insert adds its rows one by one. Whatever can be read off
a builder and is kept by the small operation is kept by the compound one.
-/

namespace FluentSql.Builder

variable {β : Type} (view : Builder → β)

theorem keeps_compare
    (kept : ∀ connector condition values builder,
      view (addCondition connector condition values builder) = view builder)
    (connector : Connector) (column : Reference) (operator : Operator) (value : Bind)
    (builder : Builder) :
    view (builder.compare connector column operator value) = view builder := by
  unfold compare
  split
  · exact kept _ _ _ builder
  · exact kept _ _ _ builder

theorem keeps_compareAll
    (kept : ∀ connector condition values builder,
      view (addCondition connector condition values builder) = view builder)
    (connector : Connector) (values : List (Reference × Bind)) (builder : Builder) :
    view (builder.compareAll connector values) = view builder := by
  unfold compareAll
  induction values generalizing builder with
  | nil => rfl
  | cons entry rest inductionHypothesis =>
    rw [List.foldl_cons, inductionHypothesis, keeps_compare view kept]

/-- A group adds one condition or none, whatever was done to fill it. -/
theorem keeps_group
    (kept : ∀ connector condition values builder,
      view (addCondition connector condition values builder) = view builder)
    (connector : Connector) (fill : Builder → Builder) (builder : Builder) :
    view (builder.group connector fill) = view builder := by
  simp only [group]
  split
  · rfl
  · exact kept _ _ _ builder

theorem keeps_insert (kept : ∀ row builder, view (addRow row builder) = view builder)
    (rows : List Row) (builder : Builder) :
    view (builder.insert rows) = view (builder.initiate .insert) := by
  unfold insert
  generalize builder.initiate .insert = initiated
  induction rows generalizing initiated with
  | nil => rfl
  | cons row rest inductionHypothesis =>
    rw [List.foldl_cons, inductionHypothesis, kept]

end FluentSql.Builder
