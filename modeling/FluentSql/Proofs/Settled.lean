import FluentSql.Proofs.Depth
import FluentSql.Proofs.Restoration

/-!
# What joins and groups hold

A query takes over the values of a join that it keeps, and those of the query that a group
was filled on. So a reachable builder has its values in its own buckets only: the joins and
groups that it keeps hold none, no group is empty, and no aggregate is asked for, all this
at any depth. `Query.Settled` is the invariant; each operation keeps it, and a group is
settled because the query that it was filled on is. `Builder.Reachable.settled_everywhere`
adds what follows: no value stands outside of the builder's buckets, and no group is written
as an empty pair of parentheses.
-/

namespace FluentSql

/-- No group of a join, at any depth, is empty. -/
def Join.Filled (join : Join) : Prop :=
  ∀ members, .group members ∈ Constraint.allWithin join.constraints → members ≠ []

/-- A join as a query keeps it: it holds no values, and its groups are not empty. -/
structure Join.Settled (join : Join) : Prop where
  drained : join.bindings = .none
  filled : join.Filled

/-- No aggregate is asked for, and all joins are settled. -/
structure Frame.Settled (frame : Frame) : Prop where
  unasked : frame.aggregate? = none
  joins : ∀ join ∈ frame.joins, join.Settled

/-- A group as a query keeps it: it has conditions, and the frame of the query that it was
filled on has empty buckets and is settled itself. -/
structure Condition.SettledGroup (frame : Frame) (members : List (Connector × Condition)) :
    Prop where
  filled : members ≠ []
  drained : frame.buckets = .empty
  settled : frame.Settled

/-- Whether a condition is a group. -/
def Condition.isGroup : Condition → Bool
  | .group _ _ => true
  | _ => false

/-- All groups among some conditions, at any depth, are settled. -/
def Condition.AllSettled (list : List (Connector × Condition)) : Prop :=
  ∀ frame members, .group frame members ∈ allWithin list → SettledGroup frame members

/-- A query that has taken over all values, and has no empty group. -/
structure Query.Settled (query : Query) : Prop where
  frame : query.toFrame.Settled
  conditions : Condition.AllSettled query.conditions

/-- The values that the joins of a frame hold. -/
def Frame.joinValues (frame : Frame) : List Bind :=
  frame.joins.flatMap fun join => join.bindings.toList

/-- The values in the frame of a group. -/
def Condition.frameValues : Condition → List Bind
  | .group frame _ => frame.buckets.flatten ++ frame.joinValues
  | _ => []

/-- The values that a query holds outside of its own buckets: in its joins, and in its groups
at any depth. -/
def Query.valuesElsewhere (query : Query) : List Bind :=
  query.joinValues ++ (Condition.allWithin query.conditions).flatMap Condition.frameValues

/-- No group that a query writes, in a join or among its conditions, is written as nothing. -/
structure Query.ShowsGroups (query : Query) (dialect : Dialect) : Prop where
  joins : ∀ join ∈ query.joins, ∀ members,
    .group members ∈ Constraint.allWithin join.constraints →
    (Sql.constraints dialect members).text ≠ []
  conditions : ∀ frame members,
    .group frame members ∈ Condition.allWithin query.conditions →
    (Sql.conditions dialect members).text ≠ []

/-! ## Joins -/

namespace Join

variable {join : Join}

theorem filled_on (kind : JoinKind) (table : Reference) : (on kind table).Filled := by
  intro members member
  simp [on, Constraint.allWithin] at member

theorem Filled.add (filled : join.Filled) (connector : Connector) {constraint : Constraint}
    (inner : ∀ members, .group members ∈ constraint.within → members ≠ []) (values : Items Bind) :
    (join.add connector constraint values).Filled := by
  intro members member
  simp only [Join.add, Constraint.allWithin_append, Constraint.allWithin, List.append_nil,
    List.mem_append] at member
  exact member.elim (filled members) (inner members)

/-- A group of a join is filled like a join; if nothing is put in, there is no group. -/
theorem Filled.group (filled : join.Filled) (connector : Connector) {fill : Join → Join}
    (inner : (fill (on join.kind join.table)).Filled) :
    (join.group connector fill).Filled := by
  simp only [Join.group]
  split
  · exact filled
  · rename_i nonempty
    refine filled.add connector (fun members member => ?_) _
    rcases List.mem_cons.mp (by simpa only [Constraint.within] using member) with itself | deeper
    · cases itself
      simpa [isEmpty] using nonempty
    · exact inner members deeper

end Join

namespace JoinCall

mutual

theorem filled_run (call : JoinCall) {join : Join} (filled : join.Filled) :
    (call.run join).Filled := by
  cases call with
  | compareColumns | compareValue | null | among =>
    exact filled.add _ (by simp [Constraint.within]) _
  | group connector calls =>
    exact filled.group connector (filled_runAll calls (Join.filled_on _ _))

theorem filled_runAll (calls : List JoinCall) {join : Join} (filled : join.Filled) :
    (runAll calls join).Filled := by
  cases calls with
  | nil => exact filled
  | cons call rest =>
    rw [runAll_cons]
    exact filled_runAll rest (filled_run call filled)

end

end JoinCall

/-! ## Groups of conditions -/

namespace Condition

theorem AllSettled.append {first second : List (Connector × Condition)}
    (before : AllSettled first) (after : AllSettled second) : AllSettled (first ++ second) := by
  intro frame members member
  rw [allWithin_append] at member
  exact (List.mem_append.mp member).elim (before frame members) (after frame members)

/-- A condition that is no group holds nothing. -/
theorem allSettled_singleton {connector : Connector} {condition : Condition}
    (simple : condition.isGroup = false) : AllSettled [(connector, condition)] := by
  intro frame members member
  cases condition with
  | group => cases simple
  | _ => cases List.mem_singleton.mp member

theorem SettledGroup.single {frame : Frame} {members : List (Connector × Condition)}
    (group : SettledGroup frame members) (inner : AllSettled members) (connector : Connector) :
    AllSettled [(connector, .group frame members)] := by
  intro frame members member
  simp only [allWithin, within, List.append_nil, List.mem_cons] at member
  rcases member with itself | deeper
  · cases itself
    exact group
  · exact inner frame members deeper

end Condition

/-! ## What is written of a settled query -/

namespace Sql

variable (dialect : Dialect)

theorem text_chain_ne_nil {parts : List (Connector × Fragment)} (some : parts ≠ [])
    (shown : ∀ part ∈ parts, part.2.text ≠ []) : (chain parts).text ≠ [] := by
  obtain ⟨first, rest, rfl⟩ := List.exists_cons_of_ne_nil some
  have firstShown := shown first List.mem_cons_self
  simp [chain, firstShown]

theorem text_among_ne_nil (column : Reference) (count : Nat) (negated : Bool) :
    (among dialect column count negated).text ≠ [] := by
  unfold among
  split <;> cases negated <;> simp

theorem text_null_ne_nil (column : Reference) (negated : Bool) :
    (null dialect column negated).text ≠ [] := by
  cases negated <;> simp [null]

theorem text_constraint_ne_nil (clause : Constraint) : (constraint dialect clause).text ≠ [] := by
  cases clause with
  | among column values negated => exact text_among_ne_nil dialect column values.size negated
  | null column negated => exact text_null_ne_nil dialect column negated
  | columns | value | group => simp [constraint, infixed, Fragment.parenthesized]

theorem text_condition_ne_nil (clause : Condition) : (condition dialect clause).text ≠ [] := by
  cases clause with
  | among column values negated => exact text_among_ne_nil dialect column values.size negated
  | null column negated => exact text_null_ne_nil dialect column negated
  | jsonContains => cases dialect <;> simp [condition, jsonContains]
  | compare | between | datePart | jsonLength | group =>
    simp [condition, infixed, jsonLength, Fragment.parenthesized]

theorem text_constraints_ne_nil {list : List (Connector × Constraint)} (some : list ≠ []) :
    (constraints dialect list).text ≠ [] := by
  rw [constraints, constraintParts_eq_map]
  refine text_chain_ne_nil (by simpa using some) fun part isPart => ?_
  obtain ⟨clause, -, rfl⟩ := List.mem_map.mp isPart
  exact text_constraint_ne_nil dialect clause.2

theorem text_conditions_ne_nil {list : List (Connector × Condition)} (some : list ≠ []) :
    (conditions dialect list).text ≠ [] := by
  rw [conditions, conditionParts_eq_map]
  refine text_chain_ne_nil (by simpa using some) fun part isPart => ?_
  obtain ⟨clause, -, rfl⟩ := List.mem_map.mp isPart
  exact text_condition_ne_nil dialect clause.2

end Sql

theorem Frame.Settled.joinValues_eq_nil {frame : Frame} (settled : frame.Settled) :
    frame.joinValues = [] :=
  List.flatMap_eq_nil_iff.mpr fun join isJoin => by rw [(settled.joins join isJoin).drained]; rfl

namespace Query.Settled

variable {query : Query}

theorem valuesElsewhere_eq_nil (settled : query.Settled) : query.valuesElsewhere = [] := by
  have groups : (Condition.allWithin query.conditions).flatMap Condition.frameValues = [] := by
    refine List.flatMap_eq_nil_iff.mpr fun condition isMember => ?_
    cases condition with
    | group frame members =>
      have group := settled.conditions frame members isMember
      simp [Condition.frameValues, group.drained, group.settled.joinValues_eq_nil]
    | _ => rfl
  rw [valuesElsewhere, settled.frame.joinValues_eq_nil, groups, List.append_nil]

theorem showsGroups (settled : query.Settled) (dialect : Dialect) :
    query.ShowsGroups dialect where
  joins := fun join isJoin members isGroup =>
    Sql.text_constraints_ne_nil dialect ((settled.frame.joins join isJoin).filled members isGroup)
  conditions := fun frame members isGroup =>
    Sql.text_conditions_ne_nil dialect (settled.conditions frame members isGroup).filled

end Query.Settled

/-! ## Builders -/

namespace Query.Settled

variable {builder : Builder}

/-- Whether a query is settled is seen from its aggregate, joins and conditions alone. -/
theorem congr {query after : Query} (settled : query.Settled)
    (aggregate : after.aggregate? = query.aggregate?) (joins : after.joins = query.joins)
    (conditions : after.conditions = query.conditions) : after.Settled := by
  refine ⟨⟨aggregate.trans settled.frame.unasked, ?_⟩, ?_⟩
  · rw [joins]
    exact settled.frame.joins
  · rw [conditions]
    exact settled.conditions

theorem initiate (settled : builder.query.Settled) (kind : StatementKind) :
    (builder.initiate kind).query.Settled :=
  settled.congr rfl rfl rfl

theorem addCondition (settled : builder.query.Settled) (connector : Connector)
    {condition : Condition} (added : Condition.AllSettled [(connector, condition)])
    (values : Items Bind) : (builder.addCondition connector condition values).query.Settled :=
  ⟨⟨settled.frame.unasked, settled.frame.joins⟩, settled.conditions.append added⟩

theorem compare (settled : builder.query.Settled) (connector : Connector) (column : Reference)
    (operator : Operator) (value : Bind) :
    (builder.compare connector column operator value).query.Settled := by
  unfold Builder.compare
  split
  · exact settled.addCondition connector (Condition.allSettled_singleton rfl) _
  · exact settled.addCondition connector (Condition.allSettled_singleton rfl) _

theorem compareAll (settled : builder.query.Settled) (connector : Connector)
    (values : List (Reference × Bind)) : (builder.compareAll connector values).query.Settled :=
  List.foldlRecOn (motive := fun (builder : Builder) => builder.query.Settled) values _ settled
    fun _ settled entry _ => settled.compare connector entry.1 .equal entry.2

/-- A group holds what the query was that it was filled on, less the values. -/
theorem group (settled : builder.query.Settled) (connector : Connector)
    {fill : Builder → Builder} (filled : (fill builder.nested).query.Settled) :
    (builder.group connector fill).query.Settled := by
  simp only [Builder.group]
  split
  · exact settled
  · rename_i nonempty
    refine settled.addCondition connector (Condition.SettledGroup.single ?_ filled.conditions _) _
    exact ⟨by simpa using nonempty, rfl, filled.frame.unasked, filled.frame.joins⟩

/-- The values of a join are taken over when it is stored. -/
theorem addJoin (settled : builder.query.Settled) {join : Join} (filled : join.Filled) :
    (builder.addJoin join).query.Settled := by
  refine ⟨⟨settled.frame.unasked, fun stored isStored => ?_⟩, settled.conditions⟩
  rcases List.mem_append.mp isStored with before | added
  · exact settled.frame.joins stored before
  · rw [List.mem_singleton.mp added]
    exact ⟨rfl, filled⟩

theorem insert (settled : builder.query.Settled) (rows : List Row) :
    (builder.insert rows).query.Settled :=
  List.foldlRecOn (motive := fun (builder : Builder) => builder.query.Settled) rows _
    (settled.initiate .insert)
    fun _ settled _ _ => settled.congr rfl rfl rfl

theorem nested (builder : Builder) : builder.nested.query.Settled :=
  ⟨⟨rfl, fun _ isJoin => by cases isJoin⟩, fun _ _ isGroup => by cases isGroup⟩

end Query.Settled

namespace Call

mutual

/-- A call keeps a query settled; a group is filled on a settled one. -/
theorem settled_run (call : Call) {builder : Builder} (settled : builder.query.Settled) :
    (call.run builder).query.Settled := by
  cases call with
  | compare => exact settled.compare _ _ _ _
  | deleteId id => exact (settled.initiate .delete).compare .and "id" .equal id
  | compareAll => exact settled.compareAll _ _
  | between | among | null | datePart | jsonContains | jsonLength =>
    exact settled.addCondition _ (Condition.allSettled_singleton rfl) _
  | group connector calls =>
    exact settled.group connector (settled_runAll calls (.nested builder))
  | joinColumns kind table =>
    exact settled.addJoin (JoinCall.filled_run (.compareColumns ..) (Join.filled_on kind table))
  | joinValue kind table =>
    exact settled.addJoin (JoinCall.filled_run (.compareValue ..) (Join.filled_on kind table))
  | joinWith kind table calls =>
    exact settled.addJoin (JoinCall.filled_runAll calls (Join.filled_on kind table))
  | insert rows => exact settled.insert rows
  | addBindings values name | setBindings values name =>
    simp only [run]
    split
    · exact settled.congr rfl rfl rfl
    · exact settled
  | _ => exact settled.congr rfl rfl rfl

theorem settled_runAll (calls : List Call) {builder : Builder} (settled : builder.query.Settled) :
    (runAll calls builder).query.Settled := by
  cases calls with
  | nil => exact settled
  | cons call rest =>
    rw [runAll_cons]
    exact settled_runAll rest (settled_run call settled)

end

end Call

namespace Builder

variable {builder : Builder}

theorem Fresh.settled (fresh : builder.Fresh) : builder.query.Settled := by
  have conditions : Condition.AllSettled [] := fun _ _ isGroup => by cases isGroup
  cases fresh with
  | new | table => exact ⟨⟨rfl, fun _ isJoin => by cases isJoin⟩, conditions⟩

theorem Reachable.settled (reached : builder.Reachable) : builder.query.Settled := by
  induction reached with
  | fresh fresh => exact fresh.settled
  | call _ call inductionHypothesis => exact call.settled_run inductionHypothesis
  | terminal _ connection terminal state inductionHypothesis =>
    rw [terminal.builder_run connection inductionHypothesis.frame.unasked state]
    exact inductionHypothesis
  | nested => exact .nested _
  | group _ connector _ outer inner => exact outer.group connector inner

/-- A builder that a program can hold has all its values in its own buckets, no empty group
at any depth, and asks for no aggregate; so no value can be bound from elsewhere, and no
group is written as nothing. -/
theorem Reachable.settled_everywhere (reached : builder.Reachable) :
    builder.query.Settled ∧ builder.query.valuesElsewhere = [] ∧
      ∀ dialect, builder.query.ShowsGroups dialect :=
  ⟨reached.settled, reached.settled.valuesElsewhere_eq_nil, reached.settled.showsGroups⟩

/-- A group with a join in it and values in five of its buckets, a join with a group and an
empty group, a call that fails and a maximum that the connection refuses. -/
theorem Reachable.settled_everywhere_refused :
    let builder := Call.runAll
      [.joinWith .left "b"
          [.group .and [.compareValue .and "b.x" .equal (.int64 1)], .group .or []],
        .group .and [.joinValue .inner "c" "c.y" .less (.int64 2), .insert [.ofList [("z", .null)]],
          .addBindings (.one (.int64 3)) "select", .setBindings (.one (.int64 4)) "having",
          .group .or [.compare .and "d" .equal (.int64 5)]],
        .group .or [.orderBy "e" .ascending], .addBindings (.one (.int64 6)) "nowhere"]
      (Builder.table .mysql "a")
    let script := Script.start [.error "gone"] [] []
    let terminal : Terminal := .aggregate .max (.one "f")
    let after := (terminal.run (Script.connection .mysql) builder script).2.1
    after.Reachable ∧ after.query.Settled ∧ after.query.valuesElsewhere = [] ∧
      ∀ dialect, after.query.ShowsGroups dialect :=
  have reached := ((Reachable.fresh (.table .mysql "a")).runAll _).terminal _ _ _
  ⟨reached, reached.settled_everywhere⟩

end Builder

end FluentSql
