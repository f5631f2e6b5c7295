import FluentSql.Proofs.Depth
import FluentSql.Proofs.Draft

/-!
# Which values a group brings

A group is filled on a query of its own. It writes the conditions of that query only, but
it brings all its values: those of its joins and of its rows have no placeholder in the
group. These are the strays. `Query.Accounted` accounts for the values of a query by its
joins, rows and conditions, strays among them; every call that does not name a bucket keeps
the account (`Call.accounted_run`). So a group brings exactly the values of its conditions
if and only if no query that it or a group in it was filled on has a join or a row with
values (`Call.group_brings_own_iff`).
-/

namespace FluentSql

open Sql Fragment

/-- The number of values that the joins and the rows of a frame ask for. -/
def Frame.unwritten (frame : Frame) : Nat :=
  Constraint.allPlaces (frame.joins.flatMap Join.constraints) +
    (frame.rows.flatMap Dictionary.values).length

namespace Condition

mutual

/-- The number of values that come with a condition and that it does not ask for: those of
the joins and rows of its groups, at any depth. -/
def strays : Condition → Nat
  | .group frame conditions => frame.unwritten + allStrays conditions
  | _ => 0

/-- The number of values that come with some conditions and that they do not ask for. -/
def allStrays : List (Connector × Condition) → Nat
  | [] => 0
  | (_, first) :: rest => first.strays + allStrays rest

end

theorem allPlaces_append (first second : List (Connector × Condition)) :
    allPlaces (first ++ second) = allPlaces first + allPlaces second := by
  induction first with
  | nil => simp [allPlaces]
  | cons part rest inductionHypothesis =>
    rw [List.cons_append, allPlaces, allPlaces, inductionHypothesis, Nat.add_assoc]

theorem allStrays_append (first second : List (Connector × Condition)) :
    allStrays (first ++ second) = allStrays first + allStrays second := by
  induction first with
  | nil => simp [allStrays]
  | cons part rest inductionHypothesis =>
    rw [List.cons_append, allStrays, allStrays, inductionHypothesis, Nat.add_assoc]

theorem allStrays_eq_zero_iff {list : List (Connector × Condition)} :
    allStrays list = 0 ↔ ∀ member ∈ list, member.2.strays = 0 := by
  induction list with
  | nil => simp [allStrays]
  | cons part rest inductionHypothesis =>
    rw [allStrays, Nat.add_eq_zero_iff, inductionHypothesis, List.forall_mem_cons]

/-- A condition has no strays exactly if no frame of a group in it asks for values. -/
theorem strays_eq_zero_iff {clause : Condition} :
    clause.strays = 0 ↔
      ∀ frame members, .group frame members ∈ clause.within → frame.unwritten = 0 := by
  induction clause using Condition.induction with
  | group frame members inductionHypothesis =>
    rw [strays, Nat.add_eq_zero_iff, allStrays_eq_zero_iff, within]
    constructor
    · rintro ⟨own, deeper⟩ inner innerMembers isWithin
      rcases List.mem_cons.mp isWithin with itself | below
      · cases itself
        exact own
      · rw [allWithin_eq_flatMap, List.mem_flatMap] at below
        obtain ⟨member, isMember, below⟩ := below
        exact (inductionHypothesis member isMember).mp (deeper member isMember) _ _ below
    · intro everywhere
      refine ⟨everywhere frame members List.mem_cons_self, fun member isMember => ?_⟩
      apply (inductionHypothesis member isMember).mpr
      intro inner innerMembers below
      apply everywhere inner innerMembers
      rw [allWithin_eq_flatMap]
      exact List.mem_cons_of_mem _ (List.mem_flatMap.mpr ⟨member, isMember, below⟩)
  | compare | between | among | null | datePart | jsonContains | jsonLength =>
    simp [strays, within]

end Condition

/-- The values of a query, accounted for by its joins, its rows and its conditions. -/
structure Query.Accounted (query : Query) : Prop where
  select : query.buckets.select.toList = []
  join : query.buckets.join.toList.length = query.joinPlaces
  filter : query.buckets.filter.toList.length =
    Condition.allPlaces query.conditions + Condition.allStrays query.conditions
  having : query.buckets.having.toList = []
  order : query.buckets.order.toList = []
  inserts : query.buckets.inserts.toList = query.rows.flatMap Dictionary.values

/-- A join holds as many values as its constraints ask for. -/
theorem Join.Tracks.length_bindings {dialect : Dialect} {kind : JoinKind} {table : Reference}
    {join : Join} {parts : List (Connector × List Symbol)}
    (tracks : join.Tracks dialect kind table parts) :
    join.bindings.toList.length = Constraint.allPlaces join.constraints := by
  rw [tracks.renders.length_eq, placeholders_join]

namespace Query.Accounted

variable {builder : Builder}

theorem nested (builder : Builder) : builder.nested.query.Accounted where
  select := rfl
  join := rfl
  filter := rfl
  having := rfl
  order := rfl
  inserts := rfl

theorem initiate (accounted : builder.query.Accounted) (kind : StatementKind) :
    (builder.initiate kind).query.Accounted :=
  { accounted with }

theorem addCondition (accounted : builder.query.Accounted) (connector : Connector)
    {clause : Condition} {values : Items Bind}
    (bound : values.toList.length = clause.places + clause.strays) :
    (builder.addCondition connector clause values).query.Accounted := by
  have before := accounted.filter
  refine { accounted with filter := ?_ }
  simp only [Builder.addCondition, Builder.modify, Buckets.add, Buckets.set, Buckets.get,
    Items.toList_append, List.length_append, Condition.allPlaces_append,
    Condition.allStrays_append, Condition.allPlaces, Condition.allStrays, bound]
  omega

theorem compare (accounted : builder.query.Accounted) (connector : Connector)
    (column : Reference) (operator : Operator) (value : Bind) :
    (builder.compare connector column operator value).query.Accounted := by
  unfold Builder.compare
  split
  · exact accounted.addCondition connector rfl
  · exact accounted.addCondition connector rfl

theorem compareAll (accounted : builder.query.Accounted) (connector : Connector)
    (values : List (Reference × Bind)) :
    (builder.compareAll connector values).query.Accounted :=
  List.foldlRecOn (motive := fun (builder : Builder) => builder.query.Accounted) values _ accounted
    fun _ accounted entry _ => accounted.compare connector entry.1 .equal entry.2

/-- The values that a query hands to the group filled on it. -/
theorem toList_gathered {query : Query} (accounted : query.Accounted) :
    query.buckets.gathered.toList = query.buckets.join.toList ++ query.buckets.filter.toList ++
      query.buckets.inserts.toList := by
  simp [Buckets.flatten, Bucket.all, Buckets.get, accounted.select, accounted.having,
    accounted.order]

/-- They are those that the group asks for and its strays. -/
theorem length_gathered {query : Query} (accounted : query.Accounted) (buckets : Buckets) :
    query.buckets.gathered.toList.length =
      (Condition.group { query.toFrame with buckets } query.conditions).places +
        (Condition.group { query.toFrame with buckets } query.conditions).strays := by
  have join := accounted.join
  have filter := accounted.filter
  have inserts := congrArg List.length accounted.inserts
  simp only [accounted.toList_gathered, List.length_append, Condition.places, Condition.strays,
    Frame.unwritten]
  unfold joinPlaces at join
  omega

theorem group (accounted : builder.query.Accounted) (connector : Connector)
    {fill : Builder → Builder} (filled : (fill builder.nested).query.Accounted) :
    (builder.group connector fill).query.Accounted := by
  simp only [Builder.group]
  split
  · exact accounted
  · exact accounted.addCondition connector (filled.length_gathered .empty)

theorem addJoin (accounted : builder.query.Accounted) {join : Join}
    (bound : join.bindings.toList.length = Constraint.allPlaces join.constraints) :
    (builder.addJoin join).query.Accounted := by
  have before := accounted.join
  refine { accounted with join := ?_ }
  unfold joinPlaces at before ⊢
  simp only [Builder.addJoin, Builder.modify, Buckets.add, Buckets.set, Buckets.get,
    Items.toList_append, List.length_append, List.flatMap_append, List.flatMap_cons,
    List.flatMap_nil, List.append_nil, Constraint.allPlaces_append, bound, before]

theorem addRow (accounted : builder.query.Accounted) (row : Row) :
    (builder.addRow row).query.Accounted := by
  have before := accounted.inserts
  refine { accounted with inserts := ?_ }
  simp only [Builder.addRow, Builder.modify, Buckets.add, Buckets.set, Buckets.get,
    Items.toList_append, Items.toList_ofList, List.flatMap_append, List.flatMap_cons,
    List.flatMap_nil, List.append_nil, before]

theorem insert (accounted : builder.query.Accounted) (rows : List Row) :
    (builder.insert rows).query.Accounted :=
  List.foldlRecOn (motive := fun (builder : Builder) => builder.query.Accounted) rows _
    (accounted.initiate .insert) fun _ accounted row _ => accounted.addRow row

end Query.Accounted

namespace Call

mutual

/-- Whether a call names no bucket, in groups at any depth. -/
def leavesBuckets : Call → Bool
  | .addBindings _ _ | .setBindings _ _ => false
  | .group _ calls => allLeaveBuckets calls
  | _ => true

/-- Whether some calls name no bucket. -/
def allLeaveBuckets : List Call → Bool
  | [] => true
  | call :: rest => call.leavesBuckets && allLeaveBuckets rest

end

mutual

/-- A call that names no bucket keeps the account. -/
theorem accounted_run (call : Call) (leaves : call.leavesBuckets) {builder : Builder}
    (accounted : builder.query.Accounted) : (call.run builder).query.Accounted := by
  cases call with
  | compare => exact accounted.compare _ _ _ _
  | deleteId id => exact (accounted.initiate .delete).compare .and "id" .equal id
  | compareAll => exact accounted.compareAll _ _
  | among connector column values negated =>
    exact accounted.addCondition connector values.size_eq.symm
  | between | null | datePart | jsonContains | jsonLength =>
    exact accounted.addCondition _ rfl
  | group connector calls =>
    exact accounted.group connector (accounted_runAll calls leaves (.nested builder))
  | joinColumns kind table first operator second =>
    have joined := JoinCall.tracks_run (.compareColumns .and first operator second)
      (Join.tracks_on .mysql kind table)
    exact accounted.addJoin joined.length_bindings
  | joinValue kind table column operator value =>
    have joined := JoinCall.tracks_run (.compareValue .and column operator value)
      (Join.tracks_on .mysql kind table)
    exact accounted.addJoin joined.length_bindings
  | joinWith kind table calls =>
    have joined := JoinCall.tracks_runAll calls (Join.tracks_on .mysql kind table)
    exact accounted.addJoin joined.length_bindings
  | insert rows => exact accounted.insert rows
  | addBindings | setBindings => cases leaves
  | _ => exact { accounted with }

theorem accounted_runAll (calls : List Call) (leave : allLeaveBuckets calls) {builder : Builder}
    (accounted : builder.query.Accounted) : (runAll calls builder).query.Accounted := by
  cases calls with
  | nil =>
    rw [runAll_nil]
    exact accounted
  | cons call rest =>
    rw [allLeaveBuckets, Bool.and_eq_true] at leave
    rw [runAll_cons]
    exact accounted_runAll rest leave.2 (accounted_run call leave.1 accounted)

end

end Call

/-! ## What a group brings -/

/-- A builder has one condition more than before and some values more in the where bucket, and
is the same builder otherwise. -/
structure Builder.Gains (before after : Builder) (connector : Connector) (clause : Condition)
    (values : List Bind) : Prop where
  conditions : after.query.conditions = before.query.conditions ++ [(connector, clause)]
  filter : (after.query.buckets.get .filter).toList =
    (before.query.buckets.get .filter).toList ++ values
  others : ∀ bucket, bucket ≠ .filter →
    after.query.buckets.get bucket = before.query.buckets.get bucket
  frame : { after.query.toFrame with buckets := before.query.buckets } = before.query.toFrame
  dialect : after.dialect = before.dialect

theorem Builder.gains_addCondition (builder : Builder) (connector : Connector)
    (clause : Condition) (values : Items Bind) :
    builder.Gains (builder.addCondition connector clause values) connector clause
      values.toList where
  conditions := rfl
  filter := Items.toList_append _ _
  others := fun _ different => Buckets.get_set_of_ne _ different _
  frame := rfl
  dialect := rfl

/-- A query that a group is filled on hands over the values of its conditions and no others,
as many as the group asks for, exactly if no frame in the group asks for values. -/
theorem Query.Accounted.brings_own_iff {query : Query} (accounted : query.Accounted)
    (buckets : Buckets) :
    let group := Condition.group { query.toFrame with buckets } query.conditions
    let brought := query.buckets.gathered.toList
    (brought = query.buckets.filter.toList ∧
        ∀ dialect, brought.length = (condition dialect group).placeholders) ↔
      ∀ frame members, .group frame members ∈ group.within → frame.unwritten = 0 := by
  intro group brought
  have total : brought.length = group.places + group.strays := accounted.length_gathered buckets
  rw [← Condition.strays_eq_zero_iff]
  constructor
  · rintro ⟨-, counted⟩
    -- the count alone rules out strays; one dialect is enough
    have written := counted .mysql
    rw [placeholders_condition] at written
    omega
  · intro none
    have own : query.toFrame.unwritten = 0 := by
      have parts : group.strays =
          query.toFrame.unwritten + Condition.allStrays query.conditions := by
        simp only [group, Condition.strays, Frame.unwritten]
      omega
    obtain ⟨noJoins, noRows⟩ := Nat.add_eq_zero_iff.mp own
    have join : query.buckets.join.toList = [] :=
      List.length_eq_zero_iff.mp (accounted.join.trans noJoins)
    have inserts : query.buckets.inserts.toList = [] :=
      accounted.inserts.trans (List.length_eq_zero_iff.mp noRows)
    refine ⟨?_, fun dialect => ?_⟩
    · simp only [brought, accounted.toList_gathered, join, inserts, List.nil_append,
        List.append_nil]
    · rw [placeholders_condition]
      omega

namespace Call

/-- Calls that name no bucket fill a group. Without a condition among them the builder is left
as it is. Otherwise it gains one condition, and the values of the joins, conditions and rows
that the group was filled with, in this order. These are the values that the group asks for
and its strays; so it brings exactly its own values if and only if no query that it or a
group in it was filled on has joins or rows that ask for values. -/
theorem group_brings_own_iff {calls : List Call} (leave : allLeaveBuckets calls)
    (connector : Connector) (builder : Builder) :
    let inner := (runAll calls builder.nested).query
    let after := (Call.group connector calls).run builder
    (inner.conditions = [] → after = builder) ∧
      (inner.conditions ≠ [] →
        let group := Condition.group { inner.toFrame with buckets := .empty } inner.conditions
        let brought := inner.buckets.join.toList ++ inner.buckets.filter.toList ++
          inner.buckets.inserts.toList
        builder.Gains after connector group brought ∧
          (∀ dialect, brought.length = (condition dialect group).placeholders + group.strays) ∧
          ((brought = inner.buckets.filter.toList ∧
              ∀ dialect, brought.length = (condition dialect group).placeholders) ↔
            ∀ frame members, .group frame members ∈ group.within → frame.unwritten = 0)) := by
  intro inner after
  have accounted : inner.Accounted := accounted_runAll calls leave (.nested builder)
  constructor
  · intro none
    exact if_pos (List.isEmpty_iff.mpr none)
  · intro some group brought
    have nonempty : ¬ inner.conditions.isEmpty := fun isEmpty => some (List.isEmpty_iff.mp isEmpty)
    have added : after = builder.addCondition connector group inner.buckets.gathered :=
      if_neg nonempty
    have values : inner.buckets.gathered.toList = brought := accounted.toList_gathered
    rw [← values]
    refine ⟨?_, fun dialect => ?_, accounted.brings_own_iff .empty⟩
    · rw [added]
      exact builder.gains_addCondition connector group inner.buckets.gathered
    · rw [placeholders_condition]
      exact accounted.length_gathered .empty

/-- Two groups in each other without joins and rows, on a builder that has conditions. -/
theorem group_brings_own_iff_nested :
    let calls := [Call.compare .and "a" .less (.int64 1),
      .group .or [.among .and "b" (.many [.int64 2, .int64 3]) false, .null .or "c" true]]
    let builder := (Builder.table .sqlite "users").compare .and "d" .equal (.int64 0)
    let inner := (runAll calls builder.nested).query
    let after := (Call.group .or calls).run builder
    let group := Condition.group { inner.toFrame with buckets := .empty } inner.conditions
    let brought := inner.buckets.join.toList ++ inner.buckets.filter.toList ++
      inner.buckets.inserts.toList
    allLeaveBuckets calls ∧ inner.conditions ≠ [] ∧ builder.Gains after .or group brought ∧
      ∀ dialect, brought.length = (condition dialect group).placeholders + group.strays := by
  intro calls builder inner after group brought
  have leave : allLeaveBuckets calls := by decide +kernel
  have some : inner.conditions ≠ [] := List.ne_nil_of_length_pos (by decide +kernel)
  obtain ⟨gains, counted, -⟩ := (group_brings_own_iff leave .or builder).2 some
  exact ⟨leave, some, gains, counted⟩

/-- A join in a group brings its value, and the group has no placeholder for it. -/
theorem group_brings_join :
    let calls := [Call.joinValue .inner "posts" "posts.user_id" .equal (.integer (.int32 1)),
      .compare .and "b" .equal (.integer (.int32 2))]
    let builder := Builder.table .sqlite "users"
    let inner := (runAll calls builder.nested).query
    let after := ((Call.group .and calls).run builder).query
    allLeaveBuckets calls ∧ inner.conditions ≠ [] ∧
      after.buckets.filter.toList = [.integer (.int32 1), .integer (.int32 2)] ∧
      after.buckets.filter.toList ≠
        builder.query.buckets.filter.toList ++ inner.buckets.filter.toList ∧
      ∀ dialect, (conditions dialect after.conditions).placeholders = 1 := by
  intro calls builder inner after
  refine ⟨by decide +kernel, List.ne_nil_of_length_pos (by decide +kernel), by decide +kernel,
    by decide +kernel, fun dialect => ?_⟩
  cases dialect <;> decide +kernel

end Call

end FluentSql
