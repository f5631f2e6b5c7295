import FluentSql.Proofs.Bare
import FluentSql.Proofs.Kept

/-!
# Families of calls

Calls belong to families by the part of a builder that they are about. A call of one family
neither sees nor changes what belongs to another: `Builder.about` takes out the part of a
family, `Call.about_run_of_not_concerns` says that other calls leave it alone, and
`Call.about_run` that a call does the same to it whatever the rest of the builder is. So the
part of a family is what the calls of that family make of it (`Call.about_runAll_filter`),
and calls of different families may come in any order.
-/

namespace FluentSql

/-- What calls on a builder are about. -/
inductive Family where
  /-- The kind of the statement, its columns, rows and assignments. -/
  | statement
  | table
  | dialect
  | joins
  | conditions
  | groups
  | orders
  | pagination
  | locks
  /-- Values put into the select bucket, which no other calls fill. -/
  | selectValues
  | havingValues
  | orderValues
deriving DecidableEq, Repr

/-- The family whose calls fill a bucket. -/
def Bucket.family : Bucket → Family
  | .select => .selectValues
  | .join => .joins
  | .filter => .conditions
  | .having => .havingValues
  | .order => .orderValues
  | .inserts => .statement

namespace Call

/-- The families of a call: a delete by id starts a statement and adds a condition, any other
call belongs to one family or, if it names no bucket, to none. -/
def families : Call → List Family
  | .select _ | .addSelect _ | .distinct | .insert _ | .update _ | .set _ _ | .delete =>
    [.statement]
  | .deleteId _ => [.statement, .conditions]
  | .fromTable _ => [.table]
  | .withDialect _ => [.dialect]
  | .joinColumns _ _ _ _ _ | .joinValue _ _ _ _ _ | .joinWith _ _ _ => [.joins]
  | .compare _ _ _ _ | .compareAll _ _ | .group _ _ | .between _ _ _ _ _ | .among _ _ _ _
  | .null _ _ _ | .datePart _ _ _ _ _ | .jsonContains _ _ _ _ | .jsonLength _ _ _ _ =>
    [.conditions]
  | .groupBy _ => [.groups]
  | .orderBy _ _ => [.orders]
  | .limit _ | .offset _ | .limitOffset _ _ | .page _ _ => [.pagination]
  | .lock _ => [.locks]
  | .addBindings _ name | .setBindings _ name =>
    match Bucket.ofName? name with
    | .ok bucket => [bucket.family]
    | .error _ => []

/-- Whether a call belongs to a family. -/
def concerns (family : Family) (call : Call) : Bool := call.families.contains family

end Call

namespace Builder

/-- What a builder knows of a family; everything else is left out. -/
def about (builder : Builder) : Family → Builder
  | .statement => ⟨default, { Query.empty with
      kind? := builder.query.kind?
      columns := builder.query.columns
      distinct := builder.query.distinct
      aggregate? := builder.query.aggregate?
      rows := builder.query.rows
      updates := builder.query.updates
      buckets := Buckets.empty.set .inserts builder.query.buckets.inserts }⟩
  | .table => ⟨default, { Query.empty with table? := builder.query.table? }⟩
  | .dialect => ⟨builder.dialect, .empty⟩
  | .joins => ⟨default, { Query.empty with
      joins := builder.query.joins
      buckets := Buckets.empty.set .join builder.query.buckets.join }⟩
  | .conditions => ⟨default, { Query.empty with
      conditions := Condition.allBare builder.query.conditions
      buckets := Buckets.empty.set .filter builder.query.buckets.filter }⟩
  | .groups => ⟨default, { Query.empty with groups := builder.query.groups }⟩
  | .orders => ⟨default, { Query.empty with orders := builder.query.orders }⟩
  | .pagination => ⟨default, { Query.empty with pagination := builder.query.pagination }⟩
  | .locks => ⟨default, { Query.empty with lock? := builder.query.lock? }⟩
  | .selectValues => ⟨default, { Query.empty with
      buckets := Buckets.empty.set .select builder.query.buckets.select }⟩
  | .havingValues => ⟨default, { Query.empty with
      buckets := Buckets.empty.set .having builder.query.buckets.having }⟩
  | .orderValues => ⟨default, { Query.empty with
      buckets := Buckets.empty.set .order builder.query.buckets.order }⟩

variable {builder other : Builder} {family : Family}

theorem about_addCondition_of_ne (apart : family ≠ .conditions) (connector : Connector)
    (condition : Condition) (values : Items Bind) (builder : Builder) :
    (builder.addCondition connector condition values).about family = builder.about family := by
  cases family with
  | conditions => exact absurd rfl apart
  | _ => rfl

theorem about_addRow_of_ne (apart : family ≠ .statement) (row : Row) (builder : Builder) :
    (builder.addRow row).about family = builder.about family := by
  cases family with
  | statement => exact absurd rfl apart
  | _ => rfl

theorem about_addJoin_of_ne (apart : family ≠ .joins) (join : Join) (builder : Builder) :
    (builder.addJoin join).about family = builder.about family := by
  cases family with
  | joins => exact absurd rfl apart
  | _ => rfl

theorem about_initiate_of_ne (apart : family ≠ .statement) (kind : StatementKind)
    (builder : Builder) : (builder.initiate kind).about family = builder.about family := by
  cases family with
  | statement => exact absurd rfl apart
  | _ => rfl

theorem about_setBindings_of_ne {bucket : Bucket} (apart : family ≠ bucket.family)
    (values : Items Bind) (builder : Builder) :
    (builder.setBindings values bucket).about family = builder.about family := by
  cases bucket <;> cases family <;> first | rfl | exact absurd rfl apart

/-- What a step makes of the part of a family is the same for all builders, if it is the same
as for a builder that knows nothing else. -/
theorem about_of_part (step : Builder → Builder)
    (part : ∀ builder : Builder,
      (step builder).about family = (step (builder.about family)).about family)
    (same : builder.about family = other.about family) :
    (step builder).about family = (step other).about family := by
  rw [part builder, same, ← part other]

theorem get_eq_of_about {bucket : Bucket}
    (same : builder.about bucket.family = other.about bucket.family) :
    builder.query.buckets.get bucket = other.query.buckets.get bucket := by
  have known := congrArg (fun known => known.query.buckets.get bucket) same
  cases bucket <;> exact known

/-- Of conditions it is known what they are without the frames of their groups. -/
theorem about_conditions_eq_iff : builder.about .conditions = other.about .conditions ↔
    Condition.allBare builder.query.conditions = Condition.allBare other.query.conditions ∧
      builder.query.buckets.filter = other.query.buckets.filter := by
  constructor
  · intro same
    exact ⟨congrArg (fun known => known.query.conditions) same,
      congrArg (fun known => known.query.buckets.filter) same⟩
  · rintro ⟨conditions, values⟩
    simp only [about, conditions, values]

theorem about_addCondition (same : builder.about .conditions = other.about .conditions)
    (connector : Connector) {condition twin : Condition} (alike : condition.bare = twin.bare)
    (values : Items Bind) :
    (builder.addCondition connector condition values).about .conditions =
      (other.addCondition connector twin values).about .conditions := by
  obtain ⟨conditions, bound⟩ := about_conditions_eq_iff.mp same
  refine about_conditions_eq_iff.mpr ⟨?_, congrArg (· ++ values) bound⟩
  simp only [addCondition, modify, Condition.allBare_append, conditions, Condition.allBare, alike]

theorem about_compare (same : builder.about .conditions = other.about .conditions)
    (connector : Connector) (column : Reference) (operator : Operator) (value : Bind) :
    (builder.compare connector column operator value).about .conditions =
      (other.compare connector column operator value).about .conditions := by
  unfold compare
  split
  · exact about_addCondition same connector rfl .none
  · exact about_addCondition same connector rfl (.one value)

theorem about_compareAll (same : builder.about .conditions = other.about .conditions)
    (connector : Connector) (values : List (Reference × Bind)) :
    (builder.compareAll connector values).about .conditions =
      (other.compareAll connector values).about .conditions := by
  unfold compareAll
  induction values generalizing builder other with
  | nil => exact same
  | cons entry rest inductionHypothesis =>
    exact inductionHypothesis (about_compare same connector entry.1 .equal entry.2)

/-- Builders that know the same but for table and dialect have the same values, and the same
conditions but for frames. -/
theorem eq_of_about_but_place (same : ∀ family, family ≠ .table → family ≠ .dialect →
    builder.about family = other.about family) :
    builder.query.buckets = other.query.buckets ∧
      Condition.allBare builder.query.conditions = Condition.allBare other.query.conditions := by
  have conditions := same .conditions (by decide) (by decide)
  refine ⟨Buckets.ext fun bucket => ?_, (about_conditions_eq_iff.mp conditions).1⟩
  exact get_eq_of_about
    (same bucket.family (by cases bucket <;> decide) (by cases bucket <;> decide))

/-- A group depends on what it is filled with, not on where. -/
theorem about_group (same : builder.about .conditions = other.about .conditions)
    (connector : Connector) {fill : Builder → Builder}
    (filled : ∀ family, family ≠ .table → family ≠ .dialect →
      (fill builder.nested).about family = (fill other.nested).about family) :
    (builder.group connector fill).about .conditions =
      (other.group connector fill).about .conditions := by
  obtain ⟨buckets, conditions⟩ := eq_of_about_but_place filled
  have isEmpty := congrArg List.isEmpty conditions
  rw [Condition.isEmpty_allBare, Condition.isEmpty_allBare] at isEmpty
  simp only [group, isEmpty, buckets]
  split
  · exact same
  · refine about_addCondition same connector ?_ _
    simp only [Condition.bare, conditions]

theorem about_insert (same : builder.about .statement = other.about .statement)
    (rows : List Row) :
    (builder.insert rows).about .statement = (other.insert rows).about .statement := by
  unfold insert
  have initiated : (builder.initiate .insert).about .statement =
      (other.initiate .insert).about .statement :=
    about_of_part (initiate .insert) (fun _ => rfl) same
  generalize builder.initiate .insert = left at initiated ⊢
  generalize other.initiate .insert = right at initiated ⊢
  induction rows generalizing left right with
  | nil => exact initiated
  | cons row rest inductionHypothesis =>
    exact inductionHypothesis _ _ (about_of_part (addRow row) (fun _ => rfl) initiated)

theorem about_setBindings {bucket : Bucket}
    (same : builder.about bucket.family = other.about bucket.family) (values : Items Bind) :
    (builder.setBindings values bucket).about bucket.family =
      (other.setBindings values bucket).about bucket.family := by
  cases bucket with
  | filter =>
    exact about_conditions_eq_iff.mpr ⟨(about_conditions_eq_iff.mp same).1, rfl⟩
  | select | join | having | order | inserts =>
    exact about_of_part (setBindings values _) (fun _ => rfl) same

theorem about_addBindings {bucket : Bucket}
    (same : builder.about bucket.family = other.about bucket.family) (values : Items Bind) :
    (builder.addBindings values bucket).about bucket.family =
      (other.addBindings values bucket).about bucket.family := by
  -- adding to a bucket replaces it by what it has together with what is added
  have replaced := about_setBindings same (builder.query.buckets.get bucket ++ values)
  refine replaced.trans ?_
  rw [get_eq_of_about same]
  rfl

end Builder

namespace Call

/-- A call leaves alone what belongs to other families. -/
theorem about_run_of_not_concerns {call : Call} {family : Family}
    (apart : call.concerns family = false) (builder : Builder) :
    (call.run builder).about family = builder.about family := by
  have apart : family ∉ call.families := by simpa [concerns] using apart
  let view := fun builder : Builder => builder.about family
  cases call with
  | select | addSelect | distinct | update | set | delete | fromTable | withDialect | groupBy
  | orderBy | limit | offset | limitOffset | page | lock =>
    cases family <;> first | rfl | exact absurd List.mem_cons_self apart
  | insert rows =>
    have other : family ≠ .statement := List.ne_of_not_mem_cons apart
    exact (Builder.keeps_insert view (Builder.about_addRow_of_ne other) rows builder).trans
      (Builder.about_initiate_of_ne other .insert builder)
  | deleteId id =>
    have other : family ≠ .statement := List.ne_of_not_mem_cons apart
    have others : family ≠ .conditions :=
      List.ne_of_not_mem_cons (List.not_mem_of_not_mem_cons apart)
    exact (Builder.keeps_compare view (Builder.about_addCondition_of_ne others) _ _ _ _ _).trans
      (Builder.about_initiate_of_ne other .delete builder)
  | joinColumns | joinValue | joinWith =>
    exact Builder.about_addJoin_of_ne (List.ne_of_not_mem_cons apart) _ builder
  | compare =>
    have other : family ≠ .conditions := List.ne_of_not_mem_cons apart
    exact Builder.keeps_compare view (Builder.about_addCondition_of_ne other) _ _ _ _ builder
  | compareAll =>
    have other : family ≠ .conditions := List.ne_of_not_mem_cons apart
    exact Builder.keeps_compareAll view (Builder.about_addCondition_of_ne other) _ _ builder
  | group =>
    have other : family ≠ .conditions := List.ne_of_not_mem_cons apart
    exact Builder.keeps_group view (Builder.about_addCondition_of_ne other) _ _ builder
  | between | among | null | datePart | jsonContains | jsonLength =>
    exact Builder.about_addCondition_of_ne (List.ne_of_not_mem_cons apart) _ _ _ builder
  | addBindings values name | setBindings values name =>
    simp only [run]
    simp only [families] at apart
    split
    · rename_i bucket named
      rw [named] at apart
      exact Builder.about_setBindings_of_ne (List.ne_of_not_mem_cons apart) _ builder
    · rfl

mutual

/-- Builders that know the same of a family do so after a call. -/
theorem about_run (call : Call) {family : Family} {builder other : Builder}
    (same : builder.about family = other.about family) :
    (call.run builder).about family = (call.run other).about family := by
  cases concerned : call.concerns family with
  | false =>
    rw [about_run_of_not_concerns concerned, about_run_of_not_concerns concerned]
    exact same
  | true =>
    have concerned : family ∈ call.families := by simpa [concerns] using concerned
    cases call with
    | select | addSelect | distinct | update | set | delete | fromTable | withDialect | groupBy
    | orderBy | limit | offset | limitOffset | page | lock | joinColumns | joinValue | joinWith =>
      obtain rfl := List.mem_singleton.mp concerned
      exact Builder.about_of_part (run _) (fun _ => rfl) same
    | insert rows =>
      obtain rfl := List.mem_singleton.mp concerned
      exact Builder.about_insert same rows
    | deleteId id =>
      rcases List.mem_cons.mp concerned with rfl | later
      · have kept := Builder.keeps_compare (fun builder => builder.about .statement)
          (Builder.about_addCondition_of_ne (by decide)) .and "id" .equal id
        refine (kept builder.delete).trans (Eq.trans ?_ (kept other.delete).symm)
        exact Builder.about_of_part Builder.delete (fun _ => rfl) same
      · obtain rfl := List.mem_singleton.mp later
        have started : builder.delete.about .conditions = other.delete.about .conditions := same
        exact Builder.about_compare started .and "id" .equal id
    | compare =>
      obtain rfl := List.mem_singleton.mp concerned
      exact Builder.about_compare same _ _ _ _
    | compareAll =>
      obtain rfl := List.mem_singleton.mp concerned
      exact Builder.about_compareAll same _ _
    | group connector calls =>
      obtain rfl := List.mem_singleton.mp concerned
      refine Builder.about_group same connector fun family notTable notDialect => ?_
      refine about_runAll calls ?_
      cases family <;> first | rfl | contradiction
    | between | among | null | datePart | jsonContains | jsonLength =>
      obtain rfl := List.mem_singleton.mp concerned
      exact Builder.about_addCondition same _ rfl _
    | addBindings values name =>
      simp only [run]
      simp only [families] at concerned
      split
      · rename_i bucket named
        rw [named] at concerned
        obtain rfl := List.mem_singleton.mp concerned
        exact Builder.about_addBindings same values
      · exact same
    | setBindings values name =>
      simp only [run]
      simp only [families] at concerned
      split
      · rename_i bucket named
        rw [named] at concerned
        obtain rfl := List.mem_singleton.mp concerned
        exact Builder.about_setBindings same values
      · exact same

theorem about_runAll (calls : List Call) {family : Family} {builder other : Builder}
    (same : builder.about family = other.about family) :
    (runAll calls builder).about family = (runAll calls other).about family := by
  cases calls with
  | nil =>
    rw [runAll_nil, runAll_nil]
    exact same
  | cons call rest =>
    rw [runAll_cons, runAll_cons]
    exact about_runAll rest (about_run call same)

end

/-- The part of a family is what the calls of the family alone make of it. -/
theorem about_runAll_filter (family : Family) (calls : List Call) (builder : Builder) :
    (runAll calls builder).about family =
      (runAll (calls.filter (concerns family)) builder).about family := by
  induction calls generalizing builder with
  | nil => rfl
  | cons call rest inductionHypothesis =>
    rw [runAll_cons, inductionHypothesis, List.filter_cons]
    cases concerned : call.concerns family with
    | true =>
      rw [if_pos rfl, runAll_cons]
    | false =>
      rw [if_neg (by decide)]
      exact about_runAll _ (about_run_of_not_concerns concerned builder)

end Call

namespace Builder

/-- A builder whose groups have empty frames. -/
def bare (builder : Builder) : Builder := builder.modify Query.bare

/-- Put the parts of the families together. -/
def together (parts : Family → Builder) : Builder where
  dialect := (parts .dialect).dialect
  query := { (parts .statement).query with
    table? := (parts .table).query.table?
    joins := (parts .joins).query.joins
    conditions := (parts .conditions).query.conditions
    groups := (parts .groups).query.groups
    orders := (parts .orders).query.orders
    pagination := (parts .pagination).query.pagination
    lock? := (parts .locks).query.lock?
    buckets := {
      select := (parts .selectValues).query.buckets.select
      join := (parts .joins).query.buckets.join
      filter := (parts .conditions).query.buckets.filter
      having := (parts .havingValues).query.buckets.having
      order := (parts .orderValues).query.buckets.order
      inserts := (parts .statement).query.buckets.inserts } }

/-- The parts of all families are all that a builder knows, but for the frames of groups. -/
theorem together_about (builder : Builder) : together builder.about = builder.bare := rfl

end Builder

namespace Call

/-- Calls of different families may come in any order: two runs with the same calls in each
family, in the same order there, make builders with the same statements, the same faults and
the same values. -/
theorem runAll_eq_of_families {first second : List Call}
    (same : ∀ family, first.filter (concerns family) = second.filter (concerns family))
    (builder : Builder) :
    (∀ dialect, (runAll first builder).query.sql dialect =
      (runAll second builder).query.sql dialect) ∧
    (runAll first builder).bindings = (runAll second builder).bindings ∧
    (runAll first builder).executionBindings = (runAll second builder).executionBindings := by
  have bare : (runAll first builder).bare = (runAll second builder).bare :=
    calc (runAll first builder).bare
      _ = Builder.together (runAll first builder).about := (Builder.together_about _).symm
      _ = Builder.together (runAll second builder).about :=
        congrArg Builder.together (funext fun family => by
          rw [about_runAll_filter, same, ← about_runAll_filter])
      _ = (runAll second builder).bare := Builder.together_about _
  have query : (runAll first builder).query.bare = (runAll second builder).query.bare :=
    congrArg Builder.query bare
  have bindings := congrArg Query.bindings query
  have executionBindings := congrArg Query.executionBindings query
  refine ⟨fun dialect => ?_, bindings, executionBindings⟩
  rw [← Query.sql_bare, query, Query.sql_bare]

/-- A group made before and after its table, its dialect and a join with a value are known. -/
theorem runAll_eq_of_families_shuffled :
    let first : List Call := [.group .or [.null .and "a" true, .joinValue .left "t" "b" .is .null,
        .group .and [.compare .or "c" .like (.text "x")]],
      .fromTable "posts", .joinValue .inner "u" "d" .equal (.text "y"), .withDialect .sqlite,
      .deleteId (.text "z"), .limit 3, .set "e" (.bool true), .offset 4]
    let second : List Call := [.withDialect .sqlite, .limit 3, .fromTable "posts", .offset 4,
      .joinValue .inner "u" "d" .equal (.text "y"),
      .group .or [.null .and "a" true, .joinValue .left "t" "b" .is .null,
        .group .and [.compare .or "c" .like (.text "x")]],
      .deleteId (.text "z"), .set "e" (.bool true)]
    let builder := Builder.table .mysql "users"
    (∀ family, first.filter (concerns family) = second.filter (concerns family)) ∧
      (∀ dialect, (runAll first builder).query.sql dialect =
        (runAll second builder).query.sql dialect) ∧
      (runAll first builder).bindings = (runAll second builder).bindings ∧
      (runAll first builder).executionBindings = (runAll second builder).executionBindings := by
  intro first second builder
  have same : ∀ family, first.filter (concerns family) = second.filter (concerns family) := by
    intro family
    cases family <;> rfl
  exact ⟨same, runAll_eq_of_families same builder⟩

end Call

end FluentSql
