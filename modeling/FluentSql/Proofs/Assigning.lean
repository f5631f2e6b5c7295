import FluentSql.Proofs.Compilation
import FluentSql.Proofs.Unquoting
import FluentSql.Query.Call

/-!
# What an update assigns

Every key of an update becomes one assignment, and the keys are different. But a JSON selector
assigns to its field, so several selectors of one field are several assignments to one column,
and of these SQLite carries out the last one only. `Query.assigned_once_iff` says exactly when
this happens, and which assignments are lost.
-/

namespace FluentSql

namespace Sql

/-- The field of a JSON selector. -/
def selectorField? (column : Reference) : Option (List Char) :=
  (Text.cutFirst arrow column.toList).map Prod.fst

/-- The name that an assignment to a reference is to: the field of a selector, or else the
reference itself. -/
def assignedName (column : Reference) : List Char := (selectorField? column).getD column.toList

/-- The text in front of the equals sign of an assignment. -/
def target (dialect : Dialect) (column : Reference) : List Char :=
  wrap dialect (assignedName column)

/-- The text behind the equals sign of an assignment. -/
def source (dialect : Dialect) (column : Reference) : List Char :=
  if (selectorField? column).isSome then
    "json_set(".toList ++ target dialect column ++
      (JsonPlace.ofText column.toList).pathArgument ++ ", ?)".toList
  else ['?']

/-- A name that is written with nothing lost but for its quotes, such as one without
parentheses, or one that mentions `null`. -/
structure Settable (name : List Char) : Prop where
  noBacktick : '`' ∉ name
  noAlias : ¬ " as ".toList <:+: Text.lower name
  nothingBehind : behindCall name = []

/-- Whether a name is settable. -/
def isSettable (name : List Char) : Bool :=
  !name.contains '`' && !Text.contains " as ".toList (Text.lower name) && (behindCall name).isEmpty

theorem isSettable_iff {name : List Char} : isSettable name ↔ Settable name := by
  simp only [isSettable, Bool.and_eq_true, Bool.not_eq_true', Text.contains_eq_false_iff,
    List.isEmpty_iff]
  constructor
  · rintro ⟨⟨noBacktick, noAlias⟩, nothingBehind⟩
    exact ⟨by simpa using noBacktick, noAlias, nothingBehind⟩
  · intro settable
    exact ⟨⟨by simpa using settable.noBacktick, settable.noAlias⟩, settable.nothingBehind⟩

instance (name : List Char) : Decidable (Settable name) := decidable_of_iff _ isSettable_iff

section Assignments

variable {dialect : Dialect} {column other : Reference}

theorem selectorField?_eq_none_iff : selectorField? column = none ↔ ¬ arrow <:+: column.toList := by
  rw [selectorField?, Option.map_eq_none_iff, Text.cutFirst_eq_none_iff]

theorem assignedName_of_some {field : List Char} (isField : selectorField? column = some field) :
    assignedName column = field := by
  rw [assignedName, isField, Option.getD_some]

theorem assignedName_of_none (isPlain : selectorField? column = none) :
    assignedName column = column.toList := by
  rw [assignedName, isPlain, Option.getD_none]

theorem arrowless_assignedName (column : Reference) : ¬ arrow <:+: assignedName column := by
  rcases cut : Text.cutFirst arrow column.toList with _ | ⟨field, path⟩
  · have isPlain : selectorField? column = none := by rw [selectorField?, cut]; rfl
    rw [assignedName_of_none isPlain]
    exact selectorField?_eq_none_iff.mp isPlain
  · have isField : selectorField? column = some field := by rw [selectorField?, cut]; rfl
    rw [assignedName_of_some isField]
    exact Text.not_infix_of_cutFirst (by decide) cut

theorem render_field (dialect : Dialect) (column : Reference) :
    (JsonPlace.ofText column.toList).field.render dialect = target dialect column := by
  rw [target, assignedName, selectorField?, wrap, JsonPlace.ofText]
  cases Text.cutFirst arrow column.toList with
  | none => rfl
  | some parts => rfl

theorem text_assignment (dialect : Dialect) (column : Reference) :
    (assignment dialect column).text =
      target dialect column ++ " = ".toList ++ source dialect column := by
  have isSelector : (selectorField? column).isSome = Text.contains arrow column.toList := by
    rw [selectorField?, Option.isSome_map, Text.contains]
  rw [assignment, source, isSelector]
  split
  · simp [placeField, placePath, render_field, Piece.chars]
  · rename_i isPlain
    have plain : selectorField? column = none := by
      rwa [← isSelector, Bool.not_eq_true, Option.isSome_eq_false_iff, Option.isNone_iff_eq_none]
        at isPlain
    simp [reference, target, assignedName_of_none plain, Piece.chars]

/-- Without its quotes, the text of a settable name is the name. -/
theorem Settable.dropBackticks_wrap {name : List Char} (settable : Settable name)
    (noArrow : ¬ arrow <:+: name) (dialect : Dialect) :
    dropBackticks (wrap dialect name) = name := by
  cases mentions : mentionsNull name with
  | true =>
    have verbatim : wrap dialect name = name := by
      rw [wrap, Expression.ofText, if_pos mentions, Expression.render]
    rw [verbatim, dropBackticks_eq settable.noBacktick]
  | false =>
    have read : NameOrCall name := ⟨mentions, settable.noAlias, noArrow⟩
    have written := read.dropBackticks_wrap dialect
    rwa [settable.nothingBehind, dropBackticks_nil, List.append_nil,
      dropBackticks_eq settable.noBacktick] at written

/-- Assignments have one target exactly if they are to one name. -/
theorem target_eq_iff (settable : Settable (assignedName column))
    (otherSettable : Settable (assignedName other)) :
    target dialect column = target dialect other ↔ assignedName column = assignedName other := by
  constructor
  · intro same
    rw [← settable.dropBackticks_wrap (arrowless_assignedName column) dialect,
      ← otherSettable.dropBackticks_wrap (arrowless_assignedName other) dialect]
    exact congrArg dropBackticks same
  · intro same
    rw [target, target, same]

/-- Two different keys, neither of which is the field of the other, are assignments to one name
exactly if they are selectors of one field. -/
theorem assignedName_eq_iff (different : column ≠ other)
    (apart : selectorField? column = none → selectorField? other ≠ some column.toList)
    (otherApart : selectorField? other = none → selectorField? column ≠ some other.toList) :
    assignedName column = assignedName other ↔
      ∃ field, selectorField? column = some field ∧ selectorField? other = some field := by
  rcases isField : selectorField? column with _ | field <;>
    rcases otherIsField : selectorField? other with _ | otherField
  · rw [assignedName_of_none isField, assignedName_of_none otherIsField]
    simpa [String.toList_inj] using different
  · rw [assignedName_of_none isField, assignedName_of_some otherIsField]
    have unlike := apart isField
    rw [otherIsField] at unlike
    simpa using fun equal => unlike (congrArg some equal.symm)
  · rw [assignedName_of_some isField, assignedName_of_none otherIsField]
    have unlike := otherApart otherIsField
    rw [isField] at unlike
    simpa using fun equal => unlike (congrArg some equal)
  · rw [assignedName_of_some isField, assignedName_of_some otherIsField]
    simp [eq_comm]

end Assignments

/-- Keys of an update that are settable, no whole column of which is the field of a selector. -/
structure Assignable (keys : List Reference) : Prop where
  distinct : keys.Nodup
  settable : ∀ column ∈ keys, Settable (assignedName column)
  apart : ∀ column ∈ keys, selectorField? column = none →
    ∀ other ∈ keys, selectorField? other ≠ some column.toList

namespace Assignable

variable {dialect : Dialect} {keys rest : List Reference} {column : Reference}

theorem sublist {part : List Reference} (assignable : Assignable keys)
    (within : part.Sublist keys) : Assignable part where
  distinct := assignable.distinct.sublist within
  settable := fun column member => assignable.settable column (within.subset member)
  apart := fun column member isPlain other otherMember =>
    assignable.apart column (within.subset member) isPlain other (within.subset otherMember)

/-- The target of an assignment comes again exactly if a later one is to a path of its field. -/
theorem target_mem_iff (assignable : Assignable (column :: rest)) :
    target dialect column ∈ rest.map (target dialect) ↔
      ∃ field, selectorField? column = some field ∧ field ∈ rest.filterMap selectorField? := by
  have pairwise : ∀ other ∈ rest, target dialect other = target dialect column ↔
      ∃ field, selectorField? column = some field ∧ selectorField? other = some field := by
    intro other member
    have inKeys : other ∈ column :: rest := List.mem_cons_of_mem _ member
    have different : column ≠ other := fun equal =>
      (List.nodup_cons.mp assignable.distinct).1 (equal ▸ member)
    rw [eq_comm, target_eq_iff (assignable.settable _ List.mem_cons_self)
      (assignable.settable _ inKeys)]
    exact assignedName_eq_iff different
      (fun isPlain => assignable.apart _ List.mem_cons_self isPlain _ inKeys)
      (fun isPlain => assignable.apart _ inKeys isPlain _ List.mem_cons_self)
  rw [List.mem_map]
  constructor
  · rintro ⟨other, member, same⟩
    obtain ⟨field, isField, otherIsField⟩ := (pairwise other member).mp same
    exact ⟨field, isField, List.mem_filterMap.mpr ⟨other, member, otherIsField⟩⟩
  · rintro ⟨field, isField, isLater⟩
    obtain ⟨other, member, otherIsField⟩ := List.mem_filterMap.mp isLater
    exact ⟨other, member, (pairwise other member).mpr ⟨field, isField, otherIsField⟩⟩

/-- The targets are different exactly if the fields of the selectors are. -/
theorem nodup_targets_iff (assignable : Assignable keys) :
    (keys.map (target dialect)).Nodup ↔ (keys.filterMap selectorField?).Nodup := by
  induction keys with
  | nil => simp
  | cons column rest inductionHypothesis =>
    have later := inductionHypothesis (assignable.sublist (List.sublist_cons_self column rest))
    rw [List.map_cons, List.nodup_cons, assignable.target_mem_iff, later]
    rcases isField : selectorField? column with _ | field
    · rw [List.filterMap_cons_none isField]
      simp
    · rw [List.filterMap_cons_some isField, List.nodup_cons]
      simp

end Assignable

/-- Whether the assignment of a key stands in front of another one to the same column. SQLite
carries out the last assignment to a column only, so this one is lost. -/
def Overwritten (keys : List Reference) (column : Reference) : Prop :=
  ∃ before after, keys = before ++ column :: after ∧
    target .sqlite column ∈ after.map (target .sqlite)

end Sql

namespace Query

open Sql

variable {query : Query} {statement : Fragment}

/-- SQLite is given the assignments of an update one after the other, and no joins. -/
theorem text_update_sqlite (isUpdate : query.kind = .update)
    (written : query.compile .sqlite = .ok statement) :
    ∃ table, query.table? = some table ∧ statement.text =
      "update ".toList ++ wrap .sqlite table.toList ++ " set ".toList ++
        List.intercalate ", ".toList (query.updates.keys.map fun column =>
          target .sqlite column ++ " = ".toList ++ source .sqlite column) ++
        (mutationTail .sqlite query).text := by
  cases compile_eq_ok_iff.mp written with
  | select isSelect => exact absurd (isSelect.symm.trans isUpdate) (by decide)
  | insert isInsert => exact absurd (isInsert.symm.trans isUpdate) (by decide)
  | delete isDelete => exact absurd (isDelete.symm.trans isUpdate) (by decide)
  | @update _ allowed table known =>
    have noJoins : query.joins = [] := by
      simpa [checkJoins, Frame.hasJoins, Dialect.joinsMutations] using allowed
    have assignments : (query.updates.keys.map (assignment .sqlite)).map Fragment.text =
        query.updates.keys.map fun column =>
          target .sqlite column ++ " = ".toList ++ source .sqlite column := by
      rw [List.map_map]
      exact List.map_congr_left fun column _ => text_assignment .sqlite column
    refine ⟨table, known, ?_⟩
    rw [update, noJoins]
    simp only [Fragment.text_append, Fragment.text_fixed, Fragment.text_separated, assignments,
      joins, List.flatMap_nil, Fragment.text_nil, List.append_nil, reference, Fragment.text_cons,
      Piece.chars]

/-- An update that SQLite is given has one assignment for each key. Each column is assigned
once if and only if its selectors have different fields, and an assignment is lost if and only
if it is to a path of a field and a later one is to another path of the same field. -/
theorem assigned_once_iff (isUpdate : query.kind = .update)
    (written : query.compile .sqlite = .ok statement)
    (settable : ∀ column ∈ query.updates.keys, Settable (assignedName column))
    (apart : ∀ column ∈ query.updates.keys, selectorField? column = none →
      ∀ other ∈ query.updates.keys, selectorField? other ≠ some column.toList) :
    let keys := query.updates.keys
    (∃ table, query.table? = some table ∧ statement.text =
      "update ".toList ++ wrap .sqlite table.toList ++ " set ".toList ++
        List.intercalate ", ".toList (keys.map fun column =>
          target .sqlite column ++ " = ".toList ++ source .sqlite column) ++
        (mutationTail .sqlite query).text) ∧
      ((keys.map (target .sqlite)).Nodup ↔ (keys.filterMap selectorField?).Nodup) ∧
      ∀ column, Overwritten keys column ↔ ∃ before after field,
        keys = before ++ column :: after ∧ selectorField? column = some field ∧
          field ∈ after.filterMap selectorField? := by
  intro keys
  have assignable : Assignable keys := ⟨query.updates.distinct, settable, apart⟩
  refine ⟨text_update_sqlite isUpdate written, assignable.nodup_targets_iff, fun column => ?_⟩
  have lost : ∀ before after, keys = before ++ column :: after →
      (target .sqlite column ∈ after.map (target .sqlite) ↔
        ∃ field, selectorField? column = some field ∧ field ∈ after.filterMap selectorField?) := by
    intro before after whole
    have within : (column :: after).Sublist keys := by
      rw [whole]
      exact List.sublist_append_right before _
    exact (assignable.sublist within).target_mem_iff
  constructor
  · rintro ⟨before, after, whole, isLost⟩
    obtain ⟨field, isField, later⟩ := (lost before after whole).mp isLost
    exact ⟨before, after, field, whole, isField, later⟩
  · rintro ⟨before, after, field, whole, isField, later⟩
    exact ⟨before, after, whole, (lost before after whole).mpr ⟨field, isField, later⟩⟩

/-- Two paths of one field with a column between them that is written without quotes. -/
theorem assigned_once_iff_meta :
    let query := (Call.runAll [.set "meta->a" (.int64 1), .set "is_nullable" (.int64 2),
      .set "o.p->c" (.int64 3), .set "meta->>b->d" (.int64 4)] (Builder.table .sqlite "t")).query
    let keys := query.updates.keys
    let statement := Sql.update .sqlite "t" query
    query.kind = .update ∧ query.compile .sqlite = .ok statement ∧
      (∀ column ∈ keys, Settable (assignedName column)) ∧
      (∀ column ∈ keys, selectorField? column = none →
        ∀ other ∈ keys, selectorField? other ≠ some column.toList) ∧
      ((keys.map (target .sqlite)).Nodup ↔ (keys.filterMap selectorField?).Nodup) ∧
      Overwritten keys "meta->a" := by
  intro query keys statement
  have isUpdate : query.kind = .update := rfl
  have written : query.compile .sqlite = .ok statement := rfl
  have settable : ∀ column ∈ keys, Settable (assignedName column) := by decide +kernel
  have apart : ∀ column ∈ keys, selectorField? column = none →
      ∀ other ∈ keys, selectorField? other ≠ some column.toList := by decide +kernel
  obtain ⟨-, once, lost⟩ := assigned_once_iff isUpdate written settable apart
  exact ⟨isUpdate, written, settable, apart, once, (lost "meta->a").mpr
    ⟨[], ["is_nullable", "o.p->c", "meta->>b->d"], "meta".toList, rfl, rfl, by decide +kernel⟩⟩

/-- Two paths of one field are set, and SQLite is given two assignments to it. -/
theorem assigned_twice_meta :
    let query := (Call.runAll [.set "meta->a" (.int64 1), .set "meta->b" (.int64 2)]
      (Builder.table .sqlite "t")).query
    (query.sql .sqlite).toOption = some ("update `t` set " ++
        "`meta` = json_set(`meta`, '$.\"a\"', ?), `meta` = json_set(`meta`, '$.\"b\"', ?)") ∧
      query.updates.keys.map (target .sqlite) = ["`meta`".toList, "`meta`".toList] ∧
      Overwritten query.updates.keys "meta->a" := by
  intro query
  refine ⟨by decide +kernel, by decide +kernel, [], ["meta->b"], rfl, by decide +kernel⟩

end Query

end FluentSql
