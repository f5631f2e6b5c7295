import FluentSql.Proofs.Accounting
import Mathlib.Data.List.Nodup

/-!
# Where inserted values land

The header of an insert lists the columns of the first row, and each row is one group of
placeholders. Every row brings its values in its own order. So rows with the same columns land
under them if they were filled in the order of the first row, and values of a row that was
filled in another order stand under columns that they do not belong to.
`Builder.inserted_aligned_iff` says exactly when an insert is aligned.
-/

namespace FluentSql

open Sql Fragment

namespace Dictionary

variable {α : Type} {dictionary : Dictionary α} {header : List String}

/-- The values of some keys in the order of these keys. -/
def valuesAt (header : List String) (dictionary : Dictionary α) : List α :=
  header.filterMap fun key => dictionary.get? key

theorem get?_eq_some_iff {key : String} {value : α} :
    dictionary.get? key = some value ↔ (key, value) ∈ dictionary.entries := by
  rw [get?, Option.map_eq_some_iff]
  constructor
  · rintro ⟨entry, found, rfl⟩
    have isKey : entry.1 = key := by simpa using List.find?_some found
    rw [← isKey]
    exact List.mem_of_find?_eq_some found
  · intro member
    have isSome : (dictionary.entries.find? fun entry => entry.1 = key).isSome :=
      List.find?_isSome.mpr ⟨(key, value), member, by simp⟩
    obtain ⟨entry, found⟩ := Option.isSome_iff_exists.mp isSome
    have isKey : entry.1 = key := by simpa using List.find?_some found
    have same : entry = (key, value) :=
      List.inj_on_of_nodup_map dictionary.distinct (List.mem_of_find?_eq_some found) member isKey
    exact ⟨entry, found, congrArg Prod.snd same⟩

theorem exists_get? {key : String} (isKey : key ∈ dictionary.keys) :
    ∃ value, dictionary.get? key = some value := by
  obtain ⟨entry, member, rfl⟩ := List.mem_map.mp isKey
  exact ⟨entry.2, get?_eq_some_iff.mpr member⟩

/-- The values at the keys of a dictionary are its values. -/
theorem valuesAt_keys (dictionary : Dictionary α) :
    dictionary.valuesAt dictionary.keys = dictionary.values := by
  rw [valuesAt, keys, values, List.filterMap_map, ← List.filterMap_eq_map]
  exact List.filterMap_congr fun entry member => get?_eq_some_iff.mpr member

/-- There is a value for each key, if they are keys of the dictionary. -/
theorem map_some_valuesAt (known : ∀ key ∈ header, key ∈ dictionary.keys) :
    (dictionary.valuesAt header).map some = header.map fun key => dictionary.get? key := by
  induction header with
  | nil => rfl
  | cons key rest inductionHypothesis =>
    obtain ⟨isKey, restKnown⟩ := List.forall_mem_cons.mp known
    obtain ⟨value, found⟩ := exists_get? isKey
    have first : dictionary.valuesAt (key :: rest) = value :: dictionary.valuesAt rest :=
      List.filterMap_cons_some found
    rw [first, List.map_cons, List.map_cons, inductionHypothesis restKnown, found]

theorem length_valuesAt (known : ∀ key ∈ header, key ∈ dictionary.keys) :
    (dictionary.valuesAt header).length = header.length := by
  simpa using congrArg List.length (map_some_valuesAt known)

/-- A value is that of one key only, if no value comes twice. -/
theorem key_unique (different : dictionary.values.Nodup) {key other : String} {value : α}
    (found : dictionary.get? key = some value) (otherFound : dictionary.get? other = some value) :
    key = other :=
  congrArg Prod.fst (List.inj_on_of_nodup_map different (get?_eq_some_iff.mp found)
    (get?_eq_some_iff.mp otherFound) rfl)

/-- The values stand in the order of some keys if these are the keys of the dictionary in its
own order, and only then if no value comes twice. -/
theorem values_eq_valuesAt_iff (known : ∀ key ∈ header, key ∈ dictionary.keys)
    (different : dictionary.values.Nodup) :
    dictionary.values = dictionary.valuesAt header ↔ dictionary.keys = header := by
  constructor
  · intro same
    have looked : (dictionary.keys.map fun key => dictionary.get? key) =
        header.map fun key => dictionary.get? key := by
      rw [← map_some_valuesAt known, ← same, ← valuesAt_keys,
        map_some_valuesAt fun _ isKey => isKey]
    have lengths : dictionary.keys.length = header.length := by
      simpa using congrArg List.length looked
    refine List.ext_getElem lengths fun index bound otherBound => ?_
    obtain ⟨value, found⟩ := exists_get? (List.getElem_mem bound)
    have otherFound : dictionary.get? header[index] = some value := by
      have entries := congrArg (fun list => list[index]?) looked
      simpa [List.getElem?_eq_getElem, bound, otherBound, found] using entries.symm
    exact key_unique different found otherFound
  · rintro rfl
    exact (valuesAt_keys dictionary).symm

end Dictionary

/-- Parts of the same lengths are the same together exactly if they are the same one by one. -/
theorem flatMap_eq_flatMap_iff {α β : Type} {first second : α → List β} {items : List α}
    (lengths : ∀ item ∈ items, (first item).length = (second item).length) :
    items.flatMap first = items.flatMap second ↔ ∀ item ∈ items, first item = second item := by
  induction items with
  | nil => simp
  | cons item rest inductionHypothesis =>
    obtain ⟨length, restLengths⟩ := List.forall_mem_cons.mp lengths
    rw [List.flatMap_cons, List.flatMap_cons, List.forall_mem_cons,
      ← inductionHypothesis restLengths]
    constructor
    · intro same
      exact List.append_inj same length
    · rintro ⟨same, restSame⟩
      rw [same, restSame]

/-! ## The rows of a run -/

theorem Builder.rows_insert (builder : Builder) (added : List Row) :
    (builder.insert added).query.rows = builder.query.rows ++ added := by
  have later : ∀ initiated : Builder,
      (added.foldl (fun builder row => builder.addRow row) initiated).query.rows =
        initiated.query.rows ++ added := by
    induction added with
    | nil => exact fun initiated => (List.append_nil _).symm
    | cons row rest inductionHypothesis =>
      intro initiated
      rw [List.foldl_cons, inductionHypothesis]
      exact List.append_assoc _ [row] rest
  exact later (builder.initiate .insert)

namespace Call

/-- A call adds its rows behind those that are there. Rows of a group stay in the group. -/
theorem rows_run (call : Call) (builder : Builder) :
    (call.run builder).query.rows = builder.query.rows ++ call.addedRows := by
  let rows (builder : Builder) := builder.query.rows
  have condition : ∀ connector condition values (builder : Builder),
      rows (builder.addCondition connector condition values) = rows builder :=
    fun _ _ _ _ => rfl
  cases call with
  | insert added => exact builder.rows_insert added
  | deleteId id =>
    exact (Builder.keeps_compare rows condition _ _ _ _ _).trans (List.append_nil _).symm
  | compare =>
    exact (Builder.keeps_compare rows condition _ _ _ _ builder).trans (List.append_nil _).symm
  | compareAll =>
    exact (Builder.keeps_compareAll rows condition _ _ builder).trans (List.append_nil _).symm
  | group =>
    exact (Builder.keeps_group rows condition _ _ builder).trans (List.append_nil _).symm
  | addBindings values name | setBindings values name =>
    refine Eq.trans ?_ (List.append_nil _).symm
    simp only [run]
    split <;> rfl
  | _ => exact (List.append_nil _).symm

theorem rows_runAll (calls : List Call) (builder : Builder) :
    (runAll calls builder).query.rows = builder.query.rows ++ calls.flatMap addedRows := by
  induction calls generalizing builder with
  | nil => simp
  | cons call rest inductionHypothesis =>
    rw [runAll_cons, inductionHypothesis, rows_run, List.flatMap_cons, List.append_assoc]

end Call

namespace Builder.Fresh

variable {start : Builder}

theorem accounted (fresh : start.Fresh) : start.query.Accounted := by
  cases fresh <;> exact ⟨rfl, rfl, rfl, rfl, rfl, rfl⟩

theorem rows (fresh : start.Fresh) : start.query.rows = [] := by
  cases fresh <;> rfl

end Builder.Fresh

/-! ## Alignment -/

/-- An insert of rows under a header with its values in place: each row is a group, and has its
own value for each column of the header. -/
def inlineInsert (dialect : Dialect) (table : Reference) (header : List Reference)
    (rows : List Row) : List Symbol :=
  plain (fixed "insert into " ++ reference dialect table ++ fixed " (" ++
    columnList dialect header ++ fixed ") values ") ++
    List.intercalate (plain (fixed ", "))
      (rows.map fun row => inlineParenthesized (inlineList (row.valuesAt header)))

/-- A query is written as an insert of rows under a header: a list of different columns, and for
each row a group with as many placeholders. It sends the values of its joins and conditions,
and then those of each row in the row's own order. -/
structure Query.Inserts (query : Query) (dialect : Dialect) (table : Reference)
    (header : List Reference) (rows : List Row) (statement : Fragment) : Prop where
  compiled : query.compile dialect = .ok statement
  written : statement = fixed "insert into " ++ reference dialect table ++ fixed " (" ++
    separated ", " (header.map (reference dialect)) ++ fixed ") values " ++
    separated ", " (rows.map fun _ => parenthesized (placeholderList header.length))
  distinct : header.Nodup
  columns : ∀ row ∈ rows, ∀ column, column ∈ header ↔ column ∈ row.keys
  sent : query.executionBindings = query.buckets.join.toList ++ query.buckets.filter.toList ++
    rows.flatMap Dictionary.values

namespace Query

variable {query : Query} {dialect : Dialect} {table : Reference} {first : Row} {rest : List Row}

/-- An insert sends the values of joins, conditions and rows. -/
theorem Accounted.executionBindings_of_insert (accounted : query.Accounted)
    (isInsert : query.kind = .insert) :
    query.executionBindings = query.buckets.join.toList ++ query.buckets.filter.toList ++
      query.rows.flatMap Dictionary.values := by
  rw [executionBindings_eq_bindings (by simp [isInsert]), ← accounted.inserts]
  simp [bindings, Buckets.flatten, Bucket.all, Buckets.get, accounted.select, accounted.having,
    accounted.order]

theorem Accounted.inserts_rows (accounted : query.Accounted) (isInsert : query.kind = .insert)
    (known : query.table? = some table) (rows : query.rows = first :: rest)
    (nonempty : first.keys ≠ []) (same : ∀ row ∈ query.rows, row.keys.Perm first.keys)
    (dialect : Dialect) :
    query.Inserts dialect table first.keys query.rows
      (Sql.insert dialect table first query.rows) where
  compiled := by
    rw [rows]
    exact compile_eq_ok_iff.mpr (.insert isInsert known rows)
  written := by
    have header : columnList dialect first.keys =
        separated ", " (first.keys.map (reference dialect)) := by
      unfold columnList
      split
      · rename_i none
        exact absurd none nonempty
      · rfl
    rw [Sql.insert, header, first.length_keys]
  distinct := first.distinct
  columns := fun row member _ => (same row member).symm.mem_iff
  sent := accounted.executionBindings_of_insert isInsert

/-- The places of an insert are those of the values that belong there. -/
theorem renders_inlineInsert {rows : List Row}
    (same : ∀ row ∈ rows, row.keys.Perm first.keys) :
    Renders (Sql.insert dialect table first rows)
      (rows.flatMap (Dictionary.valuesAt first.keys))
      (inlineInsert dialect table first.keys rows) := by
  apply renders_rows
  intro row member
  have known : ∀ column ∈ first.keys, column ∈ row.keys :=
    fun _ => (same row member).mem_iff.mpr
  rw [Dictionary.length_valuesAt known, first.length_keys]

/-- Values land where they belong exactly if nothing is sent before them, and each row has its
values in the order of the header. -/
theorem renders_inlineInsert_iff {rows : List Row} {others : List Bind}
    (same : ∀ row ∈ rows, row.keys.Perm first.keys) :
    Renders (Sql.insert dialect table first rows) (others ++ rows.flatMap Dictionary.values)
        (inlineInsert dialect table first.keys rows) ↔
      others = [] ∧ ∀ row ∈ rows, row.values = row.valuesAt first.keys := by
  have aligned : Renders (Sql.insert dialect table first rows)
      (rows.flatMap (Dictionary.valuesAt first.keys))
      (inlineInsert dialect table first.keys rows) := renders_inlineInsert same
  have lengths : ∀ row ∈ rows, row.values.length = (row.valuesAt first.keys).length := by
    intro row member
    rw [Dictionary.length_valuesAt fun _ => (same row member).mem_iff.mpr,
      ← (same row member).length_eq, row.length_values, row.length_keys]
  rw [← flatMap_eq_flatMap_iff lengths]
  constructor
  · intro renders
    have values := renders.values_eq.trans aligned.values_eq.symm
    have counted : others.length = 0 := by
      have total := congrArg List.length values
      have parts : (rows.flatMap Dictionary.values).length =
          (rows.flatMap (Dictionary.valuesAt first.keys)).length := by
        rw [List.length_flatMap, List.length_flatMap, List.map_congr_left lengths]
      rw [List.length_append] at total
      omega
    have none : others = [] := List.length_eq_zero_iff.mp counted
    rw [none, List.nil_append] at values
    exact ⟨none, values⟩
  · rintro ⟨rfl, values⟩
    rw [List.nil_append, values]
    exact aligned

end Query

namespace Builder

variable {start : Builder} {calls : List Call} {table : Reference} {first : Row} {rest : List Row}

/-- Calls that name no bucket insert rows with the same columns, each filled in any order. The
header has these columns, and each row is one group. Every value lands under its column if and
only if no join or condition has values, and each row has its values in the order of the header.
A row that was filled in the order of the first one has; another one has not, unless a value
comes twice in it. -/
theorem inserted_aligned_iff (fresh : start.Fresh) (leave : Call.allLeaveBuckets calls)
    (isInsert : (Call.runAll calls start).query.kind = .insert)
    (known : (Call.runAll calls start).query.table? = some table)
    (added : calls.flatMap Call.addedRows = first :: rest) (nonempty : first.keys ≠ [])
    (same : ∀ row ∈ first :: rest, row.keys.Perm first.keys) (dialect : Dialect) :
    let query := (Call.runAll calls start).query
    let header := first.keys
    let rows := first :: rest
    (∃ statement, query.Inserts dialect table header rows statement ∧
        (Renders statement query.executionBindings (inlineInsert dialect table header rows) ↔
          query.buckets.join.toList ++ query.buckets.filter.toList = [] ∧
            ∀ row ∈ rows, row.values = row.valuesAt header)) ∧
      ∀ row ∈ rows, (row.valuesAt header).map some = header.map (fun column => row.get? column) ∧
        (row.keys = header → row.values = row.valuesAt header) ∧
        (row.values.Nodup → row.values = row.valuesAt header → row.keys = header) := by
  intro query header rows
  have accounted : query.Accounted := Call.accounted_runAll calls leave fresh.accounted
  have queryRows : query.rows = rows := by
    rw [Call.rows_runAll, fresh.rows, List.nil_append, added]
  have sameRows : ∀ row ∈ query.rows, row.keys.Perm first.keys := queryRows.symm ▸ same
  have inserts := accounted.inserts_rows isInsert known queryRows nonempty sameRows dialect
  rw [queryRows] at inserts
  refine ⟨⟨_, inserts, ?_⟩, fun row member => ?_⟩
  · rw [inserts.sent]
    exact Query.renders_inlineInsert_iff same
  · have found : ∀ column ∈ header, column ∈ row.keys := fun _ => (same row member).mem_iff.mpr
    refine ⟨Dictionary.map_some_valuesAt found, fun order => ?_, fun different =>
      (Dictionary.values_eq_valuesAt_iff found different).mp⟩
    rw [← order, Dictionary.valuesAt_keys]

/-- Two inserts with a field that is written again, and a row in another order whose values are
the same. -/
theorem inserted_aligned_iff_again :
    let calls := [Call.insert [.ofList [("a", .int64 1), ("b", .int64 2)]], .limit 3,
      .insert [.ofList [("a", .int64 0), ("b", .int64 4), ("a", .int64 3)],
        .ofList [("b", .int64 5), ("a", .int64 5)]]]
    let query := (Call.runAll calls (Builder.table .sqlite "t")).query
    let rows := calls.flatMap Call.addedRows
    query.kind = .insert ∧ query.table? = some "t" ∧
      ∀ dialect, ∃ statement, query.Inserts dialect "t" ["a", "b"] rows statement ∧
        Renders statement query.executionBindings (inlineInsert dialect "t" ["a", "b"] rows) := by
  intro calls query rows
  have leave : Call.allLeaveBuckets calls := by decide +kernel
  have isInsert : query.kind = .insert := by decide +kernel
  have known : query.table? = some "t" := by decide +kernel
  refine ⟨isInsert, known, fun dialect => ?_⟩
  obtain ⟨⟨statement, inserts, aligned⟩, -⟩ := inserted_aligned_iff (.table .sqlite "t") leave
    isInsert known rfl (by decide +kernel) (by decide +kernel) dialect
  exact ⟨statement, inserts, aligned.mpr (by decide +kernel)⟩

/-- The values of a row that was filled in another order stand under each other's columns. -/
theorem inserted_misaligned_swapped :
    let one : Bind := .integer (.int32 1)
    let two : Bind := .integer (.int32 2)
    let three : Bind := .integer (.int32 3)
    let four : Bind := .integer (.int32 4)
    let rows : List Row := [.ofList [("a", one), ("b", two)], .ofList [("b", three), ("a", four)]]
    let query := (Call.runAll [.insert rows] (Builder.table .sqlite "t")).query
    (∀ row ∈ rows, row.keys.Perm ["a", "b"]) ∧
      (∀ dialect, (query.sql dialect).toOption =
        some "insert into `t` (`a`, `b`) values (?, ?), (?, ?)") ∧
      query.executionBindings = [one, two, three, four] ∧
      rows.flatMap (Dictionary.valuesAt ["a", "b"]) = [one, two, four, three] ∧
      ∀ dialect statement, query.compile dialect = .ok statement →
        ¬ Renders statement query.executionBindings
          (inlineInsert dialect "t" ["a", "b"] rows) := by
  intro one two three four rows query
  refine ⟨by decide +kernel, fun dialect => ?_, by decide +kernel, by decide +kernel,
    fun dialect statement _ renders => ?_⟩
  · cases dialect <;> decide +kernel
  · have values := renders.values_eq
    cases dialect <;> revert values <;> decide +kernel

end Builder

end FluentSql
