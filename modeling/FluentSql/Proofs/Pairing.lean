import FluentSql.Session.Script
import FluentSql.Session.Terminal
import FluentSql.Session.Transcript

/-!
# Pairs of two columns

A fetch of pairs selects a key and a value, and reads each row by position: what comes first in
its record and what comes second. A record has each label once. So if both columns have one
label, the record of a row has one column only, and every row is left out without a fault
(`Builder.fetchPairs_keeps_rows_iff`).
-/

namespace FluentSql

namespace Record

/-- The record of a row: its values in the order of the selected columns, each under the label of
its column. -/
def ofRow (columns : List Reference) (values : List Bind) : Record :=
  Dictionary.ofList ((columns.map Reference.label).zip values)

variable {key value : Reference}

theorem entries_ofRow (first second : Bind) :
    (ofRow [key, value] [first, second]).entries =
      Dictionary.upsert (Reference.label value) second [(Reference.label key, first)] := by
  simp only [ofRow, Dictionary.ofList, Dictionary.insert, Dictionary.empty, Dictionary.upsert,
    List.map_cons, List.map_nil, List.zip_cons_cons, List.zip_nil_left, List.foldl_cons,
    List.foldl_nil]

theorem entries_ofRow_of_ne (different : Reference.label key ≠ Reference.label value)
    (first second : Bind) : (ofRow [key, value] [first, second]).entries =
      [(Reference.label key, first), (Reference.label value, second)] := by
  rw [entries_ofRow, Dictionary.upsert, if_neg different, Dictionary.upsert]

/-- The later value replaces the earlier one of the same label. -/
theorem entries_ofRow_of_eq (same : Reference.label key = Reference.label value)
    (first second : Bind) :
    (ofRow [key, value] [first, second]).entries = [(Reference.label value, second)] := by
  rw [entries_ofRow, Dictionary.upsert, if_pos same]

end Record

namespace Builder

variable {key value : Reference} (rows : List (Bind × Bind))

theorem pairRows_of_ne (different : Reference.label key ≠ Reference.label value) :
    pairRows (rows.map fun row => Record.ofRow [key, value] [row.1, row.2]) =
      Dictionary.ofList (rows.map fun row => (row.1.display, row.2)) := by
  rw [pairRows, List.filterMap_map, ← List.filterMap_eq_map]
  congr 2
  funext row
  simp only [Function.comp_apply, Record.entries_ofRow_of_ne different]

theorem pairRows_of_eq (same : Reference.label key = Reference.label value) :
    pairRows (rows.map fun row => Record.ofRow [key, value] [row.1, row.2]) = .empty := by
  rw [pairRows, List.filterMap_map, List.filterMap_eq_nil_iff.mpr]
  · rfl
  · intro row _
    simp only [Function.comp_apply, Record.entries_ofRow_of_eq same]

variable {σ : Type}

theorem fst_fetchPairs (connection : Connection σ) (key value : Reference) (builder : Builder)
    (state : σ) : (builder.fetchPairs connection key value state).1 =
      ((builder.withColumns (.many [key, value])).fetchRows connection state).1.map pairRows := by
  rw [← Exchange.fst_map]
  rfl

/-- If a connection answers a fetch of pairs with the records of some rows, the pairs of all rows
come out, each key with its last value, exactly if the two columns have different labels or there
is no row. With one label for both nothing comes out, and no fault tells so. -/
theorem fetchPairs_keeps_rows_iff (connection : Connection σ) (builder : Builder) (state : σ)
    {rows : List (Bind × Bind)}
    (answered : ((builder.withColumns (.many [key, value])).fetchRows connection state).1 =
      .ok (rows.map fun row => Record.ofRow [key, value] [row.1, row.2])) :
    ∃ pairs, (builder.fetchPairs connection key value state).1 = .ok pairs ∧
      (pairs.KeepsLast (rows.map fun row => (row.1.display, row.2)) ↔
        Reference.label key ≠ Reference.label value ∨ rows = []) ∧
      (Reference.label key = Reference.label value → pairs = .empty) := by
  refine ⟨pairRows (rows.map fun row => Record.ofRow [key, value] [row.1, row.2]), ?_, ?_, ?_⟩
  · rw [fst_fetchPairs, answered, Except.map]
  · by_cases same : Reference.label key = Reference.label value
    · rw [pairRows_of_eq rows same]
      constructor
      · intro keeps
        cases rows with
        | nil => exact .inr rfl
        | cons row rest =>
          have keys := keeps.keys
          rw [List.map_cons, List.map_cons, List.eraseDups_cons] at keys
          cases keys
      · rintro (different | rfl)
        · exact absurd same different
        · exact Dictionary.keepsLast_empty
    · rw [pairRows_of_ne rows same]
      exact ⟨fun _ => .inl same, fun _ => Dictionary.keepsLast_ofList _⟩
  · intro same
    exact pairRows_of_eq rows same

/-- Three rows of which two have the same text for their key. -/
theorem fetchPairs_keeps_rows_iff_repeated :
    let rows : List (Bind × Bind) := [(.integer (.int32 1), .text "ann"),
      (.null, .bool true), (.text "1", .text "eve")]
    let builder := (Builder.table .mysql "users").distinct
    let script := Script.start
      [.ok (rows.map fun row => Record.ofRow ["users.id", "name as n"] [row.1, row.2])] [] []
    let connection := Script.connection .mysql
    ((builder.withColumns (.many ["users.id", "name as n"])).fetchRows connection script).1 =
        .ok (rows.map fun row => Record.ofRow ["users.id", "name as n"] [row.1, row.2]) ∧
      ∃ pairs, (builder.fetchPairs connection "users.id" "name as n" script).1 = .ok pairs ∧
        (pairs.KeepsLast (rows.map fun row => (row.1.display, row.2)) ↔
          Reference.label "users.id" ≠ Reference.label "name as n" ∨ rows = []) ∧
        (Reference.label "users.id" = Reference.label "name as n" → pairs = .empty) := by
  intro rows builder script connection
  have answered : ((builder.withColumns (.many ["users.id", "name as n"])).fetchRows connection
      script).1 =
      .ok (rows.map fun row => Record.ofRow ["users.id", "name as n"] [row.1, row.2]) := rfl
  exact ⟨answered, fetchPairs_keeps_rows_iff connection builder script answered⟩

/-- The ids of two tables have one label. The row of a user and a post is left out. -/
theorem fetchPairs_leaves_out :
    let rows : List (Bind × Bind) := [(.integer (.int32 1), .integer (.int32 2))]
    let builder := Builder.table .sqlite "users"
    let script := Script.start
      [.ok (rows.map fun row => Record.ofRow ["users.id", "posts.id"] [row.1, row.2])] [] []
    let connection := Script.connection .sqlite
    ((builder.withColumns (.many ["users.id", "posts.id"])).fetchRows connection script).1 =
        .ok (rows.map fun row => Record.ofRow ["users.id", "posts.id"] [row.1, row.2]) ∧
      ∃ pairs, (builder.fetchPairs connection "users.id" "posts.id" script).1 = .ok pairs ∧
        pairs.keys = [] ∧ ¬ pairs.KeepsLast (rows.map fun row => (row.1.display, row.2)) := by
  intro rows builder script connection
  have same : Reference.label "users.id" = Reference.label "posts.id" := rfl
  have answered : ((builder.withColumns (.many ["users.id", "posts.id"])).fetchRows connection
      script).1 =
      .ok (rows.map fun row => Record.ofRow ["users.id", "posts.id"] [row.1, row.2]) := rfl
  refine ⟨answered, _, by rw [fst_fetchPairs, answered, Except.map], ?_⟩
  rw [pairRows_of_eq rows same]
  refine ⟨rfl, fun keeps => ?_⟩
  have keys := keeps.keys
  rw [List.map_cons, List.map_cons, List.eraseDups_cons] at keys
  cases keys

end Builder

end FluentSql
