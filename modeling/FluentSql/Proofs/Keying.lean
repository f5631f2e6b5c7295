import FluentSql.Proofs.Heading

/-!
# Rows by a key column

A fetch by a key column sends the plain statement of its builder with another select list: the
key is put in front of it, unless the list shows the key already. The rows that come back are
written to a dictionary one after the other, each at the text of its key, so a text has the place
of its first row and the last of its rows. A row without the key ends the fetch
(`Builder.fetchKeyed_keeps_last`).
-/

namespace FluentSql

open Sql Fragment

/-! ## The rows -/

namespace Record

/-- A record at the text of a column, if it has that column. -/
def at? (label : String) (record : Record) : Option (String × Record) :=
  (record.get? label).map fun value => (value.display, record)

end Record

namespace Builder

variable {label : String} {records : List Record}

/-- Records that all have the column are written one after the other. -/
theorem keyRows_of_complete (complete : ∀ record ∈ records, record.get? label ≠ none) :
    keyRows label records = .ok (Dictionary.ofList (records.filterMap (Record.at? label))) := by
  unfold keyRows Dictionary.ofList
  generalize (Dictionary.empty : Dictionary Record) = keyed
  induction records generalizing keyed with
  | nil => rfl
  | cons record rest inductionHypothesis =>
    obtain ⟨has, restHave⟩ := List.forall_mem_cons.mp complete
    obtain ⟨value, found⟩ := Option.ne_none_iff_exists'.mp has
    have written : record.at? label = some (value.display, record) := by
      rw [Record.at?, found]
      rfl
    rw [List.filterMap_cons_some written, List.foldl_cons,
      ← inductionHypothesis restHave (keyed.insert value.display record), List.foldlM_cons, found]
    rfl

/-- The first record without the column ends the writing, whatever was written before it. -/
theorem keyRows_of_incomplete (incomplete : ∃ record ∈ records, record.get? label = none) :
    keyRows label records = .error (.missingColumn label) := by
  unfold keyRows
  generalize (Dictionary.empty : Dictionary Record) = keyed
  induction records generalizing keyed with
  | nil => simp at incomplete
  | cons record rest inductionHypothesis =>
    rw [List.foldlM_cons]
    cases found : record.get? label with
    | none => rfl
    | some value =>
      refine inductionHypothesis ?_ (keyed.insert value.display record)
      obtain ⟨other, member, lacks⟩ := incomplete
      rcases List.mem_cons.mp member with rfl | later
      · simp [found] at lacks
      · exact ⟨other, later, lacks⟩

end Builder

/-! ## The statement -/

namespace Columns

/-- A select list shows the column of a key: it is empty, `*` comes first in it, or one of its
columns has the label of the key. -/
def Show (columns : List Reference) (key : Reference) : Prop :=
  columns = [] ∨ columns.head? = some "*" ∨
    ∃ column ∈ columns, Reference.label column = Reference.label key

instance (columns : List Reference) (key : Reference) : Decidable (Show columns key) :=
  inferInstanceAs (Decidable (_ ∨ _ ∨ _))

/-- A select list with the column of a key, which is put in front unless it is shown. -/
def keyed (columns : List Reference) (key : Reference) : List Reference :=
  if Show columns key then columns else key :: columns

end Columns

namespace Builder

variable {builder : Builder} {key : Reference}

theorem shows_iff {columns : Columns} (held : columns ≠ .many []) :
    shows columns key = true ↔ Columns.Show columns.toList key := by
  have listed : (columns.toList.any fun column => Reference.label column = Reference.label key) =
      true ↔ ∃ column ∈ columns.toList, Reference.label column = Reference.label key := by
    simp
  have wildcard : columns.isWildcard = true ↔
      columns.toList = [] ∨ columns.toList.head? = some "*" := by
    by_cases empty : columns.toList = []
    · cases columns with
      | none => simp [Columns.isWildcard]
      | one column => cases empty
      | many columns => exact absurd (congrArg Items.many empty) held
    · rw [Columns.isWildcard_eq empty]
      cases first : columns.toList.head? with
      | none => simp [List.head?_eq_none_iff.mp first] at empty
      | some column => simp [empty, Reference.isWildcard]
  rw [shows, Bool.or_eq_true, wildcard, listed, Columns.Show, or_assoc]

/-- The builder that is sent has the columns of its own, with the key among them. -/
theorem exists_askingKeyed (held : builder.query.columns ≠ .many []) (key : Reference) :
    ∃ columns : Columns, columns.toList = Columns.keyed builder.query.columns.toList key ∧
      builder.askingKeyed key = builder.withColumns columns := by
  unfold askingKeyed Columns.keyed
  by_cases shown : shows builder.query.columns key = true
  · rw [if_pos shown, if_pos ((shows_iff held).mp shown)]
    exact ⟨builder.query.columns, rfl, rfl⟩
  · rw [if_neg shown, if_neg fun listed => shown ((shows_iff held).mpr listed)]
    exact ⟨.one key ++ builder.query.columns, Items.toList_append _ _, rfl⟩

variable {σ : Type}

theorem fetchKeyed_eq (connection : Connection σ) (key : Reference) (builder : Builder)
    (state : σ) : builder.fetchKeyed connection key state =
      let fetched := (((builder.askingKeyed key).fetchRows connection).andThen
        (keyRows (Reference.label key))) state
      (fetched.1, builder, fetched.2) := by
  refine Prod.ext rfl (Prod.ext (builder.builder_fetchKeyed connection key state) rfl)

/-- A statement differs from the plain statement of a builder in nothing but its select list. -/
structure Relists (builder : Builder) (columns : List Reference) (plain text : String) :
    Prop where
  plain : plain.toList =
    (plainHead builder.dialect builder.query.distinct builder.query.columns.toList).text ++
      (selectTail builder.dialect builder.query).text
  asked : text.toList =
    (plainHead builder.dialect builder.query.distinct columns).text ++
      (selectTail builder.dialect builder.query).text

/-- How a fetch by a key column ends after its statement has been sent. However it ends, the
builder is given back. -/
structure EndsKeyed (connection : Connection σ) (key : Reference) (builder : Builder) (state : σ)
    (text : String) : Prop where
  /-- A failure is passed on. -/
  failed {fault : Fault} {after : σ}
    (answer : connection.fetchRows text builder.bindings state = (.error fault, after)) :
    builder.fetchKeyed connection key state = (.error fault, builder, after)
  /-- If all rows have the key, the last row of each text is kept at the place of its first. -/
  complete {records : List Record} {after : σ}
    (answer : connection.fetchRows text builder.bindings state = (.ok records, after))
    (complete : ∀ record ∈ records, record.get? (Reference.label key) ≠ none) :
    ∃ keyed, builder.fetchKeyed connection key state = (.ok keyed, builder, after) ∧
      keyed.KeepsLast (records.filterMap (Record.at? (Reference.label key)))
  /-- If a row lacks the key, nothing is kept. -/
  incomplete {records : List Record} {after : σ}
    (answer : connection.fetchRows text builder.bindings state = (.ok records, after))
    (incomplete : ∃ record ∈ records, record.get? (Reference.label key) = none) :
    ∃ fault, builder.fetchKeyed connection key state = (.error fault, builder, after) ∧
      fault = .missingColumn (Reference.label key) ∧ fault.kind = .invalidArgument

theorem endsKeyed (connection : Connection σ) (key : Reference) (builder : Builder) (state : σ)
    {text : String} (written : (builder.askingKeyed key).sql = .ok text)
    (bound : (builder.askingKeyed key).bindings = builder.bindings) :
    EndsKeyed connection key builder state text where
  failed answer := by
    rw [fetchKeyed_eq, fetchRows, send_of_sql_eq_ok _ written, bound, Exchange.andThen, answer]
  complete answer complete := by
    refine ⟨_, ?_, Dictionary.keepsLast_ofList _⟩
    rw [fetchKeyed_eq, fetchRows, send_of_sql_eq_ok _ written, bound, Exchange.andThen, answer,
      ← keyRows_of_complete complete]
  incomplete answer incomplete := by
    refine ⟨_, ?_, rfl, rfl⟩
    rw [fetchKeyed_eq, fetchRows, send_of_sql_eq_ok _ written, bound, Exchange.andThen, answer,
      ← keyRows_of_incomplete incomplete]

/-- What a fetch by a key column sends and how it ends. -/
structure FetchesKeyed (connection : Connection σ) (key : Reference) (builder : Builder)
    (state : σ) : Prop where
  /-- What cannot be written is not sent. -/
  refused {fault : Fault} (refused : builder.sql = .error fault) :
    builder.fetchKeyed connection key state = (.error fault, builder, state) ∧
      ∀ {α : Type},
        (.fetchKeyed key : Terminal α).transcript connection builder state = []
  /-- Else one statement is sent, the plain one with the key in its select list. -/
  written {plain : String} (written : builder.sql = .ok plain) : ∃ text,
    builder.Relists (Columns.keyed builder.query.columns.toList key) plain text ∧
      (∀ {α : Type},
        ((.fetchKeyed key : Terminal α).transcript connection builder state).map Turn.message =
          [.fetchRows text builder.bindings]) ∧
      EndsKeyed connection key builder state text

/-- A fetch by a key column on a select asks for the key in its select list, and keeps the last
row of every text that stands in the key column. Columns that are held as `many` without being
any are left out. -/
theorem fetchKeyed_keeps_last (reached : builder.Reachable)
    (isSelect : builder.query.kind = .select) (held : builder.query.columns ≠ .many [])
    (key : Reference) (connection : Connection σ) (state : σ) :
    FetchesKeyed connection key builder state := by
  obtain ⟨columns, listed, asked⟩ := exists_askingKeyed held key
  constructor
  · intro fault refused
    have isSelectToo : (builder.askingKeyed key).query.kind = .select := by
      rw [asked]
      exact isSelect
    have refusedToo : (builder.askingKeyed key).sql = .error fault := by
      refine (Query.sql_eq_error_iff_of_select isSelectToo).mpr ?_
      rw [asked]
      exact (Query.sql_eq_error_iff_of_select isSelect).mp refused
    constructor
    · rw [fetchKeyed_eq, fetchRows, send_of_sql_eq_error _ refusedToo]
      rfl
    · intro α
      rw [Terminal.transcript_eq, Terminal.message?, Terminal.asked, fetched?, refusedToo]
      rfl
  · intro plain written
    obtain ⟨text, writtenToo, sameText⟩ :=
      sql_withColumns isSelect written reached.aggregate?_eq_none columns
    have bound : (builder.askingKeyed key).bindings = builder.bindings := by
      rw [asked]
      rfl
    rw [listed] at sameText
    rw [← asked] at writtenToo
    refine ⟨text, ⟨?_, sameText⟩, ?_, endsKeyed connection key builder state writtenToo bound⟩
    · rw [((Query.sql_eq_ok_iff_of_select isSelect).mp written).2,
        text_select_plain builder.dialect reached.aggregate?_eq_none]
    · intro α
      rw [Terminal.transcript_eq, Terminal.message?, Terminal.asked, fetched?, writtenToo, bound]
      rfl

/-- A key with an alias that the select list does not show, and rows of which two have the same
text in it. -/
theorem fetchKeyed_keeps_last_aliased :
    let builder := Call.runAll [.select (.one "name"), .null .and "left_at" true]
      (Builder.table .mysql "users")
    let key := "users.id as uid"
    let script := Script.start [.ok
      [.ofList [("uid", .integer (.int32 1)), ("name", .text "ann")],
        .ofList [("uid", .integer (.int32 2)), ("name", .text "bob")],
        .ofList [("uid", .text "1"), ("name", .text "eve")]]] [] []
    let connection := Script.connection .mysql
    let terminal : Terminal := .fetchKeyed key
    let plain := "select `name` from `users` where `left_at` is not null"
    let text := "select `users`.`id` as `uid`, `name` from `users` where `left_at` is not null"
    builder.Reachable ∧ builder.query.kind = .select ∧ builder.query.columns ≠ .many [] ∧
      FetchesKeyed connection key builder script ∧ builder.sql = .ok plain ∧
      builder.Relists (Columns.keyed ["name"] key) plain text ∧
      (terminal.transcript connection builder script).map Turn.message = [.fetchRows text []] ∧
      EndsKeyed connection key builder script text ∧
      (builder.fetchKeyed connection key script).1.toOption.map Dictionary.keys =
        some ["1", "2"] := by
  intro builder key script connection terminal plain text
  have reached : builder.Reachable := (Reachable.fresh (.table .mysql "users")).runAll _
  have isSelect : builder.query.kind = .select := by decide +kernel
  have held : builder.query.columns ≠ .many [] := by decide +kernel
  have fetches := fetchKeyed_keeps_last reached isSelect held key connection script
  have written : builder.sql = .ok plain :=
    (Query.sql_eq_ok_iff_of_select isSelect).mpr ⟨rfl, by decide +kernel⟩
  have sent : (terminal.transcript connection builder script).map Turn.message =
      [.fetchRows text []] := by decide +kernel
  obtain ⟨_, relists, same, ends⟩ := fetches.written written
  obtain ⟨rfl, -⟩ := Message.fetchRows.inj (List.cons.inj (sent.symm.trans same)).1
  exact ⟨reached, isSelect, held, fetches, written, relists, sent, ends, by decide +kernel⟩

end Builder

end FluentSql
