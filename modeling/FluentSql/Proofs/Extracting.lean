import FluentSql.Proofs.Selecting

/-!
# The value of a selector in select lists and predicates

A select list asks for the value of a JSON selector without quotes, a predicate asks for the
value itself, and the unquoting arrow lets a predicate ask as a select list does. The two arrows
are cut at by different rules, and the select list rewrites its text first, but field and path
come out the same: `PlainSelector.extracted_alike` says that on every path there is one text for
the value, and that asking for it without quotes only puts words around that text.
-/

namespace FluentSql.Sql

open Fragment

/-- The words around a value that ask for it without quotes; SQLite needs none. -/
def unquotingWords : Dialect → String × String
  | .mysql => ("json_unquote(", ")")
  | .sqlite => ("", "")

/-- A value that is asked for without quotes. -/
def unquotedValue (dialect : Dialect) (value : List Char) : List Char :=
  (unquotingWords dialect).1.toList ++ value ++ (unquotingWords dialect).2.toList

theorem unquotedValue_extract (dialect : Dialect) (field path : List Char) :
    unquotedValue dialect (Expression.extract dialect false field path) =
      Expression.extract dialect true field path := by
  cases dialect with
  | mysql => rfl
  | sqlite => exact List.append_nil _

/-! ## Where a column is written as a reference -/

/-- A part of a statement that writes a column as a reference: a where condition, a grouping or
an order. -/
inductive ReferenceUse where
  | compared (operator : Operator) (value : Bind)
  | between (negated : Bool)
  | among (values : Items Bind) (some : values.size ≠ 0) (negated : Bool)
  | null (negated : Bool)
  | dated (unit : DateUnit) (operator : Operator) (value : Bind)
  | grouped (before after : List Reference)
  | ordered (before after : List Ordering) (direction : Direction)

/-- What a part of a statement writes for a column. -/
def ReferenceUse.written (dialect : Dialect) (use : ReferenceUse) (column : Reference) :
    Fragment :=
  match use with
  | .compared operator value => condition dialect (.compare column operator value)
  | .between negated => condition dialect (.between column negated)
  | .among values _ negated => condition dialect (.among column values negated)
  | .null negated => condition dialect (.null column negated)
  | .dated unit operator value => condition dialect (.datePart unit column operator value)
  | .grouped before after => groups dialect (.many (before ++ column :: after))
  | .ordered before after direction => orders dialect (before ++ ⟨column, direction⟩ :: after)

/-- What is made of a column says a text of it, among texts that do not depend on the column. -/
def Says (made : Reference → Fragment) (said : Reference → List Char) : Prop :=
  ∃ front back : List Char, ∀ column, (made column).text = front ++ said column ++ back

theorem Says.between {made : Reference → Fragment} {said : Reference → List Char}
    (spoken : Says made said) (before after : Fragment) :
    Says (fun column => before ++ made column ++ after) said := by
  obtain ⟨front, back, around⟩ := spoken
  exact ⟨before.text ++ front, back ++ after.text, fun column => by
    simp only [text_append, around, List.append_assoc]⟩

theorem says_reference (dialect : Dialect) :
    Says (reference dialect) fun column => wrap dialect column.toList :=
  ⟨[], [], fun column => by rw [reference, text_text, List.nil_append, List.append_nil]⟩

/-- One of some texts with separators between them stands among the others. -/
theorem intercalate_around (separator : List Char) (before after : List (List Char)) :
    ∃ front back : List Char, ∀ text, List.intercalate separator (before ++ text :: after) =
      front ++ text ++ back := by
  induction before with
  | nil =>
    cases after with
    | nil => exact ⟨[], [], fun text => by simp⟩
    | cons next others =>
      exact ⟨[], separator ++ List.intercalate separator (next :: others), fun text => by
        rw [List.nil_append, List.intercalate_cons_cons, List.nil_append, List.append_assoc]⟩
  | cons first others inductionHypothesis =>
    obtain ⟨front, back, around⟩ := inductionHypothesis
    refine ⟨first ++ separator ++ front, back, fun text => ?_⟩
    rw [List.cons_append, List.intercalate_cons_of_ne_nil (by simp), around]
    simp only [List.append_assoc]

theorem Says.listed {made : Reference → Fragment} {said : Reference → List Char}
    (spoken : Says made said) (separator : String) (before after : List Fragment) :
    Says (fun column => separated separator (before ++ made column :: after)) said := by
  obtain ⟨front, back, around⟩ := spoken
  obtain ⟨first, last, others⟩ :=
    intercalate_around separator.toList (before.map text) (after.map text)
  refine ⟨first ++ front, back ++ last, fun column => ?_⟩
  rw [text_separated, List.map_append, List.map_cons, others, around]
  simp only [List.append_assoc]

/-- A select list writes each of its columns as it would alone. -/
theorem says_selectList (dialect : Dialect) (before after : List Reference) :
    Says (fun column => selectList dialect (before ++ column :: after))
      fun column => selected dialect column.toList := by
  obtain ⟨front, back, around⟩ := intercalate_around ", ".toList
    (before.map fun column => selected dialect column.toList)
    (after.map fun column => selected dialect column.toList)
  refine ⟨front, back, fun column => ?_⟩
  rw [text_selectList dialect (by simp), List.map_append, List.map_cons, around]

/-- Every such part writes the column as a reference. -/
theorem ReferenceUse.says_written (use : ReferenceUse) (dialect : Dialect) :
    Says (use.written dialect) fun column => wrap dialect column.toList := by
  have alone := says_reference dialect
  cases use with
  | compared operator value =>
    obtain ⟨front, back, around⟩ := alone.between [] (infixed operator ++ placeholder)
    refine ⟨front, back, fun column => ?_⟩
    rw [← around, written, condition]
    simp only [List.nil_append, List.append_assoc]
  | between negated =>
    obtain ⟨front, back, around⟩ := alone.between []
      (fixed (if negated then " not between " else " between ") ++ placeholder ++ fixed " and " ++
        placeholder)
    refine ⟨front, back, fun column => ?_⟩
    rw [← around, written, condition]
    simp only [List.nil_append, List.append_assoc]
  | among values some negated =>
    obtain ⟨front, back, around⟩ := alone.between []
      (fixed (if negated then " not in (" else " in (") ++ placeholderList values.size ++ fixed ")")
    refine ⟨front, back, fun column => ?_⟩
    rw [← around, written, condition, Sql.among, if_neg some]
    simp only [List.nil_append, List.append_assoc]
  | null negated =>
    exact alone.between [] (fixed (if negated then " is not null" else " is null"))
  | dated unit operator value =>
    obtain ⟨front, back, around⟩ := alone.between (fixed unit.function ++ fixed "(")
      (fixed ")" ++ infixed operator ++ placeholder)
    refine ⟨front, back, fun column => ?_⟩
    rw [← around, written, condition, parenthesized]
    simp only [List.append_assoc]
  | grouped before after =>
    obtain ⟨front, back, around⟩ := (alone.listed ", " (before.map (reference dialect))
      (after.map (reference dialect))).between (fixed " group by ") []
    refine ⟨front, back, fun column => ?_⟩
    have some : (Items.many (before ++ column :: after)).isEmpty = false := by
      simp [Items.isEmpty_eq]
    rw [← around, written, groups, some, if_neg (by decide), columnList]
    · simp
    · simp
  | ordered before after direction =>
    let item := fun order : Ordering =>
      reference dialect order.column ++ fixed " " ++ fixed order.direction.keyword
    obtain ⟨front, back, around⟩ := ((alone.between []
      (fixed " " ++ fixed direction.keyword)).listed ", " (before.map item) (after.map item)).between
        (fixed " order by ") []
    refine ⟨front, back, fun column => ?_⟩
    have some : (before ++ (⟨column, direction⟩ : Ordering) :: after).isEmpty = false := by simp
    rw [← around, written, orders, some, if_neg (by decide)]
    simp [item]

/-! ## Plain selectors -/

/-- A JSON selector with the plain arrow, which is nothing else. -/
structure PlainSelector (text : List Char) : Prop where
  hasArrow : arrow <:+: text
  plain : ¬ unquotingArrow <:+: text
  noAlias : ¬ " as ".toList <:+: Text.lower text
  noOpening : '(' ∉ text
  noClosing : ')' ∉ text
  noNull : mentionsNull text = false

namespace PlainSelector

/-- Whichever arrow such a text has in place of its first one, it is read as a selector of the
same field and path. -/
theorem ofText_eq {text field path : List Char} (selector : PlainSelector text)
    (cut : CutAtArrow text field path) (unquoting : Bool) :
    Expression.ofText (field ++ arrowOf unquoting ++ path) =
      .selector unquoting (Expression.ofText field) path := by
  have noCall : '(' ∉ field ++ arrowOf unquoting ++ path := by
    have outside := selector.noOpening
    rw [cut.whole] at outside
    simp [mem_arrowOf, arrow] at outside ⊢
    exact outside
  exact Expression.ofText_selector cut selector.noNull (Text.cutAlias_eq_none selector.noAlias)
    unquoting (cutCall_eq_none noCall)

/-- The value of a selector is one text in every predicate. A select list asks for the same
value without quotes, and so does a predicate whose selector has the unquoting arrow in place
of its first one. -/
theorem extracted_alike {column : Reference} (selector : PlainSelector column.toList)
    (dialect : Dialect) :
    ∃ field path : List Char, column.toList = field ++ arrow ++ path ∧ ¬ arrow <:+: field ∧
      let value := wrap dialect column.toList
      let asking : Reference := String.ofList (field ++ unquotingArrow ++ path)
      value = "json_extract(".toList ++ wrap dialect field ++ ", ".toList ++ pathLiteral path ++
        [')'] ∧
      (∀ before after, ∃ front back : List Char,
        (∀ other, (selectList dialect (before ++ other :: after)).text =
          front ++ (selectList dialect [other]).text ++ back) ∧
        (selectList dialect (before ++ column :: after)).text =
          front ++ unquotedValue dialect value ++ back) ∧
      ∀ use : ReferenceUse, ∃ front back : List Char,
        (∀ other, (use.written dialect other).text = front ++ wrap dialect other.toList ++ back) ∧
        (use.written dialect column).text = front ++ value ++ back ∧
        (use.written dialect asking).text = front ++ unquotedValue dialect value ++ back := by
  obtain ⟨field, path, cut⟩ := cutAtArrow_of_infix selector.hasArrow selector.plain
  have read := selector.ofText_eq cut
  have extracted : wrap dialect column.toList =
      Expression.extract dialect false (wrap dialect field) (pathLiteral path) := by
    rw [cut.whole]
    exact congrArg (Expression.render dialect) (read false)
  have asked : wrap dialect (field ++ unquotingArrow ++ path) =
      unquotedValue dialect (wrap dialect column.toList) := by
    rw [extracted, unquotedValue_extract]
    exact congrArg (Expression.render dialect) (read true)
  refine ⟨field, path, cut.whole, cut.first, ?_, fun before after => ?_, fun use => ?_⟩
  · rw [extracted]
    cases dialect <;> rfl
  · obtain ⟨front, back, around⟩ := says_selectList dialect before after
    refine ⟨front, back, fun other => ?_, ?_⟩
    · rw [around, text_selectList dialect (List.cons_ne_nil other []), List.map_singleton,
        List.intercalate_singleton]
    · simp only [around, selected, cut.unquoteSelected_eq, asked]
  · obtain ⟨front, back, around⟩ := use.says_written dialect
    refine ⟨front, back, around, around column, ?_⟩
    simp only [around, String.toList_ofList, asked]

/-- A field with a point and a dash before its arrow, and a path with further arrows, dashes,
angles and a quote. -/
theorem extracted_alike_meta :
    let column : Reference := "o.meta-->it's->a-b>->c"
    PlainSelector column.toList ∧ ∀ dialect,
      ∃ field path : List Char, column.toList = field ++ arrow ++ path ∧ ¬ arrow <:+: field ∧
        wrap dialect column.toList = "json_extract(".toList ++ wrap dialect field ++
          ", ".toList ++ pathLiteral path ++ [')'] ∧
        (∀ before after, ∃ front back : List Char,
          (selectList dialect (before ++ column :: after)).text =
            front ++ unquotedValue dialect (wrap dialect column.toList) ++ back) ∧
        ∀ use : ReferenceUse, ∃ front back : List Char,
          (use.written dialect column).text = front ++ wrap dialect column.toList ++ back ∧
          (use.written dialect (String.ofList (field ++ unquotingArrow ++ path))).text =
            front ++ unquotedValue dialect (wrap dialect column.toList) ++ back := by
  intro column
  have selector : PlainSelector column.toList :=
    { hasArrow := Text.contains_eq_true_iff.mp (by decide +kernel)
      plain := Text.contains_eq_false_iff.mp (by decide +kernel)
      noAlias := Text.contains_eq_false_iff.mp (by decide +kernel)
      noOpening := by decide +kernel
      noClosing := by decide +kernel
      noNull := by decide +kernel }
  refine ⟨selector, fun dialect => ?_⟩
  obtain ⟨field, path, whole, first, value, lists, uses⟩ := selector.extracted_alike dialect
  refine ⟨field, path, whole, first, value, fun before after => ?_, fun use => ?_⟩
  · obtain ⟨front, back, -, given⟩ := lists before after
    exact ⟨front, back, given⟩
  · obtain ⟨front, back, -, given, asked⟩ := uses use
    exact ⟨front, back, given, asked⟩

end PlainSelector

end FluentSql.Sql
