import FluentSql.Proofs.Arrows
import FluentSql.Proofs.StringLiteral

/-!
# The place that a selector addresses

A JSON selector may be written with either arrow. Where a column is read as an expression, both
arrows end its field. Where a column is read as a JSON place, the plain arrow does, and what is
left of an unquoting one begins the first key of the path. `ColumnUse.addresses_iff` says which
field and which keys every part of a statement writes for a selector, in both dialects.
-/

namespace FluentSql.Sql

open Fragment

/-- A JSON selector: a field, an arrow and the keys of a path. -/
structure Selector where
  field : List Char
  /-- Whether the arrow asks for the unquoted value. -/
  unquoting : Bool
  keys : List (List Char)

namespace Selector

/-- The path of a selector, its keys with plain arrows between them. -/
def path (selector : Selector) : List Char := List.intercalate arrow selector.keys

/-- A selector as it is written by the caller. -/
def text (selector : Selector) : List Char :=
  selector.field ++ (if selector.unquoting then unquotingArrow else arrow) ++ selector.path

/-- The same place, asked for unquoted. -/
def unquoted (selector : Selector) : Selector := { selector with unquoting := true }

/-- A selector whose text can be taken apart into field and keys, and is nothing but a
selector. -/
structure WellFormed (selector : Selector) : Prop where
  field : ¬ arrow <:+: selector.field
  nonempty : selector.keys ≠ []
  keys : ∀ key ∈ selector.keys, ¬ arrow <:+: key
  begins : ∀ key ∈ selector.keys, key.head? ≠ some '>'
  noNull : mentionsNull selector.text = false
  noAlias : ¬ " as ".toList <:+: Text.lower selector.text
  noCall : '(' ∉ selector.text

/-- Whether a selector is well-formed. -/
def isWellFormed (selector : Selector) : Bool :=
  !Text.contains arrow selector.field && !selector.keys.isEmpty &&
    selector.keys.all (fun key => !Text.contains arrow key && key.head? != some '>') &&
    !mentionsNull selector.text && !Text.contains " as ".toList (Text.lower selector.text) &&
    !selector.text.contains '('

theorem isWellFormed_iff {selector : Selector} : selector.isWellFormed ↔ selector.WellFormed := by
  simp only [isWellFormed, Bool.and_eq_true, Bool.not_eq_true', Text.contains_eq_false_iff,
    List.all_eq_true, bne_iff_ne, List.isEmpty_eq_false_iff]
  constructor
  · rintro ⟨⟨⟨⟨⟨field, nonempty⟩, keys⟩, noNull⟩, noAlias⟩, noCall⟩
    exact ⟨field, nonempty, fun key member => (keys key member).1,
      fun key member => (keys key member).2, noNull, noAlias, by simpa using noCall⟩
  · intro wellFormed
    exact ⟨⟨⟨⟨⟨wellFormed.field, wellFormed.nonempty⟩, fun key member =>
      ⟨wellFormed.keys key member, wellFormed.begins key member⟩⟩, wellFormed.noNull⟩,
      wellFormed.noAlias⟩, by simpa using wellFormed.noCall⟩

instance (selector : Selector) : Decidable selector.WellFormed :=
  decidable_of_iff _ isWellFormed_iff

theorem field_infix (selector : Selector) : selector.field <:+: selector.text :=
  ⟨[], (if selector.unquoting then unquotingArrow else arrow) ++ selector.path, by simp [text]⟩

theorem path_infix (selector : Selector) : selector.path <:+: selector.text :=
  ⟨selector.field ++ (if selector.unquoting then unquotingArrow else arrow), [], by simp [text]⟩

/-- The first plain arrow ends the field; of an unquoting arrow an angle is left. -/
theorem cutFirst_arrow_text {selector : Selector} (noArrow : ¬ arrow <:+: selector.field) :
    Text.cutFirst arrow selector.text = some (selector.field,
      if selector.unquoting then '>' :: selector.path else selector.path) := by
  rw [text]
  split
  · have parts : selector.field ++ unquotingArrow ++ selector.path =
        selector.field ++ arrow ++ '>' :: selector.path := by simp [arrow, unquotingArrow]
    rw [parts, cutFirst_arrow noArrow]
  · exact cutFirst_arrow noArrow selector.path

namespace WellFormed

variable {selector : Selector} (wellFormed : selector.WellFormed)

include wellFormed

/-- A plain selector has no unquoting arrow anywhere. -/
theorem noUnquotingArrow (isPlain : selector.unquoting = false) :
    ¬ unquotingArrow <:+: selector.text := by
  have whole : selector.text = List.intercalate arrow (selector.field :: selector.keys) := by
    obtain ⟨first, others, keys⟩ := List.exists_cons_of_ne_nil wellFormed.nonempty
    rw [text, path, keys, List.intercalate_cons_cons]
    simp [isPlain]
  rw [whole]
  exact unquotingArrow_absent (List.forall_mem_cons.mpr ⟨wellFormed.field, wellFormed.keys⟩)
    wellFormed.begins

/-- Either arrow ends the field of a selector that is read as an expression. -/
theorem cutSelector_text :
    cutSelector selector.text = some (selector.unquoting, selector.field, selector.path) :=
  cutSelector_arrow selector.unquoting wellFormed.field fun isPlain => by
    have absent := wellFormed.noUnquotingArrow isPlain
    rwa [text, isPlain, if_neg (by decide)] at absent

/-- A select list asks for the unquoted value, whichever arrow was written. -/
theorem unquoteSelected_text : unquoteSelected selector.text = selector.unquoted.text := by
  have whole : selector.unquoted.text = selector.field ++ unquotingArrow ++ selector.path := rfl
  cases isUnquoting : selector.unquoting with
  | true =>
    have same : selector.text = selector.unquoted.text := by
      rw [whole, text, isUnquoting, if_pos rfl]
    have occurs : unquotingArrow <:+: selector.text :=
      ⟨selector.field, selector.path, by rw [same, whole]⟩
    rw [unquoteSelected, if_pos (Text.contains_eq_true_iff.mpr occurs), same]
  | false =>
    have absent := Text.contains_eq_false_iff.mpr (wellFormed.noUnquotingArrow isUnquoting)
    have cut := cutFirst_arrow_text wellFormed.field
    rw [isUnquoting, if_neg (by decide)] at cut
    rw [unquoteSelected, if_neg (Bool.eq_false_iff.mp absent), cut, whole]

theorem unquoted : selector.unquoted.WellFormed where
  field := wellFormed.field
  nonempty := wellFormed.nonempty
  keys := wellFormed.keys
  begins := wellFormed.begins
  noNull := wellFormed.unquoteSelected_text ▸ mentionsNull_unquoteSelected wellFormed.noNull
  noAlias := by
    intro occurs
    have mark : unquotingArrow.map Char.toLower = unquotingArrow := by decide
    have whole : selector.unquoted.text = selector.field ++ unquotingArrow ++ selector.path := rfl
    rw [whole, Text.lower, List.map_append, List.map_append, mark] at occurs
    rcases infix_of_unquotingArrow (by decide) (by decide) occurs with inField | inPath
    · exact wellFormed.noAlias (inField.trans (Text.lower_infix selector.field_infix))
    · exact wellFormed.noAlias (inPath.trans (Text.lower_infix selector.path_infix))
  noCall := by
    intro member
    have inField : '(' ∉ selector.field := fun member =>
      wellFormed.noCall (selector.field_infix.subset member)
    have inPath : '(' ∉ selector.path := fun member =>
      wellFormed.noCall (selector.path_infix.subset member)
    have whole : selector.unquoted.text = selector.field ++ unquotingArrow ++ selector.path := rfl
    simp [whole, inField, inPath, unquotingArrow] at member

theorem ofText_field : Expression.ofText selector.field = .dotted selector.field :=
  Expression.ofText_eq_dotted (mentionsNull_part selector.field_infix wellFormed.noNull)
    (Text.cutAlias_eq_none fun occurs =>
      wellFormed.noAlias (occurs.trans (Text.lower_infix selector.field_infix)))
    (cutCall_eq_none fun member => wellFormed.noCall (selector.field_infix.subset member))
    (cutSelector_eq_none wellFormed.field)

theorem ofText_text : Expression.ofText selector.text =
    .selector selector.unquoting (.dotted selector.field) selector.path := by
  rw [Expression.ofText_eq_selector wellFormed.noNull (Text.cutAlias_eq_none wellFormed.noAlias)
    (cutCall_eq_none wellFormed.noCall) wellFormed.cutSelector_text, wellFormed.ofText_field]

theorem pathLiteral_path : pathLiteral selector.path = keysLiteral selector.keys :=
  pathLiteral_intercalate wellFormed.nonempty wellFormed.keys

end WellFormed

/-- The keys that are read where only the plain arrow ends a field: of an unquoting arrow an
angle is left in front of the first key. -/
def plainKeys (selector : Selector) : List (List Char) :=
  if selector.unquoting then Text.consFirst '>' selector.keys else selector.keys

theorem WellFormed.ofText_place {selector : Selector} (wellFormed : selector.WellFormed) :
    JsonPlace.ofText selector.text =
      ⟨.dotted selector.field, some (List.intercalate arrow selector.plainKeys)⟩ := by
  have left : (if selector.unquoting then '>' :: selector.path else selector.path) =
      List.intercalate arrow selector.plainKeys := by
    obtain ⟨first, others, keys⟩ := List.exists_cons_of_ne_nil wellFormed.nonempty
    rw [plainKeys, path, keys]
    split
    · cases others with
      | nil => simp [Text.consFirst]
      | cons second later => simp [Text.consFirst]
    · rfl
  rw [JsonPlace.ofText, cutFirst_arrow_text wellFormed.field, left]
  simp only [wellFormed.ofText_field]

theorem WellFormed.pathLiteral_plainKeys {selector : Selector} (wellFormed : selector.WellFormed) :
    pathLiteral (List.intercalate arrow selector.plainKeys) = keysLiteral selector.plainKeys := by
  obtain ⟨first, others, keys⟩ := List.exists_cons_of_ne_nil wellFormed.nonempty
  have noArrow := wellFormed.keys
  rw [plainKeys]
  split
  · rw [keys, List.forall_mem_cons] at noArrow
    rw [keys, Text.consFirst]
    have firstArrowless : ¬ arrow <:+: '>' :: first := by
      intro occurs
      rcases List.infix_cons_iff.mp occurs with ⟨back, atFront⟩ | later
      · exact absurd (List.cons.inj atFront).1 (by decide)
      · exact noArrow.1 later
    exact pathLiteral_intercalate (List.cons_ne_nil _ _)
      (List.forall_mem_cons.mpr ⟨firstArrowless, noArrow.2⟩)
  · exact pathLiteral_intercalate wellFormed.nonempty noArrow

end Selector

namespace ColumnUse

/-- What a dialect is given for a column in a part of a statement. -/
def writtenIn (dialect : Dialect) (column : Reference) : ColumnUse → Fragment
  | .selectList => Sql.selectList dialect [column]
  | .compared operator value => condition dialect (.compare column operator value)
  | .contained value negated => condition dialect (.jsonContains column value negated)
  | .measured operator value => condition dialect (.jsonLength column operator value)
  | .ordered direction => orders dialect [⟨column, direction⟩]
  | .assigned => assignment dialect column

/-- Whether a part of a statement reads its column as an expression, and so knows both arrows. -/
def readsExpression : ColumnUse → Bool
  | .selectList | .compared _ _ | .ordered _ => true
  | .contained _ _ | .measured _ _ | .assigned => false

/-- What a part of a statement says of a field and a path in it. -/
def saying (dialect : Dialect) (unquoting : Bool) (field path : List Char) :
    ColumnUse → Fragment
  | .selectList => [.text (Expression.extract dialect true field path)]
  | .compared operator _ =>
    [.text (Expression.extract dialect unquoting field path)] ++ infixed operator ++ placeholder
  | .contained _ negated => (if negated then fixed "not " else []) ++
    match dialect with
    | .mysql =>
      fixed "json_contains(" ++ [.text field] ++ fixed ", " ++ placeholder ++ fixed ", " ++
        [.text path] ++ fixed ")"
    | .sqlite =>
      fixed "exists (select 1 from json_each(" ++ [.text field] ++ fixed ", " ++ [.text path] ++
        fixed ") where json_each.value = json_extract(" ++ placeholder ++ fixed ", '$'))"
  | .measured operator _ =>
    fixed (jsonLengthFunction dialect) ++ [.text field] ++ fixed ", " ++ [.text path] ++
      fixed ")" ++ infixed operator ++ placeholder
  | .ordered direction =>
    fixed " order by " ++ [.text (Expression.extract dialect unquoting field path)] ++ fixed " " ++
      fixed direction.keyword
  | .assigned =>
    [.text field] ++ fixed " = json_set(" ++ [.text field] ++ fixed ", " ++ [.text path] ++
      fixed ", " ++ placeholder ++ fixed ")"

/-- The keys that a part of a statement reads of a selector. -/
def keysRead (selector : Selector) (use : ColumnUse) : List (List Char) :=
  if use.readsExpression then selector.keys else selector.plainKeys

/-- A text is said once in what is made of it, and what is around it does not depend on it. -/
def SaidOnce (said : List Char → Fragment) : Prop :=
  ∃ front back, ∀ path, (said path).text = front ++ (path ++ back)

theorem saidOnce_text : SaidOnce fun path => [.text path] :=
  ⟨[], [], fun path => by rw [text_text, List.nil_append, List.append_nil]⟩

theorem SaidOnce.before {said : List Char → Fragment} (once : SaidOnce said)
    (before : Fragment) : SaidOnce fun path => before ++ said path := by
  obtain ⟨front, back, around⟩ := once
  exact ⟨before.text ++ front, back, fun path => by
    rw [text_append, around, List.append_assoc]⟩

theorem SaidOnce.after {said : List Char → Fragment} (once : SaidOnce said)
    (after : Fragment) : SaidOnce fun path => said path ++ after := by
  obtain ⟨front, back, around⟩ := once
  exact ⟨front, back ++ after.text, fun path => by
    rw [text_append, around, List.append_assoc, List.append_assoc]⟩

theorem saidOnce_extract (dialect : Dialect) (unquoting : Bool) (field : List Char) :
    SaidOnce fun path => [.text (Expression.extract dialect unquoting field path)] := by
  have extracted : ∀ path, Expression.extract .sqlite unquoting field path =
      ("json_extract(".toList ++ field ++ ", ".toList) ++ (path ++ [')']) := fun path => by
    rw [Expression.extract_sqlite, ← List.append_assoc]
  cases dialect with
  | sqlite => exact ⟨_, _, fun path => by rw [text_text, extracted]⟩
  | mysql =>
    cases unquoting with
    | false => exact ⟨_, _, fun path => (text_text _).trans (extracted path)⟩
    | true =>
      refine ⟨"json_unquote(".toList ++ ("json_extract(".toList ++ field ++ ", ".toList),
        [')'] ++ [')'], fun path => ?_⟩
      have whole : Expression.extract .mysql true field path =
          "json_unquote(".toList ++ Expression.extract .sqlite true field path ++ [')'] := rfl
      rw [text_text, whole, extracted]
      simp only [List.append_assoc]

theorem saidOnce_saying (use : ColumnUse) (dialect : Dialect) (unquoting : Bool)
    (field : List Char) : SaidOnce fun path => use.saying dialect unquoting field path := by
  have extracted := saidOnce_extract dialect unquoting field
  cases use with
  | selectList => exact saidOnce_extract dialect true field
  | compared operator value => exact (extracted.after _).after _
  | contained value negated =>
    cases dialect with
    | mysql => exact ((saidOnce_text.before _).after _).before _
    | sqlite => exact ((((saidOnce_text.before _).after _).after _).after _).before _
  | measured operator value => exact (((saidOnce_text.before _).after _).after _).after _
  | ordered direction => exact ((extracted.before _).after _).after _
  | assigned => exact (((saidOnce_text.before _).after _).after _).after _

/-- What is said tells the path. -/
theorem text_saying_eq_iff {use : ColumnUse} {dialect : Dialect} {unquoting : Bool}
    {field path other : List Char} :
    (use.saying dialect unquoting field path).text =
      (use.saying dialect unquoting field other).text ↔ path = other := by
  obtain ⟨front, back, around⟩ := use.saidOnce_saying dialect unquoting field
  rw [around, around, List.append_cancel_left_eq, List.append_cancel_right_eq]

/-- Every part of a statement says of a selector its field, quoted, and the keys it reads. -/
theorem text_writtenIn {selector : Selector} (wellFormed : selector.WellFormed)
    {column : Reference} (isSelector : column.toList = selector.text) (dialect : Dialect)
    (use : ColumnUse) :
    (use.writtenIn dialect column).text = (use.saying dialect selector.unquoting
      (quoteDotted selector.field) (keysLiteral (use.keysRead selector))).text := by
  have read : (reference dialect column).text = Expression.extract dialect selector.unquoting
      (quoteDotted selector.field) (keysLiteral selector.keys) := by
    rw [reference, text_text, wrap, isSelector, wellFormed.ofText_text, Expression.render,
      Expression.render, wellFormed.pathLiteral_path]
  have field : (placeField dialect (.ofText column.toList)).text = quoteDotted selector.field := by
    rw [placeField, text_text, isSelector, wellFormed.ofText_place, Expression.render]
  have path : (placePath (.ofText column.toList)).text =
      ", ".toList ++ keysLiteral selector.plainKeys := by
    rw [placePath, text_text, isSelector, wellFormed.ofText_place]
    exact congrArg (", ".toList ++ ·) wellFormed.pathLiteral_plainKeys
  cases use with
  | selectList =>
    have selected : wrap dialect (unquoteSelected column.toList) = Expression.extract dialect true
        (quoteDotted selector.field) (keysLiteral selector.keys) := by
      rw [isSelector, wellFormed.unquoteSelected_text, wrap, wellFormed.unquoted.ofText_text,
        Expression.render, Expression.render, wellFormed.unquoted.pathLiteral_path]
      rfl
    have alone : writtenIn dialect column .selectList =
        [.text (wrap dialect (unquoteSelected column.toList))] :=
      @List.intercalate_singleton _ (fixed ", ") _
    rw [alone, selected]
    rfl
  | compared operator value =>
    rw [writtenIn, condition, saying]
    simp only [text_append, read, text_text]
    rfl
  | contained value negated =>
    rw [writtenIn, condition]
    cases dialect <;>
      simp only [jsonContains, saying, text_append, text_fixed, field, path, text_text,
        List.append_assoc] <;> rfl
  | measured operator value =>
    rw [writtenIn, condition, jsonLength, saying]
    simp only [text_append, field, path, text_text, text_fixed, List.append_assoc]
    rfl
  | ordered direction =>
    have alone : (writtenIn dialect column (.ordered direction)) = fixed " order by " ++
        (reference dialect column ++ fixed " " ++ fixed direction.keyword) :=
      congrArg (fixed " order by " ++ ·) List.intercalate_singleton
    rw [alone, saying]
    simp only [text_append, read, text_text, text_fixed, List.append_assoc]
    rfl
  | assigned =>
    have hasArrow : Text.contains arrow column.toList := by
      rw [isSelector, Text.contains, Selector.cutFirst_arrow_text wellFormed.field]
      rfl
    rw [writtenIn, assignment, if_pos hasArrow, saying]
    simp only [text_append, field, path, text_text, text_fixed, List.append_assoc]
    rfl

/-- The literal tells whether an angle was left in front of the first key. -/
theorem keysLiteral_consFirst_ne {keys : List (List Char)} (nonempty : keys ≠ []) :
    keysLiteral (Text.consFirst '>' keys) ≠ keysLiteral keys := by
  obtain ⟨first, others, rfl⟩ := List.exists_cons_of_ne_nil nonempty
  have angle : escapeQuotes ('>' :: first) = '>' :: escapeQuotes first :=
    escapeQuotesAfter_append (by decide) (by decide) 0 [] first
  intro same
  have lengths := congrArg List.length same
  simp [keysLiteral, Text.consFirst, angle] at lengths

/-- Every part of a statement says of a well-formed selector its field, quoted, and the literal
of the keys that it reads. These are the keys of the selector if and only if the selector has
the plain arrow or the part reads its column as an expression. -/
theorem addresses_iff (use : ColumnUse) {column : Reference} {selector : Selector}
    (isSelector : column.toList = selector.text) (wellFormed : selector.WellFormed)
    (dialect : Dialect) :
    let said := (use.writtenIn dialect column).text
    let saying := fun keys => (use.saying dialect selector.unquoting
      (quoteDotted selector.field) (keysLiteral keys)).text
    said = saying (use.keysRead selector) ∧
      (said = saying selector.keys ↔
        selector.unquoting = false ∨ use.readsExpression = true) := by
  intro said saying
  have whole : said = saying (use.keysRead selector) :=
    use.text_writtenIn wellFormed isSelector dialect
  refine ⟨whole, ?_⟩
  rw [whole, text_saying_eq_iff, keysRead, Selector.plainKeys]
  cases reads : use.readsExpression with
  | true => simp
  | false =>
    cases selector.unquoting with
    | false => simp
    | true => simpa using keysLiteral_consFirst_ne wellFormed.nonempty

/-- A field and three keys with quotes, dashes and angles in them, asked whether they contain
a value. -/
theorem addresses_iff_meta :
    let column : Reference := "o.meta->it's->a-->b>"
    let selector : Selector :=
      ⟨"o.meta".toList, false, ["it's".toList, "a-".toList, "b>".toList]⟩
    let use : ColumnUse := .contained (.text "1") true
    column.toList = selector.text ∧ selector.WellFormed ∧
      ∀ dialect, (use.writtenIn dialect column).text = (use.saying dialect selector.unquoting
        (quoteDotted selector.field) (keysLiteral selector.keys)).text := by
  intro column selector use
  have isSelector : column.toList = selector.text := by decide +kernel
  have wellFormed : selector.WellFormed := by decide +kernel
  exact ⟨isSelector, wellFormed, fun dialect =>
    (addresses_iff use isSelector wellFormed dialect).2.mpr (.inl rfl)⟩

/-- An assignment to `a->>b` is to the key `>b`, while a select list reads the key `b`. -/
theorem assigned_addresses_angle :
    let selector : Selector := ⟨"a".toList, true, ["b".toList]⟩
    "a->>b".toList = selector.text ∧ selector.WellFormed ∧
      (∀ dialect, (writtenIn dialect "a->>b" .assigned).text =
        "`a` = json_set(`a`, '$.\">b\"', ?)".toList) ∧
      (writtenIn .sqlite "a->>b" .selectList).text = "json_extract(`a`, '$.\"b\"')".toList := by
  intro selector
  refine ⟨by decide +kernel, by decide +kernel, fun dialect => ?_, by decide +kernel⟩
  cases dialect <;> decide +kernel

end ColumnUse

end FluentSql.Sql
