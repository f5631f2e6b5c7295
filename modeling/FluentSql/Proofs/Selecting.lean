import FluentSql.Proofs.Arrows
import FluentSql.Proofs.Cutting
import FluentSql.Proofs.Unquoting
import FluentSql.Sql.Statement

/-!
# Columns of a select list

A select list asks for the values of JSON selectors without quotes. It does so on the text: the
first arrow of a column is made an unquoting one before the column is read. Where the column is
read as a selector, or as a call of one, this is the selector's own arrow, and nothing but the
question for quotes changes: `Expression.ofText_unquoteSelected`. But the first arrow may stand
in an alias or in a text that is passed through, and an unquoting arrow in an alias keeps the
selector before it as it is. `selected_as_given_iff` says exactly when a column is written as if
the rewriting saw the selector alone.
-/

namespace FluentSql.Sql

open Fragment

/-- What a select list writes for a column. -/
def selected (dialect : Dialect) (column : List Char) : List Char :=
  wrap dialect (unquoteSelected column)

/-- A select list has its columns in order, with commas between them. -/
theorem text_selectList (dialect : Dialect) {columns : List Reference} (some : columns ≠ []) :
    (selectList dialect columns).text =
      List.intercalate ", ".toList (columns.map fun column => selected dialect column.toList) := by
  obtain ⟨first, rest, rfl⟩ := List.exists_cons_of_ne_nil some
  rw [selectList, text_separated, List.map_map]
  · exact congrArg _ (List.map_congr_left fun column _ => text_text _)
  · simp

/-! ## Texts with one marked place -/

/-- The arrow of a selector. -/
def arrowOf (unquoting : Bool) : List Char := if unquoting then unquotingArrow else arrow

/-- A text that is cut at an arrow in front of which there is none, and that has no unquoting
arrow. -/
structure CutAtArrow (text field path : List Char) : Prop where
  whole : text = field ++ arrow ++ path
  first : ¬ arrow <:+: field
  plain : ¬ unquotingArrow <:+: text

theorem cutAtArrow_of_infix {text : List Char} (occurs : arrow <:+: text)
    (plain : ¬ unquotingArrow <:+: text) : ∃ field path, CutAtArrow text field path := by
  rcases cut : Text.cutFirst arrow text with _ | ⟨field, path⟩
  · exact absurd occurs (Text.cutFirst_eq_none_iff.mp cut)
  · exact ⟨field, path, (Text.append_of_cutFirst cut).symm,
      Text.not_infix_of_cutFirst (by decide) cut, plain⟩

theorem lower_arrow (unquoting : Bool) (before after : List Char) :
    Text.lower (before ++ arrowOf unquoting ++ after) =
      Text.lower before ++ arrowOf unquoting ++ Text.lower after := by
  have arrow : (arrowOf unquoting).map Char.toLower = arrowOf unquoting := by
    cases unquoting <;> decide
  rw [Text.lower, List.map_append, List.map_append, arrow]
  rfl

/-- An alias stands in front of an arrow or behind it. -/
theorem cutAlias_arrow (unquoting : Bool) (before after : List Char) :
    Text.cutAlias (before ++ arrowOf unquoting ++ after) =
      match Text.cutAlias before with
      | some parts => some (parts.1, parts.2 ++ arrowOf unquoting ++ after)
      | none => (Text.cutAlias after).map fun parts =>
          (before ++ arrowOf unquoting ++ parts.1, parts.2) := by
  have dash : Char.toLower '-' ∉ " as ".toList := by decide
  have angle : Char.toLower '>' ∉ " as ".toList := by decide
  have behindAngle : ∀ rest, Text.cutAlias ('>' :: rest) =
      (Text.cutAlias rest).map fun parts => ('>' :: parts.1, parts.2) := fun rest =>
    Text.cutAlias_append_cons angle [] rest
  have parts : before ++ arrowOf unquoting ++ after =
      before ++ '-' :: (if unquoting then '>' :: '>' :: after else '>' :: after) := by
    cases unquoting <;> simp [arrowOf, arrow, unquotingArrow]
  rw [parts, Text.cutAlias_append_cons dash]
  cases unquoting <;> cases Text.cutAlias before <;>
    simp [behindAngle, arrowOf, arrow, unquotingArrow, Function.comp_def]

/-- What is not looked for in an arrow stands in front of it or behind it. -/
theorem mentionsNull_arrow (unquoting : Bool) (before after : List Char) :
    mentionsNull (before ++ arrowOf unquoting ++ after) =
      (mentionsNull before || mentionsNull after) := by
  rw [Bool.eq_iff_iff, Bool.or_eq_true]
  simp only [mentionsNull, Text.contains_eq_true_iff]
  have whole := lower_arrow unquoting before after
  constructor
  · intro occurs
    rw [whole] at occurs
    cases unquoting with
    | true => exact infix_of_unquotingArrow (by decide) (by decide) occurs
    | false =>
      have parts : Text.lower before ++ arrowOf false ++ Text.lower after =
          Text.lower before ++ '-' :: '>' :: Text.lower after := by simp [arrowOf, arrow]
      rw [parts] at occurs
      exact (Text.infix_of_append_cons (by decide) occurs).imp_right
        (Text.infix_of_cons (by decide))
  · rw [whole, List.append_assoc]
    rintro (inBefore | inAfter)
    · exact inBefore.trans (List.prefix_append _ _).isInfix
    · exact inAfter.trans ((List.suffix_append _ _).trans (List.suffix_append _ _)).isInfix

/-- Trimming goes past no arrow. -/
theorem trim_arrow (unquoting : Bool) (before after : List Char) :
    Text.trim (before ++ arrowOf unquoting ++ after) =
      Text.trimStart before ++ arrowOf unquoting ++ Text.trimEnd after := by
  have nonempty : arrowOf unquoting ≠ [] := by cases unquoting <;> decide
  have visible : ((arrowOf unquoting).all fun char => !Text.isBlank char) = true := by
    cases unquoting <;> decide
  exact Text.trim_append_append nonempty (by simpa using visible) before after

/-- Where an arrow stands to the call that a text is read as, whichever arrow it is. -/
inductive ArrowPlace (before after : List Char) : Prop
  | noCall (none : ∀ unquoting, cutCall (before ++ arrowOf unquoting ++ after) = none)
  | behindCall (function argument : List Char)
      (call : cutCall before = some (function, argument))
      (kept : ∀ unquoting,
        cutCall (before ++ arrowOf unquoting ++ after) = some (function, argument))
  | inArgument (function argument inside : List Char) (isSuffix : argument <:+ before)
      (isPrefix : inside <+: after) (noOpening : '(' ∉ argument ++ inside)
      (call : ∀ unquoting, cutCall (before ++ arrowOf unquoting ++ after) =
        some (function, argument ++ arrowOf unquoting ++ inside))

theorem mem_arrowOf {char : Char} (unquoting : Bool) :
    char ∈ arrowOf unquoting ↔ char = '-' ∨ char = '>' := by
  cases unquoting <;> simp [arrowOf, arrow, unquotingArrow]

/-- The functions that are read have no dash, so an arrow is not in the name of one. -/
theorem arrowPlace (before after : List Char) : ArrowPlace before after := by
  have outer : ∀ unquoting, Text.cutLast ')' (arrowOf unquoting) = none := fun unquoting =>
    Text.cutLast_eq_none_iff.mpr (by simp [mem_arrowOf])
  have inner : ∀ unquoting, Text.cutLast '(' (arrowOf unquoting) = none := fun unquoting =>
    Text.cutLast_eq_none_iff.mpr (by simp [mem_arrowOf])
  rcases closing : Text.cutLast ')' after with _ | ⟨inside, back⟩
  · have same : ∀ unquoting,
        cutCall (before ++ arrowOf unquoting ++ after) = cutCall before := by
      intro unquoting
      rw [cutCall, Text.cutLast_append_eq, closing, Text.cutLast_append_eq, outer, cutCall]
      cases Text.cutLast ')' before <;> rfl
    rcases call : cutCall before with _ | ⟨function, argument⟩
    · exact .noCall fun unquoting => (same unquoting).trans call
    · exact .behindCall function argument call fun unquoting => (same unquoting).trans call
  · have head : ∀ unquoting, Text.cutLast ')' (before ++ arrowOf unquoting ++ after) =
        some (before ++ arrowOf unquoting ++ inside, back) := fun unquoting => by
      rw [Text.cutLast_append_eq, closing]
    rcases opening : Text.cutLast '(' inside with _ | ⟨function, argument⟩
    · rcases earlier : Text.cutLast '(' before with _ | ⟨function, argument⟩
      · refine .noCall fun unquoting => ?_
        rw [cutCall, head]
        simp only [Text.cutLast_append_eq, opening, inner, earlier, Option.map_none]
      · have cut : ∀ unquoting, Text.cutLast '(' (before ++ arrowOf unquoting ++ inside) =
            some (function, argument ++ arrowOf unquoting ++ inside) := fun unquoting => by
          simp only [Text.cutLast_append_eq, opening, inner, earlier, Option.map_some]
        by_cases known : Text.lower function ∈ readFunctions
        · refine .inArgument function argument inside ?_ ?_ ?_ fun unquoting => ?_
          · exact ⟨function ++ ['('], by simp [← Text.append_of_cutLast earlier]⟩
          · exact ⟨')' :: back, Text.append_of_cutLast closing⟩
          · simp [Text.not_mem_of_cutLast earlier, Text.cutLast_eq_none_iff.mp opening]
          · rw [cutCall, head]
            simp only [cut, if_pos known]
        · refine .noCall fun unquoting => ?_
          rw [cutCall, head]
          simp only [cut, if_neg known]
    · refine .noCall fun unquoting => ?_
      have unknown : Text.lower (before ++ arrowOf unquoting ++ function) ∉ readFunctions := by
        intro known
        have dashless : ∀ name ∈ readFunctions, '-' ∉ name := by decide
        refine dashless _ known ?_
        rw [lower_arrow]
        simp [mem_arrowOf]
      rw [cutCall, head]
      simp only [Text.cutLast_append_eq, opening, if_neg unknown]

namespace CutAtArrow

variable {text field path : List Char} (cut : CutAtArrow text field path)

include cut

theorem unquoteSelected_eq : unquoteSelected text = field ++ unquotingArrow ++ path := by
  rw [unquoteSelected, if_neg (Bool.eq_false_iff.mp (Text.contains_eq_false_iff.mpr cut.plain)),
    cut.whole, cutFirst_arrow cut.first]

/-- Either arrow is where the text is cut as a selector. -/
theorem cutSelector_eq (unquoting : Bool) :
    cutSelector (field ++ arrowOf unquoting ++ path) = some (unquoting, field, path) :=
  cutSelector_arrow unquoting cut.first fun _ => cut.whole ▸ cut.plain

theorem mentionsNull_eq (unquoting : Bool) :
    mentionsNull text = mentionsNull (field ++ arrowOf unquoting ++ path) := by
  have given : text = field ++ arrowOf false ++ path := cut.whole
  rw [given, mentionsNull_arrow, mentionsNull_arrow]

theorem cutAlias_eq_none (noAlias : Text.cutAlias text = none) (unquoting : Bool) :
    Text.cutAlias (field ++ arrowOf unquoting ++ path) = none := by
  have given : text = field ++ arrowOf false ++ path := cut.whole
  rw [given, cutAlias_arrow] at noAlias
  rw [cutAlias_arrow]
  cases inField : Text.cutAlias field with
  | some parts =>
    rw [inField] at noAlias
    cases noAlias
  | none =>
    rw [inField] at noAlias
    simpa using noAlias

/-- A part of the text around the arrow is cut there too. -/
theorem part {before after : List Char} (isSuffix : before <:+ field) (isPrefix : after <+: path) :
    before ++ arrow ++ after <:+: text ∧ CutAtArrow (before ++ arrow ++ after) before after := by
  have occurs : before ++ arrow ++ after <:+: text := by
    obtain ⟨front, rfl⟩ := isSuffix
    obtain ⟨back, rfl⟩ := isPrefix
    exact ⟨front, back, by simp [cut.whole]⟩
  exact ⟨occurs, rfl, fun inBefore => cut.first (inBefore.trans isSuffix.isInfix),
    fun inPart => cut.plain (inPart.trans occurs)⟩

end CutAtArrow

namespace Expression

/-- The same expression with the value of its selector asked for without quotes. -/
def unquoted : Expression → Expression
  | .aliased base name => .aliased base.unquoted name
  | .call function argument => .call function argument.unquoted
  | .selector _ field path => .selector true field path
  | expression => expression

/-- SQLite does not tell the two questions apart. -/
theorem render_unquoted_sqlite (expression : Expression) :
    expression.unquoted.render .sqlite = expression.render .sqlite := by
  induction expression with
  | aliased base name inductionHypothesis => rw [unquoted, render, render, inductionHypothesis]
  | call function argument inductionHypothesis =>
    rw [unquoted, render, render, inductionHypothesis]
  | selector | verbatim | dotted => rfl

/-- MySQL does. -/
theorem render_unquoted_mysql_iff {expression : Expression} :
    expression.unquoted.render .mysql = expression.render .mysql ↔
      expression.unquoted = expression := by
  refine ⟨fun same => ?_, fun same => by rw [same]⟩
  induction expression with
  | aliased base name inductionHypothesis =>
    simp only [unquoted, render, List.append_cancel_right_eq] at same ⊢
    rw [inductionHypothesis same]
  | call function argument inductionHypothesis =>
    simp only [unquoted, render, List.append_cancel_left_eq, List.cons.injEq, true_and,
      List.append_cancel_right_eq] at same ⊢
    rw [inductionHypothesis same]
  | selector asked field path =>
    cases asked with
    | true => rfl
    | false =>
      have asking : extract .mysql true (field.render .mysql) (pathLiteral path) =
          "json_unquote(".toList ++ extract .mysql false (field.render .mysql) (pathLiteral path) ++
            [')'] := rfl
      rw [unquoted, render, render, asking] at same
      have lengths := congrArg List.length same
      simp only [List.length_append, List.length_singleton] at lengths
      omega
  | verbatim | dotted => rfl

/-- Without an arrow there is no selector to ask about. -/
theorem unquoted_of_arrowless {text : List Char} (arrowless : ¬ arrow <:+: text) :
    (ofText text).unquoted = ofText text := by
  fun_induction ofText text with
  | case1 text => rfl
  | case2 text _ base name cut inductionHypothesis =>
    have inBase : ¬ arrow <:+: Text.trim base := fun occurs =>
      arrowless ((occurs.trans (Text.trim_infix base)).trans (Text.infix_of_cutAlias cut).1)
    rw [unquoted, inductionHypothesis inBase]
  | case3 text _ _ function argument cut inductionHypothesis =>
    have inArgument : ¬ arrow <:+: argument := fun occurs =>
      arrowless (occurs.trans (infix_of_cutCall cut).2.1)
    rw [unquoted, inductionHypothesis inArgument]
  | case4 text _ _ _ unquoted field path cut =>
    rw [cutSelector_eq_none arrowless] at cut
    cases cut
  | case5 text => rfl

/-- A text with an arrow that is nothing else is read as a selector. -/
theorem ofText_selector {text field path : List Char} (cut : CutAtArrow text field path)
    (noNull : mentionsNull text = false) (noAlias : Text.cutAlias text = none) (unquoting : Bool)
    (noCall : cutCall (field ++ arrowOf unquoting ++ path) = none) :
    ofText (field ++ arrowOf unquoting ++ path) = .selector unquoting (ofText field) path :=
  ofText_eq_selector (cut.mentionsNull_eq unquoting ▸ noNull)
    (cut.cutAlias_eq_none noAlias unquoting) noCall (cut.cutSelector_eq unquoting)

/-- A text that is neither passed through nor an alias is read as the question for the unquoted
value if its first arrow is made an unquoting one. The cases are where the arrow stands: behind
a call, in the argument of one, or in no call. -/
theorem ofText_unquoteSelected {text : List Char} (noNull : mentionsNull text = false)
    (noAlias : Text.cutAlias text = none) (plain : ¬ unquotingArrow <:+: text) :
    ofText (unquoteSelected text) = (ofText text).unquoted := by
  by_cases occurs : arrow <:+: text
  · obtain ⟨field, path, cut⟩ := cutAtArrow_of_infix occurs plain
    have selector := ofText_selector cut noNull noAlias
    have asking : ∀ {function argument : List Char} {unquoting : Bool},
        cutCall (field ++ arrowOf unquoting ++ path) = some (function, argument) →
          ofText (field ++ arrowOf unquoting ++ path) = .call function (ofText argument) :=
      fun {function argument unquoting} => ofText_eq_call (cut.mentionsNull_eq unquoting ▸ noNull)
        (cut.cutAlias_eq_none noAlias unquoting)
    have given : text = field ++ arrowOf false ++ path := cut.whole
    have asked : unquoteSelected text = field ++ arrowOf true ++ path := cut.unquoteSelected_eq
    rw [asked, given]
    cases arrowPlace field path with
    | noCall none =>
      rw [selector true (none true), selector false (none false)]
      rfl
    | behindCall function argument call kept =>
      have inArgument : ¬ arrow <:+: argument := fun occurs =>
        cut.first (occurs.trans (infix_of_cutCall call).2.1)
      rw [asking (kept true), asking (kept false), unquoted, unquoted_of_arrowless inArgument]
    | inArgument function argument inside isSuffix isPrefix noOpening call =>
      obtain ⟨occurs, part⟩ := cut.part isSuffix isPrefix
      have partAlias : Text.cutAlias (argument ++ arrow ++ inside) = none :=
        Text.cutAlias_eq_none fun isAlias => Text.cutAlias_eq_none_iff.mp noAlias
          (isAlias.trans (Text.lower_infix occurs))
      have selector : ∀ unquoting, ofText (argument ++ arrowOf unquoting ++ inside) =
          .selector unquoting (ofText argument) inside := fun unquoting =>
        ofText_selector part (mentionsNull_part occurs noNull) partAlias unquoting
          (cutCall_eq_none (by simpa [mem_arrowOf] using noOpening))
      rw [asking (call true), asking (call false), selector, selector]
      rfl
  · rw [unquoteSelected_of_arrowless occurs, unquoted_of_arrowless occurs]

/-- A text with an alias is its base, read alone, and the name behind it. -/
theorem ofText_eq_aliased {text base name : List Char} (noNull : mentionsNull text = false)
    (cut : Text.cutAlias text = some (base, name)) :
    ofText text = .aliased (ofText (Text.trim base)) (Text.trim name) := by
  rw [ofText, if_neg (Bool.eq_false_iff.mp noNull)]
  split
  · rename_i found
    rw [cut] at found
    cases found
    rfl
  · rename_i found
    rw [cut] at found
    cases found

end Expression

/-! ## The alias and the first arrow -/

theorem wrap_of_alias {text base name : List Char} (noNull : mentionsNull text = false)
    (cut : Text.cutAlias text = some (base, name)) (dialect : Dialect) :
    wrap dialect text =
      wrap dialect (Text.trim base) ++ " as ".toList ++ quoteIdentifier (Text.trim name) := by
  rw [wrap, Expression.ofText_eq_aliased noNull cut]
  rfl

/-- Nothing is rewritten in a text that has an unquoting arrow, or no arrow. -/
theorem unquoteSelected_eq_self_iff {text : List Char} :
    unquoteSelected text = text ↔ (arrow <:+: text → unquotingArrow <:+: text) := by
  by_cases asked : unquotingArrow <:+: text
  · simp [unquoteSelected, Text.contains_eq_true_iff.mpr asked, asked]
  · by_cases occurs : arrow <:+: text
    · obtain ⟨field, path, cut⟩ := cutAtArrow_of_infix occurs asked
      have longer : unquoteSelected text ≠ text := fun same => by
        have lengths := congrArg List.length same
        rw [cut.unquoteSelected_eq, cut.whole] at lengths
        simp [arrow, unquotingArrow] at lengths
      simp [occurs, asked, longer]
    · simp [unquoteSelected_of_arrowless occurs, occurs]

/-- The first arrow of a text with an alias is that of the base if the base has an arrow, and
that of the name otherwise. -/
theorem cutAlias_unquoteSelected {text base name : List Char}
    (cut : Text.cutAlias text = some (base, name)) (plain : ¬ unquotingArrow <:+: text) :
    Text.cutAlias (unquoteSelected text) =
      if Text.contains arrow base then some (unquoteSelected base, name)
      else some (base, unquoteSelected name) := by
  by_cases occurs : arrow <:+: text
  · obtain ⟨field, path, atArrow⟩ := cutAtArrow_of_infix occurs plain
    have asked : unquoteSelected text = field ++ arrowOf true ++ path := atArrow.unquoteSelected_eq
    have given : text = field ++ arrowOf false ++ path := atArrow.whole
    rw [given, cutAlias_arrow] at cut
    rw [asked, cutAlias_arrow]
    rcases inField : Text.cutAlias field with _ | ⟨front, back⟩
    · rw [inField] at cut
      obtain ⟨⟨front, back⟩, inPath, same⟩ := Option.map_eq_some_iff.mp cut
      obtain ⟨rfl, rfl⟩ := Prod.mk.inj same
      have isPrefix : front <+: path := by
        obtain ⟨first, second, -, -, whole⟩ := Text.append_of_cutAlias inPath
        exact ⟨_, whole⟩
      have base := (atArrow.part List.suffix_rfl isPrefix).2
      have hasArrow : arrow <:+: field ++ arrowOf false ++ front := ⟨field, front, rfl⟩
      rw [if_pos (Text.contains_eq_true_iff.mpr hasArrow)]
      simp only [inPath, Option.map_some]
      exact congrArg (fun text => some (text, back)) base.unquoteSelected_eq.symm
    · rw [inField] at cut
      obtain ⟨rfl, rfl⟩ := Prod.mk.inj (Option.some.inj cut)
      have isSuffix : back <:+ field := by
        obtain ⟨first, second, -, -, whole⟩ := Text.append_of_cutAlias inField
        exact ⟨front ++ [' ', first, second, ' '], by simpa using whole⟩
      have name := (atArrow.part isSuffix List.prefix_rfl).2
      have arrowless : ¬ arrow <:+: front := fun inFront =>
        atArrow.first (inFront.trans (Text.infix_of_cutAlias inField).1)
      rw [Text.contains_eq_false_iff.mpr arrowless, if_neg (by decide)]
      exact congrArg (fun text => some (front, text)) name.unquoteSelected_eq.symm
  · have inBase : ¬ arrow <:+: base := fun inBase =>
      occurs (inBase.trans (Text.infix_of_cutAlias cut).1)
    have inName : ¬ arrow <:+: name := fun inName =>
      occurs (inName.trans (Text.infix_of_cutAlias cut).2)
    rw [unquoteSelected_of_arrowless occurs, unquoteSelected_of_arrowless inName, cut,
      Text.contains_eq_false_iff.mpr inBase, if_neg (by decide)]

/-- An unquoting arrow stands on one side of the alias. -/
theorem unquotingArrow_of_alias {text base name : List Char}
    (cut : Text.cutAlias text = some (base, name)) (occurs : unquotingArrow <:+: text) :
    unquotingArrow <:+: base ∨ unquotingArrow <:+: name := by
  obtain ⟨before, after, rfl⟩ := occurs
  have parts := cutAlias_arrow true before after
  rw [arrowOf, if_pos rfl, cut] at parts
  split at parts
  · obtain ⟨rfl, rfl⟩ := Prod.mk.inj (Option.some.inj parts)
    exact .inr ⟨_, after, rfl⟩
  · obtain ⟨⟨front, back⟩, -, same⟩ := Option.map_eq_some_iff.mp parts.symm
    obtain ⟨rfl, rfl⟩ := Prod.mk.inj same
    exact .inl ⟨before, front, rfl⟩

/-- Trimming keeps every arrow. -/
theorem infix_trim_iff {text : List Char} (unquoting : Bool) :
    arrowOf unquoting <:+: Text.trim text ↔ arrowOf unquoting <:+: text := by
  refine ⟨fun occurs => occurs.trans (Text.trim_infix text), ?_⟩
  rintro ⟨before, after, rfl⟩
  exact ⟨Text.trimStart before, Text.trimEnd after, (trim_arrow unquoting before after).symm⟩

/-- Trimming and asking for the unquoted value do not disturb each other. -/
theorem trim_unquoteSelected (text : List Char) :
    Text.trim (unquoteSelected text) = unquoteSelected (Text.trim text) := by
  by_cases changes : arrow <:+: text ∧ ¬ unquotingArrow <:+: text
  · obtain ⟨field, path, cut⟩ := cutAtArrow_of_infix changes.1 changes.2
    have trimmed : Text.trim text = Text.trimStart field ++ arrow ++ Text.trimEnd path := by
      rw [cut.whole]
      exact trim_arrow false field path
    have part := (cut.part (Text.trimStart_suffix field) (Text.trimEnd_isPrefix path)).2
    rw [cut.unquoteSelected_eq, trimmed, part.unquoteSelected_eq]
    exact trim_arrow true field path
  · have unchanged : unquoteSelected text = text :=
      unquoteSelected_eq_self_iff.mpr fun occurs =>
        Classical.not_not.mp fun plain => changes ⟨occurs, plain⟩
    have unchangedPart : unquoteSelected (Text.trim text) = Text.trim text := by
      rw [unquoteSelected_eq_self_iff] at unchanged ⊢
      exact fun occurs => (infix_trim_iff true).mpr (unchanged ((infix_trim_iff false).mp occurs))
    rw [unchanged, unchangedPart]

/-- A name with another arrow is another identifier. -/
theorem quoteIdentifier_unquoteSelected_iff {name : List Char}
    (plain : ¬ unquotingArrow <:+: name) :
    quoteIdentifier (Text.trim (unquoteSelected name)) = quoteIdentifier (Text.trim name) ↔
      ¬ arrow <:+: name := by
  refine ⟨fun same occurs => ?_, fun arrowless => by rw [unquoteSelected_of_arrowless arrowless]⟩
  obtain ⟨field, path, cut⟩ := cutAtArrow_of_infix occurs plain
  have quoted : ∀ unquoting, quoteIdentifier (Text.trim (field ++ arrowOf unquoting ++ path)) =
      '`' :: (dropBackticks (Text.trimStart field) ++ arrowOf unquoting ++
        dropBackticks (Text.trimEnd path)) ++ ['`'] := by
    intro unquoting
    have marks : dropBackticks (arrowOf unquoting) = arrowOf unquoting := by
      cases unquoting <;> decide
    have dash : '-' ∈ Text.trimStart field ++ arrowOf unquoting ++ Text.trimEnd path := by
      simp [mem_arrowOf]
    rw [trim_arrow, quoteIdentifier, if_neg, dropBackticks_append, dropBackticks_append, marks]
    intro isWildcard
    rw [isWildcard] at dash
    exact absurd dash (by decide)
  have asked := quoted true
  have given := quoted false
  rw [arrowOf, if_pos rfl, ← cut.unquoteSelected_eq] at asked
  rw [arrowOf, if_neg (by decide), ← cut.whole] at given
  rw [asked, given] at same
  have lengths := congrArg List.length same
  simp [arrow, unquotingArrow] at lengths

/-! ## What a select list makes of a column -/

/-- How the rewriting of a column with an alias misses the selector of its base. -/
inductive Astray (dialect : Dialect) (base name : List Char) : Prop
  /-- The first arrow is one of the name. -/
  | inName (inName : arrow <:+: name) (plain : ¬ unquotingArrow <:+: name)
      (arrowless : ¬ arrow <:+: base)
  /-- An unquoting arrow in the name keeps the selector of the base from being asked for its
  unquoted value, which only MySQL tells from the value itself. -/
  | keptPlain (tells : dialect = .mysql) (inName : unquotingArrow <:+: name)
      (plain : ¬ unquotingArrow <:+: base)
      (asks : (Expression.ofText (Text.trim base)).unquoted ≠ Expression.ofText (Text.trim base))

/-- A text mentions `null` before its first arrow is made an unquoting one exactly if it does
afterwards. -/
theorem mentionsNull_unquoteSelected_eq (text : List Char) :
    mentionsNull (unquoteSelected text) = mentionsNull text := by
  by_cases changes : arrow <:+: text ∧ ¬ unquotingArrow <:+: text
  · obtain ⟨field, path, cut⟩ := cutAtArrow_of_infix changes.1 changes.2
    rw [cut.unquoteSelected_eq]
    exact (cut.mentionsNull_eq true).symm
  · rw [unquoteSelected_eq_self_iff.mpr fun occurs =>
      Classical.not_not.mp fun plain => changes ⟨occurs, plain⟩]

/-- In a base that stands alone, only MySQL tells whether its selector was asked about. -/
theorem selected_eq_wrap_iff {text : List Char} (dialect : Dialect)
    (noNull : mentionsNull text = false) (noAlias : Text.cutAlias text = none)
    (plain : ¬ unquotingArrow <:+: text) :
    selected dialect text = wrap dialect text ↔
      (dialect = .mysql → (Expression.ofText text).unquoted = Expression.ofText text) := by
  rw [selected, wrap, wrap, Expression.ofText_unquoteSelected noNull noAlias plain]
  cases dialect with
  | mysql => simp [Expression.render_unquoted_mysql_iff]
  | sqlite => simp [Expression.render_unquoted_sqlite]

section Alias

variable (dialect : Dialect) {text base name : List Char} (noNull : mentionsNull text = false)
  (cut : Text.cutAlias text = some (base, name))

include noNull cut

/-- A column is not rewritten if it has an unquoting arrow; its base would be, alone, if the
unquoting arrow is in the name. -/
theorem selected_of_asked_iff (asked : unquotingArrow <:+: text) :
    selected dialect text =
        selected dialect (Text.trim base) ++ " as ".toList ++ quoteIdentifier (Text.trim name) ↔
      ¬ Astray dialect base name := by
  have unchanged : selected dialect text = wrap dialect text := by
    rw [selected, unquoteSelected_eq_self_iff.mpr fun _ => asked]
  rw [unchanged, wrap_of_alias noNull cut, List.append_cancel_right_eq,
    List.append_cancel_right_eq, @eq_comm _ (wrap dialect _)]
  by_cases inBase : unquotingArrow <:+: base
  · have inTrimmed : unquotingArrow <:+: Text.trim base := (infix_trim_iff true).mpr inBase
    have same : selected dialect (Text.trim base) = wrap dialect (Text.trim base) := by
      rw [selected, unquoteSelected_eq_self_iff.mpr fun _ => inTrimmed]
    refine iff_of_true same fun astray => ?_
    cases astray with
    | inName _ _ arrowless => exact arrowless (arrow_infix_unquotingArrow.trans inBase)
    | keptPlain _ _ plain _ => exact plain inBase
  · have inName := (unquotingArrow_of_alias cut asked).resolve_left inBase
    have baseNull : mentionsNull (Text.trim base) = false :=
      mentionsNull_part ((Text.trim_infix base).trans (Text.infix_of_cutAlias cut).1) noNull
    have baseAlias : Text.cutAlias (Text.trim base) = none :=
      Text.cutAlias_eq_none fun occurs =>
        Text.cutAlias_eq_none_iff.mp (Text.cutAlias_base_eq_none cut)
          (occurs.trans (Text.lower_infix (Text.trim_infix base)))
    have plain : ¬ unquotingArrow <:+: Text.trim base := fun inTrimmed =>
      inBase (inTrimmed.trans (Text.trim_infix base))
    rw [selected_eq_wrap_iff dialect baseNull baseAlias plain]
    constructor
    · rintro same (⟨_, noUnquoting, _⟩ | ⟨tells, _, _, asks⟩)
      · exact noUnquoting inName
      · exact asks (same tells)
    · exact fun notAstray tells => Classical.not_not.mp fun asks =>
        notAstray (.keptPlain tells inName inBase asks)

/-- Without an unquoting arrow the first arrow is rewritten: that of the base, as it would be
alone, or else one of the name. -/
theorem selected_of_not_asked_iff (unasked : ¬ unquotingArrow <:+: text) :
    selected dialect text =
        selected dialect (Text.trim base) ++ " as ".toList ++ quoteIdentifier (Text.trim name) ↔
      ¬ Astray dialect base name := by
  have nameless : ¬ unquotingArrow <:+: name := fun inName =>
    unasked (inName.trans (Text.infix_of_cutAlias cut).2)
  have cutAsked := cutAlias_unquoteSelected cut unasked
  have askedNull := (mentionsNull_unquoteSelected_eq text).trans noNull
  by_cases inBase : arrow <:+: base
  · rw [if_pos (Text.contains_eq_true_iff.mpr inBase)] at cutAsked
    have written : selected dialect text =
        selected dialect (Text.trim base) ++ " as ".toList ++ quoteIdentifier (Text.trim name) := by
      rw [selected, wrap_of_alias askedNull cutAsked, trim_unquoteSelected, selected]
    refine iff_of_true written fun astray => ?_
    cases astray with
    | inName _ _ arrowless => exact arrowless inBase
    | keptPlain _ inName _ _ => exact nameless inName
  · rw [Text.contains_eq_false_iff.mpr inBase, if_neg (by decide)] at cutAsked
    have trimmed : ¬ arrow <:+: Text.trim base := fun inTrimmed =>
      inBase (inTrimmed.trans (Text.trim_infix base))
    rw [selected, wrap_of_alias askedNull cutAsked, selected,
      unquoteSelected_of_arrowless trimmed, List.append_cancel_left_eq,
      quoteIdentifier_unquoteSelected_iff nameless]
    constructor
    · rintro arrowless (⟨inName, _, _⟩ | ⟨_, inName, _, _⟩)
      · exact arrowless inName
      · exact nameless inName
    · exact fun notAstray inName => notAstray (.inName inName nameless inBase)

end Alias

/-- A column that mentions `null` is written as it was given if and only if it has no arrow or an
unquoting one. A column with an alias is written as its base would be alone, and its name as one
identifier, if and only if the rewriting does not go astray. -/
theorem selected_as_given_iff (dialect : Dialect) :
    (∀ first rest, (selectList dialect (first :: rest)).text = List.intercalate ", ".toList
      ((first :: rest).map fun column => (selectList dialect [column]).text)) ∧
    ∀ column : Reference,
      (mentionsNull column.toList = true →
        ((selectList dialect [column]).text = column.toList ↔
          (arrow <:+: column.toList → unquotingArrow <:+: column.toList))) ∧
      ∀ base name, mentionsNull column.toList = false →
        Text.cutAlias column.toList = some (base, name) →
          ((selectList dialect [column]).text =
              (selectList dialect [String.ofList (Text.trim base)]).text ++ " as ".toList ++
                quoteIdentifier (Text.trim name) ↔
            ¬ Astray dialect base name) := by
  have alone : ∀ column : Reference,
      (selectList dialect [column]).text = selected dialect column.toList := fun column => by
    rw [text_selectList dialect (List.cons_ne_nil column []), List.map_singleton,
      List.intercalate_singleton]
  simp only [alone, String.toList_ofList]
  refine ⟨fun first rest => text_selectList dialect (List.cons_ne_nil first rest),
    fun column => ⟨fun isNull => ?_, fun base name noNull cut => ?_⟩⟩
  · have passed : selected dialect column.toList = unquoteSelected column.toList := by
      rw [selected, wrap, Expression.ofText,
        if_pos ((mentionsNull_unquoteSelected_eq _).trans isNull), Expression.render]
    rw [passed, unquoteSelected_eq_self_iff]
  · by_cases asked : unquotingArrow <:+: column.toList
    · exact selected_of_asked_iff dialect noNull cut asked
    · exact selected_of_not_asked_iff dialect noNull cut asked

/-- A text that is passed through with an unquoting arrow, and a selector whose name has an arrow
of its own. -/
theorem selected_as_given_iff_meta :
    let passed : Reference := "nullable->>a"
    let column : Reference := " o.meta->it's->b AS  x->`y "
    mentionsNull passed.toList = true ∧
      (∀ dialect, ((selectList dialect [passed]).text = passed.toList ↔
        (arrow <:+: passed.toList → unquotingArrow <:+: passed.toList))) ∧
      mentionsNull column.toList = false ∧
      Text.cutAlias column.toList = some (" o.meta->it's->b".toList, " x->`y ".toList) ∧
      ∀ dialect, ((selectList dialect [column]).text =
          (selectList dialect [String.ofList (Text.trim " o.meta->it's->b".toList)]).text ++
            " as ".toList ++ quoteIdentifier (Text.trim " x->`y ".toList) ↔
        ¬ Astray dialect " o.meta->it's->b".toList " x->`y ".toList) := by
  intro passed column
  have isNull : mentionsNull passed.toList = true := by decide +kernel
  have noNull : mentionsNull column.toList = false := by decide +kernel
  have cut : Text.cutAlias column.toList = some (" o.meta->it's->b".toList, " x->`y ".toList) := by
    decide +kernel
  exact ⟨isNull, fun dialect => ((selected_as_given_iff dialect).2 passed).1 isNull, noNull, cut,
    fun dialect => ((selected_as_given_iff dialect).2 column).2 _ _ noNull cut⟩

/-- The arrow of a text that is passed through, and that of a name, are made unquoting ones; and
the unquoting arrow of a name keeps a selector from being asked for its unquoted value. -/
theorem selected_astray :
    (mentionsNull "null->a".toList = true ∧ ∀ dialect,
      (selectList dialect ["null->a"]).text = "null->>a".toList ∧
        (selectList dialect ["null->a"]).text ≠ "null->a".toList) ∧
    (mentionsNull "name as a->b".toList = false ∧
      Text.cutAlias "name as a->b".toList = some ("name".toList, "a->b".toList) ∧ ∀ dialect,
        (selectList dialect ["name as a->b"]).text = "`name` as `a->>b`".toList ∧
          (selectList dialect ["name"]).text ++ " as ".toList ++
            quoteIdentifier (Text.trim "a->b".toList) = "`name` as `a->b`".toList) ∧
    mentionsNull "items->price as a->>b".toList = false ∧
      Text.cutAlias "items->price as a->>b".toList =
        some ("items->price".toList, "a->>b".toList) ∧
      (selectList .mysql ["items->price as a->>b"]).text =
        "json_extract(`items`, '$.\"price\"') as `a->>b`".toList ∧
      (selectList .mysql ["items->price"]).text ++ " as ".toList ++
          quoteIdentifier (Text.trim "a->>b".toList) =
        "json_unquote(json_extract(`items`, '$.\"price\"')) as `a->>b`".toList := by
  refine ⟨⟨by decide +kernel, fun dialect => ?_⟩,
    ⟨by decide +kernel, by decide +kernel, fun dialect => ?_⟩, by decide +kernel, by decide +kernel,
    by decide +kernel, by decide +kernel⟩
  · cases dialect <;> decide +kernel
  · cases dialect <;> decide +kernel

end FluentSql.Sql
