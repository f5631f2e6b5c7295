import FluentSql.Proofs.Containment
import FluentSql.Proofs.Occurrence
import FluentSql.Proofs.PathLiteral
import FluentSql.Proofs.Provenance

/-!
# Contained clauses

What MySQL is given for a reference that does not mention `null` is sealed, whatever
characters it has, and the clauses around references are spelled. Only conditions that
end in a word, such as `is null`, are not sealed.
-/

namespace FluentSql

namespace Sql

open Fragment Lexer

/-- The grammar's own texts have no word and no mark that is not its own. -/
private theorem ownTexts_contained : ∀ text ∈ ownTexts .mysql,
    (∀ token ∈ (between.run text.toList).2, token.isContained ∧ token ≠ .mark '?') ∧
      (between.run text.toList).1.isContained := by
  decide +kernel

private theorem closedTexts_closed : ∀ text ∈ closedTexts .mysql,
    (between.run text.toList).1 = between := by
  decide +kernel

private theorem operatorTexts_contained : ∀ operator ∈ Operator.foldedOperators,
    (∀ token ∈ (between.run operator.text.toList).2, token.isContained ∧ token ≠ .mark '?') ∧
      (between.run operator.text.toList).1.isContained := by
  decide +kernel

theorem spelled_fixed {text : String} (own : text ∈ wordTexts .mysql) :
    Spelled (fixed text) := by
  obtain ⟨tokens, ends⟩ := ownTexts_contained text (List.mem_append_right _ own)
  exact spelled_text tokens ends

theorem sealed_fixed {text : String} (own : text ∈ closedTexts .mysql) :
    Sealed (fixed text) :=
  sealed_text (ownTexts_contained text (List.mem_append_left _ own)).1 (closedTexts_closed text own)

theorem sealed_blank : Sealed (fixed " ") := sealed_fixed (by decide)

theorem sealed_comma : Sealed (fixed ", ") := sealed_fixed (by decide)

theorem sealed_opening : Sealed (fixed "(") := sealed_fixed (by decide)

theorem sealed_closing : Sealed (fixed ")") := sealed_fixed (by decide)

/-- One of the grammar's own texts keeps what follows it apart from what stands before. -/
theorem tail_fixed {text : String} (own : text ∈ closedTexts .mysql)
    (opens : beginsApart text.toList) {rest : Fragment} (spelled : Spelled rest) :
    Tail (fixed text ++ rest) :=
  ((sealed_fixed own).append_spelled spelled).tail opens

/-- A character keeps its place among the separators when it is made small. -/
private theorem toLower_of_separates {char : Char} (separates : char ∈ separators) :
    char.toLower = char := by
  have all : separators.all fun separator => separator.toLower = separator := by decide
  exact of_decide_eq_true (List.all_eq_true.mp all char separates)

/-- The name of a called function is one of the grammar's own words. -/
theorem spelled_function {function : List Char} (known : Text.lower function ∈ readFunctions) :
    Spelled [.text function] := by
  have letters : readFunctions.all fun name => name ≠ [] ∧ name.all (· ∉ separators) := by decide
  obtain ⟨nonempty, isPlain⟩ := of_decide_eq_true (List.all_eq_true.mp letters _ known)
  have plain : ∀ char ∈ Text.lower function, char ∉ separators := fun char member =>
    of_decide_eq_true (List.all_eq_true.mp isPlain char member)
  have some : function ≠ [] := by
    rintro rfl
    exact nonempty rfl
  have noSeparator : ∀ char ∈ function, char ∉ separators := by
    intro char member separates
    have inLower : char.toLower ∈ Text.lower function := List.mem_map_of_mem member
    rw [toLower_of_separates separates] at inLower
    exact plain char inLower separates
  have reads := run_between_word some noSeparator
  apply spelled_text
  · rw [reads]
    simp
  · rw [reads]
    simp [Lexer.isContained, Token.isContained, Token.isOwn, known]

theorem sealed_quoteIdentifier (name : List Char) : Sealed [.text (quoteIdentifier name)] := by
  unfold quoteIdentifier
  split
  · rename_i wildcard
    rw [wildcard]
    exact sealed_text (by decide) (by decide)
  · have plain : '`' ∉ dropBackticks name := by simp [dropBackticks]
    have reads : between.run ('`' :: dropBackticks name ++ ['`']) =
        (between, [.identifier (dropBackticks name)]) := by
      rw [List.cons_append, run_cons]
      simp [step, begin, run_identifier [] plain]
    apply sealed_text
    · rw [reads]
      simp [Token.isContained, Token.isQuoted]
    · rw [reads]

theorem sealed_intercalate {mark : List Char} (between : Sealed [.text mark]) :
    ∀ {texts : List (List Char)}, (∀ text ∈ texts, Sealed [.text text]) →
      Sealed [.text (List.intercalate mark texts)]
  | [], _ => sealed_text (by simp [List.intercalate]) rfl
  | [only], parts => by simpa [List.intercalate] using parts
  | first :: second :: rest, parts => by
    have later : Sealed [.text (List.intercalate mark (second :: rest))] :=
      sealed_intercalate between fun text member => parts text (List.mem_cons_of_mem _ member)
    have whole : List.intercalate mark (first :: second :: rest) =
        first ++ mark ++ List.intercalate mark (second :: rest) := by
      simp [List.intercalate]
    rw [whole]
    exact ((parts first List.mem_cons_self).append_text between).append_text later

theorem sealed_quoteDotted (name : List Char) : Sealed [.text (quoteDotted name)] := by
  have point : Sealed [.text ['.']] := sealed_text (by decide) rfl
  refine sealed_intercalate point fun text member => ?_
  obtain ⟨segment, -, rfl⟩ := List.mem_map.mp member
  exact sealed_quoteIdentifier segment

theorem sealed_pathLiteral (path : List Char) : Sealed [.text (pathLiteral path)] := by
  obtain ⟨content, reads⟩ := run_pathLiteral path
  apply sealed_text
  · rw [reads]
    simp [Token.isContained, Token.isQuoted]
  · rw [reads]

namespace Expression

theorem extract_mysql (unquoted : Bool) (field path : List Char) :
    extract .mysql unquoted field path =
      if unquoted then
        "json_unquote(".toList ++
          ("json_extract(".toList ++ field ++ ", ".toList ++ path ++ ")".toList) ++ ")".toList
      else "json_extract(".toList ++ field ++ ", ".toList ++ path ++ ")".toList := rfl

theorem sealed_extract (unquoted : Bool) {field path : List Char} (first : Sealed [.text field])
    (second : Sealed [.text path]) : Sealed [.text (extract .mysql unquoted field path)] := by
  have opening : Sealed [.text "json_extract(".toList] :=
    sealed_text (by decide +kernel) (by decide +kernel)
  have extracted :=
    (((opening.append_text first).append_text sealed_comma).append_text second).append_text
      sealed_closing
  rw [extract_mysql]
  split
  · have unquoting : Sealed [.text "json_unquote(".toList] :=
      sealed_text (by decide +kernel) (by decide +kernel)
    exact (unquoting.append_text extracted).append_text sealed_closing
  · exact extracted

/-- Whatever a reference without `null` is read as, it is written in its quotes. -/
theorem sealed_render {text : List Char} (noNull : mentionsNull text = false) :
    Sealed [.text ((ofText text).render .mysql)] := by
  have comma : Sealed [.text " as ".toList] := sealed_text (by decide +kernel) (by decide +kernel)
  fun_induction ofText text with
  | case1 text mentions => simp [noNull] at mentions
  | case2 text _ base name cut inductionHypothesis =>
    have part := (Text.trim_infix base).trans (Text.infix_of_cutAlias cut).1
    have first := inductionHypothesis (mentionsNull_part part noNull)
    exact (first.append_text comma).append_text (sealed_quoteIdentifier _)
  | case3 text _ _ function argument cut inductionHypothesis =>
    obtain ⟨-, part, known⟩ := infix_of_cutCall cut
    have first := inductionHypothesis (mentionsNull_part part noNull)
    have closing : Sealed [.text [')']] := sealed_text (by decide) rfl
    have opening : Sealed [.text (function ++ ['('])] := by
      simpa [Piece.chars] using ((spelled_function known).close sealed_opening (by decide)).merge rfl
    simpa [render] using (opening.append_text first).append_text closing
  | case4 text _ _ _ unquoted field path cut inductionHypothesis =>
    have part := (infix_of_cutSelector cut).1
    have first := inductionHypothesis (mentionsNull_part part noNull)
    exact sealed_extract unquoted first (sealed_pathLiteral path)
  | case5 text => exact sealed_quoteDotted text

end Expression

section References

variable {column : Reference}

theorem sealed_reference (noNull : mentionsNull column.toList = false) :
    Sealed (reference .mysql column) :=
  Expression.sealed_render noNull

/-- The field of a JSON place. -/
theorem sealed_placeField (noNull : mentionsNull column.toList = false) :
    Sealed (placeField .mysql (.ofText column.toList)) := by
  unfold placeField JsonPlace.ofText
  split
  · rename_i field path found
    exact Expression.sealed_render (mentionsNull_part (Text.infix_of_cutFirst found).1 noNull)
  · exact Expression.sealed_render noNull

theorem sealed_placePath (place : JsonPlace) : Sealed (placePath place) := by
  unfold placePath JsonPlace.pathArgument
  split
  · rename_i path _
    exact Sealed.append_text sealed_comma (sealed_pathLiteral path)
  · exact sealed_text (by simp) rfl

end References

theorem sealed_parenthesized {fragment : Fragment} (inner : Spelled fragment) :
    Sealed (parenthesized fragment) :=
  (sealed_opening.append_spelled inner).close sealed_closing (by decide)

theorem sealed_infixed {operator : Operator} (known : operator.isKnown) :
    Sealed (infixed operator) := by
  have word : Spelled (fixed operator.text) := by
    obtain ⟨tokens, ends⟩ :=
      operatorTexts_contained _ (Operator.folded_mem_foldedOperators known)
    rw [Operator.text_folded] at tokens ends
    exact spelled_text tokens ends
  exact (sealed_blank.append_spelled word).close sealed_blank (by decide)

theorem sealed_placeholderList (count : Nat) : Sealed (placeholderList count) := by
  apply sealed_separated sealed_comma
  intro fragment member
  rw [List.eq_of_mem_replicate member]
  exact sealed_placeholder

theorem spelled_among {column : Reference} (noNull : mentionsNull column.toList = false)
    (count : Nat) (negated : Bool) : Spelled (among .mysql column count negated) := by
  unfold among
  split
  · cases negated <;> exact spelled_fixed (by decide)
  · have opening : Sealed (fixed (if negated then " not in (" else " in (")) := by
      cases negated <;> exact sealed_fixed (by decide)
    exact ((((sealed_reference noNull).append opening).append
      (sealed_placeholderList count)).append sealed_closing).toSpelled

theorem spelled_null {column : Reference} (noNull : mentionsNull column.toList = false)
    (negated : Bool) : Spelled (null .mysql column negated) := by
  apply (sealed_reference noNull).append_spelled
  cases negated <;> exact spelled_fixed (by decide)

theorem sealed_jsonContains {column : Reference} (noNull : mentionsNull column.toList = false)
    (negated : Bool) : Sealed (jsonContains .mysql column negated) := by
  have negation : Sealed (if negated then fixed "not " else []) := by
    cases negated
    · exact sealed_nil
    · exact sealed_fixed (by decide)
  have opening : Sealed (fixed "json_contains(") := sealed_fixed (by decide)
  exact negation.append (((((opening.append (sealed_placeField noNull)).append
    sealed_comma).append sealed_placeholder).append (sealed_placePath _)).append sealed_closing)

theorem sealed_jsonLength {column : Reference} (noNull : mentionsNull column.toList = false)
    {operator : Operator} (known : operator.isKnown) :
    Sealed (jsonLength .mysql column operator) := by
  have opening : Sealed (fixed "json_length(") := sealed_fixed (by decide)
  exact ((((opening.append (sealed_placeField noNull)).append (sealed_placePath _)).append
    sealed_closing).append (sealed_infixed known)).append sealed_placeholder

/-- Connectors stand between blanks, so no word grows into the next. -/
theorem spelled_chain {parts : List (Connector × Fragment)}
    (spelled : ∀ part ∈ parts, Spelled part.2) : Spelled (chain parts) := by
  cases parts with
  | nil => exact sealed_nil.toSpelled
  | cons first rest =>
    refine (spelled first List.mem_cons_self).append_tail (tail_flatMap fun part member => ?_)
    have keyword : Spelled (fixed part.1.keyword) := by
      cases part.1 <;> exact spelled_fixed (by decide)
    have connected := (sealed_blank.append_spelled keyword).close sealed_blank (by decide)
    have later := connected.append_spelled (spelled part (List.mem_cons_of_mem _ member))
    rw [List.append_assoc, List.append_assoc] at later ⊢
    exact later.tail (by decide)

theorem spelled_constraint (clause : Constraint)
    (noNull : ∀ reference ∈ clause.references, mentionsNull reference.toList = false)
    (known : ∀ operator ∈ clause.operators, operator.isKnown) :
    Spelled (constraint .mysql clause) := by
  induction clause using Constraint.induction with
  | columns first operator second =>
    have left := sealed_reference (noNull first (by simp [Constraint.references]))
    have right := sealed_reference (noNull second (by simp [Constraint.references]))
    have middle := sealed_infixed (known operator (by simp [Constraint.operators]))
    exact ((left.append middle).append right).toSpelled
  | value column operator =>
    have left := sealed_reference (noNull column (by simp [Constraint.references]))
    have middle := sealed_infixed (known operator (by simp [Constraint.operators]))
    have right : Sealed (if operator.isList then parenthesized placeholder else placeholder) := by
      split
      · exact sealed_parenthesized sealed_placeholder.toSpelled
      · exact sealed_placeholder
    exact ((left.append middle).append right).toSpelled
  | among column values negated =>
    exact spelled_among (noNull column (by simp [Constraint.references])) _ negated
  | null column negated =>
    exact spelled_null (noNull column (by simp [Constraint.references])) negated
  | group members inductionHypothesis =>
    rw [Constraint.references, Constraint.allReferences_eq_flatMap] at noNull
    rw [Constraint.operators, Constraint.allOperators_eq_flatMap] at known
    rw [constraint, constraintParts_eq_map]
    refine (sealed_parenthesized (spelled_chain fun part isPart => ?_)).toSpelled
    obtain ⟨member, isMember, rfl⟩ := List.mem_map.mp isPart
    exact inductionHypothesis member isMember
      (fun name isName => noNull name (List.mem_flatMap.mpr ⟨member, isMember, isName⟩))
      (fun operator isOperator =>
        known operator (List.mem_flatMap.mpr ⟨member, isMember, isOperator⟩))

theorem spelled_condition (clause : Condition)
    (noNull : ∀ reference ∈ clause.references, mentionsNull reference.toList = false)
    (known : ∀ operator ∈ clause.operators, operator.isKnown) :
    Spelled (condition .mysql clause) := by
  induction clause using Condition.induction with
  | compare column operator value =>
    have left := sealed_reference (noNull column (by simp [Condition.references]))
    have middle := sealed_infixed (known operator (by simp [Condition.operators]))
    exact ((left.append middle).append sealed_placeholder).toSpelled
  | group frame members inductionHypothesis =>
    rw [Condition.references, Condition.allReferences_eq_flatMap] at noNull
    rw [Condition.operators, Condition.allOperators_eq_flatMap] at known
    rw [condition, conditionParts_eq_map]
    refine (sealed_parenthesized (spelled_chain fun part isPart => ?_)).toSpelled
    obtain ⟨member, isMember, rfl⟩ := List.mem_map.mp isPart
    exact inductionHypothesis member isMember
      (fun name isName => noNull name (List.mem_flatMap.mpr ⟨member, isMember, isName⟩))
      (fun operator isOperator =>
        known operator (List.mem_flatMap.mpr ⟨member, isMember, isOperator⟩))
  | between column negated =>
    have left := sealed_reference (noNull column (by simp [Condition.references]))
    have middle : Sealed (fixed (if negated then " not between " else " between ")) := by
      cases negated <;> exact sealed_fixed (by decide)
    have between : Sealed (fixed " and ") := sealed_fixed (by decide)
    exact ((((left.append middle).append sealed_placeholder).append between).append
      sealed_placeholder).toSpelled
  | among column values negated =>
    exact spelled_among (noNull column (by simp [Condition.references])) _ negated
  | null column negated =>
    exact spelled_null (noNull column (by simp [Condition.references])) negated
  | datePart unit column operator value =>
    have function : Spelled (fixed unit.function) := by
      cases unit <;> exact spelled_fixed (by decide)
    have argument := sealed_reference (noNull column (by simp [Condition.references]))
    have middle := sealed_infixed (known operator (by simp [Condition.operators]))
    have opening := function.close sealed_opening (by decide)
    have whole := ((((opening.append argument).append sealed_closing).append middle).append
      sealed_placeholder).toSpelled
    simpa only [condition, parenthesized, List.append_assoc] using whole
  | jsonContains column value negated =>
    exact (sealed_jsonContains (noNull column (by simp [Condition.references])) negated).toSpelled
  | jsonLength column operator value =>
    exact (sealed_jsonLength (noNull column (by simp [Condition.references]))
      (known operator (by simp [Condition.operators]))).toSpelled

end Sql

end FluentSql
