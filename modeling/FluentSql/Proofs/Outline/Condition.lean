import FluentSql.Proofs.Outline
import FluentSql.Proofs.Provenance

/-!
# What the text of conditions tells

Conditions on plain columns are written as their outlines, and with known operators their
outlines can be read back. So two lists of conditions have the same text exactly if they
have the same outline.
-/

namespace FluentSql

namespace Condition

mutual

/-- What the text of a condition tells of it. -/
def outline : Condition → Outline
  | .compare column operator _ => .simple (.compare column operator.folded)
  | .group _ conditions => .group (Outline.forgetFirst (outlineParts conditions))
  | .between column negated => .simple (.between column negated)
  | .among column values negated =>
    if values.size = 0 then .amongNone negated else .simple (.among column values.size negated)
  | .null column negated => .simple (.null column negated)
  | .datePart unit column operator _ => .simple (.datePart unit column operator.folded)
  | .jsonContains column _ negated => .simple (.jsonContains column negated)
  | .jsonLength column operator _ => .simple (.jsonLength column operator.folded)

/-- The outlines of some conditions, each with its connector. -/
def outlineParts : List (Connector × Condition) → List (Connector × Outline)
  | [] => []
  | (connector, first) :: rest => (connector, first.outline) :: outlineParts rest

end

/-- What the text of some conditions tells of them. -/
def outlines (list : List (Connector × Condition)) : List (Connector × Outline) :=
  Outline.forgetFirst (outlineParts list)

end Condition

namespace Reference

/-- A reference that is read as a dotted name and quoted without a loss. -/
structure Plain (column : Reference) : Prop where
  noBacktick : '`' ∉ column.toList
  noParenthesis : '(' ∉ column.toList
  noArrow : ¬ Sql.arrow <:+: column.toList
  noAlias : ¬ " as ".toList <:+: Text.lower column.toList
  noNull : Sql.mentionsNull column.toList = false

/-- Whether a reference is plain. -/
def isPlain (column : Reference) : Bool :=
  !column.toList.contains '`' && !column.toList.contains '(' &&
    !Text.contains Sql.arrow column.toList &&
    !Text.contains " as ".toList (Text.lower column.toList) && !Sql.mentionsNull column.toList

theorem isPlain_iff {column : Reference} : column.isPlain ↔ column.Plain := by
  simp only [isPlain, Bool.and_eq_true, Bool.not_eq_true', Text.contains_eq_false_iff]
  constructor
  · rintro ⟨⟨⟨⟨noBacktick, noParenthesis⟩, noArrow⟩, noAlias⟩, noNull⟩
    exact ⟨by simpa using noBacktick, by simpa using noParenthesis, noArrow, noAlias, noNull⟩
  · intro plain
    exact ⟨⟨⟨⟨by simpa using plain.noBacktick, by simpa using plain.noParenthesis⟩,
      plain.noArrow⟩, plain.noAlias⟩, plain.noNull⟩

instance (column : Reference) : Decidable column.Plain := decidable_of_iff _ isPlain_iff

theorem Plain.ofText_eq {column : Reference} (plain : column.Plain) :
    Sql.Expression.ofText column.toList = .dotted column.toList :=
  Sql.Expression.ofText_eq_dotted plain.noNull (Text.cutAlias_eq_none plain.noAlias)
    (Sql.cutCall_eq_none plain.noParenthesis) (Sql.cutSelector_eq_none plain.noArrow)

end Reference

namespace Condition

open Sql Fragment

variable {dialect : Dialect}

theorem text_reference {column : Reference} (plain : column.Plain) :
    (reference dialect column).text = quoteDotted column.toList := by
  simp [reference, wrap, plain.ofText_eq, Expression.render, Piece.chars]

/-- The place of a plain column is the column, without a path. -/
theorem text_placeField (dialect : Dialect) {column : Reference} (plain : column.Plain) :
    (placeField dialect (JsonPlace.ofText column.toList)).text = quoteDotted column.toList ∧
      (placePath (JsonPlace.ofText column.toList)).text = [] := by
  have noPath := Text.cutFirst_eq_none_iff.mpr plain.noArrow
  simp [placeField, placePath, JsonPlace.ofText, JsonPlace.pathArgument, noPath, plain.ofText_eq,
    Expression.render, Piece.chars]

theorem text_jsonContains {column : Reference} (plain : column.Plain) (negated : Bool) :
    (Sql.jsonContains dialect column negated).text =
      (Opening.contains negated).text dialect ++
        (quoteDotted column.toList ++ Ending.contained.text dialect) := by
  have sign : text (if negated then fixed "not " else []) =
      (if negated then "not " else "").toList := by
    cases negated <;> rfl
  obtain ⟨field, noPath⟩ := text_placeField dialect plain
  cases dialect <;>
    simp only [Sql.jsonContains, Opening.text, Opening.containsFunction, Ending.text,
      Ending.beforeValue, Ending.afterValue, text_append, text_fixed, text_placeholder, sign,
      field, noPath, List.append_assoc, List.nil_append, List.singleton_append]

theorem text_infixed_folded (operator : Operator) :
    (infixed operator.folded).text = (infixed operator).text := by
  simp [infixed, operator.text_folded]

/-- Some conditions are written as their outlines if each is. -/
theorem text_chain {list : List (Connector × Condition)}
    (each : ∀ member ∈ list,
      (condition dialect member.2).text = member.2.outline.text dialect) :
    (chain (conditionParts dialect list)).text = Outline.texts dialect (outlineParts list) := by
  have later : ∀ list : List (Connector × Condition),
      (∀ member ∈ list, (condition dialect member.2).text = member.2.outline.text dialect) →
      text ((conditionParts dialect list).flatMap fun part =>
        fixed " " ++ fixed part.1.keyword ++ fixed " " ++ part.2) =
      Outline.laterTexts dialect (outlineParts list) := by
    intro list each
    induction list with
    | nil => rfl
    | cons part rest inductionHypothesis =>
      rw [List.forall_mem_cons] at each
      rw [conditionParts, outlineParts, Outline.laterTexts, List.flatMap_cons, text_append,
        inductionHypothesis each.2]
      simp [each.1]
  cases list with
  | nil => rfl
  | cons part rest =>
    rw [List.forall_mem_cons] at each
    rw [conditionParts, outlineParts, Outline.texts, chain, text_append, each.1,
      later rest each.2]

/-- A condition on plain columns is written as its outline. -/
theorem text_condition (condition : Condition)
    (plain : ∀ column ∈ condition.references, Reference.Plain column) :
    (Sql.condition dialect condition).text = condition.outline.text dialect := by
  induction condition using Condition.induction with
  | compare column operator value =>
    rw [references, List.forall_mem_singleton] at plain
    rw [Sql.condition, outline, Outline.text, Test.text, Test.opening, Test.column, Test.ending,
      Test.list, Opening.text, Ending.text, text_infixed_folded]
    simp [text_reference plain]
  | group frame conditions members =>
    rw [references, allReferences_eq_flatMap] at plain
    rw [Sql.condition, outline, Outline.text, Outline.texts_forgetFirst, ← text_chain]
    · simp [parenthesized]
    · intro member isMember
      exact members member isMember fun column mentions =>
        plain column (List.mem_flatMap.mpr ⟨member, isMember, mentions⟩)
  | between column negated =>
    rw [references, List.forall_mem_singleton] at plain
    rw [Sql.condition, outline, Outline.text, Test.text, Test.opening, Test.column, Test.ending,
      Test.list, Opening.text, Ending.text]
    simp [text_reference plain]
  | among column values negated =>
    rw [references, List.forall_mem_singleton] at plain
    rw [Sql.condition, Sql.among, outline]
    split
    · rw [Outline.text, text_fixed]
    · rw [Outline.text, Test.text, Test.opening, Test.column, Test.ending, Test.list,
        Opening.text, Ending.text]
      simp [text_reference plain]
  | null column negated =>
    rw [references, List.forall_mem_singleton] at plain
    rw [Sql.condition, Sql.null, outline, Outline.text, Test.text, Test.opening, Test.column,
      Test.ending, Test.list, Opening.text, Ending.text]
    simp [text_reference plain]
  | datePart unit column operator value =>
    rw [references, List.forall_mem_singleton] at plain
    rw [Sql.condition, outline, Outline.text, Test.text, Test.opening, Test.column, Test.ending,
      Test.list, Opening.text, Ending.text, text_infixed_folded]
    simp [text_reference plain, parenthesized]
  | jsonContains column value negated =>
    rw [references, List.forall_mem_singleton] at plain
    rw [Sql.condition, text_jsonContains plain, outline, Outline.text, Test.text, Test.opening,
      Test.column, Test.ending, Test.list, List.append_nil]
  | jsonLength column operator value =>
    rw [references, List.forall_mem_singleton] at plain
    rw [Sql.condition, Sql.jsonLength, outline, Outline.text, Test.text, Test.opening,
      Test.column, Test.ending, Test.list, Opening.text, Ending.text, text_infixed_folded]
    obtain ⟨field, noPath⟩ := text_placeField dialect plain
    simp [field, noPath]

theorem allValid_outlineParts {list : List (Connector × Condition)}
    (each : ∀ member ∈ list, member.2.outline.Valid) : Outline.AllValid (outlineParts list) := by
  induction list with
  | nil => rw [outlineParts, Outline.AllValid]; trivial
  | cons part rest inductionHypothesis =>
    rw [List.forall_mem_cons] at each
    rw [outlineParts, Outline.AllValid]
    exact ⟨each.1, inductionHypothesis each.2⟩

/-- The outline of a condition on plain columns with known operators can be read back. -/
theorem valid_outline (condition : Condition)
    (known : ∀ operator ∈ condition.operators, operator.isKnown)
    (plain : ∀ column ∈ condition.references, Reference.Plain column) :
    condition.outline.Valid := by
  have compared : ∀ {operator : Operator}, operator.isKnown → ∀ ending ∈
      [Ending.compared operator.folded, .called operator.folded], ending ∈ Ending.table := by
    intro operator isKnown ending member
    apply List.mem_append_left
    apply List.mem_append_left
    exact List.mem_flatMap.mpr ⟨_, Operator.folded_mem_foldedOperators isKnown, member⟩
  have flagged : ∀ negated, ∀ ending ∈
      [Ending.between negated, .among negated, .null negated], ending ∈ Ending.table := by
    intro negated
    cases negated <;> decide
  induction condition using Condition.induction with
  | compare column operator value =>
    rw [references, List.forall_mem_singleton] at plain
    rw [operators, List.forall_mem_singleton] at known
    exact ⟨plain.noBacktick, compared known _ (by simp [Test.ending])⟩
  | group frame conditions members =>
    rw [references, allReferences_eq_flatMap] at plain
    rw [operators, allOperators_eq_flatMap] at known
    rw [outline, Outline.Valid]
    refine ⟨Outline.forgetFirst_forgetFirst _,
      Outline.allValid_forgetFirst (allValid_outlineParts ?_)⟩
    intro member isMember
    exact members member isMember
      (fun operator writes => known operator (List.mem_flatMap.mpr ⟨member, isMember, writes⟩))
      (fun column mentions => plain column (List.mem_flatMap.mpr ⟨member, isMember, mentions⟩))
  | between column negated =>
    rw [references, List.forall_mem_singleton] at plain
    exact ⟨plain.noBacktick, flagged negated _ (by simp [Test.ending])⟩
  | among column values negated =>
    rw [references, List.forall_mem_singleton] at plain
    rw [outline]
    split
    · trivial
    · exact ⟨plain.noBacktick, flagged negated _ (by simp [Test.ending])⟩
  | null column negated =>
    rw [references, List.forall_mem_singleton] at plain
    exact ⟨plain.noBacktick, flagged negated _ (by simp [Test.ending])⟩
  | datePart unit column operator value =>
    rw [references, List.forall_mem_singleton] at plain
    rw [operators, List.forall_mem_singleton] at known
    exact ⟨plain.noBacktick, compared known _ (by simp [Test.ending])⟩
  | jsonContains column value negated =>
    rw [references, List.forall_mem_singleton] at plain
    exact ⟨plain.noBacktick, (by decide : Ending.contained ∈ Ending.table)⟩
  | jsonLength column operator value =>
    rw [references, List.forall_mem_singleton] at plain
    rw [operators, List.forall_mem_singleton] at known
    exact ⟨plain.noBacktick, compared known _ (by simp [Test.ending])⟩

end Condition

namespace Sql

/-- Where conditions on plain columns are written as their outlines. -/
theorem text_conditions {dialect : Dialect} {list : List (Connector × Condition)}
    (plain : ∀ column ∈ Condition.allReferences list, Reference.Plain column) :
    (conditions dialect list).text = Outline.texts dialect (Condition.outlines list) := by
  rw [Condition.allReferences_eq_flatMap] at plain
  rw [conditions, Condition.outlines, Outline.texts_forgetFirst]
  apply Condition.text_chain
  intro member isMember
  apply Condition.text_condition
  exact fun column mentions => plain column (List.mem_flatMap.mpr ⟨member, isMember, mentions⟩)

theorem allValid_outlines {list : List (Connector × Condition)}
    (known : ∀ operator ∈ Condition.allOperators list, operator.isKnown)
    (plain : ∀ column ∈ Condition.allReferences list, Reference.Plain column) :
    Outline.AllValid (Condition.outlines list) := by
  rw [Condition.allReferences_eq_flatMap] at plain
  rw [Condition.allOperators_eq_flatMap] at known
  apply Outline.allValid_forgetFirst
  apply Condition.allValid_outlineParts
  intro member isMember
  apply Condition.valid_outline
  · exact fun operator writes => known operator (List.mem_flatMap.mpr ⟨member, isMember, writes⟩)
  · exact fun column mentions => plain column (List.mem_flatMap.mpr ⟨member, isMember, mentions⟩)

/-- Two lists of conditions have the same text exactly if they have the same outline. -/
theorem text_conditions_eq_iff {dialect : Dialect} {first second : List (Connector × Condition)}
    (knownFirst : ∀ operator ∈ Condition.allOperators first, operator.isKnown)
    (knownSecond : ∀ operator ∈ Condition.allOperators second, operator.isKnown)
    (plainFirst : ∀ column ∈ Condition.allReferences first, Reference.Plain column)
    (plainSecond : ∀ column ∈ Condition.allReferences second, Reference.Plain column) :
    (conditions dialect first).text = (conditions dialect second).text ↔
      Condition.outlines first = Condition.outlines second := by
  rw [text_conditions plainFirst, text_conditions plainSecond]
  constructor
  · intro same
    have validFirst := allValid_outlines knownFirst plainFirst
    have validSecond := allValid_outlines knownSecond plainSecond
    have ends : Outline.Closes [] := by simp [Outline.Closes]
    obtain ⟨lists, -⟩ :=
      Outline.texts_append_inj validFirst validSecond ends ends (congrArg (· ++ []) same)
    rwa [Condition.outlines, Condition.outlines, Outline.forgetFirst_forgetFirst,
      Outline.forgetFirst_forgetFirst] at lists
  · intro same
    rw [same]

/-- Conditions that differ in all that their text cannot tell. -/
theorem text_conditions_eq_iff_folded :
    let first : List (Connector × Condition) :=
      [(.or, .compare "users.age" .ilike (.text "a%")),
        (.or, .group Frame.empty [(.or, .among "t" .none true), (.and, .between "is ? and" true)])]
    let second : List (Connector × Condition) :=
      [(.and, .compare "users.age" .like .null),
        (.or, .group Frame.empty [(.and, .among "*" .none true), (.and, .between "is ? and" true)])]
    let third : List (Connector × Condition) :=
      [(.and, .compare "users.age" .like .null),
        (.or, .group Frame.empty [(.and, .among "*" .none true), (.or, .between "is ? and" true)])]
    (conditions .sqlite first).text = (conditions .sqlite second).text ∧
      (conditions .sqlite second).text ≠ (conditions .sqlite third).text := by
  constructor
  · exact (text_conditions_eq_iff (by decide) (by decide) (by decide +kernel)
      (by decide +kernel)).mpr rfl
  · intro same
    have outlines := (text_conditions_eq_iff (by decide) (by decide) (by decide +kernel)
      (by decide +kernel)).mp same
    cases outlines

end Sql

end FluentSql
