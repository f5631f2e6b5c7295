import FluentSql.Proofs.PathLiteral
import FluentSql.Proofs.Provenance.Statement

/-!
# Statements without question marks

The grammar writes question marks for placeholders only. If no reference of a query has a
question mark, no text piece of its statement has one: `Query.unmarked_compile`.
-/

namespace FluentSql

namespace Sql

theorem mem_of_mem_intercalate {char : Char} {mark : List Char} :
    ∀ {texts : List (List Char)}, char ∈ List.intercalate mark texts →
      char ∈ mark ∨ ∃ text ∈ texts, char ∈ text
  | [], member => by simp [List.intercalate] at member
  | [only], member => .inr ⟨only, List.mem_cons_self, by simpa [List.intercalate] using member⟩
  | first :: second :: rest, member => by
    rw [List.intercalate_cons_cons, List.append_assoc] at member
    rcases List.mem_append.mp member with inFirst | member
    · exact .inr ⟨first, List.mem_cons_self, inFirst⟩
    · rcases List.mem_append.mp member with inMark | later
      · exact .inl inMark
      · rcases mem_of_mem_intercalate later with inMark | ⟨text, isText, inText⟩
        · exact .inl inMark
        · exact .inr ⟨text, List.mem_cons_of_mem _ isText, inText⟩

theorem unmarked_quoteIdentifier {name : List Char} (unmarked : '?' ∉ name) :
    '?' ∉ quoteIdentifier name := by
  unfold quoteIdentifier
  split
  · exact unmarked
  · simpa [dropBackticks] using unmarked

theorem unmarked_quoteDotted {name : List Char} (unmarked : '?' ∉ name) :
    '?' ∉ quoteDotted name := by
  intro member
  rcases mem_of_mem_intercalate member with inMark | ⟨text, isText, inText⟩
  · exact absurd inMark (by decide)
  · obtain ⟨segment, isSegment, rfl⟩ := List.mem_map.mp isText
    have inSegment : '?' ∉ segment := fun member =>
      unmarked (Text.mem_of_mem_segments isSegment member)
    exact unmarked_quoteIdentifier inSegment inText

theorem unmarked_pathLiteral {path : List Char} (unmarked : '?' ∉ path) :
    '?' ∉ pathLiteral path := by
  have inside : '?' ∉ keyed (escapeQuotes path) := by
    rwa [mem_keyed (by decide), escapeQuotes, mem_escapeQuotesAfter (by decide)]
  simp [pathLiteral_eq, inside]

namespace Expression

theorem unmarked_extract {dialect : Dialect} {unquoted : Bool} {field path : List Char}
    (inField : '?' ∉ field) (inPath : '?' ∉ path) :
    '?' ∉ extract dialect unquoted field path := by
  have opening : '?' ∉ "json_extract(".toList := by decide
  have comma : '?' ∉ ", ".toList := by decide
  have unquoting : '?' ∉ "json_unquote(".toList := by decide
  have extracted : '?' ∉ "json_extract(".toList ++ field ++ ", ".toList ++ path ++ [')'] := by
    simp only [List.mem_append, opening, inField, comma, inPath, or_self, false_or]
    decide
  cases dialect with
  | sqlite => exact extracted
  | mysql =>
    cases unquoted with
    | false => exact extracted
    | true =>
      change '?' ∉ "json_unquote(".toList ++
        ("json_extract(".toList ++ field ++ ", ".toList ++ path ++ [')']) ++ [')']
      rw [List.mem_append, List.mem_append]
      simp only [unquoting, extracted, or_self, false_or]
      decide

theorem unmarked_render {dialect : Dialect} {text : List Char} (unmarked : '?' ∉ text) :
    '?' ∉ (ofText text).render dialect := by
  fun_induction ofText text with
  | case1 text => exact unmarked
  | case2 text _ base name cut inductionHypothesis =>
    have parts := Text.infix_of_cutAlias cut
    have inBase := inductionHypothesis fun member =>
      unmarked (parts.1.subset ((Text.trim_infix base).subset member))
    have inName : '?' ∉ Text.trim name := fun member =>
      unmarked (parts.2.subset ((Text.trim_infix name).subset member))
    have between : '?' ∉ " as ".toList := by decide
    rw [render, List.mem_append, List.mem_append]
    simp only [inBase, between, unmarked_quoteIdentifier inName, or_self, not_false_eq_true]
  | case3 text _ _ function argument cut inductionHypothesis =>
    obtain ⟨isFunction, isArgument, -⟩ := infix_of_cutCall cut
    have inFunction : '?' ∉ function := fun member => unmarked (isFunction.subset member)
    have inArgument := inductionHypothesis fun member => unmarked (isArgument.subset member)
    simp [render, inFunction, inArgument]
  | case4 text _ _ _ unquoted field path cut inductionHypothesis =>
    have parts := infix_of_cutSelector cut
    have inField := inductionHypothesis fun member => unmarked (parts.1.subset member)
    exact unmarked_extract inField
      (unmarked_pathLiteral fun member => unmarked (parts.2.subset member))
  | case5 text => exact unmarked_quoteDotted unmarked

end Expression

theorem unmarked_unquoteSelected {text : List Char} (unmarked : '?' ∉ text) :
    '?' ∉ unquoteSelected text := by
  unfold unquoteSelected
  split
  · exact unmarked
  · split
    · rename_i field path found
      have parts := Text.infix_of_cutFirst found
      have inField : '?' ∉ field := fun member => unmarked (parts.1.subset member)
      have inPath : '?' ∉ path := fun member => unmarked (parts.2.subset member)
      simp [inField, inPath, unquotingArrow]
    · exact unmarked

theorem unmarked_field {dialect : Dialect} {text : List Char} (unmarked : '?' ∉ text) :
    '?' ∉ (JsonPlace.ofText text).field.render dialect := by
  unfold JsonPlace.ofText
  split
  · rename_i field path found
    have isField := (Text.infix_of_cutFirst found).1
    exact Expression.unmarked_render fun member => unmarked (isField.subset member)
  · exact Expression.unmarked_render unmarked

theorem unmarked_pathArgument {text : List Char} (unmarked : '?' ∉ text) :
    '?' ∉ (JsonPlace.ofText text).pathArgument := by
  unfold JsonPlace.ofText
  split
  · rename_i field path found
    have isPath := (Text.infix_of_cutFirst found).2
    have inPath := unmarked_pathLiteral fun member => unmarked (isPath.subset member)
    have comma : '?' ∉ ", ".toList := by decide
    rw [JsonPlace.pathArgument, List.mem_append]
    simp only [comma, inPath, or_self, not_false_eq_true]
  · simp [JsonPlace.pathArgument]

theorem unmarked_alias {reference : Reference} {name : List Char}
    (named : reference.alias? = some name) (unmarked : '?' ∉ reference.toList) :
    '?' ∉ Text.trim name := by
  obtain ⟨⟨base, _⟩, cut, rfl⟩ := Option.map_eq_some_iff.mp named
  exact fun member => unmarked
    ((Text.infix_of_cutAlias cut).2.subset ((Text.trim_infix _).subset member))

/-- What a piece was written for has the only question marks that it can have. -/
theorem Origin.unmarked {dialect : Dialect} {references : List Reference}
    {operators : List Operator} {chars : List Char}
    (origin : Origin dialect references operators chars)
    (unmarked : ∀ reference ∈ references, '?' ∉ reference.toList)
    (writable : ∀ operator ∈ operators, '?' ∉ operator.text.toList) : '?' ∉ chars := by
  cases origin with
  | own member =>
    have all : ∀ text ∈ ownTexts dialect, '?' ∉ text.toList := by
      cases dialect <;> decide +kernel
    exact all _ member
  | operator member => exact writable _ member
  | number value =>
    intro member
    have isDigit := Nat.isDigit_of_mem_toDigits (by decide) (by decide) member
    exact absurd isDigit (by decide)
  | reference member => exact Expression.unmarked_render (unmarked _ member)
  | selected member =>
    exact Expression.unmarked_render (unmarked_unquoteSelected (unmarked _ member))
  | aliasName member named =>
    exact unmarked_quoteIdentifier (unmarked_alias named (unmarked _ member))
  | field member => exact unmarked_field (unmarked _ member)
  | path member => exact unmarked_pathArgument (unmarked _ member)

end Sql

end FluentSql
