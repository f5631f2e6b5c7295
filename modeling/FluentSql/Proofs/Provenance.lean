import FluentSql.Proofs.Occurrence
import FluentSql.Sql.Statement

/-!
# Where the texts of a statement come from

Every text piece of a compiled statement is one of the grammar's own texts, the text of
an operator of the query, a number, or was written for one of the query's references.
`traced_compile` says so for every kind of statement; a property of all pieces of a
statement then needs one argument for each constructor of `Origin` and no further look
at the clauses.
-/

namespace FluentSql

mutual

/-- The references that a constraint holds, in order. -/
def Constraint.references : Constraint → List Reference
  | .columns first _ second => [first, second]
  | .value column _ => [column]
  | .among column _ _ => [column]
  | .null column _ => [column]
  | .group constraints => Constraint.allReferences constraints

/-- The references that some constraints hold, in order. -/
def Constraint.allReferences : List (Connector × Constraint) → List Reference
  | [] => []
  | (_, first) :: rest => first.references ++ Constraint.allReferences rest

end

mutual

/-- The references that a condition holds, in order. The frame of a group is not written,
so its references do not count. -/
def Condition.references : Condition → List Reference
  | .compare column _ _ => [column]
  | .group _ conditions => Condition.allReferences conditions
  | .between column _ => [column]
  | .among column _ _ => [column]
  | .null column _ => [column]
  | .datePart _ column _ _ => [column]
  | .jsonContains column _ _ => [column]
  | .jsonLength column _ _ => [column]

/-- The references that some conditions hold, in order. -/
def Condition.allReferences : List (Connector × Condition) → List Reference
  | [] => []
  | (_, first) :: rest => first.references ++ Condition.allReferences rest

end

theorem Constraint.allReferences_eq_flatMap (list : List (Connector × Constraint)) :
    allReferences list = list.flatMap fun part => part.2.references := by
  induction list with
  | nil => simp [allReferences]
  | cons part rest inductionHypothesis => simp [allReferences, inductionHypothesis]

theorem Condition.allReferences_eq_flatMap (list : List (Connector × Condition)) :
    allReferences list = list.flatMap fun part => part.2.references := by
  induction list with
  | nil => simp [allReferences]
  | cons part rest inductionHypothesis => simp [allReferences, inductionHypothesis]

/-- The references that a join holds: its table and those of its constraints. -/
def Join.references (join : Join) : List Reference :=
  join.table :: Constraint.allReferences join.constraints

/-- The references that a query holds: columns, tables, and the keys of rows and
assignments. -/
def Query.references (query : Query) : List Reference :=
  query.columns.toList ++ query.table?.toList ++ query.joins.flatMap Join.references ++
    Condition.allReferences query.conditions ++ query.groups.toList ++
    query.orders.map Ordering.column ++ query.rows.flatMap Dictionary.keys ++
    query.updates.keys ++ query.aggregate?.toList.flatMap fun aggregate => aggregate.columns.toList

namespace Sql

open Fragment

/-- The texts of both dialects at whose end no word is being written. -/
def sharedClosedTexts : List String :=
  [" ", ", ", "(", ")", "*", " in (", " not in (", " between ", " not between ", " and ", "not ",
   " on ", "select ", "select distinct ", "distinct ", " from ", " where ", " group by ",
   " order by ", " limit ", " offset ", "insert into ", " (", ") values ", "update ", " set ",
   " = json_set(", " = ", "delete ", "delete from "]

/-- The texts of both dialects that end in a word. -/
def sharedWordTexts : List String :=
  ["and", "or", "0 = 1", "1 = 1", " is null", " is not null", "date", "day", "month", "year",
   "time", "count", "sum", "min", "max", "avg", "inner join", "left join", "right join",
   ") as aggregate", "asc", "desc"]

/-- The grammar's own texts at whose end no word is being written. -/
def closedTexts : Dialect → List String
  | .mysql => sharedClosedTexts ++ ["json_contains(", "json_length("]
  | .sqlite => sharedClosedTexts ++
      ["exists (select 1 from json_each(", ") where json_each.value = json_extract(", ", '$'))",
       "json_array_length("]

/-- The grammar's own texts that end in a word. -/
def wordTexts : Dialect → List String
  | .mysql => sharedWordTexts ++ [" for update", " lock in share mode"]
  | .sqlite => sharedWordTexts

/-- The grammar's own texts in a dialect. -/
def ownTexts (dialect : Dialect) : List String := closedTexts dialect ++ wordTexts dialect

/-- Where a text piece comes from, for the references and operators of a query. -/
inductive Origin (dialect : Dialect) (references : List Reference) (operators : List Operator) :
    List Char → Prop where
  | own {text : String} (member : text ∈ ownTexts dialect) :
      Origin dialect references operators text.toList
  | operator {operator : Operator} (member : operator ∈ operators) :
      Origin dialect references operators operator.text.toList
  | number (value : Nat) : Origin dialect references operators (Number.digits value)
  | reference {reference : Reference} (member : reference ∈ references) :
      Origin dialect references operators (wrap dialect reference.toList)
  /-- A column of a select list. -/
  | selected {reference : Reference} (member : reference ∈ references) :
      Origin dialect references operators (wrap dialect (unquoteSelected reference.toList))
  /-- The alias of a table that a delete with joins calls by its alias. -/
  | aliasName {reference : Reference} (member : reference ∈ references) {name : List Char}
      (named : reference.alias? = some name) :
      Origin dialect references operators (quoteIdentifier (Text.trim name))
  | field {reference : Reference} (member : reference ∈ references) :
      Origin dialect references operators
        ((JsonPlace.ofText reference.toList).field.render dialect)
  | path {reference : Reference} (member : reference ∈ references) :
      Origin dialect references operators (JsonPlace.ofText reference.toList).pathArgument

/-- Every text piece of a fragment has an origin. -/
def Traced (dialect : Dialect) (references : List Reference) (operators : List Operator)
    (fragment : Fragment) : Prop :=
  ∀ chars, .text chars ∈ fragment → Origin dialect references operators chars

section Traced

variable {dialect : Dialect} {references : List Reference} {operators : List Operator}

@[simp] theorem traced_nil : Traced dialect references operators [] := by
  intro chars member
  cases member

@[simp] theorem traced_append {first second : Fragment} :
    Traced dialect references operators (first ++ second) ↔
      Traced dialect references operators first ∧ Traced dialect references operators second := by
  constructor
  · intro traced
    exact ⟨fun chars member => traced chars (List.mem_append_left _ member),
      fun chars member => traced chars (List.mem_append_right _ member)⟩
  · rintro ⟨first, second⟩ chars member
    rcases List.mem_append.mp member with left | right
    · exact first chars left
    · exact second chars right

@[simp] theorem traced_placeholder : Traced dialect references operators placeholder := by
  intro chars member
  simp [placeholder] at member

theorem traced_text {chars : List Char} (origin : Origin dialect references operators chars) :
    Traced dialect references operators [.text chars] := by
  intro other member
  obtain rfl : other = chars := by simpa using member
  exact origin

theorem traced_fixed {text : String} (member : text ∈ ownTexts dialect) :
    Traced dialect references operators (fixed text) :=
  traced_text (.own member)

/-- The texts of both dialects are own texts of either. -/
theorem traced_shared {text : String}
    (member : text ∈ sharedClosedTexts ++ sharedWordTexts) :
    Traced dialect references operators (fixed text) := by
  refine traced_fixed ?_
  rw [ownTexts]
  rcases List.mem_append.mp member with closed | word
  · cases dialect <;> exact List.mem_append_left _ (List.mem_append_left _ closed)
  · cases dialect
    · exact List.mem_append_right _ (List.mem_append_left _ word)
    · exact List.mem_append_right _ word

theorem traced_separated {separator : String}
    (shared : separator ∈ sharedClosedTexts ++ sharedWordTexts) :
    ∀ {fragments : List Fragment},
      (∀ fragment ∈ fragments, Traced dialect references operators fragment) →
      Traced dialect references operators (separated separator fragments)
  | [], _ => by simp [separated, List.intercalate]
  | [only], traced => by simpa [separated, List.intercalate] using traced
  | first :: second :: rest, traced => by
    have later : Traced dialect references operators (separated separator (second :: rest)) :=
      traced_separated shared fun fragment member =>
        traced fragment (List.mem_cons_of_mem _ member)
    have whole : separated separator (first :: second :: rest) =
        first ++ (fixed separator ++ separated separator (second :: rest)) := by
      simp [separated, List.intercalate]
    rw [whole]
    simp only [traced_append]
    exact ⟨traced first List.mem_cons_self, traced_shared shared, later⟩

theorem traced_placeholderList (count : Nat) :
    Traced dialect references operators (placeholderList count) := by
  apply traced_separated (by decide)
  intro fragment member
  rw [List.eq_of_mem_replicate member]
  exact traced_placeholder

theorem traced_parenthesized {fragment : Fragment}
    (traced : Traced dialect references operators fragment) :
    Traced dialect references operators (parenthesized fragment) := by
  simp only [parenthesized, traced_append]
  exact ⟨⟨traced_shared (by decide), traced⟩, traced_shared (by decide)⟩

theorem traced_chain {parts : List (Connector × Fragment)}
    (traced : ∀ part ∈ parts, Traced dialect references operators part.2) :
    Traced dialect references operators (chain parts) := by
  cases parts with
  | nil => exact traced_nil
  | cons first rest =>
    simp only [chain, traced_append]
    refine ⟨traced first List.mem_cons_self, fun chars member => ?_⟩
    obtain ⟨part, isPart, member⟩ := List.mem_flatMap.mp member
    have keyword : Traced dialect references operators (fixed part.1.keyword) := by
      cases part.1 <;> exact traced_shared (by decide)
    have blank : Traced dialect references operators (fixed " ") := traced_shared (by decide)
    have whole : Traced dialect references operators
        (fixed " " ++ fixed part.1.keyword ++ fixed " " ++ part.2) := by
      simp only [traced_append]
      exact ⟨⟨⟨blank, keyword⟩, blank⟩, traced part (List.mem_cons_of_mem _ isPart)⟩
    exact whole chars member

theorem traced_reference {column : Reference} (member : column ∈ references) :
    Traced dialect references operators (reference dialect column) :=
  traced_text (.reference member)

theorem traced_infixed {operator : Operator} (member : operator ∈ operators) :
    Traced dialect references operators (infixed operator) := by
  simp only [infixed, traced_append]
  exact ⟨⟨traced_shared (by decide), traced_text (.operator member)⟩, traced_shared (by decide)⟩

theorem traced_among {column : Reference} (member : column ∈ references) (count : Nat)
    (negated : Bool) :
    Traced dialect references operators (among dialect column count negated) := by
  unfold among
  split
  · cases negated <;> exact traced_shared (by decide)
  · simp only [traced_append]
    refine ⟨⟨⟨traced_reference member, ?_⟩, traced_placeholderList count⟩,
      traced_shared (by decide)⟩
    cases negated <;> exact traced_shared (by decide)

theorem traced_null {column : Reference} (member : column ∈ references) (negated : Bool) :
    Traced dialect references operators (null dialect column negated) := by
  simp only [null, traced_append]
  refine ⟨traced_reference member, ?_⟩
  cases negated <;> exact traced_shared (by decide)

theorem traced_placeField {column : Reference} (member : column ∈ references) :
    Traced dialect references operators (placeField dialect (.ofText column.toList)) :=
  traced_text (.field member)

theorem traced_placePath {column : Reference} (member : column ∈ references) :
    Traced dialect references operators (placePath (.ofText column.toList)) :=
  traced_text (.path member)

theorem traced_jsonContains {column : Reference} (member : column ∈ references)
    (negated : Bool) :
    Traced dialect references operators (jsonContains dialect column negated) := by
  have field : Traced dialect references operators
      (placeField dialect (.ofText column.toList)) := traced_placeField member
  have path : Traced dialect references operators (placePath (.ofText column.toList)) :=
    traced_placePath member
  simp only [jsonContains, traced_append]
  constructor
  · cases negated
    · exact traced_nil
    · exact traced_shared (by decide)
  · cases dialect
    · simp only [traced_append]
      exact ⟨⟨⟨⟨⟨traced_fixed (by decide), field⟩, traced_shared (by decide)⟩, traced_placeholder⟩,
        path⟩, traced_shared (by decide)⟩
    · simp only [traced_append]
      exact ⟨⟨⟨⟨⟨traced_fixed (by decide), field⟩, path⟩, traced_fixed (by decide)⟩,
        traced_placeholder⟩, traced_fixed (by decide)⟩

theorem traced_jsonLength {column : Reference} (member : column ∈ references)
    {operator : Operator} (isOperator : operator ∈ operators) :
    Traced dialect references operators (jsonLength dialect column operator) := by
  have function : Traced dialect references operators (fixed (jsonLengthFunction dialect)) := by
    cases dialect <;> exact traced_fixed (by decide)
  simp only [jsonLength, traced_append]
  exact ⟨⟨⟨⟨⟨function, traced_placeField member⟩, traced_placePath member⟩,
    traced_shared (by decide)⟩, traced_infixed isOperator⟩, traced_placeholder⟩

theorem traced_constraint (clause : Constraint) (held : clause.references ⊆ references)
    (used : clause.operators ⊆ operators) :
    Traced dialect references operators (constraint dialect clause) := by
  induction clause using Constraint.induction with
  | columns first operator second =>
    simp only [constraint, traced_append]
    exact ⟨⟨traced_reference (held (by simp [Constraint.references])),
      traced_infixed (used (by simp [Constraint.operators]))⟩,
      traced_reference (held (by simp [Constraint.references]))⟩
  | value column operator =>
    simp only [constraint, traced_append]
    refine ⟨⟨traced_reference (held (by simp [Constraint.references])),
      traced_infixed (used (by simp [Constraint.operators]))⟩, ?_⟩
    split
    · exact traced_parenthesized traced_placeholder
    · exact traced_placeholder
  | among column values negated =>
    exact traced_among (held (by simp [Constraint.references])) _ negated
  | null column negated => exact traced_null (held (by simp [Constraint.references])) negated
  | group members inductionHypothesis =>
    rw [Constraint.references, Constraint.allReferences_eq_flatMap] at held
    rw [Constraint.operators, Constraint.allOperators_eq_flatMap] at used
    rw [constraint, constraintParts_eq_map]
    refine traced_parenthesized (traced_chain fun part isPart => ?_)
    obtain ⟨member, isMember, rfl⟩ := List.mem_map.mp isPart
    exact inductionHypothesis member isMember
      (fun name isName => held (List.mem_flatMap.mpr ⟨member, isMember, isName⟩))
      (fun operator isOperator => used (List.mem_flatMap.mpr ⟨member, isMember, isOperator⟩))

theorem traced_condition (clause : Condition) (held : clause.references ⊆ references)
    (used : clause.operators ⊆ operators) :
    Traced dialect references operators (condition dialect clause) := by
  induction clause using Condition.induction with
  | compare column operator value =>
    simp only [condition, traced_append]
    exact ⟨⟨traced_reference (held (by simp [Condition.references])),
      traced_infixed (used (by simp [Condition.operators]))⟩, traced_placeholder⟩
  | group frame members inductionHypothesis =>
    rw [Condition.references, Condition.allReferences_eq_flatMap] at held
    rw [Condition.operators, Condition.allOperators_eq_flatMap] at used
    rw [condition, conditionParts_eq_map]
    refine traced_parenthesized (traced_chain fun part isPart => ?_)
    obtain ⟨member, isMember, rfl⟩ := List.mem_map.mp isPart
    exact inductionHypothesis member isMember
      (fun name isName => held (List.mem_flatMap.mpr ⟨member, isMember, isName⟩))
      (fun operator isOperator => used (List.mem_flatMap.mpr ⟨member, isMember, isOperator⟩))
  | between column negated =>
    simp only [condition, traced_append]
    refine ⟨⟨⟨⟨traced_reference (held (by simp [Condition.references])), ?_⟩, traced_placeholder⟩,
      traced_shared (by decide)⟩, traced_placeholder⟩
    cases negated <;> exact traced_shared (by decide)
  | among column values negated =>
    exact traced_among (held (by simp [Condition.references])) _ negated
  | null column negated => exact traced_null (held (by simp [Condition.references])) negated
  | datePart unit column operator value =>
    simp only [condition, traced_append]
    refine ⟨⟨⟨?_, traced_parenthesized (traced_reference (held (by simp [Condition.references])))⟩,
      traced_infixed (used (by simp [Condition.operators]))⟩, traced_placeholder⟩
    cases unit <;> exact traced_shared (by decide)
  | jsonContains column value negated =>
    exact traced_jsonContains (held (by simp [Condition.references])) negated
  | jsonLength column operator value =>
    exact traced_jsonLength (held (by simp [Condition.references]))
      (used (by simp [Condition.operators]))

end Traced

end Sql

end FluentSql
