import FluentSql.Proofs.Places

/-!
# Statements with their values in place

A second way to write clauses: each value stands where a statement has a placeholder.
`Renders` ties a fragment to the values that it asks for and to what is written with these
values in place; it is compatible with appending, so each clause has one lemma. If no text
of a fragment has a question mark, putting the values in the places of the question marks
of the fragment's text gives the same (`Renders.substitute_eq`).
-/

namespace FluentSql.Sql

open Fragment

/-- A character or a value of a statement that has its values in place. -/
inductive Symbol where
  | char (char : Char)
  | value (value : Bind)
deriving DecidableEq

/-- The value of a symbol. -/
def Symbol.value? : Symbol → Option Bind
  | .char _ => none
  | .value bound => some bound

/-- Put values in the places of question marks, from left to right. -/
def substitute : List Char → List Bind → List Symbol
  | [], _ => []
  | char :: rest, [] => .char char :: substitute rest []
  | char :: rest, value :: values =>
    if char = '?' then .value value :: substitute rest values
    else .char char :: substitute rest (value :: values)

theorem substitute_append {front : List Char} (noMark : '?' ∉ front) (rest : List Char)
    (values : List Bind) :
    substitute (front ++ rest) values = front.map .char ++ substitute rest values := by
  induction front with
  | nil => rfl
  | cons char front inductionHypothesis =>
    rw [List.mem_cons, not_or] at noMark
    have different : ¬ char = '?' := fun equal => noMark.1 equal.symm
    have later := inductionHypothesis noMark.2
    cases values with
    | nil => rw [List.cons_append, substitute, later]; rfl
    | cons value values => rw [List.cons_append, substitute, if_neg different, later]; rfl

/-- A fragment asks for some values, and this is what is written with them in place. -/
inductive Renders : Fragment → List Bind → List Symbol → Prop where
  | nil : Renders [] [] []
  | text (chars : List Char) {rest : Fragment} {values : List Bind} {symbols : List Symbol}
      (later : Renders rest values symbols) :
      Renders (.text chars :: rest) values (chars.map .char ++ symbols)
  | placeholder (value : Bind) {rest : Fragment} {values : List Bind} {symbols : List Symbol}
      (later : Renders rest values symbols) :
      Renders (.placeholder :: rest) (value :: values) (.value value :: symbols)

namespace Renders

variable {first second : Fragment} {values more : List Bind} {symbols others : List Symbol}

theorem append (before : Renders first values symbols) (after : Renders second more others) :
    Renders (first ++ second) (values ++ more) (symbols ++ others) := by
  induction before with
  | nil => exact after
  | text chars _ inductionHypothesis =>
    rw [List.append_assoc]
    exact .text chars inductionHypothesis
  | placeholder value _ inductionHypothesis => exact .placeholder value inductionHypothesis

/-- Nothing is asked for before, so the values are those of what follows. -/
theorem append_left (before : Renders first [] symbols) (after : Renders second more others) :
    Renders (first ++ second) more (symbols ++ others) :=
  before.append after

theorem append_right (before : Renders first values symbols) (after : Renders second [] others) :
    Renders (first ++ second) values (symbols ++ others) := by
  simpa using before.append after

/-- Nothing asks for nothing. -/
theorem eq_nil (renders : Renders [] values symbols) : values = [] ∧ symbols = [] := by
  cases renders
  exact ⟨rfl, rfl⟩

/-- The values that are asked for are those that stand in place, in order. -/
theorem values_eq (renders : Renders first values symbols) :
    values = symbols.filterMap Symbol.value? := by
  induction renders with
  | nil => rfl
  | text chars _ inductionHypothesis =>
    have none : (chars.map Symbol.char).filterMap Symbol.value? = [] := by
      simp [Symbol.value?]
    rw [List.filterMap_append, none, inductionHypothesis]
    rfl
  | placeholder value _ inductionHypothesis =>
    have isValue : (Symbol.value value).value? = some value := rfl
    rw [List.filterMap_cons_some isValue, ← inductionHypothesis]

/-- As many values are asked for as there are placeholders. -/
theorem length_eq (renders : Renders first values symbols) :
    values.length = first.placeholders := by
  induction renders with
  | nil => rfl
  | text chars _ inductionHypothesis => simpa [placeholders] using inductionHypothesis
  | placeholder value _ inductionHypothesis => simpa [placeholders] using inductionHypothesis

/-- Without question marks in its texts, a fragment's question marks are its placeholders. -/
theorem substitute_eq (renders : Renders first values symbols)
    (noMark : ∀ chars, .text chars ∈ first → '?' ∉ chars) :
    first.text.count '?' = values.length ∧ substitute first.text values = symbols := by
  induction renders with
  | nil => exact ⟨rfl, rfl⟩
  | text chars _ inductionHypothesis =>
    have absent : '?' ∉ chars := noMark chars List.mem_cons_self
    obtain ⟨counted, substituted⟩ := inductionHypothesis fun other member =>
      noMark other (List.mem_cons_of_mem _ member)
    rw [text_cons, Piece.chars, List.count_append, List.count_eq_zero.mpr absent, counted,
      substitute_append absent, substituted]
    exact ⟨Nat.zero_add _, rfl⟩
  | placeholder value _ inductionHypothesis =>
    obtain ⟨counted, substituted⟩ := inductionHypothesis fun other member =>
      noMark other (List.mem_cons_of_mem _ member)
    rw [text_cons, Piece.chars, List.singleton_append, List.count_cons_self, counted, substitute,
      if_pos rfl, substituted]
    exact ⟨rfl, rfl⟩

end Renders

/-- What is written for a fragment that asks for no value. -/
def plain (fragment : Fragment) : List Symbol := fragment.text.map .char

theorem renders_plain {fragment : Fragment} (noPlaces : fragment.placeholders = 0) :
    Renders fragment [] (plain fragment) := by
  induction fragment with
  | nil => exact .nil
  | cons piece rest inductionHypothesis =>
    cases piece with
    | text chars =>
      have later := inductionHypothesis (by simpa [placeholders] using noPlaces)
      rw [plain, text_cons, List.map_append]
      exact .text chars later
    | placeholder => simp [placeholders] at noPlaces

theorem renders_placeholder (value : Bind) : Renders placeholder [value] [.value value] :=
  .placeholder value .nil

/-- Conditions, the values they ask for together, and what is written for each. -/
inductive PartsRender :
    List (Connector × Fragment) → List Bind → List (Connector × List Symbol) → Prop where
  | nil : PartsRender [] [] []
  | cons (connector : Connector) {fragment : Fragment} {values more : List Bind}
      {symbols : List Symbol} {parts : List (Connector × Fragment)}
      {inlined : List (Connector × List Symbol)} (first : Renders fragment values symbols)
      (rest : PartsRender parts more inlined) :
      PartsRender ((connector, fragment) :: parts) (values ++ more)
        ((connector, symbols) :: inlined)

/-- Parts with connectors between them; the first connector is left out. -/
def inlineChain : List (Connector × List Symbol) → List Symbol
  | [] => []
  | (_, first) :: rest =>
    first ++ rest.flatMap fun part =>
      plain (fixed " " ++ fixed part.1.keyword ++ fixed " ") ++ part.2

/-- What is written in parentheses. -/
def inlineParenthesized (symbols : List Symbol) : List Symbol :=
  plain (fixed "(") ++ symbols ++ plain (fixed ")")

/-- Values with commas between them. -/
def inlineList (values : List Bind) : List Symbol :=
  List.intercalate (plain (fixed ", ")) (values.map fun value => [.value value])

namespace PartsRender

variable {parts laterParts : List (Connector × Fragment)} {values more : List Bind}
  {inlined laterInlined : List (Connector × List Symbol)}

theorem append (before : PartsRender parts values inlined)
    (after : PartsRender laterParts more laterInlined) :
    PartsRender (parts ++ laterParts) (values ++ more) (inlined ++ laterInlined) := by
  induction before with
  | nil => exact after
  | cons connector first _ inductionHypothesis =>
    rw [List.append_assoc]
    exact .cons connector first inductionHypothesis

theorem single (connector : Connector) {fragment : Fragment} {symbols : List Symbol}
    (renders : Renders fragment values symbols) :
    PartsRender [(connector, fragment)] values [(connector, symbols)] := by
  simpa using PartsRender.cons connector renders .nil

/-- There are as many parts on both sides. -/
theorem isEmpty_eq (render : PartsRender parts values inlined) :
    parts.isEmpty = inlined.isEmpty := by
  cases render <;> rfl

theorem values_eq_nil (render : PartsRender parts values []) : values = [] := by
  cases render
  rfl

theorem eq_nil (render : PartsRender [] values inlined) : values = [] ∧ inlined = [] := by
  cases render
  exact ⟨rfl, rfl⟩

theorem chain (render : PartsRender parts values inlined) :
    Renders (Sql.chain parts) values (inlineChain inlined) := by
  cases render with
  | nil => exact .nil
  | cons connector first rest =>
    refine first.append ?_
    induction rest with
    | nil => exact .nil
    | cons connector first _ inductionHypothesis =>
      rw [List.flatMap_cons, List.flatMap_cons]
      exact ((renders_plain rfl).append_left first).append inductionHypothesis

end PartsRender

theorem renders_parenthesized {fragment : Fragment} {values : List Bind} {symbols : List Symbol}
    (renders : Renders fragment values symbols) :
    Renders (parenthesized fragment) values (inlineParenthesized symbols) :=
  ((renders_plain rfl).append_left renders).append_right (renders_plain rfl)

/-- Items with a separator between them ask for the values of each in turn. -/
theorem renders_separated {α : Type} (separator : String) {write : α → Fragment}
    {values : α → List Bind} {inline : α → List Symbol} :
    ∀ {items : List α}, (∀ item ∈ items, Renders (write item) (values item) (inline item)) →
      Renders (separated separator (items.map write)) (items.flatMap values)
        (List.intercalate (plain (fixed separator)) (items.map inline))
  | [], _ => .nil
  | [only], each => by
    simpa [separated, List.intercalate] using each only List.mem_cons_self
  | first :: second :: rest, each => by
    have later : Renders (separated separator ((second :: rest).map write))
        ((second :: rest).flatMap values)
        (List.intercalate (plain (fixed separator)) ((second :: rest).map inline)) :=
      renders_separated separator fun item member => each item (List.mem_cons_of_mem _ member)
    have whole : separated separator ((first :: second :: rest).map write) =
        write first ++ fixed separator ++ separated separator ((second :: rest).map write) := by
      simp [separated, List.intercalate]
    have inlined : List.intercalate (plain (fixed separator))
          ((first :: second :: rest).map inline) =
        inline first ++ plain (fixed separator) ++
          List.intercalate (plain (fixed separator)) ((second :: rest).map inline) := by
      simp [List.intercalate]
    rw [whole, inlined, List.flatMap_cons]
    exact ((each first List.mem_cons_self).append_right (renders_plain rfl)).append later

theorem renders_placeholderList (values : List Bind) :
    Renders (placeholderList values.length) values (inlineList values) := by
  have each : Renders (separated ", " (values.map fun _ => placeholder))
      (values.flatMap fun value => [value]) (inlineList values) :=
    renders_separated ", " fun value _ => renders_placeholder value
  simpa [placeholderList, List.map_const'] using each

section Clauses

variable (dialect : Dialect)

/-- A column compared with a value. -/
def inlineCompare (column : Reference) (operator : Operator) (value : Bind) : List Symbol :=
  plain (reference dialect column ++ infixed operator) ++ [.value value]

/-- A column of a join compared with a value; after an operator for lists it has parentheses. -/
def inlineJoinValue (column : Reference) (operator : Operator) (value : Bind) : List Symbol :=
  plain (reference dialect column ++ infixed operator) ++
    if operator.isList then inlineParenthesized [.value value] else [.value value]

/-- A column among some values. -/
def inlineAmong (column : Reference) (values : List Bind) (negated : Bool) : List Symbol :=
  if values.isEmpty then plain (fixed (if negated then "1 = 1" else "0 = 1"))
  else plain (reference dialect column ++ fixed (if negated then " not in (" else " in (")) ++
    inlineList values ++ plain (fixed ")")

/-- A column between two values. -/
def inlineBetween (column : Reference) (low high : Bind) (negated : Bool) : List Symbol :=
  plain (reference dialect column ++ fixed (if negated then " not between " else " between ")) ++
    [.value low] ++ plain (fixed " and ") ++ [.value high]

/-- A part of a date or time compared with a value. -/
def inlineDatePart (unit : DateUnit) (column : Reference) (operator : Operator) (value : Bind) :
    List Symbol :=
  plain (fixed unit.function ++ parenthesized (reference dialect column) ++ infixed operator) ++
    [.value value]

/-- A JSON column that contains a value. -/
def inlineJsonContains (column : Reference) (value : Bind) (negated : Bool) : List Symbol :=
  let place := JsonPlace.ofText column.toList
  let field := placeField dialect place
  plain (if negated then fixed "not " else []) ++
  match dialect with
  | .mysql =>
    plain (fixed "json_contains(" ++ field ++ fixed ", ") ++ [.value value] ++
      plain (placePath place ++ fixed ")")
  | .sqlite =>
    plain (fixed "exists (select 1 from json_each(" ++ field ++ placePath place ++
      fixed ") where json_each.value = json_extract(") ++ [.value value] ++ plain (fixed ", '$'))")

/-- The length of a JSON column compared with a value. -/
def inlineJsonLength (column : Reference) (operator : Operator) (value : Bind) : List Symbol :=
  let place := JsonPlace.ofText column.toList
  plain (fixed (jsonLengthFunction dialect) ++ placeField dialect place ++ placePath place ++
    fixed ")" ++ infixed operator) ++ [.value value]

/-- The assignment of a value. -/
def inlineAssignment (column : Reference) (value : Bind) : List Symbol :=
  if Text.contains arrow column.toList then
    let place := JsonPlace.ofText column.toList
    plain (placeField dialect place ++ fixed " = json_set(" ++ placeField dialect place ++
      placePath place ++ fixed ", ") ++ [.value value] ++ plain (fixed ")")
  else plain (reference dialect column ++ fixed " = ") ++ [.value value]

variable {dialect}

theorem renders_compare (column : Reference) (operator : Operator) (value : Bind) :
    Renders (condition dialect (.compare column operator value)) [value]
      (inlineCompare dialect column operator value) :=
  (renders_plain rfl).append_left (renders_placeholder value)

theorem renders_joinValue (column : Reference) (operator : Operator) (value : Bind) :
    Renders (constraint dialect (.value column operator)) [value]
      (inlineJoinValue dialect column operator value) := by
  refine (renders_plain rfl).append_left ?_
  split
  · exact renders_parenthesized (renders_placeholder value)
  · exact renders_placeholder value

theorem renders_among (column : Reference) (values : Items Bind) (negated : Bool) :
    Renders (among dialect column values.size negated) values.toList
      (inlineAmong dialect column values.toList negated) := by
  rw [Items.size_eq]
  cases values.toList with
  | nil => exact renders_plain rfl
  | cons first rest =>
    exact ((renders_plain rfl).append_left (renders_placeholderList (first :: rest))).append_right
      (renders_plain rfl)

theorem renders_between (column : Reference) (low high : Bind) (negated : Bool) :
    Renders (condition dialect (.between column negated)) [low, high]
      (inlineBetween dialect column low high negated) :=
  (((renders_plain rfl).append_left (renders_placeholder low)).append_right
    (renders_plain rfl)).append (renders_placeholder high)

theorem renders_datePart (unit : DateUnit) (column : Reference) (operator : Operator)
    (value : Bind) :
    Renders (condition dialect (.datePart unit column operator value)) [value]
      (inlineDatePart dialect unit column operator value) :=
  (renders_plain rfl).append_left (renders_placeholder value)

theorem renders_jsonContains (column : Reference) (value : Bind) (negated : Bool) :
    Renders (condition dialect (.jsonContains column value negated)) [value]
      (inlineJsonContains dialect column value negated) := by
  have negation : placeholders (if negated then fixed "not " else []) = 0 := by
    cases negated <;> rfl
  refine (renders_plain negation).append_left ?_
  cases dialect with
  | mysql =>
    have before : Renders (fixed "json_contains(" ++
        placeField .mysql (.ofText column.toList) ++ fixed ", ") [] _ := renders_plain rfl
    have after : Renders (placePath (.ofText column.toList) ++ fixed ")") [] _ := renders_plain rfl
    have inner := (before.append_left (renders_placeholder value)).append_right after
    simpa only [List.append_assoc] using inner
  | sqlite =>
    exact ((renders_plain rfl).append_left (renders_placeholder value)).append_right
      (renders_plain rfl)

theorem renders_jsonLength (column : Reference) (operator : Operator) (value : Bind) :
    Renders (condition dialect (.jsonLength column operator value)) [value]
      (inlineJsonLength dialect column operator value) :=
  (renders_plain rfl).append_left (renders_placeholder value)

theorem renders_assignment (column : Reference) (value : Bind) :
    Renders (assignment dialect column) [value] (inlineAssignment dialect column value) := by
  unfold assignment inlineAssignment
  split
  · exact ((renders_plain rfl).append_left (renders_placeholder value)).append_right
      (renders_plain rfl)
  · exact (renders_plain rfl).append_left (renders_placeholder value)

/-- An insert asks for the values of its rows in turn, whatever values these are, if there are
as many for each row as the first one has. -/
theorem renders_rows (table : Reference) {first : Row} {rows : List Row} {values : Row → List Bind}
    (sizes : ∀ row ∈ rows, (values row).length = first.size) :
    Renders (insert dialect table first rows) (rows.flatMap values)
      (plain (fixed "insert into " ++ reference dialect table ++ fixed " (" ++
          columnList dialect first.keys ++ fixed ") values ") ++
        List.intercalate (plain (fixed ", "))
          (rows.map fun row => inlineParenthesized (inlineList (values row)))) := by
  have each : ∀ row ∈ rows, Renders (parenthesized (placeholderList first.size)) (values row)
      (inlineParenthesized (inlineList (values row))) := by
    intro row member
    rw [← sizes row member]
    exact renders_parenthesized (renders_placeholderList (values row))
  have opening : placeholders (fixed "insert into " ++ reference dialect table ++ fixed " (" ++
      columnList dialect first.keys ++ fixed ") values ") = 0 := by simp
  exact (renders_plain opening).append_left (renders_separated ", " each)

end Clauses

end FluentSql.Sql
