import FluentSql.Proofs.PrefixFree
import FluentSql.Sql.Clause

/-!
# Outlines of conditions

An outline keeps of where conditions what their text can tell: the tree of groups, the
connectors after the first of each list, and everything about a simple condition but its
values. An operator without regard to case is written like the one that regards it, and
the column that is looked for in an empty list is not written at all.

A simple condition is an opening, a quoted column and an ending. The openings and the
endings are prefix-free tables, so the text of an outline can be read from the left
whatever follows it, though `and` and `not` occur in several of them and columns may hold
any keyword.
-/

namespace FluentSql

/-- A simple condition without its values. -/
inductive Test where
  | compare (column : Reference) (operator : Operator)
  | between (column : Reference) (negated : Bool)
  | among (column : Reference) (count : Nat) (negated : Bool)
  | null (column : Reference) (negated : Bool)
  | datePart (unit : DateUnit) (column : Reference) (operator : Operator)
  | jsonContains (column : Reference) (negated : Bool)
  | jsonLength (column : Reference) (operator : Operator)
deriving DecidableEq, Repr

/-- A condition without its values, and without what its text cannot tell. -/
inductive Outline where
  | simple (test : Test)
  /-- Membership in an empty list. -/
  | amongNone (negated : Bool)
  | group (members : List (Connector × Outline))

namespace Outline

/-- The first connector of a list is never written; it counts as `and`. -/
def forgetFirst : List (Connector × Outline) → List (Connector × Outline)
  | [] => []
  | (_, first) :: rest => (.and, first) :: rest

end Outline
namespace Sql

open Fragment

/-- What is written before the column of a simple condition. -/
inductive Opening where
  | bare
  | call (unit : DateUnit)
  | contains (negated : Bool)
  | length
deriving DecidableEq, Repr

namespace Opening

/-- What is written before a column that is to contain a value. -/
def containsFunction : Dialect → String
  | .mysql => "json_contains("
  | .sqlite => "exists (select 1 from json_each("

/-- The text of an opening. -/
def text (dialect : Dialect) : Opening → List Char
  | bare => []
  | call unit => unit.function.toList ++ ['(']
  | contains negated => (if negated then "not " else "").toList ++ (containsFunction dialect).toList
  | length => (jsonLengthFunction dialect).toList

/-- All openings. -/
def table : List Opening :=
  [bare, call .date, call .day, call .month, call .year, call .time, contains false,
   contains true, length]

theorem mem_table (opening : Opening) : opening ∈ table := by
  cases opening with
  | call unit => cases unit <;> decide
  | contains negated => cases negated <;> decide
  | _ => decide

/-- An opening and the mark after it, with which every column begins. -/
theorem prefixFree_marked (dialect : Dialect) :
    PrefixFree (· ∈ table.flatMap fun opening => [(opening, '`'), (opening, '*')])
      fun part => part.1.text dialect ++ [part.2] := by
  apply prefixFree_of_table
  cases dialect <;> decide +kernel

end Opening

/-- What is written after the column of a simple condition, up to a list of placeholders. -/
inductive Ending where
  | compared (operator : Operator)
  | between (negated : Bool)
  | among (negated : Bool)
  | null (negated : Bool)
  | called (operator : Operator)
  | contained
deriving DecidableEq, Repr

namespace Ending

/-- What is written between a column and the value that it is to contain. -/
def beforeValue : Dialect → String
  | .mysql => ", "
  | .sqlite => ") where json_each.value = json_extract("

/-- What is written after the value that a column is to contain. -/
def afterValue : Dialect → String
  | .mysql => ")"
  | .sqlite => ", '$'))"

/-- The text of an ending. -/
def text (dialect : Dialect) : Ending → List Char
  | compared operator => (infixed operator).text ++ ['?']
  | between negated =>
    (if negated then " not between " else " between ").toList ++ '?' :: (" and ".toList ++ ['?'])
  | among negated => (if negated then " not in (" else " in (").toList
  | null negated => (if negated then " is not null" else " is null").toList
  | called operator => ')' :: ((infixed operator).text ++ ['?'])
  | contained => (beforeValue dialect).toList ++ '?' :: (afterValue dialect).toList

/-- All endings with folded operators. -/
def table : List Ending :=
  Operator.foldedOperators.flatMap (fun operator => [compared operator, called operator]) ++
    [false, true].flatMap (fun negated => [between negated, among negated, null negated]) ++
    [contained]

theorem prefixFree_text (dialect : Dialect) : PrefixFree (· ∈ table) (text dialect) := by
  apply prefixFree_of_table
  cases dialect <;> decide +kernel

/-- No ending goes on with the name of the column. -/
theorem head?_text_append (dialect : Dialect) {ending : Ending} (member : ending ∈ table)
    (rest : List Char) : (ending.text dialect ++ rest).head? ≠ some '.' := by
  have heads : ∀ ending ∈ table, (ending.text dialect).head?.any (· ≠ '.') := by
    cases dialect <;> decide +kernel
  obtain ⟨char, isHead, noPoint⟩ := (Option.any_eq_true _ _).mp (heads ending member)
  rw [List.head?_append, isHead]
  simpa using noPoint

end Ending

end Sql

namespace Test

open Sql

/-- What is written before the column. -/
def opening : Test → Opening
  | compare _ _ | between _ _ | among _ _ _ | null _ _ => .bare
  | datePart unit _ _ => .call unit
  | jsonContains _ negated => .contains negated
  | jsonLength _ _ => .length

/-- The column that a simple condition looks at. -/
def column : Test → Reference
  | compare column _ | between column _ | among column _ _ | null column _ | datePart _ column _
  | jsonContains column _ | jsonLength column _ => column

/-- What is written after the column, up to a list of placeholders. -/
def ending : Test → Ending
  | compare _ operator => .compared operator
  | between _ negated => .between negated
  | among _ _ negated => .among negated
  | null _ negated => .null negated
  | datePart _ _ operator | jsonLength _ operator => .called operator
  | jsonContains _ _ => .contained

/-- The list of placeholders, if there is one. -/
def list : Test → List Char
  | among _ count _ => (Fragment.placeholderList count).text ++ [')']
  | compare _ _ | between _ _ | null _ _ | datePart _ _ _ | jsonContains _ _ | jsonLength _ _ => []

/-- The text of a simple condition. -/
def text (dialect : Dialect) (test : Test) : List Char :=
  test.opening.text dialect ++ (quoteDotted test.column.toList ++
    (test.ending.text dialect ++ test.list))

/-- A simple condition that can be read back. -/
structure Valid (test : Test) : Prop where
  column : '`' ∉ test.column.toList
  ending : test.ending ∈ Ending.table

/-- A simple condition is put together again from its parts. -/
theorem eq_of_parts {first second : Test} {rest other : List Char}
    (openings : first.opening = second.opening) (columns : first.column = second.column)
    (endings : first.ending = second.ending) (lists : first.list ++ rest = second.list ++ other) :
    first = second ∧ rest = other := by
  cases first with
  | among column count negated =>
    cases second with
    | among otherColumn otherCount otherNegated =>
      obtain ⟨rfl⟩ := columns
      obtain ⟨rfl⟩ := endings
      obtain ⟨rfl, rests⟩ := placeholderList_append_inj (by simpa [list] using lists)
      exact ⟨rfl, rests⟩
    | _ => cases endings
  | _ => cases second <;> simp_all [opening, column, ending, list]

theorem prefixFree_text (dialect : Dialect) : PrefixFree Valid (text dialect) := by
  intro first second isFirst isSecond rest other same
  obtain ⟨mark, isMark, front, begins⟩ := quoteDotted_begins isFirst.column
  obtain ⟨otherMark, isOtherMark, otherFront, otherBegins⟩ := quoteDotted_begins isSecond.column
  have listed : ∀ opening : Opening, ∀ mark ∈ ['`', '*'], (opening, mark) ∈
      Opening.table.flatMap fun opening => [(opening, '`'), (opening, '*')] := by
    intro opening mark isMark
    refine List.mem_flatMap.mpr ⟨opening, opening.mem_table, ?_⟩
    simpa using isMark
  -- The opening is read off together with the mark at which the column begins.
  have openings : first.opening = second.opening ∧
      quoteDotted first.column.toList ++ (first.ending.text dialect ++ (first.list ++ rest)) =
        quoteDotted second.column.toList ++
          (second.ending.text dialect ++ (second.list ++ other)) := by
    simp only [text, List.append_assoc] at same
    rw [begins, otherBegins] at same ⊢
    obtain ⟨parts, later⟩ := Opening.prefixFree_marked dialect
      (listed first.opening mark isMark) (listed second.opening otherMark isOtherMark)
      (by simpa using same)
    obtain ⟨opening, rfl⟩ := Prod.mk.inj parts
    exact ⟨opening, congrArg (mark :: ·) later⟩
  obtain ⟨columns, afterColumn⟩ := quoteDotted_append_inj isFirst.column isSecond.column
    (Ending.head?_text_append dialect isFirst.ending _)
    (Ending.head?_text_append dialect isSecond.ending _) openings.2
  obtain ⟨endings, afterEnding⟩ :=
    Ending.prefixFree_text dialect isFirst.ending isSecond.ending afterColumn
  exact eq_of_parts openings.1 (String.toList_inj.mp columns) endings afterEnding

end Test

namespace Outline

open Sql

mutual

/-- The text of a condition of an outline. -/
def text (dialect : Dialect) : Outline → List Char
  | .simple test => test.text dialect
  | .amongNone negated => (if negated then "1 = 1" else "0 = 1").toList
  | .group members => '(' :: (texts dialect members ++ [')'])

/-- The text of conditions with their connectors; the first connector is left out. -/
def texts (dialect : Dialect) : List (Connector × Outline) → List Char
  | [] => []
  | (_, first) :: rest => first.text dialect ++ laterTexts dialect rest

/-- The text of conditions, each after its connector. -/
def laterTexts (dialect : Dialect) : List (Connector × Outline) → List Char
  | [] => []
  | (connector, first) :: rest =>
    ' ' :: (connector.keyword.toList ++ ' ' :: (first.text dialect ++ laterTexts dialect rest))

end

mutual

/-- Whether an outline can be read back. -/
def Valid : Outline → Prop
  | .simple test => test.Valid
  | .amongNone _ => True
  | .group members => forgetFirst members = members ∧ AllValid members

/-- Whether all outlines of a list can be read back. -/
def AllValid : List (Connector × Outline) → Prop
  | [] => True
  | (_, first) :: rest => first.Valid ∧ AllValid rest

end

/-- The characters at which conditions of a kind begin. -/
def beginnings : Outline → List Char
  | .simple _ => ['`', '*', 'd', 'm', 'y', 't', 'j', 'n', 'e']
  | .amongNone _ => ['0', '1']
  | .group _ => ['(']

theorem text_begins (dialect : Dialect) {outline : Outline} (valid : outline.Valid) :
    ∃ char ∈ outline.beginnings, ∃ back, outline.text dialect = char :: back := by
  cases outline with
  | simple test =>
    rw [Valid] at valid
    have openings : ∀ opening ∈ Opening.table, opening = .bare ∨
        (opening.text dialect).head?.any (· ∈ ['d', 'm', 'y', 't', 'j', 'n', 'e']) := by
      cases dialect <;> decide +kernel
    rcases openings test.opening test.opening.mem_table with bare | begins
    · obtain ⟨mark, isMark, back, begins⟩ := quoteDotted_begins valid.column
      refine ⟨mark, ?_, back ++ (test.ending.text dialect ++ test.list), ?_⟩
      · exact List.mem_append_left ['d', 'm', 'y', 't', 'j', 'n', 'e'] isMark
      · rw [text, Test.text, bare, begins]
        rfl
    · obtain ⟨char, isHead, listed⟩ := (Option.any_eq_true _ _).mp begins
      obtain ⟨back, whole⟩ := List.head?_eq_some_iff.mp isHead
      refine ⟨char, ?_, back ++ (quoteDotted test.column.toList ++
        (test.ending.text dialect ++ test.list)), ?_⟩
      · exact List.mem_append_right ['`', '*'] (of_decide_eq_true listed)
      · rw [text, Test.text, whole]
        rfl
  | amongNone negated =>
    cases negated with
    | false => exact ⟨'0', by simp [beginnings], " = 1".toList, by rw [text]; decide +kernel⟩
    | true => exact ⟨'1', by simp [beginnings], " = 1".toList, by rw [text]; decide +kernel⟩
  | group members => exact ⟨'(', by simp [beginnings], _, by rw [text]⟩

/-- Outlines of different kinds begin with different characters. -/
theorem text_append_ne {dialect : Dialect} {first second : Outline} {rest other : List Char}
    (isFirst : first.Valid) (isSecond : second.Valid)
    (apart : ∀ char ∈ first.beginnings, char ∉ second.beginnings) :
    first.text dialect ++ rest ≠ second.text dialect ++ other := by
  intro same
  obtain ⟨char, begins, back, whole⟩ := text_begins dialect isFirst
  obtain ⟨otherChar, otherBegins, otherBack, otherWhole⟩ := text_begins dialect isSecond
  rw [whole, otherWhole] at same
  obtain ⟨rfl, -⟩ := List.cons.inj same
  exact apart char begins otherBegins

/-- Whether nothing or a closing parenthesis comes first. -/
def Closes (rest : List Char) : Prop := ∀ char ∈ rest.head?, char = ')'

/-- No condition begins with a closing parenthesis. -/
theorem not_closes_text_append {dialect : Dialect} {outline : Outline} (valid : outline.Valid)
    (rest : List Char) : ¬ Closes (outline.text dialect ++ rest) := by
  intro closes
  obtain ⟨char, begins, back, whole⟩ := text_begins dialect valid
  rw [whole] at closes
  obtain rfl : char = ')' := closes char rfl
  cases outline with
  | simple test => simp [beginnings] at begins
  | amongNone negated => simp [beginnings] at begins
  | group members => simp [beginnings] at begins

theorem prefixFree_amongNone :
    PrefixFree (· ∈ [false, true]) fun negated : Bool =>
      (if negated then "1 = 1" else "0 = 1").toList := by
  apply prefixFree_of_table
  decide +kernel

theorem prefixFree_keyword :
    PrefixFree (· ∈ [.and, .or]) fun connector : Connector =>
      ' ' :: (connector.keyword.toList ++ [' ']) := by
  apply prefixFree_of_table
  decide +kernel

mutual

/-- Outlines are prefix-free. -/
theorem text_append_inj {dialect : Dialect} : ∀ {first second : Outline}, first.Valid →
    second.Valid → ∀ {rest other : List Char},
    first.text dialect ++ rest = second.text dialect ++ other → first = second ∧ rest = other
  | .simple first, .simple second, isFirst, isSecond, rest, other, same => by
    rw [Valid] at isFirst isSecond
    rw [text, text] at same
    obtain ⟨rfl, rests⟩ := Test.prefixFree_text dialect isFirst isSecond same
    exact ⟨rfl, rests⟩
  | .amongNone negated, .amongNone otherNegated, _, _, rest, other, same => by
    rw [text, text] at same
    obtain ⟨rfl, rests⟩ := prefixFree_amongNone (by simp) (by simp) same
    exact ⟨rfl, rests⟩
  | .group members, .group otherMembers, isFirst, isSecond, rest, other, same => by
    rw [Valid] at isFirst isSecond
    rw [text, text] at same
    have inside : texts dialect members ++ ')' :: rest =
        texts dialect otherMembers ++ ')' :: other := by
      simpa using same
    obtain ⟨lists, rests⟩ := texts_append_inj isFirst.2 isSecond.2 (by simp [Closes])
      (by simp [Closes]) inside
    rw [isFirst.1, isSecond.1] at lists
    exact ⟨congrArg group lists, (List.cons.inj rests).2⟩
  | .simple _, .amongNone _, isFirst, isSecond, _, _, same
  | .simple _, .group _, isFirst, isSecond, _, _, same
  | .amongNone _, .simple _, isFirst, isSecond, _, _, same
  | .amongNone _, .group _, isFirst, isSecond, _, _, same
  | .group _, .simple _, isFirst, isSecond, _, _, same
  | .group _, .amongNone _, isFirst, isSecond, _, _, same =>
    absurd same (text_append_ne isFirst isSecond (by simp [beginnings]))

/-- A text of conditions tells all but the first connector, before a closing parenthesis or
at the end. -/
theorem texts_append_inj {dialect : Dialect} : ∀ {list otherList : List (Connector × Outline)},
    AllValid list → AllValid otherList → ∀ {rest other : List Char}, Closes rest → Closes other →
    texts dialect list ++ rest = texts dialect otherList ++ other →
    forgetFirst list = forgetFirst otherList ∧ rest = other
  | [], [], _, _, rest, other, _, _, same => by simpa [texts] using same
  | [], (_, first) :: later, _, valid, rest, other, closes, _, same => by
    rw [AllValid] at valid
    rw [texts, texts, List.nil_append, List.append_assoc] at same
    exact absurd (same ▸ closes) (not_closes_text_append valid.1 _)
  | (_, first) :: later, [], valid, _, rest, other, _, closes, same => by
    rw [AllValid] at valid
    rw [texts, texts, List.nil_append, List.append_assoc] at same
    exact absurd (same ▸ closes) (not_closes_text_append valid.1 _)
  | (_, first) :: later, (_, otherFirst) :: otherLater, valid, otherValid, rest, other, closes,
      otherCloses, same => by
    rw [AllValid] at valid otherValid
    rw [texts, texts, List.append_assoc, List.append_assoc] at same
    obtain ⟨rfl, tails⟩ := text_append_inj valid.1 otherValid.1 same
    obtain ⟨rfl, rests⟩ :=
      laterTexts_append_inj valid.2 otherValid.2 closes otherCloses tails
    exact ⟨rfl, rests⟩

theorem laterTexts_append_inj {dialect : Dialect} :
    ∀ {list otherList : List (Connector × Outline)}, AllValid list → AllValid otherList →
    ∀ {rest other : List Char}, Closes rest → Closes other →
    laterTexts dialect list ++ rest = laterTexts dialect otherList ++ other →
    list = otherList ∧ rest = other
  | [], [], _, _, rest, other, _, _, same => by simpa [laterTexts] using same
  | [], (_, _) :: _, _, _, rest, other, closes, _, same => by
    rw [laterTexts, laterTexts, List.nil_append] at same
    exact absurd (closes ' ' (by rw [same]; rfl)) (by decide)
  | (_, _) :: _, [], _, _, rest, other, _, closes, same => by
    rw [laterTexts, laterTexts, List.nil_append] at same
    exact absurd (closes ' ' (by rw [← same]; rfl)) (by decide)
  | (connector, first) :: later, (otherConnector, otherFirst) :: otherLater, valid, otherValid,
      rest, other, closes, otherCloses, same => by
    rw [AllValid] at valid otherValid
    rw [laterTexts, laterTexts] at same
    have listed : ∀ connector : Connector, connector ∈ [.and, .or] := by
      intro connector
      cases connector <;> decide
    obtain ⟨rfl, afterKeyword⟩ :=
      prefixFree_keyword (listed connector) (listed otherConnector) (by simpa using same)
    obtain ⟨rfl, tails⟩ := text_append_inj valid.1 otherValid.1 afterKeyword
    obtain ⟨rfl, rests⟩ :=
      laterTexts_append_inj valid.2 otherValid.2 closes otherCloses tails
    exact ⟨rfl, rests⟩

end

/-- The first connector is not written. -/
theorem texts_forgetFirst (dialect : Dialect) (list : List (Connector × Outline)) :
    texts dialect (forgetFirst list) = texts dialect list := by
  cases list with
  | nil => rfl
  | cons part rest => rw [forgetFirst, texts, texts]

theorem forgetFirst_forgetFirst (list : List (Connector × Outline)) :
    forgetFirst (forgetFirst list) = forgetFirst list := by
  cases list with
  | nil => rfl
  | cons part rest => rfl

theorem allValid_forgetFirst {list : List (Connector × Outline)} (valid : AllValid list) :
    AllValid (forgetFirst list) := by
  cases list with
  | nil => exact valid
  | cons part rest =>
    rw [forgetFirst, AllValid]
    rwa [AllValid] at valid

end Outline
end FluentSql
