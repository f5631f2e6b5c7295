import FluentSql.Dialect
import FluentSql.Reference
import FluentSql.Sql.JsonPath
import FluentSql.Sql.Quoting

/-!
# Expressions behind references

A reference is read as an expression before it is written. What mentions `null` in any
ASCII case stands for itself; the first ` as ` gives an alias; a call of one of a few
functions has its argument read in turn; an arrow makes a JSON selector; the rest is a
dotted name. Reading does not depend on the dialect, and the text of every part is
shorter than the whole, so reading always ends.
-/

namespace FluentSql.Sql

/-- What a reference says. -/
inductive Expression where
  /-- A text that is written as it is. -/
  | verbatim (text : List Char)
  | aliased (base : Expression) (name : List Char)
  | call (function : List Char) (argument : Expression)
  /-- The part of a JSON field at a path, without its quotes if `unquoted`. -/
  | selector (unquoted : Bool) (field : Expression) (path : List Char)
  | dotted (name : List Char)
deriving DecidableEq, Repr

/-- Whether a text mentions `null`, in capitals or not. -/
def mentionsNull (text : List Char) : Bool := Text.contains "null".toList (Text.lower text)

/-- The functions whose argument is read as an expression. -/
def readFunctions : List (List Char) :=
  ["count".toList, "sum".toList, "min".toList, "max".toList, "avg".toList, "date".toList]

/-- The function and the argument of a call. The argument stands between the last closing
parenthesis and the last opening one before it; what follows is left out. -/
def cutCall (text : List Char) : Option (List Char × List Char) :=
  match Text.cutLast ')' text with
  | some (head, _) =>
    match Text.cutLast '(' head with
    | some (function, argument) =>
      if Text.lower function ∈ readFunctions then some (function, argument) else none
    | none => none
  | none => none

/-- Whether a selector unquotes, its field and its path. An unquoting arrow anywhere goes
before the plain arrows. -/
def cutSelector (text : List Char) : Option (Bool × List Char × List Char) :=
  match Text.cutFirst unquotingArrow text with
  | some (field, path) => some (true, field, path)
  | none =>
    match Text.cutFirst arrow text with
    | some (field, path) => some (false, field, path)
    | none => none

theorem length_lt_of_cutAlias {text base name : List Char}
    (cut : Text.cutAlias text = some (base, name)) : base.length < text.length := by
  induction text generalizing base with
  | nil => simp [Text.cutAlias] at cut
  | cons char rest inductionHypothesis =>
    have later :
        (Text.cutAlias rest).map (fun parts => (char :: parts.1, parts.2)) = some (base, name) →
        base.length < (char :: rest).length := by
      intro mapped
      obtain ⟨parts, partsEq, same⟩ := Option.map_eq_some_iff.mp mapped
      obtain ⟨rfl, rfl⟩ := Prod.mk.inj same
      simpa using inductionHypothesis partsEq
    unfold Text.cutAlias at cut
    split at cut
    · split at cut
      · obtain ⟨rfl, rfl⟩ := Prod.mk.inj (Option.some.inj cut)
        simp
      · exact later cut
    · exact later cut

theorem length_lt_of_cutLast {mark : Char} {text before after : List Char}
    (cut : Text.cutLast mark text = some (before, after)) :
    before.length < text.length ∧ after.length < text.length := by
  have whole := congrArg List.length (Text.append_of_cutLast cut)
  simp only [List.length_append, List.length_cons] at whole
  omega

theorem length_lt_of_cutCall {text function argument : List Char}
    (cut : cutCall text = some (function, argument)) : argument.length < text.length := by
  unfold cutCall at cut
  split at cut
  · rename_i head _ outer
    split at cut
    · rename_i inner
      split at cut
      · obtain ⟨rfl, rfl⟩ := Prod.mk.inj (Option.some.inj cut)
        have first := (length_lt_of_cutLast outer).1
        have second := (length_lt_of_cutLast inner).2
        omega
      · simp at cut
    · simp at cut
  · simp at cut

theorem length_lt_of_cutSelector {text field path : List Char} {unquoted : Bool}
    (cut : cutSelector text = some (unquoted, field, path)) : field.length < text.length := by
  have before : ∀ {pattern parts : List Char} {found : List Char},
      pattern ≠ [] → Text.cutFirst pattern text = some (found, parts) →
      found.length < text.length := by
    intro pattern parts found nonempty cutFirst
    have whole := congrArg List.length (Text.append_of_cutFirst cutFirst)
    have positive := List.length_pos_iff.mpr nonempty
    simp only [List.length_append] at whole
    omega
  unfold cutSelector at cut
  split at cut
  · rename_i found
    obtain ⟨-, rfl, rfl⟩ := by simpa using cut
    exact before (by decide) found
  · split at cut
    · rename_i found
      obtain ⟨-, rfl, rfl⟩ := by simpa using cut
      exact before (by decide) found
    · simp at cut

namespace Expression

/-- Read a reference. -/
def ofText (text : List Char) : Expression :=
  if mentionsNull text then .verbatim text
  else match _ : Text.cutAlias text with
    | some (base, name) => .aliased (ofText (Text.trim base)) (Text.trim name)
    | none => match _ : cutCall text with
      | some (function, argument) => .call function (ofText argument)
      | none => match _ : cutSelector text with
        | some (unquoted, field, path) => .selector unquoted (ofText field) path
        | none => .dotted text
termination_by text.length
decreasing_by
  · rename_i aliasCut
    have shorter := length_lt_of_cutAlias aliasCut
    have trimmed := Text.trim_length_le base
    omega
  · exact length_lt_of_cutCall (by assumption)
  · exact length_lt_of_cutSelector (by assumption)

/-- The part of a JSON value at a path, in a dialect's own words. SQLite gives scalars
without quotes whether asked to or not. -/
def extract (dialect : Dialect) (unquoted : Bool) (field path : List Char) : List Char :=
  let extracted := "json_extract(".toList ++ field ++ ", ".toList ++ path ++ [')']
  match dialect with
  | .mysql => if unquoted then "json_unquote(".toList ++ extracted ++ [')'] else extracted
  | .sqlite => extracted

/-- The text of an expression. -/
def render (dialect : Dialect) : Expression → List Char
  | .verbatim text => text
  | .aliased base name => base.render dialect ++ " as ".toList ++ quoteIdentifier name
  | .call function argument => function ++ '(' :: argument.render dialect ++ [')']
  | .selector unquoted field path =>
    extract dialect unquoted (field.render dialect) (pathLiteral path)
  | .dotted name => quoteDotted name

end Expression

/-- The text of a reference. -/
def wrap (dialect : Dialect) (reference : List Char) : List Char :=
  (Expression.ofText reference).render dialect

/-- A select list asks for unquoted values: the first arrow of a reference without any
unquoting arrow becomes one. -/
def unquoteSelected (reference : List Char) : List Char :=
  if Text.contains unquotingArrow reference then reference
  else match Text.cutFirst arrow reference with
    | some (field, path) => field ++ unquotingArrow ++ path
    | none => reference

/-- A place in a JSON column: the column, and the path into it if there is one. -/
structure JsonPlace where
  field : Expression
  path? : Option (List Char)
deriving DecidableEq, Repr

namespace JsonPlace

/-- Read a reference as a place; its first arrow ends the field. -/
def ofText (reference : List Char) : JsonPlace :=
  match Text.cutFirst arrow reference with
  | some (field, path) => ⟨.ofText field, some path⟩
  | none => ⟨.ofText reference, none⟩

/-- The path as a further argument of a function, or nothing. -/
def pathArgument (place : JsonPlace) : List Char :=
  match place.path? with
  | some path => ", ".toList ++ pathLiteral path
  | none => []

end JsonPlace

end FluentSql.Sql
