import FluentSql.Items
import FluentSql.Text.Blank
import FluentSql.Text.Cut

/-!
# References to columns and tables

A reference is a text as the caller wrote it, such as `users.id`, `users as u` or
`meta->tags`. This module reads off it what a result set calls the column; how a
reference is quoted in a statement is decided in `FluentSql.Sql.Expression`.
-/

namespace FluentSql

/-- The text before and after the first ` as `, in capitals or not. -/
def Text.cutAlias : List Char → Option (List Char × List Char)
  | [] => none
  | char :: rest =>
    match char, rest with
    | ' ', first :: second :: ' ' :: after =>
      if first.toLower = 'a' ∧ second.toLower = 's' then some ([], after)
      else (cutAlias rest).map fun parts => (char :: parts.1, parts.2)
    | _, _ => (cutAlias rest).map fun parts => (char :: parts.1, parts.2)

/-- A column or table as the caller wrote it. -/
abbrev Reference := String

namespace Reference

/-- Whether a reference means all columns. -/
def isWildcard (reference : Reference) : Bool := reference = "*"

/-- The text before the first ` as `, or all of it. -/
def base (reference : Reference) : List Char :=
  match Text.cutAlias reference.toList with
  | some (base, _) => base
  | none => reference.toList

/-- The text after the first ` as `, if there is one. -/
def alias? (reference : Reference) : Option (List Char) :=
  (Text.cutAlias reference.toList).map Prod.snd

/-- What a result set calls the column: its alias without blanks around it, or else what
stands after the last point. -/
def label (reference : Reference) : String :=
  match reference.alias? with
  | some name => String.ofList (Text.trim name)
  | none =>
    match Text.cutLast '.' reference.toList with
    | some (_, name) => String.ofList name
    | none => reference

/-- The reference with a text put in front. -/
def prefixed (tablePrefix : String) (reference : Reference) : Reference :=
  tablePrefix ++ reference

end Reference

/-- The columns of a select list or a grouping. -/
abbrev Columns := Items Reference

/-- Whether a list of columns means all columns: it has no column, or `*` comes first.
A list held as `many` without columns is no wildcard. -/
def Columns.isWildcard : Columns → Bool
  | .none => true
  | .one reference => reference.isWildcard
  | .many references => references.head?.any Reference.isWildcard

end FluentSql
