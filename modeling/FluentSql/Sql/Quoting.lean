import FluentSql.Text.Cut

/-!
# Quoted identifiers

Both dialects quote identifiers with backticks. A backtick inside an identifier is
dropped, so the next backtick always ends it. A dotted reference is quoted segment by
segment, and a segment that is `*` stays bare.
-/

namespace FluentSql.Sql

/-- A text without its backticks. -/
def dropBackticks (text : List Char) : List Char := text.filter (· ≠ '`')

/-- One identifier; `*` is written as it is. -/
def quoteIdentifier (name : List Char) : List Char :=
  if name = ['*'] then name else '`' :: dropBackticks name ++ ['`']

/-- A dotted reference, each segment quoted on its own. -/
def quoteDotted (reference : List Char) : List Char :=
  List.intercalate ['.'] ((Text.segments '.' reference).map quoteIdentifier)

end FluentSql.Sql
