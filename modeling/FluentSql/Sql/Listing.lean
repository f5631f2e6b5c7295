import FluentSql.Query.Builder
import FluentSql.Reference

/-!
# Listing the columns of a table

MySQL takes the name of the table as a bound value. SQLite takes it as a string literal
in the statement, where a single quote is written twice and NUL characters are left out.
-/

namespace FluentSql

namespace Sql

/-- A string literal in which a doubled quote stands for a quote. -/
def stringLiteral (content : List Char) : List Char :=
  '\'' :: content.flatMap (fun char => if char = '\'' then ['\'', '\''] else [char]) ++ ['\'']

/-- The statement that lists the columns of a table, and the values it binds. -/
def columnListing (dialect : Dialect) (table : List Char) : List Char × List Bind :=
  match dialect with
  | .mysql =>
    ("select column_name from information_schema.columns where table_name = ?".toList,
      [.text (String.ofList table)])
  | .sqlite =>
    ("select name from pragma_table_info(".toList ++
      stringLiteral (table.filter fun char => char.toNat ≠ 0) ++ [')'], [])

end Sql

/-- The statement that lists the columns of a builder's table. The table's alias is left
out, and so are blanks around its name. -/
def Builder.columnListing (builder : Builder) : Except Fault (String × List Bind) :=
  match builder.query.table? with
  | some table =>
    let (sql, values) := Sql.columnListing builder.dialect (Text.trim (Reference.base table))
    .ok (String.ofList sql, values)
  | none => .error .listingWithoutTable

end FluentSql
