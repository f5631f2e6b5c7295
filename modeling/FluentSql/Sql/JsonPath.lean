import FluentSql.Text.Cut

/-!
# JSON path literals

The keys of a path are written with arrows between them, as in `a->b`, and become the
string literal `'$."a"."b"'`. A single quote is written with one backslash in front, in
place of all backslashes that stood right before it; other backslashes stay.
-/

namespace FluentSql.Sql

/-- Escape single quotes, where `pending` backslashes have been read and not written. -/
def escapeQuotesAfter (pending : Nat) : List Char → List Char
  | [] => List.replicate pending '\\'
  | char :: rest =>
    if char = '\\' then escapeQuotesAfter (pending + 1) rest
    else if char = '\'' then '\\' :: '\'' :: escapeQuotesAfter 0 rest
    else List.replicate pending '\\' ++ char :: escapeQuotesAfter 0 rest

/-- Escape single quotes. -/
def escapeQuotes (text : List Char) : List Char := escapeQuotesAfter 0 text

/-- The arrow between a field and its path, and between the keys of a path. -/
def arrow : List Char := ['-', '>']

/-- The arrow that asks for the unquoted value. -/
def unquotingArrow : List Char := ['-', '>', '>']

/-- The texts between the arrows of a path. -/
def pathKeys : List Char → List (List Char)
  | [] => [[]]
  | '-' :: '>' :: rest => [] :: pathKeys rest
  | char :: rest => Text.consFirst char (pathKeys rest)

/-- The string literal of a path. -/
def pathLiteral (path : List Char) : List Char :=
  "'$.\"".toList ++ List.intercalate "\".\"".toList (pathKeys (escapeQuotes path)) ++ "\"'".toList

end FluentSql.Sql
