import FluentSql.Proofs.Cutting
import FluentSql.Proofs.StringLiteral
import FluentSql.Sql.Listing

/-!
# Column listings

The name of a table is what stands before the first ` as ` of its reference, trimmed. MySQL is
sent the name as the only value of a statement with one placeholder. SQLite is sent no value; the
name stands in the statement as a string literal, and whatever quotes the name has, the literal is
read back as one string (`readString_stringLiteral`).
-/

namespace FluentSql

namespace Text

/-- What stands in a text before its first ` as `, in capitals or not. -/
inductive BeforeAlias (text : List Char) : List Char → Prop
  | whole (absent : ¬ " as ".toList <:+: lower text) : BeforeAlias text text
  | cut {front separator back : List Char} (parts : text = front ++ separator ++ back)
      (separates : lower separator = " as ".toList)
      (first : ¬ " as ".toList <:+: lower (front ++ separator.dropLast)) : BeforeAlias text front

end Text

/-- A reference has exactly one text before its alias. -/
theorem Reference.beforeAlias_iff (reference : Reference) (front : List Char) :
    Text.BeforeAlias reference.toList front ↔ front = reference.base := by
  unfold base
  constructor
  · rintro (absent | ⟨parts, separates, first⟩)
    · rw [Text.cutAlias_eq_none absent]
    · rw [Text.cutAlias_eq_some_iff.mpr ⟨_, parts, separates, first⟩]
  · rintro rfl
    cases cut : Text.cutAlias reference.toList with
    | none => exact .whole (Text.cutAlias_eq_none_iff.mp cut)
    | some pieces =>
      obtain ⟨separator, parts, separates, first⟩ := Text.cutAlias_eq_some_iff.mp cut
      exact .cut parts separates first

namespace Sql

/-! ## String literals -/

/-- Behind the opening quote, doubled quotes are read as quotes, up to the first single one. -/
theorem readStringRest_doubled (content : List Char) {rest : List Char}
    (alone : rest.head? ≠ some '\'') :
    readStringRest (content.flatMap (fun char => if char = '\'' then ['\'', '\''] else [char]) ++
      '\'' :: rest) = some (content, rest) := by
  induction content with
  | nil => exact readStringRest_quote alone
  | cons char later inductionHypothesis =>
    rw [List.flatMap_cons, List.append_assoc]
    split
    · rename_i isQuote
      rw [List.cons_append, List.cons_append, List.nil_append, readStringRest, inductionHypothesis,
        isQuote]
      rfl
    · rename_i ordinary
      rw [List.cons_append, List.nil_append, readStringRest_cons _ ordinary, inductionHypothesis]
      rfl

/-- A literal is one string, and what follows it is left, unless it begins with a quote. -/
theorem readString_stringLiteral (content : List Char) {rest : List Char}
    (alone : rest.head? ≠ some '\'') :
    readString (stringLiteral content ++ rest) = some (content, rest) := by
  have whole : stringLiteral content ++ rest = '\'' :: (content.flatMap
      (fun char => if char = '\'' then ['\'', '\''] else [char]) ++ '\'' :: rest) := by
    simp [stringLiteral]
  rw [whole, readString]
  exact readStringRest_doubled content alone

/-! ## Listings -/

/-- A statement and its values ask for the table of a name: by one placeholder and the name as its
value, or by one string in the statement, which has no room for NUL characters. -/
inductive AsksForTable (name : List Char) : Dialect → String × List Bind → Prop
  | bound {sql : String} (asks : sql.toList.count '?' = 1) :
    AsksForTable name .mysql (sql, [.text (String.ofList name)])
  | inlined {literal : List Char}
      (reads : ∀ rest : List Char, rest.head? ≠ some '\'' →
        readString (literal ++ rest) = some (name.filter fun char => char.toNat ≠ 0, rest)) :
    AsksForTable name .sqlite
      (String.ofList ("select name from pragma_table_info(".toList ++ literal ++ [')']), [])

/-- The statement that MySQL is sent. -/
theorem columnListing_mysql (name : List Char) :
    columnListing .mysql name =
      ("select column_name from information_schema.columns where table_name = ?".toList,
        [.text (String.ofList name)]) := rfl

theorem asksForTable_columnListing (dialect : Dialect) (name : List Char) :
    AsksForTable name dialect
      (String.ofList (columnListing dialect name).1, (columnListing dialect name).2) := by
  cases dialect with
  | mysql =>
    rw [columnListing_mysql]
    refine .bound ?_
    dsimp only
    rw [String.toList_ofList]
    decide +kernel
  | sqlite => exact .inlined fun _ alone => readString_stringLiteral _ alone

end Sql

namespace Builder

/-- A builder with a table lists the columns of the table's name, which is what stands before the
first ` as ` of the reference, trimmed. A builder without a table cannot list columns. -/
theorem columnListing_asks (builder : Builder) :
    (∀ table : Reference, builder.query.table? = some table →
      ∃ front, (∀ other, Text.BeforeAlias table.toList other ↔ other = front) ∧
        ∃ listing, builder.columnListing = .ok listing ∧
          Sql.AsksForTable (Text.trim front) builder.dialect listing) ∧
    (builder.query.table? = none →
      ∃ fault, builder.columnListing = .error fault ∧ fault.kind = .compilationPrecondition) := by
  unfold columnListing
  constructor
  · intro table known
    refine ⟨table.base, table.beforeAlias_iff, _, ?_, Sql.asksForTable_columnListing _ _⟩
    rw [known]
  · intro unknown
    refine ⟨.listingWithoutTable, ?_, rfl⟩
    rw [unknown]

/-- The name of a table with a quote, a NUL character and two aliases, and no table at all. -/
theorem columnListing_asks_quoted :
    let table : Reference := " o'brien\x00s AS a as b"
    let builder := Builder.table .sqlite table
    let tableless := Builder.new .sqlite
    (builder.query.table? = some table ∧
      ∃ front, (∀ other, Text.BeforeAlias table.toList other ↔ other = front) ∧
        ∃ listing, builder.columnListing = .ok listing ∧
          Sql.AsksForTable (Text.trim front) builder.dialect listing) ∧
    (tableless.query.table? = none ∧
      ∃ fault, tableless.columnListing = .error fault ∧ fault.kind = .compilationPrecondition) :=
  ⟨⟨rfl, (columnListing_asks _).1 _ rfl⟩, ⟨rfl, (columnListing_asks _).2 rfl⟩⟩

end Builder

end FluentSql
