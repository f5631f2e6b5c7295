import FluentSql.Proofs.Occurrence
import FluentSql.Proofs.PathLiteral
import FluentSql.Sql.Statement

/-!
# Path literals as SQLite strings

In SQLite a doubled quote is the only escape of a string and a backslash is an ordinary
character. A path literal is escaped with backslashes in both dialects, so in SQLite it
is one string exactly if its path has no single quote: `readString_pathLiteral_iff`. At
the first quote of a path the string ends, and the rest of the path is read as SQL.
-/

namespace FluentSql.Sql

/-- The value of a string whose opening quote has been read, and what follows it. -/
def readStringRest : List Char → Option (List Char × List Char)
  | [] => none
  | '\'' :: '\'' :: rest => (readStringRest rest).map fun read => ('\'' :: read.1, read.2)
  | '\'' :: rest => some ([], rest)
  | char :: rest => (readStringRest rest).map fun read => (char :: read.1, read.2)

/-- The value of the SQLite string that a text begins with, and what follows it. -/
def readString : List Char → Option (List Char × List Char)
  | '\'' :: rest => readStringRest rest
  | _ => none

/-- A single quote that is not doubled ends the string. -/
theorem readStringRest_quote {rest : List Char} (alone : rest.head? ≠ some '\'') :
    readStringRest ('\'' :: rest) = some ([], rest) := by
  cases rest with
  | nil => rfl
  | cons char later =>
    have different : ¬ char = '\'' := fun equal => alone (by simp [equal])
    simp [readStringRest, different]

theorem readStringRest_cons {char : Char} (rest : List Char) (ordinary : char ≠ '\'') :
    readStringRest (char :: rest) =
      (readStringRest rest).map fun read => (char :: read.1, read.2) := by
  rw [readStringRest]
  · exact fun _ isQuote => absurd isQuote ordinary
  · exact ordinary

/-- A text without single quotes is read as it is. -/
theorem readStringRest_append {text rest : List Char} (plain : '\'' ∉ text)
    (alone : rest.head? ≠ some '\'') :
    readStringRest (text ++ '\'' :: rest) = some (text, rest) := by
  induction text with
  | nil => exact readStringRest_quote alone
  | cons char later inductionHypothesis =>
    rw [List.mem_cons, not_or] at plain
    rw [List.cons_append, readStringRest_cons _ (Ne.symm plain.1), inductionHypothesis plain.2]
    rfl

/-- A string is over before a guarded text with a quote in it is: the quote follows a
backslash, which does not protect it, and no second quote follows. -/
theorem readStringRest_guarded {text : List Char} {escaped : Bool} (tail : List Char)
    (isGuarded : guarded escaped text) (quoted : '\'' ∈ text) :
    ∃ value later, readStringRest (text ++ '"' :: tail) = some (value, later ++ '"' :: tail) := by
  induction text generalizing escaped with
  | nil => cases quoted
  | cons char rest inductionHypothesis =>
    by_cases isQuote : char = '\''
    · subst isQuote
      have later : guarded false rest := by
        cases escaped <;> simp_all [guarded]
      have alone : (rest ++ '"' :: tail).head? ≠ some '\'' := by
        cases rest with
        | nil => simp
        | cons next others =>
          intro doubled
          obtain rfl : next = '\'' := by simpa using doubled
          simp [guarded] at later
      exact ⟨[], rest, by rw [List.cons_append, readStringRest_quote alone]⟩
    · have further : ∃ next, guarded next rest := by
        cases escaped
        · rw [guarded] at isGuarded
          split at isGuarded
          · exact ⟨true, isGuarded⟩
          · rw [Bool.and_eq_true] at isGuarded
            exact ⟨false, isGuarded.2⟩
        · exact ⟨false, isGuarded⟩
      obtain ⟨next, isGuarded⟩ := further
      have inRest : '\'' ∈ rest :=
        (List.mem_cons.mp quoted).resolve_left (Ne.symm isQuote)
      obtain ⟨value, later, reads⟩ := inductionHypothesis isGuarded inRest
      refine ⟨char :: value, later, ?_⟩
      rw [List.cons_append, readStringRest_cons _ isQuote, reads]
      rfl

/-- A path literal is read as one string, and what follows it is left as it is, exactly
if its path has no single quote. -/
theorem readString_pathLiteral_iff {path rest : List Char} (alone : rest.head? ≠ some '\'') :
    (∃ value, readString (pathLiteral path ++ rest) = some (value, rest)) ↔ '\'' ∉ path := by
  have mem : '\'' ∈ keyed (escapeQuotes path) ↔ '\'' ∈ path := by
    rw [mem_keyed (by decide), escapeQuotes, mem_escapeQuotesAfter (by decide)]
  have whole : pathLiteral path ++ rest =
      '\'' :: (('$' :: '.' :: '"' :: keyed (escapeQuotes path)) ++ '"' :: '\'' :: rest) := by
    simp [pathLiteral_eq]
  rw [whole, readString]
  constructor
  · rintro ⟨value, reads⟩ quoted
    have isGuarded : guarded false ('$' :: '.' :: '"' :: keyed (escapeQuotes path)) := by
      simpa [guarded, escapeQuotes] using guarded_keyed (guarded_escapeQuotesAfter 0 path)
    obtain ⟨short, later, early⟩ := readStringRest_guarded ('\'' :: rest) isGuarded
      (by simp [mem, quoted])
    rw [early] at reads
    -- The string ended inside the literal, so more is left than what follows the literal.
    have lengths := congrArg (fun read : List Char × List Char => read.2.length)
      (Option.some.inj reads)
    simp only [List.length_append, List.length_cons] at lengths
    omega
  · intro plain
    have front : '\'' ∉ '$' :: '.' :: '"' :: (keyed (escapeQuotes path) ++ ['"']) := by
      simp [mem, plain]
    refine ⟨'$' :: '.' :: '"' :: (keyed (escapeQuotes path) ++ ['"']), ?_⟩
    rw [← readStringRest_append front alone]
    simp

/-- The paths of an expression's selectors, in the order in which they are written. -/
def Expression.paths : Expression → List (List Char)
  | .verbatim _ => []
  | .aliased base _ => base.paths
  | .call _ argument => argument.paths
  | .selector _ field path => field.paths ++ [path]
  | .dotted _ => []

/-- The paths of a JSON place: those of its field, and its own if it has one. -/
def JsonPlace.paths (place : JsonPlace) : List (List Char) :=
  place.field.paths ++ place.path?.toList

/-- A part of a statement in which a column may be a JSON selector. -/
inductive ColumnUse where
  | selectList
  | compared (operator : Operator) (value : Bind)
  | contained (value : Bind) (negated : Bool)
  | measured (operator : Operator) (value : Bind)
  | ordered (direction : Direction)
  | assigned

namespace ColumnUse

/-- What SQLite is given for a column in a part of a statement. -/
def written (column : Reference) : ColumnUse → Fragment
  | .selectList => Sql.selectList .sqlite [column]
  | .compared operator value => condition .sqlite (.compare column operator value)
  | .contained value negated => condition .sqlite (.jsonContains column value negated)
  | .measured operator value => condition .sqlite (.jsonLength column operator value)
  | .ordered direction => orders .sqlite [⟨column, direction⟩]
  | .assigned => assignment .sqlite column

/-- The paths that are written for a column in a part of a statement. -/
def paths (column : Reference) : ColumnUse → List (List Char)
  | .selectList => (Expression.ofText (unquoteSelected column.toList)).paths
  | .compared _ _ | .ordered _ => (Expression.ofText column.toList).paths
  | .contained _ _ | .measured _ _ => (JsonPlace.ofText column.toList).paths
  | .assigned =>
    if Text.contains arrow column.toList then (JsonPlace.ofText column.toList).paths
    else (Expression.ofText column.toList).paths

end ColumnUse

/-- A text has the literal of a path in it, with a closing parenthesis or a comma after. -/
def HasLiteral (path text : List Char) : Prop :=
  ∃ front back, text = front ++ pathLiteral path ++ back ∧
    (back.head? = some ')' ∨ back.head? = some ',')

theorem HasLiteral.append {path text : List Char} (has : HasLiteral path text)
    (before after : List Char) : HasLiteral path (before ++ (text ++ after)) := by
  obtain ⟨front, back, rfl, ends⟩ := has
  refine ⟨before ++ front, back ++ after, by simp only [List.append_assoc], ?_⟩
  rcases ends with ends | ends
  · exact .inl (by rw [List.head?_append, ends, Option.some_or])
  · exact .inr (by rw [List.head?_append, ends, Option.some_or])

theorem Expression.extract_sqlite (unquoted : Bool) (field path : List Char) :
    extract .sqlite unquoted field path =
      "json_extract(".toList ++ field ++ ", ".toList ++ path ++ [')'] := rfl

/-- Every path of an expression is written as a literal. -/
theorem Expression.hasLiteral_render {expression : Expression} {path : List Char}
    (member : path ∈ expression.paths) : HasLiteral path (expression.render .sqlite) := by
  induction expression with
  | verbatim text => cases member
  | aliased base name inductionHypothesis =>
    rw [render, List.append_assoc]
    exact (inductionHypothesis member).append [] _
  | call function argument inductionHypothesis =>
    have whole : (Expression.call function argument).render .sqlite =
        (function ++ ['(']) ++ (argument.render .sqlite ++ [')']) := by
      rw [render, List.append_assoc, List.append_assoc, List.cons_append, List.singleton_append]
    rw [whole]
    exact (inductionHypothesis member).append _ _
  | selector unquoted field own inductionHypothesis =>
    rw [paths, List.mem_append, List.mem_singleton] at member
    rw [render, extract_sqlite]
    simp only [List.append_assoc]
    rcases member with inField | rfl
    · exact (inductionHypothesis inField).append _ _
    · exact ⟨"json_extract(".toList ++ (field.render .sqlite ++ ", ".toList), [')'],
        by simp only [List.append_assoc], .inl rfl⟩
  | dotted name => cases member

/-- Every path of a place is written, if a closing parenthesis or a comma follows. -/
theorem JsonPlace.hasLiteral {place : JsonPlace} {path : List Char} (member : path ∈ place.paths)
    {back : List Char} (ends : back.head? = some ')' ∨ back.head? = some ',') :
    HasLiteral path (place.field.render .sqlite ++ (place.pathArgument ++ back)) := by
  rcases List.mem_append.mp member with inField | isOwn
  · exact (Expression.hasLiteral_render inField).append [] _
  · obtain known : place.path? = some path := by simpa using isOwn
    exact ⟨place.field.render .sqlite ++ ", ".toList, back,
      by simp only [pathArgument, known, List.append_assoc], ends⟩

namespace ColumnUse

open Fragment

variable {column : Reference} {path : List Char}

theorem hasLiteral_reference (member : path ∈ (Expression.ofText column.toList).paths) :
    HasLiteral path (reference .sqlite column).text := by
  rw [reference, text_cons, text_nil, Piece.chars, wrap]
  exact (Expression.hasLiteral_render member).append [] []

theorem hasLiteral_place (member : path ∈ (JsonPlace.ofText column.toList).paths)
    {rest : Fragment} (ends : rest.text.head? = some ')' ∨ rest.text.head? = some ',')
    (before : Fragment) :
    HasLiteral path (before ++ (placeField .sqlite (.ofText column.toList) ++
      (placePath (.ofText column.toList) ++ rest))).text := by
  simp only [text_append, placeField, placePath, text_cons, text_nil, Piece.chars,
    List.append_nil]
  simpa only [List.append_nil] using (JsonPlace.hasLiteral member ends).append before.text []

/-- Every path of a column is written as a literal, in whatever part of a statement. -/
theorem hasLiteral_written {use : ColumnUse} (member : path ∈ use.paths column) :
    HasLiteral path (use.written column).text := by
  cases use with
  | selectList =>
    have whole : (written column .selectList).text =
        [] ++ ((Expression.ofText (unquoteSelected column.toList)).render .sqlite ++ []) := by
      simp [written, Sql.selectList, separated, List.intercalate, Piece.chars, wrap]
    rw [whole]
    exact (Expression.hasLiteral_render member).append [] []
  | compared operator value =>
    rw [written, condition, List.append_assoc, text_append]
    exact (hasLiteral_reference member).append [] _
  | contained value negated =>
    have whole : written column (.contained value negated) =
        ((if negated then fixed "not " else []) ++ fixed "exists (select 1 from json_each(") ++
          (placeField .sqlite (.ofText column.toList) ++ (placePath (.ofText column.toList) ++
            (fixed ") where json_each.value = json_extract(" ++ placeholder ++
              fixed ", '$'))"))) := by
      simp only [written, condition, jsonContains, List.append_assoc]
    rw [whole]
    exact hasLiteral_place member (.inl rfl) _
  | measured operator value =>
    rw [written, condition, jsonLength]
    simp only [List.append_assoc]
    exact hasLiteral_place member (.inl rfl) _
  | ordered direction =>
    have whole : (written column (.ordered direction)).text = " order by ".toList ++
        ((reference .sqlite column).text ++ (' ' :: direction.keyword.toList)) := by
      simp [written, orders, separated, List.intercalate]
    rw [whole]
    exact (hasLiteral_reference member).append _ _
  | assigned =>
    rw [written, assignment]
    rw [paths] at member
    split
    · rename_i isSelector
      rw [if_pos isSelector] at member
      rw [List.append_assoc, List.append_assoc, List.append_assoc, List.append_assoc]
      exact hasLiteral_place member (.inr rfl) _
    · rename_i isPlain
      rw [if_neg isPlain] at member
      rw [List.append_assoc, text_append]
      exact (hasLiteral_reference member).append [] _

/-- In every part of a SQLite statement, the literal of each path that a column has is read
as one string, with what follows it left as it was written, exactly if the path has no
single quote. -/
theorem literal_read_iff (use : ColumnUse) (column : Reference) {path : List Char}
    (member : path ∈ use.paths column) (rest : List Char) :
    ∃ front back, (use.written column).text = front ++ pathLiteral path ++ back ∧
      ((∃ value, readString (pathLiteral path ++ (back ++ rest)) = some (value, back ++ rest)) ↔
        '\'' ∉ path) := by
  obtain ⟨front, back, whole, ends⟩ := hasLiteral_written member
  refine ⟨front, back, whole, readString_pathLiteral_iff ?_⟩
  rcases ends with ends | ends <;> simp [ends]

/-- The path `it's` of a compared column is written, so its literal is no string. -/
theorem literal_read_iff_its :
    "it's".toList ∈ paths "a->it's" (.compared .equal (.bool true)) ∧
      ∃ front back, (written "a->it's" (.compared .equal (.bool true))).text =
          front ++ pathLiteral "it's".toList ++ back ∧
        ((∃ value, readString (pathLiteral "it's".toList ++ (back ++ [])) =
          some (value, back ++ [])) ↔ '\'' ∉ "it's".toList) := by
  have member : "it's".toList ∈ paths "a->it's" (.compared .equal (.bool true)) := by
    have selector : Expression.ofText "a->it's".toList =
        .selector false (.ofText "a".toList) "it's".toList :=
      Expression.ofText_eq_selector (by decide) (by decide) (by decide) (by decide)
    rw [paths, selector, Expression.paths]
    exact List.mem_append_right _ (List.mem_singleton.mpr rfl)
  exact ⟨member, literal_read_iff _ _ member []⟩

/-- The literal of `it's` ends at the quote of its path: the last letter and the closing
quotes are left over, together with the rest of the condition. -/
theorem readString_its :
    readString (pathLiteral "it's".toList ++ ") = ?".toList) =
      some ("$.\"it\\".toList, "s\"') = ?".toList) := rfl

end ColumnUse

end FluentSql.Sql
