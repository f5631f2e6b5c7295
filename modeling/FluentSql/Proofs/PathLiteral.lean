import FluentSql.Proofs.Lexing
import FluentSql.Sql.JsonPath

/-!
# Path literals as MySQL strings

In MySQL a path literal is one string whatever the path holds. What carries the proof
is `guarded`: read from inside a string, a text meets a single quote only right after a
backslash that escapes it. Escaping makes every path guarded, and writing the arrows as
`"."` keeps it so.
-/

namespace FluentSql.Sql

/-- A path text between the outer double quotes of its literal. -/
def keyed (text : List Char) : List Char :=
  List.intercalate "\".\"".toList (pathKeys text)

theorem pathKeys_ne_nil (text : List Char) : pathKeys text ≠ [] := by
  fun_cases pathKeys text with
  | case1 => simp
  | case2 rest => simp
  | case3 char rest _ =>
    cases pathKeys rest <;> simp [Text.consFirst]

@[simp] theorem keyed_nil : keyed [] = [] := rfl

@[simp] theorem keyed_arrow (rest : List Char) :
    keyed ('-' :: '>' :: rest) = '"' :: '.' :: '"' :: keyed rest := by
  rw [keyed, pathKeys, keyed]
  cases keys : pathKeys rest with
  | nil => exact absurd keys (pathKeys_ne_nil rest)
  | cons first others => simp [List.intercalate]

theorem keyed_cons {char : Char} {rest : List Char}
    (noArrow : ∀ later, char = '-' → rest = '>' :: later → False) :
    keyed (char :: rest) = char :: keyed rest := by
  rw [keyed, pathKeys, keyed]
  · rcases pathKeys rest with _ | ⟨first, _ | ⟨second, others⟩⟩ <;>
      simp [Text.consFirst, List.intercalate]
  · exact noArrow

theorem pathLiteral_eq (path : List Char) :
    pathLiteral path = '\'' :: ('$' :: '.' :: '"' :: keyed (escapeQuotes path)) ++ ['"', '\''] :=
  rfl

/-- Escaping keeps all characters but backslashes, and adds no others. -/
theorem mem_escapeQuotesAfter {char : Char} (ordinary : char ≠ '\\') (pending : Nat)
    (text : List Char) : char ∈ escapeQuotesAfter pending text ↔ char ∈ text := by
  induction text generalizing pending with
  | nil => simp [escapeQuotesAfter, ordinary]
  | cons first rest inductionHypothesis =>
    rw [escapeQuotesAfter]
    split
    · rename_i backslash
      simp [inductionHypothesis, backslash, ordinary]
    · split
      · rename_i isQuote
        simp [isQuote, inductionHypothesis, ordinary]
      · rw [List.mem_append, List.mem_cons, inductionHypothesis, List.mem_cons]
        simp [ordinary]

/-- Keys in quotes have the characters of the path but for its arrows. -/
theorem mem_keyed {char : Char} (ordinary : char ∉ ['-', '>', '"', '.']) (text : List Char) :
    char ∈ keyed text ↔ char ∈ text := by
  simp only [List.mem_cons, List.not_mem_nil, or_false, not_or] at ordinary
  obtain ⟨noDash, noArrow, noQuote, noPoint⟩ := ordinary
  fun_induction pathKeys text with
  | case1 => simp
  | case2 rest inductionHypothesis =>
    simp [inductionHypothesis, noDash, noArrow, noQuote, noPoint]
  | case3 first rest plain inductionHypothesis =>
    rw [keyed_cons plain, List.mem_cons, List.mem_cons, inductionHypothesis]

/-- Whether single quotes stand only where a backslash escapes them, for a text inside a
string that is read right after a backslash or not. -/
def guarded : Bool → List Char → Bool
  | _, [] => true
  | true, _ :: rest => guarded false rest
  | false, char :: rest =>
    if char = '\\' then guarded true rest else char ≠ '\'' && guarded false rest

/-- An ordinary character and what follows are guarded whatever was read before. -/
theorem guarded_cons {char : Char} {rest : List Char} (noBackslash : char ≠ '\\')
    (noQuote : char ≠ '\'') (later : guarded false rest) (escaped : Bool) :
    guarded escaped (char :: rest) := by
  cases escaped <;> simp [guarded, noBackslash, noQuote, later]

theorem guarded_replicate (count : Nat) {rest : List Char}
    (later : ∀ escaped, guarded escaped rest) (escaped : Bool) :
    guarded escaped (List.replicate count '\\' ++ rest) := by
  induction count generalizing escaped with
  | zero => exact later escaped
  | succ count inductionHypothesis =>
    rw [List.replicate_succ, List.cons_append]
    cases escaped
    · simpa [guarded] using inductionHypothesis true
    · simpa [guarded] using inductionHypothesis false

/-- Escaped text is guarded, however many backslashes are still pending. -/
theorem guarded_escapeQuotesAfter (pending : Nat) (text : List Char) :
    guarded false (escapeQuotesAfter pending text) := by
  induction text generalizing pending with
  | nil =>
    rw [escapeQuotesAfter, ← List.append_nil (List.replicate pending '\\')]
    exact guarded_replicate pending (fun escaped => by cases escaped <;> rfl) false
  | cons char rest inductionHypothesis =>
    rw [escapeQuotesAfter]
    split
    · exact inductionHypothesis (pending + 1)
    · rename_i noBackslash
      split
      · simpa [guarded] using inductionHypothesis 0
      · rename_i noQuote
        exact guarded_replicate pending
          (guarded_cons noBackslash noQuote (inductionHypothesis 0)) false

/-- An arrow is made of ordinary characters, and so is what is written for it. -/
theorem guarded_keyed {text : List Char} {escaped : Bool} (isGuarded : guarded escaped text) :
    guarded escaped (keyed text) := by
  fun_induction pathKeys text generalizing escaped with
  | case1 => cases escaped <;> rfl
  | case2 rest inductionHypothesis =>
    have later : guarded false rest := by
      cases escaped <;> simpa [guarded] using isGuarded
    rw [keyed_arrow]
    exact guarded_cons (by decide) (by decide) (guarded_cons (by decide) (by decide)
      (guarded_cons (by decide) (by decide) (inductionHypothesis later) false) false) escaped
  | case3 char rest noArrow inductionHypothesis =>
    rw [keyed_cons noArrow]
    cases escaped with
    | true => exact inductionHypothesis isGuarded
    | false =>
      rw [guarded] at isGuarded ⊢
      split
      · rename_i backslash
        exact inductionHypothesis (by simpa [backslash] using isGuarded)
      · rename_i noBackslash
        rw [if_neg noBackslash, Bool.and_eq_true] at isGuarded
        rw [Bool.and_eq_true]
        exact ⟨isGuarded.1, inductionHypothesis isGuarded.2⟩

namespace Lexer

/-- The lexer inside a string, right after a backslash or not. -/
def inString (escaped : Bool) (content : List Char) : Lexer :=
  if escaped then escape content else string content

theorem step_inString {char : Char} {rest : List Char} {escaped : Bool} (content : List Char)
    (isGuarded : guarded escaped (char :: rest)) :
    ∃ next, (inString escaped content).step char = (inString next (content ++ [char]), []) ∧
      guarded next rest := by
  cases escaped with
  | true => exact ⟨false, rfl, isGuarded⟩
  | false =>
    rw [guarded] at isGuarded
    by_cases backslash : char = '\\'
    · rw [if_pos backslash] at isGuarded
      exact ⟨true, by simp [inString, step, backslash], isGuarded⟩
    · rw [if_neg backslash, Bool.and_eq_true, decide_eq_true_eq] at isGuarded
      exact ⟨false, by simp [inString, step, backslash, isGuarded.1], isGuarded.2⟩

/-- A guarded text inside a string is read up to the quote after a double quote: the
double quote uses up a backslash that may stand before it. -/
theorem run_inString {text : List Char} {escaped : Bool} (content : List Char)
    (isGuarded : guarded escaped text) :
    ∃ whole, (inString escaped content).run (text ++ ['"', '\'']) =
      (between, [.string whole]) := by
  induction text generalizing escaped content with
  | nil => cases escaped <;> exact ⟨_, rfl⟩
  | cons char rest inductionHypothesis =>
    obtain ⟨next, stepped, later⟩ := step_inString content isGuarded
    obtain ⟨whole, reads⟩ := inductionHypothesis (content ++ [char]) later
    refine ⟨whole, ?_⟩
    rw [List.cons_append, run_cons, stepped, reads]
    rfl

/-- A path literal is one string. -/
theorem run_pathLiteral (path : List Char) :
    ∃ content, between.run (pathLiteral path) = (between, [.string content]) := by
  have isGuarded : guarded false ('$' :: '.' :: '"' :: keyed (escapeQuotes path)) := by
    simpa [guarded, escapeQuotes] using guarded_keyed (guarded_escapeQuotesAfter 0 path)
  obtain ⟨content, reads⟩ := run_inString [] isGuarded
  refine ⟨content, ?_⟩
  have opens : between.step '\'' = (inString false [], []) := rfl
  rw [pathLiteral_eq, List.cons_append, run_cons, opens, reads]
  rfl

end Lexer

end FluentSql.Sql
