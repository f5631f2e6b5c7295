import FluentSql.Text.Cut

/-!
# Tokens of MySQL statements

A lexer for the part of MySQL that statements are written in: identifiers in backticks,
strings in single quotes with backslash escapes, marks of one character, and words,
which are the longest runs of anything else. It reads one character at a time, so a run
over a text is a run over its front and then over its back (`run_append`).

A doubled quote ends one token here and begins the next. MySQL reads the two as one
token with a quote in it; either way the same characters stand outside of quotes.
-/

namespace FluentSql.Sql

/-- A token, quoted ones as they are written between their quotes. -/
inductive Token where
  | identifier (name : List Char)
  | string (content : List Char)
  | word (letters : List Char)
  | mark (char : Char)
deriving DecidableEq, Repr

/-- The characters that are tokens of their own. -/
def marks : List Char := [',', '.', '(', ')', '*', '?']

/-- The characters that end a word: blanks, marks and opening quotes. -/
def separators : List Char := ' ' :: '`' :: '\'' :: marks

/-- What the lexer is reading, with what it has read of it. -/
inductive Lexer where
  | between
  | word (letters : List Char)
  | identifier (name : List Char)
  | string (content : List Char)
  /-- A string right after a backslash. -/
  | escape (content : List Char)
deriving DecidableEq, Repr

namespace Lexer

/-- Read a character at which a new token may begin. -/
def begin (char : Char) : Lexer × List Token :=
  if char = ' ' then (between, [])
  else if char = '`' then (identifier [], [])
  else if char = '\'' then (string [], [])
  else if char ∈ marks then (between, [.mark char])
  else (word [char], [])

/-- Read one character: what is being read next, and the tokens that ended. -/
def step : Lexer → Char → Lexer × List Token
  | between, char => begin char
  | word letters, char =>
    if char ∈ separators then ((begin char).1, .word letters :: (begin char).2)
    else (word (letters ++ [char]), [])
  | identifier name, char =>
    if char = '`' then (between, [.identifier name]) else (identifier (name ++ [char]), [])
  | string content, char =>
    if char = '\'' then (between, [.string content])
    else if char = '\\' then (escape (content ++ [char]), [])
    else (string (content ++ [char]), [])
  | escape content, char => (string (content ++ [char]), [])

/-- Read a text. -/
def run (lexer : Lexer) : List Char → Lexer × List Token
  | [] => (lexer, [])
  | char :: rest =>
    let (next, ended) := lexer.step char
    ((run next rest).1, ended ++ (run next rest).2)

/-- The tokens of a whole text, if no quote is open at its end. -/
def read (text : List Char) : Option (List Token) :=
  match run between text with
  | (between, tokens) => some tokens
  | (word letters, tokens) => some (tokens ++ [.word letters])
  | _ => none

/-- The number of question marks outside of quotes. -/
def questionMarks (text : List Char) : Nat := (run between text).2.count (.mark '?')

@[simp] theorem run_nil (lexer : Lexer) : lexer.run [] = (lexer, []) := rfl

theorem run_cons (lexer : Lexer) (char : Char) (rest : List Char) :
    lexer.run (char :: rest) = (((lexer.step char).1.run rest).1,
      (lexer.step char).2 ++ ((lexer.step char).1.run rest).2) := rfl

/-- Texts are read one after the other. -/
theorem run_append (lexer : Lexer) (first second : List Char) :
    lexer.run (first ++ second) = (((lexer.run first).1.run second).1,
      (lexer.run first).2 ++ ((lexer.run first).1.run second).2) := by
  induction first generalizing lexer with
  | nil => simp
  | cons char rest inductionHypothesis =>
    rw [List.cons_append, run_cons, inductionHypothesis, run_cons]
    simp [List.append_assoc]

/-- At a separator a word ends and the reading goes on as between tokens. -/
theorem run_word_separator (letters : List Char) {char : Char} (rest : List Char)
    (separates : char ∈ separators) :
    (word letters).run (char :: rest) =
      ((between.run (char :: rest)).1, .word letters :: (between.run (char :: rest)).2) := by
  simp [run_cons, step, separates]

/-- An identifier without backticks is read up to its closing backtick. -/
theorem run_identifier (name : List Char) {text : List Char} (plain : '`' ∉ text) :
    (identifier name).run (text ++ ['`']) = (between, [.identifier (name ++ text)]) := by
  induction text generalizing name with
  | nil => simp [run_cons, step]
  | cons char rest inductionHypothesis =>
    rw [List.mem_cons, not_or] at plain
    have different : ¬ char = '`' := fun equal => plain.1 equal.symm
    rw [List.cons_append, run_cons]
    simp [step, different, inductionHypothesis (name ++ [char]) plain.2]

end Lexer

end FluentSql.Sql
