import FluentSql.Operator
import FluentSql.Proofs.Lexing
import FluentSql.Sql.Expression
import FluentSql.Sql.Fragment

/-!
# Text that stays in its quotes

A fragment is `Spelled` if the lexer reads nothing outside of quotes but the grammar's own
words and marks, and a question mark exactly for each placeholder. Fragments are put
together without a look at their tokens: after a `Sealed` fragment, at whose end nothing
is being read, anything may follow; after any other only a `Tail`, which begins with a
separator, so that the last word of the one and the first of the other stay apart.
-/

namespace FluentSql

namespace Sql

open Fragment Lexer

/-- The words of MySQL statements: keywords, functions and the known operators. -/
def vocabulary : List (List Char) :=
  ["select", "distinct", "from", "where", "group", "order", "by", "asc", "desc", "limit", "offset",
   "for", "lock", "in", "share", "mode", "insert", "into", "values", "update", "set", "delete",
   "inner", "left", "right", "join", "on", "and", "or", "not", "between", "is", "null", "as",
   "aggregate", "like", "regexp", "json_extract", "json_unquote", "json_contains", "json_length",
   "json_set", "count", "sum", "min", "max", "avg", "date", "day", "month", "year", "time", "=",
   "!=", "<", "<=", ">", ">="].map String.toList

namespace Token

/-- Whether a token was in quotes. -/
def isQuoted : Token → Bool
  | .identifier _ | .string _ => true
  | .word _ | .mark _ => false

/-- Whether a token outside of quotes is one of the grammar's own: a word of the vocabulary,
the name of a called function in capitals or not, a number, or a mark. -/
def isOwn : Token → Bool
  | .word letters => vocabulary.contains letters || readFunctions.contains (Text.lower letters) ||
      !letters.isEmpty && letters.all Char.isDigit
  | .mark char => marks.contains char
  | .identifier _ | .string _ => false

/-- Whether a token is in quotes or the grammar's own. -/
def isContained (token : Token) : Bool := token.isQuoted || token.isOwn

end Token

namespace Lexer

/-- Whether no quote is open and a word that is being read is one of the grammar's own. -/
def isContained : Lexer → Bool
  | between => true
  | word letters => (Token.word letters).isContained
  | identifier _ | string _ | escape _ => false

/-- The word that ends at a separator. -/
def pending : Lexer → List Token
  | word letters => [.word letters]
  | between | identifier _ | string _ | escape _ => []

end Lexer

/-- A text does not go on with a word that stands before it. -/
def Apart (text : List Char) : Prop := ∀ char, text.head? = some char → char ∈ separators

/-- Whether a text begins with a separator. -/
def beginsApart : List Char → Bool
  | [] => false
  | char :: _ => char ∈ separators

theorem apart_of_begins {text : List Char} (begins : beginsApart text) (rest : List Char) :
    Apart (text ++ rest) := by
  cases text with
  | nil => cases begins
  | cons first others =>
    intro char isFirst
    obtain rfl : first = char := by simpa using isFirst
    exact of_decide_eq_true begins

theorem Apart.of_prefix {front text : List Char} (apart : Apart text) (isFront : front <+: text) :
    Apart front := by
  obtain ⟨back, rfl⟩ := isFront
  intro char first
  exact apart char (by rw [List.head?_append, first, Option.some_or])

namespace Lexer

/-- After a word, a text that keeps apart is read as if nothing stood before it. -/
theorem run_of_apart {lexer : Lexer} (contained : lexer.isContained) {text : List Char}
    (joined : lexer = between ∨ Apart text) :
    (text = [] ∧ lexer.run text = (lexer, [])) ∨
      lexer.run text = ((between.run text).1, lexer.pending ++ (between.run text).2) := by
  rcases joined with rfl | apart
  · exact .inr rfl
  · cases text with
    | nil => exact .inl ⟨rfl, rfl⟩
    | cons char rest =>
      refine .inr ?_
      cases lexer with
      | between => rfl
      | word letters => exact run_word_separator letters rest (apart char rfl)
      | identifier name => cases contained
      | string content => cases contained
      | escape content => cases contained

theorem pending_contained {lexer : Lexer} (contained : lexer.isContained) :
    ∀ token ∈ lexer.pending, token.isContained := by
  intro token member
  cases lexer with
  | word letters =>
    obtain rfl := List.mem_singleton.mp member
    exact contained
  | between => cases member
  | identifier name => cases member
  | string content => cases member
  | escape content => cases member

theorem count_pending (lexer : Lexer) : lexer.pending.count (.mark '?') = 0 := by
  cases lexer <;> rfl

/-- A word goes on over all characters that are no separators. -/
theorem run_word {text : List Char} (letters : List Char)
    (plain : ∀ char ∈ text, char ∉ separators) :
    (word letters).run text = (word (letters ++ text), []) := by
  induction text generalizing letters with
  | nil => simp
  | cons char rest inductionHypothesis =>
    have inside : char ∉ separators := plain char List.mem_cons_self
    have later := inductionHypothesis (letters ++ [char]) fun other member =>
      plain other (List.mem_cons_of_mem _ member)
    rw [run_cons, step, if_neg inside, later]
    simp

/-- A text without separators is one word. -/
theorem run_between_word {text : List Char} (some : text ≠ [])
    (plain : ∀ char ∈ text, char ∉ separators) : between.run text = (word text, []) := by
  cases text with
  | nil => exact absurd rfl some
  | cons char rest =>
    have inside : char ∉ separators := plain char List.mem_cons_self
    rw [separators, List.mem_cons, List.mem_cons, List.mem_cons, not_or, not_or, not_or] at inside
    obtain ⟨noBlank, noBacktick, noQuote, noMark⟩ := inside
    have later := run_word [char] fun other member => plain other (List.mem_cons_of_mem _ member)
    rw [run_cons, step, begin, if_neg noBlank, if_neg noBacktick, if_neg noQuote, if_neg noMark,
      later]
    rfl

end Lexer

/-- Outside of quotes a fragment has only the grammar's own tokens, and at each point as
many question marks as placeholders. -/
structure Spelled (fragment : Fragment) : Prop where
  tokens : ∀ token ∈ (between.run fragment.text).2, token.isContained
  ends : (between.run fragment.text).1.isContained
  marks : ∀ front : Fragment, front <+: fragment → questionMarks front.text = front.placeholders

/-- A spelled fragment at whose end nothing is being read. -/
structure Sealed (fragment : Fragment) : Prop extends Spelled fragment where
  closed : (between.run fragment.text).1 = between

/-- A spelled fragment that keeps apart from what stands before it. -/
structure Tail (fragment : Fragment) : Prop extends Spelled fragment where
  apart : Apart fragment.text

section Joining

variable {first second : Fragment}

/-- Spelled fragments that are kept apart are spelled together. -/
theorem Spelled.append (before : Spelled first) (after : Spelled second)
    (joined : (between.run first.text).1 = between ∨ Apart second.text) :
    Spelled (first ++ second) where
  tokens := by
    intro token member
    rw [text_append, run_append] at member
    rcases List.mem_append.mp member with early | late
    · exact before.tokens token early
    · rcases run_of_apart before.ends joined with ⟨-, reads⟩ | reads
      · rw [reads] at late
        cases late
      · rw [reads] at late
        rcases List.mem_append.mp late with isPending | isLater
        · exact pending_contained before.ends token isPending
        · exact after.tokens token isLater
  ends := by
    rw [text_append, run_append]
    rcases run_of_apart before.ends joined with ⟨-, reads⟩ | reads
    · rw [reads]
      exact before.ends
    · rw [reads]
      exact after.ends
  marks := by
    intro front isFront
    rcases List.prefix_or_prefix_of_prefix isFront (List.prefix_append first second) with
      within | ⟨tail, rfl⟩
    · exact before.marks front within
    · have isTail : tail <+: second := (List.prefix_append_right_inj first).mp isFront
      have tailText : text tail <+: second.text := by
        obtain ⟨back, rfl⟩ := isTail
        exact ⟨text back, (text_append tail back).symm⟩
      have whole := before.marks first List.prefix_rfl
      have later := after.marks tail isTail
      rw [questionMarks] at whole later ⊢
      rw [text_append, run_append, List.count_append, whole, placeholders_append, ← later]
      have apart := joined.imp_right fun apart => apart.of_prefix tailText
      rcases run_of_apart before.ends apart with ⟨isEmpty, reads⟩ | reads
      · rw [reads, isEmpty]
        rfl
      · rw [reads, List.count_append, count_pending, Nat.zero_add]

theorem Spelled.append_tail (before : Spelled first) (after : Tail second) :
    Spelled (first ++ second) :=
  before.append after.toSpelled (.inr after.apart)

theorem Sealed.append_spelled (before : Sealed first) (after : Spelled second) :
    Spelled (first ++ second) :=
  before.toSpelled.append after (.inl before.closed)

theorem Sealed.append (before : Sealed first) (after : Sealed second) :
    Sealed (first ++ second) where
  toSpelled := before.append_spelled after.toSpelled
  closed := by rw [text_append, run_append, before.closed, after.closed]

theorem Tail.append (before : Tail first) (after : Tail second) : Tail (first ++ second) where
  toSpelled := before.toSpelled.append_tail after
  apart := by
    intro char isFirst
    rw [text_append, List.head?_append] at isFirst
    cases opening : first.text.head? with
    | none => exact after.apart char (by simpa [opening] using isFirst)
    | some other =>
      obtain rfl : other = char := by simpa [opening] using isFirst
      exact before.apart other opening

end Joining

/-- What a statement reads as a whole. -/
theorem Spelled.read {fragment : Fragment} (spelled : Spelled fragment) :
    ∃ tokens, Lexer.read fragment.text = some tokens ∧ ∀ token ∈ tokens, token.isContained := by
  have ends := spelled.ends
  unfold Lexer.read
  rcases reads : between.run fragment.text with ⟨lexer, tokens⟩
  have own : ∀ token ∈ tokens, token.isContained := by
    simpa [reads] using spelled.tokens
  rw [reads] at ends
  cases lexer with
  | between => exact ⟨tokens, rfl, own⟩
  | word letters =>
    refine ⟨tokens ++ [.word letters], rfl, fun token member => ?_⟩
    rcases List.mem_append.mp member with early | late
    · exact own token early
    · obtain rfl := List.mem_singleton.mp late
      exact ends
  | identifier name => cases ends
  | string content => cases ends
  | escape content => cases ends

section Pieces

theorem sealed_nil : Sealed [] where
  tokens := by simp
  ends := rfl
  marks := by
    intro front isFront
    obtain rfl := List.prefix_nil.mp isFront
    rfl
  closed := rfl

theorem tail_nil : Tail [] where
  toSpelled := sealed_nil.toSpelled
  apart := by simp [Apart]

/-- A text in which all tokens are the grammar's own and none is a question mark. -/
theorem spelled_text {text : List Char}
    (tokens : ∀ token ∈ (between.run text).2, token.isContained ∧ token ≠ .mark '?')
    (ends : (between.run text).1.isContained) : Spelled [.text text] where
  tokens := by
    intro token member
    rw [text_cons, text_nil, Piece.chars, List.append_nil] at member
    exact (tokens token member).1
  ends := by simpa [Piece.chars] using ends
  marks := by
    intro front isFront
    rcases List.prefix_cons_iff.mp isFront with rfl | ⟨back, rfl, isBack⟩
    · rfl
    · obtain rfl := List.prefix_nil.mp isBack
      have absent : .mark '?' ∉ (between.run text).2 := fun member => (tokens _ member).2 rfl
      rw [text_cons, text_nil, Piece.chars, List.append_nil, questionMarks,
        List.count_eq_zero.mpr absent]
      rfl

theorem sealed_text {text : List Char}
    (tokens : ∀ token ∈ (between.run text).2, token.isContained ∧ token ≠ .mark '?')
    (closed : (between.run text).1 = between) : Sealed [.text text] where
  toSpelled := spelled_text tokens (by rw [closed]; rfl)
  closed := by simpa [Piece.chars] using closed

theorem sealed_placeholder : Sealed placeholder where
  tokens := by decide
  ends := by decide
  marks := by
    intro front isFront
    rcases List.prefix_cons_iff.mp isFront with rfl | ⟨back, rfl, isBack⟩
    · rfl
    · obtain rfl := List.prefix_nil.mp isBack
      rfl
  closed := by decide

/-- A text that begins with a separator keeps apart from what stands before it. -/
theorem Spelled.tail {text : String} {rest : Fragment} (spelled : Spelled (fixed text ++ rest))
    (opens : beginsApart text.toList) : Tail (fixed text ++ rest) where
  toSpelled := spelled
  apart := by
    rw [text_append, text_fixed]
    exact apart_of_begins opens _

/-- A word is closed by a text that begins with a separator and is itself sealed. -/
theorem Spelled.close {fragment : Fragment} (before : Spelled fragment) {text : String}
    (after : Sealed (fixed text))
    (opens : beginsApart text.toList) :
    Sealed (fragment ++ fixed text) where
  toSpelled := by
    have tail : Tail (fixed text ++ []) := Spelled.tail (by simpa using after.toSpelled) opens
    rw [List.append_nil] at tail
    exact before.append_tail tail
  closed := by
    have apart : Apart (fixed text).text := by simpa using apart_of_begins opens []
    rw [text_append, run_append]
    rcases run_of_apart before.ends (.inr apart) with ⟨isEmpty, -⟩ | reads
    · rw [text_fixed] at isEmpty
      rw [isEmpty] at opens
      cases opens
    · rw [reads]
      exact after.closed

/-- A sealed fragment without placeholders is sealed as one piece. -/
theorem Sealed.merge {fragment : Fragment} (whole : Sealed fragment)
    (plain : fragment.placeholders = 0) : Sealed [.text fragment.text] := by
  refine sealed_text (fun token member => ⟨whole.tokens token member, ?_⟩) whole.closed
  rintro rfl
  have counted := whole.marks fragment List.prefix_rfl
  rw [plain, questionMarks, List.count_eq_zero] at counted
  exact counted member

/-- Two sealed texts are sealed as one. -/
theorem Sealed.append_text {first second : List Char} (before : Sealed [.text first])
    (after : Sealed [.text second]) : Sealed [.text (first ++ second)] := by
  simpa [Piece.chars] using (before.append after).merge rfl

theorem sealed_separated {separator : String} (between : Sealed (fixed separator)) :
    ∀ {fragments : List Fragment}, (∀ fragment ∈ fragments, Sealed fragment) →
      Sealed (separated separator fragments)
  | [], _ => by simpa [separated, List.intercalate] using sealed_nil
  | [only], parts => by simpa [separated, List.intercalate] using parts
  | first :: second :: rest, parts => by
    have later : Sealed (separated separator (second :: rest)) :=
      sealed_separated between fun fragment member => parts fragment (List.mem_cons_of_mem _ member)
    have whole : separated separator (first :: second :: rest) =
        first ++ fixed separator ++ separated separator (second :: rest) := by
      simp [separated, List.intercalate]
    rw [whole]
    exact ((parts first List.mem_cons_self).append between).append later

/-- Spelled fragments may be separated by what begins with a separator. -/
theorem spelled_separated {separator : String} (between : Sealed (fixed separator))
    (opens : beginsApart separator.toList) :
    ∀ {fragments : List Fragment}, (∀ fragment ∈ fragments, Spelled fragment) →
      Spelled (separated separator fragments)
  | [], _ => by simpa [separated, List.intercalate] using sealed_nil.toSpelled
  | [only], parts => by simpa [separated, List.intercalate] using parts
  | first :: second :: rest, parts => by
    have later : Spelled (separated separator (second :: rest)) :=
      spelled_separated between opens fun fragment member =>
        parts fragment (List.mem_cons_of_mem _ member)
    have whole : separated separator (first :: second :: rest) =
        first ++ fixed separator ++ separated separator (second :: rest) := by
      simp [separated, List.intercalate]
    rw [whole]
    exact ((parts first List.mem_cons_self).close between opens).append_spelled later

/-- Tails follow one another. -/
theorem tail_flatMap {α : Type} {list : List α} {write : α → Fragment}
    (tails : ∀ item ∈ list, Tail (write item)) : Tail (list.flatMap write) := by
  induction list with
  | nil => exact tail_nil
  | cons first rest inductionHypothesis =>
    rw [List.flatMap_cons]
    exact (tails first List.mem_cons_self).append
      (inductionHypothesis fun item member => tails item (List.mem_cons_of_mem _ member))

end Pieces

end Sql

end FluentSql
