import FluentSql.Proofs.Arrows

/-!
# Escaping the keys of a path

What escaping makes of a text is said without a count of pending backslashes: `Escaped` cuts the
text at its single quotes and takes the run of backslashes before each one away with it. Such a
reading exists for every text and is the only one, by `escaped_iff`, and shows what stands in
front of a quote that is written. Arrows neither come nor go when a path is escaped, so its keys
can as well be escaped one by one: `pathLiteral_key_by_key`.
-/

namespace FluentSql.Sql

/-! ## What escaping does -/

/-- What is written for a text: each single quote, with all backslashes right before it, becomes
`\'`, and everything else stays. -/
inductive Escaped : List Char → List Char → Prop
  | plain {text : List Char} (noQuote : '\'' ∉ text) : Escaped text text
  | quote {front rest written : List Char} (noQuote : '\'' ∉ front)
      (whole : front.getLast? ≠ some '\\') (count : Nat) (later : Escaped rest written) :
    Escaped (front ++ List.replicate count '\\' ++ '\'' :: rest) (front ++ '\\' :: '\'' :: written)

/-- Backslashes are held back until it is known what follows them. -/
theorem escapeQuotesAfter_replicate (pending count : Nat) (rest : List Char) :
    escapeQuotesAfter pending (List.replicate count '\\' ++ rest) =
      escapeQuotesAfter (pending + count) rest := by
  induction count generalizing pending with
  | zero => rfl
  | succ count inductionHypothesis =>
    rw [List.replicate_succ, List.cons_append, escapeQuotesAfter, if_pos rfl,
      inductionHypothesis, Nat.add_right_comm, Nat.add_assoc]

/-- Without a quote, all backslashes are written in the end. -/
theorem escapeQuotesAfter_of_quoteless {text : List Char} (noQuote : '\'' ∉ text) (pending : Nat) :
    escapeQuotesAfter pending text = List.replicate pending '\\' ++ text := by
  induction text generalizing pending with
  | nil => rw [escapeQuotesAfter, List.append_nil]
  | cons char rest inductionHypothesis =>
    rw [List.mem_cons, not_or] at noQuote
    rw [escapeQuotesAfter, inductionHypothesis noQuote.2, inductionHypothesis noQuote.2,
      if_neg (Ne.symm noQuote.1)]
    split
    · rename_i backslash
      rw [backslash, List.replicate_succ', List.append_assoc, List.singleton_append]
    · rfl

/-- A quote takes the backslashes before it away. -/
theorem escapeQuotes_quote {front : List Char} (noQuote : '\'' ∉ front)
    (whole : front.getLast? ≠ some '\\') (count : Nat) (rest : List Char) :
    escapeQuotes (front ++ List.replicate count '\\' ++ '\'' :: rest) =
      front ++ '\\' :: '\'' :: escapeQuotes rest := by
  have run : escapeQuotes (List.replicate count '\\' ++ '\'' :: rest) =
      '\\' :: '\'' :: escapeQuotes rest := by
    rw [escapeQuotes, escapeQuotesAfter_replicate, escapeQuotesAfter, if_neg (by decide),
      if_pos rfl, escapeQuotes]
  rcases List.eq_nil_or_concat front with rfl | ⟨before, last, rfl⟩
  · exact run
  · -- The last character of the front is an ordinary one: what follows is escaped by itself.
    have noBackslash : last ≠ '\\' := by simpa using whole
    simp only [List.concat_eq_append, List.mem_append, List.mem_singleton, not_or] at noQuote
    rw [List.concat_eq_append, List.append_assoc, List.append_assoc, List.singleton_append,
      escapeQuotes, escapeQuotesAfter_append noBackslash (Ne.symm noQuote.2), run,
      escapeQuotesAfter_of_quoteless noQuote.1, List.append_assoc before, List.singleton_append]
    rfl

theorem Escaped.eq {text written : List Char} (escaped : Escaped text written) :
    written = escapeQuotes text := by
  induction escaped with
  | plain noQuote => exact (escapeQuotesAfter_of_quoteless noQuote 0).symm
  | quote noQuote whole count _ inductionHypothesis =>
    rw [escapeQuotes_quote noQuote whole, inductionHypothesis]

/-- The backslashes at the end of a text, and what stands before them. -/
theorem exists_append_replicate (text : List Char) : ∃ front count,
    text = front ++ List.replicate count '\\' ∧ front.getLast? ≠ some '\\' := by
  induction text with
  | nil => exact ⟨[], 0, rfl, by simp⟩
  | cons char rest inductionHypothesis =>
    obtain ⟨front, count, rfl, whole⟩ := inductionHypothesis
    cases front with
    | cons first others =>
      exact ⟨char :: first :: others, count, rfl, by rwa [List.getLast?_cons_cons]⟩
    | nil =>
      by_cases backslash : char = '\\'
      · exact ⟨[], count + 1, by rw [backslash, List.replicate_succ]; rfl, by simp⟩
      · exact ⟨[char], count, rfl, by simpa using backslash⟩

/-- Every text can be cut at its quotes, one after the other. -/
theorem escaped_escapeQuotes (text : List Char) : Escaped text (escapeQuotes text) := by
  by_cases quoted : '\'' ∈ text
  · obtain ⟨before, rest, cut, noQuote⟩ := List.eq_append_cons_of_mem quoted
    obtain ⟨front, count, run, whole⟩ := exists_append_replicate before
    have shorter : rest.length < text.length := by
      simp only [cut, List.length_append, List.length_cons]
      omega
    have inFront : '\'' ∉ front := fun member => noQuote (by simp [run, member])
    rw [cut, run, escapeQuotes_quote inFront whole]
    exact .quote inFront whole count (escaped_escapeQuotes rest)
  · have same : escapeQuotes text = text := escapeQuotesAfter_of_quoteless quoted 0
    rw [same]
    exact .plain quoted
termination_by text.length

/-- What is written for a text is what replacing its quotes makes of it. -/
theorem escaped_iff {text written : List Char} :
    Escaped text written ↔ written = escapeQuotes text := by
  constructor
  · exact Escaped.eq
  · rintro rfl
    exact escaped_escapeQuotes text

theorem Escaped.count_eq {text written : List Char} (escaped : Escaped text written) {char : Char}
    (ordinary : char ≠ '\\') : written.count char = text.count char := by
  induction escaped with
  | plain => rfl
  | quote _ _ count _ inductionHypothesis =>
    have none : (List.replicate count '\\').count char = 0 :=
      List.count_eq_zero.mpr fun member => ordinary (List.eq_of_mem_replicate member)
    simp only [List.count_append, List.count_cons, none, inductionHypothesis, Nat.add_zero]
    simp [Ne.symm ordinary]

/-! ## Backslashes before quotes -/

/-- Whether each single quote of a text has exactly one backslash right before it. -/
def OnceEscaped (text : List Char) : Prop :=
  ∀ before after, text = before ++ '\'' :: after →
    ∃ front, before = front ++ ['\\'] ∧ front.getLast? ≠ some '\\'

/-- A character of two texts in a row stands in the first or in the second. -/
theorem before_or_behind {left right before after : List Char} {char : Char}
    (cut : left ++ right = before ++ char :: after) :
    (∃ later, left = before ++ char :: later) ∨
      ∃ middle, before = left ++ middle ∧ right = middle ++ char :: after := by
  rcases List.append_eq_append_iff.mp cut with behind | ⟨tail, isLeft, rest⟩
  · exact .inr behind
  · cases tail with
    | nil => exact .inr ⟨[], by rw [isLeft, List.append_nil, List.append_nil], rest.symm⟩
    | cons first later =>
      obtain ⟨rfl, -⟩ := List.cons.inj rest
      exact .inl ⟨later, isLeft⟩

namespace OnceEscaped

variable {left right : List Char}

theorem of_quoteless (noQuote : '\'' ∉ left) : OnceEscaped left := by
  rintro before after rfl
  simp at noQuote

/-- A text that is put in front does not matter unless a backslash ends it. -/
theorem append (once : OnceEscaped left) (whole : left.getLast? ≠ some '\\')
    (later : OnceEscaped right) : OnceEscaped (left ++ right) := by
  intro before after cut
  rcases before_or_behind cut with ⟨others, inLeft⟩ | ⟨middle, rfl, inRight⟩
  · exact once before others inLeft
  · obtain ⟨front, rfl, single⟩ := later middle after inRight
    refine ⟨left ++ front, by rw [List.append_assoc], ?_⟩
    rw [List.getLast?_append]
    cases last : front.getLast? with
    | none => exact whole
    | some char => rwa [last] at single

/-- A text without quotes may follow a backslash. -/
theorem append_quoteless (once : OnceEscaped left) (noQuote : '\'' ∉ right) :
    OnceEscaped (left ++ right) := by
  intro before after cut
  rcases before_or_behind cut with ⟨others, inLeft⟩ | ⟨middle, -, rfl⟩
  · exact once before others inLeft
  · simp at noQuote

theorem append_quote (noQuote : '\'' ∉ left) (whole : left.getLast? ≠ some '\\') :
    OnceEscaped (left ++ ['\\', '\'']) := by
  intro before after cut
  rcases before_or_behind cut with ⟨others, rfl⟩ | ⟨middle, rfl, pair⟩
  · simp at noQuote
  · rcases middle with _ | ⟨first, _ | ⟨second, others⟩⟩
    · simp at pair
    · obtain ⟨rfl, -⟩ := List.cons.inj pair
      exact ⟨left, rfl, whole⟩
    · simp at pair

end OnceEscaped

/-- Escaping leaves one backslash before each quote. -/
theorem Escaped.onceEscaped {text written : List Char} (escaped : Escaped text written) :
    OnceEscaped written := by
  induction escaped with
  | plain noQuote => exact .of_quoteless noQuote
  | quote noQuote whole _ _ inductionHypothesis =>
    have pair := (OnceEscaped.append_quote noQuote whole).append (by simp) inductionHypothesis
    rwa [List.append_assoc] at pair

/-! ## Literals -/

/-- What is written for a key: it is escaped and put in double quotes after a point. -/
def pathStep (key : List Char) : List Char := '.' :: '"' :: escapeQuotes key ++ ['"']

theorem getLast?_pathStep (key : List Char) : (pathStep key).getLast? = some '"' :=
  List.getLast?_concat

theorem onceEscaped_pathStep (key : List Char) : OnceEscaped (pathStep key) := by
  have opened : OnceEscaped (['.', '"'] ++ escapeQuotes key) :=
    OnceEscaped.append (.of_quoteless (by decide)) (by decide)
      (escaped_escapeQuotes key).onceEscaped
  -- The key may end with a backslash, but it is a double quote that follows.
  exact opened.append_quoteless (by decide)

theorem onceEscaped_pathSteps (keys : List (List Char)) : OnceEscaped (keys.flatMap pathStep) := by
  induction keys with
  | nil => exact .of_quoteless (by simp)
  | cons key rest inductionHypothesis =>
    have whole : (pathStep key).getLast? ≠ some '\\' := by
      rw [getLast?_pathStep]
      decide
    exact (onceEscaped_pathStep key).append whole inductionHypothesis

theorem count_doubleQuote_pathStep (key : List Char) :
    (pathStep key).count '"' = 2 + key.count '"' := by
  have own : (escapeQuotes key).count '"' = key.count '"' :=
    (escaped_escapeQuotes key).count_eq (by decide)
  rw [pathStep, List.count_append, List.count_cons_of_ne (by decide), List.count_cons_self, own,
    List.count_singleton_self]
  omega

theorem count_doubleQuote_pathSteps (keys : List (List Char)) :
    (keys.flatMap pathStep).count '"' = 2 * keys.length + keys.flatten.count '"' := by
  induction keys with
  | nil => rfl
  | cons key rest inductionHypothesis =>
    rw [List.flatMap_cons, List.count_append, count_doubleQuote_pathStep, inductionHypothesis,
      List.flatten_cons, List.count_append, List.length_cons]
    omega

/-- The literal of a path is written key by key. Each key is escaped by itself, in the one way in
which its quotes can be replaced, and escaping the path before it is split gives the same keys.
Two double quotes are written for each key beside its own, and of backslashes exactly one right
before each single quote. -/
theorem pathLiteral_key_by_key {keys : List (List Char)} (nonempty : keys ≠ [])
    (noArrow : ∀ key ∈ keys, ¬ arrow <:+: key) :
    (∀ key ∈ keys, ∀ written, Escaped key written ↔ written = escapeQuotes key) ∧
      pathKeys (List.intercalate arrow keys) = keys ∧
      pathKeys (escapeQuotes (List.intercalate arrow keys)) = keys.map escapeQuotes ∧
      ∃ body, pathLiteral (List.intercalate arrow keys) = '\'' :: body ++ ['\''] ∧
        body = '$' :: keys.flatMap pathStep ∧
        body.count '"' = 2 * keys.length + keys.flatten.count '"' ∧
        OnceEscaped body := by
  refine ⟨fun _ _ _ => escaped_iff, pathKeys_intercalate nonempty noArrow, ?_, _, ?_, rfl, ?_, ?_⟩
  · rw [pathKeys_escapeQuotes, pathKeys_intercalate nonempty noArrow]
  · exact pathLiteral_intercalate nonempty noArrow
  · rw [List.count_cons_of_ne (by decide), count_doubleQuote_pathSteps]
  · have dollar : OnceEscaped ['$'] := .of_quoteless (by decide)
    exact dollar.append (by decide) (onceEscaped_pathSteps keys)

/-- Keys with backslashes before a quote and at the end, and with halves of arrows. -/
theorem pathLiteral_key_by_key_halves :
    let keys := ["it\\\\'s\\".toList, "-".toList, ">b".toList]
    keys ≠ [] ∧ (∀ key ∈ keys, ¬ arrow <:+: key) ∧
      pathLiteral (List.intercalate arrow keys) = "'$.\"it\\'s\\\".\"-\".\">b\"'".toList := by
  intro keys
  have halves : ∀ key ∈ keys, ¬ arrow <:+: key := by decide +kernel
  have nonempty : keys ≠ [] := List.cons_ne_nil _ _
  obtain ⟨-, -, -, body, literal, written, -⟩ := pathLiteral_key_by_key nonempty halves
  refine ⟨nonempty, halves, ?_⟩
  rw [literal, written]
  decide +kernel

end FluentSql.Sql
