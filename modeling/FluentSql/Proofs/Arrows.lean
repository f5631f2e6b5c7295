import FluentSql.Proofs.Occurrence
import FluentSql.Proofs.PathLiteral

/-!
# Arrows in selectors and paths

A selector is cut at its first arrow, a path at every arrow. Arrows do not overlap, so a path
that is put together from keys without arrows is taken apart into these keys. Escaping never
looks across an arrow, and neither makes nor breaks one: `pathLiteral_intercalate` writes the
literal of a path key by key.
-/

namespace FluentSql

namespace Text

/-- A text is cut at the pattern that follows it, if the pattern does not begin earlier. -/
theorem cutFirst_append {pattern text : List Char} (nonempty : pattern ≠ [])
    (absent : ¬ pattern <:+: text ++ pattern.dropLast) (rest : List Char) :
    cutFirst pattern (text ++ pattern ++ rest) = some (text, rest) := by
  induction text with
  | nil =>
    obtain ⟨first, others, rfl⟩ := List.exists_cons_of_ne_nil nonempty
    have front : (first :: others).isPrefixOf (first :: (others ++ rest)) :=
      List.isPrefixOf_iff_prefix.mpr ⟨rest, rfl⟩
    simp only [List.nil_append, List.cons_append, cutFirst, if_pos front]
    simp
  | cons char later inductionHypothesis =>
    have notHere : ¬ pattern.isPrefixOf (char :: (later ++ pattern ++ rest)) := by
      intro front
      apply absent
      have short : char :: later ++ pattern.dropLast <+: char :: (later ++ pattern ++ rest) := by
        rw [List.cons_append, List.prefix_cons_inj, List.append_assoc]
        exact (List.prefix_append_right_inj later).mpr
          ((List.dropLast_prefix pattern).trans (List.prefix_append pattern rest))
      have isPrefix : pattern <+: char :: (later ++ pattern ++ rest) :=
        List.isPrefixOf_iff_prefix.mp front
      refine (List.prefix_of_prefix_length_le isPrefix short ?_).isInfix
      have positive := List.length_pos_iff.mpr nonempty
      simp only [List.length_append, List.length_cons, List.length_dropLast]
      omega
    have absentLater : ¬ pattern <:+: later ++ pattern.dropLast := fun occurs =>
      absent (occurs.trans (List.suffix_cons char _).isInfix)
    rw [List.cons_append, List.cons_append, cutFirst, if_neg notHere,
      inductionHypothesis absentLater]
    rfl

end Text

namespace Sql

/-! ## The first arrow -/

/-- A text that ends with a dash does not end with an arrow. -/
theorem arrow_infix_concat_dash {text : List Char} (occurs : arrow <:+: text ++ ['-']) :
    arrow <:+: text := by
  rcases List.infix_concat_iff.mp occurs with ⟨front, atEnd⟩ | earlier
  · have last := congrArg List.getLast? atEnd
    simp [arrow] at last
  · exact earlier

theorem cutFirst_arrow {field : List Char} (noArrow : ¬ arrow <:+: field) (path : List Char) :
    Text.cutFirst arrow (field ++ arrow ++ path) = some (field, path) :=
  Text.cutFirst_append (by decide) (fun occurs => noArrow (arrow_infix_concat_dash occurs)) path

/-- An unquoting arrow begins with a plain one. -/
theorem arrow_infix_unquotingArrow : arrow <:+: unquotingArrow := ⟨[], ['>'], rfl⟩

theorem cutFirst_unquotingArrow {field : List Char} (noArrow : ¬ arrow <:+: field)
    (path : List Char) :
    Text.cutFirst unquotingArrow (field ++ unquotingArrow ++ path) = some (field, path) := by
  refine Text.cutFirst_append (by decide) (fun occurs => noArrow ?_) path
  have whole : field ++ unquotingArrow.dropLast = field ++ ['-'] ++ ['>'] := by
    simp [unquotingArrow]
  rw [whole] at occurs
  rcases List.infix_concat_iff.mp occurs with ⟨front, atEnd⟩ | earlier
  · have ends : front ++ arrow = field ++ ['-'] := by
      have parts : front ++ arrow ++ ['>'] = field ++ ['-'] ++ ['>'] := by
        rw [← atEnd]
        simp [arrow, unquotingArrow]
      exact List.append_cancel_right parts
    exact arrow_infix_concat_dash ⟨front, [], by rw [List.append_nil, ends]⟩
  · exact arrow_infix_concat_dash (arrow_infix_unquotingArrow.trans earlier)

/-- Either arrow is where a text is cut as a selector, if no arrow stands in front of it and no
unquoting one elsewhere. -/
theorem cutSelector_arrow (unquoting : Bool) {field path : List Char}
    (noArrow : ¬ arrow <:+: field)
    (plain : unquoting = false → ¬ unquotingArrow <:+: field ++ arrow ++ path) :
    cutSelector (field ++ (if unquoting then unquotingArrow else arrow) ++ path) =
      some (unquoting, field, path) := by
  cases unquoting with
  | true => rw [cutSelector, if_pos rfl, cutFirst_unquotingArrow noArrow]
  | false =>
    rw [cutSelector, if_neg (by decide), Text.cutFirst_eq_none_iff.mpr (plain rfl),
      cutFirst_arrow noArrow]

/-- What has neither a dash nor an angle does not reach across an arrow. -/
theorem infix_of_unquotingArrow {pattern before after : List Char} (noDash : '-' ∉ pattern)
    (noAngle : '>' ∉ pattern) (occurs : pattern <:+: before ++ unquotingArrow ++ after) :
    pattern <:+: before ∨ pattern <:+: after := by
  have whole : before ++ unquotingArrow ++ after = before ++ '-' :: '>' :: '>' :: after := by
    simp [unquotingArrow]
  rw [whole] at occurs
  rcases Text.infix_of_append_cons noDash occurs with inBefore | later
  · exact .inl inBefore
  · exact .inr (Text.infix_of_cons noAngle (Text.infix_of_cons noAngle later))

/-! ## Keys -/

/-- A path is split at an arrow, whatever stands on its sides. -/
theorem pathKeys_append (before after : List Char) :
    pathKeys (before ++ arrow ++ after) = pathKeys before ++ pathKeys after := by
  fun_induction pathKeys before with
  | case1 => rfl
  | case2 rest inductionHypothesis =>
    rw [List.cons_append, List.cons_append, List.cons_append, List.cons_append, pathKeys,
      inductionHypothesis, List.cons_append]
  | case3 char rest noArrow inductionHypothesis =>
    have stillNone : ∀ later, char = '-' → rest ++ arrow ++ after = '>' :: later → False := by
      intro later isDash begins
      cases rest with
      | nil => exact absurd (List.cons.inj begins).1 (by decide)
      | cons next others =>
        obtain ⟨rfl, -⟩ := List.cons.inj begins
        exact noArrow others isDash rfl
    rw [List.cons_append, List.cons_append, pathKeys, inductionHypothesis]
    · obtain ⟨first, others, keys⟩ := List.exists_cons_of_ne_nil (pathKeys_ne_nil rest)
      rw [keys]
      rfl
    · exact stillNone

theorem pathKeys_of_arrowless {key : List Char} (noArrow : ¬ arrow <:+: key) :
    pathKeys key = [key] := by
  fun_induction pathKeys key with
  | case1 => rfl
  | case2 rest => exact absurd (List.prefix_append arrow rest).isInfix noArrow
  | case3 char rest _ inductionHypothesis =>
    have inRest : ¬ arrow <:+: rest := fun occurs =>
      noArrow (occurs.trans (List.suffix_cons char rest).isInfix)
    rw [inductionHypothesis inRest]
    rfl

/-- Keys without arrows are taken apart as they were put together. -/
theorem pathKeys_intercalate :
    ∀ {keys : List (List Char)}, keys ≠ [] → (∀ key ∈ keys, ¬ arrow <:+: key) →
      pathKeys (List.intercalate arrow keys) = keys
  | [key], _, noArrow => by
    rw [List.intercalate_singleton]
    exact pathKeys_of_arrowless (noArrow key List.mem_cons_self)
  | first :: second :: rest, _, noArrow => by
    have later := pathKeys_intercalate (List.cons_ne_nil second rest) fun key member =>
      noArrow key (List.mem_cons_of_mem _ member)
    rw [List.intercalate_cons_cons, pathKeys_append, later,
      pathKeys_of_arrowless (noArrow first List.mem_cons_self)]
    rfl

theorem intercalate_pathKeys (path : List Char) :
    List.intercalate arrow (pathKeys path) = path := by
  fun_induction pathKeys path with
  | case1 => rfl
  | case2 rest inductionHypothesis =>
    obtain ⟨first, others, keys⟩ := List.exists_cons_of_ne_nil (pathKeys_ne_nil rest)
    rw [keys] at inductionHypothesis ⊢
    rw [List.intercalate_cons_cons, inductionHypothesis]
    rfl
  | case3 char rest _ inductionHypothesis =>
    obtain ⟨first, others, keys⟩ := List.exists_cons_of_ne_nil (pathKeys_ne_nil rest)
    rw [keys] at inductionHypothesis ⊢
    rw [Text.consFirst, ← inductionHypothesis]
    cases others with
    | nil => simp
    | cons second more => simp [List.intercalate_cons_cons]

/-- A path begins as its first key does. -/
theorem head?_of_head?_pathKeys {path first : List Char} {others : List (List Char)}
    (keys : pathKeys path = first :: others) {char : Char} (begins : first.head? = some char) :
    path.head? = some char := by
  obtain ⟨later, rfl⟩ := List.head?_eq_some_iff.mp begins
  rw [← intercalate_pathKeys path, keys]
  cases others with
  | nil => rw [List.intercalate_singleton, List.head?_cons]
  | cons second more => rw [List.intercalate_cons_cons]; rfl

theorem arrowless_of_mem_pathKeys {path key : List Char} (member : key ∈ pathKeys path) :
    ¬ arrow <:+: key := by
  fun_induction pathKeys path generalizing key with
  | case1 =>
    obtain rfl := List.mem_singleton.mp member
    decide
  | case2 rest inductionHypothesis =>
    rcases List.mem_cons.mp member with rfl | later
    · decide
    · exact inductionHypothesis later
  | case3 char rest noArrow inductionHypothesis =>
    obtain ⟨first, others, keys⟩ := List.exists_cons_of_ne_nil (pathKeys_ne_nil rest)
    rw [keys] at member inductionHypothesis
    rcases List.mem_cons.mp member with rfl | later
    · intro occurs
      rcases List.infix_cons_iff.mp occurs with ⟨back, atFront⟩ | inFirst
      · obtain ⟨isDash, angle⟩ := List.cons.inj atFront
        have begins : rest.head? = some '>' :=
          head?_of_head?_pathKeys keys (by rw [← angle]; rfl)
        obtain ⟨later, rfl⟩ := List.head?_eq_some_iff.mp begins
        exact noArrow later isDash.symm rfl
      · exact inductionHypothesis List.mem_cons_self inFirst
    · exact inductionHypothesis (List.mem_cons_of_mem _ later)

/-- An angle after an arrow begins a key. -/
theorem unquotingArrow_absent {field : List Char} {keys : List (List Char)}
    (noArrow : ∀ key ∈ field :: keys, ¬ arrow <:+: key)
    (noAngle : ∀ key ∈ keys, key.head? ≠ some '>') :
    ¬ unquotingArrow <:+: List.intercalate arrow (field :: keys) := by
  rintro ⟨before, after, whole⟩
  have parts : before ++ unquotingArrow ++ after = before ++ arrow ++ '>' :: after := by
    simp [arrow, unquotingArrow]
  have split := pathKeys_intercalate (List.cons_ne_nil field keys) noArrow
  rw [← whole, parts, pathKeys_append] at split
  obtain ⟨first, others, left⟩ := List.exists_cons_of_ne_nil (pathKeys_ne_nil before)
  obtain ⟨key, more, right⟩ := List.exists_cons_of_ne_nil (pathKeys_ne_nil after)
  have begins : pathKeys ('>' :: after) = ('>' :: key) :: more := by
    rw [pathKeys, right]
    · rfl
    · exact fun _ isDash => absurd isDash (by decide)
  rw [left, begins] at split
  have member : '>' :: key ∈ keys := by
    rw [← (List.cons.inj split).2]
    simp
  exact noAngle _ member rfl

/-! ## Escaping -/

/-- An ordinary character ends what escaping has in hand. -/
theorem escapeQuotesAfter_append {char : Char} (noBackslash : char ≠ '\\') (noQuote : char ≠ '\'')
    (pending : Nat) (text rest : List Char) :
    escapeQuotesAfter pending (text ++ char :: rest) =
      escapeQuotesAfter pending text ++ char :: escapeQuotes rest := by
  induction text generalizing pending with
  | nil => simp [escapeQuotesAfter, escapeQuotes, noBackslash, noQuote]
  | cons first later inductionHypothesis =>
    rw [List.cons_append, escapeQuotesAfter, escapeQuotesAfter]
    split
    · exact inductionHypothesis (pending + 1)
    · split
      · rw [inductionHypothesis]
        rfl
      · rw [inductionHypothesis, List.append_assoc, List.cons_append]

/-- Escaping goes key by key. -/
theorem escapeQuotes_intercalate : ∀ keys : List (List Char),
    escapeQuotes (List.intercalate arrow keys) = List.intercalate arrow (keys.map escapeQuotes)
  | [] => rfl
  | [only] => by simp
  | first :: second :: rest => by
    have later := escapeQuotes_intercalate (second :: rest)
    have dash : first ++ arrow ++ List.intercalate arrow (second :: rest) =
        first ++ '-' :: '>' :: List.intercalate arrow (second :: rest) := by
      simp [arrow]
    have angle : escapeQuotes ('>' :: List.intercalate arrow (second :: rest)) =
        '>' :: escapeQuotes (List.intercalate arrow (second :: rest)) :=
      escapeQuotesAfter_append (by decide) (by decide) 0 [] _
    rw [List.intercalate_cons_cons, dash, escapeQuotes,
      escapeQuotesAfter_append (by decide) (by decide), angle, later, List.map_cons, List.map_cons,
      List.map_cons, List.intercalate_cons_cons]
    simp [arrow, escapeQuotes]

/-- With a backslash in hand, a backslash is the next thing written. -/
theorem head?_escapeQuotesAfter_succ (pending : Nat) (text : List Char) :
    (escapeQuotesAfter (pending + 1) text).head? = some '\\' := by
  induction text generalizing pending with
  | nil => rfl
  | cons char rest inductionHypothesis =>
    rw [escapeQuotesAfter]
    split
    · exact inductionHypothesis (pending + 1)
    · split
      · rfl
      · rfl

/-- Escaped text begins with an angle only if the text does. -/
theorem head?_of_head?_escapeQuotes {text : List Char}
    (begins : (escapeQuotes text).head? = some '>') : text.head? = some '>' := by
  cases text with
  | nil => cases begins
  | cons char rest =>
    rw [escapeQuotes, escapeQuotesAfter] at begins
    split at begins
    · rw [head?_escapeQuotesAfter_succ] at begins
      exact absurd begins (by decide)
    · split at begins
      · simp at begins
      · exact begins

theorem arrow_infix_of_replicate {count : Nat} {text : List Char}
    (occurs : arrow <:+: List.replicate count '\\' ++ text) : arrow <:+: text := by
  induction count with
  | zero => exact occurs
  | succ count inductionHypothesis =>
    rw [List.replicate_succ, List.cons_append] at occurs
    exact inductionHypothesis (Text.infix_of_cons (by decide) occurs)

/-- Escaping makes no arrow: where a backslash is dropped, one is written with its quote. -/
theorem arrowless_escapeQuotesAfter {text : List Char} (noArrow : ¬ arrow <:+: text)
    (pending : Nat) : ¬ arrow <:+: escapeQuotesAfter pending text := by
  induction text generalizing pending with
  | nil =>
    intro occurs
    rw [escapeQuotesAfter, ← List.append_nil (List.replicate pending '\\')] at occurs
    exact noArrow (arrow_infix_of_replicate occurs)
  | cons char rest inductionHypothesis =>
    have inRest := inductionHypothesis fun occurs =>
      noArrow (occurs.trans (List.suffix_cons char rest).isInfix)
    intro occurs
    rw [escapeQuotesAfter] at occurs
    split at occurs
    · exact inRest (pending + 1) occurs
    · split at occurs
      · exact inRest 0 (Text.infix_of_cons (by decide) (Text.infix_of_cons (by decide) occurs))
      · rcases List.infix_cons_iff.mp (arrow_infix_of_replicate occurs) with ⟨back, atFront⟩ | later
        · obtain ⟨isDash, escaped⟩ := List.cons.inj atFront
          have angle : rest.head? = some '>' := head?_of_head?_escapeQuotes (by
            rw [escapeQuotes, ← escaped]
            rfl)
          obtain ⟨others, rfl⟩ := List.head?_eq_some_iff.mp angle
          exact noArrow ⟨[], others, by rw [← isDash]; rfl⟩
        · exact inRest 0 later

/-- Escaping and splitting commute. -/
theorem pathKeys_escapeQuotes (path : List Char) :
    pathKeys (escapeQuotes path) = (pathKeys path).map escapeQuotes := by
  have mapped : (pathKeys path).map escapeQuotes ≠ [] := by simpa using pathKeys_ne_nil path
  have escaped : ∀ key ∈ (pathKeys path).map escapeQuotes, ¬ arrow <:+: key := by
    rw [List.forall_mem_map]
    exact fun key member => arrowless_escapeQuotesAfter (arrowless_of_mem_pathKeys member) 0
  calc pathKeys (escapeQuotes path)
      = pathKeys (escapeQuotes (List.intercalate arrow (pathKeys path))) := by
        rw [intercalate_pathKeys]
    _ = pathKeys (List.intercalate arrow ((pathKeys path).map escapeQuotes)) := by
        rw [escapeQuotes_intercalate]
    _ = (pathKeys path).map escapeQuotes := pathKeys_intercalate mapped escaped

/-! ## Literals -/

/-- The string literal of some keys: each escaped, in double quotes and after a point. -/
def keysLiteral (keys : List (List Char)) : List Char :=
  "'$".toList ++ keys.flatMap (fun key => '.' :: '"' :: escapeQuotes key ++ ['"']) ++ ['\'']

theorem quoted_intercalate : ∀ {keys : List (List Char)}, keys ≠ [] →
    '.' :: '"' :: List.intercalate "\".\"".toList keys ++ ['"'] =
      keys.flatMap fun key => '.' :: '"' :: key ++ ['"']
  | [key], _ => by simp
  | first :: second :: rest, _ => by
    have later := quoted_intercalate (List.cons_ne_nil second rest)
    rw [List.flatMap_cons, ← later, List.intercalate_cons_cons]
    simp

/-- The literal of a path is that of its keys. -/
theorem pathLiteral_intercalate {keys : List (List Char)} (some : keys ≠ [])
    (noArrow : ∀ key ∈ keys, ¬ arrow <:+: key) :
    pathLiteral (List.intercalate arrow keys) = keysLiteral keys := by
  have mapped : keys.map escapeQuotes ≠ [] := by simpa using some
  have quoted := quoted_intercalate mapped
  rw [List.flatMap_map] at quoted
  rw [pathLiteral_eq, keyed, pathKeys_escapeQuotes, pathKeys_intercalate some noArrow,
    keysLiteral, ← quoted]
  simp

end Sql

end FluentSql
