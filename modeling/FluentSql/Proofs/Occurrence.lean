import FluentSql.Sql.Expression

/-!
# Occurrences in cut texts

Every part that a cut or a trim leaves is an infix of the text it was taken from. What
a text does not contain is therefore not contained in any of its parts:
`mentionsNull_part` says so of `null`, and `contains_eq_true_iff` ties finding a
pattern to its occurrence.
-/

namespace FluentSql

namespace Text

/-- A pattern is found exactly where it occurs. -/
theorem contains_eq_true_iff {pattern text : List Char} :
    contains pattern text = true ↔ pattern <:+: text := by
  unfold contains
  induction text with
  | nil =>
    rw [cutFirst, List.infix_nil]
    cases pattern <;> simp
  | cons char rest inductionHypothesis =>
    rw [cutFirst, List.infix_cons_iff, ← inductionHypothesis]
    split
    · rename_i front
      simp [List.isPrefixOf_iff_prefix.mp front]
    · rename_i front
      have absent : ¬ pattern <+: char :: rest := fun occurs =>
        front (List.isPrefixOf_iff_prefix.mpr occurs)
      simp [absent]

theorem contains_eq_false_iff {pattern text : List Char} :
    contains pattern text = false ↔ ¬ pattern <:+: text := by
  rw [← contains_eq_true_iff, Bool.not_eq_true]

/-- Nothing is cut at a pattern that does not occur. -/
theorem cutFirst_eq_none_iff {pattern text : List Char} :
    cutFirst pattern text = none ↔ ¬ pattern <:+: text := by
  rw [← contains_eq_false_iff, contains, Option.isSome_eq_false_iff, Option.isNone_iff_eq_none]

theorem infix_of_cutFirst {pattern text before after : List Char}
    (cut : cutFirst pattern text = some (before, after)) :
    before <:+: text ∧ after <:+: text := by
  have whole := append_of_cutFirst cut
  constructor
  · exact ⟨[], pattern ++ after, by simpa using whole⟩
  · exact ⟨before ++ pattern, [], by simpa using whole⟩

/-- No occurrence of a pattern lies in front of the first one. -/
theorem not_infix_of_cutFirst {pattern text before after : List Char}
    (nonempty : pattern ≠ []) (cut : cutFirst pattern text = some (before, after)) :
    ¬ pattern <:+: before := by
  induction text generalizing before with
  | nil =>
    rw [cutFirst, List.isEmpty_eq_false_iff.mpr nonempty] at cut
    cases cut
  | cons char rest inductionHypothesis =>
    rw [cutFirst] at cut
    split at cut
    · obtain ⟨rfl, -⟩ := Prod.mk.inj (Option.some.inj cut)
      simpa using nonempty
    · rename_i notHere
      obtain ⟨⟨front, back⟩, found, same⟩ := Option.map_eq_some_iff.mp cut
      obtain ⟨rfl, rfl⟩ := Prod.mk.inj same
      intro occurs
      rcases List.infix_cons_iff.mp occurs with atFront | later
      · apply notHere
        rw [List.isPrefixOf_iff_prefix, ← append_of_cutFirst found]
        exact atFront.trans ⟨pattern ++ back, by simp⟩
      · exact inductionHypothesis found later

theorem infix_of_cutLast {mark : Char} {text before after : List Char}
    (cut : cutLast mark text = some (before, after)) :
    before <:+: text ∧ after <:+: text := by
  have whole := append_of_cutLast cut
  constructor
  · exact ⟨[], mark :: after, by simpa using whole⟩
  · exact ⟨before ++ [mark], [], by simpa using whole⟩

/-- Nothing is cut at a character that does not occur. -/
theorem cutLast_eq_none_iff {mark : Char} {text : List Char} :
    cutLast mark text = none ↔ mark ∉ text := by
  induction text with
  | nil => simp [cutLast]
  | cons char rest inductionHypothesis =>
    rw [cutLast, List.mem_cons, not_or, ← inductionHypothesis]
    cases later : cutLast mark rest with
    | some parts => simp
    | none =>
      by_cases same : char = mark
      · simp [same]
      · have different : ¬ mark = char := fun equal => same equal.symm
        simp [same, different]

/-- The four characters of an alias separator. -/
theorem append_of_cutAlias {text base name : List Char}
    (cut : cutAlias text = some (base, name)) :
    ∃ first second, first.toLower = 'a' ∧ second.toLower = 's' ∧
      base ++ ' ' :: first :: second :: ' ' :: name = text := by
  induction text generalizing base with
  | nil => simp [cutAlias] at cut
  | cons char rest inductionHypothesis =>
    have later :
        (cutAlias rest).map (fun parts => (char :: parts.1, parts.2)) = some (base, name) →
        ∃ first second, first.toLower = 'a' ∧ second.toLower = 's' ∧
          base ++ ' ' :: first :: second :: ' ' :: name = char :: rest := by
      intro mapped
      obtain ⟨parts, partsEq, same⟩ := Option.map_eq_some_iff.mp mapped
      obtain ⟨rfl, rfl⟩ := Prod.mk.inj same
      obtain ⟨first, second, isA, isS, whole⟩ := inductionHypothesis partsEq
      exact ⟨first, second, isA, isS, by simp [whole]⟩
    unfold cutAlias at cut
    split at cut
    · rename_i first second after
      split at cut
      · rename_i separator
        obtain ⟨rfl, rfl⟩ := Prod.mk.inj (Option.some.inj cut)
        exact ⟨first, second, separator.1, separator.2, rfl⟩
      · exact later cut
    · exact later cut

theorem infix_of_cutAlias {text base name : List Char}
    (cut : cutAlias text = some (base, name)) : base <:+: text ∧ name <:+: text := by
  obtain ⟨first, second, -, -, whole⟩ := append_of_cutAlias cut
  constructor
  · exact ⟨[], ' ' :: first :: second :: ' ' :: name, by simpa using whole⟩
  · exact ⟨base ++ [' ', first, second, ' '], [], by simpa using whole⟩

/-- There is no alias in a text without ` as ` in any case. -/
theorem cutAlias_eq_none {text : List Char}
    (absent : ¬ " as ".toList <:+: lower text) : cutAlias text = none := by
  rcases found : cutAlias text with _ | ⟨base, name⟩
  · rfl
  · obtain ⟨first, second, isA, isS, whole⟩ := append_of_cutAlias found
    refine absurd ⟨lower base, lower name, ?_⟩ absent
    rw [← whole]
    simp [lower, isA, isS]

theorem trimStart_suffix (text : List Char) : trimStart text <:+ text := List.dropWhile_suffix _

theorem trimEnd_isPrefix (text : List Char) : trimEnd text <+: text := by
  rw [trimEnd, ← List.reverse_suffix, List.reverse_reverse]
  exact List.dropWhile_suffix _

theorem trim_infix (text : List Char) : trim text <:+: text :=
  (trimEnd_isPrefix _).isInfix.trans (trimStart_suffix text).isInfix

theorem lower_infix {part text : List Char} (occurs : part <:+: text) :
    lower part <:+: lower text := by
  obtain ⟨before, after, whole⟩ := occurs
  exact ⟨lower before, lower after, by simp [← whole, lower]⟩

theorem infix_of_cons {pattern rest : List Char} {char : Char} (absent : char ∉ pattern)
    (occurs : pattern <:+: char :: rest) : pattern <:+: rest := by
  rcases List.infix_cons_iff.mp occurs with ⟨back, atFront⟩ | later
  · cases pattern with
    | nil => exact List.nil_infix
    | cons first others =>
      obtain rfl : first = char := (List.cons.inj atFront).1
      simp at absent
  · exact later

/-- A pattern without a character occurs on one side of each place of that character. -/
theorem infix_of_append_cons {pattern before after : List Char} {char : Char}
    (absent : char ∉ pattern) (occurs : pattern <:+: before ++ char :: after) :
    pattern <:+: before ∨ pattern <:+: after := by
  obtain ⟨front, back, whole⟩ := occurs
  rw [List.append_assoc] at whole
  rcases List.append_eq_append_iff.mp whole with ⟨middle, rfl, within⟩ | ⟨middle, rfl, within⟩
  · rcases List.append_eq_append_iff.mp within with ⟨rest, rfl, -⟩ | ⟨rest, rfl, later⟩
    · exact .inl ⟨front, rest, by simp⟩
    · cases rest with
      | nil => exact .inl ⟨front, [], by simp⟩
      | cons first others =>
        obtain rfl : char = first := (List.cons.inj later).1
        simp at absent
  · cases middle with
    | nil =>
      cases pattern with
      | nil => exact .inl ⟨[], before, rfl⟩
      | cons first others =>
        obtain rfl : char = first := (List.cons.inj within).1
        simp at absent
    | cons first others =>
      obtain ⟨-, rfl⟩ := List.cons.inj within
      exact .inr ⟨others, back, by simp⟩

theorem segments_ne_nil (mark : Char) (text : List Char) : segments mark text ≠ [] := by
  cases text with
  | nil => simp [segments]
  | cons char rest =>
    rw [segments]
    split
    · simp
    · cases segments mark rest <;> simp [Text.consFirst]

/-- Segments are put together again with their marks. -/
theorem intercalate_segments (mark : Char) (text : List Char) :
    List.intercalate [mark] (segments mark text) = text := by
  induction text with
  | nil => rfl
  | cons char rest inductionHypothesis =>
    rw [segments]
    rcases segments : segments mark rest with _ | ⟨first, others⟩
    · exact absurd segments (segments_ne_nil mark rest)
    · rw [segments] at inductionHypothesis
      split
      · rename_i isMark
        rw [List.intercalate_cons_cons, inductionHypothesis, isMark]
        rfl
      · rw [Text.consFirst, ← inductionHypothesis]
        cases others with
        | nil => simp
        | cons second later => simp

/-- No segment has a character that the text does not have. -/
theorem mem_of_mem_segments {mark char : Char} {text segment : List Char}
    (isSegment : segment ∈ segments mark text) (member : char ∈ segment) : char ∈ text := by
  rw [← intercalate_segments mark text]
  generalize segments mark text = segments at isSegment ⊢
  induction segments with
  | nil => cases isSegment
  | cons first others inductionHypothesis =>
    cases others with
    | nil =>
      obtain rfl := List.mem_singleton.mp isSegment
      simpa using member
    | cons second later =>
      rw [List.intercalate_cons_cons]
      rcases List.mem_cons.mp isSegment with rfl | isLater
      · simp [member]
      · exact List.mem_append_right _ (inductionHypothesis isLater)

end Text

namespace Sql

/-- No part of a text mentions `null` if the text does not. -/
theorem mentionsNull_part {part text : List Char} (occurs : part <:+: text)
    (noNull : mentionsNull text = false) : mentionsNull part = false := by
  rw [mentionsNull, Text.contains_eq_false_iff] at noNull ⊢
  exact fun mentions => noNull (mentions.trans (Text.lower_infix occurs))

/-- Asking for an unquoted value does not make a reference mention `null`. -/
theorem mentionsNull_unquoteSelected {text : List Char} (noNull : mentionsNull text = false) :
    mentionsNull (unquoteSelected text) = false := by
  unfold unquoteSelected
  split
  · exact noNull
  · split
    · rename_i field path found
      have parts := Text.infix_of_cutFirst found
      rw [mentionsNull, Text.contains_eq_false_iff] at noNull ⊢
      intro occurs
      have whole : Text.lower (field ++ unquotingArrow ++ path) =
          Text.lower field ++ '-' :: ['>', '>'] ++ Text.lower path := by
        simp [Text.lower, unquotingArrow, show ('-').toLower = '-' by decide,
          show ('>').toLower = '>' by decide]
      rw [whole, List.append_assoc, List.cons_append] at occurs
      rcases Text.infix_of_append_cons (by decide) occurs with inField | later
      · exact noNull (inField.trans (Text.lower_infix parts.1))
      · have inPath := Text.infix_of_cons (by decide) (Text.infix_of_cons (by decide) later)
        exact noNull (inPath.trans (Text.lower_infix parts.2))
    · exact noNull

/-- A select list has nothing to unquote in a reference without an arrow. -/
theorem unquoteSelected_of_arrowless {text : List Char} (arrowless : ¬ arrow <:+: text) :
    unquoteSelected text = text := by
  unfold unquoteSelected
  rw [Text.cutFirst_eq_none_iff.mpr arrowless]
  split <;> rfl

theorem infix_of_cutCall {text function argument : List Char}
    (cut : cutCall text = some (function, argument)) :
    function <:+: text ∧ argument <:+: text ∧ Text.lower function ∈ readFunctions := by
  unfold cutCall at cut
  split at cut
  · rename_i head _ outer
    split at cut
    · rename_i inner
      split at cut
      · rename_i known
        obtain ⟨rfl, rfl⟩ := Prod.mk.inj (Option.some.inj cut)
        have headInfix := (Text.infix_of_cutLast outer).1
        have parts := Text.infix_of_cutLast inner
        exact ⟨parts.1.trans headInfix, parts.2.trans headInfix, known⟩
      · simp at cut
    · simp at cut
  · simp at cut

/-- A text without an opening parenthesis is no call. -/
theorem cutCall_eq_none {text : List Char} (absent : '(' ∉ text) : cutCall text = none := by
  rcases outer : Text.cutLast ')' text with _ | ⟨head, rest⟩
  · simp [cutCall, outer]
  · have inHead : '(' ∉ head := fun member =>
      absent ((Text.infix_of_cutLast outer).1.subset member)
    simp [cutCall, outer, Text.cutLast_eq_none_iff.mpr inHead]

theorem infix_of_cutSelector {text field path : List Char} {unquoted : Bool}
    (cut : cutSelector text = some (unquoted, field, path)) :
    field <:+: text ∧ path <:+: text := by
  unfold cutSelector at cut
  split at cut
  · rename_i found
    obtain ⟨-, rfl, rfl⟩ := by simpa using cut
    exact Text.infix_of_cutFirst found
  · split at cut
    · rename_i found
      obtain ⟨-, rfl, rfl⟩ := by simpa using cut
      exact Text.infix_of_cutFirst found
    · simp at cut

/-- A text without an arrow is no selector: the unquoting arrow begins with a plain one. -/
theorem cutSelector_eq_none {text : List Char} (absent : ¬ arrow <:+: text) :
    cutSelector text = none := by
  have noUnquoting : ¬ unquotingArrow <:+: text := fun occurs =>
    absent (List.IsInfix.trans ⟨[], ['>'], rfl⟩ occurs)
  simp [cutSelector, Text.cutFirst_eq_none_iff.mpr absent,
    Text.cutFirst_eq_none_iff.mpr noUnquoting]

namespace Expression

/-- A selector that is neither an alias nor a call is read as a selector. -/
theorem ofText_eq_selector {text field path : List Char} {unquoted : Bool}
    (noNull : mentionsNull text = false) (noAlias : Text.cutAlias text = none)
    (noCall : cutCall text = none) (cut : cutSelector text = some (unquoted, field, path)) :
    ofText text = .selector unquoted (ofText field) path := by
  rw [ofText, if_neg (Bool.eq_false_iff.mp noNull)]
  split
  · rename_i found
    rw [noAlias] at found
    cases found
  · split
    · rename_i found
      rw [noCall] at found
      cases found
    · split
      · rename_i found
        rw [cut] at found
        cases found
        rfl
      · rename_i found
        rw [cut] at found
        cases found

/-- What is nothing else is a dotted name. -/
theorem ofText_eq_dotted {text : List Char} (noNull : mentionsNull text = false)
    (noAlias : Text.cutAlias text = none) (noCall : cutCall text = none)
    (noSelector : cutSelector text = none) : ofText text = .dotted text := by
  rw [ofText, if_neg (Bool.eq_false_iff.mp noNull)]
  split
  · rename_i found
    rw [noAlias] at found
    cases found
  · split
    · rename_i found
      rw [noCall] at found
      cases found
    · split
      · rename_i found
        rw [noSelector] at found
        cases found
      · rfl

end Expression

end Sql

end FluentSql
