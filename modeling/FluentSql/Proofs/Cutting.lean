import FluentSql.Proofs.Trimming

/-!
# Cuts beside a character that they do not look for

A pattern does not reach across a character that it does not have. So a text with such a
character in it is cut before the character if that part is cut, and behind it otherwise, and
what stands on the other side is handed through. The same goes for the cut at an alias, which
looks for the small letters of ` as `, and for trimming, which stops at every visible character.
-/

namespace FluentSql.Text

/-- A pattern at the front of a text ends before a character that it does not have. -/
theorem prefix_append_cons_iff {pattern before after : List Char} {char : Char}
    (absent : char ∉ pattern) : pattern <+: before ++ char :: after ↔ pattern <+: before := by
  refine ⟨fun front => ?_, fun front => front.trans (List.prefix_append _ _)⟩
  have marked : before ++ [char] <+: before ++ char :: after := ⟨after, by simp⟩
  rcases List.prefix_or_prefix_of_prefix front marked with short | long
  · rcases List.prefix_concat_iff.mp short with rfl | inBefore
    · simp at absent
    · exact inBefore
  · exact absurd (long.subset (List.mem_concat_self)) absent

/-! ## The alias -/

/-- A text is cut at its first ` as `, in capitals or not. -/
theorem cutAlias_cons (char : Char) (rest : List Char) :
    cutAlias (char :: rest) =
      if " as ".toList.isPrefixOf (lower (char :: rest)) then some ([], rest.drop 3)
      else (cutAlias rest).map fun parts => (char :: parts.1, parts.2) := by
  conv => lhs; unfold cutAlias
  split
  · rename_i first second after
    simp [lower, @eq_comm _ 'a', @eq_comm _ 's']
  · rename_i other
    rw [if_neg]
    intro front
    obtain ⟨back, whole⟩ := List.isPrefixOf_iff_prefix.mp front
    rcases rest with _ | ⟨first, _ | ⟨second, _ | ⟨last, after⟩⟩⟩
    · simp [lower] at whole
    · simp [lower] at whole
    · simp [lower] at whole
    · simp only [lower, List.map_cons] at whole
      obtain ⟨begins, -, -, ends, -⟩ : ' ' = char.toLower ∧ 'a' = first.toLower ∧
          's' = second.toLower ∧ ' ' = last.toLower ∧ back = after.map Char.toLower := by
        simpa using whole
      -- The blanks around `as` have no capitals.
      rw [(toLower_eq_iff (by decide)).mp begins.symm,
        (toLower_eq_iff (by decide)).mp ends.symm] at other
      exact other first second after rfl rfl

/-- A text has no alias exactly if ` as ` does not occur in it, in capitals or not. -/
theorem cutAlias_eq_none_iff {text : List Char} :
    cutAlias text = none ↔ ¬ " as ".toList <:+: lower text := by
  refine ⟨fun none => ?_, cutAlias_eq_none⟩
  induction text with
  | nil => simp [lower]
  | cons char rest inductionHypothesis =>
    rw [cutAlias_cons] at none
    split at none
    · cases none
    · rename_i front
      intro occurs
      rcases List.infix_cons_iff.mp occurs with here | later
      · exact front (List.isPrefixOf_iff_prefix.mpr here)
      · exact inductionHypothesis (Option.map_eq_none_iff.mp none) later

/-- There is no alias in front of the first one. -/
theorem cutAlias_base_eq_none {text base name : List Char}
    (cut : cutAlias text = some (base, name)) : cutAlias base = none := by
  rw [cutAlias_eq_none_iff]
  induction text generalizing base with
  | nil => cases cut
  | cons char rest inductionHypothesis =>
    rw [cutAlias_cons] at cut
    split at cut
    · obtain ⟨rfl, rfl⟩ := Prod.mk.inj (Option.some.inj cut)
      simp [lower]
    · rename_i notHere
      obtain ⟨⟨front, back⟩, found, same⟩ := Option.map_eq_some_iff.mp cut
      obtain ⟨rfl, rfl⟩ := Prod.mk.inj same
      intro occurs
      rcases List.infix_cons_iff.mp occurs with atFront | later
      · apply notHere
        obtain ⟨first, second, -, -, whole⟩ := append_of_cutAlias found
        rw [List.isPrefixOf_iff_prefix, ← whole]
        exact atFront.trans ⟨lower (' ' :: first :: second :: ' ' :: back), by simp [lower]⟩
      · exact inductionHypothesis found later

/-- A text is cut at the first place where ` as ` begins, in capitals or not. -/
theorem cutAlias_eq_some_iff {text before after : List Char} :
    cutAlias text = some (before, after) ↔
      ∃ separator, text = before ++ separator ++ after ∧ lower separator = " as ".toList ∧
        ¬ " as ".toList <:+: lower (before ++ separator.dropLast) := by
  have short : ∀ front separator : List Char,
      lower (front ++ separator.dropLast) <+: lower (front ++ separator ++ after) := by
    intro front separator
    rw [List.append_assoc]
    exact ((List.prefix_append_right_inj front).mpr
      ((List.dropLast_prefix separator).trans (List.prefix_append separator after))).map _
  constructor
  · intro cut
    induction text generalizing before with
    | nil => cases cut
    | cons char rest inductionHypothesis =>
      rw [cutAlias_cons] at cut
      split at cut
      · rename_i front
        have here := List.prefix_iff_eq_take.mp (List.isPrefixOf_iff_prefix.mp front)
        obtain ⟨rfl, rfl⟩ := Prod.mk.inj (Option.some.inj cut)
        refine ⟨(char :: rest).take 4, by simp, ?_, fun occurs => ?_⟩
        · rw [lower, List.map_take]
          exact here.symm
        · have long := occurs.length_le
          simp only [lower, List.length_map, List.length_append, List.length_dropLast,
            List.length_take, List.length_nil] at long
          have four : " as ".toList.length = 4 := rfl
          omega
      · rename_i notHere
        obtain ⟨⟨front, back⟩, found, same⟩ := Option.map_eq_some_iff.mp cut
        obtain ⟨rfl, rfl⟩ := Prod.mk.inj same
        obtain ⟨separator, whole, separates, first⟩ := inductionHypothesis found
        refine ⟨separator, by simp [whole], separates, fun occurs => ?_⟩
        rcases List.infix_cons_iff.mp occurs with here | later
        · apply notHere
          rw [List.isPrefixOf_iff_prefix, whole]
          exact here.trans (short (char :: front) separator)
        · exact first later
  · rintro ⟨separator, rfl, separates, first⟩
    have four : separator.length = 4 := by simpa [lower] using congrArg List.length separates
    induction before with
    | nil =>
      obtain ⟨char, others, rfl⟩ := List.exists_cons_of_length_eq_add_one four
      have front : " as ".toList <+: lower (char :: (others ++ after)) := by
        rw [← separates, ← List.cons_append, lower, lower, List.map_append]
        exact List.prefix_append _ _
      have three : others.length = 3 := by simpa using four
      rw [List.nil_append, List.cons_append, cutAlias_cons,
        if_pos (List.isPrefixOf_iff_prefix.mpr front), ← three, List.drop_left]
    | cons char later inductionHypothesis =>
      have notHere : ¬ " as ".toList.isPrefixOf (lower (char :: (later ++ separator ++ after))) := by
        intro front
        refine first (List.prefix_of_prefix_length_le (List.isPrefixOf_iff_prefix.mp front)
          (short (char :: later) separator) ?_).isInfix
        simp [lower, four]
      have absent : ¬ " as ".toList <:+: lower (later ++ separator.dropLast) := fun occurs =>
        first (occurs.trans (List.suffix_cons char.toLower _).isInfix)
      rw [List.cons_append, List.cons_append, cutAlias_cons, if_neg notHere,
        inductionHypothesis absent]
      rfl

/-- An alias stands on one side of every character that is not looked for. -/
theorem cutAlias_append_cons {char : Char} (absent : char.toLower ∉ " as ".toList)
    (before after : List Char) :
    cutAlias (before ++ char :: after) =
      match cutAlias before with
      | some parts => some (parts.1, parts.2 ++ char :: after)
      | none => (cutAlias after).map fun parts => (before ++ char :: parts.1, parts.2) := by
  have prefix_lower : ∀ text : List Char,
      " as ".toList.isPrefixOf (lower (text ++ char :: after)) =
        " as ".toList.isPrefixOf (lower text) := by
    intro text
    rw [Bool.eq_iff_iff, List.isPrefixOf_iff_prefix, List.isPrefixOf_iff_prefix, lower, lower,
      List.map_append, List.map_cons, prefix_append_cons_iff absent]
  induction before with
  | nil =>
    have here := prefix_lower []
    rw [List.nil_append] at here ⊢
    rw [cutAlias_cons, here]
    rfl
  | cons first rest inductionHypothesis =>
    rw [List.cons_append, cutAlias_cons, cutAlias_cons, ← List.cons_append, prefix_lower,
      inductionHypothesis]
    split
    · rename_i front
      have long := (List.isPrefixOf_iff_prefix.mp front).length_le
      have enough : 3 ≤ rest.length := by
        simpa [lower] using long
      rw [List.drop_append_of_le_length enough]
    · cases cutAlias rest with
      | some parts => rfl
      | none => simp [Function.comp_def]

/-! ## The last occurrence -/

/-- A text is cut in its later part if the mark stands there. -/
theorem cutLast_append_eq (mark : Char) (before after : List Char) :
    cutLast mark (before ++ after) =
      match cutLast mark after with
      | some parts => some (before ++ parts.1, parts.2)
      | none => (cutLast mark before).map fun parts => (parts.1, parts.2 ++ after) := by
  induction before with
  | nil => cases cut : cutLast mark after <;> simp [cut, cutLast]
  | cons char rest inductionHypothesis =>
    rw [List.cons_append, cutLast, inductionHypothesis, cutLast]
    cases cutLast mark after with
    | some parts => rfl
    | none =>
      cases cutLast mark rest with
      | some parts => rfl
      | none => by_cases here : char = mark <;> simp [here]

/-! ## Trimming -/

/-- Trimming stops at a text without blanks. -/
theorem trim_append_append {visible : List Char} (nonempty : visible ≠ [])
    (noBlank : ∀ char ∈ visible, isBlank char = false) (before after : List Char) :
    trim (before ++ visible ++ after) = trimStart before ++ visible ++ trimEnd after := by
  have stops : ∀ {text : List Char} (rest : List Char), text ≠ [] →
      (∀ char ∈ text, isBlank char = false) → (text ++ rest).dropWhile isBlank = text ++ rest := by
    intro text rest nonempty noBlank
    obtain ⟨first, others, rfl⟩ := List.exists_cons_of_ne_nil nonempty
    rw [List.cons_append, List.dropWhile_cons_of_neg]
    simp [noBlank first List.mem_cons_self]
  have start : trimStart (before ++ visible ++ after) = trimStart before ++ (visible ++ after) := by
    rw [trimStart, List.append_assoc, List.dropWhile_append, stops after nonempty noBlank]
    split
    · rename_i allBlank
      rw [trimStart, List.isEmpty_iff.mp allBlank, List.nil_append]
    · rfl
  have ends : ∀ front : List Char,
      trimEnd (front ++ (visible ++ after)) = front ++ visible ++ trimEnd after := by
    intro front
    have backwards : visible.reverse ++ front.reverse = (front ++ visible).reverse := by simp
    rw [trimEnd, trimEnd, ← List.append_assoc, List.reverse_append, List.dropWhile_append,
      ← backwards, stops front.reverse (by simpa using nonempty) (by simpa using noBlank)]
    split
    · rename_i allBlank
      simp [List.isEmpty_iff.mp allBlank]
    · simp
  rw [trim, start, ends]

end FluentSql.Text
