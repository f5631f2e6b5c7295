import FluentSql.Proofs.Occurrence

/-!
# Blanks at the ends, and small letters

Trimming a text takes the blanks at its ends away, however many were put there, and leaves a text
with none (`trim_padded`, `trimmed_trim`). Making letters small neither makes nor removes a blank,
so it does not matter which of the two is done first (`trim_lower`).
-/

namespace FluentSql.Text

/-! ## Trimming -/

/-- A text without a blank at either end. -/
structure Trimmed (text : List Char) : Prop where
  begins : ∀ char, text.head? = some char → isBlank char = false
  ends : ∀ char, text.getLast? = some char → isBlank char = false

theorem trimEnd_eq_reverse (text : List Char) : trimEnd text = (trimStart text.reverse).reverse :=
  rfl

theorem isBlank_head?_trimStart {text : List Char} {char : Char}
    (first : (trimStart text).head? = some char) : isBlank char = false := by
  have visible := List.head?_dropWhile_not isBlank text
  rw [trimStart] at first
  rw [first] at visible
  exact visible

theorem trimStart_eq_self {text : List Char}
    (begins : ∀ char, text.head? = some char → isBlank char = false) : trimStart text = text := by
  cases text with
  | nil => rfl
  | cons char rest =>
    rw [trimStart, List.dropWhile_cons_of_neg]
    rw [begins char rfl]
    decide

theorem trimmed_trim (text : List Char) : Trimmed (trim text) where
  begins char first := by
    obtain ⟨rest, whole⟩ := trimEnd_isPrefix (trimStart text)
    have begins : (trimStart text).head? = some char := by
      rw [← whole, List.head?_append]
      exact Option.or_eq_some_iff.mpr (.inl first)
    exact isBlank_head?_trimStart begins
  ends char last := by
    rw [trim, trimEnd_eq_reverse, List.getLast?_reverse] at last
    exact isBlank_head?_trimStart last

/-- There is nothing to trim exactly where no end is blank. -/
theorem trim_eq_self_iff {text : List Char} : trim text = text ↔ Trimmed text := by
  constructor
  · intro same
    rw [← same]
    exact trimmed_trim text
  · intro trimmed
    rw [trim, trimStart_eq_self trimmed.begins, trimEnd_eq_reverse, trimStart_eq_self,
      List.reverse_reverse]
    rw [List.head?_reverse]
    exact trimmed.ends

section Padding

variable {before after : List Char} (blankBefore : ∀ char ∈ before, isBlank char = true)
  (blankAfter : ∀ char ∈ after, isBlank char = true) (text : List Char)

include blankAfter in
theorem trimEnd_append_of_blank : trimEnd (text ++ after) = trimEnd text := by
  rw [trimEnd_eq_reverse, trimEnd_eq_reverse, List.reverse_append, trimStart, trimStart,
    List.dropWhile_append_of_pos]
  intro char member
  exact blankAfter char (List.mem_reverse.mp member)

include blankBefore blankAfter in
/-- Blanks around a text are trimmed away. -/
theorem trim_padded : trim (before ++ text ++ after) = trim text := by
  rw [trim, trim, List.append_assoc, trimStart, List.dropWhile_append_of_pos blankBefore,
    List.dropWhile_append]
  split
  · rename_i nothing
    have allBlank : (after ++ []).dropWhile isBlank = [] :=
      List.dropWhile_append_of_pos blankAfter
    rw [List.append_nil] at allBlank
    rw [allBlank, trimStart, List.isEmpty_iff.mp nothing]
  · exact trimEnd_append_of_blank blankAfter _

end Padding

/-! ## Small letters -/

/-- A capital is 32 places before its small letter. -/
theorem toNat_toLower (char : Char) : char.toLower.toNat =
    if 65 ≤ char.toNat ∧ char.toNat ≤ 90 then char.toNat + 32 else char.toNat := by
  delta Char.toLower
  split
  · rename_i capital
    have range : 65 ≤ char.toNat ∧ char.toNat ≤ 90 := by
      simpa [UInt32.le_iff_toNat_le] using capital
    rw [if_pos range]
    have small : char.toNat + 32 < 4294967296 := by omega
    exact (UInt32.toNat_add char.val 32).trans (Nat.mod_eq_of_lt small)
  · rename_i other
    rw [if_neg]
    simpa [UInt32.le_iff_toNat_le] using other

/-- No letter is blank, be it a capital or a small one. -/
theorem isBlank_toLower (char : Char) : isBlank char.toLower = isBlank char := by
  have lowered := toNat_toLower char
  split at lowered
  · rename_i capital
    have visible : ∀ letter : Char, 65 ≤ letter.toNat → letter.toNat ≤ 122 →
        isBlank letter = false := by
      intro letter least most
      simp [isBlank, blankRanges]
      omega
    rw [visible char capital.1 (by omega), visible char.toLower (by omega) (by omega)]
  · rw [Char.toNat_inj.mp lowered]

theorem isUpper_iff_toNat {char : Char} :
    char.isUpper = true ↔ 65 ≤ char.toNat ∧ char.toNat ≤ 90 := by
  delta Char.isUpper
  simp [UInt32.le_iff_toNat_le]

theorem isLower_iff_toNat {char : Char} :
    char.isLower = true ↔ 97 ≤ char.toNat ∧ char.toNat ≤ 122 := by
  delta Char.isLower
  simp [UInt32.le_iff_toNat_le]

/-- No capitals are left. -/
theorem isUpper_of_mem_lower {text : List Char} {char : Char} (member : char ∈ lower text) :
    char.isUpper = false := by
  obtain ⟨letter, -, rfl⟩ := List.mem_map.mp member
  have lowered := toNat_toLower letter
  rw [← Bool.not_eq_true, isUpper_iff_toNat]
  split at lowered <;> omega

/-- There is nothing to make small exactly where no letter is a capital. -/
theorem lower_eq_self_iff {text : List Char} :
    lower text = text ↔ ∀ char ∈ text, char.isUpper = false := by
  constructor
  · intro same char member
    rw [← same] at member
    exact isUpper_of_mem_lower member
  · intro small
    refine (List.map_congr_left fun char member => ?_).trans (List.map_id text)
    have lowered := toNat_toLower char
    rw [if_neg] at lowered
    · exact Char.toNat_inj.mp lowered
    · rw [← isUpper_iff_toNat, small char member]
      decide

/-- What is no letter stays what it is, and nothing else becomes it. -/
theorem toLower_eq_iff {char other : Char} (caseless : other.isAlpha = false) :
    char.toLower = other ↔ char = other := by
  have lowered := toNat_toLower char
  delta Char.isAlpha at caseless
  rw [Bool.or_eq_false_iff, ← Bool.not_eq_true, ← Bool.not_eq_true, isUpper_iff_toNat,
    isLower_iff_toNat] at caseless
  rw [← Char.toNat_inj, ← Char.toNat_inj, lowered]
  split <;> omega

theorem mem_lower_iff {text : List Char} {char : Char} (caseless : char.isAlpha = false) :
    char ∈ lower text ↔ char ∈ text := by
  rw [lower, List.mem_map]
  simp only [toLower_eq_iff caseless, exists_eq_right]

theorem trimStart_lower (text : List Char) : trimStart (lower text) = lower (trimStart text) := by
  rw [trimStart, trimStart, lower, lower, List.dropWhile_map]
  congr 2
  exact funext isBlank_toLower

/-- A text can be trimmed before its letters are made small or afterwards. -/
theorem trim_lower (text : List Char) : trim (lower text) = lower (trim text) := by
  have backwards : ∀ text : List Char, (lower text).reverse = lower text.reverse :=
    fun text => (List.map_reverse).symm
  rw [trim, trim, trimStart_lower, trimEnd_eq_reverse, trimEnd_eq_reverse, backwards,
    trimStart_lower, backwards]

end FluentSql.Text
