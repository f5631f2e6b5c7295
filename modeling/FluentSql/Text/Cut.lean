/-!
# Cutting text

Texts are cut around the first occurrence of a pattern, around the last
occurrence of a character, or at every occurrence of a character. The laws beside
the functions say that a cut loses nothing but the mark it cuts at, so both parts
are shorter than the text that was cut.
-/

namespace FluentSql.Text

/-- The text before and after the first occurrence of `pattern`. -/
def cutFirst (pattern : List Char) : List Char → Option (List Char × List Char)
  | [] => if pattern.isEmpty then some ([], []) else none
  | char :: rest =>
    if pattern.isPrefixOf (char :: rest) then
      some ([], (char :: rest).drop pattern.length)
    else
      (cutFirst pattern rest).map fun parts => (char :: parts.1, parts.2)

/-- Whether `pattern` occurs in a text. -/
def contains (pattern text : List Char) : Bool := (cutFirst pattern text).isSome

/-- The text before and after the last occurrence of `mark`. -/
def cutLast (mark : Char) : List Char → Option (List Char × List Char)
  | [] => none
  | char :: rest =>
    match cutLast mark rest with
    | some (before, after) => some (char :: before, after)
    | none => if char = mark then some ([], rest) else none

/-- Put a character in front of the first of some texts. -/
def consFirst (char : Char) : List (List Char) → List (List Char)
  | [] => [[char]]
  | first :: others => (char :: first) :: others

/-- The texts between the occurrences of `mark`; a text without `mark` is one segment. -/
def segments (mark : Char) : List Char → List (List Char)
  | [] => [[]]
  | char :: rest =>
    if char = mark then [] :: segments mark rest else consFirst char (segments mark rest)

/-- A text with its ASCII capitals made small. -/
def lower (text : List Char) : List Char := text.map Char.toLower

/-- A cut at the first occurrence gives the text back around the pattern. -/
theorem append_of_cutFirst {pattern text before after : List Char}
    (cut : cutFirst pattern text = some (before, after)) : before ++ pattern ++ after = text := by
  induction text generalizing before with
  | nil =>
    unfold cutFirst at cut
    split at cut
    · simp_all
    · simp at cut
  | cons char rest inductionHypothesis =>
    unfold cutFirst at cut
    split at cut
    · rename_i found
      obtain ⟨rfl, rfl⟩ := Prod.mk.inj (Option.some.inj cut)
      obtain ⟨tail, tailEq⟩ := List.isPrefixOf_iff_prefix.mp found
      simp [← tailEq]
    · obtain ⟨parts, partsEq, same⟩ := Option.map_eq_some_iff.mp cut
      obtain ⟨rfl, rfl⟩ := Prod.mk.inj same
      simp [← inductionHypothesis partsEq]

/-- A cut at the last occurrence gives the text back around the mark. -/
theorem append_of_cutLast {mark : Char} {text before after : List Char}
    (cut : cutLast mark text = some (before, after)) : before ++ mark :: after = text := by
  induction text generalizing before with
  | nil => simp [cutLast] at cut
  | cons char rest inductionHypothesis =>
    unfold cutLast at cut
    split at cut
    · rename_i earlier later found
      obtain ⟨rfl, rfl⟩ := Prod.mk.inj (Option.some.inj cut)
      simp [inductionHypothesis found]
    · split at cut
      · rename_i same
        obtain ⟨rfl, rfl⟩ := Prod.mk.inj (Option.some.inj cut)
        simp [same]
      · simp at cut

end FluentSql.Text
