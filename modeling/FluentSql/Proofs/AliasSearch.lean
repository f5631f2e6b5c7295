import FluentSql.Proofs.Cutting
import FluentSql.Proofs.Slicing
import FluentSql.Proofs.Unquoting

/-!
# Searching for the alias in bytes

An alias is looked for in the bytes of a reference: a blank, the letters `as` in capitals or not,
and a blank. No byte of a longer character is mistaken for one of these four, so a place that is
found lies between two characters, and the text is cut there as it is cut character by character
(`findAlias?_utf8`). The place is the first one (`findAlias?_eq_some_iff`), so in front of it there
is no alias, and the label of a reference is read off what stands behind it.
-/

namespace FluentSql

namespace Text

/-! ## The search -/

/-- Four bytes that separate an alias. Setting one bit makes a capital small. -/
def separates : List UInt8 → Bool
  | [first, second, third, fourth] =>
    first == 0x20 && fourth == 0x20 && (second ||| 0x20) == 0x61 && (third ||| 0x20) == 0x73
  | _ => false

/-- The runs of four bytes, in order. -/
def windows (bytes : List UInt8) : List (List UInt8) :=
  (List.range (bytes.length - 3)).map fun place => (bytes.drop place).take 4

/-- The place in the bytes at which an alias is separated. -/
def findAlias? (bytes : List UInt8) : Option Nat :=
  if bytes.length < 4 then none else (windows bytes).findIdx? separates

/-- A blank, an `a` or `A`, an `s` or `S` and a blank stand at a place of the bytes. -/
def SeparatorAt (bytes : List UInt8) (place : Nat) : Prop :=
  ∃ second third : UInt8, (second = 0x61 ∨ second = 0x41) ∧ (third = 0x73 ∨ third = 0x53) ∧
    [0x20, second, third, 0x20] <+: bytes.drop place

/-- With the bit set, a byte is that of a small letter if it is the small letter or its capital. -/
theorem small_letter_iff : ∀ {letter : UInt8}, letter = 0x61 ∨ letter = 0x73 → ∀ byte : UInt8,
    (byte ||| 0x20) = letter ↔ byte = letter ∨ byte = letter - 0x20 := by
  have each : ∀ value < 256, ∀ letter ∈ [(0x61 : UInt8), 0x73],
      (UInt8.ofNat value ||| 0x20) = letter ↔
        UInt8.ofNat value = letter ∨ UInt8.ofNat value = letter - 0x20 := by
    decide +kernel
  intro letter known byte
  have found := each byte.toNat byte.toNat_lt letter (by simpa using known)
  rwa [UInt8.ofNat_toNat] at found

theorem separates_iff {run : List UInt8} :
    separates run ↔ ∃ second third : UInt8, (second = 0x61 ∨ second = 0x41) ∧
      (third = 0x73 ∨ third = 0x53) ∧ run = [0x20, second, third, 0x20] := by
  constructor
  · intro found
    unfold separates at found
    split at found
    · rename_i first second third fourth
      simp only [Bool.and_eq_true, beq_iff_eq] at found
      obtain ⟨⟨⟨rfl, rfl⟩, isA⟩, isS⟩ := found
      exact ⟨second, third, (small_letter_iff (.inl rfl) second).mp isA,
        (small_letter_iff (.inr rfl) third).mp isS, rfl⟩
    · cases found
  · rintro ⟨second, third, isA, isS, rfl⟩
    simp only [separates, Bool.and_eq_true, beq_iff_eq]
    exact ⟨⟨⟨trivial, trivial⟩, (small_letter_iff (.inl rfl) second).mpr isA⟩,
      (small_letter_iff (.inr rfl) third).mpr isS⟩

theorem length_windows (bytes : List UInt8) : (windows bytes).length = bytes.length - 3 := by
  rw [windows, List.length_map, List.length_range]

theorem getElem_windows {bytes : List UInt8} {place : Nat}
    (inside : place < (windows bytes).length) :
    (windows bytes)[place] = (bytes.drop place).take 4 := by
  simp only [windows, List.getElem_map, List.getElem_range]

/-- A separator stands where the run of four bytes separates. -/
theorem separatorAt_iff {bytes : List UInt8} {place : Nat} :
    SeparatorAt bytes place ↔
      ∃ inside : place < (windows bytes).length, separates (windows bytes)[place] := by
  constructor
  · rintro ⟨second, third, isA, isS, front⟩
    have four := front.length_le
    rw [List.length_drop, List.length_cons, List.length_cons, List.length_cons,
      List.length_singleton] at four
    have inside : place < (windows bytes).length := by
      rw [length_windows]
      omega
    refine ⟨inside, separates_iff.mpr ⟨second, third, isA, isS, ?_⟩⟩
    rw [getElem_windows]
    exact (List.prefix_iff_eq_take.mp front).symm
  · rintro ⟨inside, found⟩
    obtain ⟨second, third, isA, isS, same⟩ := separates_iff.mp found
    refine ⟨second, third, isA, isS, ?_⟩
    rw [← same, getElem_windows]
    exact List.take_prefix 4 _

/-- The search finds the first place with a separator. -/
theorem findAlias?_eq_some_iff {bytes : List UInt8} {place : Nat} :
    findAlias? bytes = some place ↔
      SeparatorAt bytes place ∧ ∀ earlier < place, ¬ SeparatorAt bytes earlier := by
  rw [findAlias?]
  split
  · rename_i short
    have none : ¬ SeparatorAt bytes place := by
      rw [separatorAt_iff]
      rintro ⟨inside, -⟩
      rw [length_windows] at inside
      omega
    simp [none]
  · rw [List.findIdx?_eq_some_iff_getElem]
    constructor
    · rintro ⟨inside, found, first⟩
      refine ⟨separatorAt_iff.mpr ⟨inside, found⟩, fun earlier before separates => ?_⟩
      obtain ⟨_, foundEarlier⟩ := separatorAt_iff.mp separates
      exact first earlier before foundEarlier
    · rintro ⟨separates, first⟩
      obtain ⟨inside, found⟩ := separatorAt_iff.mp separates
      refine ⟨inside, found, fun earlier before foundEarlier => first earlier before ?_⟩
      exact separatorAt_iff.mpr ⟨Nat.lt_trans before inside, foundEarlier⟩

/-- The search finds nothing exactly if there is no separator. -/
theorem findAlias?_eq_none_iff {bytes : List UInt8} :
    findAlias? bytes = none ↔ ∀ place, ¬ SeparatorAt bytes place := by
  constructor
  · intro nothing place separates
    -- the least of all places with a separator would have been found
    induction place using Nat.strongRecOn with
    | ind place inductionHypothesis =>
      have found := findAlias?_eq_some_iff.mpr ⟨separates, inductionHypothesis⟩
      rw [nothing] at found
      cases found
  · intro absent
    rcases found : findAlias? bytes with _ | place
    · rfl
    · exact absurd (findAlias?_eq_some_iff.mp found).1 (absent place)

/-! ## Bytes and characters -/

/-- A character is the small letter that it is made, or its capital. -/
theorem eq_or_eq_of_toLower {char small : Char} (lowered : char.toLower = small) :
    char = small ∨ char = Char.ofNat (small.toNat - 32) := by
  have number := toNat_toLower char
  rw [lowered] at number
  split at number
  · right
    rw [number, Nat.add_sub_cancel, Char.ofNat_toNat]
  · exact .inl (Char.toNat_inj.mp number.symm)

/-- A text is a separator if it is ` as ` with any of its letters in capitals. -/
theorem lower_eq_separator {separator : List Char} (separates : lower separator = " as ".toList) :
    ∃ second third : Char, (second = 'a' ∨ second = 'A') ∧ (third = 's' ∨ third = 'S') ∧
      separator = [' ', second, third, ' '] := by
  have made : separator.map Char.toLower = [' ', 'a', 's', ' '] := separates
  obtain ⟨first, _, rfl, begins, made⟩ := List.map_eq_cons_iff.mp made
  obtain ⟨second, _, rfl, isA, made⟩ := List.map_eq_cons_iff.mp made
  obtain ⟨third, _, rfl, isS, made⟩ := List.map_eq_cons_iff.mp made
  obtain ⟨fourth, _, rfl, ends, made⟩ := List.map_eq_cons_iff.mp made
  obtain rfl := List.map_eq_nil_iff.mp made
  obtain rfl := (toLower_eq_iff (by decide)).mp begins
  obtain rfl := (toLower_eq_iff (by decide)).mp ends
  exact ⟨second, third, eq_or_eq_of_toLower isA, eq_or_eq_of_toLower isS, rfl⟩

/-- The characters of a separator have one byte each. -/
theorem utf8_of_lower {separator : List Char} (separates : lower separator = " as ".toList) :
    ∃ second third : UInt8, (second = 0x61 ∨ second = 0x41) ∧ (third = 0x73 ∨ third = 0x53) ∧
      utf8 separator = [0x20, second, third, 0x20] := by
  obtain ⟨_, _, rfl | rfl, rfl | rfl, rfl⟩ := lower_eq_separator separates
  · exact ⟨0x61, 0x73, .inl rfl, .inl rfl, rfl⟩
  · exact ⟨0x61, 0x53, .inl rfl, .inr rfl, rfl⟩
  · exact ⟨0x41, 0x73, .inr rfl, .inl rfl, rfl⟩
  · exact ⟨0x41, 0x53, .inr rfl, .inr rfl, rfl⟩

theorem width_of_lower {separator : List Char} (separates : lower separator = " as ".toList) :
    width separator = 4 ∧ width separator.dropLast = 3 := by
  obtain ⟨_, _, rfl | rfl, rfl | rfl, rfl⟩ := lower_eq_separator separates <;> exact ⟨rfl, rfl⟩

/-- The bytes of a separator are those of no other characters. -/
theorem exists_of_separator {text : List Char} {second third : UInt8}
    (isA : second = 0x61 ∨ second = 0x41) (isS : third = 0x73 ∨ third = 0x53)
    (front : [0x20, second, third, 0x20] <+: utf8 text) :
    ∃ separator after, text = separator ++ after ∧ lower separator = " as ".toList := by
  have smallSecond : second < 0x80 := by rcases isA with rfl | rfl <;> decide
  have smallThird : third < 0x80 := by rcases isS with rfl | rfl <;> decide
  obtain ⟨rest, bytes⟩ := front
  obtain ⟨letters, begins, letterBytes⟩ := exists_cons_of_utf8 bytes.symm (by decide)
  obtain ⟨later, isSecond, laterBytes⟩ := exists_cons_of_utf8 letterBytes smallSecond
  obtain ⟨last, isThird, lastBytes⟩ := exists_cons_of_utf8 laterBytes smallThird
  obtain ⟨after, isFourth, -⟩ := exists_cons_of_utf8 lastBytes (by decide)
  refine ⟨[Char.ofNat (UInt8.toNat 0x20), Char.ofNat second.toNat, Char.ofNat third.toNat,
    Char.ofNat (UInt8.toNat 0x20)], after, ?_, ?_⟩
  · rw [begins, isSecond, isThird, isFourth]
    rfl
  · rcases isA with rfl | rfl <;> rcases isS with rfl | rfl <;> decide

/-- A separator stands in the bytes where it stands between the characters. -/
theorem separatorAt_utf8_iff {text : List Char} {place : Nat} :
    SeparatorAt (utf8 text) place ↔ ∃ before separator after,
      text = before ++ separator ++ after ∧ width before = place ∧
        lower separator = " as ".toList := by
  constructor
  · rintro ⟨second, third, isA, isS, front⟩
    obtain ⟨rest, bytes⟩ := front
    obtain ⟨before, tail, rfl, begins, found⟩ :=
      exists_append_of_drop_utf8 bytes.symm (by decide)
    obtain ⟨separator, after, rfl, separates⟩ :=
      exists_of_separator isA isS ⟨rest, found.symm⟩
    exact ⟨before, separator, after, (List.append_assoc _ _ _).symm, begins, separates⟩
  · rintro ⟨before, separator, after, rfl, rfl, separates⟩
    obtain ⟨second, third, isA, isS, bytes⟩ := utf8_of_lower separates
    refine ⟨second, third, isA, isS, utf8 after, ?_⟩
    rw [List.append_assoc, utf8_append, width, List.drop_left, utf8_append, bytes]

/-- The place that is found in the bytes is where the text is cut. -/
theorem findAlias?_utf8 (text : List Char) :
    findAlias? (utf8 text) = (cutAlias text).map fun parts => width parts.1 := by
  rcases cut : cutAlias text with _ | ⟨before, after⟩
  · rw [Option.map_none, findAlias?_eq_none_iff]
    intro place found
    obtain ⟨front, separator, back, rfl, -, separates⟩ := separatorAt_utf8_iff.mp found
    refine cutAlias_eq_none_iff.mp cut ⟨lower front, lower back, ?_⟩
    rw [← separates]
    simp [lower]
  · obtain ⟨separator, whole, separates, first⟩ := cutAlias_eq_some_iff.mp cut
    rw [Option.map_some, findAlias?_eq_some_iff]
    refine ⟨separatorAt_utf8_iff.mpr ⟨before, separator, after, whole, rfl, separates⟩, ?_⟩
    intro earlier less found
    have less : earlier < width before := less
    obtain ⟨front, other, back, wholeToo, begins, separatesToo⟩ := separatorAt_utf8_iff.mp found
    -- the earlier separator would end before the last blank of the first one
    have within : front ++ other <+: before ++ separator.dropLast := by
      have atFront : front ++ other <+: text := ⟨back, wholeToo.symm⟩
      refine prefix_of_width_le atFront ?_ ?_
      · rw [whole]
        exact ((List.prefix_append_right_inj before).mpr
          (List.dropLast_prefix separator)).trans (List.prefix_append _ after)
      · rw [width_append, width_append, (width_of_lower separatesToo).1,
          (width_of_lower separates).2]
        omega
    refine first (List.IsInfix.trans ⟨lower front, [], ?_⟩ (Text.lower_infix within.isInfix))
    rw [← separatesToo]
    simp [lower]

/-! ## The split -/

/-- The text before the alias and the alias, cut out at the place that is found. -/
def splitAlias (text : List Char) : Attempt (List Char × Option (List Char)) :=
  match findAlias? (utf8 text) with
  | some place => do
    let left ← Attempt.slice text 0 place
    let right ← Attempt.slice text (place + 4) (width text)
    return (left, some right)
  | none => return (text, none)

/-- The bytes are split as the characters are. -/
theorem yields_splitAlias (text : List Char) :
    (splitAlias text).Yields (match cutAlias text with
      | some (base, name) => (base, some name)
      | none => (text, none)) := by
  have place := findAlias?_utf8 text
  rcases cut : cutAlias text with _ | ⟨base, name⟩
  · rw [cut, Option.map_none] at place
    rw [splitAlias, place]
    exact Attempt.yields_pure _
  · rw [cut, Option.map_some] at place
    obtain ⟨separator, whole, separates, -⟩ := cutAlias_eq_some_iff.mp cut
    have four := (width_of_lower separates).1
    rw [splitAlias, place]
    refine (Attempt.yields_slice [] base (separator ++ name) ?_ rfl rfl).bind
      ((Attempt.yields_slice (base ++ separator) name [] ?_ ?_ ?_).bind (Attempt.yields_pure _))
    · rw [whole, List.nil_append, List.append_assoc]
    · rw [whole, List.append_nil]
    · rw [width_append, four]
    · rw [whole]

end Text

namespace Sql

/-- A text without an alias is not read as one. -/
theorem Expression.ofText_ne_aliased {text : List Char} (noAlias : Text.cutAlias text = none)
    (base : Expression) (name : List Char) : ofText text ≠ .aliased base name := by
  rw [ofText]
  intro aliased
  split at aliased
  · cases aliased
  · split at aliased
    · rename_i found
      rw [noAlias] at found
      cases found
    · split at aliased
      · cases aliased
      · split at aliased <;> cases aliased

end Sql

namespace Text

/-- What stands behind the last point of a text; all of a text without a point. -/
inductive BehindLastPoint (text : List Char) : List Char → Prop
  | behind {before after : List Char} (parts : text = before ++ '.' :: after)
      (last : '.' ∉ after) : BehindLastPoint text after
  | whole (pointless : '.' ∉ text) : BehindLastPoint text text

end Text

namespace Reference

/-- A reference is split at a place into the text before a separator, its four characters, and the
alias, from which the reference has its label. -/
structure SplitAt (reference : Reference) (place : Nat) (left separator right : List Char) :
    Prop where
  split : (Text.splitAlias reference.toList).Yields (left, some right)
  whole : left ++ separator ++ right = reference.toList
  begins : Text.width left = place
  four : separator.length = 4 ∧ Text.width separator = 4
  separates : Text.lower separator = " as ".toList
  /-- No separator is left in front. -/
  first : ∀ earlier, ¬ Text.SeparatorAt (Text.utf8 left) earlier
  /-- What is written in front of the alias has no alias of its own. -/
  single : ∀ base name, Sql.Expression.ofText (Text.trim left) ≠ .aliased base name
  firstBoundary : Text.IsBoundary reference.toList place
  lastBoundary : Text.IsBoundary reference.toList (place + 4)
  base : reference.base = left
  aliased : reference.alias? = some right
  label : reference.label = String.ofList (Text.trim right)

/-- A reference is not split, and has its label from behind its last point. -/
structure Unsplit (reference : Reference) : Prop where
  split : (Text.splitAlias reference.toList).Yields (reference.toList, none)
  base : reference.base = reference.toList
  unaliased : reference.alias? = none
  label : Text.BehindLastPoint reference.toList reference.label.toList

/-- The place that is found splits the reference. -/
theorem exists_splitAt {reference : Reference} {place : Nat}
    (found : Text.findAlias? (Text.utf8 reference.toList) = some place) :
    ∃ left separator right, reference.SplitAt place left separator right := by
  rw [Text.findAlias?_utf8] at found
  obtain ⟨⟨left, right⟩, cut, begins⟩ := Option.map_eq_some_iff.mp found
  obtain ⟨separator, whole, separates, -⟩ := Text.cutAlias_eq_some_iff.mp cut
  have split := Text.yields_splitAlias reference.toList
  have noAlias := Text.cutAlias_base_eq_none cut
  have four := (Text.width_of_lower separates).1
  have front : Text.findAlias? (Text.utf8 left) = none := by
    rw [Text.findAlias?_utf8, noAlias, Option.map_none]
  have trimmed : Text.cutAlias (Text.trim left) = none :=
    Text.cutAlias_eq_none fun occurs => Text.cutAlias_eq_none_iff.mp noAlias
      (occurs.trans (Text.lower_infix (Text.trim_infix left)))
  rw [cut] at split
  have aliased : reference.alias? = some right := by
    rw [alias?, cut, Option.map_some]
  refine ⟨left, separator, right, split, whole.symm, begins, ⟨?_, four⟩, separates,
    Text.findAlias?_eq_none_iff.mp front, Sql.Expression.ofText_ne_aliased trimmed, ?_, ?_, ?_,
    aliased, ?_⟩
  · simpa [Text.lower] using congrArg List.length separates
  · rw [← begins, whole, List.append_assoc]
    exact Text.isBoundary_append _ _
  · have ends : place + 4 = Text.width (left ++ separator) := by
      rw [Text.width_append, four, ← begins]
    rw [ends, whole]
    exact Text.isBoundary_append _ _
  · rw [base, cut]
  · rw [label, aliased]

/-- Without a place the reference is not split. -/
theorem unsplit {reference : Reference}
    (nothing : Text.findAlias? (Text.utf8 reference.toList) = none) : reference.Unsplit := by
  rw [Text.findAlias?_utf8] at nothing
  have cut := Option.map_eq_none_iff.mp nothing
  have split := Text.yields_splitAlias reference.toList
  rw [cut] at split
  have unaliased : reference.alias? = none := by
    rw [alias?, cut, Option.map_none]
  refine ⟨split, by rw [base, cut], unaliased, ?_⟩
  rw [label, unaliased]
  rcases last : Text.cutLast '.' reference.toList with _ | ⟨before, name⟩
  · exact .whole (Text.cutLast_eq_none_iff.mp last)
  · dsimp only
    rw [String.toList_ofList]
    exact .behind (Text.append_of_cutLast last).symm (Text.not_mem_of_cutLast last)

/-- The search in the bytes of a reference finds the first place with a blank, an `a`, an `s`, both
in capitals or not, and a blank, and nothing if there is no such place. At the place that is found
the reference is split, without cutting a character in two, into a front that has no separator,
the four characters, and the alias, whose trimmed text is the label; a reference without a place is
not split and has its label from behind its last point. -/
theorem split_at_first_separator (reference : Reference) :
    let bytes := reference.toUTF8.toList
    (∀ place, Text.findAlias? bytes = some place ↔
      Text.SeparatorAt bytes place ∧ ∀ earlier < place, ¬ Text.SeparatorAt bytes earlier) ∧
    (Text.findAlias? bytes = none ↔ ∀ place, ¬ Text.SeparatorAt bytes place) ∧
    (∀ place, Text.findAlias? bytes = some place →
      ∃ left separator right, reference.SplitAt place left separator right) ∧
    (Text.findAlias? bytes = none → reference.Unsplit) := by
  intro bytes
  have same : bytes = Text.utf8 reference.toList := Text.toList_toUTF8 reference
  rw [same]
  exact ⟨fun _ => Text.findAlias?_eq_some_iff, Text.findAlias?_eq_none_iff,
    fun _ => exists_splitAt, unsplit⟩

/-- Runs of blanks and `as` behind a character of two bytes, and one separator without its last
blank. -/
theorem split_at_first_separator_overlapping :
    let reference : Reference := "é as aS as  x.y "
    let other : Reference := "ñ.é as"
    (Text.findAlias? reference.toUTF8.toList = some 2 ∧
      ∃ left separator right, reference.SplitAt 2 left separator right) ∧
    (Text.findAlias? other.toUTF8.toList = none ∧ other.Unsplit) := by
  intro reference other
  obtain ⟨-, -, splits, -⟩ := reference.split_at_first_separator
  obtain ⟨-, -, -, keeps⟩ := other.split_at_first_separator
  have found : Text.findAlias? reference.toUTF8.toList = some 2 := by decide +kernel
  have nothing : Text.findAlias? other.toUTF8.toList = none := by decide +kernel
  exact ⟨⟨found, splits 2 found⟩, nothing, keeps nothing⟩

end Reference

end FluentSql
