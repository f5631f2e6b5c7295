import FluentSql.Proofs.Occurrence
import FluentSql.Sql.Fragment
import FluentSql.Sql.Quoting

/-!
# Texts that tell where they end

Two texts of a prefix-free family are equal as soon as they begin the same text, so a text
put together from such parts can be taken apart in one way only. Finite families are
checked as tables. Quoted names without backticks are prefix-free; dotted names are so
before anything that is no point, lists of placeholders before a closing parenthesis.
-/

namespace FluentSql.Sql

universe u

/-- What is written for a value tells the value, whatever follows it. -/
def PrefixFree {α : Type u} (valid : α → Prop) (write : α → List Char) : Prop :=
  ∀ {first second : α}, valid first → valid second → ∀ {rest other : List Char},
    write first ++ rest = write second ++ other → first = second ∧ rest = other

/-- A table is prefix-free if no text of it begins another. -/
theorem prefixFree_of_table {α : Type u} {table : List α} {write : α → List Char}
    (apart : ∀ first ∈ table, ∀ second ∈ table, write first <+: write second → first = second) :
    PrefixFree (· ∈ table) write := by
  intro first second isFirst isSecond rest other same
  have begins : write first <+: write second ++ other := ⟨rest, same⟩
  have equal : first = second := by
    rcases List.prefix_or_prefix_of_prefix begins (List.prefix_append _ other) with
      before | after
    · exact apart first isFirst second isSecond before
    · exact (apart second isSecond first isFirst after).symm
  subst equal
  exact ⟨rfl, List.append_cancel_left same⟩

/-- Texts without a mark are prefix-free before the mark. -/
theorem prefixFree_before (mark : Char) :
    PrefixFree (mark ∉ ·) fun text : List Char => text ++ [mark] := by
  intro first second noFirst noSecond rest other same
  simp only [List.append_assoc, List.singleton_append] at same
  induction first generalizing second with
  | nil =>
    cases second with
    | nil => exact ⟨rfl, List.cons.inj same |>.2⟩
    | cons char later =>
      obtain ⟨rfl, -⟩ := List.cons.inj same
      simp at noSecond
  | cons char front inductionHypothesis =>
    cases second with
    | nil =>
      obtain ⟨rfl, -⟩ := List.cons.inj same
      simp at noFirst
    | cons next later =>
      obtain ⟨rfl, tails⟩ := List.cons.inj same
      rw [List.mem_cons, not_or] at noFirst noSecond
      obtain ⟨rfl, rests⟩ := inductionHypothesis noFirst.2 noSecond.2 tails
      exact ⟨rfl, rests⟩

theorem dropBackticks_eq {name : List Char} (plain : '`' ∉ name) : dropBackticks name = name := by
  rw [dropBackticks, List.filter_eq_self]
  intro char member
  exact decide_eq_true fun equal => plain (equal ▸ member)

/-- A quoted name begins with a backtick, unless it is `*`. -/
theorem quoteIdentifier_cases {name : List Char} (plain : '`' ∉ name) :
    name = ['*'] ∧ quoteIdentifier name = ['*'] ∨
      quoteIdentifier name = '`' :: (name ++ ['`']) := by
  unfold quoteIdentifier
  split
  · rename_i wildcard
    exact .inl ⟨wildcard, wildcard⟩
  · rw [dropBackticks_eq plain]
    exact .inr rfl

theorem prefixFree_quoteIdentifier : PrefixFree ('`' ∉ ·) quoteIdentifier := by
  intro first second noFirst noSecond rest other same
  rcases quoteIdentifier_cases noFirst with ⟨rfl, left⟩ | left
  · rcases quoteIdentifier_cases noSecond with ⟨rfl, right⟩ | right
    · rw [left] at same
      exact ⟨rfl, (List.cons.inj same).2⟩
    · rw [left, right] at same
      exact absurd (List.cons.inj same).1 (by decide)
  · rcases quoteIdentifier_cases noSecond with ⟨rfl, right⟩ | right
    · rw [left, right] at same
      exact absurd (List.cons.inj same).1 (by decide)
    · rw [left, right] at same
      exact prefixFree_before '`' noFirst noSecond (List.cons.inj same).2

/-- Quoted names with points between them, before anything that is no point. -/
theorem intercalate_quoteIdentifier {rest other : List Char} (noPoint : rest.head? ≠ some '.')
    (otherNoPoint : other.head? ≠ some '.') :
    ∀ {first second : List (List Char)}, first ≠ [] → second ≠ [] →
      (∀ name ∈ first, '`' ∉ name) → (∀ name ∈ second, '`' ∉ name) →
      List.intercalate ['.'] (first.map quoteIdentifier) ++ rest =
        List.intercalate ['.'] (second.map quoteIdentifier) ++ other →
      first = second ∧ rest = other
  | name :: names, otherName :: otherNames, _, _, plain, otherPlain, same => by
    have tails : ∀ names : List (List Char), ∀ name back,
        List.intercalate ['.'] ((name :: names).map quoteIdentifier) ++ back =
          quoteIdentifier name ++ (if names = [] then back
            else '.' :: (List.intercalate ['.'] (names.map quoteIdentifier) ++ back)) := by
      intro names name back
      cases names with
      | nil => simp
      | cons next later => simp
    rw [tails, tails] at same
    obtain ⟨rfl, later⟩ := prefixFree_quoteIdentifier (plain name List.mem_cons_self)
      (otherPlain otherName List.mem_cons_self) same
    by_cases none : names = []
    · by_cases otherNone : otherNames = []
      · rw [if_pos none, if_pos otherNone] at later
        exact ⟨by rw [none, otherNone], later⟩
      · rw [if_pos none, if_neg otherNone] at later
        exact absurd (by rw [later]; rfl) noPoint
    · by_cases otherNone : otherNames = []
      · rw [if_neg none, if_pos otherNone] at later
        exact absurd (by rw [← later]; rfl) otherNoPoint
      · rw [if_neg none, if_neg otherNone] at later
        obtain ⟨rfl, rests⟩ := intercalate_quoteIdentifier noPoint otherNoPoint none otherNone
          (fun name member => plain name (List.mem_cons_of_mem _ member))
          (fun name member => otherPlain name (List.mem_cons_of_mem _ member))
          (List.cons.inj later).2
        exact ⟨rfl, rests⟩

/-- A quoted reference tells the reference before anything that is no point. -/
theorem quoteDotted_append_inj {first second rest other : List Char} (noFirst : '`' ∉ first)
    (noSecond : '`' ∉ second) (noPoint : rest.head? ≠ some '.')
    (otherNoPoint : other.head? ≠ some '.')
    (same : quoteDotted first ++ rest = quoteDotted second ++ other) :
    first = second ∧ rest = other := by
  obtain ⟨segments, rests⟩ := intercalate_quoteIdentifier noPoint otherNoPoint
    (Text.segments_ne_nil '.' first) (Text.segments_ne_nil '.' second)
    (fun name isSegment member => noFirst (Text.mem_of_mem_segments isSegment member))
    (fun name isSegment member => noSecond (Text.mem_of_mem_segments isSegment member)) same
  refine ⟨?_, rests⟩
  rw [← Text.intercalate_segments '.' first, segments, Text.intercalate_segments]

/-- A quoted reference begins with a backtick or is a `*`. -/
theorem quoteDotted_begins {reference : List Char} (plain : '`' ∉ reference) :
    ∃ mark ∈ ['`', '*'], ∃ back, quoteDotted reference = mark :: back := by
  rcases segments : Text.segments '.' reference with _ | ⟨first, others⟩
  · exact absurd segments (Text.segments_ne_nil '.' reference)
  · have noFirst : '`' ∉ first := fun member =>
      plain (Text.mem_of_mem_segments (segments ▸ List.mem_cons_self) member)
    have begins : ∃ back, quoteDotted reference = quoteIdentifier first ++ back := by
      rw [quoteDotted, segments]
      cases others with
      | nil => exact ⟨[], by simp⟩
      | cons second later => exact ⟨_, by rw [List.map_cons, List.map_cons,
          List.intercalate_cons_cons, List.append_assoc]⟩
    obtain ⟨back, whole⟩ := begins
    rcases quoteIdentifier_cases noFirst with ⟨-, isQuoted⟩ | isQuoted
    · exact ⟨'*', by simp, back, by rw [whole, isQuoted]; rfl⟩
    · exact ⟨'`', by simp, first ++ ['`'] ++ back, by rw [whole, isQuoted]; rfl⟩

open Fragment

theorem text_placeholderList_succ (count : Nat) :
    (placeholderList (count + 1)).text = '?' :: (List.replicate count [',', ' ', '?']).flatten := by
  induction count with
  | zero => rfl
  | succ count inductionHypothesis =>
    have whole : placeholderList (count + 2) =
        placeholder ++ fixed ", " ++ placeholderList (count + 1) :=
      List.intercalate_cons_cons
    rw [whole, text_append, inductionHypothesis]
    rfl

/-- A list of placeholders tells their number before a closing parenthesis. -/
theorem placeholderList_append_inj {first second : Nat} {rest other : List Char}
    (same : (placeholderList first).text ++ ')' :: rest =
      (placeholderList second).text ++ ')' :: other) : first = second ∧ rest = other := by
  have later : ∀ {first second : Nat},
      (List.replicate first [',', ' ', '?']).flatten ++ ')' :: rest =
        (List.replicate second [',', ' ', '?']).flatten ++ ')' :: other →
      first = second ∧ rest = other := by
    intro first second same
    induction first generalizing second with
    | zero =>
      cases second with
      | zero => exact ⟨rfl, (List.cons.inj same).2⟩
      | succ second => exact absurd (List.cons.inj same).1 (by decide)
    | succ first inductionHypothesis =>
      cases second with
      | zero => exact absurd (List.cons.inj same).1 (by decide)
      | succ second =>
        rw [List.replicate_succ, List.replicate_succ, List.flatten_cons, List.flatten_cons,
          List.append_assoc, List.append_assoc] at same
        obtain ⟨rfl, rests⟩ := inductionHypothesis (List.append_cancel_left same)
        exact ⟨rfl, rests⟩
  cases first with
  | zero =>
    cases second with
    | zero => exact ⟨rfl, (List.cons.inj same).2⟩
    | succ second =>
      rw [text_placeholderList_succ] at same
      exact absurd (List.cons.inj same).1 (by decide)
  | succ first =>
    cases second with
    | zero =>
      rw [text_placeholderList_succ] at same
      exact absurd (List.cons.inj same).1 (by decide)
    | succ second =>
      rw [text_placeholderList_succ, text_placeholderList_succ] at same
      obtain ⟨rfl, rests⟩ := later (List.cons.inj same).2
      exact ⟨rfl, rests⟩

end FluentSql.Sql
