import FluentSql.Proofs.Slicing
import FluentSql.Proofs.Unquoting

/-!
# Dotted references, written and read back

A dotted reference is written name by name. Of each name the runs of characters between its
backticks are copied as slices of its bytes, which gives the name without its backticks
(`yields_writeDotted`). What is written can be read back: a bare `*` or what stands between two
backticks is a name, and names stand between points. So quoting loses the caller's backticks and
nothing else (`unquote_quoteDotted`).
-/

namespace FluentSql

namespace Text

/-! ## Segments -/

/-- The texts between the marks of a text. -/
structure AreSegments (mark : Char) (text : List Char) (names : List (List Char)) : Prop where
  nonempty : names ≠ []
  unmarked : ∀ name ∈ names, mark ∉ name
  joined : List.intercalate [mark] names = text

theorem segments_of_not_mem {mark : Char} {text : List Char} (unmarked : mark ∉ text) :
    segments mark text = [text] := by
  induction text with
  | nil => rfl
  | cons char rest inductionHypothesis =>
    obtain ⟨different, later⟩ := List.ne_and_not_mem_of_not_mem_cons unmarked
    rw [segments, if_neg (Ne.symm different), inductionHypothesis later, consFirst]

/-- The first mark ends the first segment. -/
theorem segments_append_cons {mark : Char} {name : List Char} (unmarked : mark ∉ name)
    (rest : List Char) : segments mark (name ++ mark :: rest) = name :: segments mark rest := by
  induction name with
  | nil => rw [List.nil_append, segments, if_pos rfl]
  | cons char later inductionHypothesis =>
    obtain ⟨different, absent⟩ := List.ne_and_not_mem_of_not_mem_cons unmarked
    rw [List.cons_append, segments, if_neg (Ne.symm different), inductionHypothesis absent,
      consFirst]

theorem not_mem_of_mem_segments {mark : Char} {text name : List Char}
    (member : name ∈ segments mark text) : mark ∉ name := by
  induction text generalizing name with
  | nil =>
    obtain rfl := List.mem_singleton.mp member
    exact List.not_mem_nil
  | cons char rest inductionHypothesis =>
    rw [segments] at member
    split at member
    · rcases List.mem_cons.mp member with rfl | later
      · exact List.not_mem_nil
      · exact inductionHypothesis later
    · rename_i different
      rcases pieces : segments mark rest with _ | ⟨first, others⟩
      · exact absurd pieces (segments_ne_nil mark rest)
      · rw [pieces] at member inductionHypothesis
        rcases List.mem_cons.mp member with rfl | later
        · exact List.not_mem_cons_of_ne_of_not_mem (Ne.symm different)
            (inductionHypothesis List.mem_cons_self)
        · exact inductionHypothesis (List.mem_cons_of_mem _ later)

/-- A text has its segments, and no other texts stand between its marks. -/
theorem areSegments_iff {mark : Char} {text : List Char} {names : List (List Char)} :
    AreSegments mark text names ↔ names = segments mark text := by
  constructor
  · rintro ⟨nonempty, unmarked, rfl⟩
    induction names with
    | nil => exact absurd rfl nonempty
    | cons name rest inductionHypothesis =>
      have alone := unmarked name List.mem_cons_self
      cases rest with
      | nil =>
        rw [List.intercalate_singleton, segments_of_not_mem alone]
      | cons second others =>
        have later := inductionHypothesis (List.cons_ne_nil _ _)
          fun other member => unmarked other (List.mem_cons_of_mem _ member)
        rw [List.intercalate_cons_cons, List.append_assoc, List.singleton_append,
          segments_append_cons alone, ← later]
  · rintro rfl
    exact ⟨segments_ne_nil mark text, fun _ => not_mem_of_mem_segments,
      intercalate_segments mark text⟩

end Text

namespace Sql

/-! ## Writing -/

/-- Copy the run between two offsets of a name, if it has any characters. -/
def copyRun (name : List Char) (start offset : Nat) : Attempt (List Char) :=
  if offset ≠ start then Attempt.slice name start offset else pure []

/-- Copy the runs between the backticks of a name. The characters from `start` on have not been
copied yet; those that have not been looked at begin at `offset`. -/
def copyRuns (name : List Char) (start offset : Nat) : List Char → Attempt (List Char)
  | [] =>
    if start < Text.width name then Attempt.slice name start (Text.width name) else pure []
  | char :: rest =>
    let next := offset + char.utf8Size
    if char = '`' then do
      let run ← copyRun name start offset
      let later ← copyRuns name next next rest
      return run ++ later
    else copyRuns name start next rest

/-- Write one name. -/
def writeIdentifier (name : List Char) : Attempt (List Char) :=
  if name = ['*'] then return ['*']
  else do
    let kept ← copyRuns name 0 0 name
    return '`' :: kept ++ ['`']

/-- Write names with points between them. -/
def writeNames : List (List Char) → Attempt (List Char)
  | [] => return []
  | [only] => writeIdentifier only
  | name :: rest => do
    let first ← writeIdentifier name
    let others ← writeNames rest
    return first ++ '.' :: others

/-- Write a dotted reference. -/
def writeDotted (reference : List Char) : Attempt (List Char) :=
  writeNames (Text.segments '.' reference)

theorem yields_copyRun {name done run rest : List Char} (whole : name = done ++ run ++ rest) :
    (copyRun name (Text.width done) (Text.width (done ++ run))).Yields run := by
  rw [copyRun]
  split
  · exact Attempt.yields_slice done run rest whole rfl rfl
  · rename_i empty
    have none : run = [] := by
      rw [Text.width_append, Decidable.not_not] at empty
      exact Text.width_eq_zero_iff.mp (by omega)
    rw [none]
    exact Attempt.yields_pure []

/-- The runs are what is left of a name without its backticks. What has been looked at is what was
copied or dropped, and a run without backticks that is still to be copied. -/
theorem yields_copyRuns (done run : List Char) {name rest : List Char}
    (whole : name = done ++ run ++ rest) (plain : '`' ∉ run) :
    (copyRuns name (Text.width done) (Text.width (done ++ run)) rest).Yields
      (run ++ dropBackticks rest) := by
  induction rest generalizing done run with
  | nil =>
    rw [copyRuns, dropBackticks_nil, List.append_nil]
    rw [List.append_nil] at whole
    split
    · exact Attempt.yields_slice done run [] (by rw [whole, List.append_nil]) rfl (by rw [whole])
    · rename_i copied
      have none : run = [] := by
        rw [whole, Text.width_append] at copied
        exact Text.width_eq_zero_iff.mp (by omega)
      rw [none]
      exact Attempt.yields_pure []
  | cons char later inductionHypothesis =>
    rw [copyRuns]
    by_cases mark : char = '`'
    · subst mark
      have next : Text.width (done ++ run) + ('`' : Char).utf8Size =
          Text.width (done ++ run ++ ['`']) := by
        rw [Text.width_append _ ['`']]
        rfl
      have following := inductionHypothesis (done ++ run ++ ['`']) []
        (by simp [whole]) List.not_mem_nil
      have dropped : dropBackticks ('`' :: later) = dropBackticks later := by simp [dropBackticks]
      rw [List.append_nil, List.nil_append, ← next] at following
      rw [if_pos rfl, dropped]
      exact (yields_copyRun whole).bind (following.bind (Attempt.yields_pure _))
    · have longer : Text.width (done ++ run) + char.utf8Size =
          Text.width (done ++ (run ++ [char])) := by
        rw [← List.append_assoc, Text.width_append _ [char], Text.width_cons, Text.width_nil,
          Nat.add_zero]
      have following := inductionHypothesis done (run ++ [char])
        (by simp [whole]) (by simp [plain, Ne.symm mark])
      have kept : dropBackticks (char :: later) = char :: dropBackticks later := by
        simp [dropBackticks, mark]
      rw [← longer, List.append_assoc, List.singleton_append] at following
      rw [if_neg mark, kept]
      exact following

theorem yields_writeIdentifier (name : List Char) :
    (writeIdentifier name).Yields (quoteIdentifier name) := by
  rw [writeIdentifier, quoteIdentifier]
  split
  · rename_i star
    rw [star]
    exact Attempt.yields_pure _
  · have whole : name = [] ++ [] ++ name := rfl
    exact (yields_copyRuns [] [] whole List.not_mem_nil).bind (Attempt.yields_pure _)

theorem intercalate_map_cons_cons (mark : Char) (write : List Char → List Char)
    (name second : List Char) (others : List (List Char)) :
    List.intercalate [mark] ((name :: second :: others).map write) =
      write name ++ mark :: List.intercalate [mark] ((second :: others).map write) := by
  rw [List.map_cons, List.map_cons, List.intercalate_cons_cons, List.append_assoc,
    List.singleton_append, ← List.map_cons]

theorem yields_writeNames : ∀ {names : List (List Char)}, names ≠ [] →
    (writeNames names).Yields (List.intercalate ['.'] (names.map quoteIdentifier))
  | [], nonempty => absurd rfl nonempty
  | [only], _ => by
    rw [List.map_singleton, List.intercalate_singleton]
    exact yields_writeIdentifier only
  | name :: second :: others, _ => by
    have later := yields_writeNames (List.cons_ne_nil second others)
    rw [intercalate_map_cons_cons]
    exact (yields_writeIdentifier name).bind (later.bind (Attempt.yields_pure _))

/-- Every slice on the way is between characters, and what is written is the quoted reference. -/
theorem yields_writeDotted (reference : List Char) :
    (writeDotted reference).Yields (quoteDotted reference) :=
  yields_writeNames (Text.segments_ne_nil '.' reference)

/-! ## Reading back -/

/-- What a reader of a quoted reference waits for. -/
inductive Awaited where
  | name
  /-- The backtick behind a name. -/
  | closing
  | point

/-- Read a quoted reference on: a name is a bare `*` or stands between two backticks, and a point
stands between names. -/
def unquoteFrom : Awaited → List Char → Option (List Char)
  | .name, '*' :: rest => (unquoteFrom .point rest).map ('*' :: ·)
  | .name, '`' :: rest => unquoteFrom .closing rest
  | .closing, char :: rest =>
    if char = '`' then unquoteFrom .point rest else (unquoteFrom .closing rest).map (char :: ·)
  | .point, [] => some []
  | .point, '.' :: rest => (unquoteFrom .name rest).map ('.' :: ·)
  | _, _ => none

/-- Read a quoted reference. -/
def unquote (quoted : List Char) : Option (List Char) := unquoteFrom .name quoted

theorem unquoteFrom_closing {name : List Char} (plain : '`' ∉ name) (rest : List Char) :
    unquoteFrom .closing (name ++ '`' :: rest) = (unquoteFrom .point rest).map (name ++ ·) := by
  induction name with
  | nil =>
    have same : (unquoteFrom .point rest).map (([] : List Char) ++ ·) = unquoteFrom .point rest :=
      Option.map_id'
    rw [List.nil_append, unquoteFrom, if_pos rfl, same]
  | cons char later inductionHypothesis =>
    obtain ⟨different, absent⟩ := List.ne_and_not_mem_of_not_mem_cons plain
    rw [List.cons_append, unquoteFrom, if_neg (Ne.symm different), inductionHypothesis absent,
      Option.map_map]
    rfl

/-- A written name is read without the caller's backticks. -/
theorem unquoteFrom_quoteIdentifier (name rest : List Char) :
    unquoteFrom .name (quoteIdentifier name ++ rest) =
      (unquoteFrom .point rest).map (dropBackticks name ++ ·) := by
  rw [quoteIdentifier]
  split
  · rename_i star
    rw [star]
    rfl
  · have plain : '`' ∉ dropBackticks name := by simp [dropBackticks]
    have whole : '`' :: dropBackticks name ++ ['`'] ++ rest =
        '`' :: (dropBackticks name ++ '`' :: rest) := by simp
    rw [whole, unquoteFrom, unquoteFrom_closing plain]

theorem unquoteFrom_intercalate : ∀ {names : List (List Char)}, names ≠ [] →
    unquoteFrom .name (List.intercalate ['.'] (names.map quoteIdentifier)) =
      some (List.intercalate ['.'] (names.map dropBackticks))
  | [], nonempty => absurd rfl nonempty
  | [only], _ => by
    have read := unquoteFrom_quoteIdentifier only []
    rw [List.append_nil] at read
    rw [List.map_singleton, List.intercalate_singleton, read, unquoteFrom, Option.map_some,
      List.append_nil, List.map_singleton, List.intercalate_singleton]
  | name :: second :: others, _ => by
    have later := unquoteFrom_intercalate (List.cons_ne_nil second others)
    rw [intercalate_map_cons_cons, intercalate_map_cons_cons, unquoteFrom_quoteIdentifier,
      unquoteFrom, later, Option.map_some, Option.map_some]

/-- Reading back what quoting wrote gives the reference without its backticks. -/
theorem unquote_quoteDotted (reference : List Char) :
    unquote (quoteDotted reference) = some (dropBackticks reference) := by
  rw [unquote, quoteDotted, unquoteFrom_intercalate (Text.segments_ne_nil '.' reference),
    ← dropBackticks_intercalate (by decide), Text.intercalate_segments]

/-- How a name is written. -/
inductive WrittenName : List Char → List Char → Prop
  | bare : WrittenName ['*'] ['*']
  /-- Between backticks stand the characters that are no backticks, in order. -/
  | quoted {name : List Char} (named : name ≠ ['*']) :
    WrittenName name ('`' :: name.filter (· ≠ '`') ++ ['`'])

theorem writtenName_quoteIdentifier (name : List Char) :
    WrittenName name (quoteIdentifier name) := by
  rw [quoteIdentifier]
  split
  · rename_i star
    rw [star]
    exact .bare
  · rename_i named
    exact .quoted named

/-- The names of a reference, which are the texts between its points, are written in order with
points between them. -/
structure WrittenDotted (reference : List Char) (names : List (List Char)) : Prop where
  segments : ∀ others, Text.AreSegments '.' reference others ↔ others = names
  each : ∀ name ∈ names, WrittenName name (quoteIdentifier name)
  written : (writeDotted reference).Yields (List.intercalate ['.'] (names.map quoteIdentifier))
  text : quoteDotted reference = List.intercalate ['.'] (names.map quoteIdentifier)

/-- A dotted reference is written name by name, a bare `*` as it is and every other name between
backticks with its own backticks left out. What is written is read back as the reference without
its backticks, so references without backticks are told apart by what is written for them. -/
theorem quoteDotted_invertible (reference : List Char) :
    (∃ names, WrittenDotted reference names) ∧
    unquote (quoteDotted reference) = some (reference.filter (· ≠ '`')) ∧
    ∀ other, '`' ∉ reference → '`' ∉ other →
      (quoteDotted reference = quoteDotted other ↔ reference = other) := by
  refine ⟨⟨Text.segments '.' reference, ?_⟩, unquote_quoteDotted reference, ?_⟩
  · exact ⟨fun _ => Text.areSegments_iff, fun name _ => writtenName_quoteIdentifier name,
      yields_writeDotted reference, rfl⟩
  · intro other plain otherPlain
    constructor
    · intro same
      have read := unquote_quoteDotted reference
      rw [same, unquote_quoteDotted, dropBackticks_eq plain, dropBackticks_eq otherPlain] at read
      exact (Option.some.inj read).symm
    · exact congrArg quoteDotted

/-- A reference with an empty name, a bare star, a star that is none for its backtick and a name of
longer characters, and two references without backticks. -/
theorem quoteDotted_invertible_starred :
    let reference := "ta`ble..*.*`.`né€`".toList
    let plain := "a..*.né".toList
    let other := "a.*..né".toList
    ((∃ names, WrittenDotted reference names) ∧
      unquote (quoteDotted reference) = some "table..*.*.né€".toList) ∧
    ('`' ∉ plain ∧ '`' ∉ other ∧ (quoteDotted plain = quoteDotted other ↔ plain = other)) := by
  intro reference plain other
  obtain ⟨names, read, -⟩ := quoteDotted_invertible reference
  have kept : reference.filter (· ≠ '`') = "table..*.*.né€".toList := by decide +kernel
  rw [kept] at read
  have noPlain : '`' ∉ plain := by decide
  have noOther : '`' ∉ other := by decide
  obtain ⟨-, -, apart⟩ := quoteDotted_invertible plain
  exact ⟨⟨names, read⟩, noPlain, noOther, apart other noPlain noOther⟩

end Sql

end FluentSql
