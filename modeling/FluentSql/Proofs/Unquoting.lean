import FluentSql.Proofs.PrefixFree

/-!
# What quoting leaves of a reference

Quoting adds backticks and drops those of the caller, so without backticks a quoted name is
the name. A reference that mentions no `null` and has neither an alias nor an arrow is read as
a dotted name or as a call of one. A call is written but for what stands behind its closing
parenthesis, and nothing else is lost: `NameOrCall.wrap_keeps_iff`.
-/

namespace FluentSql

namespace Text

/-- A text is cut at a mark that does not come again. -/
theorem cutLast_append {mark : Char} {after : List Char} (last : mark ∉ after)
    (before : List Char) : cutLast mark (before ++ mark :: after) = some (before, after) := by
  induction before with
  | nil => simp [cutLast, cutLast_eq_none_iff.mpr last]
  | cons char rest inductionHypothesis => simp [cutLast, inductionHypothesis]

/-- After the last occurrence of a mark there is none. -/
theorem not_mem_of_cutLast {mark : Char} {text before after : List Char}
    (cut : cutLast mark text = some (before, after)) : mark ∉ after := by
  induction text generalizing before with
  | nil => simp [cutLast] at cut
  | cons char rest inductionHypothesis =>
    rw [cutLast] at cut
    split at cut
    · rename_i earlier later found
      obtain ⟨-, rfl⟩ := Prod.mk.inj (Option.some.inj cut)
      exact inductionHypothesis found
    · rename_i none
      split at cut
      · obtain ⟨-, rfl⟩ := Prod.mk.inj (Option.some.inj cut)
        exact cutLast_eq_none_iff.mp none
      · cases cut

end Text

namespace Sql

/-! ## Texts without their backticks -/

@[simp] theorem dropBackticks_nil : dropBackticks [] = [] := rfl

@[simp] theorem dropBackticks_append (first second : List Char) :
    dropBackticks (first ++ second) = dropBackticks first ++ dropBackticks second :=
  List.filter_append _ _

theorem dropBackticks_eq_nil_iff {text : List Char} :
    dropBackticks text = [] ↔ ∀ char ∈ text, char = '`' := by
  simp [dropBackticks, List.filter_eq_nil_iff]

theorem dropBackticks_intercalate {separator : List Char} (plain : '`' ∉ separator) :
    ∀ texts : List (List Char), dropBackticks (List.intercalate separator texts) =
      List.intercalate separator (texts.map dropBackticks)
  | [] => rfl
  | [only] => by simp
  | first :: second :: rest => by
    have later := dropBackticks_intercalate plain (second :: rest)
    rw [List.intercalate_cons_cons, dropBackticks_append, dropBackticks_append, later,
      dropBackticks_eq plain, List.map_cons, List.map_cons, List.map_cons,
      List.intercalate_cons_cons]

theorem dropBackticks_quoteIdentifier (name : List Char) :
    dropBackticks (quoteIdentifier name) = dropBackticks name := by
  unfold quoteIdentifier
  split
  · rfl
  · have inner : dropBackticks (dropBackticks name) = dropBackticks name := by
      simp [dropBackticks]
    have whole : '`' :: dropBackticks name ++ ['`'] = ['`'] ++ dropBackticks name ++ ['`'] := rfl
    have mark : dropBackticks ['`'] = [] := rfl
    rw [whole, dropBackticks_append, dropBackticks_append, inner, mark, List.nil_append,
      List.append_nil]

/-- Quoting changes nothing but backticks. -/
theorem dropBackticks_quoteDotted (name : List Char) :
    dropBackticks (quoteDotted name) = dropBackticks name := by
  have segmentwise : (Text.segments '.' name).map (dropBackticks ∘ quoteIdentifier) =
      (Text.segments '.' name).map dropBackticks :=
    List.map_congr_left fun segment _ => dropBackticks_quoteIdentifier segment
  rw [quoteDotted, dropBackticks_intercalate (by decide), List.map_map, segmentwise,
    ← dropBackticks_intercalate (by decide), Text.intercalate_segments]

/-! ## Calls -/

/-- A text that is a call of a function whose argument is read, with what stands behind the
call. The argument runs from the last opening parenthesis that can be closed to the last
closing one. -/
structure IsCall (text function argument behind : List Char) : Prop where
  whole : text = function ++ '(' :: argument ++ ')' :: behind
  known : Text.lower function ∈ readFunctions
  noOpening : '(' ∉ argument
  noClosing : ')' ∉ behind

theorem cutCall_eq_some_iff {text function argument : List Char} :
    cutCall text = some (function, argument) ↔ ∃ behind, IsCall text function argument behind := by
  constructor
  · intro cut
    unfold cutCall at cut
    split at cut
    · rename_i head behind outer
      split at cut
      · rename_i inner
        split at cut
        · rename_i known
          obtain ⟨rfl, rfl⟩ := Prod.mk.inj (Option.some.inj cut)
          refine ⟨behind, ?_, known, Text.not_mem_of_cutLast inner, Text.not_mem_of_cutLast outer⟩
          rw [Text.append_of_cutLast inner, Text.append_of_cutLast outer]
        · cases cut
      · cases cut
    · cases cut
  · rintro ⟨behind, rfl, known, noOpening, noClosing⟩
    rw [cutCall, Text.cutLast_append noClosing]
    simp only [Text.cutLast_append noOpening, if_pos known]

/-- What stands behind the call that a text is read as; nothing if it is read as no call. -/
def behindCall (text : List Char) : List Char :=
  match cutCall text, Text.cutLast ')' text with
  | some _, some (_, behind) => behind
  | _, _ => []

theorem IsCall.behindCall_eq {text function argument behind : List Char}
    (call : IsCall text function argument behind) : behindCall text = behind := by
  have outer : Text.cutLast ')' text = some (function ++ '(' :: argument, behind) := by
    rw [call.whole, Text.cutLast_append call.noClosing]
  rw [behindCall, cutCall_eq_some_iff.mpr ⟨behind, call⟩, outer]

theorem behindCall_eq_nil {text : List Char} (noCall : cutCall text = none) :
    behindCall text = [] := by
  rw [behindCall, noCall]

theorem Expression.ofText_eq_call {text function argument : List Char}
    (noNull : mentionsNull text = false) (noAlias : Text.cutAlias text = none)
    (cut : cutCall text = some (function, argument)) :
    ofText text = .call function (ofText argument) := by
  rw [ofText, if_neg (Bool.eq_false_iff.mp noNull)]
  split
  · rename_i found
    rw [noAlias] at found
    cases found
  · split
    · rename_i found
      rw [cut] at found
      cases found
      rfl
    · rename_i found
      rw [cut] at found
      cases found

/-! ## Names and calls of names -/

/-- A text that is read as a dotted name or as a call of one. -/
structure NameOrCall (text : List Char) : Prop where
  noNull : mentionsNull text = false
  noAlias : ¬ " as ".toList <:+: Text.lower text
  noArrow : ¬ arrow <:+: text

/-- Whether a text is read as a dotted name or as a call of one. -/
def isNameOrCall (text : List Char) : Bool :=
  !mentionsNull text && !Text.contains " as ".toList (Text.lower text) && !Text.contains arrow text

theorem isNameOrCall_iff {text : List Char} : isNameOrCall text ↔ NameOrCall text := by
  simp only [isNameOrCall, Bool.and_eq_true, Bool.not_eq_true', Text.contains_eq_false_iff]
  constructor
  · rintro ⟨⟨noNull, noAlias⟩, noArrow⟩
    exact ⟨noNull, noAlias, noArrow⟩
  · rintro ⟨noNull, noAlias, noArrow⟩
    exact ⟨⟨noNull, noAlias⟩, noArrow⟩

instance (text : List Char) : Decidable (NameOrCall text) := decidable_of_iff _ isNameOrCall_iff

namespace NameOrCall

variable {text : List Char}

/-- Parts of such a text are such texts. -/
theorem of_infix {part : List Char} (read : NameOrCall text) (occurs : part <:+: text) :
    NameOrCall part where
  noNull := mentionsNull_part occurs read.noNull
  noAlias := fun inPart => read.noAlias (inPart.trans (Text.lower_infix occurs))
  noArrow := fun inPart => read.noArrow (inPart.trans occurs)

theorem ofText_eq (read : NameOrCall text) (noCall : cutCall text = none) :
    Expression.ofText text = .dotted text :=
  Expression.ofText_eq_dotted read.noNull (Text.cutAlias_eq_none read.noAlias) noCall
    (cutSelector_eq_none read.noArrow)

/-- The argument of a call is a name: it has no opening parenthesis. -/
theorem wrap_call (read : NameOrCall text) {function argument behind : List Char}
    (call : IsCall text function argument behind) (dialect : Dialect) :
    wrap dialect text = function ++ '(' :: quoteDotted argument ++ [')'] := by
  have cut := cutCall_eq_some_iff.mpr ⟨behind, call⟩
  have isName : Expression.ofText argument = .dotted argument :=
    (read.of_infix (infix_of_cutCall cut).2.1).ofText_eq (cutCall_eq_none call.noOpening)
  rw [wrap, Expression.ofText_eq_call read.noNull (Text.cutAlias_eq_none read.noAlias) cut, isName,
    Expression.render, Expression.render]

/-- All of a text is written, but for backticks and what stands behind a call. -/
theorem dropBackticks_wrap (read : NameOrCall text) (dialect : Dialect) :
    dropBackticks (wrap dialect text) ++ dropBackticks (behindCall text) =
      dropBackticks text := by
  rcases cut : cutCall text with _ | ⟨function, argument⟩
  · rw [behindCall_eq_nil cut, wrap, read.ofText_eq cut, Expression.render,
      dropBackticks_quoteDotted, dropBackticks_nil, List.append_nil]
  · obtain ⟨behind, call⟩ := cutCall_eq_some_iff.mp cut
    have written : wrap dialect text = function ++ ['('] ++ quoteDotted argument ++ [')'] := by
      rw [read.wrap_call call]
      simp only [List.append_assoc, List.cons_append, List.nil_append]
    have whole : text = function ++ ['('] ++ argument ++ [')'] ++ behind := by
      rw [call.whole]
      simp only [List.append_assoc, List.cons_append, List.nil_append]
    rw [call.behindCall_eq, written, whole]
    simp only [dropBackticks_append, dropBackticks_quoteDotted]

/-- A reference without `null`, alias and arrow is written with everything but what stands
behind a call, backticks aside. So nothing is lost if and only if nothing but backticks stands
behind a call; and two references with the same text differ in more than backticks exactly if
they do so behind their calls. -/
theorem wrap_keeps_iff (read : NameOrCall text) (dialect : Dialect) :
    dropBackticks (wrap dialect text) ++ dropBackticks (behindCall text) = dropBackticks text ∧
      (dropBackticks (wrap dialect text) = dropBackticks text ↔
        ∀ function argument behind, IsCall text function argument behind →
          ∀ char ∈ behind, char = '`') ∧
      ∀ other, NameOrCall other → wrap dialect text = wrap dialect other →
        (dropBackticks text = dropBackticks other ↔
          dropBackticks (behindCall text) = dropBackticks (behindCall other)) := by
  have written := read.dropBackticks_wrap dialect
  refine ⟨written, ?_, fun other otherRead same => ?_⟩
  · rw [← written, List.self_eq_append_right, dropBackticks_eq_nil_iff]
    constructor
    · intro onlyBackticks function argument behind call
      rwa [call.behindCall_eq] at onlyBackticks
    · intro each
      rcases cut : cutCall text with _ | ⟨function, argument⟩
      · simp [behindCall_eq_nil cut]
      · obtain ⟨behind, call⟩ := cutCall_eq_some_iff.mp cut
        rw [call.behindCall_eq]
        exact each function argument behind call
  · rw [← written, ← otherRead.dropBackticks_wrap dialect, same, List.append_cancel_left_eq]

/-- A call with a backtick behind it, and one with a letter behind it. -/
theorem wrap_keeps_iff_max :
    let text := "max(o.to`tal)`".toList
    let other := "max(`o.total)x".toList
    NameOrCall text ∧ NameOrCall other ∧ wrap .mysql text = wrap .mysql other ∧
      (dropBackticks (wrap .mysql text) = dropBackticks text ↔
        ∀ function argument behind, IsCall text function argument behind →
          ∀ char ∈ behind, char = '`') ∧
      (dropBackticks text = dropBackticks other ↔
        dropBackticks (behindCall text) = dropBackticks (behindCall other)) := by
  intro text other
  have read : NameOrCall text := by decide +kernel
  have otherRead : NameOrCall other := by decide +kernel
  have same : wrap .mysql text = wrap .mysql other := by decide +kernel
  obtain ⟨-, keeps, apart⟩ := read.wrap_keeps_iff .mysql
  exact ⟨read, otherRead, same, keeps, apart other otherRead same⟩

/-- What stands behind `count(id)` is not written, so it can be told from the call alone
neither by its text nor by what is left of it. -/
theorem wrap_loses_behind_count :
    let text := "count(id) x".toList
    let other := "count(id)".toList
    NameOrCall text ∧ NameOrCall other ∧ dropBackticks text ≠ dropBackticks other ∧
      ∀ dialect, wrap dialect text = "count(`id`)".toList ∧
        wrap dialect other = "count(`id`)".toList ∧
        dropBackticks (wrap dialect text) ≠ dropBackticks text := by
  intro text other
  refine ⟨by decide +kernel, by decide +kernel, by decide, fun dialect => ?_⟩
  cases dialect <;> decide +kernel

end NameOrCall

end Sql

end FluentSql
