import FluentSql.Proofs.AliasSearch
import FluentSql.Proofs.Dotted
import FluentSql.Proofs.Selecting

/-!
# Writing a reference comes to an end

A reference is written as it stands in bytes: the alias, the call and the runs of names are cut out
at offsets, and the base of an alias, the argument of a call and the field of a selector are
references that are written in turn. `writeReferenceBy` is one such writing, whatever writes the
references in it. It asks only for shorter references (`yields_writeReferenceBy`), so a writing that
may descend as often as the reference has characters ends, and gives the text that the reference
has as an expression: `writeReference_ends`.
-/

namespace FluentSql

namespace Text

/-- The offset of the last occurrence of a character. -/
def lastOffset? (mark : Char) (text : List Char) : Option Nat :=
  (cutLast mark text).map fun parts => width parts.1

theorem width_le_of_isBoundary {text : List Char} {offset : Nat}
    (boundary : IsBoundary text offset) : offset ≤ width text := by
  obtain ⟨before, after, rfl, rfl⟩ := isBoundary_iff.mp boundary
  rw [width_append]
  exact Nat.le_add_right _ _

end Text

namespace Sql

/-! ## The writing -/

/-- What stands before the last opening parenthesis that is closed, and the text from there to the
last closing one. -/
def splitCall (text : List Char) : Attempt (Option (List Char × List Char)) :=
  match Text.lastOffset? ')' text with
  | none => pure none
  | some close => do
    let head ← Attempt.slice text 0 close
    match Text.lastOffset? '(' head with
    | none => return none
    | some opening => do
      let function ← Attempt.slice text 0 opening
      let argument ← Attempt.slice text (opening + 1) close
      return some (function, argument)

variable (dialect : Dialect) (write : List Char → Attempt (List Char))

/-- Write the field of a column, and its path as a further argument; a column without the delimiter
is all field. -/
def writeFieldAndPath (column delimiter : List Char) : Attempt (List Char × List Char) :=
  match Text.cutFirst delimiter column with
  | some (field, path) => do
    let field ← write field
    return (field, ", ".toList ++ pathLiteral path)
  | none => do
    let field ← write column
    return (field, [])

/-- The arrow at which a selector is split: an unquoting arrow anywhere goes before plain ones. -/
def selectorArrow (text : List Char) : List Char :=
  if Text.contains unquotingArrow text then unquotingArrow else arrow

/-- Take out of a field what its arguments say, in a dialect's own words. -/
def extraction (unquoted : Bool) (arguments : List Char) : List Char :=
  let extracted := "json_extract(".toList ++ arguments ++ [')']
  match dialect with
  | .mysql => if unquoted then "json_unquote(".toList ++ extracted ++ [')'] else extracted
  | .sqlite => extracted

/-- Write a selector. -/
def writeSelector (text : List Char) : Attempt (List Char) := do
  let delimiter := selectorArrow text
  let (field, path) ← writeFieldAndPath write text delimiter
  return extraction dialect (delimiter = unquotingArrow) (field ++ path)

/-- Write what has neither an alias nor an argument to be read. -/
def writeColumn (text : List Char) : Attempt (List Char) :=
  if Text.contains arrow text then writeSelector dialect write text else writeDotted text

/-- Write a reference, given how the references in it are written. -/
def writeReferenceBy (text : List Char) : Attempt (List Char) :=
  if mentionsNull text then pure text
  else do
    match ← Text.splitAlias text with
    | (base, some name) => do
      let base ← write (Text.trim base)
      let name ← writeIdentifier (Text.trim name)
      return base ++ " as ".toList ++ name
    | (_, none) => do
      match ← splitCall text with
      | some (function, argument) =>
        if readFunctions.contains (Text.lower function) then do
          let argument ← write argument
          return function ++ '(' :: argument ++ [')']
        else writeColumn dialect write text
      | none => writeColumn dialect write text

/-- Write a reference, descending into references in it at most so many times. -/
def writeReference : Nat → List Char → Attempt (List Char)
  | 0, _ => ⟨[], none⟩
  | depth + 1, text =>
    writeReferenceBy dialect
      (fun inner => Attempt.descend text inner (writeReference depth inner)) text

/-! ## What is asked of the references in it -/

/-- The texts before and in the parentheses that are read. -/
def parenthesized? (text : List Char) : Option (List Char × List Char) :=
  (Text.cutLast ')' text).bind fun parts => Text.cutLast '(' parts.1

/-- A call has parentheses that are read, behind the name of a function that is read. -/
theorem cutCall_eq (text : List Char) :
    cutCall text =
      (parenthesized? text).filter fun parts => Text.lower parts.1 ∈ readFunctions := by
  rw [cutCall, parenthesized?]
  rcases Text.cutLast ')' text with _ | ⟨head, behind⟩
  · rfl
  · rw [Option.bind_some]
    rcases inner : Text.cutLast '(' head with _ | ⟨function, argument⟩
    · simp only [inner, Option.filter_none]
    · simp only [inner, Option.filter_some, decide_eq_true_eq]

theorem yields_splitCall (text : List Char) : (splitCall text).Yields (parenthesized? text) := by
  rw [splitCall, Text.lastOffset?, parenthesized?]
  rcases outer : Text.cutLast ')' text with _ | ⟨head, behind⟩
  · exact Attempt.yields_pure none
  · have whole := (Text.append_of_cutLast outer).symm
    refine Attempt.Yields.bind (Attempt.yields_slice [] head (')' :: behind) whole rfl rfl) ?_
    rw [Text.lastOffset?, Option.bind_some]
    rcases inner : Text.cutLast '(' head with _ | ⟨function, argument⟩
    · exact Attempt.yields_pure none
    · have parts := (Text.append_of_cutLast inner).symm
      refine Attempt.Yields.bind
        (Attempt.yields_slice [] function ('(' :: argument ++ ')' :: behind) ?_ rfl rfl)
        (Attempt.Yields.bind
          (Attempt.yields_slice (function ++ ['(']) argument (')' :: behind) ?_ ?_ ?_)
          (Attempt.yields_pure _))
      · rw [whole, parts]
        simp
      · rw [whole, parts]
        simp
      · rw [Text.width_append]
        rfl
      · rw [parts]
        simp

/-- A selector is split at the arrow that is chosen for it, which occurs. -/
theorem cutFirst_selectorArrow {text : List Char} (occurs : Text.contains arrow text = true) :
    ∃ field path, Text.cutFirst (selectorArrow text) text = some (field, path) ∧
      cutSelector text = some (decide (selectorArrow text = unquotingArrow), field, path) := by
  rw [selectorArrow, cutSelector]
  rcases unquoting : Text.cutFirst unquotingArrow text with _ | ⟨field, path⟩
  · have absent : Text.contains unquotingArrow text = false := by
      rw [Text.contains, unquoting]
      rfl
    rw [absent, if_neg Bool.false_ne_true]
    obtain ⟨⟨field, path⟩, cut⟩ := Option.isSome_iff_exists.mp occurs
    exact ⟨field, path, cut, by rw [cut]; rfl⟩
  · have present : Text.contains unquotingArrow text = true := by
      rw [Text.contains, unquoting]
      rfl
    rw [if_pos present]
    exact ⟨field, path, unquoting, rfl⟩

/-- What is taken out of a field is told by the field and the path as one list of arguments. -/
theorem extract_eq (dialect : Dialect) (unquoted : Bool) (field path : List Char) :
    Expression.extract dialect unquoted field path =
      extraction dialect unquoted (field ++ (", ".toList ++ path)) := by
  have extracted : "json_extract(".toList ++ field ++ ", ".toList ++ path ++ [')'] =
      "json_extract(".toList ++ (field ++ (", ".toList ++ path)) ++ [')'] := by
    simp only [List.append_assoc]
  cases dialect with
  | mysql =>
    cases unquoted with
    | false => exact extracted
    | true => exact congrArg (fun inner => "json_unquote(".toList ++ inner ++ [')']) extracted
  | sqlite => exact extracted

variable {dialect : Dialect} {write : List Char → Attempt (List Char)} {text : List Char}

/-- Selectors and dotted names ask for the field only. -/
theorem yields_writeColumn (noNull : mentionsNull text = false)
    (noAlias : Text.cutAlias text = none) (noCall : cutCall text = none)
    (smaller : ∀ inner, Text.width inner < Text.width text →
      (write inner).Yields (wrap dialect inner)) :
    (writeColumn dialect write text).Yields (wrap dialect text) := by
  rw [writeColumn]
  split
  · rename_i occurs
    obtain ⟨field, path, cut, selector⟩ := cutFirst_selectorArrow occurs
    have shorter := Text.width_lt_of_infix (infix_of_cutSelector selector).1
      (length_lt_of_cutSelector selector)
    have parts : (writeFieldAndPath write text (selectorArrow text)).Yields
        (wrap dialect field, ", ".toList ++ pathLiteral path) := by
      rw [writeFieldAndPath, cut]
      exact (smaller field shorter).bind (Attempt.yields_pure _)
    have written : wrap dialect text = extraction dialect (selectorArrow text = unquotingArrow)
        (wrap dialect field ++ (", ".toList ++ pathLiteral path)) := by
      rw [wrap, Expression.ofText_eq_selector noNull noAlias noCall selector, Expression.render,
        extract_eq, wrap]
    rw [written]
    exact parts.bind (Attempt.yields_pure _)
  · rename_i absent
    have arrowless : ¬ arrow <:+: text := mt Text.contains_eq_true_iff.mpr absent
    rw [wrap, Expression.ofText_eq_dotted noNull noAlias noCall (cutSelector_eq_none arrowless),
      Expression.render]
    exact yields_writeDotted text

/-- If the shorter references are written, so is a reference: it asks for no others, and takes no
slice that cuts a character in two. -/
theorem yields_writeReferenceBy (smaller : ∀ inner, Text.width inner < Text.width text →
      (write inner).Yields (wrap dialect inner)) :
    (writeReferenceBy dialect write text).Yields (wrap dialect text) := by
  rw [writeReferenceBy]
  split
  · rename_i null
    rw [wrap, Expression.ofText, if_pos null, Expression.render]
    exact Attempt.yields_pure text
  · rename_i null
    have noNull := Bool.eq_false_iff.mpr null
    have split := Text.yields_splitAlias text
    refine split.bind ?_
    rcases cut : Text.cutAlias text with _ | ⟨base, name⟩
    · have call := yields_splitCall text
      refine call.bind ?_
      have named := cutCall_eq text
      rcases parts : parenthesized? text with _ | ⟨function, argument⟩
      · rw [parts, Option.filter_none] at named
        exact yields_writeColumn noNull cut named smaller
      · rw [parts, Option.filter_some] at named
        by_cases known : Text.lower function ∈ readFunctions
        · rw [if_pos (decide_eq_true known)] at named
          have shorter := Text.width_lt_of_infix (infix_of_cutCall named).2.1
            (length_lt_of_cutCall named)
          have written : wrap dialect text =
              function ++ '(' :: wrap dialect argument ++ [')'] := by
            rw [wrap, Expression.ofText_eq_call noNull cut named, Expression.render, wrap]
          dsimp only
          rw [if_pos (List.contains_iff_mem.mpr known), written]
          exact (smaller argument shorter).bind (Attempt.yields_pure _)
        · rw [if_neg (by simpa using known)] at named
          dsimp only
          rw [if_neg (mt List.contains_iff_mem.mp known)]
          exact yields_writeColumn noNull cut named smaller
    · have trimmed := Text.trim_length_le base
      have less := length_lt_of_cutAlias cut
      have shorter : Text.width (Text.trim base) < Text.width text :=
        Text.width_lt_of_infix ((Text.trim_infix base).trans (Text.infix_of_cutAlias cut).1)
          (by omega)
      rw [wrap_of_alias noNull cut dialect]
      exact (smaller _ shorter).bind ((yields_writeIdentifier _).bind (Attempt.yields_pure _))

/-- A writing that may descend as often as a reference has bytes comes to its text. -/
theorem yields_writeReference (dialect : Dialect) {depth : Nat} {text : List Char}
    (enough : Text.width text < depth) :
    (writeReference dialect depth text).Yields (wrap dialect text) := by
  induction depth generalizing text with
  | zero => exact absurd enough (Nat.not_lt_zero _)
  | succ depth inductionHypothesis =>
    rw [writeReference]
    -- the references in it are shorter, so one descent less is enough for them
    refine yields_writeReferenceBy fun inner shorter => ?_
    exact Attempt.Yields.descend shorter
      (inductionHypothesis (Nat.lt_of_lt_of_le shorter (Nat.le_of_lt_succ enough)))

/-- Every reference is written in both dialects: a writing that may descend as often as the
reference has bytes comes to the text of the expression that the reference is read as. On the way
it descends into strictly shorter references only, and takes slices only forward, within their
text, from one boundary of characters to another. -/
theorem writeReference_ends (dialect : Dialect) (text : List Char) {depth : Nat}
    (enough : Text.width text < depth) :
    (writeReference dialect depth text).result? = some (wrap dialect text) ∧
    (∀ outer inner, .descend outer inner ∈ (writeReference dialect depth text).hazards →
      Text.width inner < Text.width outer) ∧
    (∀ whole first last, .slice whole first last ∈ (writeReference dialect depth text).hazards →
      first ≤ last ∧ last ≤ Text.width whole ∧
        Text.IsBoundary whole first ∧ Text.IsBoundary whole last) := by
  have yields := yields_writeReference dialect enough
  refine ⟨yields.result, fun outer inner => yields.harmless (.descend outer inner), ?_⟩
  intro whole first last member
  obtain ⟨forward, starts, ends⟩ := yields.harmless (.slice whole first last) member
  exact ⟨forward, Text.width_le_of_isBoundary ends, starts, ends⟩

/-- A call in an alias with selectors in it, characters of more than one byte at every cut. -/
theorem writeReference_ends_nested :
    let text := "Max(é->>ü€->ß`(->`) as `ö`.*".toList
    Text.width text < 40 ∧
      (writeReference .mysql 40 text).result? = some (wrap .mysql text) := by
  intro text
  have enough : Text.width text < 40 := by decide +kernel
  exact ⟨enough, (writeReference_ends .mysql text enough).1⟩

end Sql

end FluentSql
