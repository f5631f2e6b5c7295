import FluentSql.Proofs.Refusal
import FluentSql.Proofs.Trimming

/-!
# Spellings of operators

However an operator is spelled, it is written in one form: trimmed, in small letters, and under the
first of its names if it has several. That form is read as an operator that is written in the same
way again (`Operator.sql_normal_form`), so it tells apart all spellings that are not of one operator
or of two that are folded into one.
-/

namespace FluentSql.Operator

/-! ## The form that is read -/

theorem toList_normalize (text : String) :
    (normalize text).toList = Text.lower (Text.trim text.toList) :=
  String.toList_ofList

/-- A text with blanks added around it, and with other capitals. -/
def Respells (text other : String) : Prop :=
  ∃ before after : List Char,
    (∀ char ∈ before, Text.isBlank char = true) ∧ (∀ char ∈ after, Text.isBlank char = true) ∧
      Text.lower other.toList = Text.lower (before ++ text.toList ++ after)

theorem Respells.normalize_eq {text other : String} (respells : Respells text other) :
    normalize other = normalize text := by
  obtain ⟨before, after, blankBefore, blankAfter, sameLetters⟩ := respells
  rw [normalize, normalize, ← Text.trim_lower, sameLetters, Text.trim_lower,
    Text.trim_padded blankBefore blankAfter]

/-- A text that an operator can be written as. -/
structure IsNormalForm (text : String) : Prop where
  nonempty : text ≠ ""
  trimmed : Text.Trimmed text.toList
  small : ∀ char ∈ text.toList, char.isUpper = false
  unmarked : '?' ∉ text.toList

/-- A text is left alone by reading exactly if it is trimmed and in small letters. -/
theorem normalize_eq_self_iff {text : String} : normalize text = text ↔
    Text.Trimmed text.toList ∧ ∀ char ∈ text.toList, char.isUpper = false := by
  rw [← String.toList_inj, toList_normalize, ← Text.trim_eq_self_iff, ← Text.lower_eq_self_iff]
  constructor
  · intro same
    have trimmed : Text.trim text.toList = text.toList := by
      rw [← same, Text.trim_lower, Text.trim_eq_self_iff.mpr (Text.trimmed_trim _)]
    rw [trimmed] at same
    exact ⟨trimmed, same⟩
  · rintro ⟨trimmed, small⟩
    rw [trimmed, small]

theorem normalize_normalize (text : String) : normalize (normalize text) = normalize text := by
  rw [normalize_eq_self_iff, toList_normalize]
  refine ⟨?_, fun char => Text.isUpper_of_mem_lower⟩
  rw [← Text.trim_eq_self_iff, Text.trim_lower, Text.trim_eq_self_iff.mpr (Text.trimmed_trim _)]

theorem ofText_congr {text other : String} (same : normalize other = normalize text) :
    ofText other = ofText text := by
  rw [ofText, ofText, same]

/-! ## The form that is written -/

/-- Two names of one operator, or of two that are folded into one; the second of them is written. -/
def synonyms : List (String × String) :=
  [("<>", "!="), ("ilike", "like"), ("not ilike", "not like")]

/-- The name that is written for a name. -/
def standard (name : String) : String :=
  match synonyms.find? fun pair => pair.1 = name with
  | some (_, written) => written
  | none => name

theorem standard_of_absent {name : String} (absent : ∀ pair ∈ synonyms, pair.1 ≠ name) :
    standard name = name := by
  have notFound : synonyms.find? (fun pair => pair.1 = name) = none :=
    List.find?_eq_none.mpr fun pair member => by
      simpa using absent pair member
  rw [standard, notFound]

/-- A name is written as itself or as its synonym. -/
theorem standard_eq_or (name : String) :
    standard name = name ∨ (name, standard name) ∈ synonyms := by
  rw [standard]
  split
  · rename_i known written found
    have named := List.find?_some found
    obtain rfl : known = name := of_decide_eq_true named
    exact .inr (List.mem_of_find?_eq_some found)
  · exact .inl rfl

theorem standard_of_mem_synonyms : ∀ pair ∈ synonyms,
    standard pair.1 = pair.2 ∧ standard pair.2 = pair.2 := by
  decide

theorem synonyms_injective : ∀ one ∈ synonyms, ∀ two ∈ synonyms, two.2 = one.2 → two = one := by
  decide

/-- Two names that are one name, or of which one is written as the other. -/
def SameUpToSynonym (name other : String) : Prop :=
  other = name ∨ (other, name) ∈ synonyms ∨ (name, other) ∈ synonyms

theorem standard_eq_standard_iff {name other : String} :
    standard other = standard name ↔ SameUpToSynonym name other := by
  constructor
  · intro same
    rcases standard_eq_or name with itself | synonym
    · rcases standard_eq_or other with otherItself | otherSynonym
      · exact .inl (otherItself.symm.trans (same.trans itself))
      · rw [same, itself] at otherSynonym
        exact .inr (.inl otherSynonym)
    · rcases standard_eq_or other with otherItself | otherSynonym
      · rw [← same, otherItself] at synonym
        exact .inr (.inr synonym)
      · -- No two names have the same synonym.
        exact .inl (congrArg Prod.fst (synonyms_injective _ synonym _ otherSynonym same))
  · rintro (rfl | synonym | synonym)
    · rfl
    · rw [(standard_of_mem_synonyms _ synonym).1, (standard_of_mem_synonyms _ synonym).2]
    · rw [(standard_of_mem_synonyms _ synonym).1, (standard_of_mem_synonyms _ synonym).2]

theorem standard_standard (name : String) : standard (standard name) = standard name := by
  rcases standard_eq_or name with itself | synonym
  · rw [itself, itself]
  · exact (standard_of_mem_synonyms (name, standard name) synonym).2

/-- A name that no statement can hold. -/
def Unfit (name : String) : Prop := name = "" ∨ '?' ∈ name.toList

instance : DecidablePred Unfit := fun name =>
  inferInstanceAs (Decidable (name = "" ∨ '?' ∈ name.toList))

theorem fit_of_mem_synonyms : ∀ pair ∈ synonyms, ¬ Unfit pair.1 ∧ ¬ Unfit pair.2 := by
  decide

theorem SameUpToSynonym.fit {name other : String} (same : SameUpToSynonym name other)
    (fit : ¬ Unfit name) : ¬ Unfit other := by
  rcases same with rfl | synonym | synonym
  · exact fit
  · exact (fit_of_mem_synonyms _ synonym).1
  · exact (fit_of_mem_synonyms _ synonym).2

/-- The texts that operators are written as are those that reading leaves alone. -/
theorem isNormalForm_iff {text : String} :
    IsNormalForm text ↔ normalize text = text ∧ ¬ Unfit text := by
  rw [normalize_eq_self_iff, Unfit, not_or]
  constructor
  · rintro ⟨nonempty, trimmed, small, unmarked⟩
    exact ⟨⟨trimmed, small⟩, nonempty, unmarked⟩
  · rintro ⟨⟨trimmed, small⟩, nonempty, unmarked⟩
    exact ⟨nonempty, trimmed, small, unmarked⟩

theorem isNormalForm_standard {name : String} (normal : IsNormalForm name) :
    IsNormalForm (standard name) := by
  have table : ∀ pair ∈ synonyms, normalize pair.2 = pair.2 := by decide
  rcases standard_eq_or name with itself | synonym
  · rwa [itself]
  · have fit := (fit_of_mem_synonyms _ synonym).2
    exact isNormalForm_iff.mpr ⟨table (name, standard name) synonym, fit⟩

/-! ## Operators and their names -/

/-- What an operator has of the name that it is read under. -/
structure Named (operator : Operator) (name : String) : Prop where
  text : operator.text = standard name
  unwritable_iff : operator.Unwritable ↔ Unfit name

theorem named_other {name : String} (absent : ∀ entry ∈ spellings, entry.1 ≠ name) :
    Named (other name) name where
  text := by
    have known : ∀ pair ∈ synonyms, pair.1 ∈ spellings.map Prod.fst := by decide
    refine (standard_of_absent fun pair member => ?_).symm
    obtain ⟨entry, spelled, same⟩ := List.mem_map.mp (known pair member)
    rw [← same]
    exact absent entry spelled
  unwritable_iff := by
    constructor
    · rintro ⟨text, same, unwritable⟩
      obtain rfl := Operator.other.inj same
      exact unwritable
    · intro unwritable
      exact ⟨name, rfl, unwritable⟩

theorem named_ofText (text : String) : Named (ofText text) (normalize text) := by
  have table : ∀ entry ∈ spellings, entry.2.text = standard entry.1 ∧ entry.2.fault? = none ∧
      ¬ Unfit entry.1 := by
    decide
  rw [ofText]
  split
  · rename_i name operator found
    have named := List.find?_some found
    obtain rfl : name = normalize text := of_decide_eq_true named
    obtain ⟨written, writable, spelled⟩ := table _ (List.mem_of_find?_eq_some found)
    exact ⟨written, iff_of_false (fault?_eq_none_iff.mp writable) spelled⟩
  · rename_i unknown
    exact named_other fun entry member same =>
      List.find?_eq_none.mp unknown entry member (decide_eq_true same)

/-! ## What is written -/

theorem sql_eq_error_iff {operator : Operator} {fault : Fault} :
    operator.sql = .error fault ↔ operator.fault? = some fault := by
  rw [sql]
  split
  · rename_i other fails
    simp [fails]
  · rename_i writable
    simp [writable]

theorem sql_eq_ok_iff {operator : Operator} {written : String} :
    operator.sql = .ok written ↔ ¬ operator.Unwritable ∧ operator.text = written := by
  rw [← fault?_eq_none_iff, sql]
  split
  · rename_i fault fails
    simp [fails]
  · rename_i writable
    simp [writable]

theorem exists_sql_eq_error_iff {operator : Operator} :
    (∃ fault, operator.sql = .error fault) ↔ operator.Unwritable := by
  simp only [sql_eq_error_iff]
  rw [← Option.isSome_iff_exists, ← Option.ne_none_iff_isSome, Ne, fault?_eq_none_iff,
    Classical.not_not]

/-- A text that is trimmed to nothing or has a `?` in it is no operator. -/
theorem unwritable_ofText_iff (text : String) : (ofText text).Unwritable ↔
    Text.trim text.toList = [] ∨ '?' ∈ Text.trim text.toList := by
  rw [(named_ofText text).unwritable_iff, Unfit, ← String.toList_eq_nil_iff, toList_normalize,
    Text.mem_lower_iff (by decide), Text.lower, List.map_eq_nil_iff]

theorem sql_ofText_eq_ok_iff {text written : String} : (ofText text).sql = .ok written ↔
    ¬ Unfit (normalize text) ∧ standard (normalize text) = written := by
  rw [sql_eq_ok_iff, (named_ofText text).unwritable_iff, (named_ofText text).text]

/-- What is written is in normal form, and it is written again when it is read. -/
theorem isNormalForm_of_sql {text written : String} (writes : (ofText text).sql = .ok written) :
    IsNormalForm written ∧ (ofText written).sql = .ok written := by
  obtain ⟨fit, rfl⟩ := sql_ofText_eq_ok_iff.mp writes
  have normal := isNormalForm_standard (isNormalForm_iff.mpr ⟨normalize_normalize text, fit⟩)
  obtain ⟨same, writtenFit⟩ := isNormalForm_iff.mp normal
  refine ⟨normal, sql_ofText_eq_ok_iff.mpr ?_⟩
  rw [same, standard_standard]
  exact ⟨writtenFit, rfl⟩

/-- Two texts are written alike exactly if they are read under the same name or under synonyms. -/
theorem sql_ofText_eq_iff {text written : String} (writes : (ofText text).sql = .ok written)
    (other : String) : (ofText other).sql = .ok written ↔
      SameUpToSynonym (normalize text) (normalize other) := by
  obtain ⟨fit, rfl⟩ := sql_ofText_eq_ok_iff.mp writes
  rw [sql_ofText_eq_ok_iff, standard_eq_standard_iff, and_iff_right_iff_imp]
  exact fun same => same.fit fit

/-- An operator text is refused exactly if it is blank or has a `?` in it. Any other is written in
a form that is written again when it is read, and that tells it apart from every text but those
that are trimmed and made small to the same name or to a synonym of it. Blanks around a text and
capitals in it do not count. -/
theorem sql_normal_form (text : String) :
    ((∃ fault, (ofText text).sql = .error fault) ↔
      Text.trim text.toList = [] ∨ '?' ∈ Text.trim text.toList) ∧
    (∀ fault, (ofText text).sql = .error fault → fault.kind = .invalidArgument) ∧
    (∀ written, (ofText text).sql = .ok written →
      IsNormalForm written ∧ (ofText written).sql = .ok written ∧
        ∀ other, (ofText other).sql = .ok written ↔
          SameUpToSynonym (normalize text) (normalize other)) ∧
    ∀ other, Respells text other →
      ofText other = ofText text ∧ (ofText other).sql = (ofText text).sql := by
  refine ⟨exists_sql_eq_error_iff.trans (unwritable_ofText_iff text), ?_, ?_, ?_⟩
  · intro fault fails
    exact kind_of_fault? (sql_eq_error_iff.mp fails)
  · intro written writes
    obtain ⟨normal, again⟩ := isNormalForm_of_sql writes
    exact ⟨normal, again, sql_ofText_eq_iff writes⟩
  · intro other respells
    have same := ofText_congr respells.normalize_eq
    exact ⟨same, congrArg sql same⟩

/-- A text that is refused, and one in capitals with blanks around it that is written as another
operator is. -/
theorem sql_normal_form_folded :
    ((ofText " a ? b ").sql = .error (.operatorWithPlaceholder "a ? b") ∧
      (Fault.operatorWithPlaceholder "a ? b").kind = .invalidArgument) ∧
    ((ofText "\tNOT ilike ").sql = .ok "not like" ∧ IsNormalForm "not like" ∧
      (ofText "not like").sql = .ok "not like" ∧ (ofText "Not Like").sql = .ok "not like") ∧
    (Respells "not ilike" "\tNOT ilike " ∧ ofText "\tNOT ilike " = ofText "not ilike") := by
  have refused : (ofText " a ? b ").sql = .error (.operatorWithPlaceholder "a ? b") :=
    sql_eq_error_iff.mpr (by decide)
  have writes : (ofText "\tNOT ilike ").sql = .ok "not like" :=
    sql_ofText_eq_ok_iff.mpr (by decide)
  have respells : Respells "not ilike" "\tNOT ilike " :=
    ⟨['\t'], [' '], List.all_eq_true.mp (by decide), List.all_eq_true.mp (by decide), by decide⟩
  have synonyms : SameUpToSynonym (normalize "\tNOT ilike ") (normalize "Not Like") :=
    .inr (.inr (by decide))
  obtain ⟨normal, again, alike⟩ := (sql_normal_form "\tNOT ilike ").2.2.1 _ writes
  exact ⟨⟨refused, (sql_normal_form " a ? b ").2.1 _ refused⟩,
    ⟨writes, normal, again, (alike _).mpr synonyms⟩,
    respells, ((sql_normal_form "not ilike").2.2.2 _ respells).1⟩

end FluentSql.Operator
