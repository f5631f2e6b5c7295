import FluentSql.Proofs.Storing
import FluentSql.Proofs.Trimming
import FluentSql.Session.Script
import FluentSql.Session.Terminal
import FluentSql.Session.Transcript

/-!
# Integers in every form

A driver hands an integer back in a width of its own choice, or as decimal text. A bound integer is
read as the signed number of 64 bits that it is, and its text, with blanks around it or not, as the
same number; what is above those numbers is read as none in either form. So a count does not depend
on the form of the number that it is handed (`Integer.read_in_every_form`).
-/

namespace FluentSql

namespace Number

/-! ## Decimal text -/

theorem isBlank_of_mem_decimal {number : Int} {char : Char} (member : char ∈ decimal number) :
    Text.isBlank char = false := by
  have visible : ∀ digit : Char, digit.isDigit = true → Text.isBlank digit = false := by
    intro digit isDigit
    rw [Char.isDigit_iff_toNat] at isDigit
    simp [Text.isBlank, Text.blankRanges] at isDigit ⊢
    omega
  cases number with
  | ofNat number => exact visible char (isDigit_of_mem_digits member)
  | negSucc number =>
    rcases List.mem_cons.mp member with rfl | isDigit
    · decide
    · exact visible char (isDigit_of_mem_digits isDigit)

/-- There is nothing to trim around decimal text. -/
theorem trimmed_decimal (number : Int) : Text.Trimmed (decimal number) where
  begins _ first := isBlank_of_mem_decimal (List.mem_of_mem_head? first)
  ends _ last := isBlank_of_mem_decimal (List.mem_of_mem_getLast? last)

end Number

namespace Integer

/-! ## Forms -/

/-- The forms in which a connection hands back an integer: the same number in any width, or its
decimal text with blanks around it. -/
inductive HandedBackAs (integer : Integer) : Bind → Prop
  | integer (other : Integer) (same : other.toInt = integer.toInt) :
    HandedBackAs integer (.integer other)
  | text {before after : String}
      (blankBefore : ∀ char ∈ before.toList, Text.isBlank char = true)
      (blankAfter : ∀ char ∈ after.toList, Text.isBlank char = true) :
    HandedBackAs integer (.text (before ++ (Bind.integer integer).display ++ after))

/-- Every form of an integer is read as the same number, or as none. -/
theorem HandedBackAs.asInt64_eq {integer : Integer} {form : Bind}
    (handedBack : integer.HandedBackAs form) : form.asInt64 = (Bind.integer integer).asInt64 := by
  cases handedBack with
  | integer other same => rw [Bind.asInt64, Bind.asInt64, same]
  | text blankBefore blankAfter =>
    rw [Bind.asInt64, Bind.asInt64, Bind.display, String.toList_append, String.toList_append,
      String.toList_ofList, Text.trim_padded blankBefore blankAfter,
      Text.trim_eq_self_iff.mpr (Number.trimmed_decimal _), Number.readInteger?_decimal]
    rfl

end Integer

namespace Builder

variable {σ : Type}

/-! ## Counts -/

theorem fst_count (connection : Connection σ) (columns : Columns) (builder : Builder) (state : σ) :
    (builder.count connection columns state).1 =
      (((builder.asking ⟨.count, aggregateColumns columns⟩).fetchRow connection state).1.map
        aggregateValue).map fun value => value.asInt64.getD 0 := by
  rw [← Exchange.fst_map]
  rfl

/-- A connection answers a count with a row that has an integer in it, in one of its forms. -/
structure CountsAs (connection : Connection σ) (columns : Columns) (builder : Builder) (state : σ)
    (integer : Integer) (form : Bind) (record : Record) : Prop where
  fetched : ((builder.asking ⟨.count, aggregateColumns columns⟩).fetchRow connection state).1 =
    .ok (some record)
  counted : record.get? "aggregate" = some form
  handedBack : integer.HandedBackAs form

theorem aggregateValue_of_get? {record : Record} {value : Bind}
    (found : record.get? "aggregate" = some value) : aggregateValue (some record) = value := by
  rw [aggregateValue, Option.bind_some, found, Option.getD_some]

/-- A count is the number that is handed back, in whatever form, and zero if it is too large. -/
theorem CountsAs.fst_count {connection : Connection σ} {columns : Columns} {builder : Builder}
    {state : σ} {integer : Integer} {form : Bind} {record : Record}
    (counts : builder.CountsAs connection columns state integer form record) :
    (builder.count connection columns state).1 = .ok ((Bind.integer integer).asInt64.getD 0) := by
  rw [Builder.fst_count, counts.fetched, Except.map, Except.map,
    aggregateValue_of_get? counts.counted, counts.handedBack.asInt64_eq]

end Builder

namespace Integer

/-- A bound integer is read as the same number of 64 bits, or as none if it is an unsigned one above
those, and its text with any blanks around it is read likewise. A count that is handed the number
in the one form comes to the same as a count that is handed it in the other. -/
theorem read_in_every_form (integer : Integer) :
    (∀ word : Int64, (Bind.integer integer).asInt64 = some word ↔ word.toInt = integer.toInt) ∧
    ((Bind.integer integer).asInt64 = none ↔
      ∃ value : UInt64, integer = .uint64 value ∧ Int64.maxValue.toInt < value.toNat) ∧
    (∀ before after : String, (∀ char ∈ before.toList, Text.isBlank char = true) →
      (∀ char ∈ after.toList, Text.isBlank char = true) →
        (Bind.text (before ++ (Bind.integer integer).display ++ after)).asInt64 =
          (Bind.integer integer).asInt64) ∧
    ∀ {σ : Type} (connection : Connection σ) (columns : Columns) (builder : Builder) (state : σ)
      (form : Bind) (record : Record),
        builder.CountsAs connection columns state integer form record →
          (builder.count connection columns state).1 =
            .ok ((Bind.integer integer).asInt64.getD 0) := by
  refine ⟨fun word => Number.toInt64?_eq_some_iff, integer.toInt64?_eq_none_iff, ?_, ?_⟩
  · intro before after blankBefore blankAfter
    exact (HandedBackAs.text blankBefore blankAfter).asInt64_eq
  · intro σ connection columns builder state form record counts
    exact counts.fst_count

/-- The least signed number, as text between blanks, and the least number above all signed ones. -/
theorem read_in_every_form_least :
    let least := Integer.int64 Int64.minValue
    let above := Integer.uint64 9223372036854775808
    let form := Bind.text ("\t" ++ (Bind.integer least).display ++ "\n")
    let record : Record := .ofList [("aggregate", form)]
    let script := Script.start [.ok [record]] [] []
    let builder := Builder.table .sqlite "t"
    ((Bind.integer least).asInt64 = some Int64.minValue ∧ form.asInt64 = some Int64.minValue) ∧
    ((Bind.integer above).asInt64 = none ∧
      (Bind.text ("" ++ (Bind.integer above).display ++ "")).asInt64 = none) ∧
    builder.CountsAs (Script.connection .sqlite) .none script least form record ∧
    (builder.count (Script.connection .sqlite) .none script).1 = .ok Int64.minValue := by
  intro least above form record script builder
  have tab : ∀ char ∈ "\t".toList, Text.isBlank char = true := List.all_eq_true.mp (by decide)
  have line : ∀ char ∈ "\n".toList, Text.isBlank char = true := List.all_eq_true.mp (by decide)
  have nothing : ∀ char ∈ "".toList, Text.isBlank char = true := List.all_eq_true.mp (by decide)
  obtain ⟨exact, -, alike, counted⟩ := read_in_every_form least
  obtain ⟨-, tooLarge, aboveAlike, -⟩ := read_in_every_form above
  have read : (Bind.integer least).asInt64 = some Int64.minValue := (exact _).mpr rfl
  have unread : (Bind.integer above).asInt64 = none := tooLarge.mpr ⟨_, rfl, by decide⟩
  have counts : builder.CountsAs (Script.connection .sqlite) .none script least form record :=
    ⟨rfl, rfl, .text tab line⟩
  refine ⟨⟨read, (alike _ _ tab line).trans read⟩, ⟨unread, ?_⟩, counts, ?_⟩
  · exact (aboveAlike _ _ nothing nothing).trans unread
  · exact (counted _ _ _ _ _ _ counts).trans (by rw [read]; rfl)

end Integer

end FluentSql
