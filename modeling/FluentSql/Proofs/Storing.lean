import FluentSql.Proofs.Reading
import FluentSql.Proofs.Widening
import FluentSql.Storage

/-!
# Values that come back from SQLite

SQLite has fewer types than bound values have. A value that is put into a column and read again is
the same text or number, an integer or a truth value with 64 bits and a floating point value with
as many, and a value that came back once comes back unchanged ever after. The integer that a value
is read as is the same afterwards, unless it was a NaN, which SQLite stores as null:
`Bind.comes_back`. The column is any that does what SQLite documents (`UntypedColumn`); the two
conversions before and after it are the ones of `FluentSql.Storage`.
-/

namespace FluentSql

namespace Number

theorem toInt64?_eq_some_iff {number : Int} {word : Int64} :
    toInt64? number = some word ↔ word.toInt = number := by
  rw [toInt64?, fitsInt64, Int64.toInt_minValue, Int64.toInt_maxValue]
  constructor
  · intro fits
    split at fits
    · rename_i inRange
      rw [Bool.and_eq_true, decide_eq_true_eq, decide_eq_true_eq] at inRange
      obtain rfl := Option.some.inj fits
      exact Int64.toInt_ofInt_of_le inRange.1 (by omega)
    · cases fits
  · rintro rfl
    have least := Int64.le_toInt word
    have most := Int64.toInt_lt word
    rw [if_pos, Int64.ofInt_toInt]
    rw [Bool.and_eq_true, decide_eq_true_eq, decide_eq_true_eq]
    omega

theorem toInt64?_eq_none_iff {number : Int} :
    toInt64? number = none ↔
      number < Int64.minValue.toInt ∨ Int64.maxValue.toInt < number := by
  rw [toInt64?, fitsInt64]
  split
  · rename_i inRange
    rw [Bool.and_eq_true, decide_eq_true_eq, decide_eq_true_eq] at inRange
    simp only [reduceCtorEq, false_iff]
    omega
  · rename_i outside
    rw [Bool.and_eq_true, decide_eq_true_eq, decide_eq_true_eq] at outside
    simp only [true_iff]
    omega

end Number

/-! ## Integers -/

namespace Integer

theorem minValue_le_toInt (integer : Integer) : Int64.minValue.toInt ≤ integer.toInt := by
  rw [Int64.toInt_minValue]
  cases integer with
  | int8 value | int16 value | int32 value =>
    have least := value.le_toInt
    simp only [toInt]
    omega
  | int64 value => exact value.le_toInt
  | uint8 value | uint16 value | uint32 value | uint64 value =>
    simp only [toInt]
    omega

/-- Only an unsigned integer of 64 bits can be above the signed ones. -/
theorem toInt_le_maxValue {integer : Integer} (narrow : ∀ value, integer ≠ .uint64 value) :
    integer.toInt ≤ Int64.maxValue.toInt := by
  rw [Int64.toInt_maxValue]
  cases integer with
  | int8 value | int16 value | int32 value =>
    have most := value.toInt_lt
    simp only [toInt]
    omega
  | int64 value => exact Int.le_sub_one_of_lt value.toInt_lt
  | uint8 value | uint16 value | uint32 value =>
    have most := value.toNat_lt
    simp only [toInt]
    omega
  | uint64 value => exact absurd rfl (narrow value)

theorem toInt64?_eq_none_iff (integer : Integer) :
    Number.toInt64? integer.toInt = none ↔
      ∃ value : UInt64, integer = .uint64 value ∧ Int64.maxValue.toInt < value.toNat := by
  rw [Number.toInt64?_eq_none_iff]
  constructor
  · rintro (below | above)
    · exact absurd integer.minValue_le_toInt (Int.not_le.mpr below)
    · cases integer with
      | uint64 value => exact ⟨value, rfl, above⟩
      | _ => exact absurd (toInt_le_maxValue (fun _ same => by cases same)) (Int.not_le.mpr above)
  · rintro ⟨value, rfl, above⟩
    exact .inr above

end Integer

/-! ## Columns -/

/-- Whether a size is no number. -/
def Number.Magnitude.isNaN : Number.Magnitude → Bool
  | .nan _ => true
  | _ => false

theorem Number.Magnitude.Widens.isNaN_eq {narrow wide : Number.Magnitude}
    (widens : narrow.Widens wide) : wide.isNaN = narrow.isNaN := by
  cases widens <;> rfl

/-- What SQLite documents of a column that was declared without a type, where `column` is the
value that it gives out for one that was put in. Every value is kept in the type that it was
bound with, a text by its bytes, and is the same when it is read. There is no NaN among the values
that are kept: to bind one is to bind null. -/
structure UntypedColumn (column : Stored → Fetched) : Prop where
  null : column .null = .null
  integer : ∀ value, column (.integer value) = .integer value
  text : ∀ value, column (.text value) = .text value.toUTF8.toList
  number : ∀ bits, (Number.double.magnitude bits.toNat).isNaN = false →
    column (.real bits) = .real bits
  nan : ∀ bits, (Number.double.magnitude bits.toNat).isNaN = true → column (.real bits) = .null

/-- A column that does what is documented and no more. -/
def untypedColumn : Stored → Fetched
  | .null => .null
  | .integer value => .integer value
  | .text value => .text value.toUTF8.toList
  | .real bits => if (Number.double.magnitude bits.toNat).isNaN then .null else .real bits

theorem untypedColumn_spec : UntypedColumn untypedColumn where
  null := rfl
  integer := fun _ => rfl
  text := fun _ => rfl
  number := fun bits number => by rw [untypedColumn, number, if_neg Bool.false_ne_true]
  nan := fun bits nan => by rw [untypedColumn, if_pos nan]

namespace Bind

/-! ## Bound values -/

/-- Whether a bound value is a floating point value that is no number. -/
def isNaN : Bind → Bool
  | .float32 bits => (Number.single.magnitude bits.toNat).isNaN
  | .float64 bits => (Number.double.magnitude bits.toNat).isNaN
  | _ => false

/-- What a bound value is after it was put into a column and read again. -/
def reread (column : Stored → Fetched) (bind : Bind) : Except Fault Bind :=
  bind.store.map fun stored => .ofFetched (column stored)

/-- The value that a bound value comes back as: a text or a number of 64 bits, and null for what
is no number. -/
inductive ComesBackAs : Bind → Bind → Prop
  | null : ComesBackAs .null .null
  | text (value : String) : ComesBackAs (.text value) (.text value)
  | bool (value : Bool) : ComesBackAs (.bool value) (.int64 (if value then 1 else 0))
  | integer {integer : Integer} {word : Int64} (same : word.toInt = integer.toInt) :
    ComesBackAs (.integer integer) (.int64 word)
  | float64 {bits : UInt64} (number : (Bind.float64 bits).isNaN = false) :
    ComesBackAs (.float64 bits) (.float64 bits)
  | float32 {bits : UInt32} {wide : UInt64} (number : (Bind.float32 bits).isNaN = false)
      (sign : Number.double.isNegative wide.toNat = Number.single.isNegative bits.toNat)
      (size : (Number.single.magnitude bits.toNat).Widens (Number.double.magnitude wide.toNat)) :
    ComesBackAs (.float32 bits) (.float64 wide)
  | nan {bind : Bind} (nan : bind.isNaN = true) : ComesBackAs bind .null

/-- What cannot be stored is an unsigned integer above the signed ones. -/
theorem store_eq_error_iff {bind : Bind} {fault : Fault} :
    bind.store = .error fault ↔ fault = .integerTooLarge ∧
      ∃ value : UInt64, bind = .integer (.uint64 value) ∧ Int64.maxValue.toInt < value.toNat := by
  cases bind with
  | integer integer =>
    have large := integer.toInt64?_eq_none_iff
    rw [store]
    cases fits : Number.toInt64? integer.toInt with
    | none =>
      obtain ⟨value, rfl, above⟩ := large.mp fits
      constructor
      · intro fails
        exact ⟨(Except.error.inj fails).symm, value, rfl, above⟩
      · rintro ⟨rfl, -⟩
        rfl
    | some word =>
      constructor
      · intro fails
        cases fails
      · rintro ⟨-, value, same, above⟩
        obtain rfl := Bind.integer.inj same
        rw [large.mpr ⟨value, rfl, above⟩] at fits
        cases fits
  | null | text value | bool value | float32 bits | float64 bits =>
    constructor
    · intro fails
      cases fails
    · rintro ⟨-, value, same, -⟩
      cases same

theorem store_integer {integer : Integer} {word : Int64} (same : word.toInt = integer.toInt) :
    (Bind.integer integer).store = .ok (.integer word) := by
  rw [store, Number.toInt64?_eq_some_iff.mpr same]

theorem store_float32 (bits : UInt32) : ∃ wide : UInt64,
    (Bind.float32 bits).store = .ok (.real wide) ∧
      Number.double.isNegative wide.toNat = Number.single.isNegative bits.toNat ∧
      (Number.single.magnitude bits.toNat).Widens (Number.double.magnitude wide.toNat) := by
  obtain ⟨bounded, sign, size⟩ := Number.widen_widens bits.toNat
  have exact : (UInt64.ofNat (Number.widen bits.toNat)).toNat = Number.widen bits.toNat :=
    UInt64.toNat_ofNat_of_lt bounded
  refine ⟨_, rfl, ?_, ?_⟩
  · rw [exact, sign]
  · rw [exact]
    exact size

section

variable {column : Stored → Fetched} (untyped : UntypedColumn column)

include untyped

theorem reread_null : Bind.null.reread column = .ok .null := by
  rw [reread, store, Except.map, untyped.null, ofFetched]

theorem reread_text (value : String) : (Bind.text value).reread column = .ok (.text value) := by
  rw [reread, store, Except.map, untyped.text, ofFetched, Text.decodeUtf8_toUTF8,
    String.ofList_toList]

theorem reread_of_integer {bind : Bind} {word : Int64} (stores : bind.store = .ok (.integer word)) :
    bind.reread column = .ok (.int64 word) := by
  rw [reread, stores, Except.map, untyped.integer, ofFetched]

theorem reread_of_number {bind : Bind} {bits : UInt64} (stores : bind.store = .ok (.real bits))
    (number : (Bind.float64 bits).isNaN = false) :
    bind.reread column = .ok (.float64 bits) := by
  rw [reread, stores, Except.map, untyped.number bits number, ofFetched]

theorem reread_of_nan {bind : Bind} {bits : UInt64} (stores : bind.store = .ok (.real bits))
    (nan : (Bind.float64 bits).isNaN = true) : bind.reread column = .ok .null := by
  rw [reread, stores, Except.map, untyped.nan bits nan, ofFetched]

/-- A floating point value comes back as the number of 64 bits that is stored for it, if it is
one. -/
theorem reread_of_real {bind : Bind} {bits : UInt64} (stores : bind.store = .ok (.real bits))
    (same : (Bind.float64 bits).isNaN = bind.isNaN)
    (comesBack : bind.isNaN = false → bind.ComesBackAs (.float64 bits)) :
    ∃ back, bind.reread column = .ok back ∧ bind.ComesBackAs back := by
  cases nan : bind.isNaN with
  | true => exact ⟨.null, reread_of_nan untyped stores (same.trans nan), .nan nan⟩
  | false =>
    exact ⟨.float64 bits, reread_of_number untyped stores (same.trans nan), comesBack nan⟩

/-- What can be stored comes back. -/
theorem reread_of_store {bind : Bind} {stored : Stored} (stores : bind.store = .ok stored) :
    ∃ back, bind.reread column = .ok back ∧ bind.ComesBackAs back := by
  cases bind with
  | null => exact ⟨_, reread_null untyped, .null⟩
  | text value => exact ⟨_, reread_text untyped value, .text value⟩
  | bool value => exact ⟨_, reread_of_integer untyped rfl, .bool value⟩
  | float64 bits => exact reread_of_real untyped rfl rfl .float64
  | float32 bits =>
    obtain ⟨wide, widened, sign, size⟩ := store_float32 bits
    exact reread_of_real untyped widened size.isNaN_eq fun number => .float32 number sign size
  | integer integer =>
    rw [store] at stores
    split at stores
    · rename_i word fits
      have same := Number.toInt64?_eq_some_iff.mp fits
      exact ⟨_, reread_of_integer untyped (store_integer same), .integer same⟩
    · cases stores

/-- A value that came back once comes back unchanged. -/
theorem ComesBackAs.reread_eq {bind back : Bind} (comesBack : bind.ComesBackAs back) :
    back.reread column = .ok back := by
  cases comesBack with
  | null | nan => exact reread_null untyped
  | text value => exact reread_text untyped value
  | bool | integer => exact reread_of_integer untyped (store_integer rfl)
  | float64 number => exact reread_of_number untyped rfl number
  | float32 number sign size =>
    exact reread_of_number untyped rfl (size.isNaN_eq.trans number)

end

/-- The integer that a value is read as is the same when it has come back. A NaN is read as
zero, and the null that it comes back as has no integer. -/
theorem ComesBackAs.asInt64_eq_iff {bind back : Bind} (comesBack : bind.ComesBackAs back) :
    back.asInt64 = bind.asInt64 ↔ bind.isNaN = false := by
  cases comesBack with
  | null | text value => exact iff_of_true rfl rfl
  | bool value => exact iff_of_true (Number.toInt64?_eq_some_iff.mpr rfl) rfl
  | integer same =>
    refine iff_of_true ?_ rfl
    rw [int64, asInt64, asInt64, Integer.toInt, same]
  | float64 number => exact iff_of_true rfl number
  | float32 number sign size =>
    refine iff_of_true ?_ number
    rw [asInt64, asInt64, sign, size.truncate_eq]
  | nan nan =>
    rw [nan]
    cases bind with
    | float32 bits | float64 bits => simp [asInt64]
    | null | text value | bool value | integer integer => cases nan

/-- Every value but an unsigned integer above the signed ones can be stored. It comes back from a
column as the same text, the same number or no value, and from then on unchanged. The integer that
it is read as stays the same, unless it is a NaN, which comes back as null. -/
theorem comes_back {column : Stored → Fetched} (untyped : UntypedColumn column) (bind : Bind) :
    (∀ fault, bind.store = .error fault ↔ fault = .integerTooLarge ∧
      ∃ value : UInt64, bind = .integer (.uint64 value) ∧ Int64.maxValue.toInt < value.toNat) ∧
    ∀ stored, bind.store = .ok stored →
      ∃ back, bind.reread column = .ok back ∧ bind.ComesBackAs back ∧
        back.reread column = .ok back ∧
        (back.asInt64 = bind.asInt64 ↔ bind.isNaN = false) := by
  refine ⟨fun fault => store_eq_error_iff, fun stored stores => ?_⟩
  obtain ⟨back, rereads, comesBack⟩ := reread_of_store untyped stores
  exact ⟨back, rereads, comesBack, comesBack.reread_eq untyped, comesBack.asInt64_eq_iff⟩

/-- The smallest positive number of 32 bits, which has another exponent with 64 bits. -/
theorem comes_back_least :
    UntypedColumn untypedColumn ∧ ∃ stored, (Bind.float32 1).store = .ok stored ∧
      ∃ back, (Bind.float32 1).reread untypedColumn = .ok back ∧
        (Bind.float32 1).ComesBackAs back ∧ back.reread untypedColumn = .ok back ∧
        (back.asInt64 = (Bind.float32 1).asInt64 ↔ (Bind.float32 1).isNaN = false) :=
  ⟨untypedColumn_spec, _, rfl, (comes_back untypedColumn_spec _).2 _ rfl⟩

/-- A NaN can be stored, but is null when it is read again, and read as another integer. -/
theorem nan_comes_back_as_null :
    let nan := Bind.float64 0x7FF8000000000000
    UntypedColumn untypedColumn ∧ nan.store = .ok (.real 0x7FF8000000000000) ∧
      nan.reread untypedColumn = .ok .null ∧ nan.reread untypedColumn ≠ .ok nan ∧
      nan.asInt64 = some 0 ∧ Bind.null.asInt64 = none := by
  intro nan
  have isNaN : nan.isNaN = true := by decide
  have rereads : nan.reread untypedColumn = .ok .null :=
    reread_of_nan untypedColumn_spec rfl isNaN
  have other : Bind.null ≠ nan := by decide
  refine ⟨untypedColumn_spec, rfl, rereads, ?_, by decide, rfl⟩
  rw [rereads]
  exact fun same => other (Except.ok.inj same)

end Bind

end FluentSql
