import FluentSql.Number.Binary

/-!
# Numbers of 32 bits among those of 64

Every number of 32 bits is one of 64 bits: its significand is shifted to the left until it has the
bits that a normal number has, and its exponent is lowered by as much (`widen_widens`). So nothing
that depends on the number alone tells the two apart, its integer part among others
(`Magnitude.Widens.truncate_eq`).
-/

namespace FluentSql.Number

/-- The same size in a format with more bits. A NaN keeps its fraction and is made quiet. -/
inductive Magnitude.Widens : Magnitude → Magnitude → Prop
  | nan (fraction : Nat) : Widens (.nan fraction) (.nan (fraction <<< 29 ||| 1 <<< 51))
  | infinite : Widens .infinite .infinite
  | finite (significand shift : Nat) (exponent : Int) :
    Widens (.finite significand exponent) (.finite (significand <<< shift) (exponent - shift))

/-! ## Integer parts -/

/-- A shift of the significand does not change the integer part. -/
theorem whole_shifted (significand shift : Nat) (exponent : Int) :
    (if 0 ≤ exponent - shift then significand <<< shift <<< (exponent - shift).toNat
      else significand <<< shift >>> (-(exponent - shift)).toNat) =
    if 0 ≤ exponent then significand <<< exponent.toNat
      else significand >>> (-exponent).toNat := by
  by_cases above : 0 ≤ exponent - shift
  · have total : exponent.toNat = shift + (exponent - shift).toNat := by omega
    rw [if_pos above, if_pos (by omega), total, Nat.shiftLeft_add]
  · rw [if_neg above]
    by_cases positive : 0 ≤ exponent
    · have total : shift = exponent.toNat + (-(exponent - shift)).toNat := by omega
      have back := Nat.shiftLeft_shiftRight (significand <<< exponent.toNat)
        (-(exponent - shift)).toNat
      rw [← Nat.shiftLeft_add, ← total] at back
      rw [if_pos positive, back]
    · have total : (-(exponent - shift)).toNat = shift + (-exponent).toNat := by omega
      rw [if_neg positive, total, Nat.shiftRight_add, Nat.shiftLeft_shiftRight]

/-- A size and its widened one have the same integer part. -/
theorem Magnitude.Widens.truncate_eq {narrow wide : Magnitude} (widens : narrow.Widens wide)
    (negative : Bool) : truncateToInt64 negative wide = truncateToInt64 negative narrow := by
  cases widens with
  | nan fraction => rfl
  | infinite => rfl
  | finite significand shift exponent =>
    simp only [truncateToInt64, whole_shifted]

/-! ## Fields -/

/-- The size that the two unsigned fields of a pattern stand for. -/
def BinaryFormat.size (format : BinaryFormat) (exponent fraction : Nat) : Magnitude :=
  if exponent = 1 <<< format.exponentBits - 1 then
    if fraction = 0 then .infinite else .nan fraction
  else if exponent = 0 then .finite fraction format.leastExponent
  else .finite (1 <<< format.fractionBits + fraction) (format.leastExponent + (exponent - 1))

theorem BinaryFormat.magnitude_eq (format : BinaryFormat) (bits : Nat) :
    format.magnitude bits = format.size (bits >>> format.fractionBits % 1 <<< format.exponentBits)
      (bits % 1 <<< format.fractionBits) := rfl

/-- The fields of a pattern of 64 bits that is put together from them. -/
theorem fields_double {sign exponent fraction : Nat} (sign_le : sign ≤ 1)
    (exponent_lt : exponent < 1 <<< 11) (fraction_lt : fraction < 1 <<< 52) :
    sign <<< 63 + (exponent <<< 52 + fraction) < 1 <<< 64 ∧
      double.isNegative (sign <<< 63 + (exponent <<< 52 + fraction)) = decide (sign = 1) ∧
      double.magnitude (sign <<< 63 + (exponent <<< 52 + fraction)) =
        double.size exponent fraction := by
  have signField : (sign <<< 63 + (exponent <<< 52 + fraction)) >>> 63 % 2 = sign := by
    simp only [Nat.shiftLeft_eq, Nat.shiftRight_eq_div_pow] at *
    omega
  have exponentField :
      (sign <<< 63 + (exponent <<< 52 + fraction)) >>> 52 % 1 <<< 11 = exponent := by
    simp only [Nat.shiftLeft_eq, Nat.shiftRight_eq_div_pow] at *
    omega
  have fractionField : (sign <<< 63 + (exponent <<< 52 + fraction)) % 1 <<< 52 = fraction := by
    simp only [Nat.shiftLeft_eq] at *
    omega
  refine ⟨?_, ?_, ?_⟩
  · simp only [Nat.shiftLeft_eq] at *
    omega
  · exact congrArg (fun field => decide (field = 1)) signField
  · rw [BinaryFormat.magnitude_eq]
    change double.size ((sign <<< 63 + (exponent <<< 52 + fraction)) >>> 52 % 1 <<< 11)
      ((sign <<< 63 + (exponent <<< 52 + fraction)) % 1 <<< 52) = _
    rw [exponentField, fractionField]

/-! ## Numbers of 32 bits -/

/-- A size that a number of 32 bits can have. -/
inductive Magnitude.OfSingle : Magnitude → Prop
  | nan {fraction : Nat} (small : fraction < 1 <<< 23) : OfSingle (.nan fraction)
  | infinite : OfSingle .infinite
  | finite {significand : Nat} {exponent : Int} (small : significand < 1 <<< 24)
      (least : -149 ≤ exponent) (most : exponent ≤ 104) : OfSingle (.finite significand exponent)

theorem ofSingle_magnitude (bits : Nat) : (single.magnitude bits).OfSingle := by
  have fraction : bits % 1 <<< 23 < 1 <<< 23 := Nat.mod_lt _ (by decide)
  have field : bits >>> 23 % 1 <<< 8 < 1 <<< 8 := Nat.mod_lt _ (by decide)
  have least : single.leastExponent = -149 := by decide
  rw [BinaryFormat.magnitude_eq, BinaryFormat.size, least]
  split
  · split
    · exact .infinite
    · exact .nan fraction
  · rename_i notAllOnes
    change bits >>> 23 % 1 <<< 8 ≠ 1 <<< 8 - 1 at notAllOnes
    simp only [Nat.shiftLeft_eq] at fraction field notAllOnes
    split
    · refine .finite ?_ (by decide) (by decide)
      change bits % 1 <<< 23 < 1 <<< 24
      simp only [Nat.shiftLeft_eq]
      omega
    · rename_i notZero
      change bits >>> 23 % 1 <<< 8 ≠ 0 at notZero
      simp only [Nat.shiftLeft_eq] at notZero
      refine .finite ?_ ?_ ?_
      · change 1 <<< 23 + bits % 1 <<< 23 < 1 <<< 24
        simp only [Nat.shiftLeft_eq]
        omega
      · change -149 ≤ -149 + ((bits >>> 23 % 1 <<< 8 : Nat) - 1 : Int)
        simp only [Nat.shiftLeft_eq]
        omega
      · change -149 + ((bits >>> 23 % 1 <<< 8 : Nat) - 1 : Int) ≤ 104
        simp only [Nat.shiftLeft_eq]
        omega

/-! ## Widened fields -/

/-- The exponent and the fraction that a size has in a pattern of 64 bits. -/
def Magnitude.wideFields : Magnitude → Nat × Nat
  | .nan fraction => (0x7FF, fraction <<< 29 ||| 1 <<< 51)
  | .infinite => (0x7FF, 0)
  | .finite significand exponent =>
    if significand = 0 then (0, 0)
    else
      let shift := 52 - Nat.log2 significand
      ((exponent - shift - double.leastExponent + 1).toNat, significand <<< shift - 1 <<< 52)

theorem widen_eq (bits : Nat) :
    widen bits = (if single.isNegative bits then 1 else 0) <<< 63 +
      ((single.magnitude bits).wideFields.1 <<< 52 + (single.magnitude bits).wideFields.2) := by
  have sign : (if single.isNegative bits then 1 <<< 63 else 0) =
      (if single.isNegative bits then 1 else 0) <<< 63 := by
    split <;> rfl
  rw [widen, sign]
  cases single.magnitude bits with
  | nan fraction => rfl
  | infinite => rfl
  | finite significand exponent =>
    by_cases zero : significand = 0
    · simp only [Magnitude.wideFields, if_pos zero, Nat.zero_shiftLeft]
    · simp only [Magnitude.wideFields, if_neg zero]

/-- The fields of a size are in their ranges, and stand for the widened size. -/
structure Magnitude.WideFields (size : Magnitude) : Prop where
  exponent_lt : size.wideFields.1 < 1 <<< 11
  fraction_lt : size.wideFields.2 < 1 <<< 52
  widens : size.Widens (double.size size.wideFields.1 size.wideFields.2)

theorem wideFields_nan {fraction : Nat} (small : fraction < 1 <<< 23) :
    (Magnitude.nan fraction).WideFields := by
  have shifted : fraction <<< 29 < 2 ^ 52 := by
    simp only [Nat.shiftLeft_eq] at *
    omega
  have some : fraction <<< 29 ||| 1 <<< 51 ≠ 0 := by
    rw [Ne, Nat.or_eq_zero_iff]
    rintro ⟨-, quiet⟩
    exact absurd quiet (by decide)
  refine ⟨by change 0x7FF < _; decide, Nat.or_lt_two_pow shifted (by decide), ?_⟩
  change Magnitude.Widens _ (double.size 0x7FF (fraction <<< 29 ||| 1 <<< 51))
  rw [BinaryFormat.size, if_pos (by decide), if_neg some]
  exact .nan fraction

/-- A significand of 32 bits, shifted to the left until it has 53 bits. -/
theorem shifted_bounds {significand : Nat} (some : significand ≠ 0)
    (small : significand < 1 <<< 24) :
    Nat.log2 significand < 24 ∧ 1 <<< 52 ≤ significand <<< (52 - Nat.log2 significand) ∧
      significand <<< (52 - Nat.log2 significand) < 1 <<< 53 := by
  have log_lt : Nat.log2 significand < 24 := (Nat.log2_lt some).mpr small
  have low := Nat.mul_le_mul_right (2 ^ (52 - Nat.log2 significand)) (Nat.log2_self_le some)
  have high := Nat.mul_lt_mul_of_pos_right (Nat.lt_log2_self (n := significand))
    (Nat.two_pow_pos (52 - Nat.log2 significand))
  rw [← Nat.pow_add, Nat.add_sub_cancel' (by omega)] at low
  rw [← Nat.pow_add, show Nat.log2 significand + 1 + (52 - Nat.log2 significand) = 53 by omega]
    at high
  rw [Nat.shiftLeft_eq, Nat.shiftLeft_eq, Nat.shiftLeft_eq, Nat.one_mul, Nat.one_mul]
  exact ⟨log_lt, low, high⟩

theorem wideFields_zero (exponent : Int) (least : -149 ≤ exponent) :
    (Magnitude.finite 0 exponent).WideFields := by
  refine ⟨by change 0 < _; decide, by change 0 < _; decide, ?_⟩
  have lowered := Magnitude.Widens.finite 0 (exponent + 1074).toNat exponent
  have same : exponent - (exponent + 1074).toNat = double.leastExponent := by
    have bottom : double.leastExponent = -1074 := by decide
    omega
  rw [Nat.zero_shiftLeft, same] at lowered
  exact lowered

theorem wideFields_finite {significand : Nat} {exponent : Int} (some : significand ≠ 0)
    (small : significand < 1 <<< 24) (least : -149 ≤ exponent) (most : exponent ≤ 104) :
    (Magnitude.finite significand exponent).WideFields := by
  obtain ⟨log_lt, low, high⟩ := shifted_bounds some small
  have bottom : double.leastExponent = -1074 := by decide
  have fields : (Magnitude.finite significand exponent).wideFields =
      ((exponent - (52 - Nat.log2 significand : Nat) + 1075).toNat,
        significand <<< (52 - Nat.log2 significand) - 1 <<< 52) := by
    have sum : exponent - (52 - Nat.log2 significand : Nat) - -1074 + 1 =
        exponent - (52 - Nat.log2 significand : Nat) + 1075 := by omega
    simp only [Magnitude.wideFields, if_neg some, bottom, sum]
  have lowered := Magnitude.Widens.finite significand (52 - Nat.log2 significand) exponent
  have shift_ge : 29 ≤ 52 - Nat.log2 significand := by omega
  have shift_le : 52 - Nat.log2 significand ≤ 52 := Nat.sub_le _ _
  -- From here on only the bounds of the shift and of the shifted significand count.
  generalize significand <<< (52 - Nat.log2 significand) = shifted at *
  generalize 52 - Nat.log2 significand = shift at *
  have normal : double.size (exponent - shift + 1075).toNat (shifted - 1 <<< 52) =
      .finite shifted (exponent - shift) := by
    have fractionPart : 1 <<< double.fractionBits + (shifted - 1 <<< 52) = shifted :=
      Nat.add_sub_cancel' low
    have exponentPart : -1074 + (((exponent - shift + 1075).toNat : Int) - 1) =
        exponent - shift := by omega
    have notAllOnes : (exponent - shift + 1075).toNat ≠ 1 <<< double.exponentBits - 1 := by
      change _ ≠ 2047
      omega
    rw [BinaryFormat.size, if_neg notAllOnes, if_neg (by omega), bottom, fractionPart,
      exponentPart]
  constructor
  · rw [fields]
    change (exponent - shift + 1075).toNat < 2048
    omega
  · rw [fields]
    change shifted - 1 <<< 52 < 1 <<< 52
    simp only [Nat.shiftLeft_eq] at *
    omega
  · rw [fields, normal]
    exact lowered

theorem Magnitude.OfSingle.wideFields {size : Magnitude} (ofSingle : size.OfSingle) :
    size.WideFields := by
  cases ofSingle with
  | nan small => exact wideFields_nan small
  | infinite => exact ⟨by decide, by decide, .infinite⟩
  | @finite significand exponent small least most =>
    by_cases zero : significand = 0
    · rw [zero]
      exact wideFields_zero exponent least
    · exact wideFields_finite zero small least most

/-- A pattern has the same sign once it is widened, and stands for the same number. -/
theorem widen_widens (bits : Nat) :
    widen bits < 1 <<< 64 ∧ double.isNegative (widen bits) = single.isNegative bits ∧
      (single.magnitude bits).Widens (double.magnitude (widen bits)) := by
  have sign_le : (if single.isNegative bits then 1 else 0) ≤ 1 := by
    split <;> decide
  have sign_eq : decide ((if single.isNegative bits then 1 else 0) = 1) =
      single.isNegative bits := by
    cases single.isNegative bits <;> rfl
  have fields := (ofSingle_magnitude bits).wideFields
  obtain ⟨bounded, negative, same⟩ :=
    fields_double sign_le fields.exponent_lt fields.fraction_lt
  rw [widen_eq, negative, same, sign_eq]
  exact ⟨bounded, rfl, fields.widens⟩

end FluentSql.Number
