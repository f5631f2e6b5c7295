/-!
# Binary floating point numbers

A binary format has a sign bit, exponent bits and fraction bits, the most
significant first. Numbers are handled through their bit patterns, so that no bit
of a value is lost, not even those of a NaN. A finite number is its significand
times a power of two.
-/

namespace FluentSql.Number

/-- The widths of the two unsigned fields of a binary format. -/
structure BinaryFormat where
  exponentBits : Nat
  fractionBits : Nat
deriving DecidableEq, Repr

/-- Numbers of 32 bits. -/
def single : BinaryFormat := ⟨8, 23⟩

/-- Numbers of 64 bits. -/
def double : BinaryFormat := ⟨11, 52⟩

/-- The size of a number, its sign left out. -/
inductive Magnitude where
  /-- No number; the fraction field tells one such pattern from another. -/
  | nan (fraction : Nat)
  | infinite
  /-- `significand * 2 ^ exponent`. -/
  | finite (significand : Nat) (exponent : Int)
deriving DecidableEq, Repr

namespace BinaryFormat

/-- The exponent of the smallest positive number. -/
def leastExponent (format : BinaryFormat) : Int :=
  2 - (1 <<< (format.exponentBits - 1) : Nat) - format.fractionBits

/-- Whether the sign bit is set. -/
def isNegative (format : BinaryFormat) (bits : Nat) : Bool :=
  bits >>> (format.fractionBits + format.exponentBits) % 2 = 1

/-- The size that a bit pattern stands for. -/
def magnitude (format : BinaryFormat) (bits : Nat) : Magnitude :=
  let fraction := bits % 1 <<< format.fractionBits
  let exponent := bits >>> format.fractionBits % 1 <<< format.exponentBits
  if exponent = 1 <<< format.exponentBits - 1 then
    if fraction = 0 then .infinite else .nan fraction
  else if exponent = 0 then .finite fraction format.leastExponent
  else .finite (1 <<< format.fractionBits + fraction) (format.leastExponent + (exponent - 1))

end BinaryFormat

/-- An integer part cut from a size and a sign; too large a number is taken as the
end of the signed 64 bit numbers on its side, and no number as zero. -/
def truncateToInt64 (negative : Bool) : Magnitude → Int
  | .nan _ => 0
  | .infinite => if negative then Int64.minValue.toInt else Int64.maxValue.toInt
  | .finite significand exponent =>
    let whole : Nat :=
      if 0 ≤ exponent then significand <<< exponent.toNat
      else significand >>> (-exponent).toNat
    let signed : Int := if negative then -whole else whole
    if signed < Int64.minValue.toInt then Int64.minValue.toInt
    else if Int64.maxValue.toInt < signed then Int64.maxValue.toInt
    else signed

/-- The bit pattern of 64 bits for the number of a pattern of 32 bits. The value is
kept; a NaN keeps its sign and fraction and is made quiet. -/
def widen (bits : Nat) : Nat :=
  let sign := if single.isNegative bits then 1 <<< 63 else 0
  sign + match single.magnitude bits with
    | .nan fraction => 0x7FF <<< 52 + (fraction <<< 29 ||| 1 <<< 51)
    | .infinite => 0x7FF <<< 52
    | .finite significand exponent =>
      if significand = 0 then 0
      else
        let shift := 52 - Nat.log2 significand
        let biased := (exponent - shift - double.leastExponent + 1).toNat
        biased <<< 52 + (significand <<< shift - 1 <<< 52)

/-- Whether two patterns of one format stand for equal numbers: a NaN equals
nothing, and the two zeros are equal. -/
def equalNumbers (format : BinaryFormat) (left right : Nat) : Bool :=
  match format.magnitude left, format.magnitude right with
  | .nan _, _ => false
  | _, .nan _ => false
  | .finite 0 _, .finite 0 _ => true
  | _, _ => left = right

end FluentSql.Number
