import FluentSql.Number.Binary

/-!
# Fewest decimal digits

Among the decimal fractions that round to a given binary number, the ones with the
fewest digits are sought, and of those the nearest. A decimal of so many digits is a
point of a grid; if a point of a grid rounds to the number then so does one of the
number's two neighbours on it, so only these two are looked at, in exact arithmetic.
-/

namespace FluentSql.Number

/-- Which of two equally near decimals is taken. -/
inductive Tie where
  | up
  | toEven
deriving DecidableEq, Repr

/-- A positive decimal fraction: its digits, the first one not zero, and the power of
ten of the first digit. -/
structure Scientific where
  digits : List Char
  exponent : Int
deriving DecidableEq, Repr

/-- The largest exponent whose power of ten is not above `numerator / denominator`. -/
def decimalExponent (numerator denominator : Nat) : Int :=
  if denominator ≤ numerator then
    ((Nat.toDigits 10 (numerator / denominator)).length : Int) - 1
  else
    -((Nat.toDigits 10 ((denominator - 1) / numerator)).length : Int)

/-- The decimals that round to a binary number, as exact fractions over one denominator. -/
structure RoundingInterval where
  low : Nat
  value : Nat
  high : Nat
  denominator : Nat
  /-- Whether the two ends round to the number as well. -/
  closed : Bool

/-- The interval around `significand * 2 ^ exponent`. Below a power of two the next
number is half as far away, except at the least exponent. -/
def roundingInterval (format : BinaryFormat) (significand : Nat) (exponent : Int) :
    RoundingInterval :=
  let narrow := significand = 1 <<< format.fractionBits ∧ format.leastExponent < exponent
  let scale := exponent - 2
  let factor := 1 <<< scale.toNat
  { low := (4 * significand - if narrow then 1 else 2) * factor
    value := 4 * significand * factor
    high := (4 * significand + 2) * factor
    denominator := 1 <<< (-scale).toNat
    closed := significand % 2 = 0 }

/-- The neighbour of the number on the grid of multiples of `10 ^ step` that rounds to
it, the nearer one if both do. -/
def gridPoint? (tie : Tie) (interval : RoundingInterval) (step : Int) : Option Nat :=
  let up := Nat.pow 10 (-step).toNat
  let down := interval.denominator * Nat.pow 10 step.toNat
  let below := interval.value * up / down
  let above := below + 1
  let inside (point : Nat) : Bool :=
    if interval.closed then
      interval.low * up ≤ point * down && point * down ≤ interval.high * up
    else
      interval.low * up < point * down && point * down < interval.high * up
  let distanceBelow := interval.value * up - below * down
  let distanceAbove := above * down - interval.value * up
  match inside below, inside above with
  | false, false => none
  | true, false => some below
  | false, true => some above
  | true, true =>
    if distanceBelow < distanceAbove then some below
    else if distanceAbove < distanceBelow then some above
    else match tie with
      | .up => some above
      | .toEven => some (if below % 2 = 0 then below else above)

/-- A number's digits without the zeros at the end, with the exponent of the first. -/
def Scientific.ofGrid (point : Nat) (step : Int) : Scientific :=
  let digits := Nat.toDigits 10 point
  { digits := (digits.reverse.dropWhile (· = '0')).reverse
    exponent := step + digits.length - 1 }

/-- Try the grids of `count` digits and more, at most `attempts` of them. -/
def searchGrids (tie : Tie) (interval : RoundingInterval) (leading : Int) :
    (attempts count : Nat) → Scientific
  | 0, _ => Scientific.ofGrid (interval.value / interval.denominator) 0
  | attempts + 1, count =>
    let step := leading - count + 1
    match gridPoint? tie interval step with
    | some point => Scientific.ofGrid point step
    | none => searchGrids tie interval leading attempts (count + 1)

/-- The decimal of fewest digits for a positive binary number. Seventeen digits tell
any two numbers of at most 64 bits apart. -/
def shortest (tie : Tie) (format : BinaryFormat) (significand : Nat) (exponent : Int) :
    Scientific :=
  let interval := roundingInterval format significand exponent
  searchGrids tie interval (decimalExponent interval.value interval.denominator) 17 1

end FluentSql.Number
