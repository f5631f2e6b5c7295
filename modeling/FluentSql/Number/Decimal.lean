import FluentSql.Text.Blank

/-!
# Decimal text of integers

Integers are written without leading zeros and with `-` in front of negative ones.
They are read with an optional sign and at least one digit; leading zeros are
allowed, blanks and separators are not.
-/

namespace FluentSql.Number

/-- The decimal digits of a number, without leading zeros. -/
def digits (number : Nat) : List Char := Nat.toDigits 10 number

/-- The decimal text of an integer. -/
def decimal : Int → List Char
  | .ofNat number => digits number
  | .negSucc number => '-' :: digits (number + 1)

/-- The number written by some digits; at least one, and nothing else. -/
def readDigits? (text : List Char) : Option Nat :=
  if text ≠ [] ∧ text.all Char.isDigit then some (Nat.ofDigitChars 10 text 0) else none

/-- The integer written by a text of an optional sign and at least one digit. -/
def readInteger? : List Char → Option Int
  | '-' :: text => (readDigits? text).map fun number => -(number : Int)
  | '+' :: text => (readDigits? text).map fun number => (number : Int)
  | text => (readDigits? text).map fun number => (number : Int)

/-- Whether an integer is one of the signed 64 bit numbers. -/
def fitsInt64 (number : Int) : Bool :=
  Int64.minValue.toInt ≤ number && number ≤ Int64.maxValue.toInt

/-- The signed 64 bit number equal to an integer, if there is one. -/
def toInt64? (number : Int) : Option Int64 :=
  if fitsInt64 number then some (Int64.ofInt number) else none

/-- The signed 64 bit number nearest to an integer. -/
def clampInt64 (number : Int) : Int64 :=
  if number < Int64.minValue.toInt then Int64.minValue
  else if Int64.maxValue.toInt < number then Int64.maxValue
  else Int64.ofInt number

theorem isDigit_of_mem_digits {number : Nat} {char : Char} (member : char ∈ digits number) :
    char.isDigit = true :=
  Nat.isDigit_of_mem_toDigits (by decide) (by decide) member

/-- Digits are read back as the number they were written for. -/
theorem readDigits?_digits (number : Nat) : readDigits? (digits number) = some number := by
  have all : (digits number).all Char.isDigit = true :=
    List.all_eq_true.mpr fun _ => isDigit_of_mem_digits
  rw [readDigits?, if_pos ⟨Nat.toDigits_ne_nil, all⟩, digits, Nat.ofDigitChars_ten_toDigits]

/-- Decimal text is read back as the integer it was written for. -/
theorem readInteger?_decimal (number : Int) : readInteger? (decimal number) = some number := by
  cases number with
  | ofNat number =>
    -- The first digit is no sign.
    have unsigned : ∀ sign rest, digits number = sign :: rest → sign.isDigit = true := by
      intro sign rest begins
      have first : sign ∈ digits number := begins ▸ List.mem_cons_self
      exact isDigit_of_mem_digits first
    rw [decimal, readInteger?.eq_def]
    split
    · rename_i begins
      exact absurd (unsigned _ _ begins) (by decide)
    · rename_i begins
      exact absurd (unsigned _ _ begins) (by decide)
    · rw [readDigits?_digits]
      rfl
  | negSucc number =>
    rw [decimal, readInteger?, readDigits?_digits]
    rfl

end FluentSql.Number
