import FluentSql.Number.Decimal

/-!
# Dates, times and identifiers as text

Dates and times are bound as text. Years from 0 to 9999 have four digits, others a sign
and at least four. A leap second is the second after the last of its minute. Fractions of
a second are left out. Universally unique identifiers are written in groups of small
hexadecimal digits.
-/

namespace FluentSql

/-- Digits with zeros in front, up to a width. -/
def padded (width : Nat) (digits : List Char) : List Char :=
  List.replicate (width - digits.length) '0' ++ digits

/-- A calendar date. -/
structure Date where
  year : Int
  month : Nat
  day : Nat
deriving DecidableEq, Repr

/-- A time of day. A leap second counts its nanoseconds on from one full second. -/
structure Time where
  hour : Nat
  minute : Nat
  second : Nat
  nanosecond : Nat
deriving DecidableEq, Repr

/-- The text of a year. -/
def Date.yearText (year : Int) : List Char :=
  if 0 ≤ year ∧ year ≤ 9999 then padded 4 (Number.digits year.toNat)
  else (if year < 0 then '-' else '+') :: padded 4 (Number.digits year.natAbs)

/-- The text of a date. -/
def Date.text (date : Date) : List Char :=
  yearText date.year ++ '-' :: padded 2 (Number.digits date.month) ++
    '-' :: padded 2 (Number.digits date.day)

/-- The text of a time. -/
def Time.text (time : Time) : List Char :=
  padded 2 (Number.digits time.hour) ++ ':' :: padded 2 (Number.digits time.minute) ++
    ':' :: padded 2 (Number.digits (time.second + time.nanosecond / 1000000000))

/-- The text of an identifier of 128 bits. -/
def uuidText (identifier : Nat) : List Char :=
  let digits := padded 32 (Nat.toDigits 16 identifier)
  let part (start length : Nat) : List Char := (digits.drop start).take length
  List.intercalate ['-'] [part 0 8, part 8 4, part 12 4, part 16 4, part 20 12]

end FluentSql
