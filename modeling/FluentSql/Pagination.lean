import FluentSql.Number.Decimal

/-!
# Limit and offset

A limit that is not positive is no limit and changes nothing; an offset below zero
counts as zero. Pages are counted from one, and the product of a page and its size
stops at the ends of the signed 64 bit numbers instead of wrapping.
-/

namespace FluentSql

/-- How many rows to take and how many to leave out before. -/
structure Pagination where
  limit? : Option Nat
  offset? : Option Nat
deriving DecidableEq, Repr

namespace Pagination

/-- All rows. -/
def all : Pagination := ⟨none, none⟩

instance : Inhabited Pagination := ⟨all⟩

/-- Take at most so many rows. -/
def limit (count : Int64) (pagination : Pagination) : Pagination :=
  if 0 < count.toInt then { pagination with limit? := some count.toInt.toNat } else pagination

/-- Leave out so many rows. -/
def offset (count : Int64) (pagination : Pagination) : Pagination :=
  { pagination with offset? := some count.toInt.toNat }

/-- The number of rows before a page. -/
def pageStart (page size : Int64) : Int64 :=
  Number.clampInt64 ((max page.toInt 1 - 1) * size.toInt)

/-- Take one page of rows. -/
def page (number size : Int64) (pagination : Pagination) : Pagination :=
  (pagination.offset (pageStart number size)).limit size

end Pagination

end FluentSql
