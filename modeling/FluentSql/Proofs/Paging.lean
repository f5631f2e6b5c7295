import FluentSql.Pagination

/-!
# Pages

A page is reckoned on words of 64 bits: one is taken from its number, the product with the size
stops at the ends of the signed numbers, and what is below zero is raised to it before it is read
as an unsigned number. No step wraps around (`Pagination.reckoned`). What carries the rest is
`Pagination.takes_page_iff`: a row before the last signed number is on the page whose number is one
more than the quotient by the size, and on no other, even among pages whose product was stopped.
-/

namespace FluentSql

namespace Number

/-- The nearest signed number is the integer itself, or an end of the range. -/
theorem toInt_clampInt64 (number : Int) :
    (clampInt64 number).toInt =
      max Int64.minValue.toInt (min number Int64.maxValue.toInt) := by
  unfold clampInt64
  rw [Int64.toInt_minValue, Int64.toInt_maxValue]
  split
  · rw [Int64.toInt_minValue]
    omega
  · split
    · rw [Int64.toInt_maxValue]
      omega
    · rw [Int64.toInt_ofInt_of_le] <;> omega

theorem toInt_max (left right : Int64) : (max left right).toInt = max left.toInt right.toInt := by
  by_cases ordered : left ≤ right
  · have same : max left right = right := if_pos ordered
    rw [same, Int.max_eq_right (Int64.le_iff_toInt_le.mp ordered)]
  · have same : max left right = left := if_neg ordered
    rw [Int64.le_iff_toInt_le] at ordered
    rw [same]
    omega

/-- A word that is not negative is the same number without a sign. -/
theorem toNat_toUInt64 {word : Int64} (nonnegative : 0 ≤ word.toInt) :
    (word.toUInt64.toNat : Int) = word.toInt := by
  have ordered : 0 ≤ word := Int64.le_iff_toInt_le.mpr nonnegative
  rw [Int64.toNat_toUInt64_of_le ordered]
  exact Int.toNat_of_nonneg nonnegative

end Number

namespace Pagination

/-- A row is taken, rows counted from zero. -/
def Takes (pagination : Pagination) (row : Nat) : Prop :=
  pagination.offset?.getD 0 ≤ row ∧
    ∀ count, pagination.limit? = some count → row < pagination.offset?.getD 0 + count

/-! ## Words -/

/-- A page can be reckoned on words of 64 bits, and no word wraps around: each is the number that
it stands for. Only the product may leave the range, and then it stops at the end. -/
structure Reckoned (number size : Int64) : Prop where
  before : (max number 1 - 1).toInt = max number.toInt 1 - 1
  product : (pageStart number size).toInt = max Int64.minValue.toInt
    (min ((max number 1 - 1).toInt * size.toInt) Int64.maxValue.toInt)
  offset : ((max (pageStart number size) 0).toUInt64.toNat : Int) =
    max (pageStart number size).toInt 0
  limit : 0 < size → (size.toUInt64.toNat : Int) = size.toInt
  page (earlier : Pagination) : earlier.page number size =
    { limit? := if 0 < size then some size.toUInt64.toNat else earlier.limit?
      offset? := some (max (pageStart number size) 0).toUInt64.toNat }

theorem reckoned (number size : Int64) : Reckoned number size := by
  have before : (max number 1 - 1).toInt = max number.toInt 1 - 1 := by
    have positive : (1 : Int64) ≤ max number 1 := by
      rw [Int64.le_iff_toInt_le, Number.toInt_max]
      exact Int.le_max_right _ _
    rw [Int64.toInt_sub_of_le _ _ (by decide) positive, Number.toInt_max]
    rfl
  have offset : ((max (pageStart number size) 0).toUInt64.toNat : Int) =
      max (pageStart number size).toInt 0 := by
    rw [Number.toNat_toUInt64, Number.toInt_max]
    · rfl
    · rw [Number.toInt_max]
      exact Int.le_max_right _ _
  have limit : 0 < size → (size.toUInt64.toNat : Int) = size.toInt := fun positive =>
    Number.toNat_toUInt64 (Int.le_of_lt (Int64.lt_iff_toInt_lt.mp positive))
  refine ⟨before, by rw [before, pageStart, Number.toInt_clampInt64], offset, limit, ?_⟩
  intro earlier
  have sameOffset : (max (pageStart number size) 0).toUInt64.toNat =
      (pageStart number size).toInt.toNat := by omega
  have sizePositive : 0 < size ↔ 0 < size.toInt := Int64.lt_iff_toInt_lt
  rw [sameOffset, page, Pagination.limit, Pagination.offset]
  by_cases positive : 0 < size
  · have counted : size.toUInt64.toNat = size.toInt.toNat := by
      have same := limit positive
      omega
    rw [if_pos positive, if_pos (sizePositive.mp positive), counted]
  · rw [if_neg positive, if_neg (mt sizePositive.mpr positive)]

/-! ## Rows of a page -/

theorem toInt_pageStart (number size : Int64) :
    (pageStart number size).toInt = max Int64.minValue.toInt
      (min ((max number.toInt 1 - 1) * size.toInt) Int64.maxValue.toInt) :=
  Number.toInt_clampInt64 _

theorem offset?_page (number size : Int64) (earlier : Pagination) :
    (earlier.page number size).offset? = some (pageStart number size).toInt.toNat := by
  rw [page, Pagination.limit]
  split <;> rfl

/-- Pages below the first are the first. -/
theorem page_of_lt_one {number : Int64} (below : number.toInt < 1) (size : Int64)
    (earlier : Pagination) : earlier.page number size = earlier.page 1 size := by
  have first : max number.toInt 1 = max (1 : Int64).toInt 1 :=
    Int.max_eq_right (Int.le_of_lt below)
  rw [page, page, pageStart, pageStart, first]

/-- A page without rows begins at the first row and sets no limit. -/
theorem page_of_size_nonpositive (number : Int64) {size : Int64} (none : size.toInt ≤ 0)
    (earlier : Pagination) : earlier.page number size = ⟨earlier.limit?, some 0⟩ := by
  have product : (max number.toInt 1 - 1) * size.toInt ≤ 0 :=
    Int.mul_nonpos_of_nonneg_of_nonpos (by omega) none
  have start : (pageStart number size).toInt.toNat = 0 := by
    rw [toInt_pageStart, Int64.toInt_minValue]
    omega
  rw [page, Pagination.limit, if_neg (by omega), Pagination.offset, start]

/-- A page of some rows replaces both the limit and the offset. -/
theorem page_of_size_positive (number : Int64) {size : Int64} (positive : 1 ≤ size.toInt)
    (earlier : Pagination) : earlier.page number size =
      ⟨some size.toInt.toNat, some (pageStart number size).toInt.toNat⟩ := by
  rw [page, Pagination.limit, if_pos (by omega), Pagination.offset]

/-- The rows before a page and those of the page. -/
theorem before_add_size (number size : Int) : (number - 1) * size + size = number * size := by
  rw [Int.sub_mul, Int.one_mul, Int.sub_add_cancel]

theorem before_nonneg (number : Int64) {size : Int64} (positive : 1 ≤ size.toInt) :
    0 ≤ (max number.toInt 1 - 1) * size.toInt :=
  Int.mul_nonneg (by omega) (by omega)

/-- Rows and quotients: a multiple of the size is the last one up to a row. -/
theorem quotient_eq_iff {size : Int} (positive : 1 ≤ size) (row number : Int) :
    row / size + 1 = number ↔
      (number - 1) * size ≤ row ∧ row < (number - 1) * size + size := by
  have least : number - 1 ≤ row / size ↔ (number - 1) * size ≤ row :=
    Int.le_ediv_iff_mul_le (by omega)
  have greatest : row / size < number ↔ row < number * size :=
    Int.ediv_lt_iff_lt_mul (by omega)
  rw [before_add_size, ← least, ← greatest]
  omega

/-- A row before the last signed number is on one page only, also among the pages whose product
was stopped at that number. -/
theorem takes_page_iff (number : Int64) {size : Int64} (positive : 1 ≤ size.toInt)
    (earlier : Pagination) {row : Nat} (small : (row : Int) < Int64.maxValue.toInt) :
    (earlier.page number size).Takes row ↔ (row : Int) / size.toInt + 1 = max number.toInt 1 := by
  have product := before_nonneg number positive
  have start := toInt_pageStart number size
  rw [Int64.toInt_minValue] at start
  rw [quotient_eq_iff positive, page_of_size_positive number positive, Takes]
  simp only [Option.getD_some, Option.some.injEq, forall_eq']
  omega

/-! ## Windows -/

/-- The rows of a page end within the signed numbers. -/
def Fits (number size : Int64) : Prop :=
  max number.toInt 1 * size.toInt ≤ Int64.maxValue.toInt

/-- Pages of one size lie side by side, whatever limits and offsets they are set on. -/
structure SideBySide (size : Int64) : Prop where
  /-- A page that fits takes as many rows as its size says, after those of the pages before it. -/
  window {number : Int64} : Fits number size → ∀ earlier : Pagination,
    earlier.page number size =
      ⟨some size.toInt.toNat, some ((max number.toInt 1 - 1) * size.toInt).toNat⟩
  /-- The next page begins where a page that fits ends. -/
  adjacent {number next : Int64} : Fits number size → next.toInt = max number.toInt 1 + 1 →
    ∀ (earlier later : Pagination) (start : Nat),
      (earlier.page number size).offset? = some start →
        (later.page next size).offset? = some (start + size.toInt.toNat)
  /-- Two pages that fit have no row in common. -/
  disjoint {number other : Int64} : Fits number size → Fits other size →
    max number.toInt 1 ≠ max other.toInt 1 → ∀ (earlier later : Pagination) (row : Nat),
      ¬ ((earlier.page number size).Takes row ∧ (later.page other size).Takes row)
  /-- Every row is on the page whose number is one more than the quotient, and on no other. -/
  covered (row : Nat) : (row : Int) < Int64.maxValue.toInt →
    ∃ number : Int64, number.toInt = (row : Int) / size.toInt + 1 ∧
      ∀ (other : Int64) (earlier : Pagination),
        (earlier.page other size).Takes row ↔ max other.toInt 1 = number.toInt

theorem page_of_fits {number size : Int64} (positive : 1 ≤ size.toInt)
    (fits : Fits number size) (earlier : Pagination) : earlier.page number size =
      ⟨some size.toInt.toNat, some ((max number.toInt 1 - 1) * size.toInt).toNat⟩ := by
  have before : (max number.toInt 1 - 1) * size.toInt ≤ max number.toInt 1 * size.toInt :=
    Int.mul_le_mul_of_nonneg_right (by omega) (by omega)
  have product := before_nonneg number positive
  have start := toInt_pageStart number size
  rw [Int64.toInt_minValue, Int.min_eq_left (Int.le_trans before fits)] at start
  rw [page_of_size_positive number positive, start, Int.max_eq_right (by omega)]

/-- The rows of a page that fits are before the last signed number. -/
theorem small_of_takes {number size : Int64} (positive : 1 ≤ size.toInt)
    (fits : Fits number size) {earlier : Pagination} {row : Nat}
    (takes : (earlier.page number size).Takes row) : (row : Int) < Int64.maxValue.toInt := by
  have last := before_add_size (max number.toInt 1) size.toInt
  have product := before_nonneg number positive
  rw [page_of_fits positive fits] at takes
  have ends := takes.2 _ rfl
  rw [Option.getD_some] at ends
  rw [Fits] at fits
  omega

theorem sideBySide {size : Int64} (positive : 1 ≤ size.toInt) : SideBySide size where
  window fits earlier := page_of_fits positive fits earlier
  adjacent {number next} fits isNext earlier later start begins := by
    have last := before_add_size (max number.toInt 1) size.toInt
    have follows : max next.toInt 1 = max number.toInt 1 + 1 := by omega
    have product := before_nonneg number positive
    have following := toInt_pageStart next size
    rw [follows, Int.add_sub_cancel, Int64.toInt_minValue, Int.min_eq_left fits,
      Int.max_eq_right (by omega)] at following
    rw [page_of_fits positive fits] at begins
    obtain rfl := Option.some.inj begins
    rw [offset?_page, following]
    congr 1
    omega
  disjoint fits otherFits different earlier later row := by
    rintro ⟨takes, otherTakes⟩
    have small := small_of_takes positive fits takes
    apply different
    rw [← (takes_page_iff _ positive earlier small).mp takes,
      ← (takes_page_iff _ positive later small).mp otherTakes]
  covered row small := by
    have quotient : 0 ≤ (row : Int) / size.toInt := Int.ediv_nonneg (by omega) (by omega)
    have most : (row : Int) / size.toInt ≤ row := Int.ediv_le_self _ (by omega)
    rw [Int64.toInt_maxValue] at small
    have number : (Int64.ofInt ((row : Int) / size.toInt + 1)).toInt =
        (row : Int) / size.toInt + 1 :=
      Int64.toInt_ofInt_of_le (by omega) (by omega)
    refine ⟨_, number, fun other earlier => ?_⟩
    rw [takes_page_iff other positive earlier (by rw [Int64.toInt_maxValue]; exact small), number]
    exact eq_comm

/-- A page is reckoned without wrapping around, and its offset is a signed number that is not
negative. Numbers below one stand for the first page. A size that is not positive leaves the limit
alone and begins at the first row, and the pages of any other size lie side by side. -/
theorem page_tiles (number size : Int64) (earlier : Pagination) :
    Reckoned number size ∧
      (∃ start : Nat, (earlier.page number size).offset? = some start ∧
        (start : Int) ≤ Int64.maxValue.toInt) ∧
      (number.toInt < 1 → earlier.page number size = earlier.page 1 size) ∧
      (size.toInt ≤ 0 → earlier.page number size = ⟨earlier.limit?, some 0⟩) ∧
      (1 ≤ size.toInt → SideBySide size) := by
  refine ⟨reckoned number size, ⟨_, offset?_page number size earlier, ?_⟩,
    fun below => page_of_lt_one below size earlier,
    fun none => page_of_size_nonpositive number none earlier, sideBySide⟩
  have start := toInt_pageStart number size
  rw [Int64.toInt_minValue, Int64.toInt_maxValue] at start
  rw [Int64.toInt_maxValue]
  omega

/-- The least number and a size of fifteen, then the third page of a negative size. -/
theorem page_tiles_at_ends :
    let earlier : Pagination := ⟨some 7, some 3⟩
    (Int64.minValue.toInt < 1 ∧
        earlier.page Int64.minValue 15 = earlier.page 1 15) ∧
      ((-2 : Int64).toInt ≤ 0 ∧ earlier.page 3 (-2) = ⟨some 7, some 0⟩) ∧
      (1 ≤ (15 : Int64).toInt ∧ SideBySide 15) := by
  intro earlier
  obtain ⟨-, -, first, -, tiles⟩ := page_tiles Int64.minValue 15 earlier
  obtain ⟨-, -, -, empty, -⟩ := page_tiles 3 (-2) earlier
  exact ⟨⟨by decide, first (by decide)⟩, ⟨by decide, empty (by decide)⟩,
    ⟨by decide, tiles (by decide)⟩⟩

example : all.page 3 15 = ⟨some 15, some 30⟩ := by decide

end Pagination

end FluentSql
