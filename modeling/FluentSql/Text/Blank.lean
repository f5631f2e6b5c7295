/-!
# Blank characters

A character is blank when Unicode gives it the property `White_Space`. Trimming
removes blank characters from both ends of a text and never looks inside it.
-/

namespace FluentSql.Text

/-- The code point ranges of the property `White_Space`, both ends included. -/
def blankRanges : List (Nat × Nat) :=
  [(0x0009, 0x000D), (0x0020, 0x0020), (0x0085, 0x0085), (0x00A0, 0x00A0), (0x1680, 0x1680),
   (0x2000, 0x200A), (0x2028, 0x2029), (0x202F, 0x202F), (0x205F, 0x205F), (0x3000, 0x3000)]

/-- Whether a character has the property `White_Space`. -/
def isBlank (char : Char) : Bool :=
  blankRanges.any fun range => range.1 ≤ char.toNat && char.toNat ≤ range.2

/-- Drop the blank characters in front. -/
def trimStart (text : List Char) : List Char := text.dropWhile isBlank

/-- Drop the blank characters at the end. -/
def trimEnd (text : List Char) : List Char := (text.reverse.dropWhile isBlank).reverse

/-- Drop the blank characters at both ends. -/
def trim (text : List Char) : List Char := trimEnd (trimStart text)

theorem trimStart_length_le (text : List Char) : (trimStart text).length ≤ text.length :=
  (List.dropWhile_sublist isBlank).length_le

theorem trimEnd_length_le (text : List Char) : (trimEnd text).length ≤ text.length := by
  have shorter := (List.dropWhile_sublist (l := text.reverse) isBlank).length_le
  simpa [trimEnd] using shorter

/-- Trimming never lengthens a text. -/
theorem trim_length_le (text : List Char) : (trim text).length ≤ text.length :=
  Nat.le_trans (trimEnd_length_le _) (trimStart_length_le _)

end FluentSql.Text
