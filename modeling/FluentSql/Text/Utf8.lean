/-!
# Reading bytes as text

Bytes are read as UTF-8. Where they are not UTF-8, each longest run of bytes that
begins a character but does not finish one, or else a single byte, becomes one
replacement character, and reading goes on after it. Well-formed characters are
never lost, and bytes after a broken one are read on their own.
-/

namespace FluentSql.Text

/-- The character written for bytes that are no character. -/
def replacement : Char := Char.ofNat 0xFFFD

/-- What a lead byte announces: the bits it carries, the number of bytes that
follow, and the range of the first of them. -/
structure Utf8Lead where
  bits : Nat
  following : Nat
  low : Nat
  high : Nat

/-- The lead bytes of two, three and four byte characters. The range of the second
byte excludes overlong forms, surrogates and values above the last code point. -/
def utf8Lead? (byte : Nat) : Option Utf8Lead :=
  if 0xC2 ≤ byte ∧ byte ≤ 0xDF then some ⟨byte - 0xC0, 1, 0x80, 0xBF⟩
  else if byte = 0xE0 then some ⟨0, 2, 0xA0, 0xBF⟩
  else if byte = 0xED then some ⟨0xD, 2, 0x80, 0x9F⟩
  else if 0xE1 ≤ byte ∧ byte ≤ 0xEF then some ⟨byte - 0xE0, 2, 0x80, 0xBF⟩
  else if byte = 0xF0 then some ⟨0, 3, 0x90, 0xBF⟩
  else if byte = 0xF4 then some ⟨4, 3, 0x80, 0x8F⟩
  else if 0xF1 ≤ byte ∧ byte ≤ 0xF3 then some ⟨byte - 0xF0, 3, 0x80, 0xBF⟩
  else none

/-- How far an unfinished character has come: the bits so far, the number of bytes
still missing, and the range of the next one. -/
abbrev Utf8Pending := Utf8Lead

/-- Read bytes as text after an unfinished character, if there is one. -/
def decodeAfter : Option Utf8Pending → List Nat → List Char
  | none, [] => []
  | some _, [] => [replacement]
  | none, byte :: rest =>
    if byte < 0x80 then Char.ofNat byte :: decodeAfter none rest
    else match utf8Lead? byte with
      | some lead => decodeAfter (some lead) rest
      | none => replacement :: decodeAfter none rest
  | some pending, byte :: rest =>
    if pending.low ≤ byte ∧ byte ≤ pending.high then
      let bits := pending.bits * 64 + (byte - 0x80)
      if pending.following ≤ 1 then Char.ofNat bits :: decodeAfter none rest
      else decodeAfter (some ⟨bits, pending.following - 1, 0x80, 0xBF⟩) rest
    else if byte < 0x80 then replacement :: Char.ofNat byte :: decodeAfter none rest
    else match utf8Lead? byte with
      | some lead => replacement :: decodeAfter (some lead) rest
      | none => replacement :: replacement :: decodeAfter none rest

/-- Read bytes as text, broken parts replaced. -/
def decodeUtf8 (bytes : List UInt8) : List Char := decodeAfter none (bytes.map UInt8.toNat)

/-- Bytes below 128 are read as the characters of their numbers. -/
theorem decodeAfter_ascii {byte : Nat} (small : byte < 0x80) (rest : List Nat) :
    decodeAfter none (byte :: rest) = Char.ofNat byte :: decodeAfter none rest := by
  simp [decodeAfter, small]

end FluentSql.Text
