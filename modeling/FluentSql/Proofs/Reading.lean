import FluentSql.Text.Utf8

/-!
# Reading well-formed UTF-8

The bytes of a text are read as that text, and nothing in it is replaced: `decodeUtf8_toUTF8`.
Every character is read on its own, whatever follows (`decodeAfter_utf8EncodeChar`). Its lead byte
announces how many bytes follow, and the range of the first of them leaves room for every code
point of that length that is not a surrogate.
-/

namespace FluentSql.Text

/-! ## Bytes of a text -/

theorem toList_loop (bytes : ByteArray) (index : Nat) (taken : List UInt8) :
    ByteArray.toList.loop bytes index taken =
      taken.reverse ++ bytes.data.toList.drop index := by
  induction index, taken using ByteArray.toList.loop.induct bytes with
  | case1 index taken inside inductionHypothesis =>
    have inList : index < bytes.data.toList.length := inside
    have byte : bytes.get! index = bytes.data.toList[index] := by
      rw [ByteArray.get!, Array.getElem_toList]
      exact getElem!_pos bytes.data index inside
    rw [ByteArray.toList.loop, if_pos inside, inductionHypothesis,
      List.drop_eq_getElem_cons inList, List.reverse_cons, List.append_assoc, byte,
      List.singleton_append]
  | case2 index taken outside =>
    have afterEnd : bytes.data.toList.length ≤ index := Nat.le_of_not_lt outside
    rw [ByteArray.toList.loop, if_neg outside, List.drop_eq_nil_of_le afterEnd, List.append_nil]

/-- The bytes of a text are those of its characters. -/
theorem toList_toUTF8 (text : String) :
    text.toUTF8.toList = text.toList.flatMap String.utf8EncodeChar := by
  have bytes : text.toUTF8 = text.toList.utf8Encode := by
    rw [String.toUTF8_eq_toByteArray, ← String.toByteArray_ofList, String.ofList_toList]
  rw [bytes, ByteArray.toList, toList_loop, List.reverse_nil, List.nil_append, List.drop_zero,
    List.utf8Encode, List.toList_data_toByteArray]

/-! ## Characters of more than one byte -/

variable {lead pending : Utf8Lead} {byte : Nat}

theorem decodeAfter_lead (large : 0x80 ≤ byte) (known : utf8Lead? byte = some lead)
    (rest : List Nat) : decodeAfter none (byte :: rest) = decodeAfter (some lead) rest := by
  rw [decodeAfter, if_neg (by omega), known]

theorem decodeAfter_middle (low : pending.low ≤ byte) (high : byte ≤ pending.high)
    (more : 2 ≤ pending.following) (rest : List Nat) :
    decodeAfter (some pending) (byte :: rest) =
      decodeAfter
        (some ⟨pending.bits * 64 + (byte - 0x80), pending.following - 1, 0x80, 0xBF⟩) rest := by
  rw [decodeAfter, if_pos ⟨low, high⟩, if_neg (by omega)]

theorem decodeAfter_last (low : pending.low ≤ byte) (high : byte ≤ pending.high)
    (last : pending.following = 1) (rest : List Nat) :
    decodeAfter (some pending) (byte :: rest) =
      Char.ofNat (pending.bits * 64 + (byte - 0x80)) :: decodeAfter none rest := by
  rw [decodeAfter, if_pos ⟨low, high⟩, if_pos (by omega)]

variable {value : Nat}

/-- What the lead byte of two announces. -/
theorem utf8Lead?_two (least : 0x80 ≤ value) (most : value < 0x800) :
    utf8Lead? (value / 64 + 192) = some ⟨value / 64, 1, 0x80, 0xBF⟩ := by
  rw [utf8Lead?, if_pos (by omega), Nat.add_sub_cancel]

/-- What the lead byte of three announces has room for the second. -/
theorem utf8Lead?_three (least : 0x800 ≤ value) (most : value < 0x10000)
    (noSurrogate : value < 0xD800 ∨ 0xDFFF < value) :
    ∃ low high, utf8Lead? (value / 4096 + 224) = some ⟨value / 4096, 2, low, high⟩ ∧
      low ≤ value / 64 % 64 + 128 ∧ value / 64 % 64 + 128 ≤ high := by
  rw [utf8Lead?, if_neg (by omega)]
  split
  · exact ⟨0xA0, 0xBF, by congr 2; omega, by omega, by omega⟩
  · split
    · exact ⟨0x80, 0x9F, by congr 2; omega, by omega, by omega⟩
    · rw [if_pos (by omega), Nat.add_sub_cancel]
      exact ⟨0x80, 0xBF, rfl, by omega, by omega⟩

/-- What the lead byte of four announces has room for the second. -/
theorem utf8Lead?_four (least : 0x10000 ≤ value) (most : value < 0x110000) :
    ∃ low high, utf8Lead? (value / 262144 + 240) = some ⟨value / 262144, 3, low, high⟩ ∧
      low ≤ value / 4096 % 64 + 128 ∧ value / 4096 % 64 + 128 ≤ high := by
  rw [utf8Lead?, if_neg (by omega), if_neg (by omega), if_neg (by omega), if_neg (by omega)]
  split
  · exact ⟨0x90, 0xBF, by congr 2; omega, by omega, by omega⟩
  · split
    · exact ⟨0x80, 0x8F, by congr 2; omega, by omega, by omega⟩
    · rw [if_pos (by omega), Nat.add_sub_cancel]
      exact ⟨0x80, 0xBF, rfl, by omega, by omega⟩

/-- Two bytes are read as the character whose bits they share out. -/
theorem decodeAfter_two (least : 0x80 ≤ value) (most : value < 0x800) (rest : List Nat) :
    decodeAfter none ([value / 64 + 192, value % 64 + 128] ++ rest) =
      Char.ofNat value :: decodeAfter none rest := by
  have bits : value / 64 * 64 + (value % 64 + 128 - 0x80) = value := by omega
  simp only [List.cons_append, List.nil_append]
  rw [decodeAfter_lead (by omega) (utf8Lead?_two least most),
    decodeAfter_last (by dsimp only; omega) (by dsimp only; omega) rfl, bits]

/-- Three bytes are read as the character whose bits they share out. -/
theorem decodeAfter_three (least : 0x800 ≤ value) (most : value < 0x10000)
    (noSurrogate : value < 0xD800 ∨ 0xDFFF < value) (rest : List Nat) :
    decodeAfter none
        ([value / 4096 + 224, value / 64 % 64 + 128, value % 64 + 128] ++ rest) =
      Char.ofNat value :: decodeAfter none rest := by
  obtain ⟨low, high, announced, aboveLow, belowHigh⟩ := utf8Lead?_three least most noSurrogate
  have bits : (value / 4096 * 64 + (value / 64 % 64 + 128 - 0x80)) * 64 +
      (value % 64 + 128 - 0x80) = value := by omega
  simp only [List.cons_append, List.nil_append]
  rw [decodeAfter_lead (by omega) announced,
    decodeAfter_middle aboveLow belowHigh (Nat.le_refl 2),
    decodeAfter_last (by dsimp only; omega) (by dsimp only; omega) rfl, bits]

/-- Four bytes are read as the character whose bits they share out. -/
theorem decodeAfter_four (least : 0x10000 ≤ value) (most : value < 0x110000) (rest : List Nat) :
    decodeAfter none
        ([value / 262144 + 240, value / 4096 % 64 + 128, value / 64 % 64 + 128,
          value % 64 + 128] ++ rest) =
      Char.ofNat value :: decodeAfter none rest := by
  obtain ⟨low, high, announced, aboveLow, belowHigh⟩ := utf8Lead?_four least most
  have bits : ((value / 262144 * 64 + (value / 4096 % 64 + 128 - 0x80)) * 64 +
      (value / 64 % 64 + 128 - 0x80)) * 64 + (value % 64 + 128 - 0x80) = value := by omega
  simp only [List.cons_append, List.nil_append]
  rw [decodeAfter_lead (by omega) announced,
    decodeAfter_middle aboveLow belowHigh (Nat.le_succ 2),
    decodeAfter_middle (by dsimp only; omega) (by dsimp only; omega) (Nat.le_refl 2),
    decodeAfter_last (by dsimp only; omega) (by dsimp only; omega) rfl, bits]

/-! ## Texts -/

/-- The bytes of a character are read as the character, whatever follows. -/
theorem decodeAfter_utf8EncodeChar (char : Char) (rest : List Nat) :
    decodeAfter none ((String.utf8EncodeChar char).map UInt8.toNat ++ rest) =
      char :: decodeAfter none rest := by
  have valid : char.val.toNat < 0xD800 ∨ 0xDFFF < char.val.toNat ∧ char.val.toNat < 0x110000 :=
    char.valid
  have whole : Char.ofNat char.val.toNat = char := Char.ofNat_toNat char
  have byte : ∀ {number : Nat}, number < 256 → (UInt8.ofNat number).toNat = number :=
    fun small => UInt8.toNat_ofNat_of_lt small
  rw [String.utf8EncodeChar]
  generalize char.val.toNat = value at valid whole
  split
  · rw [List.map_singleton, byte (by omega), List.singleton_append, decodeAfter_ascii (by omega),
      whole]
  split
  · have bytes : [UInt8.ofNat (value / 64 % 32 + 192), UInt8.ofNat (value % 64 + 128)].map
        UInt8.toNat = [value / 64 + 192, value % 64 + 128] := by
      simp only [List.map_cons, List.map_nil]
      rw [byte (by omega), byte (by omega), Nat.mod_eq_of_lt (by omega)]
    rw [bytes, decodeAfter_two (by omega) (by omega), whole]
  split
  · have bytes : [UInt8.ofNat (value / 4096 % 16 + 224), UInt8.ofNat (value / 64 % 64 + 128),
        UInt8.ofNat (value % 64 + 128)].map UInt8.toNat =
          [value / 4096 + 224, value / 64 % 64 + 128, value % 64 + 128] := by
      simp only [List.map_cons, List.map_nil]
      rw [byte (by omega), byte (by omega), byte (by omega),
        Nat.mod_eq_of_lt (a := value / 4096) (by omega)]
    rw [bytes, decodeAfter_three (by omega) (by omega) (by omega), whole]
  · have bytes : [UInt8.ofNat (value / 262144 % 8 + 240), UInt8.ofNat (value / 4096 % 64 + 128),
        UInt8.ofNat (value / 64 % 64 + 128), UInt8.ofNat (value % 64 + 128)].map UInt8.toNat =
          [value / 262144 + 240, value / 4096 % 64 + 128, value / 64 % 64 + 128,
            value % 64 + 128] := by
      simp only [List.map_cons, List.map_nil]
      rw [byte (by omega), byte (by omega), byte (by omega), byte (by omega),
        Nat.mod_eq_of_lt (a := value / 262144) (by omega)]
    rw [bytes, decodeAfter_four (by omega) (by omega), whole]

/-- The bytes of some characters are read as these characters. -/
theorem decodeAfter_flatMap (text : List Char) :
    decodeAfter none ((text.flatMap String.utf8EncodeChar).map UInt8.toNat) = text := by
  induction text with
  | nil => rfl
  | cons char rest inductionHypothesis =>
    rw [List.flatMap_cons, List.map_append, decodeAfter_utf8EncodeChar, inductionHypothesis]

/-- The bytes of a text are read as the text. -/
theorem decodeUtf8_toUTF8 (text : String) : decodeUtf8 text.toUTF8.toList = text.toList := by
  rw [decodeUtf8, toList_toUTF8, decodeAfter_flatMap]

end FluentSql.Text
