import FluentSql.Proofs.Reading

/-!
# Slices of a text

A text is kept as its UTF-8 bytes, and a place in it is an offset in bytes. A part of a text can be
taken only from one boundary of characters to a later one. An `Attempt` is a computation on texts
that breaks off at every other slice, and that notes the steps at which it could go wrong; what it
`Yields`, it yields without having taken a wrong one. Slices around parts of a text are harmless
(`yields_slice`), and a byte below 128 stands at a boundary (`exists_append_of_drop_utf8`).
-/

namespace FluentSql

namespace Text

/-! ## Bytes and boundaries -/

/-- The bytes of a text. -/
def utf8 (text : List Char) : List UInt8 := text.flatMap String.utf8EncodeChar

/-- The number of bytes of a text. -/
def width (text : List Char) : Nat := (utf8 text).length

/-- A character of the text begins at the offset, or the text ends there. -/
def IsBoundary (text : List Char) (offset : Nat) : Prop :=
  String.Pos.Raw.IsValid (String.ofList text) ⟨offset⟩

instance (text : List Char) (offset : Nat) : Decidable (IsBoundary text offset) :=
  inferInstanceAs (Decidable (String.Pos.Raw.IsValid (String.ofList text) ⟨offset⟩))

/-- The text of the bytes from one offset to another. -/
def slice? (text : List Char) (first last : Nat) : Option (List Char) :=
  if first ≤ last ∧ IsBoundary text first ∧ IsBoundary text last then
    some (decodeUtf8 (((utf8 text).take last).drop first))
  else none

@[simp] theorem utf8_append (first second : List Char) :
    utf8 (first ++ second) = utf8 first ++ utf8 second := List.flatMap_append

theorem utf8_cons (char : Char) (rest : List Char) :
    utf8 (char :: rest) = String.utf8EncodeChar char ++ utf8 rest := rfl

@[simp] theorem width_nil : width [] = 0 := rfl

@[simp] theorem width_append (first second : List Char) :
    width (first ++ second) = width first + width second := by
  rw [width, utf8_append, List.length_append, width, width]

@[simp] theorem width_cons (char : Char) (rest : List Char) :
    width (char :: rest) = char.utf8Size + width rest := by
  rw [width, utf8_cons, List.length_append, String.length_utf8EncodeChar, width]

/-- Every character has a byte. -/
theorem length_le_width (text : List Char) : text.length ≤ width text := by
  induction text with
  | nil => exact Nat.le_refl 0
  | cons char rest inductionHypothesis =>
    have positive := char.utf8Size_pos
    rw [List.length_cons, width_cons]
    omega

theorem width_eq_zero_iff {text : List Char} : width text = 0 ↔ text = [] := by
  constructor
  · intro none
    have short := length_le_width text
    exact List.length_eq_zero_iff.mp (by omega)
  · rintro rfl
    rfl

/-- A part of a text with fewer characters has fewer bytes. -/
theorem width_lt_of_infix {part text : List Char} (occurs : part <:+: text)
    (shorter : part.length < text.length) : width part < width text := by
  obtain ⟨before, after, rfl⟩ := occurs
  have front := length_le_width before
  have back := length_le_width after
  simp only [List.length_append] at shorter
  simp only [width_append]
  omega

/-- Of two texts at the front of one, that with fewer bytes is at the front of the other. -/
theorem prefix_of_width_le {first second text : List Char} (front : first <+: text)
    (other : second <+: text) (narrow : width first ≤ width second) : first <+: second := by
  rcases List.prefix_or_prefix_of_prefix front other with short | ⟨rest, rfl⟩
  · exact short
  · rw [width_append] at narrow
    have none : rest = [] := width_eq_zero_iff.mp (by omega)
    exact ⟨[], by rw [none, List.append_nil, List.append_nil]⟩

/-- The bytes of a text are read as the text. -/
theorem decodeUtf8_utf8 (text : List Char) : decodeUtf8 (utf8 text) = text :=
  decodeAfter_flatMap text

theorem width_toList (text : String) : width text.toList = text.rawEndPos.byteIdx := by
  have bytes : text.toByteArray = (utf8 text.toList).toByteArray := by
    rw [← String.ofList_toList (s := text), String.toByteArray_ofList, String.ofList_toList]
    rfl
  rw [String.byteIdx_rawEndPos, ← String.size_toByteArray, bytes, List.size_toByteArray, width]

/-- The boundaries of a text are the widths of what stands in front of them. -/
theorem isBoundary_iff {text : List Char} {offset : Nat} :
    IsBoundary text offset ↔ ∃ before after, text = before ++ after ∧ width before = offset := by
  rw [IsBoundary, String.Pos.Raw.isValid_iff_exists_append]
  constructor
  · rintro ⟨before, after, whole, place⟩
    refine ⟨before.toList, after.toList, ?_, ?_⟩
    · rw [← String.toList_append, ← whole, String.toList_ofList]
    · rw [width_toList, ← place]
  · rintro ⟨before, after, rfl, rfl⟩
    refine ⟨String.ofList before, String.ofList after, String.ofList_append, ?_⟩
    rw [String.Pos.Raw.ext_iff, ← width_toList, String.toList_ofList]

theorem isBoundary_append (before after : List Char) :
    IsBoundary (before ++ after) (width before) := isBoundary_iff.mpr ⟨before, after, rfl, rfl⟩

/-- A part of a text is the slice between its ends. -/
theorem slice?_append (before part after : List Char) :
    slice? (before ++ part ++ after) (width before) (width (before ++ part)) = some part := by
  have start : IsBoundary (before ++ part ++ after) (width before) := by
    rw [List.append_assoc]
    exact isBoundary_append before _
  have order : width before ≤ width (before ++ part) := by
    rw [width_append]
    exact Nat.le_add_right _ _
  have bytes : ((utf8 (before ++ part ++ after)).take (width (before ++ part))).drop
      (width before) = utf8 part := by
    have taken : (utf8 (before ++ part ++ after)).take (width (before ++ part)) =
        utf8 (before ++ part) := by
      rw [utf8_append (before ++ part), width, List.take_left]
    rw [taken, utf8_append, width, List.drop_left]
  rw [slice?, if_pos ⟨order, start, isBoundary_append _ _⟩, bytes, decodeUtf8_utf8]

/-! ## Bytes below 128 -/

/-- Only a character below 128 has a byte below 128, and no other byte. -/
theorem utf8EncodeChar_of_small {char : Char} {byte : UInt8}
    (member : byte ∈ String.utf8EncodeChar char) (small : byte < 0x80) :
    String.utf8EncodeChar char = [byte] ∧ char = Char.ofNat byte.toNat := by
  have number : ∀ {value : Nat}, value < 256 → (UInt8.ofNat value).toNat = value :=
    fun fits => UInt8.toNat_ofNat_of_lt fits
  have large : ∀ {value : Nat}, 0x80 ≤ value → value < 256 → ¬ UInt8.ofNat value < 0x80 := by
    intro value least fits below
    have atMost := UInt8.lt_iff_toNat_lt.mp below
    rw [number fits] at atMost
    exact absurd atMost (Nat.not_lt.mpr least)
  have whole : Char.ofNat char.val.toNat = char := Char.ofNat_toNat char
  rw [String.utf8EncodeChar] at member ⊢
  generalize char.val.toNat = value at member whole ⊢
  by_cases ascii : value ≤ 0x7F
  · rw [if_pos ascii] at member ⊢
    obtain rfl := List.mem_singleton.mp member
    exact ⟨rfl, by rw [number (by omega), whole]⟩
  · -- every byte of a longer character is 128 at least
    rw [if_neg ascii] at member
    split at member
    · simp only [List.mem_cons, List.not_mem_nil, or_false] at member
      rcases member with rfl | rfl <;> exact absurd small (large (by omega) (by omega))
    · split at member
      · simp only [List.mem_cons, List.not_mem_nil, or_false] at member
        rcases member with rfl | rfl | rfl <;> exact absurd small (large (by omega) (by omega))
      · simp only [List.mem_cons, List.not_mem_nil, or_false] at member
        rcases member with rfl | rfl | rfl | rfl <;>
          exact absurd small (large (by omega) (by omega))

/-- A byte below 128 at the front is a character. -/
theorem exists_cons_of_utf8 {text : List Char} {byte : UInt8} {rest : List UInt8}
    (bytes : utf8 text = byte :: rest) (small : byte < 0x80) :
    ∃ later, text = Char.ofNat byte.toNat :: later ∧ utf8 later = rest := by
  cases text with
  | nil => cases bytes
  | cons char later =>
    rw [utf8_cons] at bytes
    have member : byte ∈ String.utf8EncodeChar char := by
      rcases encoded : String.utf8EncodeChar char with _ | ⟨first, others⟩
      · have positive := char.utf8Size_pos
        rw [← String.length_utf8EncodeChar, encoded] at positive
        exact absurd positive (Nat.lt_irrefl 0)
      · rw [encoded] at bytes
        rw [(List.cons.inj bytes).1]
        exact List.mem_cons_self
    obtain ⟨single, same⟩ := utf8EncodeChar_of_small member small
    rw [single] at bytes
    exact ⟨later, by rw [same], (List.cons.inj bytes).2⟩

/-- A byte below 128 stands at a boundary of characters. -/
theorem exists_append_of_drop_utf8 {text : List Char} {offset : Nat} {byte : UInt8}
    {rest : List UInt8} (bytes : (utf8 text).drop offset = byte :: rest) (small : byte < 0x80) :
    ∃ before after, text = before ++ after ∧ width before = offset ∧ utf8 after = byte :: rest := by
  induction text generalizing offset with
  | nil => simp [utf8] at bytes
  | cons char later inductionHypothesis =>
    rw [utf8_cons, List.drop_append] at bytes
    by_cases within : offset < (String.utf8EncodeChar char).length
    · have member : byte ∈ String.utf8EncodeChar char := by
        rcases dropped : (String.utf8EncodeChar char).drop offset with _ | ⟨first, others⟩
        · have none := List.drop_eq_nil_iff.mp dropped
          omega
        · rw [dropped] at bytes
          have inDropped : byte ∈ (String.utf8EncodeChar char).drop offset := by
            rw [dropped, (List.cons.inj bytes).1]
            exact List.mem_cons_self
          exact List.mem_of_mem_drop inDropped
      obtain ⟨single, -⟩ := utf8EncodeChar_of_small member small
      have first : offset = 0 := by
        rw [single] at within
        exact Nat.lt_one_iff.mp within
      subst first
      refine ⟨[], char :: later, rfl, rfl, ?_⟩
      rwa [List.drop_zero, Nat.zero_sub, List.drop_zero] at bytes
    · have behind := Nat.le_of_not_lt within
      rw [List.drop_eq_nil_of_le behind, List.nil_append] at bytes
      obtain ⟨before, after, rfl, place, found⟩ := inductionHypothesis bytes
      refine ⟨char :: before, after, rfl, ?_, found⟩
      rw [width_cons, place, ← String.length_utf8EncodeChar]
      omega

end Text

/-! ## Attempts -/

/-- A step that can go wrong. -/
inductive Hazard where
  /-- Take the text between two offsets of a text. -/
  | slice (text : List Char) (first last : Nat)
  /-- Write a reference for the sake of another one. -/
  | descend (outer inner : List Char)

/-- A slice runs forward between boundaries of its text; a reference is written for the sake of a
longer one. -/
def Hazard.Harmless : Hazard → Prop
  | slice text first last => first ≤ last ∧ Text.IsBoundary text first ∧ Text.IsBoundary text last
  | descend outer inner => Text.width inner < Text.width outer

/-- A computation that may break off, with the steps at which it could go wrong, in order. -/
structure Attempt (α : Type) where
  hazards : List Hazard
  result? : Option α

namespace Attempt

variable {α β : Type}

/-- Go on with a result, if there is one. -/
def andThen (attempt : Attempt α) (next : α → Attempt β) : Attempt β :=
  match attempt.result? with
  | some value => ⟨attempt.hazards ++ (next value).hazards, (next value).result?⟩
  | none => ⟨attempt.hazards, none⟩

instance : Monad Attempt where
  pure value := ⟨[], some value⟩
  bind := andThen

/-- Take the text between two offsets; break off if a character would be cut. -/
def slice (text : List Char) (first last : Nat) : Attempt (List Char) :=
  ⟨[.slice text first last], Text.slice? text first last⟩

/-- Write a reference for the sake of another one. -/
def descend (outer inner : List Char) (written : Attempt (List Char)) : Attempt (List Char) :=
  ⟨.descend outer inner :: written.hazards, written.result?⟩

/-- An attempt comes to a value, and no step of it went wrong. -/
structure Yields (attempt : Attempt α) (value : α) : Prop where
  result : attempt.result? = some value
  harmless : ∀ hazard ∈ attempt.hazards, hazard.Harmless

theorem yields_pure (value : α) : (pure value : Attempt α).Yields value where
  result := rfl
  harmless := by
    intro hazard member
    cases member

theorem Yields.bind {attempt : Attempt α} {next : α → Attempt β} {value : α} {answer : β}
    (first : attempt.Yields value) (second : (next value).Yields answer) :
    (attempt >>= next).Yields answer := by
  have whole : attempt >>= next =
      ⟨attempt.hazards ++ (next value).hazards, (next value).result?⟩ := by
    change attempt.andThen next = _
    rw [andThen, first.result]
  rw [whole]
  refine ⟨second.result, fun hazard member => ?_⟩
  rcases List.mem_append.mp member with early | late
  · exact first.harmless hazard early
  · exact second.harmless hazard late

/-- The slice around a part of a text is the part. -/
theorem yields_slice (before part after : List Char) {text : List Char} {first last : Nat}
    (whole : text = before ++ part ++ after) (start : first = Text.width before)
    (stop : last = Text.width (before ++ part)) : (slice text first last).Yields part := by
  subst whole start stop
  refine ⟨Text.slice?_append before part after, fun hazard member => ?_⟩
  obtain rfl := List.mem_singleton.mp member
  refine ⟨?_, ?_, Text.isBoundary_append _ _⟩
  · rw [Text.width_append]
    exact Nat.le_add_right _ _
  · rw [List.append_assoc]
    exact Text.isBoundary_append _ _

theorem Yields.descend {outer inner : List Char} {written : Attempt (List Char)}
    {value : List Char} (shorter : Text.width inner < Text.width outer)
    (yields : written.Yields value) : (Attempt.descend outer inner written).Yields value where
  result := yields.result
  harmless := by
    intro hazard member
    rcases List.mem_cons.mp member with rfl | later
    · exact shorter
    · exact yields.harmless hazard later

end Attempt

end FluentSql
