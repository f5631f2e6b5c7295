/-!
# Dictionaries in order of first insertion

A dictionary has each key at most once. Writing to a key that is present keeps its
place and replaces its value; a new key goes to the end. Removing a key leaves the
order of the others as it was. The laws say what each operation does to the list of
keys and to look-up.
-/

namespace FluentSql

universe u

namespace Dictionary

/-- Replace the value of a key in place, or add the pair at the end. -/
def upsert {α : Type u} (key : String) (value : α) : List (String × α) → List (String × α)
  | [] => [(key, value)]
  | entry :: rest =>
    if entry.1 = key then (key, value) :: rest else entry :: upsert key value rest

/-- Writing to a key that is present keeps the keys; a new key becomes the last one. -/
theorem keys_upsert {α : Type u} (key : String) (value : α) (entries : List (String × α)) :
    (upsert key value entries).map Prod.fst =
      if key ∈ entries.map Prod.fst then entries.map Prod.fst
      else entries.map Prod.fst ++ [key] := by
  induction entries with
  | nil => simp [upsert]
  | cons entry rest inductionHypothesis =>
    by_cases same : entry.1 = key
    · simp [upsert, same]
    · have different : ¬ key = entry.1 := fun equal => same equal.symm
      simp only [upsert, same, if_false, List.map_cons, List.mem_cons, different, false_or,
        inductionHypothesis]
      split <;> simp

/-- No key comes twice after a write. -/
theorem nodup_upsert {α : Type u} (key : String) (value : α) {entries : List (String × α)}
    (distinct : (entries.map Prod.fst).Nodup) :
    ((upsert key value entries).map Prod.fst).Nodup := by
  rw [keys_upsert]
  split
  · exact distinct
  · rename_i new
    exact List.nodup_append.mpr ⟨distinct, by simp, fun name member other last => by
      rw [List.mem_singleton] at last
      subst last
      intro equal
      exact new (equal ▸ member)⟩

/-- The pair that is written is found at its key, any other pair where it was. -/
theorem find?_upsert {α : Type u} (key other : String) (value : α)
    (entries : List (String × α)) :
    ((upsert key value entries).find? fun entry => entry.1 = other) =
      if key = other then some (key, value) else entries.find? fun entry => entry.1 = other := by
  induction entries with
  | nil => by_cases here : key = other <;> simp [upsert, here]
  | cons entry rest inductionHypothesis =>
    by_cases same : entry.1 = key
    · subst same
      by_cases here : entry.1 = other <;> simp [upsert, here]
    · by_cases there : entry.1 = other
      · subst there
        have different : ¬ key = entry.1 := fun equal => same equal.symm
        simp [upsert, same, different]
      · simp [upsert, same, there, inductionHypothesis]

end Dictionary

/-- Pairs of keys and values, each key once, in order of first insertion. -/
structure Dictionary (α : Type u) where
  entries : List (String × α)
  distinct : (entries.map Prod.fst).Nodup

namespace Dictionary

variable {α : Type u}

/-- The dictionary without keys. -/
def empty : Dictionary α := ⟨[], List.nodup_nil⟩

instance : Inhabited (Dictionary α) := ⟨empty⟩

instance [DecidableEq α] : DecidableEq (Dictionary α) := fun left right =>
  if same : left.entries = right.entries then
    isTrue (by cases left; cases right; subst same; rfl)
  else isFalse fun equal => same (congrArg entries equal)

/-- The keys in order. -/
def keys (dictionary : Dictionary α) : List String := dictionary.entries.map Prod.fst

/-- The values in the order of their keys. -/
def values (dictionary : Dictionary α) : List α := dictionary.entries.map Prod.snd

/-- The number of keys. -/
def size (dictionary : Dictionary α) : Nat := dictionary.entries.length

/-- Whether there is no key. -/
def isEmpty (dictionary : Dictionary α) : Bool := dictionary.entries.isEmpty

/-- Write a value to a key. -/
def insert (key : String) (value : α) (dictionary : Dictionary α) : Dictionary α :=
  ⟨upsert key value dictionary.entries, nodup_upsert key value dictionary.distinct⟩

/-- The value of a key. -/
def get? (key : String) (dictionary : Dictionary α) : Option α :=
  (dictionary.entries.find? fun entry => entry.1 = key).map Prod.snd

/-- The pair at a position. -/
def entry? (index : Nat) (dictionary : Dictionary α) : Option (String × α) :=
  dictionary.entries[index]?

/-- Remove a key; the other keys keep their order. -/
def erase (key : String) (dictionary : Dictionary α) : Dictionary α :=
  ⟨dictionary.entries.filter fun entry => entry.1 ≠ key,
    List.Nodup.sublist (List.filter_sublist.map Prod.fst) dictionary.distinct⟩

/-- The dictionary written by some pairs, one after the other. -/
def ofList (pairs : List (String × α)) : Dictionary α :=
  pairs.foldl (fun dictionary pair => dictionary.insert pair.1 pair.2) empty

/-- Dictionaries with the same pairs in the same order are equal. -/
@[ext] theorem ext {left right : Dictionary α} (same : left.entries = right.entries) :
    left = right := by
  cases left
  cases right
  subst same
  rfl

@[simp] theorem keys_empty : (empty : Dictionary α).keys = [] := rfl

theorem length_keys (dictionary : Dictionary α) : dictionary.keys.length = dictionary.size :=
  List.length_map _

theorem length_values (dictionary : Dictionary α) :
    dictionary.values.length = dictionary.size := List.length_map _

/-- A write to a new key adds it at the end, any other write keeps the keys. -/
theorem keys_insert (key : String) (value : α) (dictionary : Dictionary α) :
    (dictionary.insert key value).keys =
      if key ∈ dictionary.keys then dictionary.keys else dictionary.keys ++ [key] :=
  keys_upsert key value dictionary.entries

/-- A write is read back at its key and is not seen at any other. -/
theorem get?_insert (key other : String) (value : α) (dictionary : Dictionary α) :
    (dictionary.insert key value).get? other =
      if key = other then some value else dictionary.get? other := by
  have found := find?_upsert key other value dictionary.entries
  rw [get?, insert, found]
  by_cases here : key = other
  · rw [if_pos here, if_pos here]
    rfl
  · rw [if_neg here, if_neg here]
    rfl

/-! ## Writing pairs one after the other -/

/-- A dictionary has a key for each text at the front of some pairs, in order of first
appearance, and at each key what stands in the last of its pairs. -/
structure KeepsLast (dictionary : Dictionary α) (pairs : List (String × α)) : Prop where
  keys : dictionary.keys = (pairs.map Prod.fst).eraseDups
  last : ∀ key, dictionary.get? key =
    (pairs.filter fun pair => pair.1 = key).getLast?.map Prod.snd

theorem keepsLast_empty : (empty : Dictionary α).KeepsLast [] := ⟨rfl, fun _ => rfl⟩

/-- One more write is one more pair. -/
theorem KeepsLast.insert {dictionary : Dictionary α} {pairs : List (String × α)}
    (keeps : dictionary.KeepsLast pairs) (key : String) (value : α) :
    (dictionary.insert key value).KeepsLast (pairs ++ [(key, value)]) where
  keys := by
    rw [keys_insert, keeps.keys, List.map_append, List.eraseDups_append]
    by_cases known : key ∈ pairs.map Prod.fst
    · rw [if_pos (List.mem_eraseDups.mpr known)]
      simp [List.removeAll, known]
    · rw [if_neg fun old => known (List.mem_eraseDups.mp old)]
      simp [List.removeAll, known, List.eraseDups_cons]
  last other := by
    rw [get?_insert, keeps.last, List.filter_append]
    by_cases here : key = other
    · simp [here]
    · simp [here]

/-- Pairs that are written one after the other. -/
theorem keepsLast_ofList (pairs : List (String × α)) : (ofList pairs).KeepsLast pairs := by
  have later : ∀ (written : List (String × α)) (dictionary : Dictionary α),
      dictionary.KeepsLast written →
      (pairs.foldl (fun dictionary pair => dictionary.insert pair.1 pair.2) dictionary).KeepsLast
        (written ++ pairs) := by
    induction pairs with
    | nil =>
      intro written dictionary keeps
      rw [List.append_nil]
      exact keeps
    | cons pair rest inductionHypothesis =>
      intro written dictionary keeps
      rw [List.foldl_cons, List.append_cons]
      exact inductionHypothesis _ _ (keeps.insert pair.1 pair.2)
  exact later [] empty keepsLast_empty

end Dictionary

end FluentSql
