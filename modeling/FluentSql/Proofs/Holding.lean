import FluentSql.Items

/-!
# How items are held

Items are held as none, as one or as many, and `many` may hold any number of them. Edits
follow the edits of lists (`Items.follows_runAll`): whatever is appended, taken out or
converted, and however it was held, what is handed out and what is left are the items of
the lists, in order and each as often. The compact form forgets how items are held and
nothing else (`Items.compact_eq_iff`).
-/

namespace FluentSql.Items

universe u

variable {α : Type u}

/-- The items are those of a list, whatever they are asked. -/
structure Shows (items : Items α) (list : List α) : Prop where
  toList : items.toList = list
  size : items.size = list.length
  isEmpty : items.isEmpty = list.isEmpty
  head? : items.head? = list.head?

/-- All that items can be asked is what their list can be asked. -/
theorem shows_iff {items : Items α} {list : List α} :
    items.Shows list ↔ items.toList = list := by
  constructor
  · exact Shows.toList
  · rintro rfl
    exact ⟨rfl, items.size_eq, items.isEmpty_eq, items.head?_eq⟩

/-! ## Edits -/

/-- An edit of some items. -/
inductive Edit (α : Type u) where
  | append (added : Items α)
  | push (item : α)
  /-- Hand out all items. -/
  | take
  /-- Give up all items. -/
  | reset
  /-- Hold the items of a list in place of the items. -/
  | convert (list : List α)
  /-- Make a list of the items and hold the items of that list. -/
  | reconvert

namespace Edit

/-- What an edit hands out, if anything, and the items after it. -/
def run : Edit α → Items α → Option (Items α) × Items α
  | append added, items => (Option.none, items ++ added)
  | push item, items => (Option.none, items.push item)
  | take, items => (some items, .none)
  | reset, _ => (Option.none, .none)
  | convert list, _ => (Option.none, ofList list)
  | reconvert, items => (Option.none, ofList items.toList)

/-- What the same edit of a list hands out, if anything, and the list after it. -/
def runList : Edit α → List α → Option (List α) × List α
  | append added, list => (Option.none, list ++ added.toList)
  | push item, list => (Option.none, list ++ [item])
  | take, list => (some list, [])
  | reset, _ => (Option.none, [])
  | convert list, _ => (Option.none, list)
  | reconvert, list => (Option.none, list)

/-- What some edits hand out, in order, and the items after them. -/
def runAll : List (Edit α) → Items α → List (Items α) × Items α
  | [], items => ([], items)
  | edit :: rest, items =>
    let (handed?, items) := edit.run items
    let (later, items) := runAll rest items
    (handed?.toList ++ later, items)

/-- What the same edits of a list hand out, in order, and the list after them. -/
def runListAll : List (Edit α) → List α → List (List α) × List α
  | [], list => ([], list)
  | edit :: rest, list =>
    let (handed?, list) := edit.runList list
    let (later, list) := runListAll rest list
    (handed?.toList ++ later, list)

/-- An edit does to items what it does to their list. -/
theorem toList_run (edit : Edit α) (items : Items α) :
    (edit.run items).1.map toList = (edit.runList items.toList).1 ∧
      (edit.run items).2.toList = (edit.runList items.toList).2 := by
  cases edit with
  | append added => exact ⟨rfl, toList_append items added⟩
  | push item => exact ⟨rfl, toList_push items item⟩
  | take => exact ⟨rfl, rfl⟩
  | reset => exact ⟨rfl, rfl⟩
  | convert list => exact ⟨rfl, toList_ofList list⟩
  | reconvert => exact ⟨rfl, toList_ofList items.toList⟩

end Edit

/-- Two runs of edits, of items and of a list, handed out the same and hold the same. -/
structure Follows (held : List (Items α) × Items α) (plain : List (List α) × List α) :
    Prop where
  handed : held.1.map toList = plain.1
  left : held.2.Shows plain.2

/-- Edits of items follow the edits of their list, however the items and those that are
added are held. -/
theorem follows_runAll (edits : List (Edit α)) (items : Items α) :
    Follows (Edit.runAll edits items) (Edit.runListAll edits items.toList) := by
  induction edits generalizing items with
  | nil => exact ⟨rfl, shows_iff.mpr rfl⟩
  | cons edit rest inductionHypothesis =>
    obtain ⟨handed, left⟩ := edit.toList_run items
    have later := inductionHypothesis (edit.run items).2
    rw [left] at later
    refine ⟨?_, later.left⟩
    have first : (edit.run items).1.toList.map toList =
        (edit.runList items.toList).1.toList := by
      rw [← handed]
      cases (edit.run items).1 <;> rfl
    simp only [Edit.runAll, Edit.runListAll, List.map_append, first, later.handed]

/-! ## The compact form -/

/-- The same items, held in the smallest way. -/
def compact (items : Items α) : Items α := ofList items.toList

@[simp] theorem toList_compact (items : Items α) : items.compact.toList = items.toList :=
  toList_ofList items.toList

/-- The compact form forgets how items are held, and nothing else. -/
theorem compact_eq_iff {items twin : Items α} :
    items.compact = twin.compact ↔ items.toList = twin.toList := by
  constructor
  · intro same
    simpa using congrArg toList same
  · exact congrArg ofList

@[simp] theorem compact_compact (items : Items α) : items.compact.compact = items.compact :=
  compact_eq_iff.mpr items.toList_compact

@[simp] theorem size_compact (items : Items α) : items.compact.size = items.size := by
  rw [size_eq, size_eq, toList_compact]

@[simp] theorem isEmpty_compact (items : Items α) : items.compact.isEmpty = items.isEmpty := by
  rw [isEmpty_eq, isEmpty_eq, toList_compact]

/-- Items are appended alike to items that are alike. -/
theorem compact_append (items added : Items α) :
    (items.compact ++ added.compact).compact = (items ++ added).compact := by
  apply compact_eq_iff.mpr
  simp only [toList_append, toList_compact]

end FluentSql.Items
