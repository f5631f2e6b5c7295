/-!
# Items

A list of arguments that is most often empty or has one member. How the items are
held (`none`, `one`, `many`) is part of the value and can be seen, but carries no
meaning of its own: the meaning is the list `toList`, and the laws say that every
operation is the list operation of its name. `many` may hold any number of items.
-/

namespace FluentSql

universe u v

/-- No item, one item or a list of items. -/
inductive Items (α : Type u) where
  | none
  | one (item : α)
  | many (items : List α)
deriving DecidableEq, Repr

namespace Items

variable {α : Type u} {β : Type v}

instance : Inhabited (Items α) := ⟨.none⟩

/-- The items in order. -/
def toList : Items α → List α
  | .none => []
  | .one item => [item]
  | .many items => items

/-- Some items, held in the smallest way. -/
def ofList : List α → Items α
  | [] => .none
  | [item] => .one item
  | items => .many items

/-- Add items at the end. An empty side that is held as `none` leaves the other side
as it is held. -/
def append : Items α → Items α → Items α
  | .none, added => added
  | items, .none => items
  | .one first, .one second => .many [first, second]
  | .one first, .many rest => .many (first :: rest)
  | .many items, .one last => .many (items ++ [last])
  | .many items, .many rest => .many (items ++ rest)

instance : Append (Items α) := ⟨append⟩

/-- Add one item at the end. -/
def push (items : Items α) (item : α) : Items α := items ++ .one item

/-- The number of items. -/
def size : Items α → Nat
  | .none => 0
  | .one _ => 1
  | .many items => items.length

/-- Whether there is no item. -/
def isEmpty (items : Items α) : Bool := items.size = 0

/-- The first item. -/
def head? : Items α → Option α
  | .none => Option.none
  | .one item => some item
  | .many items => items.head?

/-- Change every item, held as before. -/
def map (change : α → β) : Items α → Items β
  | .none => .none
  | .one item => .one (change item)
  | .many items => .many (items.map change)

@[simp] theorem toList_none : (Items.none : Items α).toList = [] := rfl

@[simp] theorem toList_one (item : α) : (Items.one item).toList = [item] := rfl

@[simp] theorem toList_many (items : List α) : (Items.many items).toList = items := rfl

@[simp] theorem toList_ofList (items : List α) : (ofList items).toList = items := by
  unfold ofList
  split <;> rfl

theorem size_eq (items : Items α) : items.size = items.toList.length := by
  cases items <;> rfl

theorem isEmpty_eq (items : Items α) : items.isEmpty = items.toList.isEmpty := by
  rw [isEmpty, size_eq]
  cases items.toList <;> rfl

theorem head?_eq (items : Items α) : items.head? = items.toList.head? := by
  cases items <;> rfl

/-- Appending appends the lists, however the items are held. -/
@[simp] theorem toList_append (items added : Items α) :
    (items ++ added).toList = items.toList ++ added.toList := by
  change (append items added).toList = _
  cases items <;> cases added <;> simp [append]

@[simp] theorem toList_push (items : Items α) (item : α) :
    (items.push item).toList = items.toList ++ [item] := by
  simp [push]

@[simp] theorem toList_map (change : α → β) (items : Items α) :
    (items.map change).toList = items.toList.map change := by
  cases items <;> rfl

end Items

end FluentSql
