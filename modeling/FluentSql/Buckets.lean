import FluentSql.Bind
import FluentSql.Fault
import FluentSql.Items

/-!
# Buckets of bound values

A query sorts its bound values into six buckets by the part of the statement that they
belong to. `Buckets.flatten` lists them in the order in which the parts stand in a
statement. Buckets are independent: what is done to one is not seen in another.
-/

namespace FluentSql

/-- The parts of a statement that bind values. -/
inductive Bucket where
  | select
  | join
  | filter
  | having
  | order
  | inserts
deriving DecidableEq, Repr

namespace Bucket

/-- All buckets in the order in which they are flattened. -/
def all : List Bucket := [select, join, filter, having, order, inserts]

/-- The name of a bucket. -/
def name : Bucket → String
  | select => "select"
  | join => "join"
  | filter => "where"
  | having => "having"
  | order => "order"
  | inserts => "inserts"

/-- The bucket of a name. -/
def ofName? (name : String) : Except Fault Bucket :=
  match all.find? fun bucket => bucket.name = name with
  | some bucket => .ok bucket
  | none => .error (.unknownBucket name)

end Bucket

/-- The bound values of a query. -/
structure Buckets where
  select : Items Bind
  join : Items Bind
  filter : Items Bind
  having : Items Bind
  order : Items Bind
  inserts : Items Bind
deriving DecidableEq, Repr

namespace Buckets

/-- Six empty buckets. -/
def empty : Buckets := ⟨.none, .none, .none, .none, .none, .none⟩

instance : Inhabited Buckets := ⟨empty⟩

/-- The values of one bucket. -/
def get (buckets : Buckets) : Bucket → Items Bind
  | .select => buckets.select
  | .join => buckets.join
  | .filter => buckets.filter
  | .having => buckets.having
  | .order => buckets.order
  | .inserts => buckets.inserts

/-- Replace the values of one bucket. -/
def set (buckets : Buckets) (bucket : Bucket) (values : Items Bind) : Buckets :=
  match bucket with
  | .select => { buckets with select := values }
  | .join => { buckets with join := values }
  | .filter => { buckets with filter := values }
  | .having => { buckets with having := values }
  | .order => { buckets with order := values }
  | .inserts => { buckets with inserts := values }

/-- Add values to the end of one bucket. -/
def add (buckets : Buckets) (bucket : Bucket) (values : Items Bind) : Buckets :=
  buckets.set bucket (buckets.get bucket ++ values)

/-- Empty one bucket. -/
def clear (buckets : Buckets) (bucket : Bucket) : Buckets := buckets.set bucket .none

/-- Take the values of one bucket out of it. -/
def take (buckets : Buckets) (bucket : Bucket) : Items Bind × Buckets :=
  (buckets.get bucket, buckets.clear bucket)

/-- Take the values out of every bucket in turn. -/
def takeAll (buckets : Buckets) : Items Bind × Buckets :=
  Bucket.all.foldl (fun taken bucket =>
    let (values, rest) := taken.2.take bucket
    (taken.1 ++ values, rest)) (.none, buckets)

/-- All values in the order of the buckets, held as one group of items. -/
def gathered (buckets : Buckets) : Items Bind :=
  Bucket.all.foldl (fun values bucket => values ++ buckets.get bucket) .none

/-- All values in the order of the buckets. -/
def flatten (buckets : Buckets) : List Bind :=
  Bucket.all.flatMap fun bucket => (buckets.get bucket).toList

/-- The number of values, counted bucket by bucket. -/
def size (buckets : Buckets) : Nat :=
  Bucket.all.foldl (fun count bucket => count + (buckets.get bucket).size) 0

@[simp] theorem get_set (buckets : Buckets) (bucket : Bucket) (values : Items Bind) :
    (buckets.set bucket values).get bucket = values := by
  cases bucket <;> rfl

/-- Replacing one bucket leaves the others alone. -/
theorem get_set_of_ne (buckets : Buckets) {bucket other : Bucket} (different : other ≠ bucket)
    (values : Items Bind) : (buckets.set bucket values).get other = buckets.get other := by
  cases bucket <;> cases other <;> first | rfl | exact absurd rfl different

/-- Buckets with the same values are equal. -/
@[ext] theorem ext {left right : Buckets} (same : ∀ bucket, left.get bucket = right.get bucket) :
    left = right := by
  cases left
  cases right
  have select := same .select
  have join := same .join
  have filter := same .filter
  have having := same .having
  have order := same .order
  have inserts := same .inserts
  simp_all [get]

/-- The gathered items are the flattened values. -/
@[simp] theorem toList_gathered (buckets : Buckets) :
    buckets.gathered.toList = buckets.flatten := by
  simp [gathered, flatten, Bucket.all]

/-- As many values are counted as are listed. -/
theorem size_eq (buckets : Buckets) : buckets.size = buckets.flatten.length := by
  simp only [size, flatten, Bucket.all, List.foldl_cons, List.foldl_nil, List.flatMap_cons,
    List.flatMap_nil, List.length_append, List.length_nil, Items.size_eq]
  omega

/-- Taking all values out hands out the gathered ones and leaves six empty buckets. -/
theorem takeAll_eq (buckets : Buckets) : buckets.takeAll = (buckets.gathered, .empty) := rfl

/-- The values of a query whose buckets are empty. -/
@[simp] theorem flatten_empty : empty.flatten = [] := rfl

end Buckets

end FluentSql
