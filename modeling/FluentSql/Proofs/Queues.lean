import FluentSql.Buckets

/-!
# Buckets are queues of their own

Values are added to a bucket, replaced in it or taken out of it. A run of such edits, whichever
buckets they are about, does to each bucket what the edits of that bucket alone do to a queue
(`Buckets.runQueueAll_belonging`). So edits can be made in any order that keeps the order within
each bucket (`Buckets.runAll_congr`), and two edits of different buckets in either order.
-/

namespace FluentSql

namespace Bucket

/-! ## Names -/

/-- A bucket is found under its name, and no other name finds it. -/
theorem ofName?_eq_ok_iff {name : String} {bucket : Bucket} :
    ofName? name = .ok bucket ↔ bucket.name = name := by
  constructor
  · intro found
    rw [ofName?] at found
    split at found
    · rename_i first search
      have named := List.find?_some search
      obtain rfl := Except.ok.inj found
      exact of_decide_eq_true named
    · cases found
  · rintro rfl
    cases bucket <;> rfl

/-- The names that find a bucket are those of the six. -/
theorem exists_ofName?_iff {name : String} :
    (∃ bucket, ofName? name = .ok bucket) ↔ name ∈ all.map Bucket.name := by
  rw [List.mem_map]
  constructor
  · rintro ⟨bucket, found⟩
    exact ⟨bucket, by cases bucket <;> decide, ofName?_eq_ok_iff.mp found⟩
  · rintro ⟨bucket, -, named⟩
    exact ⟨bucket, ofName?_eq_ok_iff.mpr named⟩

/-! ## What belongs to a bucket -/

variable {α : Type} {bucket subject : Bucket}

/-- What a list marks with a bucket, in order. -/
def belonging (bucket : Bucket) (marked : List (Bucket × α)) : List α :=
  marked.filterMap fun entry => if entry.1 = bucket then some entry.2 else none

theorem belonging_append (front back : List (Bucket × α)) :
    bucket.belonging (front ++ back) = bucket.belonging front ++ bucket.belonging back :=
  List.filterMap_append

theorem belonging_cons_self (value : α) (later : List (Bucket × α)) :
    bucket.belonging ((bucket, value) :: later) = value :: bucket.belonging later := by
  simp [belonging]

theorem belonging_cons_of_ne (different : subject ≠ bucket) (value : α)
    (later : List (Bucket × α)) :
    bucket.belonging ((subject, value) :: later) = bucket.belonging later := by
  simp [belonging, different]

theorem belonging_map_self (values : List α) :
    bucket.belonging (values.map (bucket, ·)) = values := by
  induction values with
  | nil => rfl
  | cons value later inductionHypothesis =>
    rw [List.map_cons, belonging_cons_self, inductionHypothesis]

theorem belonging_map_of_ne (different : subject ≠ bucket) (values : List α) :
    bucket.belonging (values.map (subject, ·)) = [] := by
  induction values with
  | nil => rfl
  | cons value later inductionHypothesis =>
    rw [List.map_cons, belonging_cons_of_ne different, inductionHypothesis]

/-- Neighbours that are marked with different buckets can change places. -/
theorem belonging_swap (bucket : Bucket) {first second : Bucket × α}
    (different : first.1 ≠ second.1) (front back : List (Bucket × α)) :
    bucket.belonging (front ++ second :: first :: back) =
      bucket.belonging (front ++ first :: second :: back) := by
  obtain ⟨one, value⟩ := first
  obtain ⟨other, another⟩ := second
  rw [belonging_append, belonging_append]
  congr 1
  by_cases isFirst : one = bucket
  · subst isFirst
    rw [belonging_cons_of_ne (Ne.symm different), belonging_cons_self, belonging_cons_self,
      belonging_cons_of_ne (Ne.symm different)]
  · rw [belonging_cons_of_ne isFirst]
    by_cases isSecond : other = bucket
    · subst isSecond
      rw [belonging_cons_self, belonging_cons_self, belonging_cons_of_ne isFirst]
    · rw [belonging_cons_of_ne isSecond, belonging_cons_of_ne isSecond,
        belonging_cons_of_ne isFirst]

end Bucket

/-! ## Edits -/

namespace Buckets

/-- An edit of one bucket. -/
inductive Edit where
  | add (values : Items Bind)
  | set (values : Items Bind)
  /-- Hand out all values. -/
  | take
deriving DecidableEq, Repr

namespace Edit

/-- What an edit of a bucket hands out, if anything, and the buckets after it. -/
def run (edit : Edit) (bucket : Bucket) (buckets : Buckets) : Option (Items Bind) × Buckets :=
  match edit with
  | add values => (none, buckets.add bucket values)
  | set values => (none, buckets.set bucket values)
  | take =>
    let (values, left) := buckets.take bucket
    (some values, left)

/-- What the same edit of a queue hands out, if anything, and the queue after it. -/
def runQueue (edit : Edit) (queue : Items Bind) : Option (Items Bind) × Items Bind :=
  match edit with
  | add values => (none, queue ++ values)
  | set values => (none, values)
  | take => (some queue, .none)

/-- What some edits of a queue hand out, in order, and the queue after them. -/
def runQueueAll : List Edit → Items Bind → List (Items Bind) × Items Bind
  | [], queue => ([], queue)
  | edit :: rest, queue =>
    let (handed?, queue) := edit.runQueue queue
    let (later, queue) := runQueueAll rest queue
    (handed?.toList ++ later, queue)

theorem runQueueAll_cons (edit : Edit) (rest : List Edit) (queue : Items Bind) :
    runQueueAll (edit :: rest) queue =
      ((edit.runQueue queue).1.toList ++ (runQueueAll rest (edit.runQueue queue).2).1,
        (runQueueAll rest (edit.runQueue queue).2).2) := rfl

variable (edit : Edit) (buckets : Buckets) {bucket other : Bucket}

/-- An edit does to its bucket what it does to a queue. -/
theorem runQueue_get : edit.runQueue (buckets.get bucket) =
    ((edit.run bucket buckets).1, (edit.run bucket buckets).2.get bucket) := by
  cases edit with
  | add values => exact congrArg (none, ·) (get_set buckets bucket _).symm
  | set values => exact congrArg (none, ·) (get_set buckets bucket _).symm
  | take => exact congrArg (some _, ·) (get_set buckets bucket _).symm

/-- An edit leaves the other buckets alone. -/
theorem get_run_of_ne (different : other ≠ bucket) :
    (edit.run bucket buckets).2.get other = buckets.get other := by
  cases edit with
  | add values => exact get_set_of_ne buckets different _
  | set values => exact get_set_of_ne buckets different _
  | take => exact get_set_of_ne buckets different _

end Edit

/-! ## Runs -/

/-- What some edits hand out, in order and each with its bucket, and the buckets after them. -/
def runAll : List (Bucket × Edit) → Buckets → List (Bucket × Items Bind) × Buckets
  | [], buckets => ([], buckets)
  | (bucket, edit) :: rest, buckets =>
    let (handed?, buckets) := edit.run bucket buckets
    let (later, buckets) := runAll rest buckets
    (handed?.toList.map (bucket, ·) ++ later, buckets)

variable (buckets : Buckets) {edits others : List (Bucket × Edit)}

theorem runAll_cons (bucket : Bucket) (edit : Edit) (rest : List (Bucket × Edit)) :
    runAll ((bucket, edit) :: rest) buckets =
      ((edit.run bucket buckets).1.toList.map (bucket, ·) ++
          (runAll rest (edit.run bucket buckets).2).1,
        (runAll rest (edit.run bucket buckets).2).2) := rfl

/-- A run hands out of a bucket and leaves in it what the edits of that bucket alone make of its
values. -/
theorem runQueueAll_belonging (bucket : Bucket) (edits : List (Bucket × Edit)) :
    Edit.runQueueAll (bucket.belonging edits) (buckets.get bucket) =
      (bucket.belonging (runAll edits buckets).1, (runAll edits buckets).2.get bucket) := by
  induction edits generalizing buckets with
  | nil => rfl
  | cons first rest inductionHypothesis =>
    obtain ⟨subject, edit⟩ := first
    have later := inductionHypothesis (edit.run subject buckets).2
    rw [runAll_cons, Bucket.belonging_append]
    by_cases mine : subject = bucket
    · subst mine
      rw [Bucket.belonging_cons_self, Edit.runQueueAll_cons, edit.runQueue_get buckets, later,
        Bucket.belonging_map_self]
    · rw [edit.get_run_of_ne buckets (Ne.symm mine)] at later
      rw [Bucket.belonging_cons_of_ne mine, later, Bucket.belonging_map_of_ne mine, List.nil_append]

/-- Two runs of edits come to the same buckets, and hand the same out of each of them. -/
structure RunsAgree (edits others : List (Bucket × Edit)) : Prop where
  left : (runAll others buckets).2 = (runAll edits buckets).2
  handed : ∀ bucket : Bucket,
    bucket.belonging (runAll others buckets).1 = bucket.belonging (runAll edits buckets).1

/-- Edits may be made in any order that keeps the order within each bucket. -/
theorem runAll_congr
    (same : ∀ bucket : Bucket, bucket.belonging others = bucket.belonging edits) :
    RunsAgree buckets edits others := by
  have shares : ∀ bucket : Bucket,
      (bucket.belonging (runAll others buckets).1, (runAll others buckets).2.get bucket) =
        (bucket.belonging (runAll edits buckets).1, (runAll edits buckets).2.get bucket) := by
    intro bucket
    rw [← runQueueAll_belonging, ← runQueueAll_belonging, same bucket]
  exact ⟨ext fun bucket => (Prod.mk.inj (shares bucket)).2,
    fun bucket => (Prod.mk.inj (shares bucket)).1⟩

/-- The buckets do not meet in a run of edits. -/
structure Separate (edits : List (Bucket × Edit)) : Prop where
  /-- What comes of a bucket comes of the edits of that bucket alone. -/
  alone : ∀ bucket : Bucket,
    Edit.runQueueAll (bucket.belonging edits) (buckets.get bucket) =
      (bucket.belonging (runAll edits buckets).1, (runAll edits buckets).2.get bucket)
  /-- Two edits of different buckets that follow each other can change places. -/
  swapped : ∀ (front back : List (Bucket × Edit)) (first second : Bucket × Edit),
    edits = front ++ first :: second :: back → first.1 ≠ second.1 →
      RunsAgree buckets edits (front ++ second :: first :: back)

/-- A run of edits treats each bucket as a queue of its own. After it the values are listed bucket
by bucket in one order, as many as are counted, and taken out together they are those that were
listed. A bucket is found under its own name only, and the names are six. -/
theorem queues_flattened (edits : List (Bucket × Edit)) :
    let after := (runAll edits buckets).2
    Separate buckets edits ∧
    after.flatten =
      (after.get .select).toList ++ (after.get .join).toList ++ (after.get .filter).toList ++
        (after.get .having).toList ++ (after.get .order).toList ++ (after.get .inserts).toList ∧
    after.flatten.length = after.size ∧
    after.takeAll.1.toList = after.flatten ∧
    (∀ bucket, after.takeAll.2.get bucket = .none) ∧
    ∀ name,
      (∀ bucket, Bucket.ofName? name = .ok bucket ↔ bucket.name = name) ∧
      ((∃ bucket, Bucket.ofName? name = .ok bucket) ↔
        name ∈ ["select", "join", "where", "having", "order", "inserts"]) := by
  intro after
  refine ⟨⟨fun bucket => runQueueAll_belonging buckets bucket edits, ?_⟩, ?_, after.size_eq.symm,
    ?_, ?_, fun name => ⟨fun _ => Bucket.ofName?_eq_ok_iff, Bucket.exists_ofName?_iff⟩⟩
  · rintro front back first second rfl different
    exact runAll_congr buckets fun bucket => bucket.belonging_swap different front back
  · simp [flatten, Bucket.all]
  · rw [takeAll_eq, toList_gathered]
  · intro bucket
    rw [takeAll_eq]
    cases bucket <;> rfl

/-- Values are added to one bucket and taken out of it while another one is filled. -/
theorem queues_flattened_mixed :
    let two : Items Bind := .many [.null, .bool true]
    let edits := [(.order, .add two), (.select, .set two), (.order, .take), (.order, .add two)]
    let after := (runAll edits empty).2
    (.order : Bucket) ≠ .select ∧
    RunsAgree empty edits
      [(.select, .set two), (.order, .add two), (.order, .take), (.order, .add two)] ∧
    Edit.runQueueAll [.add two, .take, .add two] .none = ([two], two) ∧
    after.get .order = two ∧ after.size = 4 ∧ after.takeAll.1.toList = after.flatten := by
  intro two edits after
  obtain ⟨separate, -, counted, taken, -, -⟩ := queues_flattened empty edits
  have different : (.order : Bucket) ≠ .select := by decide
  have left := (Prod.mk.inj (separate.alone .order)).2
  exact ⟨different, separate.swapped [] _ _ _ rfl different, rfl, left.symm, counted.symm, taken⟩

end Buckets

end FluentSql
