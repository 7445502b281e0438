import RinaSense.Common.HashTabCapacity

/-!
# Iterators of hash tables

An iterator selects the next entry before it gives out the current one, so that this one
may be deleted. What an iterator is still to give out is the rest of a bucket and the
buckets after it, and a visit of the current entry does not change that.
-/

namespace RinaSense

/-- `htIterator_t` without its table. -/
structure HtIterator where
  pxNext : Option HtPlace
  ulBucket : Nat
  deriving Repr, DecidableEq

/-- What is done with an entry that is given out: it is kept, deleted by its key or deleted
by its pointer. -/
inductive HtVisit where
  | keep
  | delete
  | entryDelete
  deriving Repr, DecidableEq

namespace HashTab

variable {κ ν : Type}

/-- The buckets are passed until one of them has a next entry. -/
def prvNextentry (table : HashTab κ ν) (it : HtIterator) : Except HashTabFault HtIterator :=
  if it.ulBucket < table.ulBucketCount.toNat then
    match it.pxNext.bind table.xLinks.next with
    | none => .error .nullPointer
    | some next =>
        if next ≠ .bucket it.ulBucket then .ok { it with pxNext := some next }
        else if it.ulBucket + 1 < table.ulBucketCount.toNat then
          table.prvNextentry { pxNext := some (.bucket (it.ulBucket + 1)),
                               ulBucket := it.ulBucket + 1 }
        else table.prvNextentry { pxNext := some next, ulBucket := it.ulBucket + 1 }
  else .ok { it with pxNext := none }
termination_by table.ulBucketCount.toNat - it.ulBucket

def vHtInitIterator (table : HashTab κ ν) : Except HashTabFault HtIterator :=
  table.prvNextentry { pxNext := some (.bucket 0), ulBucket := 0 }

def pxHtIteratorNext (table : HashTab κ ν) (it : HtIterator) :
    Except HashTabFault (Option HtPlace × HtIterator) := do
  return (it.pxNext, ← table.prvNextentry it)

variable [HtKey κ] [DecidableEq κ]

def visit (table : HashTab κ ν) (entry : HtPlace) : HtVisit → Except HashTabFault (HashTab κ ν)
  | .keep => .ok table
  | .delete =>
      match table.key entry with
      | some key => do return (← table.iHtISDelete key).1
      | none => .error .nullPointer
  | .entryDelete => .ok (table.vHtEDelete entry)

/-- Visit entries until the iterator gives out none. What is done with an entry may depend
on those visited before. -/
def walk (visitor : List HtPlace → HtPlace → HtVisit) :
    Nat → List HtPlace → HashTab κ ν → HtIterator → Except HashTabFault (List HtPlace × HashTab κ ν)
  | 0, _, _, _ => .error .lost
  | fuel + 1, visited, table, it => do
      match ← table.pxHtIteratorNext it with
      | (none, _) => return (visited, table)
      | (some entry, it) =>
          walk visitor fuel (visited ++ [entry])
            (← table.visit entry (visitor visited entry)) it

/-- `htFOREACH`. -/
def foreach (visitor : List HtPlace → HtPlace → HtVisit) (fuel : Nat) (table : HashTab κ ν) :
    Except HashTabFault (List HtPlace × HashTab κ ν) := do
  walk visitor fuel [] table (← table.vHtInitIterator)

end HashTab

/-! ## What is still to be visited -/

namespace HashTab

variable {κ ν : Type} [HtKey κ]

/-- The entries of a bucket and those after it. -/
def pendingFrom (table : HashTab κ ν) (linked : List HtPlace) (number : Nat) : List HtPlace :=
  (List.range' number (table.ulBucketCount.toNat - number)).flatMap fun bucket =>
    linked.filter (table.homed bucket)

/-- The iterator is to give out these entries. -/
inductive Awaits (table : HashTab κ ν) (linked : List HtPlace) : HtIterator → List HtPlace → Prop
  | done : Awaits table linked { pxNext := none, ulBucket := table.ulBucketCount.toNat } []
  | entry {number : Nat} {before after : List HtPlace} {e : HtPlace}
      (below : number < table.ulBucketCount.toNat)
      (split : linked.filter (table.homed number) = before ++ e :: after) :
      Awaits table linked { pxNext := some e, ulBucket := number }
        (e :: after ++ table.pendingFrom linked (number + 1))

section Awaits

variable {table : HashTab κ ν} {bound : κ → Option ν} {linked free : List HtPlace} {lost : Nat}
  {e : HtPlace}

theorem pendingFrom_end : table.pendingFrom linked table.ulBucketCount.toNat = [] := by
  rw [pendingFrom, Nat.sub_self]
  rfl

theorem pendingFrom_cons {number : Nat} (below : number < table.ulBucketCount.toNat) :
    table.pendingFrom linked number =
      linked.filter (table.homed number) ++ table.pendingFrom linked (number + 1) := by
  have more : table.ulBucketCount.toNat - number =
      table.ulBucketCount.toNat - (number + 1) + 1 := by omega
  rw [pendingFrom, more, List.range'_succ, List.flatMap_cons]
  rfl

/-- From a place of a bucket, the entries behind it are next, and then the other buckets. -/
theorem prvNextentry_awaits
    (rings : ∀ number, table.xLinks.Ring (.bucket number) (linked.filter (table.homed number)))
    {number : Nat} (below : number < table.ulBucketCount.toNat) {before after : List HtPlace}
    {place : HtPlace} (path : table.xLinks.Path place after (.bucket number))
    (split : linked.filter (table.homed number) = before ++ after) :
    ∃ it, table.prvNextentry { pxNext := some place, ulBucket := number } = .ok it ∧
      table.Awaits linked it (after ++ table.pendingFrom linked (number + 1)) := by
  induction distance : table.ulBucketCount.toNat - number
    generalizing number before after place with
  | zero => exact absurd below (Nat.not_lt.mpr (Nat.sub_eq_zero_iff_le.mp distance))
  | succ remaining ih =>
      rw [prvNextentry, if_pos below]
      cases after with
      | nil =>
          simp only [Option.bind_some, path.next, ne_eq, not_true_eq_false, if_false]
          split
          · next more =>
              have fewer : table.ulBucketCount.toNat - (number + 1) = remaining := by omega
              rw [List.nil_append, pendingFrom_cons more]
              exact ih more (rings _).path (List.nil_append _).symm fewer
          · next last =>
              have isLast : number + 1 = table.ulBucketCount.toNat := by omega
              rw [prvNextentry, if_neg last, isLast, pendingFrom_end]
              exact ⟨_, rfl, .done⟩
      | cons e after =>
          have inBucket : e ∈ linked.filter (table.homed number) := by
            rw [split]
            exact List.mem_append_right _ List.mem_cons_self
          have notHead : e ≠ .bucket number := fun same =>
            (List.nodup_cons.mp (rings number).nodup).1 (same ▸ inBucket)
          simp only [Option.bind_some, path.1.next, ne_eq, notHead, not_false_eq_true, if_true]
          exact ⟨_, rfl, .entry below split⟩

/-- The entry that an iterator awaits is given out, and the next one is selected. -/
theorem Awaits.iteratorNext {it : HtIterator} {rest : List HtPlace}
    (rings : ∀ number, table.xLinks.Ring (.bucket number) (linked.filter (table.homed number)))
    (awaits : table.Awaits linked it (e :: rest)) :
    ∃ it', table.pxHtIteratorNext it = .ok (some e, it') ∧ table.Awaits linked it' rest := by
  cases awaits with
  | @entry number before after _ below split =>
      have ring := rings number
      rw [split] at ring
      have path := (Links.path_append.mp ring.path).2
      rw [List.append_cons] at split
      obtain ⟨it', next, awaits⟩ := prvNextentry_awaits rings below path split
      refine ⟨it', ?_, awaits⟩
      rw [pxHtIteratorNext, next]
      rfl

/-- An iterator that awaits nothing gives out none. -/
theorem Awaits.iteratorEnd {it : HtIterator} (awaits : table.Awaits linked it []) :
    ∃ it', table.pxHtIteratorNext it = .ok (none, it') := by
  cases awaits with
  | done =>
      refine ⟨{ pxNext := none, ulBucket := table.ulBucketCount.toNat }, ?_⟩
      rw [pxHtIteratorNext, prvNextentry, if_neg (Nat.lt_irrefl _)]
      rfl

/-- A bucket without an entry that is deleted. -/
theorem filter_erase {after : HashTab κ ν} (count : after.ulBucketCount = table.ulBucketCount)
    (keys : after.key = table.key) (number : Nat) :
    (linked.erase e).filter (after.homed number) =
      (linked.filter (table.homed number)).erase e := by
  have same : after.homed number = table.homed number := by
    funext entry
    simp only [homed, bucketno, count, keys]
  rw [same, List.erase_filter]

/-- An entry that is not awaited may be deleted. -/
theorem Awaits.erase {it : HtIterator} {pending : List HtPlace} {after : HashTab κ ν}
    (awaits : table.Awaits linked it pending) (passed : e ∉ pending)
    (count : after.ulBucketCount = table.ulBucketCount) (keys : after.key = table.key) :
    after.Awaits (linked.erase e) it pending := by
  cases awaits with
  | done =>
      rw [← count]
      exact .done
  | @entry number before tail first below split =>
      obtain ⟨notHere, notLater⟩ := not_or.mp (mt List.mem_append.mpr passed)
      have later : after.pendingFrom (linked.erase e) (number + 1) =
          table.pendingFrom linked (number + 1) := by
        rw [pendingFrom, pendingFrom, count]
        apply List.flatMap_congr
        intro bucket member
        rw [filter_erase count keys]
        apply List.erase_of_not_mem
        exact fun inside => notLater (List.mem_flatMap.mpr ⟨bucket, member, inside⟩)
      have shorter : (linked.erase e).filter (after.homed number) =
          before.erase e ++ first :: tail := by
        rw [filter_erase count keys, split]
        by_cases inside : e ∈ before
        · exact List.erase_append_left _ inside
        · rw [List.erase_append_right _ inside, List.erase_of_not_mem notHere,
            List.erase_of_not_mem inside]
      rw [← later]
      exact .entry (count ▸ below) shorter

/-- A new iterator awaits all buckets. -/
theorem initIterator
    (rings : ∀ number, table.xLinks.Ring (.bucket number) (linked.filter (table.homed number)))
    (buckets : table.ulBucketCount ≠ 0) :
    ∃ it, table.vHtInitIterator = .ok it ∧ table.Awaits linked it (table.pendingFrom linked 0) := by
  have below : 0 < table.ulBucketCount.toNat :=
    Nat.pos_of_ne_zero fun zero => buckets (UInt32.toNat_inj.mp zero)
  rw [pendingFrom_cons below]
  exact prvNextentry_awaits rings below (rings 0).path (List.nil_append _).symm

/-- The buckets hold each entry that is linked. -/
theorem Fills.mem_pendingFrom (fills : table.Fills bound linked free lost) :
    e ∈ table.pendingFrom linked 0 ↔ e ∈ linked := by
  rw [pendingFrom, List.mem_flatMap]
  constructor
  · rintro ⟨_, _, member⟩
    exact (List.mem_filter.mp member).1
  · intro member
    obtain ⟨key, _, keyed, -, -⟩ := fills.represents.holds e member
    have keyed : table.key e = some key := keyed
    refine ⟨table.bucketno key, ?_, List.mem_filter.mpr ⟨member, by simp [homed, keyed]⟩⟩
    rw [List.mem_range'_1, Nat.zero_add]
    exact ⟨Nat.zero_le _, bucketno_lt fills.represents.buckets key⟩

/-- No two buckets hold the same entry. -/
theorem Fills.pendingFrom_nodup (fills : table.Fills bound linked free lost) :
    (table.pendingFrom linked 0).Nodup := by
  have nodup := (List.nodup_append.mp fills.represents.nodup).1
  rw [pendingFrom, List.nodup_flatMap]
  refine ⟨fun bucket _ => nodup.filter _, ?_⟩
  apply (List.nodup_range' ..).imp
  intro first second different place member other
  exact fills.represents.apart different (List.mem_cons_of_mem _ member)
    (List.mem_cons_of_mem _ other)

/-- Only entries that are linked are awaited. -/
theorem Awaits.mem_linked {it : HtIterator} {pending : List HtPlace}
    (awaits : table.Awaits linked it pending) (member : e ∈ pending) : e ∈ linked := by
  cases awaits with
  | done => exact absurd member List.not_mem_nil
  | @entry number before tail first below split =>
      rcases List.mem_append.mp member with here | later
      · have inBucket : e ∈ linked.filter (table.homed number) := by
          rw [split]
          exact List.mem_append_right _ here
        exact (List.mem_filter.mp inBucket).1
      · rw [pendingFrom, List.mem_flatMap] at later
        obtain ⟨_, _, inBucket⟩ := later
        exact (List.mem_filter.mp inBucket).1

end Awaits

/-! ## Walks -/

section Walks

variable [DecidableEq κ] {table : HashTab κ ν} {bound : κ → Option ν} {linked free : List HtPlace}
  {lost : Nat} {e : HtPlace} {it : HtIterator} {pending : List HtPlace}

/-- Whatever is done with an entry that is not awaited, the same entries are awaited. -/
theorem Fills.visit (fills : table.Fills bound linked free lost)
    (awaits : table.Awaits linked it pending) (member : e ∈ linked) (passed : e ∉ pending)
    (choice : HtVisit) :
    ∃ (next : HashTab κ ν) (bound' : κ → Option ν) (linked' free' : List HtPlace) (lost' : Nat),
      table.visit e choice = .ok next ∧ next.Fills bound' linked' free' lost' ∧
        next.Awaits linked' it pending := by
  obtain ⟨key, -, keyed, -, -⟩ := fills.represents.holds e member
  have keyed : table.key e = some key := keyed
  cases choice with
  | keep => exact ⟨table, bound, linked, free, lost, rfl, fills, awaits⟩
  | delete =>
      rcases fills.lookup key with ⟨-, absent, -⟩ | ⟨entry, inside, found, keyed', -⟩
      · exact absurd keyed (absent e member)
      · have same : entry = e :=
          fills.represents.distinct entry inside e member (keyed'.trans keyed.symm)
        subst same
        refine ⟨_, _, _, _, _, ?_, fills.remove member keyed, awaits.erase passed rfl rfl⟩
        simp only [HashTab.visit, keyed, iHtISDelete, found]
        rfl
  | entryDelete =>
      exact ⟨_, _, _, _, _, rfl, fills.lose member keyed, awaits.erase passed rfl rfl⟩

section Steps

variable {visitor : List HtPlace → HtPlace → HtVisit} {visited : List HtPlace}
  {current : HashTab κ ν} {place next : HtIterator}

theorem walk_step {after : HashTab κ ν}
    (given : current.pxHtIteratorNext place = .ok (some e, next))
    (visits : current.visit e (visitor visited e) = .ok after) (fuel : Nat) :
    walk visitor (fuel + 1) visited current place = walk visitor fuel (visited ++ [e]) after next := by
  rw [walk, given]
  simp only [bind, Except.bind, visits]

theorem walk_end (ended : current.pxHtIteratorNext place = .ok (none, next)) (fuel : Nat) :
    walk visitor (fuel + 1) visited current place = .ok (visited, current) := by
  rw [walk, ended]
  rfl

end Steps

/-- A walk visits the entries that are awaited, in order, and ends. -/
theorem Fills.walk_eq (visitor : List HtPlace → HtPlace → HtVisit)
    (fills : table.Fills bound linked free lost) (awaits : table.Awaits linked it pending)
    (nodup : pending.Nodup) (visited : List HtPlace) :
    ∃ after, ∀ fuel > pending.length,
      walk visitor fuel visited table it = .ok (visited ++ pending, after) := by
  induction pending generalizing table bound linked free lost it visited with
  | nil =>
      obtain ⟨it', isEnd⟩ := awaits.iteratorEnd
      refine ⟨table, fun fuel enough => ?_⟩
      cases fuel with
      | zero => exact absurd enough (Nat.lt_irrefl _)
      | succ fuel => rw [walk_end isEnd, List.append_nil]
  | cons e rest ih =>
      obtain ⟨passed, nodup⟩ := List.nodup_cons.mp nodup
      obtain ⟨it', isNext, awaits'⟩ := awaits.iteratorNext fills.ring
      obtain ⟨next, bound', linked', free', lost', visits, fills', awaits'⟩ :=
        fills.visit awaits' (awaits.mem_linked List.mem_cons_self) passed (visitor visited e)
      obtain ⟨after, walks⟩ := ih fills' awaits' nodup (visited ++ [e])
      refine ⟨after, fun fuel enough => ?_⟩
      cases fuel with
      | zero => exact absurd enough (Nat.not_lt_zero _)
      | succ fuel =>
          rw [walk_step isNext visits, walks fuel (Nat.lt_of_succ_lt_succ enough),
            List.append_assoc]
          rfl

/-- A walk visits every entry that is linked. -/
theorem Fills.foreach_eq (fills : table.Fills bound linked free lost)
    (visitor : List HtPlace → HtPlace → HtVisit) :
    ∃ order after, (∀ fuel > order.length, table.foreach visitor fuel = .ok (order, after)) ∧
      order.Nodup ∧ ∀ entry, entry ∈ order ↔ entry ∈ linked := by
  obtain ⟨it, isFirst, awaits⟩ := initIterator fills.ring fills.represents.buckets
  have nodup := fills.pendingFrom_nodup
  obtain ⟨after, walks⟩ := fills.walk_eq visitor awaits nodup []
  refine ⟨_, after, fun fuel enough => ?_, nodup, fun _ => fills.mem_pendingFrom⟩
  rw [foreach, isFirst]
  exact walks fuel enough

end Walks

end HashTab

/-! ## Tables of runs -/

namespace BoundTable

variable {κ ν : Type} [HtKey κ] [DecidableEq κ]

/-- An iterator gives out every entry of a table exactly once and then ends, whatever entries
are deleted when they are given out. -/
theorem foreach_visits_once {pool buckets memory : Bool}
    {initentries maxentries entryincrement numbuckets : UInt32} {table : HashTab κ ν}
    (created : pxHtNewHashTable pool buckets memory initentries maxentries entryincrement
      numbuckets = .ok (some table)) {run : BoundTable κ ν}
    (reached : Trace.Reached perform { table, bound := fun _ => none } run)
    (visitor : List HtPlace → HtPlace → HtVisit) :
    ∃ order after, (∀ fuel > order.length, run.table.foreach visitor fuel = .ok (order, after)) ∧
      order.Nodup ∧ ∀ entry, entry ∈ order ↔ run.table.Linked entry := by
  have filled : run.Filled := by
    apply reached.invariant Filled (filled_new created)
    intro before operation _ next filled done
    have kept := filled.kept operation
    rwa [done] at kept
  obtain ⟨linked, free, lost, fills⟩ := filled
  obtain ⟨order, after, walks, nodup, member⟩ := fills.foreach_eq visitor
  refine ⟨order, after, walks, nodup, fun entry => ?_⟩
  rw [member]
  exact fills.linked_iff.symm

/-- A table of one bucket. -/
def oneBucket : HashTab UInt32 Nat :=
  HashTab.addFree 4
    { xLinks := { next := some, prev := some }
      pxFreelist := none
      key := fun _ => none
      pxValue := fun _ => none
      ulBucketCount := 1
      ulMaxEntries := 0
      ulCurEntries := 0
      ulAllocSize := 4
      entries := 0 }

/-- The table with the keys 5 and 8. -/
def collided : BoundTable UInt32 Nat :=
  Command.final ((Command.sequence perform [.add true 5 1, .add true 8 2]).run
    { table := oneBucket, bound := fun _ => none })

theorem reached_collided :
    Trace.Reached perform { table := oneBucket, bound := fun _ => none } collided :=
  @Trace.Reached.step _ _ _ _ _ _ _ _ (.add true 8 2) _
    (@Trace.Reached.step _ _ _ _ _ _ _ _ (.add true 5 1) _ .start rfl) rfl

/-- The first entry is deleted by its key and the second one by its pointer. -/
def alternating (visited : List HtPlace) (_entry : HtPlace) : HtVisit :=
  if visited.length % 2 = 0 then .delete else .entryDelete

/-- The table without its key 8, and without the other one too. -/
def firstDeleted : HashTab UInt32 Nat :=
  { collided.table with xLinks := collided.table.xLinks.unlink (.entry 2) }.prvFreehashent
    (.entry 2)

def bothDeleted : HashTab UInt32 Nat := firstDeleted.vHtEDelete (.entry 3)

section Collided

theorem initIterator_collided :
    collided.table.vHtInitIterator = .ok ⟨some (.entry 2), 0⟩ := by
  rw [HashTab.vHtInitIterator, HashTab.prvNextentry]
  rfl

theorem first_collided : collided.table.pxHtIteratorNext ⟨some (.entry 2), 0⟩ =
    .ok (some (.entry 2), ⟨some (.entry 3), 0⟩) := by
  rw [HashTab.pxHtIteratorNext, HashTab.prvNextentry]
  rfl

theorem second_collided : firstDeleted.pxHtIteratorNext ⟨some (.entry 3), 0⟩ =
    .ok (some (.entry 3), ⟨none, 1⟩) := by
  have past : firstDeleted.prvNextentry ⟨some (.bucket 0), 1⟩ = .ok ⟨none, 1⟩ := by
    rw [HashTab.prvNextentry]
    rfl
  have last : firstDeleted.prvNextentry ⟨some (.entry 3), 0⟩ =
      firstDeleted.prvNextentry ⟨some (.bucket 0), 1⟩ := by
    rw [HashTab.prvNextentry]
    rfl
  rw [HashTab.pxHtIteratorNext, last, past]
  rfl

theorem end_collided : bothDeleted.pxHtIteratorNext ⟨none, 1⟩ = .ok (none, ⟨none, 1⟩) := by
  rw [HashTab.pxHtIteratorNext, HashTab.prvNextentry]
  rfl

theorem foreach_collided (fuel : Nat) : collided.table.foreach alternating (fuel + 3) =
    .ok ([.entry 2, .entry 3], bothDeleted) := by
  have first : collided.table.visit (.entry 2) (alternating [] (.entry 2)) = .ok firstDeleted := rfl
  have second : firstDeleted.visit (.entry 3) (alternating [.entry 2] (.entry 3)) =
      .ok bothDeleted := rfl
  have begins : collided.table.foreach alternating (fuel + 3) =
      HashTab.walk alternating (fuel + 3) [] collided.table ⟨some (.entry 2), 0⟩ := by
    rw [HashTab.foreach, initIterator_collided]
    rfl
  rw [begins, HashTab.walk_step first_collided first, List.nil_append,
    HashTab.walk_step second_collided second, HashTab.walk_end end_collided]
  rfl

end Collided

/-- The walk gives out the two entries of the bucket, the newer one first. After it neither key
is found, and only the entry deleted by its key is counted off and free again. -/
theorem foreach_visits_once_collision :
    (∀ fuel > 2, collided.table.foreach alternating fuel =
      .ok ([.entry 2, .entry 3], bothDeleted)) ∧
    (∀ entry, entry ∈ [HtPlace.entry 2, .entry 3] ↔ collided.table.Linked entry) ∧
    bothDeleted.pvHtGetVal 5 = .ok none ∧ bothDeleted.pvHtGetVal 8 = .ok none ∧
    bothDeleted.ulCurEntries = 1 ∧ bothDeleted.pxFreelist = some (.entry 2) := by
  obtain ⟨order, after, walks, -, linked⟩ := @foreach_visits_once UInt32 Nat _ _ true true true
    4 0 4 1 oneBucket rfl collided reached_collided alternating
  have given := (walks (order.length + 3) (by omega)).symm.trans (foreach_collided order.length)
  cases given
  exact ⟨fun fuel enough => walks fuel enough, linked, rfl, rfl, rfl, rfl⟩

end BoundTable

end RinaSense
