import RinaSense.Common.HashTabMap

/-!
# The capacity of hash tables

An entry that is deleted by its pointer stays counted and is never free again. With such
entries set apart a table stands for its bindings after every operation, and it is known
which new keys it takes.
-/

namespace RinaSense

/-! ## Purpose -/

namespace HashTab

variable {κ ν : Type}

/-- As many entries are linked. -/
def HasEntries (table : HashTab κ ν) (count : Nat) : Prop :=
  ∃ linked : List HtPlace, linked.Nodup ∧ (∀ entry, entry ∈ linked ↔ table.Linked entry) ∧
    linked.length = count

/-- There are fewer entries than the maximum, and one is free or there is memory for some. -/
def Obtainable (table : HashTab κ ν) (memory : Bool) : Prop :=
  (table.ulMaxEntries = 0 ∨ ∃ count, table.HasEntries count ∧ count < table.ulMaxEntries) ∧
    (table.pxFreelist ≠ none ∨ memory = true ∧ table.ulAllocSize ≠ 0)

end HashTab

namespace BoundTable

variable {κ ν : Type} [HtKey κ] [DecidableEq κ]

/-- A new key is bound, if an entry can be obtained; else the call fails and leaves the
bindings, the free entries and the count as they were. -/
def TakesNewKey (run : BoundTable κ ν) (operation : HashTabOp κ ν)
    (result : EStateM.Result HashTabFault (BoundTable κ ν) (HashTabResult ν)) : Prop :=
  ∀ memory key value, (operation = .add memory key value ∨ operation = .set memory key value) →
    run.bound key = none →
      (run.table.Obtainable memory → ∃ after, result = .ok (.count 1) after ∧
        after.table.Tells (Function.update run.bound key (some value))) ∧
      (¬ run.table.Obtainable memory → ∃ after, result = .ok (.count 0) after ∧
        after.table.Tells run.bound ∧
        (∀ entry, after.table.Free entry ↔ run.table.Free entry) ∧
        after.table.ulCurEntries = run.table.ulCurEntries)

/-- An entry is free, or the whole increment fits below the maximum beside the entries that
are counted. -/
def Roomy (run : BoundTable κ ν) (operation : HashTabOp κ ν) : Prop :=
  ∀ memory key value, (operation = .add memory key value ∨ operation = .set memory key value) →
    run.bound key = none → run.table.Available memory

end BoundTable

/-! ## Entries that are lost -/

namespace HashTab

variable {κ ν : Type}

/-- The table with some entries no longer counted. -/
def discount (table : HashTab κ ν) (lost : Nat) : HashTab κ ν :=
  { table with ulCurEntries := table.ulCurEntries - lost }

theorem addFree_discount (count lost : Nat) (table : HashTab κ ν) :
    (table.addFree count).discount lost = (table.discount lost).addFree count := by
  induction count generalizing table with
  | zero => rfl
  | succ count ih => exact ih _

variable [HtKey κ]

/-- The table stands for the bindings, but for entries that are counted and lost, and has no
more entries than it may have. -/
structure Fills (table : HashTab κ ν) (bound : κ → Option ν) (linked free : List HtPlace)
    (lost : Nat) : Prop where
  represents : (table.discount lost).Represents bound linked free
  atMost : lost ≤ table.ulCurEntries
  capacity : table.ulMaxEntries ≠ 0 → table.ulCurEntries + free.length ≤ table.ulMaxEntries

section Fills

variable {table : HashTab κ ν} {bound : κ → Option ν} {linked free : List HtPlace} {lost : Nat}
  {key : κ} {e : HtPlace}

theorem Fills.count (fills : table.Fills bound linked free lost) :
    table.ulCurEntries = linked.length + lost := by
  have counted : table.ulCurEntries - lost = linked.length := fills.represents.count
  exact (Nat.sub_eq_iff_eq_add fills.atMost).mp counted

theorem Fills.ring (fills : table.Fills bound linked free lost) (number : Nat) :
    table.xLinks.Ring (.bucket number) (linked.filter (table.homed number)) :=
  fills.represents.ring number

theorem Fills.linked_iff (fills : table.Fills bound linked free lost) {entry : HtPlace} :
    table.Linked entry ↔ entry ∈ linked := fills.represents.linked_iff

theorem Fills.hasEntries (fills : table.Fills bound linked free lost) :
    table.HasEntries linked.length :=
  ⟨linked, (List.nodup_append.mp fills.represents.nodup).1, fun _ => fills.linked_iff.symm, rfl⟩

/-- Where the code can have an entry, one can be obtained. -/
theorem Fills.obtainable (fills : table.Fills bound linked free lost) {memory : Bool}
    (available : table.Available memory) : table.Obtainable memory := by
  have count := fills.count
  rcases available with hasFree | ⟨isMemory, nonzero, allowed⟩
  · refine ⟨?_, .inl hasFree⟩
    by_cases limited : table.ulMaxEntries = 0
    · exact .inl limited
    · refine .inr ⟨linked.length, fills.hasEntries, ?_⟩
      have capacity := fills.capacity limited
      cases free with
      | nil => exact absurd fills.represents.leads hasFree
      | cons entry rest =>
          rw [List.length_cons] at capacity
          omega
  · refine ⟨?_, .inr ⟨isMemory, nonzero⟩⟩
    rcases allowed with unlimited | fits
    · exact .inl unlimited
    · exact .inr ⟨linked.length, fills.hasEntries, by omega⟩

/-! ## Changes with entries lost -/

/-- Where an entry can be had, the first free one is taken. -/
theorem Fills.newhashent (fills : table.Fills bound linked free lost) {memory : Bool}
    (available : table.Available memory) :
    ∃ (before : HashTab κ ν) (e : HtPlace) (rest : List HtPlace),
      table.prvNewhashent memory = .ok (before.takeFree e, e) ∧
        before.Fills bound linked (e :: rest) lost := by
  have small : table.ulAllocSize ≤ htMaxAllocsize.toNat := fills.represents.size
  obtain ⟨count, e, first, isNew, room⟩ := prvNewhashent_eq small available
  obtain ⟨fresh, length, more⟩ := fills.represents.addFree count
  obtain ⟨sameMax, sameCount, -⟩ := addFree_counts count table
  rw [← addFree_discount] at more
  obtain ⟨rest, same⟩ := more.leads.of_some first
  refine ⟨table.addFree count, e, rest, isNew, same ▸ more, ?_, ?_⟩
  · rw [sameCount]
    exact fills.atMost
  · intro limited
    rw [sameMax] at limited
    rw [sameMax, sameCount, ← same, List.length_append, length]
    rcases room with rfl | ⟨empty, allowed⟩
    · rw [Nat.zero_add]
      exact fills.capacity limited
    · have noFree : free = [] := fills.represents.leads.unique empty
      rw [noFree]
      exact allowed.resolve_left limited

variable [DecidableEq κ]

theorem Fills.lookup (fills : table.Fills bound linked free lost) (key : κ) :
    (table.prvHashLookupCom key = .ok none ∧ (∀ entry ∈ linked, table.key entry ≠ some key) ∧
        bound key = none) ∨
      ∃ entry ∈ linked, table.prvHashLookupCom key = .ok (some entry) ∧
        table.key entry = some key ∧ bound key = table.pxValue entry ∧ (bound key).isSome := by
  rcases fills.represents.lookup key with absent | ⟨entry, member, found, keyed⟩
  · exact .inl absent
  · exact .inr ⟨entry, member, found, keyed, fills.represents.bound_eq member keyed⟩

/-- No entry has a key that is not bound. -/
theorem Fills.lookup_none (fills : table.Fills bound linked free lost) (unbound : bound key = none) :
    table.prvHashLookupCom key = .ok none ∧ ∀ entry ∈ linked, table.key entry ≠ some key := by
  rcases fills.lookup key with ⟨found, absent, -⟩ | ⟨_, _, _, _, _, isSome⟩
  · exact ⟨found, absent⟩
  · rw [unbound] at isSome
    cases isSome

/-- The first free entry is linked for a key that was not bound. -/
theorem Fills.insert (fills : table.Fills bound linked (e :: free) lost)
    (absent : ∀ entry ∈ linked, table.key entry ≠ some key) (value : ν) :
    ∃ xLinks, (table.takeFree e).xLinks.insertAfter (table.listhead key) e = some xLinks ∧
      ((table.takeFree e).fill xLinks e key value).Fills
        (Function.update bound key (some value)) (e :: linked) free lost := by
  obtain ⟨xLinks, inserted, after⟩ := fills.represents.insert absent value
  have counted : table.ulCurEntries - lost + 1 = table.ulCurEntries + 1 - lost :=
    (Nat.sub_add_comm fills.atMost).symm
  refine ⟨xLinks, inserted, ?_, Nat.le_succ_of_le fills.atMost, ?_⟩
  · rw [discount]
    exact { after with ring := after.ring, count := counted.symm.trans after.count }
  · intro limited
    have capacity := fills.capacity limited
    rw [List.length_cons, Nat.add_comm free.length, ← Nat.add_assoc] at capacity
    exact capacity

/-- The value of a key that is bound is replaced. -/
theorem Fills.overwrite (fills : table.Fills bound linked free lost) (member : e ∈ linked)
    (keyed : table.key e = some key) (value : ν) :
    HashTab.Fills { table with pxValue := Function.update table.pxValue e (some value) }
      (Function.update bound key (some value)) linked free lost :=
  ⟨fills.represents.overwrite member keyed value, fills.atMost, fills.capacity⟩

/-- An entry that is deleted by its key is free again. -/
theorem Fills.remove (fills : table.Fills bound linked free lost) (member : e ∈ linked)
    (keyed : table.key e = some key) :
    (HashTab.prvFreehashent { table with xLinks := table.xLinks.unlink e } e).Fills
      (Function.update bound key none) (linked.erase e) (e :: free) lost := by
  have count := fills.count
  have some := List.length_pos_of_mem member
  have after := fills.represents.remove member keyed
  have counted : table.ulCurEntries - lost - 1 = table.ulCurEntries - 1 - lost :=
    Nat.sub_right_comm ..
  refine ⟨?_, ?_, ?_⟩
  · exact { after with ring := after.ring, count := counted.symm.trans after.count }
  · change lost ≤ table.ulCurEntries - 1
    omega
  · intro limited
    have capacity := fills.capacity limited
    change table.ulCurEntries - 1 + (free.length + 1) ≤ table.ulMaxEntries
    omega

/-- An entry that is deleted by its pointer is lost. -/
theorem Fills.lose (fills : table.Fills bound linked free lost) (member : e ∈ linked)
    (keyed : table.key e = some key) :
    (table.vHtEDelete e).Fills (Function.update bound key none) (linked.erase e) free
      (lost + 1) := by
  have count := fills.count
  have some := List.length_pos_of_mem member
  refine ⟨fills.represents.drop member keyed, ?_, fills.capacity⟩
  change lost + 1 ≤ table.ulCurEntries
  omega

end Fills

end HashTab

/-! ## Runs -/

namespace BoundTable

variable {κ ν : Type} [HtKey κ] [DecidableEq κ]

/-- The table stands for the bindings, and some entries may be lost. -/
def Filled (run : BoundTable κ ν) : Prop :=
  ∃ linked free lost, run.table.Fills run.bound linked free lost

section Steps

variable {run : BoundTable κ ν} {operation : HashTabOp κ ν} {memory : Bool} {key : κ} {value : ν}

omit [HtKey κ] in
/-- The bindings with a new one. -/
theorem rebind_new (isNew : operation = .add memory key value ∨ operation = .set memory key value)
    (unbound : run.bound key = none) :
    run.rebind operation = Function.update run.bound key (some value) := by
  rcases isNew with rfl | rfl
  · rw [rebind, unbound]
    rfl
  · rfl

/-- A new key is bound where an entry can be had. -/
theorem Filled.perform_new (filled : run.Filled)
    (isNew : operation = .add memory key value ∨ operation = .set memory key value)
    (unbound : run.bound key = none) (available : run.table.Available memory) :
    ∃ next : BoundTable κ ν, (perform operation).run run = .ok (.count 1) next ∧ next.Filled ∧
      next.bound = Function.update run.bound key (some value) := by
  obtain ⟨linked, free, lost, fills⟩ := filled
  obtain ⟨before, e, rest, taken, more⟩ := fills.newhashent available
  obtain ⟨xLinks, inserted, after⟩ := more.insert (more.lookup_none unbound).2 value
  have found := (fills.lookup_none unbound).1
  have done : operate run.table operation =
      .ok ((before.takeFree e).fill xLinks e key value, .count 1) := by
    rcases isNew with rfl | rfl
    · rw [operate, HashTab.iHtAddVal, HashTab.prvHtISAddVal_new found taken inserted]
      rfl
    · rw [operate, HashTab.iHtSetVal, HashTab.prvHtISAddVal_new found taken inserted]
      rfl
  have rebound := rebind_new isNew unbound
  rw [run_perform, done]
  refine ⟨_, rfl, ⟨e :: linked, rest, lost, ?_⟩, rebound⟩
  rw [rebound]
  exact after

/-- Where no entry can be had, the pointer that is not set is used. -/
theorem Filled.perform_error (filled : run.Filled)
    (isNew : operation = .add memory key value ∨ operation = .set memory key value)
    (unbound : run.bound key = none) (missing : ¬ run.table.Available memory) :
    (perform operation).run run = .error .nullPointer run := by
  obtain ⟨linked, free, lost, fills⟩ := filled
  have small : run.table.ulAllocSize ≤ htMaxAllocsize.toNat := fills.represents.size
  have found := (fills.lookup_none unbound).1
  have failed : operate run.table operation = .error .nullPointer := by
    rcases isNew with rfl | rfl
    · rw [operate, HashTab.iHtAddVal, HashTab.prvHtISAddVal_error found small missing]
      rfl
    · rw [operate, HashTab.iHtSetVal, HashTab.prvHtISAddVal_error found small missing]
      rfl
  rw [run_perform, failed]

theorem filled_of_done {next : HashTab κ ν} {result : HashTabResult ν} {linked free : List HtPlace}
    {lost : Nat} (done : operate run.table operation = .ok (next, result))
    (fills : next.Fills (run.rebind operation) linked free lost) :
    Filled (Command.final ((perform operation).run run)) := by
  rw [run_perform, done]
  exact ⟨linked, free, lost, fills⟩

/-- A new key, whether or not an entry can be had for it. -/
theorem Filled.new (filled : run.Filled)
    (isNew : operation = .add memory key value ∨ operation = .set memory key value)
    (unbound : run.bound key = none) : Filled (Command.final ((perform operation).run run)) := by
  by_cases available : run.table.Available memory
  · obtain ⟨next, done, after, -⟩ := filled.perform_new isNew unbound available
    rw [done]
    exact after
  · rw [filled.perform_error isNew unbound available]
    exact filled

/-- No operation ends this. -/
theorem Filled.kept (filled : run.Filled) (operation : HashTabOp κ ν) :
    Filled (Command.final ((perform operation).run run)) := by
  have ⟨linked, free, lost, fills⟩ := filled
  cases operation with
  | add memory key value =>
      rcases fills.lookup key with ⟨-, -, unbound⟩ | ⟨e, member, found, keyed, -, isSome⟩
      · exact filled.new (.inl rfl) unbound
      · have done : operate run.table (.add memory key value) = .ok (run.table, .count 0) := by
          rw [operate, HashTab.iHtAddVal, HashTab.prvHtISAddVal, found]
          rfl
        have same : run.rebind (.add memory key value) = run.bound := if_pos isSome
        exact filled_of_done done (same ▸ fills)
  | set memory key value =>
      rcases fills.lookup key with ⟨-, -, unbound⟩ | ⟨e, member, found, keyed, -, isSome⟩
      · exact filled.new (.inr rfl) unbound
      · have done : operate run.table (.set memory key value) =
            .ok ({ run.table with
              pxValue := Function.update run.table.pxValue e (some value) }, .count 1) := by
          rw [operate, HashTab.iHtSetVal, HashTab.prvHtISAddVal, found]
          rfl
        exact filled_of_done done (fills.overwrite member keyed value)
  | get key =>
      have done : operate run.table (.get key) = .ok (run.table, .value (run.bound key)) := by
        have found : run.table.pvHtGetVal key = .ok (run.bound key) :=
          (fills.represents.tells key).1
        rw [operate, found]
        rfl
      exact filled_of_done done fills
  | find key =>
      obtain ⟨entry, found, -⟩ := (fills.represents.tells key).2
      have done : operate run.table (.find key) = .ok (run.table, .entry entry) := by
        have found : run.table.pxHtFindEntry key = .ok entry := found
        rw [operate, found]
        rfl
      exact filled_of_done done fills
  | delete key =>
      rcases fills.lookup key with ⟨found, -, unbound⟩ | ⟨e, member, found, keyed, -⟩
      · have done : operate run.table (.delete key) = .ok (run.table, .count 0) := by
          rw [operate, HashTab.iHtISDelete, found]
          rfl
        have same : run.rebind (.delete key) = run.bound := by
          rw [rebind, ← unbound, Function.update_eq_self]
        exact filled_of_done done (same ▸ fills)
      · have done : operate run.table (.delete key) =
            .ok (HashTab.prvFreehashent
              { run.table with xLinks := run.table.xLinks.unlink e } e, .count 1) := by
          rw [operate, HashTab.iHtISDelete, found]
          rfl
        exact filled_of_done done (fills.remove member keyed)
  | entryDelete key =>
      rcases fills.lookup key with ⟨found, -, unbound⟩ | ⟨e, member, found, keyed, -⟩
      · have done : operate run.table (.entryDelete key) = .ok (run.table, .done) := by
          rw [operate, HashTab.pxHtFindEntry, found]
          rfl
        have same : run.rebind (.entryDelete key) = run.bound := by
          rw [rebind, ← unbound, Function.update_eq_self]
        exact filled_of_done done (same ▸ fills)
      · have done : operate run.table (.entryDelete key) =
            .ok (run.table.vHtEDelete e, .done) := by
          rw [operate, HashTab.pxHtFindEntry, found]
          rfl
        exact filled_of_done done (fills.lose member keyed)

/-- No fault takes a new key. -/
theorem not_takesNewKey {fault : HashTabFault} {after : BoundTable κ ν}
    (isNew : operation = .add memory key value ∨ operation = .set memory key value)
    (unbound : run.bound key = none) : ¬ run.TakesNewKey operation (.error fault after) := by
  intro takes
  have ⟨obtained, refused⟩ := takes memory key value isNew unbound
  by_cases obtainable : run.table.Obtainable memory
  · obtain ⟨after, returned, -⟩ := obtained obtainable
    cases returned
  · obtain ⟨after, returned, -⟩ := refused obtainable
    cases returned

/-- New keys are taken exactly where the code can have an entry. -/
theorem Filled.takes_iff (filled : run.Filled) (operation : HashTabOp κ ν) :
    run.TakesNewKey operation ((perform operation).run run) ↔ run.Roomy operation := by
  constructor
  · intro takes memory key value isNew unbound
    by_contra missing
    rw [filled.perform_error isNew unbound missing] at takes
    exact not_takesNewKey isNew unbound takes
  · intro roomy memory key value isNew unbound
    have available := roomy memory key value isNew unbound
    have ⟨linked, free, lost, fills⟩ := filled
    refine ⟨fun _ => ?_, fun missing => absurd (fills.obtainable available) missing⟩
    obtain ⟨next, done, ⟨linked', free', lost', after⟩, rebound⟩ :=
      filled.perform_new isNew unbound available
    refine ⟨next, done, ?_⟩
    rw [← rebound]
    exact after.represents.tells

end Steps

omit [DecidableEq κ] in
theorem filled_new {pool buckets memory : Bool}
    {initentries maxentries entryincrement numbuckets : UInt32} {table : HashTab κ ν}
    (created : pxHtNewHashTable pool buckets memory initentries maxentries entryincrement
      numbuckets = .ok (some table)) : Filled { table, bound := fun _ => none } := by
  obtain ⟨free, represents, capacity⟩ := HashTab.represents_new created
  exact ⟨[], free, 0, represents, Nat.zero_le _, capacity⟩

/-- In a run every new key is taken as long as an entry can be obtained, and else refused, exactly
if the code finds an entry for each of them. -/
theorem new_keys_taken_iff {pool buckets memory : Bool}
    {initentries maxentries entryincrement numbuckets : UInt32} {table : HashTab κ ν}
    (created : pxHtNewHashTable pool buckets memory initentries maxentries entryincrement
      numbuckets = .ok (some table)) (operations : List (HashTabOp κ ν)) :
    (∀ occurrence ∈ Trace.trace perform operations { table, bound := fun _ => none },
      occurrence.before.TakesNewKey occurrence.event occurrence.result) ↔
      ∀ occurrence ∈ Trace.trace perform operations { table, bound := fun _ => none },
        occurrence.before.Roomy occurrence.event :=
  Trace.proper_iff_supported Filled Roomy TakesNewKey
    (fun _ operation filled => filled.takes_iff operation)
    (fun _ operation filled _ => filled.kept operation) (filled_new created)

/-- The entry of a full table is taken again after it was deleted. -/
theorem new_keys_taken_iff_full :
    ∃ table : HashTab UInt32 Nat, pxHtNewHashTable true true true 1 1 1 1 = .ok (some table) ∧
      ∀ occurrence ∈ Trace.trace perform [.add true 5 1, .delete 5, .set true 8 2]
          { table, bound := fun _ => none },
        occurrence.before.TakesNewKey occurrence.event occurrence.result := by
  refine ⟨_, rfl, (@new_keys_taken_iff UInt32 Nat _ _ true true true 1 1 1 1 _ rfl _).mpr ?_⟩
  intro occurrence member
  rcases Trace.mem_trace_cons.mp member with rfl | ⟨_, _, run, member⟩
  · exact fun _ _ _ _ _ => .inl (Option.some_ne_none (HtPlace.entry 0))
  · cases run
    rcases Trace.mem_trace_cons.mp member with rfl | ⟨_, _, run, member⟩
    · rintro memory key value (isNew | isNew)
      · cases isNew
      · cases isNew
    · cases run
      rcases Trace.mem_trace_cons.mp member with rfl | ⟨_, _, _, member⟩
      · exact fun _ _ _ _ _ => .inl (Option.some_ne_none (HtPlace.entry 0))
      · exact absurd member List.not_mem_nil

/-- A new key for a full table is not refused. -/
theorem full_table_fails :
    ∃ table : HashTab UInt32 Nat, pxHtNewHashTable true true true 1 1 1 1 = .ok (some table) ∧
      ¬ ∀ occurrence ∈ Trace.trace perform [.add true 5 1, .add true 8 2]
          { table, bound := fun _ => none },
        occurrence.before.TakesNewKey occurrence.event occurrence.result := by
  refine ⟨_, rfl, ?_⟩
  intro all
  exact @not_takesNewKey UInt32 Nat _ _ _ _ true 8 2 .nullPointer _ (.inl rfl) rfl
    (all _
      (Trace.mem_trace_cons.mpr (.inr ⟨_, _, rfl, Trace.mem_trace_cons.mpr (.inl rfl)⟩)))

end BoundTable

end RinaSense
