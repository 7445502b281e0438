import RinaSense.Common.HashTab

/-!
# Hash tables as maps

What the entries of a table stand for: a finite map from keys to values. An invariant
ties the links of the buckets and of the free list to it, and the run of every
operation but the deletion of an entry given by its pointer keeps to it.
-/

namespace RinaSense

/-! ## Runs -/

/-- The operations of a run. The entry deleted by its pointer is that of a key, if the
key leads to one: every linked entry is that of some key. -/
inductive HashTabOp (κ ν : Type) where
  | add (memory : Bool) (key : κ) (value : ν)
  | set (memory : Bool) (key : κ) (value : ν)
  | get (key : κ)
  | find (key : κ)
  | delete (key : κ)
  | entryDelete (key : κ)
  deriving Repr, DecidableEq

inductive HashTabResult (ν : Type) where
  | count (entries : Nat)
  | value (value : Option ν)
  | entry (entry : Option HtPlace)
  | done
  deriving Repr, DecidableEq

/-- A table with the value each key was bound to last. -/
structure BoundTable (κ ν : Type) where
  table : HashTab κ ν
  bound : κ → Option ν

namespace BoundTable

variable {κ ν : Type} [HtKey κ] [DecidableEq κ]

def operate (table : HashTab κ ν) :
    HashTabOp κ ν → Except HashTabFault (HashTab κ ν × HashTabResult ν)
  | .add memory key value => do
      let (table, added) ← table.iHtAddVal memory key value
      return (table, .count added)
  | .set memory key value => do
      let (table, added) ← table.iHtSetVal memory key value
      return (table, .count added)
  | .get key => do return (table, .value (← table.pvHtGetVal key))
  | .find key => do return (table, .entry (← table.pxHtFindEntry key))
  | .delete key => do
      let (table, deleted) ← table.iHtISDelete key
      return (table, .count deleted)
  | .entryDelete key => do
      match ← table.pxHtFindEntry key with
      | some entry => return (table.vHtEDelete entry, .done)
      | none => return (table, .done)

/-- What an operation is to make of the bindings. -/
def rebind (run : BoundTable κ ν) : HashTabOp κ ν → κ → Option ν
  | .add _ key value =>
      if (run.bound key).isSome then run.bound else Function.update run.bound key (some value)
  | .set _ key value => Function.update run.bound key (some value)
  | .get _ | .find _ => run.bound
  | .delete key | .entryDelete key => Function.update run.bound key none

def perform (operation : HashTabOp κ ν) :
    EStateM HashTabFault (BoundTable κ ν) (HashTabResult ν) := do
  let run ← get
  match operate run.table operation with
  | .ok (table, result) =>
      set ({ table, bound := run.rebind operation } : BoundTable κ ν)
      return result
  | .error fault => throw fault

end BoundTable

/-! ## Purpose -/

namespace HashTab

variable {κ ν : Type}

/-- The entries on the rings of the buckets. -/
def Linked (table : HashTab κ ν) (entry : HtPlace) : Prop :=
  ∃ number < table.ulBucketCount.toNat, ∃ chain,
    table.xLinks.Ring (.bucket number) chain ∧ entry ∈ chain

/-- The entries on the free list. -/
def Free (table : HashTab κ ν) (entry : HtPlace) : Prop :=
  ∃ entries, Leads table.xLinks.prev table.pxFreelist entries ∧ entry ∈ entries

/-- `ulCurEntries` is the number of entries linked. -/
def Counted (table : HashTab κ ν) : Prop :=
  ∃ linked : List HtPlace, linked.Nodup ∧ (∀ entry, entry ∈ linked ↔ table.Linked entry) ∧
    table.ulCurEntries = linked.length

/-- A new entry can be had. -/
def Available (table : HashTab κ ν) (memory : Bool) : Prop :=
  table.pxFreelist ≠ none ∨ memory = true ∧ table.ulAllocSize ≠ 0 ∧
    (table.ulMaxEntries = 0 ∨ table.ulCurEntries + table.ulAllocSize ≤ table.ulMaxEntries)

variable [HtKey κ] [DecidableEq κ]

/-- The entry a key leads to. -/
def Entry (table : HashTab κ ν) (key : κ) (entry : HtPlace) : Prop :=
  table.pxHtFindEntry key = .ok (some entry)

/-- Lookups tell the bindings. -/
def Tells (table : HashTab κ ν) (bound : κ → Option ν) : Prop :=
  ∀ key, table.pvHtGetVal key = .ok (bound key) ∧
    ∃ entry, table.pxHtFindEntry key = .ok entry ∧ entry.isSome = (bound key).isSome

end HashTab

namespace BoundTable

variable {κ ν : Type} [HtKey κ] [DecidableEq κ]

/-- A new binding needs an entry. -/
def Asked (run : BoundTable κ ν) : HashTabOp κ ν → Prop
  | .add memory key _ | .set memory key _ =>
      (run.bound key).isSome ∨ run.table.Available memory
  | .get _ | .find _ | .delete _ | .entryDelete _ => True

/-- The result an operation is to have. -/
def Answers (run : BoundTable κ ν) : HashTabOp κ ν → HashTabResult ν → Prop
  | .add _ key _, result => result = .count (if (run.bound key).isSome then 0 else 1)
  | .set _ _ _, result => result = .count 1
  | .get key, result => result = .value (run.bound key)
  | .find key, result => ∃ entry, result = .entry entry ∧
      entry.isSome = (run.bound key).isSome ∧ entry.bind run.table.pxValue = run.bound key
  | .delete key, result => result = .count (if (run.bound key).isSome then 1 else 0)
  | .entryDelete _, result => result = .done

/-- An entry that is deleted is to be free. -/
def Frees (run : BoundTable κ ν) (after : HashTab κ ν) : HashTabOp κ ν → Prop
  | .add _ _ _ | .set _ _ _ | .get _ | .find _ => True
  | .delete key | .entryDelete key => ∀ entry, run.table.Entry key entry → after.Free entry

def Properly (run : BoundTable κ ν) (operation : HashTabOp κ ν)
    (result : EStateM.Result HashTabFault (BoundTable κ ν) (HashTabResult ν)) : Prop :=
  run.Asked operation →
    match result with
    | .ok result after => run.Answers operation result ∧ after.table.Tells after.bound ∧
        after.table.Counted ∧ run.Frees after.table operation
    | .error _ _ => False

/-- No linked entry is deleted by its pointer. -/
def Supported (run : BoundTable κ ν) : HashTabOp κ ν → Prop
  | .entryDelete key => run.bound key = none
  | _ => True

end BoundTable

/-! ## Representation -/

namespace HashTab

variable {κ ν : Type} [HtKey κ]

/-- The entry belongs into a bucket. -/
def homed (table : HashTab κ ν) (number : Nat) (entry : HtPlace) : Bool :=
  (table.key entry).any fun key => table.bucketno key == number

/-- The buckets hold the entries of the keys that are bound, each in its own, and all
other entries are free. -/
structure Represents (table : HashTab κ ν) (bound : κ → Option ν) (linked free : List HtPlace) :
    Prop where
  buckets : table.ulBucketCount ≠ 0
  numbered : ∀ entry ∈ linked ++ free, ∃ number < table.entries, entry = .entry number
  nodup : (linked ++ free).Nodup
  ring : ∀ number, table.xLinks.Ring (.bucket number) (linked.filter (table.homed number))
  leads : Leads table.xLinks.prev table.pxFreelist free
  holds : ∀ entry ∈ linked, ∃ key value, table.key entry = some key ∧
    table.pxValue entry = some value ∧ bound key = some value
  distinct : ∀ entry ∈ linked, ∀ other ∈ linked, table.key entry = table.key other →
    entry = other
  absent : ∀ key, (∀ entry ∈ linked, table.key entry ≠ some key) → bound key = none
  count : table.ulCurEntries = linked.length
  size : table.ulAllocSize ≤ htMaxAllocsize.toNat

section Reads

variable {table : HashTab κ ν} {bound : κ → Option ν} {linked free : List HtPlace} {key : κ}
  {entry : HtPlace}

theorem Represents.bound_eq (represents : table.Represents bound linked free)
    (member : entry ∈ linked) (keyed : table.key entry = some key) :
    bound key = table.pxValue entry ∧ (bound key).isSome = true := by
  obtain ⟨other, value, hasKey, hasValue, isBound⟩ := represents.holds entry member
  rw [keyed] at hasKey
  obtain rfl := Option.some.inj hasKey
  rw [hasValue, isBound]
  exact ⟨rfl, rfl⟩

/-- There are no more entries linked than there are numbers. -/
theorem Represents.length_le (represents : table.Represents bound linked free) :
    linked.length ≤ table.entries := by
  have nodup := (List.nodup_append.mp represents.nodup).1
  have inside : linked ⊆ (List.range table.entries).map HtPlace.entry := by
    intro entry member
    obtain ⟨number, below, rfl⟩ := represents.numbered entry (List.mem_append_left _ member)
    exact List.mem_map_of_mem (List.mem_range.mpr below)
  have perm := List.subperm_of_subset nodup inside
  simpa using perm.length_le

theorem bucketno_lt (buckets : table.ulBucketCount ≠ 0) (key : κ) :
    table.bucketno key < table.ulBucketCount.toNat := by
  rw [bucketno, UInt32.toNat_mod]
  apply Nat.mod_lt
  rw [Nat.pos_iff_ne_zero]
  exact fun zero => buckets (UInt32.toNat_inj.mp zero)

/-- The rings hold the entries that are linked, each in the bucket of its key. -/
theorem Represents.linked_iff (represents : table.Represents bound linked free) :
    table.Linked entry ↔ entry ∈ linked := by
  constructor
  · rintro ⟨number, -, chain, ring, member⟩
    rw [ring.unique (represents.ring number)] at member
    exact (List.mem_filter.mp member).1
  · intro member
    obtain ⟨key, value, keyed, -, -⟩ := represents.holds entry member
    refine ⟨table.bucketno key, bucketno_lt represents.buckets key, _, represents.ring _, ?_⟩
    exact List.mem_filter.mpr ⟨member, by simp [homed, keyed]⟩

theorem Represents.counted (represents : table.Represents bound linked free) : table.Counted :=
  ⟨linked, (List.nodup_append.mp represents.nodup).1, fun _ => represents.linked_iff.symm,
    represents.count⟩

/-- No ring leads through a place that is neither a head nor linked. -/
theorem Represents.ring_congr (represents : table.Represents bound linked free)
    {xLinks : Links HtPlace}
    (same : ∀ place, (∃ number, place = .bucket number) ∨ place ∈ linked →
      xLinks.next place = table.xLinks.next place ∧ xLinks.prev place = table.xLinks.prev place)
    (number : Nat) : xLinks.Ring (.bucket number) (linked.filter (table.homed number)) := by
  apply (represents.ring number).congr
  intro place member
  apply same
  rcases List.mem_cons.mp member with rfl | member
  · exact .inl ⟨number, rfl⟩
  · exact .inr (List.mem_filter.mp member).1

variable [DecidableEq κ]

/-- A lookup finds the entry of the key, wherever it is linked. -/
theorem Represents.lookup_eq (represents : table.Represents bound linked free) (key : κ) :
    table.prvHashLookupCom key = .ok (linked.find? fun entry => table.key entry = some key) := by
  have ring := represents.ring (table.bucketno key)
  have enough : (linked.filter (table.homed (table.bucketno key))).length < table.entries + 1 :=
    Nat.lt_succ_of_le ((List.length_filter_le ..).trans represents.length_le)
  have same : (fun entry => decide (table.homed (table.bucketno key) entry = true ∧
      decide (table.key entry = some key) = true)) = fun entry => table.key entry = some key := by
    funext entry
    by_cases keyed : table.key entry = some key
    · simp [homed, keyed]
    · simp [keyed]
  rw [prvHashLookupCom, listhead, ring.findFrom_eq _ enough, List.find?_filter, same]

theorem Represents.lookup (represents : table.Represents bound linked free) (key : κ) :
    (table.prvHashLookupCom key = .ok none ∧ (∀ entry ∈ linked, table.key entry ≠ some key) ∧
        bound key = none) ∨
      ∃ entry ∈ linked, table.prvHashLookupCom key = .ok (some entry) ∧
        table.key entry = some key := by
  rw [represents.lookup_eq]
  cases found : linked.find? fun entry => table.key entry = some key with
  | none =>
      have none : ∀ entry ∈ linked, table.key entry ≠ some key := by
        simpa using List.find?_eq_none.mp found
      exact .inl ⟨rfl, none, represents.absent key none⟩
  | some entry =>
      have keyed := List.find?_some found
      exact .inr ⟨entry, List.mem_of_find?_eq_some found, rfl, of_decide_eq_true keyed⟩

theorem Represents.tells (represents : table.Represents bound linked free) :
    table.Tells bound := by
  intro key
  rw [pvHtGetVal, pxHtFindEntry]
  rcases represents.lookup key with ⟨found, -, isBound⟩ | ⟨entry, member, found, keyed⟩
  · rw [found, isBound]
    exact ⟨rfl, none, rfl, rfl⟩
  · have ⟨same, isSome⟩ := represents.bound_eq member keyed
    rw [found]
    exact ⟨congrArg Except.ok same.symm, some entry, rfl, isSome.symm⟩

end Reads

/-! ## Changes -/

section Changes

variable {table : HashTab κ ν} {bound : κ → Option ν} {linked free : List HtPlace} {key : κ}
  {e : HtPlace}

theorem Represents.fresh (represents : table.Represents bound linked free) :
    HtPlace.entry table.entries ∉ linked ++ free := by
  intro member
  obtain ⟨number, below, same⟩ := represents.numbered _ member
  cases same
  exact absurd below (Nat.lt_irrefl _)

/-- A place is none of the rings' if it is a free entry. -/
theorem ne_of_ring {place : HtPlace} (isEntry : ∃ number, e = .entry number)
    (outside : e ∉ linked) (inRing : (∃ number, place = .bucket number) ∨ place ∈ linked) :
    place ≠ e := by
  obtain ⟨number, rfl⟩ := isEntry
  rcases inRing with ⟨_, rfl⟩ | member
  · exact HtPlace.noConfusion
  · exact fun same => outside (same ▸ member)

/-- An entry with no place in the rings is put on the free list. -/
theorem Represents.ring_prev (represents : table.Represents bound linked free)
    (isEntry : ∃ number, e = .entry number) (outside : e ∉ linked) (start : Option HtPlace)
    (number : Nat) :
    Links.Ring { table.xLinks with prev := Function.update table.xLinks.prev e start }
      (.bucket number) (linked.filter (table.homed number)) := by
  apply represents.ring_congr
  intro place inRing
  exact ⟨rfl, Function.update_of_ne (ne_of_ring isEntry outside inRing) ..⟩

/-- An entry that is neither linked nor free is put on the free list. -/
theorem Represents.putFree (represents : table.Represents bound linked free)
    (isEntry : ∃ number < table.entries, e = .entry number) (outside : e ∉ linked ++ free) :
    HashTab.Represents
      { table with
        xLinks := { table.xLinks with
          prev := Function.update table.xLinks.prev e table.pxFreelist }
        pxFreelist := some e } bound linked (e :: free) := by
  obtain ⟨id, below, isNumbered⟩ := isEntry
  have notLinked : e ∉ linked := fun member => outside (List.mem_append_left _ member)
  have notFree : e ∉ free := fun member => outside (List.mem_append_right _ member)
  exact { represents with
    numbered := by
      intro entry member
      rcases List.mem_cons.mp (List.perm_middle.mem_iff.mp member) with rfl | member
      · exact ⟨id, below, isNumbered⟩
      · exact represents.numbered entry member
    nodup := List.perm_middle.nodup_iff.mpr (List.nodup_cons.mpr ⟨outside, represents.nodup⟩)
    ring := represents.ring_prev ⟨id, isNumbered⟩ notLinked _
    leads := represents.leads.push notFree }

/-- New entries are free. -/
theorem Represents.addFree (represents : table.Represents bound linked free) (count : Nat) :
    ∃ fresh : List HtPlace, fresh.length = count ∧
      (table.addFree count).Represents bound linked (fresh ++ free) := by
  induction count generalizing table free with
  | zero => exact ⟨[], rfl, represents⟩
  | succ count ih =>
      have numbered : HashTab.Represents { table with entries := table.entries + 1 } bound linked
          free :=
        { represents with
          ring := represents.ring
          numbered := by
            intro entry member
            obtain ⟨number, below, same⟩ := represents.numbered entry member
            exact ⟨number, Nat.lt_succ_of_lt below, same⟩ }
      obtain ⟨others, length, rest⟩ :=
        ih (numbered.putFree ⟨_, Nat.lt_succ_self _, rfl⟩ represents.fresh)
      refine ⟨others ++ [.entry table.entries], by simp [length], ?_⟩
      rw [List.append_assoc]
      exact rest

/-- The buckets with a new entry for a key. -/
theorem filter_insert (outside : e ∉ linked) (key : κ) (number : Nat)
    {after : HashTab κ ν} (count : after.ulBucketCount = table.ulBucketCount)
    (keys : after.key = Function.update table.key e (some key)) :
    (e :: linked).filter (after.homed number) =
      if table.bucketno key = number then e :: linked.filter (table.homed number)
      else linked.filter (table.homed number) := by
  have bucketno (key : κ) : after.bucketno key = table.bucketno key := by
    rw [HashTab.bucketno, HashTab.bucketno, count]
  have rest : linked.filter (after.homed number) = linked.filter (table.homed number) := by
    apply List.filter_congr
    intro entry member
    have apart : entry ≠ e := fun same => outside (same ▸ member)
    simp only [homed, keys, Function.update_of_ne apart, bucketno]
  have first : after.homed number e = (table.bucketno key == number) := by
    simp only [homed, keys, Function.update_self, Option.any_some, bucketno]
  rw [List.filter_cons, first, rest]
  simp only [beq_iff_eq]

/-- The places of two buckets are different ones. -/
theorem Represents.apart (represents : table.Represents bound linked free) {first second : Nat}
    (different : first ≠ second) {place : HtPlace}
    (member : place ∈ .bucket first :: linked.filter (table.homed first)) :
    place ∉ .bucket second :: linked.filter (table.homed second) := by
  intro other
  rcases List.mem_cons.mp member with rfl | member
  · rcases List.mem_cons.mp other with same | other
    · cases same
      exact different rfl
    · obtain ⟨_, _, same⟩ :=
        represents.numbered _ (List.mem_append_left _ (List.mem_filter.mp other).1)
      cases same
  · obtain ⟨inLinked, homedFirst⟩ := List.mem_filter.mp member
    rcases List.mem_cons.mp other with rfl | other
    · obtain ⟨_, _, same⟩ := represents.numbered _ (List.mem_append_left _ inLinked)
      cases same
    · have homedSecond := (List.mem_filter.mp other).2
      obtain ⟨key, _, keyed, -, -⟩ := represents.holds place inLinked
      simp only [homed, keyed, Option.any_some, beq_iff_eq] at homedFirst homedSecond
      exact different (homedFirst.symm.trans homedSecond)

/-- Unlinking an entry takes it from its bucket and leaves the free list alone. -/
theorem Represents.unlink (represents : table.Represents bound linked free) (member : e ∈ linked) :
    (∀ number, (table.xLinks.unlink e).Ring (.bucket number)
        ((linked.erase e).filter (table.homed number))) ∧
      Leads (table.xLinks.unlink e).prev table.pxFreelist free := by
  obtain ⟨key, value, keyed, -, -⟩ := represents.holds e member
  have nodups := List.nodup_append.mp represents.nodup
  have inBucket : e ∈ linked.filter (table.homed (table.bucketno key)) :=
    List.mem_filter.mpr ⟨member, by simp [homed, keyed]⟩
  obtain ⟨before, after, split⟩ := List.append_of_mem inBucket
  have ring := represents.ring (table.bucketno key)
  rw [split] at ring
  obtain ⟨shorter, untouched⟩ := ring.unlink
  rw [← split] at untouched
  constructor
  · intro number
    rw [← List.erase_filter]
    by_cases home : table.bucketno key = number
    · subst home
      have notBefore : e ∉ before := by
        intro inside
        have nodup := split ▸ nodups.1.filter (table.homed (table.bucketno key))
        exact (List.nodup_append.mp nodup).2.2 e inside e List.mem_cons_self rfl
      rw [split, List.erase_append_right _ notBefore, List.erase_cons_head]
      exact shorter
    · have elsewhere : e ∉ linked.filter (table.homed number) := by
        intro inside
        have isHome := (List.mem_filter.mp inside).2
        simp only [homed, keyed, Option.any_some, beq_iff_eq] at isHome
        exact home isHome
      rw [List.erase_of_not_mem elsewhere]
      apply (represents.ring number).congr
      intro place inRing
      exact untouched place (represents.apart (Ne.symm home) inRing)
  · apply represents.leads.congr
    intro entry isFree
    apply (untouched entry _).2
    intro touched
    rcases List.mem_cons.mp touched with same | touched
    · obtain ⟨_, _, numbered⟩ := represents.numbered entry (List.mem_append_right _ isFree)
      rw [numbered] at same
      cases same
    · exact nodups.2.2 entry (List.mem_filter.mp touched).1 entry isFree rfl

/-- An entry that is deleted by its pointer is not free afterwards. -/
theorem Represents.not_free (represents : table.Represents bound linked free)
    (member : e ∈ linked) : ¬ (table.vHtEDelete e).Free e := by
  have nodups := List.nodup_append.mp represents.nodup
  rintro ⟨entries, leads, isFree⟩
  rw [leads.unique (represents.unlink member).2] at isFree
  exact nodups.2.2 e member e isFree rfl

/-- Where an entry can be had, the first free one is taken. -/
theorem Represents.newhashent (represents : table.Represents bound linked free) {memory : Bool}
    (available : table.Available memory) :
    ∃ (before : HashTab κ ν) (e : HtPlace) (rest : List HtPlace),
      table.prvNewhashent memory = .ok (before.takeFree e, e) ∧
        before.Represents bound linked (e :: rest) := by
  obtain ⟨count, e, first, isNew, -⟩ := prvNewhashent_eq represents.size available
  obtain ⟨fresh, -, more⟩ := represents.addFree count
  obtain ⟨rest, same⟩ := more.leads.of_some first
  exact ⟨table.addFree count, e, rest, isNew, same ▸ more⟩

omit [HtKey κ] in
theorem newhashent_error (small : table.ulAllocSize ≤ htMaxAllocsize.toNat)
    {memory : Bool} (missing : ¬ table.Available memory) :
    table.prvNewhashent memory = .error .nullPointer := by
  rw [Available, not_or, not_not] at missing
  obtain ⟨empty, refused⟩ := missing
  rw [prvNewhashent, empty]
  simp only [prvMorefree_eq small]
  split
  · next allowed =>
      have zero : table.ulAllocSize = 0 := by
        by_contra nonzero
        exact refused ⟨allowed.1, nonzero, allowed.2⟩
      simp only [bind, Except.bind, zero, ne_eq, not_true_eq_false, if_false]
      rfl
  · rfl

variable [DecidableEq κ]

/-- The first free entry is linked for a key that was not bound. -/
theorem Represents.insert (represents : table.Represents bound linked (e :: free))
    (absent : ∀ entry ∈ linked, table.key entry ≠ some key) (value : ν) :
    ∃ xLinks, (table.takeFree e).xLinks.insertAfter (table.listhead key) e = some xLinks ∧
      ((table.takeFree e).fill xLinks e key value).Represents
        (Function.update bound key (some value)) (e :: linked) free := by
  obtain ⟨id, below, isEntry⟩ :=
    represents.numbered e (List.mem_append_right _ List.mem_cons_self)
  have nodup := List.nodup_cons.mp (List.perm_middle.nodup_iff.mp represents.nodup)
  have outside : e ∉ linked := fun member => nodup.1 (List.mem_append_left _ member)
  have apart : ∀ entry ∈ linked, entry ≠ e := fun entry member same => outside (same ▸ member)
  have closed (number : Nat) : (table.xLinks.close e).Ring (.bucket number)
      (linked.filter (table.homed number)) := by
    apply represents.ring_congr
    intro place inRing
    have different := ne_of_ring ⟨id, isEntry⟩ outside inRing
    exact ⟨Function.update_of_ne different .., Function.update_of_ne different ..⟩
  have notInBucket (number : Nat) : e ∉ .bucket number :: linked.filter (table.homed number) := by
    intro member
    rcases List.mem_cons.mp member with same | member
    · rw [isEntry] at same
      cases same
    · exact outside (List.mem_filter.mp member).1
  obtain ⟨changed, inserted, ring, untouched⟩ :=
    (closed (table.bucketno key)).insertFirst (notInBucket _)
  have keys (entry : HtPlace) (member : entry ∈ linked) :
      ((table.takeFree e).fill changed e key value).key entry = table.key entry :=
    Function.update_of_ne (apart entry member) ..
  have keyOf : ((table.takeFree e).fill changed e key value).key e = some key :=
    Function.update_self ..
  refine ⟨changed, inserted, ?_⟩
  constructor
  · exact represents.buckets
  · intro entry member
    apply represents.numbered
    exact List.perm_middle.mem_iff.mpr member
  · exact List.perm_middle.nodup_iff.mp represents.nodup
  · intro number
    rw [@filter_insert _ _ _ table _ _ outside key number
      ((table.takeFree e).fill changed e key value) rfl rfl]
    split
    · next home => exact home ▸ ring
    · next other =>
        apply (closed number).congr
        intro place member
        apply untouched
        intro touched
        rcases List.mem_cons.mp touched with rfl | touched
        · exact notInBucket number member
        · exact represents.apart (Ne.symm other) member touched
  · apply represents.leads.2.congr
    intro entry member
    have different : entry ≠ e := fun same => nodup.1 (List.mem_append_right _ (same ▸ member))
    have free : entry ∉ linked := fun inLinked =>
      (List.nodup_append.mp nodup.2).2.2 entry inLinked entry member rfl
    obtain ⟨_, _, numbered⟩ := represents.numbered entry
      (List.mem_append_right _ (List.mem_cons_of_mem _ member))
    have kept : changed.prev entry = (table.xLinks.close e).prev entry := by
      apply (untouched entry _).2
      intro touched
      rcases List.mem_cons.mp touched with same | touched
      · exact different same
      · rcases List.mem_cons.mp touched with same | touched
        · rw [numbered] at same
          cases same
        · exact free (List.mem_filter.mp touched).1
    exact kept.trans (Function.update_of_ne different ..)
  · intro entry member
    rcases List.mem_cons.mp member with rfl | member
    · exact ⟨key, value, Function.update_self .., Function.update_self ..,
        Function.update_self ..⟩
    · obtain ⟨other, found, keyed, valued, isBound⟩ := represents.holds entry member
      have different : other ≠ key := fun same => absent entry member (same ▸ keyed)
      refine ⟨other, found, ?_, ?_, ?_⟩
      · exact (Function.update_of_ne (apart entry member) ..).trans keyed
      · exact (Function.update_of_ne (apart entry member) ..).trans valued
      · exact (Function.update_of_ne different ..).trans isBound
  · intro entry member other memberOther same
    rcases List.mem_cons.mp member with isNew | old
    · rcases List.mem_cons.mp memberOther with isNewToo | oldOther
      · exact isNew.trans isNewToo.symm
      · rw [isNew, keyOf, keys other oldOther] at same
        exact absurd same.symm (absent other oldOther)
    · rcases List.mem_cons.mp memberOther with isNew | oldOther
      · rw [isNew, keyOf, keys entry old] at same
        exact absurd same (absent entry old)
      · rw [keys entry old, keys other oldOther] at same
        exact represents.distinct entry old other oldOther same
  · intro other none
    have different : other ≠ key := by
      rintro rfl
      exact none e List.mem_cons_self keyOf
    rw [Function.update_of_ne different]
    apply represents.absent
    intro entry member
    rw [← keys entry member]
    exact none entry (List.mem_cons_of_mem _ member)
  · exact congrArg (· + 1) represents.count
  · exact represents.size

/-- The value of a key that is bound is replaced. -/
theorem Represents.overwrite (represents : table.Represents bound linked free)
    (member : e ∈ linked) (keyed : table.key e = some key) (value : ν) :
    HashTab.Represents { table with pxValue := Function.update table.pxValue e (some value) }
      (Function.update bound key (some value)) linked free :=
  { represents with
    ring := represents.ring
    holds := by
      intro entry inside
      by_cases same : entry = e
      · subst same
        exact ⟨key, value, keyed, Function.update_self .., Function.update_self ..⟩
      · obtain ⟨other, found, otherKeyed, valued, isBound⟩ := represents.holds entry inside
        have different : other ≠ key := by
          rintro rfl
          exact same (represents.distinct entry inside e member (otherKeyed.trans keyed.symm))
        exact ⟨other, found, otherKeyed, (Function.update_of_ne same ..).trans valued,
          (Function.update_of_ne different ..).trans isBound⟩
    absent := by
      intro other none
      have different : other ≠ key := by
        rintro rfl
        exact none e member keyed
      rw [Function.update_of_ne different]
      exact represents.absent other none }

/-- The entry of a key is unlinked, and counts no more. -/
theorem Represents.drop (represents : table.Represents bound linked free)
    (member : e ∈ linked) (keyed : table.key e = some key) :
    HashTab.Represents
      { table with xLinks := table.xLinks.unlink e, ulCurEntries := table.ulCurEntries - 1 }
      (Function.update bound key none) (linked.erase e) free := by
  have nodups := List.nodup_append.mp represents.nodup
  have gone : e ∉ linked.erase e := nodups.1.not_mem_erase
  have onlyKey : ∀ entry ∈ linked, table.key entry = some key → entry = e := by
    intro entry inside same
    exact represents.distinct entry inside e member (same.trans keyed.symm)
  have kept {entry : HtPlace} (inside : entry ∈ linked.erase e) : entry ∈ linked :=
    List.mem_of_mem_erase inside
  have sublist : (linked.erase e ++ free).Sublist (linked ++ free) :=
    List.erase_sublist.append_right free
  obtain ⟨unlinked, leads⟩ := represents.unlink member
  constructor
  · exact represents.buckets
  · exact fun entry inside => represents.numbered entry (sublist.subset inside)
  · exact represents.nodup.sublist sublist
  · exact unlinked
  · exact leads
  · intro entry inside
    obtain ⟨other, value, otherKeyed, valued, isBound⟩ := represents.holds entry (kept inside)
    have different : other ≠ key := by
      rintro rfl
      exact gone (onlyKey entry (kept inside) otherKeyed ▸ inside)
    exact ⟨other, value, otherKeyed, valued, (Function.update_of_ne different ..).trans isBound⟩
  · exact fun entry inside other insideOther =>
      represents.distinct entry (kept inside) other (kept insideOther)
  · intro other none
    by_cases same : other = key
    · rw [same, Function.update_self]
    · rw [Function.update_of_ne same]
      apply represents.absent
      intro entry inside otherKeyed
      have different : entry ≠ e := by
        rintro rfl
        exact same (Option.some.inj (otherKeyed.symm.trans keyed))
      exact none entry ((List.mem_erase_of_ne different).mpr inside) otherKeyed
  · rw [List.length_erase_of_mem member, ← represents.count]
  · exact represents.size

/-- The entry of a key is unlinked and put on the free list. -/
theorem Represents.remove (represents : table.Represents bound linked free)
    (member : e ∈ linked) (keyed : table.key e = some key) :
    (HashTab.prvFreehashent { table with xLinks := table.xLinks.unlink e } e).Represents
      (Function.update bound key none) (linked.erase e) (e :: free) := by
  have nodups := List.nodup_append.mp represents.nodup
  apply (represents.drop member keyed).putFree
  · exact represents.numbered e (List.mem_append_left _ member)
  · intro inside
    rcases List.mem_append.mp inside with stays | isFree
    · exact nodups.1.not_mem_erase stays
    · exact nodups.2.2 e member e isFree rfl

/-- A value is added for a key that was not found. -/
theorem prvHtISAddVal_new {memory : Bool} {before : HashTab κ ν} {xLinks : Links HtPlace}
    (found : table.prvHashLookupCom key = .ok none)
    (isNew : table.prvNewhashent memory = .ok (before.takeFree e, e))
    (inserted : (before.takeFree e).xLinks.insertAfter (before.listhead key) e = some xLinks)
    (overwrite : Bool) (value : ν) :
    table.prvHtISAddVal memory overwrite key value =
      .ok ((before.takeFree e).fill xLinks e key value, 1) := by
  have insertedThere : (before.takeFree e).xLinks.insertAfter
      ((before.takeFree e).listhead key) e = some xLinks := inserted
  rw [prvHtISAddVal, found]
  simp only [bind, Except.bind, isNew, insertedThere]
  rfl

theorem prvHtISAddVal_error {memory : Bool} (found : table.prvHashLookupCom key = .ok none)
    (small : table.ulAllocSize ≤ htMaxAllocsize.toNat) (missing : ¬ table.Available memory)
    (overwrite : Bool) (value : ν) :
    table.prvHtISAddVal memory overwrite key value = .error .nullPointer := by
  rw [prvHtISAddVal, found]
  simp only [bind, Except.bind, newhashent_error small missing]

/-- A value is added for a key, or replaces its value where that is asked for. -/
theorem Represents.addVal (represents : table.Represents bound linked free)
    {memory overwrite : Bool} (asked : (bound key).isSome ∨ table.Available memory) (value : ν) :
    ∃ (next : HashTab κ ν) (linked' free' : List HtPlace),
      table.prvHtISAddVal memory overwrite key value =
          .ok (next, if (bound key).isSome && !overwrite then 0 else 1) ∧
        next.Represents (if (bound key).isSome && !overwrite then bound
          else Function.update bound key (some value)) linked' free' := by
  rcases represents.lookup key with ⟨found, -, isBound⟩ | ⟨e, member, found, keyed⟩
  · have available : table.Available memory := by
      rcases asked with isSome | available
      · rw [isBound] at isSome
        cases isSome
      · exact available
    obtain ⟨before, e, rest, isNew, more⟩ := represents.newhashent available
    have absent : ∀ entry ∈ linked, before.key entry ≠ some key := by
      intro entry member keyed
      have isSome := (more.bound_eq member keyed).2
      rw [isBound] at isSome
      cases isSome
    obtain ⟨xLinks, inserted, after⟩ := more.insert absent value
    refine ⟨(before.takeFree e).fill xLinks e key value, e :: linked, rest, ?_, ?_⟩
    · rw [prvHtISAddVal_new found isNew inserted, isBound]
      rfl
    · rw [isBound]
      exact after
  · have isSome := (represents.bound_eq member keyed).2
    rw [prvHtISAddVal, found, isSome]
    cases overwrite with
    | false => exact ⟨table, linked, free, rfl, represents⟩
    | true => exact ⟨_, linked, free, rfl, represents.overwrite member keyed value⟩

theorem Represents.addVal_error (represents : table.Represents bound linked free)
    {memory overwrite : Bool} (notAsked : ¬ ((bound key).isSome ∨ table.Available memory))
    (value : ν) :
    table.prvHtISAddVal memory overwrite key value = .error .nullPointer := by
  obtain ⟨unbound, missing⟩ := not_or.mp notAsked
  rcases represents.lookup key with ⟨found, -, isBound⟩ | ⟨e, member, found, keyed⟩
  · exact prvHtISAddVal_error found represents.size missing overwrite value
  · exact absurd (represents.bound_eq member keyed).2 unbound

theorem Represents.delete (represents : table.Represents bound linked free) (key : κ) :
    ∃ (next : HashTab κ ν) (linked' free' : List HtPlace),
      table.iHtISDelete key = .ok (next, if (bound key).isSome then 1 else 0) ∧
        next.Represents (Function.update bound key none) linked' free' ∧
          ∀ entry, table.Entry key entry → next.Free entry := by
  rcases represents.lookup key with ⟨found, -, isBound⟩ | ⟨e, member, found, keyed⟩
  · refine ⟨table, linked, free, ?_, ?_, ?_⟩
    · rw [iHtISDelete, found, isBound]
      rfl
    · rw [← isBound, Function.update_eq_self]
      exact represents
    · intro entry isEntry
      rw [Entry, pxHtFindEntry, found] at isEntry
      cases isEntry
  · have after := represents.remove member keyed
    refine ⟨_, _, _, ?_, after, ?_⟩
    · rw [iHtISDelete, found, (represents.bound_eq member keyed).2]
      rfl
    · intro entry isEntry
      rw [Entry, pxHtFindEntry, found] at isEntry
      obtain rfl := Option.some.inj (Except.ok.inj isEntry)
      exact ⟨_, after.leads, List.mem_cons_self⟩

end Changes

/-- A new table stands for the empty map, and has no more entries than it may have. -/
theorem represents_new {pool buckets memory : Bool}
    {initentries maxentries entryincrement numbuckets : UInt32} {table : HashTab κ ν}
    (created : pxHtNewHashTable pool buckets memory initentries maxentries entryincrement
      numbuckets = .ok (some table)) :
    ∃ free, table.Represents (fun _ => none) [] free ∧
      (table.ulMaxEntries ≠ 0 → table.ulCurEntries + free.length ≤ table.ulMaxEntries) := by
  rw [pxHtNewHashTable] at created
  split at created
  · cases created
  · split at created
    · cases created
    · let first : HashTab κ ν :=
        { xLinks := { next := some, prev := some }
          pxFreelist := none
          key := fun _ => none
          pxValue := fun _ => none
          ulBucketCount := numbuckets ||| 1
          ulMaxEntries := maxentries.toNat
          ulCurEntries := 0
          ulAllocSize := (min entryincrement htMaxAllocsize).toNat
          entries := 0 }
      have nonzero : numbuckets ||| 1 ≠ 0 := by
        intro zero
        have bit := congrArg (fun count => count.toBitVec.getLsbD 0) zero
        simp at bit
      have size : (min entryincrement htMaxAllocsize).toNat ≤ htMaxAllocsize.toNat := by
        change (if entryincrement ≤ htMaxAllocsize then entryincrement else
          htMaxAllocsize).toNat ≤ _
        split
        · next le => exact UInt32.le_iff_toNat_le.mp le
        · exact Nat.le_refl _
      have start : first.Represents (fun _ => none) [] [] :=
        { buckets := nonzero
          numbered := fun _ member => absurd member List.not_mem_nil
          nodup := List.nodup_nil
          ring := fun number => ⟨⟨rfl, rfl⟩, List.nodup_singleton _⟩
          leads := rfl
          holds := fun _ member => absurd member List.not_mem_nil
          distinct := fun _ member => absurd member List.not_mem_nil
          absent := fun _ _ => rfl
          count := rfl
          size := size }
      have grown : ((first.prvMorefree memory initentries.toNat).map fun more => some more.1) =
          .ok (some table) := created
      rw [prvMorefree] at grown
      split at grown
      · cases grown
        exact ⟨[], start, fun _ => Nat.zero_le _⟩
      · next allowed =>
          split at grown
          · cases grown
            obtain ⟨fresh, length, more⟩ := start.addFree initentries.toNat
            refine ⟨fresh ++ [], more, fun limited => ?_⟩
            obtain ⟨sameMax, sameCount, -⟩ := @addFree_counts κ ν initentries.toNat first
            rw [sameMax] at limited
            rw [sameMax, sameCount, List.append_nil, length]
            have isLimited : (first.ulMaxEntries != 0) = true := bne_iff_ne.mpr limited
            simp only [isLimited, Bool.true_and, Bool.or_eq_true, decide_eq_true_eq, not_or] at allowed
            exact Nat.le_of_not_gt allowed.1
          · cases grown

end HashTab

/-! ## Runs of a table -/

namespace BoundTable

variable {κ ν : Type} [HtKey κ] [DecidableEq κ]

theorem run_perform (run : BoundTable κ ν) (operation : HashTabOp κ ν) :
    (perform operation).run run =
      match operate run.table operation with
      | .ok (table, result) => .ok result { table, bound := run.rebind operation }
      | .error fault => .error fault run := by
  simp only [perform, EStateM.run_bind, EStateM.run_get]
  cases operate run.table operation <;> rfl

/-- The table stands for the bindings. -/
def Ok (run : BoundTable κ ν) : Prop :=
  ∃ linked free, run.table.Represents run.bound linked free

section Steps

variable {run : BoundTable κ ν} {operation : HashTabOp κ ν} {key : κ}

/-- An operation is proper if it answers and the table stands for the new bindings. -/
theorem properly_of_represents {next : HashTab κ ν} {result : HashTabResult ν}
    {linked free : List HtPlace} (done : operate run.table operation = .ok (next, result))
    (answers : run.Answers operation result)
    (represents : next.Represents (run.rebind operation) linked free)
    (frees : run.Frees next operation) :
    run.Properly operation ((perform operation).run run) ∧
      Ok (Command.final ((perform operation).run run)) := by
  rw [run_perform, done]
  exact ⟨fun _ => ⟨answers, represents.tells, represents.counted, frees⟩,
    linked, free, represents⟩

/-- An operation that is not asked for may fail. -/
theorem properly_of_not_asked {fault : HashTabFault}
    (failed : operate run.table operation = .error fault) (notAsked : ¬ run.Asked operation)
    (ok : run.Ok) :
    run.Properly operation ((perform operation).run run) ∧
      Ok (Command.final ((perform operation).run run)) := by
  rw [run_perform, failed]
  exact ⟨fun asked => absurd asked notAsked, ok⟩

/-- A step with no deletion by a pointer. -/
theorem Ok.step (ok : run.Ok) (supported : run.Supported operation) :
    run.Properly operation ((perform operation).run run) ∧
      Ok (Command.final ((perform operation).run run)) := by
  have ⟨linked, free, represents⟩ := ok
  cases operation with
  | add memory key value =>
      by_cases asked : (run.bound key).isSome ∨ run.table.Available memory
      · obtain ⟨next, linked', free', added, after⟩ := represents.addVal asked value
        rw [Bool.not_false, Bool.and_true] at added after
        have done : operate run.table (.add memory key value) =
            .ok (next, .count (if (run.bound key).isSome then 0 else 1)) := by
          rw [operate, HashTab.iHtAddVal, added]
          rfl
        exact properly_of_represents done rfl after trivial
      · have failed : operate run.table (.add memory key value) = .error .nullPointer := by
          rw [operate, HashTab.iHtAddVal, represents.addVal_error asked]
          rfl
        exact properly_of_not_asked failed asked ok
  | set memory key value =>
      by_cases asked : (run.bound key).isSome ∨ run.table.Available memory
      · obtain ⟨next, linked', free', added, after⟩ := represents.addVal asked value
        rw [Bool.not_true, Bool.and_false] at added after
        have done : operate run.table (.set memory key value) = .ok (next, .count 1) := by
          rw [operate, HashTab.iHtSetVal, added]
          rfl
        exact properly_of_represents done rfl after trivial
      · have failed : operate run.table (.set memory key value) = .error .nullPointer := by
          rw [operate, HashTab.iHtSetVal, represents.addVal_error asked]
          rfl
        exact properly_of_not_asked failed asked ok
  | get key =>
      have done : operate run.table (.get key) = .ok (run.table, .value (run.bound key)) := by
        rw [operate, (represents.tells key).1]
        rfl
      exact properly_of_represents done rfl represents trivial
  | find key =>
      rcases represents.lookup key with ⟨found, -, isBound⟩ | ⟨e, member, found, keyed⟩
      · have done : operate run.table (.find key) = .ok (run.table, .entry none) := by
          rw [operate, HashTab.pxHtFindEntry, found]
          rfl
        have answers : run.Answers (.find key) (.entry none) :=
          ⟨none, rfl, by rw [isBound]; rfl, by rw [isBound]; rfl⟩
        exact properly_of_represents done answers represents trivial
      · have ⟨same, isSome⟩ := represents.bound_eq member keyed
        have done : operate run.table (.find key) = .ok (run.table, .entry (some e)) := by
          rw [operate, HashTab.pxHtFindEntry, found]
          rfl
        exact properly_of_represents done ⟨some e, rfl, isSome.symm, same.symm⟩ represents trivial
  | delete key =>
      obtain ⟨next, linked', free', deleted, after, frees⟩ := represents.delete key
      have done : operate run.table (.delete key) =
          .ok (next, .count (if (run.bound key).isSome then 1 else 0)) := by
        rw [operate, deleted]
        rfl
      exact properly_of_represents done rfl after frees
  | entryDelete key =>
      have absent : run.bound key = none := supported
      rcases represents.lookup key with ⟨found, -, -⟩ | ⟨e, member, found, keyed⟩
      · have done : operate run.table (.entryDelete key) = .ok (run.table, .done) := by
          rw [operate, HashTab.pxHtFindEntry, found]
          rfl
        have same : run.rebind (.entryDelete key) = run.bound := by
          rw [rebind, ← absent, Function.update_eq_self]
        have frees : run.Frees run.table (.entryDelete key) := by
          intro entry isEntry
          rw [HashTab.Entry, HashTab.pxHtFindEntry, found] at isEntry
          cases isEntry
        exact properly_of_represents done rfl (same ▸ represents) frees
      · have isSome := (represents.bound_eq member keyed).2
        rw [absent] at isSome
        cases isSome

theorem Ok.properly_iff (ok : run.Ok) (operation : HashTabOp κ ν) :
    run.Properly operation ((perform operation).run run) ↔ run.Supported operation := by
  refine ⟨?_, fun supported => (ok.step supported).1⟩
  intro properly
  cases operation with
  | add | set | get | find | delete => trivial
  | entryDelete key =>
      obtain ⟨linked, free, represents⟩ := ok
      rcases represents.lookup key with ⟨-, -, isBound⟩ | ⟨e, member, found, keyed⟩
      · exact isBound
      · have done : operate run.table (.entryDelete key) =
            .ok (run.table.vHtEDelete e, .done) := by
          rw [operate, HashTab.pxHtFindEntry, found]
          rfl
        rw [run_perform, done] at properly
        obtain ⟨-, -, -, frees⟩ := properly trivial
        exact absurd (frees e found) (represents.not_free member)

end Steps

/-- A table stands for the map of its bindings in a run exactly if no entry of it is
deleted by its pointer. -/
theorem hashTab_run_iff {pool buckets memory : Bool}
    {initentries maxentries entryincrement numbuckets : UInt32} {table : HashTab κ ν}
    (created : pxHtNewHashTable pool buckets memory initentries maxentries entryincrement
      numbuckets = .ok (some table)) (operations : List (HashTabOp κ ν)) :
    (∀ occurrence ∈ Trace.trace perform operations { table, bound := fun _ => none },
      occurrence.before.Properly occurrence.event occurrence.result) ↔
      ∀ occurrence ∈ Trace.trace perform operations { table, bound := fun _ => none },
        occurrence.before.Supported occurrence.event := by
  obtain ⟨free, represents, -⟩ := HashTab.represents_new created
  exact Trace.proper_iff_supported Ok Supported Properly
    (fun _ operation ok => ok.properly_iff operation)
    (fun _ _ ok supported => (ok.step supported).2) ⟨[], free, represents⟩

/-- Two integer keys of one bucket. -/
theorem hashTab_run_iff_collision :
    ∃ table : HashTab UInt32 Nat, pxHtNewHashTable true true true 4 0 4 1 = .ok (some table) ∧
      ∀ occurrence ∈ Trace.trace perform [.add true 5 1, .set true 8 2, .delete 5, .get 8]
          { table, bound := fun _ => none },
        occurrence.before.Properly occurrence.event occurrence.result := by
  refine ⟨_, rfl, (@hashTab_run_iff UInt32 Nat _ _ true true true 4 0 4 1 _ rfl _).mpr ?_⟩
  intro occurrence member
  rcases Trace.mem_trace_cons.mp member with rfl | ⟨_, _, _, member⟩
  · trivial
  · rcases Trace.mem_trace_cons.mp member with rfl | ⟨_, _, _, member⟩
    · trivial
    · rcases Trace.mem_trace_cons.mp member with rfl | ⟨_, _, _, member⟩
      · trivial
      · rcases Trace.mem_trace_cons.mp member with rfl | ⟨_, _, _, member⟩
        · trivial
        · exact absurd member List.not_mem_nil

/-- The only entry of a table is lost when it is deleted by its pointer. -/
theorem entry_deleted_not_free :
    ∃ table : HashTab UInt32 Nat, pxHtNewHashTable true true true 1 0 1 1 = .ok (some table) ∧
      ¬ ∀ occurrence ∈ Trace.trace perform [.add true 5 1, .entryDelete 5]
          { table, bound := fun _ => none },
        occurrence.before.Properly occurrence.event occurrence.result := by
  refine ⟨_, rfl, ?_⟩
  intro all
  have second := all _
    (Trace.mem_trace_cons.mpr (.inr ⟨_, _, rfl, Trace.mem_trace_cons.mpr (.inl rfl)⟩))
  obtain ⟨-, -, -, frees⟩ := second trivial
  obtain ⟨entries, leads, isFree⟩ := frees (.entry 0) rfl
  cases entries with
  | nil => exact absurd isFree List.not_mem_nil
  | cons entry entries =>
      have first : none = some entry := leads.1
      cases first
end BoundTable

end RinaSense
