import RinaSense.Common.Rsrc

/-!
# Accounts of a resource pool

When the counters of a pool are those of its lists, and which calls keep it so. Each
function is read once for one pool.
-/

namespace RinaSense

namespace RsrcPool

/-! ## Purpose -/

/-- The counters of a pool are those of its lists. -/
structure Balanced (pool : RsrcPool) : Prop where
  free : pool.uiNumFree.toNat = pool.pxFreelist.length
  inUse : pool.uiNumInUse.toNat = pool.xActive.length
  apart : ∀ pxRsrc ∈ pool.pxFreelist, pxRsrc ∉ pool.xActive
  low : pool.uiLowWater ≤ pool.uiNumFree
  high : pool.uiNumInUse ≤ pool.uiHiWater

/-- There are not more resources than the maximum, where one is set. -/
def Limited (pool : RsrcPool) : Prop :=
  pool.uiMaxNumRes ≠ 0 →
    pool.uiNumInUse.toNat + pool.uiNumFree.toNat ≤ pool.uiMaxNumRes.toNat

structure Accounted (pool : RsrcPool) : Prop extends pool.Balanced where
  limit : pool.Limited

/-- The resources of the lists are different ones, none of them new. -/
structure Numbered (next : Nat) (pool : RsrcPool) : Prop where
  free : pool.pxFreelist.Nodup
  active : pool.xActive.Nodup
  freeBelow : ∀ pxRsrc ∈ pool.pxFreelist, pxRsrc < next
  activeBelow : ∀ pxRsrc ∈ pool.xActive, pxRsrc < next

theorem Numbered.mono {next later : Nat} {pool : RsrcPool} (numbered : pool.Numbered next)
    (grown : next ≤ later) : pool.Numbered later where
  free := numbered.free
  active := numbered.active
  freeBelow := fun pxRsrc member => Nat.lt_of_lt_of_le (numbered.freeBelow pxRsrc member) grown
  activeBelow :=
    fun pxRsrc member => Nat.lt_of_lt_of_le (numbered.activeBelow pxRsrc member) grown

/-- There is room for one more in the two counters that only an allocation raises. -/
def CountsOneMore (pool : RsrcPool) : Prop :=
  pool.uiNumInUse ≠ 65535 ∧ pool.ulTotalAllocs ≠ 18446744073709551615

/-- What a pool is set up with stays as it is. -/
structure SameShape (before after : RsrcPool) : Prop where
  size : after.uxSizeEach = before.uxSizeEach
  increment : after.uiIncrement = before.uiIncrement
  maximum : after.uiMaxNumRes = before.uiMaxNumRes
  freeOnFree : after.uiFreeOnFree = before.uiFreeOnFree

theorem SameShape.refl (pool : RsrcPool) : pool.SameShape pool where
  size := rfl
  increment := rfl
  maximum := rfl
  freeOnFree := rfl

/-! ## Adding resources -/

theorem foldl_freeResTail (block : List Nat) (pool : RsrcPool) :
    block.foldl prvvFreeResTail pool =
      { pool with
        pxFreelist := block.reverse ++ pool.pxFreelist
        uiNumFree := pool.uiNumFree + UInt16.ofNat block.length } := by
  induction block generalizing pool with
  | nil =>
      have zero : UInt16.ofNat ([] : List Nat).length = 0 := rfl
      rw [List.foldl_nil, List.reverse_nil, List.nil_append, zero, UInt16.add_zero]
  | cons first block ih =>
      have counted : UInt16.ofNat (first :: block).length = 1 + UInt16.ofNat block.length := by
        rw [List.length_cons, UInt16.ofNat_add, UInt16.add_comm]
        rfl
      rw [List.foldl_cons, ih, prvvFreeResTail, counted, List.reverse_cons, List.append_assoc,
        UInt16.add_assoc]
      rfl

/-- The pool with that many new resources. -/
def added (pool : RsrcPool) (next : Nat) (uiCount : UInt32) : RsrcPool :=
  { pool with
    pxFreelist := (List.range' next uiCount.toNat).reverse ++ pool.pxFreelist
    uiNumFree := pool.uiNumFree + uiCount.toUInt16
    uiLowWater :=
      if pool.uiNumInUse.toNat + pool.uiNumFree.toNat = 0 then uiCount.toUInt16
      else pool.uiLowWater }

section Adding

variable {pool : RsrcPool} {next : Nat} {uiCount : UInt32} {heap : RsrcHeap}

theorem add2Pool_granted (positive : uiCount ≠ 0) (granted : heap.memory = true) :
    prviRsrcAdd2Pool heap next pool uiCount =
      .ok (uiCount.toNat, pool.added next uiCount, next + uiCount.toNat) := by
  rw [prviRsrcAdd2Pool, if_neg positive, granted]
  have count : UInt16.ofNat (List.range' next uiCount.toNat).length = uiCount.toUInt16 := by
    rw [List.length_range']
    rfl
  simp only [Bool.not_true, Bool.false_eq_true, if_false, foldl_freeResTail, count]
  rw [added]
  split <;> rfl

theorem add2Pool_refused (positive : uiCount ≠ 0) (refused : heap.memory = false) :
    prviRsrcAdd2Pool heap next pool uiCount =
      if heap.vRsrcOOMfn then .ok (-1, pool, next) else .error .abort := by
  rw [prviRsrcAdd2Pool, if_neg positive, refused]
  rfl

/-- A pool without free resources, as an addition to it finds it: the low water mark of
a pool that has no resource at all is not looked at. -/
structure Exhausted (pool : RsrcPool) : Prop where
  empty : pool.pxFreelist = []
  noFree : pool.uiNumFree = 0
  inUse : pool.uiNumInUse.toNat = pool.xActive.length
  low : pool.uiNumInUse ≠ 0 → pool.uiLowWater = 0
  high : pool.uiNumInUse ≤ pool.uiHiWater

theorem Balanced.exhausted (balanced : pool.Balanced) (empty : pool.pxFreelist = []) :
    pool.Exhausted := by
  have noFree : pool.uiNumFree = 0 := by
    rw [← UInt16.toNat_inj, balanced.free, empty]
    rfl
  constructor
  · exact empty
  · exact noFree
  · exact balanced.inUse
  · intro _
    have low := balanced.low
    rw [noFree] at low
    exact UInt16.le_zero_iff.mp low
  · exact balanced.high

theorem Exhausted.added_balanced (exhausted : pool.Exhausted) (numbered : pool.Numbered next)
    (small : uiCount.toNat ≤ 65535) : (pool.added next uiCount).Balanced := by
  have count : uiCount.toUInt16.toNat = uiCount.toNat := by
    rw [UInt32.toNat_toUInt16]
    exact Nat.mod_eq_of_lt (Nat.lt_succ_of_le small)
  constructor
  · simp only [added, exhausted.empty, exhausted.noFree, UInt16.zero_add, List.append_nil,
      List.length_reverse, List.length_range', count]
  · exact exhausted.inUse
  · intro pxRsrc isFree isActive
    simp only [added, exhausted.empty, List.append_nil, List.mem_reverse,
      List.mem_range'_1] at isFree
    exact absurd (numbered.activeBelow pxRsrc isActive) (Nat.not_lt_of_le isFree.1)
  · simp only [added, exhausted.noFree, UInt16.zero_add]
    split
    · exact UInt16.le_refl _
    · next owned =>
        have inUse : pool.uiNumInUse ≠ 0 := by
          intro none
          rw [none] at owned
          exact owned rfl
        rw [exhausted.low inUse]
        exact UInt16.zero_le
  · exact exhausted.high

theorem Exhausted.added_numbered (exhausted : pool.Exhausted) (numbered : pool.Numbered next) :
    (pool.added next uiCount).Numbered (next + uiCount.toNat) := by
  constructor
  · simp only [added, exhausted.empty, List.append_nil, List.nodup_reverse]
    exact List.nodup_range'
  · exact numbered.active
  · intro pxRsrc isFree
    simp only [added, exhausted.empty, List.append_nil, List.mem_reverse,
      List.mem_range'_1] at isFree
    exact isFree.2
  · intro pxRsrc isActive
    exact Nat.lt_of_lt_of_le (numbered.activeBelow pxRsrc isActive) (Nat.le_add_right _ _)

/-- The additions that stay below the maximum. -/
theorem Exhausted.added_limited_iff (exhausted : pool.Exhausted)
    (small : uiCount.toNat ≤ 65535) :
    (pool.added next uiCount).Limited ↔
      (pool.uiMaxNumRes ≠ 0 →
        pool.uiNumInUse.toNat + uiCount.toNat ≤ pool.uiMaxNumRes.toNat) := by
  have count : uiCount.toUInt16.toNat = uiCount.toNat := by
    rw [UInt32.toNat_toUInt16]
    exact Nat.mod_eq_of_lt (Nat.lt_succ_of_le small)
  simp only [Limited, added, exhausted.noFree, UInt16.zero_add, count]

end Adding

/-! ## Taking a resource -/

section Taking

variable {pool : RsrcPool} {next : Nat} {first : Nat} {rest : List Nat}

/-- The pool with the first free resource in use. -/
def taken (pool : RsrcPool) (first : Nat) (rest : List Nat) : RsrcPool :=
  { pool with
    pxFreelist := rest
    uiNumFree := pool.uiNumFree - 1
    uiLowWater :=
      if pool.uiNumFree - 1 < pool.uiLowWater then pool.uiNumFree - 1 else pool.uiLowWater
    ulTotalAllocs := pool.ulTotalAllocs + 1
    xActive := first :: pool.xActive
    uiNumInUse := pool.uiNumInUse + 1
    uiHiWater :=
      if pool.uiNumInUse + 1 > pool.uiHiWater then pool.uiNumInUse + 1 else pool.uiHiWater }

theorem take_of_free (free : pool.pxFreelist = first :: rest) :
    pool.take = (some first, pool.taken first rest) := by
  rw [take, free]
  rfl

theorem succ_toNat {count : UInt16} (room : count ≠ 65535) :
    (count + 1).toNat = count.toNat + 1 := by
  have below : count.toNat ≠ 65535 := fun full => room (UInt16.toNat_inj.mp full)
  have bounded := count.toNat_lt
  rw [UInt16.toNat_add, UInt16.toNat_one]
  exact Nat.mod_eq_of_lt (by omega)

theorem pred_toNat {count : UInt16} (positive : 0 < count.toNat) :
    (count - 1).toNat = count.toNat - 1 := by
  rw [UInt16.toNat_sub_of_le, UInt16.toNat_one]
  rw [UInt16.le_iff_toNat_le]
  exact positive

theorem total_le_succ_iff (total : UInt64) :
    total ≤ total + 1 ↔ total ≠ 18446744073709551615 := by
  have bounded := total.toNat_lt
  rw [UInt64.le_iff_toNat_le, UInt64.toNat_add, UInt64.toNat_one, Ne, ← UInt64.toNat_inj]
  have full : (18446744073709551615 : UInt64).toNat = 18446744073709551615 := rfl
  rw [full]
  omega

theorem Balanced.taken_numbered (balanced : pool.Balanced) (numbered : pool.Numbered next)
    (free : pool.pxFreelist = first :: rest) : (pool.taken first rest).Numbered next := by
  have firstFree : first ∈ pool.pxFreelist := by
    rw [free]
    exact List.mem_cons_self
  have nodup := numbered.free
  rw [free, List.nodup_cons] at nodup
  constructor
  · exact nodup.2
  · exact List.nodup_cons.mpr ⟨balanced.apart first firstFree, numbered.active⟩
  · intro pxRsrc isFree
    apply numbered.freeBelow
    rw [free]
    exact List.mem_cons_of_mem first isFree
  · intro pxRsrc isActive
    rcases List.mem_cons.mp isActive with rfl | isActive
    · exact numbered.freeBelow pxRsrc firstFree
    · exact numbered.activeBelow pxRsrc isActive

theorem Balanced.taken_balanced (balanced : pool.Balanced) (numbered : pool.Numbered next)
    (free : pool.pxFreelist = first :: rest) (room : pool.uiNumInUse ≠ 65535) :
    (pool.taken first rest).Balanced := by
  have freeCount : pool.uiNumFree.toNat = rest.length + 1 := by
    rw [balanced.free, free]
    rfl
  have positive : 0 < pool.uiNumFree.toNat := by
    rw [freeCount]
    exact Nat.succ_pos _
  have nodup := numbered.free
  rw [free, List.nodup_cons] at nodup
  constructor
  · simp only [taken]
    rw [pred_toNat positive, freeCount]
    rfl
  · simp only [taken]
    rw [succ_toNat room, balanced.inUse]
    rfl
  · intro pxRsrc isFree isActive
    rcases List.mem_cons.mp isActive with rfl | isActive
    · exact nodup.1 isFree
    · apply balanced.apart pxRsrc _ isActive
      rw [free]
      exact List.mem_cons_of_mem first isFree
  · simp only [taken]
    split
    · exact UInt16.le_refl _
    · next notBelow => exact UInt16.not_lt.mp notBelow
  · simp only [taken]
    split
    · exact UInt16.le_refl _
    · next notAbove => exact UInt16.not_lt.mp notAbove

/-- An allocation from the free list keeps the accounts exactly if they were kept up to
it and there is room for one more in use. -/
theorem Balanced.taken_accounted_iff (balanced : pool.Balanced) (numbered : pool.Numbered next)
    (free : pool.pxFreelist = first :: rest) :
    (pool.taken first rest).Accounted ↔ pool.uiNumInUse ≠ 65535 ∧ pool.Limited := by
  have positive : 0 < pool.uiNumFree.toNat := by
    rw [balanced.free, free]
    exact Nat.succ_pos _
  have limited (room : pool.uiNumInUse ≠ 65535) :
      (pool.taken first rest).Limited ↔ pool.Limited := by
    simp only [Limited, taken]
    rw [succ_toNat room, pred_toNat positive]
    apply imp_congr Iff.rfl
    omega
  constructor
  · intro accounted
    have room : pool.uiNumInUse ≠ 65535 := by
      intro full
      have counted := accounted.inUse
      simp only [taken, full, List.length_cons] at counted
      exact absurd counted (Nat.succ_ne_zero _).symm
    exact ⟨room, (limited room).mp accounted.limit⟩
  · rintro ⟨room, isLimited⟩
    exact ⟨balanced.taken_balanced numbered free room, (limited room).mpr isLimited⟩

end Taking

/-! ## Allocations from one pool -/

section Allocation

variable {pool : RsrcPool} {next : Nat} {heap : RsrcHeap} {pcRequestor : Option String}
  {xPayloadLen : Nat}

/-- There is a resource to take, or there will be after an addition. -/
def Supplied (pool : RsrcPool) (heap : RsrcHeap) : Prop :=
  pool.pxFreelist = [] → pool.uiIncrement ≠ 0 ∧ heap.memory = true

/-- The pool a supplied allocation takes from, and the number of the next new resource. -/
def replenished (pool : RsrcPool) (next : Nat) : RsrcPool × Nat :=
  match pool.pxFreelist with
  | [] => (pool.added next pool.uiIncrement.toUInt32, next + pool.uiIncrement.toNat)
  | _ :: _ => (pool, next)

theorem replenished_taken_shape (first : Nat) (rest : List Nat) :
    pool.SameShape ((pool.replenished next).1.taken first rest) := by
  rw [replenished]
  split
  · exact ⟨rfl, rfl, rfl, rfl⟩
  · exact ⟨rfl, rfl, rfl, rfl⟩

theorem le_replenished : next ≤ (pool.replenished next).2 := by
  rw [replenished]
  split
  · exact Nat.le_add_right _ _
  · exact Nat.le_refl _

/-- Only an allocation counts as one, not the addition before it. -/
theorem replenished_counts :
    (pool.replenished next).1.xActive = pool.xActive ∧
      (pool.replenished next).1.uiNumInUse = pool.uiNumInUse ∧
      (pool.replenished next).1.ulTotalAllocs = pool.ulTotalAllocs := by
  rw [replenished]
  split
  · exact ⟨rfl, rfl, rfl⟩
  · exact ⟨rfl, rfl, rfl⟩

/-- The addition of an allocation stays below the maximum. -/
def IncrementFits (pool : RsrcPool) : Prop :=
  pool.pxFreelist = [] → pool.uiMaxNumRes ≠ 0 →
    pool.uiNumInUse.toNat + pool.uiIncrement.toNat ≤ pool.uiMaxNumRes.toNat

theorem toUInt32_ne_zero {count : UInt16} (positive : count ≠ 0) : count.toUInt32 ≠ 0 := by
  intro zero
  apply positive
  rw [← UInt16.toNat_inj, ← UInt16.toNat_toUInt32, zero]
  rfl

theorem varAlloc_refused (refused : pool.refuses pcRequestor xPayloadLen = true) :
    pool.pxRsrcVarAlloc heap next pcRequestor xPayloadLen = .ok (none, pool, next) := by
  rw [pxRsrcVarAlloc, if_pos refused]
  rfl

/-- An allocation that finds no resource and is refused the memory for more. -/
theorem varAlloc_oom (accepted : pool.refuses pcRequestor xPayloadLen = false)
    (empty : pool.pxFreelist = []) (positive : pool.uiIncrement ≠ 0)
    (refused : heap.memory = false) :
    pool.pxRsrcVarAlloc heap next pcRequestor xPayloadLen =
      if heap.vRsrcOOMfn then .ok (none, pool, next) else .error .abort := by
  rw [pxRsrcVarAlloc, accepted, empty]
  simp only [add2Pool_refused (toUInt32_ne_zero positive) refused]
  cases heap.vRsrcOOMfn <;> rfl

/-- An allocation that finds no resource and gets none leaves the pool as it is. -/
theorem varAlloc_not_supplied (notSupplied : ¬ pool.Supplied heap) :
    pool.pxRsrcVarAlloc heap next pcRequestor xPayloadLen = .ok (none, pool, next) ∨
      pool.pxRsrcVarAlloc heap next pcRequestor xPayloadLen = .error .abort := by
  cases accepted : pool.refuses pcRequestor xPayloadLen with
  | true => exact .inl (varAlloc_refused accepted)
  | false =>
      rw [Supplied, Classical.not_imp, not_and_or, not_not, Bool.not_eq_true] at notSupplied
      obtain ⟨empty, zero | refused⟩ := notSupplied
      · rw [pxRsrcVarAlloc, accepted, empty, zero]
        exact .inl rfl
      · by_cases zero : pool.uiIncrement = 0
        · rw [pxRsrcVarAlloc, accepted, empty, zero]
          exact .inl rfl
        · rw [varAlloc_oom accepted empty zero refused]
          cases heap.vRsrcOOMfn
          · exact .inr rfl
          · exact .inl rfl

/-- What a supplied allocation takes. -/
theorem varAlloc_supplied (accepted : pool.refuses pcRequestor xPayloadLen = false)
    (supplied : pool.Supplied heap) :
    ∃ first rest, (pool.replenished next).1.pxFreelist = first :: rest ∧
      pool.pxRsrcVarAlloc heap next pcRequestor xPayloadLen =
        .ok (some first, (pool.replenished next).1.taken first rest, (pool.replenished next).2) := by
  rw [pxRsrcVarAlloc, accepted, replenished]
  cases free : pool.pxFreelist with
  | cons first rest =>
      refine ⟨first, rest, free, ?_⟩
      simp only [Bool.false_eq_true, if_false, take_of_free free]
      rfl
  | nil =>
      obtain ⟨positive, granted⟩ := supplied free
      have nonempty : (pool.added next pool.uiIncrement.toUInt32).pxFreelist ≠ [] := by
        simp only [added, free, List.append_nil, UInt16.toNat_toUInt32, Ne,
          List.reverse_eq_nil_iff, List.range'_eq_nil_iff]
        exact fun zero => positive (UInt16.toNat_inj.mp zero)
      obtain ⟨first, rest, isFree⟩ := List.exists_cons_of_ne_nil nonempty
      refine ⟨first, rest, isFree, ?_⟩
      have counted : ¬ ((pool.uiIncrement.toUInt32.toNat : Int) ≤ 0) := by
        have notZero : pool.uiIncrement.toNat ≠ 0 := fun zero =>
          positive (UInt16.toNat_inj.mp zero)
        rw [UInt16.toNat_toUInt32]
        omega
      simp only [Bool.false_eq_true, if_false, add2Pool_granted (toUInt32_ne_zero positive) granted,
        bind, Except.bind, counted, take_of_free isFree]
      rfl

theorem small_increment (count : UInt16) : count.toUInt32.toNat ≤ 65535 := by
  rw [UInt16.toNat_toUInt32]
  exact Nat.le_of_lt_succ count.toNat_lt

/-- What an allocation takes from is balanced, and stays below the maximum if the
addition does. -/
theorem Accounted.replenished (accounted : pool.Accounted) (numbered : pool.Numbered next) :
    (pool.replenished next).1.Balanced ∧
      (pool.replenished next).1.Numbered (pool.replenished next).2 ∧
      ((pool.replenished next).1.Limited ↔ pool.IncrementFits) := by
  rw [RsrcPool.replenished]
  cases free : pool.pxFreelist with
  | cons first rest =>
      refine ⟨accounted.toBalanced, numbered, iff_of_true accounted.limit ?_⟩
      intro empty
      rw [free] at empty
      cases empty
  | nil =>
      have exhausted := accounted.exhausted free
      have small := small_increment pool.uiIncrement
      refine ⟨exhausted.added_balanced numbered small, ?_, ?_⟩
      · exact UInt16.toNat_toUInt32 pool.uiIncrement ▸ exhausted.added_numbered numbered
      · rw [exhausted.added_limited_iff small, UInt16.toNat_toUInt32]
        exact ⟨fun fits _ => fits, fun fits => fits free⟩

/-- The allocations that keep the accounts of their pool. -/
def AllocSupported (pool : RsrcPool) (heap : RsrcHeap) (pcRequestor : Option String)
    (xPayloadLen : Nat) : Prop :=
  pool.refuses pcRequestor xPayloadLen = false → pool.Supplied heap →
    pool.CountsOneMore ∧ pool.IncrementFits

/-- What an allocation that takes a resource makes of its pool. -/
structure Takes (pool : RsrcPool) (next first : Nat) (after : RsrcPool) (later : Nat) : Prop where
  active : after.xActive = first :: pool.xActive
  free : after.pxFreelist.length + 1 =
    if pool.pxFreelist = [] then pool.uiIncrement.toNat else pool.pxFreelist.length
  shape : pool.SameShape after
  grown : next ≤ later
  accounted : after.Accounted ↔ pool.uiNumInUse ≠ 65535 ∧ pool.IncrementFits
  total : pool.ulTotalAllocs ≤ after.ulTotalAllocs ↔
    pool.ulTotalAllocs ≠ 18446744073709551615
  numbered : after.Numbered later

theorem Takes.accounted_iff {first later : Nat} {after : RsrcPool}
    (takes : pool.Takes next first after later) :
    after.Accounted ∧ pool.ulTotalAllocs ≤ after.ulTotalAllocs ↔
      pool.CountsOneMore ∧ pool.IncrementFits := by
  rw [takes.accounted, takes.total, CountsOneMore, and_right_comm]

/-- The resource taken was not in use. -/
theorem Takes.fresh {first later : Nat} {after : RsrcPool}
    (takes : pool.Takes next first after later) : first ∉ pool.xActive := by
  have active := takes.numbered.active
  rw [takes.active] at active
  exact (List.nodup_cons.mp active).1

/-- The free resources that are left behind a supplied allocation. -/
theorem replenished_free {first : Nat} {rest : List Nat}
    (free : (pool.replenished next).1.pxFreelist = first :: rest) :
    rest.length + 1 =
      if pool.pxFreelist = [] then pool.uiIncrement.toNat else pool.pxFreelist.length := by
  have length : (pool.replenished next).1.pxFreelist.length = rest.length + 1 := by
    rw [free]
    rfl
  rw [← length, replenished]
  split
  · next empty =>
      simp only [added, empty, List.append_nil, List.length_reverse, List.length_range',
        UInt16.toNat_toUInt32, if_true]
  · next nonempty => simp only [nonempty, List.cons_ne_nil, if_false]

theorem Accounted.varAlloc_takes (accounted : pool.Accounted) (numbered : pool.Numbered next)
    (accepted : pool.refuses pcRequestor xPayloadLen = false) (supplied : pool.Supplied heap) :
    ∃ first after later,
      pool.pxRsrcVarAlloc heap next pcRequestor xPayloadLen = .ok (some first, after, later) ∧
      pool.Takes next first after later := by
  obtain ⟨first, rest, free, run⟩ :=
    @varAlloc_supplied pool next heap pcRequestor xPayloadLen accepted supplied
  obtain ⟨balanced, isNumbered, limited⟩ := accounted.replenished numbered
  obtain ⟨active, inUse, total⟩ := @replenished_counts pool next
  refine ⟨first, _, _, run, ?_⟩
  constructor
  · exact congrArg (first :: ·) active
  · exact replenished_free free
  · exact replenished_taken_shape first rest
  · exact le_replenished
  · rw [balanced.taken_accounted_iff isNumbered free, limited, inUse]
  · rw [taken, total]
    exact total_le_succ_iff pool.ulTotalAllocs
  · exact balanced.taken_numbered isNumbered free

/-- One allocation: it faults, or the accounts are kept exactly if it is supported. -/
theorem Accounted.varAlloc (accounted : pool.Accounted) (numbered : pool.Numbered next) :
    pool.pxRsrcVarAlloc heap next pcRequestor xPayloadLen = .error .abort ∧
        pool.AllocSupported heap pcRequestor xPayloadLen ∨
      ∃ pxRsrc after later,
        pool.pxRsrcVarAlloc heap next pcRequestor xPayloadLen = .ok (pxRsrc, after, later) ∧
        next ≤ later ∧
        (after.Accounted ∧ pool.ulTotalAllocs ≤ after.ulTotalAllocs ↔
          pool.AllocSupported heap pcRequestor xPayloadLen) ∧
        after.Numbered later := by
  by_cases accepted : pool.refuses pcRequestor xPayloadLen = false
  · by_cases supplied : pool.Supplied heap
    · obtain ⟨first, after, later, run, takes⟩ :=
        @Accounted.varAlloc_takes pool next heap pcRequestor xPayloadLen accounted numbered
          accepted supplied
      refine .inr ⟨_, _, _, run, takes.grown, takes.accounted_iff.trans ?_, takes.numbered⟩
      exact ⟨fun both _ _ => both, fun supported => supported accepted supplied⟩
    · have supported : pool.AllocSupported heap pcRequestor xPayloadLen :=
        fun _ isSupplied => absurd isSupplied supplied
      rcases @varAlloc_not_supplied pool next heap pcRequestor xPayloadLen supplied with run | run
      · refine .inr ⟨_, _, _, run, Nat.le_refl _, ?_, numbered⟩
        exact iff_of_true ⟨accounted, UInt64.le_refl _⟩ supported
      · exact .inl ⟨run, supported⟩
  · have supported : pool.AllocSupported heap pcRequestor xPayloadLen :=
      fun isAccepted => absurd isAccepted accepted
    rw [Bool.not_eq_false] at accepted
    refine .inr ⟨_, _, _, varAlloc_refused accepted, Nat.le_refl _, ?_, numbered⟩
    exact iff_of_true ⟨accounted, UInt64.le_refl _⟩ supported

/-- An allocation leaves alone what its pool was set up with. -/
theorem varAlloc_shape {result : Option Nat} {after : RsrcPool} {later : Nat}
    (run : pool.pxRsrcVarAlloc heap next pcRequestor xPayloadLen = .ok (result, after, later)) :
    pool.SameShape after := by
  cases accepted : pool.refuses pcRequestor xPayloadLen with
  | true =>
      rw [varAlloc_refused accepted] at run
      cases run
      exact SameShape.refl pool
  | false =>
      by_cases supplied : pool.Supplied heap
      · obtain ⟨first, rest, -, taken⟩ :=
          @varAlloc_supplied pool next heap pcRequestor xPayloadLen accepted supplied
        rw [taken] at run
        cases run
        exact replenished_taken_shape first rest
      · rcases @varAlloc_not_supplied pool next heap pcRequestor xPayloadLen supplied with
          same | aborts
        · rw [same] at run
          cases run
          exact SameShape.refl pool
        · rw [aborts] at run
          cases run

end Allocation

/-! ## Freeing a resource -/

section Freeing

variable {pool : RsrcPool} {next : Nat} {pxRsrc : Nat}

/-- The resources freed that the counter of the free ones has room for. -/
def FreeSupported (pool : RsrcPool) : Prop :=
  pool.uiFreeOnFree = true ∨ pool.uiNumFree ≠ 65535

theorem vRsrcFree_shape : pool.SameShape (pool.vRsrcFree pxRsrc) := by
  rw [vRsrcFree]
  split
  · exact ⟨rfl, rfl, rfl, rfl⟩
  · exact ⟨rfl, rfl, rfl, rfl⟩

theorem vRsrcFree_active : (pool.vRsrcFree pxRsrc).xActive = pool.xActive.erase pxRsrc := by
  rw [vRsrcFree]
  split
  · rfl
  · rfl

theorem vRsrcFree_numbered (numbered : pool.Numbered next) (accounted : pool.Accounted)
    (live : pxRsrc ∈ pool.xActive) : (pool.vRsrcFree pxRsrc).Numbered next := by
  have active : (pool.xActive.erase pxRsrc).Nodup := numbered.active.erase pxRsrc
  have below : ∀ other ∈ pool.xActive.erase pxRsrc, other < next :=
    fun other member => numbered.activeBelow other (List.mem_of_mem_erase member)
  rw [vRsrcFree]
  split
  · exact ⟨numbered.free, active, numbered.freeBelow, below⟩
  · refine ⟨?_, active, ?_, below⟩
    · exact List.nodup_cons.mpr ⟨fun free => accounted.apart pxRsrc free live, numbered.free⟩
    · intro other member
      rcases List.mem_cons.mp member with rfl | member
      · exact numbered.activeBelow other live
      · exact numbered.freeBelow other member

/-- A resource freed keeps the accounts exactly if its pool does not keep it or can
count it. -/
theorem vRsrcFree_accounted_iff (accounted : pool.Accounted) (numbered : pool.Numbered next)
    (live : pxRsrc ∈ pool.xActive) :
    (pool.vRsrcFree pxRsrc).Accounted ↔ pool.FreeSupported := by
  have positive : 0 < pool.uiNumInUse.toNat := by
    rw [accounted.inUse]
    exact List.length_pos_of_mem live
  have inUse : (pool.uiNumInUse - 1).toNat = (pool.xActive.erase pxRsrc).length := by
    rw [pred_toNat positive, accounted.inUse, List.length_erase_of_mem live]
  have high : pool.uiNumInUse - 1 ≤ pool.uiHiWater := by
    have atMost := UInt16.le_iff_toNat_le.mp accounted.high
    rw [UInt16.le_iff_toNat_le, pred_toNat positive]
    omega
  have gone : pxRsrc ∉ pool.xActive.erase pxRsrc := numbered.active.not_mem_erase
  have apart : ∀ other ∈ pool.pxFreelist, other ∉ pool.xActive.erase pxRsrc :=
    fun other free active => accounted.apart other free (List.mem_of_mem_erase active)
  rw [vRsrcFree]
  cases freeOnFree : pool.uiFreeOnFree with
  | true =>
      refine iff_of_true ?_ (.inl freeOnFree)
      simp only [if_true]
      refine ⟨⟨accounted.free, inUse, apart, accounted.low, high⟩, ?_⟩
      intro hasLimit
      have limit := accounted.limit hasLimit
      simp only [pred_toNat positive]
      omega
  | false =>
      simp only [Bool.false_eq_true, if_false, prvvFreeResTail, FreeSupported, freeOnFree,
        false_or]
      constructor
      · intro freed full
        have counted := freed.free
        simp only [full, List.length_cons] at counted
        exact absurd counted (Nat.succ_ne_zero _).symm
      · intro room
        refine ⟨⟨?_, inUse, ?_, ?_, high⟩, ?_⟩
        · simp only [succ_toNat room, accounted.free, List.length_cons]
        · intro other free active
          rcases List.mem_cons.mp free with rfl | free
          · exact gone active
          · exact apart other free active
        · have low := UInt16.le_iff_toNat_le.mp accounted.low
          simp only [UInt16.le_iff_toNat_le, succ_toNat room]
          omega
        · intro hasLimit
          have limit := accounted.limit hasLimit
          simp only [pred_toNat positive, succ_toNat room]
          omega

end Freeing

/-! ## New pools -/

section Creation

variable {heap : RsrcHeap} {next : Nat} {pcName : String} {xRsrcSize : Nat}
  {uiInitAlloc uiIncrement uiMaxNumRes : UInt32}

/-- The initial resources of a new pool are granted and not more than its maximum. -/
def InitSupported (heap : RsrcHeap) (uiInitAlloc uiMaxNumRes : UInt32) : Prop :=
  (uiInitAlloc ≠ 0 → heap.memory = true) ∧
    (uiMaxNumRes ≠ 0 → uiInitAlloc.toNat ≤ uiMaxNumRes.toNat)

/-- The request for the initial resources ends the program. -/
def InitAborts (heap : RsrcHeap) (uiInitAlloc : UInt32) : Prop :=
  uiInitAlloc ≠ 0 ∧ heap.memory = false ∧ heap.vRsrcOOMfn = false

theorem setUp_exhausted :
    (setUp pcName xRsrcSize uiInitAlloc uiIncrement uiMaxNumRes).Exhausted where
  empty := rfl
  noFree := rfl
  inUse := rfl
  low := fun inUse => absurd rfl inUse
  high := UInt16.le_refl 0

theorem setUp_numbered :
    (setUp pcName xRsrcSize uiInitAlloc uiIncrement uiMaxNumRes).Numbered next where
  free := List.nodup_nil
  active := List.nodup_nil
  freeBelow := fun _ member => absurd member List.not_mem_nil
  activeBelow := fun _ member => absurd member List.not_mem_nil

theorem toUInt16_small {count : UInt32} (small : count.toNat ≤ 65535) :
    count.toUInt16.toNat = count.toNat := by
  rw [UInt32.toNat_toUInt16]
  exact Nat.mod_eq_of_lt (Nat.lt_succ_of_le small)

theorem toUInt16_eq_zero_iff {count : UInt32} (small : count.toNat ≤ 65535) :
    count.toUInt16 = 0 ↔ count = 0 := by
  rw [← UInt16.toNat_inj, toUInt16_small small, ← UInt32.toNat_inj]
  rfl

/-- A pool that got its initial resources. -/
structure Initial (xRsrcSize : Nat) (uiInitAlloc uiIncrement uiMaxNumRes : UInt32) (next : Nat)
    (pool : RsrcPool) : Prop where
  total : pool.ulTotalAllocs = 0
  inUse : pool.uiNumInUse = 0
  size : pool.uxSizeEach = xRsrcSize
  increment : pool.uiIncrement = uiIncrement.toUInt16
  maximum : pool.uiMaxNumRes = uiMaxNumRes.toUInt16
  freeOnFree : pool.uiFreeOnFree = (xRsrcSize == 0 || (uiIncrement ≤ 1 && uiInitAlloc ≤ 1))
  active : pool.xActive = []
  free : pool.pxFreelist.length = uiInitAlloc.toNat
  balanced : pool.Balanced
  numbered : pool.Numbered next
  limited : pool.Limited ↔ (uiMaxNumRes ≠ 0 → uiInitAlloc.toNat ≤ uiMaxNumRes.toNat)

theorem initPool_granted (small : uiInitAlloc.toNat ≤ 65535)
    (smallMax : uiMaxNumRes.toNat ≤ 65535) (granted : uiInitAlloc ≠ 0 → heap.memory = true) :
    ∃ after, prviRsrcInitPool heap next pcName xRsrcSize uiInitAlloc uiIncrement uiMaxNumRes =
        .ok (uiInitAlloc.toNat, after, next + uiInitAlloc.toNat) ∧
      after.Initial xRsrcSize uiInitAlloc uiIncrement uiMaxNumRes (next + uiInitAlloc.toNat) := by
  by_cases zero : uiInitAlloc = 0
  · subst zero
    refine ⟨setUp pcName xRsrcSize 0 uiIncrement uiMaxNumRes, rfl, rfl, rfl, rfl, rfl, rfl, rfl,
      rfl, rfl, ?_, setUp_numbered, ?_⟩
    · exact ⟨rfl, rfl, fun _ member => absurd member List.not_mem_nil, UInt16.le_refl 0,
        UInt16.le_refl 0⟩
    · exact iff_of_true (fun _ => Nat.zero_le _) (fun _ => Nat.zero_le _)
  · have balanced := (@setUp_exhausted pcName xRsrcSize uiInitAlloc uiIncrement
      uiMaxNumRes).added_balanced (@setUp_numbered next _ _ _ _ _) small
    refine ⟨(setUp pcName xRsrcSize uiInitAlloc uiIncrement uiMaxNumRes).added next uiInitAlloc,
      ?_, rfl, rfl, rfl, rfl, rfl, rfl, rfl, ?_, balanced,
      setUp_exhausted.added_numbered setUp_numbered, ?_⟩
    · rw [prviRsrcInitPool, if_pos zero, add2Pool_granted zero (granted zero)]
    · rw [← balanced.free, added, setUp]
      simp only [UInt16.zero_add, toUInt16_small small]
    · rw [setUp_exhausted.added_limited_iff small]
      simp only [setUp, Ne, toUInt16_eq_zero_iff smallMax, toUInt16_small smallMax,
        UInt16.toNat_zero, Nat.zero_add]

/-- A pool that did not get its initial resources, with a low water mark all the same. -/
theorem initPool_refused (small : uiInitAlloc.toNat ≤ 65535) (positive : uiInitAlloc ≠ 0)
    (refused : heap.memory = false) (handled : heap.vRsrcOOMfn = true) :
    prviRsrcInitPool heap next pcName xRsrcSize uiInitAlloc uiIncrement uiMaxNumRes =
        .ok (-1, setUp pcName xRsrcSize uiInitAlloc uiIncrement uiMaxNumRes, next) ∧
      ¬ (setUp pcName xRsrcSize uiInitAlloc uiIncrement uiMaxNumRes).Accounted := by
  constructor
  · rw [prviRsrcInitPool, if_pos positive, add2Pool_refused positive refused, handled]
    rfl
  · intro accounted
    have low : uiInitAlloc.toUInt16 ≤ 0 := accounted.low
    rw [UInt16.le_zero_iff, toUInt16_eq_zero_iff small] at low
    exact positive low

theorem initPool_aborts (aborts : InitAborts heap uiInitAlloc) :
    prviRsrcInitPool heap next pcName xRsrcSize uiInitAlloc uiIncrement uiMaxNumRes =
      .error .abort := by
  obtain ⟨positive, refused, unhandled⟩ := aborts
  rw [prviRsrcInitPool, if_pos positive, add2Pool_refused positive refused, unhandled]
  rfl

/-- A new pool that is created is accounted exactly if its initial resources are
supported. -/
theorem initPool_returns (small : uiInitAlloc.toNat ≤ 65535)
    (smallMax : uiMaxNumRes.toNat ≤ 65535) (returns : ¬ InitAborts heap uiInitAlloc) :
    ∃ count after later,
      prviRsrcInitPool heap next pcName xRsrcSize uiInitAlloc uiIncrement uiMaxNumRes =
        .ok (count, after, later) ∧ next ≤ later ∧
      (after.Accounted ↔ InitSupported heap uiInitAlloc uiMaxNumRes) ∧ after.Numbered later := by
  by_cases granted : uiInitAlloc ≠ 0 → heap.memory = true
  · obtain ⟨after, run, initial⟩ :=
      @initPool_granted heap next pcName xRsrcSize uiInitAlloc uiIncrement uiMaxNumRes small
        smallMax granted
    refine ⟨_, after, _, run, Nat.le_add_right _ _, ?_, initial.numbered⟩
    rw [InitSupported, ← initial.limited]
    exact ⟨fun accounted => ⟨granted, accounted.limit⟩, fun both => ⟨initial.balanced, both.2⟩⟩
  · rw [Classical.not_imp, Bool.not_eq_true] at granted
    obtain ⟨positive, refused⟩ := granted
    have handled : heap.vRsrcOOMfn = true := by
      rw [← Bool.not_eq_false]
      exact fun unhandled => returns ⟨positive, refused, unhandled⟩
    obtain ⟨run, notAccounted⟩ := @initPool_refused heap next pcName xRsrcSize uiInitAlloc
      uiIncrement uiMaxNumRes small positive refused handled
    refine ⟨_, _, _, run, Nat.le_refl _, iff_of_false notAccounted ?_, setUp_numbered⟩
    intro supported
    rw [supported.1 positive] at refused
    cases refused

end Creation

end RsrcPool

end RinaSense
