import RinaSense.Common.RsrcRuns

/-!
# Allocations that are served

One pool and the calls of its users. The number of resources is compared with the maximum
before the free list is looked at, the free ones included, and a pool of one initial
resource and no larger increment gives what is freed back to the heap. Which parameters
leave an allocation that could be served to one of these.
-/

namespace RinaSense

/-! ## Purpose -/

/-- A pool, the number of the next new resource, and whether the last call freed one. -/
structure PoolUse where
  pool : RsrcPool
  nextRsrc : Nat
  freed : Bool
  deriving Repr, DecidableEq

inductive PoolCall where
  | alloc (heap : RsrcHeap) (pcRequestor : Option String)
  | varAlloc (heap : RsrcHeap) (pcRequestor : Option String) (xPayloadLen : Nat)
  | free (pxRsrc : Nat)
  deriving Repr, DecidableEq

namespace RsrcPool

/-- The pool may grow by its increment. -/
def MayGrow (pool : RsrcPool) : Prop :=
  pool.uiIncrement ≠ 0 ∧
    (pool.uiMaxNumRes = 0 ∨
      pool.uiNumInUse.toNat + pool.uiNumFree.toNat + pool.uiIncrement.toNat ≤
        pool.uiMaxNumRes.toNat)

/-- There is room below the maximum for what an allocation compares with it. -/
def BelowMaximum (pool : RsrcPool) : Prop :=
  pool.uiMaxNumRes ≠ 0 →
    pool.uiNumInUse.toNat + pool.uiNumFree.toNat < pool.uiMaxNumRes.toNat

end RsrcPool

namespace PoolUse

def performAlloc (use : PoolUse) :
    Except RsrcFault (Option Nat × RsrcPool × Nat) →
      EStateM.Result RsrcFault PoolUse (Option Nat)
  | .ok (pxRsrc, pool, nextRsrc) => .ok pxRsrc { pool, nextRsrc, freed := false }
  | .error fault => .error fault use

/-- Only a resource in use is freed. -/
def perform : PoolCall → EStateM RsrcFault PoolUse (Option Nat)
  | .alloc heap pcRequestor => fun use =>
      use.performAlloc (use.pool.pxRsrcAlloc heap use.nextRsrc pcRequestor)
  | .varAlloc heap pcRequestor xPayloadLen => fun use =>
      use.performAlloc (use.pool.pxRsrcVarAlloc heap use.nextRsrc pcRequestor xPayloadLen)
  | .free pxRsrc => fun use =>
      if pxRsrc ∈ use.pool.xActive then
        .ok none { use with pool := use.pool.vRsrcFree pxRsrc, freed := true }
      else .error .notLive use

/-- An allocation now is to be served: a resource is free, or the pool may grow and there
is memory, or the pool had initial resources and one was just freed. -/
def Due (request : RsrcPools.NewPool) (use : PoolUse) (heap : RsrcHeap) : Prop :=
  use.pool.pxFreelist ≠ [] ∨ use.pool.MayGrow ∧ heap.memory = true ∨
    request.uiInitalloc ≠ 0 ∧ use.freed = true

/-- The allocations that are due are served. -/
def Served (request : RsrcPools.NewPool) (before : PoolUse) (call : PoolCall)
    (result : EStateM.Result RsrcFault PoolUse (Option Nat)) : Prop :=
  ∀ heap requestor, call = .alloc heap (some requestor) → before.Due request heap →
    ∃ pxRsrc after, result = .ok (some pxRsrc) after

end PoolUse

namespace RsrcPools.NewPool

end RsrcPools.NewPool

/-! ## What a call does -/

section Calls

variable {pool : RsrcPool} {next : Nat} {heap : RsrcHeap} {pcRequestor : Option String}
  {xPayloadLen : Nat}

theorem RsrcPool.refuses_alloc (requestor : String) (sized : pool.uxSizeEach ≠ 0) :
    pool.refuses (some requestor) pool.uxSizeEach = false ↔ pool.BelowMaximum := by
  simp only [refuses, Option.isNone_some, beq_eq_false_iff_ne.mpr sized, bne_self_eq_false,
    Bool.and_false, Bool.or_false, Bool.false_or, Bool.and_eq_false_imp, bne_iff_ne,
    decide_eq_false_iff_not, Nat.not_le, BelowMaximum]

end Calls

namespace PoolUse

/-- What a call that returns makes of the pool. -/
inductive Moves (use : PoolUse) : PoolUse → Prop where
  | same : Moves use { use with freed := false }
  | takes {first : Nat} {rest : List Nat}
      (below : use.pool.BelowMaximum)
      (free : (use.pool.replenished use.nextRsrc).1.pxFreelist = first :: rest) :
      Moves use
        { pool := (use.pool.replenished use.nextRsrc).1.taken first rest
          nextRsrc := (use.pool.replenished use.nextRsrc).2
          freed := false }
  | frees {pxRsrc : Nat} (live : pxRsrc ∈ use.pool.xActive) :
      Moves use { use with pool := use.pool.vRsrcFree pxRsrc, freed := true }

section Moves

variable {use next : PoolUse}

end Moves

/-! ## Pools that serve all their allocations -/

/-- A pool with the parameters of its creation. -/
structure CreatedFor (request : RsrcPools.NewPool) (pool : RsrcPool) : Prop where
  size : pool.uxSizeEach = request.xRsrcSize
  increment : pool.uiIncrement.toNat = request.uiIncrement.toNat
  maximum : pool.uiMaxNumRes.toNat = request.uiMaxNumRes.toNat
  freeOnFree : pool.uiFreeOnFree =
    (request.xRsrcSize == 0 || (request.uiIncrement ≤ 1 && request.uiInitalloc ≤ 1))

section Serving

variable {request : RsrcPools.NewPool} {use next : PoolUse} {pool : RsrcPool}

theorem CreatedFor.of_sameShape {after : RsrcPool} (created : CreatedFor request pool)
    (same : pool.SameShape after) : CreatedFor request after where
  size := same.size.trans created.size
  increment := (congrArg UInt16.toNat same.increment).trans created.increment
  maximum := (congrArg UInt16.toNat same.maximum).trans created.maximum
  freeOnFree := same.freeOnFree.trans created.freeOnFree

/-- The pools that keep what is freed. -/
theorem CreatedFor.keeps_iff (created : CreatedFor request pool) (sized : request.xRsrcSize ≠ 0) :
    pool.uiFreeOnFree = false ↔ request.uiIncrement ≤ 1 → 1 < request.uiInitalloc := by
  rw [created.freeOnFree, beq_eq_false_iff_ne.mpr sized, Bool.false_or, Bool.and_eq_false_imp,
    decide_eq_true_iff, decide_eq_false_iff_not, UInt32.not_le]

/-- What a pool keeps of its creation, and of the last call. -/
structure Kept (request : RsrcPools.NewPool) (use : PoolUse) : Prop where
  created : CreatedFor request use.pool
  freed : use.freed = true → use.pool.uiFreeOnFree = false → use.pool.pxFreelist ≠ []

theorem Kept.moves (kept : Kept request use) (moves : use.Moves next) : Kept request next := by
  cases moves with
  | same => exact ⟨kept.created, fun freed => nomatch freed⟩
  | @takes first rest _ _ =>
      exact ⟨kept.created.of_sameShape (RsrcPool.replenished_taken_shape first rest),
        fun freed => nomatch freed⟩
  | @frees pxRsrc live =>
      have shape := @RsrcPool.vRsrcFree_shape use.pool pxRsrc
      refine ⟨kept.created.of_sameShape shape, fun _ keeps => ?_⟩
      have keepsBefore : use.pool.uiFreeOnFree = false := shape.freeOnFree.symm.trans keeps
      simp only [RsrcPool.vRsrcFree, keepsBefore, Bool.false_eq_true, if_false,
        RsrcPool.prvvFreeResTail]
      exact List.cons_ne_nil _ _

/-- A due allocation has a resource to take. -/
theorem Kept.supplied (kept : Kept request use) {heap : RsrcHeap}
    (keeps : request.uiInitalloc ≠ 0 → use.pool.uiFreeOnFree = false)
    (due : use.Due request heap) : use.pool.Supplied heap := by
  intro empty
  rcases due with nonempty | ⟨mayGrow, memory⟩ | ⟨initial, freed⟩
  · exact absurd empty nonempty
  · exact ⟨mayGrow.1, memory⟩
  · exact absurd empty (kept.freed freed (keeps initial))

theorem alloc_run {heap : RsrcHeap} (requestor : String) (sized : use.pool.uxSizeEach ≠ 0)
    (below : use.pool.BelowMaximum) (supplied : use.pool.Supplied heap) :
    ∃ first rest, (use.pool.replenished use.nextRsrc).1.pxFreelist = first :: rest ∧
      (perform (.alloc heap (some requestor))).run use =
        .ok (some first)
          { pool := (use.pool.replenished use.nextRsrc).1.taken first rest
            nextRsrc := (use.pool.replenished use.nextRsrc).2
            freed := false } := by
  have accepted := (RsrcPool.refuses_alloc requestor sized).mpr below
  obtain ⟨first, rest, free, run⟩ :=
    @RsrcPool.varAlloc_supplied use.pool use.nextRsrc heap (some requestor) use.pool.uxSizeEach
      accepted supplied
  exact ⟨first, rest, free, congrArg use.performAlloc run⟩

theorem Kept.served (kept : Kept request use) (sized : request.xRsrcSize ≠ 0)
    (keeps : request.uiInitalloc ≠ 0 → use.pool.uiFreeOnFree = false)
    (below : ∀ heap, use.Due request heap → use.pool.BelowMaximum) (call : PoolCall) :
    Served request use call ((perform call).run use) := by
  rintro heap requestor rfl due
  have sizedPool : use.pool.uxSizeEach ≠ 0 := kept.created.size ▸ sized
  obtain ⟨first, rest, -, run⟩ :=
    alloc_run requestor sizedPool (below heap due) (kept.supplied keeps due)
  exact ⟨first, _, run⟩

/-- A pool that grows one by one from nothing has no free resource between calls. -/
structure OneByOne (request : RsrcPools.NewPool) (use : PoolUse) : Prop where
  kept : Kept request use
  empty : use.pool.pxFreelist = []

theorem OneByOne.moves (oneByOne : OneByOne request use) (increment : request.uiIncrement = 1)
    (initial : request.uiInitalloc = 0) (moves : use.Moves next) : OneByOne request next := by
  refine ⟨oneByOne.kept.moves moves, ?_⟩
  cases moves with
  | same => exact oneByOne.empty
  | @takes first rest _ free =>
      have left := RsrcPool.replenished_free free
      rw [if_pos oneByOne.empty, oneByOne.kept.created.increment, increment] at left
      exact List.length_eq_zero_iff.mp (Nat.succ.inj left)
  | @frees pxRsrc live =>
      have returned : use.pool.uiFreeOnFree = true := by
        rw [oneByOne.kept.created.freeOnFree, increment, initial]
        exact Bool.or_true _
      simp only [RsrcPool.vRsrcFree, returned, if_true]
      exact oneByOne.empty

/-- A pool that never grows has the resources it was created with. -/
structure NeverGrows (request : RsrcPools.NewPool) (use : PoolUse) : Prop where
  kept : Kept request use
  accounted : use.pool.Accounted
  numbered : use.pool.Numbered use.nextRsrc
  total : use.pool.xActive.length + use.pool.pxFreelist.length = request.uiInitalloc.toNat

theorem NeverGrows.counted (neverGrows : NeverGrows request use) :
    use.pool.uiNumInUse.toNat + use.pool.uiNumFree.toNat = request.uiInitalloc.toNat := by
  rw [neverGrows.accounted.inUse, neverGrows.accounted.free]
  exact neverGrows.total

theorem NeverGrows.replenished (neverGrows : NeverGrows request use)
    (increment : request.uiIncrement = 0) {first : Nat} {rest : List Nat}
    (free : (use.pool.replenished use.nextRsrc).1.pxFreelist = first :: rest) :
    use.pool.replenished use.nextRsrc = (use.pool, use.nextRsrc) := by
  cases isFree : use.pool.pxFreelist with
  | nil =>
      have left := RsrcPool.replenished_free free
      rw [if_pos isFree, neverGrows.kept.created.increment, increment] at left
      exact absurd left (Nat.succ_ne_zero _)
  | cons other others => rw [RsrcPool.replenished, isFree]

theorem NeverGrows.moves (neverGrows : NeverGrows request use)
    (increment : request.uiIncrement = 0) (some_initial : 2 ≤ request.uiInitalloc)
    (small : request.uiInitalloc.toNat < 65535) (sized : request.xRsrcSize ≠ 0)
    (moves : use.Moves next) : NeverGrows request next := by
  have counted := neverGrows.counted
  cases moves with
  | same =>
      exact ⟨neverGrows.kept.moves .same, neverGrows.accounted, neverGrows.numbered,
        neverGrows.total⟩
  | @takes first rest below free =>
      have kept := neverGrows.kept.moves (.takes below free)
      have unchanged := neverGrows.replenished increment free
      rw [unchanged] at free kept ⊢
      have room : use.pool.uiNumInUse ≠ 65535 := by
        intro full
        have inUse : use.pool.uiNumInUse.toNat = 65535 := congrArg UInt16.toNat full
        omega
      have total := neverGrows.total
      rw [free] at total
      refine ⟨kept, ?_, neverGrows.accounted.taken_numbered neverGrows.numbered free, ?_⟩
      · exact (neverGrows.accounted.taken_accounted_iff neverGrows.numbered free).mpr
          ⟨room, neverGrows.accounted.limit⟩
      · simp only [RsrcPool.taken, List.length_cons] at total ⊢
        omega
  | @frees pxRsrc live =>
      have keeps : use.pool.uiFreeOnFree = false :=
        (neverGrows.kept.created.keeps_iff sized).mpr fun _ =>
          UInt32.lt_iff_toNat_lt.mpr (UInt32.le_iff_toNat_le.mp some_initial)
      have room : use.pool.uiNumFree ≠ 65535 := by
        intro full
        have free : use.pool.uiNumFree.toNat = 65535 := congrArg UInt16.toNat full
        omega
      refine ⟨neverGrows.kept.moves (.frees live), ?_, ?_, ?_⟩
      · exact (RsrcPool.vRsrcFree_accounted_iff neverGrows.accounted neverGrows.numbered live).mpr
          (.inr room)
      · exact RsrcPool.vRsrcFree_numbered neverGrows.numbered neverGrows.accounted live
      · have erased := List.length_erase_of_mem live
        have positive := List.length_pos_of_mem live
        have total := neverGrows.total
        simp only [RsrcPool.vRsrcFree, keeps, Bool.false_eq_true, if_false,
          RsrcPool.prvvFreeResTail, List.length_cons]
        omega

/-- The state a pool is left in by its creation. -/
def created (pool : RsrcPool) (nextRsrc : Nat) : PoolUse where
  pool := pool
  nextRsrc := nextRsrc
  freed := false

/-- A pool as its creation leaves it. -/
abbrev InitialFor (request : RsrcPools.NewPool) (pool : RsrcPool) (nextRsrc : Nat) : Prop :=
  pool.Initial request.xRsrcSize request.uiInitalloc request.uiIncrement request.uiMaxNumRes
    nextRsrc

end Serving

/-! ## Pools that refuse a due allocation -/

section Refusing

variable {request : RsrcPools.NewPool} {use : PoolUse} {start : PoolUse}

/-- Some allocation that is due is not served. -/
def Fails (request : RsrcPools.NewPool) (start : PoolUse) : Prop :=
  ∃ state, Trace.Reached perform start state ∧
    ∃ call, ¬ Served request state call ((perform call).run state)

theorem fails_of_none {heap : RsrcHeap} {after : PoolUse}
    (reached : Trace.Reached perform start use) (due : use.Due request heap)
    (run : (perform (.alloc heap (some "user"))).run use = .ok none after ∨
      (perform (.alloc heap (some "user"))).run use = .error .abort use) :
    Fails request start := by
  refine ⟨use, reached, .alloc heap (some "user"), fun served => ?_⟩
  obtain ⟨pxRsrc, later, isServed⟩ := served heap "user" rfl due
  rcases run with run | run
  · rw [run] at isServed
    cases isServed
  · rw [run] at isServed
    cases isServed

theorem fails_of_refused {heap : RsrcHeap} (reached : Trace.Reached perform start use)
    (due : use.Due request heap)
    (refused : use.pool.refuses (some "user") use.pool.uxSizeEach = true) :
    Fails request start :=
  fails_of_none reached due
    (.inl (congrArg use.performAlloc (RsrcPool.varAlloc_refused refused)))

/-- A pool with as many resources as its maximum allocates none, even if it has free ones. -/
theorem fails_at_maximum (reached : Trace.Reached perform start use)
    (free : use.pool.pxFreelist ≠ []) (limited : use.pool.uiMaxNumRes ≠ 0)
    (full : use.pool.uiMaxNumRes.toNat ≤ use.pool.uiNumInUse.toNat + use.pool.uiNumFree.toNat) :
    Fails request start := by
  apply @fails_of_refused request use start ⟨true, true⟩ reached (.inl free)
  simp only [RsrcPool.refuses, bne_iff_ne.mpr limited, decide_eq_true full, Bool.and_true,
    Bool.or_true, Bool.true_or]

/-- A pool that grows, as it is while it grows. -/
structure Growing (use : PoolUse) : Prop where
  sized : use.pool.uxSizeEach ≠ 0
  grows : use.pool.uiIncrement ≠ 0
  limited : use.pool.uiMaxNumRes ≠ 0
  keeps : use.pool.uiFreeOnFree = false
  balanced : use.pool.Balanced
  numbered : use.pool.Numbered use.nextRsrc

/-- One more allocation with memory. -/
theorem Growing.alloc (growing : Growing use) (below : use.pool.BelowMaximum) :
    ∃ first after, (perform (.alloc ⟨true, true⟩ (some "user"))).run use = .ok (some first) after ∧
      Growing after ∧ after.pool.uiMaxNumRes = use.pool.uiMaxNumRes ∧
      after.pool.uiNumInUse.toNat = use.pool.uiNumInUse.toNat + 1 := by
  obtain ⟨first, rest, free, run⟩ :=
    @alloc_run use ⟨true, true⟩ "user" growing.sized below fun _ => ⟨growing.grows, rfl⟩
  have accounted : use.pool.Accounted :=
    ⟨growing.balanced, fun hasLimit => Nat.le_of_lt (below hasLimit)⟩
  obtain ⟨balanced, numbered, -⟩ := accounted.replenished growing.numbered
  obtain ⟨-, inUse, -⟩ := @RsrcPool.replenished_counts use.pool use.nextRsrc
  have shape := @RsrcPool.replenished_taken_shape use.pool use.nextRsrc first rest
  have room : use.pool.uiNumInUse ≠ 65535 := by
    intro full
    have counted : use.pool.uiNumInUse.toNat = 65535 := congrArg UInt16.toNat full
    have underMax := below growing.limited
    have small := use.pool.uiMaxNumRes.toNat_lt
    omega
  refine ⟨first, _, run, ⟨shape.size ▸ growing.sized, shape.increment ▸ growing.grows,
    shape.maximum ▸ growing.limited, shape.freeOnFree.trans growing.keeps, ?_, ?_⟩,
    shape.maximum, ?_⟩
  · exact balanced.taken_balanced numbered free (inUse ▸ room)
  · exact balanced.taken_numbered numbered free
  · rw [RsrcPool.taken, inUse]
    exact RsrcPool.succ_toNat room

/-- It comes to its maximum. The induction is on the resources not yet in use. -/
theorem Growing.reaches_maximum (growing : Growing use)
    (reached : Trace.Reached perform start use) :
    ∃ full, Trace.Reached perform start full ∧ Growing full ∧
      full.pool.uiMaxNumRes.toNat ≤ full.pool.uiNumInUse.toNat + full.pool.uiNumFree.toNat := by
  induction left : use.pool.uiMaxNumRes.toNat - use.pool.uiNumInUse.toNat generalizing use with
  | zero => exact ⟨use, reached, growing, by omega⟩
  | succ left ih =>
      by_cases full :
          use.pool.uiMaxNumRes.toNat ≤ use.pool.uiNumInUse.toNat + use.pool.uiNumFree.toNat
      · exact ⟨use, reached, growing, full⟩
      · obtain ⟨first, after, run, grown, maximum, inUse⟩ :=
          growing.alloc fun _ => Nat.lt_of_not_le full
        apply ih grown (reached.step run)
        rw [maximum, inUse]
        omega

/-- At the maximum there is a free resource, or one in use is freed. -/
theorem Growing.fails (growing : Growing use) (reached : Trace.Reached perform start use) :
    Fails request start := by
  obtain ⟨full, isReached, grown, atMaximum⟩ := growing.reaches_maximum reached
  cases isFree : full.pool.pxFreelist with
  | cons first rest =>
      apply fails_at_maximum isReached _ grown.limited atMaximum
      rw [isFree]
      exact List.cons_ne_nil first rest
  | nil =>
      have noFree : full.pool.uiNumFree = 0 := (grown.balanced.exhausted isFree).noFree
      have counted := grown.balanced.inUse
      have positive : full.pool.uiMaxNumRes.toNat ≠ 0 := fun zero =>
        grown.limited (UInt16.toNat_inj.mp zero)
      rw [noFree, UInt16.toNat_zero, Nat.add_zero] at atMaximum
      have inUse : 0 < full.pool.uiNumInUse.toNat := by omega
      obtain ⟨pxRsrc, live⟩ := List.exists_mem_of_length_pos (counted ▸ inUse)
      have freed : (perform (.free pxRsrc)).run full =
          .ok none { full with pool := full.pool.vRsrcFree pxRsrc, freed := true } := by
        simp only [EStateM.run, perform, live, if_true]
      have shape := @RsrcPool.vRsrcFree_shape full.pool pxRsrc
      have kept : full.pool.vRsrcFree pxRsrc =
          { full.pool with
            xActive := full.pool.xActive.erase pxRsrc
            uiNumInUse := full.pool.uiNumInUse - 1
            pxFreelist := [pxRsrc]
            uiNumFree := 1 } := by
        simp only [RsrcPool.vRsrcFree, grown.keeps, Bool.false_eq_true, if_false,
          RsrcPool.prvvFreeResTail, isFree, noFree, UInt16.zero_add]
      apply fails_at_maximum (isReached.step freed)
      · rw [kept]
        exact List.cons_ne_nil _ _
      · exact shape.maximum ▸ grown.limited
      · rw [kept]
        simp only [RsrcPool.pred_toNat inUse, UInt16.toNat_one]
        omega

end Refusing

end PoolUse

/-! ## The pools of the module -/

namespace RsrcPools

section Creation

variable {request : NewPool} {state after : RsrcPools} {poolHeap heap : RsrcHeap} {handle : Nat}
  {pool : RsrcPool}

theorem NewPool.smallIncrement (returns : request.aborts = false) :
    request.uiIncrement.toNat ≤ 65535 := by
  simp only [aborts, Bool.or_eq_false_iff, decide_eq_false_iff_not, GT.gt,
    UInt32.not_lt] at returns
  obtain ⟨⟨-, bounded⟩, -⟩ := returns
  exact (or_toNat_le (or_toNat_le (UInt32.le_iff_toNat_le.mp bounded)).1).2

theorem NewPool.small_variable (accepted : request.badVariable = false)
    (sizeless : request.xRsrcSize = 0) : request.uiIncrement ≤ 1 := by
  simp only [badVariable, sizeless, beq_self_eq_true, Bool.true_and, Bool.or_eq_false_iff,
    decide_eq_false_iff_not, GT.gt, UInt32.not_lt] at accepted
  exact accepted.2

theorem initial_of_newPoolFrom {poolPool : RsrcPool}
    (created : state.newPoolFrom poolPool poolHeap heap request = .ok (some handle, after))
    (found : after.pools[handle]? = some pool) (small : request.uiInitalloc.toNat ≤ 65535)
    (smallMax : request.uiMaxNumRes.toNat ≤ 65535) :
    PoolUse.InitialFor request pool after.nextRsrc := by
  rw [newPoolFrom] at created
  obtain ⟨⟨pxPool, later, next⟩, -, created⟩ := Command.bind_eq_ok.mp created
  simp only at created
  split at created
  · cases created
  · obtain ⟨⟨count, new, last⟩, init, created⟩ := Command.bind_eq_ok.mp created
    simp only at created
    split at created
    · cases created
    · next notNegative =>
        cases created
        rw [List.getElem?_concat_length] at found
        obtain rfl := Option.some.inj found
        by_cases granted : request.uiInitalloc ≠ 0 → heap.memory = true
        · obtain ⟨other, granted, initial⟩ :=
            @RsrcPool.initPool_granted heap next (request.pcName.getD "") request.xRsrcSize
              request.uiInitalloc request.uiIncrement request.uiMaxNumRes small smallMax granted
          rw [granted] at init
          cases init
          exact initial
        · rw [Classical.not_imp, Bool.not_eq_true] at granted
          rw [RsrcPool.prviRsrcInitPool, if_pos granted.1,
            RsrcPool.add2Pool_refused granted.1 granted.2] at init
          split at init
          · cases init
            exact absurd (by decide) notNegative
          · cases init

/-- A pool that was handed out is as its creation leaves it. -/
theorem initial_of_newPool
    (created : state.pxRsrcNewPool poolHeap heap request = .ok (some handle, after))
    (found : after.pools[handle]? = some pool) :
    request.aborts = false ∧ request.badVariable = false ∧
      PoolUse.InitialFor request pool after.nextRsrc := by
  rw [pxRsrcNewPool] at created
  cases returns : request.aborts with
  | true =>
      rw [returns] at created
      cases created
  | false =>
      cases accepted : request.badVariable with
      | true =>
          rw [returns, accepted] at created
          cases created
      | false =>
          refine ⟨rfl, rfl, ?_⟩
          rw [returns, accepted] at created
          obtain ⟨⟨ready, poolPool, next⟩, -, created⟩ := Command.bind_eq_ok.mp created
          obtain ⟨-, small, smallMax⟩ := NewPool.small returns
          cases ready with
          | false => cases created
          | true => exact initial_of_newPoolFrom created found small smallMax

end Creation

end RsrcPools

end RinaSense
