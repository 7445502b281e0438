import RinaSense.Common.RsrcAccounts
import RinaSense.Library.Trace

/-!
# Runs of the resource pools

The pools of the module as they are created, allocated from and freed to, the pool of
pools among them, and the runs that keep the accounts of all of them.
-/

namespace RinaSense

namespace RsrcPools

/-! ## Purpose -/

def all (state : RsrcPools) : List RsrcPool :=
  state.xRsrcPoolPool.toList ++ (state.pools ++ state.abandoned)

def Accounted (state : RsrcPools) : Prop := ∀ pool ∈ state.all, pool.Accounted

/-- No pool has fewer allocations than before. -/
structure CountsOn (before after : RsrcPools) : Prop where
  poolPool : ∀ pool, before.xRsrcPoolPool = some pool → ∃ later,
    after.xRsrcPoolPool = some later ∧ pool.ulTotalAllocs ≤ later.ulTotalAllocs
  pools : ∀ (handle : Nat) (pool : RsrcPool), before.pools[handle]? = some pool → ∃ later,
    after.pools[handle]? = some later ∧ pool.ulTotalAllocs ≤ later.ulTotalAllocs

/-- An operation that returns leaves all pools accounted, and no counter has wrapped. -/
def Properly (before : RsrcPools) :
    EStateM.Result RsrcFault RsrcPools RsrcResult → Prop
  | .error _ _ => True
  | .ok _ after => after.Accounted ∧ before.CountsOn after

/-- The creations that keep the accounts, with that pool of pools: one that gets no
struct or ends the program is no matter. -/
def SupportedFrom (poolPool : RsrcPool) (poolHeap heap : RsrcHeap) (request : NewPool) : Prop :=
  poolPool.Supplied poolHeap → ¬ RsrcPool.InitAborts heap request.uiInitalloc →
    poolPool.CountsOneMore ∧
      RsrcPool.InitSupported heap request.uiInitalloc request.uiMaxNumRes

/-- The creations that keep the accounts. The first one sets up the pool of pools. -/
def NewPoolSupported (state : RsrcPools) (poolHeap heap : RsrcHeap) (request : NewPool) : Prop :=
  match state.xRsrcPoolPool with
  | some poolPool => SupportedFrom poolPool poolHeap heap request
  | none =>
      if poolHeap.memory then
        ¬ RsrcPool.InitAborts heap request.uiInitalloc →
          RsrcPool.InitSupported heap request.uiInitalloc request.uiMaxNumRes
      else poolHeap.vRsrcOOMfn = false

/-- The operations that keep the accounts. -/
def Supported (state : RsrcPools) : RsrcOp → Prop
  | .newPool poolHeap heap request =>
      request.aborts = false → request.badVariable = false →
        state.NewPoolSupported poolHeap heap request
  | .alloc heap pxPool pcRequestor =>
      ∀ handle ∈ pxPool, ∀ pool ∈ state.pools[handle]?,
        pool.AllocSupported heap pcRequestor pool.uxSizeEach
  | .varAlloc heap pxPool pcRequestor xPayloadLen =>
      ∀ handle ∈ pxPool, ∀ pool ∈ state.pools[handle]?,
        pool.AllocSupported heap pcRequestor xPayloadLen
  | .free pvResPayload =>
      ∀ pxRsrc ∈ pvResPayload, ∀ pool ∈ state.pools[pxRsrc.pxPool]?,
        pxRsrc.number ∈ pool.xActive → pool.FreeSupported

/-- A pool of pools as it is set up, whatever its counters are. -/
structure PoolOfPools (pool : RsrcPool) : Prop where
  size : pool.uxSizeEach = rsrcPoolSize
  increment : pool.uiIncrement = 1
  unlimited : pool.uiMaxNumRes = 0

theorem PoolOfPools.of_sameShape {pool after : RsrcPool} (shape : PoolOfPools pool)
    (same : pool.SameShape after) : PoolOfPools after where
  size := same.size.trans shape.size
  increment := same.increment.trans shape.increment
  unlimited := same.maximum.trans shape.unlimited

/-- The pool of pools, if there is one, as it is set up. -/
def Shaped (state : RsrcPools) : Prop :=
  ∀ pool, state.xRsrcPoolPool = some pool → PoolOfPools pool

theorem shaped_startup : startup.Shaped := fun _ isPool => nomatch isPool

/-- All pools accounted, with their resources. -/
structure Ok (state : RsrcPools) : Prop where
  accounted : state.Accounted
  numbered : ∀ pool ∈ state.all, pool.Numbered state.nextRsrc
  shaped : state.Shaped

theorem ok_startup : Ok startup where
  accounted := fun _ member => absurd member List.not_mem_nil
  numbered := fun _ member => absurd member List.not_mem_nil
  shaped := shaped_startup

theorem CountsOn.refl (state : RsrcPools) : state.CountsOn state where
  poolPool := fun pool isPool => ⟨pool, isPool, UInt64.le_refl _⟩
  pools := fun _ pool isPool => ⟨pool, isPool, UInt64.le_refl _⟩

section Steps

variable {state : RsrcPools}

theorem forall_mem_some {α : Type} {value : α} {property : α → Prop} :
    (∀ other ∈ some value, property other) ↔ property value := by
  simp only [Option.mem_some, forall_eq']

theorem mem_all {pool : RsrcPool} :
    pool ∈ state.all ↔
      state.xRsrcPoolPool = some pool ∨ pool ∈ state.pools ∨ pool ∈ state.abandoned := by
  rw [all, List.mem_append, List.mem_append, Option.mem_toList]

/-- What an operation comes to: it faults, being supported, or it is proper exactly if
it is supported. -/
def Settles {α : Type} (state : RsrcPools) (run : Except RsrcFault (α × RsrcPools))
    (supported : Prop) : Prop :=
  ∃ fault, run = .error fault ∧ supported ∨
    ∃ result after, run = .ok (result, after) ∧
      (after.Accounted ∧ state.CountsOn after ↔ supported) ∧ (supported → after.Ok)

theorem Settles.unchanged {α : Type} {run : Except RsrcFault (α × RsrcPools)}
    {supported : Prop} (result : α) (ok : state.Ok) (same : run = .ok (result, state))
    (isSupported : supported) : state.Settles run supported :=
  ⟨.abort, .inr ⟨result, state, same,
    iff_of_true ⟨ok.accounted, CountsOn.refl state⟩ isSupported, fun _ => ok⟩⟩

/-- One of the pools is replaced. -/
theorem settles_set {α : Type} {run : Except RsrcFault (α × RsrcPools)} {supported : Prop}
    (result : α) {handle : Nat} {pool after : RsrcPool} {later : Nat} (ok : state.Ok)
    (isPool : state.pools[handle]? = some pool)
    (replaced : run = .ok (result,
      { state with pools := state.pools.set handle after, nextRsrc := later }))
    (grown : state.nextRsrc ≤ later)
    (kept : after.Accounted ∧ pool.ulTotalAllocs ≤ after.ulTotalAllocs ↔ supported)
    (numbered : after.Numbered later) : state.Settles run supported := by
  obtain ⟨inside, -⟩ := List.getElem?_eq_some_iff.mp isPool
  have isAfter : after ∈ state.pools.set handle after := List.mem_set inside after
  have members : ∀ other ∈ all { state with
      pools := state.pools.set handle after, nextRsrc := later },
      other ∈ state.all ∨ other = after := by
    intro other member
    rw [mem_all] at member
    rw [mem_all]
    rcases member with isPoolPool | isOther | isAbandoned
    · exact .inl (.inl isPoolPool)
    · rcases List.mem_or_eq_of_mem_set isOther with isOther | same
      · exact .inl (.inr (.inl isOther))
      · exact .inr same
    · exact .inl (.inr (.inr isAbandoned))
  have accounted (isAccounted : after.Accounted) : Accounted { state with
      pools := state.pools.set handle after, nextRsrc := later } := by
    intro other member
    rcases members other member with isOther | rfl
    · exact ok.accounted other isOther
    · exact isAccounted
  refine ⟨.abort, .inr ⟨result, _, replaced, ?_, ?_⟩⟩
  · rw [← kept]
    constructor
    · rintro ⟨allAccounted, countsOn⟩
      constructor
      · exact allAccounted after (mem_all.mpr (.inr (.inl isAfter)))
      · obtain ⟨other, isOther, atMost⟩ := countsOn.pools handle pool isPool
        rw [List.getElem?_set_self inside] at isOther
        obtain rfl := Option.some.inj isOther
        exact atMost
    · rintro ⟨isAccounted, atMost⟩
      refine ⟨accounted isAccounted, ?_, ?_⟩
      · exact fun other isOther => ⟨other, isOther, UInt64.le_refl _⟩
      · intro place other isOther
        by_cases same : handle = place
        · subst same
          rw [isPool] at isOther
          obtain rfl := Option.some.inj isOther
          exact ⟨after, List.getElem?_set_self inside, atMost⟩
        · refine ⟨other, ?_, UInt64.le_refl _⟩
          rw [List.getElem?_set_ne same]
          exact isOther
  · intro isSupported
    constructor
    · exact accounted (kept.mpr isSupported).1
    · intro other member
      rcases members other member with isOther | rfl
      · exact (ok.numbered other isOther).mono grown
      · exact numbered
    · exact ok.shaped

theorem Ok.pool {handle : Nat} {pool : RsrcPool} (ok : state.Ok)
    (isPool : state.pools[handle]? = some pool) :
    pool.Accounted ∧ pool.Numbered state.nextRsrc := by
  have member : pool ∈ state.all := mem_all.mpr (.inr (.inl (List.mem_of_getElem? isPool)))
  exact ⟨ok.accounted pool member, ok.numbered pool member⟩

theorem Ok.varAlloc (ok : state.Ok) (heap : RsrcHeap) (pxPool : RsrcPoolHandle)
    (pcRequestor : Option String) (xPayloadLen : Nat) :
    state.Settles (state.pxRsrcVarAlloc heap pxPool pcRequestor xPayloadLen)
      (state.Supported (.varAlloc heap pxPool pcRequestor xPayloadLen)) := by
  cases pxPool with
  | none => exact .unchanged _ ok rfl fun _ member => nomatch member
  | some handle =>
      have supported : state.Supported (.varAlloc heap (some handle) pcRequestor xPayloadLen) ↔
          ∀ pool ∈ state.pools[handle]?, pool.AllocSupported heap pcRequestor xPayloadLen :=
        forall_mem_some
      rw [supported]
      cases isPool : state.pools[handle]? with
      | none =>
          exact ⟨.notLive, .inl ⟨by simp only [pxRsrcVarAlloc, isPool], fun _ member => nomatch member⟩⟩
      | some pool =>
          rw [forall_mem_some]
          obtain ⟨accounted, numbered⟩ := ok.pool isPool
          rcases @RsrcPool.Accounted.varAlloc pool _ heap pcRequestor xPayloadLen accounted
            numbered with ⟨run, isSupported⟩ | ⟨pxRsrc, after, later, run, grown, kept, isNumbered⟩
          · refine ⟨.abort, .inl ⟨?_, isSupported⟩⟩
            simp only [pxRsrcVarAlloc, isPool, run]
            rfl
          · apply settles_set (pxRsrc.map (Rsrc.mk handle)) ok isPool _ grown kept isNumbered
            simp only [pxRsrcVarAlloc, isPool, run]
            rfl

theorem Ok.alloc (ok : state.Ok) (heap : RsrcHeap) (pxPool : RsrcPoolHandle)
    (pcRequestor : Option String) :
    state.Settles (state.pxRsrcAlloc heap pxPool pcRequestor)
      (state.Supported (.alloc heap pxPool pcRequestor)) := by
  cases pxPool with
  | none => exact .unchanged _ ok rfl fun _ member => nomatch member
  | some handle =>
      cases isPool : state.pools[handle]? with
      | none =>
          refine ⟨.notLive, .inl ⟨by simp only [pxRsrcAlloc, isPool], ?_⟩⟩
          rw [Supported, forall_mem_some, isPool]
          exact fun _ member => nomatch member
      | some pool =>
          have settles := ok.varAlloc heap (some handle) pcRequestor pool.uxSizeEach
          rw [Supported, forall_mem_some, isPool, forall_mem_some] at settles
          rw [Supported, forall_mem_some, isPool, forall_mem_some]
          simp only [pxRsrcAlloc, isPool]
          exact settles

theorem Ok.free (ok : state.Ok) (pvResPayload : Option Rsrc) :
    state.Settles ((fun after => ((), after)) <$> state.vRsrcFree pvResPayload)
      (state.Supported (.free pvResPayload)) := by
  cases pvResPayload with
  | none => exact .unchanged _ ok rfl fun _ member => nomatch member
  | some pxRsrc =>
      rw [Supported, forall_mem_some]
      cases isPool : state.pools[pxRsrc.pxPool]? with
      | none =>
          refine ⟨.notLive, .inl ⟨?_, fun _ member => nomatch member⟩⟩
          simp only [vRsrcFree, isPool]
          rfl
      | some pool =>
          rw [forall_mem_some]
          obtain ⟨accounted, numbered⟩ := ok.pool isPool
          by_cases live : pxRsrc.number ∈ pool.xActive
          · have kept : (pool.vRsrcFree pxRsrc.number).Accounted ∧
                pool.ulTotalAllocs ≤ (pool.vRsrcFree pxRsrc.number).ulTotalAllocs ↔
                  (pxRsrc.number ∈ pool.xActive → pool.FreeSupported) := by
              have total : (pool.vRsrcFree pxRsrc.number).ulTotalAllocs = pool.ulTotalAllocs := by
                rw [RsrcPool.vRsrcFree]
                split <;> rfl
              rw [total, RsrcPool.vRsrcFree_accounted_iff accounted numbered live]
              exact ⟨fun both _ => both.1, fun supported => ⟨supported live, UInt64.le_refl _⟩⟩
            apply settles_set () ok isPool _ (Nat.le_refl _) kept
              (RsrcPool.vRsrcFree_numbered numbered accounted live)
            simp only [vRsrcFree, isPool, if_pos live]
            rfl
          · refine ⟨.notLive, .inl ⟨?_, fun isLive => absurd isLive live⟩⟩
            simp only [vRsrcFree, isPool, if_neg live]
            rfl

end Steps

/-! ## A pool is created -/

section Creations

variable {state : RsrcPools} {poolHeap heap : RsrcHeap} {request : NewPool}

theorem or_toNat_le {left right : UInt32} {bound : Nat} (both : (left ||| right).toNat ≤ bound) :
    left.toNat ≤ bound ∧ right.toNat ≤ bound := by
  rw [UInt32.toNat_or] at both
  exact ⟨Nat.le_trans Nat.left_le_or both, Nat.le_trans Nat.right_le_or both⟩

theorem NewPool.small (returns : request.aborts = false) :
    request.pcName.isSome ∧ request.uiInitalloc.toNat ≤ 65535 ∧
      request.uiMaxNumRes.toNat ≤ 65535 := by
  simp only [aborts, Bool.or_eq_false_iff, Option.isNone_eq_false_iff, decide_eq_false_iff_not,
    GT.gt, UInt32.not_lt] at returns
  obtain ⟨⟨named, bounded⟩, -⟩ := returns
  obtain ⟨first, smallMax⟩ := or_toNat_le (UInt32.le_iff_toNat_le.mp bounded)
  exact ⟨named, (or_toNat_le first).1, smallMax⟩

/-- The state with another pool of pools and the pools that a creation adds. -/
def withPools (state : RsrcPools) (poolPool : RsrcPool) (created failed : List RsrcPool)
    (later : Nat) : RsrcPools where
  xRsrcPoolPool := some poolPool
  pools := state.pools ++ created
  abandoned := failed ++ state.abandoned
  nextRsrc := later

theorem mem_all_withPools {poolPool pool : RsrcPool} {created failed : List RsrcPool}
    {later : Nat} :
    pool ∈ (state.withPools poolPool created failed later).all ↔
      pool = poolPool ∨ (pool ∈ created ∨ pool ∈ failed) ∨
        (pool ∈ state.pools ∨ pool ∈ state.abandoned) := by
  rw [mem_all, withPools, List.mem_append, List.mem_append, Option.some_inj, eq_comm]
  apply or_congr Iff.rfl
  constructor
  · rintro ((isPool | isCreated) | (isFailed | isAbandoned))
    · exact .inr (.inl isPool)
    · exact .inl (.inl isCreated)
    · exact .inl (.inr isFailed)
    · exact .inr (.inr isAbandoned)
  · rintro ((isCreated | isFailed) | (isPool | isAbandoned))
    · exact .inl (.inr isCreated)
    · exact .inr (.inl isFailed)
    · exact .inl (.inl isPool)
    · exact .inr (.inr isAbandoned)

/-- A pool of pools as it is before and after a creation. -/
structure PoolPoolAt (next : Nat) (poolPool : RsrcPool) : Prop where
  accounted : poolPool.Accounted
  numbered : poolPool.Numbered next
  shape : PoolOfPools poolPool

/-- What a creation does to the pools, its pools of the new state being of a state. -/
theorem settles_withPools {α : Type} {run : Except RsrcFault (α × RsrcPools)}
    {supported : Prop} (result : α) {before after : RsrcPool} {created failed : List RsrcPool}
    {later : Nat} (ok : state.Ok)
    (isBefore : ∀ pool, state.xRsrcPoolPool = some pool → pool = before)
    (returned : run = .ok (result, state.withPools after created failed later))
    (grown : state.nextRsrc ≤ later)
    (kept : (after.Accounted ∧ before.ulTotalAllocs ≤ after.ulTotalAllocs) ∧
        (∀ pool, pool ∈ created ∨ pool ∈ failed → pool.Accounted) ↔ supported)
    (first : state.xRsrcPoolPool = none → before.ulTotalAllocs ≤ after.ulTotalAllocs)
    (numbered : after.Numbered later ∧
      ∀ pool, pool ∈ created ∨ pool ∈ failed → pool.Numbered later)
    (shape : PoolOfPools after) :
    state.Settles run supported := by
  have old {pool : RsrcPool} (member : pool ∈ state.pools ∨ pool ∈ state.abandoned) :
      pool ∈ state.all := mem_all.mpr (.inr member)
  have accounted (both : after.Accounted)
      (new : ∀ pool, pool ∈ created ∨ pool ∈ failed → pool.Accounted) :
      (state.withPools after created failed later).Accounted := by
    intro pool member
    rcases mem_all_withPools.mp member with rfl | isNew | isOld
    · exact both
    · exact new pool isNew
    · exact ok.accounted pool (old isOld)
  refine ⟨.abort, .inr ⟨result, _, returned, ?_, ?_⟩⟩
  · rw [← kept]
    constructor
    · rintro ⟨allAccounted, countsOn⟩
      refine ⟨⟨allAccounted after (mem_all_withPools.mpr (.inl rfl)), ?_⟩, ?_⟩
      · cases isPool : state.xRsrcPoolPool with
        | none => exact first isPool
        | some pool =>
            obtain ⟨other, isOther, atMost⟩ := countsOn.poolPool pool isPool
            obtain rfl := isBefore pool isPool
            obtain rfl := Option.some.inj isOther
            exact atMost
      · exact fun pool isNew => allAccounted pool (mem_all_withPools.mpr (.inr (.inl isNew)))
    · rintro ⟨⟨isAccounted, atMost⟩, new⟩
      refine ⟨accounted isAccounted new, ?_, ?_⟩
      · intro pool isPool
        obtain rfl := isBefore pool isPool
        exact ⟨after, rfl, atMost⟩
      · intro handle pool isPool
        refine ⟨pool, ?_, UInt64.le_refl _⟩
        have inside := (List.getElem?_eq_some_iff.mp isPool).1
        exact (List.getElem?_append_left inside).trans isPool
  · intro isSupported
    obtain ⟨⟨isAccounted, -⟩, new⟩ := kept.mpr isSupported
    constructor
    · exact accounted isAccounted new
    · intro pool member
      rcases mem_all_withPools.mp member with rfl | isNew | isOld
      · exact numbered.1
      · exact numbered.2 pool isNew
      · exact (ok.numbered pool (old isOld)).mono grown
    · intro pool isPool
      obtain rfl := Option.some.inj isPool
      exact shape

/-- The pool of pools refuses no creation that is asked for. -/
theorem PoolOfPools.accepts {poolPool : RsrcPool} {pcName : Option String}
    (shape : PoolOfPools poolPool) (named : pcName.isSome) :
    poolPool.refuses pcName poolPool.uxSizeEach = false := by
  obtain ⟨name, rfl⟩ := Option.isSome_iff_exists.mp named
  rw [RsrcPool.refuses, shape.size, shape.unlimited]
  rfl

/-- A creation from a pool of pools that there is already, or that it set up itself. -/
theorem newPoolFrom_settles {poolPool : RsrcPool} {next : Nat} (ok : state.Ok)
    (isBefore : ∀ pool, state.xRsrcPoolPool = some pool → pool = poolPool)
    (isAt : PoolPoolAt next poolPool) (grown : state.nextRsrc ≤ next)
    (first : state.xRsrcPoolPool = none → poolPool.CountsOneMore)
    (returns : request.aborts = false) :
    state.Settles
      (newPoolFrom { state with xRsrcPoolPool := some poolPool, nextRsrc := next } poolPool
        poolHeap heap request)
      (SupportedFrom poolPool poolHeap heap request) := by
  obtain ⟨named, small, smallMax⟩ := NewPool.small returns
  have accepted := isAt.shape.accepts named
  by_cases supplied : poolPool.Supplied poolHeap
  · obtain ⟨pxPool, after, later, run, takes⟩ :=
      @RsrcPool.Accounted.varAlloc_takes poolPool next poolHeap request.pcName
        poolPool.uxSizeEach isAt.accounted isAt.numbered accepted supplied
    have fits : poolPool.IncrementFits := fun _ limited => absurd isAt.shape.unlimited limited
    have counts : after.Accounted ∧ poolPool.ulTotalAllocs ≤ after.ulTotalAllocs ↔
        poolPool.CountsOneMore := takes.accounted_iff.trans (and_iff_left fits)
    by_cases aborts : RsrcPool.InitAborts heap request.uiInitalloc
    · refine ⟨.abort, .inl ⟨?_, fun _ isReturning => absurd aborts isReturning⟩⟩
      rw [newPoolFrom, RsrcPool.pxRsrcAlloc, run]
      simp only [bind, Except.bind, Option.isNone_some, Bool.false_eq_true, if_false,
        RsrcPool.initPool_aborts aborts]
    · obtain ⟨count, pool, last, created, last_le, accounted, numbered⟩ :=
        @RsrcPool.initPool_returns heap later (request.pcName.getD "") request.xRsrcSize
          request.uiInitalloc request.uiIncrement request.uiMaxNumRes small smallMax aborts
      have supported : poolPool.CountsOneMore ∧
            RsrcPool.InitSupported heap request.uiInitalloc request.uiMaxNumRes ↔
          SupportedFrom poolPool poolHeap heap request :=
        ⟨fun both _ _ => both, fun isSupported => isSupported supplied aborts⟩
      have settle {created failed : List RsrcPool}
          (new : ∀ other, other ∈ created ∨ other ∈ failed ↔ other = pool)
          (handle : RsrcPoolHandle)
          (returned : newPoolFrom { state with
              xRsrcPoolPool := some poolPool, nextRsrc := next } poolPool poolHeap heap request =
            .ok (handle, state.withPools after created failed last)) :
          state.Settles (newPoolFrom { state with
              xRsrcPoolPool := some poolPool, nextRsrc := next } poolPool poolHeap heap request)
            (SupportedFrom poolPool poolHeap heap request) := by
        apply settles_withPools handle ok isBefore returned
          (Nat.le_trans grown (Nat.le_trans takes.grown last_le))
        · rw [← supported, counts, ← accounted]
          simp only [new, forall_eq]
        · exact fun isFirst => (counts.mpr (first isFirst)).2
        · refine ⟨takes.numbered.mono last_le, ?_⟩
          simp only [new, forall_eq]
          exact numbered
        · exact isAt.shape.of_sameShape takes.shape
      by_cases negative : count < 0
      · refine @settle [] [pool] ?_ none ?_
        · intro other
          simp only [List.not_mem_nil, List.mem_singleton, false_or]
        · rw [newPoolFrom, RsrcPool.pxRsrcAlloc, run]
          simp only [bind, Except.bind, Option.isNone_some, Bool.false_eq_true, if_false, created,
            negative, if_true, withPools, List.append_nil, List.singleton_append]
          rfl
      · refine @settle [pool] [] ?_ (some state.pools.length) ?_
        · intro other
          simp only [List.not_mem_nil, List.mem_singleton, or_false]
        · rw [newPoolFrom, RsrcPool.pxRsrcAlloc, run]
          simp only [bind, Except.bind, Option.isNone_some, Bool.false_eq_true, if_false, created,
            negative, withPools, List.nil_append]
          rfl
  · have vacuous : SupportedFrom poolPool poolHeap heap request :=
      fun isSupplied => absurd isSupplied supplied
    rcases @RsrcPool.varAlloc_not_supplied poolPool next poolHeap request.pcName
      poolPool.uxSizeEach supplied with run | run
    · have returned : newPoolFrom { state with
            xRsrcPoolPool := some poolPool, nextRsrc := next } poolPool poolHeap heap request =
          .ok (none, state.withPools poolPool [] [] next) := by
        rw [newPoolFrom, RsrcPool.pxRsrcAlloc, run]
        simp only [bind, Except.bind, Option.isNone_none, if_true, withPools, List.append_nil,
          List.nil_append]
        rfl
      apply settles_withPools none ok isBefore returned grown
      · refine iff_of_true ⟨⟨isAt.accounted, UInt64.le_refl _⟩, ?_⟩ vacuous
        rintro pool (member | member)
        · exact absurd member List.not_mem_nil
        · exact absurd member List.not_mem_nil
      · exact fun _ => UInt64.le_refl _
      · refine ⟨isAt.numbered, ?_⟩
        rintro pool (member | member)
        · exact absurd member List.not_mem_nil
        · exact absurd member List.not_mem_nil
      · exact isAt.shape
    · refine ⟨.abort, .inl ⟨?_, vacuous⟩⟩
      rw [newPoolFrom, RsrcPool.pxRsrcAlloc, run]
      rfl

/-- The pool of pools that the first creation sets up. -/
theorem initializePools_first (isFirst : state.xRsrcPoolPool = none)
    (granted : poolHeap.memory = true) :
    ∃ poolPool, state.initializePools poolHeap = .ok (true, poolPool, state.nextRsrc + 5) ∧
      PoolPoolAt (state.nextRsrc + 5) poolPool ∧ poolPool.CountsOneMore ∧
      poolPool.Supplied poolHeap := by
  obtain ⟨poolPool, run, initial⟩ :=
    @RsrcPool.initPool_granted poolHeap state.nextRsrc "Pools" rsrcPoolSize rsrcInitNumPools
      rsrcOneResource rsrcNoMaxLimit (by decide) (by decide) (fun _ => granted)
  refine ⟨poolPool, ?_, ?_, ?_, ?_⟩
  · rw [initializePools, isFirst]
    simp only [run]
    rfl
  · refine ⟨⟨initial.balanced, initial.limited.mpr fun unlimited => absurd rfl unlimited⟩,
      initial.numbered, initial.size, initial.increment, ?_⟩
    rw [initial.maximum]
    rfl
  · refine ⟨?_, ?_⟩
    · rw [initial.inUse]
      decide
    · rw [initial.total]
      decide
  · intro empty
    have count := initial.free
    rw [empty] at count
    exact absurd count (by decide)

theorem Ok.newPool (ok : state.Ok) (poolHeap heap : RsrcHeap) (request : NewPool) :
    state.Settles (state.pxRsrcNewPool poolHeap heap request)
      (state.Supported (.newPool poolHeap heap request)) := by
  cases returns : request.aborts with
  | true =>
      refine ⟨.abort, .inl ⟨?_, fun isReturning => ?_⟩⟩
      · rw [pxRsrcNewPool, if_pos returns]
        rfl
      · rw [returns] at isReturning
        cases isReturning
  | false =>
      cases accepted : request.badVariable with
      | true =>
          apply Settles.unchanged none ok
          · rw [pxRsrcNewPool, returns, accepted]
            rfl
          · intro _ isAccepted
            rw [accepted] at isAccepted
            cases isAccepted
      | false =>
          have supported : state.Supported (.newPool poolHeap heap request) ↔
              state.NewPoolSupported poolHeap heap request :=
            ⟨fun isSupported => isSupported returns accepted, fun isSupported _ _ => isSupported⟩
          rw [supported, pxRsrcNewPool, returns, accepted, NewPoolSupported]
          cases isPool : state.xRsrcPoolPool with
          | some poolPool =>
              have member : poolPool ∈ state.all := mem_all.mpr (.inl isPool)
              have isAt : PoolPoolAt state.nextRsrc poolPool :=
                ⟨ok.accounted poolPool member, ok.numbered poolPool member, ok.shaped poolPool isPool⟩
              rw [initializePools, isPool]
              apply newPoolFrom_settles ok _ isAt (Nat.le_refl _) _ returns
              · intro other isOther
                rw [isPool] at isOther
                exact (Option.some.inj isOther).symm
              · intro isFirst
                rw [isPool] at isFirst
                cases isFirst
          | none =>
              cases granted : poolHeap.memory with
              | true =>
                  obtain ⟨poolPool, run, isAt, counts, supplied⟩ :=
                    initializePools_first isPool granted
                  have settles := @newPoolFrom_settles state poolHeap heap request poolPool _ ok
                    (fun other isOther => by rw [isPool] at isOther; cases isOther) isAt
                    (Nat.le_add_right _ _) (fun _ => counts) returns
                  have same : SupportedFrom poolPool poolHeap heap request ↔
                      (¬ RsrcPool.InitAborts heap request.uiInitalloc →
                        RsrcPool.InitSupported heap request.uiInitalloc request.uiMaxNumRes) :=
                    ⟨fun isSupported isReturning => (isSupported supplied isReturning).2,
                      fun initial _ isReturning => ⟨counts, initial isReturning⟩⟩
                  rw [same] at settles
                  rw [run]
                  exact settles
              | false =>
                  rw [initializePools, isPool]
                  cases handled : poolHeap.vRsrcOOMfn with
                  | true =>
                      obtain ⟨run, notAccounted⟩ := @RsrcPool.initPool_refused poolHeap
                        state.nextRsrc "Pools" rsrcPoolSize rsrcInitNumPools rsrcOneResource
                        rsrcNoMaxLimit (by decide) (by decide) granted handled
                      simp only [run]
                      refine ⟨.abort, .inr ⟨none, _, rfl, iff_of_false ?_ Bool.noConfusion,
                        fun absurdly => Bool.noConfusion absurdly⟩⟩
                      rintro ⟨accounted, -⟩
                      exact notAccounted (accounted _ (mem_all.mpr (.inl rfl)))
                  | false =>
                      have aborts : RsrcPool.InitAborts poolHeap rsrcInitNumPools :=
                        ⟨by decide, granted, handled⟩
                      refine ⟨.abort, .inl ⟨?_, rfl⟩⟩
                      simp only [RsrcPool.initPool_aborts aborts]
                      rfl

end Creations

/-! ## Runs -/

section Runs

variable {state : RsrcPools}

theorem Settles.map {α β : Type} {run : Except RsrcFault (α × RsrcPools)} {supported : Prop}
    (settles : state.Settles run supported) (image : α → β) :
    state.Settles (do
      let (result, after) ← run
      return (image result, after)) supported := by
  obtain ⟨fault, ⟨rfl, isSupported⟩ | ⟨result, after, rfl, kept, isOk⟩⟩ := settles
  · exact ⟨fault, .inl ⟨rfl, isSupported⟩⟩
  · exact ⟨fault, .inr ⟨image result, after, rfl, kept, isOk⟩⟩

theorem Ok.settles (ok : state.Ok) (operation : RsrcOp) :
    state.Settles (state.operate operation) (state.Supported operation) := by
  cases operation with
  | newPool poolHeap heap request =>
      exact (ok.newPool poolHeap heap request).map RsrcResult.pool
  | alloc heap pxPool pcRequestor =>
      exact (ok.alloc heap pxPool pcRequestor).map RsrcResult.resource
  | varAlloc heap pxPool pcRequestor xPayloadLen =>
      exact (ok.varAlloc heap pxPool pcRequestor xPayloadLen).map RsrcResult.resource
  | free pvResPayload =>
      have settles := (ok.free pvResPayload).map fun _ => RsrcResult.freed
      cases run : state.vRsrcFree pvResPayload with
      | ok after =>
          rw [run] at settles
          rw [operate, run]
          exact settles
      | error fault =>
          rw [run] at settles
          rw [operate, run]
          exact settles

theorem Ok.step (ok : state.Ok) (operation : RsrcOp) :
    (state.Properly ((perform operation).run state) ↔ state.Supported operation) ∧
      (state.Supported operation → Ok (Command.final ((perform operation).run state))) := by
  obtain ⟨fault, ⟨run, isSupported⟩ | ⟨result, after, run, kept, isOk⟩⟩ := ok.settles operation
  · have performed : (perform operation).run state = .error fault state := by
      rw [EStateM.run, perform, run]
    rw [performed]
    exact ⟨iff_of_true trivial isSupported, fun _ => ok⟩
  · have performed : (perform operation).run state = .ok result after := by
      rw [EStateM.run, perform, run]
    rw [performed]
    exact ⟨kept, isOk⟩

end Runs

/-- The pools stay accounted in a run exactly if each of its operations keeps the
accounts. -/
theorem rsrcPools_run_iff (operations : List RsrcOp) :
    (∀ occurrence ∈ Trace.trace perform operations startup,
      occurrence.before.Properly occurrence.result) ↔
      ∀ occurrence ∈ Trace.trace perform operations startup,
        occurrence.before.Supported occurrence.event :=
  Trace.proper_iff_supported Ok Supported (fun before _ => before.Properly)
    (fun _ operation ok => (ok.step operation).1)
    (fun _ operation ok supported => (ok.step operation).2 supported) ok_startup

/-- A pool of at most two resources that grows by three. -/
def growsByThree : NewPool where
  pcName := some "resource"
  xRsrcSize := 4
  uiInitalloc := 0
  uiIncrement := 3
  uiMaxNumRes := 2

/-- The first allocation makes it three. -/
theorem maximum_exceeded :
    ¬ ∀ occurrence ∈ Trace.trace perform [.newPool ⟨true, false⟩ ⟨true, false⟩ growsByThree,
        .alloc ⟨true, false⟩ (some 0) (some "user")] startup,
      occurrence.before.Properly occurrence.result := by
  intro all
  have last := all _ (.tail _ (.head _))
  have limit := (last.1 _ (mem_all.mpr (.inr (.inl (.head _))))).limit
  exact absurd (limit (by decide)) (by decide)

end RsrcPools

end RinaSense
