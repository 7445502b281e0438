import RinaSense.Common.RsrcRuns

/-!
# What a creation of a pool returns

Whether a pool is returned, as far as the heap's answers decide it. No account of the
pool of pools is needed for this, only what it was set up with.
-/

namespace RinaSense

namespace RsrcPools

/-- There is a struct for a new pool, if the heap gives one where none is left. -/
def HasStruct (state : RsrcPools) (memory : Bool) : Prop :=
  match state.xRsrcPoolPool with
  | none => memory = true
  | some poolPool => poolPool.pxFreelist = [] → memory = true

/-- The structs of pools that are left, once there is a pool of pools. -/
def structsLeft (state : RsrcPools) : Nat :=
  match state.xRsrcPoolPool with
  | none => rsrcInitNumPools.toNat
  | some poolPool => poolPool.pxFreelist.length

/-- The pool is created: there is a struct for it, and the memory of its resources. -/
def Creates (state : RsrcPools) (structMemory memory : Bool) (request : NewPool) : Prop :=
  state.HasStruct structMemory ∧ (request.uiInitalloc ≠ 0 → memory = true)

/-- A creation that returned a pool. -/
structure Created (state : RsrcPools) (request : NewPool) (after : RsrcPools)
    (pool : RsrcPool) : Prop where
  pools : after.pools = state.pools ++ [pool]
  initial : pool.Initial request.xRsrcSize request.uiInitalloc request.uiIncrement
    request.uiMaxNumRes after.nextRsrc
  grown : state.nextRsrc ≤ after.nextRsrc
  shaped : after.Shaped
  setUp : after.xRsrcPoolPool.isSome
  structs : after.structsLeft = state.structsLeft - 1

/-- What a creation returns, with one handler for all its requests. -/
inductive CreationCase (state : RsrcPools) (structMemory memory handled : Bool)
    (request : NewPool) : Except RsrcFault (RsrcPoolHandle × RsrcPools) → Prop where
  | created (creates : state.Creates structMemory memory request) {after : RsrcPools}
      {pool : RsrcPool} (isCreated : state.Created request after pool) :
      CreationCase state structMemory memory handled request
        (.ok (some state.pools.length, after))
  | refused (refuses : ¬ state.Creates structMemory memory request) (isHandled : handled = true)
      {after : RsrcPools} (shaped : after.Shaped) :
      CreationCase state structMemory memory handled request (.ok (none, after))
  | aborts (refuses : ¬ state.Creates structMemory memory request) (unhandled : handled = false) :
      CreationCase state structMemory memory handled request (.error .abort)

section Creation

variable {state : RsrcPools} {poolPool : RsrcPool} {structMemory memory handled : Bool}
  {request : NewPool}

/-- With a pool of pools, whether there is a struct is a matter of those left. -/
theorem hasStruct_iff (isSetUp : state.xRsrcPoolPool.isSome) :
    state.HasStruct structMemory ↔ (state.structsLeft = 0 → structMemory = true) := by
  obtain ⟨poolPool, isPool⟩ := Option.isSome_iff_exists.mp isSetUp
  rw [HasStruct, structsLeft, isPool]
  simp only [List.length_eq_zero_iff]

/-- A creation from a pool of pools. -/
theorem newPoolFrom_case (isPool : state.xRsrcPoolPool = some poolPool)
    (shape : PoolOfPools poolPool) (returns : request.aborts = false) :
    CreationCase state structMemory memory handled request
      (state.newPoolFrom poolPool ⟨structMemory, handled⟩ ⟨memory, handled⟩ request) := by
  obtain ⟨named, small, smallMax⟩ := NewPool.small returns
  have accepted := shape.accepts named
  have grows : poolPool.uiIncrement ≠ 0 := by
    rw [shape.increment]
    decide
  have hasStruct : state.HasStruct structMemory ↔
      (poolPool.pxFreelist = [] → structMemory = true) := by
    rw [HasStruct, isPool]
  by_cases supplied : poolPool.pxFreelist = [] → structMemory = true
  · obtain ⟨first, rest, free, run⟩ :=
      @RsrcPool.varAlloc_supplied poolPool state.nextRsrc ⟨structMemory, handled⟩ request.pcName
        poolPool.uxSizeEach accepted (fun empty => ⟨grows, supplied empty⟩)
    have taken : PoolOfPools ((poolPool.replenished state.nextRsrc).1.taken first rest) :=
      shape.of_sameShape (RsrcPool.replenished_taken_shape first rest)
    have left : rest.length = poolPool.pxFreelist.length - 1 := by
      have one : (1 : UInt16).toNat = 1 := rfl
      have count := RsrcPool.replenished_free free
      rw [shape.increment, one] at count
      split at count
      · next empty =>
          rw [empty]
          exact Nat.succ.inj count
      · omega
    rw [newPoolFrom, RsrcPool.pxRsrcAlloc, run]
    by_cases granted : request.uiInitalloc ≠ 0 → memory = true
    · obtain ⟨pool, init, initial⟩ :=
        @RsrcPool.initPool_granted ⟨memory, handled⟩ (poolPool.replenished state.nextRsrc).2
          (request.pcName.getD "") request.xRsrcSize request.uiInitalloc request.uiIncrement
          request.uiMaxNumRes small smallMax granted
      have notNegative : ¬ ((request.uiInitalloc.toNat : Int) < 0) :=
        Int.not_lt.mpr (Int.natCast_nonneg _)
      simp only [bind, Except.bind, Option.isNone_some, Bool.false_eq_true, if_false, init,
        notNegative]
      apply CreationCase.created ⟨hasStruct.mpr supplied, granted⟩
      · constructor
        · rfl
        · exact initial
        · exact Nat.le_trans RsrcPool.le_replenished (Nat.le_add_right _ _)
        · intro other isOther
          obtain rfl := Option.some.inj isOther
          exact taken
        · rfl
        · rw [structsLeft, structsLeft, isPool]
          exact left
    · have refuses : ¬ state.Creates structMemory memory request := fun both => granted both.2
      rw [Classical.not_imp, Bool.not_eq_true] at granted
      cases handled with
      | true =>
          obtain ⟨init, -⟩ := @RsrcPool.initPool_refused ⟨memory, true⟩
            (poolPool.replenished state.nextRsrc).2 (request.pcName.getD "") request.xRsrcSize
            request.uiInitalloc request.uiIncrement request.uiMaxNumRes small granted.1 granted.2
            rfl
          simp only [bind, Except.bind, Option.isNone_some, Bool.false_eq_true, if_false, init]
          exact .refused refuses rfl fun other isOther => Option.some.inj isOther ▸ taken
      | false =>
          have aborts : RsrcPool.InitAborts ⟨memory, false⟩ request.uiInitalloc :=
            ⟨granted.1, granted.2, rfl⟩
          simp only [bind, Except.bind, Option.isNone_some, Bool.false_eq_true, if_false,
            RsrcPool.initPool_aborts aborts]
          exact .aborts refuses rfl
  · have refuses : ¬ state.Creates structMemory memory request :=
      fun both => supplied (hasStruct.mp both.1)
    rw [Classical.not_imp, Bool.not_eq_true] at supplied
    rw [newPoolFrom, RsrcPool.pxRsrcAlloc, RsrcPool.varAlloc_oom accepted supplied.1 grows supplied.2]
    cases handled with
    | true => exact .refused refuses rfl fun other isOther => Option.some.inj isOther ▸ shape
    | false => exact .aborts refuses rfl

/-- A creation with a pool of pools goes on from it. -/
theorem newPool_ready {poolHeap heap : RsrcHeap} {next : Nat} (returns : request.aborts = false)
    (accepted : request.badVariable = false)
    (ready : state.initializePools poolHeap = .ok (true, poolPool, next)) :
    state.pxRsrcNewPool poolHeap heap request =
      newPoolFrom { state with xRsrcPoolPool := some poolPool, nextRsrc := next } poolPool
        poolHeap heap request := by
  rw [pxRsrcNewPool, returns, accepted, ready]
  rfl

/-- A creation, the first one included. -/
theorem newPool_case (shaped : state.Shaped) (returns : request.aborts = false)
    (accepted : request.badVariable = false) :
    CreationCase state structMemory memory handled request
      (state.pxRsrcNewPool ⟨structMemory, handled⟩ ⟨memory, handled⟩ request) := by
  cases isPool : state.xRsrcPoolPool with
  | some poolPool =>
      have ready : state.initializePools ⟨structMemory, handled⟩ =
          .ok (true, poolPool, state.nextRsrc) := by
        rw [initializePools, isPool]
      have same : { state with xRsrcPoolPool := some poolPool, nextRsrc := state.nextRsrc } =
          state := by
        rw [← isPool]
      rw [newPool_ready returns accepted ready, same]
      exact newPoolFrom_case isPool (shaped poolPool isPool) returns
  | none =>
      have noStruct (refused : structMemory = false) :
          ¬ state.Creates structMemory memory request := by
        rintro ⟨hasStruct, -⟩
        rw [HasStruct, isPool] at hasStruct
        rw [refused] at hasStruct
        cases hasStruct
      cases granted : structMemory with
      | true =>
          obtain ⟨poolPool, run, initial⟩ :=
            @RsrcPool.initPool_granted ⟨true, handled⟩ state.nextRsrc "Pools" rsrcPoolSize
              rsrcInitNumPools rsrcOneResource rsrcNoMaxLimit (by decide) (by decide)
              (fun _ => rfl)
          have shape : PoolOfPools poolPool := by
            refine ⟨initial.size, initial.increment, ?_⟩
            rw [initial.maximum]
            rfl
          have left : poolPool.pxFreelist.length = rsrcInitNumPools.toNat := initial.free
          have ready : state.initializePools ⟨true, handled⟩ =
              .ok (true, poolPool, state.nextRsrc + rsrcInitNumPools.toNat) := by
            rw [initializePools, isPool]
            simp only [run]
            rfl
          rw [newPool_ready returns accepted ready]
          have case := @newPoolFrom_case { state with
              xRsrcPoolPool := some poolPool
              nextRsrc := state.nextRsrc + rsrcInitNumPools.toNat } poolPool true memory handled
            request rfl shape returns
          have creates : Creates { state with
              xRsrcPoolPool := some poolPool
              nextRsrc := state.nextRsrc + rsrcInitNumPools.toNat } true memory request ↔
              state.Creates true memory request := by
            rw [Creates, Creates, HasStruct, HasStruct, isPool]
            exact and_congr_left fun _ => iff_of_true (fun _ => rfl) rfl
          generalize newPoolFrom _ _ _ _ _ = outcome at case ⊢
          cases case with
          | created isCreating isCreated =>
              apply CreationCase.created (creates.mp isCreating)
              constructor
              · exact isCreated.pools
              · exact isCreated.initial
              · exact Nat.le_trans (Nat.le_add_right _ _) isCreated.grown
              · exact isCreated.shaped
              · exact isCreated.setUp
              · rw [isCreated.structs, structsLeft, structsLeft, isPool]
                exact congrArg (· - 1) left
          | refused refuses isHandled isShaped =>
              exact .refused (mt creates.mpr refuses) isHandled isShaped
          | aborts refuses unhandled => exact .aborts (mt creates.mpr refuses) unhandled
      | false =>
          rw [pxRsrcNewPool, returns, accepted, initializePools, isPool]
          rw [granted] at noStruct
          cases handled with
          | true =>
              obtain ⟨run, -⟩ := @RsrcPool.initPool_refused ⟨false, true⟩ state.nextRsrc "Pools"
                rsrcPoolSize rsrcInitNumPools rsrcOneResource rsrcNoMaxLimit (by decide)
                (by decide) rfl rfl
              simp only [run]
              refine .refused (noStruct rfl) rfl fun other isOther => ?_
              obtain rfl := Option.some.inj isOther
              exact ⟨rfl, rfl, rfl⟩
          | false =>
              have aborts : RsrcPool.InitAborts ⟨false, false⟩ rsrcInitNumPools :=
                ⟨by decide, rfl, rfl⟩
              simp only [RsrcPool.initPool_aborts aborts]
              exact .aborts (noStruct rfl) rfl

/-! ## The pool of pools in every run -/

theorem add2Pool_shape {heap : RsrcHeap} {next later : Nat} {pool after : RsrcPool}
    {uiCount : UInt32} {result : Int}
    (run : pool.prviRsrcAdd2Pool heap next uiCount = .ok (result, after, later)) :
    pool.SameShape after := by
  by_cases zero : uiCount = 0
  · subst zero
    cases run
    exact .refl pool
  · cases memory : heap.memory with
    | true =>
        rw [RsrcPool.add2Pool_granted zero memory] at run
        cases run
        exact ⟨rfl, rfl, rfl, rfl⟩
    | false =>
        rw [RsrcPool.add2Pool_refused zero memory] at run
        split at run
        · cases run
          exact .refl pool
        · cases run

theorem newPoolFrom_shaped {poolHeap heap : RsrcHeap} {handle : RsrcPoolHandle}
    {after : RsrcPools} (shape : PoolOfPools poolPool)
    (run : state.newPoolFrom poolPool poolHeap heap request = .ok (handle, after)) :
    after.Shaped := by
  rw [newPoolFrom] at run
  cases allocated : poolPool.pxRsrcAlloc poolHeap state.nextRsrc request.pcName with
  | error fault =>
      rw [allocated] at run
      cases run
  | ok taken =>
      obtain ⟨pxPool, later, next⟩ := taken
      have laterShape : PoolOfPools later :=
        shape.of_sameShape (RsrcPool.varAlloc_shape allocated)
      rw [allocated] at run
      simp only [bind, Except.bind] at run
      split at run
      · cases run
        exact fun other isOther => Option.some.inj isOther ▸ laterShape
      · split at run
        · cases run
        · split at run
          · cases run
            exact fun other isOther => Option.some.inj isOther ▸ laterShape
          · cases run
            exact fun other isOther => Option.some.inj isOther ▸ laterShape

theorem Shaped.newPool {poolHeap heap : RsrcHeap} {handle : RsrcPoolHandle}
    {after : RsrcPools} (shaped : state.Shaped)
    (run : state.pxRsrcNewPool poolHeap heap request = .ok (handle, after)) : after.Shaped := by
  have setsUp {ready : Bool} {poolPool : RsrcPool} {next : Nat}
      (isPool : state.initializePools poolHeap = .ok (ready, poolPool, next)) :
      PoolOfPools poolPool := by
    rw [initializePools] at isPool
    split at isPool
    · next there =>
        cases isPool
        exact shaped poolPool there
    · cases init : RsrcPool.prviRsrcInitPool poolHeap state.nextRsrc "Pools" rsrcPoolSize
        rsrcInitNumPools rsrcOneResource rsrcNoMaxLimit with
      | error fault =>
          rw [init] at isPool
          cases isPool
      | ok made =>
          rw [init] at isPool
          cases isPool
          rw [RsrcPool.prviRsrcInitPool, if_pos (by decide)] at init
          have same := add2Pool_shape init
          exact ⟨same.size, same.increment, same.maximum⟩
  rw [pxRsrcNewPool] at run
  split at run
  · cases run
  · split at run
    · cases run
      exact shaped
    · cases isPool : state.initializePools poolHeap with
      | error fault =>
          rw [isPool] at run
          cases run
      | ok made =>
          obtain ⟨ready, poolPool, next⟩ := made
          rw [isPool] at run
          simp only [bind, Except.bind] at run
          split at run
          · cases run
            exact fun other isOther => Option.some.inj isOther ▸ setsUp isPool
          · exact newPoolFrom_shaped (setsUp isPool) run

theorem varAlloc_poolPool {heap : RsrcHeap} {pxPool : RsrcPoolHandle} {pcRequestor : Option String}
    {xPayloadLen : Nat} {result : Option Rsrc} {after : RsrcPools}
    (run : state.pxRsrcVarAlloc heap pxPool pcRequestor xPayloadLen = .ok (result, after)) :
    after.xRsrcPoolPool = state.xRsrcPoolPool := by
  cases pxPool with
  | none =>
      cases run
      rfl
  | some handle =>
      rw [pxRsrcVarAlloc] at run
      split at run
      · cases run
      · next pool _ =>
          cases allocated : pool.pxRsrcVarAlloc heap state.nextRsrc pcRequestor xPayloadLen with
          | error fault =>
              rw [allocated] at run
              cases run
          | ok taken =>
              rw [allocated] at run
              cases run
              rfl

theorem free_poolPool {pvResPayload : Option Rsrc} {after : RsrcPools}
    (run : state.vRsrcFree pvResPayload = .ok after) :
    after.xRsrcPoolPool = state.xRsrcPoolPool := by
  cases pvResPayload with
  | none =>
      cases run
      rfl
  | some pxRsrc =>
      rw [vRsrcFree] at run
      split at run
      · cases run
      · split at run
        · cases run
          rfl
        · cases run

/-- Whatever the heap answers, the pool of pools stays what it was set up as. -/
theorem Shaped.operate {operation : RsrcOp} {result : RsrcResult} {after : RsrcPools}
    (shaped : state.Shaped) (run : state.operate operation = .ok (result, after)) :
    after.Shaped := by
  cases operation with
  | newPool poolHeap heap request =>
      rw [RsrcPools.operate] at run
      cases created : state.pxRsrcNewPool poolHeap heap request with
      | error fault =>
          rw [created] at run
          cases run
      | ok made =>
          rw [created] at run
          cases run
          exact shaped.newPool created
  | alloc heap pxPool pcRequestor =>
      rw [RsrcPools.operate] at run
      cases allocated : state.pxRsrcAlloc heap pxPool pcRequestor with
      | error fault =>
          rw [allocated] at run
          cases run
      | ok taken =>
          rw [allocated] at run
          cases run
          cases pxPool with
          | none =>
              cases allocated
              exact shaped
          | some handle =>
              rw [pxRsrcAlloc] at allocated
              split at allocated
              · cases allocated
              · rw [Shaped, varAlloc_poolPool allocated]
                exact shaped
  | varAlloc heap pxPool pcRequestor xPayloadLen =>
      rw [RsrcPools.operate] at run
      cases allocated : state.pxRsrcVarAlloc heap pxPool pcRequestor xPayloadLen with
      | error fault =>
          rw [allocated] at run
          cases run
      | ok taken =>
          rw [allocated] at run
          cases run
          rw [Shaped, varAlloc_poolPool allocated]
          exact shaped
  | free pvResPayload =>
      rw [RsrcPools.operate] at run
      cases freed : state.vRsrcFree pvResPayload with
      | error fault =>
          rw [freed] at run
          cases run
      | ok left =>
          rw [freed] at run
          cases run
          rw [Shaped, free_poolPool freed]
          exact shaped

end Creation

/-- Every state of every run of the module has its pool of pools as it is set up. -/
theorem shaped_run (operations : List RsrcOp) :
    ∀ occurrence ∈ Trace.trace perform operations startup, occurrence.before.Shaped := by
  apply Trace.proper_of_supported Shaped (fun _ _ => True) (fun before _ _ => before.Shaped) _
    shaped_startup
  · exact fun _ _ => trivial
  · intro before operation shaped _
    refine ⟨shaped, ?_⟩
    cases run : before.operate operation with
    | ok made =>
        obtain ⟨result, after⟩ := made
        rw [EStateM.run, perform, run]
        exact shaped.operate run
    | error fault =>
        rw [EStateM.run, perform, run]
        exact shaped

end RsrcPools

end RinaSense
