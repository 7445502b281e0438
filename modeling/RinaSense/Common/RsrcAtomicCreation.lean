import RinaSense.Common.RsrcPoolCreation

/-!
# Creations of pools that fail

What a creation of a pool that returns `NULL` leaves behind. The pool of pools is linked
before its own resources are there, and a new pool before it has its initial ones; neither
is taken back.
-/

namespace RinaSense

namespace RsrcPools

/-! ## Purpose -/

/-- The pools that are linked and the pool of pools are those of before, and the same
creation is possible with memory. -/
structure Unwound (before : RsrcPools) (request : NewPool) (after : RsrcPools) : Prop where
  poolPool : after.xRsrcPoolPool = before.xRsrcPoolPool
  pools : after.pools = before.pools
  abandoned : after.abandoned = before.abandoned
  retry : request.badVariable = false → ∃ handle later,
    after.pxRsrcNewPool ⟨true, false⟩ ⟨true, false⟩ request = .ok (some handle, later)

/-- A creation that returns `NULL` leaves nothing behind. -/
def Atomic (before : RsrcPools) (operation : RsrcOp)
    (result : EStateM.Result RsrcFault RsrcPools RsrcResult) : Prop :=
  ∀ poolHeap heap request, operation = .newPool poolHeap heap request →
    ∀ after, result = .ok (.pool none) after → before.Unwound request after

/-- The request is granted, or ends the program. -/
def NotReturned (heap : RsrcHeap) : Prop := heap.memory = true ∨ heap.vRsrcOOMfn = false

/-- A creation leaves nothing behind if it fails: neither the memory of the first pool of
pools nor that of the initial resources is refused with a handler that returns. -/
def TakenBack (state : RsrcPools) (poolHeap heap : RsrcHeap) (request : NewPool) : Prop :=
  (state.xRsrcPoolPool = none → NotReturned poolHeap) ∧
    (state.HasStruct poolHeap.memory → request.uiInitalloc ≠ 0 → NotReturned heap)

def AtomicSupported (state : RsrcPools) : RsrcOp → Prop
  | .newPool poolHeap heap request =>
      request.aborts = false → request.badVariable = false →
        state.TakenBack poolHeap heap request
  | .alloc _ _ _ | .varAlloc _ _ _ _ | .free _ => True

/-! ## One creation -/

section Creation

variable {state after : RsrcPools} {poolPool : RsrcPool} {poolHeap heap : RsrcHeap}
  {request : NewPool}

/-- With memory a creation succeeds. -/
theorem Shaped.retry (shaped : state.Shaped) (returns : request.aborts = false)
    (accepted : request.badVariable = false) : ∃ handle later,
    state.pxRsrcNewPool ⟨true, false⟩ ⟨true, false⟩ request = .ok (some handle, later) := by
  have creates : state.Creates true true request := by
    refine ⟨?_, fun _ => rfl⟩
    rw [HasStruct]
    split
    · rfl
    · exact fun _ => rfl
  have case := @newPool_case state true true false request shaped returns accepted
  revert case
  generalize state.pxRsrcNewPool ⟨true, false⟩ ⟨true, false⟩ request = result
  intro case
  cases case with
  | created _ _ => exact ⟨_, _, rfl⟩
  | refused refuses _ _ => exact absurd creates refuses
  | aborts refuses _ => exact absurd creates refuses

theorem notReturned_of_refused (refused : heap.memory = false) (handled : heap.vRsrcOOMfn = true) :
    ¬ NotReturned heap := by
  rintro (granted | unhandled)
  · exact absurd (granted.symm.trans refused) (by decide)
  · exact absurd (unhandled.symm.trans handled) (by decide)

/-- A creation from a pool of pools: it leaves nothing behind that was not there, or a
pool that is abandoned. -/
inductive FromOutcome (state : RsrcPools) (poolPool : RsrcPool) (poolHeap heap : RsrcHeap)
    (request : NewPool) : Except RsrcFault (RsrcPoolHandle × RsrcPools) → Prop where
  | created (granted : request.uiInitalloc ≠ 0 → NotReturned heap) {handle : Nat}
      {after : RsrcPools} :
      FromOutcome state poolPool poolHeap heap request (.ok (some handle, after))
  | aborts (supported : poolPool.Supplied poolHeap → request.uiInitalloc ≠ 0 →
      NotReturned heap) :
      FromOutcome state poolPool poolHeap heap request (.error .abort)
  | struct (notSupplied : ¬ poolPool.Supplied poolHeap) :
      FromOutcome state poolPool poolHeap heap request
        (.ok (none, { state with xRsrcPoolPool := some poolPool }))
  | initial (supplied : poolPool.Supplied poolHeap) (positive : request.uiInitalloc ≠ 0)
      (returned : ¬ NotReturned heap) {after : RsrcPools}
      (abandoned : after.abandoned ≠ state.abandoned) :
      FromOutcome state poolPool poolHeap heap request (.ok (none, after))

theorem newPoolFrom_outcome (shape : PoolOfPools poolPool) (returns : request.aborts = false) :
    FromOutcome state poolPool poolHeap heap request
      (state.newPoolFrom poolPool poolHeap heap request) := by
  obtain ⟨named, small, smallMax⟩ := NewPool.small returns
  have accepted := shape.accepts named
  rw [newPoolFrom, RsrcPool.pxRsrcAlloc]
  by_cases supplied : poolPool.Supplied poolHeap
  · obtain ⟨first, rest, -, taken⟩ :=
      @RsrcPool.varAlloc_supplied poolPool state.nextRsrc poolHeap request.pcName
        poolPool.uxSizeEach accepted supplied
    rw [taken]
    simp only [Command.ok_bind, Option.isNone_some, Bool.false_eq_true, if_false]
    by_cases granted : request.uiInitalloc ≠ 0 → heap.memory = true
    · obtain ⟨pool, init, -⟩ :=
        @RsrcPool.initPool_granted heap (poolPool.replenished state.nextRsrc).2
          (request.pcName.getD "") request.xRsrcSize request.uiInitalloc request.uiIncrement
          request.uiMaxNumRes small smallMax granted
      have notNegative : ¬ ((request.uiInitalloc.toNat : Int) < 0) :=
        Int.not_lt.mpr (Int.natCast_nonneg _)
      rw [init]
      simp only [Command.ok_bind, notNegative, if_false]
      exact .created fun positive => .inl (granted positive)
    · rw [Classical.not_imp, Bool.not_eq_true] at granted
      cases handled : heap.vRsrcOOMfn with
      | false =>
          rw [RsrcPool.initPool_aborts ⟨granted.1, granted.2, handled⟩]
          exact .aborts fun _ _ => .inr handled
      | true =>
          obtain ⟨init, -⟩ := @RsrcPool.initPool_refused heap
            (poolPool.replenished state.nextRsrc).2 (request.pcName.getD "") request.xRsrcSize
            request.uiInitalloc request.uiIncrement request.uiMaxNumRes small granted.1 granted.2
            handled
          rw [init]
          exact .initial supplied granted.1 (notReturned_of_refused granted.2 handled)
            (List.cons_ne_self _ _)
  · rcases @RsrcPool.varAlloc_not_supplied poolPool state.nextRsrc poolHeap request.pcName
      poolPool.uxSizeEach supplied with same | aborts
    · rw [same]
      exact .struct supplied
    · rw [aborts]
      exact .aborts fun isSupplied => absurd isSupplied supplied

/-- A creation that is asked for. -/
inductive Outcome (state : RsrcPools) (poolHeap heap : RsrcHeap) (request : NewPool) :
    Except RsrcFault (RsrcPoolHandle × RsrcPools) → Prop where
  | created (supported : state.TakenBack poolHeap heap request) {handle : Nat}
      {after : RsrcPools} :
      Outcome state poolHeap heap request (.ok (some handle, after))
  | aborts (supported : state.TakenBack poolHeap heap request) :
      Outcome state poolHeap heap request (.error .abort)
  | same (supported : state.TakenBack poolHeap heap request) :
      Outcome state poolHeap heap request (.ok (none, state))
  | changed (notSupported : ¬ state.TakenBack poolHeap heap request) {after : RsrcPools}
      (left : after.xRsrcPoolPool ≠ none ∧ state.xRsrcPoolPool = none ∨
        after.abandoned ≠ state.abandoned) :
      Outcome state poolHeap heap request (.ok (none, after))

theorem outcome_ready (shaped : state.Shaped) (returns : request.aborts = false)
    (accepted : request.badVariable = false) (isPool : state.xRsrcPoolPool = some poolPool) :
    state.Outcome poolHeap heap request (state.pxRsrcNewPool poolHeap heap request) := by
  have shape := shaped poolPool isPool
  have ready : state.initializePools poolHeap = .ok (true, poolPool, state.nextRsrc) := by
    rw [initializePools, isPool]
  have same : { state with xRsrcPoolPool := some poolPool } = state := by
    rw [← isPool]
  have takenBack_iff : state.TakenBack poolHeap heap request ↔
      (poolPool.Supplied poolHeap → request.uiInitalloc ≠ 0 → NotReturned heap) := by
    have hasStruct : state.HasStruct poolHeap.memory ↔ poolPool.Supplied poolHeap := by
      rw [HasStruct, isPool, RsrcPool.Supplied, shape.increment]
      exact ⟨fun memory empty => ⟨by decide, memory empty⟩,
        fun supplied empty => (supplied empty).2⟩
    rw [TakenBack, hasStruct, isPool]
    exact ⟨fun both => both.2, fun supported => ⟨fun isFirst => (by cases isFirst), supported⟩⟩
  have outcome :=
    @newPoolFrom_outcome { state with xRsrcPoolPool := some poolPool } poolPool poolHeap heap
      request shape returns
  rw [newPool_ready returns accepted ready]
  revert outcome
  generalize newPoolFrom { state with xRsrcPoolPool := some poolPool } poolPool poolHeap heap
    request = result
  intro outcome
  cases outcome with
  | created granted => exact .created (takenBack_iff.mpr fun _ => granted)
  | aborts supported => exact .aborts (takenBack_iff.mpr supported)
  | struct notSupplied =>
      rw [same]
      exact .same (takenBack_iff.mpr fun supplied => absurd supplied notSupplied)
  | initial supplied positive returned abandoned =>
      exact .changed (fun takenBack => returned (takenBack_iff.mp takenBack supplied positive))
        (.inr abandoned)

theorem outcome_first (returns : request.aborts = false) (accepted : request.badVariable = false)
    (isFirst : state.xRsrcPoolPool = none) :
    state.Outcome poolHeap heap request (state.pxRsrcNewPool poolHeap heap request) := by
  cases granted : poolHeap.memory with
  | true =>
      obtain ⟨poolPool, ready, isAt, -, supplied⟩ := initializePools_first isFirst granted
      have takenBack_iff : state.TakenBack poolHeap heap request ↔
          (request.uiInitalloc ≠ 0 → NotReturned heap) := by
        have hasStruct : state.HasStruct poolHeap.memory := by
          rw [HasStruct, isFirst]
          exact granted
        exact ⟨fun both => both.2 hasStruct, fun supported =>
          ⟨fun _ => .inl granted, fun _ => supported⟩⟩
      have outcome :=
        @newPoolFrom_outcome { state with
          xRsrcPoolPool := some poolPool, nextRsrc := state.nextRsrc + 5 } poolPool poolHeap heap
          request isAt.shape returns
      rw [newPool_ready returns accepted ready]
      revert outcome
      generalize newPoolFrom { state with
          xRsrcPoolPool := some poolPool, nextRsrc := state.nextRsrc + 5 } poolPool poolHeap heap
        request = result
      intro outcome
      cases outcome with
      | created granted => exact .created (takenBack_iff.mpr granted)
      | aborts supported => exact .aborts (takenBack_iff.mpr (supported supplied))
      | struct notSupplied => exact absurd supplied notSupplied
      | initial _ positive returned abandoned =>
          exact .changed (fun takenBack => returned (takenBack_iff.mp takenBack positive))
            (.inr abandoned)
  | false =>
      have noStruct : ¬ state.HasStruct poolHeap.memory := by
        rw [HasStruct, isFirst, granted]
        exact Bool.false_ne_true
      rw [pxRsrcNewPool, returns, accepted, initializePools, isFirst]
      cases handled : poolHeap.vRsrcOOMfn with
      | true =>
          obtain ⟨init, -⟩ := @RsrcPool.initPool_refused poolHeap state.nextRsrc "Pools"
            rsrcPoolSize rsrcInitNumPools rsrcOneResource rsrcNoMaxLimit (by decide) (by decide)
            granted handled
          simp only [init]
          exact .changed (fun takenBack =>
            notReturned_of_refused granted handled (takenBack.1 isFirst))
            (.inl ⟨Option.some_ne_none _, isFirst⟩)
      | false =>
          have aborts : RsrcPool.InitAborts poolHeap rsrcInitNumPools :=
            ⟨by decide, granted, handled⟩
          simp only [RsrcPool.initPool_aborts aborts]
          exact .aborts ⟨fun _ => .inr handled, fun hasStruct => absurd hasStruct noStruct⟩

theorem Shaped.outcome (shaped : state.Shaped) (returns : request.aborts = false)
    (accepted : request.badVariable = false) :
    state.Outcome poolHeap heap request (state.pxRsrcNewPool poolHeap heap request) := by
  cases isPool : state.xRsrcPoolPool with
  | some poolPool => exact outcome_ready shaped returns accepted isPool
  | none => exact outcome_first returns accepted isPool

theorem Unwound.refl (shaped : state.Shaped) (returns : request.aborts = false) :
    state.Unwound request state where
  poolPool := rfl
  pools := rfl
  abandoned := rfl
  retry := shaped.retry returns

/-- The creations that are taken back when they return `NULL`. -/
theorem Shaped.unwound_iff (shaped : state.Shaped) :
    (∀ after, state.pxRsrcNewPool poolHeap heap request = .ok (none, after) →
      state.Unwound request after) ↔
      (request.aborts = false → request.badVariable = false →
        state.TakenBack poolHeap heap request) := by
  cases returns : request.aborts with
  | true =>
      rw [pxRsrcNewPool, returns]
      exact iff_of_true (fun _ run => by cases run) fun isReturning => by cases isReturning
  | false =>
      cases accepted : request.badVariable with
      | true =>
          rw [pxRsrcNewPool, returns, accepted]
          refine iff_of_true ?_ fun _ isAccepted => by cases isAccepted
          rintro after ⟨⟩
          exact .refl shaped returns
      | false =>
          have outcome := @Shaped.outcome state poolHeap heap request shaped returns accepted
          revert outcome
          generalize state.pxRsrcNewPool poolHeap heap request = result
          intro outcome
          cases outcome with
          | created supported => exact iff_of_true (fun _ run => by cases run) fun _ _ => supported
          | aborts supported => exact iff_of_true (fun _ run => by cases run) fun _ _ => supported
          | same supported =>
              refine iff_of_true ?_ fun _ _ => supported
              rintro after ⟨⟩
              exact .refl shaped returns
          | changed notSupported left =>
              apply iff_of_false
              · intro unwound
                rcases left with ⟨linked, isFirst⟩ | abandoned
                · exact linked ((unwound _ rfl).poolPool.trans isFirst)
                · exact abandoned (unwound _ rfl).abandoned
              · exact fun supported => notSupported (supported rfl rfl)

theorem Shaped.atomic_iff (shaped : state.Shaped) (operation : RsrcOp) :
    state.Atomic operation ((perform operation).run state) ↔ state.AtomicSupported operation := by
  cases operation with
  | alloc heap pxPool pcRequestor =>
      exact iff_of_true (fun _ _ _ other => by cases other) trivial
  | varAlloc heap pxPool pcRequestor xPayloadLen =>
      exact iff_of_true (fun _ _ _ other => by cases other) trivial
  | free pvResPayload => exact iff_of_true (fun _ _ _ other => by cases other) trivial
  | newPool poolHeap heap request =>
      have performed (after : RsrcPools) :
          (perform (.newPool poolHeap heap request)).run state = .ok (.pool none) after ↔
            state.pxRsrcNewPool poolHeap heap request = .ok (none, after) := by
        rw [EStateM.run, perform, RsrcPools.operate]
        cases state.pxRsrcNewPool poolHeap heap request with
        | error fault => exact iff_of_false (fun run => by cases run) fun run => by cases run
        | ok made =>
            obtain ⟨handle, later⟩ := made
            simp only [Command.ok_bind, pure, Except.pure, EStateM.Result.ok.injEq,
              RsrcResult.pool.injEq, Except.ok.injEq, Prod.mk.injEq]
      rw [AtomicSupported, ← shaped.unwound_iff]
      constructor
      · exact fun atomic after run =>
          atomic poolHeap heap request rfl after ((performed after).mpr run)
      · rintro unwound _ _ _ ⟨⟩ after run
        exact unwound after ((performed after).mp run)

/-- The pool of pools stays what it was set up as, whatever a step makes of it. -/
theorem Shaped.kept (shaped : state.Shaped) (operation : RsrcOp) :
    Shaped (Command.final ((perform operation).run state)) := by
  rw [EStateM.run, perform]
  cases run : state.operate operation with
  | error fault => exact shaped
  | ok made =>
      obtain ⟨result, after⟩ := made
      exact shaped.operate run

end Creation

/-- In every run each creation of a pool that returns `NULL` leaves nothing behind exactly
if no creation of the run is refused, with a handler that returns, the memory of the first
pool of pools or, with a struct for the pool, that of the initial resources. -/
theorem creations_atomic_iff (operations : List RsrcOp) :
    (∀ occurrence ∈ Trace.trace perform operations startup,
      occurrence.before.Atomic occurrence.event occurrence.result) ↔
      ∀ occurrence ∈ Trace.trace perform operations startup,
        occurrence.before.AtomicSupported occurrence.event :=
  Trace.proper_iff_supported Shaped AtomicSupported Atomic
    (fun _ operation shaped => shaped.atomic_iff operation)
    (fun _ operation shaped _ => shaped.kept operation) shaped_startup

/-- A pool of four with all its initial resources. -/
def fourAtOnce : NewPool where
  pcName := some "resource"
  xRsrcSize := 4
  uiInitalloc := 4
  uiIncrement := 1
  uiMaxNumRes := 0

/-- It stays linked, with its struct taken, when there is no memory for the four. -/
theorem failed_pool_stays_linked :
    ¬ ∀ occurrence ∈ Trace.trace perform [.newPool ⟨true, true⟩ ⟨false, true⟩ fourAtOnce] startup,
      occurrence.before.Atomic occurrence.event occurrence.result := by
  intro all
  have first := all _ (.head _)
  have unwound := first ⟨true, true⟩ ⟨false, true⟩ fourAtOnce rfl _ rfl
  exact absurd unwound.abandoned (by decide)

end RsrcPools

end RinaSense
