import RinaSense.Common.RsrcAvailability

/-!
# The size of variable resources

A pool of resources without a size, with the space that each resource was given. A resource
is given as much as the first request for it asks for; the initial one is there before any
request and has no payload.
-/

namespace RinaSense

/-- `sizeof(struct rsrc)`, four pointers of four bytes. -/
def rsrcHeaderSize : UInt32 := 16

/-- `rsrcRES_ALIGN_TO`. -/
def rsrcResAlignTo : UInt32 := 4

/-- The next-higher size that is aligned. -/
def privuxRsrcAlignUp (uxSize : UInt32) : UInt32 :=
  if uxSize &&& (rsrcResAlignTo - 1) ≠ 0 then
    uxSize + (rsrcResAlignTo - (uxSize &&& (rsrcResAlignTo - 1)))
  else uxSize

/-- A pool, the number of the next new resource, and the size that each resource was
given, its header included. -/
structure SizedPool where
  pool : RsrcPool
  nextRsrc : Nat
  xResSize : Nat → UInt32

inductive SizedCall where
  | alloc (heap : RsrcHeap) (pcRequestor : Option String)
  | varAlloc (heap : RsrcHeap) (pcRequestor : Option String) (xPayloadLen : UInt32)
  | free (pxRsrc : Nat)
  deriving Repr, DecidableEq

namespace SizedPool

/-- The pool as it is created. -/
def created (pool : RsrcPool) (nextRsrc : Nat) : SizedPool where
  pool := pool
  nextRsrc := nextRsrc
  xResSize := fun _ => privuxRsrcAlignUp (rsrcHeaderSize + UInt32.ofNat pool.uxSizeEach)

/-- The sizes with those of the resources that an addition numbers from `nextRsrc` on. -/
def withAdded (sized : SizedPool) (later : Nat) (xResSize : UInt32) : Nat → UInt32 := fun pxRsrc =>
  if sized.nextRsrc ≤ pxRsrc ∧ pxRsrc < later then xResSize else sized.xResSize pxRsrc

def pxRsrcVarAlloc (heap : RsrcHeap) (sized : SizedPool) (pcRequestor : Option String)
    (xPayloadLen : UInt32) : Except RsrcFault (Option Nat × SizedPool) := do
  let (pxRsrc, pool, nextRsrc) ←
    sized.pool.pxRsrcVarAlloc heap sized.nextRsrc pcRequestor xPayloadLen.toNat
  let xResSize := privuxRsrcAlignUp (rsrcHeaderSize + xPayloadLen)
  return (pxRsrc, { pool, nextRsrc, xResSize := sized.withAdded nextRsrc xResSize })

def pxRsrcAlloc (heap : RsrcHeap) (sized : SizedPool) (pcRequestor : Option String) :
    Except RsrcFault (Option Nat × SizedPool) :=
  sized.pxRsrcVarAlloc heap pcRequestor (UInt32.ofNat sized.pool.uxSizeEach)

/-- Only a resource in use is freed. -/
def vRsrcFree (sized : SizedPool) (pxRsrc : Nat) : Except RsrcFault SizedPool :=
  if pxRsrc ∈ sized.pool.xActive then .ok { sized with pool := sized.pool.vRsrcFree pxRsrc }
  else .error .notLive

def operate (sized : SizedPool) : SizedCall → Except RsrcFault (Option Nat × SizedPool)
  | .alloc heap pcRequestor => sized.pxRsrcAlloc heap pcRequestor
  | .varAlloc heap pcRequestor xPayloadLen => sized.pxRsrcVarAlloc heap pcRequestor xPayloadLen
  | .free pxRsrc => do
      let sized ← sized.vRsrcFree pxRsrc
      return (none, sized)

def perform (call : SizedCall) : EStateM RsrcFault SizedPool (Option Nat) := fun sized =>
  match sized.operate call with
  | .ok (pxRsrc, next) => .ok pxRsrc next
  | .error fault => .error fault sized

/-! ## Purpose -/

/-- The bytes behind the header of a resource. -/
def payloadCapacity (sized : SizedPool) (pxRsrc : Nat) : Nat :=
  (sized.xResSize pxRsrc).toNat - rsrcHeaderSize.toNat

/-- A resource that is returned has room for what was requested. -/
def Fits (call : SizedCall) (result : EStateM.Result RsrcFault SizedPool (Option Nat)) : Prop :=
  ∀ heap pcRequestor xPayloadLen pxRsrc after, call = .varAlloc heap pcRequestor xPayloadLen →
    result = .ok (some pxRsrc) after → xPayloadLen.toNat ≤ after.payloadCapacity pxRsrc

/-- The largest payload whose size with the header is a size. -/
def largestPayload : UInt32 := 4294967276

/-- A request that will be served finds no free resource, and its size does not wrap. -/
def Supported (sized : SizedPool) (call : SizedCall) : Prop :=
  ∀ heap pcRequestor xPayloadLen, call = .varAlloc heap pcRequestor xPayloadLen →
    sized.pool.refuses pcRequestor xPayloadLen.toNat = false → sized.pool.Supplied heap →
      sized.pool.pxFreelist = [] ∧ xPayloadLen ≤ largestPayload

/-! ## Sizes -/

theorem alignUp_toNat (uxSize : UInt32) :
    (privuxRsrcAlignUp uxSize).toNat = (uxSize.toNat + 3) / 4 * 4 % 4294967296 := by
  have masked : (uxSize &&& (rsrcResAlignTo - 1)).toNat = uxSize.toNat % 4 := by
    rw [UInt32.toNat_and]
    exact Nat.and_two_pow_sub_one_eq_mod uxSize.toNat 2
  have bounded := uxSize.toNat_lt
  rw [privuxRsrcAlignUp]
  split
  · next unaligned =>
      have remainder : uxSize.toNat % 4 ≠ 0 := by
        rw [← masked]
        exact fun zero => unaligned (UInt32.toNat_inj.mp zero)
      have atMost : uxSize &&& (rsrcResAlignTo - 1) ≤ rsrcResAlignTo := by
        rw [UInt32.le_iff_toNat_le, masked]
        exact Nat.le_of_lt (Nat.mod_lt _ (by decide))
      rw [UInt32.toNat_add, UInt32.toNat_sub_of_le _ _ atMost, masked]
      have align : rsrcResAlignTo.toNat = 4 := rfl
      rw [align]
      omega
  · next aligned =>
      have remainder : uxSize.toNat % 4 = 0 := by
        rw [← masked, not_not.mp aligned]
        rfl
      omega

/-- The new resources that have room for the request they were made for. -/
theorem room_iff {xPayloadLen : UInt32} :
    xPayloadLen.toNat ≤
        (privuxRsrcAlignUp (rsrcHeaderSize + xPayloadLen)).toNat - rsrcHeaderSize.toNat ↔
      xPayloadLen ≤ largestPayload := by
  have bounded := xPayloadLen.toNat_lt
  have header : rsrcHeaderSize.toNat = 16 := rfl
  have largest : largestPayload.toNat = 4294967276 := rfl
  rw [alignUp_toNat, UInt32.toNat_add, UInt32.le_iff_toNat_le, header, largest]
  omega

/-! ## Pools of resources without a size -/

/-- What holds of such a pool between calls: nothing freed comes back to it, and a free
resource is the initial one. -/
structure Sizeless (sized : SizedPool) : Prop where
  size : sized.pool.uxSizeEach = 0
  freeOnFree : sized.pool.uiFreeOnFree = true
  oneByOne : sized.pool.uiIncrement.toNat ≤ 1
  below : ∀ pxRsrc ∈ sized.pool.pxFreelist, pxRsrc < sized.nextRsrc
  noPayload : ∀ pxRsrc ∈ sized.pool.pxFreelist, sized.payloadCapacity pxRsrc = 0

section Sizeless

variable {sized : SizedPool} {heap : RsrcHeap} {pcRequestor : Option String}
  {xPayloadLen : UInt32}

theorem withAdded_same (xResSize : UInt32) :
    sized.withAdded sized.nextRsrc xResSize = sized.xResSize := by
  funext pxRsrc
  rw [withAdded]
  apply if_neg
  rintro ⟨atLeast, below⟩
  exact absurd below (Nat.not_lt_of_le atLeast)

theorem refuses_zero {pool : RsrcPool} : pool.refuses pcRequestor 0 = true := by
  simp only [RsrcPool.refuses, beq_self_eq_true, Bool.or_true, Bool.true_or]

/-- What a request that returns makes of the pool. -/
inductive Serves (sized : SizedPool) (heap : RsrcHeap) (pcRequestor : Option String)
    (xPayloadLen : UInt32) : Except RsrcFault (Option Nat × SizedPool) → Prop where
  | aborts (notServed : sized.pool.refuses pcRequestor xPayloadLen.toNat = false →
      ¬ sized.pool.Supplied heap) :
      Serves sized heap pcRequestor xPayloadLen (.error .abort)
  | same (notServed : sized.pool.refuses pcRequestor xPayloadLen.toNat = false →
      ¬ sized.pool.Supplied heap) :
      Serves sized heap pcRequestor xPayloadLen (.ok (none, sized))
  | initial {first : Nat} {rest : List Nat}
      (accepted : sized.pool.refuses pcRequestor xPayloadLen.toNat = false)
      (free : sized.pool.pxFreelist = first :: rest) :
      Serves sized heap pcRequestor xPayloadLen
        (.ok (some first, { sized with pool := sized.pool.taken first rest }))
  | new {pool : RsrcPool} {later : Nat} (empty : sized.pool.pxFreelist = [])
      (supplied : sized.pool.Supplied heap)
      (accepted : sized.pool.refuses pcRequestor xPayloadLen.toNat = false)
      (noFree : pool.pxFreelist = []) (shape : sized.pool.SameShape pool)
      (later_eq : later = sized.nextRsrc + 1) :
      Serves sized heap pcRequestor xPayloadLen
        (.ok (some sized.nextRsrc,
          { pool, nextRsrc := later, xResSize := sized.withAdded later
              (privuxRsrcAlignUp (rsrcHeaderSize + xPayloadLen)) }))

theorem Sizeless.serves (sizeless : Sizeless sized) :
    sized.Serves heap pcRequestor xPayloadLen
      (sized.pxRsrcVarAlloc heap pcRequestor xPayloadLen) := by
  rw [pxRsrcVarAlloc]
  cases accepted : sized.pool.refuses pcRequestor xPayloadLen.toNat with
  | true =>
      rw [RsrcPool.varAlloc_refused accepted]
      simp only [Command.ok_bind, withAdded_same]
      exact .same fun isAccepted => nomatch accepted.symm.trans isAccepted
  | false =>
      by_cases supplied : sized.pool.Supplied heap
      · obtain ⟨first, rest, free, run⟩ :=
          @RsrcPool.varAlloc_supplied sized.pool sized.nextRsrc heap pcRequestor
            xPayloadLen.toNat accepted supplied
        rw [run]
        cases isFree : sized.pool.pxFreelist with
        | cons other others =>
            have unchanged : sized.pool.replenished sized.nextRsrc =
                (sized.pool, sized.nextRsrc) := by
              rw [RsrcPool.replenished, isFree]
            rw [unchanged] at free ⊢
            simp only [Command.ok_bind, withAdded_same]
            exact .initial accepted free
        | nil =>
            have one : sized.pool.uiIncrement.toNat = 1 := by
              have positive : sized.pool.uiIncrement.toNat ≠ 0 := fun zero =>
                (supplied isFree).1 (UInt16.toNat_inj.mp zero)
              have atMost := sizeless.oneByOne
              omega
            have shape := @RsrcPool.replenished_taken_shape sized.pool sized.nextRsrc first rest
            have grown : sized.pool.replenished sized.nextRsrc =
                (sized.pool.added sized.nextRsrc sized.pool.uiIncrement.toUInt32,
                  sized.nextRsrc + 1) := by
              rw [RsrcPool.replenished, isFree, one]
            rw [grown] at free shape ⊢
            simp only [RsrcPool.added, isFree, UInt16.toNat_toUInt32, one, List.range'_one,
              List.reverse_singleton, List.append_nil, List.cons.injEq] at free
            obtain ⟨rfl, rfl⟩ := free
            exact .new isFree supplied accepted rfl shape rfl
      · rcases @RsrcPool.varAlloc_not_supplied sized.pool sized.nextRsrc heap pcRequestor
          xPayloadLen.toNat supplied with same | aborts
        · rw [same]
          simp only [Command.ok_bind, withAdded_same]
          exact .same fun _ => supplied
        · rw [aborts]
          exact .aborts fun _ => supplied

theorem Sizeless.kept_of_serves {after : SizedPool} {pxRsrc : Option Nat}
    {result : Except RsrcFault (Option Nat × SizedPool)} (sizeless : Sizeless sized)
    (serves : sized.Serves heap pcRequestor xPayloadLen result)
    (returned : result = .ok (pxRsrc, after)) : Sizeless after := by
  cases serves with
  | aborts _ => cases returned
  | same _ =>
      cases returned
      exact sizeless
  | @initial first rest accepted free =>
      cases returned
      have inList {other : Nat} (member : other ∈ rest) : other ∈ sized.pool.pxFreelist := by
        rw [free]
        exact List.mem_cons_of_mem first member
      exact ⟨sizeless.size, sizeless.freeOnFree, sizeless.oneByOne,
        fun other member => sizeless.below other (inList member),
        fun other member => sizeless.noPayload other (inList member)⟩
  | @new pool later empty supplied accepted noFree shape later_eq =>
      cases returned
      constructor
      · exact shape.size.trans sizeless.size
      · exact shape.freeOnFree.trans sizeless.freeOnFree
      · exact shape.increment ▸ sizeless.oneByOne
      · rw [noFree]
        exact fun _ member => absurd member List.not_mem_nil
      · rw [noFree]
        exact fun _ member => absurd member List.not_mem_nil

/-- A free leaves the free list alone. -/
theorem Sizeless.free (sizeless : Sizeless sized) (pxRsrc : Nat) :
    Sizeless { sized with pool := sized.pool.vRsrcFree pxRsrc } := by
  have same : sized.pool.vRsrcFree pxRsrc =
      { sized.pool with
        xActive := sized.pool.xActive.erase pxRsrc
        uiNumInUse := sized.pool.uiNumInUse - 1 } := by
    simp only [RsrcPool.vRsrcFree, sizeless.freeOnFree, if_true]
  rw [same]
  exact ⟨sizeless.size, sizeless.freeOnFree, sizeless.oneByOne, sizeless.below,
    sizeless.noPayload⟩

theorem Sizeless.kept (sizeless : Sizeless sized) (call : SizedCall) :
    Sizeless (Command.final ((perform call).run sized)) := by
  have allocated {xPayloadLen : UInt32} {heap : RsrcHeap} {pcRequestor : Option String} :
      Sizeless (Command.final ((perform (.varAlloc heap pcRequestor xPayloadLen)).run sized)) := by
    simp only [EStateM.run, perform, operate]
    cases run : sized.pxRsrcVarAlloc heap pcRequestor xPayloadLen with
    | error fault => exact sizeless
    | ok returned =>
        obtain ⟨pxRsrc, after⟩ := returned
        exact sizeless.kept_of_serves sizeless.serves run
  cases call with
  | alloc heap pcRequestor =>
      exact @allocated (UInt32.ofNat sized.pool.uxSizeEach) heap pcRequestor
  | varAlloc heap pcRequestor xPayloadLen => exact allocated
  | free pxRsrc =>
      simp only [EStateM.run, perform, operate, SizedPool.vRsrcFree]
      by_cases live : pxRsrc ∈ sized.pool.xActive
      · simp only [live, if_true, Command.ok_bind]
        exact sizeless.free pxRsrc
      · simp only [live, if_false, Command.error_bind]
        exact sizeless

theorem perform_eq_ok {call : SizedCall} {pxRsrc : Option Nat} {after : SizedPool} :
    (perform call).run sized = .ok pxRsrc after ↔ sized.operate call = .ok (pxRsrc, after) := by
  rw [EStateM.run, perform]
  cases sized.operate call with
  | error fault => exact iff_of_false (fun returned => nomatch returned) fun returned =>
      nomatch returned
  | ok returned =>
      simp only [EStateM.Result.ok.injEq, Except.ok.injEq, Prod.ext_iff]

/-- The requests that get enough are those that are supported. -/
theorem Sizeless.fits_iff (sizeless : Sizeless sized) (call : SizedCall) :
    Fits call ((perform call).run sized) ↔ sized.Supported call := by
  cases call with
  | alloc heap pcRequestor =>
      exact iff_of_true (fun _ _ _ _ _ other => nomatch other) (fun _ _ _ other => nomatch other)
  | free pxRsrc =>
      exact iff_of_true (fun _ _ _ _ _ other => nomatch other) (fun _ _ _ other => nomatch other)
  | varAlloc heap pcRequestor xPayloadLen =>
      have fits_iff : Fits (.varAlloc heap pcRequestor xPayloadLen)
            ((perform (.varAlloc heap pcRequestor xPayloadLen)).run sized) ↔
          ∀ pxRsrc after, sized.pxRsrcVarAlloc heap pcRequestor xPayloadLen =
            .ok (some pxRsrc, after) → xPayloadLen.toNat ≤ after.payloadCapacity pxRsrc := by
        constructor
        · intro fits pxRsrc after returned
          exact fits heap pcRequestor xPayloadLen pxRsrc after rfl (perform_eq_ok.mpr returned)
        · rintro fits _ _ _ pxRsrc after ⟨⟩ returned
          exact fits pxRsrc after (perform_eq_ok.mp returned)
      have supported_iff : sized.Supported (.varAlloc heap pcRequestor xPayloadLen) ↔
          (sized.pool.refuses pcRequestor xPayloadLen.toNat = false →
            sized.pool.Supplied heap →
              sized.pool.pxFreelist = [] ∧ xPayloadLen ≤ largestPayload) := by
        constructor
        · exact fun supported => supported heap pcRequestor xPayloadLen rfl
        · rintro supported _ _ _ ⟨⟩
          exact supported
      rw [fits_iff, supported_iff]
      have serves := @Sizeless.serves sized heap pcRequestor xPayloadLen sizeless
      revert serves
      generalize sized.pxRsrcVarAlloc heap pcRequestor xPayloadLen = result
      intro serves
      cases serves with
      | aborts notServed =>
          exact iff_of_true (fun _ _ returned => nomatch returned)
            fun accepted supplied => absurd supplied (notServed accepted)
      | same notServed =>
          exact iff_of_true (fun _ _ returned => nomatch returned)
            fun accepted supplied => absurd supplied (notServed accepted)
      | @initial first rest accepted free =>
          have noPayload := sizeless.noPayload first (free ▸ List.mem_cons_self)
          apply iff_of_false
          · intro fits
            have room := fits first _ rfl
            have zero : xPayloadLen.toNat = 0 := Nat.le_zero.mp (noPayload ▸ room)
            rw [zero, refuses_zero] at accepted
            cases accepted
          · intro supported
            have empty := (supported accepted fun empty => nomatch free.symm.trans empty).1
            rw [free] at empty
            cases empty
      | @new pool later empty supplied accepted noFree shape later_eq =>
          rw [later_eq]
          have size : sized.withAdded (sized.nextRsrc + 1)
              (privuxRsrcAlignUp (rsrcHeaderSize + xPayloadLen)) sized.nextRsrc =
                privuxRsrcAlignUp (rsrcHeaderSize + xPayloadLen) :=
            if_pos ⟨Nat.le_refl _, Nat.lt_succ_self _⟩
          have capacity : payloadCapacity
              { pool, nextRsrc := sized.nextRsrc + 1
                xResSize := sized.withAdded (sized.nextRsrc + 1)
                  (privuxRsrcAlignUp (rsrcHeaderSize + xPayloadLen)) } sized.nextRsrc =
                (privuxRsrcAlignUp (rsrcHeaderSize + xPayloadLen)).toNat - rsrcHeaderSize.toNat :=
            congrArg (fun space : UInt32 => space.toNat - rsrcHeaderSize.toNat) size
          constructor
          · intro fits _ _
            exact ⟨empty, room_iff.mp (capacity ▸ fits _ _ rfl)⟩
          · rintro supported _ _ ⟨⟩
            exact capacity ▸ room_iff.mpr (supported accepted supplied).2

end Sizeless

/-! ## The pools of the module -/

section Creation

variable {request : RsrcPools.NewPool} {state after : RsrcPools} {poolHeap heap : RsrcHeap}
  {handle : Nat} {pool : RsrcPool}

theorem sizeless_created
    (isCreated : state.pxRsrcNewPool poolHeap heap request = .ok (some handle, after))
    (found : after.pools[handle]? = some pool) (sizeless : request.xRsrcSize = 0) :
    Sizeless (created pool after.nextRsrc) := by
  obtain ⟨returns, accepted, initial⟩ := RsrcPools.initial_of_newPool isCreated found
  have small := RsrcPools.NewPool.smallIncrement returns
  have atMost := UInt32.le_iff_toNat_le.mp (RsrcPools.NewPool.small_variable accepted sizeless)
  have size : pool.uxSizeEach = 0 := initial.size.trans sizeless
  constructor
  · exact size
  · rw [created, initial.freeOnFree, sizeless]
    rfl
  · rw [created, initial.increment, RsrcPool.toUInt16_small small]
    exact atMost
  · exact initial.numbered.freeBelow
  · intro pxRsrc _
    rw [payloadCapacity, created, size]
    rfl

/-- In every history of its allocations and frees a pool of resources without a size gives
every request as much as it asks for, exactly if each request that is served finds no free
resource and asks for no more than the largest payload. -/
theorem capacity_run_iff
    (isCreated : state.pxRsrcNewPool poolHeap heap request = .ok (some handle, after))
    (found : after.pools[handle]? = some pool) (sizeless : request.xRsrcSize = 0)
    (calls : List SizedCall) :
    (∀ occurrence ∈ Trace.trace perform calls (created pool after.nextRsrc),
      Fits occurrence.event occurrence.result) ↔
      ∀ occurrence ∈ Trace.trace perform calls (created pool after.nextRsrc),
        occurrence.before.Supported occurrence.event :=
  Trace.proper_iff_supported Sizeless Supported (fun _ call result => Fits call result)
    (fun _ call isSizeless => isSizeless.fits_iff call)
    (fun _ call isSizeless _ => isSizeless.kept call)
    (sizeless_created isCreated found sizeless)

/-- A variable pool with one initial resource. -/
def oneInitial : RsrcPools.NewPool where
  pcName := some "resource"
  xRsrcSize := 0
  uiInitalloc := 1
  uiIncrement := 1
  uiMaxNumRes := 0

theorem created_oneInitial :
    ∃ after pool, RsrcPools.startup.pxRsrcNewPool ⟨true, false⟩ ⟨true, false⟩ oneInitial =
      .ok (some 0, after) ∧ after.pools[0]? = some pool :=
  ⟨_, _, rfl, rfl⟩

theorem capacity_run_iff_oneInitial :
    ∃ after pool, RsrcPools.startup.pxRsrcNewPool ⟨true, false⟩ ⟨true, false⟩ oneInitial =
        .ok (some 0, after) ∧ after.pools[0]? = some pool ∧
      ((∀ occurrence ∈ Trace.trace perform
            [.varAlloc ⟨true, false⟩ (some "user") 8] (created pool after.nextRsrc),
          Fits occurrence.event occurrence.result) ↔
        ∀ occurrence ∈ Trace.trace perform
            [.varAlloc ⟨true, false⟩ (some "user") 8] (created pool after.nextRsrc),
          occurrence.before.Supported occurrence.event) := by
  obtain ⟨after, pool, isCreated, found⟩ := created_oneInitial
  exact ⟨after, pool, isCreated, found, capacity_run_iff isCreated found rfl _⟩

/-- Its initial resource is returned for a request of eight bytes. -/
theorem initial_resource_without_payload :
    ∃ after pool, RsrcPools.startup.pxRsrcNewPool ⟨true, false⟩ ⟨true, false⟩ oneInitial =
        .ok (some 0, after) ∧ after.pools[0]? = some pool ∧
      ¬ ∀ occurrence ∈ Trace.trace perform [.varAlloc ⟨true, false⟩ (some "user") 8]
          (created pool after.nextRsrc),
        Fits occurrence.event occurrence.result := by
  refine ⟨_, _, rfl, rfl, ?_⟩
  intro all
  have first := all _ (.head _)
  have room := first ⟨true, false⟩ (some "user") 8 _ _ rfl rfl
  exact absurd room (by decide)

end Creation

end SizedPool

end RinaSense
