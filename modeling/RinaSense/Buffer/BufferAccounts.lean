import RinaSense.Buffer.NetworkBufferPool
import RinaSense.Common.RsrcAccounts
import RinaSense.Library.Ownership

/-!
# Accounts of the network buffers

The semaphore counts the descriptors that are left, and every payload that is in use
belongs to one descriptor or to the caller that obtained it without one. Each primitive
is read once over the two pools; the operations and their runs follow from that.
-/

namespace RinaSense

namespace NetworkBuffers

/-! ## The two pools -/

/-- The pool of the descriptors: all of them there, free or in use. -/
structure DescriptorPool (next : Nat) (pool : RsrcPool) : Prop where
  accounted : pool.Accounted
  numbered : pool.Numbered next
  size : pool.uxSizeEach = networkBufferDescriptorSize
  increment : pool.uiIncrement = 0
  unlimited : pool.uiMaxNumRes = 0
  kept : pool.uiFreeOnFree = false
  all : pool.pxFreelist.length + pool.xActive.length = 20

/-- The pool of the payloads, which are given back to the heap. -/
structure PayloadPool (next : Nat) (pool : RsrcPool) : Prop where
  accounted : pool.Accounted
  numbered : pool.Numbered next
  size : pool.uxSizeEach = 0
  increment : pool.uiIncrement = 1
  maximum : pool.uiMaxNumRes = 21
  freed : pool.uiFreeOnFree = true
  noFree : pool.pxFreelist = []

section Pools

variable {next : Nat} {pool : RsrcPool} {heap : RsrcHeap} {name : String}

theorem DescriptorPool.mono {later : Nat} (descriptors : DescriptorPool next pool)
    (grown : next ≤ later) : DescriptorPool later pool :=
  { descriptors with numbered := descriptors.numbered.mono grown }

theorem PayloadPool.mono {later : Nat} (payloads : PayloadPool next pool)
    (grown : next ≤ later) : PayloadPool later pool :=
  { payloads with numbered := payloads.numbered.mono grown }

theorem count_ne_full {count : UInt16} {bound : Nat} (atMost : count.toNat ≤ bound)
    (small : bound < 65535) : count ≠ 65535 := by
  intro full
  rw [full] at atMost
  exact absurd (Nat.lt_of_le_of_lt atMost small) (Nat.lt_irrefl _)

/-- A descriptor that is left can be had. -/
theorem DescriptorPool.alloc (descriptors : DescriptorPool next pool)
    (left : pool.pxFreelist ≠ []) :
    ∃ first after later,
      pool.pxRsrcVarAlloc heap next (some name) pool.uxSizeEach = .ok (some first, after, later) ∧
      DescriptorPool later after ∧ next ≤ later ∧ after.xActive = first :: pool.xActive ∧
      after.pxFreelist.length + 1 = pool.pxFreelist.length ∧ first ∉ pool.xActive := by
  have accepted : pool.refuses (some name) pool.uxSizeEach = false := by
    rw [RsrcPool.refuses, descriptors.size, descriptors.unlimited]
    rfl
  obtain ⟨first, after, later, run, takes⟩ :=
    @RsrcPool.Accounted.varAlloc_takes pool next heap (some name) pool.uxSizeEach
      descriptors.accounted descriptors.numbered accepted (fun empty => absurd empty left)
  have free := takes.free
  rw [if_neg left] at free
  have room : pool.uiNumInUse ≠ 65535 := by
    apply @count_ne_full _ 20 _ (by decide)
    rw [descriptors.accounted.inUse, ← descriptors.all]
    exact Nat.le_add_left _ _
  refine ⟨first, after, later, run, ?_, takes.grown, takes.active, free, takes.fresh⟩
  constructor
  · exact takes.accounted.mpr ⟨room, fun empty => absurd empty left⟩
  · exact takes.numbered
  · exact takes.shape.size.trans descriptors.size
  · exact takes.shape.increment.trans descriptors.increment
  · exact takes.shape.maximum.trans descriptors.unlimited
  · exact takes.shape.freeOnFree.trans descriptors.kept
  · have all := descriptors.all
    rw [takes.active, List.length_cons]
    omega

theorem DescriptorPool.free {number : Nat} (descriptors : DescriptorPool next pool)
    (used : number ∈ pool.xActive) :
    DescriptorPool next (pool.vRsrcFree number) ∧
      (pool.vRsrcFree number).pxFreelist.length = pool.pxFreelist.length + 1 := by
  have free : (pool.vRsrcFree number).pxFreelist = number :: pool.pxFreelist := by
    rw [RsrcPool.vRsrcFree, descriptors.kept]
    rfl
  have room : pool.uiNumFree ≠ 65535 := by
    apply @count_ne_full _ 20 _ (by decide)
    rw [descriptors.accounted.free, ← descriptors.all]
    exact Nat.le_add_right _ _
  refine ⟨?_, by rw [free, List.length_cons]⟩
  constructor
  · exact (RsrcPool.vRsrcFree_accounted_iff descriptors.accounted descriptors.numbered used).mpr
      (.inr room)
  · exact RsrcPool.vRsrcFree_numbered descriptors.numbered descriptors.accounted used
  · exact RsrcPool.vRsrcFree_shape.size.trans descriptors.size
  · exact RsrcPool.vRsrcFree_shape.increment.trans descriptors.increment
  · exact RsrcPool.vRsrcFree_shape.maximum.trans descriptors.unlimited
  · exact RsrcPool.vRsrcFree_shape.freeOnFree.trans descriptors.kept
  · have all := descriptors.all
    have positive := List.length_pos_of_mem used
    rw [free, RsrcPool.vRsrcFree_active, List.length_cons, List.length_erase_of_mem used]
    omega

/-- There is no room for another payload. -/
def Full (pool : RsrcPool) : Prop := 21 ≤ pool.uiNumInUse.toNat + pool.uiNumFree.toNat

instance (pool : RsrcPool) : Decidable (Full pool) := inferInstanceAs (Decidable (_ ≤ _))

theorem PayloadPool.refuses_iff {length : Nat} (payloads : PayloadPool next pool) :
    pool.refuses (some name) length = true ↔ length = 0 ∨ Full pool := by
  have maximum : (21 : UInt16).toNat = 21 := rfl
  simp only [RsrcPool.refuses, payloads.size, payloads.maximum, maximum, Full, Option.isNone_some,
    Bool.false_or, bne_self_eq_false, Bool.false_and, Bool.or_false, Bool.or_eq_true, beq_iff_eq,
    Bool.and_eq_true, decide_eq_true_eq]
  apply or_congr Iff.rfl
  exact and_iff_right (by decide)

/-- The heap grants no payload. -/
theorem PayloadPool.oom {length : Nat} (payloads : PayloadPool next pool)
    (asked : length ≠ 0) (room : ¬ Full pool) (refused : heap.memory = false) :
    pool.pxRsrcVarAlloc heap next (some name) length =
      if heap.vRsrcOOMfn then .ok (none, pool, next) else .error .abort := by
  apply RsrcPool.varAlloc_oom _ payloads.noFree _ refused
  · rw [← Bool.not_eq_true, payloads.refuses_iff]
    exact fun refuses => refuses.elim asked room
  · rw [payloads.increment]
    decide

/-- A payload that there is room and memory for. -/
theorem PayloadPool.alloc {length : Nat} (payloads : PayloadPool next pool)
    (asked : length ≠ 0) (room : ¬ Full pool) (granted : heap.memory = true) :
    ∃ first after later,
      pool.pxRsrcVarAlloc heap next (some name) length = .ok (some first, after, later) ∧
      PayloadPool later after ∧ next ≤ later ∧ after.xActive = first :: pool.xActive ∧
      first ∉ pool.xActive := by
  have accepted : pool.refuses (some name) length = false := by
    rw [← Bool.not_eq_true, payloads.refuses_iff]
    exact fun refuses => refuses.elim asked room
  have supplied : pool.Supplied heap := by
    intro _
    rw [payloads.increment]
    exact ⟨by decide, granted⟩
  obtain ⟨first, after, later, run, takes⟩ :=
    @RsrcPool.Accounted.varAlloc_takes pool next heap (some name) length payloads.accounted
      payloads.numbered accepted supplied
  have inUse : pool.uiNumInUse.toNat ≤ 20 := by
    rw [Full] at room
    omega
  have fits : pool.IncrementFits := by
    intro _ _
    have one : (1 : UInt16).toNat = 1 := rfl
    have maximum : (21 : UInt16).toNat = 21 := rfl
    rw [payloads.increment, payloads.maximum, one, maximum]
    omega
  refine ⟨first, after, later, run, ?_, takes.grown, takes.active, takes.fresh⟩
  constructor
  · exact takes.accounted.mpr ⟨count_ne_full inUse (by decide), fits⟩
  · exact takes.numbered
  · exact takes.shape.size.trans payloads.size
  · exact takes.shape.increment.trans payloads.increment
  · exact takes.shape.maximum.trans payloads.maximum
  · exact takes.shape.freeOnFree.trans payloads.freed
  · have free := takes.free
    rw [if_pos payloads.noFree, payloads.increment] at free
    exact List.length_eq_zero_iff.mp (Nat.succ.inj free)

theorem PayloadPool.free {number : Nat} (payloads : PayloadPool next pool)
    (used : number ∈ pool.xActive) : PayloadPool next (pool.vRsrcFree number) := by
  constructor
  · exact (RsrcPool.vRsrcFree_accounted_iff payloads.accounted payloads.numbered used).mpr
      (.inl payloads.freed)
  · exact RsrcPool.vRsrcFree_numbered payloads.numbered payloads.accounted used
  · exact RsrcPool.vRsrcFree_shape.size.trans payloads.size
  · exact RsrcPool.vRsrcFree_shape.increment.trans payloads.increment
  · exact RsrcPool.vRsrcFree_shape.maximum.trans payloads.maximum
  · exact RsrcPool.vRsrcFree_shape.freeOnFree.trans payloads.freed
  · rw [← payloads.noFree, RsrcPool.vRsrcFree, payloads.freed]
    rfl

end Pools

/-! ## The two pools among the pools -/

/-- The pools with one replaced. -/
def setPool (rsrc : RsrcPools) (handle : Nat) (pool : RsrcPool) (later : Nat) : RsrcPools :=
  { rsrc with pools := rsrc.pools.set handle pool, nextRsrc := later }

section SetPool

variable {rsrc : RsrcPools} {handle : Nat} {pool : RsrcPool}

theorem setPool_self (isPool : rsrc.pools[handle]? = some pool) :
    setPool rsrc handle pool rsrc.nextRsrc = rsrc := by
  obtain ⟨inside, rfl⟩ := List.getElem?_eq_some_iff.mp isPool
  rw [setPool, List.set_getElem_self]

theorem setPool_at {after : RsrcPool} {later : Nat} (isPool : rsrc.pools[handle]? = some pool) :
    (setPool rsrc handle after later).pools[handle]? = some after :=
  List.getElem?_set_self (List.getElem?_eq_some_iff.mp isPool).1

theorem setPool_other {other : Nat} {after : RsrcPool} {later : Nat} (different : handle ≠ other) :
    (setPool rsrc handle after later).pools[other]? = rsrc.pools[other]? :=
  List.getElem?_set_ne different

theorem varAlloc_at {heap : RsrcHeap} {name : Option String} {length : Nat}
    {taken : Option Nat} {after : RsrcPool} {later : Nat}
    (isPool : rsrc.pools[handle]? = some pool)
    (run : pool.pxRsrcVarAlloc heap rsrc.nextRsrc name length = .ok (taken, after, later)) :
    rsrc.pxRsrcVarAlloc heap (some handle) name length =
      .ok (taken.map (Rsrc.mk handle), setPool rsrc handle after later) := by
  simp only [RsrcPools.pxRsrcVarAlloc, isPool, run]
  rfl

theorem alloc_at {heap : RsrcHeap} {name : Option String}
    (isPool : rsrc.pools[handle]? = some pool) :
    rsrc.pxRsrcAlloc heap (some handle) name =
      rsrc.pxRsrcVarAlloc heap (some handle) name pool.uxSizeEach := by
  simp only [RsrcPools.pxRsrcAlloc, isPool]

theorem free_at {number : Nat} (isPool : rsrc.pools[handle]? = some pool)
    (used : number ∈ pool.xActive) :
    rsrc.vRsrcFree (some ⟨handle, number⟩) =
      .ok (setPool rsrc handle (pool.vRsrcFree number) rsrc.nextRsrc) := by
  simp only [RsrcPools.vRsrcFree, isPool, if_pos used]
  rfl

end SetPool

/-- The resources of a pool that are in use. -/
def used (handle : Nat) (pool : RsrcPool) : List Rsrc := pool.xActive.map (Rsrc.mk handle)

theorem mem_used {handle : Nat} {pool : RsrcPool} {resource : Rsrc} :
    resource ∈ used handle pool ↔ resource.pxPool = handle ∧ resource.number ∈ pool.xActive := by
  rw [used, List.mem_map]
  constructor
  · rintro ⟨number, member, rfl⟩
    exact ⟨rfl, member⟩
  · rintro ⟨rfl, member⟩
    exact ⟨resource.number, member, rfl⟩

/-- A resource is active in the pool with a handle exactly if it is one of those in use. -/
theorem active_iff {handle : Option Nat} {rsrc : RsrcPools} {h : Nat} {pool : RsrcPool}
    {resource : Rsrc} (isHandle : handle = some h) (isPool : rsrc.pools[h]? = some pool) :
    (handle = some resource.pxPool ∧
        ∃ found ∈ rsrc.pools[resource.pxPool]?, resource.number ∈ found.xActive) ↔
      resource ∈ used h pool := by
  rw [mem_used, isHandle, Option.some_inj, eq_comm]
  apply and_congr_right
  rintro rfl
  rw [isPool]
  constructor
  · rintro ⟨found, isFound, member⟩
    obtain rfl := Option.some.inj isFound
    exact member
  · exact fun member => ⟨pool, rfl, member⟩

theorem used_cons {handle first : Nat} {pool after : RsrcPool}
    (active : after.xActive = first :: pool.xActive) :
    used handle after = ⟨handle, first⟩ :: used handle pool := by
  rw [used, active]
  rfl

theorem used_free {handle number : Nat} {pool : RsrcPool} :
    used handle (pool.vRsrcFree number) = (used handle pool).erase ⟨handle, number⟩ := by
  have injective : Function.Injective (Rsrc.mk handle) := fun _ _ same => (Rsrc.mk.inj same).2
  rw [used, used, RsrcPool.vRsrcFree_active, List.map_erase injective]

/-- What a descriptor holds. -/
def payload (descriptors : Rsrc → PooledDescriptor) (pxNetworkBuffer : Rsrc) : Option Rsrc :=
  (descriptors pxNetworkBuffer).pucEthernetBuffer

theorem payload_update (descriptors : Rsrc → PooledDescriptor) (pxNetworkBuffer : Rsrc)
    (descriptor : PooledDescriptor) :
    payload (Function.update descriptors pxNetworkBuffer descriptor) =
      Function.update (payload descriptors) pxNetworkBuffer descriptor.pucEthernetBuffer := by
  funext other
  by_cases same : other = pxNetworkBuffer
  · subst same
    rw [payload, Function.update_self, Function.update_self]
  · rw [payload, Function.update_of_ne same, Function.update_of_ne same, payload]

theorem setDescriptor_self (state : NetworkBuffers) (pxNetworkBuffer : Rsrc)
    (descriptor : PooledDescriptor) :
    (state.setDescriptor pxNetworkBuffer descriptor).descriptors pxNetworkBuffer = descriptor :=
  Function.update_self _ _ _

theorem payload_setDescriptor (state : NetworkBuffers) (pxNetworkBuffer : Rsrc)
    (descriptor : PooledDescriptor) :
    payload (state.setDescriptor pxNetworkBuffer descriptor).descriptors pxNetworkBuffer =
      descriptor.pucEthernetBuffer := by
  rw [payload, setDescriptor_self]

/-- The module between two operations, but for the semaphore. -/
structure Layout (state : NetworkBuffers) (d b : Nat) (descriptorPool payloadPool : RsrcPool) :
    Prop where
  descriptorHandle : state.xNetworkBufferDescriptorPool = some d
  payloadHandle : state.xNetworkBufferPool = some b
  different : d ≠ b
  descriptorAt : state.rsrc.pools[d]? = some descriptorPool
  payloadAt : state.rsrc.pools[b]? = some payloadPool
  descriptors : DescriptorPool state.rsrc.nextRsrc descriptorPool
  payloads : PayloadPool state.rsrc.nextRsrc payloadPool
  owned : Owned (used d descriptorPool) (used b payloadPool) (payload state.descriptors) state.raw
  bare : ∀ pxNetworkBuffer ∈ used d descriptorPool,
    payload state.descriptors pxNetworkBuffer = none →
      (state.descriptors pxNetworkBuffer).xDataLength = 0

section Layouts

variable {state : NetworkBuffers} {d b : Nat} {D B : RsrcPool}

/-- Another payload pool, with the descriptors and the loose buffers that go with it. -/
theorem Layout.setPayloads {after : RsrcPool} {later : Nat}
    {descriptors : Rsrc → PooledDescriptor} {raw : List Rsrc} (layout : Layout state d b D B)
    (payloads : PayloadPool later after) (grown : state.rsrc.nextRsrc ≤ later)
    (owned : Owned (used d D) (used b after) (payload descriptors) raw)
    (bare : ∀ pxNetworkBuffer ∈ used d D, payload descriptors pxNetworkBuffer = none →
      (descriptors pxNetworkBuffer).xDataLength = 0) :
    Layout { state with rsrc := setPool state.rsrc b after later, descriptors, raw } d b D after where
  descriptorHandle := layout.descriptorHandle
  payloadHandle := layout.payloadHandle
  different := layout.different
  descriptorAt := (setPool_other layout.different.symm).trans layout.descriptorAt
  payloadAt := setPool_at layout.payloadAt
  descriptors := layout.descriptors.mono grown
  payloads := payloads
  owned := owned
  bare := bare

/-- Another pool of descriptors, with the contents that go with it. -/
theorem Layout.setDescriptors {after : RsrcPool} {later : Nat}
    {descriptors : Rsrc → PooledDescriptor} (layout : Layout state d b D B)
    (isPool : DescriptorPool later after) (grown : state.rsrc.nextRsrc ≤ later)
    (owned : Owned (used d after) (used b B) (payload descriptors) state.raw)
    (bare : ∀ pxNetworkBuffer ∈ used d after, payload descriptors pxNetworkBuffer = none →
      (descriptors pxNetworkBuffer).xDataLength = 0) :
    Layout { state with rsrc := setPool state.rsrc d after later, descriptors } d b after B where
  descriptorHandle := layout.descriptorHandle
  payloadHandle := layout.payloadHandle
  different := layout.different
  descriptorAt := setPool_at layout.descriptorAt
  payloadAt := (setPool_other layout.different).trans layout.payloadAt
  descriptors := isPool
  payloads := layout.payloads.mono grown
  owned := owned
  bare := bare

/-- What no buffer is set for stays as it is. -/
theorem Layout.bare_update (layout : Layout state d b D B) {pxNetworkBuffer : Rsrc}
    {descriptor : PooledDescriptor}
    (isBare : descriptor.pucEthernetBuffer = none → descriptor.xDataLength = 0) :
    ∀ other ∈ used d D,
      payload (Function.update state.descriptors pxNetworkBuffer descriptor) other = none →
        (Function.update state.descriptors pxNetworkBuffer descriptor other).xDataLength = 0 := by
  intro other member none
  rw [payload_update] at none
  by_cases same : other = pxNetworkBuffer
  · subst same
    rw [Function.update_self] at none ⊢
    exact isBare none
  · rw [Function.update_of_ne same] at none ⊢
    exact layout.bare other member none

/-- A descriptor is obtained, cleared. -/
theorem Layout.obtain (layout : Layout state d b D B) (heap : RsrcHeap) (name : String)
    (left : D.pxFreelist ≠ []) :
    ∃ first rsrc after,
      state.rsrc.pxRsrcAlloc heap state.xNetworkBufferDescriptorPool (some name) =
        .ok (some ⟨d, first⟩, rsrc) ∧
      Layout ({ state with rsrc }.setDescriptor ⟨d, first⟩ .cleared) d b after B ∧
      used d after = ⟨d, first⟩ :: used d D ∧
      after.pxFreelist.length + 1 = D.pxFreelist.length := by
  obtain ⟨first, after, later, run, isPool, grown, active, free, fresh⟩ :=
    @DescriptorPool.alloc state.rsrc.nextRsrc D heap name layout.descriptors left
  have absent : (⟨d, first⟩ : Rsrc) ∉ used d D := fun member => fresh (mem_used.mp member).2
  refine ⟨first, setPool state.rsrc d after later, after, ?_, ?_, used_cons active, free⟩
  · rw [layout.descriptorHandle, alloc_at layout.descriptorAt,
      varAlloc_at layout.descriptorAt run]
    rfl
  · apply layout.setDescriptors isPool grown
    · rw [payload_update, used_cons active]
      exact layout.owned.enter absent
    · rw [used_cons active]
      intro other member none
      rcases List.mem_cons.mp member with rfl | member
      · rw [Function.update_self]
        rfl
      · exact layout.bare_update (fun _ => rfl) other member none

/-- The payload is not there: there is no room for it, or the heap refuses it and the
program goes on. -/
def Absent (payloadPool : RsrcPool) (heap : RsrcHeap) (length : Nat) : Prop :=
  length ≠ 0 ∧ (Full payloadPool ∨ heap.memory = false ∧ heap.vRsrcOOMfn = true)

/-- The length of the payload with its header does not fit into 32 bits, and the heap
grants the block that is left of it. -/
def Cut (payloadPool : RsrcPool) (heap : RsrcHeap) (length : SizeT) : Prop :=
  ¬ Full payloadPool ∧ heap.memory = true ∧ SizedPool.largestPayload < length

/-- What a request for a payload meets. -/
inductive PayloadCase (state : NetworkBuffers) (b : Nat) (B : RsrcPool) (heap : RsrcHeap)
    (name : String) (length : SizeT) : Prop where
  | absent (absent : Absent B heap length.toNat) (notCut : ¬ Cut B heap length)
      (run : state.pxRsrcVarAlloc heap name length = .ok (none, state))
  | nothing (zero : length = 0) (run : state.pxRsrcVarAlloc heap name length = .ok (none, state))
  | aborts (notAbsent : ¬ Absent B heap length.toNat) (notCut : ¬ Cut B heap length)
      (run : state.pxRsrcVarAlloc heap name length = .error (.rsrc .abort))
  | outside (cut : Cut B heap length)
      (run : state.pxRsrcVarAlloc heap name length = .error .outOfBounds)
  | granted (first : Nat) (after : RsrcPool) (later : Nat)
      (notAbsent : ¬ Absent B heap length.toNat) (notCut : ¬ Cut B heap length)
      (run : state.pxRsrcVarAlloc heap name length =
        .ok (some ⟨b, first⟩, { state with rsrc := setPool state.rsrc b after later }))
      (payloads : PayloadPool later after) (grown : state.rsrc.nextRsrc ≤ later)
      (active : used b after = ⟨b, first⟩ :: used b B) (fresh : (⟨b, first⟩ : Rsrc) ∉ used b B)

/-- A request for nothing, or one that there is no room for. -/
theorem Layout.payload_refused (layout : Layout state d b D B) (heap : RsrcHeap) (name : String)
    {length : Nat} (refuses : length = 0 ∨ Full B) :
    state.rsrc.pxRsrcVarAlloc heap state.xNetworkBufferPool (some name) length =
      .ok (none, state.rsrc) := by
  have run := @RsrcPool.varAlloc_refused B state.rsrc.nextRsrc heap (some name) length
    (layout.payloads.refuses_iff.mpr refuses)
  rw [layout.payloadHandle, varAlloc_at layout.payloadAt run, setPool_self layout.payloadAt]
  rfl

/-- A request that the heap refuses. -/
theorem Layout.payload_withoutMemory (layout : Layout state d b D B) {heap : RsrcHeap}
    (name : String) {length : Nat} (asked : length ≠ 0) (left : ¬ Full B)
    (refused : heap.memory = false) :
    state.rsrc.pxRsrcVarAlloc heap state.xNetworkBufferPool (some name) length =
      if heap.vRsrcOOMfn then .ok (none, state.rsrc) else .error .abort := by
  have run := @PayloadPool.oom state.rsrc.nextRsrc B heap name length layout.payloads asked left
    refused
  cases handled : heap.vRsrcOOMfn with
  | true =>
      rw [handled, if_pos rfl] at run
      rw [layout.payloadHandle, varAlloc_at layout.payloadAt run, setPool_self layout.payloadAt]
      rfl
  | false =>
      rw [handled, if_neg Bool.false_ne_true] at run
      rw [layout.payloadHandle]
      simp only [RsrcPools.pxRsrcVarAlloc, layout.payloadAt, run]
      rfl

/-- A request that there is room and memory for. -/
theorem Layout.payload_granted (layout : Layout state d b D B) {heap : RsrcHeap} (name : String)
    {length : Nat} (asked : length ≠ 0) (left : ¬ Full B) (granted : heap.memory = true) :
    ∃ first after later,
      state.rsrc.pxRsrcVarAlloc heap state.xNetworkBufferPool (some name) length =
        .ok (some ⟨b, first⟩, setPool state.rsrc b after later) ∧
      PayloadPool later after ∧ state.rsrc.nextRsrc ≤ later ∧
      used b after = ⟨b, first⟩ :: used b B ∧ (⟨b, first⟩ : Rsrc) ∉ used b B := by
  obtain ⟨first, after, later, run, payloads, grown, active, fresh⟩ :=
    @PayloadPool.alloc _ B heap name length layout.payloads asked left granted
  refine ⟨first, after, later, ?_, payloads, grown, used_cons active, ?_⟩
  · rw [layout.payloadHandle, varAlloc_at layout.payloadAt run]
    rfl
  · exact fun member => fresh (mem_used.mp member).2

theorem varAlloc_none {heap : RsrcHeap} {name : String} {length : SizeT}
    (run : state.rsrc.pxRsrcVarAlloc heap state.xNetworkBufferPool (some name) length.toNat =
      .ok (none, state.rsrc)) : state.pxRsrcVarAlloc heap name length = .ok (none, state) := by
  rw [NetworkBuffers.pxRsrcVarAlloc, run]
  rfl

/-- Only the resource pools change. -/
theorem varAlloc_rsrc {after : NetworkBuffers} {heap : RsrcHeap} {name : String} {length : SizeT}
    {payload : Option Rsrc}
    (returned : state.pxRsrcVarAlloc heap name length = .ok (payload, after)) :
    ∃ rsrc, after = { state with rsrc } := by
  obtain ⟨⟨_, rsrc⟩, -, returned⟩ := Command.bind_eq_ok.mp returned
  simp only at returned
  split at returned
  · cases returned
  · cases returned
    exact ⟨rsrc, rfl⟩

/-- A payload whose length is cut is cleared over its end. -/
theorem varAlloc_some {heap : RsrcHeap} {name : String} {length : SizeT} {buffer : Rsrc}
    {rsrc : RsrcPools}
    (run : state.rsrc.pxRsrcVarAlloc heap state.xNetworkBufferPool (some name) length.toNat =
      .ok (some buffer, rsrc)) :
    state.pxRsrcVarAlloc heap name length =
      if SizedPool.largestPayload < length then .error .outOfBounds
      else .ok (some buffer, { state with rsrc }) := by
  have outside : capacity length < length.toNat ↔ SizedPool.largestPayload < length := by
    rw [← Nat.not_le, ← UInt32.not_le]
    exact not_congr SizedPool.room_iff
  rw [NetworkBuffers.pxRsrcVarAlloc, run]
  simp only [lift, bind, Except.bind, Option.isSome_some, Bool.true_and, decide_eq_true_eq, outside]
  split
  · rfl
  · rfl

theorem Layout.payloadCase (layout : Layout state d b D B) (heap : RsrcHeap) (name : String)
    (length : SizeT) : PayloadCase state b B heap name length := by
  by_cases zero : length.toNat = 0
  · exact .nothing (UInt32.toNat_inj.mp zero)
      (varAlloc_none (layout.payload_refused heap name (.inl zero)))
  · by_cases full : Full B
    · exact .absent ⟨zero, .inl full⟩ (fun cut => cut.1 full)
        (varAlloc_none (layout.payload_refused heap name (.inr full)))
    · cases memory : heap.memory with
      | false =>
          have notCut : ¬ Cut B heap length := by
            rintro ⟨-, granted, -⟩
            rw [memory] at granted
            cases granted
          have run := layout.payload_withoutMemory name zero full memory
          cases handled : heap.vRsrcOOMfn with
          | true =>
              rw [handled, if_pos rfl] at run
              exact .absent ⟨zero, .inr ⟨memory, handled⟩⟩ notCut (varAlloc_none run)
          | false =>
              rw [handled, if_neg Bool.false_ne_true] at run
              refine .aborts ?_ notCut ?_
              · rintro ⟨-, isFull | ⟨-, isHandled⟩⟩
                · exact full isFull
                · rw [handled] at isHandled
                  cases isHandled
              · rw [NetworkBuffers.pxRsrcVarAlloc, run]
                rfl
      | true =>
          obtain ⟨first, after, later, run, payloads, grown, active, fresh⟩ :=
            layout.payload_granted name zero full memory
          have allocated := varAlloc_some run
          by_cases large : SizedPool.largestPayload < length
          · rw [if_pos large] at allocated
            exact .outside ⟨full, memory, large⟩ allocated
          · rw [if_neg large] at allocated
            refine .granted first after later ?_ (fun cut => large cut.2.2) allocated payloads
              grown active fresh
            rintro ⟨-, isFull | ⟨isRefused, -⟩⟩
            · exact full isFull
            · rw [memory] at isRefused
              cases isRefused

/-- A buffer in use is taken back. -/
theorem Layout.releaseBuffer (layout : Layout state d b D B) {buffer : Rsrc}
    (member : buffer ∈ used b B) :
    state.vReleaseNetworkBuffer (some buffer) =
      .ok { state with
        rsrc := setPool state.rsrc b (B.vRsrcFree buffer.number) state.rsrc.nextRsrc } := by
  obtain ⟨rfl, isActive⟩ := mem_used.mp member
  rw [vReleaseNetworkBuffer, free_at layout.payloadAt isActive]
  rfl

/-- The semaphore is no part of it. -/
theorem Layout.withSemaphore (layout : Layout state d b D B) (semaphore : Option Nat) :
    Layout { state with xNetworkBufferSemaphore := semaphore } d b D B where
  descriptorHandle := layout.descriptorHandle
  payloadHandle := layout.payloadHandle
  different := layout.different
  descriptorAt := layout.descriptorAt
  payloadAt := layout.payloadAt
  descriptors := layout.descriptors
  payloads := layout.payloads
  owned := layout.owned
  bare := layout.bare

/-- A descriptor gets the payload that was granted. -/
theorem Layout.attach {first later : Nat} {after : RsrcPool} {pxNetworkBuffer : Rsrc}
    (layout : Layout state d b D B) (member : pxNetworkBuffer ∈ used d D)
    (isBare : payload state.descriptors pxNetworkBuffer = none)
    (payloads : PayloadPool later after) (grown : state.rsrc.nextRsrc ≤ later)
    (active : used b after = ⟨b, first⟩ :: used b B) (fresh : (⟨b, first⟩ : Rsrc) ∉ used b B)
    (xDataLength : SizeT) :
    Layout ({ state with rsrc := setPool state.rsrc b after later }.setDescriptor pxNetworkBuffer
      { pucEthernetBuffer := some ⟨b, first⟩, xDataLength }) d b D after := by
  apply layout.setPayloads payloads grown
  · rw [payload_update, active]
    exact layout.owned.attach member isBare fresh
  · exact layout.bare_update fun none => nomatch none

/-- The payload of a descriptor is taken back, if it has one. -/
theorem Layout.dropPayload {pxNetworkBuffer : Rsrc} (layout : Layout state d b D B)
    (member : pxNetworkBuffer ∈ used d D) :
    ∃ rsrc after,
      state.vReleaseNetworkBuffer (state.descriptors pxNetworkBuffer).pucEthernetBuffer =
        .ok { state with rsrc } ∧
      Layout ({ state with rsrc }.setDescriptor pxNetworkBuffer .cleared) d b D after := by
  cases holds : (state.descriptors pxNetworkBuffer).pucEthernetBuffer with
  | none =>
      refine ⟨state.rsrc, B, rfl, ?_⟩
      have same := @Layout.setPayloads state d b D B B state.rsrc.nextRsrc
        (Function.update state.descriptors pxNetworkBuffer .cleared) state.raw layout
        layout.payloads (Nat.le_refl _)
      rw [setPool_self layout.payloadAt] at same
      apply same
      · rw [payload_update]
        exact layout.owned.keepBare holds
      · exact layout.bare_update fun _ => rfl
  | some buffer =>
      have isUsed := layout.owned.mem_of_content member holds
      obtain ⟨rfl, isActive⟩ := mem_used.mp isUsed
      refine ⟨_, B.vRsrcFree buffer.number, layout.releaseBuffer isUsed, ?_⟩
      apply layout.setPayloads (layout.payloads.free isActive) (Nat.le_refl _)
      · rw [payload_update, used_free]
        exact layout.owned.detach member holds
      · exact layout.bare_update fun _ => rfl

/-- A descriptor without a payload is given back. -/
theorem Layout.dropDescriptor {pxNetworkBuffer : Rsrc} (layout : Layout state d b D B)
    (member : pxNetworkBuffer ∈ used d D)
    (isBare : payload state.descriptors pxNetworkBuffer = none) :
    ∃ rsrc after, state.rsrc.vRsrcFree (some pxNetworkBuffer) = .ok rsrc ∧
      Layout { state with rsrc } d b after B ∧
      after.pxFreelist.length = D.pxFreelist.length + 1 ∧
      used d after = (used d D).erase pxNetworkBuffer := by
  obtain ⟨rfl, isActive⟩ := mem_used.mp member
  obtain ⟨isPool, free⟩ := layout.descriptors.free isActive
  refine ⟨_, D.vRsrcFree pxNetworkBuffer.number, free_at layout.descriptorAt isActive, ?_, free,
    used_free⟩
  apply layout.setDescriptors isPool (Nat.le_refl _)
  · rw [used_free]
    exact layout.owned.leave member isBare
  · rw [used_free]
    exact fun other isOther => layout.bare other (List.mem_of_mem_erase isOther)

/-- A descriptor is released, and the semaphore posted. -/
theorem Layout.release {pxNetworkBuffer : Rsrc} {value : Nat} (layout : Layout state d b D B)
    (member : pxNetworkBuffer ∈ used d D)
    (semaphore : state.xNetworkBufferSemaphore = some value) :
    ∃ rsrc D' B',
      state.vReleaseNetworkBufferAndDescriptor pxNetworkBuffer =
        .ok ({ state with rsrc, xNetworkBufferSemaphore := some (value + 1) }.setDescriptor
          pxNetworkBuffer .cleared) ∧
      Layout ({ state with rsrc, xNetworkBufferSemaphore := some (value + 1) }.setDescriptor
        pxNetworkBuffer .cleared) d b D' B' ∧
      D'.pxFreelist.length = D.pxFreelist.length + 1 ∧
      used d D' = (used d D).erase pxNetworkBuffer := by
  obtain ⟨rsrc, B', dropped, bare⟩ := layout.dropPayload member
  obtain ⟨last, D', freed, final, free, gone⟩ :=
    bare.dropDescriptor member (payload_setDescriptor { state with rsrc } _ .cleared)
  have isFreed : rsrc.vRsrcFree (some pxNetworkBuffer) = .ok last := freed
  refine ⟨last, D', B', ?_, final.withSemaphore (some (value + 1)), free, gone⟩
  rw [vReleaseNetworkBufferAndDescriptor, dropped]
  simp only [bind, Except.bind, isFreed, lift, semPost, setDescriptor, semaphore]

end Layouts

/-! ## Outcomes -/

/-- The module between two operations: the semaphore counts the descriptors left. -/
structure Running (state : NetworkBuffers) : Prop where
  initialized : state.semInitialized = true
  laidOut : ∃ d b descriptorPool payloadPool, Layout state d b descriptorPool payloadPool ∧
    state.xNetworkBufferSemaphore = some descriptorPool.pxFreelist.length

/-- What an operation comes to. One that is supported keeps the module running, and has
the semaphore as before if it failed; another one uses a buffer that is not there, or writes over its end. -/
inductive Settled {α : Type} (failed : α → Prop) (before : Option Nat) (supported : Prop) :
    Except NetworkBufferFault (α × NetworkBuffers) → Prop where
  | returns {result : α} {after : NetworkBuffers} (isSupported : supported)
      (running : after.Running)
      (restored : failed result → after.xNetworkBufferSemaphore = before) :
      Settled failed before supported (.ok (result, after))
  | notHeld (isSupported : supported) : Settled failed before supported (.error .notHeld)
  | aborts (isSupported : supported) : Settled failed before supported (.error (.rsrc .abort))
  | absent (notSupported : ¬ supported) : Settled failed before supported (.error .nullPointer)
  | outside (notSupported : ¬ supported) : Settled failed before supported (.error .outOfBounds)

theorem Settled.map {α β : Type} {failed : α → Prop} {failed' : β → Prop} {before : Option Nat}
    {supported : Prop} {run : Except NetworkBufferFault (α × NetworkBuffers)}
    (settled : Settled failed before supported run) (image : α → β)
    (fails : ∀ result, failed' (image result) → failed result) :
    Settled failed' before supported (do
      let (result, after) ← run
      return (image result, after)) := by
  cases settled with
  | returns isSupported running restored =>
      exact .returns isSupported running fun failure => restored (fails _ failure)
  | notHeld isSupported => exact .notHeld isSupported
  | aborts isSupported => exact .aborts isSupported
  | absent notSupported => exact .absent notSupported
  | outside notSupported => exact .outside notSupported

/-- A payload asked for is not absent in a build that would clear it, and not cut. -/
def PoolSupports (ndebug : Bool) (payloadPool : RsrcPool) (heap : RsrcHeap) (length : SizeT) :
    Prop :=
  (ndebug = true ∨ ¬ Absent payloadPool heap length.toNat) ∧ ¬ Cut payloadPool heap length

section Operations

variable {state : NetworkBuffers} {d b : Nat} {D B : RsrcPool} {ndebug : Bool}

theorem zero_some (buffer : Rsrc) (length : Nat) : zero ndebug (some buffer) length = .ok () := by
  rw [zero, Option.isNone_some, Bool.and_false, Bool.false_and]
  rfl

theorem zero_nothing (buffer : Option Rsrc) : zero ndebug buffer 0 = .ok () := by
  rw [zero, bne_self_eq_false, Bool.and_false]
  rfl

theorem zero_absent {length : Nat} (asked : length ≠ 0) :
    zero ndebug none length = if ndebug then .ok () else .error .nullPointer := by
  have isAsked : (length != 0) = true := bne_iff_ne.mpr asked
  rw [zero, isAsked]
  cases ndebug <;> rfl

theorem whole (size : SizeT) : size + bufferPadding = size := UInt32.add_zero size

theorem poolSupports_zero {pool : RsrcPool} {heap : RsrcHeap} :
    PoolSupports ndebug pool heap 0 := by
  constructor
  · exact .inr fun absent => absent.1 rfl
  · exact fun cut => absurd cut.2.2 (by decide)

/-- A descriptor whose payload is not there is given back. -/
theorem giveBack {pxReturn : Rsrc} (layout : Layout state d b D B)
    (initialized : state.semInitialized = true) (member : pxReturn ∈ used d D)
    (semaphore : state.xNetworkBufferSemaphore = some D.pxFreelist.length)
    {supported : Prop} (isSupported : supported) :
    @Settled (Option Rsrc) (· = none) (some (D.pxFreelist.length + 1)) supported (do
      let state ← state.vReleaseNetworkBufferAndDescriptor pxReturn
      return (none, state)) := by
  obtain ⟨rsrc, D', B', run, final, free, -⟩ := layout.release member semaphore
  rw [run]
  apply Settled.returns isSupported
  · exact ⟨initialized, d, b, D', B', final, congrArg some free.symm⟩
  · exact fun _ => rfl

/-- The payload of a descriptor that was obtained. -/
theorem attachPayload_settled {pxReturn : Rsrc} {name : String} {size : SizeT}
    (layout : Layout state d b D B) (initialized : state.semInitialized = true)
    (member : pxReturn ∈ used d D)
    (isCleared : state.descriptors pxReturn = .cleared)
    (semaphore : state.xNetworkBufferSemaphore = some D.pxFreelist.length) (heap : RsrcHeap) :
    Settled (· = none) (some (D.pxFreelist.length + 1))
      (0 < size → PoolSupports ndebug B heap (storageSize size))
      (attachPayload ndebug state heap name size pxReturn) := by
  have isBare : payload state.descriptors pxReturn = none := by
    rw [payload, isCleared]
    rfl
  have unattached : ({ state.descriptors pxReturn with pucEthernetBuffer := none } :
      PooledDescriptor) = .cleared := by
    rw [isCleared]
    rfl
  have cleared : Layout (state.setDescriptor pxReturn .cleared) d b D B := by
    rw [← isCleared, setDescriptor, Function.update_eq_self]
    exact layout
  by_cases asked : 0 < size
  · simp only [attachPayload, if_pos asked, whole]
    cases layout.payloadCase heap name (storageSize size) with
    | absent absent notCut run =>
        rw [run]
        simp only [bind, Except.bind, zero_absent absent.1]
        cases ndebug with
        | false =>
            refine .absent fun supported => ?_
            exact (supported asked).1.elim Bool.false_ne_true (· absent)
        | true =>
            have settled := giveBack cleared initialized member semaphore
              (fun _ => ⟨.inl rfl, notCut⟩ : 0 < size → PoolSupports true B heap (storageSize size))
            rw [← unattached] at settled
            exact settled
    | nothing nothing run =>
        rw [run, nothing]
        simp only [bind, Except.bind, UInt32.toNat_zero, zero_nothing]
        have settled := giveBack cleared initialized member semaphore
          (fun _ => poolSupports_zero : 0 < size → PoolSupports ndebug B heap 0)
        rw [← unattached] at settled
        exact settled
    | aborts notAbsent notCut run =>
        rw [run]
        exact .aborts fun _ => ⟨.inr notAbsent, notCut⟩
    | outside cut run =>
        rw [run]
        exact .outside fun supported => (supported asked).2 cut
    | granted first after later notAbsent notCut run payloads grown active fresh =>
        rw [run]
        simp only [bind, Except.bind, zero_some]
        apply Settled.returns fun _ => ⟨.inr notAbsent, notCut⟩
        · have attached := layout.attach member isBare payloads grown active fresh
            (storageSize size)
          refine ⟨initialized, d, b, D, after, ?_, semaphore⟩
          simp only [setDescriptor, Function.update_idem] at attached ⊢
          exact attached
        · exact fun none => nomatch none
  · rw [attachPayload, if_neg asked, unattached]
    apply Settled.returns fun isAsked => absurd isAsked asked
    · exact ⟨initialized, d, b, D, B, cleared, semaphore⟩
    · exact fun none => nomatch none

/-- The wait for the semaphore ends with it. -/
def Obtains (state : NetworkBuffers) (environment : GetEnvironment) (xTimeOutUS : UInt32) :
    Prop :=
  (0 < xTimeOutUS → environment.scheduled = true) ∧ environment.interrupted = false ∧
    state.xNetworkBufferSemaphore ≠ some 0

/-- The payload is not there, in the pool of the payloads. -/
def PayloadAbsent (state : NetworkBuffers) (heap : RsrcHeap) (length : Nat) : Prop :=
  ∃ handle ∈ state.xNetworkBufferPool, ∃ pool ∈ state.rsrc.pools[handle]?,
    Absent pool heap length

/-- The payload is cut, in the pool of the payloads. -/
def PayloadCut (state : NetworkBuffers) (heap : RsrcHeap) (length : SizeT) : Prop :=
  ∃ handle ∈ state.xNetworkBufferPool, ∃ pool ∈ state.rsrc.pools[handle]?,
    Cut pool heap length

/-- In a build without `NDEBUG` the payload is not absent, and in no build it is cut. -/
def PayloadSupported (ndebug : Bool) (state : NetworkBuffers) (heap : RsrcHeap) (length : SizeT) :
    Prop :=
  (ndebug = true ∨ ¬ state.PayloadAbsent heap length.toNat) ∧ ¬ state.PayloadCut heap length

/-- What holds of the pool of the payloads. -/
theorem Layout.payloadPool_iff (layout : Layout state d b D B) {holds : RsrcPool → Prop} :
    (∃ handle ∈ state.xNetworkBufferPool, ∃ pool ∈ state.rsrc.pools[handle]?, holds pool) ↔
      holds B := by
  constructor
  · rintro ⟨handle, isHandle, pool, isPool, ofPool⟩
    rw [layout.payloadHandle, Option.mem_some] at isHandle
    subst isHandle
    rw [layout.payloadAt, Option.mem_some] at isPool
    subst isPool
    exact ofPool
  · exact fun ofPool => ⟨b, layout.payloadHandle, B, layout.payloadAt, ofPool⟩

theorem Layout.payloadAbsent_iff (layout : Layout state d b D B) {heap : RsrcHeap}
    {length : Nat} : state.PayloadAbsent heap length ↔ Absent B heap length :=
  layout.payloadPool_iff

theorem Layout.payloadSupported_iff (layout : Layout state d b D B) {heap : RsrcHeap}
    {length : SizeT} :
    state.PayloadSupported ndebug heap length ↔ PoolSupports ndebug B heap length :=
  and_congr (or_congr_right (not_congr layout.payloadAbsent_iff))
    (not_congr layout.payloadPool_iff)

theorem semWait_empty (interrupted : Bool) (empty : state.xNetworkBufferSemaphore = some 0) :
    state.semWait interrupted = .ok (false, state) := by
  rw [semWait, empty]

theorem semWait_left {value : Nat} (interrupted : Bool)
    (left : state.xNetworkBufferSemaphore = some (value + 1)) :
    state.semWait interrupted =
      if interrupted then .ok (false, state)
      else .ok (true, { state with xNetworkBufferSemaphore := some value }) := by
  rw [semWait, left]

theorem Running.get (running : state.Running) (environment : GetEnvironment) (name : String)
    (size : SizeT) (xTimeOutUS : UInt32) :
    Settled (· = none) state.xNetworkBufferSemaphore
      (state.Obtains environment xTimeOutUS → 0 < size →
        state.PayloadSupported ndebug environment.payload (storageSize size))
      (pxGetNetworkBufferWithDescriptorFor ndebug state environment name size xTimeOutUS) := by
  have running' := running
  obtain ⟨initialized, d, b, D, B, layout, semaphore⟩ := running
  have refused (notObtained : ¬ state.Obtains environment xTimeOutUS) :
      Settled (· = none) state.xNetworkBufferSemaphore
        (state.Obtains environment xTimeOutUS → 0 < size →
          state.PayloadSupported ndebug environment.payload (storageSize size))
        (.ok ((none : Option Rsrc), state)) :=
    .returns (fun obtained => absurd obtained notObtained) running' fun _ => rfl
  rw [pxGetNetworkBufferWithDescriptorFor, initialized]
  by_cases unscheduled : (decide (0 < xTimeOutUS) && !environment.scheduled) = true
  · rw [unscheduled]
    apply refused
    rintro ⟨scheduled, -⟩
    rw [Bool.and_eq_true, decide_eq_true_eq, Bool.not_eq_true'] at unscheduled
    rw [scheduled unscheduled.1] at unscheduled
    exact Bool.noConfusion unscheduled.2
  · have inTime : 0 < xTimeOutUS → environment.scheduled = true := by
      intro positive
      rw [← Bool.not_eq_false]
      intro late
      apply unscheduled
      rw [late, decide_eq_true positive]
      rfl
    rw [Bool.not_eq_true] at unscheduled
    rw [unscheduled]
    cases count : D.pxFreelist.length with
    | zero =>
        rw [count] at semaphore
        rw [semWait_empty _ semaphore]
        apply refused
        rintro ⟨-, -, some⟩
        exact some semaphore
    | succ value =>
        rw [count] at semaphore
        rw [semWait_left _ semaphore]
        cases interrupted : environment.interrupted with
        | true =>
            apply refused
            rintro ⟨-, notInterrupted, -⟩
            rw [interrupted] at notInterrupted
            cases notInterrupted
        | false =>
            have obtains : state.Obtains environment xTimeOutUS := by
              refine ⟨inTime, interrupted, ?_⟩
              rw [semaphore]
              exact fun none => nomatch none
            have left : D.pxFreelist ≠ [] := by
              intro empty
              rw [empty] at count
              cases count
            obtain ⟨first, rsrc, after, run, obtained, entered, free⟩ :=
              (layout.withSemaphore (some value)).obtain environment.payload name left
            have valueLeft : after.pxFreelist.length = value := by
              rw [count] at free
              exact Nat.succ.inj free
            have settled := @attachPayload_settled _ d b after B ndebug ⟨d, first⟩ name size
              obtained initialized (entered ▸ List.mem_cons_self)
              (setDescriptor_self _ _ _)
              (congrArg some valueLeft.symm) environment.payload
            rw [valueLeft] at settled
            have same : (state.Obtains environment xTimeOutUS → 0 < size →
                state.PayloadSupported ndebug environment.payload (storageSize size)) ↔
                (0 < size → PoolSupports ndebug B environment.payload (storageSize size)) := by
              rw [layout.payloadSupported_iff]
              exact forall_prop_of_true obtains
            rw [same, semaphore]
            simp only [Bool.not_true, Bool.false_eq_true, if_false, bind, Except.bind, run, lift]
            exact settled

/-- A buffer that is obtained, without a descriptor. -/
theorem Running.rawGet (running : state.Running) (heap : RsrcHeap) (name : String)
    (size : SizeT) :
    Settled (· = NetworkBufferResult.descriptor none) state.xNetworkBufferSemaphore
      (state.PayloadSupported ndebug heap (bufferSize size))
      (operate ndebug state (.rawGet heap name size)) := by
  have running' := running
  obtain ⟨initialized, d, b, D, B, layout, semaphore⟩ := running
  simp only [operate, pucGetNetworkBufferFor, whole, layout.payloadSupported_iff]
  cases layout.payloadCase heap name (bufferSize size) with
  | absent absent notCut run =>
      rw [run]
      simp only [bind, Except.bind, zero_absent absent.1]
      cases ndebug with
      | false => exact .absent fun supported => supported.1.elim Bool.false_ne_true (· absent)
      | true => exact .returns ⟨.inl rfl, notCut⟩ running' fun none => nomatch none
  | nothing nothing run =>
      rw [run, nothing]
      simp only [bind, Except.bind, UInt32.toNat_zero, zero_nothing]
      exact .returns poolSupports_zero running' fun none => nomatch none
  | aborts notAbsent notCut run =>
      rw [run]
      exact .aborts ⟨.inr notAbsent, notCut⟩
  | outside cut run =>
      rw [run]
      exact .outside fun supported => supported.2 cut
  | granted first after later notAbsent notCut run payloads grown active fresh =>
      rw [run]
      simp only [bind, Except.bind, zero_some]
      apply Settled.returns ⟨.inr notAbsent, notCut⟩
      · refine ⟨initialized, d, b, D, after, ?_, semaphore⟩
        apply layout.setPayloads payloads grown _ layout.bare
        rw [active]
        exact layout.owned.lend fresh
      · exact fun none => nomatch none

/-- A buffer that was obtained without a descriptor is released. -/
theorem Running.rawRelease (running : state.Running) (pucEthernetBuffer : Option Rsrc) :
    Settled (· = NetworkBufferResult.descriptor none) state.xNetworkBufferSemaphore True
      (operate ndebug state (.rawRelease pucEthernetBuffer)) := by
  have running' := running
  obtain ⟨initialized, d, b, D, B, layout, semaphore⟩ := running
  cases pucEthernetBuffer with
  | none => exact .returns trivial running' fun none => nomatch none
  | some buffer =>
      rw [operate]
      by_cases member : buffer ∈ state.raw
      · have isUsed := layout.owned.mem_of_loose member
        obtain ⟨rfl, isActive⟩ := mem_used.mp isUsed
        rw [if_pos member, layout.releaseBuffer isUsed]
        apply Settled.returns trivial
        · refine ⟨initialized, d, buffer.pxPool, D, B.vRsrcFree buffer.number, ?_, semaphore⟩
          apply layout.setPayloads (layout.payloads.free isActive) (Nat.le_refl _) _ layout.bare
          rw [used_free]
          exact layout.owned.takeBack member
        · exact fun none => nomatch none
      · rw [if_neg member]
        exact .notHeld trivial

theorem Layout.holds_iff (layout : Layout state d b D B) {pxNetworkBuffer : Rsrc} :
    state.Holds pxNetworkBuffer ↔ pxNetworkBuffer ∈ used d D :=
  active_iff layout.descriptorHandle layout.descriptorAt

theorem Running.release (running : state.Running) (pxNetworkBuffer : Rsrc) :
    Settled (· = NetworkBufferResult.descriptor none) state.xNetworkBufferSemaphore True
      (operate ndebug state (.release pxNetworkBuffer)) := by
  obtain ⟨initialized, d, b, D, B, layout, semaphore⟩ := running
  rw [operate]
  by_cases holds : state.Holds pxNetworkBuffer
  · obtain ⟨rsrc, D', B', run, final, free, -⟩ :=
      layout.release (layout.holds_iff.mp holds) semaphore
    rw [if_pos holds, run]
    apply Settled.returns trivial
    · exact ⟨initialized, d, b, D', B', final, congrArg some free.symm⟩
    · exact fun none => nomatch none
  · rw [if_neg holds]
    exact .notHeld trivial

/-- A descriptor that gets another payload in place of its own. -/
theorem Layout.exchange {pxNetworkBuffer : Rsrc} {first later : Nat} {after : RsrcPool}
    (layout : Layout state d b D B) (member : pxNetworkBuffer ∈ used d D)
    (payloads : PayloadPool later after) (grown : state.rsrc.nextRsrc ≤ later)
    (active : used b after = ⟨b, first⟩ :: used b B) (fresh : (⟨b, first⟩ : Rsrc) ∉ used b B)
    (size : SizeT) :
    ∃ rsrc B',
      vReleaseNetworkBuffer ({ state with rsrc := setPool state.rsrc b after later }.setDescriptor
          pxNetworkBuffer { state.descriptors pxNetworkBuffer with xDataLength := size })
          (state.descriptors pxNetworkBuffer).pucEthernetBuffer =
        .ok ({ state with rsrc }.setDescriptor pxNetworkBuffer
          { state.descriptors pxNetworkBuffer with xDataLength := size }) ∧
      Layout ({ state with rsrc }.setDescriptor pxNetworkBuffer
        { pucEthernetBuffer := some ⟨b, first⟩, xDataLength := size }) d b D B' := by
  cases holds : (state.descriptors pxNetworkBuffer).pucEthernetBuffer with
  | none =>
      refine ⟨setPool state.rsrc b after later, after, rfl, ?_⟩
      exact layout.attach member holds payloads grown active fresh size
  | some buffer =>
      have isUsed := layout.owned.mem_of_content member holds
      have isNew : buffer ∈ used b after := active ▸ List.mem_cons_of_mem _ isUsed
      obtain ⟨rfl, isActive⟩ := mem_used.mp isNew
      have different : (⟨buffer.pxPool, first⟩ : Rsrc) ≠ buffer := fun same => fresh (same ▸ isUsed)
      refine ⟨setPool (setPool state.rsrc buffer.pxPool after later) buffer.pxPool
        (after.vRsrcFree buffer.number) later, after.vRsrcFree buffer.number, ?_, ?_⟩
      · have freed := @free_at (setPool state.rsrc buffer.pxPool after later) buffer.pxPool after
          buffer.number (setPool_at layout.payloadAt) isActive
        simp only [vReleaseNetworkBuffer, setDescriptor, freed]
        rfl
      · have twice : setPool (setPool state.rsrc buffer.pxPool after later) buffer.pxPool
            (after.vRsrcFree buffer.number) later =
            setPool state.rsrc buffer.pxPool (after.vRsrcFree buffer.number) later := by
          simp only [setPool, List.set_set]
        rw [twice]
        apply layout.setPayloads (payloads.free isActive) grown
        · have detached := layout.owned.detach member holds
          have bare : Function.update (payload state.descriptors) pxNetworkBuffer none
              pxNetworkBuffer = none := Function.update_self _ _ _
          have attached := detached.attach member bare fun again =>
            fresh (List.mem_of_mem_erase again)
          rw [Function.update_idem] at attached
          rw [payload_update, used_free, active,
            List.erase_cons_tail fun same => different (eq_of_beq same)]
          exact attached
        · exact layout.bare_update fun none => nomatch none

theorem Running.resize (running : state.Running) (heap : RsrcHeap) (name : String)
    (pxNetworkBuffer : Rsrc) (size : SizeT) :
    Settled (· = NetworkBufferResult.descriptor none) state.xNetworkBufferSemaphore
      (state.Holds pxNetworkBuffer → state.PayloadSupported ndebug heap (bufferSize size))
      (operate ndebug state (.resize heap name pxNetworkBuffer size)) := by
  have running' := running
  obtain ⟨initialized, d, b, D, B, layout, semaphore⟩ := running
  rw [operate]
  by_cases holds : state.Holds pxNetworkBuffer
  · have member := layout.holds_iff.mp holds
    rw [if_pos holds, forall_prop_of_true holds, layout.payloadSupported_iff]
    simp only [pxResizeNetworkBufferWithDescriptorFor, pucGetNetworkBufferFor, whole]
    cases layout.payloadCase heap name (bufferSize size) with
    | absent absent notCut run =>
        rw [run]
        simp only [bind, Except.bind, zero_absent absent.1]
        cases ndebug with
        | false => exact .absent fun supported => supported.1.elim Bool.false_ne_true (· absent)
        | true => exact .returns ⟨.inl rfl, notCut⟩ running' fun _ => rfl
    | nothing nothing run =>
        rw [run, nothing]
        simp only [bind, Except.bind, UInt32.toNat_zero, zero_nothing]
        exact .returns poolSupports_zero running' fun _ => rfl
    | aborts notAbsent notCut run =>
        rw [run]
        exact .aborts ⟨.inr notAbsent, notCut⟩
    | outside cut run =>
        rw [run]
        exact .outside fun supported => supported.2 cut
    | granted first after later notAbsent notCut run payloads grown active fresh =>
        obtain ⟨rsrc, B', released, final⟩ :=
          layout.exchange member payloads grown active fresh (bufferSize size)
        have copies : ((state.descriptors pxNetworkBuffer).pucEthernetBuffer.isNone &&
            (if bufferSize size > (state.descriptors pxNetworkBuffer).xDataLength
              then (state.descriptors pxNetworkBuffer).xDataLength
              else bufferSize size) != 0) = false := by
          cases none : (state.descriptors pxNetworkBuffer).pucEthernetBuffer with
          | some buffer => rfl
          | none =>
              have empty := layout.bare pxNetworkBuffer member none
              rw [empty, Option.isNone_none, Bool.true_and, bne_eq_false_iff_eq]
              split
              · rfl
              · next notAbove => exact UInt32.le_zero_iff.mp (UInt32.not_lt.mp notAbove)
        rw [run]
        simp only [bind, pure, Except.bind, Except.pure, zero_some, Option.isNone_some,
          Bool.false_eq_true, if_false, copies, released]
        apply Settled.returns ⟨.inr notAbsent, notCut⟩
        · refine ⟨initialized, d, b, D, B', ?_, semaphore⟩
          simp only [setDescriptor, Function.update_idem] at final ⊢
          exact final
        · exact fun none => nomatch none
  · rw [if_neg holds]
    exact .notHeld fun held => absurd held holds

end Operations

end NetworkBuffers

end RinaSense
