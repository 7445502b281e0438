import RinaSense.Common.RsrcAvailability
import RinaSense.Library.Ring

/-!
# Resources in memory

The pools with the links of their lists. The links of the active list and those of the free
list are the same two words of a resource: the second one is the next resource in use, or
`RESFREE_MAGIC` while the resource is free. The pools on lists are what these links stand
for.
-/

namespace RinaSense

open Command

/-- What a word of a resource leads to: the head of the active list of a pool, or a
resource. `RESFREE_MAGIC` is odd, so it is the address of neither. -/
inductive RsrcWord where
  | active (pool : Nat)
  | rsrc (number : Nat)
  | resfreeMagic
  deriving Repr, DecidableEq

inductive RsrcLinkFault where
  | abort
  | nullPointer
  /-- No pool of the module, or memory that is no resource. -/
  | notLive
  deriving Repr, DecidableEq

/-- `struct rsrcPool`, without the links and the helper routines. -/
structure LinkedPool where
  pxFreelist : Option RsrcWord
  pcName : String
  ulTotalAllocs : UInt64
  uxSizeEach : Nat
  uiIncrement : UInt16
  uiFreeOnFree : Bool
  uiMaxNumRes : UInt16
  uiNumInUse : UInt16
  uiNumFree : UInt16
  uiLowWater : UInt16
  uiHiWater : UInt16
  deriving Repr, DecidableEq

namespace LinkedPool

/-- `pvFlag` is the next link of a resource and `pxRight` the previous one. -/
def prvvFreeResTail (links : Links RsrcWord) (pxPool : LinkedPool) (pxRsrc : RsrcWord) :
    Links RsrcWord × LinkedPool :=
  ({ next := Function.update links.next pxRsrc (some .resfreeMagic)
     prev := Function.update links.prev pxRsrc pxPool.pxFreelist },
    { pxPool with
      pxFreelist := some pxRsrc
      uiNumFree := pxPool.uiNumFree + 1 })

def freeBlock (links : Links RsrcWord) (pxPool : LinkedPool) (block : List Nat) :
    Links RsrcWord × LinkedPool :=
  block.foldl (fun (links, pxPool) number => pxPool.prvvFreeResTail links (.rsrc number))
    (links, pxPool)

def prviRsrcAdd2Pool (heap : RsrcHeap) (next : Nat) (links : Links RsrcWord)
    (pxPool : LinkedPool) (uiCount : UInt32) :
    Except RsrcLinkFault (Int × Links RsrcWord × LinkedPool × Nat) :=
  if uiCount = 0 then .ok (0, links, pxPool, next)
  else if !heap.memory then
    -- `prviRsrcOOM`
    if heap.vRsrcOOMfn then .ok (-1, links, pxPool, next) else .error .abort
  else
    let pxPool :=
      if pxPool.uiNumInUse.toNat + pxPool.uiNumFree.toNat = 0 then
        { pxPool with uiLowWater := uiCount.toUInt16 }
      else pxPool
    let (links, pxPool) := pxPool.freeBlock links (List.range' next uiCount.toNat)
    .ok (uiCount.toNat, links, pxPool, next + uiCount.toNat)

def refuses (pxPool : LinkedPool) (pcRequestor : Option String) (xPayloadLen : Nat) : Bool :=
  pcRequestor.isNone || xPayloadLen == 0 ||
    (pxPool.uiMaxNumRes != 0 &&
      pxPool.uiMaxNumRes.toNat ≤ pxPool.uiNumInUse.toNat + pxPool.uiNumFree.toNat) ||
    (pxPool.uxSizeEach != 0 && xPayloadLen != pxPool.uxSizeEach)

/-- The first resource of the free list is taken off. -/
def unqueued (links : Links RsrcWord) (pxPool : LinkedPool) (pxRsrc : RsrcWord) : LinkedPool :=
  let uiNumFree := pxPool.uiNumFree - 1
  { pxPool with
    pxFreelist := links.prev pxRsrc
    uiNumFree
    uiLowWater := if uiNumFree < pxPool.uiLowWater then uiNumFree else pxPool.uiLowWater
    ulTotalAllocs := pxPool.ulTotalAllocs + 1 }

/-- One more resource is in use. -/
def enlisted (pxPool : LinkedPool) : LinkedPool :=
  let uiNumInUse := pxPool.uiNumInUse + 1
  { pxPool with
    uiNumInUse
    uiHiWater := if uiNumInUse > pxPool.uiHiWater then uiNumInUse else pxPool.uiHiWater }

/-- A pool as `prviRsrcInitPool` sets it up, before the initial resources. -/
def setUp (pcName : String) (xRsrcSize : Nat) (uiInitAlloc uiIncrement uiMaxNumRes : UInt32) :
    LinkedPool where
  pxFreelist := none
  pcName := pcName
  ulTotalAllocs := 0
  uxSizeEach := xRsrcSize
  uiIncrement := uiIncrement.toUInt16
  uiFreeOnFree := xRsrcSize == 0 || (uiIncrement ≤ 1 && uiInitAlloc ≤ 1)
  uiMaxNumRes := uiMaxNumRes.toUInt16
  uiNumInUse := 0
  uiNumFree := 0
  uiLowWater := uiInitAlloc.toUInt16
  uiHiWater := 0

end LinkedPool

/-- The pools in the order they were set up, the words of their resources and of the heads
of their active lists, and `pxPool` of each resource that was allocated. -/
structure RsrcMemory where
  xLinks : Links RsrcWord
  pools : List LinkedPool
  pxPool : RsrcWord → Option Nat
  nextRsrc : Nat

namespace RsrcMemory

def startup : RsrcMemory where
  xLinks := { next := fun _ => none, prev := fun _ => none }
  pools := []
  pxPool := fun _ => none
  nextRsrc := 0

/-! ## Operations in memory

Each writes one list or counter after the other, and a fault keeps what was written before. -/

def readPool (handle : Nat) : EStateM RsrcLinkFault RsrcMemory LinkedPool := do
  match (← get).pools[handle]? with
  | none => throw .notLive
  | some pxPool => return pxPool

def writePool (handle : Nat) (pxPool : LinkedPool) : EStateM RsrcLinkFault RsrcMemory Unit :=
  modify fun memory => { memory with pools := memory.pools.set handle pxPool }

/-- The program is aborted before anything is written. -/
def prviRsrcAdd2Pool (heap : RsrcHeap) (handle : Nat) (uiCount : UInt32) :
    EStateM RsrcLinkFault RsrcMemory Int := do
  let pxPool ← readPool handle
  let memory ← get
  let (added, xLinks, pxPool, nextRsrc) ←
    pxPool.prviRsrcAdd2Pool heap memory.nextRsrc memory.xLinks uiCount
  set { memory with xLinks, pools := memory.pools.set handle pxPool, nextRsrc }
  return added

/-- `prviRsrcInitPool` of the struct of a pool that is not set up yet. -/
def prviRsrcInitPool (heap : RsrcHeap) (pcName : String) (xRsrcSize : Nat)
    (uiInitAlloc uiIncrement uiMaxNumRes : UInt32) : EStateM RsrcLinkFault RsrcMemory Int := do
  let handle := (← get).pools.length
  let pxPool := LinkedPool.setUp pcName xRsrcSize uiInitAlloc uiIncrement uiMaxNumRes
  modify fun memory => { memory with
    xLinks := memory.xLinks.close (.active handle)
    pools := memory.pools ++ [pxPool] }
  if uiInitAlloc ≠ 0 then prviRsrcAdd2Pool heap handle uiInitAlloc else return 0

/-- From the free list to the active list of the pool. -/
def take (handle : Nat) : EStateM RsrcLinkFault RsrcMemory RsrcWord := do
  let pxPool ← readPool handle
  match pxPool.pxFreelist with
  | none => throw .nullPointer
  | some pxRsrc =>
      let pxPool := pxPool.unqueued (← get).xLinks pxRsrc
      writePool handle pxPool
      match (← get).xLinks.insertAfter (.active handle) pxRsrc with
      | none => throw .nullPointer
      | some xLinks =>
          modify fun memory => { memory with xLinks }
          writePool handle pxPool.enlisted
          modify fun memory => { memory with
            pxPool := Function.update memory.pxPool pxRsrc (some handle) }
          return pxRsrc

def pxRsrcVarAlloc (heap : RsrcHeap) (handle : Nat) (pcRequestor : Option String)
    (xPayloadLen : Nat) : EStateM RsrcLinkFault RsrcMemory (Option RsrcWord) := do
  let pxPool ← readPool handle
  if pxPool.refuses pcRequestor xPayloadLen then return none
  if pxPool.pxFreelist.isNone then
    let added ← prviRsrcAdd2Pool heap handle pxPool.uiIncrement.toUInt32
    if added ≤ 0 then return none
  return some (← take handle)

def pxRsrcAlloc (heap : RsrcHeap) (handle : Nat) (pcRequestor : Option String) :
    EStateM RsrcLinkFault RsrcMemory (Option RsrcWord) := do
  let pxPool ← readPool handle
  pxRsrcVarAlloc heap handle pcRequestor pxPool.uxSizeEach

/-- What is no resource any more, or never was one, has no pool. -/
def vRsrcFree (pvResPayload : Option RsrcWord) : EStateM RsrcLinkFault RsrcMemory Unit := do
  match pvResPayload with
  | none => return ()
  | some pxRsrc =>
      match (← get).pxPool pxRsrc with
      | none => throw .notLive
      | some handle =>
          let pxPool ← readPool handle
          -- a double free
          if (← get).xLinks.next pxRsrc = some .resfreeMagic then throw .abort
          modify fun memory => { memory with xLinks := memory.xLinks.unlink pxRsrc }
          let pxPool := { pxPool with uiNumInUse := pxPool.uiNumInUse - 1 }
          writePool handle pxPool
          if pxPool.uiFreeOnFree then
            modify fun memory => { memory with
              pxPool := Function.update memory.pxPool pxRsrc none }
          else
            let (xLinks, pxPool) := pxPool.prvvFreeResTail (← get).xLinks pxRsrc
            modify fun memory => { memory with xLinks }
            writePool handle pxPool

/-! ## What they do -/

section Commands

variable {memory : RsrcMemory} {handle : Nat} {pxPool : LinkedPool}

theorem run_readPool (found : memory.pools[handle]? = some pxPool) :
    (readPool handle).run memory = .ok pxPool memory := by
  rw [readPool, EStateM.run_bind, EStateM.run_get]
  simp only [found, EStateM.run_pure]

theorem run_readPool_unset (unset : memory.pools[handle]? = none) :
    (readPool handle).run memory = .error .notLive memory := by
  rw [readPool, EStateM.run_bind, EStateM.run_get]
  simp only [unset, run_throw]

@[simp] theorem run_writePool (handle : Nat) (pxPool : LinkedPool) (memory : RsrcMemory) :
    (writePool handle pxPool).run memory =
      .ok () { memory with pools := memory.pools.set handle pxPool } := rfl

/-- An addition that returns. -/
theorem run_prviRsrcAdd2Pool {heap : RsrcHeap} {uiCount : UInt32} {added : Int}
    {changed : Links RsrcWord} {after : LinkedPool} {later : Nat}
    (found : memory.pools[handle]? = some pxPool)
    (run : pxPool.prviRsrcAdd2Pool heap memory.nextRsrc memory.xLinks uiCount =
      .ok (added, changed, after, later)) :
    (prviRsrcAdd2Pool heap handle uiCount).run memory = .ok added
      { memory with
        xLinks := changed, pools := memory.pools.set handle after, nextRsrc := later } := by
  rw [prviRsrcAdd2Pool, run_bind_ok (run_readPool found), EStateM.run_bind, EStateM.run_get]
  simp only [EStateM.run_bind, run_lift_ok run, EStateM.run_set, EStateM.run_pure]

theorem run_prviRsrcAdd2Pool_aborts {heap : RsrcHeap} {uiCount : UInt32} {fault : RsrcLinkFault}
    (found : memory.pools[handle]? = some pxPool)
    (run : pxPool.prviRsrcAdd2Pool heap memory.nextRsrc memory.xLinks uiCount = .error fault) :
    (prviRsrcAdd2Pool heap handle uiCount).run memory = .error fault memory := by
  rw [prviRsrcAdd2Pool, run_bind_ok (run_readPool found), EStateM.run_bind, EStateM.run_get]
  simp only [EStateM.run_bind, run_lift_error run]

/-- A resource of the free list goes to the active one. -/
theorem run_take {pxRsrc : RsrcWord} {changed : Links RsrcWord}
    (found : memory.pools[handle]? = some pxPool) (first : pxPool.pxFreelist = some pxRsrc)
    (inserted : memory.xLinks.insertAfter (.active handle) pxRsrc = some changed) :
    (take handle).run memory = .ok pxRsrc
      { memory with
        xLinks := changed
        pools := memory.pools.set handle (pxPool.unqueued memory.xLinks pxRsrc).enlisted
        pxPool := Function.update memory.pxPool pxRsrc (some handle) } := by
  rw [take, run_bind_ok (run_readPool found)]
  simp only [first, EStateM.run_bind, EStateM.run_get, run_writePool, inserted,
    EStateM.run_modify, EStateM.run_pure, List.set_set]

/-- A resource that is marked as free: nothing has been written yet. -/
theorem run_vRsrcFree_flagged {pxRsrc : RsrcWord} (owner : memory.pxPool pxRsrc = some handle)
    (found : memory.pools[handle]? = some pxPool)
    (flagged : memory.xLinks.next pxRsrc = some .resfreeMagic) :
    (vRsrcFree (some pxRsrc)).run memory = .error .abort memory := by
  rw [vRsrcFree, EStateM.run_bind, EStateM.run_get]
  simp only [owner, EStateM.run_bind, run_readPool found, EStateM.run_get, flagged, if_true,
    run_throw]

/-- The memory without a resource in use. -/
def unlinked (memory : RsrcMemory) (handle : Nat) (pxPool : LinkedPool) (pxRsrc : RsrcWord) :
    RsrcMemory :=
  let pxPool := { pxPool with uiNumInUse := pxPool.uiNumInUse - 1 }
  let xLinks := memory.xLinks.unlink pxRsrc
  if pxPool.uiFreeOnFree then
    { memory with
      xLinks
      pools := memory.pools.set handle pxPool
      pxPool := Function.update memory.pxPool pxRsrc none }
  else
    { memory with
      xLinks := (pxPool.prvvFreeResTail xLinks pxRsrc).1
      pools := memory.pools.set handle (pxPool.prvvFreeResTail xLinks pxRsrc).2 }

theorem run_vRsrcFree_unflagged {pxRsrc : RsrcWord} (owner : memory.pxPool pxRsrc = some handle)
    (found : memory.pools[handle]? = some pxPool)
    (unflagged : memory.xLinks.next pxRsrc ≠ some .resfreeMagic) :
    (vRsrcFree (some pxRsrc)).run memory = .ok () (memory.unlinked handle pxPool pxRsrc) := by
  rw [vRsrcFree, EStateM.run_bind, EStateM.run_get]
  simp only [owner, EStateM.run_bind, run_readPool found, EStateM.run_get, unflagged, if_false,
    EStateM.run_modify, run_writePool, unlinked]
  split
  · rfl
  · simp only [EStateM.run_bind, EStateM.run_get, EStateM.run_modify, run_writePool, List.set_set]

end Commands

end RsrcMemory

/-! ## What the links of a pool stand for -/

namespace RsrcPool

/-- The struct of a pool with these lists. -/
def linked (pool : RsrcPool) : LinkedPool where
  pxFreelist := pool.pxFreelist.head?.map .rsrc
  pcName := pool.pcName
  ulTotalAllocs := pool.ulTotalAllocs
  uxSizeEach := pool.uxSizeEach
  uiIncrement := pool.uiIncrement
  uiFreeOnFree := pool.uiFreeOnFree
  uiMaxNumRes := pool.uiMaxNumRes
  uiNumInUse := pool.uiNumInUse
  uiNumFree := pool.uiNumFree
  uiLowWater := pool.uiLowWater
  uiHiWater := pool.uiHiWater

def resources (pool : RsrcPool) : List Nat := pool.xActive ++ pool.pxFreelist

/-- The words that the operations of a pool write. -/
def words (handle : Nat) (pool : RsrcPool) : List RsrcWord :=
  .active handle :: pool.resources.map .rsrc

/-- The links of the lists of a pool. -/
structure Holds (links : Links RsrcWord) (handle : Nat) (pool : RsrcPool) : Prop where
  active : links.Ring (.active handle) (pool.xActive.map .rsrc)
  free : Leads links.prev pool.linked.pxFreelist (pool.pxFreelist.map .rsrc)
  flagged : ∀ pxRsrc ∈ pool.pxFreelist, links.next (.rsrc pxRsrc) = some .resfreeMagic

end RsrcPool

theorem rsrc_injective : Function.Injective RsrcWord.rsrc := fun _ _ same =>
  RsrcWord.rsrc.inj same

theorem mem_map_rsrc {number : Nat} {numbers : List Nat} :
    RsrcWord.rsrc number ∈ numbers.map RsrcWord.rsrc ↔ number ∈ numbers :=
  List.mem_map_of_injective rsrc_injective

section OnePool

variable {links changed : Links RsrcWord} {handle number next : Nat} {pool : RsrcPool}
  {rest : List Nat}

theorem active_notMem (handle : Nat) (numbers : List Nat) :
    RsrcWord.active handle ∉ numbers.map RsrcWord.rsrc := by
  intro member
  obtain ⟨_, -, other⟩ := List.mem_map.mp member
  cases other

theorem RsrcPool.Holds.congr (holds : pool.Holds links handle)
    (same : ∀ word ∈ pool.words handle,
      changed.next word = links.next word ∧ changed.prev word = links.prev word) :
    pool.Holds changed handle where
  active := by
    apply holds.active.congr
    intro word member
    apply same
    rcases List.mem_cons.mp member with head | inside
    · exact head ▸ List.mem_cons_self
    · obtain ⟨number, active, rfl⟩ := List.mem_map.mp inside
      exact List.mem_cons_of_mem _ (mem_map_rsrc.mpr (List.mem_append_left _ active))
  free := by
    apply holds.free.congr
    intro word member
    obtain ⟨number, free, rfl⟩ := List.mem_map.mp member
    exact (same _ (List.mem_cons_of_mem _ (mem_map_rsrc.mpr (List.mem_append_right _ free)))).2
  flagged := by
    intro number free
    rw [(same _ (List.mem_cons_of_mem _ (mem_map_rsrc.mpr (List.mem_append_right _ free)))).1]
    exact holds.flagged number free

/-! ### Adding to the free list -/

theorem prvvFreeResTail_untouched (pxPool : LinkedPool) (word : RsrcWord) :
    links.Untouched (pxPool.prvvFreeResTail links word).1 [word] := by
  intro other outside
  have apart : other ≠ word := fun same => outside (same ▸ List.mem_singleton_self word)
  exact ⟨Function.update_of_ne apart .., Function.update_of_ne apart ..⟩

theorem RsrcPool.Holds.prvvFreeResTail (holds : pool.Holds links handle)
    (fresh : number ∉ pool.resources) :
    (pool.prvvFreeResTail number).Holds (pool.linked.prvvFreeResTail links (.rsrc number)).1
      handle := by
  rw [RsrcPool.resources, List.mem_append, not_or] at fresh
  have untouched := @prvvFreeResTail_untouched links pool.linked (.rsrc number)
  constructor
  · apply holds.active.congr
    intro word member
    apply untouched
    rw [List.mem_singleton]
    rintro rfl
    rcases List.mem_cons.mp member with other | inside
    · cases other
    · exact fresh.1 (mem_map_rsrc.mp inside)
  · exact holds.free.push fun member => fresh.2 (mem_map_rsrc.mp member)
  · intro other free
    rcases List.mem_cons.mp free with rfl | free
    · exact Function.update_self ..
    · have apart : RsrcWord.rsrc other ≠ .rsrc number := fun same =>
        fresh.2 (rsrc_injective same ▸ free)
      exact (Function.update_of_ne apart ..).trans (holds.flagged other free)

theorem RsrcPool.Holds.freeBlock {block : List Nat} (holds : pool.Holds links handle)
    (nodup : block.Nodup) (fresh : ∀ number ∈ block, number ∉ pool.resources) :
    (pool.linked.freeBlock links block).2 = (block.foldl RsrcPool.prvvFreeResTail pool).linked ∧
      (block.foldl RsrcPool.prvvFreeResTail pool).Holds (pool.linked.freeBlock links block).1
        handle ∧
      links.Untouched (pool.linked.freeBlock links block).1 (block.map .rsrc) := by
  induction block generalizing pool links with
  | nil => exact ⟨rfl, holds, fun _ _ => ⟨rfl, rfl⟩⟩
  | cons number block ih =>
      obtain ⟨notInside, nodup⟩ := List.nodup_cons.mp nodup
      have first := holds.prvvFreeResTail (fresh number List.mem_cons_self)
      have laterFresh : ∀ other ∈ block, other ∉ (pool.prvvFreeResTail number).resources := by
        intro other member inside
        rcases List.mem_append.mp inside with active | free
        · exact fresh other (List.mem_cons_of_mem _ member) (List.mem_append_left _ active)
        · rcases List.mem_cons.mp free with same | free
          · exact notInside (same ▸ member)
          · exact fresh other (List.mem_cons_of_mem _ member) (List.mem_append_right _ free)
      obtain ⟨struct, holds, untouched⟩ := ih first nodup laterFresh
      refine ⟨struct, holds, fun word outside => ?_⟩
      rw [List.map_cons, List.mem_cons, not_or] at outside
      obtain ⟨next, prev⟩ := untouched word outside.2
      obtain ⟨nextFirst, prevFirst⟩ := @prvvFreeResTail_untouched links pool.linked
        (.rsrc number) word fun inside => outside.1 (List.mem_singleton.mp inside)
      exact ⟨next.trans nextFirst, prev.trans prevFirst⟩

/-! ### The operations of one pool -/

/-- The links of a pool that stand for its lists, with all its resources different ones. -/
structure RsrcPool.Stands (pool : RsrcPool) (links : Links RsrcWord) (handle next : Nat) :
    Prop where
  holds : pool.Holds links handle
  nodup : pool.resources.Nodup
  below : ∀ number ∈ pool.resources, number < next

/-- An operation of a pool: it writes no words but those of the pool and of resources that
are new. -/
structure RsrcPool.Moves (handle : Nat) (links : Links RsrcWord) (pool : RsrcPool) (next : Nat)
    (changed : Links RsrcWord) (after : RsrcPool) (later : Nat) : Prop where
  stands : after.Stands changed handle later
  own : ∀ word ∉ pool.words handle, (∀ number, word = .rsrc number → number < next) →
    changed.next word = links.next word ∧ changed.prev word = links.prev word
  grown : next ≤ later
  resources : ∀ number ∈ after.resources, number ∈ pool.resources ∨ next ≤ number

theorem RsrcPool.Moves.refl (stands : pool.Stands links handle next) :
    Moves handle links pool next links pool next where
  stands := stands
  own := fun _ _ _ => ⟨rfl, rfl⟩
  grown := Nat.le_refl next
  resources := fun _ member => .inl member

theorem RsrcPool.Moves.trans {middle after : RsrcPool} {between last : Links RsrcWord}
    {then_ later : Nat} (first : Moves handle links pool next between middle then_)
    (second : Moves handle between middle then_ last after later) :
    Moves handle links pool next last after later where
  stands := second.stands
  own := by
    intro word outside below
    have outsideMiddle : word ∉ middle.words handle := by
      intro inside
      rcases List.mem_cons.mp inside with rfl | inside
      · exact outside List.mem_cons_self
      · obtain ⟨number, member, rfl⟩ := List.mem_map.mp inside
        rcases first.resources number member with old | new
        · exact outside (List.mem_cons_of_mem _ (mem_map_rsrc.mpr old))
        · exact absurd (below number rfl) (Nat.not_lt_of_le new)
    obtain ⟨nextSecond, prevSecond⟩ := second.own word outsideMiddle
      fun number same => Nat.lt_of_lt_of_le (below number same) first.grown
    obtain ⟨nextFirst, prevFirst⟩ := first.own word outside below
    exact ⟨nextSecond.trans nextFirst, prevSecond.trans prevFirst⟩
  grown := Nat.le_trans first.grown second.grown
  resources := by
    intro number member
    rcases second.resources number member with old | new
    · exact first.resources number old
    · exact .inr (Nat.le_trans first.grown new)

theorem foldl_resources (block : List Nat) (pool : RsrcPool) :
    (block.foldl RsrcPool.prvvFreeResTail pool).xActive = pool.xActive ∧
      (block.foldl RsrcPool.prvvFreeResTail pool).pxFreelist =
        block.reverse ++ pool.pxFreelist := by
  rw [RsrcPool.foldl_freeResTail]
  exact ⟨rfl, rfl⟩

/-- The new resources of an addition. -/
theorem RsrcPool.Stands.freeBlock (stands : pool.Stands links handle next) (count : Nat) :
    (pool.linked.freeBlock links (List.range' next count)).2 =
        ((List.range' next count).foldl RsrcPool.prvvFreeResTail pool).linked ∧
      RsrcPool.Moves handle links pool next
        (pool.linked.freeBlock links (List.range' next count)).1
        ((List.range' next count).foldl RsrcPool.prvvFreeResTail pool) (next + count) := by
  have fresh : ∀ number ∈ List.range' next count, number ∉ pool.resources :=
    fun number member inside => absurd (stands.below number inside)
      (Nat.not_lt_of_le (List.mem_range'_1.mp member).1)
  obtain ⟨struct, holds, untouched⟩ :=
    @RsrcPool.Holds.freeBlock links handle pool _ stands.holds List.nodup_range' fresh
  obtain ⟨active, free⟩ := foldl_resources (List.range' next count) pool
  have perm : ((List.range' next count).foldl RsrcPool.prvvFreeResTail pool).resources.Perm
      (List.range' next count ++ pool.resources) := by
    rw [RsrcPool.resources, active, free, RsrcPool.resources]
    apply (List.perm_append_comm_assoc ..).trans
    exact (List.reverse_perm _).append_right _
  refine ⟨struct, ⟨holds, ?_, ?_⟩, ?_, Nat.le_add_right _ _, ?_⟩
  · rw [perm.nodup_iff, List.nodup_append']
    exact ⟨List.nodup_range', stands.nodup, fun number member => fresh number member⟩
  · intro number member
    rcases List.mem_append.mp (perm.mem_iff.mp member) with new | old
    · exact (List.mem_range'_1.mp new).2
    · exact Nat.lt_of_lt_of_le (stands.below number old) (Nat.le_add_right _ _)
  · intro word _ below
    apply untouched
    intro inside
    obtain ⟨number, new, rfl⟩ := List.mem_map.mp inside
    exact absurd (below number rfl) (Nat.not_lt_of_le (List.mem_range'_1.mp new).1)
  · intro number member
    rcases List.mem_append.mp (perm.mem_iff.mp member) with new | old
    · exact .inr (List.mem_range'_1.mp new).1
    · exact .inl old

/-- An addition to the links of a pool is one to its lists. -/
theorem RsrcPool.Stands.add2Pool (stands : pool.Stands links handle next) (heap : RsrcHeap)
    (uiCount : UInt32) :
    pool.prviRsrcAdd2Pool heap next uiCount = .error .abort ∧
        pool.linked.prviRsrcAdd2Pool heap next links uiCount = .error .abort ∨
      ∃ result after later changed,
        pool.prviRsrcAdd2Pool heap next uiCount = .ok (result, after, later) ∧
        pool.linked.prviRsrcAdd2Pool heap next links uiCount =
          .ok (result, changed, after.linked, later) ∧
        RsrcPool.Moves handle links pool next changed after later := by
  rw [RsrcPool.prviRsrcAdd2Pool, LinkedPool.prviRsrcAdd2Pool]
  by_cases zero : uiCount = 0
  · rw [if_pos zero, if_pos zero]
    exact .inr ⟨_, _, _, _, rfl, rfl, .refl stands⟩
  · rw [if_neg zero, if_neg zero]
    cases heap.memory with
    | false =>
        cases heap.vRsrcOOMfn with
        | false => exact .inl ⟨rfl, rfl⟩
        | true => exact .inr ⟨_, _, _, _, rfl, rfl, .refl stands⟩
    | true =>
        simp only [Bool.not_true, Bool.false_eq_true, if_false]
        by_cases none : pool.uiNumInUse.toNat + pool.uiNumFree.toNat = 0
        · have marks : RsrcPool.Moves handle links pool next links
              { pool with uiLowWater := uiCount.toUInt16 } next :=
            ⟨⟨⟨stands.holds.active, stands.holds.free, stands.holds.flagged⟩, stands.nodup,
              stands.below⟩, fun _ _ _ => ⟨rfl, rfl⟩, Nat.le_refl next, fun _ member => .inl member⟩
          obtain ⟨isLinked, moves⟩ := marks.stands.freeBlock uiCount.toNat
          have linkedNone : pool.linked.uiNumInUse.toNat + pool.linked.uiNumFree.toNat = 0 := none
          refine .inr ⟨uiCount.toNat, _, _, _, ?_, ?_, marks.trans moves⟩
          · rw [if_pos none]
          · rw [if_pos linkedNone, ← isLinked]
            rfl
        · obtain ⟨isLinked, moves⟩ := stands.freeBlock uiCount.toNat
          have linkedSome : ¬ pool.linked.uiNumInUse.toNat + pool.linked.uiNumFree.toNat = 0 :=
            none
          refine .inr ⟨uiCount.toNat, _, _, _, ?_, ?_, moves⟩
          · rw [if_neg none]
          · rw [if_neg linkedSome, ← isLinked]

/-! ### Taking and freeing -/

theorem leads_start {α : Type} {follows : α → Option α} {start : Option α} {items : List α}
    (leads : Leads follows start items) : start = items.head? := by
  cases items with
  | nil => exact leads
  | cons item items => exact leads.1

theorem RsrcPool.Stands.take (stands : pool.Stands links handle next)
    (free : pool.pxFreelist = number :: rest) :
    ∃ changed, pool.linked.pxFreelist = some (.rsrc number) ∧
      links.insertAfter (.active handle) (.rsrc number) = some changed ∧
      (pool.linked.unqueued links (.rsrc number)).enlisted = (pool.taken number rest).linked ∧
      RsrcPool.Moves handle links pool next changed (pool.taken number rest) next := by
  have nodup := stands.nodup
  rw [RsrcPool.resources, free, List.nodup_append'] at nodup
  obtain ⟨activeNodup, freeNodup, apart⟩ := nodup
  obtain ⟨notRest, restNodup⟩ := List.nodup_cons.mp freeNodup
  have notActive : number ∉ pool.xActive := fun active =>
    apart active List.mem_cons_self
  have chain := stands.holds.free
  rw [free, List.map_cons] at chain
  have fresh : RsrcWord.rsrc number ∉ .active handle :: pool.xActive.map .rsrc := by
    intro member
    rcases List.mem_cons.mp member with other | inside
    · cases other
    · exact notActive (mem_map_rsrc.mp inside)
  obtain ⟨changed, inserted, ring, untouched⟩ := stands.holds.active.insertFirst fresh
  have restSame (other : Nat) (member : other ∈ rest) :
      changed.next (.rsrc other) = links.next (.rsrc other) ∧
        changed.prev (.rsrc other) = links.prev (.rsrc other) := by
    apply untouched
    intro inside
    rcases List.mem_cons.mp inside with same | inside
    · exact notRest (rsrc_injective same ▸ member)
    · rcases List.mem_cons.mp inside with same | inside
      · cases same
      · exact apart (mem_map_rsrc.mp inside) (List.mem_cons_of_mem _ member)
  have perm : pool.resources.Perm (pool.taken number rest).resources := by
    rw [RsrcPool.resources, free]
    exact List.perm_middle
  have restStart : links.prev (.rsrc number) = rest.head?.map .rsrc := by
    rw [leads_start chain.2, List.head?_map]
  refine ⟨changed, chain.1, inserted, ?_, ⟨⟨ring, ?_, ?_⟩, ?_, ?_⟩, ?_, Nat.le_refl next, ?_⟩
  · rw [LinkedPool.unqueued, restStart]
    rfl
  · have start : (pool.taken number rest).linked.pxFreelist = links.prev (.rsrc number) :=
      restStart.symm
    rw [start]
    apply chain.2.congr
    intro word member
    obtain ⟨other, inside, rfl⟩ := List.mem_map.mp member
    exact (restSame other inside).2
  · intro other member
    rw [(restSame other member).1]
    apply stands.holds.flagged
    rw [free]
    exact List.mem_cons_of_mem _ member
  · exact perm.nodup_iff.mp stands.nodup
  · exact fun other member => stands.below other (perm.mem_iff.mpr member)
  · intro word outside _
    apply untouched
    intro inside
    apply outside
    rcases List.mem_cons.mp inside with rfl | inside
    · exact List.mem_cons_of_mem _ (mem_map_rsrc.mpr (perm.mem_iff.mpr List.mem_cons_self))
    · rcases List.mem_cons.mp inside with rfl | inside
      · exact List.mem_cons_self
      · obtain ⟨other, active, rfl⟩ := List.mem_map.mp inside
        exact List.mem_cons_of_mem _ (mem_map_rsrc.mpr (List.mem_append_left _ active))
  · exact fun other member => .inl (perm.mem_iff.mpr member)

/-- A resource in use is not marked as free. -/
theorem RsrcPool.Holds.unflagged (holds : pool.Holds links handle)
    (live : number ∈ pool.xActive) : links.next (.rsrc number) ≠ some .resfreeMagic := by
  obtain ⟨before, after, split⟩ := List.append_of_mem live
  have path := holds.active.path
  rw [split, List.map_append, List.map_cons, Links.path_append] at path
  rw [path.2.next_eq]
  intro flagged
  have member := List.head_mem (l := after.map RsrcWord.rsrc ++ [.active handle]) (by simp)
  rw [Option.some.inj flagged, List.mem_append, List.mem_singleton] at member
  rcases member with inside | head
  · obtain ⟨_, -, other⟩ := List.mem_map.mp inside
    cases other
  · cases head

/-- The pool without a resource that was in use. -/
def RsrcPool.removed (pool : RsrcPool) (number : Nat) : RsrcPool :=
  { pool with
    xActive := pool.xActive.erase number
    uiNumInUse := pool.uiNumInUse - 1 }

theorem RsrcPool.Stands.removed (stands : pool.Stands links handle next)
    (live : number ∈ pool.xActive) :
    RsrcPool.Moves handle links pool next (links.unlink (.rsrc number)) (pool.removed number) next ∧
      number ∉ (pool.removed number).resources := by
  have nodup := stands.nodup
  rw [RsrcPool.resources, List.nodup_append'] at nodup
  obtain ⟨activeNodup, freeNodup, apart⟩ := nodup
  obtain ⟨before, after, split⟩ := List.append_of_mem live
  have notBefore : number ∉ before := by
    intro member
    rw [split, List.nodup_append'] at activeNodup
    exact activeNodup.2.2 member List.mem_cons_self
  have erased : pool.xActive.erase number = before ++ after := by
    rw [split, List.erase_append_right _ notBefore, List.erase_cons_head]
  have ring := stands.holds.active
  rw [split, List.map_append, List.map_cons] at ring
  obtain ⟨unlinked, untouched⟩ := ring.unlink
  have freeSame (other : Nat) (member : other ∈ pool.pxFreelist) :
      (links.unlink (.rsrc number)).next (.rsrc other) = links.next (.rsrc other) ∧
        (links.unlink (.rsrc number)).prev (.rsrc other) = links.prev (.rsrc other) := by
    apply untouched
    rw [← List.map_cons, ← List.map_append, ← split]
    intro inside
    rcases List.mem_cons.mp inside with same | inside
    · cases same
    · exact apart (mem_map_rsrc.mp inside) member
  have sublist : (pool.removed number).resources.Sublist pool.resources :=
    List.erase_sublist.append (List.Sublist.refl _)
  refine ⟨⟨⟨⟨?_, ?_, ?_⟩, stands.nodup.sublist sublist, ?_⟩, ?_, Nat.le_refl next, ?_⟩, ?_⟩
  · rw [RsrcPool.removed, erased, List.map_append]
    exact unlinked
  · apply stands.holds.free.congr
    intro word member
    obtain ⟨other, free, rfl⟩ := List.mem_map.mp member
    exact (freeSame other free).2
  · intro other free
    rw [(freeSame other free).1]
    exact stands.holds.flagged other free
  · exact fun other member => stands.below other (sublist.subset member)
  · intro word outside _
    apply untouched
    rw [← List.map_cons, ← List.map_append, ← split]
    intro inside
    apply outside
    rcases List.mem_cons.mp inside with rfl | inside
    · exact List.mem_cons_self
    · obtain ⟨other, active, rfl⟩ := List.mem_map.mp inside
      exact List.mem_cons_of_mem _ (mem_map_rsrc.mpr (List.mem_append_left _ active))
  · exact fun other member => .inl (sublist.subset member)
  · intro inside
    rcases List.mem_append.mp inside with active | free
    · exact activeNodup.not_mem_erase active
    · exact apart live free

/-- A resource goes from the active list back to the free list. -/
theorem RsrcPool.Stands.returned (stands : pool.Stands links handle next)
    (live : number ∈ pool.xActive) :
    RsrcPool.Moves handle links pool next
      ((pool.removed number).linked.prvvFreeResTail (links.unlink (.rsrc number))
        (.rsrc number)).1
      ((pool.removed number).prvvFreeResTail number) next := by
  obtain ⟨moves, gone⟩ := stands.removed live
  have inPool : number ∈ pool.resources := List.mem_append_left _ live
  have perm : ((pool.removed number).prvvFreeResTail number).resources.Perm
      (number :: (pool.removed number).resources) := List.perm_middle
  refine ⟨⟨moves.stands.holds.prvvFreeResTail gone, ?_, ?_⟩, ?_, Nat.le_refl next, ?_⟩
  · rw [perm.nodup_iff]
    exact List.nodup_cons.mpr ⟨gone, moves.stands.nodup⟩
  · intro other member
    rcases List.mem_cons.mp (perm.mem_iff.mp member) with rfl | old
    · exact stands.below other inPool
    · exact moves.stands.below other old
  · intro word outside below
    obtain ⟨nextFirst, prevFirst⟩ := moves.own word outside below
    have apart : word ∉ [RsrcWord.rsrc number] := by
      intro member
      rw [List.mem_singleton] at member
      exact outside (member ▸ List.mem_cons_of_mem _ (mem_map_rsrc.mpr inPool))
    obtain ⟨nextSecond, prevSecond⟩ :=
      @prvvFreeResTail_untouched (links.unlink (.rsrc number)) (pool.removed number).linked
        (.rsrc number) word apart
    exact ⟨nextSecond.trans nextFirst, prevSecond.trans prevFirst⟩
  · intro other member
    rcases List.mem_cons.mp (perm.mem_iff.mp member) with rfl | old
    · exact .inl inPool
    · exact moves.resources other old

end OnePool

end RinaSense
