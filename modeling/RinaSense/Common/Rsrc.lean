import Mathlib.Data.List.Nodup

/-!
# Resource pools

`common/rsrc.h` and its implementation. A pool keeps a free list and an active list of
resources, five counters and two water marks; the structs of the pools are themselves
resources of a pool of pools. A resource is named by a number that no other one gets.
-/

namespace RinaSense

/-- `struct rsrcPool`, without the links and the helper routines. -/
structure RsrcPool where
  xActive : List Nat
  pxFreelist : List Nat
  pcName : String
  ulTotalAllocs : UInt64
  uxSizeEach : Nat
  uiIncrement : UInt16
  uiFreeOnFree : Bool
  uiMaxNumRes : UInt16
  uiNumInUse : UInt16
  uiNumFree : UInt16
  uiLowWater : UInt16
  uiHiWater : UInt16
  deriving Repr, DecidableEq

/-- A resource as its user has it: where the pool is, and the number. -/
structure Rsrc where
  pxPool : Nat
  number : Nat
  deriving Repr, DecidableEq

/-- What a request for memory meets: whether it is granted, and whether
`vRsrcOOMfn` is set to a function when it is not. -/
structure RsrcHeap where
  memory : Bool
  vRsrcOOMfn : Bool
  deriving Repr, DecidableEq

inductive RsrcFault where
  | abort
  /-- No pool of the module, or no resource in use. -/
  | notLive
  deriving Repr, DecidableEq

def rsrcInitNumPools : UInt32 := 5
def rsrcOneResource : UInt32 := 1
def rsrcNone : UInt32 := 0
def rsrcNoMaxLimit : UInt32 := 0

/-- `sizeof(struct rsrcPool)` with pointers of four bytes. -/
def rsrcPoolSize : Nat := 72

namespace RsrcPool

def prvvFreeResTail (pxPool : RsrcPool) (pxRsrc : Nat) : RsrcPool :=
  { pxPool with
    pxFreelist := pxRsrc :: pxPool.pxFreelist
    uiNumFree := pxPool.uiNumFree + 1 }

/-- Returns what it does, the pool, and the number of the next new resource. -/
def prviRsrcAdd2Pool (heap : RsrcHeap) (next : Nat) (pxPool : RsrcPool) (uiCount : UInt32) :
    Except RsrcFault (Int × RsrcPool × Nat) :=
  if uiCount = 0 then .ok (0, pxPool, next)
  else if !heap.memory then
    -- `prviRsrcOOM`
    if heap.vRsrcOOMfn then .ok (-1, pxPool, next) else .error .abort
  else
    let pxPool :=
      if pxPool.uiNumInUse.toNat + pxPool.uiNumFree.toNat = 0 then
        { pxPool with uiLowWater := uiCount.toUInt16 }
      else pxPool
    .ok (uiCount.toNat, (List.range' next uiCount.toNat).foldl prvvFreeResTail pxPool,
      next + uiCount.toNat)

/-- A pool as `prviRsrcInitPool` sets it up, before the initial resources. -/
def setUp (pcName : String) (xRsrcSize : Nat) (uiInitAlloc uiIncrement uiMaxNumRes : UInt32) :
    RsrcPool where
  xActive := []
  pxFreelist := []
  pcName := pcName
  ulTotalAllocs := 0
  uxSizeEach := xRsrcSize
  uiIncrement := uiIncrement.toUInt16
  uiFreeOnFree := xRsrcSize == 0 || (uiIncrement ≤ 1 && uiInitAlloc ≤ 1)
  uiMaxNumRes := uiMaxNumRes.toUInt16
  uiNumInUse := 0
  uiNumFree := 0
  uiLowWater := uiInitAlloc.toUInt16
  uiHiWater := 0

def prviRsrcInitPool (heap : RsrcHeap) (next : Nat) (pcName : String) (xRsrcSize : Nat)
    (uiInitAlloc uiIncrement uiMaxNumRes : UInt32) : Except RsrcFault (Int × RsrcPool × Nat) :=
  let pxPool := setUp pcName xRsrcSize uiInitAlloc uiIncrement uiMaxNumRes
  if uiInitAlloc ≠ 0 then prviRsrcAdd2Pool heap next pxPool uiInitAlloc
  else .ok (0, pxPool, next)

/-- What `pxRsrcVarAlloc` returns `NULL` for at once. -/
def refuses (pxPool : RsrcPool) (pcRequestor : Option String) (xPayloadLen : Nat) : Bool :=
  pcRequestor.isNone || xPayloadLen == 0 ||
    (pxPool.uiMaxNumRes != 0 &&
      pxPool.uiMaxNumRes.toNat ≤ pxPool.uiNumInUse.toNat + pxPool.uiNumFree.toNat) ||
    (pxPool.uxSizeEach != 0 && xPayloadLen != pxPool.uxSizeEach)

/-- From the free list to the active list. -/
def take (pxPool : RsrcPool) : Option Nat × RsrcPool :=
  match pxPool.pxFreelist with
  | [] => (none, pxPool)
  | pxRsrc :: pxFreelist =>
      let uiNumFree := pxPool.uiNumFree - 1
      let uiNumInUse := pxPool.uiNumInUse + 1
      (some pxRsrc,
        { pxPool with
          pxFreelist
          uiNumFree
          uiLowWater := if uiNumFree < pxPool.uiLowWater then uiNumFree else pxPool.uiLowWater
          ulTotalAllocs := pxPool.ulTotalAllocs + 1
          xActive := pxRsrc :: pxPool.xActive
          uiNumInUse
          uiHiWater := if uiNumInUse > pxPool.uiHiWater then uiNumInUse else pxPool.uiHiWater })

def pxRsrcVarAlloc (heap : RsrcHeap) (next : Nat) (pxPool : RsrcPool)
    (pcRequestor : Option String) (xPayloadLen : Nat) :
    Except RsrcFault (Option Nat × RsrcPool × Nat) := do
  if pxPool.refuses pcRequestor xPayloadLen then return (none, pxPool, next)
  match pxPool.pxFreelist with
  | [] =>
      let (added, pxPool, next) ←
        prviRsrcAdd2Pool heap next pxPool pxPool.uiIncrement.toUInt32
      if added ≤ 0 then return (none, pxPool, next)
      let (pxRsrc, pxPool) := pxPool.take
      return (pxRsrc, pxPool, next)
  | _ :: _ =>
      let (pxRsrc, pxPool) := pxPool.take
      return (pxRsrc, pxPool, next)

def pxRsrcAlloc (heap : RsrcHeap) (next : Nat) (pxPool : RsrcPool)
    (pcRequestor : Option String) : Except RsrcFault (Option Nat × RsrcPool × Nat) :=
  pxPool.pxRsrcVarAlloc heap next pcRequestor pxPool.uxSizeEach

/-- The part of `vRsrcFree` behind the check for a double free, which a resource on the
active list passes. -/
def vRsrcFree (pxPool : RsrcPool) (pxRsrc : Nat) : RsrcPool :=
  let pxPool :=
    { pxPool with
      xActive := pxPool.xActive.erase pxRsrc
      uiNumInUse := pxPool.uiNumInUse - 1 }
  if pxPool.uiFreeOnFree then pxPool else pxPool.prvvFreeResTail pxRsrc

end RsrcPool

/-- The pools of the module: the pool of pools once there is one, the pools that were
handed out, and those that are linked though their creation returned `NULL`. -/
structure RsrcPools where
  xRsrcPoolPool : Option RsrcPool
  pools : List RsrcPool
  abandoned : List RsrcPool
  nextRsrc : Nat
  deriving Repr, DecidableEq

/-- A pool as a user has it, `NULL` included. -/
abbrev RsrcPoolHandle := Option Nat

namespace RsrcPools

def startup : RsrcPools where
  xRsrcPoolPool := none
  pools := []
  abandoned := []
  nextRsrc := 0

/-- A request to create a pool. -/
structure NewPool where
  pcName : Option String
  xRsrcSize : Nat
  uiInitalloc : UInt32
  uiIncrement : UInt32
  uiMaxNumRes : UInt32
  deriving Repr, DecidableEq

namespace NewPool

/-- What `pxRsrcNewPool` calls `abort` for. -/
def aborts (request : NewPool) : Bool :=
  request.pcName.isNone ||
    (request.uiInitalloc ||| request.uiIncrement ||| request.uiMaxNumRes) > 65535 ||
    request.uiIncrement + request.uiInitalloc == 0

/-- A variable pool that is specified wrong. -/
def badVariable (request : NewPool) : Bool :=
  request.xRsrcSize == 0 && (request.uiInitalloc > 1 || request.uiIncrement > 1)

end NewPool

/-- The pool of pools and the number of the next new resource, set up by the first
creation. The answer tells whether there are structs for pools. -/
def initializePools (heap : RsrcHeap) (state : RsrcPools) :
    Except RsrcFault (Bool × RsrcPool × Nat) :=
  match state.xRsrcPoolPool with
  | some pool => .ok (true, pool, state.nextRsrc)
  | none => do
      let (success, pool, next) ← RsrcPool.prviRsrcInitPool heap state.nextRsrc "Pools"
        rsrcPoolSize rsrcInitNumPools rsrcOneResource rsrcNoMaxLimit
      return (decide (0 < success), pool, next)

/-- The rest of `pxRsrcNewPool`, with a pool of pools. -/
def newPoolFrom (state : RsrcPools) (xRsrcPoolPool : RsrcPool) (poolHeap heap : RsrcHeap)
    (request : NewPool) : Except RsrcFault (RsrcPoolHandle × RsrcPools) := do
  let (pxPool, xRsrcPoolPool, nextRsrc) ←
    xRsrcPoolPool.pxRsrcAlloc poolHeap state.nextRsrc request.pcName
  let state := { state with xRsrcPoolPool := some xRsrcPoolPool, nextRsrc }
  if pxPool.isNone then return (none, state)
  let (added, pool, nextRsrc) ← RsrcPool.prviRsrcInitPool heap nextRsrc
    (request.pcName.getD "") request.xRsrcSize request.uiInitalloc request.uiIncrement
    request.uiMaxNumRes
  if added < 0 then return (none, { state with abandoned := pool :: state.abandoned, nextRsrc })
  return (some state.pools.length, { state with pools := state.pools ++ [pool], nextRsrc })

/-- The first heap answers the pool of pools, the second one the new pool. -/
def pxRsrcNewPool (state : RsrcPools) (poolHeap heap : RsrcHeap) (request : NewPool) :
    Except RsrcFault (RsrcPoolHandle × RsrcPools) := do
  if request.aborts then throw .abort
  if request.badVariable then return (none, state)
  let (ready, xRsrcPoolPool, nextRsrc) ← state.initializePools poolHeap
  let state := { state with xRsrcPoolPool := some xRsrcPoolPool, nextRsrc }
  if !ready then return (none, state)
  state.newPoolFrom xRsrcPoolPool poolHeap heap request

def pxRsrcNewVarPool (state : RsrcPools) (poolHeap heap : RsrcHeap) (pcName : Option String)
    (uiMaxNumRes : UInt32) : Except RsrcFault (RsrcPoolHandle × RsrcPools) :=
  state.pxRsrcNewPool poolHeap heap
    { pcName, xRsrcSize := 0, uiInitalloc := rsrcNone, uiIncrement := rsrcOneResource,
      uiMaxNumRes }

def pxRsrcVarAlloc (state : RsrcPools) (heap : RsrcHeap) (pxPool : RsrcPoolHandle)
    (pcRequestor : Option String) (xPayloadLen : Nat) :
    Except RsrcFault (Option Rsrc × RsrcPools) :=
  match pxPool with
  | none => .ok (none, state)
  | some handle =>
      match state.pools[handle]? with
      | none => .error .notLive
      | some pool => do
          let (pxRsrc, pool, nextRsrc) ←
            pool.pxRsrcVarAlloc heap state.nextRsrc pcRequestor xPayloadLen
          return (pxRsrc.map (Rsrc.mk handle),
            { state with pools := state.pools.set handle pool, nextRsrc })

def pxRsrcAlloc (state : RsrcPools) (heap : RsrcHeap) (pxPool : RsrcPoolHandle)
    (pcRequestor : Option String) : Except RsrcFault (Option Rsrc × RsrcPools) :=
  match pxPool with
  | none => .ok (none, state)
  | some handle =>
      match state.pools[handle]? with
      | none => .error .notLive
      | some pool => state.pxRsrcVarAlloc heap pxPool pcRequestor pool.uxSizeEach

/-- Frees a resource that is in use; what is done with another one is left open. -/
def vRsrcFree (state : RsrcPools) (pvResPayload : Option Rsrc) : Except RsrcFault RsrcPools :=
  match pvResPayload with
  | none => .ok state
  | some pxRsrc =>
      match state.pools[pxRsrc.pxPool]? with
      | none => .error .notLive
      | some pool =>
          if pxRsrc.number ∈ pool.xActive then
            .ok { state with pools := state.pools.set pxRsrc.pxPool (pool.vRsrcFree pxRsrc.number) }
          else .error .notLive

end RsrcPools

/-! ## Runs -/

inductive RsrcOp where
  | newPool (poolHeap heap : RsrcHeap) (request : RsrcPools.NewPool)
  | alloc (heap : RsrcHeap) (pxPool : RsrcPoolHandle) (pcRequestor : Option String)
  | varAlloc (heap : RsrcHeap) (pxPool : RsrcPoolHandle) (pcRequestor : Option String)
      (xPayloadLen : Nat)
  | free (pvResPayload : Option Rsrc)
  deriving Repr, DecidableEq

inductive RsrcResult where
  | pool (handle : RsrcPoolHandle)
  | resource (pxRsrc : Option Rsrc)
  | freed
  deriving Repr, DecidableEq

namespace RsrcPools

def operate (state : RsrcPools) : RsrcOp → Except RsrcFault (RsrcResult × RsrcPools)
  | .newPool poolHeap heap request => do
      let (handle, state) ← state.pxRsrcNewPool poolHeap heap request
      return (.pool handle, state)
  | .alloc heap pxPool pcRequestor => do
      let (pxRsrc, state) ← state.pxRsrcAlloc heap pxPool pcRequestor
      return (.resource pxRsrc, state)
  | .varAlloc heap pxPool pcRequestor xPayloadLen => do
      let (pxRsrc, state) ← state.pxRsrcVarAlloc heap pxPool pcRequestor xPayloadLen
      return (.resource pxRsrc, state)
  | .free pvResPayload => do
      let state ← state.vRsrcFree pvResPayload
      return (.freed, state)

def perform (operation : RsrcOp) : EStateM RsrcFault RsrcPools RsrcResult := fun state =>
  match state.operate operation with
  | .ok (result, next) => .ok result next
  | .error fault => .error fault state

end RsrcPools

end RinaSense
