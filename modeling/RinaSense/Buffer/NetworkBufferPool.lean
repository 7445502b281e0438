import RinaSense.Buffer.BufferManagement
import RinaSense.Common.RsrcCapacity
import Mathlib.Logic.Function.Basic

/-!
# The pool of network buffers

`BufferManagement.c` down to its two resource pools and its semaphore: descriptors of a
pool of fixed size, payloads of a variable one, and a count of the descriptors left.
-/

namespace RinaSense

/-- `NUM_NETWORK_BUFFER_DESCRIPTORS`. -/
def numNetworkBufferDescriptors : UInt32 := 20

/-- `BUFFER_PADDING`. -/
def bufferPadding : SizeT := 0

/-- `sizeof(NetworkBufferDescriptor_t)` with pointers of four bytes. -/
def networkBufferDescriptorSize : Nat := 52

/-- What this module reads and writes of a `NetworkBufferDescriptor_t`. -/
structure PooledDescriptor where
  pucEthernetBuffer : Option Rsrc
  xDataLength : SizeT
  deriving Repr, DecidableEq

/-- A descriptor as it is cleared when it is obtained, and when it is released. -/
def PooledDescriptor.cleared : PooledDescriptor where
  pucEthernetBuffer := none
  xDataLength := 0

/-- The variables of the module, with the resource pools, and the buffers that were
obtained without a descriptor. The semaphore has a value once `sem_init` made it. -/
structure NetworkBuffers where
  rsrc : RsrcPools
  xNetworkBufferDescriptorPool : RsrcPoolHandle
  xNetworkBufferPool : RsrcPoolHandle
  semInitialized : Bool
  xNetworkBufferSemaphore : Option Nat
  descriptors : Rsrc → PooledDescriptor
  raw : List Rsrc

inductive NetworkBufferFault where
  /-- `RsAssert` failed. -/
  | assertion
  | nullPointer
  /-- A payload is cleared over its end. -/
  | outOfBounds
  | noSemaphore
  /-- The caller does not hold what it hands in. -/
  | notHeld
  | rsrc (fault : RsrcFault)
  deriving Repr, DecidableEq

namespace NetworkBuffers

def startup (rsrc : RsrcPools) : NetworkBuffers where
  rsrc := rsrc
  xNetworkBufferDescriptorPool := none
  xNetworkBufferPool := none
  semInitialized := false
  xNetworkBufferSemaphore := none
  descriptors := fun _ => .cleared
  raw := []

/-- What happens around an initialisation: the value of `sem_init`, whether
`vRsrcOOMfn` is set, and what the heap answers the pool of pools and the new pools. -/
structure InitEnvironment where
  semInitReturn : Int
  vRsrcOOMfn : Bool
  descriptorStruct : Bool
  descriptors : Bool
  bufferStruct : Bool
  deriving Repr, DecidableEq

def lift {α : Type} : Except RsrcFault α → Except NetworkBufferFault α
  | .ok value => .ok value
  | .error fault => .error (.rsrc fault)

/-- The arguments of the descriptor pool. -/
def descriptorPool : RsrcPools.NewPool where
  pcName := some "NetBufDesc"
  xRsrcSize := networkBufferDescriptorSize
  uiInitalloc := numNetworkBufferDescriptors
  uiIncrement := 0
  uiMaxNumRes := 0

def xNetworkBuffersInitialise (state : NetworkBuffers) (environment : InitEnvironment) :
    Except NetworkBufferFault (Bool × NetworkBuffers) := do
  let semInitReturn := if state.semInitialized then -1 else environment.semInitReturn
  let heap (memory : Bool) : RsrcHeap := { memory, vRsrcOOMfn := environment.vRsrcOOMfn }
  let state ←
    if !state.semInitialized && semInitReturn == 0 then do
      let (xNetworkBufferDescriptorPool, rsrc) ← lift (state.rsrc.pxRsrcNewPool
        (heap environment.descriptorStruct) (heap environment.descriptors) descriptorPool)
      let (xNetworkBufferPool, rsrc) ← lift (rsrc.pxRsrcNewVarPool
        (heap environment.bufferStruct) (heap true) (some "NetBuf")
        (numNetworkBufferDescriptors + 1))
      pure
        { state with
          rsrc
          xNetworkBufferDescriptorPool
          xNetworkBufferPool
          xNetworkBufferSemaphore := some numNetworkBufferDescriptors.toNat }
    else pure state
  let xReturn := !decide (0 < semInitReturn)
  return (xReturn, { state with semInitialized := xReturn })

/-- `memset` of a buffer in a build without `NDEBUG`. -/
def zero (ndebug : Bool) (buffer : Option Rsrc) (length : Nat) : Except NetworkBufferFault Unit :=
  if !ndebug && buffer.isNone && length != 0 then .error .nullPointer else .ok ()

/-- The bytes of a new payload of this length, whose block is as long as 32 bits tell. -/
def capacity (xPayloadLen : SizeT) : Nat :=
  (privuxRsrcAlignUp (rsrcHeaderSize + xPayloadLen)).toNat - rsrcHeaderSize.toNat

/-- The payload is cleared, as `rsrcCLEAR_ON_BOTH` has it. -/
def pxRsrcVarAlloc (state : NetworkBuffers) (heap : RsrcHeap) (name : String)
    (xPayloadLen : SizeT) : Except NetworkBufferFault (Option Rsrc × NetworkBuffers) := do
  let (payload, rsrc) ← lift (state.rsrc.pxRsrcVarAlloc heap state.xNetworkBufferPool (some name)
    xPayloadLen.toNat)
  if payload.isSome && decide (capacity xPayloadLen < xPayloadLen.toNat) then throw .outOfBounds
  return (payload, { state with rsrc })

/-- The size of the block obtained for a buffer without a descriptor. -/
def bufferSize (xSize : SizeT) : SizeT :=
  let xSize := if xSize < baMinimalBufferSize then baMinimalBufferSize else xSize
  if xSize &&& 3 ≠ 0 then (xSize ||| 3) + 1 else xSize

/-- Returns the buffer and the size it has. -/
def pucGetNetworkBufferFor (ndebug : Bool) (state : NetworkBuffers) (heap : RsrcHeap)
    (name : String) (pxRequestedSizeBytes : SizeT) :
    Except NetworkBufferFault (Option Rsrc × SizeT × NetworkBuffers) := do
  let xSize := bufferSize pxRequestedSizeBytes
  let (pucEthernetBuffer, state) ← state.pxRsrcVarAlloc heap name (xSize + bufferPadding)
  zero ndebug pucEthernetBuffer (xSize + bufferPadding).toNat
  return (pucEthernetBuffer, xSize, state)

def vReleaseNetworkBuffer (state : NetworkBuffers) (pucEthernetBuffer : Option Rsrc) :
    Except NetworkBufferFault NetworkBuffers := do
  let rsrc ← lift (state.rsrc.vRsrcFree pucEthernetBuffer)
  return { state with rsrc }

def setDescriptor (state : NetworkBuffers) (pxNetworkBuffer : Rsrc)
    (descriptor : PooledDescriptor) : NetworkBuffers :=
  { state with descriptors := Function.update state.descriptors pxNetworkBuffer descriptor }

/-- `sem_post`. -/
def semPost (state : NetworkBuffers) : Except NetworkBufferFault NetworkBuffers :=
  match state.xNetworkBufferSemaphore with
  | none => .error .noSemaphore
  | some value => .ok { state with xNetworkBufferSemaphore := some (value + 1) }

def vReleaseNetworkBufferAndDescriptor (state : NetworkBuffers) (pxNetworkBuffer : Rsrc) :
    Except NetworkBufferFault NetworkBuffers := do
  let state ← state.vReleaseNetworkBuffer (state.descriptors pxNetworkBuffer).pucEthernetBuffer
  let state := state.setDescriptor pxNetworkBuffer .cleared
  let rsrc ← lift (state.rsrc.vRsrcFree (some pxNetworkBuffer))
  let state := { state with rsrc }
  state.semPost

/-- What happens around a request for a descriptor: whether a time to wait until can be
told, whether the wait is broken off, and what the heap answers for the payload. -/
structure GetEnvironment where
  scheduled : Bool
  interrupted : Bool
  payload : RsrcHeap
  deriving Repr, DecidableEq

/-- `sem_timedwait` or `sem_trywait`: whether the semaphore was obtained. -/
def semWait (state : NetworkBuffers) (interrupted : Bool) :
    Except NetworkBufferFault (Bool × NetworkBuffers) :=
  match state.xNetworkBufferSemaphore with
  | none => .error .noSemaphore
  | some 0 => .ok (false, state)
  | some (value + 1) =>
      if interrupted then .ok (false, state)
      else .ok (true, { state with xNetworkBufferSemaphore := some value })

/-- The payload of a descriptor that was obtained. -/
def attachPayload (ndebug : Bool) (state : NetworkBuffers) (payload : RsrcHeap) (name : String)
    (xRequestedSizeBytes : SizeT) (pxReturn : Rsrc) :
    Except NetworkBufferFault (Option Rsrc × NetworkBuffers) := do
  if 0 < xRequestedSizeBytes then
    let xRequestedSizeBytes := storageSize xRequestedSizeBytes
    let (pucEthernetBuffer, state) ←
      state.pxRsrcVarAlloc payload name (xRequestedSizeBytes + bufferPadding)
    let state := state.setDescriptor pxReturn
      { state.descriptors pxReturn with pucEthernetBuffer }
    zero ndebug pucEthernetBuffer (xRequestedSizeBytes + bufferPadding).toNat
    if pucEthernetBuffer.isNone then
      let state ← state.vReleaseNetworkBufferAndDescriptor pxReturn
      return (none, state)
    else
      return (some pxReturn,
        state.setDescriptor pxReturn { pucEthernetBuffer, xDataLength := xRequestedSizeBytes })
  else
    return (some pxReturn, state.setDescriptor pxReturn
      { state.descriptors pxReturn with pucEthernetBuffer := none })

/-- The descriptor pool never asks the heap for more, and clears what it hands out. -/
def pxGetNetworkBufferWithDescriptorFor (ndebug : Bool) (state : NetworkBuffers)
    (environment : GetEnvironment) (name : String) (xRequestedSizeBytes : SizeT)
    (xTimeOutUS : UInt32) : Except NetworkBufferFault (Option Rsrc × NetworkBuffers) := do
  if !state.semInitialized then throw .assertion
  if 0 < xTimeOutUS && !environment.scheduled then return (none, state)
  let (semOk, state) ← state.semWait environment.interrupted
  if !semOk then return (none, state)
  let (pxReturn, rsrc) ← lift (state.rsrc.pxRsrcAlloc environment.payload
    state.xNetworkBufferDescriptorPool (some name))
  match pxReturn with
  | none => throw .nullPointer
  | some pxReturn =>
      let state := { state with rsrc }
      let state := state.setDescriptor pxReturn .cleared
      attachPayload ndebug state environment.payload name xRequestedSizeBytes pxReturn

/-- The copy of the old contents reads through the old buffer unless it has no bytes. -/
def pxResizeNetworkBufferWithDescriptorFor (ndebug : Bool) (state : NetworkBuffers)
    (heap : RsrcHeap) (name : String) (pxNetworkBuffer : Rsrc) (xNewSizeBytes : SizeT) :
    Except NetworkBufferFault (Option Rsrc × NetworkBuffers) := do
  let old := state.descriptors pxNetworkBuffer
  let xOriginalLength := old.xDataLength + bufferPadding
  let (pucBuffer, xNewSizeBytes, state) ←
    pucGetNetworkBufferFor ndebug state heap name (xNewSizeBytes + bufferPadding)
  if pucBuffer.isNone then return (none, state)
  let state := state.setDescriptor pxNetworkBuffer { old with xDataLength := xNewSizeBytes }
  let copied := if xNewSizeBytes > xOriginalLength then xOriginalLength else xNewSizeBytes
  if old.pucEthernetBuffer.isNone && copied != 0 then throw .nullPointer
  let state ← state.vReleaseNetworkBuffer old.pucEthernetBuffer
  return (some pxNetworkBuffer, state.setDescriptor pxNetworkBuffer
    { pucEthernetBuffer := pucBuffer, xDataLength := xNewSizeBytes })

end NetworkBuffers

/-! ## Runs -/

inductive NetworkBufferOp where
  | initialise (environment : NetworkBuffers.InitEnvironment)
  | get (environment : NetworkBuffers.GetEnvironment) (name : String)
      (xRequestedSizeBytes : SizeT) (xTimeOutUS : UInt32)
  | release (pxNetworkBuffer : Rsrc)
  | resize (heap : RsrcHeap) (name : String) (pxNetworkBuffer : Rsrc) (xNewSizeBytes : SizeT)
  | rawGet (heap : RsrcHeap) (name : String) (pxRequestedSizeBytes : SizeT)
  | rawRelease (pucEthernetBuffer : Option Rsrc)
  deriving Repr, DecidableEq

inductive NetworkBufferResult where
  | initialised (xReturn : Bool)
  | descriptor (pxReturn : Option Rsrc)
  | released
  | buffer (pucEthernetBuffer : Option Rsrc) (pxRequestedSizeBytes : SizeT)
  deriving Repr, DecidableEq

namespace NetworkBuffers

/-- The descriptor is in use. -/
def Holds (state : NetworkBuffers) (pxNetworkBuffer : Rsrc) : Prop :=
  state.xNetworkBufferDescriptorPool = some pxNetworkBuffer.pxPool ∧
    ∃ pool ∈ state.rsrc.pools[pxNetworkBuffer.pxPool]?, pxNetworkBuffer.number ∈ pool.xActive

instance (state : NetworkBuffers) (pxNetworkBuffer : Rsrc) :
    Decidable (state.Holds pxNetworkBuffer) :=
  inferInstanceAs (Decidable (_ ∧ _))

/-- A caller releases and resizes only what it holds. -/
def operate (ndebug : Bool) (state : NetworkBuffers) :
    NetworkBufferOp → Except NetworkBufferFault (NetworkBufferResult × NetworkBuffers)
  | .initialise environment => do
      let (xReturn, state) ← state.xNetworkBuffersInitialise environment
      return (.initialised xReturn, state)
  | .get environment name xRequestedSizeBytes xTimeOutUS => do
      let (pxReturn, state) ← pxGetNetworkBufferWithDescriptorFor ndebug state environment name
        xRequestedSizeBytes xTimeOutUS
      return (.descriptor pxReturn, state)
  | .release pxNetworkBuffer =>
      if state.Holds pxNetworkBuffer then do
        let state ← state.vReleaseNetworkBufferAndDescriptor pxNetworkBuffer
        return (.released, state)
      else throw .notHeld
  | .resize heap name pxNetworkBuffer xNewSizeBytes =>
      if state.Holds pxNetworkBuffer then do
        let (pxReturn, state) ← pxResizeNetworkBufferWithDescriptorFor ndebug state heap name
          pxNetworkBuffer xNewSizeBytes
        return (.descriptor pxReturn, state)
      else throw .notHeld
  | .rawGet heap name pxRequestedSizeBytes => do
      let (buffer, xSize, state) ← pucGetNetworkBufferFor ndebug state heap name
        pxRequestedSizeBytes
      return (.buffer buffer xSize, { state with raw := buffer.toList ++ state.raw })
  | .rawRelease none => do
      let state ← state.vReleaseNetworkBuffer none
      return (.released, state)
  | .rawRelease (some pucEthernetBuffer) =>
      if pucEthernetBuffer ∈ state.raw then do
        let state ← state.vReleaseNetworkBuffer (some pucEthernetBuffer)
        return (.released, { state with raw := state.raw.erase pucEthernetBuffer })
      else throw .notHeld

def perform (ndebug : Bool) (operation : NetworkBufferOp) :
    EStateM NetworkBufferFault NetworkBuffers NetworkBufferResult := fun state =>
  match operate ndebug state operation with
  | .ok (result, next) => .ok result next
  | .error fault => .error fault state

end NetworkBuffers

end RinaSense
