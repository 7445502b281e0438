import RinaSense.Buffer.BufferRuns
import RinaSense.Library.LittleEndian

/-!
# The contents of network buffers

`BufferManagement.c` with the bytes of the payloads. The padding in front of the data is a
parameter of the build, and without it the operations are those of `NetworkBufferPool`.
-/

namespace RinaSense

/-- How the module is built: with `NDEBUG` or not, with which `BUFFER_PADDING`, and where
the descriptors are stored. -/
structure BufferBuild where
  ndebug : Bool
  padding : SizeT
  address : Rsrc → UInt32

/-- The module with the bytes of each payload in use, its padding included, and the
payloads that were given back, the last one first. -/
structure BufferMemory where
  buffers : NetworkBuffers
  block : Rsrc → Option (List UInt8)
  released : List Rsrc

inductive BufferFault where
  | buffers (fault : NetworkBufferFault)
  | outOfBounds
  /-- The payload was given back. -/
  | noBlock
  deriving Repr, DecidableEq

namespace BufferMemory

def startup (rsrc : RsrcPools) : BufferMemory where
  buffers := .startup rsrc
  block := fun _ => none
  released := []

def lift {α : Type} : Except NetworkBufferFault α → Except BufferFault α
  | .ok value => .ok value
  | .error fault => .error (.buffers fault)

/-- The payload is cleared, as `rsrcCLEAR_ON_BOTH` has it. -/
def pxRsrcVarAlloc (memory : BufferMemory) (heap : RsrcHeap) (name : String)
    (xPayloadLen : SizeT) : Except BufferFault (Option Rsrc × BufferMemory) := do
  let (payload, rsrc) ← lift (NetworkBuffers.lift (memory.buffers.rsrc.pxRsrcVarAlloc heap
    memory.buffers.xNetworkBufferPool (some name) xPayloadLen.toNat))
  let memory := { memory with buffers := { memory.buffers with rsrc } }
  match payload with
  | none => return (none, memory)
  | some payload =>
      if xPayloadLen.toNat ≤ NetworkBuffers.capacity xPayloadLen then
        let bytes := List.replicate (NetworkBuffers.capacity xPayloadLen) 0
        return (some payload,
          { memory with block := Function.update memory.block payload (some bytes) })
      else throw .outOfBounds

/-- Returns the payload, whose data begin behind the padding, and the size it has. -/
def pucGetNetworkBufferFor (build : BufferBuild) (memory : BufferMemory) (heap : RsrcHeap)
    (name : String) (pxRequestedSizeBytes : SizeT) :
    Except BufferFault (Option Rsrc × SizeT × BufferMemory) := do
  let xSize := NetworkBuffers.bufferSize pxRequestedSizeBytes
  let (payload, memory) ← memory.pxRsrcVarAlloc heap name (xSize + build.padding)
  lift (NetworkBuffers.zero build.ndebug payload (xSize + build.padding).toNat)
  return (payload, xSize, memory)

def setDescriptor (memory : BufferMemory) (pxNetworkBuffer : Rsrc)
    (descriptor : PooledDescriptor) : BufferMemory :=
  { memory with buffers := memory.buffers.setDescriptor pxNetworkBuffer descriptor }

/-- A payload is given back, if there is one. -/
def forget (memory : BufferMemory) : Option Rsrc → BufferMemory
  | none => memory
  | some payload =>
      { memory with
        block := Function.update memory.block payload none
        released := payload :: memory.released }

def vReleaseNetworkBuffer (memory : BufferMemory) (payload : Option Rsrc) :
    Except BufferFault BufferMemory := do
  let buffers ← lift (memory.buffers.vReleaseNetworkBuffer payload)
  return { memory with buffers }.forget payload

def vReleaseNetworkBufferAndDescriptor (memory : BufferMemory) (pxNetworkBuffer : Rsrc) :
    Except BufferFault BufferMemory := do
  let payload := (memory.buffers.descriptors pxNetworkBuffer).pucEthernetBuffer
  let buffers ← lift (memory.buffers.vReleaseNetworkBufferAndDescriptor pxNetworkBuffer)
  return { memory with buffers }.forget payload

/-- Copying no bytes follows neither pointer. -/
def memcpy (memory : BufferMemory) (target : Rsrc) (source : Option Rsrc) (length : Nat) :
    Except BufferFault BufferMemory := do
  if length = 0 then return memory
  match source with
  | none => throw (.buffers .nullPointer)
  | some source =>
      match memory.block target, memory.block source with
      | some old, some bytes =>
          if length ≤ old.length ∧ length ≤ bytes.length then
            let copied := bytes.take length ++ old.drop length
            return { memory with block := Function.update memory.block target (some copied) }
          else throw .outOfBounds
      | _, _ => throw .noBlock

/-- The address of the descriptor, stored at the start of its payload. -/
def storeAddress (build : BufferBuild) (memory : BufferMemory) (pxNetworkBuffer payload : Rsrc) :
    Except BufferFault BufferMemory :=
  match memory.block payload with
  | none => throw .noBlock
  | some old =>
      if 4 ≤ old.length then
        let bytes := LittleEndian.toBytes 4 (build.address pxNetworkBuffer).toNat ++ old.drop 4
        return { memory with block := Function.update memory.block payload (some bytes) }
      else throw .outOfBounds

/-- The payload of a descriptor that was obtained. -/
def attachPayload (build : BufferBuild) (memory : BufferMemory) (heap : RsrcHeap) (name : String)
    (xRequestedSizeBytes : SizeT) (pxReturn : Rsrc) :
    Except BufferFault (Option Rsrc × BufferMemory) := do
  if 0 < xRequestedSizeBytes then
    let xRequestedSizeBytes := storageSize xRequestedSizeBytes
    let (payload, memory) ← memory.pxRsrcVarAlloc heap name (xRequestedSizeBytes + build.padding)
    let memory := memory.setDescriptor pxReturn
      { memory.buffers.descriptors pxReturn with pucEthernetBuffer := payload }
    lift (NetworkBuffers.zero build.ndebug payload (xRequestedSizeBytes + build.padding).toNat)
    match payload with
    | none =>
        let memory ← memory.vReleaseNetworkBufferAndDescriptor pxReturn
        return (none, memory)
    | some payload =>
        let memory ← memory.storeAddress build pxReturn payload
        return (some pxReturn, memory.setDescriptor pxReturn
          { pucEthernetBuffer := some payload, xDataLength := xRequestedSizeBytes })
  else
    return (some pxReturn, memory.setDescriptor pxReturn
      { memory.buffers.descriptors pxReturn with pucEthernetBuffer := none })

def pxGetNetworkBufferWithDescriptorFor (build : BufferBuild) (memory : BufferMemory)
    (environment : NetworkBuffers.GetEnvironment) (name : String) (xRequestedSizeBytes : SizeT)
    (xTimeOutUS : UInt32) : Except BufferFault (Option Rsrc × BufferMemory) := do
  if !memory.buffers.semInitialized then throw (.buffers .assertion)
  if 0 < xTimeOutUS && !environment.scheduled then return (none, memory)
  let (semOk, buffers) ← lift (memory.buffers.semWait environment.interrupted)
  let memory := { memory with buffers }
  if !semOk then return (none, memory)
  let (pxReturn, rsrc) ← lift (NetworkBuffers.lift (memory.buffers.rsrc.pxRsrcAlloc
    environment.payload memory.buffers.xNetworkBufferDescriptorPool (some name)))
  match pxReturn with
  | none => throw (.buffers .nullPointer)
  | some pxReturn =>
      let memory := { memory with buffers := { memory.buffers with rsrc } }
      let memory := memory.setDescriptor pxReturn .cleared
      attachPayload build memory environment.payload name xRequestedSizeBytes pxReturn

def pxResizeNetworkBufferWithDescriptorFor (build : BufferBuild) (memory : BufferMemory)
    (heap : RsrcHeap) (name : String) (pxNetworkBuffer : Rsrc) (xNewSizeBytes : SizeT) :
    Except BufferFault (Option Rsrc × BufferMemory) := do
  let old := memory.buffers.descriptors pxNetworkBuffer
  let xOriginalLength := old.xDataLength + build.padding
  let (payload, xNewSizeBytes, memory) ←
    pucGetNetworkBufferFor build memory heap name (xNewSizeBytes + build.padding)
  match payload with
  | none => return (none, memory)
  | some payload =>
      let memory := memory.setDescriptor pxNetworkBuffer { old with xDataLength := xNewSizeBytes }
      let copied := if xNewSizeBytes > xOriginalLength then xOriginalLength else xNewSizeBytes
      let memory ← memory.memcpy payload old.pucEthernetBuffer copied.toNat
      let memory ← memory.vReleaseNetworkBuffer old.pucEthernetBuffer
      return (some pxNetworkBuffer, memory.setDescriptor pxNetworkBuffer
        { pucEthernetBuffer := some payload, xDataLength := xNewSizeBytes })

/-- A caller writes to the payload of a descriptor it holds, without leaving it, and sets
how much of it is data. -/
def useData (build : BufferBuild) (memory : BufferMemory) (pxNetworkBuffer : Rsrc)
    (bytes : List UInt8) (xDataLength : SizeT) : Except BufferFault BufferMemory :=
  match (memory.buffers.descriptors pxNetworkBuffer).pucEthernetBuffer with
  | none => throw (.buffers .notHeld)
  | some payload =>
      if memory.buffers.Holds pxNetworkBuffer ∧
          (memory.block payload).map List.length = some bytes.length ∧
          build.padding.toNat + xDataLength.toNat ≤ bytes.length then
        return { memory with block := Function.update memory.block payload (some bytes) }
          |>.setDescriptor pxNetworkBuffer { pucEthernetBuffer := some payload, xDataLength }
      else throw (.buffers .notHeld)

end BufferMemory

inductive BufferOp where
  | buffers (operation : NetworkBufferOp)
  | useData (pxNetworkBuffer : Rsrc) (bytes : List UInt8) (xDataLength : SizeT)
  deriving Repr, DecidableEq

namespace BufferMemory

/-- An operation of the module, on the bytes too. -/
def operateBuffers (build : BufferBuild) (memory : BufferMemory) :
    NetworkBufferOp → Except BufferFault (NetworkBufferResult × BufferMemory)
  | .initialise environment => do
      let (xReturn, buffers) ← lift (memory.buffers.xNetworkBuffersInitialise environment)
      return (.initialised xReturn, { memory with buffers })
  | .get environment name xRequestedSizeBytes xTimeOutUS => do
      let (pxReturn, memory) ← pxGetNetworkBufferWithDescriptorFor build memory environment name
        xRequestedSizeBytes xTimeOutUS
      return (.descriptor pxReturn, memory)
  | .release pxNetworkBuffer =>
      if memory.buffers.Holds pxNetworkBuffer then do
        let memory ← memory.vReleaseNetworkBufferAndDescriptor pxNetworkBuffer
        return (.released, memory)
      else throw (.buffers .notHeld)
  | .resize heap name pxNetworkBuffer xNewSizeBytes =>
      if memory.buffers.Holds pxNetworkBuffer then do
        let (pxReturn, memory) ← pxResizeNetworkBufferWithDescriptorFor build memory heap name
          pxNetworkBuffer xNewSizeBytes
        return (.descriptor pxReturn, memory)
      else throw (.buffers .notHeld)
  | .rawGet heap name pxRequestedSizeBytes => do
      let (payload, xSize, memory) ← pucGetNetworkBufferFor build memory heap name
        pxRequestedSizeBytes
      let raw := payload.toList ++ memory.buffers.raw
      return (.buffer payload xSize, { memory with buffers := { memory.buffers with raw } })
  | .rawRelease none => do
      let memory ← memory.vReleaseNetworkBuffer none
      return (.released, memory)
  | .rawRelease (some payload) =>
      if payload ∈ memory.buffers.raw then do
        let memory ← memory.vReleaseNetworkBuffer (some payload)
        let raw := memory.buffers.raw.erase payload
        return (.released, { memory with buffers := { memory.buffers with raw } })
      else throw (.buffers .notHeld)

def operate (build : BufferBuild) (memory : BufferMemory) :
    BufferOp → Except BufferFault (NetworkBufferResult × BufferMemory)
  | .buffers operation => memory.operateBuffers build operation
  | .useData pxNetworkBuffer bytes xDataLength => do
      let memory ← memory.useData build pxNetworkBuffer bytes xDataLength
      return (.released, memory)

def perform (build : BufferBuild) (operation : BufferOp) :
    EStateM BufferFault BufferMemory NetworkBufferResult := fun memory =>
  match operate build memory operation with
  | .ok (result, next) => .ok result next
  | .error fault => .error fault memory

/-! ## Purpose -/

/-- The data of a descriptor: the bytes of its payload behind the padding, as many as its
length says. -/
def data (build : BufferBuild) (memory : BufferMemory) (pxNetworkBuffer : Rsrc) : List UInt8 :=
  match (memory.buffers.descriptors pxNetworkBuffer).pucEthernetBuffer.bind memory.block with
  | none => []
  | some bytes => (bytes.drop build.padding.toNat).take
      (memory.buffers.descriptors pxNetworkBuffer).xDataLength.toNat

/-- What a resize that returns the descriptor has done. -/
structure Resized (build : BufferBuild) (before after : BufferMemory) (pxNetworkBuffer : Rsrc)
    (xNewSizeBytes : SizeT) : Prop where
  /-- The payload is in use and has room for the size behind the padding. -/
  room : ∃ payload bytes,
    (after.buffers.descriptors pxNetworkBuffer).pucEthernetBuffer = some payload ∧
      after.buffers.PayloadInUse payload ∧ after.block payload = some bytes ∧
      build.padding.toNat + xNewSizeBytes.toNat ≤ bytes.length
  /-- The data are there as before, as far as the new size goes. -/
  kept : (before.data build pxNetworkBuffer).take xNewSizeBytes.toNat <+:
    after.data build pxNetworkBuffer
  /-- The old payload was given back, and nothing else. -/
  released : after.released =
    (before.buffers.descriptors pxNetworkBuffer).pucEthernetBuffer.toList ++ before.released
  /-- It is no longer in use. -/
  notInUse : ∀ payload ∈ (before.buffers.descriptors pxNetworkBuffer).pucEthernetBuffer,
    ¬ after.buffers.PayloadInUse payload

/-- A resize of a descriptor in use resizes it, or leaves everything as it was, or the
program ends as it is out of memory. -/
def ResizesProperly (build : BufferBuild) (before : BufferMemory) (pxNetworkBuffer : Rsrc)
    (xNewSizeBytes : SizeT) :
    EStateM.Result BufferFault BufferMemory NetworkBufferResult → Prop
  | .ok (.descriptor (some pxReturn)) after =>
      pxReturn = pxNetworkBuffer ∧ Resized build before after pxNetworkBuffer xNewSizeBytes
  | .ok (.descriptor none) after => after = before
  | .ok _ _ => False
  | .error fault _ => fault = .buffers (.rsrc .abort)

def Properly (build : BufferBuild) (before : BufferMemory) (operation : BufferOp)
    (result : EStateM.Result BufferFault BufferMemory NetworkBufferResult) : Prop :=
  ∀ heap name pxNetworkBuffer xNewSizeBytes,
    operation = .buffers (.resize heap name pxNetworkBuffer xNewSizeBytes) →
      before.buffers.Holds pxNetworkBuffer →
        ResizesProperly build before pxNetworkBuffer xNewSizeBytes result

/-- The length of the payload that a resize asks for. -/
def resizeLength (padding xNewSizeBytes : SizeT) : SizeT :=
  NetworkBuffers.bufferSize (xNewSizeBytes + padding) + padding

/-- The same length, before it is cut to 32 bits. -/
def fullSize (padding xNewSizeBytes : SizeT) : Nat :=
  (max (xNewSizeBytes.toNat + padding.toNat) 22 + 3) / 4 * 4 + padding.toNat

/-- No payload can be had: there is no pool, there is no room in it, or the heap refuses it
and the program goes on. -/
def Refused (buffers : NetworkBuffers) (heap : RsrcHeap) (length : Nat) : Prop :=
  length ≠ 0 ∧ (buffers.xNetworkBufferPool = none ∨ buffers.PayloadAbsent heap length)

/-- There is room for a payload, and memory. -/
def Granted (buffers : NetworkBuffers) (heap : RsrcHeap) (length : Nat) : Prop :=
  length ≠ 0 ∧ heap.memory = true ∧
    ∃ handle ∈ buffers.xNetworkBufferPool, ∃ pool ∈ buffers.rsrc.pools[handle]?,
      ¬ NetworkBuffers.Full pool

/-- In a build without `NDEBUG` the payload is not refused; one that is granted has a size
that a size can tell, and where there is padding, there is an old payload to copy it
from. -/
def Supported (build : BufferBuild) (before : BufferMemory) (operation : BufferOp) : Prop :=
  ∀ heap name pxNetworkBuffer xNewSizeBytes,
    operation = .buffers (.resize heap name pxNetworkBuffer xNewSizeBytes) →
      before.buffers.Holds pxNetworkBuffer →
        (Refused before.buffers heap (resizeLength build.padding xNewSizeBytes).toNat →
            build.ndebug = true) ∧
          (Granted before.buffers heap (resizeLength build.padding xNewSizeBytes).toNat →
            fullSize build.padding xNewSizeBytes ≤ SizedPool.largestPayload.toNat ∧
              (build.padding ≠ 0 →
                (before.buffers.descriptors pxNetworkBuffer).pucEthernetBuffer.isSome))

/-! ## Without the bytes -/

section Buffers

theorem lift_eq_ok {α : Type} {computation : Except NetworkBufferFault α} {value : α} :
    lift computation = .ok value ↔ computation = .ok value := by
  cases computation with
  | error fault => exact iff_of_false (fun same => nomatch same) (fun same => nomatch same)
  | ok result => exact ⟨fun same => congrArg _ (Except.ok.inj same),
      fun same => congrArg _ (Except.ok.inj same)⟩

theorem rsrc_lift_eq_ok {α : Type} {computation : Except RsrcFault α} {value : α} :
    NetworkBuffers.lift computation = .ok value ↔ computation = .ok value := by
  cases computation with
  | error fault => exact iff_of_false (fun same => nomatch same) (fun same => nomatch same)
  | ok result => exact ⟨fun same => congrArg _ (Except.ok.inj same),
      fun same => congrArg _ (Except.ok.inj same)⟩

variable {build : BufferBuild} {memory after : BufferMemory}

@[simp] theorem forget_buffers (payload : Option Rsrc) :
    (memory.forget payload).buffers = memory.buffers := by
  cases payload with
  | none => rfl
  | some payload => rfl

theorem alloc_buffers {heap : RsrcHeap} {name : String} {length : SizeT} {payload : Option Rsrc}
    (returned : memory.pxRsrcVarAlloc heap name length = .ok (payload, after)) :
    memory.buffers.pxRsrcVarAlloc heap name length = .ok (payload, after.buffers) := by
  obtain ⟨⟨taken, rsrc⟩, run, returned⟩ := Command.bind_eq_ok.mp returned
  rw [NetworkBuffers.pxRsrcVarAlloc, lift_eq_ok.mp run]
  cases taken with
  | none =>
      cases returned
      rfl
  | some taken =>
      by_cases inside : length.toNat ≤ NetworkBuffers.capacity length
      · simp only [inside, if_true] at returned
        cases returned
        simp only [Command.ok_bind, Option.isSome_some, Bool.true_and, Nat.not_lt.mpr inside,
          decide_false, Bool.false_eq_true, if_false]
        rfl
      · simp only [inside, if_false] at returned
        cases returned

theorem release_buffers {payload : Option Rsrc}
    (returned : memory.vReleaseNetworkBuffer payload = .ok after) :
    memory.buffers.vReleaseNetworkBuffer payload = .ok after.buffers := by
  obtain ⟨buffers, run, returned⟩ := Command.bind_eq_ok.mp returned
  cases returned
  rw [forget_buffers]
  exact lift_eq_ok.mp run

theorem releaseDescriptor_buffers {pxNetworkBuffer : Rsrc}
    (returned : memory.vReleaseNetworkBufferAndDescriptor pxNetworkBuffer = .ok after) :
    memory.buffers.vReleaseNetworkBufferAndDescriptor pxNetworkBuffer = .ok after.buffers := by
  obtain ⟨buffers, run, returned⟩ := Command.bind_eq_ok.mp returned
  cases returned
  rw [forget_buffers]
  exact lift_eq_ok.mp run

theorem memcpy_buffers {target : Rsrc} {source : Option Rsrc} {length : Nat}
    (returned : memory.memcpy target source length = .ok after) :
    after.buffers = memory.buffers ∧ (source = none → length = 0) := by
  by_cases zero : length = 0
  · subst zero
    cases returned
    exact ⟨rfl, fun _ => rfl⟩
  · cases source with
    | none =>
        rw [memcpy, if_neg zero] at returned
        cases returned
    | some source =>
        rw [memcpy, if_neg zero] at returned
        simp only at returned
        split at returned
        · split at returned
          · cases returned
            exact ⟨rfl, fun isNone => nomatch isNone⟩
          · cases returned
        · cases returned

theorem storeAddress_buffers {pxNetworkBuffer payload : Rsrc}
    (returned : storeAddress build memory pxNetworkBuffer payload = .ok after) :
    after.buffers = memory.buffers := by
  rw [storeAddress] at returned
  split at returned
  · cases returned
  · split at returned
    · cases returned
      rfl
    · cases returned

section Unpadded

variable (unpadded : build.padding = bufferPadding)

include unpadded

theorem getNetworkBuffer_buffers {heap : RsrcHeap} {name : String} {size xSize : SizeT}
    {payload : Option Rsrc}
    (returned : pucGetNetworkBufferFor build memory heap name size = .ok (payload, xSize, after)) :
    NetworkBuffers.pucGetNetworkBufferFor build.ndebug memory.buffers heap name size =
      .ok (payload, xSize, after.buffers) := by
  obtain ⟨⟨taken, last⟩, run, returned⟩ := Command.bind_eq_ok.mp returned
  obtain ⟨_, cleared, returned⟩ := Command.bind_eq_ok.mp returned
  cases returned
  have allocated := alloc_buffers run
  rw [unpadded] at allocated cleared
  rw [NetworkBuffers.pucGetNetworkBufferFor, allocated]
  simp only [Command.ok_bind, lift_eq_ok.mp cleared]
  rfl

theorem attachPayload_buffers {heap : RsrcHeap} {name : String} {size : SizeT}
    {pxReturn : Rsrc} {result : Option Rsrc}
    (returned : attachPayload build memory heap name size pxReturn = .ok (result, after)) :
    NetworkBuffers.attachPayload build.ndebug memory.buffers heap name size pxReturn =
      .ok (result, after.buffers) := by
  rw [attachPayload] at returned
  rw [NetworkBuffers.attachPayload]
  by_cases asked : 0 < size
  · simp only [if_pos asked] at returned ⊢
    obtain ⟨⟨taken, last⟩, run, returned⟩ := Command.bind_eq_ok.mp returned
    obtain ⟨_, cleared, returned⟩ := Command.bind_eq_ok.mp returned
    have allocated := alloc_buffers run
    rw [unpadded] at allocated cleared
    rw [allocated]
    simp only [Command.ok_bind, lift_eq_ok.mp cleared]
    cases taken with
    | none =>
        obtain ⟨freed, release, returned⟩ := Command.bind_eq_ok.mp returned
        cases returned
        have released := releaseDescriptor_buffers release
        simp only [setDescriptor] at released
        simp only [Option.isNone_none, if_true, released, Command.ok_bind]
        rfl
    | some payload =>
        obtain ⟨stored, store, returned⟩ := Command.bind_eq_ok.mp returned
        cases returned
        have same := storeAddress_buffers store
        simp only [setDescriptor, same, Option.isNone_some, Bool.false_eq_true, if_false]
        rfl
  · simp only [if_neg asked] at returned ⊢
    cases returned
    rfl

theorem get_buffers {environment : NetworkBuffers.GetEnvironment} {name : String} {size : SizeT}
    {xTimeOutUS : UInt32} {result : Option Rsrc}
    (returned : pxGetNetworkBufferWithDescriptorFor build memory environment name size xTimeOutUS =
      .ok (result, after)) :
    NetworkBuffers.pxGetNetworkBufferWithDescriptorFor build.ndebug memory.buffers environment
      name size xTimeOutUS = .ok (result, after.buffers) := by
  cases initialized : memory.buffers.semInitialized with
  | false =>
      rw [pxGetNetworkBufferWithDescriptorFor, initialized] at returned
      cases returned
  | true =>
      rw [pxGetNetworkBufferWithDescriptorFor, initialized] at returned
      rw [NetworkBuffers.pxGetNetworkBufferWithDescriptorFor, initialized]
      by_cases unscheduled : (decide (0 < xTimeOutUS) && !environment.scheduled) = true
      · rw [unscheduled] at returned ⊢
        cases returned
        rfl
      · rw [Bool.not_eq_true] at unscheduled
        rw [unscheduled] at returned ⊢
        obtain ⟨⟨semOk, buffers⟩, waited, returned⟩ := Command.bind_eq_ok.mp returned
        simp only [Bool.not_true, Bool.false_eq_true, if_false, lift_eq_ok.mp waited,
          Command.ok_bind]
        cases semOk with
        | false =>
            cases returned
            rfl
        | true =>
            obtain ⟨⟨pxReturn, rsrc⟩, allocated, returned⟩ := Command.bind_eq_ok.mp returned
            simp only [Bool.not_true, Bool.false_eq_true, if_false, lift_eq_ok.mp allocated,
              Command.ok_bind]
            cases pxReturn with
            | none => cases returned
            | some pxReturn => exact attachPayload_buffers unpadded returned

theorem resize_buffers {heap : RsrcHeap} {name : String} {pxNetworkBuffer : Rsrc} {size : SizeT}
    {result : Option Rsrc}
    (returned : pxResizeNetworkBufferWithDescriptorFor build memory heap name pxNetworkBuffer
      size = .ok (result, after)) :
    NetworkBuffers.pxResizeNetworkBufferWithDescriptorFor build.ndebug memory.buffers heap name
      pxNetworkBuffer size = .ok (result, after.buffers) := by
  obtain ⟨⟨payload, xSize, last⟩, got, returned⟩ := Command.bind_eq_ok.mp returned
  have same := getNetworkBuffer_buffers unpadded got
  rw [unpadded] at same
  rw [NetworkBuffers.pxResizeNetworkBufferWithDescriptorFor, same]
  simp only [Command.ok_bind]
  cases payload with
  | none =>
      cases returned
      rfl
  | some payload =>
      obtain ⟨copied, copies, returned⟩ := Command.bind_eq_ok.mp returned
      obtain ⟨freed, release, returned⟩ := Command.bind_eq_ok.mp returned
      cases returned
      obtain ⟨unchanged, nothing⟩ := memcpy_buffers copies
      have released := release_buffers release
      rw [unchanged] at released
      simp only [unpadded, setDescriptor] at nothing released
      have follows : ((memory.buffers.descriptors pxNetworkBuffer).pucEthernetBuffer.isNone &&
          (if xSize > (memory.buffers.descriptors pxNetworkBuffer).xDataLength + bufferPadding
            then (memory.buffers.descriptors pxNetworkBuffer).xDataLength + bufferPadding
            else xSize) != 0) = false := by
        cases holds : (memory.buffers.descriptors pxNetworkBuffer).pucEthernetBuffer with
        | some old => rfl
        | none =>
            rw [Option.isNone_none, Bool.true_and, bne_eq_false_iff_eq]
            exact UInt32.toNat_inj.mp (nothing holds)
      simp only [Option.isNone_some, Bool.false_eq_true, if_false, follows, released,
        Command.ok_bind]
      rfl

end Unpadded

/-- Without padding an operation does with the pools and the descriptors what
`NetworkBufferPool` says of it. -/
theorem operateBuffers_buffers (unpadded : build.padding = bufferPadding)
    {operation : NetworkBufferOp} {result : NetworkBufferResult}
    (returned : memory.operateBuffers build operation = .ok (result, after)) :
    NetworkBuffers.operate build.ndebug memory.buffers operation = .ok (result, after.buffers) := by
  cases operation with
  | initialise environment =>
      obtain ⟨⟨xReturn, buffers⟩, run, returned⟩ := Command.bind_eq_ok.mp returned
      cases returned
      rw [NetworkBuffers.operate, lift_eq_ok.mp run]
      rfl
  | get environment name size xTimeOutUS =>
      obtain ⟨⟨pxReturn, last⟩, got, returned⟩ := Command.bind_eq_ok.mp returned
      cases returned
      rw [NetworkBuffers.operate, get_buffers unpadded got]
      rfl
  | release pxNetworkBuffer =>
      rw [operateBuffers] at returned
      rw [NetworkBuffers.operate]
      by_cases holds : memory.buffers.Holds pxNetworkBuffer
      · rw [if_pos holds] at returned ⊢
        obtain ⟨last, release, returned⟩ := Command.bind_eq_ok.mp returned
        cases returned
        rw [releaseDescriptor_buffers release]
        rfl
      · rw [if_neg holds] at returned
        cases returned
  | resize heap name pxNetworkBuffer size =>
      rw [operateBuffers] at returned
      rw [NetworkBuffers.operate]
      by_cases holds : memory.buffers.Holds pxNetworkBuffer
      · rw [if_pos holds] at returned ⊢
        obtain ⟨⟨pxReturn, last⟩, resized, returned⟩ := Command.bind_eq_ok.mp returned
        cases returned
        rw [resize_buffers unpadded resized]
        rfl
      · rw [if_neg holds] at returned
        cases returned
  | rawGet heap name size =>
      obtain ⟨⟨payload, xSize, last⟩, got, returned⟩ := Command.bind_eq_ok.mp returned
      cases returned
      rw [NetworkBuffers.operate, getNetworkBuffer_buffers unpadded got]
      rfl
  | rawRelease payload =>
      cases payload with
      | none =>
          obtain ⟨last, release, returned⟩ := Command.bind_eq_ok.mp returned
          cases returned
          rw [NetworkBuffers.operate, release_buffers release]
          rfl
      | some payload =>
          rw [operateBuffers] at returned
          rw [NetworkBuffers.operate]
          by_cases member : payload ∈ memory.buffers.raw
          · rw [if_pos member] at returned ⊢
            obtain ⟨last, release, returned⟩ := Command.bind_eq_ok.mp returned
            cases returned
            rw [release_buffers release]
            rfl
          · rw [if_neg member] at returned
            cases returned

end Buffers

/-! ## Runs without the bytes -/

theorem operateBuffers_of_perform {build : BufferBuild} {memory after : BufferMemory}
    {operation : NetworkBufferOp} {result : NetworkBufferResult}
    (run : (perform build (.buffers operation)).run memory = .ok result after) :
    memory.operateBuffers build operation = .ok (result, after) := by
  rw [EStateM.run, perform, operate] at run
  split at run
  · next isOperated =>
      cases run
      exact isOperated
  · cases run

theorem perform_of_operate {ndebug : Bool} {state after : NetworkBuffers}
    {operation : NetworkBufferOp} {result : NetworkBufferResult}
    (returned : NetworkBuffers.operate ndebug state operation = .ok (result, after)) :
    (NetworkBuffers.perform ndebug operation).run state = .ok result after := by
  rw [EStateM.run, NetworkBuffers.perform, returned]

theorem trace_buffers {build : BufferBuild} (unpadded : build.padding = bufferPadding)
    (operations : List NetworkBufferOp) (memory : BufferMemory) :
    ∀ occurrence ∈ Trace.trace (perform build) (operations.map .buffers) memory,
      ∃ operation, occurrence.event = .buffers operation ∧
        ∀ result after, occurrence.result = .ok result after →
          ⟨occurrence.before.buffers, operation, .ok result after.buffers⟩ ∈
            Trace.trace (NetworkBuffers.perform build.ndebug) operations memory.buffers := by
  induction operations generalizing memory with
  | nil => exact fun _ member => absurd member List.not_mem_nil
  | cons operation operations ih =>
      intro occurrence member
      rw [List.map_cons] at member
      have simulated : ∀ {result after},
          (perform build (.buffers operation)).run memory = .ok result after →
            (NetworkBuffers.perform build.ndebug operation).run memory.buffers =
              .ok result after.buffers := fun run =>
        perform_of_operate (operateBuffers_buffers unpadded (operateBuffers_of_perform run))
      rcases Trace.mem_trace_cons.mp member with rfl | ⟨value, next, run, later⟩
      · refine ⟨operation, rfl, fun result after returned => ?_⟩
        exact Trace.mem_trace_cons.mpr (.inl (by rw [simulated returned]))
      · obtain ⟨other, same, refined⟩ := ih next occurrence later
        refine ⟨other, same, fun result after returned => ?_⟩
        exact Trace.mem_trace_cons.mpr
          (.inr ⟨value, next.buffers, simulated run, refined result after returned⟩)

/-- In a run without padding every operation that returns does with the semaphore, the pools
and the descriptors what the model without the bytes does in the same run. -/
theorem contents_refine_pools {build : BufferBuild} (unpadded : build.padding = bufferPadding)
    (rsrc : RsrcPools) (operations : List NetworkBufferOp) :
    ∀ occurrence ∈ Trace.trace (perform build) (operations.map .buffers) (startup rsrc),
      ∃ operation, occurrence.event = .buffers operation ∧
        ∀ result after, occurrence.result = .ok result after →
          ⟨occurrence.before.buffers, operation, .ok result after.buffers⟩ ∈
            Trace.trace (NetworkBuffers.perform build.ndebug) operations (.startup rsrc) :=
  trace_buffers unpadded operations (startup rsrc)

/-- A build without `NDEBUG` and without padding. -/
def debugBuild : BufferBuild where
  ndebug := false
  padding := 0
  address := fun _ => 0

/-- A descriptor is obtained, resized and released. -/
def resizedOnce : List NetworkBufferOp :=
  [.initialise NetworkBuffers.allGranted, NetworkBuffers.obtainTen ⟨true, false⟩,
    .resize ⟨true, false⟩ "buffer" ⟨0, 24⟩ 50, .release ⟨0, 24⟩]

theorem contents_refine_pools_resized :
    (Trace.trace (perform debugBuild) (resizedOnce.map .buffers) (startup .startup)).length = 4 ∧
    ∀ occurrence ∈ Trace.trace (perform debugBuild) (resizedOnce.map .buffers) (startup .startup),
      ∃ operation, occurrence.event = .buffers operation ∧
        ∀ result after, occurrence.result = .ok result after →
          ⟨occurrence.before.buffers, operation, .ok result after.buffers⟩ ∈
            Trace.trace (NetworkBuffers.perform false) resizedOnce (.startup .startup) :=
  ⟨by decide +kernel, @contents_refine_pools debugBuild rfl .startup resizedOnce⟩

end BufferMemory

end RinaSense
