import RinaSense.Buffer.BufferManagement

/-!
# Data units

Destruction, decapsulation and encapsulation of data units as in `du.c`.
-/

namespace RinaSense

/-- Release the buffer, if there is one, and free the data unit. -/
def xDuDestroy (pxDu : DuId) : Rina Bool := do
  let du ← readDu pxDu
  match du.pxNetworkBuffer with
  | some buffer => vReleaseNetworkBufferAndDescriptor buffer
  | none => pure ()
  modify fun node => { node with dus := node.dus.free pxDu }
  return true

/-- The storage of a data unit's buffer and the buffer itself. -/
def readStorage (du : Du) : Rina (BufferId × NetworkBufferDescriptor × List UInt8) := do
  let buffer ← follow du.pxNetworkBuffer
  let descriptor ← readBuffer buffer
  let storage ← follow descriptor.pucEthernetBuffer
  return (buffer, descriptor, storage)

/-- Read the header `pxPci` points to. -/
def readPci (pxDu : DuId) : Rina Pci := do
  let du ← readDu pxDu
  let offset ← follow du.pxPci
  let (_, _, storage) ← readStorage du
  match Pci.ofBytes (storage.drop offset) with
  | some pci => return pci
  | none => throw .outOfBounds

/-- Fill all fields of the header `pxPci` points to. -/
def writePci (pxDu : DuId) (pci : Pci) : Rina Unit := do
  let du ← readDu pxDu
  let offset ← follow du.pxPci
  let (buffer, descriptor, storage) ← readStorage du
  let storage ← copyInto storage offset pci.toBytes
  writeBuffer buffer { descriptor with pucEthernetBuffer := some storage }

/-- `true` reports that the type is not accepted. The second buffer is obtained
for a copy of the payload that is never made and is not released again; when it
cannot be obtained the function returns `false` with the header pointer unset. -/
def xDuDecap (obtained : Bool) (pxDu : DuId) : Rina Bool := do
  let du ← readDu pxDu
  let (buffer, descriptor, storage) ← readStorage du
  let pxPciTmp ← follow descriptor.pucRinaBuffer
  let xType ← match storage[pxPciTmp + 6]? with
    | some xType => pure xType
    | none => throw .outOfBounds
  if !pduTypeIsOk xType then return true
  let uxBufferSize := descriptor.xRinaDataLength - 14
  match ← pxGetNetworkBufferWithDescriptor obtained uxBufferSize with
  | none => return false
  | some pxNewBuffer =>
      writeBuffer pxNewBuffer { freshDescriptor uxBufferSize with xDataLength := uxBufferSize }
      writeBuffer buffer
        { descriptor with
          xDataLength := uxBufferSize
          pucDataBuffer := some (pxPciTmp + 14) }
      writeDu pxDu { du with pxPci := some pxPciTmp }
      return false

/-- Move the payload behind room for a header in a new buffer and release the old
one. -/
def xDuEncap (obtained : Bool) (pxDu : DuId) : Rina Bool := do
  let du ← readDu pxDu
  let buffer ← follow du.pxNetworkBuffer
  let descriptor ← readBuffer buffer
  let xBufferSize := descriptor.xDataLength + 14
  match ← pxGetNetworkBufferWithDescriptor obtained xBufferSize with
  | none => return false
  | some pxNewBuffer =>
      let storage ← follow (freshDescriptor xBufferSize).pucEthernetBuffer
      let payload ← copyFrom descriptor.pucEthernetBuffer 0 descriptor.xDataLength.toNat
      let storage ← copyInto storage 14 payload
      vReleaseNetworkBufferAndDescriptor buffer
      writeBuffer pxNewBuffer
        { freshDescriptor xBufferSize with
          pucEthernetBuffer := some storage
          xDataLength := xBufferSize }
      writeDu pxDu { pxNetworkBuffer := some pxNewBuffer, pxPci := some 0 }
      return true

/-- Copy out the bytes a data unit's buffer holds according to its data length. -/
def readPayload (pxDu : DuId) : Rina (List UInt8) := do
  let du ← readDu pxDu
  let descriptor ← readBuffer (← follow du.pxNetworkBuffer)
  copyFrom descriptor.pucEthernetBuffer 0 descriptor.xDataLength.toNat

/-- `xDuIsOk` on a present data unit. -/
def xDuIsOk (du : Du) : Bool := du.pxNetworkBuffer.isSome

/-! ## Runs -/

/-- A data unit in use together with its buffer. -/
structure Owns (node : Node) (pxDu : DuId) (du : Du) (buffer : BufferId)
    (descriptor : NetworkBufferDescriptor) : Prop where
  held : node.dus.get? pxDu = some du
  pointer : du.pxNetworkBuffer = some buffer
  stored : node.buffers.get? buffer = some descriptor

/-- The parts of a data unit are determined by the node. -/
theorem Owns.unique {node : Node} {pxDu : DuId} {du other : Du} {buffer : BufferId}
    {descriptor another : NetworkBufferDescriptor} (owns : Owns node pxDu du buffer descriptor)
    (owned : Owns node pxDu other buffer another) : other = du ∧ another = descriptor :=
  ⟨Option.some.inj (owned.held.symm.trans owns.held),
    Option.some.inj (owned.stored.symm.trans owns.stored)⟩

/-- The tables have no part in it. -/
theorem Owns.withCore {node : Node} {pxDu : DuId} {du : Du} {buffer : BufferId}
    {descriptor : NetworkBufferDescriptor} (owns : Owns node pxDu du buffer descriptor)
    (core : Core) : Owns { node with core } pxDu du buffer descriptor :=
  ⟨owns.held, owns.pointer, owns.stored⟩

/-- The node without a data unit and its buffer. -/
def Node.discard (node : Node) (pxDu : DuId) (buffer : BufferId) : Node :=
  { node with
    buffers := node.buffers.free buffer
    dus := node.dus.free pxDu }

/-- A buffer handed to the stack, wrapped in a data unit whose header pointer is
not set yet. The identities are the next ones of the stores. -/
def Node.arrive (node : Node) (descriptor : NetworkBufferDescriptor) : Node :=
  { node with
    buffers := (node.buffers.allocate descriptor).1
    dus := (node.dus.allocate
      { pxNetworkBuffer := some node.buffers.next, pxPci := none }).1 }

theorem owns_arrive (node : Node) (descriptor : NetworkBufferDescriptor) :
    Owns (node.arrive descriptor) node.dus.next
      { pxNetworkBuffer := some node.buffers.next, pxPci := none } node.buffers.next
      descriptor where
  held := node.dus.get?_allocate_new _
  pointer := rfl
  stored := node.buffers.get?_allocate_new _

section Runs

variable {node : Node} {pxDu : DuId} {du : Du} {buffer : BufferId}
  {descriptor : NetworkBufferDescriptor}

theorem run_duDestroy (owns : Owns node pxDu du buffer descriptor) :
    (xDuDestroy pxDu).run node = .ok true (node.discard pxDu buffer) := by
  have found : node.dus.get? pxDu = some { du with pxNetworkBuffer := some buffer } := by
    rw [owns.held, ← owns.pointer]
  simp [xDuDestroy, run_readDu found, run_release owns.stored, Node.discard, bind_pure_comp]

theorem run_duDestroy_absent (absent : node.dus.get? pxDu = none) :
    (xDuDestroy pxDu).run node = .error .released node := by
  simp [xDuDestroy, readDu, absent]

theorem run_readStorage (owns : Owns node pxDu du buffer descriptor) :
    (readStorage du).run node =
      match descriptor.pucEthernetBuffer with
      | some storage => .ok (buffer, descriptor, storage) node
      | none => .error .nullPointer node := by
  cases storage : descriptor.pucEthernetBuffer with
  | none => simp [readStorage, owns.pointer, run_readBuffer owns.stored, storage]
  | some block => simp [readStorage, owns.pointer, run_readBuffer owns.stored, storage]

/-- The header a data unit's `pxPci` points to. -/
def headerOf (du : Du) (descriptor : NetworkBufferDescriptor) : Option Pci := do
  let offset ← du.pxPci
  let storage ← descriptor.pucEthernetBuffer
  Pci.ofBytes (storage.drop offset)

theorem run_readPci (owns : Owns node pxDu du buffer descriptor) {pci : Pci}
    (header : headerOf du descriptor = some pci) : (readPci pxDu).run node = .ok pci node := by
  simp only [headerOf, Option.bind_eq_bind, Option.bind_eq_some_iff] at header
  obtain ⟨offset, pointer, storage, block, parsed⟩ := header
  simp [readPci, run_readDu owns.held, pointer, run_readStorage owns, block, parsed]

theorem run_readPci_unset (owns : Owns node pxDu du buffer descriptor)
    (unset : du.pxPci = none) : (readPci pxDu).run node = .error .nullPointer node := by
  simp [readPci, run_readDu owns.held, unset]

/-- Reading a header that is not there in full leaves the block. -/
theorem run_readPci_outside (owns : Owns node pxDu du buffer descriptor) {offset : Nat}
    {storage : List UInt8} (pointer : du.pxPci = some offset)
    (block : descriptor.pucEthernetBuffer = some storage)
    (short : Pci.ofBytes (storage.drop offset) = none) :
    (readPci pxDu).run node = .error .outOfBounds node := by
  simp [readPci, run_readDu owns.held, pointer, run_readStorage owns, block, short]

/-- Without a header there is nothing to read. -/
theorem run_readPci_headless (owns : Owns node pxDu du buffer descriptor)
    (headless : headerOf du descriptor = none) :
    ∃ fault, (readPci pxDu).run node = .error fault node := by
  cases pointer : du.pxPci with
  | none => exact ⟨_, run_readPci_unset owns pointer⟩
  | some offset =>
      cases block : descriptor.pucEthernetBuffer with
      | none => exact ⟨.nullPointer, by
          simp [readPci, run_readDu owns.held, pointer, run_readStorage owns, block]⟩
      | some storage =>
          have short : Pci.ofBytes (storage.drop offset) = none := by
            simpa [headerOf, pointer, block] using headless
          exact ⟨_, run_readPci_outside owns pointer block short⟩

/-- The PDU type `xDuDecap` reads from the received buffer. -/
def receivedType (descriptor : NetworkBufferDescriptor) : Option PduType := do
  let storage ← descriptor.pucEthernetBuffer
  let offset ← descriptor.pucRinaBuffer
  storage[offset + 6]?

/-- The header of a received buffer. -/
def receivedHeader (descriptor : NetworkBufferDescriptor) : Option Pci := do
  let offset ← descriptor.pucRinaBuffer
  let storage ← descriptor.pucEthernetBuffer
  Pci.ofBytes (storage.drop offset)

theorem receivedType_of_header {pci : Pci} (header : receivedHeader descriptor = some pci) :
    receivedType descriptor = some pci.xType := by
  simp only [receivedHeader, Option.bind_eq_bind, Option.bind_eq_some_iff] at header
  obtain ⟨offset, pointer, storage, block, parsed⟩ := header
  have byte := Pci.ofBytes_xType parsed
  rw [List.getElem?_drop] at byte
  simp [receivedType, block, pointer, byte]

/-- A type that is not accepted is reported and changes nothing. -/
theorem run_duDecap_rejected (owns : Owns node pxDu du buffer descriptor) {xType : PduType}
    (received : receivedType descriptor = some xType) (rejected : pduTypeIsOk xType = false)
    (obtained : Bool) : (xDuDecap obtained pxDu).run node = .ok true node := by
  simp only [receivedType, Option.bind_eq_bind, Option.bind_eq_some_iff] at received
  obtain ⟨storage, block, offset, pointer, byte⟩ := received
  simp [xDuDecap, run_readDu owns.held, run_readStorage owns, block, pointer, byte, rejected]

/-- Without a readable type byte decapsulation faults. -/
theorem run_duDecap_unreadable (owns : Owns node pxDu du buffer descriptor)
    (unreadable : receivedType descriptor = none) (obtained : Bool) :
    ∃ fault, fault ≠ .released ∧ (xDuDecap obtained pxDu).run node = .error fault node := by
  cases block : descriptor.pucEthernetBuffer with
  | none =>
      exact ⟨.nullPointer, by decide, by
        simp [xDuDecap, run_readDu owns.held, run_readStorage owns, block]⟩
  | some storage =>
      cases pointer : descriptor.pucRinaBuffer with
      | none =>
          exact ⟨.nullPointer, by decide, by
            simp [xDuDecap, run_readDu owns.held, run_readStorage owns, block, pointer]⟩
      | some offset =>
          have byte : storage[offset + 6]? = none := by
            simpa [receivedType, block, pointer] using unreadable
          exact ⟨.outOfBounds, by decide, by
            simp [xDuDecap, run_readDu owns.held, run_readStorage owns, block, pointer, byte]⟩

/-- Without a second buffer the result is the one of success and nothing changed. -/
theorem run_duDecap_unobtained (owns : Owns node pxDu du buffer descriptor) {xType : PduType}
    (received : receivedType descriptor = some xType) (accepted : pduTypeIsOk xType) :
    (xDuDecap false pxDu).run node = .ok false node := by
  simp only [receivedType, Option.bind_eq_bind, Option.bind_eq_some_iff] at received
  obtain ⟨storage, block, offset, pointer, byte⟩ := received
  simp [xDuDecap, run_readDu owns.held, run_readStorage owns, block, pointer, byte, accepted]

/-- The descriptor of a decapsulated data unit. -/
def decapsulated (descriptor : NetworkBufferDescriptor) : NetworkBufferDescriptor :=
  { descriptor with
    xDataLength := descriptor.xRinaDataLength - 14
    pucDataBuffer := descriptor.pucRinaBuffer.map (· + 14) }

/-- The node after a decapsulation that obtained its second buffer. -/
def Node.decapsulate (node : Node) (pxDu : DuId) (du : Du) (buffer : BufferId)
    (descriptor : NetworkBufferDescriptor) : Node :=
  let size := descriptor.xRinaDataLength - 14
  let (buffers, new) := node.buffers.allocate (freshDescriptor size)
  { node with
    buffers := (buffers.set new { freshDescriptor size with xDataLength := size }).set buffer
      (decapsulated descriptor)
    dus := node.dus.set pxDu { du with pxPci := descriptor.pucRinaBuffer } }

theorem run_duDecap (owns : Owns node pxDu du buffer descriptor) {xType : PduType}
    (received : receivedType descriptor = some xType) (accepted : pduTypeIsOk xType) :
    (xDuDecap true pxDu).run node =
      .ok false (node.decapsulate pxDu du buffer descriptor) := by
  simp only [receivedType, Option.bind_eq_bind, Option.bind_eq_some_iff] at received
  obtain ⟨storage, block, offset, pointer, byte⟩ := received
  simp [xDuDecap, run_readDu owns.held, run_readStorage owns, block, pointer, byte, accepted,
    Node.decapsulate, decapsulated, Store.allocate]

/-- The data unit keeps its buffer, and the second one stays in use beside it. -/
theorem owns_decapsulate (owns : Owns node pxDu du buffer descriptor) :
    Owns (node.decapsulate pxDu du buffer descriptor) pxDu
      { du with pxPci := descriptor.pucRinaBuffer } buffer (decapsulated descriptor) where
  held := Store.get?_set_self owns.held _
  pointer := owns.pointer
  stored := by
    have old : buffer ≠ node.buffers.next := (Store.lt_next owns.stored).ne
    have kept := (Store.get?_allocate_of_ne node.buffers
      (freshDescriptor (descriptor.xRinaDataLength - 14)) old).trans owns.stored
    exact Store.get?_set_self ((Store.get?_set_of_ne _ old _).trans kept) _

/-- The header of a received data unit is read where decapsulation found it. -/
theorem run_readPci_decapsulated (owns : Owns node pxDu du buffer descriptor) {pci : Pci}
    (header : receivedHeader descriptor = some pci) :
    (readPci pxDu).run (node.decapsulate pxDu du buffer descriptor) =
      .ok pci (node.decapsulate pxDu du buffer descriptor) :=
  run_readPci (owns_decapsulate owns) header

theorem run_readPci_short (owns : Owns node pxDu du buffer descriptor) {xType : PduType}
    (received : receivedType descriptor = some xType) (short : receivedHeader descriptor = none) :
    (readPci pxDu).run (node.decapsulate pxDu du buffer descriptor) =
      .error .outOfBounds (node.decapsulate pxDu du buffer descriptor) := by
  have owned := owns_decapsulate owns
  simp only [receivedType, Option.bind_eq_bind, Option.bind_eq_some_iff] at received
  obtain ⟨storage, block, offset, pointer, -⟩ := received
  have parsed : Pci.ofBytes (storage.drop offset) = none := by
    simpa [receivedHeader, block, pointer] using short
  exact run_readPci_outside owned pointer block parsed

theorem size_decapsulate :
    (node.decapsulate pxDu du buffer descriptor).buffers.size = node.buffers.size + 1 := by
  simp [Node.decapsulate, Store.size_allocate]

/-- The bytes a descriptor holds according to its data length. -/
def payloadOf (descriptor : NetworkBufferDescriptor) : Option (List UInt8) :=
  if descriptor.xDataLength.toNat = 0 then some []
  else do
    let storage ← descriptor.pucEthernetBuffer
    if descriptor.xDataLength.toNat ≤ storage.length then
      some (storage.take descriptor.xDataLength.toNat)
    else none

theorem payloadOf_length {payload : List UInt8} (held : payloadOf descriptor = some payload) :
    payload.length = descriptor.xDataLength.toNat := by
  rw [payloadOf] at held
  split at held
  · next empty => rw [← Option.some.inj held, empty]; rfl
  · simp only [Option.bind_eq_bind, Option.bind_eq_some_iff] at held
    obtain ⟨storage, -, taken⟩ := held
    split at taken
    · next inside =>
        rw [← Option.some.inj taken, List.length_take]
        omega
    · cases taken

/-- A block that begins with as many bytes as the data length says holds these. -/
theorem payloadOf_block {bytes slack : List UInt8}
    (block : descriptor.pucEthernetBuffer = some (bytes ++ slack))
    (length : descriptor.xDataLength.toNat = bytes.length) :
    payloadOf descriptor = some bytes := by
  have inside : bytes.length ≤ (bytes ++ slack).length := by
    rw [List.length_append]
    exact Nat.le_add_right _ _
  simp only [payloadOf, block, length, Option.bind_eq_bind, Option.bind_some, if_pos inside,
    List.take_left]
  split
  · next empty => rw [List.length_eq_zero_iff.mp empty]
  · rfl

theorem run_copyPayload {payload : List UInt8} (held : payloadOf descriptor = some payload) :
    (copyFrom descriptor.pucEthernetBuffer 0 descriptor.xDataLength.toNat).run node =
      .ok payload node := by
  rw [payloadOf] at held
  split at held
  · next empty =>
      rw [← Option.some.inj held, empty]
      rfl
  · simp only [Option.bind_eq_bind, Option.bind_eq_some_iff] at held
    obtain ⟨storage, block, taken⟩ := held
    split at taken
    · next inside =>
        rw [← Option.some.inj taken, block, run_copyFrom (by omega), List.drop_zero]
    · cases taken

theorem run_readPayload (owns : Owns node pxDu du buffer descriptor) {payload : List UInt8}
    (held : payloadOf descriptor = some payload) :
    (readPayload pxDu).run node = .ok payload node := by
  simp only [readPayload, EStateM.run_bind, run_readDu owns.held, owns.pointer,
    run_follow_some, run_readBuffer owns.stored, run_copyPayload held]

theorem run_copyPayload_unheld (unheld : payloadOf descriptor = none) :
    ∃ fault, fault ≠ .released ∧ ∀ node : Node,
      (copyFrom descriptor.pucEthernetBuffer 0 descriptor.xDataLength.toNat).run node =
        .error fault node := by
  rw [payloadOf] at unheld
  split at unheld
  · cases unheld
  · next positive =>
      cases block : descriptor.pucEthernetBuffer with
      | none => exact ⟨.nullPointer, by decide, by simp [copyFrom, positive]⟩
      | some storage =>
          have outside : ¬ 0 + descriptor.xDataLength.toNat ≤ storage.length := by
            simpa [block] using unheld
          exact ⟨.outOfBounds, by decide, fun _ => run_copyFrom_outside positive outside⟩

theorem run_readPayload_unheld (owns : Owns node pxDu du buffer descriptor)
    (unheld : payloadOf descriptor = none) :
    ∃ fault, (readPayload pxDu).run node = .error fault node := by
  obtain ⟨fault, -, copies⟩ := run_copyPayload_unheld unheld
  refine ⟨fault, ?_⟩
  simp only [readPayload, EStateM.run_bind, run_readDu owns.held, owns.pointer, run_follow_some,
    run_readBuffer owns.stored, copies]

/-- A data unit whose bytes can be read is in use with a buffer that holds them. -/
theorem owns_of_readPayload {sdu : List UInt8}
    (holds : (readPayload pxDu).run node = .ok sdu node) :
    ∃ du buffer descriptor, Owns node pxDu du buffer descriptor ∧
      payloadOf descriptor = some sdu := by
  cases held : node.dus.get? pxDu with
  | none => simp [readPayload, readDu, held] at holds
  | some du =>
      cases pointer : du.pxNetworkBuffer with
      | none => simp [readPayload, run_readDu held, pointer] at holds
      | some buffer =>
          cases stored : node.buffers.get? buffer with
          | none => simp [readPayload, run_readDu held, pointer, readBuffer, stored] at holds
          | some descriptor =>
              have owns : Owns node pxDu du buffer descriptor := ⟨held, pointer, stored⟩
              cases payload : payloadOf descriptor with
              | some bytes =>
                  rw [run_readPayload owns payload] at holds
                  injection holds with same
                  exact ⟨du, buffer, descriptor, owns, payload.trans (congrArg some same)⟩
              | none =>
                  obtain ⟨fault, unheld⟩ := run_readPayload_unheld owns payload
                  cases holds.symm.trans unheld

/-- A block that is not large enough for header and payload. -/
theorem storage_unfit {payload block : List UInt8}
    (length : payload.length = descriptor.xDataLength.toNat)
    (large : maxRequest < descriptor.xDataLength.toNat + 14)
    (storage : (freshDescriptor (descriptor.xDataLength + 14)).pucEthernetBuffer = some block) :
    ¬ 14 + payload.length ≤ block.length := by
  have limit := descriptor.xDataLength.toNat_lt
  have size : (descriptor.xDataLength + 14).toNat =
      (descriptor.xDataLength.toNat + 14) % 2 ^ 32 := UInt32.toNat_add _ _
  have blockLength : block.length = (storageSize (descriptor.xDataLength + 14)).toNat := by
    simp only [freshDescriptor] at storage
    split at storage
    · rw [← Option.some.inj storage, List.length_replicate]
    · cases storage
  rw [blockLength, storageSize_toNat, size, length]
  simp only [maxRequest] at large
  omega

/-- The descriptor of an encapsulated data unit, with the given header bytes. -/
def encapsulated (size : SizeT) (header payload : List UInt8) : NetworkBufferDescriptor :=
  { freshDescriptor size with
    pucEthernetBuffer := some
      (header ++ payload ++
        List.replicate ((storageSize size).toNat - (14 + payload.length)) 0)
    xDataLength := size }

@[simp] theorem encapsulated_dataLength (size : SizeT) (header payload : List UInt8) :
    (encapsulated size header payload).xDataLength = size := rfl

/-- The node after an encapsulation. -/
def Node.encapsulate (node : Node) (pxDu : DuId) (buffer : BufferId) (size : SizeT)
    (header payload : List UInt8) : Node :=
  let (buffers, new) := node.buffers.allocate (freshDescriptor size)
  { node with
    buffers := (buffers.free buffer).set new (encapsulated size header payload)
    dus := node.dus.set pxDu { pxNetworkBuffer := some new, pxPci := some 0 } }

@[simp] theorem encapsulate_core (size : SizeT) (header payload : List UInt8) :
    (node.encapsulate pxDu buffer size header payload).core = node.core := rfl

/-- Encapsulation and changes of the tables do not interfere. -/
theorem encapsulate_withCore (size : SizeT) (header payload : List UInt8) (core : Core) :
    { node.encapsulate pxDu buffer size header payload with core } =
      { node with core }.encapsulate pxDu buffer size header payload := rfl

@[simp] theorem run_duEncap_unobtained (owns : Owns node pxDu du buffer descriptor) :
    (xDuEncap false pxDu).run node = .ok false node := by
  simp [xDuEncap, run_readDu owns.held, owns.pointer, run_readBuffer owns.stored]

theorem toNat_add_header {length : SizeT} (fits : length.toNat + 14 ≤ maxRequest) :
    (length + 14).toNat = length.toNat + 14 := by
  simp only [maxRequest] at fits
  rw [UInt32.toNat_add]
  change (length.toNat + 14) % 2 ^ 32 = _
  omega

/-- A payload that leaves room for the header and the rounding is moved. -/
theorem run_duEncap (owns : Owns node pxDu du buffer descriptor) {payload : List UInt8}
    (held : payloadOf descriptor = some payload)
    (fits : descriptor.xDataLength.toNat + 14 ≤ maxRequest) :
    (xDuEncap true pxDu).run node =
      .ok true (node.encapsulate pxDu buffer (descriptor.xDataLength + 14)
        (List.replicate 14 0) payload) := by
  have length := payloadOf_length held
  have size := toNat_add_header fits
  have positive : 0 < descriptor.xDataLength + 14 := by
    rw [UInt32.lt_iff_toNat_lt, size]
    exact Nat.succ_pos _
  have room := le_storageSize (show (descriptor.xDataLength + 14).toNat ≤ maxRequest by omega)
  have storage : (freshDescriptor (descriptor.xDataLength + 14)).pucEthernetBuffer =
      some (List.replicate (storageSize (descriptor.xDataLength + 14)).toNat 0) :=
    if_pos positive
  have inside : 14 + payload.length ≤
      (List.replicate (storageSize (descriptor.xDataLength + 14)).toNat (0 : UInt8)).length := by
    rw [List.length_replicate]
    omega
  have header : min 14 (storageSize (descriptor.xDataLength + 14)).toNat = 14 :=
    Nat.min_eq_left (by omega)
  have old : buffer ≠ node.buffers.next := (Store.lt_next owns.stored).ne
  have stored := (Store.get?_allocate_of_ne node.buffers
    (freshDescriptor (descriptor.xDataLength + 14)) old).trans owns.stored
  simp only [xDuEncap, EStateM.run_bind, run_readDu owns.held, owns.pointer, run_follow_some,
    run_readBuffer owns.stored, run_getNetworkBuffer_true, storage, run_copyPayload held,
    run_copyInto inside]
  rw [run_release stored]
  simp only [run_writeBuffer, run_writeDu, EStateM.run_pure, List.take_replicate,
    List.drop_replicate, header]
  rfl

/-- Otherwise the copy leaves a block, before anything is released. -/
theorem run_duEncap_unfit (owns : Owns node pxDu du buffer descriptor)
    (unfit : payloadOf descriptor = none ∨
      maxRequest < descriptor.xDataLength.toNat + 14) :
    ∃ fault, fault ≠ .released ∧ (xDuEncap true pxDu).run node =
      .error fault { node with
        buffers := (node.buffers.allocate (freshDescriptor (descriptor.xDataLength + 14))).1 } := by
  simp only [xDuEncap, EStateM.run_bind, run_readDu owns.held, owns.pointer, run_follow_some,
    run_readBuffer owns.stored, run_getNetworkBuffer_true]
  cases storage : (freshDescriptor (descriptor.xDataLength + 14)).pucEthernetBuffer with
  | none => exact ⟨.nullPointer, by decide, rfl⟩
  | some block =>
      simp only [run_follow_some]
      cases held : payloadOf descriptor with
      | none =>
          obtain ⟨fault, other, run⟩ := run_copyPayload_unheld held
          exact ⟨fault, other, by simp only [run]⟩
      | some payload =>
          have large := unfit.resolve_left (by simp [held])
          have outside := storage_unfit (payloadOf_length held) large storage
          exact ⟨.outOfBounds, by decide, by
            simp only [run_copyPayload held, run_copyInto_outside outside]⟩

theorem owns_encapsulate (owns : Owns node pxDu du buffer descriptor) (size : SizeT)
    (header payload : List UInt8) :
    Owns (node.encapsulate pxDu buffer size header payload) pxDu
      { pxNetworkBuffer := some node.buffers.next, pxPci := some 0 } node.buffers.next
      (encapsulated size header payload) where
  held := Store.get?_set_self owns.held _
  pointer := rfl
  stored := by
    have new : node.buffers.next ≠ buffer := (Store.lt_next owns.stored).ne'
    exact Store.get?_set_self
      ((Store.get?_free_of_ne _ new).trans (node.buffers.get?_allocate_new _)) _

theorem run_readStorage_encapsulated (owns : Owns node pxDu du buffer descriptor)
    (size : SizeT) (header payload : List UInt8) :
    ∃ storage, (readStorage { pxNetworkBuffer := some node.buffers.next, pxPci := some 0 }).run
        (node.encapsulate pxDu buffer size header payload) =
      .ok (node.buffers.next, encapsulated size header payload, storage)
        (node.encapsulate pxDu buffer size header payload) :=
  ⟨_, run_readStorage (owns_encapsulate owns size header payload)⟩

/-- Filling the header replaces the bytes in front of the payload. -/
theorem run_writePci (owns : Owns node pxDu du buffer descriptor) (size : SizeT)
    (header : List UInt8) (length : header.length = 14) (payload : List UInt8) (pci : Pci) :
    (writePci pxDu pci).run (node.encapsulate pxDu buffer size header payload) =
      .ok () (node.encapsulate pxDu buffer size pci.toBytes payload) := by
  have encapsulation := owns_encapsulate owns size header payload
  have inside : 0 + pci.toBytes.length ≤ (header ++ payload ++
      List.replicate ((storageSize size).toNat - (14 + payload.length)) 0).length := by
    simp only [Pci.toBytes_length, pciLength, List.length_append, length]
    omega
  have behind : (header ++ payload ++
      List.replicate ((storageSize size).toNat - (14 + payload.length)) 0).drop
        (0 + pci.toBytes.length) =
      payload ++ List.replicate ((storageSize size).toNat - (14 + payload.length)) 0 := by
    rw [Nat.zero_add, Pci.toBytes_length, pciLength, ← length, List.append_assoc, List.drop_left]
  simp only [writePci, EStateM.run_bind, run_readDu encapsulation.held, run_follow_some,
    run_readStorage encapsulation, encapsulated, run_copyInto inside, behind, run_writeBuffer,
    List.take_zero, List.nil_append]
  simp only [Node.encapsulate, encapsulated, Store.allocate_id, Store.set_set,
    List.append_assoc]

/-- The filled header is the one the data unit's pointer leads to. -/
theorem headerOf_encapsulated (size : SizeT) (pci : Pci) (payload : List UInt8)
    (new : BufferId) :
    headerOf { pxNetworkBuffer := some new, pxPci := some 0 }
      (encapsulated size pci.toBytes payload) = some pci := by
  simp [headerOf, encapsulated, List.append_assoc]

/-- An encapsulated data unit holds the header and the payload. -/
theorem payloadOf_encapsulated {size : SizeT} {header payload : List UInt8}
    (length : (header ++ payload).length = size.toNat) :
    payloadOf (encapsulated size header payload) = some (header ++ payload) := by
  exact payloadOf_block rfl length.symm

/-! ## Received data units -/

/-- The PDU a received buffer holds for the stack. -/
def rinaOf (descriptor : NetworkBufferDescriptor) : Option (List UInt8) := do
  let storage ← descriptor.pucEthernetBuffer
  let offset ← descriptor.pucRinaBuffer
  if offset + descriptor.xRinaDataLength.toNat ≤ storage.length then
    some ((storage.drop offset).take descriptor.xRinaDataLength.toNat)
  else none

theorem rinaOf_block {header pdu slack : List UInt8}
    (block : descriptor.pucEthernetBuffer = some (header ++ pdu ++ slack))
    (pointer : descriptor.pucRinaBuffer = some header.length)
    (length : descriptor.xRinaDataLength.toNat = pdu.length) :
    rinaOf descriptor = some pdu := by
  have inside : header.length + pdu.length ≤ (header ++ pdu ++ slack).length := by
    rw [List.length_append, List.length_append]
    exact Nat.le_add_right _ _
  simp only [rinaOf, block, pointer, length, Option.bind_eq_bind, Option.bind_some,
    if_pos inside]
  rw [List.append_assoc, List.drop_left, List.take_left]

/-- A data unit handed to the stack, with a buffer whose PDU is these bytes. -/
structure HandsUp (node : Node) (pxDu : DuId) (buffer : BufferId)
    (descriptor : NetworkBufferDescriptor) (pdu : List UInt8) : Prop
    extends Owns node pxDu { pxNetworkBuffer := some buffer, pxPci := none } buffer
      descriptor where
  length : descriptor.xRinaDataLength.toNat = pdu.length
  contents : rinaOf descriptor = some pdu

end Runs

end RinaSense
