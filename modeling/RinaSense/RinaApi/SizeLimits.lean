import RinaSense.Ipcp.DuRoundTrip
import RinaSense.RinaApi.FlowWrite
import RinaSense.Shim.Ethernet

/-!
# Size limits from the application to the shims

The application may write as many bytes as a WiFi frame holds, and a header is put in front of
them on the way. The module determines the lengths that pass the size check of the shim their
PDU is sent through.
-/

namespace RinaSense

open Command

/-! ## The shims -/

/-- A call of the `duWrite` of a shim that has its instance data. -/
inductive ShimWrite where
  | wifi (outcomes : EthernetTxOutcomes) (flows : List WifiFlow) (data : WifiInstanceData)
      (xId : PortId)
  | ieee802154 (outcomes : Outcomes) (xId : PortId)

namespace ShimWrite

def perform (pxDu : DuId) : ShimWrite → Rina Bool
  | wifi outcomes flows data xId => xShimSduWrite outcomes flows (some data) xId pxDu
  | ieee802154 outcomes xId => xShimIEEE802154SDUWrite outcomes true xId pxDu

/-- What the length of a data unit is compared with. -/
def mtu : ShimWrite → SizeT
  | wifi _ _ _ _ => wifiMtu
  | ieee802154 _ _ => ieee802154Mtu

/-- The data unit passes the size check. -/
def Passes (write : ShimWrite) (node : Node) (pxDu : DuId) : Prop :=
  ∃ du buffer descriptor, Owns node pxDu du buffer descriptor ∧
    ¬ write.mtu < descriptor.xDataLength

theorem passes_iff {node : Node} {pxDu : DuId} {du : Du} {buffer : BufferId}
    {descriptor : NetworkBufferDescriptor} (owns : Owns node pxDu du buffer descriptor)
    (write : ShimWrite) : write.Passes node pxDu ↔ ¬ write.mtu < descriptor.xDataLength := by
  constructor
  · rintro ⟨other, another, checked, owned, fits⟩
    have dus := Option.some.inj (owned.held.symm.trans owns.held)
    subst dus
    have buffers := Option.some.inj (owned.pointer.symm.trans owns.pointer)
    subst buffers
    rwa [(owned.unique owns).2]
  · exact fun fits => ⟨du, buffer, descriptor, owns, fits⟩

/-- A data unit that does not is destroyed, whatever the flows of the shim are. -/
theorem drops_of_not_passes {node : Node} {pxDu : DuId} {du : Du} {buffer : BufferId}
    {descriptor : NetworkBufferDescriptor} (owns : Owns node pxDu du buffer descriptor)
    {write : ShimWrite} (fails : ¬ write.Passes node pxDu) :
    (write.perform pxDu).run node = .ok false (node.discard pxDu buffer) := by
  have large : write.mtu < descriptor.xDataLength := by
    rwa [passes_iff owns, not_not] at fails
  cases write with
  | wifi outcomes flows data xId =>
      change wifiMtu < _ at large
      simp only [perform, xShimSduWrite, EStateM.run_bind, run_readDu owns.held, owns.pointer,
        run_follow_some, run_readBuffer owns.stored, large, if_true, run_duDestroy owns,
        EStateM.run_pure]
  | ieee802154 outcomes xId =>
      change ieee802154Mtu < _ at large
      simp only [perform, xShimIEEE802154SDUWrite, Bool.not_true, Bool.false_eq_true, if_false,
        EStateM.run_bind, run_readDu owns.held, owns.pointer, run_follow_some,
        run_readBuffer owns.stored, large, if_true, run_duDestroy owns, EStateM.run_pure]

end ShimWrite

/-! ## Writing and encapsulating -/

/-- The call reports the data as written and leaves its buffer to the IPCP task. -/
structure Writes (outcomes : WriteOutcomes) (xPortId : PortId) (data : List UInt8)
    (node after : Node) (buffer : BufferId) (descriptor : NetworkBufferDescriptor) : Prop where
  run : (rinaFlowWrite outcomes xPortId data).run node = .ok data.length after
  event : after.events = node.events ++ [.stackTx buffer]
  stored : after.buffers.get? buffer = some descriptor

/-- The state and the data unit are what `xDuEncap` leaves of data reported as written: the
buffer was left to the IPCP task, and reached `xDuEncap` in a later state. -/
def Encapsulates (data : List UInt8) (after : Node) (pxDu : DuId) : Prop :=
  ∃ writeOutcomes xPortId start written buffer descriptor node du obtained,
    Writes writeOutcomes xPortId data start written buffer descriptor ∧
      Owns node pxDu du buffer descriptor ∧ (xDuEncap obtained pxDu).run node = .ok true after

section Write

variable {outcomes : WriteOutcomes} {xPortId : PortId} {data : List UInt8} {node after : Node}
  {buffer : BufferId} {descriptor : NetworkBufferDescriptor}

/-- A call that returns without an event leaves no buffer to the task. -/
theorem not_writes_of_silent {result : Nat} {next : Node}
    (run : (rinaFlowWrite outcomes xPortId data).run node = .ok result next)
    (silent : next.events = node.events) :
    ¬ Writes outcomes xPortId data node after buffer descriptor := by
  intro writes
  have same := writes.run
  rw [run] at same
  cases same
  exact absurd (silent.symm.trans writes.event) (by simp)

/-- The descriptor of the buffer left to the task. -/
def writtenDescriptor (xPortId : PortId) (data : List UInt8) (storage : Option (List UInt8)) :
    NetworkBufferDescriptor :=
  { freshDescriptor (UInt32.ofNat data.length) with
    pucEthernetBuffer := storage
    xDataLength := UInt32.ofNat data.length
    ulBoundPort := xPortId }

/-- What a call does that obtains its buffer. -/
theorem run_rinaFlowWrite (short : data.length ≤ maxSduSize) (timeoutChecked stackEvent : Bool)
    {storage : Option (List UInt8)} (copied : ∀ node,
      (copyBytes (freshDescriptor (UInt32.ofNat data.length)).pucEthernetBuffer data).run node =
        .ok storage node) :
    ∃ buffers, (rinaFlowWrite ⟨true, true, timeoutChecked, stackEvent⟩ xPortId data).run node =
      if timeoutChecked && stackEvent then
        .ok data.length
          { node with
            buffers := (node.buffers.allocate (writtenDescriptor xPortId data storage)).1
            events := node.events ++ [.stackTx node.buffers.next] }
      else .ok 0 { node with buffers } := by
  have fits : ¬ maxSduSize < data.length := Nat.not_lt.mpr short
  simp only [rinaFlowWrite, fits, if_false, Bool.not_true, Bool.false_eq_true, EStateM.run_bind,
    run_getNetworkBuffer_true, copied, run_writeBuffer]
  cases timeoutChecked with
  | false =>
      simp only [Bool.not_false, if_true, Bool.false_and, Bool.false_eq_true, if_false]
      exact ⟨_, rfl⟩
  | true =>
      simp only [Bool.not_true, Bool.false_eq_true, if_false, EStateM.run_bind, run_writeBuffer,
        Store.set_allocate, Bool.true_and]
      cases stackEvent with
      | true => exact ⟨node.buffers, rfl⟩
      | false =>
          simp only [xSendEventStructToIPCPTask, Bool.false_eq_true, if_false, EStateM.run_pure,
            EStateM.run_bind]
          rw [run_release (node.buffers.get?_allocate_new _)]
          exact ⟨_, rfl⟩

/-- Only data up to the limit is written, and its length is the one of the buffer. -/
theorem Writes.length (writes : Writes outcomes xPortId data node after buffer descriptor) :
    data.length ≤ maxSduSize ∧ descriptor.xDataLength = UInt32.ofNat data.length := by
  by_cases long : maxSduSize < data.length
  · have run := writes.run
    simp only [rinaFlowWrite, long, if_true, EStateM.run_bind] at run
    cases run
  · have short := Nat.le_of_not_lt long
    refine ⟨short, ?_⟩
    obtain ⟨timeoutSet, obtained, timeoutChecked, stackEvent⟩ := outcomes
    have idle : ∀ {result}, (rinaFlowWrite ⟨timeoutSet, obtained, timeoutChecked, stackEvent⟩ xPortId
        data).run node = .ok result node → False :=
      fun run => not_writes_of_silent run rfl writes
    cases timeoutSet with
    | false => exact (idle (by simp only [rinaFlowWrite, long, if_false]; rfl)).elim
    | true =>
        cases obtained with
        | false =>
            exact (idle (by simp only [rinaFlowWrite, long, if_false, Bool.not_true,
              Bool.false_eq_true, EStateM.run_bind, run_getNetworkBuffer_false]; rfl)).elim
        | true =>
            obtain ⟨storage, copied⟩ := run_copyBytes_fresh (show data.length ≤ maxRequest from
              short.trans (by decide))
            obtain ⟨buffers, run⟩ := @run_rinaFlowWrite xPortId data node short timeoutChecked
              stackEvent storage copied
            cases granted : timeoutChecked && stackEvent with
            | false =>
                rw [granted, if_neg Bool.false_ne_true] at run
                exact (not_writes_of_silent run rfl writes).elim
            | true =>
                rw [granted, if_pos rfl] at run
                have same := writes.run
                rw [run] at same
                cases same
                have event := List.append_cancel_left writes.event
                injection event with event
                injection event with event
                have stored := writes.stored
                rw [← event, Store.get?_allocate_new] at stored
                cases stored
                rfl

/-- Data up to the limit is written if everything it needs is there. -/
theorem writes_granted (short : data.length ≤ maxSduSize) (xPortId : PortId) (node : Node) :
    ∃ after descriptor,
      Writes ⟨true, true, true, true⟩ xPortId data node after node.buffers.next descriptor ∧
        payloadOf descriptor = some data := by
  have size : (UInt32.ofNat data.length).toNat = data.length :=
    UInt32.toNat_ofNat_of_lt' (Nat.lt_of_le_of_lt short (by decide))
  have copies : ∃ storage, (∀ node,
      (copyBytes (freshDescriptor (UInt32.ofNat data.length)).pucEthernetBuffer data).run node =
        .ok storage node) ∧ payloadOf (writtenDescriptor xPortId data storage) = some data := by
    cases data with
    | nil => exact ⟨_, fun _ => rfl, rfl⟩
    | cons byte data =>
        refine ⟨_, @run_copyFrame (byte :: data) (Nat.succ_pos data.length)
          (Nat.lt_of_le_of_lt short (by decide)), ?_⟩
        exact payloadOf_block rfl size
  obtain ⟨storage, copied, held⟩ := copies
  obtain ⟨_, run⟩ := @run_rinaFlowWrite xPortId data node short true true storage copied
  exact ⟨_, _, ⟨run, rfl, node.buffers.get?_allocate_new _⟩, held⟩

end Write

/-! ## The length of the PDU -/

section Pdu

variable {data : List UInt8} {after : Node} {pxDu : DuId}

/-- A header is put in front of the data. -/
theorem Encapsulates.length (encapsulates : Encapsulates data after pxDu) :
    data.length ≤ maxSduSize ∧ ∃ du buffer descriptor, Owns after pxDu du buffer descriptor ∧
      descriptor.xDataLength.toNat = data.length + 14 := by
  obtain ⟨writeOutcomes, xPortId, start, written, buffer, descriptor, node, du, obtained, writes,
    owns, run⟩ := encapsulates
  obtain ⟨short, length⟩ := writes.length
  refine ⟨short, ?_⟩
  have small : descriptor.xDataLength.toNat = data.length := by
    rw [length]
    exact UInt32.toNat_ofNat_of_lt' (Nat.lt_of_le_of_lt short (by decide))
  have room : descriptor.xDataLength.toNat + 14 ≤ maxRequest := by
    rw [small]
    exact (Nat.add_le_add_right short 14).trans (by decide)
  cases obtained with
  | false =>
      rw [run_duEncap_unobtained owns] at run
      cases run
  | true =>
      cases held : payloadOf descriptor with
      | none =>
          obtain ⟨fault, -, faults⟩ := run_duEncap_unfit owns (.inl held)
          rw [faults] at run
          cases run
      | some payload =>
          rw [run_duEncap owns held room] at run
          cases run
          refine ⟨_, _, _, owns_encapsulate owns _ _ _, ?_⟩
          rw [encapsulated_dataLength, toNat_add_header room, small]

/-- Any data up to the limit can get this far. -/
theorem encapsulates_granted (short : data.length ≤ maxSduSize) :
    ∃ after pxDu, Encapsulates data after pxDu := by
  obtain ⟨written, descriptor, writes, held⟩ := writes_granted short 1 Node.blank
  let node : Node :=
    { written with
      dus := (written.dus.allocate
        { pxNetworkBuffer := some Node.blank.buffers.next, pxPci := none }).1 }
  have owns : Owns node written.dus.next _ Node.blank.buffers.next descriptor :=
    ⟨written.dus.get?_allocate_new _, rfl, writes.stored⟩
  have room : descriptor.xDataLength.toNat + 14 ≤ maxRequest := by
    rw [← payloadOf_length held]
    exact (Nat.add_le_add_right short 14).trans (by decide)
  exact ⟨_, _, _, _, _, _, _, _, _, _, true, writes, owns, run_duEncap owns held room⟩

/-- Every PDU of data reported as written passes the size check of the shim. -/
def SizesCompose (write : ShimWrite) (data : List UInt8) : Prop :=
  ∀ after pxDu, Encapsulates data after pxDu → write.Passes after pxDu

/-- The size check, in terms of the data. -/
theorem Encapsulates.passes_iff (encapsulates : Encapsulates data after pxDu)
    (write : ShimWrite) : write.Passes after pxDu ↔ data.length + 14 ≤ write.mtu.toNat := by
  obtain ⟨-, du, buffer, descriptor, owns, length⟩ := encapsulates.length
  rw [ShimWrite.passes_iff owns, UInt32.lt_iff_toNat_lt, length, Nat.not_lt]

theorem sdu_sizes_iff (write : ShimWrite) (data : List UInt8) :
    SizesCompose write data ↔
      (data.length ≤ maxSduSize → data.length + 14 ≤ write.mtu.toNat) := by
  constructor
  · intro compose short
    obtain ⟨after, pxDu, encapsulates⟩ := encapsulates_granted short
    exact (encapsulates.passes_iff write).mp (compose after pxDu encapsulates)
  · intro limit after pxDu encapsulates
    exact (encapsulates.passes_iff write).mpr (limit encapsulates.length.1)

/-- 1487 bytes are reported as written, and neither shim sends them. -/
theorem long_sdu_dropped :
    ∃ after pxDu, Encapsulates (List.replicate 1487 7) after pxDu ∧
      ∀ write : ShimWrite, ¬ write.Passes after pxDu ∧
        ∃ dropped, (write.perform pxDu).run after = .ok false dropped := by
  have length : (List.replicate 1487 (7 : UInt8)).length = 1487 := List.length_replicate
  obtain ⟨after, pxDu, encapsulates⟩ := encapsulates_granted (length.trans_le (by decide))
  refine ⟨after, pxDu, encapsulates, fun write => ?_⟩
  have fails : ¬ write.Passes after pxDu := by
    rw [encapsulates.passes_iff write, length]
    cases write with
    | wifi outcomes flows data xId =>
        change ¬ 1487 + 14 ≤ 1500
        decide
    | ieee802154 outcomes xId =>
        change ¬ 1487 + 14 ≤ 127
        decide
  obtain ⟨-, du, buffer, descriptor, owns, -⟩ := encapsulates.length
  exact ⟨fails, _, ShimWrite.drops_of_not_passes owns fails⟩

end Pdu

end RinaSense
