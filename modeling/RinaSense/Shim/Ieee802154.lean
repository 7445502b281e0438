import RinaSense.Ipcp.Du

/-!
# The IEEE 802.15.4 shim

Handing a data unit to the network interface, as `xShimIEEE802154SDUWrite` does.
-/

namespace RinaSense

/-- `ieee802154_MTU`. -/
def ieee802154Mtu : SizeT := 127

/-- The header `ieee802154_header` builds: frame control for data with short
addresses, sequence number, PAN id, destination and source. -/
def ieee802154Header : List UInt8 := [0x41, 0x88, 0x00, 0x42, 0x42, 0x02, 0x00, 0x01, 0x00]

def hdrLen : SizeT := 9

/-- The size of a frame within the MTU is not cut. -/
theorem hdrLen_add_toNat {length : SizeT} (short : ¬ ieee802154Mtu < length) :
    length.toNat ≤ 127 ∧ (hdrLen + length).toNat = 9 + length.toNat := by
  have small : length.toNat ≤ 127 := by
    rw [UInt32.lt_iff_toNat_lt] at short
    exact Nat.le_of_not_lt short
  refine ⟨small, ?_⟩
  rw [UInt32.toNat_add]
  change (9 + length.toNat) % 2 ^ 32 = _
  omega

def prvShimFindFlowByPortId (xPortId : PortId) (flows : List ShimFlow) : Option ShimFlow :=
  flows.find? fun flow => flow.xPortId == xPortId

/-- Queue an event for the IPCP task, which may have no room for it. -/
def xSendEventStructToIPCPTask (accepted : Bool) (event : StackEvent) : Rina Bool := do
  if accepted then
    modify fun node => { node with events := node.events ++ [event] }
    return true
  else return false

/-- Copy the data unit behind a frame header into a new buffer and queue that for
the network driver. The copied length leaves out the length byte in front, so the
last payload byte is cut off. -/
def xShimIEEE802154SDUWrite (outcomes : Outcomes) (pxData : Bool) (xId : PortId)
    (pxDu : DuId) : Rina Bool := do
  if !pxData then return false
  let du ← readDu pxDu
  let descriptor ← readBuffer (← follow du.pxNetworkBuffer)
  let uxLength := descriptor.xDataLength
  if ieee802154Mtu < uxLength then
    let _ ← xDuDestroy pxDu
    return false
  match prvShimFindFlowByPortId xId (← readCore).xShimFlowsList with
  | none =>
      let _ ← xDuDestroy pxDu
      return false
  | some pxFlow =>
      if pxFlow.ePortIdState ≠ .allocated then
        let _ ← xDuDestroy pxDu
        return false
      match ← pxGetNetworkBufferWithDescriptor outcomes.shimBuffer (hdrLen + uxLength) with
      | none =>
          let _ ← xDuDestroy pxDu
          return false
      | some pxNetworkBuffer =>
          let storage ← follow (freshDescriptor (hdrLen + uxLength)).pucEthernetBuffer
          let payload ← readPayload pxDu
          let frame := (hdrLen + uxLength).toUInt8 :: (ieee802154Header ++ payload)
          let storage ← copyInto storage 0 (frame.take (hdrLen + uxLength).toNat)
          writeBuffer pxNetworkBuffer
            { freshDescriptor (hdrLen + uxLength) with
              pucEthernetBuffer := some storage
              xDataLength := hdrLen + uxLength }
          let _ ← xDuDestroy pxDu
          if ← xSendEventStructToIPCPTask outcomes.networkEvent (.networkTx pxNetworkBuffer) then
            return true
          else
            vReleaseNetworkBufferAndDescriptor pxNetworkBuffer
            return false

/-! ## Queueing a frame -/

section Queue

variable {node : Node} {pxDu : DuId} {du : Du} {buffer frame : BufferId}
  {descriptor sent : NetworkBufferDescriptor}

/-- A data unit that is destroyed is not reported as sent. -/
theorem destroyed_not_sent (owns : Owns node pxDu du buffer descriptor) {after : Node} :
    (do
      let _ ← xDuDestroy pxDu
      return false : Rina Bool).run node ≠ .ok true after := by
  intro same
  rw [EStateM.run_bind, run_duDestroy owns] at same
  cases same

/-- A frame queued for the driver. -/
structure FrameQueued (node after : Node) (frame : BufferId) (sent : NetworkBufferDescriptor) :
    Prop where
  stored : after.buffers.get? frame = some sent
  events : after.events = node.events ++ [.networkTx frame]

/-- The end of sending: the data unit goes, and the frame is queued if there is
room for its event. -/
theorem run_handFrame (owns : Owns node pxDu du buffer descriptor)
    (stored : node.buffers.get? frame = some sent) (other : frame ≠ buffer) (accepted : Bool) :
    ∃ after, (do
        let _ ← xDuDestroy pxDu
        if ← xSendEventStructToIPCPTask accepted (.networkTx frame) then return true
        else
          vReleaseNetworkBufferAndDescriptor frame
          return false : Rina Bool).run node = .ok accepted after ∧
      (accepted = true → FrameQueued node after frame sent) := by
  have kept : (node.discard pxDu buffer).buffers.get? frame = some sent :=
    (Store.get?_free_of_ne node.buffers other).trans stored
  cases accepted with
  | false =>
      simp only [EStateM.run_bind, run_duDestroy owns, xSendEventStructToIPCPTask,
        Bool.false_eq_true, if_false, EStateM.run_pure]
      rw [run_release kept]
      exact ⟨_, rfl, fun taken => taken.elim⟩
  | true =>
      simp only [EStateM.run_bind, run_duDestroy owns]
      exact ⟨_, rfl, fun _ => ⟨kept, rfl⟩⟩

end Queue

end RinaSense
