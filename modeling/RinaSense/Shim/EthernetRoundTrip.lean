import RinaSense.Ipcp.DuRoundTrip
import RinaSense.Shim.Ethernet

/-!
# Ethernet round trip

The frame of an accepted data unit carries the two hardware addresses, and a node
that takes the frame in hands up exactly the bytes of the data unit.
-/

namespace RinaSense

open Command

variable {node : Node} {pxDu : DuId} {du : Du} {buffer : BufferId}
  {descriptor : NetworkBufferDescriptor} {sdu : List UInt8}

/-! ## Frames -/

@[simp] theorem EthernetHeader.toBytes_length (header : EthernetHeader) :
    header.toBytes.length = 14 := by
  simp [EthernetHeader.toBytes]

/-- The frame of a data unit between two hardware addresses. -/
def ethernetFrame (destination source : MacAddress) (sdu : List UInt8) : List UInt8 :=
  (EthernetHeader.mk destination source ethPRina).toBytes ++ sdu

variable {destination source : MacAddress}

@[simp] theorem ethernetFrame_length :
    (ethernetFrame destination source sdu).length = 14 + sdu.length := by
  rw [ethernetFrame, List.length_append, EthernetHeader.toBytes_length]

theorem ethernetFrame_destination :
    (ethernetFrame destination source sdu).take 6 = destination.toBytes := by
  rw [ethernetFrame, EthernetHeader.toBytes, List.append_assoc, List.append_assoc]
  exact List.take_left' destination.toBytes_length

theorem ethernetFrame_source :
    ((ethernetFrame destination source sdu).drop 6).take 6 = source.toBytes := by
  rw [ethernetFrame, EthernetHeader.toBytes, List.append_assoc, List.append_assoc,
    List.drop_left' destination.toBytes_length]
  exact List.take_left' source.toBytes_length

/-- Whatever follows the header, its type is found behind the two addresses. -/
theorem usFrameTypeOf_ethernetFrame (slack : List UInt8) :
    usFrameTypeOf (ethernetFrame destination source sdu ++ slack) = some ethPRina := by
  have addresses : (destination.toBytes ++ source.toBytes).length = 12 := by simp
  rw [usFrameTypeOf, ethernetFrame, EthernetHeader.toBytes, List.append_assoc, List.append_assoc,
    List.drop_left' addresses]
  have joined : (ethPRina >>> 8).toUInt8.toUInt16 <<< 8 ||| ethPRina.toUInt8.toUInt16 = ethPRina := by
    decide
  exact congrArg some joined

/-! ## Sending -/

/-- The conditions under which a frame is made of a data unit of so many bytes. -/
structure EthernetFrames (outcomes : EthernetTxOutcomes) (flows : List WifiFlow)
    (pxData : Option WifiInstanceData) (xId : PortId) (length : SizeT)
    (data : WifiInstanceData) (flow : WifiFlow) (destination : Gha) : Prop where
  instanceData : pxData = some data
  short : ¬ wifiMtu < length
  found : prvShimFindWifiFlowByPortId outcomes.flowMemory xId flows = some flow
  allocated : flow.ePortIdState = .allocated
  resolved : flow.pxDestHa = some destination
  ghaMemory : outcomes.ghaMemory = true
  buffer : outcomes.buffer = true

/-- A frame within the MTU fits into the block asked for it. -/
theorem ethernet_fits {length : SizeT} (short : ¬ wifiMtu < length) :
    (ethernetHeaderLength + length).toNat = 14 + length.toNat ∧
      ∃ block, (freshDescriptor (ethernetHeaderLength + length)).pucEthernetBuffer = some block ∧
        14 + length.toNat ≤ block.length := by
  have small : length.toNat ≤ 1500 := by
    rw [UInt32.lt_iff_toNat_lt] at short
    exact Nat.le_of_not_lt short
  have size : (ethernetHeaderLength + length).toNat = 14 + length.toNat := by
    rw [UInt32.toNat_add]
    change (14 + length.toNat) % 2 ^ 32 = _
    omega
  refine ⟨size, ?_⟩
  rw [← size]
  apply freshDescriptor_block
  · rw [size]
    omega
  · rw [size, maxRequest]
    omega

/-- The data unit is accepted if the event queue takes the frame. -/
theorem run_shimSduWrite (owns : Owns node pxDu du buffer descriptor)
    (held : payloadOf descriptor = some sdu) {outcomes : EthernetTxOutcomes}
    {flows : List WifiFlow} {pxData : Option WifiInstanceData} {xId : PortId}
    {data : WifiInstanceData} {flow : WifiFlow} {destination : Gha}
    (frames : EthernetFrames outcomes flows pxData xId descriptor.xDataLength data flow
      destination) :
    ∃ after sent,
      (xShimSduWrite outcomes flows pxData xId pxDu).run node = .ok outcomes.networkEvent after ∧
        (outcomes.networkEvent = true → FrameQueued node after node.buffers.next sent ∧
          payloadOf sent = some (ethernetFrame destination.xAddress data.pxPhyDev sdu)) := by
  obtain ⟨size, block, storage, fits⟩ := ethernet_fits frames.short
  have length := payloadOf_length held
  have other : buffer ≠ node.buffers.next := (Store.lt_next owns.stored).ne
  have beside : Owns { node with buffers := (node.buffers.allocate
      (freshDescriptor (ethernetHeaderLength + descriptor.xDataLength))).1 } pxDu du buffer
      descriptor :=
    ⟨owns.held, owns.pointer, (node.buffers.get?_allocate_of_ne _ other).trans owns.stored⟩
  let header : EthernetHeader := ⟨destination.xAddress, data.pxPhyDev, ethPRina⟩
  have room : sdu.length ≤ (block.drop header.toBytes.length).length := by
    rw [List.length_drop, EthernetHeader.toBytes_length]
    omega
  simp only [xShimSduWrite, frames.instanceData, EStateM.run_bind, run_readDu owns.held,
    owns.pointer, run_follow_some, run_readBuffer owns.stored, frames.short, if_false,
    frames.found, frames.allocated, ne_eq, not_true_eq_false, frames.ghaMemory, pxCreateGha,
    if_true, frames.resolved, frames.buffer, run_getNetworkBuffer_true, storage]
  rw [run_copyInto_start (by rw [EthernetHeader.toBytes_length]; omega)]
  dsimp only
  rw [run_readPayload beside held]
  dsimp only
  rw [run_copyInto_behind header.toBytes_length room]
  simp only [run_writeBuffer]
  let sent : NetworkBufferDescriptor :=
    { freshDescriptor (ethernetHeaderLength + descriptor.xDataLength) with
      pucEthernetBuffer := some (header.toBytes ++ sdu ++
        (block.drop header.toBytes.length).drop sdu.length)
      xDataLength := ethernetHeaderLength + descriptor.xDataLength }
  let buffers := (node.buffers.allocate sent).1
  have filled : Owns { node with buffers } pxDu du buffer descriptor :=
    ⟨owns.held, owns.pointer, (node.buffers.get?_allocate_of_ne sent other).trans owns.stored⟩
  obtain ⟨after, run, handed⟩ := run_handFrame filled (node.buffers.get?_allocate_new sent)
    other.symm outcomes.networkEvent
  rw [Store.set_allocate]
  refine ⟨after, sent, run, fun taken => ⟨⟨(handed taken).stored, (handed taken).events⟩, ?_⟩⟩
  apply payloadOf_block rfl
  rw [ethernetFrame_length, length]
  exact size

/-- What an accepted data unit says about the call. -/
theorem frames_of_sent (owns : Owns node pxDu du buffer descriptor)
    (held : payloadOf descriptor = some sdu) {outcomes : EthernetTxOutcomes}
    {flows : List WifiFlow} {pxData : Option WifiInstanceData} {xId : PortId} {after : Node}
    (sent : (xShimSduWrite outcomes flows pxData xId pxDu).run node = .ok true after) :
    ∃ data flow destination, outcomes.networkEvent = true ∧
      EthernetFrames outcomes flows pxData xId descriptor.xDataLength data flow destination := by
  have refused : (do
      let _ ← xDuDestroy pxDu
      return false : Rina Bool).run node ≠ .ok true after := destroyed_not_sent owns
  cases instanceData : pxData with
  | none =>
      rw [xShimSduWrite.eq_def, instanceData] at sent
      cases sent
  | some data =>
      rw [instanceData] at sent
      have accepted := sent
      simp only [xShimSduWrite, EStateM.run_bind, run_readDu owns.held,
        owns.pointer, run_follow_some, run_readBuffer owns.stored] at sent
      by_cases long : wifiMtu < descriptor.xDataLength
      · rw [if_pos long] at sent
        exact (refused sent).elim
      · rw [if_neg long] at sent
        cases found : prvShimFindWifiFlowByPortId outcomes.flowMemory xId flows with
        | none =>
            simp only [found] at sent
            exact (refused sent).elim
        | some flow =>
            simp only [found] at sent
            by_cases allocated : flow.ePortIdState = .allocated
            · simp only [allocated, ne_eq, not_true_eq_false, if_false] at sent
              cases memory : outcomes.ghaMemory with
              | false =>
                  simp only [pxCreateGha, memory, Bool.false_eq_true, if_false] at sent
                  exact (refused sent).elim
              | true =>
                  simp only [pxCreateGha, memory, if_true] at sent
                  cases resolved : flow.pxDestHa with
                  | none =>
                      simp only [resolved] at sent
                      exact (refused sent).elim
                  | some destination =>
                      simp only [resolved, EStateM.run_bind] at sent
                      cases obtained : outcomes.buffer with
                      | false =>
                          simp only [obtained, run_getNetworkBuffer_false] at sent
                          exact (refused sent).elim
                      | true =>
                          have frames : EthernetFrames outcomes flows (some data) xId
                              descriptor.xDataLength data flow destination :=
                            ⟨rfl, long, found, allocated, resolved, memory, obtained⟩
                          obtain ⟨_, _, run, -⟩ := run_shimSduWrite owns held frames
                          rw [run] at accepted
                          injection accepted with queued
                          exact ⟨data, flow, destination, queued, frames⟩
            · simp only [allocated, ne_eq, not_false_eq_true, if_true] at sent
              exact (refused sent).elim

/-! ## Receiving -/

/-- Take a frame in and process what was queued of it. -/
def deliverFrame (outcomes : EthernetRxOutcomes) (arp : ArpProcessing) (frame : List UInt8) :
    Rina (Option DuId) := do
  match (← xNetworkInterfaceInput outcomes frame).2 with
  | none => return none
  | some pxNetworkBuffer => prvProcessEthernetPacket outcomes arp pxNetworkBuffer

section Delivery

variable {receiver : Node} {outcomes : EthernetRxOutcomes} {arp : ArpProcessing}

/-- The length of a frame within the MTU is one of its 32-bit integers. -/
theorem ethernetFrame_size (short : sdu.length ≤ 1500) :
    (UInt32.ofNat (ethernetFrame destination source sdu).length).toNat = 14 + sdu.length := by
  rw [ethernetFrame_length]
  exact UInt32.toNat_ofNat_of_lt' (by simp only [UInt32.size]; omega)

theorem run_considerFrame :
    (eConsiderFrameForProcessing (ethernetFrame destination source sdu)).run receiver =
      .ok .processBuffer receiver := by
  have frameType := @usFrameTypeOf_ethernetFrame sdu destination source []
  rw [List.append_nil] at frameType
  simp only [eConsiderFrameForProcessing, frameType, or_true, if_true, EStateM.run_pure]

theorem run_networkInterfaceInput (short : sdu.length ≤ 1500) (buffer : outcomes.buffer = true) :
    (xNetworkInterfaceInput outcomes (ethernetFrame destination source sdu)).run receiver =
      if outcomes.networkEvent then
        .ok (true, some receiver.buffers.next)
          { receiver with
            buffers := (receiver.buffers.allocate
              (frameDescriptor (ethernetFrame destination source sdu))).1 }
      else
        .ok (false, none)
          { receiver with
            buffers := (receiver.buffers.allocate
              (frameDescriptor (ethernetFrame destination source sdu))).1.free
                receiver.buffers.next } := by
  have consider := @run_considerFrame sdu destination source receiver
  have length : (ethernetFrame destination source sdu).length = 14 + sdu.length :=
    ethernetFrame_length
  generalize ethernetFrame destination source sdu = frame at *
  obtain ⟨narrow, wide⟩ := @frame_width frame.length (by omega)
  have copied := @run_copyFrame frame (by omega) (by omega)
  simp only [xNetworkInterfaceInput, EStateM.run_bind, consider, ne_eq, not_true_eq_false,
    if_false, wide, buffer, run_getNetworkBuffer_true, narrow, List.take_length, copied,
    run_writeBuffer, Store.set_allocate]
  cases outcomes.networkEvent with
  | true => rfl
  | false =>
      simp only [Bool.not_false, if_true, Bool.false_eq_true, if_false, EStateM.run_bind]
      rw [run_release (receiver.buffers.get?_allocate_new _)]
      rfl

/-- The buffer of a frame after its header was taken off. -/
def openedDescriptor (frame : List UInt8) : NetworkBufferDescriptor :=
  { frameDescriptor frame with
    xRinaDataLength := (frameDescriptor frame).xEthernetDataLength - 14
    pucRinaBuffer := some 14 }

theorem openedDescriptor_rina (short : sdu.length ≤ 1500) :
    (openedDescriptor (ethernetFrame destination source sdu)).xRinaDataLength.toNat =
        sdu.length ∧
      rinaOf (openedDescriptor (ethernetFrame destination source sdu)) = some sdu := by
  have size := @ethernetFrame_size sdu destination source short
  have length : (openedDescriptor (ethernetFrame destination source sdu)).xRinaDataLength.toNat =
      sdu.length := by
    change (UInt32.ofNat (ethernetFrame destination source sdu).length - 14).toNat = sdu.length
    have minuend : 14 ≤ UInt32.ofNat (ethernetFrame destination source sdu).length := by
      rw [UInt32.le_iff_toNat_le, size]
      exact Nat.le_add_right _ _
    rw [UInt32.toNat_sub_of_le _ _ minuend, size]
    exact Nat.add_sub_cancel_left 14 sdu.length
  refine ⟨length, rinaOf_block rfl ?_ length⟩
  rw [EthernetHeader.toBytes_length]
  rfl

theorem run_processEthernetPacket (short : sdu.length ≤ 1500) {pxNetworkBuffer : BufferId}
    (stored : receiver.buffers.get? pxNetworkBuffer =
      some (frameDescriptor (ethernetFrame destination source sdu))) :
    (prvProcessEthernetPacket outcomes arp pxNetworkBuffer).run receiver =
      if outcomes.duMemory then
        .ok (if outcomes.stackEvent then some receiver.dus.next else none)
          { receiver with
            buffers := receiver.buffers.set pxNetworkBuffer
              (openedDescriptor (ethernetFrame destination source sdu))
            dus := (receiver.dus.allocate
              { pxNetworkBuffer := some pxNetworkBuffer, pxPci := none }).1 }
      else .ok none receiver := by
  have size := @ethernetFrame_size sdu destination source short
  have whole : ¬ (frameDescriptor (ethernetFrame destination source sdu)).xEthernetDataLength <
      ethernetHeaderLength := by
    rw [UInt32.lt_iff_toNat_lt]
    change ¬ (UInt32.ofNat (ethernetFrame destination source sdu).length).toNat < 14
    omega
  have block : (frameDescriptor (ethernetFrame destination source sdu)).pucEthernetBuffer =
      some (ethernetFrame destination source sdu ++ _) := rfl
  have other : ethPRina ≠ ethPRinaArp := by decide
  simp only [prvProcessEthernetPacket, EStateM.run_bind, run_readBuffer stored, whole, if_false,
    block, run_follow_some, usFrameTypeOf_ethernetFrame, other, if_true]
  cases outcomes.duMemory with
  | false => rfl
  | true => rfl

/-- With the buffer, the room and the memory for it, a frame is taken in and hands
up exactly the bytes of the data unit. -/
theorem run_deliverFrame (short : sdu.length ≤ 1500) (buffer : outcomes.buffer = true)
    (networkEvent : outcomes.networkEvent = true) (duMemory : outcomes.duMemory = true) :
    ∃ received,
      (deliverFrame outcomes arp (ethernetFrame destination source sdu)).run receiver =
        .ok (if outcomes.stackEvent then some receiver.dus.next else none) received ∧
      HandsUp received receiver.dus.next receiver.buffers.next
        (openedDescriptor (ethernetFrame destination source sdu)) sdu := by
  obtain ⟨length, contents⟩ := @openedDescriptor_rina sdu destination source short
  have input := @run_networkInterfaceInput sdu destination source receiver outcomes short buffer
  rw [networkEvent, if_pos rfl] at input
  have processed := @run_processEthernetPacket sdu destination source
    { receiver with
      buffers := (receiver.buffers.allocate
        (frameDescriptor (ethernetFrame destination source sdu))).1 } outcomes arp short
    receiver.buffers.next (receiver.buffers.get?_allocate_new _)
  rw [duMemory, if_pos rfl, Store.set_allocate] at processed
  have run : (deliverFrame outcomes arp (ethernetFrame destination source sdu)).run receiver = _ :=
    (run_bind_ok input _).trans processed
  exact ⟨_, run, ⟨receiver.dus.get?_allocate_new _, rfl, receiver.buffers.get?_allocate_new _⟩,
    length, contents⟩

/-- Nothing is handed up where one of these is missing. -/
theorem deliverFrame_handsUp (short : sdu.length ≤ 1500) {handed : DuId} {received : Node}
    (run : (deliverFrame outcomes arp (ethernetFrame destination source sdu)).run receiver =
      .ok (some handed) received) :
    outcomes.buffer = true ∧ outcomes.networkEvent = true ∧ outcomes.duMemory = true := by
  cases buffer : outcomes.buffer with
  | false =>
      have consider : (eConsiderFrameForProcessing
          (ethernetFrame destination source sdu)).run receiver = .ok .processBuffer receiver :=
        run_considerFrame
      simp only [deliverFrame, xNetworkInterfaceInput, EStateM.run_bind, consider, ne_eq,
        not_true_eq_false, if_false, buffer, run_getNetworkBuffer_false, run_throw] at run
      cases run
  | true =>
      have input := @run_networkInterfaceInput sdu destination source receiver outcomes short buffer
      cases networkEvent : outcomes.networkEvent with
      | false =>
          rw [networkEvent, if_neg Bool.false_ne_true] at input
          rw [deliverFrame, run_bind_ok input] at run
          cases run
      | true =>
          rw [networkEvent, if_pos rfl] at input
          rw [deliverFrame, run_bind_ok input] at run
          cases duMemory : outcomes.duMemory with
          | true => exact ⟨rfl, rfl, rfl⟩
          | false =>
              dsimp only at run
              rw [run_processEthernetPacket short (receiver.buffers.get?_allocate_new _), duMemory,
                if_neg Bool.false_ne_true] at run
              cases run

end Delivery

/-! ## The round trip -/

/-- Receivers get exactly these bytes out of a frame: where they have a buffer, room
for its event and memory for a data unit, and nowhere anything else. -/
structure FrameDelivers (frame sdu : List UInt8) : Prop where
  yields : ∀ (receiver : Node) (outcomes : EthernetRxOutcomes) (arp : ArpProcessing),
    outcomes.buffer = true → outcomes.networkEvent = true → outcomes.duMemory = true →
      ∃ received opened, (deliverFrame outcomes arp frame).run receiver =
          .ok (if outcomes.stackEvent then some receiver.dus.next else none) received ∧
        HandsUp received receiver.dus.next receiver.buffers.next opened sdu
  only : ∀ (receiver received : Node) (outcomes : EthernetRxOutcomes) (arp : ArpProcessing)
    (handed : DuId), (deliverFrame outcomes arp frame).run receiver = .ok (some handed) received →
      ∃ buffer opened, HandsUp received handed buffer opened sdu

theorem frameDelivers (short : sdu.length ≤ 1500) :
    FrameDelivers (ethernetFrame destination source sdu) sdu where
  yields := by
    intro receiver outcomes arp buffer networkEvent duMemory
    obtain ⟨received, run, handsUp⟩ := run_deliverFrame short buffer networkEvent duMemory
    exact ⟨received, _, run, handsUp⟩
  only := by
    intro receiver received outcomes arp handed run
    obtain ⟨buffer, networkEvent, duMemory⟩ := deliverFrame_handsUp short run
    obtain ⟨after, delivered, handsUp⟩ :=
      @run_deliverFrame sdu destination source receiver outcomes arp short buffer networkEvent
        duMemory
    rw [delivered] at run
    injection run with same states
    cases taken : outcomes.stackEvent with
    | false =>
        rw [taken] at same
        cases same
    | true =>
        rw [taken, if_pos rfl] at same
        rw [← Option.some.inj same, ← states]
        exact ⟨_, _, handsUp⟩

/-- The event of a call queues a frame that carries the hardware address of its
flow's destination and that of the node, and every receiver of the frame gets the
bytes `sdu` out of it. -/
def SendsFaithfully (node after : Node) (outcomes : EthernetTxOutcomes) (flows : List WifiFlow)
    (pxData : Option WifiInstanceData) (xId : PortId) (sdu : List UInt8) : Prop :=
  ∃ data flow destination frame sent bytes,
    pxData = some data ∧
      prvShimFindWifiFlowByPortId outcomes.flowMemory xId flows = some flow ∧
      flow.ePortIdState = .allocated ∧ flow.pxDestHa = some destination ∧
      after.events = node.events ++ [.networkTx frame] ∧
      after.buffers.get? frame = some sent ∧ payloadOf sent = some bytes ∧
      bytes.take 6 = destination.xAddress.toBytes ∧
      (bytes.drop 6).take 6 = data.pxPhyDev.toBytes ∧
      FrameDelivers bytes sdu

theorem shimSduWrite_roundTrip {after : Node} {outcomes : EthernetTxOutcomes}
    {flows : List WifiFlow} {pxData : Option WifiInstanceData} {xId : PortId}
    (holds : (readPayload pxDu).run node = .ok sdu node)
    (accepted : (xShimSduWrite outcomes flows pxData xId pxDu).run node = .ok true after) :
    SendsFaithfully node after outcomes flows pxData xId sdu := by
  obtain ⟨du, buffer, descriptor, owns, held⟩ := owns_of_readPayload holds
  obtain ⟨data, flow, destination, queued, frames⟩ := frames_of_sent owns held accepted
  obtain ⟨final, sent, run, isSent⟩ := run_shimSduWrite owns held frames
  rw [run] at accepted
  injection accepted with _ same
  subst same
  obtain ⟨delivered, payload⟩ := isSent queued
  have short : sdu.length ≤ 1500 := by
    have small := frames.short
    rw [UInt32.lt_iff_toNat_lt, ← payloadOf_length held] at small
    exact Nat.le_of_not_lt small
  exact ⟨data, flow, destination, node.buffers.next, sent, _, frames.instanceData, frames.found,
    frames.allocated, frames.resolved, delivered.events, delivered.stored, payload,
    ethernetFrame_destination, ethernetFrame_source, frameDelivers short⟩

theorem size_station : (#[2, 0, 0, 0, 0, 1] : Array UInt8).size = 6 := rfl

/-- An allocated flow of port 1 to a station. -/
def stationFlow : WifiFlow where
  xPortId := 1
  ePortIdState := .allocated
  pxDestHa := some ⟨.macAddr8023, ⟨⟨#[2, 0, 0, 0, 0, 1], size_station⟩⟩⟩
  pxDestPa := none

/-- One byte sent to the station. -/
theorem shimSduWrite_roundTrip_station :
    let node := Node.blank.arrive (outgoingDescriptor ⟨[7], by decide⟩)
    let outcomes : EthernetTxOutcomes := ⟨true, true, true, true⟩
    let pxData : Option WifiInstanceData := some ⟨⟨#v[2, 0, 0, 0, 0, 2]⟩⟩
    ∃ after, (xShimSduWrite outcomes [stationFlow] pxData 1 0).run node = .ok true after ∧
      SendsFaithfully node after outcomes [stationFlow] pxData 1 [7] := by
  have owns := owns_arrive Node.blank (outgoingDescriptor ⟨[7], by decide⟩)
  have held := payloadOf_outgoing ⟨[7], by decide⟩
  have frames : EthernetFrames ⟨true, true, true, true⟩ [stationFlow]
      (some ⟨⟨#v[2, 0, 0, 0, 0, 2]⟩⟩) 1 (outgoingDescriptor ⟨[7], by decide⟩).xDataLength _ _ _ :=
    ⟨rfl, by decide, rfl, rfl, rfl, rfl, rfl⟩
  obtain ⟨after, _, run, -⟩ := run_shimSduWrite owns held frames
  exact ⟨after, run, shimSduWrite_roundTrip (run_readPayload owns held) run⟩

end RinaSense
