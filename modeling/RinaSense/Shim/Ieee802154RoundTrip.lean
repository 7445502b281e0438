import RinaSense.Ipcp.DuRoundTrip
import RinaSense.Shim.Ieee802154Receive

/-!
# IEEE 802.15.4 round trip

What the addressee gets out of the frame of an accepted data unit: the bytes of the
data unit with the last one cleared, as long as the radio takes the frame at all.
-/

namespace RinaSense

open Command

variable {node : Node} {pxDu : DuId} {du : Du} {buffer : BufferId}
  {descriptor : NetworkBufferDescriptor} {sdu : List UInt8}

/-- Bytes with the last one cleared. -/
def lastCleared (bytes : List UInt8) : List UInt8 :=
  if bytes = [] then [] else bytes.dropLast ++ [0]

@[simp] theorem lastCleared_length (bytes : List UInt8) :
    (lastCleared bytes).length = bytes.length := by
  cases bytes with
  | nil => rfl
  | cons byte bytes => simp [lastCleared]

/-- Nothing is lost exactly where the last byte was clear before. -/
theorem lastCleared_eq_iff {bytes : List UInt8} :
    lastCleared bytes = bytes ↔ bytes = [] ∨ bytes.getLast? = some 0 := by
  cases bytes using List.reverseRecOn with
  | nil => simp [lastCleared]
  | append_singleton front last =>
      simp only [lastCleared, List.append_eq_nil_iff, List.cons_ne_nil, and_false, if_false,
        List.dropLast_concat, List.getLast?_append, List.getLast?_singleton, Option.some_or,
        false_or, Option.some.injEq]
      constructor
      · intro same
        exact (List.singleton_inj.mp (List.append_cancel_left same)).symm
      · intro clear
        rw [clear]

/-! ## Sending -/

/-- The frame of a data unit: the length byte, the header and the bytes. -/
def ieee802154Frame (sdu : List UInt8) : List UInt8 :=
  UInt8.ofNat (9 + sdu.length) :: (ieee802154Header ++ sdu)

@[simp] theorem ieee802154Frame_length :
    (ieee802154Frame sdu).length = 10 + sdu.length := by
  simp [ieee802154Frame, ieee802154Header]
  omega

/-- The radio sends a frame up to the length in front of it. -/
theorem radioFrame_block {spare : List UInt8} (short : sdu.length ≤ 127)
    (block : descriptor.pucEthernetBuffer = some (ieee802154Frame sdu ++ spare)) :
    radioFrame descriptor = some (ieee802154Frame sdu) := by
  have length : (UInt8.ofNat (9 + sdu.length)).toNat = 9 + sdu.length :=
    UInt8.toNat_ofNat_of_lt' (by simp only [UInt8.size]; omega)
  have head : (ieee802154Frame sdu ++ spare).head? = some (UInt8.ofNat (9 + sdu.length)) := rfl
  have inside : 9 + sdu.length < (ieee802154Frame sdu ++ spare).length := by
    rw [List.length_append, ieee802154Frame_length]
    omega
  simp only [radioFrame, block, head, Option.bind_eq_bind, Option.bind_some, length, if_pos inside]
  rw [List.take_left' (by rw [ieee802154Frame_length]; omega)]

/-- What is sent of a frame whose last byte is left out of the copy to the cleared
block of the buffer. -/
theorem frame_cut (sdu : List UInt8) :
    (ieee802154Frame sdu).take (9 + sdu.length) ++ [0] = ieee802154Frame (lastCleared sdu) := by
  cases sdu using List.reverseRecOn with
  | nil => rfl
  | append_singleton front last =>
      have cleared : lastCleared (front ++ [last]) = front ++ [0] := by simp [lastCleared]
      have length : (ieee802154Frame front).length = 9 + (front ++ [last]).length := by
        simp [ieee802154Frame, ieee802154Header]
        omega
      have split : ieee802154Frame (front ++ [last]) =
          UInt8.ofNat (9 + (front ++ [last]).length) :: (ieee802154Header ++ front) ++ [last] := by
        simp [ieee802154Frame]
      rw [split, List.take_left' (by simpa [ieee802154Frame] using length), cleared]
      simp [ieee802154Frame]

/-- The conditions under which a frame is made of a data unit of so many bytes. -/
structure Ieee802154Frames (outcomes : Outcomes) (core : Core) (pxData : Bool) (xId : PortId)
    (length : SizeT) (flow : ShimFlow) : Prop where
  instanceData : pxData = true
  short : ¬ ieee802154Mtu < length
  found : prvShimFindFlowByPortId xId core.xShimFlowsList = some flow
  allocated : flow.ePortIdState = .allocated
  buffer : outcomes.shimBuffer = true

/-- The block asked for a frame is clear and longer than the frame. -/
theorem ieee802154_block {length : SizeT} (short : ¬ ieee802154Mtu < length) :
    (hdrLen + length).toNat = 9 + length.toNat ∧ ∃ spare,
      (freshDescriptor (hdrLen + length)).pucEthernetBuffer =
        some (List.replicate (9 + length.toNat) 0 ++ 0 :: spare) := by
  obtain ⟨small, size⟩ := hdrLen_add_toNat short
  have positive : 0 < hdrLen + length := by
    rw [UInt32.lt_iff_toNat_lt, size]
    exact Nat.lt_of_lt_of_le Nat.zero_lt_one (by omega)
  have spare : (storageSize (hdrLen + length)).toNat =
      (9 + length.toNat) + ((storageSize (hdrLen + length)).toNat - (10 + length.toNat) + 1) := by
    rw [storageSize_toNat, size]
    omega
  refine ⟨size, List.replicate ((storageSize (hdrLen + length)).toNat - (10 + length.toNat)) 0, ?_⟩
  rw [freshDescriptor, if_pos positive, ← List.replicate_succ, List.replicate_append_replicate,
    ← spare]

/-- The data unit is accepted if the event queue takes the frame. -/
theorem run_shimIeee802154SduWrite (owns : Owns node pxDu du buffer descriptor)
    (held : payloadOf descriptor = some sdu) {outcomes : Outcomes} {pxData : Bool} {xId : PortId}
    {flow : ShimFlow}
    (frames : Ieee802154Frames outcomes node.core pxData xId descriptor.xDataLength flow) :
    ∃ after sent,
      (xShimIEEE802154SDUWrite outcomes pxData xId pxDu).run node =
        .ok outcomes.networkEvent after ∧
        (outcomes.networkEvent = true → FrameQueued node after node.buffers.next sent ∧
          sent.xDataLength = hdrLen + descriptor.xDataLength ∧
          radioFrame sent = some (ieee802154Frame (lastCleared sdu))) := by
  obtain ⟨size, spare, storage⟩ := ieee802154_block frames.short
  have length := payloadOf_length held
  have other : buffer ≠ node.buffers.next := (Store.lt_next owns.stored).ne
  have beside : Owns { node with buffers := (node.buffers.allocate
      (freshDescriptor (hdrLen + descriptor.xDataLength))).1 } pxDu du buffer descriptor :=
    ⟨owns.held, owns.pointer, (node.buffers.get?_allocate_of_ne _ other).trans owns.stored⟩
  simp only [xShimIEEE802154SDUWrite, frames.instanceData, Bool.not_true, Bool.false_eq_true,
    if_false, EStateM.run_bind, run_readDu owns.held, owns.pointer, run_follow_some,
    run_readBuffer owns.stored, frames.short, run_readCore, frames.found, frames.allocated, ne_eq,
    not_true_eq_false, frames.buffer, run_getNetworkBuffer_true, storage]
  rw [run_readPayload beside held]
  have made : (hdrLen + descriptor.xDataLength).toUInt8 :: (ieee802154Header ++ sdu) =
      ieee802154Frame sdu := by
    have number : (hdrLen + descriptor.xDataLength).toUInt8 = UInt8.ofNat (9 + sdu.length) := by
      apply UInt8.toNat_inj.mp
      rw [UInt32.toNat_toUInt8, UInt8.toNat_ofNat', size, length]
    rw [number]
    rfl
  have cut : ((ieee802154Frame sdu).take (9 + descriptor.xDataLength.toNat)).length =
      9 + descriptor.xDataLength.toNat := by
    rw [List.length_take, ieee802154Frame_length, length]
    omega
  have clear : (List.replicate (9 + descriptor.xDataLength.toNat) (0 : UInt8)).length =
      9 + descriptor.xDataLength.toNat := List.length_replicate
  simp only [made, size]
  rw [run_copyInto_start (by rw [cut, List.length_append, clear]; omega), cut,
    List.drop_left' clear]
  simp only [run_writeBuffer]
  let sent : NetworkBufferDescriptor :=
    { freshDescriptor (hdrLen + descriptor.xDataLength) with
      pucEthernetBuffer := some ((ieee802154Frame sdu).take (9 + descriptor.xDataLength.toNat) ++
        0 :: spare)
      xDataLength := hdrLen + descriptor.xDataLength }
  let buffers := (node.buffers.allocate sent).1
  have filled : Owns { node with buffers } pxDu du buffer descriptor :=
    ⟨owns.held, owns.pointer, (node.buffers.get?_allocate_of_ne sent other).trans owns.stored⟩
  obtain ⟨after, run, handed⟩ := run_handFrame filled (node.buffers.get?_allocate_new sent)
    other.symm outcomes.networkEvent
  have small : sdu.length ≤ 127 := by
    have short := frames.short
    rw [UInt32.lt_iff_toNat_lt, ← length] at short
    exact Nat.le_of_not_lt short
  have block : sent.pucEthernetBuffer =
      some (ieee802154Frame (lastCleared sdu) ++ spare) := by
    rw [← frame_cut, length, List.append_assoc]
    rfl
  rw [Store.set_allocate]
  exact ⟨after, sent, run, fun taken => ⟨⟨(handed taken).stored, (handed taken).events⟩, rfl,
    radioFrame_block (by rwa [lastCleared_length]) block⟩⟩

/-- What an accepted data unit says about the call. -/
theorem ieee802154Frames_of_sent (owns : Owns node pxDu du buffer descriptor)
    {outcomes : Outcomes} {pxData : Bool} {xId : PortId} {after : Node}
    (sent : (xShimIEEE802154SDUWrite outcomes pxData xId pxDu).run node = .ok true after) :
    (payloadOf descriptor).isSome ∧ outcomes.networkEvent = true ∧ ∃ flow,
      Ieee802154Frames outcomes node.core pxData xId descriptor.xDataLength flow := by
  have refused : (do
      let _ ← xDuDestroy pxDu
      return false : Rina Bool).run node ≠ .ok true after := destroyed_not_sent owns
  have accepted := sent
  cases instanceData : pxData with
  | false =>
      rw [instanceData] at sent
      cases sent
  | true =>
      simp only [xShimIEEE802154SDUWrite, instanceData, Bool.not_true, Bool.false_eq_true, if_false,
        EStateM.run_bind, run_readDu owns.held, owns.pointer, run_follow_some,
        run_readBuffer owns.stored] at sent
      by_cases long : ieee802154Mtu < descriptor.xDataLength
      · rw [if_pos long] at sent
        exact (refused sent).elim
      · simp only [if_neg long, EStateM.run_bind, run_readCore] at sent
        cases found : prvShimFindFlowByPortId xId node.core.xShimFlowsList with
        | none =>
            simp only [found] at sent
            exact (refused sent).elim
        | some flow =>
            simp only [found] at sent
            by_cases allocated : flow.ePortIdState = .allocated
            · simp only [allocated, ne_eq, not_true_eq_false, if_false, EStateM.run_bind] at sent
              cases obtained : outcomes.shimBuffer with
              | false =>
                  simp only [obtained, run_getNetworkBuffer_false] at sent
                  exact (refused sent).elim
              | true =>
                  have frames : Ieee802154Frames outcomes node.core pxData xId
                      descriptor.xDataLength flow :=
                    ⟨instanceData, long, found, allocated, obtained⟩
                  cases held : payloadOf descriptor with
                  | some payload =>
                      obtain ⟨_, _, run, -⟩ := run_shimIeee802154SduWrite owns held frames
                      rw [run] at accepted
                      injection accepted with queued
                      exact ⟨rfl, queued, flow, instanceData ▸ frames⟩
                  | none =>
                      obtain ⟨-, spare, storage⟩ := ieee802154_block long
                      have beside : Owns { node with buffers := (node.buffers.allocate
                          (freshDescriptor (hdrLen + descriptor.xDataLength))).1 } pxDu du buffer
                          descriptor :=
                        ⟨owns.held, owns.pointer, (node.buffers.get?_allocate_of_ne _
                          (Store.lt_next owns.stored).ne).trans owns.stored⟩
                      obtain ⟨fault, unheld⟩ := run_readPayload_unheld beside held
                      simp only [obtained, run_getNetworkBuffer_true, storage, EStateM.run_bind,
                        run_follow_some, unheld] at sent
                      cases sent
            · simp only [allocated, ne_eq, not_false_eq_true, if_true] at sent
              exact (refused sent).elim

/-! ## Receiving -/

/-- Take a frame in at a node and make a data unit of it for the normal IPCP. -/
def deliverIeee802154 (outcomes : Ieee802154RxOutcomes) (addresses : RadioAddresses)
    (bytes : List UInt8) : Rina (Option DuId) := do
  match ← espIeee802154ReceiveDone bytes with
  | none => return none
  | some frame =>
      match ← vIeee802154NetworkInterfaceInput outcomes frame with
      | none => return none
      | some pxNetworkBuffer =>
          match ← openIeee802154Packet outcomes addresses pxNetworkBuffer with
          | .error _ => return none
          | .ok pxMessagePdu => return some pxMessagePdu

section Delivery

variable {receiver : Node} {outcomes : Ieee802154RxOutcomes} {addresses : RadioAddresses}

/-- The radio of a receiver drops frames whose length exceeds its own. -/
theorem run_receiveDone (short : sdu.length ≤ 127) :
    (espIeee802154ReceiveDone (ieee802154Frame sdu)).run receiver =
      .ok (if sdu.length ≤ 118 then some (ieee802154Header ++ sdu) else none) receiver := by
  have length : (UInt8.ofNat (9 + sdu.length)).toNat = 9 + sdu.length :=
    UInt8.toNat_ofNat_of_lt' (by simp only [UInt8.size]; omega)
  have positive : UInt8.ofNat (9 + sdu.length) ≠ 0 := by
    intro none
    rw [none] at length
    change 0 = 9 + sdu.length at length
    omega
  have whole : (ieee802154Header ++ sdu).length = 9 + sdu.length := by
    simp [ieee802154Header]
    omega
  simp only [ieee802154Frame, espIeee802154ReceiveDone, positive, if_false, length]
  by_cases fits : sdu.length ≤ 118
  · rw [if_neg (by simp only [ieee802154MaxFrameSize]; omega), if_pos fits, EStateM.run_bind,
      run_copyFrom (by omega), List.drop_zero, ← whole, List.take_length]
    rfl
  · rw [if_pos (by simp only [ieee802154MaxFrameSize]; omega), if_neg fits]
    rfl

theorem run_ieee802154NetworkInterfaceInput {frame : List UInt8} (positive : 0 < frame.length)
    (short : frame.length < 2 ^ 16) (buffer : outcomes.buffer = true) :
    (vIeee802154NetworkInterfaceInput outcomes frame).run receiver =
      .ok (if outcomes.networkEvent then some receiver.buffers.next else none)
        { receiver with buffers := (receiver.buffers.allocate (frameDescriptor frame)).1 } := by
  obtain ⟨narrow, wide⟩ := frame_width short
  simp only [vIeee802154NetworkInterfaceInput, EStateM.run_bind, wide, buffer,
    run_getNetworkBuffer_true, narrow, List.take_length, run_copyFrame positive short,
    run_writeBuffer, Store.set_allocate]
  rfl

/-- The buffer of a frame after the position of its bytes was set. -/
def openedIeee802154 (sdu : List UInt8) : NetworkBufferDescriptor :=
  { frameDescriptor (ieee802154Header ++ sdu) with
    pucRinaBuffer := some 9
    xRinaDataLength := UInt32.ofNat sdu.length }

theorem openedIeee802154_rina (short : sdu.length ≤ 118) :
    (openedIeee802154 sdu).xRinaDataLength.toNat = sdu.length ∧
      rinaOf (openedIeee802154 sdu) = some sdu := by
  have length : (UInt32.ofNat sdu.length).toNat = sdu.length :=
    UInt32.toNat_ofNat_of_lt' (by simp only [UInt32.size]; omega)
  exact ⟨length, rinaOf_block rfl rfl length⟩

/-- What is left of a frame behind its header. -/
theorem rest_of_header (short : sdu.length ≤ 118) :
    ((frameDescriptor (ieee802154Header ++ sdu)).xEthernetDataLength - UInt32.ofNat 9).toUInt16 =
      UInt16.ofNat sdu.length := by
  have whole : (ieee802154Header ++ sdu).length = 9 + sdu.length := by
    simp [ieee802154Header]
    omega
  have size : (UInt32.ofNat (ieee802154Header ++ sdu).length).toNat = 9 + sdu.length := by
    rw [whole]
    exact UInt32.toNat_ofNat_of_lt' (by simp only [UInt32.size]; omega)
  have nine : (UInt32.ofNat 9).toNat = 9 := rfl
  apply UInt16.toNat_inj.mp
  rw [UInt32.toNat_toUInt16, UInt16.toNat_ofNat']
  change (UInt32.ofNat (ieee802154Header ++ sdu).length - UInt32.ofNat 9).toNat % 2 ^ 16 = _
  rw [UInt32.toNat_sub_of_le, size, nine, Nat.add_sub_cancel_left]
  rw [UInt32.le_iff_toNat_le, size, nine]
  exact Nat.le_add_right 9 sdu.length

/-- The header names the short address of the destination. -/
theorem run_readAddressee {storage : List UInt8} {high : UInt8}
    (low : storage[5]? = some 0x02) (zero : storage[6]? = some high) (clear : high = 0x00)
    (addressed : addresses.shortAddress = ieee802154ShortAddressDestination) :
    (readAddressee addresses storage .short).run receiver = .ok (some (.me, 9)) receiver := by
  have joined : (0x00 : UInt8).toUInt16 <<< 8 ||| (0x02 : UInt8).toUInt16 =
      ieee802154ShortAddressDestination := by decide
  subst clear
  simp only [readAddressee, readByte, low, zero, EStateM.run_bind, EStateM.run_pure, joined,
    addressed, if_true]

theorem run_openIeee802154Packet (short : sdu.length ≤ 118) {pxNetworkBuffer : BufferId}
    (stored : receiver.buffers.get? pxNetworkBuffer =
      some (frameDescriptor (ieee802154Header ++ sdu)))
    (addressed : addresses.shortAddress = ieee802154ShortAddressDestination)
    (duMemory : outcomes.duMemory = true) (normalInstance : outcomes.normalInstance = true) :
    (openIeee802154Packet outcomes addresses pxNetworkBuffer).run receiver =
      .ok (.ok receiver.dus.next)
        { receiver with
          buffers := receiver.buffers.set pxNetworkBuffer (openedIeee802154 sdu)
          dus := (receiver.dus.allocate
            { pxNetworkBuffer := some pxNetworkBuffer, pxPci := none }).1 } := by
  have control : MacFcs.ofBytes 0x41 0x88 = ⟨.data, false, .short⟩ := by decide
  have whole : (ieee802154Header ++ sdu).length = 9 + sdu.length := by
    simp [ieee802154Header]
    omega
  obtain ⟨narrow, wide⟩ := @frame_width sdu.length (by omega)
  obtain ⟨slack, block⟩ : ∃ slack,
      (frameDescriptor (ieee802154Header ++ sdu)).pucEthernetBuffer =
        some (ieee802154Header ++ sdu ++ slack) := ⟨_, rfl⟩
  have first : (readByte (ieee802154Header ++ sdu ++ slack) 0).run receiver =
      .ok 0x41 receiver := rfl
  have second : (readByte (ieee802154Header ++ sdu ++ slack) 1).run receiver =
      .ok 0x88 receiver := rfl
  have addressee := @run_readAddressee receiver addresses (ieee802154Header ++ sdu ++ slack) 0x00
    rfl rfl rfl addressed
  have inside : 9 + sdu.length ≤ (ieee802154Header ++ sdu ++ slack).length := by
    rw [List.length_append, whole]
    exact Nat.le_add_right _ _
  simp only [openIeee802154Packet, EStateM.run_bind, run_readBuffer stored, block, run_follow_some,
    first, second, control, Bool.false_eq_true, if_false, addressee, rest_of_header short, narrow,
    wide, run_writeBuffer, run_copyFrom inside, duMemory, normalInstance, Bool.not_true]
  rw [← block]
  rfl

/-- What a receiver needs to take a frame in. -/
structure Ieee802154RxOutcomes.Granted (outcomes : Ieee802154RxOutcomes) : Prop where
  buffer : outcomes.buffer = true
  networkEvent : outcomes.networkEvent = true
  duMemory : outcomes.duMemory = true
  normalInstance : outcomes.normalInstance = true

/-- The addressee hands up the bytes of a frame the radio accepts. -/
theorem run_deliverIeee802154 (short : sdu.length ≤ 127) (granted : outcomes.Granted)
    (addressed : addresses.shortAddress = ieee802154ShortAddressDestination) :
    ∃ received,
      (deliverIeee802154 outcomes addresses (ieee802154Frame sdu)).run receiver =
        .ok (if sdu.length ≤ 118 then some receiver.dus.next else none) received ∧
      (sdu.length ≤ 118 → HandsUp received receiver.dus.next receiver.buffers.next
        (openedIeee802154 sdu) sdu) := by
  have done := @run_receiveDone sdu receiver short
  by_cases fits : sdu.length ≤ 118
  · rw [if_pos fits] at done
    have whole : (ieee802154Header ++ sdu).length = 9 + sdu.length := by
      simp [ieee802154Header]
      omega
    have input := @run_ieee802154NetworkInterfaceInput receiver outcomes
      (ieee802154Header ++ sdu) (by omega) (by omega) granted.buffer
    rw [granted.networkEvent, if_pos rfl] at input
    have opened := @run_openIeee802154Packet sdu
      { receiver with
        buffers := (receiver.buffers.allocate (frameDescriptor (ieee802154Header ++ sdu))).1 }
      outcomes addresses fits receiver.buffers.next (receiver.buffers.get?_allocate_new _)
      addressed granted.duMemory granted.normalInstance
    rw [Store.set_allocate] at opened
    obtain ⟨length, contents⟩ := openedIeee802154_rina fits
    have run : (deliverIeee802154 outcomes addresses (ieee802154Frame sdu)).run receiver = _ :=
      (run_bind_ok done _).trans ((run_bind_ok input _).trans (run_bind_ok opened _))
    rw [if_pos fits]
    exact ⟨_, run, fun _ => ⟨⟨receiver.dus.get?_allocate_new _, rfl,
      receiver.buffers.get?_allocate_new _⟩, length, contents⟩⟩
  · rw [if_neg fits] at done
    rw [if_neg fits]
    exact ⟨receiver, run_bind_ok done _, fun small => absurd small fits⟩

end Delivery

/-! ## The round trip -/

/-- Every addressee of a transmission that has what it needs to take a frame in hands
up exactly the bytes `sdu`. -/
def Ieee802154Delivers (bytes sdu : List UInt8) : Prop :=
  ∀ (receiver : Node) (outcomes : Ieee802154RxOutcomes) (addresses : RadioAddresses),
    outcomes.Granted → addresses.shortAddress = ieee802154ShortAddressDestination →
      ∃ handed received buffer opened,
        (deliverIeee802154 outcomes addresses bytes).run receiver = .ok (some handed) received ∧
          HandsUp received handed buffer opened sdu

/-- The event of a call queues a frame, and what the radio sends of it delivers the
bytes `sdu`. -/
def TransmitsFaithfully (node after : Node) (sdu : List UInt8) : Prop :=
  ∃ frame sent bytes, after.events = node.events ++ [.networkTx frame] ∧
    after.buffers.get? frame = some sent ∧ radioFrame sent = some bytes ∧
    Ieee802154Delivers bytes sdu

theorem ieee802154Delivers_iff (short : sdu.length ≤ 127) :
    Ieee802154Delivers (ieee802154Frame (lastCleared sdu)) sdu ↔
      sdu = [] ∨ (sdu.length ≤ 118 ∧ sdu.getLast? = some 0) := by
  have cleared : (lastCleared sdu).length ≤ 127 := by rwa [lastCleared_length]
  constructor
  · intro delivers
    have granted : (Ieee802154RxOutcomes.mk true true true true).Granted := ⟨rfl, rfl, rfl, rfl⟩
    obtain ⟨handed, received, buffer, opened, run, handsUp⟩ := delivers Node.blank
      ⟨true, true, true, true⟩ ⟨ieee802154ShortAddressDestination, Vector.replicate 8 0⟩ granted rfl
    obtain ⟨after, delivered, holds⟩ := @run_deliverIeee802154 (lastCleared sdu) Node.blank
      ⟨true, true, true, true⟩ ⟨ieee802154ShortAddressDestination, Vector.replicate 8 0⟩ cleared
      granted rfl
    rw [lastCleared_length] at delivered holds
    rw [delivered] at run
    injection run with same states
    subst states
    by_cases fits : sdu.length ≤ 118
    · rw [if_pos fits] at same
      have isHanded := Option.some.inj same
      subst isHanded
      have other := holds fits
      have pointers := Option.some.inj (handsUp.held.symm.trans other.held)
      have buffers : buffer = Node.blank.buffers.next := by
        injection pointers with both
        exact Option.some.inj both
      subst buffers
      have descriptors := Option.some.inj (handsUp.stored.symm.trans other.stored)
      have contents := handsUp.contents
      rw [descriptors, other.contents] at contents
      rcases lastCleared_eq_iff.mp (Option.some.inj contents) with empty | clear
      · exact .inl empty
      · exact .inr ⟨fits, clear⟩
    · rw [if_neg fits] at same
      cases same
  · intro condition receiver outcomes addresses granted addressed
    have fits : sdu.length ≤ 118 := by
      rcases condition with rfl | ⟨fits, -⟩
      · exact Nat.zero_le _
      · exact fits
    have same : lastCleared sdu = sdu := by
      rw [lastCleared_eq_iff]
      exact condition.imp id And.right
    rw [same]
    obtain ⟨received, run, handsUp⟩ := run_deliverIeee802154 short granted addressed
    rw [if_pos fits] at run
    exact ⟨_, received, _, _, run, handsUp fits⟩

/-- Which frame was queued and what the radio makes of it is determined. -/
theorem transmitsFaithfully_iff {after : Node} {frame : BufferId} {sent : NetworkBufferDescriptor}
    {bytes : List UInt8} (queued : FrameQueued node after frame sent)
    (transmitted : radioFrame sent = some bytes) :
    TransmitsFaithfully node after sdu ↔ Ieee802154Delivers bytes sdu := by
  constructor
  · rintro ⟨other, descriptor, others, events, stored, radio, delivers⟩
    have last := List.append_cancel_left (events.symm.trans queued.events)
    injection last with event
    injection event with frames
    subst frames
    have descriptors := Option.some.inj (stored.symm.trans queued.stored)
    rw [descriptors, transmitted] at radio
    exact (Option.some.inj radio) ▸ delivers
  · intro delivers
    exact ⟨frame, sent, bytes, queued.events, queued.stored, transmitted, delivers⟩

/-- A data unit that is accepted reaches its addressee as it was if it is empty, or
if the frame is no longer than the radio of a receiver takes and the last byte of
the data unit is zero. -/
theorem shimIeee802154SduWrite_roundTrip_iff {after : Node} {outcomes : Outcomes} {pxData : Bool}
    {xId : PortId} (holds : (readPayload pxDu).run node = .ok sdu node)
    (accepted : (xShimIEEE802154SDUWrite outcomes pxData xId pxDu).run node = .ok true after) :
    TransmitsFaithfully node after sdu ↔
      sdu = [] ∨ (sdu.length ≤ 118 ∧ sdu.getLast? = some 0) := by
  obtain ⟨du, buffer, descriptor, owns, held⟩ := owns_of_readPayload holds
  obtain ⟨-, queued, flow, frames⟩ := ieee802154Frames_of_sent owns accepted
  obtain ⟨final, sent, run, isSent⟩ := run_shimIeee802154SduWrite owns held frames
  rw [run] at accepted
  injection accepted with _ same
  subst same
  obtain ⟨delivered, -, transmitted⟩ := isSent queued
  have short : sdu.length ≤ 127 := by
    have small := frames.short
    rw [UInt32.lt_iff_toNat_lt, ← payloadOf_length held] at small
    exact Nat.le_of_not_lt small
  rw [← ieee802154Delivers_iff short]
  exact transmitsFaithfully_iff delivered transmitted

/-- A node with an allocated shim flow of port 1 and a data unit to be sent. -/
def sendingNode (payload : Block) : Node :=
  ({ Node.blank with
    core := { Node.blank.core with xShimFlowsList := [⟨1, .allocated⟩] } } : Node).arrive
      (outgoingDescriptor payload)

/-- The data unit of that node is accepted. -/
theorem sendingNode_accepted (payload : Block) (short : payload.val.length ≤ 127) :
    (readPayload 0).run (sendingNode payload) = .ok payload.val (sendingNode payload) ∧
    ∃ after sent,
      (xShimIEEE802154SDUWrite ⟨true, true, true, true, true⟩ true 1 0).run (sendingNode payload) =
        .ok true after ∧
      FrameQueued (sendingNode payload) after (sendingNode payload).buffers.next sent ∧
      sent.xDataLength.toNat = 9 + payload.val.length ∧
      radioFrame sent = some (ieee802154Frame (lastCleared payload.val)) := by
  have owns := owns_arrive ({ Node.blank with
    core := { Node.blank.core with xShimFlowsList := [⟨1, .allocated⟩] } } : Node)
    (outgoingDescriptor payload)
  have held := payloadOf_outgoing payload
  have fits : ¬ ieee802154Mtu < (outgoingDescriptor payload).xDataLength := by
    rw [UInt32.lt_iff_toNat_lt, ← payloadOf_length held]
    exact Nat.not_lt.mpr short
  have frames : Ieee802154Frames ⟨true, true, true, true, true⟩ (sendingNode payload).core true 1
      (outgoingDescriptor payload).xDataLength ⟨1, .allocated⟩ := ⟨rfl, fits, rfl, rfl, rfl⟩
  obtain ⟨after, sent, run, isSent⟩ := run_shimIeee802154SduWrite owns held frames
  obtain ⟨queued, length, transmitted⟩ := isSent rfl
  have size := (ieee802154_block fits).1
  rw [← length, ← payloadOf_length held] at size
  exact ⟨run_readPayload owns held, after, sent, run, queued, size, transmitted⟩

/-- One byte that is zero. -/
theorem shimIeee802154SduWrite_roundTrip_zero :
    ∃ after,
      (xShimIEEE802154SDUWrite ⟨true, true, true, true, true⟩ true 1 0).run
        (sendingNode ⟨[0], by decide⟩) = .ok true after ∧
      (TransmitsFaithfully (sendingNode ⟨[0], by decide⟩) after [0] ↔
        ([0] : List UInt8) = [] ∨
          (([0] : List UInt8).length ≤ 118 ∧ ([0] : List UInt8).getLast? = some 0)) := by
  obtain ⟨holds, after, -, run, -⟩ := sendingNode_accepted ⟨[0], by decide⟩ (by decide)
  exact ⟨after, run, shimIeee802154SduWrite_roundTrip_iff holds run⟩

/-- One byte that is not zero is accepted and never reaches the addressee. -/
theorem last_byte_lost :
    ∃ after,
      (xShimIEEE802154SDUWrite ⟨true, true, true, true, true⟩ true 1 0).run
        (sendingNode ⟨[7], by decide⟩) = .ok true after ∧
      ¬ TransmitsFaithfully (sendingNode ⟨[7], by decide⟩) after [7] := by
  obtain ⟨-, after, sent, run, queued, -, transmitted⟩ :=
    sendingNode_accepted ⟨[7], by decide⟩ (by decide)
  refine ⟨after, run, ?_⟩
  rw [transmitsFaithfully_iff queued transmitted, ieee802154Delivers_iff (by decide)]
  decide

end RinaSense
