import RinaSense.Ipcp.Du

/-!
# Encapsulation and decapsulation

What a receiver gets out of the PDU a sender makes of a payload and a header, and
what `xDuDecap` promises to `xRmtReceive` for buffers of any content and length.
-/

namespace RinaSense

/-- Bytes of an object of the 32-bit address space. -/
abbrev Block := { bytes : List UInt8 // bytes.length < 2 ^ 32 }

/-- The buffer of a payload to be sent. -/
def outgoingDescriptor (payload : Block) : NetworkBufferDescriptor where
  pucEthernetBuffer := some payload.val
  pucRinaBuffer := none
  pucDataBuffer := none
  xEthernetDataLength := 0
  xRinaDataLength := 0
  xDataLength := UInt32.ofNat payload.val.length
  ulBoundPort := 0

/-- The buffer of a received frame, with the PDU between what the frame has in
front of it and behind it. -/
def receivedDescriptor (front pdu back : List UInt8) : NetworkBufferDescriptor where
  pucEthernetBuffer := some (front ++ pdu ++ back)
  pucRinaBuffer := some front.length
  pucDataBuffer := none
  xEthernetDataLength := UInt32.ofNat (front ++ pdu ++ back).length
  xRinaDataLength := UInt32.ofNat pdu.length
  xDataLength := 0
  ulBoundPort := 0

/-- Encapsulate a data unit, fill its header and take the bytes to be sent. -/
def encapPdu (obtained : Bool) (pci : Pci) (pxDu : DuId) : Rina (Option (List UInt8)) := do
  if ← xDuEncap obtained pxDu then
    writePci pxDu pci
    return some (← readPayload pxDu)
  else return none

/-- Copy out the user data of a received data unit. -/
def readSdu (pxDu : DuId) : Rina (List UInt8) := do
  let du ← readDu pxDu
  let descriptor ← readBuffer (← follow du.pxNetworkBuffer)
  let pucDataBuffer ← follow descriptor.pucDataBuffer
  copyFrom descriptor.pucEthernetBuffer pucDataBuffer descriptor.xDataLength.toNat

/-- Decapsulate a data unit and take its header and user data. -/
def decapPdu (obtained : Bool) (pxDu : DuId) : Rina (Option (Pci × List UInt8)) := do
  if ← xDuDecap obtained pxDu then return none
  let pci ← readPci pxDu
  return some (pci, ← readSdu pxDu)

section RoundTrip

variable (node : Node) (payload : Block) (pci : Pci)

theorem payloadOf_outgoing : payloadOf (outgoingDescriptor payload) = some payload.val := by
  have length : (UInt32.ofNat payload.val.length).toNat = payload.val.length :=
    UInt32.toNat_ofNat_of_lt payload.property
  simp only [payloadOf, outgoingDescriptor, length]
  split
  · next empty => rw [List.length_eq_zero_iff.mp empty]
  · simp

/-- The bytes sent are the header followed by the payload. -/
theorem run_encapPdu (fits : payload.val.length + 14 ≤ maxRequest) :
    ∃ after, (encapPdu true pci node.dus.next).run (node.arrive (outgoingDescriptor payload)) =
      .ok (some (pci.toBytes ++ payload.val)) after := by
  have owns := owns_arrive node (outgoingDescriptor payload)
  have length : (outgoingDescriptor payload).xDataLength.toNat = payload.val.length :=
    UInt32.toNat_ofNat_of_lt payload.property
  have short : (outgoingDescriptor payload).xDataLength.toNat + 14 ≤ maxRequest := by
    rw [length]
    exact fits
  have encap := run_duEncap owns (payloadOf_outgoing payload) short
  have fill := run_writePci owns ((outgoingDescriptor payload).xDataLength + 14) _
    (List.length_replicate : (List.replicate 14 (0 : UInt8)).length = 14) payload.val pci
  have filled := owns_encapsulate owns ((outgoingDescriptor payload).xDataLength + 14)
    pci.toBytes payload.val
  have size : (pci.toBytes ++ payload.val).length =
      ((outgoingDescriptor payload).xDataLength + 14).toNat := by
    rw [toNat_add_header short, length, List.length_append, Pci.toBytes_length, pciLength,
      Nat.add_comm]
  have sent := run_readPayload filled (payloadOf_encapsulated size)
  rw [encapPdu, Command.run_bind_ok encap, if_pos rfl, Command.run_bind_ok fill,
    Command.run_bind_ok sent]
  exact ⟨_, rfl⟩

/-- Without a buffer of sufficient size no PDU comes out. -/
theorem run_encapPdu_fails {obtained : Bool}
    (fails : obtained = false ∨ maxRequest < payload.val.length + 14) (pdu : List UInt8)
    (after : Node) :
    (encapPdu obtained pci node.dus.next).run (node.arrive (outgoingDescriptor payload)) ≠
      .ok (some pdu) after := by
  have owns := owns_arrive node (outgoingDescriptor payload)
  cases obtained with
  | false =>
      rw [encapPdu, Command.run_bind_ok (run_duEncap_unobtained owns)]
      intro equal
      cases equal
  | true =>
      have large := fails.resolve_left Bool.noConfusion
      have length : (outgoingDescriptor payload).xDataLength.toNat = payload.val.length :=
        UInt32.toNat_ofNat_of_lt payload.property
      obtain ⟨fault, -, run⟩ := run_duEncap_unfit owns (.inr (by rw [length]; exact large))
      rw [encapPdu, Command.run_bind_error run]
      intro equal
      cases equal

variable (front back : List UInt8)

theorem receivedType_received (rest : List UInt8) :
    receivedType (receivedDescriptor front (pci.toBytes ++ rest) back) = some pci.xType := by
  change (front ++ (pci.toBytes ++ rest) ++ back)[front.length + 6]? = some pci.xType
  rw [List.append_assoc, List.getElem?_append_right (Nat.le_add_right _ _),
    Nat.add_sub_cancel_left, List.append_assoc]
  rfl

/-- The node into which a PDU beginning with the header arrived. -/
def arrived (rest : List UInt8) : Node :=
  node.arrive (receivedDescriptor front (pci.toBytes ++ rest) back)

theorem owns_arrived (rest : List UInt8) :
    Owns (arrived node pci front back rest) node.dus.next
      { pxNetworkBuffer := some node.buffers.next, pxPci := none } node.buffers.next
      (receivedDescriptor front (pci.toBytes ++ rest) back) :=
  owns_arrive node _

theorem run_decapPdu_rejected (rest : List UInt8) (rejected : pduTypeIsOk pci.xType = false)
    (obtained : Bool) :
    (decapPdu obtained node.dus.next).run (arrived node pci front back rest) =
      .ok none (arrived node pci front back rest) := by
  have run := run_duDecap_rejected (owns_arrived node pci front back rest)
    (receivedType_received pci front back rest) rejected obtained
  rw [decapPdu, Command.run_bind_ok run]
  rfl

theorem run_decapPdu_unobtained (rest : List UInt8) (accepted : pduTypeIsOk pci.xType) :
    (decapPdu false node.dus.next).run (arrived node pci front back rest) =
      .error .nullPointer (arrived node pci front back rest) := by
  have owns := owns_arrived node pci front back rest
  have run := run_duDecap_unobtained owns (receivedType_received pci front back rest) accepted
  rw [decapPdu, Command.run_bind_ok run, if_neg Bool.false_ne_true,
    Command.run_bind_error (run_readPci_unset owns rfl)]

/-- The user data behind the header of a decapsulated buffer. -/
theorem run_readSdu {after : Node} {pxDu : DuId} {du : Du} {buffer : BufferId}
    (fits : payload.val.length + 14 ≤ maxRequest)
    (owns : Owns after pxDu du buffer
      (decapsulated (receivedDescriptor front (pci.toBytes ++ payload.val) back))) :
    (readSdu pxDu).run after = .ok payload.val after := by
  have length : (decapsulated
      (receivedDescriptor front (pci.toBytes ++ payload.val) back)).xDataLength.toNat =
        payload.val.length := by
    have whole : (UInt32.ofNat (pci.toBytes ++ payload.val).length).toNat =
        payload.val.length + 14 := by
      rw [List.length_append, Pci.toBytes_length, pciLength, Nat.add_comm]
      simp only [maxRequest] at fits
      exact UInt32.toNat_ofNat_of_lt' (show payload.val.length + 14 < 2 ^ 32 by omega)
    change (UInt32.ofNat (pci.toBytes ++ payload.val).length - 14).toNat = _
    rw [UInt32.toNat_sub_of_le, whole]
    · rfl
    · rw [UInt32.le_iff_toNat_le, whole]
      exact Nat.le_add_left 14 _
  have shape : front ++ (pci.toBytes ++ payload.val) ++ back =
      (front ++ pci.toBytes) ++ (payload.val ++ back) := by simp only [List.append_assoc]
  have offset : front.length + 14 = (front ++ pci.toBytes).length := by
    rw [List.length_append, Pci.toBytes_length, pciLength]
  rw [readSdu, Command.run_bind_ok (run_readDu owns.held), owns.pointer,
    Command.run_bind_ok (run_follow_some _), Command.run_bind_ok (run_readBuffer owns.stored),
    length]
  change (copyFrom (some (front ++ (pci.toBytes ++ payload.val) ++ back)) (front.length + 14)
    payload.val.length).run after = _
  rw [shape, offset, run_copyFrom (by simp only [List.length_append]; omega), List.drop_left,
    List.take_left]

/-- With a second buffer the header and the payload are found in the first one. -/
theorem run_decapPdu (fits : payload.val.length + 14 ≤ maxRequest)
    (accepted : pduTypeIsOk pci.xType) :
    ∃ after, (decapPdu true node.dus.next).run (arrived node pci front back payload.val) =
      .ok (some (pci, payload.val)) after := by
  have owns := owns_arrived node pci front back payload.val
  have run := run_duDecap owns (receivedType_received pci front back payload.val) accepted
  have opened := owns_decapsulate owns
  have parsed : headerOf { pxNetworkBuffer := some node.buffers.next, pxPci := some front.length }
      (decapsulated (receivedDescriptor front (pci.toBytes ++ payload.val) back)) = some pci := by
    simp [headerOf, decapsulated, receivedDescriptor, List.append_assoc]
  refine ⟨(arrived node pci front back payload.val).decapsulate node.dus.next
      { pxNetworkBuffer := some node.buffers.next, pxPci := none } node.buffers.next
      (receivedDescriptor front (pci.toBytes ++ payload.val) back), ?_⟩
  rw [decapPdu, Command.run_bind_ok run, if_neg Bool.false_ne_true,
    Command.run_bind_ok (run_readPci opened parsed),
    Command.run_bind_ok (run_readSdu payload pci front back fits opened)]
  rfl

/-! ## The round trip -/

/-- The header and the payload reach the receiver as the sender gave them. -/
def RoundTrips (sender receiver : Node) (encapObtained decapObtained : Bool) : Prop :=
  ∃ pdu sent received,
    (encapPdu encapObtained pci sender.dus.next).run
        (sender.arrive (outgoingDescriptor payload)) = .ok (some pdu) sent ∧
      (decapPdu decapObtained receiver.dus.next).run
        (receiver.arrive (receivedDescriptor front pdu back)) =
          .ok (some (pci, payload.val)) received

theorem roundTrips_iff (sender receiver : Node) (encapObtained decapObtained : Bool) :
    RoundTrips payload pci front back sender receiver encapObtained decapObtained ↔
      (encapObtained = true ∧ payload.val.length + 14 ≤ maxRequest) ∧
        pduTypeIsOk pci.xType = true ∧ decapObtained = true := by
  constructor
  · rintro ⟨pdu, sent, received, encap, decap⟩
    have obtained : encapObtained = true ∧ payload.val.length + 14 ≤ maxRequest := by
      by_contra failed
      refine run_encapPdu_fails sender payload pci ?_ pdu sent encap
      cases encapObtained with
      | false => exact .inl rfl
      | true => exact .inr (Nat.not_le.mp fun fits => failed ⟨rfl, fits⟩)
    obtain ⟨rfl, fits⟩ := obtained
    obtain ⟨after, run⟩ := run_encapPdu sender payload pci fits
    rw [run] at encap
    injection encap with same
    injection same with bytes
    subst bytes
    refine ⟨⟨rfl, fits⟩, ?_⟩
    cases accepted : pduTypeIsOk pci.xType with
    | false =>
        have rejected := run_decapPdu_rejected receiver pci front back payload.val accepted
          decapObtained
        rw [arrived] at rejected
        rw [rejected] at decap
        cases decap
    | true =>
        cases decapObtained with
        | true => exact ⟨rfl, rfl⟩
        | false =>
            have unobtained := run_decapPdu_unobtained receiver pci front back payload.val accepted
            rw [arrived] at unobtained
            rw [unobtained] at decap
            cases decap
  · rintro ⟨⟨rfl, fits⟩, accepted, rfl⟩
    obtain ⟨sent, encap⟩ := run_encapPdu sender payload pci fits
    obtain ⟨received, decap⟩ := run_decapPdu receiver payload pci front back fits accepted
    exact ⟨_, sent, received, encap, decap⟩

end RoundTrip

/-! ## What decapsulation promises -/

/-- What `xRmtReceive` relies on: `xDuDecap` either reports a failure, or the
header pointer is set and the payload is what the header leaves of the PDU. -/
def DecapMeetsContract (node : Node) (descriptor : NetworkBufferDescriptor) (obtained : Bool) :
    Prop :=
  match (xDuDecap obtained node.dus.next).run (node.arrive descriptor) with
  | .ok true _ => True
  | .ok false after => ∃ du opened,
      Owns after node.dus.next du node.buffers.next opened ∧ du.pxPci.isSome ∧
        14 + opened.xDataLength.toNat = descriptor.xRinaDataLength.toNat
  | .error _ _ => False

theorem toNat_sub_header (length : SizeT) :
    14 + (length - 14).toNat = length.toNat ↔ 14 ≤ length.toNat := by
  have limit := length.toNat_lt
  have difference : (length - 14).toNat = (2 ^ 32 - 14 + length.toNat) % 2 ^ 32 :=
    UInt32.toNat_sub length 14
  omega

theorem decapMeetsContract_iff (node : Node) (descriptor : NetworkBufferDescriptor)
    (obtained : Bool) :
    DecapMeetsContract node descriptor obtained ↔
      ∃ xType, receivedType descriptor = some xType ∧
        (pduTypeIsOk xType = false ∨
          obtained = true ∧ 14 ≤ descriptor.xRinaDataLength.toNat) := by
  have owns := owns_arrive node descriptor
  rw [DecapMeetsContract]
  cases received : receivedType descriptor with
  | none =>
      obtain ⟨fault, -, run⟩ := run_duDecap_unreadable owns received obtained
      simp [run]
  | some xType =>
      simp only [Option.some.injEq, exists_eq_left']
      cases accepted : pduTypeIsOk xType with
      | false => simp [run_duDecap_rejected owns received accepted obtained]
      | true =>
          cases obtained with
          | false =>
              rw [run_duDecap_unobtained owns received accepted]
              refine iff_of_false ?_ (by simp)
              rintro ⟨du, opened, owned, pointer, -⟩
              rw [(owns.unique owned).1] at pointer
              cases pointer
          | true =>
              rw [run_duDecap owns received accepted]
              have opened := owns_decapsulate owns
              have pointer : descriptor.pucRinaBuffer.isSome := by
                cases rina : descriptor.pucRinaBuffer with
                | some offset => rfl
                | none => simp [receivedType, rina] at received
              have remainder := toNat_sub_header descriptor.xRinaDataLength
              constructor
              · rintro ⟨du, found, owned, -, length⟩
                rw [(opened.unique owned).2] at length
                exact .inr ⟨rfl, remainder.mp length⟩
              · rintro (rejected | ⟨-, long⟩)
                · cases rejected
                · exact ⟨_, _, opened, pointer, remainder.mpr long⟩

/-! ## Both halves -/

/-- The round trip and the contract, each with the exact condition under which it
holds: buffers of sufficient size on both sides and a known PDU type for the
first, a rejected type or a whole header and a second buffer for the other. -/
theorem encapsulation_iff (payload : Block) (pci : Pci) (front back : List UInt8)
    (sender receiver node : Node) (descriptor : NetworkBufferDescriptor)
    (encapObtained decapObtained obtained : Bool) :
    (RoundTrips payload pci front back sender receiver encapObtained decapObtained ↔
      (encapObtained = true ∧ payload.val.length + 14 ≤ maxRequest) ∧
        pduTypeIsOk pci.xType = true ∧ decapObtained = true) ∧
    (DecapMeetsContract node descriptor obtained ↔
      ∃ xType, receivedType descriptor = some xType ∧
        (pduTypeIsOk xType = false ∨
          obtained = true ∧ 14 ≤ descriptor.xRinaDataLength.toNat)) :=
  ⟨roundTrips_iff payload pci front back sender receiver encapObtained decapObtained,
    decapMeetsContract_iff node descriptor obtained⟩

/-- A node in which nothing has been set up. -/
def Node.blank : Node where
  core :=
    { pxEfcpc := false
      xEfcpcRmt := false
      efcps := .empty
      xEfcpImapTable := xEfcpImapCreate
      pxRmt := none
      xPortIdTable := none
      xShimFlowsList := []
      xFlowRequestTable := []
      xFlowsList := [] }
  buffers := .empty
  dus := .empty
  handles := .empty
  events := []
  sentPdus := []

/-- The header of a data transfer PDU from node 3 to node 1. -/
def dataPduHeader (xSequenceNumber : SeqNum) : Pci where
  ucVersion := 1
  xDestination := 1
  xSource := 3
  connectionId := ⟨1, 1, 1⟩
  xType := pduTypeDt
  xFlags := pduFlagsDataRun
  xPduLen := 15
  xSequenceNumber

/-- A well-formed PDU meets a pool without a free buffer: success is reported and
the header pointer stays unset. -/
theorem decap_unset_header :
    ¬ DecapMeetsContract Node.blank
      (receivedDescriptor [] ((dataPduHeader 1).toBytes ++ [7]) []) false := by
  rw [decapMeetsContract_iff]
  rintro ⟨xType, received, rejected | ⟨obtained, -⟩⟩
  · rw [receivedType_received] at received
    rw [← Option.some.inj received] at rejected
    cases rejected
  · cases obtained

end RinaSense
