import RinaSense.Rib.FlowMessage

/-!
# Flow messages over the wire

Which flows come back equal. What the encoder copies has to be there, and where a
message results, its bytes have to stay in their block and the fields it leaves out
have to be in the memory already.
-/

namespace RinaSense

open Command

/-! ## Condition -/

/-- The message is the one filled for the flow, everything it needs being there. -/
structure Flow.Describes (flow : Flow) (message : FlowMessage) : Prop where
  source : ∃ name text, flow.pxSourceInfo = .target name ∧ name.pcProcessName = .target text ∧
    message.sourceNamingInfo = wireNameOf text
  destination : ∃ name text, flow.pxDestInfo = .target name ∧ name.pcProcessName = .target text ∧
    message.destinationNamingInfo = wireNameOf text
  sourcePort : message.sourcePortId = flow.xSourcePortId.toUInt64
  destinationPort : message.destinationPortId = none
  sourceAddress : message.sourceAddress = flow.xSourceAddress.toUInt64
  destinationAddress : message.destinationAddress = none
  connectionId : ∃ connectionId, flow.pxConnectionId = .target connectionId ∧
    message.connectionIds = some (fillConnectionId connectionId)
  qosSpec : ∃ qosSpec name flowSpec, flow.pxQosSpec = .target qosSpec ∧
    qosSpec.pcQosName = .target name ∧ qosSpec.pxFlowSpec = .target flowSpec ∧
    message.qosParameters = some
      { name := some name
        qosid := some qosSpec.xQosId.toUInt32
        partialDelivery := some flowSpec.xPartialDelivery
        order := some flowSpec.xOrderedDelivery }
  dtpConfig : ∃ dtpConfig policySet name version, flow.pxDtpConfig = .target dtpConfig ∧
    dtpConfig.pxDtpPolicySet = .target policySet ∧ policySet.pcPolicyName = .target name ∧
    policySet.pcPolicyVersion = .target version ∧
    message.dtpConfig = some
      { dtcpPresent := some dtpConfig.xDtcpPresent
        initialATimer := some dtpConfig.xInitialATimer }
  hopCount : message.hopCount = some flow.ulHopCount

/-- The memory holds the components of the name other than the process name. -/
def NameInfo.HeldBy (name left : NameInfo (Pointer String)) : Prop :=
  { left with pcProcessName := name.pcProcessName } = name

/-- The memory holds what is not sent: the other components of the names, the
destination port and the remote address, and no DTCP configuration when the flow has
none. -/
structure Flow.LeftOver (flow : Flow) (left : FlowMemory) : Prop where
  source : ∀ name, flow.pxSourceInfo = .target name → name.HeldBy left.pxSourceInfo
  destination : ∀ name, flow.pxDestInfo = .target name → name.HeldBy left.pxDestInfo
  destinationPort : left.flow.xDestinationPortId = flow.xDestinationPortId
  remoteAddress : left.flow.xRemoteAddress = flow.xRemoteAddress
  dtcpConfig : flow.pxDtcpConfig.Cleared left.flow.pxDtcpConfig

/-- The flows that survive: those of which no bytes result, without memory or with a
codec that fails, and those whose bytes stay in the block and are decoded to memory
that holds the rest. -/
def Flow.Survives (flow : Flow) (codec : Codec FlowMessage) (flowSize : Nat) (memory : Bool)
    (left : FlowMemory) : Prop :=
  ∃ message, flow.Describes message ∧
    ∀ bytes, memory = true → codec.encodeWithin flowSize message = some bytes →
      flowBufferOffset + bytes.length ≤ flowSize + serObjectValueSize ∧ flow.LeftOver left

/-! ## Filling the message -/

section Fill

variable {flow : Flow}

theorem copyProcessName_eq_ok {pxInfo : Pointer (NameInfo (Pointer String))}
    (fits : ∀ name, pxInfo = .target name → name.All (Pointer.Fits flowTextSize))
    {text : String} :
    copyProcessName pxInfo = .ok text ↔
      ∃ name, pxInfo = .target name ∧ name.pcProcessName = .target text := by
  rw [copyProcessName, bind_eq_ok]
  simp only [Pointer.read_eq_ok]
  apply exists_congr
  intro name
  apply and_congr_right
  intro present
  exact strcpy_eq_ok (fits name present).processName

theorem fillQosParameters_eq_ok (fits : flow.Fits) {message : WireQosSpecification} :
    fillQosParameters flow.pxQosSpec = .ok message ↔
      ∃ qosSpec name flowSpec, flow.pxQosSpec = .target qosSpec ∧
        qosSpec.pcQosName = .target name ∧ qosSpec.pxFlowSpec = .target flowSpec ∧
        message =
          { name := some name
            qosid := some qosSpec.xQosId.toUInt32
            partialDelivery := some flowSpec.xPartialDelivery
            order := some flowSpec.xOrderedDelivery } := by
  simp only [fillQosParameters, bind_eq_ok, Pointer.read_eq_ok]
  constructor
  · intro ⟨qosSpec, present, name, copied, flowSpec, read, equal⟩
    have named := (strcpy_eq_ok (fits.qosName qosSpec present)).mp copied
    exact ⟨qosSpec, name, flowSpec, present, named, read, (Except.ok.inj equal).symm⟩
  · intro ⟨qosSpec, name, flowSpec, present, named, read, equal⟩
    have copied := (strcpy_eq_ok (fits.qosName qosSpec present)).mpr named
    exact ⟨qosSpec, present, name, copied, flowSpec, read, by rw [equal]; rfl⟩

theorem fillDtpConfig_eq_ok (fits : flow.Fits) {message : WireDtpConfig} :
    fillDtpConfig flow.pxDtpConfig = .ok message ↔
      ∃ dtpConfig policySet name version, flow.pxDtpConfig = .target dtpConfig ∧
        dtpConfig.pxDtpPolicySet = .target policySet ∧ policySet.pcPolicyName = .target name ∧
        policySet.pcPolicyVersion = .target version ∧
        message =
          { dtcpPresent := some dtpConfig.xDtcpPresent
            initialATimer := some dtpConfig.xInitialATimer } := by
  simp only [fillDtpConfig, bind_eq_ok, Pointer.read_eq_ok]
  constructor
  · intro ⟨dtpConfig, present, policySet, set, name, copied, version, copiedVersion, equal⟩
    have fit := fits.policy dtpConfig policySet present set
    exact ⟨dtpConfig, policySet, name, version, present, set, (strcpy_eq_ok fit.1).mp copied,
      (strcpy_eq_ok fit.2).mp copiedVersion, (Except.ok.inj equal).symm⟩
  · intro ⟨dtpConfig, policySet, name, version, present, set, named, versioned, equal⟩
    have fit := fits.policy dtpConfig policySet present set
    exact ⟨dtpConfig, present, policySet, set, name, (strcpy_eq_ok fit.1).mpr named, version,
      (strcpy_eq_ok fit.2).mpr versioned, by rw [equal]; rfl⟩

theorem fillFlowMessage_eq_ok (fits : flow.Fits) {message : FlowMessage} :
    fillFlowMessage flow = .ok message ↔ flow.Describes message := by
  simp only [fillFlowMessage, bind_eq_ok, Pointer.read_eq_ok, copyProcessName_eq_ok fits.source,
    copyProcessName_eq_ok fits.destination, fillQosParameters_eq_ok fits, fillDtpConfig_eq_ok fits]
  constructor
  · intro ⟨_, ⟨source, hasSource, sourceName⟩, _, ⟨dest, hasDest, destName⟩, id, hasId,
      _, ⟨qosSpec, name, flowSpec, hasQos, named, hasSpec, qos⟩,
      _, ⟨dtpConfig, policySet, policy, version, hasDtp, hasSet, policyNamed, versioned, dtp⟩, equal⟩
    rw [← Except.ok.inj equal, qos, dtp]
    constructor
    · exact ⟨source, _, hasSource, sourceName, rfl⟩
    · exact ⟨dest, _, hasDest, destName, rfl⟩
    · rfl
    · rfl
    · rfl
    · rfl
    · exact ⟨id, hasId, rfl⟩
    · exact ⟨qosSpec, name, flowSpec, hasQos, named, hasSpec, rfl⟩
    · exact ⟨dtpConfig, policySet, policy, version, hasDtp, hasSet, policyNamed, versioned, rfl⟩
    · rfl
  · intro describes
    obtain ⟨source, sourceText, hasSource, sourceName, sourceSent⟩ := describes.source
    obtain ⟨dest, destText, hasDest, destName, destSent⟩ := describes.destination
    obtain ⟨id, hasId, idSent⟩ := describes.connectionId
    obtain ⟨qosSpec, name, flowSpec, hasQos, named, hasSpec, qos⟩ := describes.qosSpec
    obtain ⟨dtpConfig, policySet, policy, version, hasDtp, hasSet, policyNamed, versioned, dtp⟩ :=
      describes.dtpConfig
    refine ⟨sourceText, ⟨source, hasSource, sourceName⟩, destText, ⟨dest, hasDest, destName⟩,
      id, hasId, _, ⟨qosSpec, name, flowSpec, hasQos, named, hasSpec, rfl⟩,
      _, ⟨dtpConfig, policySet, policy, version, hasDtp, hasSet, policyNamed, versioned, rfl⟩, ?_⟩
    apply congrArg Except.ok
    ext1
    · exact sourceSent.symm
    · exact destSent.symm
    · exact describes.sourcePort.symm
    · exact describes.destinationPort.symm
    · exact describes.sourceAddress.symm
    · exact describes.destinationAddress.symm
    · exact idSent.symm
    · exact qos.symm
    · exact dtp.symm
    · exact describes.hopCount.symm

end Fill

/-! ## Decoding what was filled -/

section Decode

variable {flow : Flow} {message : FlowMessage} {left : FlowMemory}

theorem fillName_wireNameOf_iff {name left : NameInfo (Pointer String)} {text : String}
    (named : name.pcProcessName = .target text) :
    fillName left (wireNameOf text) = name ↔ name.HeldBy left := by
  rw [NameInfo.HeldBy, named]
  rfl

theorem prvFillConnectionId_fill (left connectionId : ConnectionId) :
    prvFillConnectionId left (some (fillConnectionId connectionId)) = connectionId := by
  simp [prvFillConnectionId, fillConnectionId]

theorem flow_preserved_iff (describes : flow.Describes message) :
    flow.Preserved (prvSerdesMsgDecodeFlow left message) ↔ flow.LeftOver left := by
  obtain ⟨source, sourceText, hasSource, sourceName, sourceSent⟩ := describes.source
  obtain ⟨dest, destText, hasDest, destName, destSent⟩ := describes.destination
  obtain ⟨id, hasId, idSent⟩ := describes.connectionId
  obtain ⟨qosSpec, _, _, hasQos, _⟩ := describes.qosSpec
  obtain ⟨dtpConfig, _, _, _, hasDtp, _⟩ := describes.dtpConfig
  have decodedPort : (prvSerdesMsgDecodeFlow left message).xDestinationPortId =
      left.flow.xDestinationPortId := by
    rw [prvSerdesMsgDecodeFlow, describes.destinationPort]
    rfl
  have decodedAddress : (prvSerdesMsgDecodeFlow left message).xRemoteAddress =
      left.flow.xRemoteAddress := by
    rw [prvSerdesMsgDecodeFlow, describes.destinationAddress]
    rfl
  have decodedSource : (prvSerdesMsgDecodeFlow left message).pxSourceInfo =
      .target (fillName left.pxSourceInfo (wireNameOf sourceText)) := by
    rw [← sourceSent]
    rfl
  have decodedDest : (prvSerdesMsgDecodeFlow left message).pxDestInfo =
      .target (fillName left.pxDestInfo (wireNameOf destText)) := by
    rw [← destSent]
    rfl
  constructor
  · intro preserved
    constructor
    · intro name present
      have same := preserved.source
      rw [decodedSource, hasSource] at same
      rw [hasSource] at present
      rw [← Pointer.target.inj present]
      exact (fillName_wireNameOf_iff sourceName).mp (Pointer.target.inj same)
    · intro name present
      have same := preserved.destination
      rw [decodedDest, hasDest] at same
      rw [hasDest] at present
      rw [← Pointer.target.inj present]
      exact (fillName_wireNameOf_iff destName).mp (Pointer.target.inj same)
    · exact decodedPort.symm.trans preserved.destinationPort
    · exact decodedAddress.symm.trans preserved.remoteAddress
    · exact preserved.dtcpConfig
  · intro leftOver
    constructor
    · rw [decodedSource, hasSource,
        (fillName_wireNameOf_iff sourceName).mpr (leftOver.source source hasSource)]
    · rw [decodedDest, hasDest,
        (fillName_wireNameOf_iff destName).mpr (leftOver.destination dest hasDest)]
    · rw [prvSerdesMsgDecodeFlow, describes.sourcePort]
      exact UInt32.toUInt32_toUInt64 _
    · exact decodedPort.trans leftOver.destinationPort
    · rw [prvSerdesMsgDecodeFlow, describes.sourceAddress]
      exact UInt8.toUInt8_toUInt64 _
    · exact decodedAddress.trans leftOver.remoteAddress
    · rw [prvSerdesMsgDecodeFlow, idSent, hasId, prvFillConnectionId_fill]
    · intro absent
      rw [hasQos] at absent
      cases absent
    · intro absent
      rw [hasDtp] at absent
      cases absent
    · exact leftOver.dtcpConfig

end Decode

/-! ## Round trips -/

section RoundTrip

variable {codec : Codec FlowMessage} {flowSize : Nat} {memory : Bool} {left : FlowMemory}
  {flow : Flow} {message : FlowMessage}

/-- The value that results once the message is filled. -/
theorem pxSerdesMsgFlowEncode_of_filled (filled : fillFlowMessage flow = .ok message) :
    pxSerdesMsgFlowEncode codec flowSize memory (some flow) =
      if memory then
        match codec.encodeWithin flowSize message with
        | none => .ok none
        | some bytes =>
            if flowBufferOffset + bytes.length ≤ flowSize + serObjectValueSize then
              .ok (some bytes)
            else .error .outOfBounds
      else .ok none := by
  cases memory with
  | false => simp only [pxSerdesMsgFlowEncode, filled, ok_bind]; rfl
  | true => simp only [pxSerdesMsgFlowEncode, filled, ok_bind]; rfl

theorem flow_roundTrips_of_encoded (faithful : codec.Faithful) (describes : flow.Describes message)
    (filled : fillFlowMessage flow = .ok message) {bytes : List UInt8}
    (encoded : codec.encodeWithin flowSize message = some bytes) :
    flow.RoundTrips codec flowSize true left ↔
      flowBufferOffset + bytes.length ≤ flowSize + serObjectValueSize ∧ flow.LeftOver left := by
  have decoded : pxSerdesMsgDecodeFlow codec left bytes =
      some (prvSerdesMsgDecodeFlow left message) := by
    rw [pxSerdesMsgDecodeFlow, faithful.decode_encodeWithin encoded]
    rfl
  have run : pxSerdesMsgFlowEncode codec flowSize true (some flow) =
      if flowBufferOffset + bytes.length ≤ flowSize + serObjectValueSize then .ok (some bytes)
      else .error .outOfBounds := by
    rw [pxSerdesMsgFlowEncode_of_filled filled, if_pos rfl, encoded]
  by_cases inside : flowBufferOffset + bytes.length ≤ flowSize + serObjectValueSize
  · rw [if_pos inside] at run
    constructor
    · intro ⟨result, ended, decodes⟩
      rw [run] at ended
      obtain ⟨other, same, preserved⟩ := decodes bytes (Except.ok.inj ended).symm
      rw [decoded] at same
      rw [← Option.some.inj same] at preserved
      exact ⟨inside, (flow_preserved_iff describes).mp preserved⟩
    · intro ⟨_, leftOver⟩
      refine ⟨some bytes, run, ?_⟩
      intro other produced
      rw [← Option.some.inj produced]
      exact ⟨_, decoded, (flow_preserved_iff describes).mpr leftOver⟩
  · rw [if_neg inside] at run
    constructor
    · intro ⟨result, ended, _⟩
      rw [run] at ended
      cases ended
    · intro ⟨stays, _⟩
      exact absurd stays inside

/-- With a faithful codec exactly the flows named above survive. -/
theorem flowMessage_roundTrips_iff (codec : Codec FlowMessage) (flowSize : Nat) (memory : Bool)
    (left : FlowMemory) (flow : Flow) (faithful : codec.Faithful) (fits : flow.Fits) :
    flow.RoundTrips codec flowSize memory left ↔ flow.Survives codec flowSize memory left := by
  constructor
  · intro trip
    have filled : ∃ message, fillFlowMessage flow = .ok message := by
      obtain ⟨encoded, ended, _⟩ := trip
      simp only [pxSerdesMsgFlowEncode, bind_eq_ok] at ended
      obtain ⟨message, filled, _⟩ := ended
      exact ⟨message, filled⟩
    obtain ⟨message, filled⟩ := filled
    have describes := (fillFlowMessage_eq_ok fits).mp filled
    refine ⟨message, describes, ?_⟩
    intro bytes obtained encoded
    rw [obtained] at trip
    exact (flow_roundTrips_of_encoded faithful describes filled encoded).mp trip
  · intro ⟨message, describes, survives⟩
    have filled := (fillFlowMessage_eq_ok fits).mpr describes
    cases obtained : memory with
    | false =>
        refine ⟨none, ?_, ?_⟩
        · rw [pxSerdesMsgFlowEncode_of_filled filled]
          rfl
        · intro bytes produced
          cases produced
    | true =>
        cases encoded : codec.encodeWithin flowSize message with
        | none =>
            refine ⟨none, ?_, ?_⟩
            · rw [pxSerdesMsgFlowEncode_of_filled filled, encoded]
              rfl
            · intro bytes produced
              cases produced
        | some bytes =>
            exact (flow_roundTrips_of_encoded faithful describes filled encoded).mpr
              (survives bytes obtained encoded)

end RoundTrip

/-! ## A flow request -/

/-- A naming information without components. -/
def initialProcess : NameInfo (Pointer String) where
  pcProcessName := .null
  pcProcessInstance := .null
  pcEntityName := .null
  pcEntityInstance := .null

/-- A flow from port 1 of address 1 to port 7 of address 2. -/
def requestedFlow : Flow where
  pxSourceInfo := .target { initialProcess with pcProcessName := .target "a" }
  pxDestInfo := .target { initialProcess with pcProcessName := .target "b" }
  ulHopCount := 4
  xSourceAddress := 1
  xRemoteAddress := 2
  pxConnectionId := .target { xQosId := 1, xDestination := 0, xSource := 5 }
  pxQosSpec := .target
    { pcQosName := .target "q"
      xQosId := 1
      pxFlowSpec := .target { xPartialDelivery := false, xOrderedDelivery := true } }
  pxDtpConfig := .target
    { pxDtpPolicySet := .target { pcPolicyName := .target "p", pcPolicyVersion := .target "1" }
      xInitialATimer := 0
      xDtcpPresent := false }
  pxDtcpConfig := .null
  xSourcePortId := 1
  xDestinationPortId := 7

/-- The message filled for the flow. -/
def requestedFlowMessage : FlowMessage where
  sourceNamingInfo := wireNameOf "a"
  destinationNamingInfo := wireNameOf "b"
  sourcePortId := 1
  destinationPortId := none
  sourceAddress := 1
  destinationAddress := none
  connectionIds := some { qosId := some 1, sourceCEPId := some 5, destinationCEPId := some 0 }
  qosParameters := some
    { name := some "q", qosid := some 1, partialDelivery := some false, order := some true }
  dtpConfig := some { dtcpPresent := some false, initialATimer := some 0 }
  hopCount := some 4

/-- Its encoding. -/
def requestedFlowBytes : List UInt8 :=
  [0x0a, 0x03, 0x0a, 0x01, 0x61, 0x12, 0x03, 0x0a, 0x01, 0x62, 0x18, 0x01, 0x28, 0x01,
    0x3a, 0x06, 0x08, 0x01, 0x10, 0x05, 0x18, 0x00,
    0x52, 0x09, 0x0a, 0x01, 0x71, 0x10, 0x01, 0x40, 0x00, 0x48, 0x01,
    0x62, 0x04, 0x08, 0x00, 0x38, 0x00, 0x88, 0x01, 0x04]

theorem requestedFlow_fits : requestedFlow.Fits := by
  have name : ∀ text : String, text.utf8ByteSize < flowTextSize →
      ({ initialProcess with pcProcessName := .target text } : NameInfo (Pointer String)).All
        (Pointer.Fits flowTextSize) := by
    intro text short
    refine ⟨⟨nofun, ?_⟩, ⟨nofun, nofun⟩, ⟨nofun, nofun⟩, ⟨nofun, nofun⟩⟩
    intro other equal
    rw [← Pointer.target.inj equal]
    exact short
  constructor
  · intro source equal
    rw [← Pointer.target.inj equal]
    exact name "a" (by decide)
  · intro destination equal
    rw [← Pointer.target.inj equal]
    exact name "b" (by decide)
  · intro qosSpec equal
    rw [← Pointer.target.inj equal]
    refine ⟨nofun, ?_⟩
    intro text named
    rw [← Pointer.target.inj named]
    decide
  · intro dtpConfig policySet equal set
    rw [← Pointer.target.inj equal] at set
    rw [← Pointer.target.inj set]
    refine ⟨⟨nofun, ?_⟩, ⟨nofun, ?_⟩⟩
    all_goals
      intro text named
      rw [← Pointer.target.inj named]
      decide

/-- Memory that holds the flow itself, but for the destination port. -/
def flowMemory (xDestinationPortId : PortId) : FlowMemory where
  flow := { requestedFlow with xDestinationPortId }
  pxDestInfo := initialProcess
  pxSourceInfo := initialProcess
  pxConnectionId := { xQosId := 0, xDestination := 0, xSource := 0 }

theorem flowMessage_roundTrips_requestedFlow :
    requestedFlow.RoundTrips (.single requestedFlowMessage requestedFlowBytes) 1024 true
      (flowMemory 7) := by
  apply (flowMessage_roundTrips_iff _ _ _ _ requestedFlow (Codec.single_faithful _ _)
    requestedFlow_fits).mpr
  refine ⟨requestedFlowMessage, (fillFlowMessage_eq_ok requestedFlow_fits).mp rfl, ?_⟩
  intro bytes _ encoded
  have produced : (Codec.single requestedFlowMessage requestedFlowBytes).encodeWithin 1024
      requestedFlowMessage = some requestedFlowBytes := rfl
  rw [produced] at encoded
  rw [← Option.some.inj encoded]
  refine ⟨by decide, ?_⟩
  constructor
  · intro name equal
    rw [← Pointer.target.inj equal]
    rfl
  · intro name equal
    rw [← Pointer.target.inj equal]
    rfl
  · rfl
  · rfl
  · intro absent
    exact absent

/-- The destination port is not sent. -/
theorem requestedFlow_port_lost :
    (Codec.single requestedFlowMessage requestedFlowBytes).Faithful ∧ requestedFlow.Fits ∧
      ¬ requestedFlow.RoundTrips (.single requestedFlowMessage requestedFlowBytes) 1024 true
        (flowMemory 0) := by
  refine ⟨Codec.single_faithful _ _, requestedFlow_fits, ?_⟩
  rintro ⟨encoded, ended, decodes⟩
  have produced : pxSerdesMsgFlowEncode (.single requestedFlowMessage requestedFlowBytes) 1024 true
      (some requestedFlow) = .ok (some requestedFlowBytes) := by rfl
  rw [produced] at ended
  obtain ⟨decoded, equal, preserved⟩ := decodes requestedFlowBytes (Except.ok.inj ended).symm
  have left : pxSerdesMsgDecodeFlow (.single requestedFlowMessage requestedFlowBytes)
      (flowMemory 0) requestedFlowBytes =
        some (prvSerdesMsgDecodeFlow (flowMemory 0) requestedFlowMessage) := by rfl
  rw [left] at equal
  have port := preserved.destinationPort
  rw [← Option.some.inj equal] at port
  exact absurd port (by decide)

end RinaSense
