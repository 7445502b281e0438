import RinaSense.Library.Codec
import RinaSense.Rib.Memory

/-!
# Flow messages

The description of a flow that the two flow allocators exchange, its translation
to the structure that goes over the wire and back in `serdesMsg.c`, and what comes
back of a flow. Only the process names, the source port and address, the hop count,
the connection ids and the parameters are written. The decoder leaves what is not
sent as the memory had it.
-/

namespace RinaSense

open Command

/-! ## Flows -/

/-- `struct flowSpec_t`, as far as it is sent. -/
structure FlowSpec where
  xPartialDelivery : Bool
  xOrderedDelivery : Bool
  deriving Repr, DecidableEq

/-- `qosSpec_t`. -/
structure QosSpec where
  pcQosName : Pointer String
  xQosId : QosId
  pxFlowSpec : Pointer FlowSpec
  deriving Repr, DecidableEq

/-- `policy_t`. Its parameters are not sent. -/
structure PolicySet where
  pcPolicyName : Pointer String
  pcPolicyVersion : Pointer String
  deriving Repr, DecidableEq

/-- `dtpConfig_t`, as far as it is sent. -/
structure DtpConfig where
  pxDtpPolicySet : Pointer PolicySet
  xInitialATimer : UInt32
  xDtcpPresent : Bool
  deriving Repr, DecidableEq

/-- `flow_t`, without the fields neither translation touches. The configuration of
the DTCP is not implemented; it is kept whether the pointer is set. -/
structure Flow where
  pxSourceInfo : Pointer (NameInfo (Pointer String))
  pxDestInfo : Pointer (NameInfo (Pointer String))
  ulHopCount : UInt32
  xSourceAddress : Address
  xRemoteAddress : Address
  pxConnectionId : Pointer ConnectionId
  pxQosSpec : Pointer QosSpec
  pxDtpConfig : Pointer DtpConfig
  pxDtcpConfig : Pointer Unit
  xSourcePortId : PortId
  xDestinationPortId : PortId
  deriving Repr, DecidableEq

/-! ## The wire -/

/-- `rina_messages_applicationProcessNamingInfo_t`. -/
structure WireName where
  applicationProcessName : String
  applicationProcessInstance : Option String
  applicationEntityName : Option String
  applicationEntityInstance : Option String
  deriving Repr, DecidableEq

/-- `rina_messages_connectionId_t`. -/
structure WireConnectionId where
  qosId : Option UInt32
  sourceCEPId : Option UInt32
  destinationCEPId : Option UInt32
  deriving Repr, DecidableEq

/-- `rina_messages_qosSpecification_t`, as far as it is set. -/
structure WireQosSpecification where
  name : Option String
  qosid : Option UInt32
  partialDelivery : Option Bool
  order : Option Bool
  deriving Repr, DecidableEq

/-- `rina_messages_dtpConfig_t`. The policy set is filled but not marked as present,
so it is not sent. -/
structure WireDtpConfig where
  dtcpPresent : Option Bool
  initialATimer : Option UInt32
  deriving Repr, DecidableEq

/-- `rina_messages_Flow`. -/
@[ext] structure FlowMessage where
  sourceNamingInfo : WireName
  destinationNamingInfo : WireName
  sourcePortId : UInt64
  destinationPortId : Option UInt64
  sourceAddress : UInt64
  destinationAddress : Option UInt64
  connectionIds : Option WireConnectionId
  qosParameters : Option WireQosSpecification
  dtpConfig : Option WireDtpConfig
  hopCount : Option UInt32
  deriving Repr, DecidableEq

/-- Size of the string fields. -/
def flowTextSize : Nat := 20

/-- A naming information of which only the process name is set. -/
def wireNameOf (applicationProcessName : String) : WireName where
  applicationProcessName
  applicationProcessInstance := none
  applicationEntityName := none
  applicationEntityInstance := none

def fillConnectionId (pxConnectionId : ConnectionId) : WireConnectionId where
  qosId := some pxConnectionId.xQosId.toUInt32
  sourceCEPId := some pxConnectionId.xSource.toUInt32
  destinationCEPId := some pxConnectionId.xDestination.toUInt32

def fillQosParameters (pxQosSpec : Pointer QosSpec) : Except Fault WireQosSpecification := do
  let qosSpec ← pxQosSpec.read
  let name ← strcpy flowTextSize qosSpec.pcQosName
  let flowSpec ← qosSpec.pxFlowSpec.read
  return {
    name := some name
    qosid := some qosSpec.xQosId.toUInt32
    partialDelivery := some flowSpec.xPartialDelivery
    order := some flowSpec.xOrderedDelivery }

def fillDtpConfig (pxDtpConfig : Pointer DtpConfig) : Except Fault WireDtpConfig := do
  let dtpConfig ← pxDtpConfig.read
  let policySet ← dtpConfig.pxDtpPolicySet.read
  let _ ← strcpy flowTextSize policySet.pcPolicyName
  let _ ← strcpy flowTextSize policySet.pcPolicyVersion
  return {
    dtcpPresent := some dtpConfig.xDtcpPresent
    initialATimer := some dtpConfig.xInitialATimer }

/-- Copy the process name of a naming information. -/
def copyProcessName (pxInfo : Pointer (NameInfo (Pointer String))) : Except Fault String := do
  let info ← pxInfo.read
  strcpy flowTextSize info.pcProcessName

/-- The structure `pxSerdesMsgFlowEncode` fills before it calls the codec. -/
def fillFlowMessage (pxMsg : Flow) : Except Fault FlowMessage := do
  let sourceName ← copyProcessName pxMsg.pxSourceInfo
  let destinationName ← copyProcessName pxMsg.pxDestInfo
  let connectionId ← pxMsg.pxConnectionId.read
  let qosParameters ← fillQosParameters pxMsg.pxQosSpec
  let dtpConfig ← fillDtpConfig pxMsg.pxDtpConfig
  return {
    sourceNamingInfo := wireNameOf sourceName
    destinationNamingInfo := wireNameOf destinationName
    sourcePortId := pxMsg.xSourcePortId.toUInt64
    destinationPortId := none
    sourceAddress := pxMsg.xSourceAddress.toUInt64
    destinationAddress := none
    connectionIds := some (fillConnectionId connectionId)
    qosParameters := some qosParameters
    dtpConfig := some dtpConfig
    hopCount := some pxMsg.ulHopCount }

/-- `sizeof(serObjectValue_t)` on the 32-bit target. -/
def serObjectValueSize : Nat := 8

/-- Where the buffer begins in its block: the pointer to the structure is advanced
by as many structures as one has bytes. -/
def flowBufferOffset : Nat := serObjectValueSize * serObjectValueSize

/-- The contents of the serialized value, or `none` for `NULL`. The block has room
for a value and `flowSize` bytes, the size of `rina_messages_Flow`. A part of a flow that is
longer is not written; no flow is (`flow_messages_encoded`). -/
def pxSerdesMsgFlowEncode (codec : Codec FlowMessage) (flowSize : Nat) (memory : Bool)
    (pxMsg : Option Flow) : Except Fault (Option (List UInt8)) := do
  match pxMsg with
  | none => throw .assertion
  | some pxMsg =>
      let message ← fillFlowMessage pxMsg
      if !memory then return none
      match codec.encodeWithin flowSize message with
      | none => return none
      | some bytes =>
          if flowBufferOffset + bytes.length ≤ flowSize + serObjectValueSize then
            return some bytes
          else throw .outOfBounds

/-- The new structures of a decoded flow before anything is set. -/
structure FlowMemory where
  flow : Flow
  pxDestInfo : NameInfo (Pointer String)
  pxSourceInfo : NameInfo (Pointer String)
  pxConnectionId : ConnectionId
  deriving Repr, DecidableEq

def fillName (left : NameInfo (Pointer String)) (name : WireName) : NameInfo (Pointer String) where
  pcProcessName := .target name.applicationProcessName
  pcProcessInstance := left.pcProcessInstance.setFrom name.applicationProcessInstance
  pcEntityName := left.pcEntityName.setFrom name.applicationEntityName
  pcEntityInstance := left.pcEntityInstance.setFrom name.applicationEntityInstance

/-- An array without entries has none of the fields set. -/
def prvFillConnectionId (left : ConnectionId) (connectionIds : Option WireConnectionId) :
    ConnectionId where
  xQosId := ((connectionIds.bind (·.qosId)).map (·.toUInt8)).getD left.xQosId
  xDestination := ((connectionIds.bind (·.destinationCEPId)).map (·.toUInt8)).getD left.xDestination
  xSource := ((connectionIds.bind (·.sourceCEPId)).map (·.toUInt8)).getD left.xSource

def prvSerdesMsgDecodeFlow (left : FlowMemory) (message : FlowMessage) : Flow :=
  { left.flow with
    pxDestInfo := .target (fillName left.pxDestInfo message.destinationNamingInfo)
    pxSourceInfo := .target (fillName left.pxSourceInfo message.sourceNamingInfo)
    pxConnectionId := .target (prvFillConnectionId left.pxConnectionId message.connectionIds)
    xRemoteAddress :=
      (message.destinationAddress.map (·.toUInt8)).getD left.flow.xRemoteAddress
    xDestinationPortId :=
      (message.destinationPortId.map (·.toUInt32)).getD left.flow.xDestinationPortId
    xSourceAddress := message.sourceAddress.toUInt8
    xSourcePortId := message.sourcePortId.toUInt32 }

def pxSerdesMsgDecodeFlow (codec : Codec FlowMessage) (left : FlowMemory)
    (pucBuffer : List UInt8) : Option Flow :=
  (codec.decode pucBuffer).map (prvSerdesMsgDecodeFlow left)

/-! ## Purpose -/

namespace Flow

/-- The strings of the flow that are present fit the fields of the wire. -/
structure Fits (flow : Flow) : Prop where
  source : ∀ name, flow.pxSourceInfo = .target name → name.All (Pointer.Fits flowTextSize)
  destination : ∀ name, flow.pxDestInfo = .target name → name.All (Pointer.Fits flowTextSize)
  qosName : ∀ qosSpec, flow.pxQosSpec = .target qosSpec → qosSpec.pcQosName.Fits flowTextSize
  policy : ∀ dtpConfig policySet, flow.pxDtpConfig = .target dtpConfig →
    dtpConfig.pxDtpPolicySet = .target policySet →
      policySet.pcPolicyName.Fits flowTextSize ∧ policySet.pcPolicyVersion.Fits flowTextSize

/-- The decoded flow has the names, the ports, the addresses and the connection ids
of the flow, and what was absent in it is absent. -/
structure Preserved (flow decoded : Flow) : Prop where
  source : decoded.pxSourceInfo = flow.pxSourceInfo
  destination : decoded.pxDestInfo = flow.pxDestInfo
  sourcePort : decoded.xSourcePortId = flow.xSourcePortId
  destinationPort : decoded.xDestinationPortId = flow.xDestinationPortId
  sourceAddress : decoded.xSourceAddress = flow.xSourceAddress
  remoteAddress : decoded.xRemoteAddress = flow.xRemoteAddress
  connectionId : decoded.pxConnectionId = flow.pxConnectionId
  qosSpec : flow.pxQosSpec = .null → decoded.pxQosSpec = .null
  dtpConfig : flow.pxDtpConfig = .null → decoded.pxDtpConfig = .null
  dtcpConfig : flow.pxDtcpConfig = .null → decoded.pxDtcpConfig = .null

/-- Encoding ends, and the bytes it produces decode to an equal flow. -/
def RoundTrips (flow : Flow) (codec : Codec FlowMessage) (flowSize : Nat) (memory : Bool)
    (left : FlowMemory) : Prop :=
  ∃ encoded, pxSerdesMsgFlowEncode codec flowSize memory (some flow) = .ok encoded ∧
    ∀ bytes, encoded = some bytes →
      ∃ decoded, pxSerdesMsgDecodeFlow codec left bytes = some decoded ∧ flow.Preserved decoded

end Flow

end RinaSense
