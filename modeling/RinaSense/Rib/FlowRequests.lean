import RinaSense.Common.RinaName
import RinaSense.Ipcp.FlowRequest
import RinaSense.Rib.Enrollment

/-!
# Requesting a flow from the neighbor

What `vFlowAllocatorFlowRequest` has to do with the neighbor: it is looked up, the
connection is opened to its address, and the description of the flow is sent to it as a
create request. The connection itself is modelled with the flows.
-/

namespace RinaSense

open Command

/-! ## The description of a flow -/

def qosCubeName : String := "unreliable"
def dtpPolicySetName : String := "default"
def dtpPolicySetVersion : String := "0"
def dtpInitialATimer : UInt32 := 300

def prvFlowAllocatorSelectQoSCube : QosSpec where
  pcQosName := .target qosCubeName
  xQosId := qosCubeId
  pxFlowSpec := .target { xPartialDelivery := false, xOrderedDelivery := true }

/-- The fields of a new flow that are set; the others are as the memory had them. -/
def prvFlowAllocatorNewFlow (left : Flow) (pxLocal pxRemote : NameInfo (Pointer String)) : Flow :=
  { left with
    pxSourceInfo := .target pxLocal
    pxDestInfo := .target pxRemote
    ulHopCount := 4
    xSourceAddress := localAddress
    pxQosSpec := .target prvFlowAllocatorSelectQoSCube
    pxDtpConfig := .target
      { pxDtpPolicySet := .target
          { pcPolicyName := .target dtpPolicySetName
            pcPolicyVersion := .target dtpPolicySetVersion }
        xInitialATimer := dtpInitialATimer
        xDtcpPresent := false } }

/-- Size of `flowObj`. -/
def flowObjSize : Nat := 24

/-- What is printed to `flowObj`. -/
def flowKey (xSourceAddress : Address) (xSourcePortId : PortId) : String :=
  "/fa/flows/key=" ++ Nat.repr xSourceAddress.toNat ++ "-" ++ Nat.repr xSourcePortId.toNat

/-- `sprintf` to `flowObj`; the terminating zero needs one of its bytes. -/
def printFlowObj (xSourceAddress : Address) (xSourcePortId : PortId) : Except Fault String :=
  let text := flowKey xSourceAddress xSourcePortId
  if text.utf8ByteSize < flowObjSize then return text else throw .outOfBounds

/-! ## The request -/

/-- What a flow request depends on: memory for the flow and what is hung under it, for the
instance, for the connection ids and for the encoded flow, what the memory of the flow
held, the size of `rina_messages_Flow` and the CEP id of the connection. -/
structure FlowRequestSetup where
  flowMemory : Bool
  faiMemory : Bool
  connectionIdMemory : Bool
  encodeMemory : Bool
  left : Flow
  flowSize : Nat
  xCepSourceId : CepId

section Request

variable (codecs : RibCodecs) (outcomes : RibOutcomes) (setup : FlowRequestSetup)

/-- The flow as it is sent. -/
def requestFlow (xAppPortId : PortId) (pxLocal pxRemote : NameInfo (Pointer String))
    (xRemoteAddress : Address) : Flow :=
  { prvFlowAllocatorNewFlow setup.left pxLocal pxRemote with
    xRemoteAddress
    xSourcePortId := xAppPortId
    pxConnectionId := .target
      { xSource := setup.xCepSourceId
        xQosId := qosCubeId
        xDestination := 0 } }

/-- The end of a flow request. A flow that cannot be encoded is requested without its
description, and what becomes of the object and of the request is ignored. -/
def sendFlowRequest (pxFlow : Flow) (xN1Port : PortId) : Rib Unit := do
  let pxObjVal ← pxSerdesMsgFlowEncode codecs.flow setup.flowSize setup.encodeMemory (some pxFlow)
  let flowObj ← printFlowObj pxFlow.xSourceAddress pxFlow.xSourcePortId
  let _ ← pxRibCreateObject outcomes.objOps (.target flowObj) (-1) .flow
  let _ ← xRibdSendRequest codecs outcomes (some "Flow") (some flowObj) (-1) OpCode.create.toCode
    xN1Port pxObjVal

/-- The neighbor is always the one of `REMOTE_ADDRESS_AP_NAME`, and its address is used
whether it is known or not. -/
def Rib.vFlowAllocatorFlowRequest (xAppPortId : PortId)
    (pxLocal pxRemote : NameInfo (Pointer String)) : Rib Unit := do
  if !setup.flowMemory then throw .nullPointer
  if !setup.faiMemory then throw .nullPointer
  match ← pxEnrollmentFindNeighbor (.target remoteAddressApName) with
  | none => return ()
  | some pxNeighbor =>
      if !setup.connectionIdMemory then throw .nullPointer
      sendFlowRequest codecs outcomes setup
        (requestFlow setup xAppPortId pxLocal pxRemote pxNeighbor.xNeighborAddress)
        pxNeighbor.xN1Port

end Request

end RinaSense
