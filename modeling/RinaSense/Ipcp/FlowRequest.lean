import RinaSense.Ipcp.EfcpConnection
import RinaSense.Ipcp.RmtReceive

/-!
# Flow requests

How a flow comes to be bound: the prebinding and the connection of a port in
`IPCP_ops.c`, the request of an application and the response of the remote flow
allocator in `flowAllocator.c`.
-/

namespace RinaSense

/-! ## The flows of the normal IPCP -/

/-- Change the first flow of a port. -/
def changeFlow (xPortId : PortId) (change : NormalFlow → NormalFlow) :
    List NormalFlow → List NormalFlow
  | [] => []
  | flow :: flows =>
      if flow.xPortId == xPortId then change flow :: flows
      else flow :: changeFlow xPortId change flows

/-- The memory of a new flow is not cleared; `left` is the CEP id it happens to
hold. -/
def xNormalFlowPrebind (pxData memory : Bool) (left : CepId)
    (pxFlowAllocateHandle : HandleId) : Rina Bool := do
  let handle ← readHandle pxFlowAllocateHandle
  if !pxData then return false
  if !memory then return false
  let core ← readCore
  let flow : NormalFlow := { xPortId := handle.xPortId, eState := .pending, xActive := left }
  writeCore { core with xFlowsList := vRsListInsert core.xFlowsList flow }
  return true

def xNormalConnectionCreateRequest (outcomes : ConnectionOutcomes) (xAppPortId : PortId)
    (xSource xDest : Address) (xQosId : QosId) (pxDtpCfg : Bool) : Rina CepId := do
  let xCepId ← xEfcpConnectionCreate
    { xSrcAddr := xSource
      xDstAddr := xDest
      xPortId := xAppPortId
      xQosId
      xSrcCepId := cepIdWrong
      xDstCepId := cepIdWrong
      pxDtpCfg } outcomes
  if !isCepIdOk xCepId then return cepIdWrong
  return xCepId

/-- Find the flow of a port and change it. -/
def updateFlow (xPortId : PortId) (change : NormalFlow → NormalFlow) : Rina Bool := do
  let core ← readCore
  match prvNormalFindFlow xPortId core.xFlowsList with
  | none => return false
  | some _ =>
      writeCore { core with xFlowsList := changeFlow xPortId change core.xFlowsList }
      return true

def xNormalUpdateCepIdFlow (xPortId : PortId) (xCepId : CepId) : Rina Bool :=
  updateFlow xPortId fun flow => { flow with xActive := xCepId }

def xNormalConnectionModify (xCepId : CepId) (xSrc xDst : Address) : Rina Bool := do
  if !(← readCore).pxEfcpc then return false
  if !(← xEfcpConnectionModify xCepId xSrc xDst) then return false
  return true

def xNormalConnectionUpdate (xAppPortId : PortId) (xSrcCepId xDstCepId : CepId) : Rina Bool := do
  if !(← xEfcpConnectionUpdate xSrcCepId xDstCepId) then return false
  updateFlow xAppPortId fun flow => { flow with eState := .allocated }

/-! ## The flow allocator -/

/-- Put an instance into the first row that is not valid, if there is one. -/
def prvAddFlowRequestEntry (pxFAI : FlowAllocatorInstance) :
    List FlowRequestRow → List FlowRequestRow
  | [] => []
  | row :: rows =>
      if row.xValid = false then { pxFAI := some pxFAI, xValid := true } :: rows
      else row :: prvAddFlowRequestEntry pxFAI rows

/-- `QoS_CUBE_ID`. -/
def qosCubeId : QosId := 3

/-- Outcomes of a flow request: memory for the flow object, for the instance and
for the connection ids, the address of the neighbour that was found, the creation
of the connection, and the encoded create request. -/
structure FlowRequestOutcomes where
  flowMemory : Bool
  faiMemory : Bool
  connectionIdMemory : Bool
  neighbour : Option Address
  connection : ConnectionOutcomes
  message : RibReply

/-- The CEP id is noted in the flow whatever it is, and the request is sent. The
memory obtained is used unchecked. -/
def vFlowAllocatorFlowRequest (outcomes : FlowRequestOutcomes) (xAppPortId : PortId)
    (pxFlowRequest : HandleId) : Rina Unit := do
  if !outcomes.flowMemory then throw .nullPointer
  if !outcomes.faiMemory then throw .nullPointer
  let pxFlowAllocatorInstance : FlowAllocatorInstance :=
    { eFaiState := .none
      xPortId := xAppPortId
      pxFlowAllocatorHandle := pxFlowRequest }
  let core ← readCore
  writeCore { core with
    xFlowRequestTable := prvAddFlowRequestEntry pxFlowAllocatorInstance core.xFlowRequestTable }
  match outcomes.neighbour with
  | none => return ()
  | some xRemoteAddress =>
      let xCepSourceId ← xNormalConnectionCreateRequest outcomes.connection xAppPortId
        localAddress xRemoteAddress qosCubeId true
      let _ ← xNormalUpdateCepIdFlow xAppPortId xCepSourceId
      if !outcomes.connectionIdMemory then throw .nullPointer
      sendReply outcomes.message

/-- The fields of a decoded `flow_t` the handler of create responses reads. -/
structure FlowResponse where
  xDestinationPortId : PortId
  xRemoteAddress : Address
  xSourceAddress : Address
  xSource : CepId
  xDestination : CepId
  deriving Repr, DecidableEq

/-- Change the instance of the first row, which is the one every lookup finds. -/
def changeFirstInstance (change : FlowAllocatorInstance → FlowAllocatorInstance) :
    List FlowRequestRow → List FlowRequestRow
  | [] => []
  | row :: rows => { row with pxFAI := row.pxFAI.map change } :: rows

/-- The handler of the remote flow allocator's answer. There is none to handle when
the object value is missing or cannot be decoded. -/
def xFlowAllocatorHandleCreateR (pxFlow : Option FlowResponse) (result : Int) : Rina Bool := do
  match pxFlow with
  | none => return false
  | some response =>
      if result ≠ 0 then return false
      match ← pxFAFindInstance response.xDestinationPortId with
      | none => return false
      | some pxFAI =>
          if !(← xNormalConnectionModify response.xDestination response.xRemoteAddress
              response.xSourceAddress) then return false
          if !(← xNormalConnectionUpdate response.xDestinationPortId response.xSource
              response.xDestination) then return false
          let core ← readCore
          writeCore { core with
            xFlowRequestTable := changeFirstInstance
              (fun fai => { fai with eFaiState := .allocated }) core.xFlowRequestTable }
          let handle ← readHandle pxFAI.pxFlowAllocatorHandle
          modify fun node =>
            { node with
              handles := node.handles.set pxFAI.pxFlowAllocatorHandle
                { handle with eFlowBound := true } }
          return true

end RinaSense
