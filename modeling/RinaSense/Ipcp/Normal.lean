import RinaSense.Ipcp.Efcp

/-!
# The normal IPCP

Writing data and management data units, as in `IPCP_ops.c`, and the senders above
them: the application interface and the RIB daemon.
-/

namespace RinaSense

def prvNormalFindFlow (xPortId : PortId) (flows : List NormalFlow) : Option NormalFlow :=
  flows.find? fun flow => flow.xPortId == xPortId

/-- Obtain a data unit around a buffer. Its memory is used unchecked. -/
def wrapBuffer (obtained : Bool) (pxNetworkBuffer : BufferId) : Rina DuId := do
  if !obtained then throw .nullPointer
  let node ← get
  let (dus, pxDu) := node.dus.allocate { pxNetworkBuffer := some pxNetworkBuffer, pxPci := none }
  set { node with dus }
  return pxDu

def xNormalDuWrite (outcomes : Outcomes) (xAppPortId : PortId) (pxNetworkBuffer : BufferId) :
    Rina Bool := do
  let pxDu ← wrapBuffer outcomes.duMemory pxNetworkBuffer
  match prvNormalFindFlow xAppPortId (← readCore).xFlowsList with
  | none =>
      let _ ← xDuDestroy pxDu
      return false
  | some pxFlow =>
      if pxFlow.eState ≠ .allocated then
        let _ ← xDuDestroy pxDu
        return false
      xEfcpContainerWrite outcomes pxFlow.xActive pxDu

/-- The header of a management PDU. -/
def mgmtPci (xDataLength : Nat) : Pci where
  ucVersion := 0x01
  connectionId := { xDestination := 0, xQosId := 1, xSource := 0 }
  xDestination := 0
  xFlags := 0
  xType := pduTypeMgmt
  xSequenceNumber := 0
  xPduLen := UInt16.ofNat xDataLength
  xSource := 1

/-- Without an RMT the function returns before it takes charge of the data unit. -/
def xNormalMgmtDuWrite (outcomes : Outcomes) (pxRmt : Option Rmt) (xPortId : PortId)
    (pxDu : DuId) : Rina Bool := do
  if pxRmt.isNone then return false
  if !(← xDuEncap outcomes.encapBuffer pxDu) then
    let _ ← xDuDestroy pxDu
    return false
  let (_, descriptor, _) ← readStorage (← readDu pxDu)
  writePci pxDu (mgmtPci descriptor.xDataLength.toNat)
  if xPortId ≠ 0 then
    xRmtSendPortId outcomes pxDu
  else
    let _ ← xDuDestroy pxDu
    return false

/-- The result of the write is only logged. -/
def vRibdSentCdapMsg (outcomes : Outcomes) (pxNetworkBuffer : BufferId)
    (xN1FlowPortId : PortId) : Rina Unit := do
  let pxRmt := (← readCore).pxRmt
  let pxMessagePDU ← wrapBuffer outcomes.duMemory pxNetworkBuffer
  let descriptor ← readBuffer pxNetworkBuffer
  writeBuffer pxNetworkBuffer { descriptor with ulBoundPort := xN1FlowPortId }
  let _ ← xNormalMgmtDuWrite outcomes pxRmt xN1FlowPortId pxMessagePDU

end RinaSense
