import RinaSense.Ipcp.FlowAllocator
import RinaSense.Ipcp.Rmt

/-!
# EFCP

The path of data units through the EFCP container and its DTP instances, in both
directions, as in `efcp.c` and `dtp.c`. A data unit whose source and destination
address agree is looped back into the container.
-/

namespace RinaSense

/-- `pxEfcpImapFind` on the table of the node. -/
def efcpImapFind (xCepId : CepId) : Rina (Option EfcpId) := do
  let core ← readCore
  let (xEfcpImapTable, found) := pxEfcpImapFind xCepId core.xEfcpImapTable
  writeCore { core with xEfcpImapTable }
  return found

/-- The tables after a lookup of a CEP id. -/
def Core.lookUp (core : Core) (xCepId : CepId) : Core :=
  { core with xEfcpImapTable := (pxEfcpImapFind xCepId core.xEfcpImapTable).1 }

theorem run_efcpImapFind (xCepId : CepId) (node : Node) :
    (efcpImapFind xCepId).run node =
      .ok (pxEfcpImapFind xCepId node.core.xEfcpImapTable).2
        { node with core := node.core.lookUp xCepId } := rfl

/-- Store a state vector in the DTP instance. -/
def Efcp.withStateVector (efcp : Efcp) (dtp : Dtp) (pxDtpStateVector : DtpSv) : Efcp :=
  { efcp with pxDtp := some { dtp with pxDtpStateVector } }

/-! ## Receiving -/

def xEfcpEnqueue (xPort : PortId) (pxDu : DuId) : Rina Bool :=
  xFlowAllocatorDuPost xPort pxDu

def xDtpPduPost (pxEfcp : EfcpId) (pxDu : DuId) : Rina Bool := do
  let pxConnection ← follow (← readEfcp pxEfcp).pxConnection
  xEfcpEnqueue pxConnection.xPortId pxDu

/-- The state vector decides; see `DtpSv.receive`. -/
def xDtpReceive (pxEfcp : EfcpId) (pxDu : DuId) : Rina Bool := do
  let efcp ← readEfcp pxEfcp
  let pxDtp ← follow efcp.pxDtp
  let pci ← readPci pxDu
  let (pxDtpStateVector, verdict, result) := pxDtp.pxDtpStateVector.receive pci
  writeEfcp pxEfcp (efcp.withStateVector pxDtp pxDtpStateVector)
  match verdict with
  | .post => let _ ← xDtpPduPost pxEfcp pxDu
  | .destroy => let _ ← xDuDestroy pxDu
  return result

/-- Control PDUs are accepted when there is a DTCP instance, but nothing is done
with them. -/
def xEfcpReceive (pxEfcp : EfcpId) (pxDu : DuId) : Rina Bool := do
  let pci ← readPci pxDu
  if pduTypeIsControl pci.xType then
    let efcp ← readEfcp pxEfcp
    if !(efcp.pxDtp.any Dtp.pxDtcp) then
      let _ ← xDuDestroy pxDu
      return false
    return true
  xDtpReceive pxEfcp pxDu

/-- The test meant to find a destination CEP id that is not set yet overwrites the
one that is, with the id of this end. -/
def Connection.noteReceived (connection : Connection) (pci : Pci) : Connection :=
  if connection.xDestinationCepId != cepIdWrong then
    { connection with xDestinationCepId := pci.connectionId.xDestination }
  else connection

def xEfcpContainerReceive (xCepId : CepId) (pxDu : DuId) : Rina Bool := do
  if !isCepIdOk xCepId then
    let _ ← xDuDestroy pxDu
    return false
  match ← efcpImapFind xCepId with
  | none =>
      let _ ← xDuDestroy pxDu
      return false
  | some pxEfcp =>
      let efcp ← readEfcp pxEfcp
      if efcp.xState = .deallocated then
        let _ ← xDuDestroy pxDu
        return true
      let pci ← readPci pxDu
      if pci.xType = pduTypeDt then
        let connection ← follow efcp.pxConnection
        writeEfcp pxEfcp { efcp with pxConnection := some (connection.noteReceived pci) }
      xEfcpReceive pxEfcp pxDu

/-! ## Writing -/

/-- In the loopback case the result of the container is read the wrong way
round. -/
def xDtpPduSend (outcomes : Outcomes) (pxEfcp : EfcpId) (pxDu : DuId) : Rina Bool := do
  let pci ← readPci pxDu
  let efcp ← readEfcp pxEfcp
  let pxDtp ← follow efcp.pxDtp
  if pci.xSource ≠ pci.xDestination then
    xRmtSend outcomes pxDtp.pxRmt pxDu
  else
    let destCepId := pci.connectionId.xDestination
    if !efcp.pxEfcpContainer then
      let _ ← xDuDestroy pxDu
      return false
    if ← xDuDecap outcomes.decapBuffer pxDu then
      let _ ← xDuDestroy pxDu
      return false
    if !xDuIsOk (← readDu pxDu) then
      let _ ← xDuDestroy pxDu
      return false
    if ← xEfcpContainerReceive destCepId pxDu then return false
    return true

def xDtpWrite (outcomes : Outcomes) (pxEfcp : EfcpId) (pxDu : DuId) : Rina Bool := do
  let efcp ← readEfcp pxEfcp
  let pxDtp ← follow efcp.pxDtp
  if !(← xDuEncap outcomes.encapBuffer pxDu) then
    let _ ← xDuDestroy pxDu
    return false
  let pxConnection ← follow efcp.pxConnection
  let (_, descriptor, _) ← readStorage (← readDu pxDu)
  let (pxDtpStateVector, pci) :=
    pxDtp.pxDtpStateVector.write pxConnection descriptor.xDataLength.toNat
  writeEfcp pxEfcp (efcp.withStateVector pxDtp pxDtpStateVector)
  writePci pxDu pci
  if !(← xPciIsOk pxDu) then
    let _ ← xDuDestroy pxDu
    return false
  xDtpPduSend outcomes pxEfcp pxDu

def xEfcpWrite (outcomes : Outcomes) (pxEfcp : EfcpId) (pxDu : DuId) : Rina Bool :=
  xDtpWrite outcomes pxEfcp pxDu

def xEfcpContainerWrite (outcomes : Outcomes) (xCepId : CepId) (pxDu : DuId) : Rina Bool := do
  if !isCepIdOk xCepId then
    let _ ← xDuDestroy pxDu
    return false
  if !(← readCore).pxEfcpc then throw .nullPointer
  match ← efcpImapFind xCepId with
  | none =>
      let _ ← xDuDestroy pxDu
      return false
  | some pxEfcp =>
      let efcp ← readEfcp pxEfcp
      if efcp.xState = .deallocated then
        let _ ← xDuDestroy pxDu
        return false
      xEfcpWrite outcomes pxEfcp pxDu

end RinaSense
