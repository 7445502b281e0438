import RinaSense.Rib.Enrollment

/-!
# Handling CDAP messages

The half of `ribd.c` that receives. A message is decoded and printed, the connection
of the port and the object of the message are looked up, and the operation decides
what is done with them.
-/

namespace RinaSense

open Command

/-- Follow a pointer to a row or to what a lookup returned. -/
def deref {α : Type} : Option α → Except Fault α
  | some value => return value
  | none => throw .nullPointer

@[simp] theorem deref_some {α : Type} (value : α) : deref (some value) = .ok value := rfl

@[simp] theorem deref_none {α : Type} : deref (none : Option α) = .error .nullPointer := rfl

theorem deref_eq_ok {α : Type} {row : Option α} {value : α} :
    deref row = .ok value ↔ row = some value := by
  cases row <;> simp

section Handling

variable (codecs : RibCodecs) (outcomes : RibOutcomes)

/-! ## Callbacks and object operations -/

/-- The flow allocator's handler up to the decoded flow. What it does with the flow is
an outcome. -/
def createResponse (pxSerObjValue : Pointer (List UInt8)) (result : Int) : Rib Bool := do
  if pxSerObjValue = .null then return false
  if result ≠ 0 then return false
  let contents ← pxSerObjValue.read
  match codecs.flow.decode contents with
  | none => return false
  | some _ => return outcomes.flowAnswered

/-- The `start` operation of an object. -/
def startObject (pxRibObject : RibObject) (pxObjValue : Pointer (List UInt8))
    (pcRemoteApName : Pointer String) (invokeId : Int) (xN1Port : PortId) : Rib Bool :=
  match pxRibObject.pxObjOps.start with
  | none => throw .released
  | some .enroller => xEnrollmentEnroller codecs outcomes pxObjValue pcRemoteApName xN1Port
  | some .operationalStart =>
      xEnrollmentHandleOperationalStart codecs outcomes pxRibObject pcRemoteApName invokeId xN1Port

/-- The `stop` operation of an object. -/
def stopObject (pxRibObject : RibObject) (pxObjValue : Pointer (List UInt8))
    (pcRemoteApName : Pointer String) (invokeId : Int) (xN1Port : PortId) : Rib Bool :=
  if pxRibObject.pxObjOps.stop then
    xEnrollmentHandleStop codecs outcomes pxRibObject pxObjValue pcRemoteApName invokeId xN1Port
  else throw .released

/-- The `delete` operation of an object, which does nothing and fails. -/
def deleteObject (pxRibObject : RibObject) : Rib Bool :=
  if pxRibObject.pxObjOps.delete then return false else throw .released

/-! ## The cases of the switch -/

/-- A connect without a connection is passed on with the name of the connection. -/
def handleConnect (pxAppConnectionTmp : Option AppConnection) (xN1FlowPortId : PortId) :
    Rib Bool := do
  if pxAppConnectionTmp = none then
    let connection ← deref pxAppConnectionTmp
    let _ ← xEnrollmentHandleConnect codecs outcomes connection.pxDestinationInfo.pcProcessName
      xN1FlowPortId
  return true

/-- The connection of the port takes the name of the peer. -/
def AppConnection.connectedTo (connection : AppConnection) (pcProcessName : Pointer String) :
    AppConnection :=
  { connection with
    pxDestinationInfo := { connection.pxDestinationInfo with pcProcessName }
    xStatus := .connected }

def handleConnectR (pxDecodeCdap : MessageCdap) (pxAppConnectionTmp : Option AppConnection)
    (xN1FlowPortId : PortId) : Rib Bool := do
  let connection ← deref pxAppConnectionTmp
  if connection.xStatus ≠ .inProgress then return true
  let pcProcessName := pxDecodeCdap.pxSourceInfo.pcProcessName
  changeAppConnection xN1FlowPortId fun connection => connection.connectedTo pcProcessName
  let _ ← xEnrollmentHandleConnectR codecs outcomes pcProcessName xN1FlowPortId
  return true

/-- Only a connection that is released already is released. -/
def handleReleaseR (pxAppConnectionTmp : Option AppConnection) (xN1FlowPortId : PortId) :
    Rib Bool := do
  let connection ← deref pxAppConnectionTmp
  if connection.xStatus ≠ .released then return true
  changeAppConnection xN1FlowPortId fun connection => { connection with xStatus := .released }
  return true

def handleCreate (pxDecodeCdap : MessageCdap) : Rib Bool := do
  let _ ← pxRibCreateObject outcomes.objOps pxDecodeCdap.pcObjName pxDecodeCdap.objInst .enrollment
  return true

def handleStop (pxDecodeCdap : MessageCdap) (pxAppConnectionTmp : Option AppConnection)
    (pxRibObject : Option RibObject) (xN1FlowPortId : PortId) : Rib Bool := do
  let object ← deref pxRibObject
  let connection ← deref pxAppConnectionTmp
  let _ ← stopObject codecs outcomes object pxDecodeCdap.pxObjValue
    connection.pxDestinationInfo.pcProcessName pxDecodeCdap.invokeID xN1FlowPortId
  return true

def handleStart (pxDecodeCdap : MessageCdap) (pxAppConnectionTmp : Option AppConnection)
    (pxRibObject : Option RibObject) (xN1FlowPortId : PortId) : Rib Bool := do
  let object ← deref pxRibObject
  let connection ← deref pxAppConnectionTmp
  let _ ← startObject codecs outcomes object pxDecodeCdap.pxObjValue
    connection.pxDestinationInfo.pcProcessName pxDecodeCdap.invokeID xN1FlowPortId
  return true

/-- The callback is used whether it is found or not, and stays registered. -/
def handleStartR (pxDecodeCdap : MessageCdap) (pxAppConnectionTmp : Option AppConnection) :
    Rib Bool := do
  let pxCallback ← pxRibdFindPendingResponseHandler pxDecodeCdap.invokeID
  let connection ← deref pxAppConnectionTmp
  callHandler RibCallbackOps.startResponse pxCallback
  let _ ← xEnrollmentHandleStartR connection.pxDestinationInfo.pcProcessName
    pxDecodeCdap.pxObjValue
  return true

def handleStopR (pxDecodeCdap : MessageCdap) (pxAppConnectionTmp : Option AppConnection) :
    Rib Bool := do
  let pxCallback ← pxRibdFindPendingResponseHandler pxDecodeCdap.invokeID
  let connection ← deref pxAppConnectionTmp
  callHandler RibCallbackOps.stopResponse pxCallback
  let _ ← xEnrollmentHandleStopR connection.pxDestinationInfo.pcProcessName
  return true

/-- A response to a create request, alone or in an a_data object. -/
def respondCreate (pxDecodeCdap : MessageCdap) : Rib Bool := do
  let pxCallback ← pxRibdFindPendingResponseHandler pxDecodeCdap.invokeID
  callHandler RibCallbackOps.createResponse pxCallback
  createResponse codecs outcomes pxDecodeCdap.pxObjValue pxDecodeCdap.result

def handleCreateR (pxDecodeCdap : MessageCdap) : Rib Bool := do
  let _ ← respondCreate codecs outcomes pxDecodeCdap
  return true

/-- A message inside an a_data object. -/
def prvRibdHandledAData (pxObjValue : Pointer (List UInt8)) : Rib Unit := do
  let contents ← pxObjValue.read
  let decoded := prvRibdDecodeCDAP codecs.cdap outcomes.nested contents
  vRibdPrintCdapMessage decoded
  let pxDecodeCdap ← deref decoded
  let pxRibObject ← pxRibFindObject pxDecodeCdap.pcObjName
  match OpCode.ofCode? pxDecodeCdap.eOpCode with
  | some .createR => do
      let _ ← respondCreate codecs outcomes pxDecodeCdap
  | some .delete => do
      let object ← deref pxRibObject
      let _ ← deleteObject object
  | _ => return ()

def handleWrite (pxDecodeCdap : MessageCdap) : Rib Bool := do
  let objName ← pxDecodeCdap.pcObjName.read
  if objName = "a_data" then
    let contents ← pxDecodeCdap.pxObjValue.read
    let pxADataMsg ← deref (pxSerdesMsgDecodeAData codecs.aData outcomes.aData contents)
    if pxADataMsg.xDestinationAddress = localAddress.toNat then
      prvRibdHandledAData codecs outcomes pxADataMsg.pxMsgCdap
  return true

/-! ## The switch -/

def handleOperation (pxDecodeCdap : MessageCdap) (pxAppConnectionTmp : Option AppConnection)
    (pxRibObject : Option RibObject) (xN1FlowPortId : PortId) : OpCode → Rib Bool
  | .connect => handleConnect codecs outcomes pxAppConnectionTmp xN1FlowPortId
  | .connectR => handleConnectR codecs outcomes pxDecodeCdap pxAppConnectionTmp xN1FlowPortId
  | .releaseR => handleReleaseR pxAppConnectionTmp xN1FlowPortId
  | .create => handleCreate outcomes pxDecodeCdap
  | .stop => handleStop codecs outcomes pxDecodeCdap pxAppConnectionTmp pxRibObject xN1FlowPortId
  | .start => handleStart codecs outcomes pxDecodeCdap pxAppConnectionTmp pxRibObject xN1FlowPortId
  | .startR => handleStartR pxDecodeCdap pxAppConnectionTmp
  | .stopR => handleStopR pxDecodeCdap pxAppConnectionTmp
  | .createR => handleCreateR codecs outcomes pxDecodeCdap
  | .write => handleWrite codecs outcomes pxDecodeCdap
  | .delete => return true
  | _ => return false

/-- The name of an operation outside the table is printed all the same. -/
def vRibHandleMessage (pxDecodeCdap : MessageCdap) (xN1FlowPortId : PortId) : Rib Bool := do
  match OpCode.ofCode? pxDecodeCdap.eOpCode with
  | none => throw .outOfBounds
  | some opCode =>
      let pxAppConnectionTmp ← pxRibdFindAppConnection xN1FlowPortId
      let pxRibObject ← pxRibFindObject pxDecodeCdap.pcObjName
      handleOperation codecs outcomes pxDecodeCdap pxAppConnectionTmp pxRibObject xN1FlowPortId
        opCode

/-- The message is printed before it is known whether there is one. What its handling
returns is ignored. -/
def Rib.xRibdProcessLayerManagementPDU (xN1flowPortId : PortId) (contents : List UInt8) :
    Rib Bool := do
  let pxDecodeCdap := prvRibdDecodeCDAP codecs.cdap outcomes.message contents
  vRibdPrintCdapMessage pxDecodeCdap
  match pxDecodeCdap with
  | none => return false
  | some pxDecodeCdap =>
      let _ ← vRibHandleMessage codecs outcomes pxDecodeCdap xN1flowPortId
      return true

end Handling

end RinaSense
