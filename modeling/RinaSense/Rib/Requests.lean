import RinaSense.Rib.State

/-!
# Sending CDAP messages

The half of `ribd.c` that sends: connect messages, requests with the callback for
their response, and responses.
-/

namespace RinaSense

open Command

section Sending

variable (codecs : RibCodecs) (outcomes : RibOutcomes)

/-- The message is handed to the RMT. -/
def Rib.vRibdSentCdapMsg (contents : List UInt8) (xN1FlowPortId : PortId) : Rib Unit :=
  modify fun state => { state with sent := state.sent ++ [(xN1FlowPortId, contents)] }

/-- Encode a message and send it, the common end of all functions that send. -/
def encodeAndSend (pxMessageCdap : Option MessageCdap) (xN1FlowPortId : PortId) : Rib Bool := do
  match ← prvRibdEncodeCDAP codecs.cdap outcomes.bufferObtained pxMessageCdap with
  | none => return false
  | some contents =>
      Rib.vRibdSentCdapMsg contents xN1FlowPortId
      return true

/-! ## Connect messages -/

/-- Fill one of the two names of a connect message. The entity instance stays the
initial one. -/
def fillConnectName (name : NameInfo (Pointer String)) :
    Except Fault (NameInfo (Pointer String)) := do
  let pcEntityName ← name.pcEntityName.read
  let pcProcessInstance ← name.pcProcessInstance.read
  let pcProcessName ← name.pcProcessName.read
  return { initialName with
    pcEntityName := .target pcEntityName
    pcProcessInstance := .target pcProcessInstance
    pcProcessName := .target pcProcessName }

def fillConnectMessage (opCode : OpCode) (pxSource pxDestInfo : NameInfo (Pointer String))
    (pxAuth : AuthPolicy (Pointer String)) : Except Fault MessageCdap := do
  let pxDestinationInfo ← fillConnectName pxDestInfo
  let pxSourceInfo ← fillConnectName pxSource
  let pcName ← pxAuth.pcName.read
  let pcVersion ← pxAuth.pcVersion.read
  return { prvRibMessageCdapInit with
    eOpCode := opCode.toCode
    pxDestinationInfo
    pxSourceInfo
    pxAuthPolicy := { pcName := .target pcName, pcVersion := .target pcVersion } }

/-- The connection is in the table before the message is encoded. -/
def connectWith (opCode : OpCode) (pxSource pxDestInfo : NameInfo (Pointer String))
    (xN1flowPortId : PortId) (pxAuth : AuthPolicy (Pointer String)) : Rib Bool := do
  let pxMessageEncode ← fillConnectMessage opCode pxSource pxDestInfo pxAuth
  vRibdPrintCdapMessage (some pxMessageEncode)
  let pxAppConnectionTmp ← prvRibCreateConnection outcomes.connection pxSource pxDestInfo
  vRibdAddAppConnectionEntry pxAppConnectionTmp xN1flowPortId
  encodeAndSend codecs outcomes (some pxMessageEncode) xN1flowPortId

def xRibdConnectToIpcp (pxSource pxDestInfo : NameInfo (Pointer String)) (xN1flowPortId : PortId)
    (pxAuth : AuthPolicy (Pointer String)) : Rib Bool :=
  connectWith codecs outcomes .connect pxSource pxDestInfo xN1flowPortId pxAuth

def xRibdConnectRToIpcp (pxSource pxDestInfo : NameInfo (Pointer String)) (xN1flowPortId : PortId)
    (pxAuth : AuthPolicy (Pointer String)) : Rib Bool :=
  connectWith codecs outcomes .connectR pxSource pxDestInfo xN1flowPortId pxAuth

/-! ## Requests and responses -/

def prvRibdFillCommon (pcObjClass pcObjName : Option String) (objInst : Int) (eOpCode : OpCode)
    (pxObjValue : Option (List UInt8)) : Rib MessageCdap := do
  let invokeID ← getNextInvokeId
  return { prvRibMessageCdapInit with
    invokeID
    eOpCode := eOpCode.toCode
    objInst
    pcObjClass := .ofOption pcObjClass
    pcObjName := .ofOption pcObjName
    pxObjValue := .ofOption pxObjValue }

/-- The class is ignored. -/
def prvRibdFillEnrollMsg (_pcObjClass pcObjName : Option String) (objInst : Int)
    (eOpCode : OpCode) (pxObjValue : Option (List UInt8)) : Rib MessageCdap :=
  prvRibdFillCommon none pcObjName objInst eOpCode pxObjValue

/-- An invoke id is taken and then replaced by that of the request. -/
def prvRibdFillEnrollMsgStop (pcObjClass pcObjName : Option String) (objInst : Int)
    (eOpCode : OpCode) (pxObjValue : Option (List UInt8)) (result invokeID : Int) :
    Rib MessageCdap := do
  let pxMessage ← prvRibdFillEnrollMsg pcObjClass pcObjName objInst eOpCode pxObjValue
  return { pxMessage with invokeID, result }

def prvRibdFillEnrollMsgStart (pcObjClass pcObjName : Option String) (objInst : Int)
    (eOpCode : OpCode) (pxObjValue : Option (List UInt8)) (result invokeID : Int) :
    Rib MessageCdap := do
  let pxMessage ← prvRibdFillEnrollMsg pcObjClass pcObjName objInst eOpCode pxObjValue
  return { pxMessage with invokeID, result }

def prvRibdFillMsgCreate (pcObjClass pcObjName : Option String) (objInst : Int)
    (pxObjValue : Option (List UInt8)) : Rib MessageCdap :=
  prvRibdFillCommon pcObjClass pcObjName objInst .create pxObjValue

def prvRibdFillDeleteMsg (pcObjClass pcObjName : Option String) (objInst : Int)
    (eOpCode : OpCode) (pxObjValue : Option (List UInt8)) : Rib MessageCdap :=
  prvRibdFillCommon pcObjClass pcObjName objInst eOpCode pxObjValue

/-- The message of a request, the four operations that can be requested. -/
def fillRequest (pcObjClass pcObjName : Option String) (objInst : Int) (pxObjVal : Option (List UInt8)) :
    OpCode → Option (Rib MessageCdap)
  | .start => some (prvRibdFillEnrollMsg pcObjClass pcObjName objInst .start pxObjVal)
  | .stop => some (prvRibdFillEnrollMsg pcObjClass pcObjName objInst .stop pxObjVal)
  | .create => some (prvRibdFillMsgCreate pcObjClass pcObjName objInst pxObjVal)
  | .delete => some (prvRibdFillDeleteMsg pcObjClass pcObjName objInst .delete pxObjVal)
  | _ => none

/-- The callback is registered before the message is encoded and stays registered
when that fails. -/
def xRibdSendRequest (pcObjClass pcObjName : Option String) (objInst : Int) (eOpCode : UInt32)
    (xN1flowPortId : PortId) (pxObjVal : Option (List UInt8)) : Rib Bool := do
  let opCode ← match OpCode.ofCode? eOpCode with
    | some opCode => pure opCode
    | none => throw .outOfBounds
  match fillRequest pcObjClass pcObjName objInst pxObjVal opCode with
  | none => return false
  | some fill =>
      let pxMsgCdap ← fill
      let pxCb ← pxRibdCreateCdapCallback outcomes.callback opCode
      vRibdAddResponseHandler pxMsgCdap.invokeID (some pxCb)
      encodeAndSend codecs outcomes (some pxMsgCdap) xN1flowPortId

/-- The message of a response. That of a start is filled and then filled again as that
of a stop; for the other operations there is none. -/
def fillResponse (pcObjClass pcObjName : Option String) (objInst result invokeId : Int)
    (pxObjVal : Option (List UInt8)) : OpCode → Rib (Option MessageCdap)
  | .startR => do
      let _ ← prvRibdFillEnrollMsgStart pcObjClass pcObjName objInst .startR pxObjVal result
        invokeId
      some <$> prvRibdFillEnrollMsgStop pcObjClass pcObjName objInst .startR pxObjVal result
        invokeId
  | .stopR =>
      some <$> prvRibdFillEnrollMsgStop pcObjClass pcObjName objInst .stopR pxObjVal result
        invokeId
  | _ => return none

def xRibdSendResponse (pcObjClass pcObjName : Option String) (objInst result : Int)
    (eOpCode : OpCode) (invokeId : Int) (xN1Port : PortId) (pxObjVal : Option (List UInt8)) :
    Rib Bool := do
  let pxMsgCdap ← fillResponse pcObjClass pcObjName objInst result invokeId pxObjVal eOpCode
  encodeAndSend codecs outcomes pxMsgCdap xN1Port

end Sending

end RinaSense
