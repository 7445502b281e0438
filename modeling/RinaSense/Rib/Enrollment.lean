import RinaSense.Rib.Requests

/-!
# The enrollment

The handlers of `enrollment.c` for the messages of an enrollment. The neighbor is
looked up by the name of the remote application process.
-/

namespace RinaSense

open Command

section Enrollment

variable (codecs : RibCodecs) (outcomes : RibOutcomes)

/-! ## The names of the configuration -/

def normalProcessName : String := "st1.slice1"
def normalProcessInstance : String := "1"
def normalEntityInstance : String := ""
def normalDifName : String := "slice1.DIF"
def remoteAddressApName : String := "st2.slice1"

/-- The name of this IPC process. -/
def normalName : NameInfo (Pointer String) where
  pcProcessName := .target normalProcessName
  pcProcessInstance := .target normalProcessInstance
  pcEntityName := .target managementAe
  pcEntityInstance := .target normalEntityInstance

def difName : NameInfo (Pointer String) where
  pcProcessName := .target normalDifName
  pcProcessInstance := .target ""
  pcEntityName := .target managementAe
  pcEntityInstance := .target ""

def remoteName : NameInfo (Pointer String) where
  pcProcessName := .target remoteAddressApName
  pcProcessInstance := .target normalProcessInstance
  pcEntityName := .target managementAe
  pcEntityInstance := .target normalEntityInstance

def noAuthentication : AuthPolicy (Pointer String) where
  pcName := .target "PSOC_authentication-none"
  pcVersion := .target "1"

/-- The two objects of the enrollment are created; a coordinator connects. -/
def vEnrollmentInit (coordinator : Bool) (xN1PortId : PortId) : Rib Unit := do
  let _ ← pxRibCreateObject outcomes.objOps (.target "/difm/enr") 0 .enrollment
  let _ ← pxRibCreateObject outcomes.objOps (.target "/difm/ops") 1 .operational
  if coordinator then
    let _ ← xRibdConnectToIpcp codecs outcomes normalName difName xN1PortId noAuthentication

/-! ## Handlers -/

/-- Find the neighbor, or create it if it is not known. -/
def findOrCreateNeighbor (pcRemoteApName : Pointer String) (xN1Port : PortId) :
    Rib NeighborInfo := do
  match ← pxEnrollmentFindNeighbor pcRemoteApName with
  | some pxNeighborInfo => return pxNeighborInfo
  | none => pxEnrollmentCreateNeighInfo pcRemoteApName xN1Port

/-- Without a name the address is 0; that of a neighbor that is not known is taken to be 3. -/
def xEnrollmentGetNeighborAddress (pcRemoteApName : Pointer String) : Rib Address := do
  if pcRemoteApName = .null then return 0
  match ← pxEnrollmentFindNeighbor pcRemoteApName with
  | some pxNeighbor => return pxNeighbor.xNeighborAddress
  | none => return 3

/-- Only a neighbor in progress is looked at: its address is taken from the message.
The response is encoded but not sent. -/
def xEnrollmentEnroller (pxObjValue : Pointer (List UInt8)) (pcRemoteApName : Pointer String)
    (xN1Port : PortId) : Rib Bool := do
  let pxNeighborInfo ← findOrCreateNeighbor pcRemoteApName xN1Port
  match pxNeighborInfo.eEnrollmentState with
  | .inProgress =>
      let contents ← pxObjValue.read
      match pxSerdesMsgEnrollmentDecode codecs.enrollment outcomes.enrollment contents with
      | none => throw .nullPointer
      | some pxEnrollmentMsg =>
          changeNeighbor pxNeighborInfo.pcApName fun neighbor =>
            { neighbor with xNeighborAddress := pxEnrollmentMsg.ullAddress.toUInt8 }
          return true
  | _ => return true

/-- Whatever the state of the neighbor, it is in progress then. -/
def putInProgress (pcRemoteApName : Pointer String) (xN1Port : PortId) : Rib Unit := do
  let pxNeighbor ← findOrCreateNeighbor pcRemoteApName xN1Port
  changeNeighbor pxNeighbor.pcApName fun neighbor =>
    { neighbor with eEnrollmentState := .inProgress }

/-- The outcome of sending the response is ignored. -/
def xEnrollmentHandleConnect (pcRemoteApName : Pointer String) (xN1Port : PortId) : Rib Bool := do
  putInProgress pcRemoteApName xN1Port
  let _ ← xRibdConnectRToIpcp codecs outcomes normalName remoteName xN1Port noAuthentication
  return true

def xEnrollmentHandleConnectR (pcRemoteApName : Pointer String) (xN1Port : PortId) : Rib Bool := do
  putInProgress pcRemoteApName xN1Port
  let pxObjVal := pxSerdesMsgEnrollmentEncode codecs.enrollment localAddress.toUInt64
  if !(← xRibdSendRequest codecs outcomes (some "Enrollment") (some "/difm/enr") (-1)
      OpCode.start.toCode xN1Port pxObjVal) then
    return false
  return true

/-- The handling is commented out. -/
def xEnrollmentHandleStartR (_pcRemoteApName : Pointer String)
    (_pxSerObjValue : Pointer (List UInt8)) : Rib Bool :=
  return true

def xEnrollmentHandleStopR (pcRemoteApName : Pointer String) : Rib Bool := do
  if pcRemoteApName = .null then return false
  match ← pxEnrollmentFindNeighbor pcRemoteApName with
  | none => return false
  | some _ => return true

/-- The end of the handler of a stop: the token is stored and the answer sent. -/
def answerStop (pxEnrRibObj : RibObject) (pcApName : String) (pcToken : Pointer String)
    (invokeId : Int) (xN1Port : PortId) : Rib Bool := do
  changeNeighbor pcApName fun neighbor => { neighbor with pcToken }
  if !(← xRibdSendResponse codecs outcomes none (some pxEnrRibObj.ucObjName)
      pxEnrRibObj.ulObjInst 0 .stopR invokeId xN1Port none) then
    return false
  return true

/-- The neighbor is enrolled before the message is decoded, and the decoded message
is used whether there is one or not. -/
def xEnrollmentHandleStop (pxEnrRibObj : RibObject) (pxSerObjectValue : Pointer (List UInt8))
    (pcRemoteApName : Pointer String) (invokeId : Int) (xN1Port : PortId) : Rib Bool := do
  match ← pxEnrollmentFindNeighbor pcRemoteApName with
  | none => return false
  | some pxNeighborInfo =>
      changeNeighbor pxNeighborInfo.pcApName fun neighbor =>
        { neighbor with eEnrollmentState := .enrolled }
      let contents ← pxSerObjectValue.read
      match pxSerdesMsgEnrollmentDecode codecs.enrollment outcomes.enrollment contents with
      | none => throw .nullPointer
      | some pxEnrollmentMsg =>
          answerStop codecs outcomes pxEnrRibObj pxNeighborInfo.pcApName pxEnrollmentMsg.pcToken
            invokeId xN1Port

/-- A neighbor that is not known is used all the same. -/
def xEnrollmentHandleOperationalStart (pxOperRibObj : RibObject) (pcRemoteApName : Pointer String)
    (invokeId : Int) (xN1Port : PortId) : Rib Bool := do
  match ← pxEnrollmentFindNeighbor pcRemoteApName with
  | none => throw .nullPointer
  | some pxNeighborInfo =>
      let pxSerObjValue ← pxSerdesMsgNeighborEncode codecs.neighbor
        { outcomes.neighbor with
          pcApName := .target normalProcessName
          pcApInstance := .target normalProcessInstance
          pcAeName := .target managementAe
          pcAeInstance := pxNeighborInfo.pcToken }
      if !(← xRibdSendResponse codecs outcomes none (some pxOperRibObj.ucObjName)
          pxOperRibObj.ulObjInst 0 .startR invokeId xN1Port pxSerObjValue) then
        return false
      return true

end Enrollment

end RinaSense
