import RinaSense.Library.Codec
import RinaSense.Rib.Memory

/-!
# CDAP messages

The messages of the RIB daemon, the structure that goes over the wire and the two
translations between them in `ribd.c`. The integers have the same width on both
sides. The bytes of the structure are left to a codec.
-/

namespace RinaSense

/-! ## Operation codes -/

/-- `opCode_t`. -/
inductive OpCode where
  | connect | connectR
  | release | releaseR
  | create | createR
  | delete | deleteR
  | read | readR
  | cancelRead | cancelReadR
  | write | writeR
  | start | startR
  | stop | stopR
  deriving Repr, DecidableEq

namespace OpCode

/-- The codes in their order. -/
def codes : List OpCode :=
  [.connect, .connectR, .release, .releaseR, .create, .createR, .delete, .deleteR, .read, .readR,
    .cancelRead, .cancelReadR, .write, .writeR, .start, .startR, .stop, .stopR]

def toCode : OpCode → UInt32
  | .connect => 0
  | .connectR => 1
  | .release => 2
  | .releaseR => 3
  | .create => 4
  | .createR => 5
  | .delete => 6
  | .deleteR => 7
  | .read => 8
  | .readR => 9
  | .cancelRead => 10
  | .cancelReadR => 11
  | .write => 12
  | .writeR => 13
  | .start => 14
  | .startR => 15
  | .stop => 16
  | .stopR => 17

/-- The operation of a code, if it is not above `MAX_CDAP_OPCODE`. -/
def ofCode? (code : UInt32) : Option OpCode := codes[code.toNat]?

/-- The entry of `opcodeNamesTable`. -/
def name : OpCode → String
  | .connect => "M_CONNECT"
  | .connectR => "M_CONNECT_R"
  | .release => "M_RELEASE"
  | .releaseR => "M_RELEASE_R"
  | .create => "M_CREATE"
  | .createR => "M_CREATE_R"
  | .delete => "M_DELETE"
  | .deleteR => "M_DELETE_R"
  | .read => "M_READ"
  | .readR => "M_READ_R"
  | .cancelRead => "M_CANCELREAD"
  | .cancelReadR => "M_CANCELREAD_R"
  | .write => "M_WRITE"
  | .writeR => "M_WRITE_R"
  | .start => "M_START"
  | .startR => "M_START_R"
  | .stop => "M_STOP"
  | .stopR => "M_STOP_R"

@[simp] theorem ofCode?_toCode (opCode : OpCode) : ofCode? opCode.toCode = some opCode := by
  cases opCode <;> rfl

end OpCode

/-- `opcodeNamesTable[eOpCode]`. -/
def opcodeName (eOpCode : UInt32) : Except Fault String :=
  match OpCode.ofCode? eOpCode with
  | some opCode => return opCode.name
  | none => throw .outOfBounds

/-! ## Messages -/

/-- `messageCdap_t`. An object value is the contents of its buffer. -/
structure MessageCdap where
  eOpCode : UInt32
  pxDestinationInfo : NameInfo (Pointer String)
  pxSourceInfo : NameInfo (Pointer String)
  version : Int
  pxAuthPolicy : AuthPolicy (Pointer String)
  invokeID : Int
  pcObjClass : Pointer String
  pcObjName : Pointer String
  objInst : Int
  pxObjValue : Pointer (List UInt8)
  result : Int
  deriving Repr, DecidableEq

/-- `rina_messages_authPolicy_t`. -/
structure WireAuthPolicy where
  name : Option String
  versions : Option String
  deriving Repr, DecidableEq

/-- `rina_messages_CDAPMessage`. An optional field is present when its `has` flag is
set. The names are those of the application processes and entities; of an object
value only `byteval` is used. -/
structure CdapMessage where
  opCode : UInt32
  invokeID : Option Int
  objClass : Option String
  objName : Option String
  objInst : Option Int
  objValue : Option (Option (List UInt8))
  result : Option Int
  authPolicy : Option WireAuthPolicy
  dest : NameInfo (Option String)
  src : NameInfo (Option String)
  version : Option Int
  deriving Repr, DecidableEq

/-- `MANAGEMENT_AE`. -/
def managementAe : String := "Management"

/-- One of the two names in `prvRibMessageCdapInit`. -/
def initialName : NameInfo (Pointer String) where
  pcProcessName := .null
  pcProcessInstance := .null
  pcEntityName := .target managementAe
  pcEntityInstance := .target ""

/-- The operation code is that of no operation. -/
def prvRibMessageCdapInit : MessageCdap where
  eOpCode := -1
  pxDestinationInfo := initialName
  pxSourceInfo := initialName
  version := 1
  pxAuthPolicy := { pcName := .null, pcVersion := .null }
  invokeID := 1
  pcObjClass := .null
  pcObjName := .null
  objInst := -1
  pxObjValue := .null
  result := 0

/-! ## Encoding -/

/-- Sizes of the string fields: the names, and the class, the object name and the
fields of the policy. -/
def nameSize : Nat := 20
def textSize : Nat := 40

/-- Size of `byteval`. -/
def byteValueSize : Nat := 1024

/-- Size of the array of 128 pointers the message is encoded to on the 32-bit
target. -/
def encodeBufferSize : Nat := 128 * 4

def copyName (name : NameInfo (Pointer String)) : Except Fault (NameInfo (Option String)) := do
  let pcEntityInstance ← copyIfSet nameSize name.pcEntityInstance
  let pcEntityName ← copyIfSet nameSize name.pcEntityName
  let pcProcessInstance ← copyIfSet nameSize name.pcProcessInstance
  let pcProcessName ← copyIfSet nameSize name.pcProcessName
  return { pcProcessName, pcProcessInstance, pcEntityName, pcEntityInstance }

/-- The version is copied with the name, set or not. -/
def copyAuthPolicy (policy : AuthPolicy (Pointer String)) :
    Except Fault (Option WireAuthPolicy) := do
  match policy.pcName with
  | .null => return none
  | pcName =>
      let name ← strcpy textSize pcName
      let versions ← strcpy textSize policy.pcVersion
      return some { name := some name, versions := some versions }

def copyObjectValue : Pointer (List UInt8) → Except Fault (Option (Option (List UInt8)))
  | .null => return none
  | pxObjValue => do
      let bytes ← pxObjValue.read
      if bytes.length ≤ byteValueSize then return some (some bytes) else throw .outOfBounds

/-- A field whose value -1 stands for none. -/
def unlessMinusOne (value : Int) : Option Int :=
  if value ≠ -1 then some value else none

/-- The structure `prvRibdEncodeCDAP` fills before it calls the codec. -/
def fillCdapMessage (pxMessageCdap : MessageCdap) : Except Fault CdapMessage := do
  let dest ← copyName pxMessageCdap.pxDestinationInfo
  let src ← copyName pxMessageCdap.pxSourceInfo
  let authPolicy ← copyAuthPolicy pxMessageCdap.pxAuthPolicy
  let objClass ← copyIfSet textSize pxMessageCdap.pcObjClass
  let objName ← copyIfSet textSize pxMessageCdap.pcObjName
  let objValue ← copyObjectValue pxMessageCdap.pxObjValue
  return {
    opCode := pxMessageCdap.eOpCode
    invokeID := some pxMessageCdap.invokeID
    objClass
    objName
    objInst := unlessMinusOne pxMessageCdap.objInst
    objValue
    result := unlessMinusOne pxMessageCdap.result
    authPolicy
    dest
    src
    version := some pxMessageCdap.version }

/-- The contents of the network buffer, or `none` for `NULL`. A buffer that is not
obtained is used all the same. -/
def prvRibdEncodeCDAP (codec : Codec CdapMessage) (obtained : Bool)
    (pxMessageCdap : Option MessageCdap) : Except Fault (Option (List UInt8)) := do
  match pxMessageCdap with
  | none => throw .nullPointer
  | some pxMessageCdap =>
      let _ ← opcodeName pxMessageCdap.eOpCode
      let message ← fillCdapMessage pxMessageCdap
      match codec.encodeWithin encodeBufferSize message with
      | none => return none
      | some bytes => if obtained then return some bytes else throw .nullPointer

/-! ## Decoding -/

/-- Fill a new message that holds what `left` says. -/
def prvRibdFillDecodeMessage (left : MessageCdap) (message : CdapMessage) : MessageCdap where
  eOpCode := message.opCode
  version := message.version.getD 0
  invokeID := message.invokeID.getD 0
  result := message.result.getD 0
  pxDestinationInfo := left.pxDestinationInfo.zipWith Pointer.setFrom message.dest
  pxSourceInfo := left.pxSourceInfo.zipWith Pointer.setFrom message.src
  pxAuthPolicy :=
    match message.authPolicy with
    | none => left.pxAuthPolicy
    | some policy =>
        { pcName := left.pxAuthPolicy.pcName.setFrom policy.name
          pcVersion := .target (policy.versions.getD "") }
  pcObjClass := left.pcObjClass.setFrom message.objClass
  pcObjName := left.pcObjName.setFrom message.objName
  objInst := message.objInst.getD left.objInst
  pxObjValue :=
    left.pxObjValue.setFrom (message.objValue.map fun byteval => byteval.getD [])

def prvRibdDecodeCDAP (codec : Codec CdapMessage) (left : MessageCdap)
    (pucBuffer : List UInt8) : Option MessageCdap :=
  (codec.decode pucBuffer).map (prvRibdFillDecodeMessage left)

/-! ## Printing -/

def logName (name : NameInfo (Pointer String)) : Except Fault Unit := do
  name.pcEntityInstance.log
  name.pcEntityName.log
  name.pcProcessInstance.log
  name.pcProcessName.log

/-- The operation code is looked up in the table before the message is used in any
other way. -/
def vRibdPrintCdapMessage (pxDecodeCdap : Option MessageCdap) : Except Fault Unit := do
  match pxDecodeCdap with
  | none => throw .nullPointer
  | some pxDecodeCdap =>
      let _ ← opcodeName pxDecodeCdap.eOpCode
      pxDecodeCdap.pxAuthPolicy.pcName.log
      pxDecodeCdap.pxAuthPolicy.pcVersion.log
      logName pxDecodeCdap.pxSourceInfo
      logName pxDecodeCdap.pxDestinationInfo
      pxDecodeCdap.pcObjName.log
      pxDecodeCdap.pcObjClass.log

end RinaSense
