import RinaSense.Library.Codec
import RinaSense.Rib.Memory

/-!
# Object values of the enrollment and of a_data

The three smaller messages of `serdesMsg.c`. A buffer of `MTU` bytes is encoded to;
a field that is absent in a decoded message, or not decoded at all, is left as the memory
had it.
-/

namespace RinaSense

/-- `MTU`. -/
def mtu : Nat := 1500

/-! ## Enrollment -/

/-- `enrollmentMessage_t`. -/
structure EnrollmentMessage where
  ullAddress : UInt64
  pcSupportingDifs : Pointer String
  xStartEarly : Bool
  pcToken : Pointer String
  deriving Repr, DecidableEq

/-- `rina_messages_enrollmentInformation_t`, as far as it is filled or read. -/
structure EnrollmentInformation where
  address : Option UInt64
  token : Option String
  deriving Repr, DecidableEq

/-- Only the address is sent, and only when it is not zero. -/
def pxSerdesMsgEnrollmentEncode (codec : Codec EnrollmentInformation) (ullAddress : UInt64) :
    Option (List UInt8) :=
  codec.encodeWithin mtu
    { address := if 0 < ullAddress then some ullAddress else none
      token := none }

def prvSerdesMsgDecodeEnrollment (left : EnrollmentMessage) (message : EnrollmentInformation) :
    EnrollmentMessage :=
  { left with
    ullAddress := message.address.getD left.ullAddress
    pcToken := left.pcToken.setFrom message.token }

def pxSerdesMsgEnrollmentDecode (codec : Codec EnrollmentInformation) (left : EnrollmentMessage)
    (pucBuffer : List UInt8) : Option EnrollmentMessage :=
  (codec.decode pucBuffer).map (prvSerdesMsgDecodeEnrollment left)

/-! ## Neighbors -/

/-- `neighborMessage_t`. -/
structure NeighborMessage where
  pcApName : Pointer String
  pcApInstance : Pointer String
  pcAeName : Pointer String
  pcAeInstance : Pointer String
  ullAddress : UInt64
  pcSupportingDifs : Pointer String
  deriving Repr, DecidableEq

/-- `rina_messages_neighbor_t`, as far as it is filled or read. -/
structure WireNeighbor where
  apname : Option String
  apinstance : Option String
  aename : Option String
  aeinstance : Option String
  address : Option UInt64
  deriving Repr, DecidableEq

/-- Size of the string fields. -/
def neighborTextSize : Nat := 20

/-- The address is not sent. -/
def prvSerdesMsgEncodeNeighbor (pxMessage : NeighborMessage) : Except Fault WireNeighbor := do
  let aeinstance ← copyIfSet neighborTextSize pxMessage.pcAeInstance
  let aename ← copyIfSet neighborTextSize pxMessage.pcAeName
  let apinstance ← copyIfSet neighborTextSize pxMessage.pcApInstance
  let apname ← copyIfSet neighborTextSize pxMessage.pcApName
  return { apname, apinstance, aename, aeinstance, address := none }

def pxSerdesMsgNeighborEncode (codec : Codec WireNeighbor) (pxMessage : NeighborMessage) :
    Except Fault (Option (List UInt8)) := do
  let message ← prvSerdesMsgEncodeNeighbor pxMessage
  return codec.encodeWithin mtu message

def prvSerdesMsgDecodeNeighbor (left : NeighborMessage) (message : WireNeighbor) :
    NeighborMessage :=
  { left with
    pcApName := left.pcApName.setFrom message.apname
    pcApInstance := left.pcApInstance.setFrom message.apinstance
    pcAeName := left.pcAeName.setFrom message.aename
    pcAeInstance := left.pcAeInstance.setFrom message.aeinstance
    ullAddress := message.address.getD left.ullAddress }

def pxserdesMsgDecodeNeighbor (codec : Codec WireNeighbor) (left : NeighborMessage)
    (pucBuffer : List UInt8) : Option NeighborMessage :=
  (codec.decode pucBuffer).map (prvSerdesMsgDecodeNeighbor left)

/-! ## a_data -/

/-- `aDataMsg_t`. -/
structure ADataMsg where
  xSourceAddress : Int
  xDestinationAddress : Int
  pxMsgCdap : Pointer (List UInt8)
  deriving Repr, DecidableEq

/-- `rina_messages_a_data_t`. -/
structure WireAData where
  sourceAddress : Option Int
  destAddress : Option Int
  cdapMessage : Option (List UInt8)
  deriving Repr, DecidableEq

def prvSerdesMsgDecodeAData (left : ADataMsg) (message : WireAData) : ADataMsg where
  xSourceAddress := message.sourceAddress.getD left.xSourceAddress
  xDestinationAddress := message.destAddress.getD left.xDestinationAddress
  pxMsgCdap := left.pxMsgCdap.setFrom message.cdapMessage

def pxSerdesMsgDecodeAData (codec : Codec WireAData) (left : ADataMsg)
    (pucBuffer : List UInt8) : Option ADataMsg :=
  (codec.decode pucBuffer).map (prvSerdesMsgDecodeAData left)

end RinaSense
