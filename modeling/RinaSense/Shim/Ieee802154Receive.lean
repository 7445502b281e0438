import RinaSense.Ipcp.RmtReceive
import RinaSense.Shim.Ieee802154

/-!
# Receiving with the IEEE 802.15.4 shim

From the interrupt of the radio over the network interface to the data unit that
`xProcessIEEE802154Packet` hands to the normal IPCP.
-/

namespace RinaSense

/-- `IEEE802154_MAX_FRAME_SIZE`. -/
def ieee802154MaxFrameSize : Nat := 127

/-- `ieee802154_SHORT_ADDRESS_DESTINATION`. -/
def ieee802154ShortAddressDestination : UInt16 := 0x0002

/-- The addresses the radio of a node was given. -/
structure RadioAddresses where
  shortAddress : UInt16
  extendedAddress : Vector UInt8 8
  deriving Repr, DecidableEq

/-- Outcomes of taking a frame in: the buffer for its copy, room for the event of
it, memory for the data unit and whether a normal IPCP is there. -/
structure Ieee802154RxOutcomes where
  buffer : Bool
  networkEvent : Bool
  duMemory : Bool
  normalInstance : Bool
  deriving Repr, DecidableEq

/-- What the radio makes of a frame to be sent: its length byte and as many bytes as
that says. -/
def radioFrame (descriptor : NetworkBufferDescriptor) : Option (List UInt8) := do
  let storage ← descriptor.pucEthernetBuffer
  let length ← storage.head?
  if length.toNat < storage.length then some (storage.take (length.toNat + 1)) else none

/-- The bytes kept for the receive task, if the length of the frame is accepted. -/
def espIeee802154ReceiveDone : List UInt8 → Rina (Option (List UInt8))
  | [] => throw .outOfBounds
  | length :: bytes => do
      if length = 0 then return none
      if ieee802154MaxFrameSize < length.toNat then return none
      return some (← copyFrom (some bytes) 0 length.toNat)

/-- The result is the buffer an event was queued for. A buffer without an event is
kept, and without a buffer the pointer that is not set is released. -/
def vIeee802154NetworkInterfaceInput (outcomes : Ieee802154RxOutcomes) (frame : List UInt8) :
    Rina (Option BufferId) := do
  let len := UInt16.ofNat frame.length
  match ← pxGetNetworkBufferWithDescriptor outcomes.buffer len.toUInt32 with
  | none => throw .nullPointer
  | some pxNetworkBuffer =>
      let fresh := freshDescriptor len.toUInt32
      let storage ← copyBytes fresh.pucEthernetBuffer (frame.take len.toNat)
      writeBuffer pxNetworkBuffer
        { fresh with
          pucEthernetBuffer := storage
          xEthernetDataLength := len.toUInt32 }
      return if outcomes.networkEvent then some pxNetworkBuffer else none

/-! ## Frame control -/

inductive FrameType where
  | data
  | ack
  | other
  deriving Repr, DecidableEq

inductive AddressMode where
  | none
  | reserved
  | short
  | long
  deriving Repr, DecidableEq

/-- The fields of `mac_fcs_t` a receiver looks at. -/
structure MacFcs where
  frameType : FrameType
  rfu1 : Bool
  destAddrType : AddressMode
  deriving Repr, DecidableEq

def MacFcs.ofBytes (low high : UInt8) : MacFcs where
  frameType :=
    if low &&& 7 = 1 then .data
    else if low &&& 7 = 2 then .ack
    else .other
  rfu1 := low &&& 0x80 ≠ 0
  destAddrType :=
    if high &&& 0x0C = 0 then .none
    else if high &&& 0x0C = 4 then .reserved
    else if high &&& 0x0C = 8 then .short
    else .long

def readByte (storage : List UInt8) (position : Nat) : Rina UInt8 :=
  match storage[position]? with
  | some byte => return byte
  | none => throw .outOfBounds

/-! ## Processing -/

/-- Whose a packet is. -/
inductive Addressee where
  | me
  | everyone
  | other
  deriving Repr, DecidableEq

/-- The addressee of a packet and the position behind the addresses, `none` where
the address mode is not known. -/
def readAddressee (addresses : RadioAddresses) (storage : List UInt8) :
    AddressMode → Rina (Option (Addressee × Nat))
  | .none => return some (.me, 3)
  | .reserved => return none
  | .short => do
      let low ← readByte storage 5
      let high ← readByte storage 6
      let shortDstAddr := high.toUInt16 <<< 8 ||| low.toUInt16
      if shortDstAddr = addresses.shortAddress then return some (.me, 9)
      else if shortDstAddr = 0xFFFF then return some (.everyone, 9)
      else return some (.other, 9)
  | .long => do
      let dstAddr ← copyFrom (some storage) 5 8
      if dstAddr.reverse = addresses.extendedAddress.toList then return some (.me, 13)
      else return some (.other, 13)

/-- `xProcessIEEE802154Packet` up to the data unit it makes. An error is the status
it ends with before. For an acknowledgement it writes behind the array of the
response. -/
def openIeee802154Packet (outcomes : Ieee802154RxOutcomes) (addresses : RadioAddresses)
    (pxNetworkBuffer : BufferId) : Rina (Except Bool DuId) := do
  let descriptor ← readBuffer pxNetworkBuffer
  let packet ← follow descriptor.pucEthernetBuffer
  let fcs := MacFcs.ofBytes (← readByte packet 0) (← readByte packet 1)
  if fcs.rfu1 then
    vReleaseNetworkBufferAndDescriptor pxNetworkBuffer
    return .error false
  match fcs.frameType with
  | .ack => throw .outOfBounds
  | .other =>
      vReleaseNetworkBufferAndDescriptor pxNetworkBuffer
      return .error false
  | .data =>
      match ← readAddressee addresses packet fcs.destAddrType with
      | none =>
          vReleaseNetworkBufferAndDescriptor pxNetworkBuffer
          return .error false
      | some (.everyone, _) =>
          vReleaseNetworkBufferAndDescriptor pxNetworkBuffer
          return .error true
      | some (.other, _) =>
          vReleaseNetworkBufferAndDescriptor pxNetworkBuffer
          return .error false
      | some (.me, position) =>
          let sduLength := (descriptor.xEthernetDataLength - UInt32.ofNat position).toUInt16
          writeBuffer pxNetworkBuffer
            { descriptor with
              pucRinaBuffer := some position
              xRinaDataLength := sduLength.toUInt32 }
          -- the dump of the packet reads all of it
          let _ ← copyFrom (some packet) position sduLength.toNat
          if !outcomes.duMemory then
            vReleaseNetworkBufferAndDescriptor pxNetworkBuffer
            return .error false
          let node ← get
          let (dus, pxMessagePdu) :=
            node.dus.allocate { pxNetworkBuffer := some pxNetworkBuffer, pxPci := none }
          set { node with dus }
          if !outcomes.normalInstance then
            vReleaseNetworkBufferAndDescriptor pxNetworkBuffer
            modify fun node => { node with dus := node.dus.free pxMessagePdu }
            return .error false
          return .ok pxMessagePdu

end RinaSense
