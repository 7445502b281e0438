import RinaSense.Shim.Gpha
import RinaSense.Shim.Ieee802154

/-!
# The Ethernet shim

Sending a data unit as an Ethernet frame, as `xShimSDUWrite` does, and taking a
frame in: `xNetworkInterfaceInput` copies it into a network buffer, and
`prvProcessEthernetPacket` hands what is behind the header to the stack.
-/

namespace RinaSense

/-- `MTU`, as the shim compares it with a `size_t`. -/
def wifiMtu : SizeT := 1500

/-- `ETH_P_RINA`. -/
def ethPRina : UInt16 := 0xD1F0

/-- `ETH_P_RINA_ARP`. -/
def ethPRinaArp : UInt16 := 0x4305

/-! ## Frames -/

/-- `EthernetHeader_t`. -/
structure EthernetHeader where
  xDestinationAddress : MacAddress
  xSourceAddress : MacAddress
  usFrameType : UInt16
  deriving Repr, DecidableEq

/-- The header in memory, the frame type in network byte order. -/
def EthernetHeader.toBytes (header : EthernetHeader) : List UInt8 :=
  header.xDestinationAddress.toBytes ++ header.xSourceAddress.toBytes ++
    [(header.usFrameType >>> 8).toUInt8, header.usFrameType.toUInt8]

/-- `sizeof(EthernetHeader_t)`. -/
def ethernetHeaderLength : SizeT := 14

/-- `sizeof(ARPPacket_t)`. -/
def arpPacketLength : SizeT := 22

/-- The frame type a header in memory has, if there is a whole one. -/
def usFrameTypeOf (frame : List UInt8) : Option UInt16 :=
  match frame.drop 12 with
  | high :: low :: _ => some (high.toUInt16 <<< 8 ||| low.toUInt16)
  | _ => none

/-! ## Sending -/

/-- `shimFlow_t` of the WiFi shim, with the addresses of the destination. -/
structure WifiFlow extends ShimFlow where
  pxDestHa : Option Gha
  pxDestPa : Option Gpa
  deriving Repr, DecidableEq

/-- The instance data of the WiFi shim `xShimSDUWrite` reads. -/
structure WifiInstanceData where
  pxPhyDev : MacAddress
  deriving Repr, DecidableEq

/-- Outcomes of a call of `xShimSDUWrite`: memory for the search of the flow and
for the source address, the buffer of the frame and room for its event. -/
structure EthernetTxOutcomes where
  flowMemory : Bool
  ghaMemory : Bool
  buffer : Bool
  networkEvent : Bool
  deriving Repr, DecidableEq

/-- `prvShimFindFlowByPortId`. It takes memory for a flow before it looks for one. -/
def prvShimFindWifiFlowByPortId (memory : Bool) (xPortId : PortId) (flows : List WifiFlow) :
    Option WifiFlow :=
  if memory then flows.find? fun flow => flow.xPortId == xPortId else none

def xShimSduWrite (outcomes : EthernetTxOutcomes) (xShimFlowsList : List WifiFlow)
    (pxData : Option WifiInstanceData) (xId : PortId) (pxDu : DuId) : Rina Bool := do
  match pxData with
  | none => return false
  | some data =>
      let du ← readDu pxDu
      let descriptor ← readBuffer (← follow du.pxNetworkBuffer)
      let uxLength := descriptor.xDataLength
      if wifiMtu < uxLength then
        let _ ← xDuDestroy pxDu
        return false
      match prvShimFindWifiFlowByPortId outcomes.flowMemory xId xShimFlowsList with
      | none =>
          let _ ← xDuDestroy pxDu
          return false
      | some pxFlow =>
          if pxFlow.ePortIdState ≠ .allocated then
            let _ ← xDuDestroy pxDu
            return false
          match pxCreateGha outcomes.ghaMemory .macAddr8023 data.pxPhyDev, pxFlow.pxDestHa with
          | none, _ =>
              let _ ← xDuDestroy pxDu
              return false
          | some _, none =>
              let _ ← xDuDestroy pxDu
              return false
          | some pxSrcHw, some pxDestHw =>
              match ← pxGetNetworkBufferWithDescriptor outcomes.buffer
                  (ethernetHeaderLength + uxLength) with
              | none =>
                  let _ ← xDuDestroy pxDu
                  return false
              | some pxNetworkBuffer =>
                  let fresh := freshDescriptor (ethernetHeaderLength + uxLength)
                  let storage ← follow fresh.pucEthernetBuffer
                  let header : EthernetHeader :=
                    { xDestinationAddress := pxDestHw.xAddress
                      xSourceAddress := pxSrcHw.xAddress
                      usFrameType := ethPRina }
                  let storage ← copyInto storage 0 header.toBytes
                  let payload ← readPayload pxDu
                  let storage ← copyInto storage 14 payload
                  writeBuffer pxNetworkBuffer
                    { fresh with
                      pucEthernetBuffer := some storage
                      xDataLength := ethernetHeaderLength + uxLength }
                  let _ ← xDuDestroy pxDu
                  if ← xSendEventStructToIPCPTask outcomes.networkEvent
                      (.networkTx pxNetworkBuffer) then
                    return true
                  else
                    vReleaseNetworkBufferAndDescriptor pxNetworkBuffer
                    return false

/-! ## Receiving -/

/-- `eFrameProcessingResult_t`. -/
inductive FrameProcessingResult where
  | releaseBuffer
  | processBuffer
  | returnEthernetFrame
  | frameConsumed
  deriving Repr, DecidableEq

def eConsiderFrameForProcessing (frame : List UInt8) : Rina FrameProcessingResult :=
  match usFrameTypeOf frame with
  | none => throw .outOfBounds
  | some usFrameType =>
      if usFrameType = ethPRinaArp ∨ usFrameType = ethPRina then return .processBuffer
      else return .releaseBuffer

/-- Outcomes of taking a frame in: the buffer for its copy, room for the event of
it, memory for the data unit and room for the event of that. -/
structure EthernetRxOutcomes where
  buffer : Bool
  networkEvent : Bool
  duMemory : Bool
  stackEvent : Bool
  deriving Repr, DecidableEq

/-- The second result is the buffer an event was queued for. Without a buffer the
pointer that is not set is released. -/
def xNetworkInterfaceInput (outcomes : EthernetRxOutcomes) (frame : List UInt8) :
    Rina (Bool × Option BufferId) := do
  if (← eConsiderFrameForProcessing frame) ≠ .processBuffer then return (true, none)
  let len := UInt16.ofNat frame.length
  match ← pxGetNetworkBufferWithDescriptor outcomes.buffer len.toUInt32 with
  | none => throw .nullPointer
  | some pxNetworkBuffer =>
      let fresh := freshDescriptor len.toUInt32
      let storage ← copyBytes fresh.pucEthernetBuffer (frame.take len.toNat)
      writeBuffer pxNetworkBuffer
        { fresh with
          pucEthernetBuffer := storage
          xEthernetDataLength := len.toUInt32 }
      if !outcomes.networkEvent then
        vReleaseNetworkBufferAndDescriptor pxNetworkBuffer
        return (false, none)
      return (true, some pxNetworkBuffer)

/-- What the address resolution does with a frame of its own. -/
structure ArpProcessing where
  eArpProcessPacket : BufferId → Rina FrameProcessingResult
  prxHandleAllocateResponse : Rina Bool

/-- What is left to do with a frame. A processed one is released whether the
response went well or not. -/
def finishFrame (arp : ArpProcessing) (pxNetworkBuffer : BufferId) :
    FrameProcessingResult → Rina Unit
  | .returnEthernetFrame => pure ()
  | .frameConsumed => pure ()
  | .releaseBuffer => vReleaseNetworkBufferAndDescriptor pxNetworkBuffer
  | .processBuffer => do
      let _ ← arp.prxHandleAllocateResponse
      vReleaseNetworkBufferAndDescriptor pxNetworkBuffer

/-- The result is the data unit an event was queued for. Whether there was room for
the event is not looked at. -/
def prvProcessEthernetPacket (outcomes : EthernetRxOutcomes) (arp : ArpProcessing)
    (pxNetworkBuffer : BufferId) : Rina (Option DuId) := do
  let descriptor ← readBuffer pxNetworkBuffer
  if descriptor.xEthernetDataLength < ethernetHeaderLength then return none
  match usFrameTypeOf (← follow descriptor.pucEthernetBuffer) with
  | none => throw .outOfBounds
  | some usFrameType =>
      if usFrameType = ethPRinaArp then
        if descriptor.xEthernetDataLength < arpPacketLength then
          finishFrame arp pxNetworkBuffer .releaseBuffer
        else finishFrame arp pxNetworkBuffer (← arp.eArpProcessPacket pxNetworkBuffer)
        return none
      else if usFrameType = ethPRina then
        if !outcomes.duMemory then return none
        writeBuffer pxNetworkBuffer
          { descriptor with
            xRinaDataLength := descriptor.xEthernetDataLength - 14
            pucRinaBuffer := some 14 }
        let node ← get
        let (dus, pxMessagePdu) :=
          node.dus.allocate { pxNetworkBuffer := some pxNetworkBuffer, pxPci := none }
        set { node with dus }
        finishFrame arp pxNetworkBuffer .frameConsumed
        return if outcomes.stackEvent then some pxMessagePdu else none
      else
        finishFrame arp pxNetworkBuffer .releaseBuffer
        return none

end RinaSense
