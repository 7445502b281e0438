import RinaSense.Library.Trace
import RinaSense.Shim.Arp826
import RinaSense.Shim.Ethernet

/-!
# Flows and ARP replies

How a received ARP packet is processed, and the flow allocation that follows a reply.
-/

namespace RinaSense

/-- `ARP_HARDWARE_TYPE_ETHERNET`. -/
def arpHardwareTypeEthernet : UInt16 := 0x0001

/-- `ARP_REQUEST` and `ARP_REPLY`, in network byte order. -/
def arpRequest : UInt16 := 0x0100

def arpReply : UInt16 := 0x0200

/-- `ARPPacket_t` behind the Ethernet header, with the addresses that follow it. Both
protocol addresses are as long as the header says. -/
structure ArpPacket where
  usHType : UInt16
  ucHaLength : UInt8
  usOperation : UInt16
  sha : MacAddress
  spa : List UInt8
  tha : MacAddress
  tpa : List UInt8
  deriving Repr, DecidableEq

/-- `xARPAddressGPAShrink` with the filler zero, where an allocation of no bytes yields
a block or not. `none` is a failure. -/
def xArpAddressGpaShrink (emptyBlock : Bool) (pxGpa : Option Gpa) : Option Gpa :=
  match pxGpa with
  | none => none
  | some gpa =>
      if !xIsGpaOk (some gpa) then none
      else
        let bytes := gpa.pucAddress.getD []
        let kept := bytes.takeWhile (· != 0)
        if kept.length = bytes.length then some gpa
        else if kept = [] && !emptyBlock then none
        else some { pucAddress := some kept }

/-- The target addresses are only made to be checked. -/
def eArpProcessPacket (emptyBlock : Bool) (pxArpFrame : ArpPacket) : Arp FrameProcessingResult := do
  if pxArpFrame.usHType ≠ arpHardwareTypeEthernet then return .releaseBuffer
  if pxArpFrame.ucHaLength ≠ 6 then return .releaseBuffer
  if pxArpFrame.usOperation ≠ arpReply ∧ pxArpFrame.usOperation ≠ arpRequest then
    return .releaseBuffer
  match xArpAddressGpaShrink emptyBlock (pxCreateGpa pxArpFrame.spa),
      xArpAddressGpaShrink emptyBlock (pxCreateGpa pxArpFrame.tpa) with
  | none, _ => return .releaseBuffer
  | some _, none => return .releaseBuffer
  | some tmpSpa, some _ =>
      let cache ← get
      let (gpas, pxTmpSpa) := cache.gpas.allocate tmpSpa
      let (ghas, pxTmpSha) := cache.ghas.allocate ⟨.macAddr8023, pxArpFrame.sha⟩
      if pxArpFrame.usOperation = arpRequest then
        if (← eArpLookupGpa (some tmpSpa)) = .cacheMiss then return .releaseBuffer
        set { cache with gpas, ghas }
        vArpRefreshCacheEntry pxTmpSpa (some pxTmpSha)
        return .returnEthernetFrame
      else
        set { cache with gpas, ghas }
        vArpAddCacheEntry { pxPa := pxTmpSpa, pxHa := pxTmpSha } 3
        return .processBuffer

/-! ## Flow allocation -/

/-- The WiFi shim: the cache and its flows, and whether the data of its active
instance is set. -/
structure WifiShim where
  cache : ArpCache
  xShimFlowsList : List WifiFlow
  pxData : Bool

abbrev Shim := EStateM Fault WifiShim

/-- What the environment answers while a reply is processed: memory for the search of
the flow, and whether the user IPCP binds the flow. -/
structure ReplyOutcomes where
  flowMemory : Bool
  flowBindingIpcp : Bool
  deriving Repr, DecidableEq

/-- A call on the cache. -/
def onCache {α : Type} (command : Arp α) : Shim α := do
  let shim ← get
  match command.run shim.cache with
  | .ok value cache => do
      set { shim with cache }
      return value
  | .error fault cache => do
      set { shim with cache }
      throw fault

/-- Where `prvShimFindFlowByPortId` finds the flow. -/
def findFlowByPortId (memory : Bool) (xPortId : PortId) (flows : List WifiFlow) : Option Nat :=
  if memory then flows.findIdx? fun flow => flow.xPortId == xPortId else none

def modifyFlow (position : Nat) (change : WifiFlow → WifiFlow) : Shim Unit :=
  modify fun shim => { shim with xShimFlowsList := shim.xShimFlowsList.modify position change }

def xShimFlowAllocateResponse (outcomes : ReplyOutcomes) (xPortId : PortId) : Shim Bool := do
  let shim ← get
  if !shim.pxData then return false
  if !isPortIdOk xPortId then return false
  match findFlowByPortId outcomes.flowMemory xPortId shim.xShimFlowsList with
  | none => return false
  | some position =>
      match shim.xShimFlowsList[position]? with
      | none => return false
      | some flow =>
          if flow.ePortIdState ≠ .pending then return false
          if !outcomes.flowBindingIpcp then return false
          modifyFlow position fun flow => { flow with ePortIdState := .allocated, xPortId }
          let pxDestHa ← onCache (pxArpLookupGha flow.pxDestPa)
          modifyFlow position fun flow => { flow with pxDestHa }
          return true

/-- The response is always for port 1, and its result is not looked at. -/
def prxHandleAllocateResponse (outcomes : ReplyOutcomes) : Shim Bool := do
  let _ ← xShimFlowAllocateResponse outcomes 1
  return true

/-- The part of `prvProcessEthernetPacket` for ARP packets that concerns the flows. -/
def receiveArpPacket (emptyBlock : Bool) (outcomes : ReplyOutcomes) (packet : ArpPacket) :
    Shim Unit := do
  if (← onCache (eArpProcessPacket emptyBlock packet)) = .processBuffer then
    let _ ← prxHandleAllocateResponse outcomes

end RinaSense
