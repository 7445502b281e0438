import RinaSense.Ipcp.ReceiveOwnership
import RinaSense.Shim.EthernetParsing

/-!
# The buffers of received frames

A network buffer is taken for a frame that comes in, and the shim processes the frame in it. The
module determines, for both shims, the frames and outcomes for which the buffer is released or is
in one queue in the end.
-/

namespace RinaSense

open Command

section Conservation

variable {α : Type} {taken : BufferId} {idle queued : Prop}
  {result : EStateM.Result Fault Node α} {obtained : Bool}

end Conservation

/-! ## Taking a frame in -/

/-- The buffer for a frame, with its bytes. -/
def takeFrame (obtained : Bool) (frame : List UInt8) : Rina BufferId := do
  let len := UInt16.ofNat frame.length
  match ← pxGetNetworkBufferWithDescriptor obtained len.toUInt32 with
  | none => throw .nullPointer
  | some pxNetworkBuffer =>
      let fresh := freshDescriptor len.toUInt32
      let storage ← copyBytes fresh.pucEthernetBuffer (frame.take len.toNat)
      writeBuffer pxNetworkBuffer
        { fresh with
          pucEthernetBuffer := storage
          xEthernetDataLength := len.toUInt32 }
      return pxNetworkBuffer

/-- `xNetworkInterfaceInput`, with what is behind the frame in the memory of the driver, where the
filter reads the frame type. -/
def inputFrame (outcomes : EthernetRxOutcomes) (frame behind : List UInt8) :
    Rina (Bool × Option BufferId) := do
  if (← eConsiderFrameForProcessing (frame ++ behind)) ≠ .processBuffer then return (true, none)
  let pxNetworkBuffer ← takeFrame outcomes.buffer frame
  if !outcomes.networkEvent then
    vReleaseNetworkBufferAndDescriptor pxNetworkBuffer
    return (false, none)
  return (true, some pxNetworkBuffer)

/-- A frame that ends with the memory of the driver. -/
theorem inputFrame_nil (outcomes : EthernetRxOutcomes) (frame : List UInt8) :
    inputFrame outcomes frame [] = xNetworkInterfaceInput outcomes frame := by
  rw [inputFrame, xNetworkInterfaceInput, List.append_nil]
  congr 1
  funext considered
  split
  · rfl
  · simp only [takeFrame, bind_assoc]
    congr 1
    funext obtained
    cases obtained with
    | none => rfl
    | some pxNetworkBuffer => simp only [bind_assoc, pure_bind]

section Taking

variable {node : Node} {frame : List UInt8}

/-- The descriptor of a frame that was taken in. -/
structure Takes (frame : List UInt8) (descriptor : NetworkBufferDescriptor) : Prop where
  length : descriptor.xEthernetDataLength.toNat = frame.length
  empty : frame = [] → descriptor.pucEthernetBuffer = none
  whole : frame ≠ [] → descriptor = frameDescriptor frame

end Taking

/-! ## Ethernet -/

section Ethernet

variable {outcomes : EthernetRxOutcomes} {emptyBlock : Bool} {cache : ArpCache} {node : Node}
  {pxNetworkBuffer : BufferId} {descriptor : NetworkBufferDescriptor} {frame spare : List UInt8}
  {obtained : Bool}

section Taken

variable (taken : TakenIn node pxNetworkBuffer descriptor frame spare)
  (long : 14 ≤ frame.length)
include taken long

end Taken

end Ethernet

/-! ## IEEE 802.15.4 -/

section Ieee802154

variable {α : Type} {daemon : RibDaemon} {outcomes : Ieee802154RxOutcomes} {obtained : Bool}
  {addresses : RadioAddresses} {before node start : Node} {pxDu : DuId} {du : Du}
  {buffer : BufferId} {descriptor : NetworkBufferDescriptor}

section Packet

variable {packet : List UInt8} {low high : UInt8}
  (stored : node.buffers.get? buffer = some descriptor)
include stored

end Packet

end Ieee802154

/-! ## Both shims -/

end RinaSense
