import RinaSense.Ipcp.Normal

/-!
# Writing from the application

`RINA_flow_write` copies the application's data into a network buffer and queues
it for the IPCP task.
-/

namespace RinaSense

/-- `MAX_SDU_SIZE`. -/
def maxSduSize : Nat := 1500

/-- Outcomes of a call of `RINA_flow_write`: setting the timeout, obtaining the
buffer, checking the timeout and queueing the event. -/
structure WriteOutcomes where
  timeoutSet : Bool
  buffer : Bool
  timeoutChecked : Bool
  stackEvent : Bool
  deriving Repr, DecidableEq

/-- A failing check of the timeout returns without the buffer. -/
def rinaFlowWrite (outcomes : WriteOutcomes) (xPortId : PortId) (data : List UInt8) :
    Rina Nat := do
  if maxSduSize < data.length then throw .assertion
  if !outcomes.timeoutSet then return 0
  let uxTotalDataLength := UInt32.ofNat data.length
  match ← pxGetNetworkBufferWithDescriptor outcomes.buffer uxTotalDataLength with
  | none => return 0
  | some pxNetworkBuffer =>
      let descriptor := freshDescriptor uxTotalDataLength
      let storage ← copyBytes descriptor.pucEthernetBuffer data
      writeBuffer pxNetworkBuffer { descriptor with pucEthernetBuffer := storage }
      if !outcomes.timeoutChecked then return 0
      writeBuffer pxNetworkBuffer
        { descriptor with
          pucEthernetBuffer := storage
          xDataLength := uxTotalDataLength
          ulBoundPort := xPortId }
      if ← xSendEventStructToIPCPTask outcomes.stackEvent (.stackTx pxNetworkBuffer) then
        return data.length
      else
        vReleaseNetworkBufferAndDescriptor pxNetworkBuffer
        return 0

end RinaSense
