import RinaSense.Shim.Ieee802154

/-!
# Sending through the RMT

The sending half of `rmt.c`. The table of N-1 ports has a single entry, so the
port id passed along is not used to find the port.
-/

namespace RinaSense

/-- Record the PDU a data unit holds as given to the N-1 IPCP. -/
def recordSent (pxDu : DuId) : Rina Unit :=
  modify fun node =>
    let pdu := do
      let du ← node.dus.get? pxDu
      let descriptor ← node.buffers.get? (← du.pxNetworkBuffer)
      payloadOf descriptor
    { node with sentPdus := node.sentPdus ++ pdu.toList }

theorem run_recordSent {node : Node} {pxDu : DuId} {du : Du} {buffer : BufferId}
    {descriptor : NetworkBufferDescriptor} (owns : Owns node pxDu du buffer descriptor)
    {pdu : List UInt8} (held : payloadOf descriptor = some pdu) :
    (recordSent pxDu).run node =
      .ok () { node with sentPdus := node.sentPdus ++ [pdu] } := by
  change EStateM.Result.ok () _ = _
  simp [owns.held, owns.pointer, owns.stored, held]

def modifyN1Port (change : RmtN1Port → RmtN1Port) : Rina Unit :=
  modify fun node =>
    { node with core.xPortIdTable := node.core.xPortIdTable.map change }

/-- A missing `duWrite` is logged and then called all the same. -/
def xRmtN1PortWriteDu (outcomes : Outcomes) (pxN1Port : RmtN1Port) (pxDu : DuId) :
    Rina Bool := do
  if !pxN1Port.pxN1Ipcp.duWrite then throw .nullPointer
  recordSent pxDu
  xShimIEEE802154SDUWrite outcomes pxN1Port.pxN1Ipcp.pxData pxN1Port.xPortId pxDu

namespace RmtN1Port

/-- The check before sending. There is no queue, so a PDU that would have to wait
is dropped. -/
def mustEnqueue (port : RmtN1Port) : Bool :=
  port.xStats.plen != 0 || port.uxBusy || port.eState == .disabled

def countError (port : RmtN1Port) : RmtN1Port :=
  { port with xStats.errPdus := port.xStats.errPdus + 1 }

/-- `stats_inc(tx, port, ret)`: the returned boolean is counted as the bytes. -/
def countSent (ret : Bool) (port : RmtN1Port) : RmtN1Port :=
  { port with
    uxBusy := false
    xStats.txPdus := port.xStats.txPdus + 1
    xStats.txBytes := port.xStats.txBytes + if ret then 1 else 0 }

/-- `stats_inc(rx, port, bytes)`. -/
def countReceived (bytes : SizeT) (port : RmtN1Port) : RmtN1Port :=
  { port with
    xStats.rxPdus := port.xStats.rxPdus + 1
    xStats.rxBytes := port.xStats.rxBytes + bytes }

end RmtN1Port

/-- A sum of two words is that of their values exactly if it does not wrap around. -/
theorem toNat_add_eq_iff (first second : UInt32) :
    (first + second).toNat = first.toNat + second.toNat ↔ first.toNat + second.toNat < 2 ^ 32 := by
  rw [UInt32.toNat_add]
  constructor
  · intro same
    rw [← same]
    exact Nat.mod_lt _ (by decide)
  · exact Nat.mod_eq_of_lt

/-- The result of the N-1 IPCP only reaches the statistics. -/
def xRmtSendPortId (outcomes : Outcomes) (pxDu : DuId) : Rina Bool := do
  match (← readCore).xPortIdTable with
  | none =>
      let _ ← xDuDestroy pxDu
      return false
  | some pxN1Port =>
      if pxN1Port.mustEnqueue then
        let _ ← xDuDestroy pxDu
        modifyN1Port RmtN1Port.countError
        return false
      else
        modifyN1Port fun port => { port with uxBusy := true }
        let ret ← xRmtN1PortWriteDu outcomes pxN1Port pxDu
        modifyN1Port (RmtN1Port.countSent ret)
        return true

/-- `xPciIsOk` on a header pointer that may be unset. -/
def xPciIsOk (pxDu : DuId) : Rina Bool := do
  let du ← readDu pxDu
  if du.pxPci.isNone then return false
  return (← readPci pxDu).isOk

/-- `pxRmtInstance` tells whether the reference passed in is set. -/
def xRmtSend (outcomes : Outcomes) (pxRmtInstance : Bool) (pxDu : DuId) : Rina Bool := do
  if !pxRmtInstance then
    let _ ← xDuDestroy pxDu
    return false
  if !(← xPciIsOk pxDu) then
    let _ ← xDuDestroy pxDu
    return false
  let rmt ← follow (← readCore).pxRmt
  if !rmt.pxN1Port then throw .nullPointer
  xRmtSendPortId outcomes pxDu

theorem run_pciIsOk {node : Node} {pxDu : DuId} {du : Du} {buffer : BufferId}
    {descriptor : NetworkBufferDescriptor} (owns : Owns node pxDu du buffer descriptor) {pci : Pci}
    (header : headerOf du descriptor = some pci) :
    (xPciIsOk pxDu).run node = .ok pci.isOk node := by
  have set : du.pxPci ≠ none := fun unset => by simp [headerOf, unset] at header
  simp [xPciIsOk, run_readDu owns.held, set, run_readPci owns header]

end RinaSense
