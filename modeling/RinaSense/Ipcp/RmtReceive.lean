import RinaSense.Ipcp.Normal

/-!
# Receiving through the RMT

The receiving half of `rmt.c`, with the delivery of management PDUs to the RIB
daemon and the two callers that own the data unit until `xRmtReceive` takes it.

The RIB daemon is a parameter: what it decodes from the bytes of a management PDU
and what it does with a message, which may change the tables of the node and send
replies but has no access to buffers other than those of its replies.
-/

namespace RinaSense

/-- A reply the RIB daemon sends: its N-1 port, its encoded bytes, whether a
buffer for them is obtained, and the outcomes of sending it. -/
structure RibReply where
  xN1Port : PortId
  bytes : List UInt8
  buffer : Bool
  outcomes : Outcomes

structure RibDaemon where
  Message : Type
  prvRibdDecodeCDAP : List UInt8 → Option Message
  vRibHandleMessage : Core → Message → PortId → Core × List RibReply

/-- Encode a reply into a network buffer, used unchecked, and send it. -/
def sendReply (reply : RibReply) : Rina Unit := do
  let xMessageLength := UInt32.ofNat reply.bytes.length
  let pxNetworkBuffer ←
    follow (← pxGetNetworkBufferWithDescriptor reply.buffer xMessageLength)
  let descriptor := freshDescriptor xMessageLength
  let storage ← copyBytes descriptor.pucEthernetBuffer reply.bytes
  writeBuffer pxNetworkBuffer
    { descriptor with
      pucEthernetBuffer := storage
      xDataLength := xMessageLength }
  vRibdSentCdapMsg reply.outcomes pxNetworkBuffer reply.xN1Port

/-- The replies are sent one after the other. -/
def sendReplies : List RibReply → Rina Unit
  | [] => return ()
  | reply :: replies => do
      sendReply reply
      sendReplies replies

/-- The bytes given to the decoder: from the data pointer on, as many as the data
length says and the block has. With a length that leaves the block the decoder would read what
lies behind it; which bytes these are, and whether it gets that far, is left out. -/
def managementBytes (descriptor : NetworkBufferDescriptor) : Option (List UInt8) := do
  let storage ← descriptor.pucEthernetBuffer
  let offset ← descriptor.pucDataBuffer
  return (storage.drop offset).take descriptor.xDataLength.toNat

variable (daemon : RibDaemon)

/-- A message that cannot be decoded is printed before it is found missing. -/
def xRibdProcessLayerManagementPDU (xN1FlowPortId : PortId) (pxDu : DuId) : Rina Bool := do
  let (_, descriptor, _) ← readStorage (← readDu pxDu)
  let bytes ← follow (managementBytes descriptor)
  let pxDecodeCdap ← follow (daemon.prvRibdDecodeCDAP bytes)
  let _ ← xDuDestroy pxDu
  let (core, replies) := daemon.vRibHandleMessage (← readCore) pxDecodeCdap xN1FlowPortId
  writeCore core
  sendReplies replies
  return true

def xNormalMgmtDuPost (xPortId : PortId) (pxDu : DuId) : Rina Bool := do
  if !isPortIdOk xPortId then
    let _ ← xDuDestroy pxDu
    return false
  xRibdProcessLayerManagementPDU daemon xPortId pxDu

def xRmtProcessMgmtPdu (xPortId : PortId) (pxDu : DuId) : Rina Bool :=
  xNormalMgmtDuPost daemon xPortId pxDu

def xRmtProcessDtPdu (pxDu : DuId) : Rina Bool := do
  let pci ← readPci pxDu
  if !isAddressOk pci.xDestination then
    let _ ← xDuDestroy pxDu
    return false
  if pci.xType = pduTypeMgmt then
    let _ ← xDuDestroy pxDu
    return false
  if !isCepIdOk pci.connectionId.xDestination then
    let _ ← xDuDestroy pxDu
    return false
  xEfcpContainerReceive pci.connectionId.xDestination pxDu

/-- The types `xRmtReceive` passes to `xRmtProcessDtPdu`. -/
def isDtPdu (xType : PduType) : Bool :=
  xType == pduTypeCack || xType == pduTypeSack || xType == pduTypeNack ||
    xType == pduTypeFc || xType == pduTypeAck || xType == pduTypeAckAndFc ||
    xType == pduTypeRendezvous || xType == pduTypeDt

/-- A PDU for another node is left to the caller; all other failures destroy the
data unit. -/
def xRmtReceive (obtained : Bool) (pxDu : DuId) (xFrom : PortId) : Rina Bool := do
  if (← readCore).pxRmt.isNone then
    let _ ← xDuDestroy pxDu
    return false
  if !isPortIdOk xFrom then
    let _ ← xDuDestroy pxDu
    return false
  let descriptor ← readBuffer (← follow (← readDu pxDu).pxNetworkBuffer)
  if !(← readCore).pxEfcpc then throw .nullPointer
  if (← readCore).xPortIdTable.isNone then
    let _ ← xDuDestroy pxDu
    return false
  modifyN1Port (RmtN1Port.countReceived descriptor.xRinaDataLength)
  if ← xDuDecap obtained pxDu then
    let _ ← xDuDestroy pxDu
    return false
  let pci ← readPci pxDu
  if !pduTypeIsOk pci.xType || !isAddressOk pci.xDestination ||
      !isQosIdOk pci.connectionId.xQosId then
    let _ ← xDuDestroy pxDu
    return false
  if pci.xDestination = localAddress then
    if pci.xType = pduTypeMgmt then xRmtProcessMgmtPdu daemon xFrom pxDu
    else if isDtPdu pci.xType then xRmtProcessDtPdu pxDu
    else
      let _ ← xDuDestroy pxDu
      return false
  else if pci.xDestination = 0 then xRmtProcessMgmtPdu daemon xFrom pxDu
  else return false

def xNormalDuEnqueue (obtained : Bool) (xN1PortId : PortId) (pxDu : DuId) : Rina Bool :=
  xRmtReceive daemon obtained pxDu xN1PortId

/-! ## The callers -/

/-- The branch of `prvIpcpTask` for `eStackRxEvent`. -/
def stackRxEvent (obtained : Bool) (pxMessagePDU : DuId) : Rina Unit := do
  if !(← xNormalDuEnqueue daemon obtained 1 pxMessagePDU) then
    let _ ← xDuDestroy pxMessagePDU

/-- The end of `xProcessIEEE802154Packet`, after the data unit has been made. -/
def enqueueIeee802154Packet (obtained : Bool) (pxMessagePDU : DuId)
    (pxNetworkBuffer : BufferId) : Rina Bool := do
  if !(← xNormalDuEnqueue daemon obtained 1 pxMessagePDU) then
    vReleaseNetworkBufferAndDescriptor pxNetworkBuffer
    let node ← get
    match node.dus.get? pxMessagePDU with
    | some _ => set { node with dus := node.dus.free pxMessagePDU }
    | none => throw .released
    return false
  return true

end RinaSense
