import RinaSense.Ipcp.Dtp
import RinaSense.Ipcp.EfcpImap
import RinaSense.Library.Command
import RinaSense.Library.Store

/-!
# The state of a node

The objects the data path works on: network buffers and data units, the EFCP
instances with their map, the RMT with its one N-1 port, the flow allocator
table, the flows of the normal IPCP and the receive queues of the applications.
Objects on the heap live in stores; a pointer is an identity or `none`.
-/

namespace RinaSense

abbrev BufferId := Nat
abbrev DuId := Nat
abbrev EfcpId := Nat
abbrev HandleId := Nat

/-- `size_t` of the 32-bit target. -/
abbrev SizeT := UInt32

/-- `NetworkBufferDescriptor_t`. The storage is the block `pucEthernetBuffer`
points to; the other two pointers point into it and are kept as offsets. -/
structure NetworkBufferDescriptor where
  pucEthernetBuffer : Option (List UInt8)
  pucRinaBuffer : Option Nat
  pucDataBuffer : Option Nat
  xEthernetDataLength : SizeT
  xRinaDataLength : SizeT
  xDataLength : SizeT
  ulBoundPort : PortId
  deriving Repr, DecidableEq

/-- `struct du_t`. The header pointer is an offset into the storage of
`pxNetworkBuffer`. -/
structure Du where
  pxNetworkBuffer : Option BufferId
  pxPci : Option Nat
  deriving Repr, DecidableEq

inductive EfcpState where
  | allocated
  | deallocated
  deriving Repr, DecidableEq

/-- `struct dtp_t`. The first and the last field tell whether the pointer is
set. -/
structure Dtp where
  pxDtcp : Bool
  pxDtpStateVector : DtpSv
  pxRmt : Bool
  deriving Repr, DecidableEq

/-- `struct efcp_t`. The connection and the DTP instance belong to this instance
alone. For the other two pointers it is kept whether they are set. -/
structure Efcp where
  pxConnection : Option Connection
  pxUserIpcp : Bool
  pxDtp : Option Dtp
  pxEfcpContainer : Bool
  xState : EfcpState
  deriving Repr, DecidableEq

/-! ## N-1 port -/

inductive N1PortState where
  | enabled
  | allocated
  | disabled
  | doNotDisable
  | deallocated
  deriving Repr, DecidableEq

/-- `n1PortStats_t`. -/
structure N1PortStats where
  plen : UInt32
  dropPdus : UInt32
  errPdus : UInt32
  txPdus : UInt32
  txBytes : UInt32
  rxPdus : UInt32
  rxBytes : UInt32
  deriving Repr, DecidableEq

inductive ShimPortState where
  | null
  | pending
  | allocated
  deriving Repr, DecidableEq

/-- `shimFlow_t`. -/
structure ShimFlow where
  xPortId : PortId
  ePortIdState : ShimPortState
  deriving Repr, DecidableEq

/-- The N-1 IPCP: whether its `duWrite` operation and its instance data are set. -/
structure N1Ipcp where
  duWrite : Bool
  pxData : Bool
  deriving Repr, DecidableEq

/-- `rmtN1Port_t`. The pending data unit is only written by unreachable code. -/
structure RmtN1Port where
  xPortId : PortId
  pxN1Ipcp : N1Ipcp
  eState : N1PortState
  xStats : N1PortStats
  uxBusy : Bool
  deriving Repr, DecidableEq

/-- `struct rmt_t`: whether its own reference to the N-1 port is set. -/
structure Rmt where
  pxN1Port : Bool
  deriving Repr, DecidableEq

/-! ## Flows -/

inductive FaiState where
  | none
  | pending
  | allocated
  deriving Repr, DecidableEq

/-- `flowAllocatorInstance_t`. -/
structure FlowAllocatorInstance where
  xPortId : PortId
  eFaiState : FaiState
  pxFlowAllocatorHandle : HandleId
  deriving Repr, DecidableEq

/-- A row of `xFlowRequestTable`. -/
structure FlowRequestRow where
  pxFAI : Option FlowAllocatorInstance
  xValid : Bool
  deriving Repr, DecidableEq

inductive NormalFlowState where
  | null
  | pending
  | allocated
  | deallocated
  | disabled
  deriving Repr, DecidableEq

/-- `struct normalFlow_t`. -/
structure NormalFlow where
  xPortId : PortId
  eState : NormalFlowState
  xActive : CepId
  deriving Repr, DecidableEq

/-- `flowAllocateHandle_t`: the receive queue of an application, in list order,
and its event bits `eFLOW_BOUND` and `eFLOW_RECEIVE`. -/
structure FlowAllocateHandle where
  xPortId : PortId
  xListWaitingPackets : List BufferId
  eFlowBound : Bool
  eFlowReceive : Bool
  deriving Repr, DecidableEq

/-! ## Node -/

/-- Pending events that carry a network buffer. -/
inductive StackEvent where
  | networkTx (pxNetworkBuffer : BufferId)
  | stackTx (pxNetworkBuffer : BufferId)
  deriving Repr, DecidableEq

/-- The tables and instances of the normal IPCP: whether the EFCP container is set,
whether its reference to the RMT is, and what they all share. -/
structure Core where
  pxEfcpc : Bool
  xEfcpcRmt : Bool
  efcps : Store Efcp
  xEfcpImapTable : EfcpImapTable EfcpId
  pxRmt : Option Rmt
  xPortIdTable : Option RmtN1Port
  xShimFlowsList : List ShimFlow
  xFlowRequestTable : List FlowRequestRow
  xFlowsList : List NormalFlow

/-- Replace an EFCP instance in use. -/
def Core.setEfcp (core : Core) (efcp : EfcpId) (value : Efcp) : Core :=
  { core with efcps := core.efcps.set efcp value }

/-- A node: its tables, the buffers and data units in use, the applications'
handles and the pending events. `sentPdus` records the PDUs given to the N-1
IPCP, in order. -/
structure Node where
  core : Core
  buffers : Store NetworkBufferDescriptor
  dus : Store Du
  handles : Store FlowAllocateHandle
  events : List StackEvent
  sentPdus : List (List UInt8)

/-- The ways the code can go wrong that C leaves undefined or ends by an abort. -/
inductive Fault where
  /-- A pointer that is not set is followed. -/
  | nullPointer
  /-- An object is used or released after it was released. -/
  | released
  /-- A copy leaves its block. -/
  | outOfBounds
  /-- `RsAssert`. -/
  | assertion
  deriving Repr, DecidableEq

abbrev Rina := EStateM Fault Node

/-- Outcomes of one pass through the data path that its own state does not
determine: whether memory for the data unit, the buffers of the encapsulation,
the decapsulation and the shim are obtained, and whether the event queue takes
the frame. -/
structure Outcomes where
  duMemory : Bool
  encapBuffer : Bool
  decapBuffer : Bool
  shimBuffer : Bool
  networkEvent : Bool
  deriving Repr, DecidableEq

/-- Follow a pointer that may be unset. -/
def follow {α : Type} : Option α → Rina α
  | some value => pure value
  | none => throw .nullPointer

def readCore : Rina Core := return (← get).core

def writeCore (core : Core) : Rina Unit := modify fun node => { node with core }

def readDu (du : DuId) : Rina Du := do
  match (← get).dus.get? du with
  | some value => pure value
  | none => throw .released

def writeDu (du : DuId) (value : Du) : Rina Unit :=
  modify fun node => { node with dus := node.dus.set du value }

def readBuffer (buffer : BufferId) : Rina NetworkBufferDescriptor := do
  match (← get).buffers.get? buffer with
  | some value => pure value
  | none => throw .released

def writeBuffer (buffer : BufferId) (value : NetworkBufferDescriptor) : Rina Unit :=
  modify fun node => { node with buffers := node.buffers.set buffer value }

def readEfcp (efcp : EfcpId) : Rina Efcp := do
  match (← get).core.efcps.get? efcp with
  | some value => pure value
  | none => throw .released

def writeEfcp (efcp : EfcpId) (value : Efcp) : Rina Unit :=
  modify fun node => { node with core := node.core.setEfcp efcp value }

/-! ## Runs of the accesses -/

section Accesses

variable {node : Node}

@[simp] theorem run_follow_some {α : Type} (value : α) :
    (follow (some value)).run node = .ok value node := rfl

@[simp] theorem run_follow_none {α : Type} :
    (follow (none : Option α)).run node = .error .nullPointer node := rfl

@[simp] theorem run_readCore : readCore.run node = .ok node.core node := rfl

@[simp] theorem run_writeCore (core : Core) :
    (writeCore core).run node = .ok () { node with core } := rfl

theorem run_readDu {du : DuId} {value : Du} (found : node.dus.get? du = some value) :
    (readDu du).run node = .ok value node := by
  simp [readDu, found]

@[simp] theorem run_writeDu (du : DuId) (value : Du) :
    (writeDu du value).run node = .ok () { node with dus := node.dus.set du value } := rfl

theorem run_readBuffer {buffer : BufferId} {descriptor : NetworkBufferDescriptor}
    (found : node.buffers.get? buffer = some descriptor) :
    (readBuffer buffer).run node = .ok descriptor node := by
  simp [readBuffer, found]

@[simp] theorem run_writeBuffer (buffer : BufferId) (descriptor : NetworkBufferDescriptor) :
    (writeBuffer buffer descriptor).run node =
      .ok () { node with buffers := node.buffers.set buffer descriptor } := rfl

theorem run_readEfcp {efcp : EfcpId} {value : Efcp}
    (found : node.core.efcps.get? efcp = some value) :
    (readEfcp efcp).run node = .ok value node := by
  simp [readEfcp, found]

theorem run_readEfcp_absent {efcp : EfcpId} (absent : node.core.efcps.get? efcp = none) :
    (readEfcp efcp).run node = .error .released node := by
  simp [readEfcp, absent]

@[simp] theorem run_writeEfcp (efcp : EfcpId) (value : Efcp) :
    (writeEfcp efcp value).run node =
      .ok () { node with core := node.core.setEfcp efcp value } := rfl

theorem get?_setEfcp {core : Core} {efcp : EfcpId} {old : Efcp}
    (found : core.efcps.get? efcp = some old) (value : Efcp) :
    (core.setEfcp efcp value).efcps.get? efcp = some value :=
  Store.get?_set_self found value

end Accesses

end RinaSense
