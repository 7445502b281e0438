import RinaSense.Ipcp.FlowRequest
import RinaSense.Ipcp.NewestConnection

/-!
# What a call can reach

A call that begins with a buffer and a data unit of its own writes to no object that was
there before it but the tables, the receive queues of certain ports and the record of sent
PDUs. The identities tell the objects apart: its own are not below those the stores had
handed out when it began.
-/

namespace RinaSense

open Command

/-- What a call may change beside its own objects: what `view` does not show of the EFCP
instances, the N-1 port, the record of sent PDUs, the handles of some ports and the rows of
the flow request table. -/
structure Scope (β : Type) where
  view : Efcp → β
  n1Port : Option RmtN1Port → Prop
  sent : List (List UInt8) → Prop
  port : PortId → Prop
  rows : List FlowRequestRow → Prop

/-- What the N-1 port has counted as received. -/
def RmtN1Port.received (port : RmtN1Port) : UInt32 × UInt32 :=
  (port.xStats.rxPdus, port.xStats.rxBytes)

theorem countError_received (port : RmtN1Port) : port.countError.received = port.received := rfl

theorem countSent_received (ret : Bool) (port : RmtN1Port) :
    (port.countSent ret).received = port.received := rfl

theorem busy_received (port : RmtN1Port) :
    RmtN1Port.received { port with uxBusy := true } = port.received := rfl

/-- A node on the way of a call that began in `start`. -/
structure Underway {β : Type} (start : Node) (scope : Scope β) (node : Node) : Prop where
  core : start.core.Evolves scope.view node.core
  n1Port : scope.n1Port node.core.xPortIdTable
  rows : scope.rows node.core.xFlowRequestTable
  sent : scope.sent node.sentPdus
  buffers : ∀ {buffer : BufferId}, buffer < start.buffers.next →
    node.buffers.get? buffer = start.buffers.get? buffer
  own : ∀ {pxDu : DuId} {du : Du} {buffer : BufferId}, start.dus.next ≤ pxDu →
    node.dus.get? pxDu = some du → du.pxNetworkBuffer = some buffer →
    start.buffers.next ≤ buffer
  nextBuffer : start.buffers.next ≤ node.buffers.next
  nextDu : start.dus.next ≤ node.dus.next
  handles : ∀ {handle : HandleId} {value : FlowAllocateHandle},
    start.handles.get? handle = some value →
      ∃ next, node.handles.get? handle = some next ∧ next.xPortId = value.xPortId ∧
        (¬ scope.port value.xPortId → next = value)

/-- A command that stays in the scope. -/
abbrev Confined {α β : Type} (start : Node) (scope : Scope β) (command : Rina α)
    (post : α → Prop) : Prop :=
  Upholds (Underway start scope) command post

/-- Where a call begins. -/
theorem underway_start {β : Type} {start : Node} {scope : Scope β}
    (n1Port : scope.n1Port start.core.xPortIdTable)
    (rows : scope.rows start.core.xFlowRequestTable) (sent : scope.sent start.sentPdus) :
    Underway start scope start where
  core := evolves_refl _
  n1Port := n1Port
  rows := rows
  sent := sent
  buffers := fun _ => rfl
  own := fun beyond found _ => absurd (Store.lt_next found) (Nat.not_lt.mpr beyond)
  nextBuffer := le_refl _
  nextDu := le_refl _
  handles := fun found => ⟨_, found, rfl, fun _ => rfl⟩

/-- To a call that begins without objects all that are in use are its own. -/
def Node.bare (node : Node) : Node := { node with buffers := .empty, dus := .empty }

theorem underway_bare {β : Type} {scope : Scope β} {node : Node}
    (n1Port : scope.n1Port node.core.xPortIdTable) (rows : scope.rows node.core.xFlowRequestTable) (sent : scope.sent node.sentPdus) :
    Underway node.bare scope node where
  core := evolves_refl _
  n1Port := n1Port
  rows := rows
  sent := sent
  buffers := fun old => absurd old (Nat.not_lt_zero _)
  own := fun _ _ _ => Nat.zero_le _
  nextBuffer := Nat.zero_le _
  nextDu := Nat.zero_le _
  handles := fun found => ⟨_, found, rfl, fun _ => rfl⟩

/-! ## Buffers that come in -/

section TakeIn

variable {node : Node}

/-- A buffer comes in, with a data unit that has its header pointer set to this offset. -/
def Node.takeIn (node : Node) (descriptor : NetworkBufferDescriptor) (pxPci : Option Nat) :
    Node :=
  { node with
    buffers := (node.buffers.allocate descriptor).1
    dus := (node.dus.allocate { pxNetworkBuffer := some node.buffers.next, pxPci }).1 }

@[simp] theorem takeIn_core (node : Node) (descriptor : NetworkBufferDescriptor)
    (pxPci : Option Nat) : (node.takeIn descriptor pxPci).core = node.core := rfl

theorem owns_takeIn (node : Node) (descriptor : NetworkBufferDescriptor) (pxPci : Option Nat) :
    Owns (node.takeIn descriptor pxPci) node.dus.next
      { pxNetworkBuffer := some node.buffers.next, pxPci } node.buffers.next descriptor where
  held := node.dus.get?_allocate_new _
  pointer := rfl
  stored := node.buffers.get?_allocate_new _

/-- Taking a buffer in is a step on the way of a call. -/
theorem underway_takeIn {β : Type} {scope : Scope β} (n1Port : scope.n1Port node.core.xPortIdTable)
    (rows : scope.rows node.core.xFlowRequestTable)
    (sent : scope.sent node.sentPdus) (descriptor : NetworkBufferDescriptor)
    (pxPci : Option Nat) : Underway node scope (node.takeIn descriptor pxPci) where
  core := evolves_refl _
  n1Port := n1Port
  rows := rows
  sent := sent
  buffers := fun old => node.buffers.get?_allocate_of_lt _ old
  own := fun {pxDu du buffer} beyond found held => by
    by_cases new : pxDu = node.dus.next
    · rw [new] at found
      have same := Option.some.inj (found.symm.trans (node.dus.get?_allocate_new _))
      rw [same] at held
      exact (Option.some.inj held).le
    · have old := (node.dus.get?_allocate_of_ne _ new).symm.trans found
      exact absurd (Store.lt_next old) (Nat.not_lt.mpr beyond)
  nextBuffer := Nat.le_succ _
  nextDu := Nat.le_succ _
  handles := fun found => ⟨_, found, rfl, fun _ => rfl⟩

end TakeIn

/-! ## Steps -/

section Steps

variable {α β : Type} {start : Node} {scope : Scope β}

theorem confined_follow (pointer : Option α) :
    Confined start scope (follow pointer) fun value => pointer = some value := by
  cases pointer with
  | none => exact upholds_throw _
  | some value => exact upholds_pure rfl

theorem confined_readCore :
    Confined start scope readCore fun core =>
      start.core.Evolves scope.view core ∧ scope.rows core.xFlowRequestTable :=
  fun _ underway => ⟨underway, underway.core, underway.rows⟩

/-- A data unit of the call holds a buffer of the call. -/
def Owned (start : Node) (du : Du) : Prop :=
  ∀ buffer, du.pxNetworkBuffer = some buffer → start.buffers.next ≤ buffer

theorem confined_readDu {pxDu : DuId} (beyond : start.dus.next ≤ pxDu) :
    Confined start scope (readDu pxDu) (Owned start) := by
  intro node underway
  cases found : node.dus.get? pxDu with
  | none =>
      have run : (readDu pxDu).run node = .error .released node := by simp [readDu, found]
      rw [run]
      exact underway
  | some du =>
      rw [run_readDu found]
      exact ⟨underway, fun buffer held => underway.own beyond found held⟩

theorem confined_writeDu {du : Du} (owned : Owned start du) (pxDu : DuId) :
    Confined start scope (writeDu pxDu du) fun _ => True := by
  apply upholds_modify
  intro node underway
  refine { underway with own := ?_, nextDu := ?_ }
  · intro other value buffer beyond found held
    by_cases here : other = pxDu
    · rw [here] at found beyond
      cases present : node.dus.get? pxDu with
      | none =>
          have absent : (node.dus.set pxDu du).get? pxDu = none := by
            rw [← Store.notMem_live, Store.live_set, Store.notMem_live, present]
          cases absent.symm.trans found
      | some old =>
          rw [Store.get?_set_self present] at found
          exact owned buffer (Option.some.inj found ▸ held)
    · rw [Store.get?_set_of_ne _ here] at found
      exact underway.own beyond found held
  · rw [Store.next_set]
    exact underway.nextDu

theorem confined_readBuffer (buffer : BufferId) :
    Confined start scope (readBuffer buffer) fun _ => True :=
  upholds_of_still fun node => by
    cases found : node.buffers.get? buffer <;> simp [readBuffer, found]

theorem confined_writeBuffer {buffer : BufferId} (beyond : start.buffers.next ≤ buffer)
    (descriptor : NetworkBufferDescriptor) :
    Confined start scope (writeBuffer buffer descriptor) fun _ => True := by
  apply upholds_modify
  intro node underway
  refine { underway with buffers := ?_, nextBuffer := ?_ }
  · intro other old
    rw [Store.get?_set_of_ne _ (Nat.ne_of_lt (Nat.lt_of_lt_of_le old beyond))]
    exact underway.buffers old
  · rw [Store.next_set]
    exact underway.nextBuffer

theorem confined_copyInto (block : List UInt8) (offset : Nat) (bytes : List UInt8) :
    Confined start scope (copyInto block offset bytes) fun _ => True :=
  upholds_ite (fun _ => upholds_pure trivial) fun _ => upholds_throw _

theorem confined_copyFrom (block : Option (List UInt8)) (offset length : Nat) :
    Confined start scope (copyFrom block offset length) fun _ => True :=
  upholds_ite (fun _ => upholds_pure trivial) fun _ =>
    upholds_bind (confined_follow block) fun _ _ =>
      upholds_ite (fun _ => upholds_pure trivial) fun _ => upholds_throw _

theorem confined_copyBytes (block : Option (List UInt8)) (bytes : List UInt8) :
    Confined start scope (copyBytes block bytes) fun _ => True :=
  upholds_ite (fun _ => upholds_pure trivial) fun _ =>
    upholds_bind (confined_follow block) fun _ _ =>
      upholds_bind (confined_copyInto _ _ _) fun _ _ => upholds_pure trivial

/-- A new buffer is one of the call. -/
theorem confined_getNetworkBuffer (obtained : Bool) (size : SizeT) :
    Confined start scope (pxGetNetworkBufferWithDescriptor obtained size) fun new =>
      ∀ buffer, new = some buffer → start.buffers.next ≤ buffer := by
  cases obtained with
  | false => exact upholds_pure fun buffer none => by cases none
  | true =>
      intro node underway
      rw [run_getNetworkBuffer_true]
      refine ⟨{ underway with buffers := ?_, nextBuffer := ?_ }, ?_⟩
      · intro other old
        rw [Store.get?_allocate_of_lt _ _ (Nat.lt_of_lt_of_le old underway.nextBuffer)]
        exact underway.buffers old
      · exact Nat.le_succ_of_le underway.nextBuffer
      · intro buffer new
        rw [← Option.some.inj new]
        exact underway.nextBuffer

theorem confined_release {buffer : BufferId} (beyond : start.buffers.next ≤ buffer) :
    Confined start scope (vReleaseNetworkBufferAndDescriptor buffer) fun _ => True := by
  intro node underway
  cases found : node.buffers.get? buffer with
  | none =>
      rw [run_release_absent found]
      exact underway
  | some descriptor =>
      rw [run_release found]
      refine ⟨{ underway with buffers := ?_ }, trivial⟩
      intro other old
      rw [Store.get?_free_of_ne _ (Nat.ne_of_lt (Nat.lt_of_lt_of_le old beyond))]
      exact underway.buffers old

theorem confined_freeDu (pxDu : DuId) :
    Confined start scope (modify fun node : Node => { node with dus := node.dus.free pxDu })
      fun _ => True := by
  apply upholds_modify
  intro node underway
  refine { underway with own := ?_ }
  intro other du buffer beyond found held
  by_cases here : other = pxDu
  · rw [here, Store.get?_free_self] at found
    cases found
  · rw [Store.get?_free_of_ne _ here] at found
    exact underway.own beyond found held

/-- A data unit around a buffer of the call is one of the call. -/
theorem confined_wrapBuffer {buffer : BufferId} (beyond : start.buffers.next ≤ buffer)
    (obtained : Bool) :
    Confined start scope (wrapBuffer obtained buffer) fun pxDu => start.dus.next ≤ pxDu := by
  cases obtained with
  | false => exact upholds_throw _
  | true =>
      intro node underway
      refine ⟨{ underway with own := ?_, nextDu := ?_ }, underway.nextDu⟩
      · intro other du held later found pointer
        by_cases new : other = node.dus.next
        · rw [new] at found
          have same := Option.some.inj (found.symm.trans (node.dus.get?_allocate_new _))
          rw [same] at pointer
          exact beyond.trans_eq (Option.some.inj pointer)
        · exact underway.own later
            ((Store.get?_allocate_of_ne node.dus _ new).symm.trans found) pointer
      · exact Nat.le_succ_of_le underway.nextDu

theorem confined_sendEvent (accepted : Bool) (event : StackEvent) :
    Confined start scope (xSendEventStructToIPCPTask accepted event) fun _ => True := by
  cases accepted with
  | false => exact upholds_pure trivial
  | true => exact fun _ underway => ⟨{ underway with }, trivial⟩

/-- The scope says nothing of the N-1 port but what it has received. -/
def Scope.OnlyReceived (scope : Scope β) : Prop :=
  ∀ {change : RmtN1Port → RmtN1Port}, (∀ port, (change port).received = port.received) →
    ∀ table, scope.n1Port table → scope.n1Port (table.map change)

theorem confined_modifyN1Port (only : scope.OnlyReceived) {change : RmtN1Port → RmtN1Port}
    (same : ∀ port, (change port).received = port.received) :
    Confined start scope (modifyN1Port change) fun _ => True :=
  upholds_modify fun _ underway => { underway with
    core := underway.core.trans (evolves_of_same rfl rfl)
    n1Port := only same _ underway.n1Port
    rows := underway.rows }

end Steps

/-! ## Data units -/

section DataUnits

variable {β : Type} {start : Node} {scope : Scope β} {pxDu : DuId}

theorem confined_duDestroy (beyond : start.dus.next ≤ pxDu) :
    Confined start scope (xDuDestroy pxDu) fun _ => True := by
  apply upholds_bind (confined_readDu beyond)
  intro du owned
  cases held : du.pxNetworkBuffer with
  | none => exact upholds_bind (confined_freeDu pxDu) fun _ _ => upholds_pure trivial
  | some buffer =>
      exact upholds_bind (confined_release (owned buffer held)) fun _ _ =>
        upholds_bind (confined_freeDu pxDu) fun _ _ => upholds_pure trivial

/-- Destroying a data unit and returning. -/
theorem confined_destroyed (beyond : start.dus.next ≤ pxDu) (result : Bool) :
    Confined start scope (do let _ ← xDuDestroy pxDu; return result : Rina Bool)
      fun _ => True :=
  upholds_bind (confined_duDestroy beyond) fun _ _ => upholds_pure trivial

theorem confined_readStorage {du : Du} (owned : Owned start du) :
    Confined start scope (readStorage du) fun storage => start.buffers.next ≤ storage.1 :=
  upholds_bind (confined_follow _) fun buffer held =>
    upholds_bind (confined_readBuffer buffer) fun _ _ =>
      upholds_bind (confined_follow _) fun _ _ => upholds_pure (owned buffer held)

theorem confined_readPayload (beyond : start.dus.next ≤ pxDu) :
    Confined start scope (readPayload pxDu) fun _ => True :=
  upholds_bind (confined_readDu beyond) fun _ _ =>
    upholds_bind (confined_follow _) fun _ _ =>
      upholds_bind (confined_readBuffer _) fun _ _ => confined_copyFrom _ _ _

theorem confined_readPci (beyond : start.dus.next ≤ pxDu) :
    Confined start scope (readPci pxDu) fun _ => True := by
  apply upholds_bind (confined_readDu beyond)
  intro du owned
  apply upholds_bind (confined_follow _)
  intro offset _
  apply upholds_bind (confined_readStorage owned)
  rintro ⟨buffer, descriptor, storage⟩ _
  dsimp only
  cases Pci.ofBytes (storage.drop offset) with
  | none => exact upholds_throw _
  | some pci => exact upholds_pure trivial

theorem confined_writePci (beyond : start.dus.next ≤ pxDu) (pci : Pci) :
    Confined start scope (writePci pxDu pci) fun _ => True := by
  apply upholds_bind (confined_readDu beyond)
  intro du owned
  apply upholds_bind (confined_follow _)
  intro offset _
  apply upholds_bind (confined_readStorage owned)
  intro storage within
  exact upholds_bind (confined_copyInto _ _ _) fun _ _ => confined_writeBuffer within _

theorem confined_duEncap (beyond : start.dus.next ≤ pxDu) (obtained : Bool) :
    Confined start scope (xDuEncap obtained pxDu) fun _ => True := by
  apply upholds_bind (confined_readDu beyond)
  intro du owned
  apply upholds_bind (confined_follow _)
  intro buffer held
  apply upholds_bind (confined_readBuffer buffer)
  intro descriptor _
  apply upholds_bind (confined_getNetworkBuffer obtained _)
  intro new within
  cases new with
  | none => exact upholds_pure trivial
  | some pxNewBuffer =>
      apply upholds_bind (confined_follow _)
      intro storage _
      apply upholds_bind (confined_copyFrom _ _ _)
      intro payload _
      apply upholds_bind (confined_copyInto _ _ _)
      intro filled _
      apply upholds_bind (confined_release (owned buffer held))
      intro _ _
      apply upholds_bind (confined_writeBuffer (within pxNewBuffer rfl) _)
      intro _ _
      have moved : Owned start { pxNetworkBuffer := some pxNewBuffer, pxPci := some 0 } :=
        fun other same => within other same
      exact upholds_bind (confined_writeDu moved pxDu) fun _ _ => upholds_pure trivial

end DataUnits

/-! ## Sending -/

section Sending

variable {β : Type} {start : Node} {scope : Scope β} {pxDu : DuId}

theorem confined_shimSduWrite (beyond : start.dus.next ≤ pxDu) (outcomes : Outcomes)
    (pxData : Bool) (xId : PortId) :
    Confined start scope (xShimIEEE802154SDUWrite outcomes pxData xId pxDu) fun _ => True := by
  apply upholds_ite (fun _ => upholds_pure trivial)
  intro _
  apply upholds_bind (confined_readDu beyond)
  intro du _
  apply upholds_bind (confined_follow _)
  intro buffer _
  apply upholds_bind (confined_readBuffer buffer)
  intro descriptor _
  apply upholds_ite (fun _ => confined_destroyed beyond false)
  intro _
  apply upholds_bind confined_readCore
  intro core _
  cases prvShimFindFlowByPortId xId core.xShimFlowsList with
  | none => exact confined_destroyed beyond false
  | some flow =>
      apply upholds_ite (fun _ => confined_destroyed beyond false)
      intro _
      apply upholds_bind (confined_getNetworkBuffer _ _)
      intro new within
      cases new with
      | none => exact confined_destroyed beyond false
      | some frame =>
          have fresh := within frame rfl
          apply upholds_bind (confined_follow _)
          intro storage _
          apply upholds_bind (confined_readPayload beyond)
          intro payload _
          apply upholds_bind (confined_copyInto _ _ _)
          intro filled _
          apply upholds_bind (confined_writeBuffer fresh _)
          intro _ _
          apply upholds_bind (confined_duDestroy beyond)
          intro _ _
          apply upholds_bind (confined_sendEvent _ _)
          intro accepted _
          apply upholds_ite (fun _ => upholds_pure trivial)
          exact fun _ => upholds_bind (confined_release fresh) fun _ _ => upholds_pure trivial

/-- Counting at the N-1 port and returning. -/
theorem confined_counted (only : scope.OnlyReceived) {change : RmtN1Port → RmtN1Port}
    (same : ∀ port, (change port).received = port.received) (result : Bool) :
    Confined start scope (do modifyN1Port change; return result : Rina Bool) fun _ => True :=
  upholds_bind (confined_modifyN1Port only same) fun _ _ => upholds_pure trivial

/-- Sending PDUs stays in the scope, however many. -/
structure Scope.Records {β : Type} (scope : Scope β) : Prop where
  pdus : ∀ pdus more, scope.sent pdus → scope.sent (pdus ++ more)
  n1Port : scope.OnlyReceived

theorem confined_recordSent (records : scope.Records) (pxDu : DuId) :
    Confined start scope (recordSent pxDu) fun _ => True :=
  upholds_modify fun _ underway => { underway with sent := records.pdus _ _ underway.sent }

theorem confined_rmtSendPortId (records : scope.Records) (beyond : start.dus.next ≤ pxDu)
    (outcomes : Outcomes) :
    Confined start scope (xRmtSendPortId outcomes pxDu) fun _ => True := by
  apply upholds_bind confined_readCore
  intro core _
  cases core.xPortIdTable with
  | none => exact confined_destroyed beyond false
  | some port =>
      have written : Confined start scope (xRmtN1PortWriteDu outcomes port pxDu)
          fun _ => True := by
        have send := upholds_bind (confined_recordSent records pxDu) fun _ _ =>
          @confined_shimSduWrite β start scope pxDu beyond outcomes port.pxN1Ipcp.pxData port.xPortId
        have faults : Confined start scope (throw .nullPointer : Rina PUnit) fun _ => True :=
          upholds_throw _
        exact upholds_ite (fun _ => upholds_bind faults fun _ _ => send) fun _ => send
      apply upholds_ite
      · exact fun _ => upholds_bind (confined_duDestroy beyond) fun _ _ =>
          confined_counted records.n1Port countError_received false
      · exact fun _ => upholds_bind (confined_modifyN1Port records.n1Port busy_received) fun _ _ =>
          upholds_bind written fun ret _ => confined_counted records.n1Port (countSent_received ret) true

theorem confined_normalMgmtDuWrite (records : scope.Records) (beyond : start.dus.next ≤ pxDu)
    (outcomes : Outcomes) (pxRmt : Option Rmt) (xPortId : PortId) :
    Confined start scope (xNormalMgmtDuWrite outcomes pxRmt xPortId pxDu) fun _ => True := by
  apply upholds_ite (fun _ => upholds_pure trivial)
  intro _
  apply upholds_bind (confined_duEncap beyond _)
  intro encapsulated _
  apply upholds_ite (fun _ => confined_destroyed beyond false)
  intro _
  apply upholds_bind (confined_readDu beyond)
  intro du owned
  apply upholds_bind (confined_readStorage owned)
  intro storage _
  apply upholds_bind (confined_writePci beyond _)
  intro _ _
  exact upholds_ite (fun _ => confined_rmtSendPortId records beyond outcomes)
    fun _ => confined_destroyed beyond false

/-- A reply of the RIB daemon goes out in a buffer and a data unit of its own. -/
theorem confined_sendReply (records : scope.Records) (reply : RibReply) :
    Confined start scope (sendReply reply) fun _ => True := by
  apply upholds_bind (confined_getNetworkBuffer _ _)
  intro new within
  apply upholds_bind (confined_follow new)
  intro buffer same
  apply upholds_bind (confined_copyBytes _ _)
  intro storage _
  apply upholds_bind (confined_writeBuffer (within buffer same) _)
  intro _ _
  apply upholds_bind confined_readCore
  intro core _
  apply upholds_bind (confined_wrapBuffer (within buffer same) _)
  intro pxDu beyond
  apply upholds_bind (confined_readBuffer _)
  intro descriptor _
  apply upholds_bind (confined_writeBuffer (within buffer same) _)
  intro _ _
  exact upholds_bind (confined_normalMgmtDuWrite records beyond _ _ _) fun _ _ =>
    upholds_pure trivial

end Sending

end RinaSense
