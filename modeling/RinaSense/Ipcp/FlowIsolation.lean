import RinaSense.Ipcp.ConnectionRuns
import RinaSense.Ipcp.FlowAnswer
import RinaSense.Ipcp.ReceiveConfinement
import RinaSense.Ipcp.ReceiveOwnership
import RinaSense.Ipcp.SentPdus
import RinaSense.Library.Trace

/-!
# Flows that are kept apart

An SDU written on a port is to leave with the CEP ids of a connection of that port, and a
received PDU is to be queued for the port that has the connection it names. All connections
have the same CEP id, and it leads to the newest of them. The module determines runs of the
normal IPCP in which the flows are kept apart all the same.
-/

namespace RinaSense

open Command

/-! ## Events -/

/-- A flow is prebound, requested or answered, an SDU is written on a port, or a data
transfer PDU comes in with its header pointer. -/
inductive NormalEvent where
  | prebind (pxData memory : Bool) (left : CepId) (pxFlowAllocateHandle : HandleId)
  | request (outcomes : FlowRequestOutcomes) (pxFlowAllocateHandle : HandleId)
  | respond (pxFlow : Option FlowResponse) (result : Int)
  | write (outcomes : Outcomes) (xAppPortId : PortId) (descriptor : NetworkBufferDescriptor)
  | receive (descriptor : NetworkBufferDescriptor) (pxPci : Option Nat)

namespace NormalEvent

/-- A flow is requested for the port of its handle. -/
def perform : NormalEvent → Rina Bool
  | prebind pxData memory left pxFlowAllocateHandle =>
      xNormalFlowPrebind pxData memory left pxFlowAllocateHandle
  | request outcomes pxFlowAllocateHandle => do
      let handle ← readHandle pxFlowAllocateHandle
      vFlowAllocatorFlowRequest outcomes handle.xPortId pxFlowAllocateHandle
      return true
  | respond pxFlow result => xFlowAllocatorHandleCreateR pxFlow result
  | write outcomes xAppPortId descriptor => do
      let node ← get
      set { node with buffers := (node.buffers.allocate descriptor).1 }
      xNormalDuWrite outcomes xAppPortId node.buffers.next
  | receive descriptor pxPci => do
      let node ← get
      set (node.takeIn descriptor pxPci)
      xRmtProcessDtPdu node.dus.next

end NormalEvent

/-- A normal IPCP without flows. -/
def Node.opened (start : Node) : Node :=
  { start with
    core := { start.core with
      efcps := .empty
      xEfcpImapTable := xEfcpImapCreate
      xFlowRequestTable := registered []
      xFlowsList := [] } }

/-! ## Purpose -/

/-- The port has the connections of the CEP id, and no other port has one. -/
structure Core.OwnedBy (core : Core) (xCepId : CepId) (xPortId : PortId) : Prop where
  held : ∃ efcp connection, core.Live efcp connection ∧ connection.xSourceCepId = xCepId ∧
    connection.xPortId = xPortId
  only : ∀ {efcp : EfcpId} {connection : Connection}, core.Live efcp connection →
    connection.xSourceCepId = xCepId → connection.xPortId = xPortId

/-- A data transfer PDU with the CEP ids of a connection of the port. -/
def Core.CarriesFor (core : Core) (xPortId : PortId) (pdu : List UInt8) : Prop :=
  ∃ efcp connection, core.Live efcp connection ∧ connection.xPortId = xPortId ∧
    connection.Carries pdu

namespace NormalEvent

/-- The header of the PDU that comes in. -/
def header? : NormalEvent → Option Pci
  | receive descriptor pxPci => headerOf { pxNetworkBuffer := none, pxPci } descriptor
  | _ => none

/-- The event brings a PDU for a CEP id of the port. -/
def Fills (core : Core) (xPortId : PortId) (event : NormalEvent) : Prop :=
  ∃ pci, event.header? = some pci ∧ core.OwnedBy pci.connectionId.xDestination xPortId

/-- A written SDU is sent for its port or not at all, only the queue of the port a PDU is for
changes, and all SDUs there were stay what they are. -/
structure Isolated (before : Node) (event : NormalEvent) (after : Node) : Prop where
  sent : ∀ {outcomes : Outcomes} {xAppPortId : PortId} {descriptor : NetworkBufferDescriptor},
    event = .write outcomes xAppPortId descriptor →
      after.sentPdus = before.sentPdus ∨
        ∃ pdu, before.core.CarriesFor xAppPortId pdu ∧ after.sentPdus = before.sentPdus ++ [pdu]
  queues : ∀ {handle : HandleId} {value : FlowAllocateHandle},
    before.handles.get? handle = some value →
      ∃ next, after.handles.get? handle = some next ∧
        (¬ event.Fills before.core value.xPortId →
          next.xListWaitingPackets = value.xListWaitingPackets)
  sdus : ∀ {buffer : BufferId} {descriptor : NetworkBufferDescriptor},
    before.buffers.get? buffer = some descriptor → after.buffers.get? buffer = some descriptor

/-! ## Condition -/

/-- An SDU that the newest connection gives to the N-1 IPCP is written on a port with a connection
to the same CEP id, and a PDU that gets to the queue of its port comes in while no other port has a
connection. -/
def Supported (before : Node) : NormalEvent → Prop
  | write outcomes xAppPortId descriptor =>
      outcomes.duMemory = true → before.core.pxEfcpc = true →
      ∀ flow, prvNormalFindFlow xAppPortId before.core.xFlowsList = some flow →
        flow.eState = .allocated → flow.xActive = hardcodedCepId →
          ∀ newest connection, before.core.Newest newest connection →
            before.core.Gives outcomes descriptor newest →
            ∃ efcp own, before.core.Live efcp own ∧ own.xPortId = xAppPortId ∧
              own.xDestinationCepId = connection.xDestinationCepId
  | receive descriptor pxPci =>
      ∀ pci, (receive descriptor pxPci).header? = some pci →
        pci.connectionId.xDestination = hardcodedCepId →
          ∀ newest connection pxFAI, before.core.Newest newest connection →
            before.core.Accepts connection.xPortId pxFAI →
              ∀ efcp other, before.core.Live efcp other → other.xPortId = connection.xPortId
  | _ => True

end NormalEvent

/-! ## Invariant -/

/-- The CEP id of all connections leads to the newest, and every registered instance has a
handle of its port. -/
structure Core.Consistent (core : Core) (handles : Store FlowAllocateHandle) : Prop where
  tracked : ∃ newest, core.Tracked newest
  ports : ∀ row ∈ core.xFlowRequestTable, ∀ pxFAI, row.pxFAI = some pxFAI →
    ∃ value, handles.get? pxFAI.pxFlowAllocatorHandle = some value ∧
      value.xPortId = pxFAI.xPortId

/-- A call leaves the buffers there were, the ports of the handles, and the queues of all
ports but some. -/
structure Calm (port : PortId → Prop) (start node : Node) : Prop where
  buffers : ∀ {buffer : BufferId}, buffer < start.buffers.next →
    node.buffers.get? buffer = start.buffers.get? buffer
  nextBuffer : start.buffers.next ≤ node.buffers.next
  handles : ∀ {handle : HandleId} {value : FlowAllocateHandle},
    start.handles.get? handle = some value →
      ∃ next, node.handles.get? handle = some next ∧ next.xPortId = value.xPortId ∧
        (¬ port value.xPortId → next.xListWaitingPackets = value.xListWaitingPackets)

/-- A call that handles flows is on its way: no queue has changed. -/
structure Handling (start node : Node) : Prop where
  calm : Calm (fun _ => False) start node
  core : node.core.Consistent start.handles

section Invariant

variable {port : PortId → Prop} {start middle node : Node}

theorem calm_refl (start : Node) : Calm port start start where
  buffers := fun _ => rfl
  nextBuffer := le_refl _
  handles := fun found => ⟨_, found, rfl, fun _ => rfl⟩

theorem Calm.trans (first : Calm port start middle) (second : Calm port middle node) :
    Calm port start node where
  buffers := fun old => (second.buffers (Nat.lt_of_lt_of_le old first.nextBuffer)).trans
    (first.buffers old)
  nextBuffer := first.nextBuffer.trans second.nextBuffer
  handles := fun found => by
    obtain ⟨between, still, samePort, same⟩ := first.handles found
    obtain ⟨next, remains, port, kept⟩ := second.handles still
    refine ⟨next, remains, port.trans samePort, fun outside => ?_⟩
    rw [samePort] at kept
    exact (kept outside).trans (same outside)

theorem Calm.widen {wider : PortId → Prop} (calm : Calm port start node)
    (within : ∀ xPortId, port xPortId → wider xPortId) : Calm wider start node where
  buffers := calm.buffers
  nextBuffer := calm.nextBuffer
  handles := fun found => by
    obtain ⟨next, still, samePort, same⟩ := calm.handles found
    exact ⟨next, still, samePort, fun outside => same fun inside => outside (within _ inside)⟩

/-- A call changes only the queues of the ports of its scope. -/
theorem calm_of_underway {β : Type} {scope : Scope β} (underway : Underway start scope node)
    (within : ∀ xPortId, scope.port xPortId → port xPortId) : Calm port start node where
  buffers := underway.buffers
  nextBuffer := underway.nextBuffer
  handles := fun found => by
    obtain ⟨next, still, samePort, same⟩ := underway.handles found
    refine ⟨next, still, samePort, fun outside => ?_⟩
    rw [same fun inside => outside (within _ inside)]

/-- The same instances and rows, whatever the handles were changed to. -/
theorem Core.Consistent.evolves {before after : Core} {handles : Store FlowAllocateHandle}
    (consistent : before.Consistent handles) (evolves : before.Evolves Efcp.identity after)
    (rows : after.xFlowRequestTable = before.xFlowRequestTable) : after.Consistent handles where
  tracked := by
    obtain ⟨newest, tracked⟩ := consistent.tracked
    exact ⟨newest, tracked.evolves evolves⟩
  ports := by
    rw [rows]
    exact consistent.ports

/-- After a call the registered instances have the handles they had. -/
theorem Calm.consistent (calm : Calm port start node)
    (consistent : node.core.Consistent start.handles) : node.core.Consistent node.handles where
  tracked := consistent.tracked
  ports := fun row member pxFAI held => by
    obtain ⟨value, found, same⟩ := consistent.ports row member pxFAI held
    obtain ⟨next, still, samePort, -⟩ := calm.handles found
    exact ⟨next, still, samePort.trans same⟩

theorem consistent_opened (start : Node) : start.opened.core.Consistent start.opened.handles where
  tracked := ⟨none, tracked_none (fun efcp => Store.get?_empty efcp) rfl⟩
  ports := fun row member pxFAI held => by
    rw [List.eq_of_mem_replicate member] at held
    cases held

end Invariant

/-! ## Handling flows -/

section Handling

variable {start node : Node}

theorem handling_start (consistent : start.core.Consistent start.handles) : Handling start start :=
  ⟨calm_refl start, consistent⟩

theorem handling_readCore :
    Upholds (Handling start) readCore fun core => core.Consistent start.handles :=
  fun _ handling => ⟨handling, handling.core⟩

theorem handling_writeCore {core : Core} (consistent : core.Consistent start.handles) :
    Upholds (Handling start) (writeCore core) fun _ => True :=
  upholds_modify fun _ handling => ⟨{ handling.calm with }, consistent⟩

theorem handling_readHandle (handle : HandleId) :
    Upholds (Handling start) (readHandle handle) fun value =>
      ∀ old, start.handles.get? handle = some old → value.xPortId = old.xPortId ∧
        value.xListWaitingPackets = old.xListWaitingPackets := by
  intro node handling
  cases found : node.handles.get? handle with
  | none =>
      have run : (readHandle handle).run node = .error .released node := by
        simp [readHandle, found]
      rw [run]
      exact handling
  | some value =>
      have run : (readHandle handle).run node = .ok value node := by simp [readHandle, found]
      rw [run]
      refine ⟨handling, fun old was => ?_⟩
      obtain ⟨next, still, samePort, same⟩ := handling.calm.handles was
      rw [Option.some.inj (found.symm.trans still)]
      exact ⟨samePort, same id⟩

/-- A handle may be replaced by one of the same port with the same queue. -/
theorem handling_setHandle {handle : HandleId} {value : FlowAllocateHandle}
    (same : ∀ old, start.handles.get? handle = some old → value.xPortId = old.xPortId ∧
      value.xListWaitingPackets = old.xListWaitingPackets) :
    Upholds (Handling start)
      (modify fun node : Node => { node with handles := node.handles.set handle value } :
        Rina Unit) fun _ => True := by
  apply upholds_modify
  intro node handling
  refine ⟨{ handling.calm with handles := fun {other} {old} was => ?_ }, handling.core⟩
  obtain ⟨next, still, samePort, kept⟩ := handling.calm.handles was
  by_cases here : other = handle
  · rw [here] at was still
    rw [here]
    exact ⟨value, Store.get?_set_self still value, (same old was).1, fun _ => (same old was).2⟩
  · exact ⟨next, (Store.get?_set_of_ne _ here _).trans still, samePort, kept⟩

theorem handling_flowPrebind (pxData memory : Bool) (left : CepId) (handle : HandleId) :
    Upholds (Handling start) (xNormalFlowPrebind pxData memory left handle) fun _ => True := by
  apply upholds_bind (handling_readHandle handle)
  intro value _
  apply upholds_ite (fun _ => upholds_pure trivial)
  intro _
  apply upholds_ite (fun _ => upholds_pure trivial)
  intro _
  apply upholds_bind handling_readCore
  intro core consistent
  have same : core.Evolves Efcp.identity { core with
    xFlowsList := vRsListInsert core.xFlowsList
      { xPortId := value.xPortId, eState := .pending, xActive := left } } := evolves_of_same rfl rfl
  exact upholds_bind (handling_writeCore (consistent.evolves same rfl)) fun _ _ =>
    upholds_pure trivial

/-- Changing a flow leaves the connections and the rows. -/
theorem handling_updateFlow (xPortId : PortId) (change : NormalFlow → NormalFlow) :
    Upholds (Handling start) (updateFlow xPortId change) fun _ => True := by
  apply upholds_bind handling_readCore
  intro core consistent
  cases prvNormalFindFlow xPortId core.xFlowsList with
  | none => exact upholds_pure trivial
  | some flow =>
      have same : core.Evolves Efcp.identity { core with
        xFlowsList := changeFlow xPortId change core.xFlowsList } := evolves_of_same rfl rfl
      exact upholds_bind (handling_writeCore (consistent.evolves same rfl)) fun _ _ =>
        upholds_pure trivial

/-- A call may send PDUs, but it changes no queue and no row. -/
def managing (start : Node) : Scope (EfcpState × Option (PortId × CepId)) where
  view := Efcp.identity
  n1Port := fun _ => True
  sent := fun _ => True
  port := fun _ => False
  rows := fun rows => rows = start.core.xFlowRequestTable

theorem handling_sendReply (reply : RibReply) :
    Upholds (Handling start) (sendReply reply) fun _ => True := by
  intro node handling
  have records : (managing node).Records := ⟨fun _ _ _ => trivial, fun _ _ _ => trivial⟩
  have begins : Underway node (managing node) node := underway_start trivial rfl trivial
  have underway := (confined_sendReply records reply).final begins
  have ends : Handling start (final ((sendReply reply).run node)) :=
    ⟨handling.calm.trans (calm_of_underway underway fun _ none => none),
      handling.core.evolves underway.core underway.rows⟩
  cases run : (sendReply reply).run node with
  | error fault next =>
      rw [run] at ends
      exact ends
  | ok value next =>
      rw [run] at ends
      exact ⟨ends, trivial⟩

/-! ## Creating connections -/

theorem Handling.withCore (handling : Handling start node) {core : Core}
    (consistent : core.Consistent start.handles) : Handling start { node with core } :=
  ⟨{ handling.calm with }, consistent⟩

/-- Where a call that handles flows ends. An aborted one may leave an instance that no CEP id
leads to. -/
def Handled {α : Type} (start : Node) : EStateM.Result Fault Node α → Prop
  | .ok _ next => Handling start next
  | .error _ next => Calm (fun _ => False) start next

theorem handled_of_upholds {α : Type} {command : Rina α} {post : α → Prop}
    (upholds : Upholds (Handling start) command post) (handling : Handling start node) :
    Handled start (command.run node) := by
  have ends := upholds node handling
  cases run : command.run node with
  | error fault next =>
      rw [run] at ends
      exact ends.calm
  | ok value next =>
      rw [run] at ends
      exact ends.1

theorem Handled.andThen {α β : Type} {command : Rina α} {rest : α → Rina β}
    (handled : Handled start (command.run node))
    (goesOn : ∀ value next, Handling start next → Handled start ((rest value).run next)) :
    Handled start ((command >>= rest).run node) := by
  rw [EStateM.run_bind]
  cases run : command.run node with
  | error fault next =>
      rw [run] at handled
      exact handled
  | ok value next =>
      rw [run] at handled
      exact goesOn value next handled

/-- The connection that is created is the newest then. -/
theorem consistent_created {core : Core} {handles : Store FlowAllocateHandle}
    (consistent : core.Consistent handles) {value : Efcp} {connection : Connection}
    (allocated : value.xState = .allocated) (held : value.pxConnection = some connection)
    (key : connection.xSourceCepId = hardcodedCepId) :
    (core.created value).Consistent handles where
  tracked := by
    obtain ⟨newest, tracked⟩ := consistent.tracked
    exact ⟨_, tracked.created allocated held key⟩
  ports := consistent.ports

theorem consistent_undone {core : Core} {handles : Store FlowAllocateHandle}
    (consistent : core.Consistent handles) (value : Efcp) :
    (core.undone value).Consistent handles :=
  consistent.evolves (evolves_undone core value) rfl

theorem connectionCreate_handled (handling : Handling start node) (request : ConnectionRequest)
    (outcomes : ConnectionOutcomes) :
    Handled start ((xEfcpConnectionCreate request outcomes).run node) := by
  by_cases reached : ReachesInstance request outcomes node
  · obtain ⟨newest, tracked⟩ := handling.core.tracked
    cases portId : isPortIdOk request.xPortId with
    | false =>
        rw [run_xEfcpConnectionCreate_portId reached portId]
        split
        · exact { handling.calm with }
        · exact handling.withCore (consistent_undone handling.core _)
    | true =>
        cases dtp : node.core.xEfcpcRmt && outcomes.dtpMemory with
        | false =>
            rw [run_xEfcpConnectionCreate_dtp reached portId dtp]
            split
            · exact { handling.calm with }
            · exact handling.withCore (consistent_undone handling.core _)
        | true =>
            cases svMemory : outcomes.svMemory with
            | false =>
                rw [run_xEfcpConnectionCreate_sv reached portId dtp svMemory]
                exact { handling.calm with }
            | true =>
                rw [run_xEfcpConnectionCreate_created reached portId dtp svMemory
                  tracked.table.ne_nil]
                exact handling.withCore (consistent_created handling.core rfl rfl rfl)
  · rcases run_xEfcpConnectionCreate_unreached reached with refused | aborted
    · rw [refused]
      exact handling
    · rw [aborted]
      exact handling.calm

/-- A registered instance has a handle of its port. -/
theorem consistent_registered {core : Core} {handles : Store FlowAllocateHandle}
    (consistent : core.Consistent handles) {pxFAI : FlowAllocatorInstance}
    {value : FlowAllocateHandle}
    (found : handles.get? pxFAI.pxFlowAllocatorHandle = some value)
    (port : value.xPortId = pxFAI.xPortId) :
    { core with xFlowRequestTable :=
        prvAddFlowRequestEntry pxFAI core.xFlowRequestTable : Core }.Consistent handles where
  tracked := by
    obtain ⟨newest, tracked⟩ := consistent.tracked
    exact ⟨newest, tracked.evolves (evolves_of_same rfl rfl)⟩
  ports := fun row member other held => by
    rw [prvAddFlowRequestEntry_eq] at member
    rcases SlotTable.mem_insert member with new | old
    · rw [new] at held
      rw [← Option.some.inj held]
      exact ⟨value, found, port⟩
    · exact consistent.ports row old other held

theorem flowRequest_handled (handling : Handling start node) (outcomes : FlowRequestOutcomes)
    {handle : HandleId} {value : FlowAllocateHandle}
    (found : start.handles.get? handle = some value) :
    Handled start ((vFlowAllocatorFlowRequest outcomes value.xPortId handle).run node) := by
  rw [vFlowAllocatorFlowRequest]
  cases outcomes.flowMemory with
  | false => exact handling.calm
  | true =>
      cases outcomes.faiMemory with
      | false => exact handling.calm
      | true =>
          simp only [Bool.not_true, Bool.false_eq_true, if_false]
          rw [run_bind_ok run_readCore, run_bind_ok (run_writeCore _)]
          have entered := handling.withCore (@consistent_registered _ _ handling.core
            ⟨value.xPortId, .none, handle⟩ _ found rfl)
          cases outcomes.neighbour with
          | none => exact entered
          | some xRemoteAddress =>
              apply Handled.andThen
              · apply Handled.andThen (connectionCreate_handled entered _ _)
                intro xCepId next created
                cases isCepIdOk xCepId with
                | false => exact created
                | true => exact created
              · intro xCepId next created
                apply Handled.andThen (handled_of_upholds (handling_updateFlow _ _) created)
                intro _ next updated
                cases outcomes.connectionIdMemory with
                | false => exact updated.calm
                | true => exact handled_of_upholds (handling_sendReply _) updated

/-! ## Changing connections -/

/-- A change that leaves the port and the CEP id of a connection. -/
def KeepsIdentity (change : Connection → Connection) : Prop :=
  ∀ connection, (change connection).xPortId = connection.xPortId ∧
    (change connection).xSourceCepId = connection.xSourceCepId

/-- The instance a CEP id leads to is that of the newest connection, so it is in use. -/
theorem handling_changeByCepId {change : Connection → Connection} (keeps : KeepsIdentity change)
    (key : CepId) : Upholds (Handling start) (changeByCepId key change) fun _ => True := by
  intro node handling
  have looked := handling.withCore (handling.core.evolves (evolves_lookUp node.core key) rfl)
  cases led : node.core.resolve key with
  | none =>
      rw [run_changeByCepId_absent led]
      exact ⟨looked, trivial⟩
  | some efcp =>
      obtain ⟨newest, tracked⟩ := handling.core.tracked
      obtain ⟨-, connection, last⟩ := tracked.resolved led
      obtain ⟨value, found, allocated, held⟩ := last.live
      have present : (node.lookUp key).core.efcps.get? efcp = some value := found
      rw [run_changeByCepId_found led, run_changeConnection present allocated held]
      have same : Efcp.identity { value with pxConnection := some (change connection) } =
          Efcp.identity value := by
        simp only [Efcp.identity, held, Option.map_some, (keeps connection).1,
          (keeps connection).2]
      exact ⟨looked.withCore (looked.core.evolves (evolves_setEfcp present same) rfl), trivial⟩

theorem handling_connectionModify (xCepId : CepId) (xSrc xDst : Address) :
    Upholds (Handling start) (xNormalConnectionModify xCepId xSrc xDst) fun _ => True := by
  apply upholds_bind handling_readCore
  intro core _
  apply upholds_ite (fun _ => upholds_pure trivial)
  intro _
  have keeps : KeepsIdentity fun connection =>
      { connection with xSourceAddress := xSrc, xDestinationAddress := xDst } :=
    fun _ => ⟨rfl, rfl⟩
  have modify : Upholds (Handling start) (xEfcpConnectionModify xCepId xSrc xDst)
      fun _ => True :=
    upholds_bind handling_readCore fun _ _ => upholds_ite (fun _ => upholds_pure trivial) fun _ =>
      handling_changeByCepId keeps xCepId
  exact upholds_bind modify fun _ _ =>
    upholds_ite (fun _ => upholds_pure trivial) fun _ => upholds_pure trivial

theorem handling_connectionUpdate (xAppPortId : PortId) (xSrcCepId xDstCepId : CepId) :
    Upholds (Handling start) (xNormalConnectionUpdate xAppPortId xSrcCepId xDstCepId)
      fun _ => True := by
  have keeps : KeepsIdentity fun connection =>
      { connection with xDestinationCepId := xDstCepId } := fun _ => ⟨rfl, rfl⟩
  have update : Upholds (Handling start) (xEfcpConnectionUpdate xSrcCepId xDstCepId)
      fun _ => True :=
    upholds_bind handling_readCore fun _ _ => upholds_ite (fun _ => upholds_pure trivial) fun _ =>
      upholds_ite (fun _ => upholds_pure trivial) fun _ =>
        upholds_ite (fun _ => upholds_pure trivial) fun _ =>
          handling_changeByCepId keeps xSrcCepId
  exact upholds_bind update fun _ _ => upholds_ite (fun _ => upholds_pure trivial) fun _ =>
    handling_updateFlow xAppPortId _

/-- An instance that is allocated keeps its port and its handle. -/
theorem consistent_allocated {core : Core} {handles : Store FlowAllocateHandle}
    (consistent : core.Consistent handles) :
    Core.Consistent
      { core with
        xFlowRequestTable := changeFirstInstance (fun fai => { fai with eFaiState := .allocated })
          core.xFlowRequestTable } handles where
  tracked := by
    obtain ⟨newest, tracked⟩ := consistent.tracked
    exact ⟨newest, tracked.evolves (evolves_of_same rfl rfl)⟩
  ports := fun row member pxFAI held => by
    cases table : core.xFlowRequestTable with
    | nil =>
        rw [table] at member
        cases member
    | cons first rows =>
        rw [table] at member
        rcases List.mem_cons.mp member with new | old
        · rw [new] at held
          obtain ⟨was, before, same⟩ := Option.map_eq_some_iff.mp held
          rw [← same]
          exact consistent.ports first (table ▸ List.mem_cons_self) was before
        · exact consistent.ports row (table ▸ List.mem_cons_of_mem _ old) pxFAI held

theorem handling_createR (pxFlow : Option FlowResponse) (result : Int) :
    Upholds (Handling start) (xFlowAllocatorHandleCreateR pxFlow result) fun _ => True := by
  cases pxFlow with
  | none => exact upholds_pure trivial
  | some response =>
      apply upholds_ite (fun _ => upholds_pure trivial)
      intro _
      have find : Upholds (Handling start) (pxFAFindInstance response.xDestinationPortId)
          fun _ => True := by
        apply upholds_bind handling_readCore
        intro core _
        apply upholds_of_still
        intro node
        by_cases invalid : ∀ row ∈ core.xFlowRequestTable, row.xValid = false
        · rw [run_findInstanceFrom_none invalid]
          rfl
        · rw [run_findInstanceFrom invalid]
          cases core.xFlowRequestTable.head?.bind FlowRequestRow.pxFAI with
          | none => rfl
          | some first => rfl
      apply upholds_bind find
      intro found _
      cases found with
      | none => exact upholds_pure trivial
      | some pxFAI =>
          apply upholds_bind (handling_connectionModify _ _ _)
          intro modified _
          apply upholds_ite (fun _ => upholds_pure trivial)
          intro _
          apply upholds_bind (handling_connectionUpdate _ _ _)
          intro updated _
          apply upholds_ite (fun _ => upholds_pure trivial)
          intro _
          apply upholds_bind handling_readCore
          intro core consistent
          apply upholds_bind (handling_writeCore (consistent_allocated consistent))
          intro _ _
          apply upholds_bind (handling_readHandle _)
          intro handle same
          exact upholds_bind (handling_setHandle same) fun _ _ => upholds_pure trivial

end Handling

/-! ## Data -/

section Data

variable {node : Node} {outcomes : Outcomes} {xAppPortId : PortId}
  {descriptor : NetworkBufferDescriptor} {pxPci : Option Nat}

/-- What the container sends for a CEP id has the ids of the connection that leads to. -/
theorem containerWrite_sends {carries : List UInt8 → Prop} {xCepId : CepId}
    (bound : node.core.pxEfcpc = true → ∀ {pxEfcp : EfcpId} {connection : Connection},
      node.core.resolve xCepId = some pxEfcp → node.core.Live pxEfcp connection →
        node.core.Gives outcomes descriptor pxEfcp →
          ∀ {pdu : List UInt8}, connection.Carries pdu → carries pdu) :
    Sends node carries (final ((xEfcpContainerWrite outcomes xCepId node.dus.next).run
      (node.takeIn descriptor none))) := by
  have taken : Underway node (sending node node.sentPdus) (node.takeIn descriptor none) :=
    underway_takeIn trivial rfl rfl descriptor none
  have looked : Underway node (sending node node.sentPdus)
      { node.takeIn descriptor none with core := node.core.lookUp xCepId } :=
    { taken with core := evolves_lookUp _ _, rows := rfl }
  rw [xEfcpContainerWrite]
  cases isCepIdOk xCepId with
  | false => exact sends_of_confined (confined_destroyed (le_refl _) false) taken
  | true =>
      simp only [Bool.not_true, Bool.false_eq_true, if_false]
      rw [run_bind_ok run_readCore, takeIn_core]
      cases container : node.core.pxEfcpc with
      | false => exact .inl taken
      | true =>
          simp only [Bool.not_true, Bool.false_eq_true, if_false]
          rw [run_bind_ok (run_efcpImapFind xCepId _), takeIn_core]
          cases led : (pxEfcpImapFind xCepId node.core.xEfcpImapTable).2 with
          | none => exact sends_of_confined (confined_destroyed (le_refl _) false) looked
          | some pxEfcp =>
              simp only
              cases stored : node.core.efcps.get? pxEfcp with
              | none =>
                  have absent := run_readEfcp_absent (show ({ node.takeIn descriptor none with
                    core := node.core.lookUp xCepId } : Node).core.efcps.get? pxEfcp = none
                      from stored)
                  rw [run_bind_error absent]
                  exact .inl looked
              | some efcp =>
                  have present := run_readEfcp (show ({ node.takeIn descriptor none with
                    core := node.core.lookUp xCepId } : Node).core.efcps.get? pxEfcp = some efcp
                      from stored)
                  rw [run_bind_ok present]
                  cases state : efcp.xState with
                  | deallocated =>
                      exact sends_of_confined (confined_destroyed (le_refl _) false) looked
                  | allocated =>
                      apply dtpWrite_sends looked (le_refl _)
                        ((owns_takeIn node descriptor none).withCore _) stored
                      intro gives connection held
                      exact bound container led ⟨efcp, stored, state, held⟩
                        ⟨gives.encapBuffer, gives.fits, gives.away, gives.sends.rmt,
                          gives.sends.port⟩

/-- An SDU of a port goes out with the ids of a connection of that port. -/
theorem normalWrite_sends (consistent : node.core.Consistent node.handles)
    (supported : NormalEvent.Supported node (.write outcomes xAppPortId descriptor)) :
    Sends node (node.core.CarriesFor xAppPortId)
      (final ((NormalEvent.write outcomes xAppPortId descriptor).perform.run node)) := by
  have run : (NormalEvent.write outcomes xAppPortId descriptor).perform.run node =
    (xNormalDuWrite outcomes xAppPortId node.buffers.next).run
      { node with buffers := (node.buffers.allocate descriptor).1 } := rfl
  have taken : Underway node (sending node node.sentPdus) (node.takeIn descriptor none) :=
    underway_takeIn trivial rfl rfl descriptor none
  rw [run, xNormalDuWrite]
  cases memory : outcomes.duMemory with
  | false =>
      have begins : Underway node (sending node node.sentPdus) node :=
        underway_start trivial rfl rfl
      exact .inl { begins with
        buffers := fun old => node.buffers.get?_allocate_of_lt _ old
        nextBuffer := Nat.le_succ _ }
  | true =>
      have wrapped : (wrapBuffer true node.buffers.next).run
          { node with buffers := (node.buffers.allocate descriptor).1 } =
        .ok node.dus.next (node.takeIn descriptor none) := rfl
      rw [run_bind_ok wrapped, run_bind_ok run_readCore, takeIn_core]
      cases listed : prvNormalFindFlow xAppPortId node.core.xFlowsList with
      | none => exact sends_of_confined (confined_destroyed (le_refl _) false) taken
      | some flow =>
          by_cases allocated : flow.eState = .allocated
          · simp only [allocated, ne_eq, not_true_eq_false, if_false]
            apply containerWrite_sends
            intro container pxEfcp connection led live gives pdu carries
            obtain ⟨newest, tracked⟩ := consistent.tracked
            obtain ⟨key, last, isNewest⟩ := tracked.resolved led
            obtain ⟨efcp, own, ownLive, port, destination⟩ :=
              supported memory container flow listed allocated key pxEfcp last isNewest gives
            obtain ⟨pci, parsed, type, sourceId, destinationId⟩ := carries
            rw [live.unique isNewest.live] at sourceId destinationId
            exact ⟨efcp, own, ownLive, port, pci, parsed, type,
              sourceId.trans ((tracked.source isNewest.live).trans (tracked.source ownLive).symm),
              destinationId.trans destination.symm⟩
          · simp only [allocated, ne_eq, not_false_eq_true, if_true]
            exact sends_of_confined (confined_destroyed (le_refl _) false) taken

/-- A received PDU changes only the queue of the port that has its connection, whatever it does
to a state vector. -/
def delivering (start : Node) (xCepId : CepId) : Scope (EfcpState × Option (PortId × CepId)) where
  view := Efcp.identity
  n1Port := fun _ => True
  sent := fun pdus => pdus = start.sentPdus
  port := start.core.OwnedBy xCepId
  rows := fun rows => rows = start.core.xFlowRequestTable

/-- What the container is handed gets to no queue but that of the port of the CEP id. -/
theorem containerReceive_delivers (consistent : node.core.Consistent node.handles)
    (supported : NormalEvent.Supported node (.receive descriptor pxPci)) {pci : Pci}
    (header : (NormalEvent.receive descriptor pxPci).header? = some pci) :
    Confined node (delivering node pci.connectionId.xDestination)
      (xEfcpContainerReceive pci.connectionId.xDestination node.dus.next) fun _ => True := by
  apply confined_efcpContainerReceive (fun _ rows => rows)
  · exact fun _ _ _ _ => rfl
  · intro efcp connection pci held
    have noted : (connection.noteReceived pci).xPortId = connection.xPortId ∧
        (connection.noteReceived pci).xSourceCepId = connection.xSourceCepId := by
      rw [Connection.noteReceived]
      split
      · exact ⟨rfl, rfl⟩
      · exact ⟨rfl, rfl⟩
    simp only [delivering, Efcp.identity, held, Option.map_some, noted.1, noted.2]
  · exact le_refl _
  · intro pxEfcp led efcp connection seen held pxFAI value accepts found
    obtain ⟨newest, tracked⟩ := consistent.tracked
    obtain ⟨key, last, isNewest⟩ := tracked.resolved led
    have same : connection.xPortId = last.xPortId := by
      have shown := Option.some.inj (seen.symm.trans isNewest.live.identity)
      have ids := (Prod.mk.inj shown).2
      rw [held] at ids
      exact (Prod.mk.inj (Option.some.inj ids)).1
    obtain ⟨row, head, first⟩ := Option.bind_eq_some_iff.mp accepts.first
    obtain ⟨handle, known, port⟩ :=
      consistent.ports row (List.mem_of_head? head) pxFAI first
    have owner : value.xPortId = last.xPortId := by
      rw [Option.some.inj (found.symm.trans known), port, accepts.port, same]
    rw [same] at accepts
    have alone := supported pci header key pxEfcp last pxFAI isNewest accepts
    rw [owner]
    exact ⟨⟨pxEfcp, last, isNewest.live, (tracked.source isNewest.live).trans key.symm, rfl⟩,
      fun live _ => alone _ _ live⟩

/-- Where a received PDU ends: only the queue of the port it is for has changed, and every
instance is what it was. -/
theorem receive_calm (consistent : node.core.Consistent node.handles)
    (supported : NormalEvent.Supported node (.receive descriptor pxPci)) :
    Calm (fun xPortId => (NormalEvent.receive descriptor pxPci).Fills node.core xPortId) node
        (final ((NormalEvent.receive descriptor pxPci).perform.run node)) ∧
      (final ((NormalEvent.receive descriptor pxPci).perform.run node)).core.Consistent
        node.handles := by
  have run : (NormalEvent.receive descriptor pxPci).perform.run node =
    (xRmtProcessDtPdu node.dus.next).run (node.takeIn descriptor pxPci) := rfl
  rw [run, xRmtProcessDtPdu]
  have owns := owns_takeIn node descriptor pxPci
  cases header : (NormalEvent.receive descriptor pxPci).header? with
  | none =>
      obtain ⟨fault, faulted⟩ := run_readPci_headless owns header
      have taken : Underway node (managing node) (node.takeIn descriptor pxPci) :=
        underway_takeIn trivial rfl trivial descriptor pxPci
      rw [run_bind_error faulted]
      exact ⟨calm_of_underway taken fun _ none => False.elim none, consistent⟩
  | some pci =>
      have taken : Underway node (delivering node pci.connectionId.xDestination)
          (node.takeIn descriptor pxPci) := underway_takeIn trivial rfl rfl descriptor pxPci
      rw [run_bind_ok (run_readPci owns header)]
      have delivers : Confined node (delivering node pci.connectionId.xDestination) (do
          if !isAddressOk pci.xDestination then
            let _ ← xDuDestroy node.dus.next
            return false
          if pci.xType = pduTypeMgmt then
            let _ ← xDuDestroy node.dus.next
            return false
          if !isCepIdOk pci.connectionId.xDestination then
            let _ ← xDuDestroy node.dus.next
            return false
          xEfcpContainerReceive pci.connectionId.xDestination node.dus.next : Rina Bool)
            fun _ => True := by
        apply upholds_ite (fun _ => confined_destroyed (le_refl _) false)
        intro _
        apply upholds_ite (fun _ => confined_destroyed (le_refl _) false)
        intro _
        apply upholds_ite (fun _ => confined_destroyed (le_refl _) false)
        exact fun _ => containerReceive_delivers consistent supported header
      have delivered := delivers.final taken
      exact ⟨calm_of_underway delivered fun _ owned => ⟨pci, header, owned⟩,
        consistent.evolves delivered.core delivered.rows⟩

theorem write_calm (consistent : node.core.Consistent node.handles)
    (supported : NormalEvent.Supported node (.write outcomes xAppPortId descriptor)) :
    Handling node
      (final ((NormalEvent.write outcomes xAppPortId descriptor).perform.run node)) := by
  have coarser {core : Core} (evolves : node.core.Evolves Efcp.binding core) :
      node.core.Evolves Efcp.identity core :=
    evolves.coarser (fun (state, pxConnection) => (state, pxConnection.map fun connection =>
      (connection.xPortId, connection.xSourceCepId))) fun _ => rfl
  rcases normalWrite_sends consistent supported with none | ⟨pdu, -, one⟩
  · exact ⟨calm_of_underway none fun _ none => none,
      consistent.evolves (coarser none.core) none.rows⟩
  · exact ⟨calm_of_underway one fun _ none => none,
      consistent.evolves (coarser one.core) one.rows⟩

end Data

/-! ## Runs -/

namespace NormalEvent

section Runs

variable {before : Node} {event : NormalEvent}

/-- A call that changes only the queue a PDU is for, and sends nothing it should not. -/
theorem isolated_of_calm {after : Node}
    (calm : Calm (fun xPortId => event.Fills before.core xPortId) before after)
    (sent : ∀ {outcomes : Outcomes} {xAppPortId : PortId} {descriptor : NetworkBufferDescriptor},
      event = .write outcomes xAppPortId descriptor →
        Sends before (before.core.CarriesFor xAppPortId) after) : event.Isolated before after where
  sent := fun same => by
    rcases sent same with none | ⟨pdu, carries, one⟩
    · exact .inl none.sent
    · exact .inr ⟨pdu, carries, one.sent⟩
  queues := fun found => by
    obtain ⟨next, still, -, same⟩ := calm.handles found
    exact ⟨next, still, same⟩
  sdus := fun found => (calm.buffers (Store.lt_next found)).trans found

/-- A call that handles flows fills no queue, and if it returns the tables fit together. -/
theorem settles_of_handled {result : EStateM.Result Fault Node Bool}
    (handled : Handled before result) :
    Calm (fun xPortId => event.Fills before.core xPortId) before (final result) ∧
      ∀ value next, result = .ok value next → next.core.Consistent before.handles := by
  cases result with
  | error fault next =>
      have calm : Calm (fun _ => False) before next := handled
      refine ⟨calm.widen fun _ none => False.elim none, ?_⟩
      intro value other returned
      cases returned
  | ok value next =>
      have handled : Handling before next := handled
      refine ⟨handled.calm.widen fun _ none => False.elim none, ?_⟩
      rintro _ _ ⟨⟩
      exact handled.core

theorem request_handled (consistent : before.core.Consistent before.handles)
    (outcomes : FlowRequestOutcomes) (handle : HandleId) :
    Handled before ((request outcomes handle).perform.run before) := by
  have handling := handling_start consistent
  rw [perform]
  cases found : before.handles.get? handle with
  | none =>
      have absent : (readHandle handle).run before = .error .released before := by
        simp [readHandle, found]
      rw [run_bind_error absent]
      exact handling.calm
  | some value =>
      have present : (readHandle handle).run before = .ok value before := by
        simp [readHandle, found]
      rw [run_bind_ok present]
      apply Handled.andThen (flowRequest_handled handling outcomes found)
      exact fun _ _ requested => requested

/-- What an event does to the queues and the tables. -/
theorem perform_settles (consistent : before.core.Consistent before.handles)
    (supported : NormalEvent.Supported before event) :
    Calm (fun xPortId => event.Fills before.core xPortId) before
        (final (event.perform.run before)) ∧
      ∀ value next, event.perform.run before = .ok value next →
        next.core.Consistent before.handles := by
  have handling := handling_start consistent
  cases event with
  | prebind pxData memory left handle =>
      exact settles_of_handled (handled_of_upholds (handling_flowPrebind _ _ _ _) handling)
  | request outcomes handle => exact settles_of_handled (request_handled consistent _ _)
  | respond pxFlow result =>
      exact settles_of_handled (handled_of_upholds (handling_createR _ _) handling)
  | write outcomes xAppPortId descriptor =>
      have written := write_calm consistent supported
      refine ⟨written.calm.widen fun _ none => False.elim none, fun value next run => ?_⟩
      rw [run] at written
      exact written.core
  | receive descriptor pxPci =>
      obtain ⟨calm, kept⟩ := receive_calm consistent supported
      refine ⟨calm, fun value next run => ?_⟩
      rw [run] at kept
      exact kept

end Runs

/-- In a run of supported events the flows are kept apart, whatever flows are bound and in
whatever order. -/
theorem run_isolated (start : Node) (events : List NormalEvent)
    (supported : ∀ occurrence ∈ Trace.trace perform events start.opened,
      occurrence.event.Supported occurrence.before) :
    ∀ occurrence ∈ Trace.trace perform events start.opened,
      occurrence.event.Isolated occurrence.before occurrence.after := by
  apply Trace.proper_of_returned (fun node : Node => node.core.Consistent node.handles) Supported
    (fun before event result => Isolated before event (final result))
  · intro before event consistent isSupported
    apply isolated_of_calm (perform_settles consistent isSupported).1
    rintro outcomes xAppPortId descriptor rfl
    exact normalWrite_sends consistent isSupported
  · intro before event value next consistent isSupported run
    have settles := perform_settles consistent isSupported
    have calm := settles.1
    rw [run] at calm
    exact calm.consistent (settles.2 value next run)
  · exact consistent_opened start
  · exact supported

/-! ## Two flows -/

/-- A node with applications that wait for flows on the ports 1 and 2. -/
def waitingNode : Node :=
  { Node.linked with
    core := { Node.linked.core with xEfcpcRmt := true }
    handles :=
      ((Store.empty.allocate ⟨1, [], false, false⟩).1.allocate ⟨2, [], false, false⟩).1 }

/-- All memory is there, and the request is encoded but not sent. -/
def requestOutcomes : FlowRequestOutcomes where
  flowMemory := true
  faiMemory := true
  connectionIdMemory := true
  neighbour := some 3
  connection := ConnectionOp.cleanOutcomes
  message := ⟨1, [], true, ⟨true, false, false, false, false⟩⟩

/-- The remote flow allocator accepts the flow of port 1. -/
def acceptance : FlowResponse := ⟨1, localAddress, 3, hardcodedCepId, hardcodedCepId⟩

def writeOutcomes : Outcomes := ⟨true, true, true, true, true⟩

def oneByte : NetworkBufferDescriptor := { freshDescriptor 1 with xDataLength := 1 }

/-- The instance of a connection with node 3. -/
def instanceOf (xPortId : PortId) (xDestinationCepId : CepId) : Efcp :=
  ConnectionOp.cleanOutcomes.efcp
    ⟨xPortId, localAddress, 3, hardcodedCepId, xDestinationCepId, qosCubeId⟩
    (some ConnectionOp.cleanOutcomes.dtp)

/-- A store from which everything was taken again. -/
def vacated {α : Type} (next : Nat) : Store α where
  contents := ∅
  next
  fresh := fun _ member => absurd member Finmap.notMem_empty

def rowOf (xPortId : PortId) (eFaiState : FaiState) (handle : HandleId) : FlowRequestRow where
  pxFAI := some ⟨xPortId, eFaiState, handle⟩
  xValid := true

def clearedRow : FlowRequestRow := { pxFAI := none, xValid := false }

/-- The flow of port 1 is prebound. -/
def firstPrebound : Node :=
  { waitingNode.opened with
    core := { waitingNode.opened.core with xFlowsList := [⟨1, .pending, 0⟩] } }

/-- Both flows are prebound. -/
def preboundNode : Node :=
  { waitingNode.opened with
    core := { waitingNode.opened.core with
      xFlowsList := [⟨1, .pending, 0⟩, ⟨2, .pending, 0⟩] } }

/-- The flow of port 1 is requested. -/
def requestedNode : Node :=
  { preboundNode with
    core := { preboundNode.core with
      efcps := (Store.empty.allocate (instanceOf 1 cepIdWrong)).1
      xEfcpImapTable := [⟨hardcodedCepId, some 0, 1⟩, xNullImapRow, xNullImapRow]
      xFlowRequestTable := rowOf 1 .none 0 :: List.replicate 4 clearedRow
      xFlowsList := [⟨1, .pending, hardcodedCepId⟩, ⟨2, .pending, 0⟩] }
    buffers := vacated 1
    dus := vacated 1 }

/-- It is accepted. -/
def acceptedNode : Node :=
  { requestedNode with
    core := { requestedNode.core with
      efcps := (Store.empty.allocate (instanceOf 1 hardcodedCepId)).1
      xFlowRequestTable := rowOf 1 .allocated 0 :: List.replicate 4 clearedRow
      xFlowsList := [⟨1, .allocated, hardcodedCepId⟩, ⟨2, .pending, 0⟩] }
    handles := requestedNode.handles.set 0 ⟨1, [], true, false⟩ }

/-- The flow of port 2 is requested. -/
def bothNode : Node :=
  { acceptedNode with
    core := { acceptedNode.core with
      efcps := (acceptedNode.core.efcps.allocate (instanceOf 2 cepIdWrong)).1
      xEfcpImapTable := [⟨hardcodedCepId, some 1, 1⟩, xNullImapRow, xNullImapRow]
      xFlowRequestTable := rowOf 1 .allocated 0 :: rowOf 2 .none 1 :: List.replicate 3 clearedRow
      xFlowsList := [⟨1, .allocated, hardcodedCepId⟩, ⟨2, .pending, hardcodedCepId⟩] }
    buffers := vacated 2
    dus := vacated 2 }

/-- The events that bind the flow of port 1 while that of port 2 is only prebound. -/
def bindFirst (more : List NormalEvent) : List NormalEvent :=
  prebind true true 0 0 :: prebind true true 0 1 :: request requestOutcomes 0 ::
    respond (some acceptance) 0 :: more

/-- After them the trace goes on from the node with one flow. -/
theorem trace_bindFirst (more : List NormalEvent) :
    ∃ handled : List (Trace.Occurrence Fault Node Bool NormalEvent),
      (∀ occurrence ∈ handled, occurrence.event.Supported occurrence.before) ∧
        Trace.trace perform (bindFirst more) waitingNode.opened =
          handled ++ Trace.trace perform more acceptedNode := by
  have first : (prebind true true 0 0).perform.run waitingNode.opened =
    .ok true firstPrebound := rfl
  have both : (prebind true true 0 1).perform.run firstPrebound = .ok true preboundNode := rfl
  have requested : (request requestOutcomes 0).perform.run preboundNode =
    .ok true requestedNode := rfl
  have accepted : (respond (some acceptance) 0).perform.run requestedNode =
    .ok true acceptedNode := rfl
  refine ⟨[⟨waitingNode.opened, prebind true true 0 0, .ok true firstPrebound⟩,
    ⟨firstPrebound, prebind true true 0 1, .ok true preboundNode⟩,
    ⟨preboundNode, request requestOutcomes 0, .ok true requestedNode⟩,
    ⟨requestedNode, respond (some acceptance) 0, .ok true acceptedNode⟩], ?_, ?_⟩
  · intro occurrence member
    simp only [List.mem_cons, List.not_mem_nil, or_false] at member
    rcases member with rfl | rfl | rfl | rfl
    · exact trivial
    · exact trivial
    · exact trivial
    · exact trivial
  · rw [bindFirst, Trace.trace_of_ok first, Trace.trace_of_ok both, Trace.trace_of_ok requested,
      Trace.trace_of_ok accepted]
    simp only [List.cons_append, List.nil_append]

/-- A flow alone is kept to itself. -/
theorem run_isolated_oneFlow :
    Isolated acceptedNode (write writeOutcomes 1 oneByte)
      (final ((write writeOutcomes 1 oneByte).perform.run acceptedNode)) := by
  obtain ⟨handled, supported, traced⟩ := trace_bindFirst [write writeOutcomes 1 oneByte]
  have isolated := run_isolated waitingNode (bindFirst [write writeOutcomes 1 oneByte])
  rw [traced] at isolated
  refine isolated ?_ ⟨acceptedNode, write writeOutcomes 1 oneByte,
    (write writeOutcomes 1 oneByte).perform.run acceptedNode⟩
      (List.mem_append_right handled (Trace.mem_trace_cons.mpr (.inl rfl)))
  intro occurrence member
  rcases List.mem_append.mp member with control | written
  · exact supported occurrence control
  · rcases Trace.mem_trace_cons.mp written with rfl | ⟨_, _, _, none⟩
    · intro _ _ flow listed _ _ newest connection last _
      obtain ⟨value, found, _, held⟩ := last.live
      rcases Store.eq_or_get?_of_allocate found with rfl | absent
      · cases held
        exact ⟨newest, _, last.live, rfl, rfl⟩
      · cases (Store.get?_empty newest).symm.trans absent
    · exact absurd none List.not_mem_nil

/-- The PDU carries the destination CEP id of the connection of port 2. -/
def otherPdu : List UInt8 := [1, 3, 1, 3, 255, 1, 128, 128, 15, 0, 1, 0, 0, 0, 0]

/-- The ports of the live connections of the node with both flows. -/
theorem live_bothNode {efcp : EfcpId} {connection : Connection}
    (live : bothNode.core.Live efcp connection) (port : connection.xPortId = 1) :
    connection.xDestinationCepId = hardcodedCepId := by
  obtain ⟨value, found, -, held⟩ := live
  rcases Store.eq_or_get?_of_allocate found with rfl | before
  · have other := Option.some.inj held
    rw [← other] at port
    exact absurd port (by decide)
  · rcases Store.eq_or_get?_of_allocate before with rfl | absent
    · have own := Option.some.inj held
      rw [← own]
    · cases (Store.get?_empty efcp).symm.trans absent

/-- Once the flow of port 2 is requested an SDU of port 1 is sent for it. -/
theorem second_flow_takes_sdus :
    ¬ ∀ occurrence ∈ Trace.trace perform
        (bindFirst [request requestOutcomes 1, write writeOutcomes 1 oneByte]) waitingNode.opened,
      occurrence.event.Isolated occurrence.before occurrence.after := by
  intro isolated
  have requested : (request requestOutcomes 1).perform.run acceptedNode = .ok true bothNode := rfl
  have sent : (final ((write writeOutcomes 1 oneByte).perform.run bothNode)).sentPdus =
    [otherPdu] := rfl
  obtain ⟨handled, -, traced⟩ :=
    trace_bindFirst [request requestOutcomes 1, write writeOutcomes 1 oneByte]
  rw [Trace.trace_of_ok requested] at traced
  have included : ⟨bothNode, write writeOutcomes 1 oneByte,
      (write writeOutcomes 1 oneByte).perform.run bothNode⟩ ∈
        Trace.trace perform (bindFirst [request requestOutcomes 1, write writeOutcomes 1 oneByte])
          waitingNode.opened := by
    rw [traced]
    exact List.mem_append_right _ (List.mem_cons_of_mem _ List.mem_cons_self)
  have last := isolated _ included
  rcases last.sent rfl with none |
    ⟨pdu, ⟨efcp, connection, live, port, pci, parsed, -, -, ids⟩, one⟩
  · cases sent.symm.trans none
  · have same : pdu = otherPdu := (List.cons.inj (sent.symm.trans one)).1.symm
    have header : Pci.ofBytes otherPdu = some pci := same ▸ parsed
    have carried : (Pci.ofBytes otherPdu).map (fun pci => pci.connectionId.xDestination) =
      some cepIdWrong := rfl
    rw [header, Option.map_some, ids, live_bothNode live port] at carried
    exact absurd (Option.some.inj carried) (by decide)

end NormalEvent

end RinaSense
