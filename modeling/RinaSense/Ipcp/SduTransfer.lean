import RinaSense.Ipcp.DtpDelivery
import RinaSense.Ipcp.FlowIsolation
import RinaSense.Ipcp.ReceiveFates
import RinaSense.RinaApi.FlowRead

/-!
# One SDU on its way

What a node does with an SDU that is written on a port with a connection to another node, and
what that node does with the frame of the PDU: the state vectors of the two instances number
and check the PDUs as the calls of the data transfer protocol do, and the bytes of the SDU end
up in the queue of the application.
-/

namespace RinaSense

open Command

/-- The bytes given to the N-1 IPCP. -/
def Pdu.toBytes (pdu : Pdu) : List UInt8 := pdu.pci.toBytes ++ pdu.sdu

/-! ## Writing -/

/-- The flow of the port is allocated, and its CEP id leads to an instance with the connection
and the state vector. -/
structure Core.Writes (core : Core) (xAppPortId : PortId) (connection : Connection)
    (sv : DtpSv) : Prop where
  flow : ∃ pxFlow, prvNormalFindFlow xAppPortId core.xFlowsList = some pxFlow ∧
    pxFlow.eState = .allocated ∧ pxFlow.xActive = connection.xSourceCepId
  bound : ∃ pxEfcp efcp dtp, core.resolve connection.xSourceCepId = some pxEfcp ∧
    core.efcps.get? pxEfcp = some efcp ∧ efcp.xState = .allocated ∧
      efcp.pxConnection = some connection ∧ efcp.pxDtp = some dtp ∧ dtp.pxDtpStateVector = sv

/-- The write is this call of the data transfer protocol. -/
structure Node.Wrote (before : Node) (xAppPortId : PortId) (connection : Connection) (sv : DtpSv)
    (call : WriteCall) (after : Node) : Prop where
  writes : after.core.Writes xAppPortId connection (sv.writeCall connection call).1
  sent : after.sentPdus =
    before.sentPdus ++ ((sv.writeCall connection call).2.map Pdu.toBytes).toList

/-- What the write of an SDU is: a call that encapsulates it only if it fits. -/
def Node.WritesSdu (before : Node) (xAppPortId : PortId) (connection : Connection) (sv : DtpSv)
    (sdu : List UInt8) (after : Node) : Prop :=
  ∃ call : WriteCall, call.sdu = sdu ∧
    (call.encapsulated = true → sdu.length + 14 ≤ maxRequest) ∧
      before.Wrote xAppPortId connection sv call after

section Writing

variable {node start : Node} {xAppPortId : PortId} {connection : Connection} {sv : DtpSv}
  {pxDu : DuId} {du : Du} {buffer : BufferId} {descriptor : NetworkBufferDescriptor}
  {sdu : List UInt8} {outcomes : Outcomes}

theorem Core.Writes.lookUp {core : Core} (writes : core.Writes xAppPortId connection sv)
    (key : CepId) : (core.lookUp key).Writes xAppPortId connection sv where
  flow := writes.flow
  bound := by
    rw [resolve_lookUp]
    exact writes.bound

/-- The counters of the N-1 port have no part in it. -/
theorem Core.Writes.withPort {core : Core} (writes : core.Writes xAppPortId connection sv)
    (xPortIdTable : Option RmtN1Port) :
    Core.Writes { core with xPortIdTable } xAppPortId connection sv :=
  ⟨writes.flow, writes.bound⟩

/-- Another state vector in the instance of the connection. -/
theorem Core.Writes.withStateVector {core : Core} (writes : core.Writes xAppPortId connection sv)
    {pxEfcp : EfcpId} {efcp : Efcp} (led : core.resolve connection.xSourceCepId = some pxEfcp)
    (found : core.efcps.get? pxEfcp = some efcp) (allocated : efcp.xState = .allocated)
    (connected : efcp.pxConnection = some connection) (dtp : Dtp) (next : DtpSv) :
    (core.setEfcp pxEfcp (efcp.withStateVector dtp next)).Writes xAppPortId connection next where
  flow := writes.flow
  bound := ⟨pxEfcp, _, _, led, get?_setEfcp found _, allocated, connected, rfl, rfl⟩

/-- A write that stops before the header is filled is a failed call. -/
theorem writesSdu_unsent {after : Node} (writes : after.core.Writes xAppPortId connection sv)
    (sent : after.sentPdus = start.sentPdus) (sdu : List UInt8) :
    start.WritesSdu xAppPortId connection sv sdu after := by
  refine ⟨⟨sdu, false, false⟩, rfl, ?_, writes, ?_⟩
  · exact fun encapsulated => absurd encapsulated Bool.false_ne_true
  · rw [sent]
    exact (List.append_nil _).symm

/-- Destroying the data unit sends nothing. -/
theorem writesSdu_destroyed (writes : node.core.Writes xAppPortId connection sv)
    (sent : node.sentPdus = start.sentPdus) (owns : Owns node pxDu du buffer descriptor)
    (sdu : List UInt8) :
    start.WritesSdu xAppPortId connection sv sdu
      (final ((do let _ ← xDuDestroy pxDu; return false : Rina Bool).run node)) := by
  rw [run_bind_ok (run_duDestroy owns)]
  apply writesSdu_unsent
  · exact writes
  · exact sent

theorem onlySends_rmtSend (pxRmtInstance : Bool) (outcomes : Outcomes) (pxDu : DuId) :
    OnlySends (xRmtSend outcomes pxRmtInstance pxDu) := by
  have readPci : OnlySends (readPci pxDu) := by
    apply onlySends_bind (onlySends_readDu pxDu)
    intro du
    apply onlySends_bind (onlySends_follow _)
    intro offset
    apply onlySends_bind (onlySends_readStorage du)
    intro storage
    dsimp only
    split
    · exact onlySends_pure _
    · exact onlySends_throw _
  have pciIsOk : OnlySends (xPciIsOk pxDu) := by
    apply onlySends_bind (onlySends_readDu pxDu)
    intro du
    exact keeps_ite (onlySends_pure false) (onlySends_bind readPci fun _ => onlySends_pure _)
  apply keeps_ite (onlySends_destroyed pxDu false)
  apply onlySends_bind pciIsOk
  intro accepted
  apply keeps_ite (onlySends_destroyed pxDu false)
  apply onlySends_bind onlySends_readCore
  intro core
  apply onlySends_bind (onlySends_follow core.pxRmt)
  intro rmt
  exact keeps_ite (onlySends_bind (onlySends_throw _) fun _ => onlySends_rmtSendPortId _ _)
    (onlySends_rmtSendPortId _ _)

/-- A complete PDU for another node goes through the RMT, which gives it to the N-1 IPCP as it
is or not at all. -/
theorem rmtSend_sent (owns : Owns node pxDu du buffer descriptor) {pdu : List UInt8}
    (held : payloadOf descriptor = some pdu) {pci : Pci}
    (header : headerOf du descriptor = some pci) (accepted : pci.isOk = true)
    (pxRmtInstance : Bool) :
    ∃ sent : Bool, (final ((xRmtSend outcomes pxRmtInstance pxDu).run node)).sentPdus =
      node.sentPdus ++ if sent then [pdu] else [] := by
  have begins : Underway node.bare (sending node.bare node.bare.sentPdus) node :=
    underway_bare trivial rfl rfl
  have sends : Sends node.bare (pdu = ·)
      (final ((xRmtSend outcomes pxRmtInstance pxDu).run node)) :=
    rmtSend_sends begins (Nat.zero_le _) owns held header accepted outcomes pxRmtInstance
      fun _ _ => rfl
  rcases sends with none | ⟨other, same, one⟩
  · exact ⟨false, none.sent.trans (List.append_nil _).symm⟩
  · rw [← same] at one
    exact ⟨true, one.sent⟩

theorem run_dtpPduSend_remote (owns : Owns node pxDu du buffer descriptor) {pci : Pci}
    (header : headerOf du descriptor = some pci) (remote : pci.xSource ≠ pci.xDestination)
    {pxEfcp : EfcpId} {efcp : Efcp} (found : node.core.efcps.get? pxEfcp = some efcp) {dtp : Dtp}
    (data : efcp.pxDtp = some dtp) :
    (xDtpPduSend outcomes pxEfcp pxDu).run node =
      (xRmtSend outcomes dtp.pxRmt pxDu).run node := by
  rw [xDtpPduSend, run_bind_ok (run_readPci owns header), run_bind_ok (run_readEfcp found), data,
    run_bind_ok (run_follow_some dtp), if_pos remote]

theorem owns_written (owns : Owns node pxDu du buffer descriptor) (pxEfcp : EfcpId) (efcp : Efcp)
    (dtp : Dtp) (connection : Connection) (payload : List UInt8) :
    Owns (node.written pxEfcp efcp dtp connection pxDu buffer descriptor payload) pxDu
      { pxNetworkBuffer := some node.buffers.next, pxPci := some 0 } node.buffers.next
      (encapsulated (descriptor.xDataLength + 14) (dtp.pxDtpStateVector.write connection
        (descriptor.xDataLength + 14).toNat).2.toBytes payload) :=
  owns_encapsulate (owns.withCore _) _ _ _

/-- The instance numbers the PDU and hands it to the RMT. -/
theorem dtpWrite_numbered (writes : node.core.Writes xAppPortId connection sv)
    (remote : connection.xSourceAddress ≠ connection.xDestinationAddress)
    (sent : node.sentPdus = start.sentPdus) (owns : Owns node pxDu du buffer descriptor)
    (held : payloadOf descriptor = some sdu)
    (room : descriptor.xDataLength.toNat + 14 ≤ maxRequest) {pxEfcp : EfcpId} {efcp : Efcp}
    (led : node.core.resolve connection.xSourceCepId = some pxEfcp)
    (found : node.core.efcps.get? pxEfcp = some efcp) (allocated : efcp.xState = .allocated)
    (connected : efcp.pxConnection = some connection) {dtp : Dtp} (data : efcp.pxDtp = some dtp)
    (vector : dtp.pxDtpStateVector = sv) (obtained : outcomes.encapBuffer = true) :
    start.WritesSdu xAppPortId connection sv sdu
      (final ((xDtpWrite outcomes pxEfcp pxDu).run node)) := by
  have whole : (descriptor.xDataLength + 14).toNat = sdu.length + 14 := by
    rw [toNat_add_header room, payloadOf_length held]
  have ready := owns_written owns pxEfcp efcp dtp connection sdu
  have header := headerOf_written node descriptor dtp connection sdu
  have present : (node.written pxEfcp efcp dtp connection pxDu buffer descriptor
      sdu).core.efcps.get? pxEfcp = some (efcp.withStateVector dtp
        (dtp.pxDtpStateVector.write connection (descriptor.xDataLength + 14).toNat).1) :=
    get?_setEfcp found _
  have numbered : (node.written pxEfcp efcp dtp connection pxDu buffer descriptor sdu).core.Writes
      xAppPortId connection (sv.write connection (sdu.length + 14)).1 := by
    rw [← whole, ← vector]
    exact writes.withStateVector led found allocated connected dtp _
  have filled : payloadOf (encapsulated (descriptor.xDataLength + 14)
      (dtp.pxDtpStateVector.write connection (descriptor.xDataLength + 14).toNat).2.toBytes sdu) =
        some (Pdu.toBytes ⟨(sv.write connection (sdu.length + 14)).2, sdu⟩) := by
    rw [payloadOf_encapsulated, whole, vector]
    · rfl
    · rw [List.length_append, Pci.toBytes_length, pciLength, whole, Nat.add_comm]
  rw [run_dtpWrite owns found data connected held room obtained,
    run_dtpPduSend_remote ready header remote present rfl]
  obtain ⟨xPortIdTable, core⟩ := (onlySends_rmtSend dtp.pxRmt outcomes pxDu _).core
  obtain ⟨isSent, recorded⟩ := rmtSend_sent ready filled header rfl dtp.pxRmt
  refine ⟨⟨sdu, true, isSent⟩, rfl, fun _ => ?_, ?_, ?_⟩
  · rw [payloadOf_length held]
    exact room
  · rw [core]
    exact numbered.withPort xPortIdTable
  · rw [recorded]
    change node.sentPdus ++ _ = _
    rw [sent]
    cases isSent with
    | false => rfl
    | true => rfl

/-- The call of an instance that has a remote peer. -/
theorem dtpWrite_writesSdu (writes : node.core.Writes xAppPortId connection sv)
    (remote : connection.xSourceAddress ≠ connection.xDestinationAddress)
    (sent : node.sentPdus = start.sentPdus) (owns : Owns node pxDu du buffer descriptor)
    (held : payloadOf descriptor = some sdu) {pxEfcp : EfcpId} {efcp : Efcp}
    (led : node.core.resolve connection.xSourceCepId = some pxEfcp)
    (found : node.core.efcps.get? pxEfcp = some efcp) (allocated : efcp.xState = .allocated)
    (connected : efcp.pxConnection = some connection) {dtp : Dtp} (data : efcp.pxDtp = some dtp)
    (vector : dtp.pxDtpStateVector = sv) (outcomes : Outcomes) :
    start.WritesSdu xAppPortId connection sv sdu
      (final ((xDtpWrite outcomes pxEfcp pxDu).run node)) := by
  cases obtained : outcomes.encapBuffer with
  | false =>
      have run : (xDtpWrite outcomes pxEfcp pxDu).run node =
          (do let _ ← xDuDestroy pxDu; return false : Rina Bool).run node := by
        simp only [xDtpWrite, EStateM.run_bind, run_readEfcp found, data, obtained,
          run_follow_some, run_duEncap_unobtained owns, Bool.not_false, if_true]
      rw [run]
      exact writesSdu_destroyed writes sent owns sdu
  | true =>
      by_cases room : descriptor.xDataLength.toNat + 14 ≤ maxRequest
      · exact dtpWrite_numbered writes remote sent owns held room led found allocated connected
          data vector obtained
      · obtain ⟨fault, -, run⟩ := run_duEncap_unfit owns (.inr (Nat.not_le.mp room))
        simp only [xDtpWrite, EStateM.run_bind, run_readEfcp found, data, obtained,
          run_follow_some, run, final_error]
        apply writesSdu_unsent
        · exact writes
        · exact sent

/-- The write of an SDU on the port is a call of the data transfer protocol, whatever it
ends in. -/
theorem perform_writesSdu (writes : node.core.Writes xAppPortId connection sv)
    (remote : connection.xSourceAddress ≠ connection.xDestinationAddress) (outcomes : Outcomes)
    (sdu : Block) :
    node.WritesSdu xAppPortId connection sv sdu.val (final
      ((NormalEvent.write outcomes xAppPortId (outgoingDescriptor sdu)).perform.run node)) := by
  have run : (NormalEvent.write outcomes xAppPortId (outgoingDescriptor sdu)).perform.run node =
    (xNormalDuWrite outcomes xAppPortId node.buffers.next).run
      { node with buffers := (node.buffers.allocate (outgoingDescriptor sdu)).1 } := rfl
  rw [run, xNormalDuWrite]
  cases outcomes.duMemory with
  | false =>
      apply writesSdu_unsent
      · exact writes
      · rfl
  | true =>
      have wrapped : (wrapBuffer true node.buffers.next).run
          { node with buffers := (node.buffers.allocate (outgoingDescriptor sdu)).1 } =
        .ok node.dus.next (node.takeIn (outgoingDescriptor sdu) none) := rfl
      obtain ⟨pxFlow, listed, state, active⟩ := writes.flow
      obtain ⟨pxEfcp, efcp, dtp, led, found, allocated, connected, data, vector⟩ := writes.bound
      have owns := owns_takeIn node (outgoingDescriptor sdu) none
      rw [run_bind_ok wrapped, run_bind_ok run_readCore, takeIn_core, listed]
      simp only [state, ne_eq, not_true_eq_false, if_false, active, xEfcpContainerWrite]
      cases isCepIdOk connection.xSourceCepId with
      | false =>
          apply writesSdu_destroyed
          · exact writes
          · rfl
          · exact owns
      | true =>
          simp only [Bool.not_true, Bool.false_eq_true, if_false]
          rw [run_bind_ok run_readCore, takeIn_core]
          cases node.core.pxEfcpc with
          | false =>
              apply writesSdu_unsent
              · exact writes
              · rfl
          | true =>
              have present : ({ node.takeIn (outgoingDescriptor sdu) none with
                core := node.core.lookUp connection.xSourceCepId } : Node).core.efcps.get? pxEfcp =
                  some efcp := found
              simp only [Bool.not_true, Bool.false_eq_true, if_false]
              rw [run_bind_ok (run_efcpImapFind _ _), takeIn_core,
                show (pxEfcpImapFind _ node.core.xEfcpImapTable).2 = some pxEfcp from led]
              simp only
              rw [run_bind_ok (run_readEfcp present), allocated]
              simp only [reduceCtorEq, if_false, xEfcpWrite]
              refine dtpWrite_writesSdu (writes.lookUp connection.xSourceCepId) remote ?_
                (owns.withCore _) (payloadOf_outgoing sdu) ?_ present allocated connected data
                vector outcomes
              · rfl
              · rw [resolve_lookUp]
                exact led

end Writing

/-! ## Receiving -/

/-- The CEP id leads to an instance of the port with the state vector, and the flow allocator
takes data units for the port into the queue of the handle. -/
structure Core.Receives (core : Core) (xCepId : CepId) (xPortId : PortId) (handle : HandleId)
    (sv : DtpSv) : Prop where
  rmt : core.pxRmt.isSome
  container : core.pxEfcpc = true
  n1Port : core.xPortIdTable.isSome
  bound : ∃ pxEfcp efcp connection dtp, core.resolve xCepId = some pxEfcp ∧
    core.efcps.get? pxEfcp = some efcp ∧ efcp.xState = .allocated ∧
      efcp.pxConnection = some connection ∧ connection.xPortId = xPortId ∧
        efcp.pxDtp = some dtp ∧ dtp.pxDtpStateVector = sv
  accepts : ∃ pxFAI, core.Accepts xPortId pxFAI ∧ pxFAI.pxFlowAllocatorHandle = handle

/-- `RINA_flow_read` would copy these bytes from the buffer. -/
def Node.HoldsSdu (node : Node) (buffer : BufferId) (sdu : List UInt8) : Prop :=
  ∃ descriptor, node.buffers.get? buffer = some descriptor ∧
    ∀ other : Node, (readDataBuffer descriptor).run other = .ok sdu other

/-- These SDUs wait in the queue of the application. -/
def Node.Queues (node : Node) (handle : HandleId) (sdus : List (List UInt8)) : Prop :=
  ∃ value, node.handles.get? handle = some value ∧
    List.Forall₂ node.HoldsSdu value.xListWaitingPackets sdus

/-- The driver hands a frame to the task of the IPCP. -/
def receiveFrame (daemon : RibDaemon) (obtained : Bool) (descriptor : NetworkBufferDescriptor) :
    Rina Unit := do
  let node ← get
  set (node.arrive descriptor)
  stackRxEvent daemon obtained node.dus.next

/-- The header of a data PDU for this node and this CEP id. -/
structure Pci.LeadsHere (pci : Pci) (xCepId : CepId) : Prop where
  type : pci.xType = pduTypeDt
  address : pci.xDestination = localAddress
  qos : isQosIdOk pci.connectionId.xQosId = true
  cepId : pci.connectionId.xDestination = xCepId
  cepIdOk : isCepIdOk xCepId = true

/-- What the container does with a data PDU: it is queued or destroyed as the state vector
says, and the instance goes on with the next state vector. -/
inductive Took (node : Node) (pxDu : DuId) (buffer : BufferId) (handle : HandleId)
    (next : Core → Prop) : DuVerdict × Bool → EStateM.Result Fault Node Bool → Prop
  | posted {core : Core} {value : FlowAllocateHandle} (receives : next core)
      (found : node.handles.get? handle = some value) :
      Took node pxDu buffer handle next (.post, true)
        (.ok true ({ node with core }.post handle value buffer))
  | destroyed {core : Core} (receives : next core) (result : Bool) :
      Took node pxDu buffer handle next (.destroy, result)
        (.ok result ({ node with core }.discard pxDu buffer))

theorem Took.ofCore {node : Node} {core : Core} {pxDu : DuId} {buffer : BufferId}
    {handle : HandleId} {next : Core → Prop} {verdict : DuVerdict × Bool}
    {result : EStateM.Result Fault Node Bool}
    (took : Took { node with core } pxDu buffer handle next verdict result) :
    Took node pxDu buffer handle next verdict result := by
  cases took with
  | posted receives found => exact .posted receives found
  | destroyed receives result => exact .destroyed receives result

section Receiving

variable {node : Node} {xCepId : CepId} {xPortId : PortId} {handle : HandleId} {sv : DtpSv}
  {pxDu : DuId} {du : Du} {buffer : BufferId} {descriptor : NetworkBufferDescriptor} {pci : Pci}

theorem Core.Receives.lookUp {core : Core} (receives : core.Receives xCepId xPortId handle sv)
    (key : CepId) : (core.lookUp key).Receives xCepId xPortId handle sv where
  rmt := receives.rmt
  container := receives.container
  n1Port := receives.n1Port
  bound := by
    rw [resolve_lookUp]
    exact receives.bound
  accepts := by
    obtain ⟨pxFAI, accepts, leads⟩ := receives.accepts
    exact ⟨pxFAI, { accepts with }, leads⟩

theorem Core.Receives.countReceived {core : Core}
    (receives : core.Receives xCepId xPortId handle sv) (bytes : SizeT) :
    (core.countReceived bytes).Receives xCepId xPortId handle sv where
  rmt := receives.rmt
  container := receives.container
  n1Port := by
    rw [Core.countReceived, Option.isSome_map]
    exact receives.n1Port
  bound := receives.bound
  accepts := by
    obtain ⟨pxFAI, accepts, leads⟩ := receives.accepts
    exact ⟨pxFAI, { accepts with }, leads⟩

/-- The instance may be replaced by one of the same port with another state vector. -/
theorem Core.Receives.setEfcp {core : Core} (receives : core.Receives xCepId xPortId handle sv)
    {pxEfcp : EfcpId} {efcp : Efcp} (led : core.resolve xCepId = some pxEfcp)
    (found : core.efcps.get? pxEfcp = some efcp) (value : Efcp)
    (allocated : value.xState = .allocated) {connection : Connection}
    (connected : value.pxConnection = some connection)
    (port : connection.xPortId = xPortId) {dtp : Dtp} (data : value.pxDtp = some dtp) :
    (core.setEfcp pxEfcp value).Receives xCepId xPortId handle dtp.pxDtpStateVector where
  rmt := receives.rmt
  container := receives.container
  n1Port := receives.n1Port
  bound := ⟨pxEfcp, value, connection, dtp, led, get?_setEfcp found value, allocated, connected,
    port, data, rfl⟩
  accepts := by
    obtain ⟨pxFAI, accepts, leads⟩ := receives.accepts
    exact ⟨pxFAI, { accepts with }, leads⟩

/-- Where the flow allocator takes data units for the port, it queues their buffers. -/
theorem run_duPost (receives : node.core.Receives xCepId xPortId handle sv)
    (owns : Owns node pxDu du buffer descriptor) {value : FlowAllocateHandle}
    (known : node.handles.get? handle = some value) :
    (xFlowAllocatorDuPost xPortId pxDu).run node = .ok true (node.post handle value buffer) := by
  obtain ⟨pxFAI, accepts, leads⟩ := receives.accepts
  have present : xDuIsOk du = true := by
    rw [xDuIsOk, owns.pointer]
    rfl
  have valid : ¬ ∀ row ∈ node.core.xFlowRequestTable, row.xValid = false := by
    intro invalid
    obtain ⟨row, member, isValid⟩ := accepts.valid
    exact absurd ((invalid row member).symm.trans isValid) Bool.false_ne_true
  have search : (pxFAFindInstance xPortId).run node = .ok (some pxFAI) node := by
    simp only [pxFAFindInstance, EStateM.run_bind, run_readCore, run_findInstanceFrom valid,
      accepts.first, accepts.port, if_true]
  have read : (readHandle handle).run node = .ok value node := by simp [readHandle, known]
  rw [xFlowAllocatorDuPost, run_bind_ok (run_readDu owns.held), present, accepts.portOk]
  simp only [Bool.not_true, Bool.or_self, Bool.false_eq_true, if_false]
  rw [run_bind_ok search]
  simp only [owns.pointer]
  rw [run_bind_ok (run_follow_some buffer), accepts.allocated, leads]
  simp only [ne_eq, not_true_eq_false, if_false, postToHandle, EStateM.run_bind, read]
  rfl

theorem noteReceived_port (connection : Connection) (pci : Pci) :
    (connection.noteReceived pci).xPortId = connection.xPortId := by
  rw [Connection.noteReceived]
  split
  · rfl
  · rfl

/-- The state vector decides what becomes of a data PDU. -/
theorem dtpReceive_took (receives : node.core.Receives xCepId xPortId handle sv)
    (owns : Owns node pxDu du buffer descriptor) (header : headerOf du descriptor = some pci)
    {value : FlowAllocateHandle} (known : node.handles.get? handle = some value)
    {pxEfcp : EfcpId} {efcp : Efcp} (led : node.core.resolve xCepId = some pxEfcp)
    (found : node.core.efcps.get? pxEfcp = some efcp) (allocated : efcp.xState = .allocated)
    {connection : Connection} (connected : efcp.pxConnection = some connection)
    (port : connection.xPortId = xPortId) {dtp : Dtp} (data : efcp.pxDtp = some dtp)
    (vector : dtp.pxDtpStateVector = sv) :
    Took node pxDu buffer handle
      (fun core => core.Receives xCepId xPortId handle (sv.receive pci).1) (sv.receive pci).2
      ((xDtpReceive pxEfcp pxDu).run node) := by
  have advanced := receives.setEfcp led found (efcp.withStateVector dtp (sv.receive pci).1)
    allocated connected port rfl
  have owned := owns.withCore
    (node.core.setEfcp pxEfcp (efcp.withStateVector dtp (sv.receive pci).1))
  have stored := get?_setEfcp found (efcp.withStateVector dtp (sv.receive pci).1)
  simp only [xDtpReceive, EStateM.run_bind, run_readEfcp found, data, run_follow_some,
    run_readPci owns header, vector, run_writeEfcp]
  rcases sv.receive_verdict pci with ⟨-, -, verdict⟩ | ⟨-, -, verdict⟩ | ⟨-, -, verdict⟩
  · simp only [verdict, EStateM.run_bind, run_duDestroy owned]
    apply Took.destroyed
    exact advanced
  · have posted := run_duPost advanced owned known
    have linked : (efcp.withStateVector dtp (sv.receive pci).1).pxConnection = some connection :=
      connected
    have read : (readEfcp pxEfcp).run { node with
        core := node.core.setEfcp pxEfcp (efcp.withStateVector dtp (sv.receive pci).1) } = _ :=
      run_readEfcp stored
    simp only [verdict, xDtpPduPost, EStateM.run_bind, read, xEfcpEnqueue, linked,
      run_follow_some, port, posted]
    apply Took.posted
    · exact advanced
    · exact known
  · simp only [verdict, EStateM.run_bind, run_duDestroy owned]
    apply Took.destroyed
    exact advanced

/-- The container finds the instance and notes the CEP id of the PDU in its connection. -/
theorem containerReceive_took (receives : node.core.Receives xCepId xPortId handle sv)
    (owns : Owns node pxDu du buffer descriptor) (header : headerOf du descriptor = some pci)
    {value : FlowAllocateHandle} (known : node.handles.get? handle = some value)
    (data : pci.xType = pduTypeDt) (ok : isCepIdOk xCepId = true) :
    Took node pxDu buffer handle
      (fun core => core.Receives xCepId xPortId handle (sv.receive pci).1) (sv.receive pci).2
      ((xEfcpContainerReceive xCepId pxDu).run node) := by
  obtain ⟨pxEfcp, efcp, connection, dtp, led, found, allocated, connected, port, held,
    vector⟩ := receives.bound
  have looked := receives.lookUp xCepId
  have noted := looked.setEfcp (by rw [resolve_lookUp]; exact led) found
    { efcp with pxConnection := some (connection.noteReceived pci) } allocated rfl
      ((noteReceived_port connection pci).trans port) held
  have owned := owns.withCore (node.core.lookUp xCepId)
  have read : (readEfcp pxEfcp).run { node with core := node.core.lookUp xCepId } =
      .ok efcp { node with core := node.core.lookUp xCepId } := run_readEfcp found
  have run : (xEfcpContainerReceive xCepId pxDu).run node =
      (xEfcpReceive pxEfcp pxDu).run { node with
        core := (node.core.lookUp xCepId).setEfcp pxEfcp
          { efcp with pxConnection := some (connection.noteReceived pci) } } := by
    simp only [xEfcpContainerReceive, ok, Bool.not_true, Bool.false_eq_true, if_false,
      EStateM.run_bind, run_efcpImapFind, show (pxEfcpImapFind xCepId
        node.core.xEfcpImapTable).2 = some pxEfcp from led, read, allocated, reduceCtorEq,
      run_readPci owned header, data, if_true, connected, run_follow_some, run_writeEfcp]
  have resolved : ((node.core.lookUp xCepId).setEfcp pxEfcp { efcp with
      pxConnection := some (connection.noteReceived pci) }).resolve xCepId = some pxEfcp :=
    (resolve_lookUp node.core xCepId xCepId).trans led
  have entered := owns.withCore ((node.core.lookUp xCepId).setEfcp pxEfcp
    { efcp with pxConnection := some (connection.noteReceived pci) })
  have took := dtpReceive_took noted entered header known resolved (get?_setEfcp found _)
    allocated rfl ((noteReceived_port connection pci).trans port) held rfl
  rw [run, FateRule.efcpReceive_data entered header data, ← vector]
  exact took.ofCore

/-- The header of a data PDU for this node leads to the container. -/
theorem Pci.LeadsHere.dispatch (leads : pci.LeadsHere xCepId) :
    pci.dispatch = .container xCepId := by
  have kinds : pduTypeIsOk pduTypeDt = true ∧ isDtPdu pduTypeDt = true ∧
      pduTypeDt ≠ pduTypeMgmt ∧ isAddressOk localAddress = true := by decide
  simp only [Pci.dispatch, leads.type, leads.address, leads.qos, leads.cepId, leads.cepIdOk,
    kinds, Bool.not_true, Bool.or_self, Bool.false_eq_true, if_false, if_true, Bool.and_self]

/-- The frame is counted at the N-1 port before it is decapsulated. -/
theorem run_rmtDispatch (receives : node.core.Receives xCepId xPortId handle sv)
    (owns : Owns node pxDu du buffer descriptor) (obtained : Bool) :
    (rmtDispatch obtained pxDu 1).run node = (dispatchDecap obtained pxDu).run
      { node with core := node.core.countReceived descriptor.xRinaDataLength } := by
  have port : isPortIdOk 1 = true := by decide
  have read := run_readBuffer owns.stored
  have counted : (modifyN1Port (RmtN1Port.countReceived descriptor.xRinaDataLength)).run node =
    .ok () { node with core := node.core.countReceived descriptor.xRinaDataLength } := rfl
  simp only [rmtDispatch, EStateM.run_bind, run_readCore, Option.isNone_eq_false_iff.mpr
    receives.rmt, Bool.false_eq_true, if_false, port, Bool.not_true, run_readDu owns.held,
    owns.pointer, run_follow_some, read, receives.container, Option.isNone_eq_false_iff.mpr
    receives.n1Port, counted]

end Receiving

/-! ## Frames -/

/-- The buffer of a frame with this PDU: its header is found, and once it is decapsulated its
user data would be copied. -/
structure NetworkBufferDescriptor.Frames (descriptor : NetworkBufferDescriptor) (pdu : Pdu) :
    Prop where
  header : receivedHeader descriptor = some pdu.pci
  contents : ∀ other : Node,
    (readDataBuffer (decapsulated descriptor)).run other = .ok pdu.sdu other

theorem frames_received {pdu : Pdu} (fits : pdu.sdu.length + 14 ≤ maxRequest)
    (front back : List UInt8) : (receivedDescriptor front pdu.toBytes back).Frames pdu where
  header := by
    simp [receivedHeader, receivedDescriptor, Pdu.toBytes, List.append_assoc]
  contents := by
    intro other
    have whole : (UInt32.ofNat pdu.toBytes.length).toNat = pdu.sdu.length + 14 := by
      rw [Pdu.toBytes, List.length_append, Pci.toBytes_length, pciLength, Nat.add_comm]
      simp only [maxRequest] at fits
      exact UInt32.toNat_ofNat_of_lt' (show pdu.sdu.length + 14 < 2 ^ 32 by omega)
    have length : (decapsulated (receivedDescriptor front pdu.toBytes back)).xDataLength.toNat =
        pdu.sdu.length := by
      change (UInt32.ofNat pdu.toBytes.length - 14).toNat = _
      rw [UInt32.toNat_sub_of_le, whole]
      · rfl
      · rw [UInt32.le_iff_toNat_le, whole]
        exact Nat.le_add_left 14 _
    have shape : front ++ pdu.toBytes ++ back =
        (front ++ pdu.pci.toBytes) ++ (pdu.sdu ++ back) := by
      simp only [Pdu.toBytes, List.append_assoc]
    have offset : front.length + 14 = (front ++ pdu.pci.toBytes).length := by
      rw [List.length_append, Pci.toBytes_length, pciLength]
    rw [readDataBuffer]
    by_cases empty : (decapsulated (receivedDescriptor front pdu.toBytes back)).xDataLength = 0
    · rw [empty] at length
      rw [if_pos empty, List.eq_nil_of_length_eq_zero length.symm]
      rfl
    · rw [if_neg empty, length]
      change (copyFrom (some (front ++ pdu.toBytes ++ back)) (front.length + 14)
        pdu.sdu.length).run other = _
      rw [shape, offset, run_copyFrom (by simp only [List.length_append]; omega), List.drop_left,
        List.take_left]

section Queues

variable {node after : Node} {handle : HandleId} {sdus : List (List UInt8)} {buffer : BufferId}

theorem Node.HoldsSdu.frame {sdu : List UInt8} (holds : node.HoldsSdu buffer sdu)
    (buffers : ∀ old < node.buffers.next, after.buffers.get? old = node.buffers.get? old) :
    after.HoldsSdu buffer sdu := by
  obtain ⟨descriptor, stored, contents⟩ := holds
  exact ⟨descriptor, (buffers buffer (Store.lt_next stored)).trans stored, contents⟩

/-- A queue stays what it is while the buffers there were do. -/
theorem Node.Queues.frame (queues : node.Queues handle sdus)
    (handles : after.handles = node.handles)
    (buffers : ∀ old < node.buffers.next, after.buffers.get? old = node.buffers.get? old) :
    after.Queues handle sdus := by
  obtain ⟨value, known, waiting⟩ := queues
  refine ⟨value, ?_, waiting.imp fun _ _ holds => holds.frame buffers⟩
  rw [handles]
  exact known

theorem forall₂_vRsListInsert {α β : Type} {related : α → β → Prop} {first : List α}
    {second : List β} (all : List.Forall₂ related first second) {one : α} {other : β}
    (new : related one other) :
    List.Forall₂ related (vRsListInsert first one) (vRsListInsert second other) := by
  cases all with
  | nil => exact .cons new .nil
  | cons head tail => exact .cons head (.cons new tail)

/-- A buffer is queued with the SDU it holds. -/
theorem Node.Queues.post {sdu : List UInt8} (queues : node.Queues handle sdus)
    {value : FlowAllocateHandle} (known : node.handles.get? handle = some value)
    (holds : node.HoldsSdu buffer sdu) :
    (node.post handle value buffer).Queues handle (vRsListInsert sdus sdu) := by
  obtain ⟨was, found, waiting⟩ := queues
  rw [Option.some.inj (found.symm.trans known)] at waiting
  exact ⟨value.post buffer, Store.get?_set_self known _, forall₂_vRsListInsert waiting holds⟩

end Queues

section Delivery

variable {node : Node} {xCepId : CepId} {xPortId : PortId} {handle : HandleId} {sv : DtpSv}
  {descriptor : NetworkBufferDescriptor} {pdu : Pdu}

/-- The node once the frame was counted at the N-1 port. -/
def Node.counted (node : Node) (descriptor : NetworkBufferDescriptor) : Node :=
  { node.arrive descriptor with core := node.core.countReceived descriptor.xRinaDataLength }

theorem owns_counted (node : Node) (descriptor : NetworkBufferDescriptor) :
    Owns (node.counted descriptor) node.dus.next
      { pxNetworkBuffer := some node.buffers.next, pxPci := none } node.buffers.next descriptor :=
  (owns_arrive node descriptor).withCore _

/-- The node once the frame was decapsulated. -/
def Node.unwrapped (node : Node) (descriptor : NetworkBufferDescriptor) : Node :=
  (node.counted descriptor).decapsulate node.dus.next
    { pxNetworkBuffer := some node.buffers.next, pxPci := none } node.buffers.next descriptor

theorem owns_unwrapped (node : Node) (descriptor : NetworkBufferDescriptor) :
    Owns (node.unwrapped descriptor) node.dus.next
      { pxNetworkBuffer := some node.buffers.next, pxPci := descriptor.pucRinaBuffer }
      node.buffers.next (decapsulated descriptor) :=
  owns_decapsulate (owns_counted node descriptor)

/-- The frame gets through to the container, if there is a second buffer. -/
theorem run_rmtReceive_frame (daemon : RibDaemon)
    (receives : node.core.Receives xCepId xPortId handle sv) (frames : descriptor.Frames pdu)
    (leads : pdu.pci.LeadsHere xCepId) :
    (xRmtReceive daemon true node.dus.next 1).run (node.arrive descriptor) =
      (xEfcpContainerReceive xCepId node.dus.next).run (node.unwrapped descriptor) := by
  have received := receivedType_of_header frames.header
  have accepted : pduTypeIsOk pdu.pci.xType = true := by
    rw [leads.type]
    decide
  have decap : (xDuDecap true node.dus.next).run (node.counted descriptor) =
      .ok false (node.unwrapped descriptor) := run_duDecap (owns_counted node descriptor) received
    accepted
  have header : headerOf
      { pxNetworkBuffer := some node.buffers.next, pxPci := descriptor.pucRinaBuffer }
      (decapsulated descriptor) = some pdu.pci := frames.header
  have dispatched : (dispatchAfterHeader node.dus.next pdu.pci).run (node.unwrapped descriptor) =
      .ok (.container xCepId) (node.unwrapped descriptor) := by
    rcases dispatchAfterHeader_run (owns_unwrapped node descriptor) header with
      run | ⟨dropped, -⟩
    · rw [run, leads.dispatch]
    · rw [leads.dispatch] at dropped
      cases dropped
  have dispatch : (rmtDispatch true node.dus.next 1).run (node.arrive descriptor) =
      .ok (.container xCepId) (node.unwrapped descriptor) := by
    have counted : (rmtDispatch true node.dus.next 1).run (node.arrive descriptor) =
        (dispatchDecap true node.dus.next).run (node.counted descriptor) :=
      run_rmtDispatch (by exact receives) (owns_arrive node descriptor) true
    rw [counted, dispatchDecap, run_bind_ok decap, if_neg Bool.false_ne_true,
      run_bind_ok (run_readPci (owns_unwrapped node descriptor) header)]
    exact dispatched
  rw [rmtReceive_eq, run_bind_ok dispatch]
  rfl

/-- Otherwise the header pointer is not set when it is followed. -/
theorem run_rmtReceive_unobtained (daemon : RibDaemon)
    (receives : node.core.Receives xCepId xPortId handle sv) (frames : descriptor.Frames pdu)
    (leads : pdu.pci.LeadsHere xCepId) :
    (xRmtReceive daemon false node.dus.next 1).run (node.arrive descriptor) =
      .error .nullPointer (node.counted descriptor) := by
  have accepted : pduTypeIsOk pdu.pci.xType = true := by
    rw [leads.type]
    decide
  have decap := run_duDecap_unobtained (owns_counted node descriptor)
    (receivedType_of_header frames.header) accepted
  have counted : (rmtDispatch false node.dus.next 1).run (node.arrive descriptor) =
      (dispatchDecap false node.dus.next).run (node.counted descriptor) :=
    run_rmtDispatch (by exact receives) (owns_arrive node descriptor) false
  have dispatch : (rmtDispatch false node.dus.next 1).run (node.arrive descriptor) =
      .error .nullPointer (node.counted descriptor) := by
    rw [counted, dispatchDecap, run_bind_ok decap, if_neg Bool.false_ne_true,
      run_bind_error (run_readPci_unset (owns_counted node descriptor) rfl)]
  rw [rmtReceive_eq, run_bind_error dispatch]

theorem unwrapped_receives (receives : node.core.Receives xCepId xPortId handle sv)
    (descriptor : NetworkBufferDescriptor) :
    (node.unwrapped descriptor).core.Receives xCepId xPortId handle sv :=
  receives.countReceived descriptor.xRinaDataLength

/-- The buffers there were before the frame. -/
theorem get?_unwrapped {old : BufferId} (before : old < node.buffers.next)
    (descriptor : NetworkBufferDescriptor) :
    (node.unwrapped descriptor).buffers.get? old = node.buffers.get? old := by
  have other : old ≠ node.buffers.next := before.ne
  have second : old ≠ node.buffers.next + 1 := (before.trans (Nat.lt_succ_self _)).ne
  have arrived := node.buffers.get?_allocate_of_ne descriptor other
  change (((((node.buffers.allocate descriptor).1.allocate _).1.set _ _).set _ _).get? old) = _
  rw [Store.get?_set_of_ne _ other, Store.get?_set_of_ne, Store.get?_allocate_of_ne, arrived]
  · exact second
  · exact second

theorem holdsSdu_unwrapped (node : Node) (frames : descriptor.Frames pdu) :
    (node.unwrapped descriptor).HoldsSdu node.buffers.next pdu.sdu :=
  ⟨_, (owns_unwrapped node descriptor).stored, frames.contents⟩

theorem receive_of_duplicate (sv : DtpSv) {pci : Pci}
    (duplicate : (sv.receive pci).2 = (.destroy, false)) : (sv.receive pci).1 = sv := by
  cases required : sv.xDrfRequired with
  | true =>
      rw [DtpSv.receive_of_required required] at duplicate ⊢
      split
      · next flag =>
          rw [if_pos flag] at duplicate
          cases duplicate
      · rfl
  | false =>
      by_cases above : sv.xRcvLeftWindowEdge < pci.xSequenceNumber
      · rw [DtpSv.receive_of_lt required above] at duplicate
        cases duplicate
      · rw [DtpSv.receive_of_le required (UInt32.not_lt.mp above)]

theorem posted_one (sv : DtpSv) (pdu : Pdu) :
    sv.posted [pdu] = if (sv.receive pdu.pci).2.1 = .post then [pdu] else [] := by
  rw [DtpSv.posted]
  generalize sv.receive pdu.pci = received
  obtain ⟨next, verdict, result⟩ := received
  cases verdict with
  | post => rfl
  | destroy => rfl

/-- What becomes of the frame of a data PDU. With a second buffer it goes the way the state
vector decides, except that a duplicate is destroyed a second time by the task. -/
theorem receiveFrame_ends (daemon : RibDaemon) {waiting : List (List UInt8)}
    (receives : node.core.Receives xCepId xPortId handle sv) (queues : node.Queues handle waiting)
    (frames : descriptor.Frames pdu) (leads : pdu.pci.LeadsHere xCepId) (obtained : Bool) :
    (obtained = true ∧ (sv.receive pdu.pci).2 ≠ (.destroy, false) ∧
      ∃ after, (receiveFrame daemon obtained descriptor).run node = .ok () after ∧
        after.core.Receives xCepId xPortId handle (sv.receive pdu.pci).1 ∧
        after.Queues handle (((sv.posted [pdu]).map Pdu.sdu).foldl vRsListInsert waiting)) ∨
    ((obtained = false ∨ (sv.receive pdu.pci).2 = (.destroy, false)) ∧
      ∃ fault after, (receiveFrame daemon obtained descriptor).run node = .error fault after ∧
        after.core.Receives xCepId xPortId handle sv ∧ after.Queues handle waiting) := by
  have run : (receiveFrame daemon obtained descriptor).run node =
    (stackRxEvent daemon obtained node.dus.next).run (node.arrive descriptor) := rfl
  rw [run, stackRxEvent, xNormalDuEnqueue]
  cases obtained with
  | false =>
      rw [run_bind_error (run_rmtReceive_unobtained daemon receives frames leads)]
      refine .inr ⟨.inl rfl, _, _, rfl, receives.countReceived _, queues.frame rfl ?_⟩
      exact fun old before => node.buffers.get?_allocate_of_lt descriptor before
  | true =>
      have inside := run_rmtReceive_frame daemon receives frames leads
      have unwrapped := unwrapped_receives receives descriptor
      have still : (node.unwrapped descriptor).Queues handle waiting :=
        queues.frame rfl fun old before => get?_unwrapped before descriptor
      have ⟨value, known, _⟩ := queues
      have took := containerReceive_took unwrapped (owns_unwrapped node descriptor) frames.header
        known leads.type leads.cepIdOk
      rw [EStateM.run_bind, inside]
      generalize verdict : (sv.receive pdu.pci).2 = decision at took
      generalize (xEfcpContainerReceive xCepId node.dus.next).run
        (node.unwrapped descriptor) = result at took
      cases took with
      | posted advanced found =>
          refine .inl ⟨rfl, fun other => ?_, _, rfl, advanced, ?_⟩
          · cases other
          · rw [posted_one, verdict]
            exact Node.Queues.post still found (holdsSdu_unwrapped node frames)
      | @destroyed core advanced returned =>
          have queued : ({ node.unwrapped descriptor with core }.discard node.dus.next
              node.buffers.next).Queues handle waiting :=
            queues.frame rfl fun old before =>
              (Store.get?_free_of_ne _ before.ne).trans (get?_unwrapped before descriptor)
          cases returned with
          | true =>
              refine .inl ⟨rfl, fun other => ?_, _, rfl, advanced, ?_⟩
              · cases other
              · rw [posted_one, verdict]
                exact queued
          | false =>
              rw [receive_of_duplicate sv verdict] at advanced
              refine .inr ⟨.inr rfl, .released, _, ?_, advanced, queued⟩
              simp only [Bool.not_false, if_true]
              apply run_bind_error
              apply run_duDestroy_absent
              exact Store.get?_free_self _ node.dus.next

end Delivery

end RinaSense
