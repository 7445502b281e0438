import RinaSense.Ipcp.SduTransfer

/-!
# Data transfer between two nodes

An application of one node writes SDUs on a flow, and the network brings the PDUs that were
given to the N-1 IPCP to another node: some of them, in any order, any number of times. What
the run comes to is stated with the calls and the arrivals of the data transfer protocol alone.
-/

namespace RinaSense

open Command

/-! ## The protocol -/

namespace DtpSv

/-- The state vector after a run of calls. -/
def afterCalls (sv : DtpSv) (connection : Connection) (calls : List WriteCall) : DtpSv :=
  calls.foldl (fun sv call => (sv.writeCall connection call).1) sv

/-- The state vector after a run of arrivals. -/
def afterArrivals (sv : DtpSv) (pdus : List Pdu) : DtpSv :=
  pdus.foldl (fun sv pdu => (sv.receive pdu.pci).1) sv

variable {connection : Connection}

theorem afterCalls_concat (sv : DtpSv) (calls : List WriteCall) (call : WriteCall) :
    sv.afterCalls connection (calls ++ [call]) =
      ((sv.afterCalls connection calls).writeCall connection call).1 := by
  simp only [afterCalls, List.foldl_append, List.foldl_cons, List.foldl_nil]

theorem afterArrivals_concat (sv : DtpSv) (pdus : List Pdu) (pdu : Pdu) :
    sv.afterArrivals (pdus ++ [pdu]) = ((sv.afterArrivals pdus).receive pdu.pci).1 := by
  simp only [afterArrivals, List.foldl_append, List.foldl_cons, List.foldl_nil]

theorem written_cons (sv : DtpSv) (call : WriteCall) (calls : List WriteCall) :
    sv.written connection (call :: calls) = (sv.writeCall connection call).2.toList ++
      (sv.writeCall connection call).1.written connection calls := rfl

theorem written_concat (sv : DtpSv) (calls : List WriteCall) (call : WriteCall) :
    sv.written connection (calls ++ [call]) =
      sv.written connection calls ++
        ((sv.afterCalls connection calls).writeCall connection call).2.toList := by
  induction calls generalizing sv with
  | nil =>
      change (sv.writeCall connection call).2.toList ++ [] = _
      exact List.append_nil _
  | cons first calls ih =>
      rw [List.cons_append, written_cons, written_cons, ih, List.append_assoc]
      rfl

theorem posted_concat (sv : DtpSv) (pdus : List Pdu) (pdu : Pdu) :
    sv.posted (pdus ++ [pdu]) = sv.posted pdus ++ (sv.afterArrivals pdus).posted [pdu] := by
  induction pdus generalizing sv with
  | nil => rfl
  | cons first pdus ih =>
      have later := ih (sv.receive first.pci).1
      have stepped : sv.afterArrivals (first :: pdus) =
          (sv.receive first.pci).1.afterArrivals pdus := rfl
      rw [List.cons_append, posted, posted, stepped]
      generalize sv.receive first.pci = received at later
      obtain ⟨next, verdict, result⟩ := received
      cases verdict with
      | post => exact congrArg (first :: ·) later
      | destroy => exact later

/-- Every PDU comes from a call that encapsulated its SDU, with a header of the connection. -/
theorem mem_written {sv : DtpSv} {calls : List WriteCall} {pdu : Pdu}
    (member : pdu ∈ sv.written connection calls) :
    ∃ call ∈ calls, call.encapsulated = true ∧ call.sdu = pdu.sdu ∧
      ∃ earlier length, pdu.pci = (DtpSv.write earlier connection length).2 := by
  induction calls generalizing sv with
  | nil => cases member
  | cons call calls ih =>
      rw [written_cons] at member
      rcases List.mem_append.mp member with here | later
      · have drawn := Option.mem_toList.mp here
        rw [writeCall] at drawn
        split at drawn
        · next encapsulated =>
            obtain ⟨-, same⟩ := Option.ite_none_right_eq_some.mp drawn
            rw [← Option.some.inj same]
            exact ⟨call, List.mem_cons_self, encapsulated, rfl, sv, _, rfl⟩
        · cases drawn
      · obtain ⟨other, among, rest⟩ := ih later
        exact ⟨other, List.mem_cons_of_mem _ among, rest⟩

end DtpSv

/-! ## Two nodes -/

/-- The ends of a flow: the connection and the port of the sender, the port and the handle of
the receiver. -/
structure FlowEnds where
  connection : Connection
  xSourcePort : PortId
  xDestinationPort : PortId
  handle : HandleId

/-- The connection leads from another node to the receiver, with ids that are accepted there. -/
structure FlowEnds.Remote (ends : FlowEnds) : Prop where
  source : ends.connection.xSourceAddress ≠ localAddress
  destination : ends.connection.xDestinationAddress = localAddress
  qos : isQosIdOk ends.connection.xQosId = true
  cepId : isCepIdOk ends.connection.xDestinationCepId = true

/-- The two nodes, with the SDUs that were written and the positions, among the PDUs given to
the N-1 IPCP of the sender, of those that were brought to the receiver. -/
structure Transfer where
  sender : Node
  receiver : Node
  offered : List (List UInt8)
  delivered : List Nat

/-- The application writes an SDU, or the network brings the frame of a PDU that was sent. -/
inductive TransferEvent where
  | write (outcomes : Outcomes) (sdu : Block)
  | deliver (number : Nat) (front back : List UInt8) (obtained : Bool)

namespace Transfer

/-- Nothing has been written yet. -/
def start (sender receiver : Node) : Transfer where
  sender := { sender with sentPdus := [] }
  receiver
  offered := []
  delivered := []

def perform (daemon : RibDaemon) (xSourcePort : PortId) :
    TransferEvent → EStateM Fault Transfer Unit
  | .write outcomes sdu => do
      modify fun state => { state with offered := state.offered ++ [sdu.val] }
      let _ ← zoom Transfer.sender (fun sender state => { state with sender })
        (NormalEvent.write outcomes xSourcePort (outgoingDescriptor sdu)).perform
  | .deliver number front back obtained => do
      match (← get).sender.sentPdus[number]? with
      | none => return ()
      | some pdu =>
          zoom Transfer.receiver (fun receiver state => { state with receiver })
            (receiveFrame daemon obtained (receivedDescriptor front pdu back))
          modify fun state => { state with delivered := state.delivered ++ [number] }

/-- Where events lead, up to the first fault. -/
def after (start : Transfer) (daemon : RibDaemon) (xSourcePort : PortId)
    (events : List TransferEvent) : Transfer :=
  final ((Command.sequence (perform daemon xSourcePort) events).run start)

end Transfer

/-! ## Purpose -/

/-- The nodes are where these calls and these arrivals of the data transfer protocol lead: the
PDUs on the wire are those the calls leave, and the SDUs in the queue are those the receiving
instance posts. -/
structure Transfer.Refines (state : Transfer) (ends : FlowEnds) (calls : List WriteCall)
    (arrived : List Pdu) : Prop where
  offered : calls.map WriteCall.sdu = state.offered
  fits : ∀ call ∈ calls, call.encapsulated = true → call.sdu.length + 14 ≤ maxRequest
  sent : state.sender.sentPdus =
    (pxDtpStateVectorInit.written ends.connection calls).map Pdu.toBytes
  brought : List.Forall₂
    (fun number pdu => (pxDtpStateVectorInit.written ends.connection calls)[number]? = some pdu)
    state.delivered arrived
  queued : state.receiver.Queues ends.handle
    (((pxDtpStateVectorInit.posted arrived).map Pdu.sdu).foldl vRsListInsert [])
  writes : state.sender.core.Writes ends.xSourcePort ends.connection
    (pxDtpStateVectorInit.afterCalls ends.connection calls)
  receives : state.receiver.core.Receives ends.connection.xDestinationCepId ends.xDestinationPort
    ends.handle (pxDtpStateVectorInit.afterArrivals arrived)

/-- The flow is bound at both ends, and nothing waits for the receiver. -/
structure FlowEnds.Bound (ends : FlowEnds) (sender receiver : Node) : Prop where
  writes : sender.core.Writes ends.xSourcePort ends.connection pxDtpStateVectorInit
  receives : receiver.core.Receives ends.connection.xDestinationCepId ends.xDestinationPort
    ends.handle pxDtpStateVectorInit
  queue : receiver.Queues ends.handle []

/-! ## Steps -/

section Steps

variable {ends : FlowEnds} {state : Transfer} {calls : List WriteCall} {arrived : List Pdu}

theorem refines_start {sender receiver : Node} (bound : ends.Bound sender receiver) :
    (Transfer.start sender receiver).Refines ends [] [] where
  offered := rfl
  fits := fun _ member => absurd member List.not_mem_nil
  sent := rfl
  brought := .nil
  queued := bound.queue
  writes := ⟨bound.writes.flow, bound.writes.bound⟩
  receives := bound.receives

/-- A PDU on the wire leads to the receiver. -/
theorem FlowEnds.Remote.leadsHere (remote : ends.Remote) {sv : DtpSv} {pdu : Pdu}
    (member : pdu ∈ sv.written ends.connection calls) :
    pdu.pci.LeadsHere ends.connection.xDestinationCepId := by
  obtain ⟨-, -, -, -, earlier, length, header⟩ := DtpSv.mem_written member
  rw [header]
  exact ⟨rfl, remote.destination, remote.qos, rfl, remote.cepId⟩

theorem Transfer.Refines.fits_of_mem (refines : state.Refines ends calls arrived) {pdu : Pdu}
    (member : pdu ∈ pxDtpStateVectorInit.written ends.connection calls) :
    pdu.sdu.length + 14 ≤ maxRequest := by
  obtain ⟨call, among, encapsulated, same, -⟩ := DtpSv.mem_written member
  rw [← same]
  exact refines.fits call among encapsulated

/-- A write is one more call. -/
theorem Transfer.Refines.write (refines : state.Refines ends calls arrived)
    (remote : ends.Remote) (daemon : RibDaemon) (outcomes : Outcomes) (sdu : Block) :
    ∃ call, (final ((Transfer.perform daemon ends.xSourcePort (.write outcomes sdu)).run
      state)).Refines ends (calls ++ [call]) arrived := by
  have different : ends.connection.xSourceAddress ≠ ends.connection.xDestinationAddress := by
    rw [remote.destination]
    exact remote.source
  obtain ⟨call, same, fits, wrote⟩ :=
    perform_writesSdu refines.writes different outcomes sdu
  have ended : final ((Transfer.perform daemon ends.xSourcePort (.write outcomes sdu)).run state) =
      { state with
        offered := state.offered ++ [sdu.val]
        sender := final ((NormalEvent.write outcomes ends.xSourcePort
          (outgoingDescriptor sdu)).perform.run state.sender) } := by
    rw [Transfer.perform, EStateM.run_bind, EStateM.run_modify]
    simp only
    rw [final_bind_of_still fun _ _ => rfl, final_zoom]
  rw [ended]
  refine ⟨call, ?_, ?_, ?_, ?_, refines.queued, ?_, refines.receives⟩
  · rw [List.map_append, refines.offered, List.map_singleton, same]
  · intro other member encapsulated
    rcases List.mem_append.mp member with old | new
    · exact refines.fits other old encapsulated
    · rw [List.mem_singleton.mp new] at encapsulated ⊢
      rw [same]
      exact fits encapsulated
  · rw [wrote.sent, refines.sent, DtpSv.written_concat, List.map_append,
      ← Option.toList_map]
  · rw [DtpSv.written_concat]
    apply refines.brought.imp
    intro number pdu found
    obtain ⟨inside, -⟩ := List.getElem?_eq_some_iff.mp found
    exact (List.getElem?_append_left inside).trans found
  · rw [DtpSv.afterCalls_concat]
    exact wrote.writes

/-- Without such a PDU nothing is brought. -/
theorem run_deliver_unsent (daemon : RibDaemon) (xSourcePort : PortId) {number : Nat}
    (unsent : state.sender.sentPdus[number]? = none) (front back : List UInt8) (obtained : Bool) :
    (Transfer.perform daemon xSourcePort (.deliver number front back obtained)).run state =
      .ok () state := by
  rw [Transfer.perform, EStateM.run_bind, EStateM.run_get]
  simp only [unsent, EStateM.run_pure]

section Brought

variable {daemon : RibDaemon} {xSourcePort : PortId} {number : Nat} {pdu : List UInt8}
  {front back : List UInt8} {obtained : Bool} {receiver : Node}

/-- A frame that is taken. -/
theorem run_deliver_ok (listed : state.sender.sentPdus[number]? = some pdu)
    (run : (receiveFrame daemon obtained (receivedDescriptor front pdu back)).run
      state.receiver = .ok () receiver) :
    (Transfer.perform daemon xSourcePort (.deliver number front back obtained)).run state =
      .ok () { state with receiver, delivered := state.delivered ++ [number] } := by
  rw [Transfer.perform, EStateM.run_bind, EStateM.run_get]
  simp only [listed, EStateM.run_bind, run_zoom, run, EStateM.run_modify]

theorem run_deliver_error (listed : state.sender.sentPdus[number]? = some pdu) {fault : Fault}
    (run : (receiveFrame daemon obtained (receivedDescriptor front pdu back)).run
      state.receiver = .error fault receiver) :
    (Transfer.perform daemon xSourcePort (.deliver number front back obtained)).run state =
      .error fault { state with receiver } := by
  rw [Transfer.perform, EStateM.run_bind, EStateM.run_get]
  simp only [listed, EStateM.run_bind, run_zoom, run]

end Brought

/-- The receiver after an arrival. -/
theorem Transfer.Refines.arrive (refines : state.Refines ends calls arrived) {number : Nat}
    {pdu : Pdu} (found : (pxDtpStateVectorInit.written ends.connection calls)[number]? = some pdu)
    {receiver : Node}
    (receives : receiver.core.Receives ends.connection.xDestinationCepId ends.xDestinationPort
      ends.handle ((pxDtpStateVectorInit.afterArrivals arrived).receive pdu.pci).1)
    (queued : receiver.Queues ends.handle
      ((((pxDtpStateVectorInit.afterArrivals arrived).posted [pdu]).map Pdu.sdu).foldl
        vRsListInsert
        (((pxDtpStateVectorInit.posted arrived).map Pdu.sdu).foldl vRsListInsert []))) :
    Transfer.Refines { state with receiver, delivered := state.delivered ++ [number] } ends calls
      (arrived ++ [pdu]) where
  offered := refines.offered
  fits := refines.fits
  sent := refines.sent
  brought := List.rel_append refines.brought (.cons found .nil)
  queued := by
    rw [DtpSv.posted_concat, List.map_append, List.foldl_append]
    exact queued
  writes := refines.writes
  receives := by
    rw [DtpSv.afterArrivals_concat]
    exact receives

/-- The frame of a PDU that was sent is one more arrival, or it ends in a fault. -/
theorem Transfer.Refines.deliver_sent (refines : state.Refines ends calls arrived)
    (remote : ends.Remote) (daemon : RibDaemon) {number : Nat} {pdu : Pdu}
    (found : (pxDtpStateVectorInit.written ends.connection calls)[number]? = some pdu)
    (front back : List UInt8) (obtained : Bool) :
    (obtained = true ∧
      ((pxDtpStateVectorInit.afterArrivals arrived).receive pdu.pci).2 ≠ (.destroy, false) ∧
      ∃ next, (Transfer.perform daemon ends.xSourcePort
          (.deliver number front back obtained)).run state = .ok () next ∧
        next.Refines ends calls (arrived ++ [pdu])) ∨
    ((obtained = false ∨
        ((pxDtpStateVectorInit.afterArrivals arrived).receive pdu.pci).2 = (.destroy, false)) ∧
      ∃ fault next, (Transfer.perform daemon ends.xSourcePort
          (.deliver number front back obtained)).run state = .error fault next ∧
        next.Refines ends calls arrived) := by
  have member := List.mem_of_getElem? found
  have listed : state.sender.sentPdus[number]? = some pdu.toBytes := by
    rw [refines.sent, List.getElem?_map, found, Option.map_some]
  rcases receiveFrame_ends daemon refines.receives refines.queued
      (frames_received (refines.fits_of_mem member) front back) (remote.leadsHere member)
      obtained with ⟨second, new, receiver, taken, receives, queued⟩ |
    ⟨reason, fault, receiver, taken, receives, queued⟩
  · exact .inl ⟨second, new, _, run_deliver_ok listed taken,
      refines.arrive found receives queued⟩
  · exact .inr ⟨reason, fault, _, run_deliver_error listed taken,
      { refines with receives, queued }⟩

/-- Whatever is brought, the receiver is where some arrivals lead. -/
theorem Transfer.Refines.deliver (refines : state.Refines ends calls arrived)
    (remote : ends.Remote) (daemon : RibDaemon) (number : Nat) (front back : List UInt8)
    (obtained : Bool) :
    ∃ later, (final ((Transfer.perform daemon ends.xSourcePort
      (.deliver number front back obtained)).run state)).Refines ends calls later := by
  cases found : (pxDtpStateVectorInit.written ends.connection calls)[number]? with
  | none =>
      have unsent : state.sender.sentPdus[number]? = none := by
        rw [refines.sent, List.getElem?_map, found, Option.map_none]
      rw [run_deliver_unsent daemon ends.xSourcePort unsent]
      exact ⟨arrived, refines⟩
  | some pdu =>
      rcases refines.deliver_sent remote daemon found front back obtained with
        ⟨-, -, next, run, more⟩ | ⟨-, fault, next, run, same⟩
      · rw [run]
        exact ⟨_, more⟩
      · rw [run]
        exact ⟨arrived, same⟩

end Steps

/-! ## Runs -/

section Runs

variable {ends : FlowEnds} {sender receiver : Node} {daemon : RibDaemon}

/-- An event leaves the nodes where some calls and arrivals lead. -/
theorem refines_perform (remote : ends.Remote) (daemon : RibDaemon) (event : TransferEvent)
    (state : Transfer) (refined : ∃ calls arrived, state.Refines ends calls arrived) :
    ∃ calls arrived, (final ((Transfer.perform daemon ends.xSourcePort event).run
      state)).Refines ends calls arrived := by
  obtain ⟨calls, arrived, refines⟩ := refined
  cases event with
  | write outcomes sdu =>
      obtain ⟨call, wrote⟩ := refines.write remote daemon outcomes sdu
      exact ⟨_, arrived, wrote⟩
  | deliver number front back obtained =>
      obtain ⟨later, delivered⟩ := refines.deliver remote daemon number front back obtained
      exact ⟨calls, later, delivered⟩

/-- Whatever is written and whatever the network does, the two nodes do what the data transfer
protocol does with these calls and arrivals. -/
theorem transfer_refines (remote : ends.Remote) (bound : ends.Bound sender receiver)
    (daemon : RibDaemon) (events : List TransferEvent) :
    ∃ calls arrived, ((Transfer.start sender receiver).after daemon ends.xSourcePort
      events).Refines ends calls arrived :=
  final_sequence (refines_perform remote daemon) events ⟨[], [], refines_start bound⟩

/-- A flow from an application of node 3. -/
def incomingFlow : FlowEnds where
  connection := ⟨1, 3, localAddress, hardcodedCepId, hardcodedCepId, qosCubeId⟩
  xSourcePort := 1
  xDestinationPort := 1
  handle := 0

/-- The node it comes from. -/
def remoteNode : Node :=
  { NormalEvent.acceptedNode with
    core := { NormalEvent.acceptedNode.core with
      efcps := (Store.empty.allocate (ConnectionOp.cleanOutcomes.efcp incomingFlow.connection
        (some ConnectionOp.cleanOutcomes.dtp))).1 } }

theorem remote_incomingFlow : incomingFlow.Remote := ⟨by decide, rfl, rfl, rfl⟩

theorem bound_incomingFlow : incomingFlow.Bound remoteNode NormalEvent.acceptedNode where
  writes := ⟨⟨_, rfl, rfl, rfl⟩, ⟨0, _, _, rfl, rfl, rfl, rfl, rfl, rfl⟩⟩
  receives :=
    { rmt := rfl
      container := rfl
      n1Port := rfl
      bound := ⟨0, _, _, _, rfl, rfl, rfl, rfl, rfl, rfl, rfl⟩
      accepts := ⟨_, ⟨rfl, ⟨_, List.mem_cons_self, rfl⟩, rfl, rfl, rfl⟩, rfl⟩ }
  queue := ⟨_, rfl, .nil⟩

theorem length_oneByte (byte : UInt8) : [byte].length < 2 ^ 32 := by
  rw [List.length_singleton]
  decide

/-- Four SDUs are written, and the network brings the frames of the PDUs at these positions. -/
def relay (positions : List Nat) : List TransferEvent :=
  [7, 8, 9, 10].map (fun byte => .write NormalEvent.writeOutcomes ⟨[byte], length_oneByte byte⟩) ++
    positions.map fun number => .deliver number [] [] true

/-- What this comes to. -/
def relayed (positions : List Nat) : Transfer :=
  (Transfer.start remoteNode NormalEvent.acceptedNode).after .silent incomingFlow.xSourcePort
    (relay positions)

theorem after_relay (positions : List Nat) :
    (Transfer.start remoteNode NormalEvent.acceptedNode).after .silent incomingFlow.xSourcePort
      (relay positions) = relayed positions := rfl

/-- The third PDU comes before the second one and again after it, the fourth one is lost. -/
theorem transfer_refines_incoming :
    (relayed [0, 2, 1, 2]).offered = [[7], [8], [9], [10]] ∧
      (relayed [0, 2, 1, 2]).sender.sentPdus.length = 4 ∧
      (relayed [0, 2, 1, 2]).delivered = [0, 2, 1, 2] ∧
      ∃ calls arrived, (relayed [0, 2, 1, 2]).Refines incomingFlow calls arrived :=
  ⟨by decide +kernel, by decide +kernel, by decide +kernel,
    transfer_refines remote_incomingFlow bound_incomingFlow .silent (relay [0, 2, 1, 2])⟩

/-- The items at increasing positions of a list. -/
theorem sublist_of_positions {α : Type} {all : List α} {positions : List Nat} {items : List α}
    (found : List.Forall₂ (fun position item => all[position]? = some item) positions items)
    (increasing : positions.Pairwise (· < ·)) {start : Nat}
    (beyond : ∀ position ∈ positions, start ≤ position) : items.Sublist (all.drop start) := by
  induction found generalizing start with
  | nil => exact List.nil_sublist _
  | @cons position item positions items here _ ih =>
      obtain ⟨above, increasing⟩ := List.pairwise_cons.mp increasing
      obtain ⟨inside, same⟩ := List.getElem?_eq_some_iff.mp here
      have rest := ih increasing above
      have split := List.drop_eq_getElem_cons inside
      rw [same] at split
      have taken : (item :: items).Sublist (all.drop position) := by
        rw [split]
        exact rest.cons_cons item
      exact taken.trans (List.drop_sublist_drop_left all (beyond position List.mem_cons_self))

/-- Before the wrap everything that arrives in the order of its positions is posted. -/
theorem Transfer.Refines.posted_all {state : Transfer} {calls : List WriteCall}
    {arrived : List Pdu} (refines : state.Refines ends calls arrived)
    (increasing : state.delivered.Pairwise (· < ·)) (few : state.offered.length < 2 ^ 32) :
    arrived.Sublist (pxDtpStateVectorInit.written ends.connection calls) ∧
      pxDtpStateVectorInit.posted arrived = arrived := by
  have included : arrived.Sublist (pxDtpStateVectorInit.written ends.connection calls) :=
    sublist_of_positions refines.brought increasing fun position _ => Nat.zero_le position
  have drawn : calls.countP WriteCall.encapsulated < 2 ^ 32 := by
    rw [← refines.offered, List.length_map] at few
    exact Nat.lt_of_le_of_lt List.countP_le_length few
  have ordered : (numbers arrived).Pairwise (· < ·) := by
    have sent := (sentNumbers_increasing 0 (by rwa [Nat.zero_add])).2
    rw [← DtpSv.numbers_written ends.connection pxDtpStateVectorInit 0 rfl calls] at sent
    exact sent.sublist (included.map _)
  have flagged : ∀ pdu ∈ arrived, pdu.pci.hasDataRun = true := fun pdu member =>
    DtpSv.hasDataRun_written ends.connection _ rfl calls pdu (included.subset member)
  exact ⟨included, (DtpSv.posted_eq_self_iff flagged).mpr
    (LeftEdge.neverCovered_of_increasing ordered)⟩

/-- Of what the network does not reorder or repeat every SDU is queued once, the first one in
front and the others behind it with the newest one first, as long as the sequence numbers do not
wrap around. -/
theorem transfer_queued (remote : ends.Remote) (bound : ends.Bound sender receiver)
    {events : List TransferEvent} {state : Transfer}
    (reached : (Transfer.start sender receiver).after daemon ends.xSourcePort events = state)
    (increasing : state.delivered.Pairwise (· < ·)) (few : state.offered.length < 2 ^ 32) :
    ∃ sdus : List (List UInt8), sdus.Sublist state.offered ∧
      List.Forall₂ (fun number sdu => ∃ pci : Pci,
        state.sender.sentPdus[number]? = some (pci.toBytes ++ sdu)) state.delivered sdus ∧
      state.receiver.Queues ends.handle (sdus.take 1 ++ (sdus.drop 1).reverse) := by
  obtain ⟨calls, arrived, refines⟩ :=
    final_sequence (refines_perform remote daemon) events ⟨[], [], refines_start bound⟩
  rw [← Transfer.after, reached] at refines
  obtain ⟨included, all⟩ := refines.posted_all increasing few
  refine ⟨arrived.map Pdu.sdu, ?_, ?_, ?_⟩
  · rw [← refines.offered]
    have sent := DtpSv.sdus_written ends.connection pxDtpStateVectorInit calls
    have among := included.map Pdu.sdu
    rw [sent] at among
    exact among.trans ((List.filter_sublist).map _)
  · rw [List.forall₂_map_right_iff]
    apply refines.brought.imp
    intro number pdu found
    refine ⟨pdu.pci, ?_⟩
    rw [refines.sent, List.getElem?_map, found]
    rfl
  · have queued := refines.queued
    rw [all, foldl_vRsListInsert] at queued
    exact queued

/-- The SDU is what stands behind the header. -/
theorem sdu_of_sent {pdus : List (List UInt8)} {number : Nat} {sdu : List UInt8}
    (sent : ∃ pci : Pci, pdus[number]? = some (pci.toBytes ++ sdu)) :
    pdus[number]?.map (List.drop pciLength) = some sdu := by
  obtain ⟨pci, found⟩ := sent
  rw [found, Option.map_some, List.drop_left' (Pci.toBytes_length pci)]

theorem filterMap_of_forall₂ {α β γ : Type} {f : α → Option γ} {g : β → γ} {first : List α}
    {second : List β} (all : List.Forall₂ (fun one other => f one = some (g other)) first second) :
    first.filterMap f = second.map g := by
  induction all with
  | nil => rfl
  | cons here _ ih => rw [List.filterMap_cons, here, List.map_cons, ih]

/-- The third PDU is lost. Of the three that arrive the last one stands before the second one. -/
theorem transfer_queued_incoming : (relayed [0, 1, 3]).delivered = [0, 1, 3] ∧
    (relayed [0, 1, 3]).receiver.Queues incomingFlow.handle [[7], [10], [8]] := by
  have brought : (relayed [0, 1, 3]).delivered = [0, 1, 3] := by decide +kernel
  have increasing : (relayed [0, 1, 3]).delivered.Pairwise (· < ·) := by
    rw [brought]
    decide
  obtain ⟨sdus, -, carried, queued⟩ := transfer_queued remote_incomingFlow bound_incomingFlow
    (after_relay [0, 1, 3]) increasing (by decide +kernel)
  have behind := carried.imp fun _ _ => sdu_of_sent
  have same : (relayed [0, 1, 3]).delivered.filterMap (fun number =>
      (relayed [0, 1, 3]).sender.sentPdus[number]?.map (List.drop pciLength)) = sdus := by
    rw [filterMap_of_forall₂ (g := id) behind, List.map_id]
  have read : (relayed [0, 1, 3]).delivered.filterMap (fun number =>
      (relayed [0, 1, 3]).sender.sentPdus[number]?.map (List.drop pciLength)) =
        [[7], [8], [10]] := by
    decide +kernel
  rw [read] at same
  rw [← same] at queued
  exact ⟨brought, queued⟩

/-! ## Repeated frames -/

/-- The number of a PDU on the wire. -/
def wireNumber (pdu : List UInt8) : Option Nat :=
  (Pci.ofBytes pdu).map fun pci => pci.xSequenceNumber.toNat

/-- The sequence numbers the receiver was brought, in their order. -/
def Transfer.arrivedNumbers (state : Transfer) : List Nat :=
  state.delivered.filterMap fun number => state.sender.sentPdus[number]?.bind wireNumber

/-- The receiver was brought all numbers from the first one up to that of the PDU, in this
order, or the first one lies above it. -/
def Transfer.Covers (state : Transfer) (number : Nat) : Prop :=
  ∃ first later covered, state.arrivedNumbers = first :: later ∧
    state.sender.sentPdus[number]?.bind wireNumber = some covered ∧
      LeftEdge.Covered first (first :: later) covered

namespace DtpSv

/-- Once the first PDU was taken the instance keeps a left edge. -/
theorem afterArrivals_running (sv : DtpSv) (running : sv.xDrfRequired = false) (pdus : List Pdu) :
    (sv.afterArrivals pdus).xDrfRequired = false ∧
      (sv.afterArrivals pdus).xRcvLeftWindowEdge.toNat =
        LeftEdge.edge sv.xRcvLeftWindowEdge.toNat (numbers pdus) := by
  induction pdus generalizing sv with
  | nil => exact ⟨running, rfl⟩
  | cons pdu pdus ih =>
      have stepped : sv.afterArrivals (pdu :: pdus) =
          (sv.receive pdu.pci).1.afterArrivals pdus := rfl
      rw [stepped, numbers_cons, LeftEdge.edge_cons]
      by_cases covered : pdu.pci.xSequenceNumber ≤ sv.xRcvLeftWindowEdge
      · rw [receive_of_le running covered,
          LeftEdge.advance_of_le (UInt32.le_iff_toNat_le.mp covered)]
        exact ih sv running
      · have above := UInt32.not_le.mp covered
        rw [receive_of_lt running above, ← toNat_advance above]
        exact ih (sv.advanced pdu.pci) running

/-- What the instance destroys as a duplicate, when all PDUs carry the data run flag. -/
theorem receive_duplicate_iff {arrived : List Pdu}
    (flagged : ∀ pdu ∈ arrived, pdu.pci.hasDataRun = true) {pci : Pci}
    (flag : pci.hasDataRun = true) :
    ((pxDtpStateVectorInit.afterArrivals arrived).receive pci).2 = (.destroy, false) ↔
      ∃ first later, numbers arrived = first :: later ∧
        LeftEdge.Covered first (first :: later) pci.xSequenceNumber.toNat := by
  cases arrived with
  | nil =>
      have waits : (pxDtpStateVectorInit.receive pci).2 = (.post, true) := by
        rw [receive_of_required rfl, if_pos flag]
      apply iff_of_false
      · change (pxDtpStateVectorInit.receive pci).2 ≠ _
        rw [waits]
        intro same
        cases same
      · rintro ⟨first, later, none, -⟩
        cases none
  | cons pdu pdus =>
      have first := flagged pdu List.mem_cons_self
      have begun : pxDtpStateVectorInit.receive pdu.pci =
          (pxDtpStateVectorInit.started pdu.pci, .post, true) := by
        rw [receive_of_required rfl, if_pos first]
      have stepped : pxDtpStateVectorInit.afterArrivals (pdu :: pdus) =
          (pxDtpStateVectorInit.started pdu.pci).afterArrivals pdus := by
        rw [afterArrivals, List.foldl_cons, begun]
        rfl
      obtain ⟨running, reached⟩ :=
        afterArrivals_running (pxDtpStateVectorInit.started pdu.pci) rfl pdus
      have edge : ((pxDtpStateVectorInit.started pdu.pci).afterArrivals
          pdus).xRcvLeftWindowEdge.toNat =
            LeftEdge.edge pdu.pci.xSequenceNumber.toNat (numbers pdus) := reached
      have numbered : (∃ first later, numbers (pdu :: pdus) = first :: later ∧
          LeftEdge.Covered first (first :: later) pci.xSequenceNumber.toNat) ↔
            LeftEdge.Covered pdu.pci.xSequenceNumber.toNat (numbers (pdu :: pdus))
              pci.xSequenceNumber.toNat := by
        constructor
        · rintro ⟨number, later, same, covered⟩
          rw [← same] at covered
          rw [numbers_cons] at same
          rw [(List.cons.inj same).1]
          exact covered
        · exact fun covered => ⟨_, _, rfl, covered⟩
      rw [stepped, numbered, numbers_cons, ← LeftEdge.le_edge_iff_covered, ← edge,
        ← UInt32.le_iff_toNat_le]
      by_cases covered : pci.xSequenceNumber ≤
          ((pxDtpStateVectorInit.started pdu.pci).afterArrivals pdus).xRcvLeftWindowEdge
      · rw [receive_of_le running covered]
        exact iff_of_true rfl covered
      · rw [receive_of_lt running (UInt32.not_le.mp covered)]
        apply iff_of_false _ covered
        intro same
        cases same

end DtpSv

@[simp] theorem wireNumber_toBytes (pdu : Pdu) :
    wireNumber pdu.toBytes = some pdu.pci.xSequenceNumber.toNat := by
  rw [wireNumber, Pdu.toBytes, Pci.ofBytes_toBytes, Option.map_some]

theorem exists_of_forall₂ {α β : Type} {related : α → β → Prop} {first : List α}
    {second : List β} (all : List.Forall₂ related first second) :
    ∀ other ∈ second, ∃ one, related one other := by
  induction all with
  | nil => exact fun _ member => absurd member List.not_mem_nil
  | cons here _ ih =>
      intro other member
      rcases List.mem_cons.mp member with rfl | later
      · exact ⟨_, here⟩
      · exact ih other later

section Numbers

variable {state : Transfer} {calls : List WriteCall} {arrived : List Pdu}

theorem Transfer.Refines.sentNumber (refines : state.Refines ends calls arrived) {number : Nat}
    {pdu : Pdu}
    (found : (pxDtpStateVectorInit.written ends.connection calls)[number]? = some pdu) :
    state.sender.sentPdus[number]?.bind wireNumber = some pdu.pci.xSequenceNumber.toNat := by
  rw [refines.sent, List.getElem?_map, found, Option.map_some, Option.bind_some,
    wireNumber_toBytes]

/-- The numbers brought are those of the arrivals. -/
theorem Transfer.Refines.arrivedNumbers (refines : state.Refines ends calls arrived) :
    state.arrivedNumbers = numbers arrived := by
  have named := refines.brought.imp fun _ _ found => refines.sentNumber found
  exact filterMap_of_forall₂ named

/-- The frame of a PDU is destroyed as a duplicate exactly if its number is covered. -/
theorem Transfer.Refines.duplicate_iff (refines : state.Refines ends calls arrived)
    {number : Nat} {pdu : Pdu}
    (found : (pxDtpStateVectorInit.written ends.connection calls)[number]? = some pdu) :
    ((pxDtpStateVectorInit.afterArrivals arrived).receive pdu.pci).2 = (.destroy, false) ↔
      state.Covers number := by
  have written := DtpSv.hasDataRun_written ends.connection pxDtpStateVectorInit rfl calls
  have flagged : ∀ pdu ∈ arrived, pdu.pci.hasDataRun = true := by
    intro other member
    obtain ⟨position, here⟩ := exists_of_forall₂ refines.brought other member
    exact written other (List.mem_of_getElem? here)
  rw [DtpSv.receive_duplicate_iff flagged (written pdu (List.mem_of_getElem? found)),
    Transfer.Covers, refines.arrivedNumbers, refines.sentNumber found]
  constructor
  · rintro ⟨first, later, brought, covered⟩
    exact ⟨first, later, _, brought, rfl, covered⟩
  · rintro ⟨first, later, _, brought, ⟨⟩, covered⟩
    exact ⟨first, later, brought, covered⟩

end Numbers

/-- A frame with a second buffer is taken unless its number is covered: a PDU that is repeated
without a gap before it takes the receiver down. -/
theorem delivery_returns_iff (remote : ends.Remote) (bound : ends.Bound sender receiver)
    {events : List TransferEvent} {state : Transfer}
    (reached : (Transfer.start sender receiver).after daemon ends.xSourcePort events = state)
    {number : Nat} (sent : number < state.sender.sentPdus.length) (front back : List UInt8)
    (obtained : Bool) :
    (∃ next, (Transfer.perform daemon ends.xSourcePort
      (.deliver number front back obtained)).run state = .ok () next) ↔
        obtained = true ∧ ¬ state.Covers number := by
  obtain ⟨calls, arrived, refines⟩ :=
    final_sequence (refines_perform remote daemon) events ⟨[], [], refines_start bound⟩
  rw [← Transfer.after, reached] at refines
  rw [refines.sent, List.length_map] at sent
  have found := List.getElem?_eq_getElem sent
  rw [← refines.duplicate_iff found]
  rcases refines.deliver_sent remote daemon found front back obtained with
    ⟨second, new, next, run, -⟩ | ⟨reason, fault, next, run, -⟩
  · exact iff_of_true ⟨next, run⟩ ⟨second, new⟩
  · apply iff_of_false
    · rintro ⟨other, returned⟩
      cases returned.symm.trans run
    · rintro ⟨second, new⟩
      rcases reason with missing | duplicate
      · exact Bool.false_ne_true (missing.symm.trans second)
      · exact new duplicate

/-- The third PDU came after the first one without the second one: it is taken again, and the
first one is not. -/
theorem delivery_returns_incoming :
    (∃ next, (Transfer.perform .silent incomingFlow.xSourcePort (.deliver 2 [] [] true)).run
      (relayed [0, 2]) = .ok () next) ∧
    ¬ ∃ next, (Transfer.perform .silent incomingFlow.xSourcePort (.deliver 0 [] [] true)).run
      (relayed [0, 2]) = .ok () next := by
  have arrived : (relayed [0, 2]).arrivedNumbers = [1, 3] := by decide +kernel
  have sent : (relayed [0, 2]).sender.sentPdus.length = 4 := by decide +kernel
  constructor
  · rw [delivery_returns_iff remote_incomingFlow bound_incomingFlow (after_relay [0, 2])
      (lt_of_lt_of_eq (by decide) sent.symm)]
    refine ⟨rfl, ?_⟩
    rintro ⟨first, later, covered, brought, named, among⟩
    have number : (relayed [0, 2]).sender.sentPdus[2]?.bind wireNumber = some 3 := by
      decide +kernel
    rw [arrived] at brought
    rw [number] at named
    cases brought
    cases named
    exact absurd among (by decide)
  · rw [delivery_returns_iff remote_incomingFlow bound_incomingFlow (after_relay [0, 2])
      (lt_of_lt_of_eq (by decide) sent.symm)]
    rintro ⟨-, new⟩
    have number : (relayed [0, 2]).sender.sentPdus[0]?.bind wireNumber = some 1 := by
      decide +kernel
    exact new ⟨1, [3], 1, arrived, number, by decide⟩

end Runs

end RinaSense
