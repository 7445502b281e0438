import RinaSense.Ipcp.ReceiveConfinement
import RinaSense.Ipcp.SentPdus
import RinaSense.Library.History

/-!
# The CEP id of the peer

A connection is meant to learn the CEP id of its peer from the first PDU it receives and to
keep it: all PDUs it sends from then on carry that id. The module determines the runs of
receptions and writes in which it is so.
-/

namespace RinaSense

open Command History

/-- A PDU handed to the container for a CEP id, with its header pointer, or an SDU written
through an EFCP instance. -/
inductive DataEvent where
  | receive (xCepId : CepId) (descriptor : NetworkBufferDescriptor) (pxPci : Option Nat)
  | write (pxEfcp : EfcpId) (outcomes : Outcomes) (descriptor : NetworkBufferDescriptor)
  deriving Repr, DecidableEq

namespace DataEvent

def perform (event : DataEvent) : Rina Bool := do
  let node ← get
  match event with
  | receive xCepId descriptor pxPci =>
      set (node.takeIn descriptor pxPci)
      xEfcpContainerReceive xCepId node.dus.next
  | write pxEfcp outcomes descriptor =>
      set (node.takeIn descriptor none)
      xDtpWrite outcomes pxEfcp node.dus.next

/-- The header of the data transfer PDU the event brings to an instance. -/
def header? (core : Core) (pxEfcp : EfcpId) : DataEvent → Option Pci
  | receive xCepId descriptor pxPci =>
      if isCepIdOk xCepId ∧ core.resolve xCepId = some pxEfcp then
        (headerOf { pxNetworkBuffer := none, pxPci } descriptor).filter fun pci =>
          pci.xType == pduTypeDt
      else none
  | write _ _ _ => none

end DataEvent

/-- A set id stays; an unset one becomes the id the PDU carries. -/
def learn (known : CepId) (pci : Pci) : CepId :=
  if known = cepIdWrong then pci.connectionId.xSource else known

/-- What a connection that began with an id should know after these events. -/
def peerOf (core : Core) (pxEfcp : EfcpId) (initial : CepId) (events : List DataEvent) : CepId :=
  (events.filterMap (DataEvent.header? core pxEfcp)).foldl learn initial

/-- The id is the one learnt, and a PDU written is sent with it or not at all. -/
structure DataEvent.KeepsPeer (core : Core) (before : List DataEvent) (node : Node)
    (event : DataEvent) : Prop where
  stored : ∀ {efcp : EfcpId} {connection : Connection}, core.Live efcp connection →
    ∃ kept, (final (event.perform.run node)).core.Live efcp kept ∧ kept.xDestinationCepId =
      peerOf core efcp connection.xDestinationCepId (before ++ [event])
  sent : ∀ {efcp : EfcpId} {connection : Connection} {outcomes : Outcomes}
    {descriptor : NetworkBufferDescriptor}, core.Live efcp connection →
    event = .write efcp outcomes descriptor →
      (final (event.perform.run node)).sentPdus = node.sentPdus ∨
        ∃ pdu pci, (final (event.perform.run node)).sentPdus = node.sentPdus ++ [pdu] ∧
          Pci.ofBytes pdu = some pci ∧ pci.connectionId.xDestination =
            peerOf core efcp connection.xDestinationCepId before

/-- A received PDU carries the id of the peer as its own destination, or, where that is not
set, none that could be learnt. -/
def DataEvent.Harmless (core : Core) (event : DataEvent) : Prop :=
  ∀ {efcp : EfcpId} {connection : Connection} {pci : Pci}, core.Live efcp connection →
    event.header? core efcp = some pci →
      if connection.xDestinationCepId = cepIdWrong then
        pci.connectionId.xSource = cepIdWrong
      else pci.connectionId.xDestination = connection.xDestinationCepId

/-! ## The tables after an event -/

/-- A call may change the state vectors, the record and the queues, but no connection. -/
def binding (start : Node) : Scope (EfcpState × Option Connection) where
  view := Efcp.binding
  n1Port := fun _ => True
  sent := fun _ => True
  port := fun _ => True
  rows := fun rows => rows = start.core.xFlowRequestTable

/-- Every live connection is still live, changed by the headers it was brought, and the ids
lead where they led. -/
structure Core.Notes (core : Core) (headers : EfcpId → Option Pci) (after : Core) : Prop where
  live : ∀ {efcp : EfcpId} {connection : Connection}, core.Live efcp connection →
    after.Live efcp ((headers efcp).elim connection connection.noteReceived)
  resolves : ∀ xCepId, after.resolve xCepId = core.resolve xCepId

section Notes

variable {core middle after : Core} {headers : EfcpId → Option Pci} {efcp : EfcpId}
  {connection : Connection}

/-- An instance that shows the same state and connection has the same live connection. -/
theorem Core.Evolves.live (evolves : core.Evolves Efcp.binding after)
    (live : core.Live efcp connection) : after.Live efcp connection := by
  obtain ⟨value, found, allocated, held⟩ := live
  have same := evolves.efcps efcp
  rw [found, Option.map_some] at same
  obtain ⟨other, present, shown⟩ := Option.map_eq_some_iff.mp same
  obtain ⟨state, bound⟩ := Prod.mk.inj shown
  exact ⟨other, present, state.trans allocated, bound.trans held⟩

theorem Core.Notes.evolves (notes : core.Notes headers middle)
    (evolves : middle.Evolves Efcp.binding after) : core.Notes headers after where
  live := fun live => evolves.live (notes.live live)
  resolves := fun xCepId => (evolves.resolves xCepId).trans (notes.resolves xCepId)

/-- No connection was brought a header. -/
theorem notes_of_evolves (evolves : core.Evolves Efcp.binding after)
    (none : ∀ {efcp : EfcpId} {connection : Connection}, core.Live efcp connection →
      headers efcp = none) : core.Notes headers after where
  live := fun live => by
    rw [none live]
    exact evolves.live live
  resolves := evolves.resolves

/-- The instance the header was brought to has its connection replaced. -/
theorem notes_setEfcp {efcp : EfcpId} {value : Efcp} {connection : Connection} {pci : Pci}
    (found : core.efcps.get? efcp = some value) (held : value.pxConnection = some connection)
    (brought : headers efcp = some pci) (others : ∀ other, other ≠ efcp → headers other = none)
    (xCepId : CepId) :
    core.Notes headers ((core.lookUp xCepId).setEfcp efcp
      { value with pxConnection := some (connection.noteReceived pci) }) where
  live := by
    rintro other old ⟨holder, present, allocated, holds⟩
    by_cases here : other = efcp
    · rw [here] at present
      rw [here, brought]
      have same := Option.some.inj (present.symm.trans found)
      rw [same] at allocated holds
      rw [← Option.some.inj (held.symm.trans holds)]
      exact ⟨_, get?_setEfcp (show (core.lookUp xCepId).efcps.get? efcp = some value from found) _,
        allocated, rfl⟩
    · rw [others other here]
      exact ⟨holder, (Store.get?_set_of_ne _ here _).trans present, allocated, holds⟩
  resolves := resolve_lookUp core xCepId

end Notes

section Events

variable {node : Node} {descriptor : NetworkBufferDescriptor} {pxPci : Option Nat}

/-- After its note the container goes on without touching a connection. -/
theorem efcpReceive_evolves (core : Core) (pxEfcp : EfcpId)
    (table : core.xFlowRequestTable = node.core.xFlowRequestTable) :
    core.Evolves Efcp.binding (final ((xEfcpReceive pxEfcp node.dus.next).run
      { node.takeIn descriptor pxPci with core })).core := by
  have underway : Underway { node with core } (binding node)
      (Node.takeIn { node with core } descriptor pxPci) :=
    underway_takeIn trivial table trivial descriptor pxPci
  have admits : (binding node).AdmitsInstance { node with core } pxEfcp := by
    intro _ _ _ _ _ _ _ _
    exact trivial
  have received : Confined { node with core } (binding node) (xEfcpReceive pxEfcp node.dus.next)
      fun _ => True :=
    confined_efcpReceive (fun _ rows => rows.trans table.symm) (fun _ _ _ _ => rfl) (le_refl _) admits
  exact (received.final underway).core

/-- Only the instance the id leads to is brought anything. -/
theorem header?_of_ne {xCepId : CepId} {pxEfcp efcp : EfcpId}
    (led : node.core.resolve xCepId = some pxEfcp) (other : efcp ≠ pxEfcp) :
    DataEvent.header? node.core efcp (.receive xCepId descriptor pxPci) = none := by
  have unled : node.core.resolve xCepId ≠ some efcp := fun here =>
    other (Option.some.inj (here.symm.trans led))
  simp [DataEvent.header?, unled]

/-- The instance the id leads to has no connection, or is brought nothing. -/
theorem notes_of_idle {xCepId : CepId} {pxEfcp : EfcpId} {after : Core}
    (led : node.core.resolve xCepId = some pxEfcp) (evolves : node.core.Evolves Efcp.binding after)
    (idle : ∀ connection, node.core.Live pxEfcp connection →
      DataEvent.header? node.core pxEfcp (.receive xCepId descriptor pxPci) = none) :
    node.core.Notes
      (fun efcp => DataEvent.header? node.core efcp (.receive xCepId descriptor pxPci)) after := by
  apply notes_of_evolves evolves
  intro efcp connection live
  by_cases here : efcp = pxEfcp
  · rw [here] at live ⊢
    exact idle connection live
  · exact header?_of_ne led here

/-- An instance that is not deallocated takes note of a data transfer PDU and goes on. -/
theorem instance_notes {xCepId : CepId} (ok : isCepIdOk xCepId = true) {pxEfcp : EfcpId}
    (led : node.core.resolve xCepId = some pxEfcp) {efcp : Efcp}
    (stored : node.core.efcps.get? pxEfcp = some efcp) :
    node.core.Notes (fun efcp => DataEvent.header? node.core efcp (.receive xCepId descriptor pxPci))
      (final ((do
        let pci ← readPci node.dus.next
        if pci.xType = pduTypeDt then
          let connection ← follow efcp.pxConnection
          writeEfcp pxEfcp { efcp with pxConnection := some (connection.noteReceived pci) }
        xEfcpReceive pxEfcp node.dus.next : Rina Bool).run
          { node.takeIn descriptor pxPci with core := node.core.lookUp xCepId })).core := by
  have found : node.core.Evolves Efcp.binding (node.core.lookUp xCepId) := evolves_lookUp _ xCepId
  have owns := (owns_takeIn node descriptor pxPci).withCore (node.core.lookUp xCepId)
  have brought : DataEvent.header? node.core pxEfcp (.receive xCepId descriptor pxPci) =
      (headerOf { pxNetworkBuffer := some node.buffers.next, pxPci } descriptor).filter fun pci =>
        pci.xType == pduTypeDt := if_pos ⟨ok, led⟩
  cases header : headerOf { pxNetworkBuffer := some node.buffers.next, pxPci } descriptor with
  | none =>
      obtain ⟨fault, read⟩ := run_readPci_headless owns header
      rw [run_bind_error read]
      rw [header, Option.filter_none] at brought
      exact notes_of_idle led found fun _ _ => brought
  | some pci =>
      rw [run_bind_ok (run_readPci owns header)]
      rw [header, Option.filter_some] at brought
      by_cases data : pci.xType = pduTypeDt
      · rw [if_pos (beq_iff_eq.mpr data)] at brought
        rw [if_pos data]
        cases connected : efcp.pxConnection with
        | none =>
            apply notes_of_idle led found
            rintro connection ⟨value, present, -, held⟩
            rw [Option.some.inj (present.symm.trans stored), connected] at held
            cases held
        | some connection =>
            have noted := notes_setEfcp stored connected brought
              (fun other away => header?_of_ne led away) xCepId
            exact noted.evolves (efcpReceive_evolves _ pxEfcp rfl)
      · rw [if_neg (by simpa using data)] at brought
        rw [if_neg data]
        exact notes_of_idle led (found.trans (efcpReceive_evolves _ pxEfcp rfl)) fun _ _ => brought

/-- What a reception leaves of the connections. -/
theorem receive_notes (node : Node) (xCepId : CepId) (descriptor : NetworkBufferDescriptor)
    (pxPci : Option Nat) :
    node.core.Notes (fun efcp => DataEvent.header? node.core efcp (.receive xCepId descriptor pxPci))
      (final ((DataEvent.receive xCepId descriptor pxPci).perform.run node)).core := by
  have run : (DataEvent.receive xCepId descriptor pxPci).perform.run node =
    (xEfcpContainerReceive xCepId node.dus.next).run (node.takeIn descriptor pxPci) := rfl
  rw [run, xEfcpContainerReceive]
  have looked : Underway { node with core := node.core.lookUp xCepId } (binding node)
      (Node.takeIn { node with core := node.core.lookUp xCepId } descriptor pxPci) :=
    underway_takeIn trivial rfl trivial descriptor pxPci
  have found : node.core.Evolves Efcp.binding (node.core.lookUp xCepId) := evolves_lookUp _ xCepId
  cases ok : isCepIdOk xCepId with
  | false =>
      have taken : Underway node (binding node) (node.takeIn descriptor pxPci) :=
        underway_takeIn trivial rfl trivial descriptor pxPci
      have destroyed := (confined_destroyed (le_refl _) false).final taken
      exact notes_of_evolves destroyed.core fun _ => by simp [DataEvent.header?, ok]
  | true =>
      simp only [Bool.not_true, Bool.false_eq_true, if_false]
      rw [run_bind_ok (run_efcpImapFind xCepId _), takeIn_core]
      cases entry : (pxEfcpImapFind xCepId node.core.xEfcpImapTable).2 with
      | none =>
          have destroyed := (confined_destroyed (le_refl _) false).final looked
          have unled (efcp : EfcpId) : node.core.resolve xCepId ≠ some efcp := fun led => by
            cases entry.symm.trans led
          exact notes_of_evolves (found.trans destroyed.core) fun _ => by
            simp [DataEvent.header?, unled]
      | some pxEfcp =>
          cases stored : node.core.efcps.get? pxEfcp with
          | none =>
              have absent := run_readEfcp_absent (show ({ node.takeIn descriptor pxPci with
                core := node.core.lookUp xCepId } : Node).core.efcps.get? pxEfcp = none from stored)
              simp only
              rw [run_bind_error absent]
              apply notes_of_idle entry found
              rintro connection ⟨value, present, -⟩
              cases stored.symm.trans present
          | some efcp =>
              have present := run_readEfcp (show ({ node.takeIn descriptor pxPci with
                core := node.core.lookUp xCepId } : Node).core.efcps.get? pxEfcp = some efcp
                  from stored)
              simp only
              rw [run_bind_ok present]
              split
              · next gone =>
                  have destroyed := (confined_destroyed (le_refl _) true).final looked
                  apply notes_of_idle entry (found.trans destroyed.core)
                  rintro connection ⟨value, held, allocated, -⟩
                  rw [Option.some.inj (held.symm.trans stored), gone] at allocated
                  cases allocated
              · exact instance_notes ok entry stored

end Events

/-! ## One event -/

section Steps

variable {node : Node}

/-- A connection keeps what it knew, or learns, exactly if the PDU does no harm. -/
theorem noteReceived_iff (connection : Connection) (pci : Pci) :
    (connection.noteReceived pci).xDestinationCepId = learn connection.xDestinationCepId pci ↔
      if connection.xDestinationCepId = cepIdWrong then pci.connectionId.xSource = cepIdWrong
      else pci.connectionId.xDestination = connection.xDestinationCepId := by
  by_cases unset : connection.xDestinationCepId = cepIdWrong
  · simp only [Connection.noteReceived, learn, unset, bne_self_eq_false, Bool.false_eq_true,
      if_false, if_true]
    exact eq_comm
  · simp only [Connection.noteReceived, learn, unset, if_false, bne_iff_ne, ne_eq,
      not_false_eq_true, if_true]

/-- A write carries the CEP ids of the connection it goes through. -/
theorem write_sends {pxEfcp : EfcpId} {connection : Connection}
    (live : node.core.Live pxEfcp connection) (outcomes : Outcomes)
    (descriptor : NetworkBufferDescriptor) :
    Sends node connection.Carries
      (final ((DataEvent.write pxEfcp outcomes descriptor).perform.run node)) := by
  obtain ⟨value, found, -, held⟩ := live
  have taken : Underway node (sending node node.sentPdus) (node.takeIn descriptor none) :=
    underway_takeIn trivial rfl rfl descriptor none
  apply dtpWrite_sends taken (le_refl _) (owns_takeIn node descriptor none)
    (show (node.takeIn descriptor none).core.efcps.get? pxEfcp = some value from found)
  intro _ other bound pdu carries
  rwa [Option.some.inj (held.symm.trans bound)]

theorem write_evolves (node : Node) (pxEfcp : EfcpId) (outcomes : Outcomes)
    (descriptor : NetworkBufferDescriptor) :
    node.core.Evolves Efcp.binding
      (final ((DataEvent.write pxEfcp outcomes descriptor).perform.run node)).core := by
  have taken : Underway node (sending node node.sentPdus) (node.takeIn descriptor none) :=
    underway_takeIn trivial rfl rfl descriptor none
  cases found : node.core.efcps.get? pxEfcp with
  | none =>
      have run : (DataEvent.write pxEfcp outcomes descriptor).perform.run node =
        (xDtpWrite outcomes pxEfcp node.dus.next).run (node.takeIn descriptor none) := rfl
      have absent := run_readEfcp_absent
        (show (node.takeIn descriptor none).core.efcps.get? pxEfcp = none from found)
      rw [run, xDtpWrite, run_bind_error absent]
      exact taken.core
  | some efcp =>
      have sends : Sends node (fun _ => True)
          (final ((DataEvent.write pxEfcp outcomes descriptor).perform.run node)) :=
        dtpWrite_sends taken (le_refl _) (owns_takeIn node descriptor none)
          (show (node.takeIn descriptor none).core.efcps.get? pxEfcp = some efcp from found)
          outcomes (fun _ _ _ _ _ => trivial)
      rcases sends with none | ⟨pdu, -, one⟩
      · exact none.core
      · exact one.core

/-- Every event changes the connections by the headers it brings, and no others. -/
theorem perform_notes (node : Node) (event : DataEvent) :
    node.core.Notes (fun efcp => event.header? node.core efcp)
      (final (event.perform.run node)).core := by
  cases event with
  | receive xCepId descriptor pxPci => exact receive_notes node xCepId descriptor pxPci
  | write pxEfcp outcomes descriptor =>
      exact notes_of_evolves (write_evolves node pxEfcp outcomes descriptor) fun _ => rfl

end Steps

/-! ## Runs -/

/-- No connection has been changed so far, and none should have been. -/
structure Steady (start : Core) (before : List DataEvent) (core : Core) : Prop where
  live : ∀ {efcp : EfcpId} {connection : Connection}, start.Live efcp connection →
    core.Live efcp connection
  known : ∀ {efcp : EfcpId} {connection : Connection}, start.Live efcp connection →
    peerOf start efcp connection.xDestinationCepId before = connection.xDestinationCepId
  resolves : ∀ xCepId, core.resolve xCepId = start.resolve xCepId

/-- The events lead from `start` to a node, without a fault. -/
def DataEvent.Leads (start : Node) (events : List DataEvent) (node : Node) : Prop :=
  (sequence perform events).run start = .ok () node

section Runs

variable {start node : Node} {core : Core} {before : List DataEvent} {event : DataEvent}

theorem header?_congr {other : Core} (resolves : ∀ xCepId, other.resolve xCepId = core.resolve xCepId)
    (efcp : EfcpId) (event : DataEvent) : event.header? other efcp = event.header? core efcp := by
  cases event with
  | receive xCepId descriptor pxPci => simp only [DataEvent.header?, resolves]
  | write pxEfcp outcomes descriptor => rfl

theorem peerOf_concat (core : Core) (efcp : EfcpId) (initial : CepId) (before : List DataEvent)
    (event : DataEvent) :
    peerOf core efcp initial (before ++ [event]) =
      (event.header? core efcp).elim (peerOf core efcp initial before)
        (learn (peerOf core efcp initial before)) := by
  simp only [peerOf, List.filterMap_append, List.foldl_append]
  cases brought : event.header? core efcp with
  | none => simp [brought]
  | some pci => simp [brought]

/-- While nothing has been changed the peer is kept exactly if the event does no harm. -/
theorem keepsPeer_iff (steady : Steady core before node.core) (event : DataEvent) :
    event.KeepsPeer core before node ↔ event.Harmless core := by
  have notes := perform_notes node event
  constructor
  · intro keeps efcp connection pci live brought
    obtain ⟨kept, present, same⟩ := keeps.stored live
    have noted := notes.live (steady.live live)
    rw [header?_congr steady.resolves, brought] at noted
    rw [peerOf_concat, brought, steady.known live, present.unique noted] at same
    exact (noteReceived_iff connection pci).mp same
  · intro harmless
    constructor
    · intro efcp connection live
      refine ⟨_, notes.live (steady.live live), ?_⟩
      rw [header?_congr steady.resolves, peerOf_concat, steady.known live]
      cases brought : event.header? core efcp with
      | none => rfl
      | some pci => exact (noteReceived_iff connection pci).mpr (harmless live brought)
    · intro efcp connection outcomes descriptor live same
      rw [same, steady.known live]
      rcases write_sends (steady.live live) outcomes descriptor with none | ⟨pdu, carries, one⟩
      · exact .inl none.sent
      · obtain ⟨pci, parsed, -, -, destination⟩ := carries
        exact .inr ⟨pdu, pci, one.sent, parsed, destination⟩

theorem noteReceived_of_harmless {connection : Connection} {pci : Pci}
    (harmless : if connection.xDestinationCepId = cepIdWrong then
        pci.connectionId.xSource = cepIdWrong
      else pci.connectionId.xDestination = connection.xDestinationCepId) :
    connection.noteReceived pci = connection ∧
      learn connection.xDestinationCepId pci = connection.xDestinationCepId := by
  by_cases unset : connection.xDestinationCepId = cepIdWrong
  · rw [if_pos unset] at harmless
    simp [Connection.noteReceived, learn, unset, harmless]
  · rw [if_neg unset] at harmless
    simp [Connection.noteReceived, learn, unset, harmless]

theorem Steady.after (steady : Steady core before node.core) (harmless : event.Harmless core) :
    Steady core (before ++ [event]) (final (event.perform.run node)).core := by
  have notes := perform_notes node event
  constructor
  · intro efcp connection live
    have noted := notes.live (steady.live live)
    rw [header?_congr steady.resolves] at noted
    cases brought : event.header? core efcp with
    | none => rwa [brought] at noted
    | some pci =>
        rw [brought] at noted
        rwa [Option.elim_some, (noteReceived_of_harmless (harmless live brought)).1] at noted
  · intro efcp connection live
    rw [peerOf_concat, steady.known live]
    cases brought : event.header? core efcp with
    | none => rfl
    | some pci => exact (noteReceived_of_harmless (harmless live brought)).2
  · exact fun xCepId => (notes.resolves xCepId).trans (steady.resolves xCepId)

end Runs

/-! ## Peers that are kept -/

/-- The peers are kept in a run exactly if no event that is reached does harm. -/
theorem peer_kept_iff (start : Node) (events : List DataEvent) :
    EachAfter (fun before event => ∀ node, DataEvent.Leads start before node →
        event.KeepsPeer start.core before node) events ↔
      EachAfter (fun before event => ∀ node, DataEvent.Leads start before node →
        event.Harmless start.core) events := by
  apply eachAfter_iff_of_invariant fun before =>
    ∀ node, DataEvent.Leads start before node → Steady start.core before node.core
  · intro node leads
    cases leads
    exact ⟨id, fun _ => rfl, fun _ => rfl⟩
  · intro before event steady harmless after leads
    obtain ⟨node, result, reached, run⟩ := sequence_concat.mp leads
    have next := (steady node reached).after (harmless node reached)
    rwa [run] at next
  · intro before event steady
    exact forall_congr' fun node => forall_congr' fun leads =>
      keepsPeer_iff (steady node leads) event

/-- A node with a connection, of CEP id 1, whose peer has the CEP id 5. -/
def Node.peered : Node :=
  { Node.blank with
    core := { Node.blank.core with
      efcps := (Store.empty.allocate
        { pxConnection := some
            { xPortId := 7
              xSourceAddress := 1
              xDestinationAddress := 3
              xSourceCepId := 1
              xDestinationCepId := 5
              xQosId := 1 }
          pxUserIpcp := false
          pxDtp := some ⟨false, pxDtpStateVectorInit, true⟩
          pxEfcpContainer := true
          xState := .allocated }).1
      xEfcpImapTable := [{ xCepIdKey := 1, xEfcpValue := some 0, ucValid := 1 }] } }

/-- The peer sends from its CEP id 5 to the CEP id 1. -/
def peerPdu : DataEvent :=
  .receive 1 (receivedDescriptor []
    ({ dataPduHeader 1 with connectionId := ⟨1, 1, 5⟩ }.toBytes ++ [7]) []) (some 0)

/-- The first PDU of the peer replaces its CEP id by the one of the connection itself. -/
theorem peer_replaced :
    ¬ EachAfter (fun before event => ∀ node, DataEvent.Leads Node.peered before node →
        event.KeepsPeer Node.peered.core before node) [peerPdu] := by
  intro each
  have keeps := each [] peerPdu [] rfl Node.peered rfl
  have steady : Steady Node.peered.core [] Node.peered.core := ⟨id, fun _ => rfl, fun _ => rfl⟩
  have live : Node.peered.core.Live 0 ⟨7, 1, 3, 1, 5, 1⟩ := ⟨_, rfl, rfl, rfl⟩
  have brought : peerPdu.header? Node.peered.core 0 =
    some { dataPduHeader 1 with connectionId := ⟨1, 1, 5⟩ } := by decide
  exact absurd ((keepsPeer_iff steady peerPdu).mp keeps live brought) (by decide)

end RinaSense
