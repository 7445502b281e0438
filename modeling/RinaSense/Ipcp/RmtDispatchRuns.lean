import Mathlib.Algebra.GroupWithZero.Nat
import RinaSense.Ipcp.ReceiveConfinement
import RinaSense.Ipcp.ReceiveConservation
import RinaSense.Library.History

/-!
# Sequences of received PDUs

Over sequences of PDUs the RMT should take each where its header says, or drop it, and the
counters of the N-1 port should tell how many there were and how long. The module determines
the sequences for which both hold.
-/

namespace RinaSense

open Command History

/-- The PDU goes where its header says, or is dropped: destroyed, or left to the caller. -/
def Arrival.Dispatched (node : Node) (arrival : Arrival) : Prop :=
  match (rmtDispatch arrival.secondBuffer node.dus.next arrival.xFrom).run
      (node.arrive arrival.descriptor) with
  | .ok .management _ => ∃ pci, receivedHeader arrival.descriptor = some pci ∧
      pci.xType = pduTypeMgmt ∧ (pci.xDestination = localAddress ∨ pci.xDestination = 0)
  | .ok (.container xCepId) _ => ∃ pci, receivedHeader arrival.descriptor = some pci ∧
      (pci.xType = pduTypeDt ∨ pduTypeIsControl pci.xType = true) ∧
      pci.xDestination = localAddress ∧ pci.connectionId.xDestination = xCepId ∧
      isCepIdOk xCepId = true
  | .ok .drop after =>
      Released (node.arrive arrival.descriptor) node.dus.next node.buffers.next after ∨
        Retained (node.arrive arrival.descriptor) node.dus.next node.buffers.next after
  | .error _ _ => False

/-- The bytes of PDUs. -/
def receivedBytes (arrivals : List Arrival) : Nat :=
  (arrivals.map fun arrival => arrival.descriptor.xRinaDataLength.toNat).sum

/-- The counters of the N-1 port have grown by the PDUs and their bytes. -/
def CountsReceived (start after : Node) (arrivals : List Arrival) : Prop :=
  ∀ first, start.core.xPortIdTable = some first →
    ∃ last, after.core.xPortIdTable = some last ∧
      last.xStats.rxPdus.toNat = first.xStats.rxPdus.toNat + arrivals.length ∧
      last.xStats.rxBytes.toNat = first.xStats.rxBytes.toNat + receivedBytes arrivals

/-- The PDU is stopped at the door, or its header can be read and address 0 is used for
management only. -/
def Arrival.Readable (core : Core) (arrival : Arrival) : Prop :=
  Stopped core arrival.descriptor arrival.xFrom ∨
    (core.pxEfcpc = true ∧ arrival.secondBuffer = true ∧
      ∃ pci, receivedHeader arrival.descriptor = some pci ∧
        (isQosIdOk pci.connectionId.xQosId = true → pci.xDestination = 0 →
          pci.xType = pduTypeMgmt))

/-- The PDU gets as far as the counters, and they do not wrap around. -/
structure Arrival.Countable (first : RmtN1Port) (core : Core) (before : List Arrival)
    (arrival : Arrival) : Prop where
  rmt : core.pxRmt.isSome
  port : isPortIdOk arrival.xFrom = true
  container : core.pxEfcpc = true
  pdus : first.xStats.rxPdus.toNat + (before ++ [arrival]).length < 2 ^ 32
  bytes : first.xStats.rxBytes.toNat + receivedBytes (before ++ [arrival]) < 2 ^ 32

/-- The RIB daemon does not change the table of N-1 ports, which belongs to the RMT alone. -/
def RibDaemon.LeavesPorts (daemon : RibDaemon) : Prop :=
  ∀ core message xPortId,
    (daemon.vRibHandleMessage core message xPortId).1.xPortIdTable = core.xPortIdTable

/-! ## One decision -/

/-- Management takes what is for this node and of its type, or for address 0. -/
theorem dispatch_management {pci : Pci} (decided : pci.dispatch = .management) :
    (pci.xDestination = localAddress ∧ pci.xType = pduTypeMgmt) ∨
      (pci.xDestination = 0 ∧ isQosIdOk pci.connectionId.xQosId = true) := by
  rw [Pci.dispatch] at decided
  split at decided
  · cases decided
  · next proper =>
      simp only [Bool.or_eq_true, Bool.not_eq_true', not_or, Bool.not_eq_false] at proper
      split at decided
      · next here =>
          split at decided
          · next managed => exact .inl ⟨here, managed⟩
          · split at decided
            · cases decided
            · cases decided
      · split at decided
        · next broadcast => exact .inr ⟨broadcast, proper.2⟩
        · cases decided

theorem dispatch_container {pci : Pci} {xCepId : CepId}
    (decided : pci.dispatch = .container xCepId) :
    (pci.xType = pduTypeDt ∨ pduTypeIsControl pci.xType = true) ∧
      pci.xDestination = localAddress ∧ pci.connectionId.xDestination = xCepId ∧
      isCepIdOk xCepId = true := by
  rw [Pci.dispatch] at decided
  split at decided
  · cases decided
  · split at decided
    · next here =>
        split at decided
        · cases decided
        · split at decided
          · next dt =>
              rw [Bool.and_eq_true] at dt
              have same := Dispatch.container.inj decided
              exact ⟨kind_of_isDtPdu dt.1, here, same, same ▸ dt.2⟩
          · cases decided
    · split at decided
      · cases decided
      · cases decided

/-- A PDU of an accepted type for address 0 goes to management. -/
theorem dispatch_broadcast {pci : Pci} (accepted : pduTypeIsOk pci.xType = true)
    (qos : isQosIdOk pci.connectionId.xQosId = true) (broadcast : pci.xDestination = 0) :
    pci.dispatch = .management := by
  have address : isAddressOk 0 = true := by decide
  have elsewhere : (0 : Address) ≠ localAddress := by decide
  simp [Pci.dispatch, accepted, qos, broadcast, address, elsewhere]

section Decision

variable {node : Node} {arrival : Arrival}

theorem dispatched_iff (node : Node) (arrival : Arrival) :
    arrival.Dispatched node ↔ arrival.Readable node.core := by
  have owns := owns_arrive node arrival.descriptor
  rw [Arrival.Dispatched]
  rcases rmtDispatch_run owns rfl arrival.secondBuffer arrival.xFrom with
    ⟨stopped, run⟩ | ⟨past, unfit, fault, run⟩ | ⟨past, headless, fault, run⟩ |
    ⟨arrives, given, pci, header, run⟩
  · rw [run]
    exact iff_of_true (.inl (released_discard rfl)) (.inl stopped)
  · rw [run]
    refine iff_of_false id ?_
    rintro (stopped | ⟨container, given, pci, header, -⟩)
    · exact past stopped
    · rcases unfit with unset | unreadable | unobtained
      · cases container.symm.trans unset
      · cases unreadable.symm.trans (receivedType_of_header header)
      · cases given.symm.trans unobtained
  · rw [run]
    refine iff_of_false id ?_
    rintro (stopped | ⟨-, -, pci, header, -⟩)
    · exact past stopped
    · cases headless.symm.trans header
  · have owned := owns_decapsulate (owns.withCore
      (node.core.counting arrival.xFrom arrival.descriptor.xRinaDataLength))
    have accepted : pduTypeIsOk pci.xType = true := by
      by_contra rejected
      exact arrives.past (.inr (.inr ⟨arrives.container, .inr ⟨pci.xType,
        receivedType_of_header header, Bool.eq_false_of_not_eq_true rejected⟩⟩))
    have readable : arrival.Readable node.core ↔
        (isQosIdOk pci.connectionId.xQosId = true → pci.xDestination = 0 →
          pci.xType = pduTypeMgmt) := by
      constructor
      · rintro (stopped | ⟨-, -, other, same, managed⟩)
        · exact absurd stopped arrives.past
        · rwa [Option.some.inj (header.symm.trans same)]
      · exact fun managed => .inr ⟨arrives.container, given, pci, header, managed⟩
    rw [readable]
    have managed (dropped : pci.dispatch = .drop) : isQosIdOk pci.connectionId.xQosId = true →
        pci.xDestination = 0 → pci.xType = pduTypeMgmt := fun qos broadcast => by
      cases dropped.symm.trans (dispatch_broadcast accepted qos broadcast)
    rcases dispatchAfterHeader_run owned header with decided | ⟨dropped, decided⟩
    · rw [run.trans decided]
      cases goes : pci.dispatch with
      | management =>
          constructor
          · rintro ⟨other, same, type, -⟩ - -
            rwa [Option.some.inj (header.symm.trans same)]
          · intro broadcast
            rcases dispatch_management goes with ⟨here, type⟩ | ⟨address, qos⟩
            · exact ⟨pci, header, type, .inl here⟩
            · exact ⟨pci, header, broadcast qos address, .inr address⟩
      | container xCepId =>
          obtain ⟨kind, here, cepId, ok⟩ := dispatch_container goes
          refine iff_of_true ⟨pci, header, kind, here, cepId, ok⟩ fun _ broadcast => ?_
          rw [here] at broadcast
          cases broadcast
      | drop => exact iff_of_true (.inr ⟨⟨_, _, owned⟩, rfl⟩) (managed goes)
    · rw [run.trans decided]
      exact iff_of_true (.inl (released_discard rfl)) (managed dropped)

end Decision

/-! ## What the port has counted -/

/-- The N-1 port has counted this much. -/
def Counts (value : Option (UInt32 × UInt32)) (node : Node) : Prop :=
  node.core.xPortIdTable.map RmtN1Port.received = value

/-- A call may change anything but where ids lead and what the port has received. -/
def uncounted (start : Node) : Scope Unit where
  view := fun _ => ()
  n1Port := fun table => table.map RmtN1Port.received = start.core.xPortIdTable.map RmtN1Port.received
  sent := fun _ => True
  port := fun _ => True
  rows := fun rows => rows = start.core.xFlowRequestTable

section Counting

variable {α : Type} {value : Option (UInt32 × UInt32)} {pxDu : DuId}

/-- What stays in its scope from anywhere leaves the counters. -/
theorem upholds_counts {command : Rina α}
    (confined : ∀ node : Node, Confined node.bare (uncounted node.bare) command fun _ => True) :
    Upholds (Counts value) command fun _ => True := by
  intro node counts
  have underway : Underway node.bare (uncounted node.bare) node := underway_bare rfl rfl trivial
  have ends := confined node node underway
  cases run : command.run node with
  | ok result after =>
      rw [run] at ends
      exact ⟨ends.1.n1Port.trans counts, trivial⟩
  | error fault after =>
      rw [run] at ends
      exact ends.n1Port.trans counts

theorem records_uncounted (start : Node) : (uncounted start).Records where
  pdus := fun _ _ _ => trivial
  n1Port := fun {change} same table counts => by
    have kept : (table.map change).map RmtN1Port.received = table.map RmtN1Port.received := by
      rw [Option.map_map]
      exact congrArg (table.map ·) (funext same)
    exact kept.trans counts

theorem upholds_counts_sendReplies (replies : List RibReply) :
    Upholds (Counts value) (sendReplies replies) fun _ => True := by
  induction replies with
  | nil => exact upholds_pure trivial
  | cons reply replies ih =>
      have sent : Upholds (Counts value) (sendReply reply) fun _ => True :=
        upholds_counts fun node => confined_sendReply (records_uncounted node.bare) reply
      exact upholds_bind sent fun _ _ => ih

theorem upholds_counts_containerReceive (xCepId : CepId) :
    Upholds (Counts value) (xEfcpContainerReceive xCepId pxDu) fun _ => True := by
  apply upholds_counts
  intro node
  apply confined_efcpContainerReceive (fun _ rows => rows) (fun _ _ _ _ => rfl) (fun _ _ _ _ => rfl)
    (Nat.zero_le _)
  intro _ _ _ _ _ _ _ _ _ _
  exact trivial

theorem upholds_counts_mgmtPdu {daemon : RibDaemon} (leaves : daemon.LeavesPorts)
    (xFrom : PortId) :
    Upholds (Counts value) (xRmtProcessMgmtPdu daemon xFrom pxDu) fun _ => True := by
  have destroyed : Upholds (Counts value) (xDuDestroy pxDu) fun _ => True :=
    upholds_counts fun _ => confined_duDestroy (Nat.zero_le _)
  apply upholds_ite (fun _ => upholds_bind destroyed fun _ _ => upholds_pure trivial)
  intro _
  apply upholds_bind (upholds_counts fun _ =>
    (confined_readDu (Nat.zero_le _)).weaken fun _ _ => trivial)
  intro du _
  apply upholds_bind (upholds_counts fun _ =>
    (confined_readStorage fun _ _ => Nat.zero_le _).weaken fun _ _ => trivial)
  intro storage _
  apply upholds_bind (upholds_counts fun _ => (confined_follow _).weaken fun _ _ => trivial)
  intro bytes _
  apply upholds_bind (upholds_counts fun _ => (confined_follow _).weaken fun _ _ => trivial)
  intro message _
  apply upholds_bind destroyed
  intro _ _
  have read : Upholds (Counts value) readCore fun core =>
      core.xPortIdTable.map RmtN1Port.received = value := fun _ counts => ⟨counts, counts⟩
  apply upholds_bind read
  intro core counts
  have written : Upholds (Counts value)
      (writeCore (daemon.vRibHandleMessage core message xFrom).1) fun _ => True := by
    apply upholds_modify
    intro node _
    exact (congrArg (·.map RmtN1Port.received) (leaves core message xFrom)).trans counts
  apply upholds_bind written
  intro _ _
  exact upholds_bind (upholds_counts_sendReplies _) fun _ _ => upholds_pure trivial

/-- Once a PDU was counted nothing more is. -/
theorem upholds_counts_afterHeader {daemon : RibDaemon} (leaves : daemon.LeavesPorts)
    (xFrom : PortId) (pci : Pci) :
    Upholds (Counts value) (afterHeader daemon xFrom pxDu pci) fun _ => True := by
  have destroyed : Upholds (Counts value) (do let _ ← xDuDestroy pxDu; return false : Rina Bool)
      fun _ => True := upholds_counts fun _ => confined_destroyed (Nat.zero_le _) false
  apply upholds_ite (fun _ => destroyed)
  intro _
  apply upholds_ite
  · intro _
    apply upholds_ite (fun _ => upholds_counts_mgmtPdu leaves xFrom)
    intro _
    apply upholds_ite
    · intro _
      apply upholds_bind (upholds_counts fun _ => confined_readPci (Nat.zero_le _))
      intro other _
      apply upholds_ite (fun _ => destroyed)
      intro _
      apply upholds_ite (fun _ => destroyed)
      intro _
      exact upholds_ite (fun _ => destroyed) fun _ => upholds_counts_containerReceive _
    · exact fun _ => destroyed
  · exact fun _ => upholds_ite (fun _ => upholds_counts_mgmtPdu leaves xFrom)
      fun _ => upholds_pure trivial

end Counting

/-- One PDU adds what it counts, and nothing else is counted. -/
theorem receiveArrival_counts {daemon : RibDaemon} (leaves : daemon.LeavesPorts) (node : Node)
    (arrival : Arrival) :
    (final ((receiveArrival daemon arrival).run node)).core.xPortIdTable.map RmtN1Port.received =
      (node.core.counting arrival.xFrom arrival.descriptor.xRinaDataLength).xPortIdTable.map
        RmtN1Port.received := by
  rw [run_receiveArrival]
  rcases FateRule.releasing.rmtReceive_run daemon (owns_arrive node arrival.descriptor) rfl
    arrival.secondBuffer arrival.xFrom with
    ⟨-, run⟩ | ⟨-, -, fault, run⟩ | ⟨-, -, fault, run⟩ | ⟨-, -, pci, -, -, run⟩
  · rw [run]
    rfl
  · rw [run]
    rfl
  · rw [run]
    rfl
  · rw [run]
    exact (upholds_counts_afterHeader leaves arrival.xFrom pci).final rfl

/-! ## Sequences -/

theorem receiveArrivals_eq (daemon : RibDaemon) :
    receiveArrivals daemon = sequence (receiveArrival daemon) := by
  funext arrivals
  induction arrivals with
  | nil => rfl
  | cons arrival arrivals ih => rw [receiveArrivals, Command.sequence, ih]

section Sequences

variable {start node : Node} {before : List Arrival} {arrival : Arrival}

theorem receivedBytes_concat (before : List Arrival) (arrival : Arrival) :
    receivedBytes (before ++ [arrival]) =
      receivedBytes before + arrival.descriptor.xRinaDataLength.toNat := by
  simp [receivedBytes]

/-- A port that has counted one more PDU still has the right counts exactly if they do not
wrap around. -/
theorem counted_iff {first last : RmtN1Port}
    (pdus : last.xStats.rxPdus.toNat = first.xStats.rxPdus.toNat + before.length)
    (bytes : last.xStats.rxBytes.toNat = first.xStats.rxBytes.toNat + receivedBytes before) :
    ((last.xStats.rxPdus + 1).toNat = first.xStats.rxPdus.toNat + (before ++ [arrival]).length ∧
      (last.xStats.rxBytes + arrival.descriptor.xRinaDataLength).toNat =
        first.xStats.rxBytes.toNat + receivedBytes (before ++ [arrival])) ↔
    first.xStats.rxPdus.toNat + (before ++ [arrival]).length < 2 ^ 32 ∧
      first.xStats.rxBytes.toNat + receivedBytes (before ++ [arrival]) < 2 ^ 32 := by
  have onePdu : first.xStats.rxPdus.toNat + (before ++ [arrival]).length =
      last.xStats.rxPdus.toNat + (1 : UInt32).toNat := by
    rw [pdus, List.length_append, ← Nat.add_assoc]
    rfl
  have itsBytes : first.xStats.rxBytes.toNat + receivedBytes (before ++ [arrival]) =
      last.xStats.rxBytes.toNat + arrival.descriptor.xRinaDataLength.toNat := by
    rw [bytes, receivedBytes_concat, Nat.add_assoc]
  rw [onePdu, itsBytes]
  exact and_congr (toNat_add_eq_iff _ _) (toNat_add_eq_iff _ _)

/-- The counters stay right exactly if the PDU is counted and they do not wrap around. -/
theorem countsReceived_step {daemon : RibDaemon} (leaves : daemon.LeavesPorts)
    (counts : CountsReceived start node before) :
    CountsReceived start (final ((receiveArrival daemon arrival).run node)) (before ++ [arrival]) ↔
      ∀ first, start.core.xPortIdTable = some first → arrival.Countable first node.core before := by
  have adds := receiveArrival_counts leaves node arrival
  apply forall_congr'
  intro first
  apply forall_congr'
  intro table
  obtain ⟨last, held, pdus, bytes⟩ := counts first table
  cases takes : node.core.pxRmt.isSome && isPortIdOk arrival.xFrom && node.core.pxEfcpc with
  | false =>
      rw [Core.counting, takes, if_neg Bool.false_ne_true, held] at adds
      obtain ⟨port, present, same⟩ := Option.map_eq_some_iff.mp adds
      refine iff_of_false ?_ fun countable => ?_
      · rintro ⟨other, there, more, -⟩
        rw [← Option.some.inj (present.symm.trans there), (Prod.mk.inj same).1, pdus,
          List.length_append] at more
        exact absurd more (by simp)
      · rw [countable.rmt, countable.port, countable.container] at takes
        cases takes
  | true =>
      rw [Core.counting, takes, if_pos rfl, Core.countReceived, held, Option.map_some] at adds
      obtain ⟨port, present, same⟩ := Option.map_eq_some_iff.mp adds
      have counted : port.xStats.rxPdus = last.xStats.rxPdus + 1 ∧ port.xStats.rxBytes =
          last.xStats.rxBytes + arrival.descriptor.xRinaDataLength := Prod.mk.inj same
      rw [Bool.and_eq_true, Bool.and_eq_true] at takes
      constructor
      · rintro ⟨other, there, right⟩
        rw [← Option.some.inj (present.symm.trans there), counted.1, counted.2] at right
        obtain ⟨few, short⟩ := (counted_iff pdus bytes).mp right
        exact ⟨takes.1.1, takes.1.2, takes.2, few, short⟩
      · intro countable
        refine ⟨port, present, ?_⟩
        rw [counted.1, counted.2]
        exact (counted_iff pdus bytes).mpr ⟨countable.pdus, countable.bytes⟩

end Sequences

/-- Every PDU that is reached goes where its header says, or is dropped, and the counters are
right after it. -/
def ReceivesProperly (daemon : RibDaemon) (start : Node) (arrivals : List Arrival) : Prop :=
  EachAfter (fun before arrival => ∀ node,
    (receiveArrivals daemon before).run start = .ok () node →
      arrival.Dispatched node ∧
        CountsReceived start (final ((receiveArrival daemon arrival).run node))
          (before ++ [arrival])) arrivals

/-- Every PDU that is reached can be read and, where there is an N-1 port, counted. -/
def ReceptionsSupported (daemon : RibDaemon) (start : Node) (arrivals : List Arrival) : Prop :=
  EachAfter (fun before arrival => ∀ node,
    (receiveArrivals daemon before).run start = .ok () node →
      arrival.Readable node.core ∧ ∀ first, start.core.xPortIdTable = some first →
        arrival.Countable first node.core before) arrivals

theorem rmt_receive_iff (daemon : RibDaemon) (leaves : daemon.LeavesPorts) (start : Node)
    (arrivals : List Arrival) :
    ReceivesProperly daemon start arrivals ↔ ReceptionsSupported daemon start arrivals := by
  apply eachAfter_iff_of_invariant fun before => ∀ node,
    (receiveArrivals daemon before).run start = .ok () node → CountsReceived start node before
  · intro node leads first table
    cases leads
    exact ⟨first, table, rfl, rfl⟩
  · intro before arrival counts supported after leads
    rw [receiveArrivals_eq] at leads
    obtain ⟨node, result, reached, run⟩ := sequence_concat.mp leads
    rw [← receiveArrivals_eq] at reached
    have next := (countsReceived_step leaves (counts node reached)).mpr (supported node reached).2
    rwa [run] at next
  · intro before arrival counts
    exact forall_congr' fun node => forall_congr' fun reached =>
      and_congr (dispatched_iff node arrival) (countsReceived_step leaves (counts node reached))

/-- A data transfer PDU for address 0. -/
def broadcastPdu : Arrival where
  descriptor := receivedDescriptor [] ({ dataPduHeader 1 with xDestination := 0 }.toBytes ++ [7]) []
  secondBuffer := true
  xFrom := 1

theorem rmt_receive_iff_broadcast :
    ReceivesProperly .silent .linked [broadcastPdu] ↔
      ReceptionsSupported .silent .linked [broadcastPdu] :=
  rmt_receive_iff .silent (fun _ _ _ => rfl) .linked [broadcastPdu]

/-- The PDU is taken for a message of the layer management. -/
theorem broadcast_managed : ¬ ReceivesProperly .silent .linked [broadcastPdu] := by
  intro properly
  have dispatched := (properly [] broadcastPdu [] rfl .linked rfl).1
  have parsed : receivedHeader broadcastPdu.descriptor =
    some { dataPduHeader 1 with xDestination := 0 } := by decide
  rcases (dispatched_iff .linked broadcastPdu).mp dispatched with
    (none | wrong | ⟨-, none | ⟨xType, received, rejected⟩⟩) | ⟨-, -, pci, header, managed⟩
  · cases none
  · cases wrong
  · cases none
  · rw [receivedType_of_header parsed] at received
    rw [← Option.some.inj received] at rejected
    cases rejected
  · rw [← Option.some.inj (parsed.symm.trans header)] at managed
    exact absurd (managed (by decide) rfl) (by decide)

end RinaSense
