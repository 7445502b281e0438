import Mathlib.Algebra.GroupWithZero.Nat
import RinaSense.Ipcp.Confinement
import RinaSense.Ipcp.ReceiveOwnership
import RinaSense.Library.History
import RinaSense.Shim.Ieee802154RoundTrip

/-!
# Sequences of sends

Sending through the RMT should answer what the N-1 IPCP answered, and the counters of the
N-1 port should tell how many data units it accepted and how long they were. The module
determines the sequences for which both hold.
-/

namespace RinaSense

open Command History

/-- Whether the N-1 IPCP is asked to write the data unit, and accepts it. -/
def n1Accepts (outcomes : Outcomes) (pxDu : DuId) (node : Node) : Bool :=
  match node.core.xPortIdTable with
  | none => false
  | some port => !port.mustEnqueue && port.pxN1Ipcp.duWrite &&
      match (xShimIEEE802154SDUWrite outcomes port.pxN1Ipcp.pxData port.xPortId pxDu).run node with
      | .ok ret _ => ret
      | .error _ _ => false

/-- A data unit sent by one of the two functions, or a change of the state of the N-1 port and
of the flows of its IPCP. -/
inductive RmtSend where
  | toPort (outcomes : Outcomes) (descriptor : NetworkBufferDescriptor) (pxPci : Option Nat)
  | toRmt (outcomes : Outcomes) (pxRmtInstance : Bool) (descriptor : NetworkBufferDescriptor)
      (pxPci : Option Nat)
  | change (eState : N1PortState) (xShimFlowsList : List ShimFlow)
  deriving Repr, DecidableEq

namespace RmtSend

/-- A change sends nothing. -/
def perform (send : RmtSend) : Rina Bool := do
  let node ← get
  match send with
  | toPort outcomes descriptor pxPci =>
      set (node.takeIn descriptor pxPci)
      xRmtSendPortId outcomes node.dus.next
  | toRmt outcomes pxRmtInstance descriptor pxPci =>
      set (node.takeIn descriptor pxPci)
      xRmtSend outcomes pxRmtInstance node.dus.next
  | change eState xShimFlowsList =>
      modifyN1Port fun port => { port with eState }
      modify fun node => { node with core.xShimFlowsList := xShimFlowsList }
      return false

def accepted (node : Node) : RmtSend → Bool
  | toPort outcomes descriptor pxPci =>
      n1Accepts outcomes node.dus.next (node.takeIn descriptor pxPci)
  | toRmt outcomes pxRmtInstance descriptor pxPci =>
      pxRmtInstance && (headerOf { pxNetworkBuffer := none, pxPci } descriptor).any Pci.isOk &&
        n1Accepts outcomes node.dus.next (node.takeIn descriptor pxPci)
  | change _ _ => false

/-- The length of the data unit. -/
def length : RmtSend → Nat
  | toPort _ descriptor _ => descriptor.xDataLength.toNat
  | toRmt _ _ descriptor _ => descriptor.xDataLength.toNat
  | change _ _ => 0

/-- The length of the data unit if it is accepted. -/
def counted (node : Node) (send : RmtSend) : List Nat :=
  if send.accepted node then [send.length] else []

/-- The lengths of the data units accepted in a sequence. -/
def acceptedLengths : Node → List RmtSend → List Nat
  | _, [] => []
  | node, send :: sends =>
      send.counted node ++ acceptedLengths (final (send.perform.run node)) sends

end RmtSend

/-- An N-1 port stays where it is, and its counters grow by the data units of these lengths. -/
def Advances (lengths : List Nat) : Option RmtN1Port → Option RmtN1Port → Prop
  | none, none => True
  | some first, some last =>
      last.xStats.txPdus.toNat = first.xStats.txPdus.toNat + lengths.length ∧
        last.xStats.txBytes.toNat = first.xStats.txBytes.toNat + lengths.sum
  | _, _ => False

/-- The N-1 IPCP takes the data unit: it is no longer than a frame may be, the flow of the port
is allocated, and a buffer and room for the event are found. -/
structure ShimTakes (outcomes : Outcomes) (core : Core) (port : RmtN1Port)
    (descriptor : NetworkBufferDescriptor) : Prop where
  held : (payloadOf descriptor).isSome
  queued : outcomes.networkEvent = true
  frames : ∃ flow, Ieee802154Frames outcomes core port.pxN1Ipcp.pxData port.xPortId
    descriptor.xDataLength flow

/-- Where a data unit can be sent, the N-1 IPCP takes it, it is a single byte long, and the
counters do not wrap around. -/
def PortSupports (outcomes : Outcomes) (core : Core) (descriptor : NetworkBufferDescriptor) :
    Prop :=
  ∀ port, core.xPortIdTable = some port → port.mustEnqueue = false →
    port.pxN1Ipcp.duWrite = true ∧ ShimTakes outcomes core port descriptor ∧
      descriptor.xDataLength = 1 ∧ port.xStats.txPdus.toNat + 1 < 2 ^ 32 ∧
      port.xStats.txBytes.toNat + 1 < 2 ^ 32

/-- A data unit sent through the RMT is refused for its header, or the RMT is wired up and the
port supports it. -/
def RmtSend.Supported (core : Core) : RmtSend → Prop
  | toPort outcomes descriptor _ => PortSupports outcomes core descriptor
  | toRmt outcomes pxRmtInstance descriptor pxPci =>
      pxRmtInstance = true → pxPci ≠ none →
        ∃ pci, headerOf { pxNetworkBuffer := none, pxPci } descriptor = some pci ∧
          (pci.isOk = true → (∃ rmt, core.pxRmt = some rmt ∧ rmt.pxN1Port = true) ∧
            PortSupports outcomes core descriptor)
  | change _ _ => True

/-! ## The N-1 IPCP -/

section Shim

variable {node : Node} {pxDu : DuId} {du : Du} {buffer : BufferId}
  {descriptor : NetworkBufferDescriptor}

/-- The N-1 IPCP accepts exactly what it takes. -/
theorem shim_accepts_iff (owns : Owns node pxDu du buffer descriptor) (outcomes : Outcomes)
    (port : RmtN1Port) :
    (∃ after, (xShimIEEE802154SDUWrite outcomes port.pxN1Ipcp.pxData port.xPortId pxDu).run node =
      .ok true after) ↔ ShimTakes outcomes node.core port descriptor := by
  constructor
  · rintro ⟨after, run⟩
    obtain ⟨held, queued, frames⟩ := ieee802154Frames_of_sent owns run
    exact ⟨held, queued, frames⟩
  · rintro ⟨held, queued, flow, frames⟩
    obtain ⟨sdu, holds⟩ := Option.isSome_iff_exists.mp held
    obtain ⟨after, sent, run, -⟩ := run_shimIeee802154SduWrite owns holds frames
    exact ⟨after, queued ▸ run⟩

/-- The N-1 IPCP does not touch the port it is asked by. -/
def portKept (table : Option RmtN1Port) : Scope Unit where
  view := fun _ => ()
  n1Port := fun other => other = table
  sent := fun _ => True
  port := fun _ => True
  rows := fun _ => True

theorem shim_keeps_port (node : Node) (pxDu : DuId) (outcomes : Outcomes) (pxData : Bool)
    (xId : PortId) :
    (final ((xShimIEEE802154SDUWrite outcomes pxData xId pxDu).run node)).core.xPortIdTable =
      node.core.xPortIdTable := by
  have underway : Underway node.bare (portKept node.core.xPortIdTable) node :=
    underway_bare rfl trivial trivial
  have sent : Confined node.bare (portKept node.core.xPortIdTable)
      (xShimIEEE802154SDUWrite outcomes pxData xId pxDu) fun _ => True :=
    confined_shimSduWrite (Nat.zero_le _) outcomes pxData xId
  exact (sent.final underway).n1Port

end Shim

/-! ## One data unit -/

/-- The command answers as it should, and the N-1 port counts accordingly. -/
def Reports (node : Node) (command : Rina Bool) (accepted : Bool) (length : Nat) : Prop :=
  ∃ after, command.run node = .ok accepted after ∧
    Advances (if accepted then [length] else []) node.core.xPortIdTable after.core.xPortIdTable

section Port

variable {node : Node} {pxDu : DuId} {du : Du} {buffer : BufferId}
  {descriptor : NetworkBufferDescriptor} {outcomes : Outcomes} {port : RmtN1Port}

theorem advances_refl (table : Option RmtN1Port) : Advances [] table table := by
  cases table with
  | none => trivial
  | some port => exact ⟨rfl, rfl⟩

/-- What is not sent is answered with false and counted nowhere. -/
theorem reports_unsent {command : Rina Bool} {after : Node}
    (run : command.run node = .ok false after)
    (advances : Advances [] node.core.xPortIdTable after.core.xPortIdTable) (length : Nat) :
    Reports node command false length := ⟨after, run, advances⟩

theorem n1Accepts_idle (table : node.core.xPortIdTable = some port)
    (idle : port.mustEnqueue = false) (owns : Owns node pxDu du buffer descriptor) :
    n1Accepts outcomes pxDu node = true ↔
      port.pxN1Ipcp.duWrite = true ∧ ShimTakes outcomes node.core port descriptor := by
  simp only [n1Accepts, table, idle, Bool.not_false, Bool.true_and, Bool.and_eq_true]
  apply and_congr_right
  intro _
  rw [← shim_accepts_iff owns]
  cases (xShimIEEE802154SDUWrite outcomes port.pxN1Ipcp.pxData port.xPortId pxDu).run node with
  | error fault after => simp
  | ok ret after => cases ret <;> simp

/-- The counters of an accepted data unit are right exactly if it is a single byte and they do
not wrap around. -/
theorem advances_sent_iff (port : RmtN1Port) (length : SizeT) :
    Advances [length.toNat] (some port) (some (RmtN1Port.countSent true port)) ↔
      length = 1 ∧ port.xStats.txPdus.toNat + 1 < 2 ^ 32 ∧
        port.xStats.txBytes.toNat + 1 < 2 ^ 32 := by
  have pdus := toNat_add_eq_iff port.xStats.txPdus 1
  have bytes : (port.xStats.txBytes + 1).toNat = port.xStats.txBytes.toNat + length.toNat ↔
      length = 1 ∧ port.xStats.txBytes.toNat + 1 < 2 ^ 32 := by
    rw [UInt32.toNat_add, ← UInt32.toNat_inj]
    change (port.xStats.txBytes.toNat + 1) % 2 ^ 32 = _ ↔ length.toNat = 1 ∧ _
    omega
  change ((port.xStats.txPdus + 1).toNat = port.xStats.txPdus.toNat + 1 ∧
    (port.xStats.txBytes + 1).toNat = port.xStats.txBytes.toNat + length.toNat) ↔ _
  rw [bytes, show (port.xStats.txPdus + 1).toNat = port.xStats.txPdus.toNat + 1 ↔ _ from pdus]
  exact and_left_comm

theorem run_modifyN1Port (change : RmtN1Port → RmtN1Port)
    (table : node.core.xPortIdTable = some port) :
    (modifyN1Port change).run node =
      .ok () { node with core.xPortIdTable := some (change port) } := by
  change EStateM.Result.ok () { node with
    core.xPortIdTable := node.core.xPortIdTable.map change } = _
  rw [table, Option.map_some]

/-- The state in which the IPCP of an N-1 port is asked to write the data unit. -/
def Node.asked (node : Node) (port : RmtN1Port) (pxDu : DuId) : Node :=
  final ((recordSent pxDu).run
    { node with core.xPortIdTable := some { port with uxBusy := true } })

/-- What is left once the N-1 port was found able to send. -/
theorem sendPortId_asks (table : node.core.xPortIdTable = some port)
    (idle : port.mustEnqueue = false) (writes : port.pxN1Ipcp.duWrite = true) :
    (xRmtSendPortId outcomes pxDu).run node =
      (do
        let ret ← xShimIEEE802154SDUWrite outcomes port.pxN1Ipcp.pxData port.xPortId pxDu
        modifyN1Port (RmtN1Port.countSent ret)
        return true : Rina Bool).run (node.asked port pxDu) := by
  have busy := run_modifyN1Port (fun port => { port with uxBusy := true }) table
  simp only [xRmtSendPortId, EStateM.run_bind, run_readCore, table, idle, Bool.false_eq_true,
    if_false, xRmtN1PortWriteDu, writes, Bool.not_true, busy]
  rfl

/-- Neither counting nor being busy matters to the N-1 IPCP. -/
theorem shimTakes_asked (node : Node) (pxDu : DuId) (descriptor : NetworkBufferDescriptor) :
    ShimTakes outcomes (node.asked port pxDu).core port descriptor ↔
      ShimTakes outcomes node.core port descriptor := by
  constructor
  · rintro ⟨held, queued, flow, frames⟩
    exact ⟨held, queued, flow, frames.instanceData, frames.short, frames.found, frames.allocated,
      frames.buffer⟩
  · rintro ⟨held, queued, flow, frames⟩
    exact ⟨held, queued, flow, frames.instanceData, frames.short, frames.found, frames.allocated,
      frames.buffer⟩

/-- An N-1 port that can send has its IPCP asked, and counts whatever that answers. -/
theorem sendPortId_idle (table : node.core.xPortIdTable = some port)
    (idle : port.mustEnqueue = false) (owns : Owns node pxDu du buffer descriptor) :
    (∃ fault after, (xRmtSendPortId outcomes pxDu).run node = .error fault after ∧
      n1Accepts outcomes pxDu node = false) ∨
    (∃ ret after, (xRmtSendPortId outcomes pxDu).run node = .ok true after ∧
      n1Accepts outcomes pxDu node = ret ∧
      after.core.xPortIdTable = some (port.countSent ret)) := by
  have accepts : n1Accepts outcomes pxDu node = true ↔ _ := n1Accepts_idle table idle owns
  cases writes : port.pxN1Ipcp.duWrite with
  | false =>
      refine .inl ⟨.nullPointer, { node with core.xPortIdTable := some { port with uxBusy := true } },
        ?_, Bool.eq_false_of_not_eq_true fun accepted => ?_⟩
      · simp only [xRmtSendPortId, EStateM.run_bind, run_readCore, table, idle, Bool.false_eq_true,
          if_false, xRmtN1PortWriteDu, writes, Bool.not_false, if_true, run_modifyN1Port _ table,
          run_throw]
      · rw [(accepts.mp accepted).1] at writes
        cases writes
  | true =>
      have owned : Owns (node.asked port pxDu) pxDu du buffer descriptor :=
        ⟨owns.held, owns.pointer, owns.stored⟩
      have kept := shim_keeps_port (node.asked port pxDu) pxDu outcomes port.pxN1Ipcp.pxData
        port.xPortId
      rw [writes, eq_self_iff_true, true_and, ← shimTakes_asked node pxDu,
        ← shim_accepts_iff owned] at accepts
      rw [sendPortId_asks table idle writes]
      cases run : (xShimIEEE802154SDUWrite outcomes port.pxN1Ipcp.pxData port.xPortId pxDu).run
          (node.asked port pxDu) with
      | error fault after =>
          rw [run] at accepts
          refine .inl ⟨fault, after, run_bind_error run _, ?_⟩
          exact Bool.eq_false_of_not_eq_true fun accepted => by
            obtain ⟨_, other⟩ := accepts.mp accepted
            cases other
      | ok ret after =>
          rw [run] at accepts kept
          refine .inr ⟨ret, _, run_bind_ok run _, ?_, ?_⟩
          · rw [Bool.eq_iff_iff, accepts]
            constructor
            · rintro ⟨_, ⟨⟩⟩
              rfl
            · rintro rfl
              exact ⟨after, rfl⟩
          · change after.core.xPortIdTable.map _ = _
            rw [show after.core.xPortIdTable = some { port with uxBusy := true } from kept]
            rfl

/-- Which port and data unit sending answers right for. -/
theorem sendPortId_answers_iff (owns : Owns node pxDu du buffer descriptor) :
    Reports node (xRmtSendPortId outcomes pxDu) (n1Accepts outcomes pxDu node)
      descriptor.xDataLength.toNat ↔ PortSupports outcomes node.core descriptor := by
  cases table : node.core.xPortIdTable with
  | none =>
      have unsent : n1Accepts outcomes pxDu node = false := by rw [n1Accepts, table]
      have run : (xRmtSendPortId outcomes pxDu).run node = .ok false (node.discard pxDu buffer) := by
        simp only [xRmtSendPortId, EStateM.run_bind, run_readCore, table, run_duDestroy owns,
          EStateM.run_pure]
      rw [unsent]
      refine iff_of_true (reports_unsent run (advances_refl _) _) fun port held => ?_
      rw [table] at held
      cases held
  | some port =>
      cases idle : port.mustEnqueue with
      | true =>
          have unsent : n1Accepts outcomes pxDu node = false := by
            simp only [n1Accepts, table, idle, Bool.not_true, Bool.false_and]
          have kept : (node.discard pxDu buffer).core.xPortIdTable = some port := table
          have run : (xRmtSendPortId outcomes pxDu).run node = .ok false
              { node.discard pxDu buffer with core.xPortIdTable := some port.countError } := by
            simp only [xRmtSendPortId, EStateM.run_bind, run_readCore, table, idle, if_true,
              run_duDestroy owns, run_modifyN1Port _ kept, EStateM.run_pure]
          rw [unsent]
          refine iff_of_true (reports_unsent run ?_ _) fun other held asked => ?_
          · rw [table]
            exact ⟨rfl, rfl⟩
          · rw [Option.some.inj (table.symm.trans held), asked] at idle
            cases idle
      | false =>
          have accepts : n1Accepts outcomes pxDu node = true ↔ _ := n1Accepts_idle table idle owns
          have supports : PortSupports outcomes node.core descriptor ↔
              n1Accepts outcomes pxDu node = true ∧ descriptor.xDataLength = 1 ∧
                port.xStats.txPdus.toNat + 1 < 2 ^ 32 ∧
                port.xStats.txBytes.toNat + 1 < 2 ^ 32 := by
            rw [accepts, and_assoc, PortSupports]
            constructor
            · exact fun each => each port table idle
            · intro holds other held _
              rwa [← Option.some.inj (table.symm.trans held)]
          rw [supports, Reports, table]
          rcases sendPortId_idle table idle owns with
            ⟨fault, after, run, refused⟩ | ⟨ret, after, run, answer, counted⟩
          · rw [run, refused]
            simp
          · rw [run, answer]
            cases ret with
            | false => simp
            | true =>
                rw [← advances_sent_iff, if_pos rfl]
                refine Iff.trans ?_ (and_iff_right rfl).symm
                constructor
                · rintro ⟨_, ⟨⟩, advances⟩
                  rw [counted] at advances
                  exact advances
                · exact fun advances => ⟨after, rfl, counted.symm ▸ advances⟩

/-- A data unit with a sound header goes to the N-1 port of the RMT. -/
theorem run_rmtSend_sound (owns : Owns node pxDu du buffer descriptor) {pci : Pci}
    (header : headerOf du descriptor = some pci) (sound : pci.isOk = true) :
    (xRmtSend outcomes true pxDu).run node =
      (do
        let rmt ← follow node.core.pxRmt
        if !rmt.pxN1Port then throw .nullPointer
        xRmtSendPortId outcomes pxDu : Rina Bool).run node := by
  simp only [xRmtSend, Bool.not_true, Bool.false_eq_true, if_false, EStateM.run_bind,
    run_pciIsOk owns header, sound, run_readCore]

/-- Which header, port and data unit sending through the RMT answers right for. -/
theorem rmtSend_answers_iff (descriptor : NetworkBufferDescriptor) (node : Node)
    (outcomes : Outcomes) (pxRmtInstance : Bool) (pxPci : Option Nat) :
    Reports (node.takeIn descriptor pxPci) (xRmtSend outcomes pxRmtInstance node.dus.next)
        ((RmtSend.toRmt outcomes pxRmtInstance descriptor pxPci).accepted node)
        descriptor.xDataLength.toNat ↔
      RmtSend.Supported node.core (.toRmt outcomes pxRmtInstance descriptor pxPci) := by
  have owns := owns_takeIn node descriptor pxPci
  have answers : ∀ {command : Rina Bool}, command.run (node.takeIn descriptor pxPci) = .ok false
      ((node.takeIn descriptor pxPci).discard node.dus.next node.buffers.next) →
      Reports (node.takeIn descriptor pxPci) command false descriptor.xDataLength.toNat :=
    fun run => reports_unsent run (advances_refl _) _
  cases pxRmtInstance with
  | false =>
      refine iff_of_true (answers ?_) fun given => nomatch given
      simp only [xRmtSend, Bool.not_false, if_true, EStateM.run_bind, run_duDestroy owns,
        EStateM.run_pure]
  | true =>
      cases header : headerOf { pxNetworkBuffer := none, pxPci } descriptor with
      | none =>
          have unsent : (RmtSend.toRmt outcomes true descriptor pxPci).accepted node = false := by
            simp only [RmtSend.accepted, header, Option.any_none, Bool.and_false, Bool.false_and]
          rw [unsent]
          cases pxPci with
          | none =>
              refine iff_of_true (answers ?_) fun _ given => absurd rfl given
              simp only [xRmtSend, xPciIsOk, Bool.not_true, Bool.false_eq_true, if_false,
                EStateM.run_bind, run_readDu owns.held, Option.isNone_none, if_true,
                EStateM.run_pure, Bool.not_false, run_duDestroy owns]
          | some offset =>
              obtain ⟨fault, run⟩ := run_readPci_headless owns header
              have faults : (xRmtSend outcomes true node.dus.next).run
                  (node.takeIn descriptor (some offset)) =
                    .error fault (node.takeIn descriptor (some offset)) := by
                simp only [xRmtSend, xPciIsOk, Bool.not_true, Bool.false_eq_true, if_false,
                  EStateM.run_bind, run_readDu owns.held, Option.isNone_some, run]
              refine iff_of_false ?_ ?_
              · rintro ⟨after, returned, -⟩
                rw [faults] at returned
                cases returned
              · intro supported
                obtain ⟨pci, found, -⟩ := supported rfl (Option.some_ne_none offset)
                rw [header] at found
                cases found
      | some pci =>
          have given : pxPci ≠ none := by
            rintro rfl
            cases header
          have supported : RmtSend.Supported node.core (.toRmt outcomes true descriptor pxPci) ↔
              (pci.isOk = true → (∃ rmt, node.core.pxRmt = some rmt ∧ rmt.pxN1Port = true) ∧
                PortSupports outcomes node.core descriptor) := by
            constructor
            · intro supported
              obtain ⟨other, found, holds⟩ := supported rfl given
              rwa [Option.some.inj (header.symm.trans found)]
            · exact fun holds _ _ => ⟨pci, header, holds⟩
          rw [supported]
          have accepted : (RmtSend.toRmt outcomes true descriptor pxPci).accepted node =
              (pci.isOk && n1Accepts outcomes node.dus.next (node.takeIn descriptor pxPci)) := by
            simp only [RmtSend.accepted, header, Option.any_some, Bool.true_and]
          rw [accepted]
          cases sound : pci.isOk with
          | false =>
              rw [Bool.false_and]
              refine iff_of_true (answers ?_) fun isSound => nomatch isSound
              simp only [xRmtSend, Bool.not_true, Bool.false_eq_true, if_false, EStateM.run_bind,
                run_pciIsOk owns header, sound, Bool.not_false, if_true, run_duDestroy owns,
                EStateM.run_pure]
          | true =>
              have rest : (xRmtSend outcomes true node.dus.next).run _ = _ :=
                run_rmtSend_sound owns header sound
              have sent : Reports _ (xRmtSendPortId outcomes node.dus.next) _ _ ↔
                  PortSupports outcomes _ descriptor := sendPortId_answers_iff owns
              rw [Bool.true_and, Reports, rest, takeIn_core]
              cases wired : node.core.pxRmt with
              | none => simp
              | some rmt =>
                  cases bound : rmt.pxN1Port with
                  | false => simp [bound]
                  | true => simpa [bound, Reports] using sent

end Port

/-- The counters are right after a send exactly if it is supported. -/
theorem RmtSend.answers_iff (node : Node) (send : RmtSend) :
    Reports node send.perform (send.accepted node) send.length ↔ send.Supported node.core := by
  cases send with
  | toPort outcomes descriptor pxPci =>
      have run : (RmtSend.toPort outcomes descriptor pxPci).perform.run node =
        (xRmtSendPortId outcomes node.dus.next).run (node.takeIn descriptor pxPci) := rfl
      rw [Reports, run]
      exact sendPortId_answers_iff (owns_takeIn node descriptor pxPci)
  | toRmt outcomes pxRmtInstance descriptor pxPci =>
      have run : (RmtSend.toRmt outcomes pxRmtInstance descriptor pxPci).perform.run node =
        (xRmtSend outcomes pxRmtInstance node.dus.next).run (node.takeIn descriptor pxPci) := rfl
      rw [Reports, run]
      exact rmtSend_answers_iff descriptor node outcomes pxRmtInstance pxPci
  | change eState xShimFlowsList =>
      refine iff_of_true ⟨_, rfl, ?_⟩ trivial
      change Advances [] _ (node.core.xPortIdTable.map _)
      cases node.core.xPortIdTable with
      | none => trivial
      | some port => exact ⟨rfl, rfl⟩

/-! ## Sequences of sends -/

section Sequences

variable {start node : Node}

/-- Counting on from counters that are right. -/
theorem advances_append_iff {first second : List Nat} {table middle last : Option RmtN1Port}
    (advances : Advances first table middle) :
    Advances (first ++ second) table last ↔ Advances second middle last := by
  cases table with
  | none =>
      cases middle with
      | none => cases last <;> rfl
      | some port => exact advances.elim
  | some start =>
      cases middle with
      | none => exact advances.elim
      | some port =>
          cases last with
          | none => rfl
          | some last =>
              simp only [Advances, List.length_append, List.sum_append]
              rw [advances.1, advances.2, Nat.add_assoc, Nat.add_assoc]

theorem acceptedLengths_concat {before : List RmtSend}
    (reached : (sequence RmtSend.perform before).run start = .ok ⟨⟩ node) (send : RmtSend) :
    RmtSend.acceptedLengths start (before ++ [send]) =
      RmtSend.acceptedLengths start before ++ send.counted node := by
  induction before generalizing start with
  | nil =>
      cases reached
      exact List.append_nil _
  | cons first before ih =>
      rw [Command.sequence, EStateM.run_bind] at reached
      rw [List.cons_append, RmtSend.acceptedLengths, RmtSend.acceptedLengths, List.append_assoc]
      cases run : first.perform.run start with
      | error fault next =>
          rw [run] at reached
          cases reached
      | ok ret next =>
          rw [run] at reached
          rw [final_ok, ih reached]

/-- Every data unit reached is answered as the N-1 IPCP answered it, and after it the counters
tell the number and the total length of the data units accepted so far. -/
def SendsProperly (start : Node) (sends : List RmtSend) : Prop :=
  EachAfter (fun before send => ∀ node,
    (sequence RmtSend.perform before).run start = .ok ⟨⟩ node →
      ∃ after, send.perform.run node = .ok (send.accepted node) after ∧
        Advances (RmtSend.acceptedLengths start (before ++ [send])) start.core.xPortIdTable
          after.core.xPortIdTable) sends

/-- Every data unit reached is supported in the state it is reached in. -/
def SendsSupported (start : Node) (sends : List RmtSend) : Prop :=
  EachAfter (fun before send => ∀ node,
    (sequence RmtSend.perform before).run start = .ok ⟨⟩ node → send.Supported node.core) sends

theorem rmt_send_iff (start : Node) (sends : List RmtSend) :
    SendsProperly start sends ↔ SendsSupported start sends := by
  apply eachAfter_iff_of_invariant fun before => ∀ node,
    (sequence RmtSend.perform before).run start = .ok ⟨⟩ node →
      Advances (RmtSend.acceptedLengths start before) start.core.xPortIdTable
        node.core.xPortIdTable
  · intro node leads
    cases leads
    exact advances_refl _
  · intro before send advances supported after leads
    obtain ⟨node, result, reached, run⟩ := sequence_concat.mp leads
    obtain ⟨next, answered, counted⟩ := (send.answers_iff node).mpr (supported node reached)
    rw [answered] at run
    cases run
    rw [acceptedLengths_concat reached]
    exact (advances_append_iff (advances node reached)).mpr counted
  · intro before send advances
    refine forall_congr' fun node => forall_congr' fun reached => ?_
    rw [← send.answers_iff node, acceptedLengths_concat reached]
    exact exists_congr fun after => and_congr_right fun _ =>
      advances_append_iff (advances node reached)

theorem length_unroutedByte : ([7] : List UInt8).length < 2 ^ 32 := by decide

/-- A byte for an N-1 port whose IPCP has no flow. -/
def unroutedByte : RmtSend :=
  .toPort ⟨true, true, true, true, true⟩ (outgoingDescriptor ⟨[7], length_unroutedByte⟩) none

/-- It is refused, and reported as sent. -/
theorem refused_reported : ¬ SendsProperly .linked [unroutedByte] := by
  intro properly
  have reached : (sequence RmtSend.perform []).run Node.linked = .ok ⟨⟩ .linked := rfl
  obtain ⟨after, answered, counted⟩ := properly [] unroutedByte [] rfl .linked reached
  rw [acceptedLengths_concat reached, RmtSend.acceptedLengths, List.nil_append] at counted
  have supported := (unroutedByte.answers_iff .linked).mp ⟨after, answered, counted⟩
  obtain ⟨-, takes, -⟩ := supported _ rfl rfl
  obtain ⟨flow, frames⟩ := takes.frames
  cases frames.found

end Sequences

end RinaSense
