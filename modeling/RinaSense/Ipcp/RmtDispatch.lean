import RinaSense.Ipcp.RmtReceive

/-!
# Dispatch of received PDUs

Where `xRmtReceive` takes a PDU: to the management of the layer, to the EFCP container, or
nowhere. The decision is separated from what the two do with the PDU.
-/

namespace RinaSense

open Command

/-- Where a received PDU goes. -/
inductive Dispatch where
  /-- To `xRmtProcessMgmtPdu`. -/
  | management
  /-- To `xEfcpContainerReceive`, for this CEP id. -/
  | container (xCepId : CepId)
  /-- Nowhere. -/
  | drop
  deriving Repr, DecidableEq

/-- What is done with the PDU there. -/
def Dispatch.handle (daemon : RibDaemon) (xFrom : PortId) (pxDu : DuId) : Dispatch → Rina Bool
  | management => xRmtProcessMgmtPdu daemon xFrom pxDu
  | container xCepId => xEfcpContainerReceive xCepId pxDu
  | drop => return false

/-- `xRmtProcessDtPdu` up to the container. -/
def dispatchDtPdu (pxDu : DuId) : Rina Dispatch := do
  let pci ← readPci pxDu
  if !isAddressOk pci.xDestination then
    let _ ← xDuDestroy pxDu
    return .drop
  if pci.xType = pduTypeMgmt then
    let _ ← xDuDestroy pxDu
    return .drop
  if !isCepIdOk pci.connectionId.xDestination then
    let _ ← xDuDestroy pxDu
    return .drop
  return .container pci.connectionId.xDestination

/-- `afterHeader` up to where the PDU goes. -/
def dispatchAfterHeader (pxDu : DuId) (pci : Pci) : Rina Dispatch := do
  if !pduTypeIsOk pci.xType || !isAddressOk pci.xDestination ||
      !isQosIdOk pci.connectionId.xQosId then
    let _ ← xDuDestroy pxDu
    return .drop
  if pci.xDestination = localAddress then
    if pci.xType = pduTypeMgmt then return .management
    else if isDtPdu pci.xType then dispatchDtPdu pxDu
    else
      let _ ← xDuDestroy pxDu
      return .drop
  else if pci.xDestination = 0 then return .management
  else return .drop

/-- The decapsulation and what follows it. -/
def dispatchDecap (obtained : Bool) (pxDu : DuId) : Rina Dispatch := do
  if ← xDuDecap obtained pxDu then
    let _ ← xDuDestroy pxDu
    return .drop
  let pci ← readPci pxDu
  dispatchAfterHeader pxDu pci

/-- `xRmtReceive` up to where the PDU goes. -/
def rmtDispatch (obtained : Bool) (pxDu : DuId) (xFrom : PortId) : Rina Dispatch := do
  if (← readCore).pxRmt.isNone then
    let _ ← xDuDestroy pxDu
    return .drop
  if !isPortIdOk xFrom then
    let _ ← xDuDestroy pxDu
    return .drop
  let descriptor ← readBuffer (← follow (← readDu pxDu).pxNetworkBuffer)
  if !(← readCore).pxEfcpc then throw .nullPointer
  if (← readCore).xPortIdTable.isNone then
    let _ ← xDuDestroy pxDu
    return .drop
  modifyN1Port (RmtN1Port.countReceived descriptor.xRinaDataLength)
  dispatchDecap obtained pxDu

section Decision

variable (daemon : RibDaemon) (obtained : Bool) (pxDu : DuId) (xFrom : PortId)

theorem rmtProcessDtPdu_eq :
    xRmtProcessDtPdu pxDu = (do (← dispatchDtPdu pxDu).handle daemon xFrom pxDu) := by
  simp only [xRmtProcessDtPdu, dispatchDtPdu, bind_assoc, ite_bind, pure_bind, Dispatch.handle]

/-- What `xRmtReceive` does once it has read the header. -/
def afterHeader (xFrom : PortId) (pxDu : DuId) (pci : Pci) : Rina Bool := do
  if !pduTypeIsOk pci.xType || !isAddressOk pci.xDestination ||
      !isQosIdOk pci.connectionId.xQosId then
    let _ ← xDuDestroy pxDu
    return false
  if pci.xDestination = localAddress then
    if pci.xType = pduTypeMgmt then xRmtProcessMgmtPdu daemon xFrom pxDu
    else if isDtPdu pci.xType then xRmtProcessDtPdu pxDu
    else
      let _ ← xDuDestroy pxDu
      return false
  else if pci.xDestination = 0 then xRmtProcessMgmtPdu daemon xFrom pxDu
  else return false

theorem afterHeader_eq (pci : Pci) :
    afterHeader daemon xFrom pxDu pci =
      (do (← dispatchAfterHeader pxDu pci).handle daemon xFrom pxDu) := by
  simp only [afterHeader, dispatchAfterHeader, rmtProcessDtPdu_eq daemon pxDu xFrom, bind_assoc,
    ite_bind, pure_bind, Dispatch.handle]

/-- Receiving is deciding and handing on. -/
theorem rmtReceive_eq :
    xRmtReceive daemon obtained pxDu xFrom =
      (do (← rmtDispatch obtained pxDu xFrom).handle daemon xFrom pxDu) := by
  have after := afterHeader_eq daemon pxDu xFrom
  simp only [xRmtReceive, rmtDispatch, dispatchDecap, bind_assoc, ite_bind, pure_bind, ← after]
  rfl

end Decision

/-! ## What is decided -/

variable {node : Node} {pxDu : DuId} {du : Du} {buffer : BufferId}
  {descriptor : NetworkBufferDescriptor}

/-- Where the header says the PDU goes. -/
def Pci.dispatch (pci : Pci) : Dispatch :=
  if !pduTypeIsOk pci.xType || !isAddressOk pci.xDestination ||
      !isQosIdOk pci.connectionId.xQosId then .drop
  else if pci.xDestination = localAddress then
    if pci.xType = pduTypeMgmt then .management
    else if isDtPdu pci.xType && isCepIdOk pci.connectionId.xDestination then
      .container pci.connectionId.xDestination
    else .drop
  else if pci.xDestination = 0 then .management
  else .drop

/-- The header decides, and a PDU that goes nowhere is destroyed or left to the caller. -/
theorem dispatchAfterHeader_run (owns : Owns node pxDu du buffer descriptor) {pci : Pci}
    (header : headerOf du descriptor = some pci) :
    (dispatchAfterHeader pxDu pci).run node = .ok pci.dispatch node ∨
      pci.dispatch = .drop ∧
        (dispatchAfterHeader pxDu pci).run node = .ok .drop (node.discard pxDu buffer) := by
  have destroyed : (do let _ ← xDuDestroy pxDu; return Dispatch.drop : Rina Dispatch).run node =
      .ok .drop (node.discard pxDu buffer) := run_bind_ok (run_duDestroy owns) _
  rw [dispatchAfterHeader, Pci.dispatch]
  by_cases wrong : (!pduTypeIsOk pci.xType || !isAddressOk pci.xDestination ||
      !isQosIdOk pci.connectionId.xQosId) = true
  · rw [if_pos wrong, if_pos wrong]
    exact .inr ⟨rfl, destroyed⟩
  · rw [if_neg wrong, if_neg wrong]
    have address : isAddressOk pci.xDestination = true := by
      simp only [Bool.or_eq_true, Bool.not_eq_true', not_or, Bool.not_eq_false] at wrong
      exact wrong.1.2
    split
    · split
      · exact .inl rfl
      · next unmanaged =>
          cases dt : isDtPdu pci.xType with
          | false =>
              simp only [Bool.false_eq_true, if_false, Bool.false_and]
              exact .inr ⟨trivial, destroyed⟩
          | true =>
              simp only [if_true, Bool.true_and, dispatchDtPdu]
              rw [run_bind_ok (run_readPci owns header)]
              simp only [address, Bool.not_true, Bool.false_eq_true, if_false, unmanaged]
              cases isCepIdOk pci.connectionId.xDestination with
              | false => exact .inr ⟨rfl, destroyed⟩
              | true => exact .inl rfl
    · split
      · exact .inl rfl
      · exact .inl rfl

/-- The PDU is stopped before its header is taken: there is no RMT, the port is
wrong, there is no N-1 port, or the type is not accepted. -/
def Stopped (core : Core) (descriptor : NetworkBufferDescriptor) (xFrom : PortId) : Prop :=
  core.pxRmt = none ∨ isPortIdOk xFrom = false ∨
    (core.pxEfcpc = true ∧ (core.xPortIdTable = none ∨
      ∃ xType, receivedType descriptor = some xType ∧ pduTypeIsOk xType = false))

/-- The tables after the PDU was counted at the N-1 port. -/
def Core.countReceived (core : Core) (bytes : SizeT) : Core :=
  { core with xPortIdTable := core.xPortIdTable.map (RmtN1Port.countReceived bytes) }

/-- The tables once a PDU was counted, if it is. -/
def Core.counting (core : Core) (xFrom : PortId) (bytes : SizeT) : Core :=
  if core.pxRmt.isSome && isPortIdOk xFrom && core.pxEfcpc then core.countReceived bytes else core

def Node.counting (node : Node) (xFrom : PortId) (descriptor : NetworkBufferDescriptor) : Node :=
  { node with core := node.core.counting xFrom descriptor.xRinaDataLength }

/-- A PDU whose type is accepted and that reaches decapsulation from a wired-up RMT. -/
structure Arrives (core : Core) (descriptor : NetworkBufferDescriptor) (xFrom : PortId) :
    Prop where
  rmt : core.pxRmt.isSome
  port : isPortIdOk xFrom = true
  container : core.pxEfcpc = true
  n1Port : core.xPortIdTable.isSome
  past : ¬ Stopped core descriptor xFrom

/-- From the decapsulation on. -/
theorem decap_run (owns : Owns node pxDu du buffer descriptor) (unset : du.pxPci = none)
    (obtained : Bool) :
    (∃ xType, receivedType descriptor = some xType ∧ pduTypeIsOk xType = false ∧
      (dispatchDecap obtained pxDu).run node = .ok .drop (node.discard pxDu buffer)) ∨
    ((∀ xType, receivedType descriptor = some xType → pduTypeIsOk xType = true) ∧
      (receivedType descriptor = none ∨ obtained = false) ∧ ∃ fault,
        (dispatchDecap obtained pxDu).run node = .error fault node) ∨
    ((∀ xType, receivedType descriptor = some xType → pduTypeIsOk xType = true) ∧
      receivedHeader descriptor = none ∧ ∃ fault, (dispatchDecap obtained pxDu).run node =
        .error fault (node.decapsulate pxDu du buffer descriptor)) ∨
    ((∀ xType, receivedType descriptor = some xType → pduTypeIsOk xType = true) ∧
      obtained = true ∧ ∃ pci, receivedHeader descriptor = some pci ∧
        (dispatchDecap obtained pxDu).run node = (dispatchAfterHeader pxDu pci).run
          (node.decapsulate pxDu du buffer descriptor)) := by
  simp only [dispatchDecap, EStateM.run_bind]
  cases received : receivedType descriptor with
  | none =>
      obtain ⟨fault, -, faults⟩ := run_duDecap_unreadable owns received obtained
      simp only [faults]
      exact .inr (.inl ⟨by simp, .inl trivial, fault, rfl⟩)
  | some xType =>
      cases accepted : pduTypeIsOk xType with
      | false =>
          simp only [run_duDecap_rejected owns received accepted, if_true, EStateM.run_bind,
            run_duDestroy owns]
          exact .inl ⟨xType, rfl, accepted, rfl⟩
      | true =>
          have all : ∀ other, some xType = some other → pduTypeIsOk other = true :=
            fun other same => Option.some.inj same ▸ accepted
          cases obtained with
          | false =>
              simp only [run_duDecap_unobtained owns received accepted, Bool.false_eq_true,
                if_false, EStateM.run_bind, run_readPci_unset owns unset]
              exact .inr (.inl ⟨all, .inr trivial, .nullPointer, rfl⟩)
          | true =>
              simp only [run_duDecap owns received accepted, Bool.false_eq_true, if_false,
                EStateM.run_bind]
              cases header : receivedHeader descriptor with
              | none =>
                  simp only [run_readPci_short owns received header]
                  exact .inr (.inr (.inl ⟨all, trivial, .outOfBounds, rfl⟩))
              | some pci =>
                  simp only [run_readPci_decapsulated owns header]
                  exact .inr (.inr (.inr ⟨all, trivial, pci, rfl, rfl⟩))

/-- What is decided about a PDU: it is stopped and destroyed, its header cannot be taken and a
fault ends the run, or its header is taken and decides. -/
theorem rmtDispatch_run (owns : Owns node pxDu du buffer descriptor) (unset : du.pxPci = none)
    (obtained : Bool) (xFrom : PortId) :
    (Stopped node.core descriptor xFrom ∧
      (rmtDispatch obtained pxDu xFrom).run node =
        .ok .drop ((node.counting xFrom descriptor).discard pxDu buffer)) ∨
    (¬ Stopped node.core descriptor xFrom ∧
      (node.core.pxEfcpc = false ∨ receivedType descriptor = none ∨ obtained = false) ∧ ∃ fault,
        (rmtDispatch obtained pxDu xFrom).run node =
          .error fault (node.counting xFrom descriptor)) ∨
    (¬ Stopped node.core descriptor xFrom ∧ receivedHeader descriptor = none ∧ ∃ fault,
        (rmtDispatch obtained pxDu xFrom).run node =
          .error fault ((node.counting xFrom descriptor).decapsulate pxDu du buffer descriptor)) ∨
    (Arrives node.core descriptor xFrom ∧ obtained = true ∧
      ∃ pci, receivedHeader descriptor = some pci ∧
        (rmtDispatch obtained pxDu xFrom).run node = (dispatchAfterHeader pxDu pci).run
          ((node.counting xFrom descriptor).decapsulate pxDu du buffer descriptor)) := by
  simp only [rmtDispatch, EStateM.run_bind, run_readCore]
  cases rmt : node.core.pxRmt with
  | none =>
      have still : node.counting xFrom descriptor = node := by
        simp [Node.counting, Core.counting, rmt]
      simp only [Option.isNone_none, if_true, EStateM.run_bind, run_duDestroy owns, still]
      exact .inl ⟨.inl rmt, rfl⟩
  | some value =>
      simp only [Option.isNone_some, Bool.false_eq_true, if_false]
      cases port : isPortIdOk xFrom with
      | false =>
          have still : node.counting xFrom descriptor = node := by
            simp [Node.counting, Core.counting, port]
          simp only [Bool.not_false, if_true, EStateM.run_bind, run_duDestroy owns, still]
          exact .inl ⟨.inr (.inl port), rfl⟩
      | true =>
          simp only [Bool.not_true, Bool.false_eq_true, if_false, EStateM.run_bind,
            run_readDu owns.held, owns.pointer, run_follow_some, run_readBuffer owns.stored,
            run_readCore]
          cases container : node.core.pxEfcpc with
          | false =>
              have still : node.counting xFrom descriptor = node := by
                simp [Node.counting, Core.counting, container]
              refine .inr (.inl ⟨?_, .inl rfl, .nullPointer, ?_⟩)
              · rintro (none | wrong | ⟨set, -⟩)
                · cases none.symm.trans rmt
                · cases wrong.symm.trans port
                · cases set.symm.trans container
              · rw [still]
                rfl
          | true =>
              have counts : node.counting xFrom descriptor = { node with
                  core := node.core.countReceived descriptor.xRinaDataLength } := by
                simp [Node.counting, Core.counting, rmt, port, container]
              simp only [Bool.not_true, Bool.false_eq_true, if_false, EStateM.run_bind,
                run_readCore]
              cases table : node.core.xPortIdTable with
              | none =>
                  have still : node.counting xFrom descriptor = node := by
                    rw [counts, Core.countReceived, table, Option.map_none, ← table]
                  simp only [Option.isNone_none, if_true, EStateM.run_bind, run_duDestroy owns,
                    still]
                  exact .inl ⟨.inr (.inr ⟨container, .inl table⟩), rfl⟩
              | some n1Port =>
                  have run : (modifyN1Port (RmtN1Port.countReceived descriptor.xRinaDataLength)).run
                      node = .ok () (node.counting xFrom descriptor) := by
                    rw [counts]
                    rfl
                  simp only [Option.isNone_some, Bool.false_eq_true, if_false, EStateM.run_bind, run]
                  have owned : Owns (node.counting xFrom descriptor) pxDu du buffer descriptor :=
                    owns.withCore _
                  have past (all : ∀ xType, receivedType descriptor = some xType →
                      pduTypeIsOk xType = true) : ¬ Stopped node.core descriptor xFrom := by
                    rintro (none | wrong | ⟨-, none | ⟨xType, received, rejected⟩⟩)
                    · cases none.symm.trans rmt
                    · cases wrong.symm.trans port
                    · cases none.symm.trans table
                    · cases rejected.symm.trans (all xType received)
                  rcases decap_run owned unset obtained with
                    ⟨xType, received, rejected, run⟩ | ⟨all, unfit, faults⟩ |
                    ⟨all, headless, faults⟩ | ⟨all, given, pci, header, run⟩
                  · exact .inl ⟨.inr (.inr ⟨container, .inr ⟨xType, received, rejected⟩⟩), run⟩
                  · exact .inr (.inl ⟨past all, .inr unfit, faults⟩)
                  · exact .inr (.inr (.inl ⟨past all, headless, faults⟩))
                  · exact .inr (.inr (.inr ⟨⟨by simp [rmt], port, container, by simp [table],
                      past all⟩, given, pci, header, run⟩))

end RinaSense
