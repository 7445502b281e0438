import RinaSense.Ipcp.Confinement

/-!
# What receiving can reach

A received data unit changes the state vector of one instance and at most the receive
queue that the flow allocator leads to from the port of the connection.
-/

namespace RinaSense

open Command

/-- The flow allocator takes data units for a port, with this instance. -/
structure Core.Accepts (core : Core) (xPortId : PortId) (pxFAI : FlowAllocatorInstance) :
    Prop where
  portOk : isPortIdOk xPortId = true
  valid : ∃ row ∈ core.xFlowRequestTable, row.xValid = true
  first : core.xFlowRequestTable.head?.bind FlowRequestRow.pxFAI = some pxFAI
  port : pxFAI.xPortId = xPortId
  allocated : pxFAI.eFaiState = .allocated

/-- The scope lets data units for the port into the queue they are led to. -/
def Scope.Admits {β : Type} (scope : Scope β) (start : Node) (xPortId : PortId) : Prop :=
  ∀ {pxFAI : FlowAllocatorInstance} {value : FlowAllocateHandle},
    start.core.Accepts xPortId pxFAI →
    start.handles.get? pxFAI.pxFlowAllocatorHandle = some value → scope.port value.xPortId

/-- The view of a scope does not show what a reception changes in a state vector. -/
def Scope.BlindToReception {β : Type} (scope : Scope β) : Prop :=
  ∀ efcp dtp pci, efcp.pxDtp = some dtp →
    scope.view (efcp.withStateVector dtp (dtp.pxDtpStateVector.receive pci).1) = scope.view efcp

section Tables

variable {β : Type} {start : Node} {scope : Scope β}

theorem confined_efcpImapFind (xCepId : CepId) :
    Confined start scope (efcpImapFind xCepId) fun found => found = start.core.resolve xCepId := by
  intro node underway
  rw [run_efcpImapFind]
  exact ⟨{ underway with core := underway.core.trans (evolves_lookUp _ _), rows := underway.rows },
    underway.core.resolves xCepId⟩

/-- What is read of an instance shows what it was at the start. -/
theorem confined_readEfcp (pxEfcp : EfcpId) :
    Confined start scope (readEfcp pxEfcp) fun efcp =>
      (start.core.efcps.get? pxEfcp).map scope.view = some (scope.view efcp) := by
  intro node underway
  cases found : node.core.efcps.get? pxEfcp with
  | none =>
      rw [run_readEfcp_absent found]
      exact underway
  | some efcp =>
      rw [run_readEfcp found]
      have same := underway.core.efcps pxEfcp
      rw [found] at same
      exact ⟨underway, same.symm⟩

theorem confined_writeEfcp {pxEfcp : EfcpId} {efcp : Efcp}
    (known : (start.core.efcps.get? pxEfcp).map scope.view = some (scope.view efcp)) :
    Confined start scope (writeEfcp pxEfcp efcp) fun _ => True := by
  apply upholds_modify
  intro node underway
  obtain ⟨old, present, same⟩ :=
    Option.map_eq_some_iff.mp ((underway.core.efcps pxEfcp).trans known)
  exact { underway with
    core := underway.core.trans (evolves_setEfcp present same.symm), rows := underway.rows }

/-! ## The flow allocator -/

theorem confined_readHandle (handle : HandleId) :
    Confined start scope (readHandle handle) fun value =>
      ∀ old, start.handles.get? handle = some old → value.xPortId = old.xPortId := by
  intro node underway
  cases found : node.handles.get? handle with
  | none =>
      have run : (readHandle handle).run node = .error .released node := by
        simp [readHandle, found]
      rw [run]
      exact underway
  | some value =>
      have run : (readHandle handle).run node = .ok value node := by simp [readHandle, found]
      rw [run]
      refine ⟨underway, fun old was => ?_⟩
      obtain ⟨next, still, port, -⟩ := underway.handles was
      rw [Option.some.inj (found.symm.trans still), port]

/-- Only a handle of a port of the scope may be replaced, by one of the same port. -/
theorem confined_setHandle {handle : HandleId} (value : FlowAllocateHandle)
    (port : ∀ old, start.handles.get? handle = some old → value.xPortId = old.xPortId)
    (within : ∀ old, start.handles.get? handle = some old → scope.port old.xPortId) :
    Confined start scope
      (modify fun node : Node => { node with handles := node.handles.set handle value })
      fun _ => True := by
  apply upholds_modify
  intro node underway
  refine { underway with handles := fun {other} {old} was => ?_ }
  obtain ⟨next, still, kept, same⟩ := underway.handles was
  by_cases here : other = handle
  · rw [here] at was still
    rw [here]
    exact ⟨value, Store.get?_set_self still value, port old was,
      fun outside => absurd (within old was) outside⟩
  · exact ⟨next, (Store.get?_set_of_ne _ here _).trans still, kept, same⟩

theorem confined_postToHandle {handle : HandleId}
    (within : ∀ old, start.handles.get? handle = some old → scope.port old.xPortId)
    (buffer : BufferId) : Confined start scope (postToHandle handle buffer) fun _ => True :=
  upholds_bind (confined_readHandle handle) fun value port =>
    confined_setHandle (value.post buffer) port within

/-- An instance is found in the first row, and only where a row is valid. -/
theorem confined_findInstanceFrom (head : Option FlowAllocatorInstance) (xPortId : PortId)
    (rows : List FlowRequestRow) :
    Confined start scope (findInstanceFrom head xPortId rows) fun found =>
      ∀ pxFAI, found = some pxFAI →
        (∃ row ∈ rows, row.xValid = true) ∧ head = some pxFAI ∧ pxFAI.xPortId = xPortId := by
  intro node underway
  by_cases invalid : ∀ row ∈ rows, row.xValid = false
  · rw [run_findInstanceFrom_none invalid]
    exact ⟨underway, fun _ none => by cases none⟩
  · have valid : ∃ row ∈ rows, row.xValid = true := by
      by_contra none
      exact invalid fun row member =>
        Bool.eq_false_of_not_eq_true fun isValid => none ⟨row, member, isValid⟩
    rw [run_findInstanceFrom invalid]
    cases head with
    | none => exact underway
    | some fai =>
        refine ⟨underway, fun pxFAI same => ?_⟩
        split at same
        · next port =>
            rw [← Option.some.inj same]
            exact ⟨valid, rfl, port⟩
        · cases same

theorem confined_pxFAFindInstance
    (fixed : ∀ rows, scope.rows rows → rows = start.core.xFlowRequestTable) (xPortId : PortId) :
    Confined start scope (pxFAFindInstance xPortId) fun found => ∀ pxFAI, found = some pxFAI →
      (∃ row ∈ start.core.xFlowRequestTable, row.xValid = true) ∧
        start.core.xFlowRequestTable.head?.bind FlowRequestRow.pxFAI = some pxFAI ∧
        pxFAI.xPortId = xPortId := by
  apply upholds_bind confined_readCore
  rintro core ⟨-, rows⟩
  rw [fixed _ rows]
  exact confined_findInstanceFrom _ xPortId _

theorem confined_flowAllocatorDuPost
    (fixed : ∀ rows, scope.rows rows → rows = start.core.xFlowRequestTable) {pxDu : DuId}
    (beyond : start.dus.next ≤ pxDu) {xPortId : PortId} (admits : scope.Admits start xPortId) :
    Confined start scope (xFlowAllocatorDuPost xPortId pxDu) fun _ => True := by
  apply upholds_bind (confined_readDu beyond)
  intro du _
  apply upholds_ite (fun _ => confined_destroyed beyond false)
  intro proper
  have portOk : isPortIdOk xPortId = true := by
    by_contra wrong
    apply proper
    rw [Bool.eq_false_of_not_eq_true wrong, Bool.not_false, Bool.or_true]
  apply upholds_bind (confined_pxFAFindInstance fixed xPortId)
  intro found leads
  cases found with
  | none => exact confined_destroyed beyond false
  | some pxFAI =>
      apply upholds_bind (confined_follow _)
      intro buffer _
      apply upholds_ite (fun _ => confined_destroyed beyond false)
      intro notClosed
      obtain ⟨valid, first, port⟩ := leads pxFAI rfl
      have accepts : start.core.Accepts xPortId pxFAI :=
        ⟨portOk, valid, first, port, not_not.mp notClosed⟩
      exact upholds_bind (confined_postToHandle (fun _ was => admits accepts was) buffer)
        fun _ _ => upholds_pure trivial

end Tables

/-! ## EFCP -/

section Receiving

variable {β : Type} {start : Node} {scope : Scope β} {pxDu : DuId} {pxEfcp : EfcpId}

/-- Data units for whatever connection the instance has may be queued. -/
def Scope.AdmitsInstance (scope : Scope β) (start : Node) (pxEfcp : EfcpId) : Prop :=
  ∀ {efcp : Efcp} {connection : Connection},
    (start.core.efcps.get? pxEfcp).map scope.view = some (scope.view efcp) →
    efcp.pxConnection = some connection → scope.Admits start connection.xPortId

variable (fixed : ∀ rows, scope.rows rows → rows = start.core.xFlowRequestTable)
  (blind : scope.BlindToReception) (beyond : start.dus.next ≤ pxDu)
  (admits : scope.AdmitsInstance start pxEfcp)

include fixed beyond admits

theorem confined_dtpPduPost :
    Confined start scope (xDtpPduPost pxEfcp pxDu) fun _ => True := by
  apply upholds_bind (confined_readEfcp pxEfcp)
  intro efcp known
  apply upholds_bind (confined_follow _)
  intro connection held
  exact confined_flowAllocatorDuPost fixed beyond (admits known held)

include blind

theorem confined_dtpReceive :
    Confined start scope (xDtpReceive pxEfcp pxDu) fun _ => True := by
  apply upholds_bind (confined_readEfcp pxEfcp)
  intro efcp known
  apply upholds_bind (confined_follow _)
  intro dtp data
  apply upholds_bind (confined_readPci beyond)
  intro pci _
  dsimp only
  rw [← blind efcp dtp pci data] at known
  apply upholds_bind (confined_writeEfcp known)
  intro _ _
  cases (dtp.pxDtpStateVector.receive pci).2.1 with
  | post =>
      exact upholds_bind (confined_dtpPduPost fixed beyond admits) fun _ _ =>
        upholds_pure trivial
  | destroy => exact confined_destroyed beyond _

theorem confined_efcpReceive :
    Confined start scope (xEfcpReceive pxEfcp pxDu) fun _ => True := by
  apply upholds_bind (confined_readPci beyond)
  intro pci _
  apply upholds_ite
  · intro _
    apply upholds_bind (confined_readEfcp pxEfcp)
    intro efcp _
    exact upholds_ite (fun _ => confined_destroyed beyond false) fun _ => upholds_pure trivial
  · exact fun _ => confined_dtpReceive fixed blind beyond admits

end Receiving

/-- The view of a scope does not show the note a connection takes of a received CEP id. -/
def Scope.BlindToNote {β : Type} (scope : Scope β) : Prop :=
  ∀ (efcp : Efcp) (connection : Connection) (pci : Pci), efcp.pxConnection = some connection →
    scope.view { efcp with pxConnection := some (connection.noteReceived pci) } = scope.view efcp

theorem confined_efcpContainerReceive {β : Type} {start : Node} {scope : Scope β} {pxDu : DuId}
    {xCepId : CepId} (fixed : ∀ rows, scope.rows rows → rows = start.core.xFlowRequestTable)
    (blind : scope.BlindToReception) (noteless : scope.BlindToNote)
    (beyond : start.dus.next ≤ pxDu)
    (admits : ∀ pxEfcp, start.core.resolve xCepId = some pxEfcp →
      scope.AdmitsInstance start pxEfcp) :
    Confined start scope (xEfcpContainerReceive xCepId pxDu) fun _ => True := by
  apply upholds_ite (fun _ => confined_destroyed beyond false)
  intro _
  apply upholds_bind (confined_efcpImapFind xCepId)
  intro found leads
  cases found with
  | none => exact confined_destroyed beyond false
  | some pxEfcp =>
      have goesOn := confined_efcpReceive fixed blind beyond (admits pxEfcp leads.symm)
      apply upholds_bind (confined_readEfcp pxEfcp)
      intro efcp known
      apply upholds_ite (fun _ => confined_destroyed beyond true)
      intro _
      apply upholds_bind (confined_readPci beyond)
      intro pci _
      apply upholds_ite
      · intro _
        apply upholds_bind (confined_follow _)
        intro connection held
        have noted := (noteless efcp connection pci held).symm ▸ known
        exact upholds_bind (confined_writeEfcp noted) fun _ _ => goesOn
      · exact fun _ => goesOn

end RinaSense
