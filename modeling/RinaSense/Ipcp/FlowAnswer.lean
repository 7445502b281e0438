import RinaSense.Ipcp.Connections
import RinaSense.Ipcp.FlowRequestTable

/-!
# The answer to a flow request

What handling the answer of the remote flow allocator is for: on success the
addresses and the CEP id of the answer are in the one instance of the port and
its flow is allocated, and on a failure nothing has changed. The addresses are
installed by the destination CEP id of the answer and that id by the source CEP
id, and nothing is undone.
-/

namespace RinaSense

/-- The connection with the addresses of the answer. -/
def FlowResponse.addressed (response : FlowResponse) (connection : Connection) : Connection :=
  { connection with
    xSourceAddress := response.xRemoteAddress
    xDestinationAddress := response.xSourceAddress }

/-- The connection with the destination CEP id of the answer. -/
def FlowResponse.bound (response : FlowResponse) (connection : Connection) : Connection :=
  { connection with xDestinationCepId := response.xDestination }

/-! ## Purpose -/

/-- The answer is in the connection of the port's instance and in no other one, and
the flow of the port is allocated. -/
def FlowResponse.Installed (response : FlowResponse) (before after : Core) : Prop :=
  (∃ efcp connection, before.Live efcp connection ∧
    connection.xPortId = response.xDestinationPortId ∧
    after.Live efcp (response.bound (response.addressed connection)) ∧
    ∀ other, other ≠ efcp → after.efcps.get? other = before.efcps.get? other) ∧
  ∃ flow, prvNormalFindFlow response.xDestinationPortId after.xFlowsList = some flow ∧
    flow.eState = .allocated

structure Core.SameFlows (before after : Core) : Prop where
  efcps : ∀ efcp, after.efcps.get? efcp = before.efcps.get? efcp
  requests : after.xFlowRequestTable = before.xFlowRequestTable
  flows : after.xFlowsList = before.xFlowsList

def AnswerOutcome (before : Core) (pxFlow : Option FlowResponse) :
    EStateM.Result Fault Node Bool → Prop
  | .ok true next => ∃ response, pxFlow = some response ∧ response.Installed before next.core
  | .ok false next => before.SameFlows next.core
  | .error _ _ => False

/-! ## Condition -/

/-- With the instances the two ids lead to: the instance of the port is the one
meant, or has the values already and the other one too. -/
def FlowResponse.Reaches (response : FlowResponse) (core : Core) (first second : EfcpId)
    (one other : Connection) : Prop :=
  ∃ efcp connection, core.Live efcp connection ∧
    connection.xPortId = response.xDestinationPortId ∧
    (efcp = first ∨ response.addressed connection = connection ∧ response.addressed one = one) ∧
    (efcp = second ∨ response.bound connection = connection ∧ response.bound other = other)

/-- What the update needs once the addresses are in an instance. -/
def FlowResponse.UpdateSupported (response : FlowResponse) (node : Node) (handle : HandleId)
    (first : EfcpId) (one : Connection) : Prop :=
  if isCepIdOk response.xSource && isCepIdOk response.xDestination then
    match node.core.resolve response.xSource with
    | none => response.addressed one = one
    | some second => ∃ other, node.core.Live second other ∧
        match prvNormalFindFlow response.xDestinationPortId node.core.xFlowsList with
        | none => response.addressed one = one ∧ response.bound other = other
        | some _ => node.handles.get? handle ≠ none ∧
            response.Reaches node.core first second one other
  else response.addressed one = one

/-- The answers handled properly: those refused before anything is changed, those
refused later that change nothing, and those whose two ids reach the instance of
the port. -/
def AnswerSupported (node : Node) (pxFlow : Option FlowResponse) (result : Int) : Prop :=
  ∀ response, pxFlow = some response → result = 0 →
    (∃ row ∈ node.core.xFlowRequestTable, row.xValid = true) →
      ∃ pxFAI, node.core.xFlowRequestTable.head?.bind FlowRequestRow.pxFAI = some pxFAI ∧
        (pxFAI.xPortId = response.xDestinationPortId → node.core.pxEfcpc = true →
          ∀ first, node.core.resolve response.xDestination = some first →
            ∃ one, node.core.Live first one ∧
              response.UpdateSupported node pxFAI.pxFlowAllocatorHandle first one)

/-! ## Changing a connection found by its id -/

/-- The part the two changes of a connection share. -/
def changeByCepId (xCepId : CepId) (change : Connection → Connection) : Rina Bool := do
  match ← efcpImapFind xCepId with
  | none => return false
  | some pxEfcp => changeConnection pxEfcp change

section Change

variable {node : Node} {key : CepId} {change : Connection → Connection}

/-- The node after a lookup of a CEP id. -/
def Node.lookUp (node : Node) (xCepId : CepId) : Node :=
  { node with core := node.core.lookUp xCepId }

theorem run_changeByCepId_absent (absent : node.core.resolve key = none) :
    (changeByCepId key change).run node =
      .ok false (node.lookUp key) := by
  have missing : (pxEfcpImapFind key node.core.xEfcpImapTable).2 = none := absent
  rw [changeByCepId, Command.run_bind_ok (run_efcpImapFind key node), missing]
  rfl

theorem run_changeByCepId_found {efcp : EfcpId} (found : node.core.resolve key = some efcp) :
    (changeByCepId key change).run node =
      (changeConnection efcp change).run (node.lookUp key) := by
  have present : (pxEfcpImapFind key node.core.xEfcpImapTable).2 = some efcp := found
  rw [changeByCepId, Command.run_bind_ok (run_efcpImapFind key node), present]
  rfl

theorem run_xEfcpConnectionModify (xSrc xDst : Address) (container : node.core.pxEfcpc = true) :
    (xEfcpConnectionModify key xSrc xDst).run node =
      (changeByCepId key fun connection =>
        { connection with xSourceAddress := xSrc, xDestinationAddress := xDst }).run node := by
  simp only [xEfcpConnectionModify, EStateM.run_bind, run_readCore, container, Bool.not_true,
    Bool.false_eq_true, if_false]
  rfl

theorem run_xEfcpConnectionUpdate {destination : CepId} (container : node.core.pxEfcpc = true)
    (sourceOk : isCepIdOk key = true) (destinationOk : isCepIdOk destination = true) :
    (xEfcpConnectionUpdate key destination).run node =
      (changeByCepId key fun connection =>
        { connection with xDestinationCepId := destination }).run node := by
  simp only [xEfcpConnectionUpdate, EStateM.run_bind, run_readCore, container, sourceOk,
    destinationOk, Bool.not_true, Bool.false_eq_true, if_false]
  rfl

theorem run_changeConnection {efcp : EfcpId} {value : Efcp} {connection : Connection}
    (found : node.core.efcps.get? efcp = some value) (allocated : value.xState = .allocated)
    (held : value.pxConnection = some connection) :
    (changeConnection efcp change).run node =
      .ok true { node with
        core := node.core.setEfcp efcp { value with pxConnection := some (change connection) } } := by
  have live : value.xState ≠ .deallocated := by
    rw [allocated]
    exact EfcpState.noConfusion
  rw [changeConnection, Command.run_bind_ok (run_readEfcp found)]
  simp only [live, if_false, held, EStateM.run_bind, run_follow_some, run_writeEfcp,
    EStateM.run_pure]

/-- The run does not end with success, and where it ends at all it has taken the
instance out of use. -/
structure Destroys (node : Node) (efcp : EfcpId) (result : EStateM.Result Fault Node Bool) :
    Prop where
  failed : ∀ next, result ≠ .ok true next
  freed : ∀ next, result = .ok false next →
    node.core.efcps.get? efcp ≠ none ∧ next.core.efcps.get? efcp = none

theorem destroys_error (node : Node) (efcp : EfcpId) (fault : Fault) (next : Node) :
    Destroys node efcp (.error fault next) where
  failed := fun _ equal => by cases equal
  freed := fun _ equal => by cases equal

/-- `xEfcpDestroy` never reports a failure. -/
theorem xEfcpDestroy_frees {efcp : EfcpId} {value : Efcp}
    (found : node.core.efcps.get? efcp = some value) :
    (xEfcpDestroy efcp).run node = .ok true { node with core := node.core.freeEfcp efcp } ∨
      ∃ fault, (xEfcpDestroy efcp).run node = .error fault node := by
  cases user : value.pxUserIpcp with
  | true => exact .inr ⟨.nullPointer, run_xEfcpDestroy_user found user⟩
  | false =>
      cases good : value.pxConnection.any fun connection => isCepIdOk connection.xSourceCepId with
      | false =>
          left
          rw [xEfcpDestroy, Command.run_bind_ok (run_readEfcp found)]
          simp [user, good]
      | true =>
          cases container : value.pxEfcpContainer with
          | true => exact .inl (run_xEfcpDestroy found user (.inr container))
          | false =>
              right
              refine ⟨.assertion, ?_⟩
              rw [xEfcpDestroy, Command.run_bind_ok (run_readEfcp found)]
              simp [user, good, container]

theorem changeConnection_destroys {efcp : EfcpId}
    (dead : ∀ connection, ¬ node.core.Live efcp connection) :
    Destroys node efcp ((changeConnection efcp change).run node) := by
  cases found : node.core.efcps.get? efcp with
  | none =>
      rw [changeConnection, Command.run_bind_error (run_readEfcp_absent found)]
      exact destroys_error _ _ _ _
  | some value =>
      rw [changeConnection, Command.run_bind_ok (run_readEfcp found)]
      cases state : value.xState with
      | allocated =>
          cases held : value.pxConnection with
          | none =>
              simp only [reduceCtorEq, if_false, EStateM.run_bind, run_follow_none]
              exact destroys_error _ _ _ _
          | some connection => exact absurd ⟨value, found, state, held⟩ (dead connection)
      | deallocated =>
          simp only [if_true]
          obtain freed | ⟨fault, faulted⟩ := xEfcpDestroy_frees found
          · rw [Command.run_bind_ok freed]
            constructor
            · intro next equal
              exact Bool.noConfusion (EStateM.Result.ok.inj equal).1
            · intro next equal
              have last := (EStateM.Result.ok.inj equal).2
              rw [← last, found]
              exact ⟨Option.some_ne_none _, Store.get?_free_self _ _⟩
          · rw [Command.run_bind_error faulted]
            exact destroys_error _ _ _ _

end Change

/-! ## The steps of the handler -/

/-- The handler from the installation of the CEP id on. -/
def updateByAnswer (response : FlowResponse) (pxFAI : FlowAllocatorInstance) : Rina Bool := do
  if !(← xNormalConnectionUpdate response.xDestinationPortId response.xSource
      response.xDestination) then return false
  let core ← readCore
  writeCore { core with
    xFlowRequestTable := changeFirstInstance
      (fun fai => { fai with eFaiState := .allocated }) core.xFlowRequestTable }
  let handle ← readHandle pxFAI.pxFlowAllocatorHandle
  modify fun node =>
    { node with
      handles := node.handles.set pxFAI.pxFlowAllocatorHandle
        { handle with eFlowBound := true } }
  return true

/-- The handler once it has an instance. -/
def changeByAnswer (response : FlowResponse) (pxFAI : FlowAllocatorInstance) : Rina Bool := do
  if !(← xNormalConnectionModify response.xDestination response.xRemoteAddress
      response.xSourceAddress) then return false
  updateByAnswer response pxFAI

theorem xFlowAllocatorHandleCreateR_eq (response : FlowResponse) :
    xFlowAllocatorHandleCreateR (some response) 0 = (do
      match ← pxFAFindInstance response.xDestinationPortId with
      | none => return false
      | some pxFAI => changeByAnswer response pxFAI) := by
  simp only [xFlowAllocatorHandleCreateR, ne_eq, not_true_eq_false, if_false]
  rfl

section Steps

variable {node : Node} {response : FlowResponse} {pxFAI : FlowAllocatorInstance}

theorem run_xNormalConnectionModify (container : node.core.pxEfcpc = true) :
    (xNormalConnectionModify response.xDestination response.xRemoteAddress
        response.xSourceAddress).run node =
      (changeByCepId response.xDestination response.addressed).run node := by
  have modify : (xEfcpConnectionModify response.xDestination response.xRemoteAddress
        response.xSourceAddress).run node =
      (changeByCepId response.xDestination response.addressed).run node :=
    run_xEfcpConnectionModify _ _ container
  simp only [xNormalConnectionModify, EStateM.run_bind, run_readCore, container, Bool.not_true,
    Bool.false_eq_true, if_false, modify]
  cases (changeByCepId response.xDestination response.addressed).run node with
  | error fault next => rfl
  | ok changed next => cases changed <;> rfl

end Steps

/-! ## The connections after the changes -/

/-- Every instance keeps all but its connection, which is changed. -/
def Core.Changed (before after : Core) (change : EfcpId → Connection → Connection) : Prop :=
  ∀ efcp, after.efcps.get? efcp = (before.efcps.get? efcp).map fun value =>
    { value with pxConnection := value.pxConnection.map (change efcp) }

/-- Change the connection of one instance. -/
def changeOf (efcp : EfcpId) (change : Connection → Connection) (other : EfcpId) :
    Connection → Connection :=
  if other = efcp then change else id

section Changed

variable {before between after : Core} {change next : EfcpId → Connection → Connection}
variable {efcp : EfcpId} {connection : Connection}

theorem Core.Changed.trans (first : before.Changed between change)
    (second : between.Changed after next) :
    before.Changed after fun efcp => next efcp ∘ change efcp := by
  intro efcp
  rw [second efcp, first efcp, Option.map_map]
  congr 1
  funext value
  simp only [Function.comp_apply, Option.map_map]

theorem Core.Changed.same_iff (changed : before.Changed after change) {value : Efcp}
    (found : before.efcps.get? efcp = some value) :
    after.efcps.get? efcp = before.efcps.get? efcp ↔
      ∀ connection, value.pxConnection = some connection → change efcp connection = connection := by
  rw [changed efcp, found, Option.map_some, Option.some.injEq]
  constructor
  · intro same connection held
    have equal := congrArg Efcp.pxConnection same
    simp only [held, Option.map_some] at equal
    exact Option.some.inj equal
  · intro same
    cases held : value.pxConnection with
    | none => rw [Option.map_none, ← held]
    | some connection => rw [Option.map_some, same connection held, ← held]

theorem Core.Changed.same_of_id (changed : before.Changed after change)
    (idle : change efcp = id) : after.efcps.get? efcp = before.efcps.get? efcp := by
  cases found : before.efcps.get? efcp with
  | none => rw [changed efcp, found, Option.map_none]
  | some value =>
      rw [← found, changed.same_iff found]
      intro connection _
      rw [idle, id_eq]

theorem Core.Changed.live_iff (changed : before.Changed after change)
    (live : before.Live efcp connection) (other : Connection) :
    after.Live efcp other ↔ change efcp connection = other := by
  obtain ⟨value, found, state, held⟩ := live
  simp only [Core.Live, changed efcp, found, Option.map_some, Option.some.injEq, exists_eq_left',
    held, state, true_and]

theorem Core.Changed.same_of_live (changed : before.Changed after change)
    (live : before.Live efcp connection) :
    after.efcps.get? efcp = before.efcps.get? efcp ↔ change efcp connection = connection := by
  obtain ⟨value, found, state, held⟩ := live
  rw [changed.same_iff found]
  simp only [held, Option.some.injEq, forall_eq']

theorem Core.Changed.live_before (changed : before.Changed after change)
    (live : after.Live efcp connection) : ∃ old, before.Live efcp old := by
  obtain ⟨value, found, state, held⟩ := live
  rw [changed efcp, Option.map_eq_some_iff] at found
  obtain ⟨old, foundOld, rfl⟩ := found
  obtain ⟨oldConnection, heldOld, _⟩ := Option.map_eq_some_iff.mp held
  exact ⟨oldConnection, old, foundOld, state, heldOld⟩

theorem Core.Changed.absent (changed : before.Changed after change)
    (absent : before.efcps.get? efcp = none) : after.efcps.get? efcp = none := by
  rw [changed efcp, absent, Option.map_none]

theorem changed_setEfcp {core : Core} {value : Efcp}
    (found : core.efcps.get? efcp = some value) (held : value.pxConnection = some connection)
    (change : Connection → Connection) :
    core.Changed (core.setEfcp efcp { value with pxConnection := some (change connection) })
      (changeOf efcp change) := by
  intro other
  by_cases same : other = efcp
  · rw [same, get?_setEfcp found, found, Option.map_some, changeOf, if_pos rfl, held,
      Option.map_some]
  · have kept : (core.setEfcp efcp { value with
        pxConnection := some (change connection) }).efcps.get? other = core.efcps.get? other :=
      Store.get?_set_of_ne _ same _
    rw [kept, changeOf, if_neg same]
    cases core.efcps.get? other with
    | none => rfl
    | some value => simp only [Option.map_some, Option.map_id_fun, id_eq]

end Changed

/-! ## The values of the answer -/

section Values

variable {response : FlowResponse} {before after : Core} {first second : EfcpId}
variable {one other connection : Connection}

theorem bound_addressed_eq :
    response.bound (response.addressed connection) = connection ↔
      response.addressed connection = connection ∧ response.bound connection = connection := by
  cases connection
  simp only [FlowResponse.bound, FlowResponse.addressed, Connection.mk.injEq, true_and, and_true]
  tauto

theorem addressed_eq_bound :
    response.addressed connection = response.bound (response.addressed connection) ↔
      response.bound connection = connection := by
  cases connection
  simp only [FlowResponse.bound, FlowResponse.addressed, Connection.mk.injEq, true_and, and_true]
  exact eq_comm

theorem bound_eq_bound :
    response.bound connection = response.bound (response.addressed connection) ↔
      response.addressed connection = connection := by
  cases connection
  simp only [FlowResponse.bound, FlowResponse.addressed, Connection.mk.injEq, true_and, and_true]
  tauto

/-- Both changes one after the other. -/
def FlowResponse.changes (response : FlowResponse) (first second efcp : EfcpId) :
    Connection → Connection :=
  changeOf second response.bound efcp ∘ changeOf first response.addressed efcp

theorem changes_eq_bound (efcp : EfcpId) :
    response.changes first second efcp connection =
        response.bound (response.addressed connection) ↔
      (efcp = first ∨ response.addressed connection = connection) ∧
        (efcp = second ∨ response.bound connection = connection) := by
  by_cases isFirst : efcp = first
  · subst isFirst
    by_cases isSecond : efcp = second
    · subst isSecond
      simp only [FlowResponse.changes, changeOf, if_true, Function.comp_apply, true_or, and_self]
    · simp only [FlowResponse.changes, changeOf, if_true, isSecond, if_false, Function.comp_apply,
        id_eq, addressed_eq_bound, true_or, true_and, false_or]
  · by_cases isSecond : efcp = second
    · subst isSecond
      simp only [FlowResponse.changes, changeOf, if_true, isFirst, if_false, Function.comp_apply,
        id_eq, bound_eq_bound, true_or, and_true, false_or]
    · simp only [FlowResponse.changes, changeOf, isFirst, isSecond, if_false, Function.comp_apply,
        id_eq, false_or]
      exact eq_comm.trans bound_addressed_eq

theorem changes_eq_self (efcp : EfcpId) :
    response.changes first second efcp connection = connection ↔
      (efcp = first → response.addressed connection = connection) ∧
        (efcp = second → response.bound connection = connection) := by
  by_cases isFirst : efcp = first
  · subst isFirst
    by_cases isSecond : efcp = second
    · subst isSecond
      simp only [FlowResponse.changes, changeOf, if_true, Function.comp_apply, bound_addressed_eq,
        forall_const]
    · simp only [FlowResponse.changes, changeOf, if_true, isSecond, if_false, Function.comp_apply,
        id_eq, forall_const, false_implies, and_true]
  · by_cases isSecond : efcp = second
    · subst isSecond
      simp only [FlowResponse.changes, changeOf, if_true, isFirst, if_false, Function.comp_apply,
        id_eq, forall_const, false_implies, true_and]
    · simp only [FlowResponse.changes, changeOf, isFirst, isSecond, if_false, Function.comp_apply,
        id_eq, false_implies, and_self]

section Both

variable (changed : before.Changed after (response.changes first second))
variable (liveOne : before.Live first one) (liveOther : before.Live second other)

include changed liveOne liveOther

/-- The other instances keep their connections exactly if what the two changes
write is there already, wherever they do not change the instance meant. -/
theorem same_elsewhere_iff (efcp : EfcpId) :
    (∀ elsewhere, elsewhere ≠ efcp →
        after.efcps.get? elsewhere = before.efcps.get? elsewhere) ↔
      (efcp = first ∨ response.addressed one = one) ∧
        (efcp = second ∨ response.bound other = other) := by
  constructor
  · intro same
    constructor
    · by_cases meant : efcp = first
      · exact .inl meant
      · have kept := (changed.same_of_live liveOne).mp (same first (Ne.symm meant))
        exact .inr ((changes_eq_self first).mp kept |>.1 rfl)
    · by_cases meant : efcp = second
      · exact .inl meant
      · have kept := (changed.same_of_live liveOther).mp (same second (Ne.symm meant))
        exact .inr ((changes_eq_self second).mp kept |>.2 rfl)
  · intro ⟨kept, keptToo⟩ elsewhere different
    by_cases isFirst : elsewhere = first
    · have live := liveOne
      rw [← isFirst] at live
      rw [changed.same_of_live live, changes_eq_self]
      constructor
      · intro _
        exact kept.resolve_left fun meant => different (isFirst.trans meant.symm)
      · intro isSecond
        have same : one = other := Core.Live.unique live (isSecond ▸ liveOther)
        rw [same]
        exact keptToo.resolve_left fun meant => different (isSecond.trans meant.symm)
    · by_cases isSecond : elsewhere = second
      · have live := liveOther
        rw [← isSecond] at live
        rw [changed.same_of_live live, changes_eq_self]
        constructor
        · intro meant
          exact absurd meant isFirst
        · intro _
          exact keptToo.resolve_left fun meant => different (isSecond.trans meant.symm)
      · apply changed.same_of_id
        funext connection
        simp only [FlowResponse.changes, changeOf, if_neg isFirst, if_neg isSecond,
          Function.comp_apply, id_eq]

theorem unchanged_iff :
    (∀ efcp, after.efcps.get? efcp = before.efcps.get? efcp) ↔
      response.addressed one = one ∧ response.bound other = other := by
  constructor
  · intro same
    have keptOne := (changed.same_of_live liveOne).mp (same first)
    have keptOther := (changed.same_of_live liveOther).mp (same second)
    exact ⟨((changes_eq_self first).mp keptOne).1 rfl, ((changes_eq_self second).mp keptOther).2 rfl⟩
  · intro ⟨kept, keptToo⟩ efcp
    -- an identity no object has is not meant by either id
    have all := (same_elsewhere_iff changed liveOne liveOther before.efcps.next).mpr
      ⟨.inr kept, .inr keptToo⟩
    by_cases newest : efcp = before.efcps.next
    · rw [newest, changed, Store.get?_next]
      rfl
    · exact all efcp newest

/-- The answer gets to the instance of the port exactly if the two ids reach it. -/
theorem reaches_iff :
    (∃ efcp connection, before.Live efcp connection ∧
        connection.xPortId = response.xDestinationPortId ∧
        after.Live efcp (response.bound (response.addressed connection)) ∧
        ∀ elsewhere, elsewhere ≠ efcp →
          after.efcps.get? elsewhere = before.efcps.get? elsewhere) ↔
      response.Reaches before first second one other := by
  constructor
  · intro ⟨efcp, connection, live, port, installed, same⟩
    rw [changed.live_iff live, changes_eq_bound] at installed
    rw [same_elsewhere_iff changed liveOne liveOther] at same
    refine ⟨efcp, connection, live, port, ?_, ?_⟩
    · exact or_and_left.mpr ⟨installed.1, same.1⟩
    · exact or_and_left.mpr ⟨installed.2, same.2⟩
  · intro ⟨efcp, connection, live, port, isFirst, isSecond⟩
    have onFirst := or_and_left.mp isFirst
    have onSecond := or_and_left.mp isSecond
    refine ⟨efcp, connection, live, port, ?_, ?_⟩
    · rw [changed.live_iff live, changes_eq_bound]
      exact ⟨onFirst.1, onSecond.1⟩
    · rw [same_elsewhere_iff changed liveOne liveOther]
      exact ⟨onFirst.2, onSecond.2⟩

end Both

end Values

/-! ## Outcomes -/

section Outcomes

variable {node between : Node} {response : FlowResponse} {pxFAI : FlowAllocatorInstance}
variable {first : EfcpId} {one : Connection}

/-- The node between the two changes: an instance has the addresses, and the
lookup of its id may have marked a row of the map. -/
structure Addressed (node between : Node) (response : FlowResponse) (first : EfcpId) : Prop where
  changed : node.core.Changed between.core (changeOf first response.addressed)
  container : between.core.pxEfcpc = true
  resolve : ∀ key, between.core.resolve key = node.core.resolve key
  requests : between.core.xFlowRequestTable = node.core.xFlowRequestTable
  flows : between.core.xFlowsList = node.core.xFlowsList
  handles : between.handles = node.handles

/-- A failure after the first change is one that changes nothing exactly if the
addresses were there before. -/
theorem Addressed.sameFlows_iff (addressed : Addressed node between response first)
    (live : node.core.Live first one) {after : Core}
    (efcps : ∀ efcp, after.efcps.get? efcp = between.core.efcps.get? efcp)
    (requests : after.xFlowRequestTable = between.core.xFlowRequestTable)
    (flows : after.xFlowsList = between.core.xFlowsList) :
    node.core.SameFlows after ↔ response.addressed one = one := by
  have atFirst := addressed.changed.same_of_live live
  rw [changeOf, if_pos rfl] at atFirst
  constructor
  · intro same
    exact atFirst.mp ((efcps first).symm.trans (same.efcps first))
  · intro there
    refine ⟨fun efcp => ?_, requests.trans addressed.requests, flows.trans addressed.flows⟩
    rw [efcps]
    by_cases isFirst : efcp = first
    · rw [isFirst]
      exact atFirst.mpr there
    · apply addressed.changed.same_of_id
      rw [changeOf, if_neg isFirst]

/-- The tables with the flow of a port and the first instance allocated. -/
def Core.flowAllocated (core : Core) (xPortId : PortId) : Core :=
  { core with
    xFlowsList := changeFlow xPortId (fun flow => { flow with eState := .allocated })
      core.xFlowsList
    xFlowRequestTable := changeFirstInstance (fun fai => { fai with eFaiState := .allocated })
      core.xFlowRequestTable }

/-- What is left of the handler when the CEP id is in its instance. -/
theorem run_updateByAnswer_changed {last : Node}
    (changed : (xEfcpConnectionUpdate response.xSource response.xDestination).run between =
      .ok true last) :
    (updateByAnswer response pxFAI).run between =
      match prvNormalFindFlow response.xDestinationPortId last.core.xFlowsList with
      | none => .ok false last
      | some _ =>
          match last.handles.get? pxFAI.pxFlowAllocatorHandle with
          | none => .error .released
              { last with core := last.core.flowAllocated response.xDestinationPortId }
          | some handle => .ok true
              { last with
                core := last.core.flowAllocated response.xDestinationPortId
                handles := last.handles.set pxFAI.pxFlowAllocatorHandle
                  { handle with eFlowBound := true } } := by
  rw [updateByAnswer, EStateM.run_bind, xNormalConnectionUpdate, Command.run_bind_ok changed]
  simp only [Bool.not_true, Bool.false_eq_true, if_false, updateFlow, EStateM.run_bind,
    run_readCore]
  cases flow : prvNormalFindFlow response.xDestinationPortId last.core.xFlowsList with
  | none => rfl
  | some found =>
      cases held : last.handles.get? pxFAI.pxFlowAllocatorHandle with
      | none => simp [readHandle, held, Core.flowAllocated]
      | some handle => simp [readHandle, held, Core.flowAllocated]

theorem run_updateByAnswer_failed {last : Node}
    (failed : (xEfcpConnectionUpdate response.xSource response.xDestination).run between =
      .ok false last) :
    (updateByAnswer response pxFAI).run between = .ok false last := by
  rw [updateByAnswer, EStateM.run_bind, xNormalConnectionUpdate, Command.run_bind_ok failed]
  rfl

theorem prvNormalFindFlow_changeFlow {xPortId : PortId} {flow : NormalFlow}
    {flows : List NormalFlow} (found : prvNormalFindFlow xPortId flows = some flow) :
    prvNormalFindFlow xPortId
        (changeFlow xPortId (fun flow => { flow with eState := .allocated }) flows) =
      some { flow with eState := .allocated } := by
  induction flows with
  | nil => exact absurd found (Option.some_ne_none _).symm
  | cons head tail ih =>
      cases same : head.xPortId == xPortId with
      | true =>
          have first : head = flow := by
            simpa only [prvNormalFindFlow, List.find?_cons, same, Option.some.injEq] using found
          rw [← first]
          simp only [changeFlow, same, if_true, prvNormalFindFlow, List.find?_cons]
      | false =>
          simp only [prvNormalFindFlow, List.find?_cons, same] at found
          simp only [changeFlow, same, Bool.false_eq_true, if_false, prvNormalFindFlow,
            List.find?_cons]
          exact ih found

/-- A change that destroys an instance is no proper outcome. -/
theorem Destroys.not_outcome {result : EStateM.Result Fault Node Bool} {efcp : EfcpId}
    (destroys : Destroys between efcp result)
    (kept : node.core.efcps.get? efcp = none → between.core.efcps.get? efcp = none)
    (pxFlow : Option FlowResponse) : ¬ AnswerOutcome node.core pxFlow result := by
  intro outcome
  cases result with
  | error fault next => exact outcome
  | ok changed next =>
      cases changed with
      | true => exact destroys.failed next rfl
      | false =>
          obtain ⟨used, freed⟩ := destroys.freed next rfl
          have same := outcome.efcps efcp
          exact used (kept (same.symm.trans freed))

theorem Destroys.updateByAnswer {state : Node} {efcp : EfcpId}
    (destroys : Destroys state efcp
      ((xEfcpConnectionUpdate response.xSource response.xDestination).run between)) :
    Destroys state efcp ((updateByAnswer response pxFAI).run between) := by
  cases updated : (xEfcpConnectionUpdate response.xSource response.xDestination).run between with
  | error fault next =>
      rw [RinaSense.updateByAnswer, EStateM.run_bind, xNormalConnectionUpdate,
        Command.run_bind_error updated]
      exact destroys_error _ _ _ _
  | ok changed next =>
      rw [updated] at destroys
      cases changed with
      | true => exact absurd rfl (destroys.failed next)
      | false =>
          rw [run_updateByAnswer_failed updated]
          exact destroys

/-- The outcome when both ids lead to a live instance. -/
theorem Addressed.outcome_live_iff (addressed : Addressed node between response first)
    (live : node.core.Live first one) {second : EfcpId} {other : Connection}
    (liveOther : node.core.Live second other)
    (updated : (xEfcpConnectionUpdate response.xSource response.xDestination).run between =
      (changeConnection second response.bound).run (between.lookUp response.xSource)) :
    AnswerOutcome node.core (some response) ((updateByAnswer response pxFAI).run between) ↔
      match prvNormalFindFlow response.xDestinationPortId node.core.xFlowsList with
      | none => response.addressed one = one ∧ response.bound other = other
      | some _ => node.handles.get? pxFAI.pxFlowAllocatorHandle ≠ none ∧
          response.Reaches node.core first second one other := by
  obtain ⟨value, found, state, held⟩ :=
    (addressed.changed.live_iff liveOther (changeOf first response.addressed second other)).mpr rfl
  have inUse : (between.lookUp response.xSource).core.efcps.get? second = some value := found
  rw [run_changeConnection inUse state held] at updated
  have last := changed_setEfcp inUse held response.bound
  have changed : node.core.Changed _ (response.changes first second) :=
    addressed.changed.trans last
  rw [run_updateByAnswer_changed updated]
  have flows : (between.lookUp response.xSource).core.xFlowsList = node.core.xFlowsList :=
    addressed.flows
  have handles : (between.lookUp response.xSource).handles = node.handles := addressed.handles
  simp only [Core.setEfcp, flows, handles]
  cases flow : prvNormalFindFlow response.xDestinationPortId node.core.xFlowsList with
  | none =>
      have unchanged := unchanged_iff changed live liveOther
      constructor
      · intro same
        exact unchanged.mp same.efcps
      · intro there
        exact ⟨unchanged.mpr there, addressed.requests, rfl⟩
  | some flowFound =>
      cases handleFound : node.handles.get? pxFAI.pxFlowAllocatorHandle with
      | none =>
          constructor
          · intro outcome
            exact outcome.elim
          · rintro ⟨inUse, _⟩
            exact absurd rfl inUse
      | some handle =>
          have reaches := reaches_iff changed live liveOther
          constructor
          · rintro ⟨answer, same, installed, _⟩
            obtain rfl := Option.some.inj same
            exact ⟨Option.some_ne_none _, reaches.mp installed⟩
          · rintro ⟨_, reached⟩
            exact ⟨response, rfl, reaches.mpr reached, { flowFound with eState := .allocated },
              prvNormalFindFlow_changeFlow flow, rfl⟩

/-- The outcome of the handler once the addresses are in an instance. -/
theorem Addressed.outcome_iff (addressed : Addressed node between response first)
    (live : node.core.Live first one) :
    AnswerOutcome node.core (some response) ((updateByAnswer response pxFAI).run between) ↔
      response.UpdateSupported node pxFAI.pxFlowAllocatorHandle first one := by
  have update : (isCepIdOk response.xSource && isCepIdOk response.xDestination) = true →
      (xEfcpConnectionUpdate response.xSource response.xDestination).run between =
        (changeByCepId response.xSource response.bound).run between := by
    intro good
    obtain ⟨source, destination⟩ := (Bool.and_eq_true _ _).mp good
    exact run_xEfcpConnectionUpdate addressed.container source destination
  rw [FlowResponse.UpdateSupported]
  cases good : isCepIdOk response.xSource && isCepIdOk response.xDestination with
  | false =>
      have failed : (xEfcpConnectionUpdate response.xSource response.xDestination).run between =
          .ok false between := by
        simp only [xEfcpConnectionUpdate, EStateM.run_bind, run_readCore, addressed.container,
          Bool.not_true, Bool.false_eq_true, if_false]
        cases source : isCepIdOk response.xSource with
        | false => rfl
        | true =>
            have destination : isCepIdOk response.xDestination = false := by
              rwa [source, Bool.true_and] at good
            simp [destination]
      rw [run_updateByAnswer_failed failed]
      exact addressed.sameFlows_iff live (fun _ => rfl) rfl rfl
  | true =>
      have updated := update good
      simp only [if_true]
      cases found : node.core.resolve response.xSource with
      | none =>
          have absent : between.core.resolve response.xSource = none := by
            rw [addressed.resolve, found]
          rw [run_changeByCepId_absent absent] at updated
          rw [run_updateByAnswer_failed updated]
          exact addressed.sameFlows_iff live (fun _ => rfl) rfl rfl
      | some second =>
          have present : between.core.resolve response.xSource = some second := by
            rw [addressed.resolve, found]
          rw [run_changeByCepId_found present] at updated
          by_cases live? : ∃ other, node.core.Live second other
          · obtain ⟨other, liveOther⟩ := live?
            rw [addressed.outcome_live_iff live liveOther updated]
            constructor
            · intro supported
              exact ⟨other, liveOther, supported⟩
            · rintro ⟨again, liveAgain, supported⟩
              rw [Core.Live.unique liveOther liveAgain]
              exact supported
          · have dead : ∀ connection, ¬ (between.lookUp response.xSource).core.Live second
                connection := fun _ liveBetween =>
              live? (addressed.changed.live_before liveBetween)
            have destroys := @changeConnection_destroys _ response.bound _ dead
            rw [← updated] at destroys
            constructor
            · intro outcome
              exact absurd outcome
                (destroys.updateByAnswer.not_outcome (addressed.changed.absent ·) _)
            · rintro ⟨other, liveOther, _⟩
              exact absurd ⟨other, liveOther⟩ live?

theorem Destroys.changeByAnswer {state : Node} {efcp : EfcpId}
    (destroys : Destroys state efcp
      ((xNormalConnectionModify response.xDestination response.xRemoteAddress
        response.xSourceAddress).run between)) :
    Destroys state efcp ((changeByAnswer response pxFAI).run between) := by
  cases modified : (xNormalConnectionModify response.xDestination response.xRemoteAddress
      response.xSourceAddress).run between with
  | error fault next =>
      rw [RinaSense.changeByAnswer, Command.run_bind_error modified]
      exact destroys_error _ _ _ _
  | ok changed next =>
      rw [modified] at destroys
      cases changed with
      | true => exact absurd rfl (destroys.failed next)
      | false =>
          rw [RinaSense.changeByAnswer, Command.run_bind_ok modified]
          exact destroys

/-- The outcome of the handler once it has an instance. -/
theorem changeByAnswer_outcome_iff :
    AnswerOutcome node.core (some response) ((changeByAnswer response pxFAI).run node) ↔
      (node.core.pxEfcpc = true → ∀ first, node.core.resolve response.xDestination = some first →
        ∃ one, node.core.Live first one ∧
          response.UpdateSupported node pxFAI.pxFlowAllocatorHandle first one) := by
  cases container : node.core.pxEfcpc with
  | false =>
      have refused : (changeByAnswer response pxFAI).run node = .ok false node := by
        simp [changeByAnswer, xNormalConnectionModify, container]
      rw [refused]
      simp only [Bool.false_eq_true, false_implies, iff_true]
      exact ⟨fun _ => rfl, rfl, rfl⟩
  | true =>
      have modified := @run_xNormalConnectionModify node response container
      simp only [forall_const]
      cases found : node.core.resolve response.xDestination with
      | none =>
          rw [run_changeByCepId_absent found] at modified
          rw [changeByAnswer, Command.run_bind_ok modified]
          simp only [reduceCtorEq, false_implies, implies_true, iff_true]
          exact ⟨fun _ => rfl, rfl, rfl⟩
      | some first =>
          rw [run_changeByCepId_found found] at modified
          simp only [Option.some.injEq, forall_eq']
          by_cases live? : ∃ one, node.core.Live first one
          · obtain ⟨one, live⟩ := live?
            obtain ⟨value, inUse, state, held⟩ := live
            have foundThen : (node.lookUp response.xDestination).core.efcps.get? first =
              some value := inUse
            rw [run_changeConnection foundThen state held] at modified
            rw [changeByAnswer, Command.run_bind_ok modified]
            have addressed : Addressed node { node.lookUp response.xDestination with
                core := (node.lookUp response.xDestination).core.setEfcp first
                  { value with pxConnection := some (response.addressed one) } } response first :=
              { changed := changed_setEfcp foundThen held response.addressed
                container := container
                resolve := fun key => resolve_lookUp node.core response.xDestination key
                requests := rfl
                flows := rfl
                handles := rfl }
            have live : node.core.Live first one := ⟨value, inUse, state, held⟩
            simp only [Bool.not_true, Bool.false_eq_true, if_false]
            rw [addressed.outcome_iff live]
            constructor
            · intro supported
              exact ⟨one, live, supported⟩
            · intro ⟨again, liveAgain, supported⟩
              rw [Core.Live.unique live liveAgain]
              exact supported
          · have dead : ∀ connection, ¬ (node.lookUp response.xDestination).core.Live first
                connection := fun connection live => live? ⟨connection, live⟩
            have destroys := @changeConnection_destroys _ response.addressed _ dead
            rw [← modified] at destroys
            have kept : node.core.efcps.get? first = none →
              (node.lookUp response.xDestination).core.efcps.get? first = none := id
            have improper : ¬ AnswerOutcome node.core (some response)
                ((changeByAnswer response pxFAI).run node) :=
              destroys.changeByAnswer.not_outcome kept _
            constructor
            · intro outcome
              exact absurd outcome improper
            · intro ⟨one, live, _⟩
              exact absurd ⟨one, live⟩ live?

end Outcomes

/-- The answer is handled as it should be if and only if it is a supported one. -/
theorem flow_answer_handled_iff (node : Node) (pxFlow : Option FlowResponse) (result : Int) :
    AnswerOutcome node.core pxFlow ((xFlowAllocatorHandleCreateR pxFlow result).run node) ↔
      AnswerSupported node pxFlow result := by
  cases pxFlow with
  | none =>
      constructor
      · intro _ response absent
        exact absurd absent (Option.some_ne_none _).symm
      · intro _
        exact ⟨fun _ => rfl, rfl, rfl⟩
  | some response =>
      simp only [AnswerSupported, Option.some.injEq, forall_eq']
      by_cases success : result = 0
      · subst success
        rw [xFlowAllocatorHandleCreateR_eq]
        simp only [forall_const]
        by_cases valid : ∃ row ∈ node.core.xFlowRequestTable, row.xValid = true
        · have used : ¬ ∀ row ∈ node.core.xFlowRequestTable, row.xValid = false := by
            obtain ⟨row, member, isValid⟩ := valid
            intro none
            exact absurd isValid (by rw [none row member]; exact Bool.false_ne_true)
          have lookup : (pxFAFindInstance response.xDestinationPortId).run node = _ :=
            run_findInstanceFrom used
          simp only [valid, forall_const]
          cases head : node.core.xFlowRequestTable.head?.bind FlowRequestRow.pxFAI with
          | none =>
              rw [head] at lookup
              rw [Command.run_bind_error lookup]
              simp only [AnswerOutcome, reduceCtorEq, false_and, exists_false]
          | some pxFAI =>
              rw [head] at lookup
              simp only [Option.some.injEq, exists_eq_left']
              rw [Command.run_bind_ok lookup]
              by_cases port : pxFAI.xPortId = response.xDestinationPortId
              · simp only [port, if_true, forall_const]
                exact changeByAnswer_outcome_iff
              · simp only [port, if_false, false_implies, iff_true]
                exact ⟨fun _ => rfl, rfl, rfl⟩
        · have unused : ∀ row ∈ node.core.xFlowRequestTable, row.xValid = false := by
            intro row member
            exact Bool.eq_false_of_not_eq_true fun isValid => valid ⟨row, member, isValid⟩
          have lookup : (pxFAFindInstance response.xDestinationPortId).run node =
            .ok none node := run_findInstanceFrom_none unused
          rw [Command.run_bind_ok lookup]
          simp only [valid, false_implies, iff_true]
          exact ⟨fun _ => rfl, rfl, rfl⟩
      · have refused : (xFlowAllocatorHandleCreateR (some response) result).run node =
            .ok false node := by
          simp only [xFlowAllocatorHandleCreateR, ne_eq, success, not_false_eq_true, if_true]
          rfl
        rw [refused]
        simp only [success, false_implies, iff_true]
        exact ⟨fun _ => rfl, rfl, rfl⟩

/-! ## A failure that is not undone -/

/-- A node with one flow, of port 7, on the connection with CEP id 1. -/
def Node.oneFlow : Node :=
  { Node.blank with
    core := { Node.blank.core with
      pxEfcpc := true
      efcps := (Store.empty.allocate
        { pxConnection := some
            { xPortId := 7
              xSourceAddress := 1
              xDestinationAddress := 2
              xSourceCepId := 1
              xDestinationCepId := 0
              xQosId := 3 }
          pxUserIpcp := false
          pxDtp := none
          pxEfcpContainer := true
          xState := .allocated }).1
      xEfcpImapTable := [{ xCepIdKey := 1, xEfcpValue := some 0, ucValid := 1 }]
      xFlowRequestTable :=
        [{ pxFAI := some { xPortId := 7, eFaiState := .none, pxFlowAllocatorHandle := 0 }
           xValid := true }] } }

/-- An answer whose source CEP id is the remote one. -/
def answerOfPeer : FlowResponse where
  xDestinationPortId := 7
  xRemoteAddress := 1
  xSourceAddress := 3
  xSource := 5
  xDestination := 1

/-- The answer is refused after the addresses have been changed. -/
theorem refused_answer_changes_addresses :
    ¬ AnswerOutcome Node.oneFlow.core (some answerOfPeer)
      ((xFlowAllocatorHandleCreateR (some answerOfPeer) 0).run Node.oneFlow) := by
  intro outcome
  have lookup : (pxFAFindInstance answerOfPeer.xDestinationPortId).run Node.oneFlow =
      .ok (some { xPortId := 7, eFaiState := .none, pxFlowAllocatorHandle := 0 }) Node.oneFlow :=
    rfl
  rw [xFlowAllocatorHandleCreateR_eq, Command.run_bind_ok lookup] at outcome
  obtain ⟨one, live, there⟩ := changeByAnswer_outcome_iff.mp outcome rfl 0 rfl
  change answerOfPeer.addressed one = one at there
  have live' : Node.oneFlow.core.Live 0 _ := ⟨_, Store.get?_allocate_new _ _, rfl, rfl⟩
  rw [Core.Live.unique live live'] at there
  exact absurd there (by decide)

end RinaSense
