import RinaSense.Ipcp.FlowAnswer

/-!
# Changes of a connection

What destroying a connection and changing its addresses or its destination CEP id are
meant to be: all or nothing. The module determines the calls of
`xEfcpConnectionDestroy`, `xEfcpConnectionModify` and `xEfcpConnectionUpdate` that are.
-/

namespace RinaSense

inductive ConnectionChange where
  | destroy (xId : CepId)
  | modify (xCepId : CepId) (xSrc xDst : Address)
  | update (source destination : CepId)
  deriving Repr, DecidableEq

/-! ## Purpose -/

/-- The container leads from the id to an instance. -/
def Core.Bound (core : Core) (xCepId : CepId) : Prop :=
  core.pxEfcpc = true ∧ core.resolve xCepId ≠ none

/-- The id is not bound any more and its instance is gone, all others are as before. -/
structure Core.Unbinds (before after : Core) (xId : CepId) : Prop where
  bound : before.Bound xId
  unbound : after.resolve xId = none
  others : ∀ other, other ≠ xId → after.resolve other = before.resolve other
  destroyed : ∀ efcp, before.resolve xId = some efcp → after.efcps.get? efcp = none
  kept : ∀ efcp, before.resolve xId ≠ some efcp → after.efcps.get? efcp = before.efcps.get? efcp

/-- The live connection of the id is changed and nothing else. -/
structure Core.ChangesOnly (before after : Core) (xCepId : CepId)
    (change : Connection → Connection) : Prop where
  live : ∃ efcp connection, before.resolve xCepId = some efcp ∧ before.Live efcp connection ∧
    after.Live efcp (change connection)
  lookups : ∀ other, after.resolve other = before.resolve other
  kept : ∀ efcp, before.resolve xCepId ≠ some efcp →
    after.efcps.get? efcp = before.efcps.get? efcp

/-- A lookup of the id finds its row, if there is one, already marked valid. -/
def Core.Marked (core : Core) (xCepId : CepId) : Prop :=
  ∀ row, core.xEfcpImapTable.find? (·.xCepIdKey = xCepId) = some row → row.ucValid = 1

/-- The id leads to a live instance, or nowhere without leaving a mark. -/
def Core.Changeable (core : Core) (xCepId : CepId) : Prop :=
  match core.resolve xCepId with
  | none => core.Marked xCepId
  | some efcp => ∃ connection, core.Live efcp connection

namespace ConnectionChange

def perform : ConnectionChange → Rina Bool
  | destroy xId => xEfcpConnectionDestroy xId
  | modify xCepId xSrc xDst => xEfcpConnectionModify xCepId xSrc xDst
  | update source destination => xEfcpConnectionUpdate source destination

/-- What is done where success is reported. -/
def Done (before after : Core) : ConnectionChange → Prop
  | destroy xId => before.Unbinds after xId
  | modify xCepId xSrc xDst => before.ChangesOnly after xCepId fun connection =>
      { connection with xSourceAddress := xSrc, xDestinationAddress := xDst }
  | update source destination => before.ChangesOnly after source fun connection =>
      { connection with xDestinationCepId := destination }

/-- A destruction may only fail for an id that is not bound. -/
def MayFail (before : Core) : ConnectionChange → Prop
  | destroy xId => ¬ before.Bound xId
  | modify _ _ _ | update _ _ => True

/-- All or nothing, as the result tells. -/
def Properly (node : Node) (operation : ConnectionChange) : Prop :=
  match operation.perform.run node with
  | .ok true next => operation.Done node.core next.core
  | .ok false next => operation.MayFail node.core ∧ next = node
  | .error _ _ => False

/-- A destruction must not find its id. The other two are refused, or the id leads to a
live instance, or nowhere without leaving a mark. -/
def Supported (node : Node) : ConnectionChange → Prop
  | destroy xId => node.core.pxEfcpc = true →
      node.core.resolve xId = none ∧ (isCepIdOk xId = true → node.core.Marked xId)
  | modify xCepId _ _ => node.core.pxEfcpc = true → node.core.Changeable xCepId
  | update source destination => node.core.pxEfcpc = true → isCepIdOk source = true →
      isCepIdOk destination = true → node.core.Changeable source

end ConnectionChange

/-! ## Lookups -/

theorem find_table_eq_iff {α : Type} (key : CepId) (table : EfcpImapTable α) :
    (pxEfcpImapFind key table).1 = table ↔
      ∀ row, table.find? (·.xCepIdKey = key) = some row → row.ucValid = 1 := by
  induction table with
  | nil => simp
  | cons first rows ih =>
      rw [pxEfcpImapFind_cons, List.find?_cons]
      by_cases same : first.xCepIdKey = key
      · obtain ⟨xCepIdKey, xEfcpValue, ucValid⟩ := first
        have same : xCepIdKey = key := same
        simp only [same, if_true, decide_true, List.cons.injEq, EfcpImapRow.mk.injEq, true_and,
          and_true, Option.some.injEq, forall_eq']
        exact eq_comm
      · simp only [same, if_false, decide_false, List.cons.injEq, true_and, ih]

theorem lookUp_eq_iff (node : Node) (xCepId : CepId) :
    node.lookUp xCepId = node ↔ node.core.Marked xCepId := by
  rw [Core.Marked, ← find_table_eq_iff]
  constructor
  · intro same
    exact congrArg (fun node => node.core.xEfcpImapTable) same
  · intro same
    simp only [Node.lookUp, Core.lookUp, same]

/-! ## Destruction -/

theorem destroy_properly_iff (node : Node) (xId : CepId) :
    (ConnectionChange.destroy xId).Properly node ↔
      (ConnectionChange.destroy xId).Supported node := by
  simp only [ConnectionChange.Properly, ConnectionChange.perform, ConnectionChange.Supported,
    ConnectionChange.MayFail, Core.Bound]
  cases accepted : node.core.pxEfcpc && isCepIdOk xId with
  | false =>
      rw [run_xEfcpConnectionDestroy_refused accepted]
      cases container : node.core.pxEfcpc with
      | false => simp
      | true =>
          rw [container, Bool.true_and] at accepted
          simp [accepted]
  | true =>
      rw [run_xEfcpConnectionDestroy accepted]
      obtain ⟨container, idOk⟩ := Bool.and_eq_true_iff.mp accepted
      cases found : (pxEfcpImapFind xId node.core.xEfcpImapTable).2 with
      | none =>
          have absent : node.core.resolve xId = none := found
          have marked := lookUp_eq_iff node xId
          simp only [Node.lookUp] at marked
          simp [container, idOk, absent, marked]
      | some efcp =>
          have present : node.core.resolve xId = some efcp := found
          simp [container, present]

/-! ## Changes -/

section Change

variable {node : Node} {key : CepId} {change : Connection → Connection} {efcp : EfcpId}

theorem changesOnly_setEfcp {value : Efcp} {connection : Connection}
    (resolved : node.core.resolve key = some efcp)
    (found : node.core.efcps.get? efcp = some value) (allocated : value.xState = .allocated)
    (held : value.pxConnection = some connection) :
    node.core.ChangesOnly ((node.core.lookUp key).setEfcp efcp
      { value with pxConnection := some (change connection) }) key change where
  live := by
    have foundThen : (node.core.lookUp key).efcps.get? efcp = some value := found
    exact ⟨efcp, connection, resolved, ⟨value, found, allocated, held⟩,
      _, get?_setEfcp foundThen _, allocated, rfl⟩
  lookups := fun other => resolve_lookUp node.core key other
  kept := by
    intro other apart
    have different : other ≠ efcp := by
      intro same
      exact apart (same ▸ resolved)
    exact Store.get?_set_of_ne _ different _

theorem changeByCepId_properly_iff :
    (match (changeByCepId key change).run node with
      | .ok true next => node.core.ChangesOnly next.core key change
      | .ok false next => next = node
      | .error _ _ => False) ↔ node.core.Changeable key := by
  rw [Core.Changeable]
  cases resolved : node.core.resolve key with
  | none =>
      rw [run_changeByCepId_absent resolved]
      exact lookUp_eq_iff node key
  | some efcp =>
      rw [run_changeByCepId_found resolved]
      by_cases live : ∃ connection, node.core.Live efcp connection
      · obtain ⟨connection, value, found, allocated, held⟩ := live
        have foundThen : (node.lookUp key).core.efcps.get? efcp = some value := found
        rw [run_changeConnection foundThen allocated held]
        constructor
        · intro _
          exact ⟨connection, value, found, allocated, held⟩
        · intro _
          exact changesOnly_setEfcp resolved found allocated held
      · have dead : ∀ connection, ¬ (node.lookUp key).core.Live efcp connection :=
          fun connection isLive => live ⟨connection, isLive⟩
        have destroys := @changeConnection_destroys _ change _ dead
        cases result : (changeConnection efcp change).run (node.lookUp key) with
        | error fault next => simp only [live]
        | ok changed next =>
            rw [result] at destroys
            cases changed with
            | true => exact absurd rfl (destroys.failed next)
            | false =>
                obtain ⟨used, freed⟩ := destroys.freed next rfl
                simp only [live, iff_false]
                intro same
                rw [same] at freed
                exact used freed

end Change

/-- A call is all or nothing exactly if it is supported. -/
theorem connection_change_iff (node : Node) (operation : ConnectionChange) :
    operation.Properly node ↔ operation.Supported node := by
  cases operation with
  | destroy xId => exact destroy_properly_iff node xId
  | modify xCepId xSrc xDst =>
      simp only [ConnectionChange.Properly, ConnectionChange.perform, ConnectionChange.Done,
        ConnectionChange.MayFail, ConnectionChange.Supported, true_and]
      cases container : node.core.pxEfcpc with
      | false => simp [xEfcpConnectionModify, container]
      | true =>
          rw [run_xEfcpConnectionModify xSrc xDst container]
          simp only [forall_const]
          exact changeByCepId_properly_iff
  | update source destination =>
      simp only [ConnectionChange.Properly, ConnectionChange.perform, ConnectionChange.Done,
        ConnectionChange.MayFail, ConnectionChange.Supported, true_and]
      cases container : node.core.pxEfcpc with
      | false => simp [xEfcpConnectionUpdate, container]
      | true =>
          cases sourceOk : isCepIdOk source with
          | false => simp [xEfcpConnectionUpdate, sourceOk]
          | true =>
              cases destinationOk : isCepIdOk destination with
              | false => simp [xEfcpConnectionUpdate, sourceOk, destinationOk]
              | true =>
                  rw [run_xEfcpConnectionUpdate container sourceOk destinationOk]
                  simp only [forall_const]
                  exact changeByCepId_properly_iff

/-- The row of the connection is cleared, its instance stays and a failure is reported. -/
theorem destroy_fails_half_done :
    ¬ (ConnectionChange.destroy 1).Properly Node.oneFlow := by
  intro properly
  have supported := (destroy_properly_iff Node.oneFlow 1).mp properly rfl
  cases supported.1

end RinaSense
