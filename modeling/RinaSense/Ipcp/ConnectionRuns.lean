import RinaSense.Ipcp.Connections
import RinaSense.Ipcp.DuRoundTrip
import RinaSense.Library.History

/-!
# Runs of connection creations and destructions

What the connections of one container are meant to be to each other: every live
one has a CEP id of its own, and the map leads from that id to its instance. The
module determines the runs of `xEfcpConnectionCreate` and
`xEfcpConnectionDestroy` that keep to this.
-/

namespace RinaSense

open History

structure Core.ConnectionsOk (core : Core) : Prop where
  distinct : ∀ {first second : EfcpId} {one other : Connection}, core.Live first one →
    core.Live second other → first ≠ second → one.xSourceCepId ≠ other.xSourceCepId
  resolves : ∀ {efcp : EfcpId} {connection : Connection}, core.Live efcp connection →
    core.resolve connection.xSourceCepId = some efcp

/-- The connections there were are still there, and found as before. -/
structure Core.KeepsConnections (before after : Core) : Prop where
  instances : ∀ {efcp : EfcpId} {value : Efcp}, before.efcps.get? efcp = some value →
    after.efcps.get? efcp = some value
  lookups : ∀ {efcp : EfcpId} {connection : Connection}, before.Live efcp connection →
    after.resolve connection.xSourceCepId = before.resolve connection.xSourceCepId

/-- A new connection, with an id no live one has, its own instance with a DTP
instance, and its row of the map. -/
structure Core.Creates (before after : Core) (xCepId : CepId) : Prop where
  fresh : ∀ {efcp : EfcpId} {connection : Connection}, before.Live efcp connection →
    connection.xSourceCepId ≠ xCepId
  bound : ∃ efcp value connection, before.efcps.get? efcp = none ∧
    after.efcps.get? efcp = some value ∧ value.xState = .allocated ∧
    value.pxConnection = some connection ∧ connection.xSourceCepId = xCepId ∧
    value.pxDtp.isSome = true ∧ after.resolve xCepId = some efcp

/-- No connection is live that was not live before. -/
def Core.AddsNone (before after : Core) : Prop :=
  ∀ {efcp : EfcpId} {connection : Connection}, after.Live efcp connection →
    before.Live efcp connection

inductive ConnectionOp where
  | create (request : ConnectionRequest) (outcomes : ConnectionOutcomes)
  | destroy (xId : CepId)
  deriving Repr, DecidableEq

namespace ConnectionOp

/-- The node after an operation. An aborted operation leaves the node as it is. -/
def after (node : Node) : ConnectionOp → Node
  | create request outcomes =>
      Command.final ((xEfcpConnectionCreate request outcomes).run node)
  | destroy xId => Command.final ((xEfcpConnectionDestroy xId).run node)

/-- The node after a run of operations on a container that has no connection. -/
def run (start : Node) (operations : List ConnectionOp) : Node :=
  operations.foldl after
    { start with
      core := { start.core with efcps := .empty, xEfcpImapTable := xEfcpImapCreate } }

/-- A creation ends with a connection of its own or with the wrong id and no new
connection, or is aborted before it changes anything. A destruction returns. In
all cases the connections are as they should be. -/
def Behaves (node : Node) : ConnectionOp → Prop
  | create request outcomes =>
      match (xEfcpConnectionCreate request outcomes).run node with
      | .ok xCepId next =>
          next.core.ConnectionsOk ∧ node.core.KeepsConnections next.core ∧
            if xCepId = cepIdWrong then node.core.AddsNone next.core
            else node.core.Creates next.core xCepId
      | .error fault next =>
          fault = .assertion ∧ next.core.ConnectionsOk ∧
            node.core.KeepsConnections next.core ∧ node.core.AddsNone next.core
  | destroy xId =>
      match (xEfcpConnectionDestroy xId).run node with
      | .ok _ next => next.core.ConnectionsOk
      | .error _ _ => False

/-- The operations that behave: creations that succeed only while no connection
is live, creations that are given up only when no leftover pointer is followed,
and destructions of no live connection. -/
def Supported (node : Node) : ConnectionOp → Prop
  | create request outcomes =>
      ReachesInstance request outcomes node →
        if isPortIdOk request.xPortId then
          if node.core.xEfcpcRmt && outcomes.dtpMemory then
            outcomes.svMemory = true ∧ ∀ efcp connection, ¬ node.core.Live efcp connection
          else outcomes.leftUserIpcp = false
        else (outcomes.leftDtp || outcomes.leftConnection || outcomes.leftUserIpcp) = false
  | destroy xId =>
      node.core.pxEfcpc = true → isCepIdOk xId = true →
        ∀ efcp connection, node.core.Live efcp connection → connection.xSourceCepId ≠ xId

/-! ## At most one connection -/

/-- What supported runs keep: only the first row may hold an instance, the one
of the only live connection. -/
structure AtMostOne (core : Core) (bound : Option EfcpId) : Prop where
  table : FirstHolds core.xEfcpImapTable bound
  live : ∀ {efcp : EfcpId} {connection : Connection}, core.Live efcp connection →
    bound = some efcp ∧ connection.xSourceCepId = hardcodedCepId
  held : ∀ {efcp : EfcpId}, bound = some efcp → ∃ connection, core.Live efcp connection

/-! ## Steps -/

theorem AtMostOne.connectionsOk {core : Core} {bound : Option EfcpId}
    (atMostOne : AtMostOne core bound) : core.ConnectionsOk where
  distinct := fun first second different =>
    absurd (Option.some.inj ((atMostOne.live first).1.symm.trans (atMostOne.live second).1))
      different
  resolves := fun live => by
    rw [Core.resolve, atMostOne.table.find, if_pos (atMostOne.live live).2]
    exact (atMostOne.live live).1

/-- A change that leaves the instances alone. -/
theorem AtMostOne.of_same {before after : Core} {bound : Option EfcpId}
    (atMostOne : AtMostOne before bound)
    (same : ∀ efcp, after.efcps.get? efcp = before.efcps.get? efcp)
    (table : FirstHolds after.xEfcpImapTable bound) : AtMostOne after bound where
  table := table
  live := fun live => atMostOne.live ((live_congr same _ _).mp live)
  held := fun held => by
    obtain ⟨connection, live⟩ := atMostOne.held held
    exact ⟨connection, (live_congr same _ _).mpr live⟩

theorem keepsConnections_of_same {before after : Core}
    (same : ∀ efcp, after.efcps.get? efcp = before.efcps.get? efcp)
    (table : after.xEfcpImapTable = before.xEfcpImapTable) :
    before.KeepsConnections after ∧ before.AddsNone after :=
  ⟨⟨fun found => (same _).trans found, fun _ => by rw [Core.resolve, Core.resolve, table]⟩,
    fun live => (live_congr same _ _).mp live⟩

/-- What giving a creation up leaves. -/
theorem AtMostOne.undone {core : Core} {bound : Option EfcpId}
    (atMostOne : AtMostOne core bound) (value : Efcp) :
    AtMostOne (core.undone value) bound ∧ core.KeepsConnections (core.undone value) ∧
      core.AddsNone (core.undone value) := by
  have same (efcp : EfcpId) : (core.undone value).efcps.get? efcp = core.efcps.get? efcp :=
    core.efcps.get?_free_allocate value efcp
  exact ⟨atMostOne.of_same same atMostOne.table, keepsConnections_of_same same rfl⟩

/-- The instance a creation binds is the only live one, if there was none. -/
theorem AtMostOne.created {core : Core} {bound : Option EfcpId}
    (atMostOne : AtMostOne core bound) (none : ∀ efcp connection, ¬ core.Live efcp connection)
    {value : Efcp} {connection : Connection} (allocated : value.xState = .allocated)
    (held : value.pxConnection = some connection)
    (key : connection.xSourceCepId = hardcodedCepId) :
    AtMostOne (core.created value) (some core.efcps.next) where
  table := atMostOne.table.add_table core.efcps.next
  live := by
    rintro efcp other ⟨found, present, state, holds⟩
    by_cases newest : efcp = core.efcps.next
    · rw [newest] at present
      have equal := Option.some.inj (present.symm.trans (core.efcps.get?_allocate_new value))
      rw [equal, held] at holds
      exact ⟨by rw [newest], by rw [← Option.some.inj holds, key]⟩
    · exact absurd ⟨found, (core.efcps.get?_allocate_of_ne value newest).symm.trans present,
        state, holds⟩ (none efcp other)
  held := fun equal => by
    rw [← Option.some.inj equal]
    exact ⟨connection, value, core.efcps.get?_allocate_new value, allocated, held⟩

theorem AtMostOne.creates {core : Core} {bound : Option EfcpId}
    (atMostOne : AtMostOne core bound) (none : ∀ efcp connection, ¬ core.Live efcp connection)
    {value : Efcp} {connection : Connection} (allocated : value.xState = .allocated)
    (held : value.pxConnection = some connection)
    (key : connection.xSourceCepId = hardcodedCepId) (dtp : value.pxDtp.isSome = true) :
    core.KeepsConnections (core.created value) ∧
      core.Creates (core.created value) hardcodedCepId := by
  have one := atMostOne.created none allocated held key
  refine ⟨⟨fun found => ?_, fun live => absurd live (none _ _)⟩,
    ⟨fun live => absurd live (none _ _), ?_⟩⟩
  · exact (core.efcps.get?_allocate_of_lt value (Store.lt_next found)).trans found
  · refine ⟨core.efcps.next, value, connection, core.efcps.get?_next,
      core.efcps.get?_allocate_new value, allocated, held, key, dtp, ?_⟩
    rw [Core.resolve, one.table.find, if_pos rfl]

/-- A creation behaves exactly when it is supported, and then keeps the
invariant. -/
theorem AtMostOne.create_step {node : Node} {bound : Option EfcpId}
    (atMostOne : AtMostOne node.core bound) (request : ConnectionRequest)
    (outcomes : ConnectionOutcomes) :
    (Behaves node (create request outcomes) ↔ Supported node (create request outcomes)) ∧
      (Supported node (create request outcomes) →
        ∃ next, AtMostOne (after node (create request outcomes)).core next) := by
  have unaffected := keepsConnections_of_same (fun efcp => Eq.refl (node.core.efcps.get? efcp)) rfl
  by_cases reached : ReachesInstance request outcomes node
  · simp only [Behaves, Supported, after, reached, forall_const]
    cases portId : isPortIdOk request.xPortId with
    | false =>
        rw [run_xEfcpConnectionCreate_portId reached portId]
        cases left : outcomes.leftDtp || outcomes.leftConnection || outcomes.leftUserIpcp with
        | true => simp
        | false =>
            have ⟨kept, undone⟩ := atMostOne.undone outcomes.contained
            simp only [Bool.false_eq_true, if_false, Command.final_ok, forall_const, iff_true,
              if_true]
            exact ⟨⟨kept.connectionsOk, undone⟩, bound, kept⟩
    | true =>
        cases dtp : node.core.xEfcpcRmt && outcomes.dtpMemory with
        | false =>
            rw [run_xEfcpConnectionCreate_dtp reached portId dtp]
            cases left : outcomes.leftUserIpcp with
            | true => simp
            | false =>
                have ⟨kept, undone⟩ := atMostOne.undone (outcomes.efcp request.connection none)
                simp only [Bool.false_eq_true, if_false, Command.final_ok, forall_const,
                  iff_true, if_true]
                exact ⟨⟨kept.connectionsOk, undone⟩, bound, kept⟩
        | true =>
            cases svMemory : outcomes.svMemory with
            | false =>
                rw [run_xEfcpConnectionCreate_sv reached portId dtp svMemory]
                simp
            | true =>
                rw [run_xEfcpConnectionCreate_created reached portId dtp svMemory
                  atMostOne.table.ne_nil]
                have idOk : hardcodedCepId ≠ cepIdWrong := by decide
                simp only [if_true, if_neg idOk, Command.final_ok, true_and]
                refine ⟨⟨?_, ?_⟩, ?_⟩
                · rintro ⟨-, -, creates⟩ efcp connection live
                  exact creates.fresh live (atMostOne.live live).2
                · intro none
                  exact ⟨(atMostOne.created none rfl rfl rfl).connectionsOk,
                    atMostOne.creates none rfl rfl rfl rfl⟩
                · intro none
                  exact ⟨_, atMostOne.created none rfl rfl rfl⟩
  · simp only [Behaves, Supported, after, reached, false_implies, iff_true, forall_const]
    obtain refused | aborted := run_xEfcpConnectionCreate_unreached reached
    · rw [refused]
      simp only [if_true, Command.final_ok]
      exact ⟨⟨atMostOne.connectionsOk, unaffected⟩, bound, atMostOne⟩
    · rw [aborted]
      simp only [true_and, Command.final_error]
      exact ⟨⟨atMostOne.connectionsOk, unaffected⟩, bound, atMostOne⟩

theorem AtMostOne.lookUp {core : Core} {bound : Option EfcpId} (atMostOne : AtMostOne core bound)
    (xCepId : CepId) : AtMostOne (core.lookUp xCepId) bound where
  table := atMostOne.table.find_table xCepId
  live := atMostOne.live
  held := atMostOne.held

/-- Destroying a connection leaves its instance live, but its id no longer leads
there. -/
theorem AtMostOne.not_connectionsOk_unmapped {core : Core} {efcp : EfcpId}
    (atMostOne : AtMostOne core (some efcp)) :
    ¬ (core.unmapped hardcodedCepId).ConnectionsOk := by
  intro ok
  obtain ⟨connection, live⟩ := atMostOne.held rfl
  have source := (atMostOne.live live).2
  have still : (core.unmapped hardcodedCepId).Live efcp connection := live
  have resolved := ok.resolves still
  have removed := (atMostOne.table.find_table hardcodedCepId).remove_table
  rw [source, Core.resolve, Core.unmapped, removed.find, ite_self] at resolved
  cases resolved

/-- So does a destruction. -/
theorem AtMostOne.destroy_step {node : Node} {bound : Option EfcpId}
    (atMostOne : AtMostOne node.core bound) (xId : CepId) :
    (Behaves node (destroy xId) ↔ Supported node (destroy xId)) ∧
      (Supported node (destroy xId) →
        ∃ next, AtMostOne (after node (destroy xId)).core next) := by
  cases accepted : node.core.pxEfcpc && isCepIdOk xId with
  | false =>
      have supported : Supported node (destroy xId) := fun container idOk => by
        rw [container, idOk] at accepted
        cases accepted
      simp only [Behaves, after, run_xEfcpConnectionDestroy_refused accepted, supported,
        iff_true, forall_const, Command.final_ok]
      exact ⟨atMostOne.connectionsOk, bound, atMostOne⟩
  | true =>
      obtain ⟨container, idOk⟩ := Bool.and_eq_true_iff.mp accepted
      simp only [Behaves, Supported, after, run_xEfcpConnectionDestroy accepted, container, idOk,
        forall_const]
      cases found : (pxEfcpImapFind xId node.core.xEfcpImapTable).2 with
      | none =>
          have kept := atMostOne.lookUp xId
          have supported (efcp : EfcpId) (connection : Connection)
              (live : node.core.Live efcp connection) : connection.xSourceCepId ≠ xId := by
            rintro rfl
            rw [atMostOne.table.find, if_pos (atMostOne.live live).2, (atMostOne.live live).1]
              at found
            cases found
          exact ⟨⟨fun _ => supported, fun _ => kept.connectionsOk⟩, fun _ => ⟨bound, kept⟩⟩
      | some efcp =>
          rw [atMostOne.table.find] at found
          obtain ⟨key, held⟩ : xId = hardcodedCepId ∧ bound = some efcp := by
            split at found
            · next key => exact ⟨key, found⟩
            · cases found
          subst key held
          obtain ⟨connection, live⟩ := atMostOne.held rfl
          have unsupported : ¬ ∀ efcp connection, node.core.Live efcp connection →
              connection.xSourceCepId ≠ hardcodedCepId :=
            fun supported => supported efcp connection live (atMostOne.live live).2
          exact ⟨⟨fun ok => absurd ok atMostOne.not_connectionsOk_unmapped,
            fun supported => absurd supported unsupported⟩,
            fun supported => absurd supported unsupported⟩

theorem AtMostOne.step {node : Node} {bound : Option EfcpId}
    (atMostOne : AtMostOne node.core bound) (operation : ConnectionOp) :
    (Behaves node operation ↔ Supported node operation) ∧
      (Supported node operation → ∃ next, AtMostOne (after node operation).core next) := by
  cases operation with
  | create request outcomes => exact atMostOne.create_step request outcomes
  | destroy xId => exact atMostOne.destroy_step xId

theorem run_concat (start : Node) (operations : List ConnectionOp) (last : ConnectionOp) :
    run start (operations ++ [last]) = after (run start operations) last :=
  List.foldl_concat _ _ _ _

/-- A container without connections. -/
theorem atMostOne_start (start : Node) : AtMostOne (run start []).core none where
  table := .rows xNullImapRow [xNullImapRow, xNullImapRow] (fun unset => absurd rfl unset)
    (by simp [xNullImapRow])
  live := by
    rintro efcp connection ⟨value, found, -⟩
    cases (Store.get?_empty efcp).symm.trans found
  held := fun held => by cases held

/-- All operations of a run behave exactly when none of the creations succeeds
while a connection is live, none that is given up follows a leftover pointer, and
none of the destructions is of a live connection. -/
theorem run_behaves_iff (start : Node) (operations : List ConnectionOp) :
    EachAfter (fun before operation => operation.Behaves (run start before)) operations ↔
      EachAfter (fun before operation => operation.Supported (run start before)) operations := by
  apply eachAfter_iff_of_invariant
    (fun before => ∃ bound, AtMostOne (run start before).core bound) ⟨none, atMostOne_start start⟩
  · rintro before operation ⟨bound, atMostOne⟩ supported
    rw [run_concat]
    exact (atMostOne.step operation).2 supported
  · rintro before operation ⟨bound, atMostOne⟩
    exact (atMostOne.step operation).1

/-- A request for a connection of a port to node 3. -/
def portRequest (xPortId : PortId) : ConnectionRequest :=
  ⟨localAddress, 3, xPortId, 1, cepIdWrong, cepIdWrong, true⟩

/-- All memory is there and cleared. -/
def cleanOutcomes : ConnectionOutcomes := ⟨true, true, true, true, false, false, false, false⟩

/-- A node with a container that knows its RMT. -/
def containerNode : Node :=
  { Node.blank with core := { Node.blank.core with pxEfcpc := true, xEfcpcRmt := true } }

/-- The second of two creations gets the id of the first. -/
theorem creations_collide :
    ¬ EachAfter (fun before operation => operation.Behaves (run containerNode before))
      [create (portRequest 1) cleanOutcomes, create (portRequest 2) cleanOutcomes] := by
  intro behave
  have second := behave [create (portRequest 1) cleanOutcomes]
    (create (portRequest 2) cleanOutcomes) [] rfl
  have start := atMostOne_start containerNode
  have none (efcp : EfcpId) (connection : Connection) :
      ¬ (run containerNode []).core.Live efcp connection := by
    intro live
    cases (start.live live).1
  have first : AtMostOne (run containerNode [create (portRequest 1) cleanOutcomes]).core
      (some (run containerNode []).core.efcps.next) := by
    rw [← List.nil_append [create _ _], run_concat, after,
      run_xEfcpConnectionCreate_created ⟨rfl, rfl, rfl, rfl⟩ rfl rfl rfl start.table.ne_nil]
    exact start.created none rfl rfl rfl
  obtain ⟨connection, live⟩ := first.held rfl
  obtain ⟨-, alone⟩ := (first.create_step (portRequest 2) cleanOutcomes).1.mp second
    ⟨rfl, rfl, rfl, rfl⟩
  exact alone _ connection live

end ConnectionOp

end RinaSense
