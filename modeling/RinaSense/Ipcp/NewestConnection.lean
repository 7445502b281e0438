import RinaSense.Ipcp.Connections

/-!
# The newest connection

Every connection is given the same CEP id and every creation writes the same row of the
map, so the map leads to the connection that was created last. All calls but a creation
leave this as it is.
-/

namespace RinaSense

/-- What an instance keeps from its creation on: its state, and the port and the source CEP
id of its connection. -/
def Efcp.identity (efcp : Efcp) : EfcpState × Option (PortId × CepId) :=
  (efcp.xState, efcp.pxConnection.map fun connection =>
    (connection.xPortId, connection.xSourceCepId))

/-- As far as `view` shows it every instance is still what it was, and the map leads where it
led. -/
structure Core.Evolves {β : Type} (view : Efcp → β) (before after : Core) : Prop where
  efcps : ∀ efcp, (after.efcps.get? efcp).map view = (before.efcps.get? efcp).map view
  resolves : ∀ xCepId, after.resolve xCepId = before.resolve xCepId
  table : ∀ {bound}, FirstHolds before.xEfcpImapTable bound →
    FirstHolds after.xEfcpImapTable bound

/-- The live connection with the largest identity. -/
structure Core.Newest (core : Core) (efcp : EfcpId) (connection : Connection) : Prop where
  live : core.Live efcp connection
  latest : ∀ {other : EfcpId} {another : Connection}, core.Live other another → other ≤ efcp

/-- All connections have the hard-coded CEP id, and that leads to the newest of them. -/
structure Core.Tracked (core : Core) (newest : Option EfcpId) : Prop where
  table : FirstHolds core.xEfcpImapTable newest
  source : ∀ {efcp : EfcpId} {connection : Connection}, core.Live efcp connection →
    connection.xSourceCepId = hardcodedCepId
  latest : ∀ {efcp : EfcpId} {connection : Connection}, core.Live efcp connection →
    ∃ last, newest = some last ∧ efcp ≤ last
  held : ∀ {efcp : EfcpId}, newest = some efcp → ∃ connection, core.Live efcp connection

/-! ## Instances that stay what they are -/

section Evolves

variable {β : Type} {view : Efcp → β}

theorem evolves_refl (core : Core) : core.Evolves view core :=
  ⟨fun _ => rfl, fun _ => rfl, id⟩

theorem Core.Evolves.trans {first second third : Core} (before : first.Evolves view second)
    (after : second.Evolves view third) : first.Evolves view third where
  efcps := fun efcp => (after.efcps efcp).trans (before.efcps efcp)
  resolves := fun xCepId => (after.resolves xCepId).trans (before.resolves xCepId)
  table := fun holds => after.table (before.table holds)

/-- A change of other tables. -/
theorem evolves_of_same {before after : Core} (efcps : after.efcps = before.efcps)
    (table : after.xEfcpImapTable = before.xEfcpImapTable) : before.Evolves view after where
  efcps := fun efcp => by rw [efcps]
  resolves := fun _ => by rw [Core.resolve, Core.resolve, table]
  table := fun holds => by rwa [table]

theorem evolves_lookUp (core : Core) (xCepId : CepId) :
    core.Evolves view (core.lookUp xCepId) where
  efcps := fun _ => rfl
  resolves := resolve_lookUp core xCepId
  table := fun holds => holds.find_table xCepId

/-- An instance may be replaced by one that looks the same. -/
theorem evolves_setEfcp {core : Core} {efcp : EfcpId} {old value : Efcp}
    (found : core.efcps.get? efcp = some old) (same : view value = view old) :
    core.Evolves view (core.setEfcp efcp value) where
  efcps := fun other => by
    by_cases here : other = efcp
    · rw [here, get?_setEfcp found, found, Option.map_some, Option.map_some, same]
    · rw [Core.setEfcp, Store.get?_set_of_ne _ here]
  resolves := fun _ => rfl
  table := id

/-- A coarser view shows no more. -/
theorem Core.Evolves.coarser {γ : Type} {before after : Core} {coarse : Efcp → γ}
    (evolves : before.Evolves view after) (image : β → γ)
    (shown : ∀ value, coarse value = image (view value)) : before.Evolves coarse after where
  efcps := fun efcp => by
    have seen (value : Option Efcp) : value.map coarse = (value.map view).map image := by
      rw [Option.map_map]
      exact congrArg (value.map ·) (funext shown)
    rw [seen, seen, evolves.efcps efcp]
  resolves := evolves.resolves
  table := evolves.table

end Evolves

section Identity

variable {before after : Core} {efcp : EfcpId} {connection : Connection}

/-- A live connection is one with an identity that says so. -/
theorem live_iff_identity {core : Core} {xPortId : PortId} {xCepId : CepId} :
    (core.efcps.get? efcp).map Efcp.identity = some (.allocated, some (xPortId, xCepId)) ↔
      ∃ connection, core.Live efcp connection ∧ connection.xPortId = xPortId ∧
        connection.xSourceCepId = xCepId := by
  constructor
  · intro known
    obtain ⟨value, found, same⟩ := Option.map_eq_some_iff.mp known
    obtain ⟨state, held⟩ := Prod.mk.inj same
    obtain ⟨connection, bound, ids⟩ := Option.map_eq_some_iff.mp held
    obtain ⟨port, source⟩ := Prod.mk.inj ids
    exact ⟨connection, ⟨value, found, state, bound⟩, port, source⟩
  · rintro ⟨connection, ⟨value, found, state, bound⟩, port, source⟩
    rw [found, Option.map_some, Efcp.identity, state, bound, Option.map_some, port, source]

theorem Core.Live.identity (live : before.Live efcp connection) :
    (before.efcps.get? efcp).map Efcp.identity =
      some (.allocated, some (connection.xPortId, connection.xSourceCepId)) :=
  live_iff_identity.mpr ⟨connection, live, rfl, rfl⟩

/-- A connection that is live afterwards was live before, for the same port. -/
theorem Core.Evolves.live_before (evolves : before.Evolves Efcp.identity after)
    (live : after.Live efcp connection) :
    ∃ old, before.Live efcp old ∧ old.xPortId = connection.xPortId ∧
      old.xSourceCepId = connection.xSourceCepId :=
  live_iff_identity.mp ((evolves.efcps efcp).symm.trans live.identity)

theorem Core.Evolves.live_after (evolves : before.Evolves Efcp.identity after)
    (live : before.Live efcp connection) :
    ∃ new, after.Live efcp new ∧ new.xPortId = connection.xPortId ∧
      new.xSourceCepId = connection.xSourceCepId :=
  live_iff_identity.mp ((evolves.efcps efcp).trans live.identity)

theorem Core.Tracked.evolves {newest : Option EfcpId} (tracked : before.Tracked newest)
    (evolves : before.Evolves Efcp.identity after) : after.Tracked newest where
  table := evolves.table tracked.table
  source := fun live => by
    obtain ⟨old, was, -, source⟩ := evolves.live_before live
    rw [← source]
    exact tracked.source was
  latest := fun live => by
    obtain ⟨old, was, -, -⟩ := evolves.live_before live
    exact tracked.latest was
  held := fun same => by
    obtain ⟨connection, live⟩ := tracked.held same
    obtain ⟨new, still, -, -⟩ := evolves.live_after live
    exact ⟨new, still⟩

end Identity

/-! ## Creations -/

section Creations

variable {core : Core} {newest : Option EfcpId}

/-- A container without connections. -/
theorem tracked_none (absent : ∀ efcp, core.efcps.get? efcp = none)
    (table : core.xEfcpImapTable = xEfcpImapCreate) : core.Tracked none where
  table := by
    rw [table]
    exact .rows xNullImapRow [xNullImapRow, xNullImapRow] (fun unset => absurd rfl unset)
      (by simp [xNullImapRow])
  source := by
    rintro efcp connection ⟨value, found, -⟩
    cases (absent efcp).symm.trans found
  latest := by
    rintro efcp connection ⟨value, found, -⟩
    cases (absent efcp).symm.trans found
  held := fun same => by cases same

/-- Giving a creation up leaves the connections there were. -/
theorem evolves_undone {β : Type} {view : Efcp → β} (core : Core) (value : Efcp) :
    core.Evolves view (core.undone value) where
  efcps := fun efcp => by rw [Core.undone, Core.freeEfcp, Core.addEfcp, Store.get?_free_allocate]
  resolves := fun _ => rfl
  table := id

/-- A creation that succeeds makes the newest connection. -/
theorem Core.Tracked.created (tracked : core.Tracked newest) {value : Efcp}
    {connection : Connection} (allocated : value.xState = .allocated)
    (held : value.pxConnection = some connection)
    (key : connection.xSourceCepId = hardcodedCepId) :
    (core.created value).Tracked (some core.efcps.next) := by
  have cases_of_live {efcp : EfcpId} {other : Connection}
      (live : (core.created value).Live efcp other) :
      efcp = core.efcps.next ∧ other = connection ∨ core.Live efcp other := by
    obtain ⟨found, present, state, holds⟩ := live
    by_cases new : efcp = core.efcps.next
    · rw [new] at present
      have same := Option.some.inj (present.symm.trans (core.efcps.get?_allocate_new value))
      rw [same, held] at holds
      exact .inl ⟨new, (Option.some.inj holds).symm⟩
    · exact .inr ⟨found, (core.efcps.get?_allocate_of_ne value new).symm.trans present, state,
        holds⟩
  constructor
  · exact tracked.table.add_table core.efcps.next
  · intro efcp other live
    rcases cases_of_live live with ⟨-, same⟩ | was
    · rw [same, key]
    · exact tracked.source was
  · intro efcp other live
    refine ⟨core.efcps.next, rfl, ?_⟩
    rcases cases_of_live live with ⟨new, -⟩ | ⟨found, present, -, -⟩
    · exact new.le
    · exact (Store.lt_next present).le
  · intro efcp same
    rw [← Option.some.inj same]
    exact ⟨connection, value, core.efcps.get?_allocate_new value, allocated, held⟩

/-- Only the hard-coded id leads to an instance, and that to the newest. -/
theorem Core.Tracked.resolved (tracked : core.Tracked newest) {xCepId : CepId} {efcp : EfcpId}
    (found : (pxEfcpImapFind xCepId core.xEfcpImapTable).2 = some efcp) :
    xCepId = hardcodedCepId ∧ ∃ connection, core.Newest efcp connection := by
  rw [tracked.table.find] at found
  split at found
  · next key =>
      obtain ⟨connection, live⟩ := tracked.held found
      refine ⟨key, connection, live, fun another => ?_⟩
      obtain ⟨last, same, order⟩ := tracked.latest another
      rw [found] at same
      exact order.trans_eq (Option.some.inj same).symm
  · cases found

end Creations

end RinaSense
