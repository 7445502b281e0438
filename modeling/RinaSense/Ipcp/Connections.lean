import RinaSense.Ipcp.EfcpConnection

/-!
# Live connections

Which connections the tables of a node hold, and what the instance map leads to
while all ids given out are the hard-coded one.
-/

namespace RinaSense

/-- A live connection is one an allocated instance holds. -/
def Core.Live (core : Core) (efcp : EfcpId) (connection : Connection) : Prop :=
  ∃ value, core.efcps.get? efcp = some value ∧ value.xState = .allocated ∧
    value.pxConnection = some connection

/-- The instance a CEP id leads to. -/
def Core.resolve (core : Core) (xCepId : CepId) : Option EfcpId :=
  (pxEfcpImapFind xCepId core.xEfcpImapTable).2

theorem live_congr {before after : Core}
    (same : ∀ efcp, after.efcps.get? efcp = before.efcps.get? efcp) (efcp : EfcpId)
    (connection : Connection) : after.Live efcp connection ↔ before.Live efcp connection := by
  simp only [Core.Live, same]

theorem Core.Live.unique {core : Core} {efcp : EfcpId} {one other : Connection}
    (first : core.Live efcp one) (second : core.Live efcp other) : one = other := by
  obtain ⟨value, found, _, held⟩ := first
  obtain ⟨again, foundAgain, _, heldToo⟩ := second
  have same : value = again := Option.some.inj (found.symm.trans foundAgain)
  rw [← same, held] at heldToo
  exact Option.some.inj heldToo

/-! ## The map -/

/-- A lookup leaves all ids where they lead. -/
theorem resolve_lookUp (core : Core) (first second : CepId) :
    (core.lookUp first).resolve second = core.resolve second := by
  simp only [Core.lookUp, Core.resolve]
  induction core.xEfcpImapTable with
  | nil => rfl
  | cons row rows ih =>
      rw [pxEfcpImapFind_cons second row rows, pxEfcpImapFind_cons first]
      by_cases looked : row.xCepIdKey = first
      · rw [if_pos looked, pxEfcpImapFind_cons]
        split
        · rfl
        · rfl
      · rw [if_neg looked, pxEfcpImapFind_cons]
        split
        · rfl
        · exact ih

/-- The instance held by the first row of a table, when the other rows hold
none. -/
inductive FirstHolds : EfcpImapTable EfcpId → Option EfcpId → Prop
  | rows (row : EfcpImapRow EfcpId) (rows : EfcpImapTable EfcpId)
      (key : row.xEfcpValue ≠ none → row.xCepIdKey = hardcodedCepId)
      (idle : ∀ other ∈ rows, other.xEfcpValue = none) :
      FirstHolds (row :: rows) row.xEfcpValue

theorem find_idle {rows : EfcpImapTable EfcpId} (idle : ∀ other ∈ rows, other.xEfcpValue = none)
    (key : CepId) :
    (pxEfcpImapFind key rows).2 = none ∧
      ∀ other ∈ (pxEfcpImapFind key rows).1, other.xEfcpValue = none := by
  induction rows with
  | nil => simp
  | cons row rows ih =>
      have ⟨missing, kept⟩ := ih fun other member => idle other (List.mem_cons_of_mem _ member)
      have unset := idle row List.mem_cons_self
      rw [pxEfcpImapFind_cons]
      split
      · refine ⟨unset, fun other member => ?_⟩
        obtain rfl | member := List.mem_cons.mp member
        · exact unset
        · exact idle other (List.mem_cons_of_mem _ member)
      · refine ⟨missing, fun other member => ?_⟩
        obtain rfl | member := List.mem_cons.mp member
        · exact unset
        · exact kept other member

theorem FirstHolds.ne_nil {table : EfcpImapTable EfcpId} {bound : Option EfcpId}
    (holds : FirstHolds table bound) : table ≠ [] := by
  obtain ⟨row, rows, -, -⟩ := holds
  exact List.cons_ne_nil row rows

/-- The only id that leads to an instance is the hard-coded one. -/
theorem FirstHolds.find {table : EfcpImapTable EfcpId} {bound : Option EfcpId}
    (holds : FirstHolds table bound) (key : CepId) :
    (pxEfcpImapFind key table).2 = if key = hardcodedCepId then bound else none := by
  obtain ⟨row, rows, keyed, idle⟩ := holds
  rw [pxEfcpImapFind_cons]
  cases unset : row.xEfcpValue with
  | none =>
      split
      · simp only [ite_self]
      · simp only [find_idle idle key, ite_self]
  | some efcp =>
      have same : row.xCepIdKey = hardcodedCepId := keyed (by rw [unset]; exact Option.some_ne_none _)
      rw [same]
      by_cases looked : key = hardcodedCepId
      · rw [if_pos looked.symm, if_pos looked]
      · rw [if_neg (Ne.symm looked), if_neg looked]
        exact (find_idle idle key).1

/-- A lookup leaves the instances where they are. -/
theorem FirstHolds.find_table {table : EfcpImapTable EfcpId} {bound : Option EfcpId}
    (holds : FirstHolds table bound) (key : CepId) :
    FirstHolds (pxEfcpImapFind key table).1 bound := by
  obtain ⟨row, rows, keyed, idle⟩ := holds
  rw [pxEfcpImapFind_cons]
  split
  · exact .rows { row with ucValid := 1 } rows keyed idle
  · exact .rows row _ keyed (find_idle idle key).2

theorem FirstHolds.add_table {table : EfcpImapTable EfcpId} {bound : Option EfcpId}
    (holds : FirstHolds table bound) (efcp : EfcpId) :
    FirstHolds (xEfcpImapAdd hardcodedCepId efcp table).1 (some efcp) := by
  obtain ⟨row, rows, keyed, idle⟩ := holds
  exact .rows ⟨hardcodedCepId, some efcp, 1⟩ rows (fun _ => rfl) idle

/-- Removing the hard-coded id of an instance leaves no row with one. -/
theorem FirstHolds.remove_table {table : EfcpImapTable EfcpId} {efcp : EfcpId}
    (holds : FirstHolds table (some efcp)) :
    FirstHolds (xEfcpImapRemove hardcodedCepId table).1 none := by
  generalize held : some efcp = bound at holds
  obtain ⟨row, rows, keyed, idle⟩ := holds
  have same : row.xCepIdKey = hardcodedCepId := keyed (by rw [← held]; exact Option.some_ne_none _)
  rw [xEfcpImapRemove_cons, if_pos same]
  exact .rows xNullImapRow rows (fun unset => absurd rfl unset) idle

end RinaSense
