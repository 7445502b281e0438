import Mathlib.Data.Finmap
import RinaSense.Ipcp.EfcpImap
import RinaSense.Library.History

/-!
# The instance map as a finite map

The purpose of the table is a finite map from CEP ids to instances with room for
`efcpImapEntries` keys. This module states that purpose, compares runs of the
table functions with it, and determines the runs on which the two agree.
-/

namespace RinaSense

open History

universe u

variable {α : Type u}

inductive EfcpImapOp (α : Type u) where
  | add (xCepId : CepId) (pxEfcp : α)
  | find (xCepId : CepId)
  | remove (xCepId : CepId)
  deriving Repr, DecidableEq

inductive EfcpImapResult (α : Type u) where
  | status (result : Bool)
  | instance (pxEfcp : Option α)
  deriving Repr, DecidableEq

/-- The bindings of a finite map from CEP ids to instances. -/
abbrev CepBindings (α : Type u) := Finmap fun _ : CepId => α

namespace EfcpImapOp

def apply (table : EfcpImapTable α) : EfcpImapOp α → EfcpImapTable α × EfcpImapResult α
  | add key efcp => ((xEfcpImapAdd key efcp table).1, .status (xEfcpImapAdd key efcp table).2)
  | find key => ((pxEfcpImapFind key table).1, .instance (pxEfcpImapFind key table).2)
  | remove key => ((xEfcpImapRemove key table).1, .status (xEfcpImapRemove key table).2)

/-- The table after a run of operations. -/
def run (operations : List (EfcpImapOp α)) : EfcpImapTable α :=
  operations.foldl (fun table operation => (operation.apply table).1) xEfcpImapCreate

/-! ## The finite map -/

/-- What the operations mean for the finite map. A key can be added when it is
bound already or room is left. -/
def intend (bindings : CepBindings α) :
    EfcpImapOp α → CepBindings α × EfcpImapResult α
  | add key efcp =>
      if key ∈ bindings ∨ bindings.keys.card < efcpImapEntries then
        (bindings.insert key efcp, .status true)
      else (bindings, .status false)
  | find key => (bindings, .instance (bindings.lookup key))
  | remove key => (bindings.erase key, .status true)

/-- The bindings a run of operations is meant to leave. -/
def intended (operations : List (EfcpImapOp α)) : CepBindings α :=
  operations.foldl (fun bindings operation => (operation.intend bindings).1) ∅

/-- An operation that refines its meaning: the result is the intended one, all
keys can be looked up as intended afterwards, and a lookup leaves the table
alone. -/
structure Refines (table : EfcpImapTable α) (bindings : CepBindings α)
    (operation : EfcpImapOp α) : Prop where
  result : (operation.apply table).2 = (operation.intend bindings).2
  lookups : ∀ key, (pxEfcpImapFind key (operation.apply table).1).2 =
    (operation.intend bindings).1.lookup key
  unchanged : ∀ key, operation = find key → (operation.apply table).1 = table

/-- The operations the table performs as intended: additions while no other key
is bound, and lookups of the key 0 only while it is bound. -/
def Supported (bindings : CepBindings α) : EfcpImapOp α → Prop
  | add key _ => ∀ other, other ≠ key → bindings.lookup other = none
  | find key => key = 0 → key ∈ bindings
  | remove _ => True

/-! ## Tables with at most one row in use -/

/-- The table whose first row is bound. -/
def single (key : CepId) (efcp : α) : EfcpImapTable α :=
  [⟨key, some efcp, 1⟩, xNullImapRow, xNullImapRow]

/-- The representation that supported runs keep: at most the first row is in use,
and the others are null. -/
inductive Represents : EfcpImapTable α → CepBindings α → Prop
  | empty : Represents xEfcpImapCreate ∅
  | single (key : CepId) (efcp : α) : Represents (single key efcp) (Finmap.singleton key efcp)

theorem nullRows_eq : [xNullImapRow, xNullImapRow] = List.replicate 2 (xNullImapRow (α := α)) :=
  rfl

theorem find_null (key : CepId) (count : Nat) :
    (pxEfcpImapFind key (List.replicate count (xNullImapRow (α := α)))).2 = none := by
  induction count with
  | zero => rfl
  | succ count ih =>
      rw [List.replicate_succ, pxEfcpImapFind_cons]
      split
      · rfl
      · exact ih

theorem find_bound (key other : CepId) (efcp : α) (valid : UInt8) (count : Nat) :
    (pxEfcpImapFind other (⟨key, some efcp, valid⟩ :: List.replicate count xNullImapRow)).2 =
      if other = key then some efcp else none := by
  rw [pxEfcpImapFind_cons]
  by_cases same : key = other
  · simp only [same, if_true]
  · simp only [same, Ne.symm same, if_false, find_null]

/-- Looking up another key than 0 leaves null rows alone. -/
theorem find_null_table {key : CepId} (nonzero : key ≠ 0) (count : Nat) :
    (pxEfcpImapFind key (List.replicate count (xNullImapRow (α := α)))).1 =
      List.replicate count xNullImapRow := by
  induction count with
  | zero => rfl
  | succ count ih =>
      have other : (xNullImapRow (α := α)).xCepIdKey ≠ key := Ne.symm nonzero
      rw [List.replicate_succ, pxEfcpImapFind_cons, if_neg other, ih]

theorem remove_null (key : CepId) (count : Nat) :
    (xEfcpImapRemove key (List.replicate count (xNullImapRow (α := α)))).1 =
      List.replicate count xNullImapRow := by
  induction count with
  | zero => rfl
  | succ count ih =>
      rw [List.replicate_succ, xEfcpImapRemove_cons]
      split
      · rfl
      · rw [ih]

theorem lookup_singleton (key other : CepId) (efcp : α) :
    (Finmap.singleton key efcp : CepBindings α).lookup other =
      if other = key then some efcp else none := by
  by_cases same : other = key
  · subst same
    simp
  · simpa [same] using Finmap.lookup_eq_none.mpr (by simpa using same)

theorem erase_singleton (key other : CepId) (efcp : α) :
    (Finmap.singleton key efcp : CepBindings α).erase other =
      if key = other then ∅ else Finmap.singleton key efcp := by
  refine Finmap.ext_lookup fun looked => ?_
  by_cases erased : looked = other
  · subst erased
    rw [Finmap.lookup_erase]
    split
    · rw [Finmap.lookup_empty]
    · rename_i different
      rw [lookup_singleton, if_neg (Ne.symm different)]
  · rw [Finmap.lookup_erase_ne erased, lookup_singleton]
    split
    · rename_i found
      rw [if_neg (fun same => erased (found.trans same)), lookup_singleton, if_pos found]
    · rename_i missing
      split
      · rw [Finmap.lookup_empty]
      · rw [lookup_singleton, if_neg missing]

theorem Represents.lookup {table : EfcpImapTable α} {bindings : CepBindings α}
    (represents : Represents table bindings) (key : CepId) :
    (pxEfcpImapFind key table).2 = bindings.lookup key := by
  cases represents with
  | empty => rw [Finmap.lookup_empty]; exact find_null key efcpImapEntries
  | single bound efcp => rw [lookup_singleton]; exact find_bound bound key efcp 1 2

/-- An addition puts its row in place of whatever the first one held. -/
theorem Represents.add_table {table : EfcpImapTable α} {bindings : CepBindings α}
    (represents : Represents table bindings) (key : CepId) (efcp : α) :
    xEfcpImapAdd key efcp table = (EfcpImapOp.single key efcp, true) := by
  cases represents <;> rfl

/-- A supported lookup leaves the table alone. -/
theorem Represents.find_table {table : EfcpImapTable α} {bindings : CepBindings α}
    (represents : Represents table bindings) {key : CepId}
    (supported : key = 0 → key ∈ bindings) : (pxEfcpImapFind key table).1 = table := by
  cases represents with
  | empty =>
      exact find_null_table (fun zero => Finmap.notMem_empty (supported zero)) efcpImapEntries
  | single bound efcp =>
      rw [EfcpImapOp.single, pxEfcpImapFind_cons]
      by_cases same : bound = key
      · rw [if_pos same]
      · have nonzero : key ≠ 0 := fun zero =>
          same ((Finmap.mem_singleton key bound efcp).mp (supported zero)).symm
        rw [if_neg same]
        exact congrArg _ (find_null_table nonzero 2)

/-- An unsupported lookup marks a null row valid. -/
theorem Represents.find_table_ne {table : EfcpImapTable α} {bindings : CepBindings α}
    (represents : Represents table bindings) (unbound : 0 ∉ bindings) :
    (pxEfcpImapFind 0 table).1 ≠ table := by
  cases represents with
  | empty => simp [xEfcpImapCreate, efcpImapEntries, pxEfcpImapFind, xNullImapRow]
  | single bound efcp =>
      have nonzero : bound ≠ 0 := fun zero =>
        unbound ((Finmap.mem_singleton 0 bound efcp).mpr zero.symm)
      simp [EfcpImapOp.single, pxEfcpImapFind, xNullImapRow, nonzero]

theorem Represents.room {table : EfcpImapTable α} {bindings : CepBindings α}
    (represents : Represents table bindings) : bindings.keys.card < efcpImapEntries := by
  cases represents with
  | empty => simp [efcpImapEntries]
  | single bound efcp => simp [efcpImapEntries]

/-- While no other key is bound, adding a key leaves it as the only one. -/
theorem insert_alone {bindings : CepBindings α} {key : CepId} (efcp : α)
    (alone : ∀ other, other ≠ key → bindings.lookup other = none) :
    bindings.insert key efcp = Finmap.singleton key efcp := by
  refine Finmap.ext_lookup fun other => ?_
  rw [lookup_singleton]
  by_cases same : other = key
  · rw [same, Finmap.lookup_insert, if_pos rfl]
  · rw [Finmap.lookup_insert_of_ne _ same, alone other same, if_neg same]

/-- Supported operations keep the representation. -/
theorem Represents.step {table : EfcpImapTable α} {bindings : CepBindings α}
    (represents : Represents table bindings) {operation : EfcpImapOp α}
    (supported : operation.Supported bindings) :
    Represents (operation.apply table).1 (operation.intend bindings).1 := by
  cases operation with
  | add key efcp =>
      rw [apply, represents.add_table, intend, if_pos (.inr represents.room),
        insert_alone efcp supported]
      exact .single key efcp
  | find key =>
      rw [apply, represents.find_table supported]
      exact represents
  | remove key =>
      cases represents with
      | empty =>
          rw [apply, xEfcpImapCreate, remove_null]
          exact .empty
      | single bound efcp =>
          rw [apply, EfcpImapOp.single, xEfcpImapRemove_cons, intend]
          by_cases same : bound = key
          · rw [if_pos same, erase_singleton, if_pos same]
            exact .empty
          · rw [if_neg same, erase_singleton, if_neg same, nullRows_eq, remove_null]
            exact .single bound efcp

/-- Under the representation, the supported operations are those that refine
their meaning. -/
theorem Represents.refines_iff {table : EfcpImapTable α} {bindings : CepBindings α}
    (represents : Represents table bindings) (operation : EfcpImapOp α) :
    operation.Refines table bindings ↔ operation.Supported bindings := by
  constructor
  · intro refines
    cases operation with
    | add key efcp =>
        intro other different
        have looked := refines.lookups other
        rw [apply, represents.add_table, intend, if_pos (.inr represents.room),
          Finmap.lookup_insert_of_ne _ different, EfcpImapOp.single, nullRows_eq,
          find_bound, if_neg different] at looked
        exact looked.symm
    | find key =>
        rintro rfl
        by_contra unbound
        exact represents.find_table_ne unbound (refines.unchanged 0 rfl)
    | remove key => trivial
  · intro supported
    refine ⟨?_, (represents.step supported).lookup, ?_⟩
    · cases operation with
      | add key efcp =>
          rw [apply, represents.add_table, intend, if_pos (.inr represents.room)]
      | find key => rw [apply, represents.lookup]; rfl
      | remove key => rw [apply, xEfcpImapRemove_result]; rfl
    · rintro key rfl
      exact represents.find_table supported

/-- A run performs every operation as intended exactly when no addition meets
another bound key and the key 0 is only looked up while bound. -/
theorem run_refines_iff (operations : List (EfcpImapOp α)) :
    EachAfter (fun before operation => operation.Refines (run before) (intended before))
        operations ↔
      EachAfter (fun before operation => operation.Supported (intended before)) operations := by
  refine eachAfter_iff_of_invariant
    (fun before => Represents (run before) (intended before)) .empty ?_ ?_ operations
  · intro before operation represents supported
    simp only [run, intended, List.foldl_concat]
    exact represents.step supported
  · intro before operation represents
    exact represents.refines_iff operation

/-- Two keys: the second addition takes the row of the first, which is still
meant to be bound. -/
theorem add_displaces :
    ¬ EachAfter (fun before operation => operation.Refines (run before) (intended before))
      [add 1 "first", add 2 "second"] := by
  intro refines
  have second := refines [add 1 "first"] (add 2 "second") [] rfl
  exact absurd (second.lookups 1) (by decide)

end EfcpImapOp

end RinaSense
