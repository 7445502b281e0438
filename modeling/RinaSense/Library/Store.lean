import Mathlib.Algebra.BigOperators.Group.Finset.Basic
import Mathlib.Data.Finmap

/-!
# Stores

A store hands out identities for the objects put into it and never reuses one,
so an identity kept after its object was freed denotes nothing. Every identity
in use lies below the next one, which the type guarantees.
-/

universe u

structure Store (α : Type u) where
  contents : Finmap fun _ : Nat => α
  next : Nat
  fresh : ∀ id ∈ contents, id < next

namespace Store

variable {α : Type u}

def empty : Store α where
  contents := ∅
  next := 0
  fresh := fun _ member => absurd member Finmap.notMem_empty

instance : Inhabited (Store α) := ⟨empty⟩

/-- The object with an identity, if it is in use. -/
def get? (store : Store α) (id : Nat) : Option α := store.contents.lookup id

/-- The identities in use. -/
def live (store : Store α) : Finset Nat := store.contents.keys

/-- The number of objects in use. -/
def size (store : Store α) : Nat := store.live.card

/-- Put an object under the next identity. -/
def allocate (store : Store α) (value : α) : Store α × Nat :=
  ({ contents := store.contents.insert store.next value
     next := store.next + 1
     fresh := fun id member => by
      rcases Finmap.mem_insert.mp member with rfl | member
      · exact Nat.lt_succ_self _
      · exact (store.fresh id member).trans (Nat.lt_succ_self _) },
    store.next)

/-- Replace the object of an identity in use. -/
def set (store : Store α) (id : Nat) (value : α) : Store α :=
  if present : id ∈ store.contents then
    { store with
      contents := store.contents.insert id value
      fresh := fun other member => by
        rcases Finmap.mem_insert.mp member with rfl | member
        · exact store.fresh _ present
        · exact store.fresh other member }
  else store

def free (store : Store α) (id : Nat) : Store α where
  contents := store.contents.erase id
  next := store.next
  fresh := fun other member => store.fresh other (Finmap.mem_erase.mp member).2

/-! ## Lookups -/

theorem lt_next {store : Store α} {id : Nat} {value : α} (found : store.get? id = some value) :
    id < store.next :=
  store.fresh id (Finmap.mem_of_lookup_eq_some found)

@[simp] theorem get?_empty (id : Nat) : (empty : Store α).get? id = none :=
  Finmap.lookup_empty id

/-- The next identity is not in use. -/
@[simp] theorem get?_next (store : Store α) : store.get? store.next = none := by
  cases found : store.get? store.next with
  | none => rfl
  | some value => exact absurd (lt_next found) (Nat.lt_irrefl _)

@[simp] theorem get?_allocate_new (store : Store α) (value : α) :
    (store.allocate value).1.get? store.next = some value :=
  Finmap.lookup_insert store.contents

theorem get?_allocate_of_ne (store : Store α) (value : α) {id : Nat} (old : id ≠ store.next) :
    (store.allocate value).1.get? id = store.get? id :=
  Finmap.lookup_insert_of_ne store.contents old

/-- An allocation is invisible to the objects already there. -/
theorem get?_allocate_of_lt (store : Store α) (value : α) {id : Nat} (old : id < store.next) :
    (store.allocate value).1.get? id = store.get? id :=
  store.get?_allocate_of_ne value old.ne

/-- An object found after one was put into the store is that one or was there before. -/
theorem eq_or_get?_of_allocate {store : Store α} {value other : α} {id : Nat}
    (found : (store.allocate value).1.get? id = some other) :
    other = value ∨ store.get? id = some other := by
  by_cases new : id = store.next
  · rw [new, get?_allocate_new] at found
    exact .inl (Option.some.inj found).symm
  · rw [get?_allocate_of_ne store value new] at found
    exact .inr found

theorem get?_set_self {store : Store α} {id : Nat} {old : α} (found : store.get? id = some old)
    (value : α) : (store.set id value).get? id = some value := by
  rw [set, dif_pos (Finmap.mem_of_lookup_eq_some found)]
  exact Finmap.lookup_insert store.contents

theorem get?_set_of_ne (store : Store α) {id other : Nat} (different : other ≠ id) (value : α) :
    (store.set id value).get? other = store.get? other := by
  rw [set]
  split
  · exact Finmap.lookup_insert_of_ne store.contents different
  · rfl

/-- Replacing an object by itself changes nothing. -/
theorem set_of_get? {store : Store α} {id : Nat} {value : α} (found : store.get? id = some value) :
    store.set id value = store := by
  have present := Finmap.mem_of_lookup_eq_some found
  have same : store.contents.insert id value = store.contents := by
    apply Finmap.ext_lookup
    intro other
    by_cases here : other = id
    · rw [here, Finmap.lookup_insert]
      exact found.symm
    · exact Finmap.lookup_insert_of_ne store.contents here
  rw [set, dif_pos present]
  simp only [same]

/-- Of two replacements the last one counts. -/
@[simp] theorem set_set (store : Store α) (id : Nat) (first second : α) :
    (store.set id first).set id second = store.set id second := by
  by_cases present : id ∈ store.contents
  · have kept : id ∈ (store.set id first).contents := by
      rw [set, dif_pos present]
      exact Finmap.mem_insert.mpr (.inl rfl)
    rw [set, dif_pos kept]
    simp only [set, dif_pos present, Finmap.insert_insert]
  · have unchanged : store.set id first = store := dif_neg present
    rw [unchanged]

/-- Replacing the newest object is putting the replacement there at once. -/
@[simp] theorem set_allocate (store : Store α) (first second : α) :
    (store.allocate first).1.set store.next second = (store.allocate second).1 := by
  have present : store.next ∈ (store.allocate first).1.contents :=
    Finmap.mem_insert.mpr (.inl rfl)
  rw [set, dif_pos present]
  simp only [allocate, Finmap.insert_insert]

@[simp] theorem get?_free_self (store : Store α) (id : Nat) : (store.free id).get? id = none :=
  Finmap.lookup_erase id store.contents

theorem get?_free_of_ne (store : Store α) {id other : Nat} (different : other ≠ id) :
    (store.free id).get? other = store.get? other :=
  Finmap.lookup_erase_ne different

/-- Freeing the newest object leaves the others as they were. -/
@[simp] theorem get?_free_allocate (store : Store α) (value : α) (id : Nat) :
    ((store.allocate value).1.free store.next).get? id = store.get? id := by
  by_cases newest : id = store.next
  · rw [newest, get?_free_self, get?_next]
  · rw [get?_free_of_ne _ newest, get?_allocate_of_ne _ _ newest]

@[simp] theorem allocate_id (store : Store α) (value : α) :
    (store.allocate value).2 = store.next := rfl

@[simp] theorem next_allocate (store : Store α) (value : α) :
    (store.allocate value).1.next = store.next + 1 := rfl

@[simp] theorem next_set (store : Store α) (id : Nat) (value : α) :
    (store.set id value).next = store.next := by
  rw [set]
  split <;> rfl

@[simp] theorem next_free (store : Store α) (id : Nat) : (store.free id).next = store.next := rfl

/-! ## Identities in use -/

theorem mem_live {store : Store α} {id : Nat} :
    id ∈ store.live ↔ ∃ value, store.get? id = some value := by
  rw [live, Finmap.mem_keys, ← Finmap.lookup_isSome, Option.isSome_iff_exists]
  rfl

theorem mem_live_of_get? {store : Store α} {id : Nat} {value : α}
    (found : store.get? id = some value) : id ∈ store.live :=
  mem_live.mpr ⟨value, found⟩

theorem notMem_live {store : Store α} {id : Nat} :
    id ∉ store.live ↔ store.get? id = none := by
  rw [mem_live, ← Option.isSome_iff_exists, Bool.not_eq_true, Option.isSome_eq_false_iff,
    Option.isNone_iff_eq_none]

@[simp] theorem next_notMem_live (store : Store α) : store.next ∉ store.live :=
  notMem_live.mpr store.get?_next

@[simp] theorem live_empty : (empty : Store α).live = ∅ := rfl

private theorem keys_insert (contents : Finmap fun _ : Nat => α) (id : Nat) (value : α) :
    (contents.insert id value).keys = insert id contents.keys := by
  ext other
  rw [Finmap.mem_keys, Finmap.mem_insert, Finset.mem_insert, Finmap.mem_keys]

@[simp] theorem live_allocate (store : Store α) (value : α) :
    (store.allocate value).1.live = insert store.next store.live :=
  keys_insert store.contents store.next value

@[simp] theorem live_set (store : Store α) (id : Nat) (value : α) :
    (store.set id value).live = store.live := by
  rw [set]
  split
  · next present =>
      exact (keys_insert store.contents id value).trans
        (Finset.insert_eq_of_mem (Finmap.mem_keys.mpr present))
  · rfl

@[simp] theorem live_free (store : Store α) (id : Nat) :
    (store.free id).live = store.live.erase id :=
  Finmap.keys_erase id store.contents

@[simp] theorem size_empty : (empty : Store α).size = 0 := rfl

@[simp] theorem size_allocate (store : Store α) (value : α) :
    (store.allocate value).1.size = store.size + 1 := by
  rw [size, live_allocate, Finset.card_insert_of_notMem store.next_notMem_live, size]

@[simp] theorem size_set (store : Store α) (id : Nat) (value : α) :
    (store.set id value).size = store.size := by
  rw [size, live_set, size]

/-- Freeing an object in use makes the store smaller by one. -/
theorem size_free {store : Store α} {id : Nat} {value : α}
    (found : store.get? id = some value) : (store.free id).size + 1 = store.size := by
  rw [size, live_free, Finset.card_erase_add_one (mem_live_of_get? found), size]

/-! ## Sums over the objects in use -/

/-- A measure added up over the objects in use. -/
def sum (store : Store α) (measure : α → Nat) : Nat :=
  store.live.sum fun id => (store.get? id).elim 0 measure

/-- Replacing an object changes the sum by its measure. -/
theorem sum_set {store : Store α} {id : Nat} {old : α} (found : store.get? id = some old)
    (value : α) (measure : α → Nat) :
    (store.set id value).sum measure + measure old = store.sum measure + measure value := by
  have present := mem_live_of_get? found
  have others : (store.live.erase id).sum
        (fun other => ((store.set id value).get? other).elim 0 measure) =
      (store.live.erase id).sum (fun other => (store.get? other).elim 0 measure) := by
    apply Finset.sum_congr rfl
    intro other member
    rw [store.get?_set_of_ne (Finset.ne_of_mem_erase member)]
  have before := Finset.add_sum_erase store.live
    (fun other => (store.get? other).elim 0 measure) present
  have after := Finset.add_sum_erase store.live
    (fun other => ((store.set id value).get? other).elim 0 measure) present
  simp only [found, get?_set_self found, Option.elim_some] at before after
  rw [sum, sum, live_set, ← after, ← before, others]
  omega

/-! ## Later states of a store -/

/-- Identities are not used again: of the old ones, only those in use before can
be in use later. -/
structure Later (before after : Store α) : Prop where
  next_le : before.next ≤ after.next
  live_of_live : ∀ id < before.next, id ∈ after.live → id ∈ before.live

theorem Later.refl (store : Store α) : Later store store := ⟨le_refl _, fun _ _ live => live⟩

theorem Later.trans {first second third : Store α} (before : Later first second)
    (after : Later second third) : Later first third where
  next_le := before.next_le.trans after.next_le
  live_of_live := fun id old live =>
    before.live_of_live id old (after.live_of_live id (old.trans_le before.next_le) live)

theorem later_allocate (store : Store α) (value : α) : Later store (store.allocate value).1 where
  next_le := Nat.le_succ _
  live_of_live := fun id old live => by
    rw [live_allocate, Finset.mem_insert] at live
    exact live.resolve_left old.ne

theorem later_set (store : Store α) (id : Nat) (value : α) : Later store (store.set id value) where
  next_le := by rw [next_set]
  live_of_live := fun _ _ live => by rwa [live_set] at live

theorem later_free (store : Store α) (id : Nat) : Later store (store.free id) where
  next_le := le_refl _
  live_of_live := fun _ _ live => by
    rw [live_free] at live
    exact Finset.mem_of_mem_erase live

/-- What is gone stays gone. -/
theorem Later.get?_eq_none {before after : Store α} (later : Later before after) {id : Nat}
    (old : id < before.next) (gone : before.get? id = none) : after.get? id = none :=
  notMem_live.mp (fun live => notMem_live.mpr gone (later.live_of_live id old live))

end Store
