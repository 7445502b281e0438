import RinaSense.Common.NumMgr

/-!
# Allocations that return

The search of the id manager from any state its calls can lead to, manager of no ids
included. It compares its place with the last id before it goes on from the end to the
first id, so it passes over a last id that is the first one.
-/

namespace RinaSense

open BitArray

namespace NumMgr

/-! ## Purpose -/

/-- The loop ends, after however many times round. -/
def Terminates (im : NumMgr) : Prop :=
  ∃ fuel result, im.allocateFrom fuel (im.lastAllocated + 1) = some result

/-- The managers that calls which return lead to. -/
inductive Reaches (start : NumMgr) : NumMgr → Prop where
  | start : Reaches start start
  | allocate {before next : NumMgr} {fuel : Nat} {id : UInt32} (reaches : Reaches start before)
      (returned : before.allocateFrom fuel (before.lastAllocated + 1) = some (next, id)) :
      Reaches start next
  | release {before : NumMgr} (reaches : Reaches start before) (id : UInt32) :
      Reaches start (before.xNumMgrRelease id).1

/-- All ids of a manager of `n` ids are given out, and the last one was the first id. -/
structure FullAtFirst (n : UInt32) (im : NumMgr) : Prop where
  nonempty : n ≠ 0
  last : im.lastAllocated = 1
  full : ∀ id, ManagedIds.InRange n id → im.xNumMgrIsAllocated id = true

/-! ## Managers of some ids -/

section Some

variable {n : UInt32} {im : NumMgr} {held : Finset UInt32}

theorem ok_allocated {fuel : Nat} {next : NumMgr} {id : UInt32}
    (ok : ManagedIds.Ok n { im, held }) (nonempty : n ≠ 0)
    (returned : im.allocateFrom fuel (im.lastAllocated + 1) = some (next, id)) :
    ∃ later, ManagedIds.Ok n { im := next, held := later } := by
  obtain ⟨inSearch, passed⟩ := ok.inSearch_start
  rcases ok.found nonempty inSearch passed returned with ⟨rfl, free, _⟩ | ⟨_, rfl, _, _⟩
  · exact ⟨_, ok.insert free.1⟩
  · exact ⟨_, ok⟩

theorem ok_released (ok : ManagedIds.Ok n { im, held }) (id : UInt32) :
    ∃ later, ManagedIds.Ok n { im := (im.xNumMgrRelease id).1, held := later } := by
  rw [xNumMgrRelease]
  split
  · exact ⟨_, ok⟩
  · exact ⟨_, ok.erase id⟩

theorem ok_of_reaches {start : NumMgr} (ok : ManagedIds.Ok n { im := start, held })
    (nonempty : n ≠ 0) (reaches : start.Reaches im) :
    ∃ later, ManagedIds.Ok n { im, held := later } := by
  induction reaches with
  | start => exact ⟨held, ok⟩
  | allocate _ returned ih =>
      obtain ⟨earlier, ok⟩ := ih
      exact ok_allocated ok nonempty returned
  | release _ id ih =>
      obtain ⟨earlier, ok⟩ := ih
      exact ok_released ok id

/-- Once round, the search of a manager of some ids has ended, or it never ends. -/
theorem terminates_iff_of_ok (ok : ManagedIds.Ok n { im, held }) (nonempty : n ≠ 0) :
    im.Terminates ↔ ¬ im.FullAtFirst n := by
  have marked (id : UInt32) : im.xNumMgrIsAllocated id = true ↔ id ∈ held := ok.marks id
  obtain ⟨inSearch, passed⟩ := ok.inSearch_start
  constructor
  · rintro ⟨fuel, ⟨next, id⟩, returned⟩ fullAtFirst
    rcases ok.found nonempty inSearch passed returned with ⟨_, free, _⟩ | ⟨_, _, two, _⟩
    · exact free.2 ((marked id).mp (fullAtFirst.full id free.1))
    · rw [fullAtFirst.last] at two
      exact absurd two (by decide)
  · intro notFull
    by_contra endless
    have none_found : im.ulNumMgrAllocate = none := by
      cases result : im.ulNumMgrAllocate with
      | none => rfl
      | some result => exact absurd ⟨_, _, result⟩ endless
    obtain ⟨early, full⟩ := ok.allocate_full nonempty none_found
    have positive : 1 ≤ n.toNat := by
      rw [Nat.one_le_iff_ne_zero]
      exact fun zero => nonempty (UInt32.toNat_inj.mp zero)
    refine notFull ⟨nonempty, ?_, fun id inRange => (marked id).mpr (full id inRange)⟩
    rcases Nat.le_one_iff_eq_zero_or_eq_one.mp early with zero | one
    · have first : (1 : UInt32) ∈ held := full 1 ⟨Nat.le_refl 1, positive⟩
      have nothing : held = ∅ := ok.unused (UInt32.toNat_inj.mp zero)
      rw [nothing] at first
      exact absurd first (Finset.notMem_empty 1)
    · exact UInt32.toNat_inj.mp one

end Some

/-! ## Managers of no ids -/

/-- Its bit array has the one bit that stands for no id. -/
structure Idless (im : NumMgr) : Prop where
  count : im.numCnt = 1
  bits : im.ba.nbbits = 1

section Idless

variable {im : NumMgr}

theorem Idless.getBit (idless : im.Idless) {p : UInt32} (positive : p ≠ 0) :
    im.ba.xBitArrayGetBit p = false := by
  rw [xBitArrayGetBit, idless.bits]
  apply if_neg
  rw [UInt32.lt_iff_toNat_lt, UInt32.toNat_one, Nat.lt_one_iff]
  exact fun zero => positive (UInt32.toNat_inj.mp zero)

/-- The id the loop looks at. -/
def place (im : NumMgr) (p : UInt32) : UInt32 := if p = im.numCnt then 1 else p

theorem allocateFrom_succ (im : NumMgr) (fuel : Nat) (p : UInt32) :
    im.allocateFrom (fuel + 1) p =
      if p = im.lastAllocated then some (im, uintMax)
      else if !im.ba.xBitArrayGetBit (im.place p) then
        some ({ im with ba := im.ba.vBitArraySetBit (im.place p), lastAllocated := im.place p },
          im.place p)
      else im.allocateFrom fuel (im.place p + 1) := rfl

theorem Idless.allocated (idless : im.Idless) {fuel : Nat} {p id : UInt32} {next : NumMgr}
    (returned : im.allocateFrom fuel p = some (next, id)) : next.Idless := by
  induction fuel generalizing p with
  | zero => cases returned
  | succ fuel ih =>
      rw [allocateFrom_succ] at returned
      split at returned
      · obtain ⟨rfl, _⟩ := Prod.mk.inj (Option.some.inj returned)
        exact idless
      · split at returned
        · obtain ⟨rfl, _⟩ := Prod.mk.inj (Option.some.inj returned)
          exact ⟨idless.count, setBit_nbbits.trans idless.bits⟩
        · exact ih returned

theorem Idless.released (idless : im.Idless) (id : UInt32) : (im.xNumMgrRelease id).1.Idless := by
  rw [xNumMgrRelease]
  split
  · exact idless
  · exact ⟨idless.count, clearBit_nbbits.trans idless.bits⟩

theorem idless_of_reaches {start : NumMgr} (idless : start.Idless) (reaches : start.Reaches im) :
    im.Idless := by
  induction reaches with
  | start => exact idless
  | allocate _ returned ih => exact ih.allocated returned
  | release _ id ih => exact ih.released id

/-- A place that is not 0 is free. -/
theorem Idless.returned (idless : im.Idless) {p : UInt32} (positive : p ≠ 0) (fuel : Nat) :
    ∃ result, im.allocateFrom (fuel + 1) p = some result := by
  have placed : im.place p ≠ 0 := by
    rw [place]
    split
    · exact nofun
    · exact positive
  rw [allocateFrom_succ, idless.getBit placed]
  split
  · exact ⟨_, rfl⟩
  · exact ⟨_, rfl⟩

/-- At the latest the second place is free. -/
theorem Idless.terminates (idless : im.Idless) : im.Terminates := by
  by_cases start : im.lastAllocated + 1 = 0
  · refine ⟨2, ?_⟩
    rw [allocateFrom_succ, start, place, idless.count, if_neg (by decide : (0 : UInt32) ≠ 1)]
    split
    · exact ⟨_, rfl⟩
    · split
      · exact ⟨_, rfl⟩
      · exact idless.returned (by decide) 0
  · obtain ⟨result, returned⟩ := idless.returned start 0
    exact ⟨1, result, returned⟩

end Idless

/-! ## All managers -/

theorem idless_create {memory bitMemory : Bool} {im : NumMgr}
    (created : pxNumMgrCreate memory bitMemory 0 = some im) : im.Idless := by
  cases memory with
  | false => cases created
  | true =>
      cases bitMemory with
      | false => cases created
      | true =>
          obtain rfl := Option.some.inj created
          exact ⟨rfl, rfl⟩

/-- An allocation returns, unless all ids are given out and the last one was the first id. -/
theorem allocate_terminates_iff {memory bitMemory : Bool} {n : UInt32} {start im : NumMgr}
    (created : pxNumMgrCreate memory bitMemory n = some start) (reaches : start.Reaches im) :
    im.Terminates ↔ ¬ im.FullAtFirst n := by
  by_cases empty : n = 0
  · subst empty
    exact iff_of_true (idless_of_reaches (idless_create created) reaches).terminates
      fun full => full.nonempty rfl
  · obtain ⟨held, ok⟩ := ok_of_reaches (ManagedIds.ok_create created) empty reaches
    exact terminates_iff_of_ok ok empty

/-- A manager of one id, and the same after it was given out. -/
def oneId : NumMgr where
  numCnt := 2
  lastAllocated := 0
  ba := pxBitArrayAlloc 2

def oneIdTaken : NumMgr where
  numCnt := 2
  lastAllocated := 1
  ba := (pxBitArrayAlloc 2).vBitArraySetBit 1

theorem oneId_reaches : oneId.Reaches oneIdTaken :=
  @Reaches.allocate oneId oneId oneIdTaken 1 1 .start rfl

/-- A manager of two ids, and the same after both were given out. -/
def twoIds : NumMgr where
  numCnt := 3
  lastAllocated := 0
  ba := pxBitArrayAlloc 3

def firstTaken : NumMgr where
  numCnt := 3
  lastAllocated := 1
  ba := (pxBitArrayAlloc 3).vBitArraySetBit 1

def bothTaken : NumMgr where
  numCnt := 3
  lastAllocated := 2
  ba := ((pxBitArrayAlloc 3).vBitArraySetBit 1).vBitArraySetBit 2

theorem twoIds_reaches : twoIds.Reaches bothTaken :=
  @Reaches.allocate twoIds firstTaken bothTaken 1 2
    (@Reaches.allocate twoIds twoIds firstTaken 1 1 .start rfl) rfl

/-- With both ids given out a third allocation returns, since the last one was not the first. -/
theorem allocate_terminates_iff_twoIds :
    pxNumMgrCreate true true 2 = some twoIds ∧ twoIds.Reaches bothTaken ∧ bothTaken.Terminates := by
  refine ⟨rfl, twoIds_reaches, ?_⟩
  rw [@allocate_terminates_iff true true 2 twoIds bothTaken rfl twoIds_reaches]
  intro full
  exact absurd full.last (by decide)

/-- The second allocation from a manager of one id never returns. -/
theorem second_allocation_loops :
    pxNumMgrCreate true true 1 = some oneId ∧ oneId.Reaches oneIdTaken ∧
      ¬ oneIdTaken.Terminates := by
  refine ⟨rfl, oneId_reaches, ?_⟩
  intro terminates
  obtain ⟨held, ok⟩ := ok_of_reaches (@ManagedIds.ok_create true true 1 oneId rfl) (by decide)
    oneId_reaches
  refine (terminates_iff_of_ok ok (by decide)).mp terminates ⟨by decide, rfl, ?_⟩
  intro id inRange
  have one : id = 1 := UInt32.toNat_inj.mp (Nat.le_antisymm inRange.2 inRange.1)
  rw [one]
  decide

end NumMgr

end RinaSense
