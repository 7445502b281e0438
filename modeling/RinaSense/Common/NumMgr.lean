import RinaSense.Common.BitArray
import RinaSense.Library.Trace
import Mathlib.Data.Finset.Insert

/-!
# The id manager

`common/num_mgr.h` and its implementation: ids from 1 on, marked in a bit array and
given out in turn. What it is for is a set of ids in use; the module determines the
runs of allocations and releases that keep to this.
-/

namespace RinaSense

/-- `UINT_MAX`. -/
def uintMax : UInt32 := 0xFFFFFFFF

/-- `NumMgr_t`, with a `size_t` of 32 bits. -/
structure NumMgr where
  numCnt : UInt32
  lastAllocated : UInt32
  ba : BitArray
  deriving DecidableEq

open BitArray

/-- The parameter tells whether there is memory for the bits. -/
def xNumMgrInit (bitMemory : Bool) (numCnt : UInt32) : Option NumMgr :=
  if bitMemory then
    some
      { numCnt := numCnt + 1
        lastAllocated := 0
        ba := pxBitArrayAlloc (numCnt + 1) }
  else none

def pxNumMgrCreate (memory bitMemory : Bool) (numCnt : UInt32) : Option NumMgr :=
  if numCnt = uintMax then none
  else if !memory then none
  else xNumMgrInit bitMemory numCnt

namespace NumMgr

/-- The loop of `ulNumMgrAllocate`, as many times round as there is fuel. -/
def allocateFrom (im : NumMgr) : Nat → UInt32 → Option (NumMgr × UInt32)
  | 0, _ => none
  | fuel + 1, p =>
      if p = im.lastAllocated then some (im, uintMax)
      else
        let p := if p = im.numCnt then 1 else p
        if !im.ba.xBitArrayGetBit p then
          some ({ im with ba := im.ba.vBitArraySetBit p, lastAllocated := p }, p)
        else im.allocateFrom fuel (p + 1)

/-- The loop that has not ended after once round never ends. -/
def ulNumMgrAllocate (im : NumMgr) : Option (NumMgr × UInt32) :=
  im.allocateFrom im.numCnt.toNat (im.lastAllocated + 1)

def xNumMgrRelease (im : NumMgr) (n : UInt32) : NumMgr × Bool :=
  if !im.ba.xBitArrayGetBit n then (im, false)
  else ({ im with ba := im.ba.vBitArrayClearBit n }, true)

def xNumMgrIsAllocated (im : NumMgr) (n : UInt32) : Bool := im.ba.xBitArrayGetBit n

end NumMgr

/-! ## Runs -/

inductive NumMgrOp where
  | allocate
  | release (n : UInt32)
  deriving Repr, DecidableEq

inductive NumMgrResult where
  | allocated (id : UInt32)
  | released (result : Bool)
  deriving Repr, DecidableEq

/-- A manager with the ids that were returned and not released yet. -/
structure ManagedIds where
  im : NumMgr
  held : Finset UInt32

namespace ManagedIds

/-- An allocation that goes on for ever. -/
inductive NoReturn where
  | loops
  deriving Repr, DecidableEq

open NumMgr

def perform : NumMgrOp → EStateM NoReturn ManagedIds NumMgrResult
  | .allocate => do
      let state ← get
      match ulNumMgrAllocate state.im with
      | none => throw .loops
      | some (im, id) =>
          set { state with im, held := if id = uintMax then state.held else insert id state.held }
          return .allocated id
  | .release n => do
      let state ← get
      let (im, result) := xNumMgrRelease state.im n
      set { state with im, held := if result then state.held.erase n else state.held }
      return .released result

/-! ## Purpose -/

/-- The ids of a manager of `n` ids. -/
def InRange (n id : UInt32) : Prop := 1 ≤ id.toNat ∧ id.toNat ≤ n.toNat

def Free (state : ManagedIds) (n id : UInt32) : Prop := InRange n id ∧ id ∉ state.held

/-- The ids marked are those held. -/
def Marks (state : ManagedIds) : Prop :=
  ∀ id, xNumMgrIsAllocated state.im id = true ↔ id ∈ state.held

/-- A free id, if there is one, and the error value otherwise; a release tells whether
the id was held. -/
def Properly (n : UInt32) (before : ManagedIds) (operation : NumMgrOp) :
    EStateM.Result NoReturn ManagedIds NumMgrResult → Prop
  | .error _ _ => True
  | .ok result after => after.Marks ∧
      match operation, result with
      | .allocate, .allocated id =>
          before.Free n id ∨ id = uintMax ∧ ∀ other, ¬ before.Free n other
      | .release id, .released result => result = true ↔ id ∈ before.held
      | _, _ => False

/-- The last id given out is free, another one than 1, and no other one is free. -/
def OnlyLastFree (state : ManagedIds) (n : UInt32) : Prop :=
  state.Free n state.im.lastAllocated ∧ state.im.lastAllocated ≠ 1 ∧
    ∀ id, state.Free n id → id = state.im.lastAllocated

def Supported (n : UInt32) (before : ManagedIds) : NumMgrOp → Prop
  | .allocate => n ≠ 0 ∧ ¬ before.OnlyLastFree n
  | .release _ => True

/-! ## The search -/

/-- What a manager of `n` ids and the ids held are to each other. -/
structure Ok (n : UInt32) (state : ManagedIds) : Prop where
  small : n.toNat + 1 < 2 ^ 32
  count : state.im.numCnt.toNat = n.toNat + 1
  bits : state.im.ba.nbbits = state.im.numCnt
  marks : state.Marks
  range : ∀ id ∈ state.held, InRange n id
  last : state.im.lastAllocated.toNat ≤ n.toNat
  unused : state.im.lastAllocated = 0 → state.held = ∅

/-- The places of the search: ids, or the one behind the last id. The first id is
only looked at in its turn before anything was allocated. -/
structure InSearch (state : ManagedIds) (n p : UInt32) : Prop where
  lower : 1 ≤ p.toNat
  upper : p.toNat ≤ n.toNat + 1
  first : p.toNat = 1 → state.im.lastAllocated = 0

/-- The ids between the last one and the place of the search, round the end, are held. -/
def Passed (state : ManagedIds) (n p : UInt32) : Prop :=
  ∀ id, InRange n id →
    (state.im.lastAllocated.toNat < id.toNat ∧ id.toNat < p.toNat ∨
      p.toNat ≤ state.im.lastAllocated.toNat ∧
        (state.im.lastAllocated.toNat < id.toNat ∨ id.toNat < p.toNat)) → id ∈ state.held

/-- The search ends with a free id, marked now, or has passed all ids but the last
one. -/
def Found (state : ManagedIds) (n : UInt32) (next : NumMgr) (id : UInt32) : Prop :=
  next = { state.im with ba := state.im.ba.vBitArraySetBit id, lastAllocated := id } ∧
      state.Free n id ∧ (id = state.im.lastAllocated → id = 1) ∨
    id = uintMax ∧ next = state.im ∧ 2 ≤ state.im.lastAllocated.toNat ∧
      ∀ other, state.Free n other → other = state.im.lastAllocated

section Search

variable {n p : UInt32} {state : ManagedIds}

theorem toNat_succ {id : UInt32} (small : n.toNat + 1 < 2 ^ 32) (le : id.toNat ≤ n.toNat) :
    (id + 1).toNat = id.toNat + 1 := by
  rw [UInt32.toNat_add, UInt32.toNat_one]
  omega

theorem Ok.getBit (ok : Ok n state) (id : UInt32) :
    state.im.ba.xBitArrayGetBit id = true ↔ id ∈ state.held := ok.marks id

/-- The id the search looks at: 1 at the place behind the last id. -/
theorem Ok.candidate (ok : Ok n state) (nonempty : n ≠ 0) (inSearch : InSearch state n p)
    (passed : Passed state n p) (apart : p ≠ state.im.lastAllocated) :
    ∃ q, (if p = state.im.numCnt then 1 else p) = q ∧ InRange n q ∧
      (q = state.im.lastAllocated → q = 1) ∧
      (q ∈ state.held → InSearch state n (q + 1) ∧ Passed state n (q + 1)) := by
  have positive : 1 ≤ n.toNat := by
    rw [Nat.one_le_iff_ne_zero]
    exact fun zero => nonempty (UInt32.toNat_inj.mp zero)
  have count := ok.count
  have upper := inSearch.upper
  split
  · next atEnd =>
      have place : p.toNat = n.toNat + 1 := atEnd ▸ count
      have next : (1 + 1 : UInt32).toNat = 2 := rfl
      refine ⟨1, rfl, ⟨Nat.le_refl 1, positive⟩, fun _ => rfl, fun first => ⟨?_, ?_⟩⟩
      · exact ⟨by omega, by omega, by omega⟩
      · intro id inRange between
        by_cases isFirst : id.toNat = 1
        · rw [show id = 1 from UInt32.toNat_inj.mp isFirst]
          exact first
        · have lower := inRange.1
          have le := inRange.2
          exact passed id inRange (by omega)
  · next inside =>
      have place : p.toNat ≠ n.toNat + 1 := fun same => inside (UInt32.toNat_inj.mp (by omega))
      have inRange : InRange n p := ⟨inSearch.lower, by omega⟩
      have next := toNat_succ ok.small inRange.2
      have lower := inSearch.lower
      refine ⟨p, rfl, inRange, fun same => absurd same apart, fun marked => ⟨?_, ?_⟩⟩
      · exact ⟨by omega, by omega, by omega⟩
      · intro id idInRange between
        by_cases same : id.toNat = p.toNat
        · rw [UInt32.toNat_inj.mp same]
          exact marked
        · exact passed id idInRange (by omega)

/-- What the search returns, by induction on the times round the loop. -/
theorem Ok.found {fuel : Nat} {next : NumMgr} {id : UInt32} (ok : Ok n state)
    (nonempty : n ≠ 0) (inSearch : InSearch state n p) (passed : Passed state n p)
    (found : state.im.allocateFrom fuel p = some (next, id)) : Found state n next id := by
  induction fuel generalizing p with
  | zero => exact absurd found (Option.some_ne_none _).symm
  | succ fuel ih =>
      rw [allocateFrom] at found
      split at found
      · next same =>
          right
          obtain ⟨rfl, rfl⟩ := Prod.mk.inj (Option.some.inj found)
          have lower := inSearch.lower
          have first := inSearch.first
          rw [same] at lower first
          refine ⟨rfl, rfl, ?_, ?_⟩
          · by_contra below
            have zero := first (by omega)
            rw [zero] at lower
            exact absurd lower (by decide)
          · intro other free
            by_contra different
            apply free.2
            apply passed other free.1
            rw [same]
            have notSame : other.toNat ≠ state.im.lastAllocated.toNat := fun equal =>
              different (UInt32.toNat_inj.mp equal)
            omega
      · next apart =>
          obtain ⟨q, isCandidate, inRange, isLast, more⟩ :=
            ok.candidate nonempty inSearch passed apart
          simp only [isCandidate] at found
          split at found
          · next clear =>
              left
              obtain ⟨rfl, rfl⟩ := Prod.mk.inj (Option.some.inj found)
              refine ⟨rfl, ⟨inRange, ?_⟩, isLast⟩
              intro held
              rw [(ok.getBit q).mpr held] at clear
              exact absurd clear (by decide)
          · next marked =>
              have held : q ∈ state.held := (ok.getBit q).mp (by simpa using marked)
              have ⟨nextInSearch, nextPassed⟩ := more held
              exact ih nextInSearch nextPassed found

/-- Once round ends the search, unless the last id is the first one and all are held. -/
theorem Ok.full {fuel : Nat} (ok : Ok n state) (nonempty : n ≠ 0) (inSearch : InSearch state n p)
    (passed : Passed state n p)
    (enough : (if state.im.lastAllocated.toNat < p.toNat then
        n.toNat + 2 + state.im.lastAllocated.toNat
      else state.im.lastAllocated.toNat + 1) ≤ fuel + p.toNat)
    (endless : state.im.allocateFrom fuel p = none) :
    state.im.lastAllocated.toNat ≤ 1 ∧ ∀ id, InRange n id → id ∈ state.held := by
  have upper := inSearch.upper
  induction fuel generalizing p with
  | zero =>
      split at enough
      · omega
      · omega
  | succ fuel ih =>
      rw [allocateFrom] at endless
      split at endless
      · exact absurd endless (Option.some_ne_none _)
      · next apart =>
          have notSame : p.toNat ≠ state.im.lastAllocated.toNat := fun equal =>
            apart (UInt32.toNat_inj.mp equal)
          obtain ⟨q, isCandidate, inRange, isLast, more⟩ :=
            ok.candidate nonempty inSearch passed apart
          simp only [isCandidate] at endless
          split at endless
          · exact absurd endless (Option.some_ne_none _)
          · next marked =>
              have held : q ∈ state.held := (ok.getBit q).mp (by simpa using marked)
              have ⟨nextInSearch, nextPassed⟩ := more held
              have next := toNat_succ ok.small inRange.2
              have count := ok.count
              split at isCandidate
              · next atEnd =>
                  subst isCandidate
                  have place : p.toNat = n.toNat + 1 := atEnd ▸ count
                  have one : (1 : UInt32).toNat = 1 := rfl
                  by_cases isFirst : state.im.lastAllocated.toNat ≤ 1
                  · refine ⟨isFirst, fun id idInRange => ?_⟩
                    have le := idInRange.2
                    by_cases same : id.toNat = 1
                    · rw [show id = 1 from UInt32.toNat_inj.mp same]
                      exact held
                    · have lower := idInRange.1
                      exact passed id idInRange (by omega)
                  · have last := ok.last
                    apply ih nextInSearch nextPassed _ endless nextInSearch.upper
                    rw [if_pos (by omega)] at enough
                    rw [if_neg (by omega)]
                    omega
              · subst isCandidate
                apply ih nextInSearch nextPassed _ endless nextInSearch.upper
                split at enough
                · rw [if_pos (by omega)]
                  omega
                · rw [if_neg (by omega)]
                  omega

end Search

/-! ## Allocation and release -/

section Steps

variable {n : UInt32} {state : ManagedIds}

/-- The search starts behind the last id. -/
theorem Ok.inSearch_start (ok : Ok n state) :
    InSearch state n (state.im.lastAllocated + 1) ∧
      Passed state n (state.im.lastAllocated + 1) := by
  have next := toNat_succ ok.small ok.last
  have last := ok.last
  constructor
  · refine ⟨by omega, by omega, fun first => ?_⟩
    apply UInt32.toNat_inj.mp
    rw [UInt32.toNat_zero]
    omega
  · intro id inRange between
    omega

theorem Ok.allocate_found {next : NumMgr} {id : UInt32} (ok : Ok n state) (nonempty : n ≠ 0)
    (allocated : ulNumMgrAllocate state.im = some (next, id)) : Found state n next id :=
  ok.found nonempty ok.inSearch_start.1 ok.inSearch_start.2 allocated

theorem Ok.allocate_full (ok : Ok n state) (nonempty : n ≠ 0)
    (endless : ulNumMgrAllocate state.im = none) :
    state.im.lastAllocated.toNat ≤ 1 ∧ ∀ id, InRange n id → id ∈ state.held := by
  have next := toNat_succ ok.small ok.last
  have count := ok.count
  apply ok.full nonempty ok.inSearch_start.1 ok.inSearch_start.2 _ endless
  rw [if_pos (by omega)]
  omega

/-- An allocation that has not returned after once round never does. -/
theorem Ok.allocate_eq_none_iff (ok : Ok n state) (nonempty : n ≠ 0) :
    ulNumMgrAllocate state.im = none ↔
      ∀ fuel, state.im.allocateFrom fuel (state.im.lastAllocated + 1) = none := by
  obtain ⟨inSearch, passed⟩ := ok.inSearch_start
  constructor
  · intro endless fuel
    obtain ⟨isFirst, full⟩ := ok.allocate_full nonempty endless
    cases result : state.im.allocateFrom fuel (state.im.lastAllocated + 1) with
    | none => rfl
    | some result =>
        rcases ok.found nonempty inSearch passed result with ⟨_, free, _⟩ | ⟨_, _, two, _⟩
        · exact absurd (full _ free.1) free.2
        · omega
  · intro endless
    exact endless _

theorem run_allocate (state : ManagedIds) :
    (perform .allocate).run state =
      match ulNumMgrAllocate state.im with
      | none => .error .loops state
      | some (im, id) => .ok (.allocated id)
          { im, held := if id = uintMax then state.held else insert id state.held } := by
  simp only [perform, EStateM.run_bind, EStateM.run_get]
  cases ulNumMgrAllocate state.im <;> rfl

theorem run_release (state : ManagedIds) (id : UInt32) :
    (perform (.release id)).run state =
      .ok (.released (xNumMgrRelease state.im id).2)
        { im := (xNumMgrRelease state.im id).1
          held := if (xNumMgrRelease state.im id).2 then state.held.erase id else state.held } :=
  rfl

/-- A manager of no ids gives out the id 1. -/
theorem Ok.allocate_empty (ok : Ok 0 state) :
    ∃ next, ulNumMgrAllocate state.im = some (next, 1) := by
  have isZero : state.im.lastAllocated = 0 := UInt32.toNat_inj.mp (Nat.le_zero.mp ok.last)
  have isOne : state.im.numCnt = 1 := UInt32.toNat_inj.mp ok.count
  have clear : state.im.ba.xBitArrayGetBit 1 = false := by
    rw [← Bool.not_eq_true, ok.getBit, ok.unused isZero]
    exact Finset.notMem_empty 1
  simp [ulNumMgrAllocate, allocateFrom, isZero, isOne, clear]

theorem Ok.inRange_ne (ok : Ok n state) {id : UInt32} (inRange : InRange n id) : id ≠ uintMax := by
  rintro rfl
  have le := inRange.2
  have small := ok.small
  have max : uintMax.toNat = 2 ^ 32 - 1 := rfl
  omega

/-- Marking a free id keeps the manager as it should be. -/
theorem Ok.insert (ok : Ok n state) {id : UInt32} (inRange : InRange n id) :
    Ok n { im := { state.im with ba := state.im.ba.vBitArraySetBit id, lastAllocated := id }
           held := insert id state.held } where
  small := ok.small
  count := ok.count
  bits := setBit_nbbits.trans ok.bits
  marks := by
    intro other
    have inside : id < state.im.ba.nbbits := by
      rw [ok.bits, UInt32.lt_iff_toNat_lt, ok.count]
      exact Nat.lt_succ_of_le inRange.2
    simp only [xNumMgrIsAllocated, getBit_setBit, inside, and_true, Finset.mem_insert,
      ok.getBit]
  range := by
    intro other member
    rcases Finset.mem_insert.mp member with rfl | member
    · exact inRange
    · exact ok.range other member
  last := inRange.2
  unused := by
    rintro rfl
    exact absurd inRange.1 (by decide)

theorem Ok.erase (ok : Ok n state) (id : UInt32) :
    Ok n { im := { state.im with ba := state.im.ba.vBitArrayClearBit id }
           held := state.held.erase id } where
  small := ok.small
  count := ok.count
  bits := clearBit_nbbits.trans ok.bits
  marks := by
    intro other
    simp only [xNumMgrIsAllocated, getBit_clearBit, Finset.mem_erase, ok.getBit]
  range := fun other member => ok.range other (Finset.mem_of_mem_erase member)
  last := ok.last
  unused := by
    intro zero
    rw [ok.unused zero]
    rfl

/-- What an allocation makes of a manager as it should be, which stays one. -/
theorem Ok.allocate_step (ok : Ok n state) (nonempty : n ≠ 0) :
    (Properly n state .allocate ((perform .allocate).run state) ↔ ¬ state.OnlyLastFree n) ∧
      Ok n (Command.final ((perform .allocate).run state)) := by
  rw [run_allocate]
  cases allocated : ulNumMgrAllocate state.im with
  | none =>
      have full := (ok.allocate_full nonempty allocated).2
      refine ⟨⟨fun _ only => ?_, fun _ => trivial⟩, ok⟩
      exact only.1.2 (full _ only.1.1)
  | some result =>
      obtain ⟨next, id⟩ := result
      rcases ok.allocate_found nonempty allocated with
        ⟨rfl, free, isLast⟩ | ⟨rfl, rfl, two, others⟩
      · have after := ok.insert free.1
        simp only [if_neg (ok.inRange_ne free.1), Command.final_ok]
        refine ⟨⟨fun _ only => ?_, fun _ => ⟨after.marks, .inl free⟩⟩, after⟩
        have same := only.2.2 id free
        exact only.2.1 (same ▸ isLast same)
      · simp only [if_true, Command.final_ok]
        refine ⟨⟨?_, ?_⟩, ok⟩
        · rintro ⟨_, free | ⟨_, full⟩⟩ only
          · exact ok.inRange_ne free.1 rfl
          · exact full _ only.1
        · intro notOnly
          refine ⟨ok.marks, .inr ⟨rfl, fun other free => notOnly ?_⟩⟩
          have same := others other free
          subst same
          refine ⟨free, ?_, others⟩
          intro one
          rw [one] at two
          exact absurd two (by decide)

theorem Ok.release_step (ok : Ok n state) (id : UInt32) :
    Properly n state (.release id) ((perform (.release id)).run state) ∧
      Ok n (Command.final ((perform (.release id)).run state)) := by
  rw [run_release]
  have held := ok.getBit id
  cases bit : state.im.ba.xBitArrayGetBit id with
  | false =>
      rw [bit] at held
      simp only [xNumMgrRelease, bit, Bool.not_false, if_true, Command.final_ok]
      exact ⟨⟨ok.marks, held⟩, ok⟩
  | true =>
      rw [bit] at held
      simp only [xNumMgrRelease, bit, Bool.not_true, Bool.false_eq_true, if_false, if_true,
        Command.final_ok]
      exact ⟨⟨(ok.erase id).marks, held⟩, ok.erase id⟩

theorem Ok.properly_iff (ok : Ok n state) (operation : NumMgrOp) :
    Properly n state operation ((perform operation).run state) ↔
      Supported n state operation := by
  cases operation with
  | allocate =>
      by_cases nonempty : n = 0
      · subst nonempty
        obtain ⟨next, allocated⟩ := ok.allocate_empty
        rw [run_allocate, allocated]
        simp [Properly, Supported, Free, InRange, uintMax]
      · rw [(ok.allocate_step nonempty).1]
        exact (and_iff_right nonempty).symm
  | release id => exact iff_of_true (ok.release_step id).1 trivial

theorem Ok.step (ok : Ok n state) {operation : NumMgrOp}
    (supported : Supported n state operation) :
    Ok n (Command.final ((perform operation).run state)) := by
  cases operation with
  | allocate => exact (ok.allocate_step supported.1).2
  | release id => exact (ok.release_step id).2

end Steps

/-! ## Runs of a manager -/

/-- A new manager of `n` ids. -/
theorem ok_create {memory bitMemory : Bool} {n : UInt32} {im : NumMgr}
    (created : pxNumMgrCreate memory bitMemory n = some im) : Ok n { im, held := ∅ } := by
  rw [pxNumMgrCreate] at created
  split at created
  · cases created
  · next notMax =>
      split at created
      · cases created
      · rw [xNumMgrInit] at created
        split at created
        · obtain rfl := Option.some.inj created
          have small : n.toNat + 1 < 2 ^ 32 := by
            have notMaxNat : n.toNat ≠ 2 ^ 32 - 1 := fun same =>
              notMax (UInt32.toNat_inj.mp same)
            have inside := n.toNat_lt
            omega
          exact
            { small := small
              count := toNat_succ small (Nat.le_refl _)
              bits := rfl
              marks := fun id => by simp [xNumMgrIsAllocated, getBit_alloc]
              range := fun id member => absurd member (Finset.notMem_empty id)
              last := Nat.zero_le _
              unused := fun _ => rfl }
        · cases created

/-- The allocations and releases of a run are proper exactly if no allocation is made of
a manager without ids or while only the last id given out, not the first one, is
free. -/
theorem numMgr_run_iff {memory bitMemory : Bool} {n : UInt32} {im : NumMgr}
    (created : pxNumMgrCreate memory bitMemory n = some im) (operations : List NumMgrOp) :
    (∀ occurrence ∈ Trace.trace perform operations { im, held := ∅ },
      Properly n occurrence.before occurrence.event occurrence.result) ↔
      ∀ occurrence ∈ Trace.trace perform operations { im, held := ∅ },
        Supported n occurrence.before occurrence.event :=
  Trace.proper_iff_supported (Ok n) (Supported n) (Properly n)
    (fun _ operation ok => ok.properly_iff operation)
    (fun _ _ ok supported => ok.step supported) (ok_create created)

/-- The first id of three, given out and taken back. -/
theorem numMgr_run_iff_threeIds :
    ∃ im, pxNumMgrCreate true true 3 = some im ∧
      ∀ occurrence ∈ Trace.trace perform [.allocate, .release 1] { im, held := ∅ },
        Properly 3 occurrence.before occurrence.event occurrence.result := by
  refine ⟨_, rfl, (@numMgr_run_iff true true 3 _ rfl _).mpr ?_⟩
  intro occurrence member
  rcases Trace.mem_trace_cons.mp member with rfl | ⟨_, next, _, member⟩
  · refine ⟨by decide, fun only => ?_⟩
    exact absurd only.1.1.1 (by decide)
  · rcases Trace.mem_trace_cons.mp member with rfl | ⟨_, _, _, member⟩
    · trivial
    · exact absurd member List.not_mem_nil

/-- A manager of two ids, both given out and the last one taken back. -/
def lastReleased : ManagedIds where
  im := { numCnt := 3, lastAllocated := 2, ba := ⟨3, [2], rfl⟩ }
  held := {1}

/-- The id taken back is not given out again. -/
theorem released_id_refused :
    ∃ im, pxNumMgrCreate true true 2 = some im ∧
      ¬ ∀ occurrence ∈ Trace.trace perform [.allocate, .allocate, .release 2, .allocate]
          { im, held := ∅ },
        Properly 2 occurrence.before occurrence.event occurrence.result := by
  refine ⟨_, rfl, ?_⟩
  intro all
  have last := all ⟨lastReleased, .allocate, .ok (.allocated uintMax) lastReleased⟩
    (.tail _ (.tail _ (.tail _ (.head _))))
  rcases last.2 with free | ⟨-, full⟩
  · exact absurd free.1.2 (by decide)
  · exact full 2 ⟨⟨by decide, by decide⟩, by decide⟩

end ManagedIds

end RinaSense
