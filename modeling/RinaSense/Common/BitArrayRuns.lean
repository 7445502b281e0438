import RinaSense.Common.BitArray
import RinaSense.Library.Command
import RinaSense.Library.History

/-!
# Bit arrays as sets

A bit array stands for a set of the numbers below `nbbits`. Its operations read and
write units of the block `pxBitArrayAlloc` got, and are compared with those of the set over
whole runs.
-/

namespace RinaSense

inductive BitArrayOp where
  | set (n : UInt32)
  | clear (n : UInt32)
  | get (n : UInt32)
  deriving Repr, DecidableEq

/-- What goes wrong with a unit that is not in the block. -/
inductive BitArrayFault where
  | outsideBlock
  deriving Repr, DecidableEq

namespace BitArray

/-! ## Memory -/

/-- `nbUnits` of `pxBitArrayAlloc`. -/
def nbUnits (nbbits : UInt32) : UInt32 := nbbits / bitsPerUnit + 1

/-- The size `pxBitArrayAlloc` asks for, on the 32-bit target. -/
def blockSize (nbbits : UInt32) : UInt32 := 4 + nbUnits nbbits * 4

/-- Where the unit of a bit is in the block, behind `bitarray_t`. -/
def unitOffset (n : UInt32) : UInt32 := 4 + index n * 4

/-- The unit of a bit, as `*(UNIT *)` reads it. -/
def readUnit (n : UInt32) : EStateM BitArrayFault BitArray UInt32 := do
  match (← get).units[(index n).toNat]? with
  | some unit => return unit
  | none => throw .outsideBlock

def writeUnit (n unit : UInt32) : EStateM BitArrayFault BitArray Unit := do
  let ba ← get
  if (index n).toNat < ba.units.length then
    set (ba.modifyUnit n fun _ => unit)
  else throw .outsideBlock

end BitArray

namespace BitArrayOp

open BitArray

/-- The operations on memory. Only `get` has a result. -/
def perform : BitArrayOp → EStateM BitArrayFault BitArray (Option Bool)
  | set n => do
      if n < (← MonadState.get).nbbits then
        let unit ← readUnit n
        writeUnit n (unit ||| (1 <<< bit n))
      return none
  | clear n => do
      if n < (← MonadState.get).nbbits then
        let unit ← readUnit n
        writeUnit n (unit &&& ~~~(1 <<< bit n))
      return none
  | get n => do
      if n < (← MonadState.get).nbbits then
        let unit ← readUnit n
        return some (unit &&& (1 <<< bit n) > 0)
      else return some false

/-- The array after an operation. -/
def apply (ba : BitArray) : BitArrayOp → BitArray
  | set n => ba.vBitArraySetBit n
  | clear n => ba.vBitArrayClearBit n
  | get _ => ba

/-- What an operation returns. -/
def result (ba : BitArray) : BitArrayOp → Option Bool
  | set _ => none
  | clear _ => none
  | get n => some (ba.xBitArrayGetBit n)

/-- The array after a run. -/
def run (ba : BitArray) (operations : List BitArrayOp) : BitArray := operations.foldl apply ba

/-! ## Purpose -/

/-- The bit an operation is for. -/
def subject : BitArrayOp → UInt32
  | set n => n
  | clear n => n
  | get n => n

/-- What an operation makes of a set of numbers below a bound. -/
def intend {bound : Nat} (bits : Set (Fin bound)) : BitArrayOp → Set (Fin bound)
  | set n => bits ∪ {m | m.val = n.toNat}
  | clear n => bits \ {m | m.val = n.toNat}
  | get _ => bits

/-- The set a run leaves. -/
def intended (bound : Nat) (operations : List BitArrayOp) : Set (Fin bound) :=
  operations.foldl intend ∅

/-- The last of the operations on a bit, those that read it aside, sets it. -/
def LastSet (operations : List BitArrayOp) (n : UInt32) : Prop :=
  ∃ earlier later, operations = earlier ++ set n :: later ∧ clear n ∉ later

end BitArrayOp

/-- The bits that can be got are the numbers of a set. -/
structure BitArray.StandsFor {bound : Nat} (ba : BitArray) (bits : Set (Fin bound)) : Prop where
  nbbits : ba.nbbits.toNat = bound
  got : ∀ n, ba.xBitArrayGetBit n = true ↔ ∃ m ∈ bits, m.val = n.toNat

/-- After a run on an array for `nbbits` bits, an operation uses a unit in the block, if any,
returns what the set says and makes of the array what it makes of the set. -/
structure BitArrayOp.Refines (nbbits : UInt32) (before : List BitArrayOp)
    (operation : BitArrayOp) : Prop where
  performed : operation.perform.run (run (BitArray.pxBitArrayAlloc nbbits) before) =
    .ok (operation.result (run (BitArray.pxBitArrayAlloc nbbits) before))
      (run (BitArray.pxBitArrayAlloc nbbits) (before ++ [operation]))
  inBlock : operation.subject < nbbits →
    (BitArray.unitOffset operation.subject).toNat + 4 ≤ (BitArray.blockSize nbbits).toNat
  stands : (run (BitArray.pxBitArrayAlloc nbbits) (before ++ [operation])).StandsFor
    (intended nbbits.toNat (before ++ [operation]))
  returns : ∀ n, operation = get n →
    (operation.result (run (BitArray.pxBitArrayAlloc nbbits) before) = some true ↔
      n < nbbits ∧ LastSet before n)
  others : ∀ n, n ≠ operation.subject →
    (run (BitArray.pxBitArrayAlloc nbbits) (before ++ [operation])).xBitArrayGetBit n =
      (run (BitArray.pxBitArrayAlloc nbbits) before).xBitArrayGetBit n
  outside : ¬ operation.subject < nbbits →
    run (BitArray.pxBitArrayAlloc nbbits) (before ++ [operation]) =
      run (BitArray.pxBitArrayAlloc nbbits) before

/-! ## Units in the block -/

namespace BitArray

variable {ba : BitArray} {n nbbits : UInt32}

theorem index_lt (inside : n < ba.nbbits) : (index n).toNat < ba.units.length := by
  have below := UInt32.lt_iff_toNat_lt.mp inside
  rw [index_toNat, ba.sized]
  omega

/-- The unit of a bit in range ends where the block does or before. -/
theorem unitOffset_le (inside : n < nbbits) :
    (unitOffset n).toNat + 4 ≤ (blockSize nbbits).toNat := by
  have below := UInt32.lt_iff_toNat_lt.mp inside
  have bound := nbbits.toNat_lt
  have four : (4 : UInt32).toNat = 4 := rfl
  have units : (nbUnits nbbits).toNat = nbbits.toNat / 32 + 1 := by
    have one : (1 : UInt32).toNat = 1 := rfl
    have perUnit : bitsPerUnit.toNat = 32 := rfl
    rw [nbUnits, UInt32.toNat_add, UInt32.toNat_div, perUnit, one]
    omega
  have size : (blockSize nbbits).toNat = 4 + (nbbits.toNat / 32 + 1) * 4 := by
    rw [blockSize, UInt32.toNat_add, UInt32.toNat_mul, units, four]
    omega
  rw [unitOffset, UInt32.toNat_add, UInt32.toNat_mul, index_toNat, four, size]
  omega

theorem run_readUnit (inside : n < ba.nbbits) :
    (readUnit n).run ba = .ok (ba.units.getD (index n).toNat 0) ba := by
  have found := List.getElem?_eq_getElem (index_lt inside)
  simp only [readUnit, EStateM.run_bind, EStateM.run_get, found, EStateM.run_pure,
    List.getD_eq_getElem?_getD, Option.getD_some]

theorem run_writeUnit (inside : n < ba.nbbits) (unit : UInt32) :
    (writeUnit n unit).run ba = .ok ⟨⟩ (ba.modifyUnit n fun _ => unit) := by
  simp only [writeUnit, EStateM.run_bind, EStateM.run_get, index_lt inside, if_true,
    EStateM.run_set]

/-- Reading a unit and writing what was made of it changes the unit. -/
theorem modifyUnit_read (inside : n < ba.nbbits) (change : UInt32 → UInt32) :
    (ba.modifyUnit n fun _ => change (ba.units.getD (index n).toNat 0)) =
      ba.modifyUnit n change := by
  have found := List.getElem?_eq_getElem (index_lt inside)
  have same : ba.units.modify (index n).toNat
      (fun _ => change (ba.units.getD (index n).toNat 0)) =
        ba.units.modify (index n).toNat change := by
    apply List.ext_getElem?
    intro other
    rw [List.getElem?_modify, List.getElem?_modify]
    by_cases here : (index n).toNat = other
    · simp only [here, if_true]
      rw [← here, List.getD_eq_getElem?_getD, found]
      rfl
    · simp only [here, if_false]
  simp only [modifyUnit, same]

end BitArray

/-! ## Operations -/

namespace BitArrayOp

open BitArray

variable {ba : BitArray} {nbbits n : UInt32} {operation : BitArrayOp} {before : List BitArrayOp}

/-- No operation leaves the block. -/
theorem run_perform (operation : BitArrayOp) (ba : BitArray) :
    operation.perform.run ba = .ok (operation.result ba) (operation.apply ba) := by
  cases operation with
  | set n =>
      simp only [perform, EStateM.run_bind, EStateM.run_get, apply, result, vBitArraySetBit]
      by_cases inside : n < ba.nbbits
      · simp only [inside, if_true, EStateM.run_bind, run_readUnit inside, run_writeUnit inside,
          modifyUnit_read inside fun unit => unit ||| (1 <<< bit n), EStateM.run_pure]
      · simp only [inside, if_false, EStateM.run_pure]
  | clear n =>
      simp only [perform, EStateM.run_bind, EStateM.run_get, apply, result, vBitArrayClearBit]
      by_cases inside : n < ba.nbbits
      · simp only [inside, if_true, EStateM.run_bind, run_readUnit inside, run_writeUnit inside,
          modifyUnit_read inside fun unit => unit &&& ~~~(1 <<< bit n), EStateM.run_pure]
      · simp only [inside, if_false, EStateM.run_pure]
  | get n =>
      simp only [perform, EStateM.run_bind, EStateM.run_get, apply, result, xBitArrayGetBit]
      by_cases inside : n < ba.nbbits
      · simp only [inside, if_true, EStateM.run_bind, run_readUnit inside, EStateM.run_pure]
      · simp only [inside, if_false, EStateM.run_pure]

theorem run_concat (ba : BitArray) (before : List BitArrayOp) (operation : BitArrayOp) :
    run ba (before ++ [operation]) = operation.apply (run ba before) := by
  rw [run, List.foldl_append]
  rfl

theorem intended_concat (bound : Nat) (before : List BitArrayOp) (operation : BitArrayOp) :
    intended bound (before ++ [operation]) = operation.intend (intended bound before) := by
  rw [intended, List.foldl_append]
  rfl

theorem apply_nbbits : (operation.apply ba).nbbits = ba.nbbits := by
  cases operation with
  | set n => exact setBit_nbbits
  | clear n => exact clearBit_nbbits
  | get n => rfl

theorem run_nbbits (operations : List BitArrayOp) : (run ba operations).nbbits = ba.nbbits := by
  induction operations using List.reverseRecOn with
  | nil => rfl
  | append_singleton before operation ih => rw [run_concat, apply_nbbits, ih]

/-- Out of range an operation does nothing. -/
theorem apply_outside (outside : ¬ operation.subject < ba.nbbits) : operation.apply ba = ba := by
  cases operation with
  | set n => exact if_neg outside
  | clear n => exact if_neg outside
  | get n => rfl

theorem getBit_apply : (operation.apply ba).xBitArrayGetBit n = true ↔
    operation = set n ∧ n < ba.nbbits ∨ operation ≠ clear n ∧ ba.xBitArrayGetBit n = true := by
  cases operation with
  | set m =>
      rw [apply, getBit_setBit]
      by_cases same : n = m
      · simp [same]
      · simp [same, Ne.symm same]
  | clear m =>
      have other : n ≠ m ↔ clear m ≠ clear n := by
        rw [ne_eq, ne_eq, clear.injEq, eq_comm]
      rw [apply, getBit_clearBit, other]
      simp
  | get m => simp [apply]

/-- An operation on one bit leaves the others. -/
theorem getBit_other (different : n ≠ operation.subject) :
    (operation.apply ba).xBitArrayGetBit n = ba.xBitArrayGetBit n := by
  rw [Bool.eq_iff_iff, getBit_apply]
  cases operation with
  | set m =>
      have other : m ≠ n := Ne.symm different
      simp [other]
  | clear m =>
      have other : m ≠ n := Ne.symm different
      simp [other]
  | get m => simp

/-! ## Runs -/

theorem lastSet_concat : LastSet (before ++ [operation]) n ↔
    operation = set n ∨ operation ≠ clear n ∧ LastSet before n := by
  constructor
  · rintro ⟨earlier, later, split, kept⟩
    rcases List.eq_nil_or_concat later with rfl | ⟨middle, last, rfl⟩
    · exact .inl (List.append_inj_right' split rfl |> List.singleton_injective)
    · rw [List.concat_eq_append] at split kept
      rw [← List.cons_append, ← List.append_assoc] at split
      obtain ⟨rest, ends⟩ := List.append_inj' split rfl
      obtain rfl := List.singleton_injective ends
      refine .inr ⟨fun same => kept ?_, earlier, middle, rest, fun member => kept ?_⟩
      · exact List.mem_append_right _ (List.mem_singleton.mpr same.symm)
      · exact List.mem_append_left _ member
  · rintro (rfl | ⟨keeps, earlier, later, rfl, kept⟩)
    · exact ⟨before, [], rfl, List.not_mem_nil⟩
    · refine ⟨earlier, later ++ [operation], by simp, fun member => ?_⟩
      rcases List.mem_append.mp member with inLater | isLast
      · exact kept inLater
      · exact keeps (List.mem_singleton.mp isLast).symm

/-- What can be got after a run was last set. -/
theorem getBit_run (operations : List BitArrayOp) :
    (run (pxBitArrayAlloc nbbits) operations).xBitArrayGetBit n = true ↔
      n < nbbits ∧ LastSet operations n := by
  induction operations using List.reverseRecOn with
  | nil =>
      rw [run, List.foldl_nil, getBit_alloc]
      refine iff_of_false Bool.false_ne_true ?_
      rintro ⟨-, earlier, later, split, -⟩
      simp at split
  | append_singleton before operation ih =>
      have size : (run (pxBitArrayAlloc nbbits) before).nbbits = nbbits := run_nbbits before
      rw [run_concat, getBit_apply, ih, lastSet_concat, size]
      tauto

theorem mem_intended {bound : Nat} (operations : List BitArrayOp) {m : Fin bound}
    (same : m.val = n.toNat) : m ∈ intended bound operations ↔ LastSet operations n := by
  have subject_eq (other : UInt32) : m.val = other.toNat ↔ other = n := by
    rw [same, UInt32.toNat_inj, eq_comm]
  induction operations using List.reverseRecOn with
  | nil =>
      refine iff_of_false (Set.notMem_empty m) ?_
      rintro ⟨earlier, later, split, -⟩
      simp at split
  | append_singleton before operation ih =>
      have known : m ∈ intended bound before ↔ LastSet before n := ih
      rw [intended_concat, lastSet_concat, ← known]
      cases operation with
      | set other => simp [intend, subject_eq, eq_comm, or_comm]
      | clear other => simp [intend, subject_eq, eq_comm, and_comm]
      | get other => simp [intend]

theorem standsFor_run (operations : List BitArrayOp) :
    (run (pxBitArrayAlloc nbbits) operations).StandsFor (intended nbbits.toNat operations) where
  nbbits := congrArg UInt32.toNat (run_nbbits operations)
  got := by
    intro n
    rw [getBit_run]
    constructor
    · rintro ⟨below, set⟩
      let m : Fin nbbits.toNat := ⟨n.toNat, UInt32.lt_iff_toNat_lt.mp below⟩
      exact ⟨m, (@mem_intended n _ operations m rfl).mpr set, rfl⟩
    · rintro ⟨m, member, same⟩
      exact ⟨UInt32.lt_iff_toNat_lt.mpr (same ▸ m.isLt), (mem_intended operations same).mp member⟩

theorem refines (nbbits : UInt32) (before : List BitArrayOp) (operation : BitArrayOp) :
    Refines nbbits before operation where
  performed := by
    rw [run_perform, run_concat]
  inBlock := unitOffset_le
  stands := standsFor_run _
  returns := by
    rintro n rfl
    rw [result, Option.some_inj, getBit_run]
  others := by
    intro n different
    rw [run_concat, getBit_other different]
  outside := by
    intro outside
    have size : (run (pxBitArrayAlloc nbbits) before).nbbits = nbbits := run_nbbits before
    rw [run_concat]
    exact apply_outside (size.symm ▸ outside)

theorem run_sequence (operations : List BitArrayOp) (ba : BitArray) :
    (Command.sequence perform operations).run ba = .ok ⟨⟩ (run ba operations) := by
  induction operations generalizing ba with
  | nil => rfl
  | cons operation operations ih =>
      rw [Command.sequence, Command.run_bind_ok (run_perform operation ba), ih]
      rfl

/-- Every run of operations with any indices on an array of any size stays in the block and
refines a run on a set of the numbers below the size. -/
theorem bitArray_refines (nbbits : UInt32) (operations : List BitArrayOp) :
    (Command.sequence perform operations).run (pxBitArrayAlloc nbbits) =
        .ok ⟨⟩ (run (pxBitArrayAlloc nbbits) operations) ∧
      History.EachAfter (Refines nbbits) operations :=
  ⟨run_sequence operations _, fun before operation _ _ => refines nbbits before operation⟩

/-- The bits at both ends of the units of an array for 33 bits. -/
example : (run (pxBitArrayAlloc 33)
    [set 0, set 31, set 32, set 33, clear 0]).units = [0x80000000, 1] := by decide

end BitArrayOp

end RinaSense
