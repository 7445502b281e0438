import Mathlib.Data.List.GetD
import Mathlib.Data.UInt

/-!
# Bit arrays

`common/bit_array.h`: bits in units of 32, of which the first `nbbits` can be used.
-/

namespace RinaSense

/-- `BITS_PER_UNIT`. -/
def bitsPerUnit : UInt32 := 32

/-- `bitarray_t` with the units allocated behind it. -/
structure BitArray where
  nbbits : UInt32
  units : List UInt32
  sized : units.length = nbbits.toNat / 32 + 1
  deriving DecidableEq

namespace BitArray

def pxBitArrayAlloc (nbbits : UInt32) : BitArray where
  nbbits := nbbits
  units := List.replicate (nbbits.toNat / 32 + 1) 0
  sized := List.length_replicate

/-- `bit` of `BIT_INDEX`. -/
def bit (n : UInt32) : UInt32 := n % bitsPerUnit

/-- `index` of `BIT_INDEX`. -/
def index (n : UInt32) : UInt32 := (n - bit n) / bitsPerUnit

/-- Replace the unit of a bit. -/
def modifyUnit (ba : BitArray) (n : UInt32) (change : UInt32 → UInt32) : BitArray where
  nbbits := ba.nbbits
  units := ba.units.modify (index n).toNat change
  sized := (List.length_modify ..).trans ba.sized

def vBitArraySetBit (ba : BitArray) (n : UInt32) : BitArray :=
  if n < ba.nbbits then ba.modifyUnit n (· ||| (1 <<< bit n)) else ba

def vBitArrayClearBit (ba : BitArray) (n : UInt32) : BitArray :=
  if n < ba.nbbits then ba.modifyUnit n (· &&& ~~~(1 <<< bit n)) else ba

def xBitArrayGetBit (ba : BitArray) (n : UInt32) : Bool :=
  if n < ba.nbbits then ba.units.getD (index n).toNat 0 &&& (1 <<< bit n) > 0 else false

/-! ## Bits of a unit -/

theorem bit_toNat (n : UInt32) : (bit n).toNat = n.toNat % 32 := by
  simp [bit, bitsPerUnit]

theorem index_toNat (n : UInt32) : (index n).toNat = n.toNat / 32 := by
  have le : bit n ≤ n := by
    rw [UInt32.le_iff_toNat_le, bit_toNat]
    exact Nat.mod_le ..
  have sub : (n - bit n).toNat = n.toNat - n.toNat % 32 := by
    rw [UInt32.toNat_sub_of_le _ _ le, bit_toNat]
  rw [index, UInt32.toNat_div, sub]
  simp only [bitsPerUnit, UInt32.reduceToNat]
  omega

/-- A bit is known by its unit and its place there. -/
theorem eq_of_index_bit {n m : UInt32} (sameIndex : (index n).toNat = (index m).toNat)
    (sameBit : (bit n).toNat = (bit m).toNat) : n = m := by
  apply UInt32.toNat_inj.mp
  rw [index_toNat, index_toNat] at sameIndex
  rw [bit_toNat, bit_toNat] at sameBit
  omega

theorem toBitVec_mask (n : UInt32) :
    (1 <<< bit n : UInt32).toBitVec = BitVec.twoPow 32 (n.toNat % 32) := by
  apply BitVec.eq_of_toNat_eq
  rw [UInt32.toNat_toBitVec, UInt32.toNat_shiftLeft, bit_toNat, BitVec.toNat_twoPow,
    Nat.mod_mod, Nat.shiftLeft_eq]
  simp

/-- The test of a bit in its unit. -/
theorem and_mask_pos (unit n : UInt32) :
    unit &&& (1 <<< bit n) > 0 ↔ unit.toBitVec.getLsbD (n.toNat % 32) = true := by
  have within : n.toNat % 32 < 32 := Nat.mod_lt _ (by decide)
  rw [gt_iff_lt, UInt32.pos_iff_ne_zero, ne_eq, ← UInt32.toBitVec_inj, UInt32.toBitVec_and,
    toBitVec_mask, BitVec.and_twoPow]
  split
  · next set =>
      simp only [set, iff_true]
      intro zero
      have bitZero := congrArg (fun unit => unit.getLsbD (n.toNat % 32)) zero
      simp [within] at bitZero
  · next clear => simp [clear]

/-! ## Bits of an array -/

section Bits

variable {ba : BitArray} {n m : UInt32}

theorem getBit_iff : ba.xBitArrayGetBit m = true ↔
    m < ba.nbbits ∧ (ba.units.getD (index m).toNat 0).toBitVec.getLsbD (m.toNat % 32) = true := by
  rw [xBitArrayGetBit]
  split
  · next inside => simp only [decide_eq_true_eq, and_mask_pos, inside, true_and]
  · next outside => simp only [Bool.false_eq_true, outside, false_and]

@[simp] theorem setBit_nbbits : (ba.vBitArraySetBit n).nbbits = ba.nbbits := by
  rw [vBitArraySetBit]
  split <;> rfl

@[simp] theorem clearBit_nbbits : (ba.vBitArrayClearBit n).nbbits = ba.nbbits := by
  rw [vBitArrayClearBit]
  split <;> rfl

/-- The unit of a bit after a change of a unit. -/
theorem modifyUnit_unit (change : UInt32 → UInt32) (inside : m < ba.nbbits) :
    (ba.modifyUnit n change).units.getD (index m).toNat 0 =
      if (index n).toNat = (index m).toNat then change (ba.units.getD (index m).toNat 0)
      else ba.units.getD (index m).toNat 0 := by
  have inUnits : (index m).toNat < ba.units.length := by
    have below := UInt32.lt_iff_toNat_lt.mp inside
    rw [index_toNat, ba.sized]
    omega
  simp only [modifyUnit, List.getD_eq_getElem?_getD, List.getElem?_modify,
    List.getElem?_eq_getElem inUnits, Option.map_eq_map, Option.map_some, Option.getD_some]

/-- In the unit of a bit, another one has another place. -/
theorem place_ne (different : m ≠ n) (sameIndex : (index n).toNat = (index m).toNat) :
    m.toNat % 32 ≠ n.toNat % 32 := by
  intro sameBit
  rw [← bit_toNat, ← bit_toNat] at sameBit
  exact different (eq_of_index_bit sameIndex.symm sameBit)

theorem getBit_setBit : (ba.vBitArraySetBit n).xBitArrayGetBit m = true ↔
    m = n ∧ n < ba.nbbits ∨ ba.xBitArrayGetBit m = true := by
  have within : m.toNat % 32 < 32 := Nat.mod_lt _ (by decide)
  rw [vBitArraySetBit]
  split
  · next inside =>
      by_cases below : m < ba.nbbits
      · rw [getBit_iff, modifyUnit_unit _ below, getBit_iff]
        split
        · next sameIndex =>
            rw [UInt32.toBitVec_or, toBitVec_mask, BitVec.getLsbD_or]
            by_cases same : m = n
            · subst same
              simp [modifyUnit, inside, within]
            · have place := place_ne same sameIndex
              simp [modifyUnit, same, below, place.symm]
        · next otherIndex =>
            have different : m ≠ n := fun same => otherIndex (same ▸ rfl)
            simp [modifyUnit, different, below]
      · have different : m ≠ n := fun same => below (same ▸ inside)
        simp [xBitArrayGetBit, modifyUnit, below, different]
  · next outside => simp only [outside, and_false, false_or]

theorem getBit_clearBit : (ba.vBitArrayClearBit n).xBitArrayGetBit m = true ↔
    m ≠ n ∧ ba.xBitArrayGetBit m = true := by
  have within : m.toNat % 32 < 32 := Nat.mod_lt _ (by decide)
  rw [vBitArrayClearBit]
  split
  · next inside =>
      by_cases below : m < ba.nbbits
      · rw [getBit_iff, modifyUnit_unit _ below, getBit_iff]
        split
        · next sameIndex =>
            rw [UInt32.toBitVec_and, UInt32.toBitVec_not, toBitVec_mask, BitVec.getLsbD_and,
              BitVec.getLsbD_not]
            by_cases same : m = n
            · subst same
              simp [within]
            · have place := place_ne same sameIndex
              simp [modifyUnit, same, below, place, within]
        · next otherIndex =>
            have different : m ≠ n := fun same => otherIndex (same ▸ rfl)
            simp [modifyUnit, different, below]
      · simp [xBitArrayGetBit, modifyUnit, below]
  · next outside =>
      constructor
      · intro set
        have below := (getBit_iff.mp set).1
        exact ⟨fun same => outside (same ▸ below), set⟩
      · exact And.right

theorem getBit_alloc (nbbits : UInt32) : (pxBitArrayAlloc nbbits).xBitArrayGetBit m = false := by
  have zero (count : Nat) : (List.replicate count (0 : UInt32)).getD (index m).toNat 0 = 0 := by
    rw [List.getD_eq_getElem?_getD, List.getElem?_replicate]
    split <;> rfl
  rw [xBitArrayGetBit, pxBitArrayAlloc, zero]
  split <;> simp

end Bits

end BitArray

end RinaSense
