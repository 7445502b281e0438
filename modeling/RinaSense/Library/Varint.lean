import Mathlib.Data.List.Basic
import Mathlib.Data.Nat.Basic
import Mathlib.Algebra.Order.Ring.Nat

/-!
# Numbers in groups of seven bits

A number is laid out in bytes of seven bits each, the lowest first, and every byte but the last
is marked. A number has many layouts, the encoder has the shortest one, and where a layout ends
can be seen from its bytes.
-/

namespace Varint

/-- The layout of a number without idle groups. -/
def encode (number : Nat) : List UInt8 :=
  if number < 128 then [UInt8.ofNat number]
  else UInt8.ofNat (number % 128 + 128) :: encode (number / 128)
termination_by number

/-- The number that is laid out, whether its last byte is there or not. -/
def value : List UInt8 → Nat
  | [] => 0
  | byte :: bytes => byte.toNat % 128 + 128 * value bytes

/-- The bytes are the layout of a number. -/
inductive Numeral : List UInt8 → Prop where
  | last {byte : UInt8} (unmarked : byte.toNat < 128) : Numeral [byte]
  | more {byte : UInt8} {bytes : List UInt8} (marked : 128 ≤ byte.toNat)
      (rest : Numeral bytes) : Numeral (byte :: bytes)

/-- The layout the bytes begin with, and what follows it. -/
def split : List UInt8 → Option (List UInt8 × List UInt8)
  | [] => none
  | byte :: bytes =>
      if byte.toNat < 128 then some ([byte], bytes)
      else (split bytes).map fun parts => (byte :: parts.1, parts.2)

/-! ## Layouts -/

theorem toNat_unmarked {number : Nat} (small : number < 128) :
    (UInt8.ofNat number).toNat = number := by
  rw [UInt8.toNat_ofNat', Nat.mod_eq_of_lt (Nat.lt_trans small (by decide))]

theorem toNat_marked (number : Nat) :
    (UInt8.ofNat (number % 128 + 128)).toNat = number % 128 + 128 := by
  have small : number % 128 < 128 := Nat.mod_lt _ (by decide)
  rw [UInt8.toNat_ofNat', Nat.mod_eq_of_lt (by omega)]

theorem encode_of_lt {number : Nat} (small : number < 128) :
    encode number = [UInt8.ofNat number] := by
  rw [encode, if_pos small]

theorem encode_of_le {number : Nat} (large : 128 ≤ number) :
    encode number = UInt8.ofNat (number % 128 + 128) :: encode (number / 128) := by
  rw [encode, if_neg (Nat.not_lt.mpr large)]

theorem numeral_encode (number : Nat) : Numeral (encode number) := by
  induction number using Nat.strongRecOn with
  | ind number ih =>
      by_cases small : number < 128
      · rw [encode_of_lt small]
        exact .last (by rw [toNat_unmarked small]; exact small)
      · have large := Nat.le_of_not_lt small
        rw [encode_of_le large]
        refine .more ?_ (ih _ (Nat.div_lt_self (by omega) (by decide)))
        rw [toNat_marked]
        exact Nat.le_add_left _ _

theorem value_encode (number : Nat) : value (encode number) = number := by
  induction number using Nat.strongRecOn with
  | ind number ih =>
      by_cases small : number < 128
      · rw [encode_of_lt small, value, value, toNat_unmarked small, Nat.mod_eq_of_lt small]
        rfl
      · have large := Nat.le_of_not_lt small
        rw [encode_of_le large, value, ih _ (Nat.div_lt_self (by omega) (by decide)),
          toNat_marked, Nat.add_mod_right, Nat.mod_mod, Nat.mod_add_div]

theorem Numeral.length_pos {bytes : List UInt8} (numeral : Numeral bytes) : 0 < bytes.length := by
  cases numeral with
  | last => exact Nat.zero_lt_one
  | more => exact Nat.succ_pos _

theorem length_encode_pos (number : Nat) : 0 < (encode number).length :=
  (numeral_encode number).length_pos

/-- So many groups hold a number of so many bits. -/
theorem value_lt (bytes : List UInt8) : value bytes < 128 ^ bytes.length := by
  induction bytes with
  | nil => exact Nat.zero_lt_one
  | cons byte bytes ih =>
      have group : byte.toNat % 128 < 128 := Nat.mod_lt _ (by decide)
      rw [value, List.length_cons, Nat.pow_succ, Nat.mul_comm (128 ^ bytes.length)]
      omega

/-- The encoder needs as many groups as the number has. -/
theorem length_encode_le {number groups : Nat} (small : number < 128 ^ (groups + 1)) :
    (encode number).length ≤ groups + 1 := by
  induction groups generalizing number with
  | zero =>
      rw [encode_of_lt small]
      exact Nat.le_refl 1
  | succ groups ih =>
      by_cases single : number < 128
      · rw [encode_of_lt single]
        exact Nat.succ_le_succ (Nat.zero_le _)
      · rw [encode_of_le (Nat.le_of_not_lt single), List.length_cons]
        refine Nat.succ_le_succ (ih ((Nat.div_lt_iff_lt_mul (by decide)).mpr ?_))
        rw [← Nat.pow_succ]
        exact small

/-- No layout of a number is shorter than the encoder's. -/
theorem Numeral.length_encode_le {bytes : List UInt8} (numeral : Numeral bytes) :
    (encode (value bytes)).length ≤ bytes.length := by
  obtain ⟨groups, length⟩ := Nat.exists_eq_succ_of_ne_zero (Nat.ne_of_gt numeral.length_pos)
  rw [length]
  refine Varint.length_encode_le ?_
  rw [← Nat.succ_eq_add_one, ← length]
  exact value_lt bytes

theorem length_encode_mono {first second : Nat} (le : first ≤ second) :
    (encode first).length ≤ (encode second).length := by
  obtain ⟨groups, length⟩ :=
    Nat.exists_eq_succ_of_ne_zero (Nat.ne_of_gt (length_encode_pos second))
  have bound := value_lt (encode second)
  rw [value_encode, length] at bound
  rw [length]
  exact length_encode_le (Nat.lt_of_le_of_lt le bound)

/-! ## Where a layout ends -/

section Split

variable {numeral bytes rest : List UInt8}

theorem split_append (layout : Numeral numeral) (rest : List UInt8) :
    split (numeral ++ rest) = some (numeral, rest) := by
  induction layout with
  | last unmarked => exact if_pos unmarked
  | more marked layout ih =>
      rw [List.cons_append, split, if_neg (Nat.not_lt.mpr marked), ih]
      rfl

theorem split_eq_some_iff :
    split bytes = some (numeral, rest) ↔ Numeral numeral ∧ bytes = numeral ++ rest := by
  constructor
  · intro found
    induction bytes generalizing numeral with
    | nil => cases found
    | cons byte bytes ih =>
        rw [split] at found
        split at found
        case isTrue unmarked =>
          cases found
          exact ⟨.last unmarked, rfl⟩
        case isFalse marked =>
          obtain ⟨⟨first, last⟩, behind, same⟩ := Option.map_eq_some_iff.mp found
          cases same
          obtain ⟨layout, rfl⟩ := ih behind
          exact ⟨.more (Nat.le_of_not_lt marked) layout, rfl⟩
  · rintro ⟨layout, rfl⟩
    exact split_append layout rest

/-- A layout is not the beginning of another one. -/
theorem append_inj {other behind : List UInt8} (first : Numeral numeral) (second : Numeral other)
    (same : numeral ++ rest = other ++ behind) : numeral = other ∧ rest = behind := by
  have found := split_append first rest
  rw [same, split_append second behind] at found
  cases found
  exact ⟨rfl, rfl⟩

end Split

end Varint
