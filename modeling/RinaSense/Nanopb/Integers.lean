import Mathlib.Data.Nat.Bitwise
import RinaSense.Library.Varint
import RinaSense.Nanopb.Stream

/-!
# Integers on the wire

The variable-length and the fixed integers of `pb_encode.c` and `pb_decode.c`. The encoder works
on two words of 32 bits. There is a decoder for 64 bits and one for 32 bits, which checks that the
groups beyond its width are a sign extension.
-/

namespace RinaSense

open Command

/-! ## Encoding -/

/-- The first loop of `pb_encode_varint_32` with so many turns left: the bytes it puts in the
buffer and the byte it leaves. -/
def lowGroups : Nat → UInt8 → UInt32 → UInt32 → List UInt8 × UInt8
  | 0, byte, _, _ => ([], byte)
  | turns + 1, byte, low, high =>
      if low ≠ 0 ∨ high ≠ 0 then
        let (buffer, last) := lowGroups turns (low &&& 0x7F).toUInt8 (low >>> 7) high
        ((byte ||| 0x80) :: buffer, last)
      else ([], byte)

/-- The second loop, and the last byte. -/
def highGroups (byte : UInt8) (high : UInt32) : List UInt8 :=
  if high = 0 then [byte]
  else (byte ||| 0x80) :: highGroups (high &&& 0x7F).toUInt8 (high >>> 7)
termination_by high.toNat
decreasing_by
  rename_i present
  have positive : 0 < high.toNat :=
    Nat.pos_of_ne_zero fun zero => present (UInt32.toNat_inj.mp zero)
  rw [UInt32.toNat_shiftRight, Nat.shiftRight_eq_div_pow]
  exact Nat.div_lt_self positive (by decide)

/-- The buffer of `pb_encode_varint_32`. -/
def varint32Buffer (low high : UInt32) : List UInt8 :=
  let (buffer, byte) := lowGroups 4 (low &&& 0x7F).toUInt8 (low >>> 7) high
  if high ≠ 0 then
    buffer ++ highGroups (byte ||| ((high &&& 0x07) <<< 4).toUInt8) (high >>> 3)
  else buffer ++ [byte]

def pbEncodeVarint32 (low high : UInt32) : Encoder Unit :=
  pbWrite (varint32Buffer low high)

/-- A value of one group does not go through the loops. -/
def pbEncodeVarint (value : UInt64) : Encoder Unit :=
  if value ≤ 0x7F then pbWrite [value.toUInt8]
  else pbEncodeVarint32 value.toUInt32 (value >>> 32).toUInt32

/-- The zigzag form of a signed value. -/
def zigzagged (value : Int64) : UInt64 :=
  if value < 0 then ~~~(value.toUInt64 <<< 1) else value.toUInt64 <<< 1

def pbEncodeSvarint (value : Int64) : Encoder Unit :=
  pbEncodeVarint (zigzagged value)

def pbEncodeFixed32 (value : UInt32) : Encoder Unit :=
  pbWrite (LittleEndian.toBytes 4 value.toNat)

def pbEncodeFixed64 (value : UInt64) : Encoder Unit :=
  pbWrite (LittleEndian.toBytes 8 value.toNat)

/-! ## Decoding -/

/-- The loop of `pb_decode_varint` at a bit position. -/
def decodeVarintLoop (bitpos : Nat) (result : UInt64) :
    List UInt8 → EStateM.Result PbError (List UInt8) UInt64
  | [] => if 64 ≤ bitpos then .error .varintOverflow [] else .error .endOfStream []
  | byte :: bytes =>
      if 64 ≤ bitpos then .error .varintOverflow (byte :: bytes)
      else
        let result := result ||| ((byte &&& 0x7F).toUInt64 <<< UInt64.ofNat bitpos)
        if byte &&& 0x80 ≠ 0 then decodeVarintLoop (bitpos + 7) result bytes
        else .ok result bytes

def pbDecodeVarint : Decoder UInt64 := overBytes (decodeVarintLoop 0 0)

/-- A byte beyond the 32 bits of the result is idle or continues its sign. -/
def validExtension (bitpos : Nat) (result : UInt32) (byte : UInt8) : Prop :=
  byte &&& 0x7F = 0 ∨ (result >>> 31 ≠ 0 ∧ byte = if bitpos < 63 then 0xFF else 0x01)

instance decidableValidExtension (bitpos : Nat) (result : UInt32) (byte : UInt8) :
    Decidable (validExtension bitpos result byte) :=
  inferInstanceAs (Decidable (_ ∨ _))

/-- What a turn of the loop of `pb_decode_varint32_eof` does with its byte. -/
def varint32Group (bitpos : Nat) (result : UInt32) (byte : UInt8) : Except PbError UInt32 :=
  if 32 ≤ bitpos then
    if 64 ≤ bitpos ∨ ¬ validExtension bitpos result byte then .error .varintOverflow
    else .ok result
  else .ok (result ||| ((byte &&& 0x7F).toUInt32 <<< UInt32.ofNat bitpos))

/-- The loop of `pb_decode_varint32_eof` and the check behind it. -/
def decodeVarint32Loop (bitpos : Nat) (result : UInt32) :
    List UInt8 → EStateM.Result PbError (List UInt8) UInt32
  | [] => .error .endOfStream []
  | byte :: bytes =>
      match varint32Group bitpos result byte with
      | .error error => .error error bytes
      | .ok result =>
          if byte &&& 0x80 ≠ 0 then decodeVarint32Loop (bitpos + 7) result bytes
          else if bitpos + 7 = 35 ∧ byte &&& 0x70 ≠ 0 then .error .varintOverflow bytes
          else .ok result bytes

/-- The end of the stream is only found before the first byte, where the callers do not ask for
it: they read no tag from an empty stream. -/
def pbDecodeVarint32 : Decoder UInt32 := do
  let byte ← pbReadbyte
  if byte &&& 0x80 = 0 then return byte.toUInt32
  else overBytes (decodeVarint32Loop 7 (byte &&& 0x7F).toUInt32)

def pbSkipVarintLoop : List UInt8 → EStateM.Result PbError (List UInt8) Unit
  | [] => .error .endOfStream []
  | byte :: bytes => if byte &&& 0x80 ≠ 0 then pbSkipVarintLoop bytes else .ok ⟨⟩ bytes

def pbSkipVarint : Decoder Unit := overBytes pbSkipVarintLoop

def pbDecodeBool : Decoder Bool := do
  let value ← pbDecodeVarint32
  return value != 0

/-- The signed value of a zigzag form. -/
def unzigzagged (value : UInt64) : Int64 :=
  if value &&& 1 ≠ 0 then (~~~(value >>> 1)).toInt64 else (value >>> 1).toInt64

def pbDecodeSvarint : Decoder Int64 := do
  let value ← pbDecodeVarint
  return unzigzagged value

def pbDecodeFixed32 : Decoder UInt32 := do
  let bytes ← pbRead 4
  return UInt32.ofNat (LittleEndian.ofBytes bytes)

def pbDecodeFixed64 : Decoder UInt64 := do
  let bytes ← pbRead 8
  return UInt64.ofNat (LittleEndian.ofBytes bytes)

/-! ## Groups -/

theorem toNat_group (byte : UInt8) : (byte &&& 0x7F).toNat = byte.toNat % 128 := by
  rw [UInt8.toNat_and]
  exact Nat.and_two_pow_sub_one_eq_mod byte.toNat 7

theorem marked_iff {byte : UInt8} : byte &&& 0x80 ≠ 0 ↔ 128 ≤ byte.toNat := by
  have bound := byte.toNat_lt
  have bit : (byte &&& 0x80).toNat = (byte.toNat.testBit 7).toNat * 128 := by
    rw [UInt8.toNat_and]
    exact Nat.and_two_pow byte.toNat 7
  rw [Ne, ← UInt8.toNat_inj, bit, Nat.testBit_eq_decide_div_mod_eq]
  have top : byte.toNat / 2 ^ 7 % 2 = 1 ↔ 128 ≤ byte.toNat := by omega
  by_cases marked : 128 ≤ byte.toNat
  · simp only [top.mpr marked, marked, decide_true, iff_true]
    decide
  · simp only [mt top.mp marked, marked, decide_false, iff_false, not_not]
    rfl

theorem toNat_mark {byte : UInt8} (unmarked : byte.toNat < 128) :
    (byte ||| 0x80).toNat = byte.toNat + 128 := by
  have parts := Nat.two_pow_add_eq_or_of_lt (i := 7) unmarked 1
  rw [UInt8.toNat_or, Nat.or_comm, Nat.add_comm]
  exact parts.symm

theorem toNat_low_group (word : UInt32) : (word &&& 0x7F).toUInt8.toNat = word.toNat % 128 := by
  have group : (word &&& 0x7F).toNat = word.toNat % 128 := by
    rw [UInt32.toNat_and]
    exact Nat.and_two_pow_sub_one_eq_mod word.toNat 7
  rw [UInt32.toNat_toUInt8, group]
  omega

theorem toNat_shiftRight_seven (word : UInt32) : (word >>> 7).toNat = word.toNat / 128 := by
  rw [UInt32.toNat_shiftRight, Nat.shiftRight_eq_div_pow]
  rfl

/-! ## What the encoder writes -/

theorem encode_marked {byte : UInt8} (unmarked : byte.toNat < 128) {rest : Nat}
    (present : 0 < rest) :
    Varint.encode (byte.toNat + 128 * rest) = (byte ||| 0x80) :: Varint.encode rest := by
  have group : (byte.toNat + 128 * rest) % 128 = byte.toNat := by omega
  have others : (byte.toNat + 128 * rest) / 128 = rest := by omega
  rw [Varint.encode_of_le (by omega), group, others, ← toNat_mark unmarked, UInt8.ofNat_toNat]

theorem encode_last {byte : UInt8} (unmarked : byte.toNat < 128) :
    Varint.encode byte.toNat = [byte] := by
  rw [Varint.encode_of_lt unmarked, UInt8.ofNat_toNat]

theorem toNat_pos_of_ne {word : UInt32} (present : word ≠ 0) : 0 < word.toNat :=
  Nat.pos_of_ne_zero fun zero => present (UInt32.toNat_inj.mp zero)

theorem highGroups_eq {byte : UInt8} (unmarked : byte.toNat < 128) (high : UInt32) :
    highGroups byte high = Varint.encode (byte.toNat + 128 * high.toNat) := by
  induction byte, high using highGroups.induct with
  | case1 byte =>
      rw [highGroups, if_pos rfl]
      exact (encode_last unmarked).symm
  | case2 byte high present ih =>
      have group : high.toNat % 128 < 128 := Nat.mod_lt _ (by decide)
      rw [highGroups, if_neg present, ih (by rw [toNat_low_group]; exact group),
        toNat_low_group, toNat_shiftRight_seven, Nat.mod_add_div,
        encode_marked unmarked (toNat_pos_of_ne present)]

/-- The byte that is left of the low word and the high word. -/
def highPart (byte : UInt8) (high : UInt32) : List UInt8 :=
  if high ≠ 0 then highGroups (byte ||| ((high &&& 0x07) <<< 4).toUInt8) (high >>> 3)
  else [byte]

theorem highPart_eq {byte : UInt8} (half : byte.toNat < 16) (high : UInt32) :
    highPart byte high = Varint.encode (byte.toNat + 16 * high.toNat) := by
  rw [highPart]
  by_cases present : high ≠ 0
  · have low : (high &&& 0x07).toNat = high.toNat % 8 := by
      rw [UInt32.toNat_and]
      exact Nat.and_two_pow_sub_one_eq_mod high.toNat 3
    have shifted : ((high &&& 0x07) <<< 4).toUInt8.toNat = 2 ^ 4 * (high.toNat % 8) := by
      rw [UInt32.toNat_toUInt8, UInt32.toNat_shiftLeft, low, Nat.shiftLeft_eq]
      change high.toNat % 8 * 2 ^ 4 % 2 ^ 32 % 2 ^ 8 = _
      omega
    have joined : (byte ||| ((high &&& 0x07) <<< 4).toUInt8).toNat =
        byte.toNat + 16 * (high.toNat % 8) := by
      rw [UInt8.toNat_or, shifted, Nat.or_comm,
        ← Nat.two_pow_add_eq_or_of_lt (i := 4) half (high.toNat % 8)]
      omega
    have rest : (high >>> 3).toNat = high.toNat / 8 := by
      rw [UInt32.toNat_shiftRight, Nat.shiftRight_eq_div_pow]
      rfl
    rw [if_pos present, highGroups_eq (by omega), joined, rest]
    congr 1
    omega
  · rw [if_neg present, not_not.mp present]
    exact (encode_last (by omega)).symm

/-- The groups of the low word from any of its four turns on. -/
theorem lowGroups_eq (turns : Nat) {byte : UInt8} (unmarked : byte.toNat < 128) {low : UInt32}
    (small : low.toNat < 2 ^ (7 * turns + 4)) (high : UInt32) :
    (lowGroups (turns + 1) byte low high).1 ++
        highPart (lowGroups (turns + 1) byte low high).2 high =
      Varint.encode (byte.toNat + 128 * (low.toNat + 2 ^ (7 * turns + 4) * high.toNat)) := by
  induction turns generalizing byte low with
  | zero =>
      simp only [lowGroups]
      split
      · rename_i present
        have half : (low &&& 0x7F).toUInt8.toNat = low.toNat := by
          rw [toNat_low_group, Nat.mod_eq_of_lt (Nat.lt_trans small (by decide))]
        have more : 0 < low.toNat + 2 ^ (7 * 0 + 4) * high.toNat := by
          rcases present with present | present
          · exact Nat.add_pos_left (toNat_pos_of_ne present) _
          · exact Nat.add_pos_right _ (Nat.mul_pos (by decide) (toNat_pos_of_ne present))
        rw [encode_marked unmarked more, List.singleton_append,
          highPart_eq (by rw [half]; exact small), half]
        rfl
      · rename_i absent
        obtain ⟨rfl, rfl⟩ := not_or.mp absent |>.imp not_not.mp not_not.mp
        exact (encode_last unmarked).symm
  | succ turns ih =>
      rw [lowGroups]
      split
      · rename_i present
        have power : 2 ^ (7 * (turns + 1) + 4) = 128 * 2 ^ (7 * turns + 4) := by
          rw [show 7 * (turns + 1) + 4 = 7 + (7 * turns + 4) by omega, Nat.pow_add]
        have more : 0 < low.toNat + 2 ^ (7 * (turns + 1) + 4) * high.toNat := by
          rcases present with present | present
          · exact Nat.add_pos_left (toNat_pos_of_ne present) _
          · exact Nat.add_pos_right _ (Nat.mul_pos (Nat.two_pow_pos _) (toNat_pos_of_ne present))
        have group : low.toNat % 128 < 128 := Nat.mod_lt _ (by decide)
        have following := @ih (low &&& 0x7F).toUInt8 (by rw [toNat_low_group]; exact group)
          (low >>> 7) (by
            rw [toNat_shiftRight_seven]
            exact Nat.div_lt_of_lt_mul (Nat.lt_of_lt_of_eq small power))
        rw [encode_marked unmarked more]
        simp only [List.cons_append]
        rw [following, toNat_low_group, toNat_shiftRight_seven, power, Nat.mul_add,
          ← Nat.add_assoc, Nat.mod_add_div, Nat.mul_assoc]
      · rename_i absent
        obtain ⟨rfl, rfl⟩ := not_or.mp absent |>.imp not_not.mp not_not.mp
        exact (encode_last unmarked).symm

theorem varint32Buffer_eq (low high : UInt32) :
    varint32Buffer low high = Varint.encode (low.toNat + 2 ^ 32 * high.toNat) := by
  have group : low.toNat % 128 < 128 := Nat.mod_lt _ (by decide)
  have groups := @lowGroups_eq 3 (low &&& 0x7F).toUInt8 (by rw [toNat_low_group]; exact group)
    (low >>> 7) (by
      rw [toNat_shiftRight_seven]
      exact Nat.div_lt_of_lt_mul low.toNat_lt) high
  have parts : varint32Buffer low high =
      (lowGroups 4 (low &&& 0x7F).toUInt8 (low >>> 7) high).1 ++
        highPart (lowGroups 4 (low &&& 0x7F).toUInt8 (low >>> 7) high).2 high := by
    rw [highPart]
    by_cases present : high ≠ 0
    · rw [if_pos present]
      exact if_pos present
    · rw [if_neg present]
      exact if_neg present
  rw [parts, groups, toNat_low_group, toNat_shiftRight_seven]
  congr 1
  omega

/-- Both ways write the shortest layout of the value. -/
theorem pbEncodeVarint_eq (value : UInt64) :
    pbEncodeVarint value = pbWrite (Varint.encode value.toNat) := by
  have bound := value.toNat_lt
  rw [pbEncodeVarint]
  split
  · rename_i single
    have small : value.toNat < 128 := Nat.lt_succ_of_le (UInt64.le_iff_toNat_le.mp single)
    rw [Varint.encode_of_lt small]
    congr 2
  · have high : (value >>> 32).toUInt32.toNat = value.toNat / 2 ^ 32 := by
      rw [UInt64.toNat_toUInt32, UInt64.toNat_shiftRight, Nat.shiftRight_eq_div_pow]
      change value.toNat / 2 ^ 32 % 2 ^ 32 = _
      omega
    rw [pbEncodeVarint32, varint32Buffer_eq, high, UInt64.toNat_toUInt32, Nat.mod_add_div]

/-! ## What the decoders read -/

/-- A group above the bits that are there, in a word of a given width. -/
theorem add_group_mod {low group bitpos width : Nat} (small : low < 2 ^ bitpos)
    (inside : bitpos ≤ width) :
    (low + 2 ^ bitpos * group) % 2 ^ width =
      2 ^ bitpos * (group % 2 ^ (width - bitpos)) + low := by
  have whole : 2 ^ width = 2 ^ bitpos * 2 ^ (width - bitpos) := by
    rw [← Nat.pow_add, Nat.add_sub_cancel' inside]
  have rest : (low + 2 ^ bitpos * group) % 2 ^ bitpos = low := by
    rw [Nat.add_mul_mod_self_left, Nat.mod_eq_of_lt small]
  have top : (low + 2 ^ bitpos * group) / 2 ^ bitpos = group := by
    rw [Nat.add_mul_div_left _ _ (Nat.two_pow_pos _), Nat.div_eq_of_lt small, Nat.zero_add]
  rw [whole, Nat.mod_mul, rest, top, Nat.add_comm]

theorem or_group {result : UInt64} {bitpos : Nat} (small : result.toNat < 2 ^ bitpos)
    (inside : bitpos < 64) (byte : UInt8) :
    result ||| ((byte &&& 0x7F).toUInt64 <<< UInt64.ofNat bitpos) =
      UInt64.ofNat (result.toNat + 2 ^ bitpos * (byte.toNat % 128)) := by
  have position : (UInt64.ofNat bitpos).toNat % 64 = bitpos := by
    rw [UInt64.toNat_ofNat', Nat.mod_eq_of_lt (Nat.lt_trans inside (by decide)),
      Nat.mod_eq_of_lt inside]
  have group : (byte &&& 0x7F).toUInt64.toNat = byte.toNat % 128 := by
    rw [UInt8.toNat_toUInt64, toNat_group]
  have shifted : byte.toNat % 128 * 2 ^ bitpos % 2 ^ 64 =
      2 ^ bitpos * (byte.toNat % 128 % 2 ^ (64 - bitpos)) := by
    have alone := @add_group_mod 0 (byte.toNat % 128) bitpos 64 (Nat.two_pow_pos _)
      (Nat.le_of_lt inside)
    rw [Nat.zero_add, Nat.add_zero, Nat.mul_comm] at alone
    exact alone
  apply UInt64.toNat_inj.mp
  rw [UInt64.toNat_or, UInt64.toNat_shiftLeft, position, group, Nat.shiftLeft_eq, shifted,
    Nat.or_comm, ← Nat.two_pow_add_eq_or_of_lt small, UInt64.toNat_ofNat',
    add_group_mod small (Nat.le_of_lt inside)]

/-- How many bytes the 64-bit decoder looks at. -/
def varintBytes : Nat := 10

/-- The loop from its turn `turns` on: a layout is read as its value, and an error says whether the
bytes end too early or the layout is too long. -/
theorem decodeVarintLoop_eq {turns : Nat} (within : turns ≤ varintBytes) {result : UInt64}
    (small : result.toNat < 2 ^ (7 * turns)) (bytes : List UInt8) :
    decodeVarintLoop (7 * turns) result bytes =
      match Varint.split bytes with
      | some (numeral, rest) =>
          if turns + numeral.length ≤ varintBytes then
            .ok (UInt64.ofNat (result.toNat + 2 ^ (7 * turns) * Varint.value numeral)) rest
          else .error .varintOverflow (bytes.drop (varintBytes - turns))
      | none =>
          if turns + bytes.length < varintBytes then .error .endOfStream []
          else .error .varintOverflow (bytes.drop (varintBytes - turns)) := by
  induction bytes generalizing turns result with
  | nil =>
      have turn : 64 ≤ 7 * turns ↔ ¬ turns + 0 < varintBytes := by
        rw [varintBytes] at within ⊢
        omega
      simp only [decodeVarintLoop, Varint.split, List.length_nil, List.drop_nil]
      by_cases last : 64 ≤ 7 * turns
      · rw [if_pos last, if_neg (turn.mp last)]
      · rw [if_neg last, if_pos (not_not.mp (mt turn.mpr last))]
  | cons byte bytes ih =>
      rw [decodeVarintLoop, Varint.split]
      by_cases last : 64 ≤ 7 * turns
      · have full : turns = varintBytes := by
          rw [varintBytes] at within ⊢
          omega
        rw [if_pos last, full, Nat.sub_self, List.drop_zero]
        split
        · rename_i numeral rest found
          obtain ⟨layout, -⟩ := (@Varint.split_eq_some_iff numeral (byte :: bytes) rest).mp found
          rw [if_neg (by have length := layout.length_pos; omega)]
        · rw [if_neg (by rw [List.length_cons]; omega)]
      · have inside : 7 * turns < 64 := Nat.lt_of_not_le last
        have before : turns + 1 ≤ varintBytes := by
          rw [varintBytes]
          omega
        rw [if_neg last]
        simp only [or_group small inside, marked_iff]
        by_cases unmarked : byte.toNat < 128
        · rw [if_neg (Nat.not_le.mpr unmarked), if_pos unmarked]
          simp only [Varint.value, List.length_singleton, if_pos before, Nat.mul_zero,
            Nat.add_zero]
        · have marked := Nat.le_of_not_lt unmarked
          have dropped : varintBytes - turns = varintBytes - (turns + 1) + 1 := by omega
          have power : 2 ^ (7 * (turns + 1)) = 2 ^ (7 * turns) * 128 := by
            rw [Nat.mul_add, Nat.pow_add]
          have group : byte.toNat % 128 < 128 := Nat.mod_lt _ (by decide)
          have next : (UInt64.ofNat (result.toNat +
              2 ^ (7 * turns) * (byte.toNat % 128))).toNat < 2 ^ (7 * (turns + 1)) := by
            have parts : 2 ^ (7 * turns) * (byte.toNat % 128) + 2 ^ (7 * turns) ≤
                2 ^ (7 * turns) * 128 := by
              rw [← Nat.mul_succ]
              exact Nat.mul_le_mul_left _ group
            rw [power, UInt64.toNat_ofNat']
            exact Nat.lt_of_le_of_lt (Nat.mod_le _ _) (by omega)
          rw [if_pos marked, if_neg unmarked]
          refine (ih before next).trans ?_
          cases found : Varint.split bytes with
          | none =>
              simp only [Option.map_none, List.length_cons, dropped, List.drop_succ_cons,
                Nat.add_right_comm turns 1, ← Nat.add_assoc]
          | some parts =>
              simp only [Option.map_some, List.length_cons, dropped, List.drop_succ_cons,
                Nat.add_right_comm turns 1, ← Nat.add_assoc, Varint.value, power]
              congr 2
              apply UInt64.toNat_inj.mp
              rw [UInt64.toNat_ofNat', UInt64.toNat_ofNat', UInt64.toNat_ofNat', Nat.mod_add_mod,
                Nat.mul_add, Nat.mul_assoc, Nat.add_assoc]

/-! ## The decoder for 32 bits -/

theorem or_group32 {result : UInt32} {bitpos : Nat} (small : result.toNat < 2 ^ bitpos)
    (inside : bitpos < 32) (byte : UInt8) :
    result ||| ((byte &&& 0x7F).toUInt32 <<< UInt32.ofNat bitpos) =
      UInt32.ofNat (result.toNat + 2 ^ bitpos * (byte.toNat % 128)) := by
  have position : (UInt32.ofNat bitpos).toNat % 32 = bitpos := by
    rw [UInt32.toNat_ofNat', Nat.mod_eq_of_lt (Nat.lt_trans inside (by decide)),
      Nat.mod_eq_of_lt inside]
  have group : (byte &&& 0x7F).toUInt32.toNat = byte.toNat % 128 := by
    rw [UInt8.toNat_toUInt32, toNat_group]
  have shifted : byte.toNat % 128 * 2 ^ bitpos % 2 ^ 32 =
      2 ^ bitpos * (byte.toNat % 128 % 2 ^ (32 - bitpos)) := by
    have alone := @add_group_mod 0 (byte.toNat % 128) bitpos 32 (Nat.two_pow_pos _)
      (Nat.le_of_lt inside)
    rw [Nat.zero_add, Nat.add_zero, Nat.mul_comm] at alone
    exact alone
  apply UInt32.toNat_inj.mp
  rw [UInt32.toNat_or, UInt32.toNat_shiftLeft, position, group, Nat.shiftLeft_eq, shifted,
    Nat.or_comm, ← Nat.two_pow_add_eq_or_of_lt small, UInt32.toNat_ofNat',
    add_group_mod small (Nat.le_of_lt inside)]

/-- What the decoder has read after some turns: the low bits of the number. -/
def lowWord (number : Nat) : UInt32 := UInt32.ofNat number

/-- The groups a turn of the 32-bit loop lets pass. -/
def Passes (turns low : Nat) (byte : UInt8) : Prop :=
  turns < 5 ∨ turns < varintBytes ∧ validExtension (7 * turns) (lowWord low) byte

/-- A turn adds its group to the number, of which the word keeps the low bits. -/
theorem varint32Group_eq {turns low : Nat} (small : low < 2 ^ (7 * turns)) (byte : UInt8)
    (passes : Passes turns low byte) :
    varint32Group (7 * turns) (lowWord low) byte =
      .ok (lowWord (low + 2 ^ (7 * turns) * (byte.toNat % 128))) := by
  rw [varint32Group]
  by_cases early : turns < 5
  · have word : (lowWord low).toNat = low := by
      rw [lowWord, UInt32.toNat_ofNat']
      refine Nat.mod_eq_of_lt (Nat.lt_of_lt_of_le small ?_)
      exact Nat.pow_le_pow_right (by decide) (by omega)
    rw [if_neg (by omega), or_group32 (by rw [word]; exact small) (by omega), word, lowWord]
  · obtain ⟨before, valid⟩ := passes.resolve_left early
    have high : 2 ^ (7 * turns) = 2 ^ 32 * 2 ^ (7 * turns - 32) := by
      rw [← Nat.pow_add, Nat.add_sub_cancel' (by omega)]
    rw [if_pos (by omega), if_neg (not_or.mpr ⟨by rw [varintBytes] at before; omega,
      not_not.mpr valid⟩)]
    congr 1
    apply UInt32.toNat_inj.mp
    rw [lowWord, lowWord, UInt32.toNat_ofNat', UInt32.toNat_ofNat', high, Nat.mul_assoc,
      Nat.add_mul_mod_self_left]

theorem varint32Group_stops {turns low : Nat} {byte : UInt8} (stopped : ¬ Passes turns low byte) :
    varint32Group (7 * turns) (lowWord low) byte = .error .varintOverflow := by
  obtain ⟨late, invalid⟩ := not_or.mp stopped
  have cause : 64 ≤ 7 * turns ∨ ¬ validExtension (7 * turns) (lowWord low) byte := by
    by_cases before : turns < varintBytes
    · exact .inr fun valid => invalid ⟨before, valid⟩
    · exact .inl (by rw [varintBytes] at before; omega)
  rw [varint32Group, if_pos (by omega), if_pos cause]

/-- The groups of a layout the 32-bit loop accepts from a turn on. -/
def Accepts32 (turns low : Nat) : List UInt8 → Prop
  | [] => True
  | byte :: bytes =>
      Passes turns low byte ∧
        (byte.toNat < 128 → turns = 4 → byte &&& 0x70 = 0) ∧
        Accepts32 (turns + 1) (low + 2 ^ (7 * turns) * (byte.toNat % 128)) bytes

theorem add_group_lt {turns low : Nat} (small : low < 2 ^ (7 * turns)) (byte : UInt8) :
    low + 2 ^ (7 * turns) * (byte.toNat % 128) < 2 ^ (7 * (turns + 1)) := by
  have group : byte.toNat % 128 < 128 := Nat.mod_lt _ (by decide)
  have parts : 2 ^ (7 * turns) * (byte.toNat % 128) + 2 ^ (7 * turns) ≤ 2 ^ (7 * turns) * 128 := by
    rw [← Nat.mul_succ]
    exact Nat.mul_le_mul_left _ group
  rw [Nat.mul_add, Nat.pow_add]
  omega

theorem add_group_value (turns low group value : Nat) :
    low + 2 ^ (7 * turns) * group + 2 ^ (7 * (turns + 1)) * value =
      low + 2 ^ (7 * turns) * (group + 128 * value) := by
  rw [Nat.mul_add 7, Nat.pow_add, Nat.mul_assoc, Nat.add_assoc, ← Nat.mul_add]

/-- The loop returns on exactly the layouts it accepts, and returns the low word. -/
theorem decodeVarint32Loop_eq_ok {turns low : Nat} (small : low < 2 ^ (7 * turns))
    {bytes rest : List UInt8} {value : UInt32} :
    decodeVarint32Loop (7 * turns) (lowWord low) bytes = .ok value rest ↔
      ∃ numeral, Varint.Numeral numeral ∧ bytes = numeral ++ rest ∧
        Accepts32 turns low numeral ∧
        value = lowWord (low + 2 ^ (7 * turns) * Varint.value numeral) := by
  induction bytes generalizing turns low with
  | nil =>
      refine iff_of_false (by rintro ⟨⟩) ?_
      rintro ⟨numeral, layout, empty, -⟩
      rw [(List.append_eq_nil_iff.mp empty.symm).1] at layout
      cases layout
  | cons byte bytes ih =>
      have next := ih (add_group_lt small byte)
      have single : 7 * turns + 7 = 35 ↔ turns = 4 := by omega
      rw [decodeVarint32Loop]
      by_cases passes : Passes turns low byte
      · rw [varint32Group_eq small byte passes]
        simp only [marked_iff, single]
        by_cases unmarked : byte.toNat < 128
        · rw [if_neg (Nat.not_le.mpr unmarked)]
          constructor
          · intro run
            split at run
            · cases run
            · rename_i clear
              cases run
              refine ⟨[byte], .last unmarked, rfl, ⟨passes, fun _ last => ?_, trivial⟩, ?_⟩
              · exact not_not.mp fun set => clear ⟨last, set⟩
              · rw [Varint.value, Varint.value, Nat.mul_zero, Nat.add_zero]
          · rintro ⟨numeral, layout, same, accepts, rfl⟩
            obtain ⟨rfl, rfl⟩ := Varint.append_inj (.last unmarked) layout same
            rw [if_neg fun set => set.2 (accepts.2.1 unmarked set.1), Varint.value, Varint.value,
              Nat.mul_zero, Nat.add_zero]
        · have marked := Nat.le_of_not_lt unmarked
          rw [if_pos marked]
          refine next.trans ⟨?_, ?_⟩
          · rintro ⟨numeral, layout, rfl, accepts, rfl⟩
            refine ⟨byte :: numeral, .more marked layout, rfl,
              ⟨passes, fun short => absurd short unmarked, accepts⟩, ?_⟩
            rw [Varint.value, add_group_value]
          · rintro ⟨numeral, layout, same, accepts, rfl⟩
            cases layout with
            | last short =>
                cases same
                exact absurd short unmarked
            | more _ layout =>
                cases same
                refine ⟨_, layout, rfl, accepts.2.2, ?_⟩
                rw [Varint.value, add_group_value]
      · rw [varint32Group_stops passes]
        refine iff_of_false (by rintro ⟨⟩) ?_
        rintro ⟨numeral, layout, same, accepts, -⟩
        cases layout with
        | last => cases same; exact passes accepts.1
        | more => cases same; exact passes accepts.1

theorem run_pbDecodeVarint32 (bytes : List UInt8) :
    pbDecodeVarint32.run bytes = decodeVarint32Loop (7 * 0) (lowWord 0) bytes := by
  cases bytes with
  | nil => rfl
  | cons byte bytes =>
      have group : lowWord (0 + 2 ^ (7 * 0) * (byte.toNat % 128)) = (byte &&& 0x7F).toUInt32 := by
        apply UInt32.toNat_inj.mp
        rw [lowWord, UInt32.toNat_ofNat', UInt8.toNat_toUInt32, toNat_group]
        omega
      rw [decodeVarint32Loop, varint32Group_eq (Nat.two_pow_pos _) byte (.inl (by decide)), group]
      have read : pbReadbyte.run (byte :: bytes) = .ok byte bytes := rfl
      rw [pbDecodeVarint32, run_bind_ok read]
      by_cases marked : byte &&& 0x80 = 0
      · have unmarked : byte.toNat < 128 :=
          Nat.lt_of_not_le (mt marked_iff.mpr (not_not.mpr marked))
        have whole : (byte &&& 0x7F).toUInt32 = byte.toUInt32 := by
          apply UInt32.toNat_inj.mp
          rw [UInt8.toNat_toUInt32, UInt8.toNat_toUInt32, toNat_group, Nat.mod_eq_of_lt unmarked]
        rw [if_pos marked]
        simp only [ne_eq, marked, not_true_eq_false, if_false, whole]
        rfl
      · rw [if_neg marked]
        simp only [ne_eq, marked, not_false_eq_true, if_true]
        rfl

/-- The 32-bit decoder returns the low word of a layout. -/
theorem pbDecodeVarint32_eq_ok {bytes rest : List UInt8} {value : UInt32} :
    pbDecodeVarint32.run bytes = .ok value rest ↔
      ∃ numeral, Varint.Numeral numeral ∧ bytes = numeral ++ rest ∧ Accepts32 0 0 numeral ∧
        value = lowWord (Varint.value numeral) := by
  rw [run_pbDecodeVarint32, decodeVarint32Loop_eq_ok (Nat.two_pow_pos _)]
  simp only [Nat.mul_zero, Nat.pow_zero, Nat.one_mul, Nat.zero_add]

/-- The 64-bit decoder returns the value of a layout of at most ten bytes. -/
theorem pbDecodeVarint_eq_ok {bytes rest : List UInt8} {value : UInt64} :
    pbDecodeVarint.run bytes = .ok value rest ↔
      ∃ numeral, Varint.Numeral numeral ∧ bytes = numeral ++ rest ∧
        numeral.length ≤ varintBytes ∧ value = UInt64.ofNat (Varint.value numeral) := by
  have read : pbDecodeVarint.run bytes = _ :=
    @decodeVarintLoop_eq 0 (Nat.zero_le _) 0 (by decide) bytes
  rw [read]
  constructor
  · intro run
    split at run
    · rename_i numeral behind found
      obtain ⟨layout, same⟩ := Varint.split_eq_some_iff.mp found
      split at run
      · rename_i short
        cases run
        refine ⟨numeral, layout, same, by rwa [Nat.zero_add] at short, ?_⟩
        congr 1
        change 0 + 2 ^ (7 * 0) * Varint.value numeral = _
        rw [Nat.mul_zero, Nat.pow_zero, Nat.one_mul, Nat.zero_add]
      · cases run
    · split at run
      · cases run
      · cases run
  · rintro ⟨numeral, layout, rfl, short, rfl⟩
    simp only [Varint.split_append layout rest]
    rw [if_pos (by rw [Nat.zero_add]; exact short)]
    congr 2
    change 0 + 2 ^ (7 * 0) * Varint.value numeral = _
    rw [Nat.mul_zero, Nat.pow_zero, Nat.one_mul, Nat.zero_add]

/-- The loop accepts at most ten bytes. -/
theorem Accepts32.length_le {turns low : Nat} {numeral : List UInt8} (within : turns < varintBytes)
    (layout : Varint.Numeral numeral) (accepts : Accepts32 turns low numeral) :
    turns + numeral.length ≤ varintBytes := by
  induction layout generalizing turns low with
  | last => exact within
  | more _ layout ih =>
      have inside : turns + 1 < varintBytes := by
        refine Nat.lt_of_le_of_ne within fun full => ?_
        cases layout with
        | last | more =>
            rcases accepts.2.2.1 with early | late
            · rw [full] at early
              exact absurd early (by decide)
            · exact Nat.ne_of_lt late.1 full
      have rest := ih inside accepts.2.2
      rw [List.length_cons]
      omega

/-- A number of at most 32 bits is accepted in every layout of at most ten bytes. -/
theorem accepts32_of_lt {turns low : Nat} {numeral : List UInt8} (layout : Varint.Numeral numeral)
    (short : turns + numeral.length ≤ varintBytes)
    (fits : low + 2 ^ (7 * turns) * Varint.value numeral < 2 ^ 32) :
    Accepts32 turns low numeral := by
  induction layout generalizing turns low with
  | @last byte unmarked =>
      rw [Varint.value, Varint.value, Nat.mul_zero, Nat.add_zero] at fits
      have group : turns < 5 ∨ byte.toNat % 128 = 0 := by
        by_contra both
        obtain ⟨late, present⟩ := not_or.mp both
        have power : 2 ^ 35 ≤ 2 ^ (7 * turns) := Nat.pow_le_pow_right (by decide) (by omega)
        have product := Nat.mul_le_mul power (Nat.pos_of_ne_zero present)
        omega
      refine ⟨?_, fun _ fourth => ?_, trivial⟩
      · refine group.imp id fun idle => ⟨short, .inl ?_⟩
        exact UInt8.toNat_inj.mp ((toNat_group byte).trans idle)
      · have small : byte.toNat < 16 := by
          rw [fourth] at fits
          omega
        have clear : ∀ half < 16, half &&& 0x70 = 0 := by decide
        apply UInt8.toNat_inj.mp
        rw [UInt8.toNat_and]
        exact clear _ small
  | @more byte bytes marked layout ih =>
      have rest := fits
      rw [Varint.value, ← add_group_value] at rest
      have within : turns + 1 + bytes.length ≤ varintBytes := by
        rw [List.length_cons] at short
        omega
      have group : turns < 5 ∨ byte.toNat % 128 = 0 := by
        by_contra both
        obtain ⟨late, present⟩ := not_or.mp both
        have power : 2 ^ 35 ≤ 2 ^ (7 * turns) := Nat.pow_le_pow_right (by decide) (by omega)
        have product := Nat.mul_le_mul power (Nat.pos_of_ne_zero present)
        omega
      refine ⟨?_, fun unmarked => absurd unmarked (Nat.not_lt.mpr marked), ih within rest⟩
      refine group.imp id fun idle => ⟨by omega, .inl ?_⟩
      exact UInt8.toNat_inj.mp ((toNat_group byte).trans idle)

/-- The byte that continues a sign is the only one that fits the number. -/
theorem signByte_of_negative {turns low rest : Nat} (late : ¬ turns < 5)
    (within : turns < varintBytes) (small : low < 2 ^ (7 * turns)) {byte : UInt8}
    (negative : 2 ^ 64 - 2 ^ 31 ≤ low + 2 ^ (7 * turns) * (byte.toNat % 128 + 128 * rest))
    (fits : low + 2 ^ (7 * turns) * (byte.toNat % 128 + 128 * rest) < 2 ^ 64) :
    2 ^ 31 ≤ low % 2 ^ 32 ∧
      byte.toNat % 128 + 128 * rest = if turns < 9 then 2 ^ (64 - 7 * turns) - 1 else 1 := by
  rw [varintBytes] at within
  have turn : turns = 5 ∨ turns = 6 ∨ turns = 7 ∨ turns = 8 ∨ turns = 9 := by omega
  rcases turn with rfl | rfl | rfl | rfl | rfl <;>
    simp only [Nat.reduceMul, Nat.reducePow, Nat.reduceSub, Nat.reduceLT, if_true, if_false]
      at small negative fits ⊢ <;> omega

theorem validExtension_of_sign {turns low : Nat} {byte : UInt8} (set : 2 ^ 31 ≤ low % 2 ^ 32)
    (sign : byte = if turns < 9 then 0xFF else 0x01) :
    validExtension (7 * turns) (lowWord low) byte := by
  have position : 7 * turns < 63 ↔ turns < 9 := by omega
  refine .inr ⟨fun zero => ?_, by simp only [position]; exact sign⟩
  have top : (lowWord low >>> 31).toNat = low % 2 ^ 32 / 2 ^ 31 := by
    rw [UInt32.toNat_shiftRight, Nat.shiftRight_eq_div_pow, lowWord, UInt32.toNat_ofNat']
    rfl
  rw [zero] at top
  have none : 0 = low % 2 ^ 32 / 2 ^ 31 := top
  omega

/-- The ten bytes of a negative number of 32 bits are accepted. -/
theorem accepts32_of_negative {turns low : Nat} {numeral : List UInt8}
    (layout : Varint.Numeral numeral) (short : turns + numeral.length ≤ varintBytes)
    (small : low < 2 ^ (7 * turns))
    (negative : 2 ^ 64 - 2 ^ 31 ≤ low + 2 ^ (7 * turns) * Varint.value numeral)
    (fits : low + 2 ^ (7 * turns) * Varint.value numeral < 2 ^ 64) :
    Accepts32 turns low numeral := by
  induction layout generalizing turns low with
  | @last byte unmarked =>
      rw [Varint.value] at negative fits
      refine ⟨?_, fun _ fourth => ?_, trivial⟩
      · refine or_iff_not_imp_left.mpr fun late => ⟨short, ?_⟩
        obtain ⟨set, group⟩ := signByte_of_negative late short small negative fits
        refine validExtension_of_sign set (UInt8.toNat_inj.mp ?_)
        rw [Varint.value] at group
        by_cases middle : turns < 9
        · rw [if_pos middle] at group
          have several : 2 ^ 8 ≤ 2 ^ (64 - 7 * turns) := Nat.pow_le_pow_right (by decide) (by omega)
          omega
        · rw [if_neg middle] at group ⊢
          change byte.toNat = 1
          omega
      · subst fourth
        rw [Varint.value] at negative
        omega
  | @more byte bytes marked layout ih =>
      rw [Varint.value] at negative fits
      have length := layout.length_pos
      rw [List.length_cons] at short
      refine ⟨?_, fun unmarked => absurd unmarked (Nat.not_lt.mpr marked), ?_⟩
      · refine or_iff_not_imp_left.mpr fun late => ⟨by omega, ?_⟩
        obtain ⟨set, group⟩ := signByte_of_negative late (by omega) small negative fits
        have middle : turns < 9 := by
          rw [varintBytes] at short
          omega
        have bound := byte.toNat_lt
        have several : 2 ^ (64 - 7 * turns) = 128 * 2 ^ (57 - 7 * turns) := by
          rw [show 64 - 7 * turns = 7 + (57 - 7 * turns) by omega, Nat.pow_add]
        have some := Nat.two_pow_pos (57 - 7 * turns)
        refine validExtension_of_sign set (UInt8.toNat_inj.mp ?_)
        rw [if_pos middle] at group ⊢
        change byte.toNat = 255
        omega
      · exact ih (by omega) (add_group_lt small byte) (by rw [add_group_value]; exact negative)
          (by rw [add_group_value]; exact fits)

/-! ## Round trips -/

theorem length_encode_toNat_le (value : UInt64) :
    (Varint.encode value.toNat).length ≤ varintBytes :=
  Varint.length_encode_le (Nat.lt_trans value.toNat_lt (by decide))

theorem run_pbDecodeVarint_encode (value : UInt64) (rest : List UInt8) :
    pbDecodeVarint.run (Varint.encode value.toNat ++ rest) = .ok value rest := by
  refine pbDecodeVarint_eq_ok.mpr
    ⟨_, Varint.numeral_encode _, rfl, length_encode_toNat_le value, ?_⟩
  rw [Varint.value_encode, UInt64.ofNat_toNat]

theorem run_pbDecodeVarint32_encode {number : Nat} (fits : number < 2 ^ 32) (rest : List UInt8) :
    pbDecodeVarint32.run (Varint.encode number ++ rest) = .ok (UInt32.ofNat number) rest := by
  have short : (Varint.encode number).length ≤ varintBytes :=
    Varint.length_encode_le (Nat.lt_trans fits (by decide))
  refine pbDecodeVarint32_eq_ok.mpr ⟨_, Varint.numeral_encode _, rfl, ?_, ?_⟩
  · refine accepts32_of_lt (Varint.numeral_encode _) (by rwa [Nat.zero_add]) ?_
    rw [Varint.value_encode, Nat.mul_zero, Nat.pow_zero, Nat.one_mul, Nat.zero_add]
    exact fits
  · rw [Varint.value_encode, lowWord]

/-- Skipping goes over a layout of any length. -/
theorem pbSkipVarint_eq_ok {bytes rest : List UInt8} :
    pbSkipVarint.run bytes = .ok ⟨⟩ rest ↔
      ∃ numeral, Varint.Numeral numeral ∧ bytes = numeral ++ rest := by
  have parts : (∃ numeral, Varint.split bytes = some (numeral, rest)) ↔
      ∃ numeral, Varint.Numeral numeral ∧ bytes = numeral ++ rest :=
    exists_congr fun _ => Varint.split_eq_some_iff
  rw [← parts, pbSkipVarint, run_overBytes]
  induction bytes with
  | nil => exact iff_of_false (by rintro ⟨⟩) (by rintro ⟨_, ⟨⟩⟩)
  | cons byte bytes ih =>
      rw [pbSkipVarintLoop, Varint.split]
      by_cases unmarked : byte.toNat < 128
      · rw [if_neg (mt marked_iff.mp (Nat.not_le.mpr unmarked)), if_pos unmarked]
        constructor
        · intro run
          cases run
          exact ⟨[byte], rfl⟩
        · rintro ⟨numeral, same⟩
          cases same
          rfl
      · rw [if_pos (marked_iff.mpr (Nat.le_of_not_lt unmarked)), if_neg unmarked]
        refine (ih (exists_congr fun _ => Varint.split_eq_some_iff)).trans ?_
        constructor
        · rintro ⟨numeral, found⟩
          exact ⟨byte :: numeral, by rw [found]; rfl⟩
        · rintro ⟨numeral, found⟩
          obtain ⟨⟨first, last⟩, behind, same⟩ := Option.map_eq_some_iff.mp found
          cases same
          exact ⟨first, behind⟩

theorem toNat_low_bit (word : UInt64) : (word &&& 1).toNat = word.toNat % 2 := by
  rw [UInt64.toNat_and]
  exact Nat.and_two_pow_sub_one_eq_mod word.toNat 1

theorem toNat_halved (word : UInt64) : (word >>> 1).toNat = word.toNat / 2 := by
  rw [UInt64.toNat_shiftRight, Nat.shiftRight_eq_div_pow]
  rfl

theorem toNat_not (word : UInt64) : (~~~word).toNat = 2 ^ 64 - 1 - word.toNat :=
  UInt64.toNat_not word

theorem toInt_eq_toNat (value : Int64) :
    value.toInt =
      if 2 * value.toUInt64.toNat < 2 ^ 64 then (value.toUInt64.toNat : Int)
      else value.toUInt64.toNat - 2 ^ 64 :=
  BitVec.toInt_eq_toNat_cond value.toBitVec

/-- Small values of either sign have small zigzag forms. -/
theorem toNat_zigzagged (value : Int64) :
    ((zigzagged value).toNat : Int) =
      if value.toInt < 0 then -2 * value.toInt - 1 else 2 * value.toInt := by
  have bound := value.toUInt64.toNat_lt
  have signed := toInt_eq_toNat value
  have doubled : (value.toUInt64 <<< 1).toNat = value.toUInt64.toNat * 2 % 2 ^ 64 := by
    rw [UInt64.toNat_shiftLeft, Nat.shiftLeft_eq]
    rfl
  have sign : value < 0 ↔ value.toInt < 0 := Int64.lt_iff_toInt_lt
  rw [zigzagged]
  by_cases negative : value < 0
  · have below := sign.mp negative
    rw [if_pos negative, if_pos below, toNat_not, doubled]
    split at signed <;> omega
  · have above := mt sign.mpr negative
    rw [if_neg negative, if_neg above, doubled]
    split at signed <;> omega

theorem unzigzagged_zigzagged (value : Int64) : unzigzagged (zigzagged value) = value := by
  have bound := value.toUInt64.toNat_lt
  have signed := toInt_eq_toNat value
  have form := toNat_zigzagged value
  have low := toNat_low_bit (zigzagged value)
  suffices same : (if zigzagged value &&& 1 ≠ 0 then ~~~(zigzagged value >>> 1)
      else zigzagged value >>> 1) = value.toUInt64 by
    rw [unzigzagged, ← apply_ite UInt64.toInt64, same]
    rfl
  apply UInt64.toNat_inj.mp
  by_cases negative : value.toInt < 0
  · rw [if_pos negative] at form
    have odd : zigzagged value &&& 1 ≠ 0 := by
      rw [Ne, ← UInt64.toNat_inj, low]
      change ¬ _ = 0
      omega
    rw [if_pos odd, toNat_not, toNat_halved]
    split at signed <;> omega
  · rw [if_neg negative] at form
    have even : zigzagged value &&& 1 = 0 := by
      rw [← UInt64.toNat_inj, low]
      change _ = 0
      omega
    rw [if_neg (not_not.mpr even), toNat_halved]
    split at signed <;> omega

/-- The zigzag form of a value of 32 bits has 32 bits. -/
theorem zigzagged_toInt64_lt (value : Int32) : (zigzagged value.toInt64).toNat < 2 ^ 32 := by
  have form := toNat_zigzagged value.toInt64
  have below := value.toInt_lt
  have above := value.le_toInt
  rw [Int32.toInt_toInt64] at form
  split at form <;> omega

theorem run_pbDecodeFixed32 (value : UInt32) (rest : List UInt8) :
    pbDecodeFixed32.run (LittleEndian.toBytes 4 value.toNat ++ rest) = .ok value rest := by
  have read := run_pbRead (LittleEndian.toBytes 4 value.toNat) rest
  rw [LittleEndian.toBytes_length] at read
  rw [pbDecodeFixed32, run_bind_ok read, LittleEndian.ofBytes_toBytes,
    Nat.mod_eq_of_lt (show value.toNat < 256 ^ 4 from value.toNat_lt), UInt32.ofNat_toNat]
  rfl

theorem run_pbDecodeFixed64 (value : UInt64) (rest : List UInt8) :
    pbDecodeFixed64.run (LittleEndian.toBytes 8 value.toNat ++ rest) = .ok value rest := by
  have read := run_pbRead (LittleEndian.toBytes 8 value.toNat) rest
  rw [LittleEndian.toBytes_length] at read
  rw [pbDecodeFixed64, run_bind_ok read, LittleEndian.ofBytes_toBytes,
    Nat.mod_eq_of_lt (show value.toNat < 256 ^ 8 from value.toNat_lt), UInt64.ofNat_toNat]
  rfl

/-- Every value has one layout that is written to every stream with room for it, and refused by
every other one. The decoder reads it back whatever follows, and reads no shorter bytes as the
same value. -/
theorem varint_roundTrip (value : UInt64) :
    ∃ layout,
      (∀ stream : PbOstream, stream.Room layout.length →
        (pbEncodeVarint value).run stream = .ok ⟨⟩ (stream.after layout)) ∧
      (∀ stream : PbOstream, stream.Bounded → ¬ stream.Room layout.length →
        (pbEncodeVarint value).run stream = .error .streamFull stream) ∧
      (∀ rest, pbDecodeVarint.run (layout ++ rest) = .ok value rest) ∧
      ∀ other rest, pbDecodeVarint.run (other ++ rest) = .ok value rest →
        layout.length ≤ other.length := by
  refine ⟨Varint.encode value.toNat, ?_, ?_, run_pbDecodeVarint_encode value, ?_⟩
  · intro stream room
    rw [pbEncodeVarint_eq]
    exact run_pbWrite room
  · intro stream bounded full
    rw [pbEncodeVarint_eq]
    exact run_pbWrite_full bounded full
  · intro other rest run
    obtain ⟨numeral, layout, same, -, rfl⟩ := pbDecodeVarint_eq_ok.mp run
    rw [List.append_cancel_right same, UInt64.toNat_ofNat']
    exact Nat.le_trans (Varint.length_encode_mono (Nat.mod_le _ _)) layout.length_encode_le

/-- What the 32-bit decoder accepts, the 64-bit decoder accepts as the same bytes, and their low
words agree. It accepts every number of 32 bits and every sign extension of one, in each layout of
at most ten bytes. -/
theorem pbDecodeVarint32_agrees :
    (∀ bytes value rest, pbDecodeVarint32.run bytes = .ok value rest →
      ∃ whole, pbDecodeVarint.run bytes = .ok whole rest ∧ value = whole.toUInt32) ∧
    ∀ layout rest, Varint.Numeral layout → layout.length ≤ varintBytes →
      (Varint.value layout < 2 ^ 32 ∨
        2 ^ 64 - 2 ^ 31 ≤ Varint.value layout ∧ Varint.value layout < 2 ^ 64) →
      pbDecodeVarint32.run (layout ++ rest) = .ok (UInt32.ofNat (Varint.value layout)) rest := by
  constructor
  · intro bytes value rest run
    obtain ⟨numeral, layout, same, accepts, rfl⟩ := pbDecodeVarint32_eq_ok.mp run
    have short := accepts.length_le (by decide) layout
    rw [Nat.zero_add] at short
    refine ⟨_, pbDecodeVarint_eq_ok.mpr ⟨numeral, layout, same, short, rfl⟩, ?_⟩
    apply UInt32.toNat_inj.mp
    rw [lowWord, UInt32.toNat_ofNat', UInt64.toNat_toUInt32, UInt64.toNat_ofNat',
      Nat.mod_mod_of_dvd _ (by decide)]
  · intro numeral rest layout short number
    have start : 0 + 2 ^ (7 * 0) * Varint.value numeral = Varint.value numeral := by
      rw [Nat.mul_zero, Nat.pow_zero, Nat.one_mul, Nat.zero_add]
    refine pbDecodeVarint32_eq_ok.mpr ⟨numeral, layout, rfl, ?_, rfl⟩
    rcases number with small | ⟨negative, fits⟩
    · exact accepts32_of_lt layout (by rwa [Nat.zero_add]) (by rw [start]; exact small)
    · exact accepts32_of_negative layout (by rwa [Nat.zero_add]) (by decide)
        (by rw [start]; exact negative) (by rw [start]; exact fits)

/-- It also accepts a number of 35 bits, if idle groups follow its fifth byte. -/
example : pbDecodeVarint32.run [0xFF, 0xFF, 0xFF, 0xFF, 0x7F] = .error .varintOverflow [] ∧
    pbDecodeVarint32.run [0xFF, 0xFF, 0xFF, 0xFF, 0xFF, 0] = .ok 0xFFFFFFFF [] :=
  ⟨rfl, rfl⟩

end RinaSense
