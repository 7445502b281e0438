import RinaSense.Nanopb.Descriptors
import RinaSense.Nanopb.Encode

/-!
# What the encoder writes

A message whose texts, byte strings and arrays fit its fields has one encoding. The encoder
writes it to every stream with room for it and reports a full stream otherwise, and it fails for
every other message. The two passes over a submessage always agree on its size.
-/

namespace RinaSense

open Command

/-! ## Commands that write -/

/-- The command failed after a part for which there was room. -/
def FailsWithin (command : Encoder Unit) (stream : PbOstream) (error : PbError) : Prop :=
  ∃ part : List UInt8, stream.Room part.length ∧
    command.run stream = .error error (stream.after part)

/-- If the message is valid the command writes the bytes, or finds the stream full; if not, it
fails. -/
structure EncodesAs (command : Encoder Unit) (valid : Prop) (bytes : List UInt8) : Prop where
  written : valid → ∀ stream : PbOstream, stream.Room bytes.length →
    command.run stream = .ok ⟨⟩ (stream.after bytes)
  full : valid → ∀ stream : PbOstream, stream.Bounded → ¬ stream.Room bytes.length →
    FailsWithin command stream .streamFull
  refused : ¬ valid → ∀ stream : PbOstream, stream.Bounded →
    ∃ error ≠ .submsgSizeChanged, FailsWithin command stream error

section Commands

variable {command second : Encoder Unit} {valid next : Prop} {bytes more : List UInt8}

theorem FailsWithin.bind {stream : PbOstream} {error : PbError}
    (fails : FailsWithin command stream error) :
    FailsWithin (command >>= fun _ => second) stream error := by
  obtain ⟨part, room, run⟩ := fails
  exact ⟨part, room, run_bind_error run _⟩

theorem FailsWithin.after {stream : PbOstream} {error : PbError}
    (run : command.run stream = .ok ⟨⟩ (stream.after bytes))
    (fails : FailsWithin second (stream.after bytes) error) :
    FailsWithin (command >>= fun _ => second) stream error := by
  obtain ⟨part, room, failed⟩ := fails
  refine ⟨bytes ++ part, ?_, ?_⟩
  · rw [List.length_append]
    exact PbOstream.room_after.mp room
  · rw [run_bind_ok run, failed, PbOstream.after_append]

/-- Nothing was written. -/
theorem FailsWithin.untouched {stream : PbOstream} {error : PbError} (bounded : stream.Bounded)
    (run : command.run stream = .error error stream) : FailsWithin command stream error := by
  refine ⟨[], bounded, ?_⟩
  rw [PbOstream.after_nil]
  exact run

theorem encodes_nothing : EncodesAs (pure ⟨⟩) True [] where
  written := by
    intro _ stream _
    rw [PbOstream.after_nil]
    rfl
  full := fun _ _ bounded full => absurd bounded full
  refused := fun never => absurd trivial never

theorem encodes_throw {error : PbError} (other : error ≠ .submsgSizeChanged) :
    EncodesAs (throw error) False bytes where
  written := False.elim
  full := False.elim
  refused := fun _ _ bounded => ⟨error, other, FailsWithin.untouched bounded rfl⟩

theorem encodes_pbWrite (buf : List UInt8) : EncodesAs (pbWrite buf) True buf where
  written := fun _ _ room => run_pbWrite room
  full := fun _ _ bounded full => FailsWithin.untouched bounded (run_pbWrite_full bounded full)
  refused := fun never => absurd trivial never

/-- One part after the other. -/
theorem EncodesAs.bind (first : EncodesAs command valid bytes) (rest : EncodesAs second next more) :
    EncodesAs (command >>= fun _ => second) (valid ∧ next) (bytes ++ more) where
  written := by
    rintro ⟨holds, follows⟩ stream room
    rw [List.length_append] at room
    rw [run_bind_ok (first.written holds stream (room.mono (Nat.le_add_right _ _))),
      rest.written follows _ (PbOstream.room_after.mpr room), PbOstream.after_append]
  full := by
    rintro ⟨holds, follows⟩ stream bounded full
    rw [List.length_append] at full
    by_cases room : stream.Room bytes.length
    · exact FailsWithin.after (first.written holds stream room)
        (rest.full follows _ (PbOstream.room_after.mpr room) (mt PbOstream.room_after.mp full))
    · exact (first.full holds stream bounded room).bind
  refused := by
    intro invalid stream bounded
    by_cases holds : valid
    · by_cases room : stream.Room bytes.length
      · obtain ⟨error, other, fails⟩ := rest.refused (fun follows => invalid ⟨holds, follows⟩) _
          (PbOstream.room_after.mpr room)
        exact ⟨error, other, FailsWithin.after (first.written holds stream room) fails⟩
      · exact ⟨.streamFull, by rintro ⟨⟩, (first.full holds stream bounded room).bind⟩
    · obtain ⟨error, other, fails⟩ := first.refused holds stream bounded
      exact ⟨error, other, fails.bind⟩

/-- A part that only finds out a value. -/
theorem EncodesAs.after {α : Type} {first : Encoder α} {rest : α → Encoder Unit} {value : α}
    (encodes : EncodesAs (rest value) valid bytes)
    (run : ∀ stream, first.run stream = .ok value stream) :
    EncodesAs (first >>= rest) valid bytes where
  written := by
    intro holds stream room
    rw [run_bind_ok (run stream)]
    exact encodes.written holds stream room
  full := by
    intro holds stream bounded full
    rw [FailsWithin, run_bind_ok (run stream)]
    exact encodes.full holds stream bounded full
  refused := by
    intro invalid stream bounded
    obtain ⟨error, other, part, room, fails⟩ := encodes.refused invalid stream bounded
    exact ⟨error, other, part, room, by rw [run_bind_ok (run stream), fails]⟩

theorem EncodesAs.congr (encodes : EncodesAs command valid bytes) (same : valid ↔ next)
    (equal : bytes = more) : EncodesAs command next more := by
  rw [← equal, ← propext same]
  exact encodes

/-- One element after the other. -/
theorem encodes_forM {α : Type} {encode : α → Encoder Unit} {fits : α → Prop}
    {bytesOf : α → List UInt8} {values : List α}
    (each : ∀ value ∈ values, EncodesAs (encode value) (fits value) (bytesOf value)) :
    EncodesAs (values.forM encode) (∀ value ∈ values, fits value) (values.flatMap bytesOf) := by
  induction values with
  | nil => exact encodes_nothing.congr (iff_of_true trivial (by rintro _ ⟨⟩)) rfl
  | cons value values ih =>
      obtain ⟨head, tail⟩ := List.forall_mem_cons.mp each
      exact (head.bind (ih tail)).congr List.forall_mem_cons.symm List.flatMap_cons.symm

/-- The size of what is written, on a stream that only counts. -/
theorem EncodesAs.run_sizing (encodes : EncodesAs command valid bytes) (holds : valid) :
    command.run .sizing = .ok ⟨⟩ (PbOstream.sizing.after bytes) :=
  encodes.written holds _ (PbOstream.room_sizing _)

theorem bytesWritten_sizing (bytes : List UInt8) :
    (PbOstream.sizing.after bytes).bytesWritten = bytes.length := Nat.zero_add _

/-- On a stream that only counts, its size stands for what would be written. -/
theorem run_pbWriteSize {stream : PbOstream} (counts : stream.callback = false)
    (bytes : List UInt8) :
    (pbWriteSize bytes.length).run stream = .ok ⟨⟩ (stream.after bytes) := by
  have after : stream.after bytes =
      { stream with bytesWritten := stream.bytesWritten + bytes.length } := by
    rw [PbOstream.after, counts]
    rfl
  rw [after]
  rfl

end Commands

/-! ## Integers, tags and strings -/

theorem encodes_pbEncodeVarint (value : UInt64) :
    EncodesAs (pbEncodeVarint value) True (Varint.encode value.toNat) := by
  rw [pbEncodeVarint_eq]
  exact encodes_pbWrite _

/-- A size below that of the address space. -/
theorem encodes_size {size : Nat} (small : size < 2 ^ 32) :
    EncodesAs (pbEncodeVarint (UInt64.ofNat size)) True (Varint.encode size) := by
  have same : (UInt64.ofNat size).toNat = size := by
    rw [UInt64.toNat_ofNat', Nat.mod_eq_of_lt (Nat.lt_trans small (by decide))]
  exact (encodes_pbEncodeVarint _).congr Iff.rfl (by rw [same])

/-- The number in front of a field. -/
def tagNumber (wireType : UInt32) (tag : UInt16) : Nat := 8 * tag.toNat + wireType.toNat

def tagBytes (wireType : UInt32) (tag : UInt16) : List UInt8 :=
  Varint.encode (tagNumber wireType tag)

theorem encodes_pbEncodeTag {wireType : UInt32} (three : wireType.toNat < 8) (tag : UInt16) :
    EncodesAs (pbEncodeTag wireType tag.toUInt32) True (tagBytes wireType tag) := by
  have bound := tag.toNat_lt
  have shifted : (tag.toUInt32.toUInt64 <<< 3).toNat = 2 ^ 3 * tag.toNat := by
    rw [UInt64.toNat_shiftLeft, UInt32.toNat_toUInt64, UInt16.toNat_toUInt32, Nat.shiftLeft_eq]
    change tag.toNat * 2 ^ 3 % 2 ^ 64 = _
    omega
  refine (encodes_pbEncodeVarint _).congr Iff.rfl (congrArg Varint.encode ?_)
  rw [UInt64.toNat_or, shifted, UInt32.toNat_toUInt64,
    ← Nat.two_pow_add_eq_or_of_lt (i := 3) three]
  rfl

/-- Bytes with their length in front. -/
def delimited (bytes : List UInt8) : List UInt8 := Varint.encode bytes.length ++ bytes

theorem encodes_pbEncodeString {buffer : List UInt8} (small : buffer.length < 2 ^ 32) :
    EncodesAs (pbEncodeString buffer) True (delimited buffer) :=
  ((encodes_size small).bind (encodes_pbWrite buffer)).congr (and_self_iff) rfl

/-! ## The encoding of a message -/

/-- The data of a field that is not a message. -/
def PbLtype.bytesOf : (ltype : PbLtype) → ltype.Data → List UInt8
  | .bool, value => Varint.encode (if value then 1 else 0)
  | .int32, value => Varint.encode value.toInt64.toUInt64.toNat
  | .int64, value => Varint.encode value.toUInt64.toNat
  | .uint32, value => Varint.encode value.toNat
  | .uint64, value => Varint.encode value.toNat
  | .sint32, value => Varint.encode (zigzagged value.toInt64).toNat
  | .sint64, value => Varint.encode (zigzagged value).toNat
  | .fixed32, value => LittleEndian.toBytes 4 value.toNat
  | .fixed64, value => LittleEndian.toBytes 8 value.toNat
  | .bytes _, content => delimited content
  | .string _, text => delimited text.val

/-- A byte string fits behind its length, a text before its terminator. -/
def PbLtype.Fits : (ltype : PbLtype) → ltype.Data → Prop
  | .bytes dataSize, content => content.length + 2 ≤ dataSize
  | .string dataSize, text => text.val.length < dataSize
  | _, _ => True

/-- What is there of a field fits. -/
def PbHtype.Holds {α : Type} (fits : α → Prop) : (htype : PbHtype) → htype.Slot α → Prop
  | .required, value => fits value
  | .optional, slot => ∀ value ∈ slot, fits value
  | .repeated arraySize, values => values.length ≤ arraySize ∧ ∀ value ∈ values, fits value

/-- What the encoder accepts. -/
def PbMsgdesc.Encodable : (fields : PbMsgdesc) → fields.Struct → Prop
  | .nil, _ => True
  | .field _ htype ltype rest, (slot, others) => htype.Holds ltype.Fits slot ∧ rest.Encodable others
  | .submessage _ htype submsgDesc rest, (slot, others) =>
      htype.Holds submsgDesc.Encodable slot ∧ rest.Encodable others
  | .callback _ rest, others => rest.Encodable others

/-- What is there of a field, one element after the other. -/
def PbHtype.bytesOf {α : Type} (one : α → List UInt8) (all : List α → List UInt8) :
    (htype : PbHtype) → htype.Slot α → List UInt8
  | .required, value => one value
  | .optional, none => []
  | .optional, some value => one value
  | .repeated _, [] => []
  | .repeated _, value :: values => all (value :: values)

def basicBytes (tag : UInt16) (ltype : PbLtype) (data : ltype.Data) : List UInt8 :=
  tagBytes ltype.wireType tag ++ ltype.bytesOf data

def elementBytes (tag : UInt16) (ltype : PbLtype) (values : List ltype.Data) : List UInt8 :=
  if ltype.packable then tagBytes pbWtString tag ++ delimited (values.flatMap ltype.bytesOf)
  else values.flatMap (basicBytes tag ltype)

def submessageBytes (tag : UInt16) (bytes : List UInt8) : List UInt8 :=
  tagBytes pbWtString tag ++ delimited bytes

/-- The encoding of a message. -/
def PbMsgdesc.wire : (fields : PbMsgdesc) → fields.Struct → List UInt8
  | .nil, _ => []
  | .field tag htype ltype rest, (slot, others) =>
      htype.bytesOf (basicBytes tag ltype) (elementBytes tag ltype) slot ++ rest.wire others
  | .submessage tag htype submsgDesc rest, (slot, others) =>
      let one := fun message => submessageBytes tag (submsgDesc.wire message)
      htype.bytesOf one (fun messages => messages.flatMap one) slot ++ rest.wire others
  | .callback _ rest, others => rest.wire others

/-! ## The size of an encoding -/

/-- The size of a tag, which is the same for every wire type. -/
def tagSize (tag : UInt16) : Nat := (Varint.encode (8 * tag.toNat + 7)).length

def delimitedSize (size : Nat) : Nat := (Varint.encode size).length + size

/-- The largest size of the data of a field. -/
def PbLtype.maxSize : PbLtype → Nat
  | .bool => 1
  | .int32 | .int64 | .uint64 | .sint64 => 10
  | .uint32 | .sint32 => 5
  | .fixed32 => 4
  | .fixed64 => 8
  | .bytes dataSize => delimitedSize (dataSize - 2)
  | .string dataSize => delimitedSize (dataSize - 1)

/-- The largest size of a field with so much for its tag and so much for its data. -/
def PbHtype.maxSize (htype : PbHtype) (packed : Bool) (tag data : Nat) : Nat :=
  match htype with
  | .required | .optional => tag + data
  | .repeated arraySize =>
      if packed then tag + delimitedSize (arraySize * data) else arraySize * (tag + data)

/-- The largest size of an encoding, which bounds a `_size` of the generated headers. -/
def PbMsgdesc.maxSize : PbMsgdesc → Nat
  | .nil => 0
  | .field tag htype ltype rest =>
      htype.maxSize ltype.packable (tagSize tag) ltype.maxSize + rest.maxSize
  | .submessage tag htype submsgDesc rest =>
      htype.maxSize false (tagSize tag) (delimitedSize submsgDesc.maxSize) + rest.maxSize
  | .callback _ rest => rest.maxSize

theorem length_delimited (bytes : List UInt8) :
    (delimited bytes).length = delimitedSize bytes.length := List.length_append

theorem delimitedSize_mono {first second : Nat} (le : first ≤ second) :
    delimitedSize first ≤ delimitedSize second :=
  Nat.add_le_add (Varint.length_encode_mono le) le

theorem le_delimitedSize (size : Nat) : size ≤ delimitedSize size := Nat.le_add_left _ _

theorem length_tagBytes_le {wireType : UInt32} (three : wireType.toNat < 8) (tag : UInt16) :
    (tagBytes wireType tag).length ≤ tagSize tag :=
  Varint.length_encode_mono (Nat.add_le_add_left (Nat.le_of_lt_succ three) _)

theorem pbWtString_lt : pbWtString.toNat < 8 := by decide

theorem wireType_lt (ltype : PbLtype) : ltype.wireType.toNat < 8 := by
  cases ltype with
  | bytes _ | string _ => exact pbWtString_lt
  | _ => decide

theorem PbLtype.length_bytesOf_le {ltype : PbLtype} {data : ltype.Data} (fits : ltype.Fits data) :
    (ltype.bytesOf data).length ≤ ltype.maxSize := by
  cases ltype with
  | bool => exact Varint.length_encode_le (by split <;> decide)
  | int32 | int64 | uint64 | sint64 => exact length_encode_toNat_le _
  | uint32 => exact Varint.length_encode_le (Nat.lt_trans data.toNat_lt (by decide))
  | sint32 => exact Varint.length_encode_le (Nat.lt_trans (zigzagged_toInt64_lt data) (by decide))
  | fixed32 | fixed64 => exact Nat.le_of_eq (LittleEndian.toBytes_length _ _)
  | bytes dataSize =>
      rw [bytesOf, length_delimited]
      exact delimitedSize_mono (Nat.le_sub_of_add_le fits)
  | string dataSize =>
      rw [bytesOf, length_delimited]
      exact delimitedSize_mono (Nat.le_sub_one_of_lt fits)

theorem length_flatMap_le {α : Type} {bytesOf : α → List UInt8} {values : List α} {size : Nat}
    (each : ∀ value ∈ values, (bytesOf value).length ≤ size) :
    (values.flatMap bytesOf).length ≤ values.length * size := by
  induction values with
  | nil => exact Nat.zero_le _
  | cons value values ih =>
      obtain ⟨head, tail⟩ := List.forall_mem_cons.mp each
      rw [List.flatMap_cons, List.length_append, List.length_cons, Nat.succ_mul, Nat.add_comm]
      exact Nat.add_le_add (ih tail) head

theorem length_flatMap_const {α : Type} {bytesOf : α → List UInt8} {size : Nat}
    (each : ∀ value, (bytesOf value).length = size) (values : List α) :
    (values.flatMap bytesOf).length = size * values.length := by
  induction values with
  | nil => rfl
  | cons value values ih =>
      rw [List.flatMap_cons, List.length_append, each, ih, List.length_cons, Nat.mul_succ,
        Nat.add_comm]

theorem length_basicBytes_le {tag : UInt16} {ltype : PbLtype} {data : ltype.Data}
    (fits : ltype.Fits data) :
    (basicBytes tag ltype data).length ≤ tagSize tag + ltype.maxSize := by
  rw [basicBytes, List.length_append]
  exact Nat.add_le_add (length_tagBytes_le (wireType_lt ltype) tag) (PbLtype.length_bytesOf_le fits)

theorem length_submessageBytes_le {tag : UInt16} {bytes : List UInt8} {size : Nat}
    (le : bytes.length ≤ size) :
    (submessageBytes tag bytes).length ≤ tagSize tag + delimitedSize size := by
  rw [submessageBytes, List.length_append, length_delimited]
  exact Nat.add_le_add (length_tagBytes_le pbWtString_lt tag) (delimitedSize_mono le)

/-- The size of the elements of an array, packed or not. -/
def elementsSize (packed : Bool) (tag data count : Nat) : Nat :=
  if packed then tag + delimitedSize (count * data) else count * (tag + data)

theorem elementsSize_mono {packed : Bool} {tag data less count : Nat} (le : less ≤ count) :
    elementsSize packed tag data less ≤ elementsSize packed tag data count := by
  cases packed with
  | false => exact Nat.mul_le_mul_right _ le
  | true => exact Nat.add_le_add_left (delimitedSize_mono (Nat.mul_le_mul_right _ le)) _

theorem length_elementBytes_le {tag : UInt16} {ltype : PbLtype} {values : List ltype.Data}
    (fit : ∀ value ∈ values, ltype.Fits value) :
    (elementBytes tag ltype values).length ≤
      elementsSize ltype.packable (tagSize tag) ltype.maxSize values.length := by
  rw [elementBytes, elementsSize]
  split
  · rw [List.length_append, length_delimited]
    refine Nat.add_le_add (length_tagBytes_le pbWtString_lt tag) (delimitedSize_mono ?_)
    exact length_flatMap_le fun value member => PbLtype.length_bytesOf_le (fit value member)
  · exact length_flatMap_le fun value member => length_basicBytes_le (fit value member)

section Slots

variable {α : Type} {fits : α → Prop} {one : α → List UInt8} {all : List α → List UInt8}

theorem PbHtype.length_bytesOf_le {htype : PbHtype} {slot : htype.Slot α} {packed : Bool}
    {tag data : Nat} (holds : htype.Holds fits slot)
    (single : ∀ value, fits value → (one value).length ≤ tag + data)
    (several : ∀ values, (∀ value ∈ values, fits value) →
      (all values).length ≤ elementsSize packed tag data values.length) :
    (htype.bytesOf one all slot).length ≤ htype.maxSize packed tag data := by
  cases htype with
  | required => exact single slot holds
  | optional =>
      cases slot with
      | none => exact Nat.zero_le _
      | some value => exact single value (holds value rfl)
  | repeated arraySize =>
      cases slot with
      | nil => exact Nat.zero_le _
      | cons value values =>
          exact Nat.le_trans (several _ holds.2) (elementsSize_mono holds.1)

end Slots

/-- No message that fits has a longer encoding than its descriptor says. -/
theorem PbMsgdesc.length_wire_le {fields : PbMsgdesc} {message : fields.Struct}
    (encodable : fields.Encodable message) : (fields.wire message).length ≤ fields.maxSize := by
  induction fields with
  | nil => exact Nat.le_refl 0
  | field tag htype ltype rest ih =>
      obtain ⟨slot, others⟩ := message
      rw [wire, maxSize, List.length_append]
      refine Nat.add_le_add (PbHtype.length_bytesOf_le encodable.1 ?_ ?_) (ih encodable.2)
      · exact fun value fits => length_basicBytes_le fits
      · exact fun values fit => length_elementBytes_le fit
  | submessage tag htype submsgDesc rest ihSub ih =>
      obtain ⟨slot, others⟩ := message
      rw [wire, maxSize, List.length_append]
      refine Nat.add_le_add (PbHtype.length_bytesOf_le encodable.1 ?_ ?_) (ih encodable.2)
      · exact fun value fits => length_submessageBytes_le (ihSub fits)
      · exact fun values fit => length_flatMap_le fun value member =>
          length_submessageBytes_le (ihSub (fit value member))
  | callback tag rest ih => exact ih encodable

/-! ## Fields -/

theorem encodes_pbEncField {ltype : PbLtype} (small : ltype.maxSize < 2 ^ 32)
    (data : ltype.Data) :
    EncodesAs (pbEncField ltype data) (ltype.Fits data) (ltype.bytesOf data) := by
  cases ltype with
  | bool =>
      refine (encodes_pbEncodeVarint _).congr Iff.rfl ?_
      cases data <;> rfl
  | int32 | int64 | uint64 | sint32 | sint64 => exact encodes_pbEncodeVarint _
  | uint32 =>
      refine (encodes_pbEncodeVarint _).congr Iff.rfl ?_
      rw [UInt32.toNat_toUInt64]
      rfl
  | fixed32 | fixed64 => exact encodes_pbWrite _
  | bytes dataSize =>
      rw [pbEncField]
      split
      · rename_i long
        exact (encodes_throw (by rintro ⟨⟩)).congr (iff_of_false id (Nat.not_le.mpr long)) rfl
      · rename_i fits
        have inside := Nat.le_of_not_lt fits
        have bound := le_delimitedSize (dataSize - 2)
        rw [PbLtype.maxSize] at small
        exact (encodes_pbEncodeString (by omega)).congr (iff_of_true trivial inside) rfl
  | string dataSize =>
      rw [pbEncField]
      by_cases empty : dataSize = 0
      · rw [if_pos empty]
        refine (encodes_throw (by rintro ⟨⟩)).congr (iff_of_false id fun fits => ?_) rfl
        exact Nat.not_lt_zero _ (Nat.lt_of_lt_of_eq fits empty)
      · rw [if_neg empty]
        split
        · rename_i long
          exact (encodes_throw (by rintro ⟨⟩)).congr (iff_of_false id (Nat.not_lt.mpr long)) rfl
        · rename_i fits
          have inside := Nat.lt_of_not_le fits
          have bound := le_delimitedSize (dataSize - 1)
          rw [PbLtype.maxSize] at small
          exact (encodes_pbEncodeString (by omega)).congr (iff_of_true trivial inside) rfl

theorem encodes_encodeBasicField {ltype : PbLtype} (small : ltype.maxSize < 2 ^ 32)
    (tag : UInt16) (data : ltype.Data) :
    EncodesAs (encodeBasicField tag ltype data) (ltype.Fits data) (basicBytes tag ltype data) :=
  ((encodes_pbEncodeTag (wireType_lt ltype) tag).bind (encodes_pbEncField small data)).congr
    (and_iff_right trivial) rfl

theorem PbLtype.fits_of_packable {ltype : PbLtype} (packable : ltype.packable = true)
    (data : ltype.Data) : ltype.Fits data := by
  cases ltype with
  | bytes | string => cases packable
  | _ => trivial

/-- Both ways to find the size of a packed array agree. -/
theorem run_packedSize {ltype : PbLtype} (small : ltype.maxSize < 2 ^ 32)
    (packable : ltype.packable = true) (values : List ltype.Data) (stream : PbOstream) :
    (packedSize ltype values).run stream =
      .ok (values.flatMap ltype.bytesOf).length stream := by
  have sized : EncodesAs (values.forM (pbEncField ltype)) _ (values.flatMap ltype.bytesOf) :=
    encodes_forM fun value _ => encodes_pbEncField small value
  have run := sized.run_sizing fun value _ => ltype.fits_of_packable packable value
  cases ltype with
  | fixed32 =>
      exact congrArg (EStateM.Result.ok · stream) (length_flatMap_const
        (fun _ => LittleEndian.toBytes_length _ _) values).symm
  | fixed64 =>
      exact congrArg (EStateM.Result.ok · stream) (length_flatMap_const
        (fun _ => LittleEndian.toBytes_length _ _) values).symm
  | bytes | string => cases packable
  | _ =>
      simp only [packedSize, run, bytesWritten_sizing]
      rfl

theorem encodes_writePacked {ltype : PbLtype} (packable : ltype.packable = true)
    (small : ltype.maxSize < 2 ^ 32) (values : List ltype.Data) :
    EncodesAs (writePacked ltype values (values.flatMap ltype.bytesOf).length) True
      (values.flatMap ltype.bytesOf) := by
  have elements : EncodesAs (values.forM (pbEncField ltype)) _ (values.flatMap ltype.bytesOf) :=
    encodes_forM fun value _ => encodes_pbEncField small value
  have valid : ∀ value ∈ values, ltype.Fits value := fun value _ =>
    ltype.fits_of_packable packable value
  have read (stream : PbOstream) : (get : Encoder PbOstream).run stream = .ok stream stream := rfl
  refine ⟨fun _ stream room => ?_, fun _ stream bounded full => ?_, fun never =>
    absurd trivial never⟩
  · rw [writePacked, run_bind_ok (read stream)]
    cases counts : stream.callback with
    | false => exact run_pbWriteSize counts _
    | true => exact elements.written valid stream room
  · rw [FailsWithin, writePacked, run_bind_ok (read stream),
      if_pos (not_not.mp fun counts => full fun buffer => absurd buffer counts)]
    exact elements.full valid stream bounded full

theorem encodes_encodePacked {tag : UInt16} {ltype : PbLtype} (packable : ltype.packable = true)
    (small : ltype.maxSize < 2 ^ 32) {values : List ltype.Data}
    (fits : (values.flatMap ltype.bytesOf).length < 2 ^ 32) :
    EncodesAs (encodePacked tag ltype values) True
      (tagBytes pbWtString tag ++ delimited (values.flatMap ltype.bytesOf)) := by
  let second := fun size => pbEncodeVarint (UInt64.ofNat size) >>= fun _ =>
    writePacked ltype values size
  have rest : EncodesAs (second (values.flatMap ltype.bytesOf).length) _ _ :=
    (encodes_size fits).bind (encodes_writePacked packable small values)
  have sized := rest.after (run_packedSize small packable values)
  exact ((encodes_pbEncodeTag pbWtString_lt tag).bind sized).congr (by simp only [and_self]) rfl

theorem encodes_encodeElements {tag : UInt16} {ltype : PbLtype} {values : List ltype.Data}
    (small : ltype.maxSize < 2 ^ 32)
    (fits : ltype.packable = true → (values.flatMap ltype.bytesOf).length < 2 ^ 32) :
    EncodesAs (encodeElements tag ltype values) (∀ value ∈ values, ltype.Fits value)
      (elementBytes tag ltype values) := by
  rw [encodeElements, elementBytes]
  by_cases packable : ltype.packable = true
  · rw [if_pos packable, if_pos packable]
    refine (encodes_encodePacked packable small (fits packable)).congr (iff_of_true trivial ?_) rfl
    exact fun value _ => ltype.fits_of_packable packable value
  · rw [if_neg packable, if_neg packable]
    exact encodes_forM fun value _ => encodes_encodeBasicField small tag value

section Presence

variable {α : Type} {fits : α → Prop} {one : α → List UInt8} {all : List α → List UInt8}
  {encodeOne : α → Encoder Unit} {encodeAll : List α → Encoder Unit}

/-- A field is written element after element, if it is there. The elements of an array are only
looked at if there is room for one in the structure. -/
theorem encodes_encodeField {htype : PbHtype}
    (single : htype ≠ .repeated 0 → ∀ value, EncodesAs (encodeOne value) (fits value) (one value))
    (several : ∀ arraySize, htype = .repeated arraySize → arraySize ≠ 0 → ∀ values,
      values.length ≤ arraySize →
        EncodesAs (encodeAll values) (∀ value ∈ values, fits value) (all values))
    (slot : htype.Slot α) :
    EncodesAs (encodeField encodeOne encodeAll htype slot) (htype.Holds fits slot)
      (htype.bytesOf one all slot) := by
  cases htype with
  | required => exact single (by rintro ⟨⟩) slot
  | optional =>
      cases slot with
      | none => exact encodes_nothing.congr (iff_of_true trivial (by rintro _ ⟨⟩)) rfl
      | some value =>
          refine (single (by rintro ⟨⟩) value).congr ⟨?_, fun holds => holds value rfl⟩ rfl
          rintro holds _ ⟨⟩
          exact holds
  | repeated arraySize =>
      rw [encodeField, encodeArray]
      cases slot with
      | nil =>
          exact encodes_nothing.congr (iff_of_true trivial ⟨Nat.zero_le _, by rintro _ ⟨⟩⟩) rfl
      | cons value values =>
          rw [if_neg (by rintro ⟨⟩)]
          split
          · rename_i long
            exact (encodes_throw (by rintro ⟨⟩)).congr (iff_of_false id fun holds =>
              Nat.not_le.mpr long holds.1) rfl
          · rename_i short
            have inside := Nat.le_of_not_lt short
            have some : arraySize ≠ 0 := Nat.ne_of_gt (Nat.lt_of_lt_of_le (Nat.succ_pos _) inside)
            exact (several arraySize rfl some _ inside).congr (and_iff_right inside).symm rfl

end Presence

/-! ## Submessages -/

/-- The second pass writes what the first one counted. -/
theorem encodes_writeSubmessage {encode : Encoder Unit} {bytes : List UInt8}
    (fields : EncodesAs encode True bytes) :
    EncodesAs (writeSubmessage encode bytes.length) True bytes := by
  have read (stream : PbOstream) : (get : Encoder PbOstream).run stream = .ok stream stream := rfl
  refine ⟨fun _ stream room => ?_, fun _ stream bounded full => ?_, fun never =>
    absurd trivial never⟩
  · rw [writeSubmessage, run_bind_ok (read stream)]
    cases counts : stream.callback with
    | false => exact run_pbWriteSize counts _
    | true =>
        have inner : PbOstream.Room
            { stream with maxSize := bytes.length, bytesWritten := 0 } bytes.length :=
          fun _ => Nat.le_of_eq (Nat.zero_add _)
        have size : 0 + bytes.length = bytes.length := Nat.zero_add _
        have run := fields.written trivial _ inner
        simp only [PbOstream.after, counts, if_true, size] at run
        rw [if_neg (by rintro ⟨⟩), if_neg (Nat.not_lt.mpr (room counts))]
        simp only [PbOstream.after, counts, if_true, run]
        rw [if_neg (not_not.mpr rfl)]
        rfl
  · obtain ⟨counts, longer⟩ := Classical.not_imp.mp full
    refine FailsWithin.untouched bounded ?_
    rw [writeSubmessage, run_bind_ok (read stream), if_neg (by rw [counts]; rintro ⟨⟩),
      if_pos (Nat.lt_of_not_le longer)]
    rfl

theorem encodes_pbEncodeSubmessage {encode : Encoder Unit} {valid : Prop} {bytes : List UInt8}
    (fields : EncodesAs encode valid bytes) (small : valid → bytes.length < 2 ^ 32) :
    EncodesAs (pbEncodeSubmessage encode) valid (delimited bytes) := by
  rw [pbEncodeSubmessage]
  by_cases holds : valid
  · have always : EncodesAs encode True bytes := fields.congr (iff_of_true holds trivial) rfl
    simp only [fields.run_sizing holds, bytesWritten_sizing]
    exact ((encodes_size (small holds)).bind (encodes_writeSubmessage always)).congr
      (iff_of_true ⟨trivial, trivial⟩ holds) rfl
  · obtain ⟨error, other, part, -, run⟩ := fields.refused holds _ PbOstream.bounded_sizing
    simp only [run]
    exact (encodes_throw other).congr (iff_of_false id holds) rfl

theorem encodes_encodeSubmessageField {tag : UInt16} {encode : Encoder Unit} {valid : Prop}
    {bytes : List UInt8} (fields : EncodesAs encode valid bytes)
    (small : valid → bytes.length < 2 ^ 32) :
    EncodesAs (encodeSubmessageField tag encode) valid (submessageBytes tag bytes) :=
  ((encodes_pbEncodeTag pbWtString_lt tag).bind (encodes_pbEncodeSubmessage fields small)).congr
    (and_iff_right trivial) rfl

/-! ## Messages -/

section Bounds

variable (packed : Bool) (tag data : Nat)

/-- There is a field in the structure. -/
theorem PbHtype.data_le_maxSize {htype : PbHtype} (some : htype ≠ .repeated 0) :
    data ≤ htype.maxSize packed tag data := by
  cases htype with
  | required | optional => exact Nat.le_add_left _ _
  | repeated arraySize =>
      have positive : 1 ≤ arraySize := Nat.pos_of_ne_zero (by rintro rfl; exact some rfl)
      rw [maxSize]
      split
      · calc data ≤ arraySize * data := Nat.le_mul_of_pos_left _ positive
          _ ≤ delimitedSize (arraySize * data) := le_delimitedSize _
          _ ≤ tag + delimitedSize (arraySize * data) := Nat.le_add_left _ _
      · calc data ≤ tag + data := Nat.le_add_left _ _
          _ ≤ arraySize * (tag + data) := Nat.le_mul_of_pos_left _ positive

theorem PbHtype.packed_le_maxSize (arraySize : Nat) :
    arraySize * data ≤ (PbHtype.repeated arraySize).maxSize true tag data :=
  Nat.le_trans (le_delimitedSize _) (Nat.le_add_left _ _)

end Bounds

/-- A message that fits has one encoding, which is written wherever there is room for it. -/
theorem pbEncode_encodes {fields : PbMsgdesc} (small : fields.maxSize < 2 ^ 32)
    (message : fields.Struct) :
    EncodesAs (pbEncode fields message) (fields.Encodable message) (fields.wire message) := by
  induction fields with
  | nil => exact encodes_nothing
  | field tag htype ltype rest ih =>
      obtain ⟨slot, others⟩ := message
      rw [PbMsgdesc.maxSize] at small
      have data (some : htype ≠ .repeated 0) : ltype.maxSize < 2 ^ 32 := by
        have bound := PbHtype.data_le_maxSize ltype.packable (tagSize tag) ltype.maxSize some
        omega
      refine EncodesAs.bind (encodes_encodeField ?_ ?_ slot)
        (ih (Nat.lt_of_le_of_lt (Nat.le_add_left _ _) small) others)
      · exact fun some value => encodes_encodeBasicField (data some) tag value
      · rintro arraySize rfl positive values count
        refine encodes_encodeElements (data (by rintro ⟨⟩; exact positive rfl)) fun packable => ?_
        have length : (values.flatMap ltype.bytesOf).length ≤ values.length * ltype.maxSize :=
          length_flatMap_le fun value _ =>
            PbLtype.length_bytesOf_le (ltype.fits_of_packable packable value)
        have within := Nat.mul_le_mul_right ltype.maxSize count
        have packed := PbHtype.packed_le_maxSize (tagSize tag) ltype.maxSize arraySize
        rw [packable] at small
        omega
  | submessage tag htype submsgDesc rest ihSub ih =>
      obtain ⟨slot, others⟩ := message
      rw [PbMsgdesc.maxSize] at small
      have single (some : htype ≠ .repeated 0) (message : submsgDesc.Struct) :
          EncodesAs (encodeSubmessageField tag (pbEncode submsgDesc message))
            (submsgDesc.Encodable message) (submessageBytes tag (submsgDesc.wire message)) := by
        have bound := PbHtype.data_le_maxSize false (tagSize tag)
          (delimitedSize submsgDesc.maxSize) some
        have sub := le_delimitedSize submsgDesc.maxSize
        have inside : submsgDesc.maxSize < 2 ^ 32 := by omega
        exact encodes_encodeSubmessageField (ihSub inside message) fun encodable =>
          Nat.lt_of_le_of_lt (PbMsgdesc.length_wire_le encodable) inside
      refine EncodesAs.bind (encodes_encodeField single ?_ slot)
        (ih (Nat.lt_of_le_of_lt (Nat.le_add_left _ _) small) others)
      rintro arraySize rfl positive values -
      exact encodes_forM fun value _ => single (by rintro ⟨⟩; exact positive rfl) value
  | callback tag rest ih => exact ih small message

/-- The size that is counted first is that of the encoding. -/
theorem pbGetEncodedSize_eq_some {fields : PbMsgdesc} (small : fields.maxSize < 2 ^ 32)
    {message : fields.Struct} {size : Nat} :
    pbGetEncodedSize fields message = some size ↔
      fields.Encodable message ∧ (fields.wire message).length = size := by
  have encodes := pbEncode_encodes small message
  by_cases encodable : fields.Encodable message
  · simp only [pbGetEncodedSize, encodes.run_sizing encodable, bytesWritten_sizing,
      Option.some.injEq, encodable, true_and]
  · obtain ⟨error, -, part, -, run⟩ := encodes.refused encodable _ PbOstream.bounded_sizing
    simp only [pbGetEncodedSize, run, encodable, false_and, iff_false]
    rintro ⟨⟩

theorem room_fromBuffer {bufsize count : Nat} :
    (pbOstreamFromBuffer bufsize).Room count ↔ count ≤ bufsize := by
  simp only [PbOstream.Room, pbOstreamFromBuffer, Nat.zero_add, forall_const]

/-- What is in a buffer is the encoding of the message. -/
theorem wire_of_pbEncode {fields : PbMsgdesc} (small : fields.maxSize < 2 ^ 32)
    {message : fields.Struct} {bufsize : Nat} {stream : PbOstream}
    (encoded : (pbEncode fields message).run (pbOstreamFromBuffer bufsize) = .ok ⟨⟩ stream) :
    fields.Encodable message ∧ stream.state = fields.wire message := by
  have encodes := pbEncode_encodes small message
  have bounded := PbOstream.bounded_fromBuffer bufsize
  by_cases encodable : fields.Encodable message
  · by_cases room : (pbOstreamFromBuffer bufsize).Room (fields.wire message).length
    · rw [encodes.written encodable _ room] at encoded
      cases encoded
      exact ⟨encodable, rfl⟩
    · obtain ⟨part, -, run⟩ := encodes.full encodable _ bounded room
      rw [run] at encoded
      cases encoded
  · obtain ⟨error, -, part, -, run⟩ := encodes.refused encodable _ bounded
    rw [run] at encoded
    cases encoded

theorem neighborFields_small : neighborFields.maxSize < 2 ^ 32 := by decide +kernel

theorem flowFields_small : flowFields.maxSize < 2 ^ 32 := by decide +kernel

/-- A neighbor of which only the address is known. -/
def addressedNeighbor (address : UInt64) : neighborFields.Struct :=
  (none, none, none, none, some address, [], ())

/-- A buffer takes every message whose size was found and fits, and nothing else. What was counted
is what is written, whether a message can be written or not the buffer is not exceeded, and a
submessage never changes its size between the passes. -/
theorem pbEncode_toBuffer {fields : PbMsgdesc} (small : fields.maxSize < 2 ^ 32)
    (message : fields.Struct) (bufsize : Nat) :
    ((∃ stream, (pbEncode fields message).run (pbOstreamFromBuffer bufsize) = .ok ⟨⟩ stream) ↔
      ∃ size ≤ bufsize, pbGetEncodedSize fields message = some size) ∧
    (∀ stream, (pbEncode fields message).run (pbOstreamFromBuffer bufsize) = .ok ⟨⟩ stream →
      pbGetEncodedSize fields message = some stream.bytesWritten ∧
      stream.state = fields.wire message ∧ stream.state.length = stream.bytesWritten ∧
      stream.bytesWritten ≤ fields.maxSize) ∧
    (∀ error stream,
      (pbEncode fields message).run (pbOstreamFromBuffer bufsize) = .error error stream →
      stream.state.length ≤ bufsize ∧ error ≠ .submsgSizeChanged) := by
  have encodes := pbEncode_encodes small message
  have bounded := PbOstream.bounded_fromBuffer bufsize
  by_cases encodable : fields.Encodable message
  · by_cases room : (pbOstreamFromBuffer bufsize).Room (fields.wire message).length
    · have counted := (pbGetEncodedSize_eq_some small).mpr ⟨encodable, rfl⟩
      rw [encodes.written encodable _ room]
      refine ⟨iff_of_true ⟨_, rfl⟩ ⟨_, room_fromBuffer.mp room, counted⟩, ?_, by rintro _ _ ⟨⟩⟩
      rintro _ ⟨⟩
      have written : 0 + (fields.wire message).length = (fields.wire message).length :=
        Nat.zero_add _
      refine ⟨?_, rfl, written.symm, ?_⟩
      · rw [counted]
        exact congrArg some written.symm
      · exact written.trans_le (PbMsgdesc.length_wire_le encodable)
    · obtain ⟨part, fits, run⟩ := encodes.full encodable _ bounded room
      rw [run]
      refine ⟨iff_of_false (by rintro ⟨_, ⟨⟩⟩) ?_, by rintro _ ⟨⟩, ?_⟩
      · rintro ⟨size, le, counted⟩
        obtain ⟨-, rfl⟩ := (pbGetEncodedSize_eq_some small).mp counted
        exact room (room_fromBuffer.mpr le)
      · rintro _ _ ⟨⟩
        exact ⟨room_fromBuffer.mp fits, by rintro ⟨⟩⟩
  · obtain ⟨error, other, part, fits, run⟩ := encodes.refused encodable _ bounded
    rw [run]
    refine ⟨iff_of_false (by rintro ⟨_, ⟨⟩⟩) ?_, by rintro _ ⟨⟩, ?_⟩
    · rintro ⟨size, -, counted⟩
      exact encodable ((pbGetEncodedSize_eq_some small).mp counted).1
    · rintro _ _ ⟨⟩
      exact ⟨room_fromBuffer.mp fits, other⟩

/-- A name of one letter. -/
def letterName (letter : UInt8) (other : 0 ∉ [letter]) :
    applicationProcessNamingInfoFields.Struct :=
  (⟨[letter], other⟩, none, none, none, ())

theorem zero_notMem_a : (0 : UInt8) ∉ [97] := by decide

theorem zero_notMem_b : (0 : UInt8) ∉ [98] := by decide

/-- A flow between two names over one connection. -/
def connectedFlow : flowFields.Struct :=
  (letterName 97 zero_notMem_a, letterName 98 zero_notMem_b, 1, none, 3, none,
    [(some 1, some 0, some 1, ())], none, none, none, none, none, none, none, none, ())

/-- The flow takes 22 bytes, three submessages among them. -/
theorem pbEncode_toBuffer_flow :
    flowFields.maxSize < 2 ^ 32 ∧ pbGetEncodedSize flowFields connectedFlow = some 22 ∧
    (∃ stream, (pbEncode flowFields connectedFlow).run (pbOstreamFromBuffer 22) =
        .ok ⟨⟩ stream ∧ stream.bytesWritten = 22 ∧ stream.state = flowFields.wire connectedFlow) ∧
    ¬ ∃ stream, (pbEncode flowFields connectedFlow).run (pbOstreamFromBuffer 21) =
      .ok ⟨⟩ stream := by
  have size : pbGetEncodedSize flowFields connectedFlow = some 22 := by decide +kernel
  have enough := pbEncode_toBuffer flowFields_small connectedFlow 22
  obtain ⟨stream, run⟩ := enough.1.mpr ⟨22, Nat.le_refl _, size⟩
  obtain ⟨counted, written, -⟩ := enough.2.1 stream run
  rw [size] at counted
  refine ⟨flowFields_small, size, ⟨stream, run, (Option.some.inj counted).symm, written⟩, ?_⟩
  rw [(pbEncode_toBuffer flowFields_small connectedFlow 21).1, size]
  rintro ⟨_, little, ⟨⟩⟩
  exact absurd little (by decide)

end RinaSense
