import RinaSense.Nanopb.Decode
import RinaSense.Nanopb.EncodedBytes

/-!
# Encoded messages are decoded

The decoder reads what the encoder writes, field after field, over what the structure holds. So
the encoding of a message is decoded to that message, two encodings one after the other to both
messages merged, and fields that a descriptor does not know change nothing.
-/

namespace RinaSense

open Command

/-! ## Fields -/

theorem toInt32_words (word : Int64) : word.toUInt64.toUInt32.toInt32 = word.toInt32 := by
  apply Int32.toBitVec_inj.mp
  change BitVec.setWidth 32 word.toBitVec = BitVec.signExtend 32 word.toBitVec
  exact (BitVec.signExtend_eq_setWidth_of_le _ (by decide)).symm

theorem run_clampInt32 (value : Int32) (stream : List UInt8) :
    (clampInt32 value.toInt64).run stream = .ok value stream := by
  rw [clampInt32, Int32.toInt32_toInt64, if_neg (not_not.mpr rfl)]
  rfl

theorem toNat_size {size : Nat} (small : size < 2 ^ 32) : (UInt32.ofNat size).toNat = size := by
  rw [UInt32.toNat_ofNat', Nat.mod_eq_of_lt small]

theorem run_pbDecBytes {dataSize : Nat} (within : dataSize < 2 ^ 16) {content : List UInt8}
    (fits : content.length + 2 ≤ dataSize) (rest : List UInt8) :
    (pbDecBytes dataSize).run (delimited content ++ rest) = .ok content rest := by
  have small : content.length < 2 ^ 32 := by omega
  have length := run_pbDecodeVarint32_encode small (content ++ rest)
  rw [pbDecBytes, delimited, List.append_assoc, run_bind_ok length, toNat_size small]
  rw [if_neg (by omega), if_neg (by omega)]
  exact run_pbRead content rest

theorem run_pbDecString {dataSize : Nat} (within : dataSize < 2 ^ 16) {text : CString}
    (fits : text.val.length < dataSize) (rest : List UInt8) :
    (pbDecString dataSize).run (delimited text.val ++ rest) = .ok text rest := by
  have small : text.val.length < 2 ^ 32 := by omega
  have length := run_pbDecodeVarint32_encode small (text.val ++ rest)
  have largest : UInt32.ofNat text.val.length ≠ 0xFFFFFFFF := by
    intro same
    have value := congrArg UInt32.toNat same
    rw [toNat_size small] at value
    change text.val.length = 4294967295 at value
    omega
  rw [pbDecString, delimited, List.append_assoc, run_bind_ok length, toNat_size small]
  rw [if_neg largest, if_neg (by omega), run_bind_ok (run_pbRead text.val rest),
    CString.ofBytes_text]
  rfl

/-- The data of a field is read back. -/
theorem run_pbDecField {ltype : PbLtype} (sized : ltype.Sized) {data : ltype.Data}
    (fits : ltype.Fits data) (rest : List UInt8) :
    (pbDecField ltype).run (ltype.bytesOf data ++ rest) = .ok data rest := by
  cases ltype with
  | bool =>
      have small : (if data then 1 else 0) < 2 ^ 32 := by split <;> decide
      rw [pbDecField, pbDecodeBool, PbLtype.bytesOf,
        run_bind_ok (run_pbDecodeVarint32_encode small rest)]
      cases data <;> rfl
  | int32 =>
      rw [pbDecField, PbLtype.bytesOf, run_bind_ok (run_pbDecodeVarint_encode _ rest),
        toInt32_words, Int32.toInt32_toInt64]
      exact run_clampInt32 data rest
  | int64 =>
      rw [pbDecField, PbLtype.bytesOf, run_bind_ok (run_pbDecodeVarint_encode _ rest),
        Int64.toInt64_toUInt64]
      rfl
  | uint32 =>
      have read := run_pbDecodeVarint_encode data.toUInt64 rest
      rw [UInt32.toNat_toUInt64] at read
      rw [pbDecField, PbLtype.bytesOf, run_bind_ok read, UInt32.toUInt32_toUInt64,
        if_neg (not_not.mpr rfl)]
      rfl
  | uint64 => exact run_pbDecodeVarint_encode data rest
  | sint32 =>
      rw [pbDecField, pbDecodeSvarint, PbLtype.bytesOf, bind_assoc,
        run_bind_ok (run_pbDecodeVarint_encode _ rest), pure_bind, unzigzagged_zigzagged]
      exact run_clampInt32 data rest
  | sint64 =>
      rw [pbDecField, pbDecodeSvarint, PbLtype.bytesOf,
        run_bind_ok (run_pbDecodeVarint_encode _ rest), unzigzagged_zigzagged]
      rfl
  | fixed32 => exact run_pbDecodeFixed32 data rest
  | fixed64 => exact run_pbDecodeFixed64 data rest
  | bytes dataSize => exact run_pbDecBytes sized.2 fits rest
  | string dataSize => exact run_pbDecString sized.2 fits rest

/-! ## Substreams -/

theorem run_pbMakeStringSubstream {bytes : List UInt8} (small : bytes.length < 2 ^ 32)
    (rest : List UInt8) :
    pbMakeStringSubstream.run (delimited bytes ++ rest) = .ok bytes rest := by
  have length := run_pbDecodeVarint32_encode small (bytes ++ rest)
  have read (stream : List UInt8) :
      (get : Decoder (List UInt8)).run stream = .ok stream stream := rfl
  rw [pbMakeStringSubstream, delimited, List.append_assoc, run_bind_ok length, toNat_size small,
    run_bind_ok (read _), if_neg (by rw [List.length_append]; omega)]
  change EStateM.Result.ok ((bytes ++ rest).take bytes.length)
    ((bytes ++ rest).drop bytes.length) = _
  rw [List.take_left, List.drop_left]

theorem run_overSubstream {α : Type} {decode : Decoder α} {bytes : List UInt8} {value : α}
    {left : List UInt8} (small : bytes.length < 2 ^ 32) (run : decode.run bytes = .ok value left)
    (rest : List UInt8) :
    (overSubstream decode).run (delimited bytes ++ rest) = .ok value rest := by
  rw [overSubstream, run_bind_ok (run_pbMakeStringSubstream small rest), run]
  rfl

/-- As many elements as there is room for are read to the end of the substream. -/
theorem run_decodePacked {α : Type} {decodeOne : Decoder α} {bytesOf : α → List UInt8}
    {values : List α}
    (reads : ∀ value ∈ values, ∀ rest, decodeOne.run (bytesOf value ++ rest) = .ok value rest)
    (present : ∀ value ∈ values, bytesOf value ≠ []) {room : Nat} (fit : values.length ≤ room)
    (old : List α) :
    (decodePacked decodeOne room old).run (values.flatMap bytesOf) = .ok (old ++ values) [] := by
  have read (stream : List UInt8) :
      (get : Decoder (List UInt8)).run stream = .ok stream stream := rfl
  induction values generalizing room old with
  | nil =>
      rw [List.append_nil, List.flatMap_nil]
      cases room with
      | zero => rfl
      | succ room => rfl
  | cons value values ih =>
      obtain ⟨room, rfl⟩ := Nat.exists_eq_succ_of_ne_zero
        (Nat.ne_of_gt (Nat.lt_of_lt_of_le (Nat.succ_pos _) fit))
      obtain ⟨first, others⟩ := List.forall_mem_cons.mp reads
      obtain ⟨some, more⟩ := List.forall_mem_cons.mp present
      have whole : bytesOf value ++ values.flatMap bytesOf ≠ [] := by
        rw [Ne, List.append_eq_nil_iff]
        exact fun nothing => some nothing.1
      have following := ih others more (Nat.le_of_succ_le_succ fit) (old ++ [value])
      rw [List.append_assoc] at following
      rw [decodePacked, List.flatMap_cons, run_bind_ok (read _), if_neg whole, first]
      exact following

/-! ## Tags -/

theorem toNat_wireType {word : UInt32} : (word &&& 7).toNat = word.toNat % 8 := by
  rw [UInt32.toNat_and]
  exact Nat.and_two_pow_sub_one_eq_mod word.toNat 3

theorem toNat_tag {word : UInt32} : (word >>> 3).toNat = word.toNat / 8 := by
  rw [UInt32.toNat_shiftRight, Nat.shiftRight_eq_div_pow]
  rfl

theorem run_pbDecodeTag {wireType : UInt32} (three : wireType.toNat < 8) (tag : UInt16)
    (rest : List UInt8) :
    pbDecodeTag.run (tagBytes wireType tag ++ rest) = .ok (wireType, tag.toUInt32) rest := by
  have bound := tag.toNat_lt
  have small : tagNumber wireType tag < 2 ^ 32 := by
    rw [tagNumber]
    omega
  have number := toNat_size small
  have wire : UInt32.ofNat (tagNumber wireType tag) &&& 7 = wireType := by
    rw [← UInt32.toNat_inj, toNat_wireType, number, tagNumber]
    omega
  have field : UInt32.ofNat (tagNumber wireType tag) >>> 3 = tag.toUInt32 := by
    rw [← UInt32.toNat_inj, toNat_tag, number, tagNumber, UInt16.toNat_toUInt32]
    omega
  rw [pbDecodeTag, tagBytes, run_bind_ok (run_pbDecodeVarint32_encode small rest), wire, field]
  rfl

/-! ## The loop -/

/-- The bytes are fields that take one message to another. The tags are among them. -/
def Consumes {σ : Type} (decodeField : FieldDecoder σ) (message : σ) (bytes : List UInt8)
    (tags : List UInt32) (next : σ) : Prop :=
  ∀ rest turns seen, (bytes ++ rest).length ≤ turns →
    ∃ left found, rest.length ≤ left ∧ seen ⊆ found ∧ tags ⊆ found ∧
      (decodeLoop decodeField turns seen message).run (bytes ++ rest) =
        (decodeLoop decodeField left found next).run rest

section Loop

variable {σ : Type} {decodeField : FieldDecoder σ} {message middle next : σ}
  {bytes more : List UInt8} {tags others : List UInt32}

theorem consumes_nothing (message : σ) : Consumes decodeField message [] [] message :=
  fun _ turns seen enough =>
    ⟨turns, seen, enough, List.Subset.refl _, List.nil_subset _, rfl⟩

theorem Consumes.append (first : Consumes decodeField message bytes tags middle)
    (second : Consumes decodeField middle more others next) :
    Consumes decodeField message (bytes ++ more) (tags ++ others) next := by
  intro rest turns seen enough
  rw [List.append_assoc] at enough ⊢
  obtain ⟨left, found, enough, kept, known, run⟩ := first (more ++ rest) turns seen enough
  obtain ⟨last, all, enough, keptAll, knownAll, runRest⟩ := second rest left found enough
  refine ⟨last, all, enough, List.Subset.trans kept keptAll, ?_, run.trans runRest⟩
  exact List.append_subset.mpr ⟨List.Subset.trans known keptAll, knownAll⟩

/-- Fewer tags are asked for. -/
theorem Consumes.mono (consumes : Consumes decodeField message bytes tags next)
    (fewer : others ⊆ tags) : Consumes decodeField message bytes others next := by
  intro rest turns seen enough
  obtain ⟨left, found, enough, kept, known, run⟩ := consumes rest turns seen enough
  exact ⟨left, found, enough, kept, List.Subset.trans fewer known, run⟩

section Turn

variable {stream body rest : List UInt8} {wireType tag : UInt32}

/-- A turn of the loop for a field of the descriptor. -/
theorem run_decodeLoop_known (present : stream ≠ [])
    (read : pbDecodeTag.run stream = .ok (wireType, tag) body) (positive : tag ≠ 0)
    (known : (decodeField wireType tag message).run body = .ok (some next) rest) (turns : Nat)
    (seen : List UInt32) :
    (decodeLoop decodeField (turns + 1) seen message).run stream =
      (decodeLoop decodeField turns (tag :: seen) next).run rest := by
  have get : (get : Decoder (List UInt8)).run stream = .ok stream stream := rfl
  rw [decodeLoop, run_bind_ok get, if_neg present, run_bind_ok read]
  dsimp only
  rw [if_neg positive, run_bind_ok known]

/-- A turn of the loop for another field. -/
theorem run_decodeLoop_unknown (present : stream ≠ [])
    (read : pbDecodeTag.run stream = .ok (wireType, tag) body) (positive : tag ≠ 0)
    (unknown : (decodeField wireType tag message).run body = .ok none body)
    (skipped : (pbSkipField wireType).run body = .ok ⟨⟩ rest) (turns : Nat) (seen : List UInt32) :
    (decodeLoop decodeField (turns + 1) seen message).run stream =
      (decodeLoop decodeField turns seen message).run rest := by
  have get : (get : Decoder (List UInt8)).run stream = .ok stream stream := rfl
  rw [decodeLoop, run_bind_ok get, if_neg present, run_bind_ok read]
  dsimp only
  rw [if_neg positive, run_bind_ok unknown, run_bind_ok skipped]

end Turn

theorem toUInt32_ne_zero {tag : UInt16} (positive : 0 < tag) : tag.toUInt32 ≠ 0 := by
  intro zero
  have value := congrArg UInt32.toNat zero
  rw [UInt16.toNat_toUInt32] at value
  exact Nat.ne_of_gt (UInt16.lt_iff_toNat_lt.mp positive) value

theorem tagBytes_ne_nil (wireType : UInt32) (tag : UInt16) : tagBytes wireType tag ≠ [] :=
  List.ne_nil_of_length_pos (Varint.length_encode_pos _)

/-- A field is consumed if its data is, whatever follows. -/
theorem consumes_field {wireType : UInt32} (three : wireType.toNat < 8) {tag : UInt16}
    (positive : 0 < tag)
    (known : ∀ rest, (decodeField wireType tag.toUInt32 message).run (bytes ++ rest) =
      .ok (some next) rest) :
    Consumes decodeField message (tagBytes wireType tag ++ bytes) [tag.toUInt32] next := by
  intro rest turns seen enough
  have present : tagBytes wireType tag ++ (bytes ++ rest) ≠ [] :=
    List.append_ne_nil_of_left_ne_nil (tagBytes_ne_nil wireType tag) _
  have some : 0 < (tagBytes wireType tag).length := Varint.length_encode_pos _
  rw [List.append_assoc] at enough ⊢
  simp only [List.length_append] at enough
  obtain ⟨left, rfl⟩ : ∃ left, turns = left + 1 := ⟨turns - 1, by omega⟩
  refine ⟨left, tag.toUInt32 :: seen, by omega, List.subset_cons_self _ _, ?_,
    run_decodeLoop_known present (run_pbDecodeTag three tag _) (toUInt32_ne_zero positive)
      (known rest) left seen⟩
  exact List.cons_subset_cons _ (List.nil_subset _)

/-- A field that is not in the descriptor is skipped. -/
theorem consumes_unknown {wireType : UInt32} (three : wireType.toNat < 8) {tag : UInt16}
    (positive : 0 < tag)
    (unknown : ∀ stream, (decodeField wireType tag.toUInt32 message).run stream = .ok none stream)
    (skipped : ∀ rest, (pbSkipField wireType).run (bytes ++ rest) = .ok ⟨⟩ rest) :
    Consumes decodeField message (tagBytes wireType tag ++ bytes) [] message := by
  intro rest turns seen enough
  have present : tagBytes wireType tag ++ (bytes ++ rest) ≠ [] :=
    List.append_ne_nil_of_left_ne_nil (tagBytes_ne_nil wireType tag) _
  have some : 0 < (tagBytes wireType tag).length := Varint.length_encode_pos _
  rw [List.append_assoc] at enough ⊢
  simp only [List.length_append] at enough
  obtain ⟨left, rfl⟩ : ∃ left, turns = left + 1 := ⟨turns - 1, by omega⟩
  exact ⟨left, seen, by omega, List.Subset.refl _, List.nil_subset _,
    run_decodeLoop_unknown present (run_pbDecodeTag three tag _) (toUInt32_ne_zero positive)
      (unknown _) (skipped rest) left seen⟩

/-- A stream that was consumed with every required field is decoded. -/
theorem run_pbDecodeInner {required : List UInt16}
    (consumes : Consumes decodeField message bytes (required.map UInt16.toUInt32) next) :
    (pbDecodeInner decodeField required message).run bytes = .ok next [] := by
  have get : (get : Decoder (List UInt8)).run bytes = .ok bytes bytes := rfl
  obtain ⟨left, found, -, -, known, run⟩ :=
    consumes [] bytes.length [] (by rw [List.append_nil])
  have stops : (decodeLoop decodeField left found next).run [] = .ok (next, found) [] := by
    cases left with
    | zero => rfl
    | succ left => rfl
  rw [List.append_nil, stops] at run
  rw [pbDecodeInner, run_bind_ok get, run_bind_ok run]
  have complete : RequiredSeen required found :=
    fun tag member => known (List.mem_map_of_mem (List.mem_of_mem_take member))
  dsimp only
  rw [if_pos complete]
  rfl

end Loop

/-! ## Readers and writers -/

/-- The reader's descriptor has some of the fields of the writer's, as an older version of it has,
and so have the descriptors of submessages. -/
inductive PbMsgdesc.Older : PbMsgdesc → PbMsgdesc → Type
  | nil : Older .nil .nil
  | field {tag : UInt16} {htype : PbHtype} {ltype : PbLtype} {reader writer : PbMsgdesc}
      (rest : Older reader writer) :
      Older (.field tag htype ltype reader) (.field tag htype ltype writer)
  | submessage {tag : UInt16} {htype : PbHtype} {readerSub writerSub reader writer : PbMsgdesc}
      (sub : Older readerSub writerSub) (rest : Older reader writer) :
      Older (.submessage tag htype readerSub reader) (.submessage tag htype writerSub writer)
  | callback {tag : UInt16} {reader writer : PbMsgdesc} (rest : Older reader writer) :
      Older (.callback tag reader) (.callback tag writer)
  | unknownField {tag : UInt16} {htype : PbHtype} {ltype : PbLtype} {reader writer : PbMsgdesc}
      (rest : Older reader writer) : Older reader (.field tag htype ltype writer)
  | unknownSubmessage {tag : UInt16} {htype : PbHtype} {submsgDesc reader writer : PbMsgdesc}
      (rest : Older reader writer) : Older reader (.submessage tag htype submsgDesc writer)
  | unknownCallback {tag : UInt16} {reader writer : PbMsgdesc} (rest : Older reader writer) :
      Older reader (.callback tag writer)

/-- Reader and writer have the same descriptor. -/
def PbMsgdesc.same : (fields : PbMsgdesc) → Older fields fields
  | .nil => .nil
  | .field _ _ _ rest => .field rest.same
  | .submessage _ _ submsgDesc rest => .submessage submsgDesc.same rest.same
  | .callback _ rest => .callback rest.same

/-- What a slot holds after a field was decoded over it. -/
def PbHtype.merge {α β : Type} (fresh : α) (mergeOne : α → β → α) :
    (htype : PbHtype) → htype.Slot α → htype.Slot β → htype.Slot α
  | .required, old, new => mergeOne old new
  | .optional, old, none => old
  | .optional, old, some new => some (mergeOne (old.getD fresh) new)
  | .repeated _, old, new => old ++ new.map (mergeOne fresh)

/-- There is room for the elements of both. -/
def PbHtype.Joins {α β : Type} (fresh : α) (joinsOne : α → β → Prop) :
    (htype : PbHtype) → htype.Slot α → htype.Slot β → Prop
  | .required, old, new => joinsOne old new
  | .optional, old, new => ∀ value ∈ new, joinsOne (old.getD fresh) value
  | .repeated arraySize, old, new =>
      old.length + new.length ≤ arraySize ∧ ∀ value ∈ new, joinsOne fresh value

namespace PbMsgdesc

/-- What the reader knows of a message, over another message. -/
def Older.merge : {reader writer : PbMsgdesc} → Older reader writer →
    reader.Struct → writer.Struct → reader.Struct
  | _, _, .nil, _, new => new
  | _, _, @Older.field _ htype ltype _ _ rest, (slot, others), (newSlot, newOthers) =>
      (htype.merge ltype.zero (fun _ new => new) slot newSlot, rest.merge others newOthers)
  | _, _, @Older.submessage _ htype readerSub _ _ _ sub rest, (slot, others),
      (newSlot, newOthers) =>
      (htype.merge (pbMessageSetToDefaults readerSub) sub.merge slot newSlot,
        rest.merge others newOthers)
  | _, _, .callback rest, others, newOthers => rest.merge others newOthers
  | _, _, .unknownField rest, others, (_, newOthers) => rest.merge others newOthers
  | _, _, .unknownSubmessage rest, others, (_, newOthers) => rest.merge others newOthers
  | _, _, .unknownCallback rest, others, newOthers => rest.merge others newOthers

/-- The arrays of both messages fit together. -/
def Older.Joins : {reader writer : PbMsgdesc} → Older reader writer →
    reader.Struct → writer.Struct → Prop
  | _, _, .nil, _, _ => True
  | _, _, @Older.field _ htype ltype _ _ rest, (slot, others), (newSlot, newOthers) =>
      htype.Joins ltype.zero (fun _ _ => True) slot newSlot ∧ rest.Joins others newOthers
  | _, _, @Older.submessage _ htype readerSub _ _ _ sub rest, (slot, others),
      (newSlot, newOthers) =>
      htype.Joins (pbMessageSetToDefaults readerSub) sub.Joins slot newSlot ∧
        rest.Joins others newOthers
  | _, _, .callback rest, others, newOthers => rest.Joins others newOthers
  | _, _, .unknownField rest, others, (_, newOthers) => rest.Joins others newOthers
  | _, _, .unknownSubmessage rest, others, (_, newOthers) => rest.Joins others newOthers
  | _, _, .unknownCallback rest, others, newOthers => rest.Joins others newOthers

/-- What the reader knows of a message. -/
def Older.view {reader writer : PbMsgdesc} (older : Older reader writer)
    (message : writer.Struct) : reader.Struct :=
  older.merge (pbMessageSetToDefaults reader) message

end PbMsgdesc

section Defaults

variable {α β : Type} {fresh : α} {htype : PbHtype}

theorem PbHtype.merge_unset {mergeOne : α → α → α} (kept : ∀ value, mergeOne fresh value = value)
    (slot : htype.Slot α) : htype.merge fresh mergeOne (htype.unset fresh) slot = slot := by
  cases htype with
  | required => exact kept slot
  | optional =>
      cases slot with
      | none => rfl
      | some value => exact congrArg some (kept value)
  | repeated arraySize =>
      have same : mergeOne fresh = id := funext kept
      rw [merge, same, List.map_id]
      rfl

theorem PbHtype.joins_unset {joinsOne : α → β → Prop} {fits : β → Prop} {slot : htype.Slot β}
    (joins : ∀ value, fits value → joinsOne fresh value) (holds : htype.Holds fits slot) :
    htype.Joins fresh joinsOne (htype.unset fresh) slot := by
  cases htype with
  | required => exact joins slot holds
  | optional => exact fun value member => joins value (holds value member)
  | repeated arraySize =>
      have each (value : β) (member : value ∈ slot) := joins value (holds.2 value member)
      exact ⟨(Nat.zero_add _).trans_le holds.1, each⟩

end Defaults

/-- The whole message is known where the descriptor is the same. -/
theorem PbMsgdesc.view_same {fields : PbMsgdesc} (message : fields.Struct) :
    fields.same.view message = message := by
  induction fields with
  | nil => rfl
  | field tag htype ltype rest ih =>
      obtain ⟨slot, others⟩ := message
      exact Prod.ext (PbHtype.merge_unset (fun _ => rfl) slot) (ih others)
  | submessage tag htype submsgDesc rest ihSub ih =>
      obtain ⟨slot, others⟩ := message
      exact Prod.ext (PbHtype.merge_unset ihSub slot) (ih others)
  | callback tag rest ih => exact ih message

theorem PbMsgdesc.Older.joins_defaults {reader writer : PbMsgdesc} (older : Older reader writer)
    {message : writer.Struct} (encodable : writer.Encodable message) :
    older.Joins (pbMessageSetToDefaults reader) message := by
  induction older with
  | nil => trivial
  | field rest ih =>
      obtain ⟨slot, others⟩ := message
      exact ⟨PbHtype.joins_unset (fun _ _ => trivial) encodable.1, ih encodable.2⟩
  | submessage sub rest ihSub ih =>
      obtain ⟨slot, others⟩ := message
      exact ⟨PbHtype.joins_unset (fun _ => ihSub) encodable.1, ih encodable.2⟩
  | callback rest ih => exact ih encodable
  | unknownField rest ih | unknownSubmessage rest ih =>
      obtain ⟨slot, others⟩ := message
      exact ih encodable.2
  | unknownCallback rest ih => exact ih encodable

/-! ## Slots -/

section Slots

variable {σ α β : Type} {decodeField : FieldDecoder σ} {tag : UInt16} {packable : Bool}
  {fresh : α} {decodeOne : UInt32 → α → Decoder α} {data : β → List UInt8} {fits : β → Prop}
  {mergeOne : α → β → α} {wireType : UInt32}

/-- The field with the tag is decoded into the slot that is put into the message. -/
def Places (decodeField : FieldDecoder σ) (tag : UInt16) (packable : Bool) (fresh : α)
    (decodeOne : UInt32 → α → Decoder α) (htype : PbHtype) (put : htype.Slot α → σ) : Prop :=
  ∀ wireType slot, decodeField wireType tag.toUInt32 (put slot) =
    decodeStaticField packable fresh decodeOne wireType htype slot >>=
      fun slot => pure (some (put slot))

section Arrays

variable {arraySize : Nat} {put : List α → σ} {old : List α} {values : List β}

/-- Elements that are fields of their own. -/
theorem consumes_elements (mergeOne : α → β → α)
    (places : Places decodeField tag packable fresh decodeOne (.repeated arraySize) put)
    (three : wireType.toNat < 8) (positive : 0 < tag)
    (plain : ¬ (wireType = pbWtString ∧ packable = true))
    (reads : ∀ value, fits value → ∀ rest,
      (decodeOne wireType fresh).run (data value ++ rest) = .ok (mergeOne fresh value) rest)
    (inside : old.length + values.length ≤ arraySize) (fit : ∀ value ∈ values, fits value) :
    Consumes decodeField (put old) (values.flatMap fun value => tagBytes wireType tag ++ data value)
      [] (put (old ++ values.map (mergeOne fresh))) := by
  induction values generalizing old with
  | nil =>
      rw [List.map_nil, List.append_nil]
      exact consumes_nothing _
  | cons value values ih =>
      obtain ⟨head, tail⟩ := List.forall_mem_cons.mp fit
      rw [List.length_cons] at inside
      have count : (old ++ [mergeOne fresh value]).length + values.length ≤ arraySize := by
        rw [List.length_append, List.length_singleton]
        omega
      have following := ih count tail
      rw [List.append_assoc] at following
      refine ((consumes_field three positive fun rest => ?_).append following).mono
        (List.nil_subset _)
      rw [places, decodeStaticField, if_neg plain, if_neg (by omega), bind_assoc,
        run_bind_ok (reads value head rest)]
      rfl

/-- Elements in one field. -/
theorem consumes_packed {values : List α} {data : α → List UInt8} {fits : α → Prop}
    (places : Places decodeField tag true fresh decodeOne (.repeated arraySize) put)
    (positive : 0 < tag)
    (reads : ∀ value, fits value → ∀ rest,
      (decodeOne pbWtPacked fresh).run (data value ++ rest) = .ok value rest)
    (present : ∀ value, data value ≠ [])
    (inside : old.length + values.length ≤ arraySize) (fit : ∀ value ∈ values, fits value)
    (small : (values.flatMap data).length < 2 ^ 32) :
    Consumes decodeField (put old) (tagBytes pbWtString tag ++ delimited (values.flatMap data))
      [] (put (old ++ values)) := by
  refine (consumes_field pbWtString_lt positive fun rest => ?_).mono (List.nil_subset _)
  have packed : (decodePacked (decodeOne pbWtPacked fresh) (arraySize - old.length) old).run
      (values.flatMap data) = .ok (old ++ values) [] :=
    run_decodePacked (fun value member => reads value (fit value member))
      (fun value _ => present value) (by omega) old
  rw [places, decodeStaticField, if_pos ⟨rfl, rfl⟩,
    run_bind_ok (run_overSubstream small packed rest)]
  rfl

end Arrays

/-- The tag of a field that has to be there. -/
def requiredTag (htype : PbHtype) (tag : UInt16) : List UInt32 :=
  if htype = .required then [tag.toUInt32] else []

/-- A slot is consumed over the slot that is there. -/
theorem consumes_slot {htype : PbHtype} {put : htype.Slot α → σ} {joinsOne : α → β → Prop}
    {all : List β → List UInt8}
    (places : Places decodeField tag packable fresh decodeOne htype put)
    (three : wireType.toNat < 8) (positive : 0 < tag)
    (reads : htype ≠ .repeated 0 → ∀ old value, joinsOne old value → fits value → ∀ rest,
      (decodeOne wireType old).run (data value ++ rest) = .ok (mergeOne old value) rest)
    (several : ∀ arraySize, htype = .repeated arraySize → arraySize ≠ 0 → ∀ place : List α → σ,
      Places decodeField tag packable fresh decodeOne (.repeated arraySize) place →
      ∀ (old : List α) (values : List β), old.length + values.length ≤ arraySize →
        (∀ value ∈ values, fits value ∧ joinsOne fresh value) →
        Consumes decodeField (place old) (all values) []
          (place (old ++ values.map (mergeOne fresh))))
    {old : htype.Slot α} {new : htype.Slot β} (holds : htype.Holds fits new)
    (joins : htype.Joins fresh joinsOne old new) :
    Consumes decodeField (put old)
      (htype.bytesOf (fun value => tagBytes wireType tag ++ data value) all new)
      (requiredTag htype tag) (put (htype.merge fresh mergeOne old new)) := by
  cases htype with
  | required =>
      refine consumes_field three positive fun rest => ?_
      rw [places, decodeStaticField, run_bind_ok (reads (by rintro ⟨⟩) old new joins holds rest)]
      rfl
  | optional =>
      cases new with
      | none => exact consumes_nothing _
      | some value =>
          refine (consumes_field three positive fun rest => ?_).mono (List.nil_subset _)
          rw [places, decodeStaticField, bind_assoc, run_bind_ok
            (reads (by rintro ⟨⟩) _ value (joins value rfl) (holds value rfl) rest)]
          rfl
  | repeated arraySize =>
      cases new with
      | nil =>
          rw [PbHtype.merge, List.map_nil, List.append_nil]
          exact consumes_nothing _
      | cons value values =>
          have inside : old.length + (value :: values).length ≤ arraySize := joins.1
          have some : arraySize ≠ 0 := by
            rw [List.length_cons] at inside
            omega
          exact several arraySize rfl some put places old _ inside fun value member =>
            ⟨holds.2 value member, joins.2 value member⟩

end Slots

/-! ## Messages -/

theorem PbLtype.bytesOf_ne_nil {ltype : PbLtype} (packable : ltype.packable = true)
    (data : ltype.Data) : ltype.bytesOf data ≠ [] := by
  apply List.ne_nil_of_length_pos
  cases ltype with
  | bytes | string => cases packable
  | fixed32 | fixed64 => exact (LittleEndian.toBytes_length _ _).symm ▸ Nat.succ_pos _
  | _ => exact Varint.length_encode_pos _

/-- The data of a field is read by its wire type, or as an element of a packed array. -/
theorem run_decodeBasicField {ltype : PbLtype} {wireType : UInt32} (sized : ltype.Sized)
    (type : wireType = ltype.wireType ∨ ltype.packable = true ∧ wireType = pbWtPacked)
    {data : ltype.Data} (fits : ltype.Fits data) (rest : List UInt8) :
    (decodeBasicField ltype wireType).run (ltype.bytesOf data ++ rest) = .ok data rest := by
  rw [decodeBasicField, if_pos type]
  exact run_pbDecField sized fits rest

/-- A slot of a field that is not a message. -/
theorem consumes_fieldSlot {σ : Type} {decodeField : FieldDecoder σ} {tag : UInt16}
    {htype : PbHtype} {ltype : PbLtype} {put : htype.Slot ltype.Data → σ}
    (places : Places decodeField tag ltype.packable ltype.zero
      (fun wireType _ => decodeBasicField ltype wireType) htype put)
    (positive : 0 < tag) (sized : ltype.Sized)
    (small : htype.maxSize ltype.packable (tagSize tag) ltype.maxSize < 2 ^ 32)
    {old new : htype.Slot ltype.Data} (holds : htype.Holds ltype.Fits new)
    (joins : htype.Joins ltype.zero (fun _ _ => True) old new) :
    Consumes decodeField (put old)
      (htype.bytesOf (basicBytes tag ltype) (elementBytes tag ltype) new) (requiredTag htype tag)
      (put (htype.merge ltype.zero (fun _ new => new) old new)) := by
  refine consumes_slot places (wireType_lt ltype) positive ?_ ?_ holds joins
  · exact fun _ _ value _ fits rest => run_decodeBasicField sized (.inl rfl) fits rest
  · rintro arraySize rfl - place placed old values inside both
    have fit (value : ltype.Data) (member : value ∈ values) := (both value member).1
    have kept : values.map (fun new => new) = values := List.map_id values
    rw [kept]
    cases packable : ltype.packable with
    | false =>
        rw [elementBytes, if_neg (by rw [packable]; rintro ⟨⟩)]
        rw [packable] at placed
        have elements := consumes_elements (fun _ new => new) placed (wireType_lt ltype) positive
           (by rintro ⟨-, ⟨⟩⟩)
          (fun value fits rest => run_decodeBasicField sized (.inl rfl) fits rest) inside fit
        rw [kept] at elements
        exact elements
    | true =>
        have data : (values.flatMap ltype.bytesOf).length ≤ values.length * ltype.maxSize :=
          length_flatMap_le fun value member => PbLtype.length_bytesOf_le (fit value member)
        have within : values.length * ltype.maxSize ≤ arraySize * ltype.maxSize :=
          Nat.mul_le_mul_right _ (Nat.le_trans (Nat.le_add_left _ _) inside)
        have packed := PbHtype.packed_le_maxSize (tagSize tag) ltype.maxSize arraySize
        rw [elementBytes, if_pos packable]
        rw [packable] at placed small
        have length : (values.flatMap ltype.bytesOf).length < 2 ^ 32 := by omega
        exact consumes_packed placed positive
          (fun value fits rest => run_decodeBasicField sized (.inr ⟨packable, rfl⟩) fits rest)
          (PbLtype.bytesOf_ne_nil packable) inside fit length

/-- The fields with these tags are decoded by the descriptor into the structure that is put into
the message. -/
def Acts {σ : Type} (decodeWhole : FieldDecoder σ) (tags : List UInt16) (fields : PbMsgdesc)
    (put : fields.Struct → σ) : Prop :=
  ∀ tag ∈ tags, ∀ wireType message, decodeWhole wireType tag.toUInt32 (put message) =
    decodeField fields wireType tag.toUInt32 message >>= fun found => pure (found.map put)

theorem acts_self (tags : List UInt16) (fields : PbMsgdesc) :
    Acts (decodeField fields) tags fields id := by
  intro tag _ wireType message
  simp only [Option.map_id, id_eq, bind_pure]

theorem toUInt32_ne {first second : UInt16} (less : first < second) :
    second.toUInt32 ≠ first.toUInt32 := by
  intro same
  have value := congrArg UInt32.toNat same
  rw [UInt16.toNat_toUInt32, UInt16.toNat_toUInt32] at value
  exact Nat.ne_of_gt (UInt16.lt_iff_toNat_lt.mp less) value

section Descriptors

variable {σ : Type} {decodeWhole : FieldDecoder σ} {tag : UInt16} {tags : List UInt16}
  {htype : PbHtype} {rest : PbMsgdesc}

theorem Acts.tail {put : rest.Struct → σ} (acts : Acts decodeWhole (tag :: tags) rest put) :
    Acts decodeWhole tags rest put := fun other member => acts other (List.mem_cons_of_mem _ member)

theorem Acts.field {ltype : PbLtype} {put : (PbMsgdesc.field tag htype ltype rest).Struct → σ}
    (acts : Acts decodeWhole (tag :: tags) (.field tag htype ltype rest) put)
    (others : rest.Struct) :
    Places decodeWhole tag ltype.packable ltype.zero
      (fun wireType _ => decodeBasicField ltype wireType) htype fun slot => put (slot, others) := by
  intro wireType slot
  refine (acts tag (List.mem_cons_self ..) wireType (slot, others)).trans ?_
  rw [decodeField, if_pos rfl]
  simp only [bind_assoc, pure_bind]
  rfl

theorem Acts.fieldRest {ltype : PbLtype} {put : (PbMsgdesc.field tag htype ltype rest).Struct → σ}
    (acts : Acts decodeWhole (tag :: tags) (.field tag htype ltype rest) put)
    (leads : ∀ other ∈ tags, tag < other) (slot : htype.Slot ltype.Data) :
    Acts decodeWhole tags rest fun others => put (slot, others) := by
  intro other member wireType others
  refine (acts other (List.mem_cons_of_mem _ member) wireType (slot, others)).trans ?_
  rw [decodeField, if_neg (toUInt32_ne (leads other member))]
  simp only [bind_assoc, pure_bind]
  exact bind_congr fun found => congrArg pure (Option.map_map put _ found)

theorem Acts.submessage {submsgDesc : PbMsgdesc}
    {put : (PbMsgdesc.submessage tag htype submsgDesc rest).Struct → σ}
    (acts : Acts decodeWhole (tag :: tags) (.submessage tag htype submsgDesc rest) put)
    (others : rest.Struct) :
    Places decodeWhole tag false (pbMessageSetToDefaults submsgDesc)
      (pbDecSubmessage (pbDecodeInner (decodeField submsgDesc) submsgDesc.requiredTags)) htype
      fun slot => put (slot, others) := by
  intro wireType slot
  refine (acts tag (List.mem_cons_self ..) wireType (slot, others)).trans ?_
  rw [decodeField, if_pos rfl]
  simp only [bind_assoc, pure_bind]
  rfl

theorem Acts.submessageRest {submsgDesc : PbMsgdesc}
    {put : (PbMsgdesc.submessage tag htype submsgDesc rest).Struct → σ}
    (acts : Acts decodeWhole (tag :: tags) (.submessage tag htype submsgDesc rest) put)
    (leads : ∀ other ∈ tags, tag < other) (slot : htype.Slot submsgDesc.Struct) :
    Acts decodeWhole tags rest fun others => put (slot, others) := by
  intro other member wireType others
  refine (acts other (List.mem_cons_of_mem _ member) wireType (slot, others)).trans ?_
  rw [decodeField, if_neg (toUInt32_ne (leads other member))]
  simp only [bind_assoc, pure_bind]
  exact bind_congr fun found => congrArg pure (Option.map_map put _ found)

theorem Acts.callbackRest {put : (PbMsgdesc.callback tag rest).Struct → σ}
    (acts : Acts decodeWhole (tag :: tags) (.callback tag rest) put)
    (leads : ∀ other ∈ tags, tag < other) : Acts decodeWhole tags rest put := by
  intro other member wireType others
  refine (acts other (List.mem_cons_of_mem _ member) wireType others).trans ?_
  exact congrArg (· >>= fun found => pure (Option.map put found))
    (if_neg (toUInt32_ne (leads other member)))

end Descriptors

/-! ## Unknown fields -/

theorem PbMsgdesc.Older.tags_subset {reader writer : PbMsgdesc} (older : Older reader writer) :
    reader.tags ⊆ writer.tags := by
  induction older with
  | nil => exact List.Subset.refl _
  | field rest ih | callback rest ih => exact List.cons_subset_cons _ ih
  | submessage sub rest _ ih => exact List.cons_subset_cons _ ih
  | unknownField rest ih | unknownSubmessage rest ih | unknownCallback rest ih =>
      exact List.subset_cons_of_subset _ ih

theorem run_decodeField_unknown {fields : PbMsgdesc} {tag : UInt16}
    (before : ∀ other ∈ fields.tags, tag < other) (wireType : UInt32) (message : fields.Struct)
    (stream : List UInt8) :
    (decodeField fields wireType tag.toUInt32 message).run stream = .ok none stream := by
  induction fields with
  | nil => rfl
  | field other htype ltype rest ih | submessage other htype submsgDesc rest _ ih =>
      obtain ⟨slot, others⟩ := message
      obtain ⟨first, later⟩ := List.forall_mem_cons.mp before
      rw [decodeField, if_neg (toUInt32_ne first).symm, run_bind_ok (ih later others)]
      rfl
  | callback other rest ih =>
      obtain ⟨first, later⟩ := List.forall_mem_cons.mp before
      exact (congrArg (EStateM.run · stream) (if_neg (toUInt32_ne first).symm)).trans
        (ih later message)

theorem run_pbSkipString {bytes : List UInt8} (small : bytes.length < 2 ^ 32) (rest : List UInt8) :
    (pbSkipField pbWtString).run (delimited bytes ++ rest) = .ok ⟨⟩ rest := by
  have length := run_pbDecodeVarint32_encode small (bytes ++ rest)
  change pbSkipString.run _ = _
  rw [pbSkipString, delimited, List.append_assoc, run_bind_ok length, toNat_size small,
    run_bind_ok (run_pbRead bytes rest)]
  rfl

/-- The data of a field is skipped by its wire type. -/
theorem run_pbSkipField {ltype : PbLtype} (sized : ltype.Sized) {data : ltype.Data}
    (fits : ltype.Fits data) (rest : List UInt8) :
    (pbSkipField ltype.wireType).run (ltype.bytesOf data ++ rest) = .ok ⟨⟩ rest := by
  have skip (number : Nat) : pbSkipVarint.run (Varint.encode number ++ rest) = .ok ⟨⟩ rest :=
    pbSkipVarint_eq_ok.mpr ⟨_, Varint.numeral_encode number, rfl⟩
  cases ltype with
  | fixed32 =>
      have read := run_pbRead (LittleEndian.toBytes 4 data.toNat) rest
      rw [LittleEndian.toBytes_length] at read
      exact run_bind_ok read _
  | fixed64 =>
      have read := run_pbRead (LittleEndian.toBytes 8 data.toNat) rest
      rw [LittleEndian.toBytes_length] at read
      exact run_bind_ok read _
  | bytes dataSize =>
      have length : data.length + 2 ≤ dataSize := fits
      have bound := sized.2
      exact run_pbSkipString (by omega) rest
  | string dataSize =>
      have length : data.val.length < dataSize := fits
      have bound := sized.2
      exact run_pbSkipString (by omega) rest
  | _ => exact skip _

section Skipped

variable {σ β : Type} {decodeWhole : FieldDecoder σ} {tag : UInt16} {message : σ}
  {data : β → List UInt8} {fits : β → Prop} {wireType : UInt32}

/-- A slot of a field that the reader does not know. -/
theorem consumes_skippedSlot {htype : PbHtype} {all : List β → List UInt8}
    (three : wireType.toNat < 8) (positive : 0 < tag)
    (unknown : ∀ wireType stream,
      (decodeWhole wireType tag.toUInt32 message).run stream = .ok none stream)
    (skipped : htype ≠ .repeated 0 → ∀ value, fits value → ∀ rest,
      (pbSkipField wireType).run (data value ++ rest) = .ok ⟨⟩ rest)
    (several : ∀ arraySize, htype = .repeated arraySize → arraySize ≠ 0 → ∀ values : List β,
      values.length ≤ arraySize → (∀ value ∈ values, fits value) →
        Consumes decodeWhole message (all values) [] message)
    {slot : htype.Slot β} (holds : htype.Holds fits slot) :
    Consumes decodeWhole message
      (htype.bytesOf (fun value => tagBytes wireType tag ++ data value) all slot) [] message := by
  cases htype with
  | required =>
      exact consumes_unknown three positive (unknown wireType) (skipped (by rintro ⟨⟩) slot holds)
  | optional =>
      cases slot with
      | none => exact consumes_nothing _
      | some value =>
          exact consumes_unknown three positive (unknown wireType)
            (skipped (by rintro ⟨⟩) value (holds value rfl))
  | repeated arraySize =>
      cases slot with
      | nil => exact consumes_nothing _
      | cons value values =>
          have some : arraySize ≠ 0 :=
            Nat.ne_of_gt (Nat.lt_of_lt_of_le (Nat.succ_pos _) holds.1)
          exact several arraySize rfl some _ holds.1 holds.2

theorem consumes_skippedElements (three : wireType.toNat < 8) (positive : 0 < tag)
    (unknown : ∀ wireType stream,
      (decodeWhole wireType tag.toUInt32 message).run stream = .ok none stream)
    (skipped : ∀ value, fits value → ∀ rest,
      (pbSkipField wireType).run (data value ++ rest) = .ok ⟨⟩ rest)
    {values : List β} (fit : ∀ value ∈ values, fits value) :
    Consumes decodeWhole message
      (values.flatMap fun value => tagBytes wireType tag ++ data value) [] message := by
  induction values with
  | nil => exact consumes_nothing _
  | cons value values ih =>
      obtain ⟨head, tail⟩ := List.forall_mem_cons.mp fit
      exact (consumes_unknown three positive (unknown wireType) (skipped value head)).append
        (ih tail)

theorem consumes_skippedField {htype : PbHtype} {ltype : PbLtype} (positive : 0 < tag)
    (sized : ltype.Sized)
    (small : htype.maxSize ltype.packable (tagSize tag) ltype.maxSize < 2 ^ 32)
    (unknown : ∀ wireType stream,
      (decodeWhole wireType tag.toUInt32 message).run stream = .ok none stream)
    {slot : htype.Slot ltype.Data} (holds : htype.Holds ltype.Fits slot) :
    Consumes decodeWhole message
      (htype.bytesOf (basicBytes tag ltype) (elementBytes tag ltype) slot) [] message := by
  refine consumes_skippedSlot (wireType_lt ltype) positive unknown
    (fun _ value fits rest => run_pbSkipField sized fits rest) ?_ holds
  rintro arraySize rfl - values count fit
  by_cases packable : ltype.packable = true
  · have data : (values.flatMap ltype.bytesOf).length ≤ values.length * ltype.maxSize :=
      length_flatMap_le fun value member => PbLtype.length_bytesOf_le (fit value member)
    have within : values.length * ltype.maxSize ≤ arraySize * ltype.maxSize :=
      Nat.mul_le_mul_right _ count
    have packed := PbHtype.packed_le_maxSize (tagSize tag) ltype.maxSize arraySize
    rw [packable] at small
    rw [elementBytes, if_pos packable]
    exact consumes_unknown pbWtString_lt positive (unknown pbWtString)
      (run_pbSkipString (by omega))
  · rw [elementBytes, if_neg packable]
    exact consumes_skippedElements (wireType_lt ltype) positive unknown
      (fun value fits rest => run_pbSkipField sized fits rest) fit

end Skipped

/-! ## The encoding of a message -/

theorem requiredTags_cons (tag : UInt16) (htype : PbHtype) (others : List UInt16) :
    (if htype = .required then tag :: others else others).map UInt16.toUInt32 =
      requiredTag htype tag ++ others.map UInt16.toUInt32 := by
  rw [requiredTag]
  split <;> rfl

theorem submessage_small {tag : UInt16} {htype : PbHtype} {submsgDesc : PbMsgdesc}
    (small : htype.maxSize false (tagSize tag) (delimitedSize submsgDesc.maxSize) < 2 ^ 32)
    (some : htype ≠ .repeated 0) : submsgDesc.maxSize < 2 ^ 32 := by
  have bound := PbHtype.data_le_maxSize false (tagSize tag) (delimitedSize submsgDesc.maxSize) some
  have sub := le_delimitedSize submsgDesc.maxSize
  omega

/-- A field that comes before those of the reader is unknown to it. -/
theorem Acts.unknown {σ : Type} {decodeWhole : FieldDecoder σ} {tag : UInt16}
    {tags : List UInt16} {reader : PbMsgdesc} {put : reader.Struct → σ}
    (acts : Acts decodeWhole (tag :: tags) reader put) (before : ∀ other ∈ reader.tags, tag < other)
    (message : reader.Struct) (wireType : UInt32) (stream : List UInt8) :
    (decodeWhole wireType tag.toUInt32 (put message)).run stream = .ok none stream := by
  rw [acts tag (List.mem_cons_self ..),
    run_bind_ok (run_decodeField_unknown before wireType message stream)]
  rfl

/-- What the reader knows of an encoding is consumed over what is there, and the rest skipped. -/
theorem consumes_wire {reader writer : PbMsgdesc} (older : reader.Older writer)
    (wellFormed : writer.WellFormed) (small : writer.maxSize < 2 ^ 32) {σ : Type}
    {decodeWhole : FieldDecoder σ} {put : reader.Struct → σ}
    (acts : Acts decodeWhole writer.tags reader put) {old : reader.Struct} {new : writer.Struct}
    (encodable : writer.Encodable new) (joins : older.Joins old new) :
    Consumes decodeWhole (put old) (writer.wire new) (reader.requiredTags.map UInt16.toUInt32)
      (put (older.merge old new)) := by
  induction older generalizing σ with
  | nil => exact consumes_nothing _
  | field rest ih =>
      obtain ⟨leads, sized, ordered⟩ := wellFormed
      obtain ⟨slot, others⟩ := old
      obtain ⟨newSlot, newOthers⟩ := new
      rw [PbMsgdesc.maxSize] at small
      rw [PbMsgdesc.requiredTags, requiredTags_cons]
      exact (consumes_fieldSlot (acts.field others) leads.1 sized
        (Nat.lt_of_le_of_lt (Nat.le_add_right _ _) small) encodable.1 joins.1).append
        (ih ordered (Nat.lt_of_le_of_lt (Nat.le_add_left _ _) small) (acts.fieldRest leads.2 _)
          encodable.2 joins.2)
  | @submessage tag htype readerSub writerSub _ _ sub rest ihSub ih =>
      obtain ⟨leads, inside, ordered⟩ := wellFormed
      obtain ⟨slot, others⟩ := old
      obtain ⟨newSlot, newOthers⟩ := new
      rw [PbMsgdesc.maxSize] at small
      have reads (some : htype ≠ .repeated 0) (old : readerSub.Struct) (value : writerSub.Struct)
          (joined : sub.Joins old value) (fits : writerSub.Encodable value) (rest : List UInt8) :
          (pbDecSubmessage (pbDecodeInner (decodeField readerSub) readerSub.requiredTags)
            pbWtString old).run (delimited (writerSub.wire value) ++ rest) =
              .ok (sub.merge old value) rest := by
        have room := submessage_small (Nat.lt_of_le_of_lt (Nat.le_add_right _ _) small) some
        rw [pbDecSubmessage, if_pos rfl]
        exact run_overSubstream (Nat.lt_of_le_of_lt (PbMsgdesc.length_wire_le fits) room)
          (run_pbDecodeInner (ihSub inside room (acts_self _ readerSub) fits joined)) rest
      rw [PbMsgdesc.requiredTags, requiredTags_cons]
      refine (consumes_slot (acts.submessage others) pbWtString_lt leads.1 reads ?_ encodable.1
        joins.1).append (ih ordered (Nat.lt_of_le_of_lt (Nat.le_add_left _ _) small)
          (acts.submessageRest leads.2 _) encodable.2 joins.2)
      rintro arraySize rfl positive place placed old values count both
      have several : PbHtype.repeated arraySize ≠ .repeated 0 := by
        rintro ⟨⟩
        exact positive rfl
      exact consumes_elements sub.merge placed pbWtString_lt leads.1 (by rintro ⟨-, ⟨⟩⟩)
        (fun value fits => reads several _ value fits.2 fits.1) count both
  | callback rest ih =>
      exact ih wellFormed.2 small (acts.callbackRest wellFormed.1.2) encodable joins
  | @unknownField tag htype ltype reader writer rest ih =>
      obtain ⟨leads, sized, ordered⟩ := wellFormed
      obtain ⟨newSlot, newOthers⟩ := new
      rw [PbMsgdesc.maxSize] at small
      have unknown := acts.unknown (fun other member => leads.2 other (rest.tags_subset member)) old
      exact (consumes_skippedField leads.1 sized (Nat.lt_of_le_of_lt (Nat.le_add_right _ _) small)
        unknown encodable.1).append (ih ordered
          (Nat.lt_of_le_of_lt (Nat.le_add_left _ _) small) acts.tail encodable.2 joins)
  | @unknownSubmessage tag htype submsgDesc reader writer rest ih =>
      obtain ⟨leads, inside, ordered⟩ := wellFormed
      obtain ⟨newSlot, newOthers⟩ := new
      rw [PbMsgdesc.maxSize] at small
      have unknown := acts.unknown (fun other member => leads.2 other (rest.tags_subset member)) old
      have skipped (some : htype ≠ .repeated 0) (value : submsgDesc.Struct)
          (fits : submsgDesc.Encodable value) (rest : List UInt8) :
          (pbSkipField pbWtString).run (delimited (submsgDesc.wire value) ++ rest) = .ok ⟨⟩ rest :=
        run_pbSkipString (Nat.lt_of_le_of_lt (PbMsgdesc.length_wire_le fits)
          (submessage_small (Nat.lt_of_le_of_lt (Nat.le_add_right _ _) small) some)) rest
      refine (consumes_skippedSlot pbWtString_lt leads.1 unknown skipped ?_ encodable.1).append
        (ih ordered (Nat.lt_of_le_of_lt (Nat.le_add_left _ _) small) acts.tail encodable.2 joins)
      rintro arraySize rfl positive values - fit
      exact consumes_skippedElements pbWtString_lt leads.1 unknown
        (skipped (by rintro ⟨⟩; exact positive rfl)) fit
  | unknownCallback rest ih => exact ih wellFormed.2 small acts.tail encodable joins

/-! ## Round trips -/

section RoundTrips

variable {reader writer : PbMsgdesc}

/-- The reader finds what it knows of an encoded message. -/
theorem run_pbDecode_wire (older : reader.Older writer) (wellFormed : writer.WellFormed)
    (small : writer.maxSize < 2 ^ 32) {message : writer.Struct}
    (encodable : writer.Encodable message) :
    (pbDecode reader).run (writer.wire message) = .ok (older.view message) [] :=
  run_pbDecodeInner (consumes_wire older wellFormed small (acts_self writer.tags reader) encodable
    (older.joins_defaults encodable))

/-- Messages one after the other over what is there. -/
def PbMsgdesc.Older.mergeAll (older : reader.Older writer) (old : reader.Struct)
    (messages : List writer.Struct) : reader.Struct := messages.foldl older.merge old

/-- The arrays of all messages fit together. -/
def PbMsgdesc.Older.JoinsAll (older : reader.Older writer) :
    reader.Struct → List writer.Struct → Prop
  | _, [] => True
  | old, message :: messages =>
      older.Joins old message ∧ JoinsAll older (older.merge old message) messages

theorem consumes_wires (older : reader.Older writer) (wellFormed : writer.WellFormed)
    (small : writer.maxSize < 2 ^ 32) {messages : List writer.Struct} {old : reader.Struct}
    (encodable : ∀ message ∈ messages, writer.Encodable message)
    (joins : older.JoinsAll old messages) :
    Consumes (decodeField reader) old (messages.flatMap writer.wire) []
      (older.mergeAll old messages) := by
  induction messages generalizing old with
  | nil => exact consumes_nothing _
  | cons message messages ih =>
      obtain ⟨head, tail⟩ := List.forall_mem_cons.mp encodable
      have first := consumes_wire older wellFormed small (acts_self writer.tags reader) head joins.1
      exact (first.append (ih tail joins.2)).mono (List.nil_subset _)

/-- Encodings one after the other are decoded to what the reader knows of the messages, merged. -/
theorem pbDecode_wires (older : reader.Older writer) (wellFormed : writer.WellFormed)
    (small : writer.maxSize < 2 ^ 32) {message : writer.Struct} {messages : List writer.Struct}
    (encodable : ∀ other ∈ message :: messages, writer.Encodable other)
    (joins : older.JoinsAll (older.view message) messages) :
    (pbDecode reader).run ((message :: messages).flatMap writer.wire) =
      .ok (older.mergeAll (older.view message) messages) [] := by
  obtain ⟨head, tail⟩ := List.forall_mem_cons.mp encodable
  have first := consumes_wire older wellFormed small (acts_self writer.tags reader) head
    (older.joins_defaults head)
  rw [List.flatMap_cons]
  have others := consumes_wires older wellFormed small tail joins
  refine run_pbDecodeInner ((first.append others).mono ?_)
  rw [List.append_nil]
  exact List.Subset.refl _

/-- The fields of a neighbor that a reader of addresses knows. -/
def neighborAddressFields : PbMsgdesc := .field 5 .optional .uint64 .nil

def neighborAddressFields_older : neighborAddressFields.Older neighborFields :=
  .unknownField (.unknownField (.unknownField (.unknownField (.field (.unknownField .nil)))))

theorem addressedNeighbor_encodable (address : UInt64) :
    neighborFields.Encodable (addressedNeighbor address) := by
  refine ⟨?_, ?_, ?_, ?_, fun _ _ => trivial, ⟨Nat.zero_le _, ?_⟩, trivial⟩ <;> rintro _ ⟨⟩

theorem pbDecode_wires_neighbor :
    neighborFields.WellFormed ∧ neighborFields.maxSize < 2 ^ 32 ∧
    (pbDecode neighborAddressFields).run
        ([addressedNeighbor 5, addressedNeighbor 6].flatMap neighborFields.wire) =
      .ok (some 6, ()) [] := by
  refine ⟨neighborFields_wellFormed, neighborFields_small, ?_⟩
  refine pbDecode_wires neighborAddressFields_older neighborFields_wellFormed neighborFields_small
    ?_ ⟨⟨fun _ _ => trivial, trivial⟩, trivial⟩
  exact List.forall_mem_cons.mpr ⟨addressedNeighbor_encodable 5,
    List.forall_mem_singleton.mpr (addressedNeighbor_encodable 6)⟩

/-- What was encoded to a buffer is decoded to the same message. -/
theorem pbDecode_pbEncode {fields : PbMsgdesc} (wellFormed : fields.WellFormed)
    (small : fields.maxSize < 2 ^ 32) {message : fields.Struct} {bufsize : Nat} {stream : PbOstream}
    (encoded : (pbEncode fields message).run (pbOstreamFromBuffer bufsize) = .ok ⟨⟩ stream) :
    (pbDecode fields).run stream.state = .ok message [] := by
  obtain ⟨encodable, written⟩ := wire_of_pbEncode small encoded
  have read := run_pbDecode_wire fields.same wellFormed small encodable
  rw [PbMsgdesc.view_same] at read
  rw [written]
  exact read

theorem pbDecode_pbEncode_neighbor :
    neighborFields.WellFormed ∧ neighborFields.maxSize < 2 ^ 32 ∧
    (pbEncode neighborFields (addressedNeighbor 5)).run (pbOstreamFromBuffer 2) =
      .ok ⟨⟩ ((pbOstreamFromBuffer 2).after [40, 5]) ∧
    (pbDecode neighborFields).run [40, 5] = .ok (addressedNeighbor 5) [] := by
  have encoded : (pbEncode neighborFields (addressedNeighbor 5)).run (pbOstreamFromBuffer 2) =
      .ok ⟨⟩ ((pbOstreamFromBuffer 2).after [40, 5]) := rfl
  exact ⟨neighborFields_wellFormed, neighborFields_small, encoded,
    pbDecode_pbEncode neighborFields_wellFormed neighborFields_small encoded⟩

end RoundTrips

end RinaSense
