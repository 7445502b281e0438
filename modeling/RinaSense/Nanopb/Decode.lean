import RinaSense.Nanopb.Encode

/-!
# The decoder

`pb_decode` reads the fields of a message in any order. A field that is there again replaces the
first one, joins it if it is a message and follows it if it is an element of an array. A field
that is not in the descriptor is skipped.
-/

namespace RinaSense

open Command

/-! ## Parts of the stream -/

/-- `PB_WT_PACKED`, for the elements of a packed array. -/
def pbWtPacked : UInt32 := 255

/-- The wire type and the tag. -/
def pbDecodeTag : Decoder (UInt32 × UInt32) := do
  let temp ← pbDecodeVarint32
  return (temp &&& 7, temp >>> 3)

def pbSkipString : Decoder Unit := do
  let length ← pbDecodeVarint32
  let _ ← pbRead length.toNat

def pbSkipField (wireType : UInt32) : Decoder Unit :=
  if wireType = pbWtVarint then pbSkipVarint
  else if wireType = pbWt64bit then do
    let _ ← pbRead 8
  else if wireType = pbWtString then pbSkipString
  else if wireType = pbWt32bit then do
    let _ ← pbRead 4
  else throw .invalidWireType

/-- `pb_make_string_substream`: the stream goes on behind the substream. -/
def pbMakeStringSubstream : Decoder (List UInt8) := do
  let size ← pbDecodeVarint32
  let stream ← get
  if stream.length < size.toNat then throw .parentStreamTooShort
  else do
    set (stream.drop size.toNat)
    return stream.take size.toNat

/-- What a substream holds. Closing it skips what was not read. -/
def overSubstream {α : Type} (decode : Decoder α) : Decoder α := do
  let substream ← pbMakeStringSubstream
  match decode.run substream with
  | .ok value _ => return value
  | .error error _ => throw error

/-! ## Fields -/

/-- The last cast of `pb_dec_varint` to a signed field of 32 bits. -/
def clampInt32 (svalue : Int64) : Decoder Int32 :=
  if svalue.toInt32.toInt64 ≠ svalue then throw .integerTooLarge else return svalue.toInt32

def pbDecBytes (dataSize : Nat) : Decoder (List UInt8) := do
  let size ← pbDecodeVarint32
  if 65535 < size.toNat then throw .bytesOverflow1
  else if dataSize < size.toNat + 2 then throw .bytesOverflow
  else pbRead size.toNat

def pbDecString (dataSize : Nat) : Decoder CString := do
  let size ← pbDecodeVarint32
  if size = 0xFFFFFFFF then throw .sizeTooLarge
  else if dataSize < size.toNat + 1 then throw .stringOverflow
  else do
    let bytes ← pbRead size.toNat
    return CString.ofBytes bytes

/-- The field decoders, `pb_dec_bool` to `pb_dec_string`. A field of 32 bits is first cast to its
size to get the sign of negative values right. -/
def pbDecField : (ltype : PbLtype) → Decoder ltype.Data
  | .bool => pbDecodeBool
  | .int32 => do
      let value ← pbDecodeVarint
      clampInt32 value.toUInt32.toInt32.toInt64
  | .int64 => do
      let value ← pbDecodeVarint
      return value.toInt64
  | .uint32 => do
      let value ← pbDecodeVarint
      if value.toUInt32.toUInt64 ≠ value then throw .integerTooLarge else return value.toUInt32
  | .uint64 => pbDecodeVarint
  | .sint32 => do
      let svalue ← pbDecodeSvarint
      clampInt32 svalue
  | .sint64 => pbDecodeSvarint
  | .fixed32 => pbDecodeFixed32
  | .fixed64 => pbDecodeFixed64
  | .bytes dataSize => pbDecBytes dataSize
  | .string dataSize => pbDecString dataSize

def decodeBasicField (ltype : PbLtype) (wireType : UInt32) : Decoder ltype.Data :=
  if wireType = ltype.wireType ∨ ltype.packable = true ∧ wireType = pbWtPacked then
    pbDecField ltype
  else throw .wrongWireType

/-- The loop over a packed array with room for so many more elements. What an element leaves of
the substream when it fails counts as too much. -/
def decodePacked {α : Type} (decodeOne : Decoder α) : Nat → List α → Decoder (List α)
  | 0, values => do
      let substream ← get
      if substream = [] then return values else throw .arrayOverflow
  | room + 1, values => do
      let substream ← get
      if substream = [] then return values
      else
        match decodeOne.run substream with
        | .ok value substream => do
            set substream
            decodePacked decodeOne room (values ++ [value])
        | .error error substream => if substream = [] then throw error else throw .arrayOverflow

/-- `decode_static_field`. What is decoded is put over what is there, or over a new element. -/
def decodeStaticField {α : Type} (packable : Bool) (fresh : α)
    (decodeOne : UInt32 → α → Decoder α) (wireType : UInt32) :
    (htype : PbHtype) → htype.Slot α → Decoder (htype.Slot α)
  | .required, value => decodeOne wireType value
  | .optional, slot => do
      let value ← decodeOne wireType (slot.getD fresh)
      return some value
  | .repeated arraySize, values =>
      if wireType = pbWtString ∧ packable = true then
        overSubstream (decodePacked (decodeOne pbWtPacked fresh) (arraySize - values.length) values)
      else if arraySize ≤ values.length then throw .arrayOverflow
      else do
        let value ← decodeOne wireType fresh
        return values ++ [value]

/-- `read_raw_value` of a varint, of so many bytes at most. -/
def readRawVarint : Nat → Decoder Unit
  | 0 => throw .varintOverflow
  | maxSize + 1 => do
      let byte ← pbReadbyte
      if byte &&& 0x80 ≠ 0 then readRawVarint maxSize else return ⟨⟩

def readRawValue (wireType : UInt32) : Decoder Unit :=
  if wireType = pbWtVarint then readRawVarint 10
  else if wireType = pbWt64bit then do
    let _ ← pbRead 8
  else if wireType = pbWt32bit then do
    let _ ← pbRead 4
  else throw .invalidWireType

/-- `decode_callback_field` where no function is set. -/
def decodeCallbackField (wireType : UInt32) : Decoder Unit :=
  if wireType = pbWtString then overSubstream (return ⟨⟩) else readRawValue wireType

/-! ## Messages -/

/-- What decodes the data of the field with a tag, if there is one. -/
abbrev FieldDecoder (σ : Type) := UInt32 → UInt32 → σ → Decoder (Option σ)

/-- The loop of `pb_decode_inner`, with the tags of the fields that were there. Every turn reads a
byte at least, so that there are no more turns than bytes. -/
def decodeLoop {σ : Type} (decodeField : FieldDecoder σ) :
    Nat → List UInt32 → σ → Decoder (σ × List UInt32)
  | 0, seen, message => return (message, seen)
  | turns + 1, seen, message => do
      let stream ← get
      if stream = [] then return (message, seen)
      else do
        let (wireType, tag) ← pbDecodeTag
        if tag = 0 then throw .zeroTag
        else do
          match ← decodeField wireType tag message with
          | none => do
              pbSkipField wireType
              decodeLoop decodeField turns seen message
          | some message => decodeLoop decodeField turns (tag :: seen) message

/-- `PB_MAX_REQUIRED_FIELDS`. -/
def pbMaxRequiredFields : Nat := 64

/-- The check that all required fields were present, of which only the first ones are tracked. -/
def RequiredSeen (required : List UInt16) (seen : List UInt32) : Prop :=
  ∀ tag ∈ required.take pbMaxRequiredFields, tag.toUInt32 ∈ seen

instance decidableRequiredSeen (required : List UInt16) (seen : List UInt32) :
    Decidable (RequiredSeen required seen) :=
  List.decidableBAll _ (required.take pbMaxRequiredFields)

/-- `pb_decode_inner` on a structure with its defaults or with what is there already. -/
def pbDecodeInner {σ : Type} (decodeField : FieldDecoder σ) (required : List UInt16)
    (message : σ) : Decoder σ := do
  let stream ← get
  let (message, seen) ← decodeLoop decodeField stream.length [] message
  if RequiredSeen required seen then return message else throw .missingRequiredField

/-- `pb_dec_submessage` on what the structure holds of the submessage. -/
def pbDecSubmessage {σ : Type} (decode : σ → Decoder σ) (wireType : UInt32) (message : σ) :
    Decoder σ :=
  if wireType = pbWtString then overSubstream (decode message) else throw .wrongWireType

/-- The field with the tag, decoded into its slot. -/
def decodeField : (fields : PbMsgdesc) → UInt32 → UInt32 → fields.Struct →
    Decoder (Option fields.Struct)
  | .nil, _, _, _ => return none
  | .field fieldTag htype ltype rest, wireType, tag, (slot, others) =>
      if tag = fieldTag.toUInt32 then do
        let slot ← decodeStaticField ltype.packable ltype.zero
          (fun wireType _ => decodeBasicField ltype wireType) wireType htype slot
        return some (slot, others)
      else do
        let found ← decodeField rest wireType tag others
        return found.map (slot, ·)
  | .submessage fieldTag htype submsgDesc rest, wireType, tag, (slot, others) =>
      if tag = fieldTag.toUInt32 then do
        let slot ← decodeStaticField false (pbMessageSetToDefaults submsgDesc)
          (pbDecSubmessage (pbDecodeInner (decodeField submsgDesc) submsgDesc.requiredTags))
          wireType htype slot
        return some (slot, others)
      else do
        let found ← decodeField rest wireType tag others
        return found.map (slot, ·)
  | .callback fieldTag rest, wireType, tag, others =>
      if tag = fieldTag.toUInt32 then do
        decodeCallbackField wireType
        return some others
      else decodeField rest wireType tag others

def pbDecode (fields : PbMsgdesc) : Decoder fields.Struct :=
  pbDecodeInner (decodeField fields) fields.requiredTags (pbMessageSetToDefaults fields)

end RinaSense
