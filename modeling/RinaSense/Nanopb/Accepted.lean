import RinaSense.Nanopb.RoundTrip

/-!
# What the decoder accepts

Whatever bytes the decoder accepts, it reads all of them, and the message fits its fields. So the
message can be encoded again, and its encoding is decoded to the same message, however its fields
were ordered, repeated or laid out in the bytes.
-/

namespace RinaSense

open Command

/-! ## Values that fit -/

section Yields

variable {ε τ α β : Type} {property : β → Prop}

/-- The last part decides, knowing what the first one yields. -/
theorem yields_bind_of {middle : α → Prop} {command : EStateM ε τ α} {rest : α → EStateM ε τ β}
    (first : Yields middle command) (last : ∀ value, middle value → Yields property (rest value)) :
    Yields property (command >>= rest) := by
  intro state result after returned
  obtain ⟨value, next, run, following⟩ := run_bind_eq_ok.mp returned
  exact last value (first state value next run) next result after following

theorem yields_throw (error : ε) : Yields property (throw error : EStateM ε τ β) := by
  rintro _ _ _ ⟨⟩

/-- A property that every value has. -/
theorem yields_of_all {property : α → Prop} (all : ∀ value, property value)
    (command : EStateM ε τ α) : Yields property command := fun _ value _ _ => all value

end Yields

theorem pbRead_yields (count : Nat) : Yields (fun bytes => bytes.length = count) (pbRead count) :=
  fun _ _ _ run => (run_pbRead_eq_ok.mp run).2

theorem pbDecBytes_yields (dataSize : Nat) :
    Yields (fun content => content.length + 2 ≤ dataSize) (pbDecBytes dataSize) := by
  refine yields_bind fun size => ?_
  split
  · exact yields_throw _
  · split
    · exact yields_throw _
    · rename_i short
      intro stream content rest run
      rw [pbRead_yields _ stream content rest run]
      exact Nat.le_of_not_lt short

theorem CString.length_ofBytes_le (bytes : List UInt8) :
    (CString.ofBytes bytes).val.length ≤ bytes.length := (List.takeWhile_prefix _).length_le

theorem pbDecString_yields (dataSize : Nat) :
    Yields (fun text : CString => text.val.length < dataSize) (pbDecString dataSize) := by
  refine yields_bind fun size => ?_
  split
  · exact yields_throw _
  · split
    · exact yields_throw _
    · rename_i short
      refine yields_bind_of (pbRead_yields _) fun bytes length => yields_pure ?_
      have kept := CString.length_ofBytes_le bytes
      omega

theorem pbDecField_yields (ltype : PbLtype) : Yields ltype.Fits (pbDecField ltype) := by
  cases ltype with
  | bytes dataSize => exact pbDecBytes_yields dataSize
  | string dataSize => exact pbDecString_yields dataSize
  | _ => exact yields_of_all (fun _ => trivial) _

theorem decodeBasicField_yields (ltype : PbLtype) (wireType : UInt32) :
    Yields ltype.Fits (decodeBasicField ltype wireType) :=
  yields_ite (pbDecField_yields ltype) (yields_throw _)

section Slots

variable {α : Type} {fits : α → Prop}

theorem overSubstream_yields {decode : Decoder α} (yields : Yields fits decode) :
    Yields fits (overSubstream decode) := by
  refine yields_bind fun substream => ?_
  cases run : decode.run substream with
  | ok value rest => exact yields_pure (yields substream value rest run)
  | error error rest => exact yields_throw error

theorem decodePacked_yields {decodeOne : Decoder α} (yields : Yields fits decodeOne) {room : Nat}
    {arraySize : Nat} {values : List α} (inside : values.length + room ≤ arraySize)
    (fit : ∀ value ∈ values, fits value) :
    Yields (fun all => all.length ≤ arraySize ∧ ∀ value ∈ all, fits value)
      (decodePacked decodeOne room values) := by
  induction room generalizing values with
  | zero =>
      refine yields_bind fun substream => yields_ite (yields_pure ⟨inside, fit⟩) (yields_throw _)
  | succ room ih =>
      refine yields_bind fun substream => yields_ite (yields_pure ⟨by omega, fit⟩) ?_
      cases run : decodeOne.run substream with
      | ok value rest =>
          refine yields_bind fun _ => ih ?_ ?_
          · rw [List.length_append, List.length_singleton]
            omega
          · intro other member
            obtain member | member := List.mem_append.mp member
            · exact fit other member
            · rw [List.mem_singleton.mp member]
              exact yields substream value rest run
      | error error rest => exact yields_ite (yields_throw error) (yields_throw _)

theorem decodeStaticField_yields {packable : Bool} {fresh : α}
    {decodeOne : UInt32 → α → Decoder α} (freshFits : fits fresh)
    (yields : ∀ wireType value, fits value → Yields fits (decodeOne wireType value))
    (wireType : UInt32) {htype : PbHtype} {slot : htype.Slot α} (holds : htype.Holds fits slot) :
    Yields (htype.Holds fits) (decodeStaticField packable fresh decodeOne wireType htype slot) := by
  cases htype with
  | required => exact yields wireType slot holds
  | optional =>
      have start : fits (Option.getD slot fresh) := by
        cases slot with
        | none => exact freshFits
        | some value => exact holds value rfl
      refine yields_bind_of (yields wireType _ start) fun value fits => yields_pure ?_
      rintro _ ⟨⟩
      exact fits
  | repeated arraySize =>
      obtain ⟨inside, fit⟩ := holds
      refine yields_ite ?_ ?_
      · exact overSubstream_yields (decodePacked_yields (yields _ fresh freshFits) (by omega) fit)
      · by_cases full : arraySize ≤ slot.length
        · rw [if_pos full]
          exact yields_throw _
        · rw [if_neg full]
          refine yields_bind_of (yields wireType fresh freshFits) fun value fits => yields_pure ?_
          refine ⟨?_, ?_⟩
          · rw [List.length_append, List.length_singleton]
            omega
          · intro other member
            obtain member | member := List.mem_append.mp member
            · exact fit other member
            · rw [List.mem_singleton.mp member]
              exact fits

end Slots

/-! ## Messages that fit -/

theorem PbLtype.fits_zero {ltype : PbLtype} (sized : ltype.Sized) : ltype.Fits ltype.zero := by
  cases ltype with
  | bytes dataSize => exact sized.1
  | string dataSize => exact sized.1
  | _ => trivial

theorem PbHtype.holds_unset {α : Type} {fits : α → Prop} {zero : α} (fitsZero : fits zero)
    (htype : PbHtype) : htype.Holds fits (htype.unset zero) := by
  cases htype with
  | required => exact fitsZero
  | optional => rintro _ ⟨⟩
  | repeated arraySize => exact ⟨Nat.zero_le _, by rintro _ ⟨⟩⟩

theorem encodable_defaults {fields : PbMsgdesc} (wellFormed : fields.WellFormed) :
    fields.Encodable (pbMessageSetToDefaults fields) := by
  induction fields with
  | nil => trivial
  | field tag htype ltype rest ih =>
      obtain ⟨-, sized, ordered⟩ := wellFormed
      exact ⟨PbHtype.holds_unset (PbLtype.fits_zero sized) htype, ih ordered⟩
  | submessage tag htype submsgDesc rest ihSub ih =>
      obtain ⟨-, inside, ordered⟩ := wellFormed
      exact ⟨PbHtype.holds_unset (ihSub inside) htype, ih ordered⟩
  | callback tag rest ih => exact ih wellFormed.2

section Loop

variable {σ : Type} {holds : σ → Prop} {decodeField : FieldDecoder σ}

theorem decodeLoop_yields
    (keeps : ∀ wireType tag message, holds message →
      Yields (fun found => ∀ next ∈ found, holds next) (decodeField wireType tag message))
    (turns : Nat) (seen : List UInt32) {message : σ} (start : holds message) :
    Yields (fun result => holds result.1) (decodeLoop decodeField turns seen message) := by
  induction turns generalizing seen message with
  | zero => exact yields_pure start
  | succ turns ih =>
      refine yields_bind fun stream => yields_ite (yields_pure start) (yields_bind fun field => ?_)
      obtain ⟨wireType, tag⟩ := field
      refine yields_ite (yields_throw _) (yields_bind_of (keeps wireType tag message start) ?_)
      intro found fits
      cases found with
      | none => exact yields_bind fun _ => ih seen start
      | some next => exact ih (tag :: seen) (fits next rfl)

theorem pbDecodeInner_yields
    (keeps : ∀ wireType tag message, holds message →
      Yields (fun found => ∀ next ∈ found, holds next) (decodeField wireType tag message))
    (required : List UInt16) {message : σ} (start : holds message) :
    Yields holds (pbDecodeInner decodeField required message) := by
  refine yields_bind fun stream => yields_bind_of (decodeLoop_yields keeps _ _ start) ?_
  rintro ⟨next, seen⟩ fits
  exact yields_ite (yields_pure fits) (yields_throw _)

end Loop

theorem decodeField_yields {fields : PbMsgdesc} (wellFormed : fields.WellFormed)
    (wireType tag : UInt32) {message : fields.Struct} (encodable : fields.Encodable message) :
    Yields (fun found => ∀ next ∈ found, fields.Encodable next)
      (decodeField fields wireType tag message) := by
  induction fields generalizing wireType tag with
  | nil => exact yields_pure (by rintro _ ⟨⟩)
  | field fieldTag htype ltype rest ih =>
      obtain ⟨-, sized, ordered⟩ := wellFormed
      obtain ⟨slot, others⟩ := message
      obtain ⟨fits, restFits⟩ := encodable
      refine yields_ite ?_ ?_
      · refine yields_bind_of (decodeStaticField_yields (PbLtype.fits_zero sized)
          (fun wireType _ _ => decodeBasicField_yields ltype wireType) wireType fits) ?_
        intro next holds
        refine yields_pure ?_
        rintro _ ⟨⟩
        exact ⟨holds, restFits⟩
      · refine yields_bind_of (ih ordered wireType tag restFits) fun found holds => yields_pure ?_
        cases found with
        | none => rintro _ ⟨⟩
        | some next =>
            rintro _ ⟨⟩
            exact ⟨fits, holds next rfl⟩
  | submessage fieldTag htype submsgDesc rest ihSub ih =>
      obtain ⟨-, inside, ordered⟩ := wellFormed
      obtain ⟨slot, others⟩ := message
      obtain ⟨fits, restFits⟩ := encodable
      have decodes (wireType : UInt32) (value : submsgDesc.Struct)
          (start : submsgDesc.Encodable value) : Yields submsgDesc.Encodable
          (pbDecSubmessage (pbDecodeInner (decodeField submsgDesc) submsgDesc.requiredTags)
            wireType value) := by
        refine yields_ite (overSubstream_yields (pbDecodeInner_yields ?_ _ start)) (yields_throw _)
        exact fun wireType tag message fits => ihSub inside wireType tag fits
      refine yields_ite ?_ ?_
      · refine yields_bind_of (decodeStaticField_yields (encodable_defaults inside) decodes wireType
          fits) ?_
        intro next holds
        refine yields_pure ?_
        rintro _ ⟨⟩
        exact ⟨holds, restFits⟩
      · refine yields_bind_of (ih ordered wireType tag restFits) fun found holds => yields_pure ?_
        cases found with
        | none => rintro _ ⟨⟩
        | some next =>
            rintro _ ⟨⟩
            exact ⟨fits, holds next rfl⟩
  | callback fieldTag rest ih =>
      refine yields_ite ?_ (ih wellFormed.2 wireType tag encodable)
      refine yields_bind fun _ => yields_pure ?_
      rintro _ ⟨⟩
      exact encodable

/-! ## The whole stream -/

/-- The end of the stream is left. -/
def RestOf (before after : List UInt8) : Prop := after <:+ before

/-- The command only takes bytes from the front of the stream. -/
def Drains {α : Type} (command : Decoder α) : Prop := Keeps RestOf command

theorem restOf_refl (stream : List UInt8) : RestOf stream stream := List.suffix_refl stream

theorem restOf_trans (first second third : List UInt8) (earlier : RestOf first second)
    (later : RestOf second third) : RestOf first third := List.IsSuffix.trans later earlier

section Drains

variable {α β : Type}

theorem drains_pure (value : α) : Drains (pure value) :=
  keeps_pure restOf_refl value

theorem drains_throw (error : PbError) : Drains (throw error : Decoder α) :=
  keeps_throw restOf_refl error

theorem Drains.bind {command : Decoder α} {rest : α → Decoder β} (first : Drains command)
    (second : ∀ value, Drains (rest value)) : Drains (command >>= rest) :=
  keeps_bind restOf_trans first second

theorem drains_ite {condition : Prop} [Decidable condition] {yes no : Decoder α}
    (first : Drains yes) (second : Drains no) : Drains (if condition then yes else no) :=
  keeps_ite first second

/-- A run that returns left the end of the stream. -/
theorem Drains.suffix {command : Decoder α} (drains : Drains command)
    {stream rest : List UInt8} {value : α} (run : command.run stream = .ok value rest) :
    rest <:+ stream := by
  have ends := drains stream
  rw [run] at ends
  exact ends

end Drains

theorem pbReadbyte_drains : Drains pbReadbyte := by
  intro stream
  cases stream with
  | nil => exact List.suffix_refl _
  | cons byte bytes => exact List.suffix_cons byte bytes

theorem pbRead_drains (count : Nat) : Drains (pbRead count) := by
  intro stream
  change final ((if stream.length < count then _ else _ : Decoder (List UInt8)).run stream) <:+ _
  split
  · exact List.suffix_refl _
  · exact List.drop_suffix count stream

theorem decodeVarintLoop_suffix (bitpos : Nat) (result : UInt64) (stream : List UInt8) :
    final (decodeVarintLoop bitpos result stream) <:+ stream := by
  induction stream generalizing bitpos result with
  | nil =>
      rw [decodeVarintLoop]
      split <;> exact List.suffix_refl _
  | cons byte bytes ih =>
      rw [decodeVarintLoop]
      split
      · exact List.suffix_refl _
      · dsimp only
        split
        · exact (ih _ _).trans (List.suffix_cons byte bytes)
        · exact List.suffix_cons byte bytes

theorem decodeVarint32Loop_suffix (bitpos : Nat) (result : UInt32) (stream : List UInt8) :
    final (decodeVarint32Loop bitpos result stream) <:+ stream := by
  induction stream generalizing bitpos result with
  | nil => exact List.suffix_refl _
  | cons byte bytes ih =>
      have tail := List.suffix_cons byte bytes
      rw [decodeVarint32Loop]
      cases varint32Group bitpos result byte with
      | error error => exact tail
      | ok result =>
          dsimp only
          split
          · exact (ih _ _).trans tail
          · split <;> exact tail

theorem pbSkipVarintLoop_suffix (stream : List UInt8) :
    final (pbSkipVarintLoop stream) <:+ stream := by
  induction stream with
  | nil => exact List.suffix_refl _
  | cons byte bytes ih =>
      have tail := List.suffix_cons byte bytes
      rw [pbSkipVarintLoop]
      split
      · exact ih.trans tail
      · exact tail

theorem pbDecodeVarint_drains : Drains pbDecodeVarint := decodeVarintLoop_suffix 0 0

theorem pbDecodeVarint32_drains : Drains pbDecodeVarint32 :=
  pbReadbyte_drains.bind fun _ =>
    drains_ite (drains_pure _) (decodeVarint32Loop_suffix 7 _)

theorem pbSkipField_drains (wireType : UInt32) : Drains (pbSkipField wireType) := by
  have read (count : Nat) : Drains (pbRead count >>= fun _ => pure () : Decoder Unit) :=
    (pbRead_drains count).bind fun _ => drains_pure _
  exact drains_ite pbSkipVarintLoop_suffix (drains_ite (read 8) (drains_ite
    (pbDecodeVarint32_drains.bind fun length => read length.toNat)
    (drains_ite (read 4) (drains_throw _))))

theorem pbMakeStringSubstream_drains : Drains pbMakeStringSubstream := by
  refine pbDecodeVarint32_drains.bind fun size stream => ?_
  change RestOf stream (final ((if stream.length < size.toNat then _ else _ :
    Decoder (List UInt8)).run stream))
  split
  · exact restOf_refl stream
  · exact List.drop_suffix size.toNat stream

theorem overSubstream_drains {α : Type} (decode : Decoder α) :
    Drains (overSubstream decode) := by
  refine pbMakeStringSubstream_drains.bind fun substream => ?_
  cases decode.run substream with
  | ok value rest => exact drains_pure value
  | error error rest => exact drains_throw error

theorem clampInt32_drains (svalue : Int64) : Drains (clampInt32 svalue) :=
  drains_ite (drains_throw _) (drains_pure _)

theorem pbDecField_drains (ltype : PbLtype) : Drains (pbDecField ltype) := by
  cases ltype with
  | bool => exact pbDecodeVarint32_drains.bind fun _ => drains_pure _
  | int32 => exact pbDecodeVarint_drains.bind fun _ => clampInt32_drains _
  | int64 => exact pbDecodeVarint_drains.bind fun _ => drains_pure _
  | uint32 =>
      exact pbDecodeVarint_drains.bind fun _ => drains_ite (drains_throw _) (drains_pure _)
  | uint64 => exact pbDecodeVarint_drains
  | sint32 =>
      exact (pbDecodeVarint_drains.bind fun _ => drains_pure _).bind fun _ =>
        clampInt32_drains _
  | sint64 => exact pbDecodeVarint_drains.bind fun _ => drains_pure _
  | fixed32 => exact (pbRead_drains 4).bind fun _ => drains_pure _
  | fixed64 => exact (pbRead_drains 8).bind fun _ => drains_pure _
  | bytes dataSize =>
      exact pbDecodeVarint32_drains.bind fun size => drains_ite (drains_throw _)
        (drains_ite (drains_throw _) (pbRead_drains size.toNat))
  | string dataSize =>
      exact pbDecodeVarint32_drains.bind fun size => drains_ite (drains_throw _)
        (drains_ite (drains_throw _) ((pbRead_drains size.toNat).bind fun _ =>
          drains_pure _))

theorem decodeStaticField_drains {α : Type} {packable : Bool} {fresh : α}
    {decodeOne : UInt32 → α → Decoder α}
    (drains : ∀ wireType value, Drains (decodeOne wireType value)) (wireType : UInt32)
    {htype : PbHtype} (slot : htype.Slot α) :
    Drains (decodeStaticField packable fresh decodeOne wireType htype slot) := by
  cases htype with
  | required => exact drains wireType slot
  | optional => exact (drains wireType _).bind fun _ => drains_pure _
  | repeated arraySize =>
      exact drains_ite (overSubstream_drains _) (drains_ite (drains_throw _)
        ((drains wireType fresh).bind fun _ => drains_pure _))

theorem readRawVarint_drains (maxSize : Nat) : Drains (readRawVarint maxSize) := by
  induction maxSize with
  | zero => exact drains_throw _
  | succ maxSize ih =>
      exact pbReadbyte_drains.bind fun _ => drains_ite ih (drains_pure _)

theorem decodeCallbackField_drains (wireType : UInt32) :
    Drains (decodeCallbackField wireType) := by
  have read (count : Nat) : Drains (pbRead count >>= fun _ => pure () : Decoder Unit) :=
    (pbRead_drains count).bind fun _ => drains_pure _
  exact drains_ite (overSubstream_drains _) (drains_ite (readRawVarint_drains 10)
    (drains_ite (read 8) (drains_ite (read 4) (drains_throw _))))

theorem decodeField_drains (fields : PbMsgdesc) (wireType tag : UInt32)
    (message : fields.Struct) : Drains (decodeField fields wireType tag message) := by
  induction fields with
  | nil => exact drains_pure none
  | field fieldTag htype ltype rest ih =>
      obtain ⟨slot, others⟩ := message
      exact drains_ite ((decodeStaticField_drains (fun wireType _ =>
        drains_ite (pbDecField_drains ltype) (drains_throw _)) wireType slot).bind fun _ =>
          drains_pure _) ((ih others).bind fun _ => drains_pure _)
  | submessage fieldTag htype submsgDesc rest _ ih =>
      obtain ⟨slot, others⟩ := message
      exact drains_ite ((decodeStaticField_drains (fun _ _ =>
        drains_ite (overSubstream_drains _) (drains_throw _)) wireType slot).bind fun _ =>
          drains_pure _) ((ih others).bind fun _ => drains_pure _)
  | callback fieldTag rest ih =>
      exact drains_ite ((decodeCallbackField_drains wireType).bind fun _ => drains_pure _)
        (ih message)

/-- A tag has a byte at least. -/
theorem length_lt_of_pbDecodeTag {stream body : List UInt8} {field : UInt32 × UInt32}
    (read : pbDecodeTag.run stream = .ok field body) : body.length < stream.length := by
  obtain ⟨temp, next, varint, returned⟩ := run_bind_eq_ok.mp read
  cases returned
  obtain ⟨numeral, layout, rfl, -, -⟩ := pbDecodeVarint32_eq_ok.mp varint
  rw [List.length_append]
  exact Nat.lt_add_of_pos_left layout.length_pos

/-- The loop only ends where the stream does. -/
theorem decodeLoop_ends {σ : Type} {decodeField : FieldDecoder σ}
    (drains : ∀ wireType tag message, Drains (decodeField wireType tag message)) {turns : Nat}
    {seen : List UInt32} {message : σ} {stream rest : List UInt8} {result : σ × List UInt32}
    (enough : stream.length ≤ turns)
    (run : (decodeLoop decodeField turns seen message).run stream = .ok result rest) :
    rest = [] := by
  induction turns generalizing seen message stream with
  | zero =>
      cases run
      exact List.eq_nil_of_length_eq_zero (Nat.le_zero.mp enough)
  | succ turns ih =>
      obtain ⟨same, _, got, run⟩ := run_bind_eq_ok.mp run
      cases got
      by_cases empty : stream = []
      · rw [if_pos empty] at run
        cases run
        exact empty
      · rw [if_neg empty] at run
        obtain ⟨⟨wireType, tag⟩, body, read, run⟩ := run_bind_eq_ok.mp run
        have shorter := length_lt_of_pbDecodeTag read
        by_cases zero : tag = 0
        · simp only [if_pos zero] at run
          cases run
        · simp only [if_neg zero] at run
          obtain ⟨found, next, decoded, run⟩ := run_bind_eq_ok.mp run
          have left := ((drains wireType tag message).suffix decoded).length_le
          cases found with
          | some known => exact ih (by omega) run
          | none =>
              obtain ⟨_, last, skipped, run⟩ := run_bind_eq_ok.mp run
              have behind := ((pbSkipField_drains wireType).suffix skipped).length_le
              exact ih (by omega) run

/-- A message that is decoded uses the whole stream. -/
theorem pbDecodeInner_ends {σ : Type} {decodeField : FieldDecoder σ}
    (drains : ∀ wireType tag message, Drains (decodeField wireType tag message))
    {required : List UInt16} {message next : σ} {stream rest : List UInt8}
    (run : (pbDecodeInner decodeField required message).run stream = .ok next rest) :
    rest = [] := by
  obtain ⟨same, _, got, run⟩ := run_bind_eq_ok.mp run
  cases got
  obtain ⟨⟨result, seen⟩, left, looped, run⟩ := run_bind_eq_ok.mp run
  have ends := decodeLoop_ends drains (Nat.le_refl _) looped
  by_cases complete : RequiredSeen required seen
  · simp only [if_pos complete] at run
    cases run
    exact ends
  · simp only [if_neg complete] at run
    cases run

/-! ## Accepted messages -/

/-- Whatever the bytes, a message that is decoded from them uses all of them and fits its fields.
Every buffer of the largest size takes its encoding, from which the same message is decoded. -/
theorem pbDecode_accepted {fields : PbMsgdesc} (wellFormed : fields.WellFormed)
    (small : fields.maxSize < 2 ^ 32) {bytes rest : List UInt8} {message : fields.Struct}
    (decoded : (pbDecode fields).run bytes = .ok message rest) :
    rest = [] ∧ fields.Encodable message ∧
    ∀ bufsize, fields.maxSize ≤ bufsize →
      ∃ stream, (pbEncode fields message).run (pbOstreamFromBuffer bufsize) = .ok ⟨⟩ stream ∧
        (pbDecode fields).run stream.state = .ok message [] := by
  have encodable : fields.Encodable message :=
    pbDecodeInner_yields
      (fun wireType tag _ fits => decodeField_yields wellFormed wireType tag fits)
      _ (encodable_defaults wellFormed) bytes message rest decoded
  refine ⟨pbDecodeInner_ends (decodeField_drains fields) decoded, encodable, fun bufsize fits => ?_⟩
  have room := room_fromBuffer.mpr (Nat.le_trans (PbMsgdesc.length_wire_le encodable) fits)
  have written := (pbEncode_encodes small message).written encodable _ room
  have read := run_pbDecode_wire fields.same wellFormed small encodable
  rw [PbMsgdesc.view_same] at read
  exact ⟨_, written, read⟩

/-- An address that was sent twice. -/
theorem pbDecode_accepted_neighbor :
    neighborFields.WellFormed ∧ neighborFields.maxSize < 2 ^ 32 ∧
    (pbDecode neighborFields).run [40, 6, 40, 133, 0] = .ok (addressedNeighbor 5) [] ∧
    neighborFields.Encodable (addressedNeighbor 5) ∧
    ∀ bufsize, neighborFields.maxSize ≤ bufsize →
      ∃ stream, (pbEncode neighborFields (addressedNeighbor 5)).run (pbOstreamFromBuffer bufsize) =
          .ok ⟨⟩ stream ∧
        (pbDecode neighborFields).run stream.state = .ok (addressedNeighbor 5) [] := by
  have decoded : (pbDecode neighborFields).run [40, 6, 40, 133, 0] =
      .ok (addressedNeighbor 5) [] := rfl
  exact ⟨neighborFields_wellFormed, neighborFields_small, decoded,
    (pbDecode_accepted neighborFields_wellFormed neighborFields_small decoded).2⟩

end RinaSense
