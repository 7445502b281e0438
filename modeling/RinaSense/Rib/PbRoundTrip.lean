import RinaSense.Rib.CdapRoundTrip
import RinaSense.Rib.EnrollmentRoundTrip
import RinaSense.Rib.FlowRoundTrip
import RinaSense.Rib.PbMessages

/-!
# Management messages over the protocol buffers

With the generated descriptors every codec is faithful. A text that fits its field is never what
makes the encoder fail: a CDAP message is refused exactly when its encoding exceeds the buffer of
512 bytes, and the messages of an enrollment are never refused. Nor is a flow, in a buffer of
`rina_messages_Flow`.
-/

namespace RinaSense

/-! ## Faithful codecs -/

theorem cdapMessageFields_small : cdapMessageFields.maxSize < 2 ^ 32 := by decide +kernel

theorem enrollmentInformationFields_small : enrollmentInformationFields.maxSize < 2 ^ 32 := by
  decide +kernel

theorem aDataFields_small : aDataFields.maxSize < 2 ^ 32 := by decide +kernel

section Codecs

variable {μ : Type} {fields : PbMsgdesc} {conversion : Conversion μ fields.Struct}

/-- Encoding to a buffer is `pb_encode` to that buffer. -/
theorem pbCodec_encodeWithin (small : fields.maxSize < 2 ^ 32) (capacity : Nat) (message : μ) :
    (pbCodec fields conversion).encodeWithin capacity message =
      (conversion.fill message).bind (pbEncodeWithin fields capacity) := by
  apply Option.ext
  intro bytes
  rw [Codec.encodeWithin, Option.bind_eq_some_iff]
  cases filled : conversion.fill message with
  | none => simp only [pbCodec, filled, Option.bind_none, reduceCtorEq, false_and, exists_false]
  | some form =>
      simp only [pbCodec, filled, Option.bind_some, Option.some.injEq, exists_eq_left']
      rw [pbEncodeWithin_eq_some small]
      cases encoded : pbEncodeWithin fields fields.maxSize form with
      | none =>
          refine iff_of_false (by rintro ⟨⟩) ?_
          rintro ⟨encodable, rfl, -⟩
          have whole := (pbEncodeWithin_eq_some small).mpr
            ⟨encodable, rfl, PbMsgdesc.length_wire_le encodable⟩
          rw [encoded] at whole
          cases whole
      | some whole =>
          obtain ⟨encodable, rfl, -⟩ := (pbEncodeWithin_eq_some small).mp encoded
          dsimp only
          split
          · rename_i fits
            rw [Option.some.injEq]
            exact ⟨by rintro rfl; exact ⟨encodable, rfl, fits⟩, fun same => same.2.1⟩
          · rename_i long
            refine iff_of_false (by rintro ⟨⟩) ?_
            rintro ⟨-, rfl, fits⟩
            exact long fits

theorem pbCodec_faithful (wellFormed : fields.WellFormed) (small : fields.maxSize < 2 ^ 32) :
    (pbCodec fields conversion).Faithful := by
  intro message bytes encoded
  obtain ⟨form, filled, written⟩ := Option.bind_eq_some_iff.mp encoded
  obtain ⟨encodable, rfl, -⟩ := (pbEncodeWithin_eq_some small).mp written
  have read := run_pbDecode_wire fields.same wellFormed small encodable
  rw [PbMsgdesc.view_same] at read
  simp only [pbCodec, read]
  exact conversion.inverts message form filled

end Codecs

theorem cdapCodec_faithful : cdapCodec.Faithful :=
  pbCodec_faithful cdapMessageFields_wellFormed cdapMessageFields_small

theorem enrollmentCodec_faithful : enrollmentCodec.Faithful :=
  pbCodec_faithful enrollmentInformationFields_wellFormed enrollmentInformationFields_small

theorem neighborCodec_faithful : neighborCodec.Faithful :=
  pbCodec_faithful neighborFields_wellFormed neighborFields_small

/-- Whatever the buffer, a message of the program that `pb_encode` puts into it is the message
that `pb_decode` finds in it. -/
theorem codecs_decode_encoded :
    (∀ capacity message bytes, cdapCodec.encodeWithin capacity message = some bytes →
      cdapCodec.decode bytes = some message) ∧
    (∀ capacity message bytes, enrollmentCodec.encodeWithin capacity message = some bytes →
      enrollmentCodec.decode bytes = some message) ∧
    (∀ capacity message bytes, neighborCodec.encodeWithin capacity message = some bytes →
      neighborCodec.decode bytes = some message) ∧
    (∀ capacity message bytes, aDataCodec.encodeWithin capacity message = some bytes →
      aDataCodec.decode bytes = some message) ∧
    (∀ capacity message bytes, flowCodec.encodeWithin capacity message = some bytes →
      flowCodec.decode bytes = some message) := by
  have aData : aDataCodec.Faithful := pbCodec_faithful aDataFields_wellFormed aDataFields_small
  have flow : flowCodec.Faithful := pbCodec_faithful flowFields_wellFormed flowFields_small
  exact ⟨fun _ _ _ => cdapCodec_faithful.decode_encodeWithin,
    fun _ _ _ => enrollmentCodec_faithful.decode_encodeWithin,
    fun _ _ _ => neighborCodec_faithful.decode_encodeWithin,
    fun _ _ _ => aData.decode_encodeWithin, fun _ _ _ => flow.decode_encodeWithin⟩

/-! ## Texts that fit -/

/-- A text with its terminator is no longer than the field. -/
def ShortText (size : Nat) (text : String) : Prop := text.utf8ByteSize < size

theorem textConversion_ensures (size : Nat) :
    textConversion.Ensures (ShortText size) (PbLtype.string size).Fits := by
  intro text form short filled
  change cString text = some form at filled
  rw [cString] at filled
  split at filled
  · cases filled
    exact short
  · cases filled

theorem optionalText_ensures (size : Nat) :
    optionalText.Ensures (fun text => ∀ inner ∈ text, ShortText size inner)
      (fun form => ∀ inner ∈ form, (PbLtype.string size).Fits inner) :=
  Conversion.ensures_optional (textConversion_ensures size)

theorem unsetField_ensures {α : Type} (fits : α → Prop) :
    unsetField.Ensures (fun _ => True) (fun form => ∀ inner ∈ form, fits inner) := by
  rintro _ _ - ⟨⟩ _ ⟨⟩

/-- A field that is not a text or bytes. -/
theorem field_ensures {α β : Type} (conversion : Conversion α β) :
    conversion.Ensures (fun _ => True) (fun _ => True) :=
  Conversion.ensures_of_all fun _ => trivial

namespace CdapMessage

/-- The texts of the policy fit the fields. -/
def PolicyFits (policy : WireAuthPolicy) : Prop :=
  (∀ text ∈ policy.name, ShortText textSize text) ∧
    ∀ text ∈ policy.versions, ShortText textSize text

/-- The texts and the object value of the message fit the fields. -/
structure Fits (message : CdapMessage) : Prop where
  objClass : ∀ text ∈ message.objClass, ShortText textSize text
  objName : ∀ text ∈ message.objName, ShortText textSize text
  objValue : ∀ byteval ∈ message.objValue, ∀ bytes ∈ byteval, bytes.length ≤ byteValueSize
  authPolicy : ∀ policy ∈ message.authPolicy, PolicyFits policy
  dest : message.dest.All fun name => ∀ text ∈ name, ShortText nameSize text
  src : message.src.All fun name => ∀ text ∈ name, ShortText nameSize text

section Encodable

open Conversion

theorem encodable_objVal {byteval : Option (List UInt8)} {form : objValFields.Struct}
    (short : ∀ bytes ∈ byteval, bytes.length ≤ byteValueSize)
    (filled : objValConversion.fill byteval = some form) : objValFields.Encodable form := by
  have bytes : same.Ensures (fun byteval : Option (List UInt8) =>
      ∀ bytes ∈ byteval, bytes.length ≤ byteValueSize)
      (fun form => ∀ content ∈ form, (PbLtype.bytes 1026).Fits content) := by
    rintro value _ short ⟨⟩ content member
    exact Nat.add_le_add_right (short content member) 2
  have unset (ltype : PbLtype) := unsetField_ensures ltype.Fits
  exact ensures_through (ensures_pair (unset .int32) <| ensures_pair (unset .sint32) <|
    ensures_pair (unset .int64) <| ensures_pair (unset .sint64) <|
    ensures_pair (unset (.string 20)) <| ensures_pair bytes <| ensures_pair (unset .fixed32) <|
    ensures_pair (unset .fixed64) <| ensures_pair (unset .bool) (field_ensures .same))
    byteval form ⟨trivial, trivial, trivial, trivial, trivial, short, trivial, trivial, trivial,
      trivial⟩ filled

theorem encodable_authPolicy {policy : WireAuthPolicy} {form : authPolicyFields.Struct}
    (fits : PolicyFits policy) (filled : authPolicyConversion.fill policy = some form) :
    authPolicyFields.Encodable form :=
  ensures_through (ensures_pair (optionalText_ensures textSize) <|
    ensures_pair (ensures_atMostOne (textConversion_ensures textSize)) (field_ensures .same))
    policy form ⟨fits.1, fits.2, trivial⟩ filled

/-- A message whose texts fit can be encoded. -/
theorem encodable {message : CdapMessage} {form : cdapMessageFields.Struct} (fits : message.Fits)
    (filled : conversion.fill message = some form) : cdapMessageFields.Encodable form := by
  have unset (ltype : PbLtype) := unsetField_ensures ltype.Fits
  have integer {α β : Type} (conversion : Conversion α (Option β)) :
      conversion.Ensures (fun _ => True) (fun form => ∀ inner ∈ form, True) :=
    ensures_of_all fun _ _ _ => trivial
  have text := optionalText_ensures textSize
  have name := optionalText_ensures nameSize
  have object : objValConversion.Ensures
      (fun byteval => ∀ bytes ∈ byteval, bytes.length ≤ byteValueSize) objValFields.Encodable :=
    fun _ _ => encodable_objVal
  have policy : authPolicyConversion.Ensures PolicyFits authPolicyFields.Encodable :=
    fun _ _ => encodable_authPolicy
  exact ensures_through (ensures_pair (unset .int32) <| ensures_pair (field_ensures .same) <|
    ensures_pair (integer _) <| ensures_pair (unset .uint32) <| ensures_pair text <|
    ensures_pair text <| ensures_pair (integer _) <| ensures_pair (ensures_optional object) <|
    ensures_pair (integer _) <| ensures_pair (unset .int32) <|
    ensures_pair (ensures_optional policy) <| ensures_pair name <| ensures_pair name <|
    ensures_pair name <| ensures_pair name <| ensures_pair name <| ensures_pair name <|
    ensures_pair name <| ensures_pair name <| ensures_pair (unset (.string 20)) <|
    ensures_pair (integer _) (field_ensures .same))
    message form ⟨trivial, trivial, trivial, trivial, fits.objClass, fits.objName, trivial,
      fits.objValue, trivial, trivial, fits.authPolicy, fits.dest.entityInstance,
      fits.dest.entityName, fits.dest.processInstance, fits.dest.processName,
      fits.src.entityInstance, fits.src.entityName, fits.src.processInstance,
      fits.src.processName, trivial, trivial, trivial⟩ filled

end Encodable

end CdapMessage

theorem short_of_fits {size : Nat} {pointer : Pointer String} (fits : pointer.Fits size) :
    ∀ text ∈ pointer.value?, ShortText size text := by
  cases pointer with
  | null | stray => rintro _ ⟨⟩
  | target text =>
      rintro _ ⟨⟩
      exact fits.2 text rfl

theorem short_of_all_fits {size : Nat} {name : NameInfo (Pointer String)}
    (fits : name.All (Pointer.Fits size)) :
    (name.map Pointer.value?).All fun text => ∀ inner ∈ text, ShortText size inner :=
  ⟨short_of_fits fits.processName, short_of_fits fits.processInstance,
    short_of_fits fits.entityName, short_of_fits fits.entityInstance⟩

theorem wire_fits {message : MessageCdap} (fits : message.Fits) : message.wire.Fits where
  objClass := short_of_fits fits.objClass
  objName := short_of_fits fits.objName
  objValue := by
    rintro byteval member bytes ⟨⟩
    obtain ⟨content, value, same⟩ := Option.map_eq_some_iff.mp member
    cases same
    cases pointer : message.pxObjValue with
    | null | stray =>
        rw [pointer] at value
        cases value
    | target bytes =>
        rw [pointer] at value
        cases value
        exact fits.objValueLength _ pointer
  authPolicy := by
    intro policy member
    obtain ⟨name, value, rfl⟩ := Option.map_eq_some_iff.mp member
    exact ⟨by rintro _ ⟨⟩; exact short_of_fits fits.authName name value,
      short_of_fits fits.authVersion⟩
  dest := short_of_all_fits fits.destination
  src := short_of_all_fits fits.source

/-! ## CDAP messages -/

/-- A message whose texts and integers fit is encoded unless its encoding exceeds the buffer of
512 bytes, whatever else it holds, and what is encoded is decoded. -/
theorem prvRibdEncodeCDAP_refused_iff {message : MessageCdap} (fits : message.Fits)
    (inside : message.eOpCode ≤ maxCdapOpcode) (versioned : message.Versioned)
    {form : cdapMessageFields.Struct}
    (typed : CdapMessage.conversion.fill message.wire = some form) :
    (prvRibdEncodeCDAP cdapCodec true (some message) = .ok none ↔
      encodeBufferSize < (cdapMessageFields.wire form).length) ∧
    ((cdapMessageFields.wire form).length ≤ encodeBufferSize →
      prvRibdEncodeCDAP cdapCodec true (some message) = .ok (some (cdapMessageFields.wire form)) ∧
      ∀ left, prvRibdDecodeCDAP cdapCodec left (cdapMessageFields.wire form) =
        some (prvRibdFillDecodeMessage left message.wire)) := by
  have encodable := CdapMessage.encodable (wire_fits fits) typed
  have encode := @prvRibdEncodeCDAP_of_fits cdapCodec true message fits inside versioned
  have within : cdapCodec.encodeWithin encodeBufferSize message.wire =
      pbEncodeWithin cdapMessageFields encodeBufferSize form := by
    rw [cdapCodec, pbCodec_encodeWithin cdapMessageFields_small, typed, Option.bind_some]
  rw [within] at encode
  by_cases short : (cdapMessageFields.wire form).length ≤ encodeBufferSize
  · have encoded := (pbEncodeWithin_eq_some cdapMessageFields_small).mpr ⟨encodable, rfl, short⟩
    rw [encoded] at encode within
    rw [encode]
    refine ⟨iff_of_false (by rintro ⟨⟩) (Nat.not_lt.mpr short), fun _ => ⟨rfl, fun left => ?_⟩⟩
    rw [prvRibdDecodeCDAP, cdapCodec_faithful.decode_encodeWithin within, Option.map_some]
  · have refused : pbEncodeWithin cdapMessageFields encodeBufferSize form = none := by
      cases encoded : pbEncodeWithin cdapMessageFields encodeBufferSize form with
      | none => rfl
      | some bytes =>
          obtain ⟨-, rfl, fits⟩ := (pbEncodeWithin_eq_some cdapMessageFields_small).mp encoded
          exact absurd fits short
    rw [refused] at encode
    exact ⟨iff_of_true encode (Nat.lt_of_not_le short), fun fits => absurd fits short⟩

/-- The structure that is encoded for the answer to a stop. -/
def stopAnswerForm : cdapMessageFields.Struct :=
  let management : Option CString := cString managementAe
  let empty : Option CString := cString ""
  (none, 17, some 5, none, none, none, none, none, some 0, none, none, empty, management, none,
    none, empty, management, none, none, none, some 1, ())

theorem prvRibdEncodeCDAP_refused_iff_stopAnswer :
    stopAnswer.Fits ∧ stopAnswer.eOpCode ≤ maxCdapOpcode ∧ stopAnswer.Versioned ∧
    CdapMessage.conversion.fill stopAnswer.wire = some stopAnswerForm ∧
    (prvRibdEncodeCDAP cdapCodec true (some stopAnswer) = .ok none ↔
      encodeBufferSize < (cdapMessageFields.wire stopAnswerForm).length) ∧
    ((cdapMessageFields.wire stopAnswerForm).length ≤ encodeBufferSize →
      prvRibdEncodeCDAP cdapCodec true (some stopAnswer) =
        .ok (some (cdapMessageFields.wire stopAnswerForm)) ∧
      ∀ left, prvRibdDecodeCDAP cdapCodec left (cdapMessageFields.wire stopAnswerForm) =
        some (prvRibdFillDecodeMessage left stopAnswer.wire)) := by
  have inside : stopAnswer.eOpCode ≤ maxCdapOpcode := by decide
  have versioned : stopAnswer.Versioned := fun present => absurd rfl present
  have typed : CdapMessage.conversion.fill stopAnswer.wire = some stopAnswerForm := rfl
  exact ⟨stopAnswer_fits, inside, versioned, typed,
    prvRibdEncodeCDAP_refused_iff stopAnswer_fits inside versioned typed⟩

/-- What the answer was said to be on the wire. -/
example : cdapCodec.encodeWithin encodeBufferSize stopAnswer.wire = some stopAnswerBytes := by
  decide +kernel

/-! ## Messages of an enrollment -/

/-- A form that fits is encoded to every buffer of the largest size. -/
theorem pbCodec_encodes {μ : Type} {fields : PbMsgdesc} {conversion : Conversion μ fields.Struct}
    (small : fields.maxSize < 2 ^ 32) {capacity : Nat} (large : fields.maxSize ≤ capacity)
    {message : μ} {form : fields.Struct} (filled : conversion.fill message = some form)
    (encodable : fields.Encodable form) :
    (pbCodec fields conversion).encodeWithin capacity message = some (fields.wire form) := by
  rw [pbCodec_encodeWithin small, filled, Option.bind_some]
  exact (pbEncodeWithin_eq_some small).mpr
    ⟨encodable, rfl, Nat.le_trans (PbMsgdesc.length_wire_le encodable) large⟩

theorem encodable_enrollment (address : Option UInt64) :
    enrollmentInformationFields.Encodable (address, [], none, none, ()) := by
  refine ⟨fun _ _ => trivial, ⟨Nat.zero_le 1, ?_⟩, ?_, ?_, trivial⟩ <;> rintro _ ⟨⟩

theorem encodable_neighbor {message : NeighborMessage} (fits : message.Fits)
    {form : neighborFields.Struct} (typed : WireNeighbor.conversion.fill message.wire = some form) :
    neighborFields.Encodable form := by
  have text := optionalText_ensures neighborTextSize
  have address : Conversion.Ensures (.same : Conversion (Option UInt64) (Option UInt64))
      (fun _ => True) (fun form => ∀ inner ∈ form, PbLtype.uint64.Fits inner) :=
    Conversion.ensures_of_all fun _ _ _ => trivial
  have difs : emptyArray.Ensures (fun _ => True)
      (fun form => form.length ≤ 1 ∧ ∀ inner ∈ form, (PbLtype.string 20).Fits inner) := by
    rintro _ _ - ⟨⟩
    exact ⟨Nat.zero_le 1, by rintro _ ⟨⟩⟩
  exact Conversion.ensures_through (Conversion.ensures_pair text <| Conversion.ensures_pair text <|
    Conversion.ensures_pair text <| Conversion.ensures_pair text <|
    Conversion.ensures_pair address <| Conversion.ensures_pair difs (field_ensures .same))
    message.wire form ⟨short_of_fits fits.apName, short_of_fits fits.apInstance,
      short_of_fits fits.aeName, short_of_fits fits.aeInstance, trivial, trivial, trivial⟩ typed

/-- The messages of an enrollment are always encoded, and what is encoded is decoded. -/
theorem enrollment_messages_encoded {neighbor : NeighborMessage} (fits : neighbor.Fits)
    {form : neighborFields.Struct}
    (typed : WireNeighbor.conversion.fill neighbor.wire = some form) :
    (∀ message : EnrollmentMessage, ∃ bytes,
      pxSerdesMsgEnrollmentEncode enrollmentCodec message.ullAddress = some bytes ∧
      ∀ left, pxSerdesMsgEnrollmentDecode enrollmentCodec left bytes =
        some (prvSerdesMsgDecodeEnrollment left message.wire)) ∧
    ∃ bytes, pxSerdesMsgNeighborEncode neighborCodec neighbor = .ok (some bytes) ∧
      ∀ left, pxserdesMsgDecodeNeighbor neighborCodec left bytes =
        some (prvSerdesMsgDecodeNeighbor left neighbor.wire) := by
  constructor
  · intro message
    have large : enrollmentInformationFields.maxSize ≤ mtu := by decide +kernel
    have encoded : enrollmentCodec.encodeWithin mtu message.wire = some _ :=
      pbCodec_encodes enrollmentInformationFields_small large rfl (encodable_enrollment _)
    refine ⟨_, encoded, fun left => ?_⟩
    rw [pxSerdesMsgEnrollmentDecode, enrollmentCodec_faithful.decode_encodeWithin encoded,
      Option.map_some]
  · have large : neighborFields.maxSize ≤ mtu := by decide +kernel
    have encoded : neighborCodec.encodeWithin mtu neighbor.wire = some _ :=
      pbCodec_encodes neighborFields_small large typed (encodable_neighbor fits typed)
    refine ⟨_, (pxSerdesMsgNeighborEncode_of_fits fits).trans (congrArg Except.ok encoded), ?_⟩
    intro left
    rw [pxserdesMsgDecodeNeighbor, neighborCodec_faithful.decode_encodeWithin encoded,
      Option.map_some]

/-- The structure that is encoded for the announced neighbor. -/
def announcedNeighborForm : neighborFields.Struct :=
  (cString "ue1.mobile", none, none, none, none, [], ())

theorem enrollment_messages_encoded_announced :
    announcedNeighbor.Fits ∧
    WireNeighbor.conversion.fill announcedNeighbor.wire = some announcedNeighborForm ∧
    (∀ message : EnrollmentMessage, ∃ bytes,
      pxSerdesMsgEnrollmentEncode enrollmentCodec message.ullAddress = some bytes ∧
      ∀ left, pxSerdesMsgEnrollmentDecode enrollmentCodec left bytes =
        some (prvSerdesMsgDecodeEnrollment left message.wire)) ∧
    ∃ bytes, pxSerdesMsgNeighborEncode neighborCodec announcedNeighbor = .ok (some bytes) ∧
      ∀ left, pxserdesMsgDecodeNeighbor neighborCodec left bytes =
        some (prvSerdesMsgDecodeNeighbor left announcedNeighbor.wire) := by
  have typed : WireNeighbor.conversion.fill announcedNeighbor.wire = some announcedNeighborForm :=
    rfl
  exact ⟨announcedNeighbor_fits, typed, enrollment_messages_encoded announcedNeighbor_fits typed⟩

/-! ## Flows -/

/-- The texts of the name fit the fields. -/
def WireName.Fits (name : WireName) : Prop :=
  ShortText flowTextSize name.applicationProcessName ∧
    (∀ text ∈ name.applicationProcessInstance, ShortText flowTextSize text) ∧
    (∀ text ∈ name.applicationEntityName, ShortText flowTextSize text) ∧
    ∀ text ∈ name.applicationEntityInstance, ShortText flowTextSize text

namespace FlowMessage

/-- The texts of the message fit the fields. -/
structure Fits (message : FlowMessage) : Prop where
  source : message.sourceNamingInfo.Fits
  destination : message.destinationNamingInfo.Fits
  qosName : ∀ qos ∈ message.qosParameters, ∀ text ∈ qos.name, ShortText flowTextSize text

section Encodable

open Conversion

theorem encodable_name {name : WireName} {form : applicationProcessNamingInfoFields.Struct}
    (fits : name.Fits) (typed : WireName.conversion.fill name = some form) :
    applicationProcessNamingInfoFields.Encodable form := by
  have text := optionalText_ensures flowTextSize
  exact ensures_through (ensures_pair (textConversion_ensures flowTextSize) <|
    ensures_pair text <| ensures_pair text <| ensures_pair text (field_ensures .same))
    name form ⟨fits.1, fits.2.1, fits.2.2.1, fits.2.2.2, trivial⟩ typed

theorem encodable_qos {qos : WireQosSpecification} {form : qosSpecificationFields.Struct}
    (short : ∀ text ∈ qos.name, ShortText flowTextSize text)
    (typed : WireQosSpecification.conversion.fill qos = some form) :
    qosSpecificationFields.Encodable form := by
  have unset (ltype : PbLtype) := unsetField_ensures ltype.Fits
  have value {α : Type} : Conversion.Ensures (.same : Conversion (Option α) (Option α))
      (fun _ => True) (fun form => ∀ inner ∈ form, True) := ensures_of_all fun _ _ _ => trivial
  exact ensures_through (ensures_pair (optionalText_ensures flowTextSize) <|
    ensures_pair value <| ensures_pair (unset .uint64) <| ensures_pair (unset .uint64) <|
    ensures_pair (unset .uint32) <| ensures_pair (unset .uint32) <|
    ensures_pair (unset .fixed64) <| ensures_pair value <| ensures_pair value <|
    ensures_pair (unset .int32) <| ensures_pair (unset .uint32) <|
    ensures_pair (unset .uint32) <| ensures_pair (unset .bool) <|
    ensures_pair (unset .uint32) (field_ensures .same))
    qos form ⟨short, trivial, trivial, trivial, trivial, trivial, trivial, trivial, trivial,
      trivial, trivial, trivial, trivial, trivial, trivial⟩ typed

theorem encodable_connectionId {connectionId : WireConnectionId}
    {form : connectionIdFields.Struct}
    (typed : WireConnectionId.conversion.fill connectionId = some form) :
    connectionIdFields.Encodable form := by
  obtain rfl := Option.some.inj typed
  exact ⟨fun _ _ => trivial, fun _ _ => trivial, fun _ _ => trivial, trivial⟩

theorem encodable_dtpConfig {dtpConfig : WireDtpConfig} {form : dtpConfigFields.Struct}
    (typed : WireDtpConfig.conversion.fill dtpConfig = some form) :
    dtpConfigFields.Encodable form := by
  have unset := unsetField_ensures policyDescriptorFields.Encodable
  have value {α : Type} : Conversion.Ensures (.same : Conversion (Option α) (Option α))
      (fun _ => True) (fun form => ∀ inner ∈ form, True) := ensures_of_all fun _ _ _ => trivial
  exact ensures_through (ensures_pair value <| ensures_pair unset <| ensures_pair unset <|
    ensures_pair unset <| ensures_pair (unsetField_ensures (PbLtype.Fits .uint64)) <|
    ensures_pair value <| ensures_pair unset (field_ensures .same))
    dtpConfig form ⟨trivial, trivial, trivial, trivial, trivial, trivial, trivial, trivial⟩ typed

/-- A message whose texts fit can be encoded. -/
theorem encodable {message : FlowMessage} {form : flowFields.Struct} (fits : message.Fits)
    (typed : conversion.fill message = some form) : flowFields.Encodable form := by
  have unset {α : Type} (fits : α → Prop) := unsetField_ensures fits
  have value {α : Type} : Conversion.Ensures (.same : Conversion (Option α) (Option α))
      (fun _ => True) (fun form => ∀ inner ∈ form, True) := ensures_of_all fun _ _ _ => trivial
  have name : WireName.conversion.Ensures WireName.Fits
      applicationProcessNamingInfoFields.Encodable := fun _ _ => encodable_name
  have connectionId : WireConnectionId.conversion.Ensures (fun _ => True)
      connectionIdFields.Encodable := fun _ _ _ => encodable_connectionId
  have qos : WireQosSpecification.conversion.Ensures
      (fun qos => ∀ text ∈ qos.name, ShortText flowTextSize text)
      qosSpecificationFields.Encodable := fun _ _ => encodable_qos
  have dtpConfig : WireDtpConfig.conversion.Ensures (fun _ => True) dtpConfigFields.Encodable :=
    fun _ _ _ => encodable_dtpConfig
  exact ensures_through (ensures_pair name <| ensures_pair name <|
    ensures_pair (field_ensures .same) <| ensures_pair value <|
    ensures_pair (field_ensures .same) <| ensures_pair value <|
    ensures_pair (ensures_atMostOne connectionId) <| ensures_pair (unset (PbLtype.Fits .uint32)) <|
    ensures_pair (unset (PbLtype.Fits .uint32)) <| ensures_pair (ensures_optional qos) <|
    ensures_pair (ensures_optional dtpConfig) <| ensures_pair (unset dtcpConfigFields.Encodable) <|
    ensures_pair (unset (PbLtype.Fits .uint32)) <| ensures_pair (unset (PbLtype.Fits .uint32)) <|
    ensures_pair value (field_ensures .same))
    message form ⟨fits.source, fits.destination, trivial, trivial, trivial, trivial,
      fun _ _ => trivial, trivial, trivial, fits.qosName, fun _ _ => trivial, trivial, trivial,
      trivial, trivial, trivial⟩ typed

end Encodable

end FlowMessage

theorem wireNameOf_fits {name : NameInfo (Pointer String)} {text : String}
    (fits : name.All (Pointer.Fits flowTextSize)) (named : name.pcProcessName = .target text) :
    (wireNameOf text).Fits := by
  refine ⟨fits.processName.2 text named, ?_, ?_, ?_⟩ <;> rintro _ ⟨⟩

theorem flowMessage_fits_of_describes {flow : Flow} {message : FlowMessage} (fits : flow.Fits)
    (describes : flow.Describes message) : message.Fits := by
  obtain ⟨source, sourceText, isSource, sourceNamed, sourceSent⟩ := describes.source
  obtain ⟨destination, text, isDestination, named, sent⟩ := describes.destination
  obtain ⟨qosSpec, name, flowSpec, isQosSpec, isName, -, qos⟩ := describes.qosSpec
  constructor
  · exact sourceSent ▸ wireNameOf_fits (fits.source source isSource) sourceNamed
  · exact sent ▸ wireNameOf_fits (fits.destination destination isDestination) named
  · rw [qos]
    rintro _ ⟨⟩ _ ⟨⟩
    exact (fits.qosName qosSpec isQosSpec).2 name isName

/-- No flow that fits is refused in a buffer of the largest size, and so none is in one of
`rina_messages_Flow`, where every field takes as much as its encoding at least. What it is
encoded to is the result, unless that does not end inside the block. -/
theorem flow_messages_encoded {flow : Flow} {message : FlowMessage} (fits : flow.Fits)
    (filled : fillFlowMessage flow = .ok message) {form : flowFields.Struct}
    (typed : FlowMessage.conversion.fill message = some form) {flowSize : Nat}
    (large : flowFields.maxSize ≤ flowSize) :
    pxSerdesMsgFlowEncode flowCodec flowSize true (some flow) =
      if flowBufferOffset + (flowFields.wire form).length ≤ flowSize + serObjectValueSize then
        .ok (some (flowFields.wire form))
      else .error .outOfBounds := by
  have short := flowMessage_fits_of_describes fits ((fillFlowMessage_eq_ok fits).mp filled)
  have encoded : flowCodec.encodeWithin flowSize message = some (flowFields.wire form) :=
    pbCodec_encodes flowFields_small large typed (FlowMessage.encodable short typed)
  rw [pxSerdesMsgFlowEncode_of_filled filled, if_pos rfl, encoded]

/-- The structure that is encoded for the requested flow. -/
def requestedFlowForm : flowFields.Struct :=
  (letterName 97 zero_notMem_a, letterName 98 zero_notMem_b, 1, none, 1, none,
    [(some 1, some 5, some 0, ())], none, none,
    some (cString "q", some 1, none, none, none, none, none, some false, some true, none, none,
      none, none, none, ()),
    some (some false, none, none, none, none, some 0, none, ()), none, none, none, some 4, ())

theorem requestedFlow_typed :
    FlowMessage.conversion.fill requestedFlowMessage = some requestedFlowForm := by
  rfl

theorem flow_messages_encoded_requested :
    pxSerdesMsgFlowEncode flowCodec 2048 true (some requestedFlow) =
      .ok (some requestedFlowBytes) := by
  have large : flowFields.maxSize ≤ 2048 := by decide +kernel
  have bytes : flowFields.wire requestedFlowForm = requestedFlowBytes := by decide +kernel
  have encoded := flow_messages_encoded requestedFlow_fits rfl requestedFlow_typed large
  rw [bytes, if_pos (by decide)] at encoded
  exact encoded

end RinaSense
