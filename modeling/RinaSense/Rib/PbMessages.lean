import RinaSense.Library.Conversion
import RinaSense.Nanopb.RoundTrip
import RinaSense.Rib.Cdap
import RinaSense.Rib.FlowMessage
import RinaSense.Rib.SerdesMsg

/-!
# Messages in the structures of the protocol buffers

The structures that the RIB daemon and `serdesMsg.c` fill are encoded by `pb_encode` and decoded
by `pb_decode`. So the codecs that the rest of the model takes as parameters are those of the
generated descriptors, and they are faithful: what is encoded to a buffer is decoded to the same
message. Integers have the width of their fields, and texts no zero byte.
-/

namespace RinaSense

/-! ## Values -/

/-- The text of a `char` array. -/
def cString (text : String) : Option CString :=
  if zeroFree : 0 ∉ text.toByteArray.data.toList then some ⟨_, zeroFree⟩ else none

/-- A text that is read from a `char` array. -/
def CString.text? (text : CString) : Option String :=
  if valid : ByteArray.IsValidUTF8 ⟨text.val.toArray⟩ then some (.ofByteArray _ valid) else none

theorem CString.text?_cString (text : String) (bytes : CString)
    (filled : cString text = some bytes) : bytes.text? = some text := by
  rw [cString] at filled
  split at filled
  · cases filled
    exact dif_pos text.isValidUTF8
  · cases filled

/-- A text and the array it is copied to. -/
def textConversion : Conversion String CString where
  fill := cString
  view := CString.text?
  inverts := CString.text?_cString

/-- An integer of 32 bits. -/
def int32Conversion : Conversion Int Int32 where
  fill := fun value => if -2 ^ 31 ≤ value ∧ value < 2 ^ 31 then some (.ofInt value) else none
  view := fun word => some word.toInt
  inverts := by
    intro value word filled
    split at filled
    · rename_i fits
      cases filled
      exact congrArg some (Int32.toInt_ofInt_of_le fits.1 fits.2)
    · cases filled

/-- An integer of 64 bits. -/
def int64Conversion : Conversion Int Int64 where
  fill := fun value => if -2 ^ 63 ≤ value ∧ value < 2 ^ 63 then some (.ofInt value) else none
  view := fun word => some word.toInt
  inverts := by
    intro value word filled
    split at filled
    · rename_i fits
      cases filled
      exact congrArg some (Int64.toInt_ofInt_of_le fits.1 fits.2)
    · cases filled

/-- A field that is never present. -/
def unsetField {α : Type} : Conversion Unit (Option α) := .absent none

/-- An array without elements. -/
def emptyArray {α : Type} : Conversion Unit (List α) := .absent []

def optionalText : Conversion (Option String) (Option CString) := .optional textConversion

/-! ## CDAP -/

namespace CdapMessage

/-- The value of an object, of which `byteval` is used. -/
def objValConversion : Conversion (Option (List UInt8)) objValFields.Struct :=
  .through (fun byteval => ((), (), (), (), (), byteval, (), (), (), ()))
    (fun (_, _, _, _, _, byteval, _) => byteval) (fun _ => rfl)
    (.pair unsetField <| .pair unsetField <| .pair unsetField <| .pair unsetField <|
      .pair unsetField <| .pair .same <| .pair unsetField <| .pair unsetField <|
      .pair unsetField .same)

def authPolicyConversion : Conversion WireAuthPolicy authPolicyFields.Struct :=
  .through (fun policy => (policy.name, policy.versions, ()))
    (fun (name, versions, _) => { name, versions }) (fun _ => rfl)
    (.pair optionalText <| .pair (.atMostOne textConversion) .same)

/-- The values of the fields, in the order of their tags. -/
abbrev Parts : Type :=
  Unit × UInt32 × Option Int × Unit × Option String × Option String × Option Int ×
    Option (Option (List UInt8)) × Option Int × Unit × Option WireAuthPolicy × Option String ×
    Option String × Option String × Option String × Option String × Option String ×
    Option String × Option String × Unit × Option Int × Unit

def parts (message : CdapMessage) : Parts :=
  ((), message.opCode, message.invokeID, (), message.objClass, message.objName, message.objInst,
    message.objValue, message.result, (), message.authPolicy, message.dest.pcEntityInstance,
    message.dest.pcEntityName, message.dest.pcProcessInstance, message.dest.pcProcessName,
    message.src.pcEntityInstance, message.src.pcEntityName, message.src.pcProcessInstance,
    message.src.pcProcessName, (), message.version, ())

def ofParts : Parts → CdapMessage
  | (_, opCode, invokeID, _, objClass, objName, objInst, objValue, result, _, authPolicy,
      destAEInst, destAEName, destApInst, destApName, srcAEInst, srcAEName, srcApInst, srcApName,
      _, version, _) =>
    { opCode, invokeID, objClass, objName, objInst, objValue, result, authPolicy, version
      dest :=
        { pcProcessName := destApName
          pcProcessInstance := destApInst
          pcEntityName := destAEName
          pcEntityInstance := destAEInst }
      src :=
        { pcProcessName := srcApName
          pcProcessInstance := srcApInst
          pcEntityName := srcAEName
          pcEntityInstance := srcAEInst } }

/-- The structure the message is put in. -/
def conversion : Conversion CdapMessage cdapMessageFields.Struct :=
  .through parts ofParts (fun _ => rfl)
    (.pair unsetField <| .pair .same <| .pair (.optional int32Conversion) <| .pair unsetField <|
      .pair optionalText <| .pair optionalText <| .pair (.optional int64Conversion) <|
      .pair (.optional objValConversion) <| .pair (.optional int32Conversion) <|
      .pair unsetField <| .pair (.optional authPolicyConversion) <| .pair optionalText <|
      .pair optionalText <| .pair optionalText <| .pair optionalText <| .pair optionalText <|
      .pair optionalText <| .pair optionalText <| .pair optionalText <| .pair unsetField <|
      .pair (.optional int64Conversion) .same)

end CdapMessage

/-! ## Enrollment -/

def EnrollmentInformation.conversion :
    Conversion EnrollmentInformation enrollmentInformationFields.Struct :=
  .through (fun message => (message.address, (), (), message.token, ()))
    (fun (address, _, _, token, _) => { address, token }) (fun _ => rfl)
    (.pair .same <| .pair emptyArray <| .pair unsetField <| .pair optionalText .same)

def WireNeighbor.conversion : Conversion WireNeighbor neighborFields.Struct :=
  .through (fun message => (message.apname, message.apinstance, message.aename,
      message.aeinstance, message.address, (), ()))
    (fun (apname, apinstance, aename, aeinstance, address, _) =>
      { apname, apinstance, aename, aeinstance, address }) (fun _ => rfl)
    (.pair optionalText <| .pair optionalText <| .pair optionalText <| .pair optionalText <|
      .pair .same <| .pair emptyArray .same)

def WireAData.conversion : Conversion WireAData aDataFields.Struct :=
  .through (fun message => (message.sourceAddress, message.destAddress, message.cdapMessage, ()))
    (fun (sourceAddress, destAddress, cdapMessage, _) =>
      { sourceAddress, destAddress, cdapMessage }) (fun _ => rfl)
    (.pair (.optional int32Conversion) <| .pair (.optional int32Conversion) <| .pair .same .same)

/-! ## Flows -/

def WireName.conversion : Conversion WireName applicationProcessNamingInfoFields.Struct :=
  .through (fun name => (name.applicationProcessName, name.applicationProcessInstance,
      name.applicationEntityName, name.applicationEntityInstance, ()))
    (fun (applicationProcessName, applicationProcessInstance, applicationEntityName,
        applicationEntityInstance, _) =>
      { applicationProcessName, applicationProcessInstance, applicationEntityName,
        applicationEntityInstance }) (fun _ => rfl)
    (.pair textConversion <| .pair optionalText <| .pair optionalText <| .pair optionalText .same)

def WireConnectionId.conversion : Conversion WireConnectionId connectionIdFields.Struct :=
  .through (fun connectionId =>
      (connectionId.qosId, connectionId.sourceCEPId, connectionId.destinationCEPId, ()))
    (fun (qosId, sourceCEPId, destinationCEPId, _) => { qosId, sourceCEPId, destinationCEPId })
    (fun _ => rfl) .same

def WireQosSpecification.conversion :
    Conversion WireQosSpecification qosSpecificationFields.Struct :=
  .through (fun qos => (qos.name, qos.qosid, (), (), (), (), (), qos.partialDelivery, qos.order,
      (), (), (), (), (), ()))
    (fun (name, qosid, _, _, _, _, _, partialDelivery, order, _) =>
      { name, qosid, partialDelivery, order }) (fun _ => rfl)
    (.pair optionalText <| .pair .same <| .pair unsetField <| .pair unsetField <|
      .pair unsetField <| .pair unsetField <| .pair unsetField <| .pair .same <| .pair .same <|
      .pair unsetField <| .pair unsetField <| .pair unsetField <| .pair unsetField <|
      .pair unsetField .same)

def WireDtpConfig.conversion : Conversion WireDtpConfig dtpConfigFields.Struct :=
  .through
    (fun dtpConfig => (dtpConfig.dtcpPresent, (), (), (), (), dtpConfig.initialATimer, (), ()))
    (fun (dtcpPresent, _, _, _, _, initialATimer, _) => { dtcpPresent, initialATimer })
    (fun _ => rfl)
    (.pair .same <| .pair unsetField <| .pair unsetField <| .pair unsetField <|
      .pair unsetField <| .pair .same <| .pair unsetField .same)

namespace FlowMessage

/-- The values of the fields, in the order of their tags. -/
abbrev Parts : Type :=
  WireName × WireName × UInt64 × Option UInt64 × UInt64 × Option UInt64 ×
    Option WireConnectionId × Unit × Unit × Option WireQosSpecification × Option WireDtpConfig ×
    Unit × Unit × Unit × Option UInt32 × Unit

def parts (message : FlowMessage) : Parts :=
  (message.sourceNamingInfo, message.destinationNamingInfo, message.sourcePortId,
    message.destinationPortId, message.sourceAddress, message.destinationAddress,
    message.connectionIds, (), (), message.qosParameters, message.dtpConfig, (), (), (),
    message.hopCount, ())

def ofParts : Parts → FlowMessage
  | (sourceNamingInfo, destinationNamingInfo, sourcePortId, destinationPortId, sourceAddress,
      destinationAddress, connectionIds, _, _, qosParameters, dtpConfig, _, _, _, hopCount, _) =>
    { sourceNamingInfo, destinationNamingInfo, sourcePortId, destinationPortId, sourceAddress,
      destinationAddress, connectionIds, qosParameters, dtpConfig, hopCount }

/-- The structure the message is put in. -/
def conversion : Conversion FlowMessage flowFields.Struct :=
  .through parts ofParts (fun _ => rfl)
    (.pair WireName.conversion <| .pair WireName.conversion <| .pair .same <| .pair .same <|
      .pair .same <| .pair .same <| .pair (.atMostOne WireConnectionId.conversion) <|
      .pair unsetField <| .pair unsetField <| .pair (.optional WireQosSpecification.conversion) <|
      .pair (.optional WireDtpConfig.conversion) <| .pair unsetField <| .pair unsetField <|
      .pair unsetField <| .pair .same .same)

end FlowMessage

/-! ## Codecs -/

/-- What `pb_encode` leaves in a buffer. -/
def pbEncodeWithin (fields : PbMsgdesc) (capacity : Nat) (message : fields.Struct) :
    Option (List UInt8) :=
  match (pbEncode fields message).run (pbOstreamFromBuffer capacity) with
  | .ok _ stream => some stream.state
  | .error _ _ => none

/-- The codec of a descriptor. -/
def pbCodec {μ : Type} (fields : PbMsgdesc) (conversion : Conversion μ fields.Struct) :
    Codec μ where
  encode := fun message => (conversion.fill message).bind (pbEncodeWithin fields fields.maxSize)
  decode := fun bytes =>
    match (pbDecode fields).run bytes with
    | .ok message _ => conversion.view message
    | .error _ _ => none

def cdapCodec : Codec CdapMessage := pbCodec cdapMessageFields CdapMessage.conversion

def enrollmentCodec : Codec EnrollmentInformation :=
  pbCodec enrollmentInformationFields EnrollmentInformation.conversion

def neighborCodec : Codec WireNeighbor := pbCodec neighborFields WireNeighbor.conversion

def aDataCodec : Codec WireAData := pbCodec aDataFields WireAData.conversion

def flowCodec : Codec FlowMessage := pbCodec flowFields FlowMessage.conversion

theorem pbEncodeWithin_eq_some {fields : PbMsgdesc} (small : fields.maxSize < 2 ^ 32)
    {capacity : Nat} {message : fields.Struct} {bytes : List UInt8} :
    pbEncodeWithin fields capacity message = some bytes ↔
      fields.Encodable message ∧ fields.wire message = bytes ∧ bytes.length ≤ capacity := by
  constructor
  · intro encoded
    rw [pbEncodeWithin] at encoded
    cases run : (pbEncode fields message).run (pbOstreamFromBuffer capacity) with
    | error error stream =>
        rw [run] at encoded
        cases encoded
    | ok value stream =>
        rw [run] at encoded
        cases encoded
        obtain ⟨encodable, state⟩ := wire_of_pbEncode small run
        refine ⟨encodable, state.symm, ?_⟩
        rw [state]
        by_cases room : (pbOstreamFromBuffer capacity).Room (fields.wire message).length
        · exact room_fromBuffer.mp room
        · obtain ⟨part, -, full⟩ := (pbEncode_encodes small message).full encodable _
            (PbOstream.bounded_fromBuffer capacity) room
          rw [full] at run
          cases run
  · rintro ⟨encodable, rfl, fits⟩
    have written := (pbEncode_encodes small message).written encodable _ (room_fromBuffer.mpr fits)
    rw [pbEncodeWithin, written]
    rfl

end RinaSense
