import RinaSense.Rib.Cdap

/-!
# CDAP messages over the wire

A message that fits the wire fields comes back equal after encoding and decoding,
what was absent in it absent again, and encoding reports a failure when there is
no buffer or the codec fails. The decoder leaves the fields of absent values as
the memory had them, the encoder omits the result -1, and a buffer that was not
obtained is written to.
-/

namespace RinaSense

open Command

/-! ## The structure that is encoded -/

namespace MessageCdap

/-- The strings and the object value of the message fit the fields. -/
structure Fits (message : MessageCdap) : Prop where
  destination : message.pxDestinationInfo.All (Pointer.Fits nameSize)
  source : message.pxSourceInfo.All (Pointer.Fits nameSize)
  authName : message.pxAuthPolicy.pcName.Fits textSize
  authVersion : message.pxAuthPolicy.pcVersion.Fits textSize
  objClass : message.pcObjClass.Fits textSize
  objName : message.pcObjName.Fits textSize
  objValue : message.pxObjValue ≠ .stray
  objValueLength : ∀ bytes, message.pxObjValue = .target bytes → bytes.length ≤ byteValueSize

/-- The policy as it goes over the wire, when there is one. -/
def wireAuthPolicy (message : MessageCdap) : Option WireAuthPolicy :=
  message.pxAuthPolicy.pcName.value?.map fun name =>
    { name := some name, versions := message.pxAuthPolicy.pcVersion.value? }

/-- The message as it goes over the wire. -/
def wire (message : MessageCdap) : CdapMessage where
  opCode := message.eOpCode
  invokeID := some message.invokeID
  objClass := message.pcObjClass.value?
  objName := message.pcObjName.value?
  objInst := unlessMinusOne message.objInst
  objValue := message.pxObjValue.value?.map some
  result := unlessMinusOne message.result
  authPolicy := message.wireAuthPolicy
  dest := message.pxDestinationInfo.map Pointer.value?
  src := message.pxSourceInfo.map Pointer.value?
  version := some message.version

/-- A policy with a name has a version. -/
def Versioned (message : MessageCdap) : Prop :=
  message.pxAuthPolicy.pcName ≠ .null → message.pxAuthPolicy.pcVersion ≠ .null

end MessageCdap

theorem copyName_of_fits {name : NameInfo (Pointer String)}
    (fits : name.All (Pointer.Fits nameSize)) : copyName name = .ok (name.map Pointer.value?) := by
  rw [copyName, copyIfSet_of_fits fits.entityInstance, ok_bind,
    copyIfSet_of_fits fits.entityName, ok_bind, copyIfSet_of_fits fits.processInstance, ok_bind,
    copyIfSet_of_fits fits.processName, ok_bind]
  rfl

section Fill

variable {message : MessageCdap}

theorem copyAuthPolicy_of_fits (fits : message.Fits) (versioned : message.Versioned) :
    copyAuthPolicy message.pxAuthPolicy = .ok message.wireAuthPolicy := by
  rw [copyAuthPolicy, MessageCdap.wireAuthPolicy]
  cases name : message.pxAuthPolicy.pcName with
  | null => rfl
  | stray => exact absurd name fits.authName.1
  | target text =>
      cases version : message.pxAuthPolicy.pcVersion with
      | null => exact absurd version (versioned (by rw [name]; exact nofun))
      | stray => exact absurd version fits.authVersion.1
      | target versions =>
          simp only [strcpy_of_short (fits.authName.2 text name),
            strcpy_of_short (fits.authVersion.2 versions version), ok_bind]
          rfl

/-- A policy with a name and no version makes the copy fault. -/
theorem copyAuthPolicy_of_unversioned (fits : message.Fits) (unversioned : ¬ message.Versioned) :
    copyAuthPolicy message.pxAuthPolicy = .error .nullPointer := by
  rw [MessageCdap.Versioned, Classical.not_imp, not_not] at unversioned
  rw [copyAuthPolicy, unversioned.2]
  cases name : message.pxAuthPolicy.pcName with
  | null => exact absurd name unversioned.1
  | stray => exact absurd name fits.authName.1
  | target text =>
      simp only [strcpy_of_short (fits.authName.2 text name), ok_bind]
      rfl

theorem copyObjectValue_of_fits (fits : message.Fits) :
    copyObjectValue message.pxObjValue = .ok (message.pxObjValue.value?.map some) := by
  cases value : message.pxObjValue with
  | null => rfl
  | stray => exact absurd value fits.objValue
  | target bytes =>
      simp only [copyObjectValue, Pointer.read_target, ok_bind,
        if_pos (fits.objValueLength bytes value)]
      rfl

theorem fillCdapMessage_of_fits (fits : message.Fits) (versioned : message.Versioned) :
    fillCdapMessage message = .ok message.wire := by
  rw [fillCdapMessage, copyName_of_fits fits.destination, ok_bind, copyName_of_fits fits.source,
    ok_bind, copyAuthPolicy_of_fits fits versioned, ok_bind, copyIfSet_of_fits fits.objClass,
    ok_bind, copyIfSet_of_fits fits.objName, ok_bind, copyObjectValue_of_fits fits, ok_bind]
  rfl

theorem fillCdapMessage_of_unversioned (fits : message.Fits) (unversioned : ¬ message.Versioned) :
    fillCdapMessage message = .error .nullPointer := by
  rw [fillCdapMessage, copyName_of_fits fits.destination, ok_bind, copyName_of_fits fits.source,
    ok_bind, copyAuthPolicy_of_unversioned fits unversioned, error_bind]

end Fill

/-- `MAX_CDAP_OPCODE`. -/
def maxCdapOpcode : UInt32 := OpCode.stopR.toCode

theorem ofCode?_isSome {code : UInt32} :
    (∃ opCode, OpCode.ofCode? code = some opCode) ↔ code ≤ maxCdapOpcode := by
  have bound : maxCdapOpcode.toNat = 17 := rfl
  rw [UInt32.le_iff_toNat_le, bound, OpCode.ofCode?]
  constructor
  · intro ⟨opCode, found⟩
    have inside := (List.getElem?_eq_some_iff.mp found).1
    exact Nat.le_of_lt_succ inside
  · intro inside
    exact ⟨_, List.getElem?_eq_getElem (Nat.lt_succ_of_le inside)⟩

theorem opcodeName_of_le {code : UInt32} (inside : code ≤ maxCdapOpcode) :
    ∃ name, opcodeName code = .ok name := by
  obtain ⟨opCode, found⟩ := ofCode?_isSome.mpr inside
  exact ⟨opCode.name, by rw [opcodeName, found]; rfl⟩

theorem opcodeName_of_not_le {code : UInt32} (outside : ¬ code ≤ maxCdapOpcode) :
    opcodeName code = .error .outOfBounds := by
  rw [opcodeName]
  cases found : OpCode.ofCode? code with
  | none => rfl
  | some opCode => exact absurd (ofCode?_isSome.mp ⟨opCode, found⟩) outside

/-! ## The encoder -/

section Encode

variable {codec : Codec CdapMessage} {obtained : Bool} {message : MessageCdap}

theorem prvRibdEncodeCDAP_of_fits (fits : message.Fits) (inside : message.eOpCode ≤ maxCdapOpcode)
    (versioned : message.Versioned) :
    prvRibdEncodeCDAP codec obtained (some message) =
      match codec.encodeWithin encodeBufferSize message.wire with
      | none => .ok none
      | some bytes => if obtained then .ok (some bytes) else .error .nullPointer := by
  obtain ⟨name, named⟩ := opcodeName_of_le inside
  simp only [prvRibdEncodeCDAP, named, fillCdapMessage_of_fits fits versioned, ok_bind]
  rfl

theorem prvRibdEncodeCDAP_outside (outside : ¬ message.eOpCode ≤ maxCdapOpcode) :
    prvRibdEncodeCDAP codec obtained (some message) = .error .outOfBounds := by
  simp only [prvRibdEncodeCDAP, opcodeName_of_not_le outside, error_bind]

theorem prvRibdEncodeCDAP_unversioned (fits : message.Fits)
    (inside : message.eOpCode ≤ maxCdapOpcode) (unversioned : ¬ message.Versioned) :
    prvRibdEncodeCDAP codec obtained (some message) = .error .nullPointer := by
  obtain ⟨name, named⟩ := opcodeName_of_le inside
  simp only [prvRibdEncodeCDAP, named, fillCdapMessage_of_unversioned fits unversioned, ok_bind,
    error_bind]

end Encode

/-! ## Purpose -/

namespace MessageCdap

/-- The decoded message is equal in what it carries. A field that is absent is a
null pointer, so equality includes that what was absent is absent. -/
structure Preserved (message decoded : MessageCdap) : Prop where
  opCode : decoded.eOpCode = message.eOpCode
  invokeID : decoded.invokeID = message.invokeID
  objClass : decoded.pcObjClass = message.pcObjClass
  objName : decoded.pcObjName = message.pcObjName
  objInst : decoded.objInst = message.objInst
  result : decoded.result = message.result
  source : decoded.pxSourceInfo = message.pxSourceInfo
  destination : decoded.pxDestinationInfo = message.pxDestinationInfo
  objValue : decoded.pxObjValue = message.pxObjValue
  authName : message.pxAuthPolicy.pcName = .null → decoded.pxAuthPolicy.pcName = .null
  authVersion : message.pxAuthPolicy.pcVersion = .null → decoded.pxAuthPolicy.pcVersion = .null

/-- Encoding ends, reports a failure exactly when there is no buffer or the codec
fails, and otherwise the bytes decode to an equal message. -/
def RoundTrips (message : MessageCdap) (codec : Codec CdapMessage) (left : MessageCdap)
    (obtained : Bool) : Prop :=
  ∃ encoded, prvRibdEncodeCDAP codec obtained (some message) = .ok encoded ∧
    (encoded = none ↔
      obtained = false ∨ codec.encodeWithin encodeBufferSize message.wire = none) ∧
    ∀ bytes, encoded = some bytes →
      ∃ decoded, prvRibdDecodeCDAP codec left bytes = some decoded ∧ message.Preserved decoded

end MessageCdap

/-! ## Condition -/

/-- The fields the decoder does not set hold what the message says. -/
structure MessageCdap.LeftOver (message left : MessageCdap) : Prop where
  source : message.pxSourceInfo.Rel Pointer.Cleared left.pxSourceInfo
  destination : message.pxDestinationInfo.Rel Pointer.Cleared left.pxDestinationInfo
  objClass : message.pcObjClass.Cleared left.pcObjClass
  objName : message.pcObjName.Cleared left.pcObjName
  objInst : message.objInst = -1 → left.objInst = -1
  objValue : message.pxObjValue.Cleared left.pxObjValue
  authName : message.pxAuthPolicy.pcName.Cleared left.pxAuthPolicy.pcName
  authVersion : message.pxAuthPolicy.pcVersion.Cleared left.pxAuthPolicy.pcVersion

/-- The messages that survive: of an operation in the table, a policy only with its
version, and either too long to be encoded or, given a buffer, with a result other
than -1 and decoded to memory where the absent fields are clear. -/
structure MessageCdap.Survives (message : MessageCdap) (codec : Codec CdapMessage)
    (left : MessageCdap) (obtained : Bool) : Prop where
  inside : message.eOpCode ≤ maxCdapOpcode
  versioned : message.Versioned
  carried : codec.encodeWithin encodeBufferSize message.wire = none ∨
    obtained = true ∧ message.result ≠ -1 ∧ message.LeftOver left

/-! ## The decoder -/

section Decode

theorem setFrom_value?_iff {α : Type} {pointer left : Pointer α} (inUse : pointer ≠ .stray) :
    left.setFrom pointer.value? = pointer ↔ pointer.Cleared left := by
  cases pointer with
  | null => simp [Pointer.value?, Pointer.setFrom, Pointer.Cleared]
  | target value => simp [Pointer.value?, Pointer.setFrom, Pointer.Cleared]
  | stray => exact absurd rfl inUse

theorem zipWith_setFrom_iff {name left : NameInfo (Pointer String)}
    (inUse : name.All fun component => component ≠ .stray) :
    left.zipWith Pointer.setFrom (name.map Pointer.value?) = name ↔
      name.Rel Pointer.Cleared left := by
  constructor
  · intro same
    rw [NameInfo.zipWith, NameInfo.map, NameInfo.mk.injEq] at same
    exact ⟨(setFrom_value?_iff inUse.processName).mp same.1,
      (setFrom_value?_iff inUse.processInstance).mp same.2.1,
      (setFrom_value?_iff inUse.entityName).mp same.2.2.1,
      (setFrom_value?_iff inUse.entityInstance).mp same.2.2.2⟩
  · intro cleared
    rw [NameInfo.zipWith, NameInfo.map, NameInfo.mk.injEq]
    exact ⟨(setFrom_value?_iff inUse.processName).mpr cleared.processName,
      (setFrom_value?_iff inUse.processInstance).mpr cleared.processInstance,
      (setFrom_value?_iff inUse.entityName).mpr cleared.entityName,
      (setFrom_value?_iff inUse.entityInstance).mpr cleared.entityInstance⟩

theorem unlessMinusOne_getD_iff {value default : Int} :
    (unlessMinusOne value).getD default = value ↔ (value = -1 → default = -1) := by
  rw [unlessMinusOne]
  split
  · rename_i other
    exact ⟨fun _ minusOne => absurd minusOne other, fun _ => rfl⟩
  · rename_i minusOne
    rw [not_not] at minusOne
    simp [minusOne]

variable {message left : MessageCdap}

theorem all_ne_stray {name : NameInfo (Pointer String)} {size : Nat}
    (fits : name.All (Pointer.Fits size)) : name.All fun component => component ≠ .stray :=
  ⟨fits.processName.1, fits.processInstance.1, fits.entityName.1, fits.entityInstance.1⟩

/-- A policy without a name is not sent and its fields are as the memory had them. -/
theorem decoded_authPolicy_of_null (absent : message.pxAuthPolicy.pcName = .null) :
    (prvRibdFillDecodeMessage left message.wire).pxAuthPolicy = left.pxAuthPolicy := by
  simp [prvRibdFillDecodeMessage, MessageCdap.wire, MessageCdap.wireAuthPolicy, absent,
    Pointer.value?]

theorem decoded_authVersion_iff (versioned : message.Versioned) :
    (message.pxAuthPolicy.pcVersion = .null →
        (prvRibdFillDecodeMessage left message.wire).pxAuthPolicy.pcVersion = .null) ↔
      message.pxAuthPolicy.pcVersion.Cleared left.pxAuthPolicy.pcVersion := by
  cases name : message.pxAuthPolicy.pcName with
  | null =>
      rw [decoded_authPolicy_of_null name]
      rfl
  | target text =>
      have present := versioned (by rw [name]; exact nofun)
      exact ⟨fun _ absent => absurd absent present, fun _ absent => absurd absent present⟩
  | stray =>
      have present := versioned (by rw [name]; exact nofun)
      exact ⟨fun _ absent => absurd absent present, fun _ absent => absurd absent present⟩

theorem decoded_authName_iff :
    (message.pxAuthPolicy.pcName = .null →
        (prvRibdFillDecodeMessage left message.wire).pxAuthPolicy.pcName = .null) ↔
      message.pxAuthPolicy.pcName.Cleared left.pxAuthPolicy.pcName := by
  constructor
  · intro decoded absent
    rw [← decoded_authPolicy_of_null absent]
    exact decoded absent
  · intro cleared absent
    rw [decoded_authPolicy_of_null absent]
    exact cleared absent

theorem decoded_objValue (message left : MessageCdap) :
    (prvRibdFillDecodeMessage left message.wire).pxObjValue =
      left.pxObjValue.setFrom message.pxObjValue.value? := by
  rw [prvRibdFillDecodeMessage, MessageCdap.wire]
  cases message.pxObjValue <;> rfl

theorem preserved_iff (fits : message.Fits) (versioned : message.Versioned) :
    message.Preserved (prvRibdFillDecodeMessage left message.wire) ↔
      message.result ≠ -1 ∧ message.LeftOver left := by
  constructor
  · intro preserved
    have result : message.result = -1 → (0 : Int) = -1 :=
      unlessMinusOne_getD_iff.mp preserved.result
    constructor
    · intro minusOne
      exact absurd (result minusOne) (by decide)
    · constructor
      · exact (zipWith_setFrom_iff (all_ne_stray fits.source)).mp preserved.source
      · exact (zipWith_setFrom_iff (all_ne_stray fits.destination)).mp preserved.destination
      · exact (setFrom_value?_iff fits.objClass.1).mp preserved.objClass
      · exact (setFrom_value?_iff fits.objName.1).mp preserved.objName
      · exact unlessMinusOne_getD_iff.mp preserved.objInst
      · exact (setFrom_value?_iff fits.objValue).mp
          ((decoded_objValue message left).symm.trans preserved.objValue)
      · exact decoded_authName_iff.mp preserved.authName
      · exact (decoded_authVersion_iff versioned).mp preserved.authVersion
  · intro ⟨result, leftOver⟩
    constructor
    · rfl
    · rfl
    · exact (setFrom_value?_iff fits.objClass.1).mpr leftOver.objClass
    · exact (setFrom_value?_iff fits.objName.1).mpr leftOver.objName
    · exact unlessMinusOne_getD_iff.mpr leftOver.objInst
    · exact unlessMinusOne_getD_iff.mpr fun minusOne => absurd minusOne result
    · exact (zipWith_setFrom_iff (all_ne_stray fits.source)).mpr leftOver.source
    · exact (zipWith_setFrom_iff (all_ne_stray fits.destination)).mpr leftOver.destination
    · exact (decoded_objValue message left).trans
        ((setFrom_value?_iff fits.objValue).mpr leftOver.objValue)
    · exact decoded_authName_iff.mpr leftOver.authName
    · exact (decoded_authVersion_iff versioned).mpr leftOver.authVersion

end Decode

/-! ## Round trips -/

section RoundTrip

variable {codec : Codec CdapMessage} {left : MessageCdap} {obtained : Bool}
  {message : MessageCdap}

theorem roundTrips_of_failure (fits : message.Fits) (inside : message.eOpCode ≤ maxCdapOpcode)
    (versioned : message.Versioned)
    (failed : codec.encodeWithin encodeBufferSize message.wire = none) :
    message.RoundTrips codec left obtained := by
  refine ⟨none, ?_, ?_, ?_⟩
  · rw [prvRibdEncodeCDAP_of_fits fits inside versioned, failed]
  · exact ⟨fun _ => .inr failed, fun _ => rfl⟩
  · intro bytes produced
    cases produced

theorem roundTrips_of_encoded (faithful : codec.Faithful) (fits : message.Fits)
    (inside : message.eOpCode ≤ maxCdapOpcode) (versioned : message.Versioned) {bytes : List UInt8}
    (encoded : codec.encodeWithin encodeBufferSize message.wire = some bytes) :
    message.RoundTrips codec left obtained ↔
      obtained = true ∧ message.result ≠ -1 ∧ message.LeftOver left := by
  have decoded : prvRibdDecodeCDAP codec left bytes =
      some (prvRibdFillDecodeMessage left message.wire) := by
    rw [prvRibdDecodeCDAP, faithful.decode_encodeWithin encoded]
    rfl
  have run : prvRibdEncodeCDAP codec obtained (some message) =
      if obtained then .ok (some bytes) else .error .nullPointer := by
    rw [prvRibdEncodeCDAP_of_fits fits inside versioned, encoded]
  cases obtained with
  | false =>
      constructor
      · intro ⟨result, ended, _⟩
        rw [run] at ended
        cases ended
      · intro ⟨absent, _⟩
        cases absent
  | true =>
      rw [if_pos rfl] at run
      constructor
      · intro ⟨result, ended, _, decodes⟩
        rw [run] at ended
        obtain ⟨other, same, preserved⟩ := decodes bytes (Except.ok.inj ended).symm
        rw [decoded] at same
        rw [← Option.some.inj same] at preserved
        exact ⟨rfl, (preserved_iff fits versioned).mp preserved⟩
      · intro ⟨_, kept⟩
        refine ⟨some bytes, run, ?_, ?_⟩
        · rw [encoded]
          simp
        · intro other produced
          rw [← Option.some.inj produced]
          exact ⟨_, decoded, (preserved_iff fits versioned).mpr kept⟩

/-- With a faithful codec exactly the messages named above survive. -/
theorem cdapMessage_roundTrips_iff (codec : Codec CdapMessage) (left : MessageCdap)
    (obtained : Bool) (message : MessageCdap) (faithful : codec.Faithful) (fits : message.Fits) :
    message.RoundTrips codec left obtained ↔ message.Survives codec left obtained := by
  constructor
  · intro trip
    have inside : message.eOpCode ≤ maxCdapOpcode := by
      by_contra outside
      obtain ⟨encoded, ended, _⟩ := trip
      rw [prvRibdEncodeCDAP_outside outside] at ended
      cases ended
    have versioned : message.Versioned := by
      by_contra unversioned
      obtain ⟨encoded, ended, _⟩ := trip
      rw [prvRibdEncodeCDAP_unversioned fits inside unversioned] at ended
      cases ended
    refine ⟨inside, versioned, ?_⟩
    cases encoded : codec.encodeWithin encodeBufferSize message.wire with
    | none => exact .inl rfl
    | some bytes =>
        exact .inr ((roundTrips_of_encoded faithful fits inside versioned encoded).mp trip)
  · intro ⟨inside, versioned, carried⟩
    cases encoded : codec.encodeWithin encodeBufferSize message.wire with
    | none => exact roundTrips_of_failure fits inside versioned encoded
    | some bytes =>
        apply (roundTrips_of_encoded faithful fits inside versioned encoded).mpr
        rcases carried with failed | kept
        · rw [failed] at encoded
          cases encoded
        · exact kept

end RoundTrip

/-! ## An answer to a stop -/

/-- The message the enrollment answers a stop with. -/
def stopAnswer : MessageCdap :=
  { prvRibMessageCdapInit with eOpCode := OpCode.stopR.toCode, invokeID := 5 }

/-- Its encoding. -/
def stopAnswerBytes : List UInt8 :=
  let management : List UInt8 := [0x4d, 0x61, 0x6e, 0x61, 0x67, 0x65, 0x6d, 0x65, 0x6e, 0x74]
  [0x10, 0x11, 0x18, 0x05, 0x48, 0x00, 0x9a, 0x01, 0x00, 0xa2, 0x01, 0x0a] ++ management ++
    [0xba, 0x01, 0x00, 0xc2, 0x01, 0x0a] ++ management ++ [0xe0, 0x01, 0x01]

theorem stopAnswer_fits : stopAnswer.Fits := by
  have name : initialName.All (Pointer.Fits nameSize) := by
    refine ⟨⟨nofun, nofun⟩, ⟨nofun, nofun⟩, ⟨nofun, ?_⟩, ⟨nofun, ?_⟩⟩
    all_goals
      intro text equal
      cases equal
      decide
  have absent : (Pointer.null : Pointer String).Fits textSize := ⟨nofun, nofun⟩
  exact ⟨name, name, absent, absent, absent, absent, nofun, nofun⟩

/-- Memory in which the fields of earlier messages are still there. -/
def usedMemory : MessageCdap := { prvRibMessageCdapInit with pcObjName := .stray }

theorem cdapMessage_roundTrips_stopAnswer :
    stopAnswer.RoundTrips (.single stopAnswer.wire stopAnswerBytes) prvRibMessageCdapInit true := by
  apply (cdapMessage_roundTrips_iff _ _ _ stopAnswer (Codec.single_faithful _ _)
    stopAnswer_fits).mpr
  have cleared : ∀ name : NameInfo (Pointer String), name.Rel Pointer.Cleared name :=
    fun _ => ⟨id, id, id, id⟩
  refine ⟨by decide, fun present => absurd rfl present, .inr ⟨rfl, by decide, ?_⟩⟩
  exact ⟨cleared _, cleared _, id, id, id, id, id, id⟩

/-- The answer has no object name; the decoded one has a pointer to nothing. -/
theorem stopAnswer_absent_field_left :
    (Codec.single stopAnswer.wire stopAnswerBytes).Faithful ∧ stopAnswer.Fits ∧
      ¬ stopAnswer.RoundTrips (.single stopAnswer.wire stopAnswerBytes) usedMemory true := by
  refine ⟨Codec.single_faithful _ _, stopAnswer_fits, ?_⟩
  rintro ⟨encoded, ended, _, decodes⟩
  have produced : prvRibdEncodeCDAP (.single stopAnswer.wire stopAnswerBytes) true
      (some stopAnswer) = .ok (some stopAnswerBytes) := by rfl
  rw [produced] at ended
  obtain ⟨decoded, equal, preserved⟩ := decodes stopAnswerBytes (Except.ok.inj ended).symm
  have left : prvRibdDecodeCDAP (.single stopAnswer.wire stopAnswerBytes) usedMemory
      stopAnswerBytes = some (prvRibdFillDecodeMessage usedMemory stopAnswer.wire) := by rfl
  rw [left] at equal
  rw [← Option.some.inj equal] at preserved
  have stray : (prvRibdFillDecodeMessage usedMemory stopAnswer.wire).pcObjName = .stray := rfl
  have absent : stopAnswer.pcObjName = .null := rfl
  have same := preserved.objName
  rw [stray, absent] at same
  cases same

end RinaSense
