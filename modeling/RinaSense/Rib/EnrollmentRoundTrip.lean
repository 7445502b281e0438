import RinaSense.Rib.CdapRoundTrip
import RinaSense.Rib.SerdesMsg

/-!
# Enrollment and neighbor messages over the wire

What comes back of the two messages the enrollment exchanges: of an enrollment message the
address, of a neighbor message the four strings. The address of a neighbor and the token of an
enrollment are not sent, and everything that is not decoded is as the memory had it.
-/

namespace RinaSense

open Command

/-! ## Purpose -/

/-- A decoded message holds what was sent, and what was absent is absent in it. -/
structure EnrollmentMessage.Preserved (sent decoded : EnrollmentMessage) : Prop where
  address : decoded.ullAddress = sent.ullAddress
  token : decoded.pcToken = sent.pcToken
  supportingDifs : sent.pcSupportingDifs.Cleared decoded.pcSupportingDifs
  startEarly : sent.xStartEarly = false → decoded.xStartEarly = false

structure NeighborMessage.Preserved (sent decoded : NeighborMessage) : Prop where
  apName : decoded.pcApName = sent.pcApName
  apInstance : decoded.pcApInstance = sent.pcApInstance
  aeName : decoded.pcAeName = sent.pcAeName
  aeInstance : decoded.pcAeInstance = sent.pcAeInstance
  address : decoded.ullAddress = sent.ullAddress
  supportingDifs : sent.pcSupportingDifs.Cleared decoded.pcSupportingDifs

/-- The strings fit the fields of the wire. -/
structure NeighborMessage.Fits (message : NeighborMessage) : Prop where
  apName : message.pcApName.Fits neighborTextSize
  apInstance : message.pcApInstance.Fits neighborTextSize
  aeName : message.pcAeName.Fits neighborTextSize
  aeInstance : message.pcAeInstance.Fits neighborTextSize

/-- Whatever is encoded of the message is decoded to a message that holds it. -/
def EnrollmentMessage.RoundTrips (message : EnrollmentMessage)
    (codec : Codec EnrollmentInformation) (left : EnrollmentMessage) : Prop :=
  ∀ bytes, pxSerdesMsgEnrollmentEncode codec message.ullAddress = some bytes →
    ∃ decoded, pxSerdesMsgEnrollmentDecode codec left bytes = some decoded ∧
      message.Preserved decoded

def NeighborMessage.RoundTrips (message : NeighborMessage) (codec : Codec WireNeighbor)
    (left : NeighborMessage) : Prop :=
  ∃ encoded, pxSerdesMsgNeighborEncode codec message = .ok encoded ∧
    ∀ bytes, encoded = some bytes →
      ∃ decoded, pxserdesMsgDecodeNeighbor codec left bytes = some decoded ∧
        message.Preserved decoded

/-! ## What is sent -/

/-- The message as it goes over the wire. -/
def EnrollmentMessage.wire (message : EnrollmentMessage) : EnrollmentInformation where
  address := if 0 < message.ullAddress then some message.ullAddress else none
  token := none

def NeighborMessage.wire (message : NeighborMessage) : WireNeighbor where
  apname := message.pcApName.value?
  apinstance := message.pcApInstance.value?
  aename := message.pcAeName.value?
  aeinstance := message.pcAeInstance.value?
  address := none

/-- The memory holds what the message does in the fields that are not sent. -/
structure EnrollmentMessage.LeftOver (message left : EnrollmentMessage) : Prop where
  address : message.ullAddress = 0 → left.ullAddress = 0
  token : left.pcToken = message.pcToken
  supportingDifs : message.pcSupportingDifs.Cleared left.pcSupportingDifs
  startEarly : message.xStartEarly = false → left.xStartEarly = false

structure NeighborMessage.LeftOver (message left : NeighborMessage) : Prop where
  apName : message.pcApName.Cleared left.pcApName
  apInstance : message.pcApInstance.Cleared left.pcApInstance
  aeName : message.pcAeName.Cleared left.pcAeName
  aeInstance : message.pcAeInstance.Cleared left.pcAeInstance
  address : left.ullAddress = message.ullAddress
  supportingDifs : message.pcSupportingDifs.Cleared left.pcSupportingDifs

/-- The encoder gives bytes for the message, so that it is sent. -/
def EnrollmentMessage.Sent (message : EnrollmentMessage) (codec : Codec EnrollmentInformation) :
    Prop :=
  ∃ bytes, codec.encodeWithin mtu message.wire = some bytes

def NeighborMessage.Sent (message : NeighborMessage) (codec : Codec WireNeighbor) : Prop :=
  ∃ bytes, codec.encodeWithin mtu message.wire = some bytes

/-! ## Round trips -/

/-- An address is left out when it is zero. -/
theorem sentAddress_getD_iff {address left : UInt64} :
    (if 0 < address then some address else none).getD left = address ↔
      (address = 0 → left = 0) := by
  split
  case isTrue sent =>
    have notZero : address ≠ 0 := fun zero => UInt64.lt_irrefl 0 (zero ▸ sent)
    exact iff_of_true rfl fun zero => absurd zero notZero
  case isFalse unsent =>
    have zero : address = 0 := UInt64.le_zero_iff.mp (UInt64.not_lt.mp unsent)
    rw [zero, Option.getD_none]
    exact ⟨fun same _ => same, fun cleared => cleared rfl⟩

section Enrollment

variable {codec : Codec EnrollmentInformation} {message left : EnrollmentMessage}

theorem enrollment_preserved_iff :
    message.Preserved (prvSerdesMsgDecodeEnrollment left message.wire) ↔
      message.LeftOver left := by
  have address : (prvSerdesMsgDecodeEnrollment left message.wire).ullAddress =
      message.ullAddress ↔ (message.ullAddress = 0 → left.ullAddress = 0) :=
    sentAddress_getD_iff
  constructor
  · intro preserved
    exact ⟨address.mp preserved.address, preserved.token, preserved.supportingDifs,
      preserved.startEarly⟩
  · intro leftOver
    exact ⟨address.mpr leftOver.address, leftOver.token, leftOver.supportingDifs,
      leftOver.startEarly⟩

theorem enrollment_roundTrips_iff (faithful : codec.Faithful) :
    message.RoundTrips codec left ↔ (message.Sent codec → message.LeftOver left) := by
  have decodes : ∀ bytes, codec.encodeWithin mtu message.wire = some bytes →
      pxSerdesMsgEnrollmentDecode codec left bytes =
        some (prvSerdesMsgDecodeEnrollment left message.wire) := by
    intro bytes encoded
    rw [pxSerdesMsgEnrollmentDecode, faithful.decode_encodeWithin encoded, Option.map_some]
  constructor
  · rintro trips ⟨bytes, encoded⟩
    obtain ⟨decoded, equal, preserved⟩ := trips bytes encoded
    rw [decodes bytes encoded] at equal
    rw [← Option.some.inj equal] at preserved
    exact enrollment_preserved_iff.mp preserved
  · intro leftOver bytes encoded
    exact ⟨_, decodes bytes encoded, enrollment_preserved_iff.mpr (leftOver ⟨bytes, encoded⟩)⟩

end Enrollment

section Neighbor

variable {codec : Codec WireNeighbor} {message left : NeighborMessage}

theorem neighbor_preserved_iff (fits : message.Fits) :
    message.Preserved (prvSerdesMsgDecodeNeighbor left message.wire) ↔ message.LeftOver left := by
  constructor
  · intro preserved
    exact ⟨(setFrom_value?_iff fits.apName.1).mp preserved.apName,
      (setFrom_value?_iff fits.apInstance.1).mp preserved.apInstance,
      (setFrom_value?_iff fits.aeName.1).mp preserved.aeName,
      (setFrom_value?_iff fits.aeInstance.1).mp preserved.aeInstance,
      preserved.address, preserved.supportingDifs⟩
  · intro leftOver
    exact ⟨(setFrom_value?_iff fits.apName.1).mpr leftOver.apName,
      (setFrom_value?_iff fits.apInstance.1).mpr leftOver.apInstance,
      (setFrom_value?_iff fits.aeName.1).mpr leftOver.aeName,
      (setFrom_value?_iff fits.aeInstance.1).mpr leftOver.aeInstance,
      leftOver.address, leftOver.supportingDifs⟩

/-- Strings that fit are copied without a fault. -/
theorem pxSerdesMsgNeighborEncode_of_fits (fits : message.Fits) :
    pxSerdesMsgNeighborEncode codec message = .ok (codec.encodeWithin mtu message.wire) := by
  simp only [pxSerdesMsgNeighborEncode, prvSerdesMsgEncodeNeighbor,
    copyIfSet_of_fits fits.aeInstance, copyIfSet_of_fits fits.aeName,
    copyIfSet_of_fits fits.apInstance, copyIfSet_of_fits fits.apName, ok_bind]
  rfl

theorem neighbor_roundTrips_iff (faithful : codec.Faithful) (fits : message.Fits) :
    message.RoundTrips codec left ↔ (message.Sent codec → message.LeftOver left) := by
  have decodes : ∀ bytes, codec.encodeWithin mtu message.wire = some bytes →
      pxserdesMsgDecodeNeighbor codec left bytes =
        some (prvSerdesMsgDecodeNeighbor left message.wire) := by
    intro bytes encoded
    rw [pxserdesMsgDecodeNeighbor, faithful.decode_encodeWithin encoded, Option.map_some]
  have encodes := @pxSerdesMsgNeighborEncode_of_fits codec message fits
  constructor
  · rintro ⟨encoded, ended, trips⟩ ⟨bytes, sent⟩
    rw [encodes] at ended
    obtain ⟨decoded, equal, preserved⟩ :=
      trips bytes ((Except.ok.inj ended).symm.trans sent)
    rw [decodes bytes sent] at equal
    rw [← Option.some.inj equal] at preserved
    exact (neighbor_preserved_iff fits).mp preserved
  · intro leftOver
    refine ⟨_, encodes, fun bytes sent => ?_⟩
    exact ⟨_, decodes bytes sent, (neighbor_preserved_iff fits).mpr (leftOver ⟨bytes, sent⟩)⟩

end Neighbor

/-! ## Both messages -/

/-- A message that is sent comes back exactly where the memory of the decoded message held what
is not sent. -/
theorem enrollment_messages_roundTrip_iff {enrollmentCodec : Codec EnrollmentInformation}
    {neighborCodec : Codec WireNeighbor} (enrollmentFaithful : enrollmentCodec.Faithful)
    (neighborFaithful : neighborCodec.Faithful) {neighbor : NeighborMessage}
    (fits : neighbor.Fits) (enrollment enrollmentLeft : EnrollmentMessage)
    (neighborLeft : NeighborMessage) :
    (enrollment.RoundTrips enrollmentCodec enrollmentLeft ↔
      (enrollment.Sent enrollmentCodec → enrollment.LeftOver enrollmentLeft)) ∧
    (neighbor.RoundTrips neighborCodec neighborLeft ↔
      (neighbor.Sent neighborCodec → neighbor.LeftOver neighborLeft)) :=
  ⟨enrollment_roundTrips_iff enrollmentFaithful,
    neighbor_roundTrips_iff neighborFaithful fits⟩

/-- The neighbor of address 5 that a node announces. -/
def announcedNeighbor : NeighborMessage where
  pcApName := .target "ue1.mobile"
  pcApInstance := .null
  pcAeName := .null
  pcAeInstance := .null
  ullAddress := 5
  pcSupportingDifs := .null

def zeroedNeighbor : NeighborMessage where
  pcApName := .null
  pcApInstance := .null
  pcAeName := .null
  pcAeInstance := .null
  ullAddress := 0
  pcSupportingDifs := .null

def zeroedEnrollment : EnrollmentMessage where
  ullAddress := 0
  pcSupportingDifs := .null
  xStartEarly := false
  pcToken := .null

theorem announcedNeighbor_fits : announcedNeighbor.Fits where
  apName := ⟨nofun, fun _ same => Pointer.target.inj same ▸ by decide⟩
  apInstance := ⟨nofun, nofun⟩
  aeName := ⟨nofun, nofun⟩
  aeInstance := ⟨nofun, nofun⟩

/-- An enrollment message comes back in cleared memory, the announced neighbor does not. -/
theorem enrollment_messages_roundTrip_announced :
    ({ zeroedEnrollment with ullAddress := 5 }.RoundTrips
        (.single { address := some 5, token := none } [8, 5]) zeroedEnrollment ↔
      ({ zeroedEnrollment with ullAddress := 5 }.Sent
          (.single { address := some 5, token := none } [8, 5]) →
        { zeroedEnrollment with ullAddress := 5 }.LeftOver zeroedEnrollment)) ∧
    (announcedNeighbor.RoundTrips (.single announcedNeighbor.wire [10]) zeroedNeighbor ↔
      (announcedNeighbor.Sent (.single announcedNeighbor.wire [10]) →
        announcedNeighbor.LeftOver zeroedNeighbor)) :=
  enrollment_messages_roundTrip_iff (Codec.single_faithful _ _) (Codec.single_faithful _ _)
    announcedNeighbor_fits { zeroedEnrollment with ullAddress := 5 } zeroedEnrollment
    zeroedNeighbor

/-- The address of the announced neighbor is not sent: zero comes back for 5. -/
theorem announced_address_lost :
    announcedNeighbor.Fits ∧ (Codec.single announcedNeighbor.wire [10]).Faithful ∧
      ¬ announcedNeighbor.RoundTrips (.single announcedNeighbor.wire [10]) zeroedNeighbor := by
  refine ⟨announcedNeighbor_fits, Codec.single_faithful _ _, ?_⟩
  rw [neighbor_roundTrips_iff (Codec.single_faithful _ _) announcedNeighbor_fits]
  intro leftOver
  have sent : announcedNeighbor.Sent (.single announcedNeighbor.wire [10]) := ⟨[10], by decide⟩
  exact absurd (leftOver sent).address (by decide)

end RinaSense
