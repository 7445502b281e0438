import RinaSense.Library.Faults
import RinaSense.Rib.EnrollmentRoundTrip
import RinaSense.Rib.Frames

/-!
# Copies to the fields of a message

The strings of a neighbor message and of a CDAP message go to fields of a fixed size, and
so does an object value. No copy checks the size first, so a message is built within its
fields exactly when everything fits them.
-/

namespace RinaSense

open Command

/-! ## Purpose -/

/-- A copy went wrong: it wrote behind the end of its destination, or its bytes come from
memory not in use, however many they are. -/
def Fault.FromCopy (fault : Fault) : Prop := fault = .outOfBounds ∨ fault = .released

/-- Nothing is written behind the end of a field, and nothing is built of what does not
fit. -/
def BuildsWithin {α : Type} (fits : Prop) (build : Except Fault (Option α)) : Prop :=
  match build with
  | .ok built => ¬ fits → built = none
  | .error fault => ¬ fault.FromCopy

/-! ## Copies -/

section Copies

variable {size : Nat} {source : Pointer String}

theorem strcpy_fails (size : Nat) (text : String) :
    FailsOnly Fault.FromCopy (strcpy size (.target text)) :=
  failsOnly_ite (failsOnly_ok text) (failsOnly_error (Or.inl rfl))

theorem copyIfSet_fails : FailsOnly Fault.FromCopy (copyIfSet size source) := by
  cases source with
  | null => exact failsOnly_ok none
  | stray => exact failsOnly_error (Or.inr rfl)
  | target text => exact (strcpy_fails size text).map some

theorem fits_of_strcpy {copied : String} (copies : strcpy size source = .ok copied) :
    source.Fits size := by
  cases source with
  | null => cases copies
  | stray => cases copies
  | target text =>
      apply @fits_of_copyIfSet size (.target text) (some copied)
      rw [copyIfSet, copies]
      · rfl
      · rintro ⟨⟩

theorem copyName_fails (name : NameInfo (Pointer String)) :
    FailsOnly Fault.FromCopy (copyName name) :=
  copyIfSet_fails.bind fun _ => copyIfSet_fails.bind fun _ => copyIfSet_fails.bind fun _ =>
    copyIfSet_fails.bind fun _ => failsOnly_ok _

theorem fits_of_copyName {name : NameInfo (Pointer String)} {copied : NameInfo (Option String)}
    (copies : copyName name = .ok copied) : name.All (Pointer.Fits nameSize) := by
  simp only [copyName, bind_eq_ok] at copies
  obtain ⟨_, entityInstance, _, entityName, _, processInstance, _, processName, _⟩ := copies
  exact ⟨fits_of_copyIfSet processName, fits_of_copyIfSet processInstance,
    fits_of_copyIfSet entityName, fits_of_copyIfSet entityInstance⟩

theorem copyObjectValue_fails (value : Pointer (List UInt8)) :
    FailsOnly Fault.FromCopy (copyObjectValue value) := by
  cases value with
  | null => exact failsOnly_ok none
  | stray => exact failsOnly_error (Or.inr rfl)
  | target bytes => exact failsOnly_ite (failsOnly_ok _) (failsOnly_error (Or.inl rfl))

end Copies

/-! ## Neighbor messages -/

section Neighbor

variable {codec : Codec WireNeighbor} {message : NeighborMessage}

theorem encodeNeighbor_fails (codec : Codec WireNeighbor) (message : NeighborMessage) :
    FailsOnly Fault.FromCopy (pxSerdesMsgNeighborEncode codec message) := by
  have copies : FailsOnly Fault.FromCopy (prvSerdesMsgEncodeNeighbor message) :=
    copyIfSet_fails.bind fun _ => copyIfSet_fails.bind fun _ => copyIfSet_fails.bind fun _ =>
      copyIfSet_fails.bind fun _ => failsOnly_ok _
  exact copies.bind fun _ => failsOnly_ok _

theorem fits_of_encodeNeighbor {encoded : Option (List UInt8)}
    (encodes : pxSerdesMsgNeighborEncode codec message = .ok encoded) : message.Fits := by
  simp only [pxSerdesMsgNeighborEncode, prvSerdesMsgEncodeNeighbor, bind_eq_ok] at encodes
  obtain ⟨_, ⟨_, aeInstance, _, aeName, _, apInstance, _, apName, _⟩, _⟩ := encodes
  exact ⟨fits_of_copyIfSet apName, fits_of_copyIfSet apInstance, fits_of_copyIfSet aeName,
    fits_of_copyIfSet aeInstance⟩

end Neighbor

theorem neighbor_buildsWithin_iff (codec : Codec WireNeighbor) (message : NeighborMessage) :
    BuildsWithin message.Fits (pxSerdesMsgNeighborEncode codec message) ↔ message.Fits := by
  constructor
  · intro builds
    by_contra misfit
    obtain ⟨fault, failed, isCopy⟩ :=
      (encodeNeighbor_fails codec message).error_of_not_ok fun _ encodes =>
        misfit (fits_of_encodeNeighbor encodes)
    rw [failed] at builds
    exact builds isCopy
  · intro fits
    rw [pxSerdesMsgNeighborEncode_of_fits fits]
    exact fun misfit => absurd fits misfit

/-! ## CDAP messages -/

/-- The messages that are encoded: a connect or its answer, with names and a policy, and
all others, without them. -/
inductive BuiltMessage where
  | connecting (opCode : OpCode) (source destination : NameInfo String) (auth : AuthPolicy String)
  | other (opCode : OpCode) (pcObjClass pcObjName : Option String) (objInst result invokeID : Int)
      (pxObjValue : Option (List UInt8))

namespace BuiltMessage

/-- The name of a connect message. The entity instance is the initial one. -/
def connectName (name : NameInfo String) : NameInfo (Pointer String) :=
  { name.map Pointer.target with pcEntityInstance := initialName.pcEntityInstance }

def message : BuiltMessage → MessageCdap
  | connecting opCode source destination auth =>
      { prvRibMessageCdapInit with
        eOpCode := opCode.toCode
        pxDestinationInfo := connectName destination
        pxSourceInfo := connectName source
        pxAuthPolicy := { pcName := .target auth.pcName, pcVersion := .target auth.pcVersion } }
  | other opCode pcObjClass pcObjName objInst result invokeID pxObjValue =>
      { requestMessage pcObjClass pcObjName objInst opCode pxObjValue invokeID with result }

/-- They are what the functions that send fill. -/
theorem fillConnectMessage_eq (opCode : OpCode) (source destination : NameInfo String)
    (auth : AuthPolicy String) :
    fillConnectMessage opCode (source.map .target) (destination.map .target)
        { pcName := .target auth.pcName, pcVersion := .target auth.pcVersion } =
      .ok (connecting opCode source destination auth).message := rfl

theorem inside (built : BuiltMessage) : built.message.eOpCode ≤ maxCdapOpcode := by
  cases built with
  | connecting opCode => exact ofCode?_isSome.mp ⟨opCode, opCode.ofCode?_toCode⟩
  | other opCode => exact ofCode?_isSome.mp ⟨opCode, opCode.ofCode?_toCode⟩

theorem versioned (built : BuiltMessage) : built.message.Versioned := by
  cases built with
  | connecting opCode source destination auth => exact fun _ => nofun
  | other => exact fun named => absurd rfl named

end BuiltMessage

section Cdap

variable {built : BuiltMessage}

theorem copyAuthPolicy_fails (built : BuiltMessage) :
    FailsOnly Fault.FromCopy (copyAuthPolicy built.message.pxAuthPolicy) := by
  cases built with
  | connecting opCode source destination auth =>
      exact (strcpy_fails _ _).bind fun _ => (strcpy_fails _ _).bind fun _ => failsOnly_ok _
  | other => exact failsOnly_ok none

theorem fits_of_copyAuthPolicy {copied : Option WireAuthPolicy}
    (copies : copyAuthPolicy built.message.pxAuthPolicy = .ok copied) :
    built.message.pxAuthPolicy.pcName.Fits textSize ∧
      built.message.pxAuthPolicy.pcVersion.Fits textSize := by
  cases built with
  | connecting opCode source destination auth =>
      obtain ⟨_, name, rest⟩ := bind_eq_ok.mp copies
      obtain ⟨_, version, _⟩ := bind_eq_ok.mp rest
      exact ⟨fits_of_strcpy name, fits_of_strcpy version⟩
  | other => exact ⟨⟨nofun, nofun⟩, ⟨nofun, nofun⟩⟩

theorem fits_of_copyObjectValue {value : Pointer (List UInt8)}
    {copied : Option (Option (List UInt8))} (copies : copyObjectValue value = .ok copied) :
    value ≠ .stray ∧ ∀ bytes, value = .target bytes → bytes.length ≤ byteValueSize := by
  cases value with
  | null => exact ⟨by rintro ⟨⟩, by rintro _ ⟨⟩⟩
  | stray => cases copies
  | target bytes =>
      refine ⟨by rintro ⟨⟩, ?_⟩
      intro other same
      rw [← Pointer.target.inj same]
      by_contra long
      rw [copyObjectValue, Pointer.read_target, ok_bind, if_neg long] at copies
      · cases copies
      · rintro ⟨⟩

theorem fillCdapMessage_fails (built : BuiltMessage) :
    FailsOnly Fault.FromCopy (fillCdapMessage built.message) :=
  (copyName_fails _).bind fun _ => (copyName_fails _).bind fun _ =>
    (copyAuthPolicy_fails built).bind fun _ => copyIfSet_fails.bind fun _ =>
      copyIfSet_fails.bind fun _ => (copyObjectValue_fails _).bind fun _ => failsOnly_ok _

theorem fits_of_fillCdapMessage {filled : CdapMessage}
    (fills : fillCdapMessage built.message = .ok filled) : built.message.Fits := by
  simp only [fillCdapMessage, bind_eq_ok] at fills
  obtain ⟨_, destination, _, source, _, policy, _, objClass, _, objName, _, value, _⟩ := fills
  exact
    { destination := fits_of_copyName destination
      source := fits_of_copyName source
      authName := (fits_of_copyAuthPolicy policy).1
      authVersion := (fits_of_copyAuthPolicy policy).2
      objClass := fits_of_copyIfSet objClass
      objName := fits_of_copyIfSet objName
      objValue := (fits_of_copyObjectValue value).1
      objValueLength := (fits_of_copyObjectValue value).2 }

/-- A message that does not fit faults where it is copied. -/
theorem encodeCdap_of_misfit (codec : Codec CdapMessage) (obtained : Bool)
    (misfit : ¬ built.message.Fits) :
    ∃ fault, prvRibdEncodeCDAP codec obtained (some built.message) = .error fault ∧
      fault.FromCopy := by
  obtain ⟨name, named⟩ := opcodeName_of_le built.inside
  obtain ⟨fault, failed, isCopy⟩ := (fillCdapMessage_fails built).error_of_not_ok fun _ fills =>
    misfit (fits_of_fillCdapMessage fills)
  refine ⟨fault, ?_, isCopy⟩
  simp only [prvRibdEncodeCDAP, named, failed, ok_bind, error_bind]

theorem cdap_buildsWithin_iff (codec : Codec CdapMessage) (obtained : Bool)
    (built : BuiltMessage) :
    BuildsWithin built.message.Fits (prvRibdEncodeCDAP codec obtained (some built.message)) ↔
      built.message.Fits := by
  constructor
  · intro builds
    by_contra misfit
    obtain ⟨fault, failed, isCopy⟩ := encodeCdap_of_misfit codec obtained misfit
    rw [failed] at builds
    exact builds isCopy
  · intro fits
    rw [prvRibdEncodeCDAP_of_fits fits built.inside built.versioned]
    split
    · exact fun misfit => absurd fits misfit
    · split
      · exact fun misfit => absurd fits misfit
      · rintro (noCopy | noCopy)
        · cases noCopy
        · cases noCopy

end Cdap

end RinaSense
