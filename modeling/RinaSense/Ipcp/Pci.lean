import Mathlib.Tactic.Tauto
import RinaSense.Common.Ids
import RinaSense.Library.LittleEndian

/-!
# Protocol control information

The packed header `pci_t` of `pci.h`, the PDU type and flag constants, and the
two classification macros on PDU types.
-/

namespace RinaSense

abbrev PduType := UInt8
abbrev PduFlags := UInt8

def pduFlagsDataRun : PduFlags := 0x80

def pduTypeDt : PduType := 0x80
def pduTypeCack : PduType := 0xC0
def pduTypeAck : PduType := 0xC1
def pduTypeNack : PduType := 0xC2
def pduTypeFc : PduType := 0xC4
def pduTypeAckAndFc : PduType := 0xC5
def pduTypeSack : PduType := 0xC9
def pduTypeSackAndFc : PduType := 0xCD
def pduTypeSnackAndFc : PduType := 0xCE
def pduTypeRendezvous : PduType := 0xCF
def pduTypeMgmt : PduType := 0x40

/-- The PDU types `pdu_type_is_ok` accepts. The selective NACK types `0xC6` and
`0xCA` are declared by the header but not listed by the macro. -/
def pduTypeIsOk (xType : PduType) : Bool :=
  xType == pduTypeDt || xType == pduTypeCack || xType == pduTypeSack ||
    xType == pduTypeNack || xType == pduTypeFc || xType == pduTypeAck ||
    xType == pduTypeAckAndFc || xType == pduTypeSackAndFc ||
    xType == pduTypeSnackAndFc || xType == pduTypeRendezvous || xType == pduTypeMgmt

def pduTypeIsControl (xType : PduType) : Bool :=
  xType == pduTypeCack || xType == pduTypeSack || xType == pduTypeNack ||
    xType == pduTypeFc || xType == pduTypeAck || xType == pduTypeAckAndFc ||
    xType == pduTypeSackAndFc || xType == pduTypeRendezvous || xType == pduTypeSnackAndFc

/-- The connection part of the header. -/
structure ConnectionId where
  xQosId : QosId
  xDestination : CepId
  xSource : CepId
  deriving Repr, DecidableEq

/-- The header fields, in the order of their offsets. -/
structure Pci where
  ucVersion : UInt8
  xDestination : Address
  xSource : Address
  connectionId : ConnectionId
  xType : PduType
  xFlags : PduFlags
  xPduLen : UInt16
  xSequenceNumber : SeqNum
  deriving Repr, DecidableEq

namespace Pci

/-- `xPciIsOk` on a present header. -/
def isOk (pci : Pci) : Bool := pduTypeIsOk pci.xType

/-- Whether the data run flag is set. -/
def hasDataRun (pci : Pci) : Bool := pci.xFlags &&& pduFlagsDataRun != 0

end Pci

/-! ## The packed layout -/

/-- The size of the packed header. -/
def pciLength : Nat := 14

namespace Pci

/-- The bytes of the packed header. -/
def toBytes (pci : Pci) : List UInt8 :=
  [pci.ucVersion, pci.xDestination, pci.xSource, pci.connectionId.xQosId,
    pci.connectionId.xDestination, pci.connectionId.xSource, pci.xType, pci.xFlags] ++
    LittleEndian.toBytes 2 pci.xPduLen.toNat ++
    LittleEndian.toBytes 4 pci.xSequenceNumber.toNat

/-- The header found in the first bytes of a buffer. -/
def ofBytes : List UInt8 → Option Pci
  | ucVersion :: xDestination :: xSource :: xQosId :: xCepDestination :: xCepSource ::
      xType :: xFlags :: len0 :: len1 :: seq0 :: seq1 :: seq2 :: seq3 :: _ =>
      some
        { ucVersion
          xDestination
          xSource
          connectionId := ⟨xQosId, xCepDestination, xCepSource⟩
          xType
          xFlags
          xPduLen := UInt16.ofNat (LittleEndian.ofBytes [len0, len1])
          xSequenceNumber := UInt32.ofNat (LittleEndian.ofBytes [seq0, seq1, seq2, seq3]) }
  | _ => none

@[simp] theorem toBytes_length (pci : Pci) : pci.toBytes.length = pciLength := rfl

/-- A header is read back from the bytes it was packed into. -/
@[simp] theorem ofBytes_toBytes (pci : Pci) (rest : List UInt8) :
    ofBytes (pci.toBytes ++ rest) = some pci := by
  have pduLen : UInt16.ofNat (LittleEndian.ofBytes (LittleEndian.toBytes 2 pci.xPduLen.toNat)) =
      pci.xPduLen := by
    have small : pci.xPduLen.toNat < 256 ^ 2 := pci.xPduLen.toNat_lt
    rw [LittleEndian.ofBytes_toBytes, Nat.mod_eq_of_lt small, UInt16.ofNat_toNat]
  have number : UInt32.ofNat
      (LittleEndian.ofBytes (LittleEndian.toBytes 4 pci.xSequenceNumber.toNat)) =
      pci.xSequenceNumber := by
    have small : pci.xSequenceNumber.toNat < 256 ^ 4 := pci.xSequenceNumber.toNat_lt
    rw [LittleEndian.ofBytes_toBytes, Nat.mod_eq_of_lt small, UInt32.ofNat_toNat]
  change some _ = some _
  exact congrArg some (congrArg₂ (fun xPduLen xSequenceNumber : _ =>
    ({ pci with xPduLen, xSequenceNumber } : Pci)) pduLen number)

/-- The type is the seventh byte. -/
theorem ofBytes_xType {bytes : List UInt8} {pci : Pci} (parsed : ofBytes bytes = some pci) :
    bytes[6]? = some pci.xType := by
  simp only [ofBytes] at parsed
  split at parsed
  · rw [← Option.some.inj parsed]
    rfl
  · cases parsed

end Pci

end RinaSense
