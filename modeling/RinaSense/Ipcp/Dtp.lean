import RinaSense.Ipcp.Pci

/-!
# Data transfer protocol

The state vector of a DTP instance and what `dtp.c` computes on it: numbering
and header filling on the way down, the sequence check on the way up. The
buffers these functions move are the subject of later modules; here a received
PDU is its header, and the verdict says whether the PDU is posted or destroyed.
-/

namespace RinaSense

/-- `struct connection_t`. -/
structure Connection where
  xPortId : PortId
  xSourceAddress : Address
  xDestinationAddress : Address
  xSourceCepId : CepId
  xDestinationCepId : CepId
  xQosId : QosId
  deriving Repr, DecidableEq

structure DtpStats where
  dropPdus : UInt32
  errPdus : UInt32
  txPdus : UInt32
  txBytes : UInt32
  rxPdus : UInt32
  rxBytes : UInt32
  deriving Repr, DecidableEq

/-- `dtpSv_t`, the data transfer state vector. -/
structure DtpSv where
  xMaxFlowPduSize : UInt32
  xMaxFlowSduSize : UInt32
  xRcvLeftWindowEdge : SeqNum
  xWindowClosed : Bool
  xDrfFlag : Bool
  xSeqNumberRolloverThreshold : UInt32
  stats : DtpStats
  xMaxSeqNumberRcvd : SeqNum
  xNextSeqNumberToSend : SeqNum
  xMaxSeqNumberToSend : SeqNum
  xWindowBased : Bool
  xRexmsnCtrl : Bool
  xRateBased : Bool
  xDrfRequired : Bool
  xRateFulfiled : Bool
  deriving Repr, DecidableEq

def pxDtpStateVectorInit : DtpSv where
  xNextSeqNumberToSend := 0
  xMaxSeqNumberToSend := 0
  xSeqNumberRolloverThreshold := 0
  xMaxSeqNumberRcvd := 0
  stats := ⟨0, 0, 0, 0, 0, 0⟩
  xRexmsnCtrl := false
  xRateBased := false
  xWindowBased := false
  xDrfRequired := true
  xRateFulfiled := false
  xMaxFlowPduSize := 0xFFFFFFFF
  xMaxFlowSduSize := 0xFFFFFFFF
  xRcvLeftWindowEdge := 0
  xWindowClosed := false
  xDrfFlag := true

/-- What `xDtpReceive` does with the data unit before it returns. -/
inductive DuVerdict where
  | post
  | destroy
  deriving Repr, DecidableEq

namespace DtpSv

/-- `xDtpReceive`: the new state vector, the fate of the data unit and the
returned value. The result of `xDtpPduPost` is ignored by the source. The edge
moves only on the next consecutive number, so it stays behind after a gap. -/
def receive (sv : DtpSv) (pci : Pci) : DtpSv × DuVerdict × Bool :=
  if sv.xDrfRequired then
    if pci.hasDataRun then
      ({ sv with xDrfRequired := false, xRcvLeftWindowEdge := pci.xSequenceNumber },
        .post, true)
    else (sv, .destroy, true)
  else if pci.xSequenceNumber ≤ sv.xRcvLeftWindowEdge then (sv, .destroy, false)
  else if pci.xSequenceNumber = sv.xRcvLeftWindowEdge + 1 then
    ({ sv with xRcvLeftWindowEdge := pci.xSequenceNumber }, .post, true)
  else (sv, .post, true)

/-- The numbering step of `xDtpWrite` and the header it fills for a buffer of
`xDataLength` bytes, header included. The flag `xDrfFlag` is never cleared, so
every PDU of a connection carries the data run flag. -/
def write (sv : DtpSv) (connection : Connection) (xDataLength : Nat) : DtpSv × Pci :=
  let xCsn := sv.xNextSeqNumberToSend + 1
  let xFlags : PduFlags := if sv.xDrfFlag then 0 ||| pduFlagsDataRun else 0
  ({ sv with xNextSeqNumberToSend := xCsn },
    { ucVersion := 0x01
      connectionId :=
        { xSource := connection.xSourceCepId
          xDestination := connection.xDestinationCepId
          xQosId := connection.xQosId }
      xDestination := connection.xDestinationAddress
      xSource := connection.xSourceAddress
      xFlags
      xType := pduTypeDt
      xPduLen := UInt16.ofNat xDataLength
      xSequenceNumber := xCsn })

/-! ## What one step does -/

/-- The state after the first data run PDU. -/
def started (sv : DtpSv) (pci : Pci) : DtpSv :=
  { sv with xDrfRequired := false, xRcvLeftWindowEdge := pci.xSequenceNumber }

/-- The state after a PDU above the edge. -/
def advanced (sv : DtpSv) (pci : Pci) : DtpSv :=
  { sv with xRcvLeftWindowEdge :=
      if pci.xSequenceNumber = sv.xRcvLeftWindowEdge + 1 then pci.xSequenceNumber
      else sv.xRcvLeftWindowEdge }

/-- Before the first data run the state vector waits for the flag. -/
theorem receive_of_required {sv : DtpSv} (required : sv.xDrfRequired) (pci : Pci) :
    sv.receive pci =
      if pci.hasDataRun then (sv.started pci, .post, true) else (sv, .destroy, true) := by
  simp only [receive, required, if_true, started]

/-- After it, PDUs at or below the edge are destroyed. -/
theorem receive_of_le {sv : DtpSv} (running : sv.xDrfRequired = false) {pci : Pci}
    (covered : pci.xSequenceNumber ≤ sv.xRcvLeftWindowEdge) :
    sv.receive pci = (sv, .destroy, false) := by
  simp [receive, running, covered]

/-- All others are posted and move the edge by at most one. -/
theorem receive_of_lt {sv : DtpSv} (running : sv.xDrfRequired = false) {pci : Pci}
    (above : sv.xRcvLeftWindowEdge < pci.xSequenceNumber) :
    sv.receive pci = (sv.advanced pci, .post, true) := by
  simp only [receive, advanced, running, Bool.false_eq_true, if_false,
    UInt32.not_le.mpr above]
  by_cases next : pci.xSequenceNumber = sv.xRcvLeftWindowEdge + 1
  · simp only [next, if_true]
  · simp only [next, if_false, ← running]

/-- A PDU dropped because the first data run is still awaited. -/
def Drops (sv : DtpSv) (pci : Pci) : Prop := sv.xDrfRequired = true ∧ pci.hasDataRun = false

/-- A PDU that is posted: the first data run, or one above the edge. -/
def Posts (sv : DtpSv) (pci : Pci) : Prop :=
  if sv.xDrfRequired then pci.hasDataRun = true else sv.xRcvLeftWindowEdge < pci.xSequenceNumber

/-- A dropped PDU is reported as received, a duplicate is not. -/
theorem receive_verdict (sv : DtpSv) (pci : Pci) :
    (sv.Drops pci ∧ ¬ sv.Posts pci ∧ (sv.receive pci).2 = (.destroy, true)) ∨
    (¬ sv.Drops pci ∧ sv.Posts pci ∧ (sv.receive pci).2 = (.post, true)) ∨
    (¬ sv.Drops pci ∧ ¬ sv.Posts pci ∧ (sv.receive pci).2 = (.destroy, false)) := by
  cases required : sv.xDrfRequired with
  | true =>
      rw [receive_of_required required]
      cases flag : pci.hasDataRun <;> simp [Drops, Posts, required, flag]
  | false =>
      by_cases above : sv.xRcvLeftWindowEdge < pci.xSequenceNumber
      · rw [receive_of_lt required above]
        simp [Drops, Posts, required, above]
      · rw [receive_of_le required (UInt32.not_lt.mp above)]
        simp [Drops, Posts, required, above]

/-- Receiving never touches the sending half of the state vector. -/
theorem receive_next (sv : DtpSv) (pci : Pci) :
    (sv.receive pci).1.xNextSeqNumberToSend = sv.xNextSeqNumberToSend ∧
      (sv.receive pci).1.xDrfFlag = sv.xDrfFlag := by
  simp only [receive]
  split
  · split <;> exact ⟨rfl, rfl⟩
  · split
    · exact ⟨rfl, rfl⟩
    · split <;> exact ⟨rfl, rfl⟩

@[simp] theorem write_next (sv : DtpSv) (connection : Connection) (xDataLength : Nat) :
    (sv.write connection xDataLength).1.xNextSeqNumberToSend =
      sv.xNextSeqNumberToSend + 1 := rfl

@[simp] theorem write_drfFlag (sv : DtpSv) (connection : Connection) (xDataLength : Nat) :
    (sv.write connection xDataLength).1.xDrfFlag = sv.xDrfFlag := rfl

@[simp] theorem write_sequenceNumber (sv : DtpSv) (connection : Connection)
    (xDataLength : Nat) :
    (sv.write connection xDataLength).2.xSequenceNumber =
      sv.xNextSeqNumberToSend + 1 := rfl

/-- The header `xDtpWrite` fills always passes its own `xPciIsOk` check. -/
@[simp] theorem write_isOk (sv : DtpSv) (connection : Connection) (xDataLength : Nat) :
    (sv.write connection xDataLength).2.isOk = true := rfl

theorem write_hasDataRun {sv : DtpSv} (flag : sv.xDrfFlag) (connection : Connection)
    (xDataLength : Nat) : (sv.write connection xDataLength).2.hasDataRun = true := by
  simp [write, flag, Pci.hasDataRun, pduFlagsDataRun]

end DtpSv

end RinaSense
