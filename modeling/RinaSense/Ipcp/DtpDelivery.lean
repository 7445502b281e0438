import RinaSense.Ipcp.Dtp
import RinaSense.Library.LeftEdge

/-!
# Delivery order of the data transfer protocol

Runs of `xDtpReceive` over a list of arriving PDUs, and of `xDtpWrite` over a
list of calls, starting from the state `pxDtpStateVectorInit` sets. The left
window edge advances only over consecutive numbers, so the posted numbers are
those a left-edge receiver takes.
-/

namespace RinaSense

open History

/-- A PDU on the wire: header and user data. -/
structure Pdu where
  pci : Pci
  sdu : List UInt8
  deriving Repr, DecidableEq

def numbers (pdus : List Pdu) : List Nat :=
  pdus.map fun pdu => pdu.pci.xSequenceNumber.toNat

@[simp] theorem numbers_nil : numbers [] = [] := rfl

@[simp] theorem numbers_cons (pdu : Pdu) (pdus : List Pdu) :
    numbers (pdu :: pdus) = pdu.pci.xSequenceNumber.toNat :: numbers pdus := rfl

namespace DtpSv

/-- The PDUs a run of `xDtpReceive` passes on to `xDtpPduPost`. -/
def posted (sv : DtpSv) : List Pdu → List Pdu
  | [] => []
  | pdu :: pdus =>
      match sv.receive pdu.pci with
      | (next, .post, _) => pdu :: posted next pdus
      | (next, .destroy, _) => posted next pdus

theorem posted_sublist (sv : DtpSv) (pdus : List Pdu) : (sv.posted pdus).Sublist pdus := by
  induction pdus generalizing sv with
  | nil => exact List.Sublist.refl _
  | cons pdu pdus ih =>
      rw [posted]
      split
      · exact (ih _).cons_cons pdu
      · exact (ih _).cons pdu

theorem toNat_advance {edge number : SeqNum} (above : edge < number) :
    (if number = edge + 1 then number else edge).toNat =
      LeftEdge.advance edge.toNat number.toNat := by
  have limit := number.toNat_lt
  have successor : (edge + 1).toNat = edge.toNat + 1 := by
    rw [UInt32.lt_iff_toNat_lt] at above
    simp only [UInt32.toNat_add, UInt32.toNat_one]
    omega
  simp only [LeftEdge.advance, ← successor, UInt32.toNat_inj]
  split <;> rfl

/-- After the first data run an instance is a left-edge receiver. -/
theorem numbers_posted_of_running (sv : DtpSv) (running : sv.xDrfRequired = false)
    (pdus : List Pdu) :
    numbers (sv.posted pdus) =
      LeftEdge.taken sv.xRcvLeftWindowEdge.toNat (numbers pdus) := by
  induction pdus generalizing sv with
  | nil => rfl
  | cons pdu pdus ih =>
      rw [posted, numbers_cons, LeftEdge.taken]
      by_cases covered : pdu.pci.xSequenceNumber ≤ sv.xRcvLeftWindowEdge
      · rw [receive_of_le running covered, if_pos (UInt32.le_iff_toNat_le.mp covered)]
        exact ih sv running
      · have above := UInt32.not_le.mp covered
        rw [receive_of_lt running above,
          if_neg (fun below => covered (UInt32.le_iff_toNat_le.mpr below))]
        rw [← toNat_advance above]
        exact congrArg _ (ih (sv.advanced pdu.pci) running)

/-- Until then nothing is posted; the first data run PDU always is. -/
theorem posted_of_required {sv : DtpSv} (required : sv.xDrfRequired) (pdus : List Pdu) :
    sv.posted pdus =
      match pdus.dropWhile fun pdu => !pdu.pci.hasDataRun with
      | [] => []
      | first :: later => first :: (sv.started first.pci).posted later := by
  induction pdus with
  | nil => rfl
  | cons pdu pdus ih =>
      rw [posted, receive_of_required required, List.dropWhile_cons]
      cases flag : pdu.pci.hasDataRun with
      | true => rfl
      | false => exact ih

end DtpSv

/-! ## Duplicates and late arrivals -/

/-- Arrivals that leave the delivery order intact. After the first data run PDU,
each PDU is newer than everything received since, or its number lies in the part
received in order: below the first number, or reached from it by consecutive
arrivals. -/
def OrderIntact (pdus : List Pdu) : Prop :=
  match numbers (pdus.dropWhile fun pdu => !pdu.pci.hasDataRun) with
  | [] => True
  | first :: later =>
      EachAfter (fun before number =>
        (∀ earlier ∈ first :: before, earlier < number) ∨
          LeftEdge.Covered first (first :: before) number) later

/-- The posted sequence numbers are strictly increasing exactly for the arrivals
that leave the order intact. -/
theorem numbers_posted_increasing_iff (pdus : List Pdu) :
    (numbers (pxDtpStateVectorInit.posted pdus)).Pairwise (· < ·) ↔ OrderIntact pdus := by
  rw [DtpSv.posted_of_required rfl, OrderIntact]
  cases pdus.dropWhile fun pdu => !pdu.pci.hasDataRun with
  | nil => simp
  | cons first later =>
      have running := DtpSv.numbers_posted_of_running
        (pxDtpStateVectorInit.started first.pci) rfl later
      simp only [numbers_cons]
      rw [running]
      exact LeftEdge.taken_increasing_iff first.pci.xSequenceNumber.toNat (numbers later)

/-- A data transfer PDU with the given number and data run flag. -/
def dataPdu (xSequenceNumber : SeqNum) (dataRun : Bool) : Pdu where
  pci :=
    { ucVersion := 1
      xDestination := 1
      xSource := 3
      connectionId := ⟨1, 1, 1⟩
      xType := pduTypeDt
      xFlags := if dataRun then pduFlagsDataRun else 0
      xPduLen := 14
      xSequenceNumber }
  sdu := []

/-- A lost PDU followed by a duplicate: PDU 2 never arrives, so the edge stays at
1 and both copies of PDU 3 are posted. -/
theorem posted_duplicate_after_gap :
    ¬ (numbers (pxDtpStateVectorInit.posted
      [dataPdu 1 true, dataPdu 3 true, dataPdu 3 true])).Pairwise (· < ·) := by
  decide

/-! ## Writing over a lossless channel -/

/-- One call of `xDtpWrite`: the user data, whether `xDuEncap` obtained a buffer
and whether `xDtpPduSend` accepted the PDU. -/
structure WriteCall where
  sdu : List UInt8
  encapsulated : Bool
  sent : Bool
  deriving Repr, DecidableEq

/-- The value `xDtpWrite` returns. -/
def WriteCall.succeeds (call : WriteCall) : Bool := call.encapsulated && call.sent

namespace DtpSv

/-- One call of `xDtpWrite` and the PDU it leaves on the channel. The number is
drawn after encapsulation, also when the PDU is then not sent. -/
def writeCall (sv : DtpSv) (connection : Connection) (call : WriteCall) :
    DtpSv × Option Pdu :=
  if call.encapsulated then
    let (next, pci) := sv.write connection (call.sdu.length + 14)
    (next, if call.sent then some ⟨pci, call.sdu⟩ else none)
  else (sv, none)

/-- The PDUs a run of `xDtpWrite` calls leaves on the channel. -/
def written (sv : DtpSv) (connection : Connection) : List WriteCall → List Pdu
  | [] => []
  | call :: calls =>
      let (next, pdu) := sv.writeCall connection call
      pdu.toList ++ written next connection calls

end DtpSv

/-- The sequence numbers of the successful calls, when `drawn` numbers have been
drawn before. -/
def sentNumbers (drawn : Nat) : List WriteCall → List Nat
  | [] => []
  | call :: calls =>
      if call.encapsulated then
        if call.sent then (drawn + 1) % 2 ^ 32 :: sentNumbers (drawn + 1) calls
        else sentNumbers (drawn + 1) calls
      else sentNumbers drawn calls

namespace DtpSv

variable (connection : Connection)

theorem numbers_written (sv : DtpSv) (drawn : Nat)
    (next : sv.xNextSeqNumberToSend.toNat = drawn % 2 ^ 32) (calls : List WriteCall) :
    numbers (sv.written connection calls) = sentNumbers drawn calls := by
  induction calls generalizing sv drawn with
  | nil => rfl
  | cons call calls ih =>
      have following : (sv.write connection (call.sdu.length + 14)).1.xNextSeqNumberToSend.toNat =
          (drawn + 1) % 2 ^ 32 := by
        simp only [write_next, UInt32.toNat_add, UInt32.toNat_one, next]
        omega
      rw [written, writeCall, sentNumbers]
      cases call.encapsulated with
      | false => exact ih sv drawn next
      | true =>
          cases call.sent with
          | false => exact ih _ _ following
          | true => exact congrArg₂ List.cons following (ih _ _ following)

theorem sdus_written (sv : DtpSv) (calls : List WriteCall) :
    (sv.written connection calls).map Pdu.sdu =
      (calls.filter WriteCall.succeeds).map WriteCall.sdu := by
  induction calls generalizing sv with
  | nil => rfl
  | cons call calls ih =>
      rw [written, writeCall, List.filter_cons, WriteCall.succeeds]
      cases call.encapsulated with
      | false => exact ih sv
      | true =>
          cases call.sent with
          | false => exact ih _
          | true => exact congrArg _ (ih _)

theorem hasDataRun_written (sv : DtpSv) (flag : sv.xDrfFlag) (calls : List WriteCall) :
    ∀ pdu ∈ sv.written connection calls, pdu.pci.hasDataRun = true := by
  induction calls generalizing sv with
  | nil => simp [written]
  | cons call calls ih =>
      rw [written, writeCall]
      cases call.encapsulated with
      | false => exact ih sv flag
      | true =>
          cases call.sent with
          | false => exact ih (sv.write connection (call.sdu.length + 14)).1 flag
          | true =>
              intro pdu member
              rcases List.mem_cons.mp member with rfl | member
              · exact write_hasDataRun flag connection _
              · exact ih (sv.write connection (call.sdu.length + 14)).1 flag pdu member

/-- Every PDU carrying the data run flag, all are posted exactly when no number
is covered by the earlier ones. -/
theorem posted_eq_self_iff {pdus : List Pdu}
    (flagged : ∀ pdu ∈ pdus, pdu.pci.hasDataRun = true) :
    pxDtpStateVectorInit.posted pdus = pdus ↔ LeftEdge.NeverCovered (numbers pdus) := by
  rw [posted_of_required rfl]
  cases pdus with
  | nil => simp [LeftEdge.NeverCovered]
  | cons first later =>
      have flag := flagged first List.mem_cons_self
      rw [List.dropWhile_cons_of_neg (by simp [flag]), numbers_cons, ← LeftEdge.taken_all_iff]
      have running := numbers_posted_of_running
        (pxDtpStateVectorInit.started first.pci) rfl later
      rw [List.cons.injEq, and_iff_right rfl]
      constructor
      · intro all
        rw [all] at running
        exact running.symm
      · intro all
        refine (posted_sublist _ later).eq_of_length ?_
        have lengths := congrArg List.length (running.trans all)
        simpa only [numbers, List.length_map] using lengths

end DtpSv

/-! ## Where the numbers wrap -/

/-- Before the wrap the sent numbers increase, whatever calls fail. -/
theorem sentNumbers_increasing (drawn : Nat) {calls : List WriteCall}
    (room : drawn + calls.countP WriteCall.encapsulated < 2 ^ 32) :
    (∀ number ∈ sentNumbers drawn calls, drawn < number) ∧
      (sentNumbers drawn calls).Pairwise (· < ·) := by
  induction calls generalizing drawn with
  | nil => simp [sentNumbers]
  | cons call calls ih =>
      rw [List.countP_cons] at room
      rw [sentNumbers]
      cases encapsulated : call.encapsulated with
      | false => exact ih drawn (by omega)
      | true =>
          simp only [encapsulated, if_true] at room ⊢
          have ⟨above, increasing⟩ := ih (drawn + 1) (by omega)
          have higher : ∀ number ∈ sentNumbers (drawn + 1) calls, drawn < number :=
            fun number member => (Nat.lt_succ_self drawn).trans (above number member)
          cases call.sent with
          | false => exact ⟨higher, increasing⟩
          | true =>
              have small : (drawn + 1) % 2 ^ 32 = drawn + 1 := Nat.mod_eq_of_lt (by omega)
              simp only [if_true, small, List.mem_cons, forall_eq_or_imp, List.pairwise_cons]
              exact ⟨⟨Nat.lt_succ_self drawn, higher⟩, above, increasing⟩

/-- When every call succeeds the numbers are drawn one after the other. -/
theorem sentNumbers_of_succeeds {calls : List WriteCall}
    (succeed : ∀ call ∈ calls, call.succeeds) (drawn : Nat) :
    sentNumbers drawn calls =
      (List.range' (drawn + 1) calls.length).map (· % 2 ^ 32) := by
  induction calls generalizing drawn with
  | nil => rfl
  | cons call calls ih =>
      have head := succeed call List.mem_cons_self
      simp only [WriteCall.succeeds, Bool.and_eq_true] at head
      have tail := ih (fun other member => succeed other (List.mem_cons_of_mem _ member))
      simp only [sentNumbers, head.1, head.2, if_true, tail, List.length_cons,
        List.range'_succ, List.map_cons]

/-- The wrap is harmful as soon as it is reached: the number 0 drawn by call
`2 ^ 32` lies below the first one. -/
theorem neverCovered_of_succeeds {calls : List WriteCall}
    (succeed : ∀ call ∈ calls, call.succeeds) :
    LeftEdge.NeverCovered (sentNumbers 0 calls) ↔ calls.length < 2 ^ 32 := by
  constructor
  · intro never
    by_contra long
    rw [sentNumbers_of_succeeds succeed,
      show calls.length = (calls.length - 1) + 1 by omega, List.range'_succ,
      List.map_cons] at never
    have wrapped : 0 ∈ (List.range' (0 + 1 + 1) (calls.length - 1)).map (· % 2 ^ 32) :=
      List.mem_map.mpr ⟨2 ^ 32, by rw [List.mem_range'_1]; omega, by omega⟩
    have first := LeftEdge.le_of_neverCovered never wrapped
    omega
  · intro short
    have counted := calls.countP_le_length (p := WriteCall.encapsulated)
    exact LeftEdge.neverCovered_of_increasing (sentNumbers_increasing 0 (by omega)).2

/-- The peer receives the written SDUs unchanged exactly when no sequence number
is covered by the ones sent before it. -/
theorem posted_sdus_iff (connection : Connection) (calls : List WriteCall) :
    (pxDtpStateVectorInit.posted (pxDtpStateVectorInit.written connection calls)).map Pdu.sdu =
        (calls.filter WriteCall.succeeds).map WriteCall.sdu ↔
      LeftEdge.NeverCovered (sentNumbers 0 calls) := by
  have sent := DtpSv.numbers_written connection pxDtpStateVectorInit 0 rfl calls
  rw [← DtpSv.sdus_written connection pxDtpStateVectorInit calls, ← sent,
    ← DtpSv.posted_eq_self_iff (DtpSv.hasDataRun_written connection _ rfl calls)]
  constructor
  · intro equal
    refine (DtpSv.posted_sublist _ _).eq_of_length ?_
    simpa only [List.length_map] using congrArg List.length equal
  · exact congrArg (List.map Pdu.sdu)

/-- End-to-end delivery of a run of writes. With every call successful it holds
for fewer than `2 ^ 32` calls only; with failing calls in between it holds at
least while fewer than `2 ^ 32` numbers are drawn. -/
theorem writes_delivered_iff (connection : Connection) (calls : List WriteCall) :
    ((pxDtpStateVectorInit.posted
          (pxDtpStateVectorInit.written connection calls)).map Pdu.sdu =
        (calls.filter WriteCall.succeeds).map WriteCall.sdu ↔
      LeftEdge.NeverCovered (sentNumbers 0 calls)) ∧
    ((∀ call ∈ calls, call.succeeds) →
      (LeftEdge.NeverCovered (sentNumbers 0 calls) ↔ calls.length < 2 ^ 32)) ∧
    (calls.countP WriteCall.encapsulated < 2 ^ 32 →
      LeftEdge.NeverCovered (sentNumbers 0 calls)) :=
  ⟨posted_sdus_iff connection calls, neverCovered_of_succeeds, fun room =>
    LeftEdge.neverCovered_of_increasing (sentNumbers_increasing 0 (by omega)).2⟩

/-- A connection of the first flow between the nodes 1 and 3. -/
def firstConnection : Connection := ⟨1, 1, 3, 1, 1, 1⟩

/-- After `2 ^ 32` successful writes the last SDU is lost. -/
theorem writes_lost_at_wrap :
    (pxDtpStateVectorInit.posted (pxDtpStateVectorInit.written firstConnection
        (List.replicate (2 ^ 32) ⟨[], true, true⟩))).map Pdu.sdu ≠
      ((List.replicate (2 ^ 32) (⟨[], true, true⟩ : WriteCall)).filter
        WriteCall.succeeds).map WriteCall.sdu := by
  intro equal
  have succeed : ∀ call ∈ List.replicate (2 ^ 32) (⟨[], true, true⟩ : WriteCall),
      call.succeeds := fun call member => (List.eq_of_mem_replicate member) ▸ rfl
  have never := (posted_sdus_iff firstConnection _).mp equal
  have short := (neverCovered_of_succeeds succeed).mp never
  rw [List.length_replicate] at short
  exact Nat.lt_irrefl _ short

end RinaSense
