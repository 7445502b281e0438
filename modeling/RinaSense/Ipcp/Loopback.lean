import RinaSense.Ipcp.ReceiveConfinement
import RinaSense.Ipcp.ReceiveConservation

/-!
# Loopback

A PDU for this node itself is meant to be handed to the instance its destination CEP id
leads to, as if it had been received. The path never gets there.
-/

namespace RinaSense

open Command

/-- The PDU of a write, as it should reach the instance `target`: drawn and filled as for any
other node, with the SDU behind its header. -/
structure HandedBack (node : Node) (pxEfcp target : EfcpId) (dtp : Dtp) (connection : Connection)
    (pxDu : DuId) (sdu : List UInt8) (between : Node) : Prop where
  bound : node.core.resolve connection.xDestinationCepId = some target
  numbered : (between.core.efcps.get? pxEfcp).bind Efcp.pxDtp =
    some { dtp with
      pxDtpStateVector := (dtp.pxDtpStateVector.write connection (sdu.length + 14)).1 }
  header : (readPci pxDu).run between =
    .ok (dtp.pxDtpStateVector.write connection (sdu.length + 14)).2 between
  payload : (readSdu pxDu).run between = .ok sdu between

/-- The write returns what the instance returns that its PDU is handed to in the container,
and leaves the data unit released and its buffer released or waiting. -/
structure LoopsBack (node : Node) (outcomes : Outcomes) (pxEfcp : EfcpId) (efcp : Efcp)
    (connection : Connection) (pxDu : DuId) (sdu : List UInt8) : Prop where
  container : efcp.pxEfcpContainer = true
  handed : ∃ dtp target between accepted after, efcp.pxDtp = some dtp ∧
    HandedBack node pxEfcp target dtp connection pxDu sdu between ∧
    (xEfcpReceive target pxDu).run between = .ok accepted after ∧
    (xDtpWrite outcomes pxEfcp pxDu).run node = .ok accepted after
  settled : ∀ accepted after, (xDtpWrite outcomes pxEfcp pxDu).run node = .ok accepted after →
    after.dus.get? pxDu = none ∧
      after.buffers.size + node.waiting + 1 = node.buffers.size + after.waiting

/-! ## The number an instance sends next -/

/-- The number the last PDU of an instance was sent with. -/
def Efcp.lastSent (efcp : Efcp) : Option SeqNum :=
  efcp.pxDtp.map fun dtp => dtp.pxDtpStateVector.xNextSeqNumberToSend

/-- A reception may change all but the numbers to be sent. -/
def receivingScope (start : Node) : Scope (Option SeqNum) where
  view := Efcp.lastSent
  n1Port := fun _ => True
  sent := fun _ => True
  port := fun _ => True
  rows := fun rows => rows = start.core.xFlowRequestTable

/-- What an instance receives draws no number. -/
theorem efcpReceive_lastSent (between : Node) (target : EfcpId) (pxDu : DuId) (pxEfcp : EfcpId) :
    ((final ((xEfcpReceive target pxDu).run between)).core.efcps.get? pxEfcp).map Efcp.lastSent =
      (between.core.efcps.get? pxEfcp).map Efcp.lastSent := by
  let start := between.bare
  have underway : Underway start (receivingScope start) between := underway_bare trivial rfl trivial
  have blind : (receivingScope start).BlindToReception := by
    intro efcp dtp pci data
    change some _ = efcp.pxDtp.map _
    rw [data, Option.map_some]
    exact congrArg some (dtp.pxDtpStateVector.receive_next pci).1
  have admits : (receivingScope start).AdmitsInstance start target := by
    intro _ _ _ _ _ _ _ _
    exact trivial
  have received : Confined start (receivingScope start) (xEfcpReceive target pxDu) fun _ => True :=
    confined_efcpReceive (fun _ rows => rows) blind (Nat.zero_le _) admits
  exact (received.final underway).core.efcps pxEfcp

/-! ## The path -/

section Path

variable {node : Node} {pxDu : DuId} {du : Du} {buffer : BufferId}
  {descriptor : NetworkBufferDescriptor} {pxEfcp : EfcpId} {efcp : Efcp} {connection : Connection}

/-- A PDU that is complete cannot be decapsulated, since it never was received. -/
theorem run_dtpWrite_looped (owns : Owns node pxDu du buffer descriptor)
    (found : node.core.efcps.get? pxEfcp = some efcp) (connected : efcp.pxConnection = some connection)
    (here : connection.xSourceAddress = connection.xDestinationAddress)
    (container : efcp.pxEfcpContainer = true) {sdu : List UInt8}
    (held : payloadOf descriptor = some sdu) {dtp : Dtp} (data : efcp.pxDtp = some dtp)
    (room : descriptor.xDataLength.toNat + 14 ≤ maxRequest) {outcomes : Outcomes}
    (obtained : outcomes.encapBuffer = true) :
    ∃ fault after, (xDtpWrite outcomes pxEfcp pxDu).run node = .error fault after := by
  have stored : (node.written pxEfcp efcp dtp connection pxDu buffer descriptor sdu).core.efcps.get?
      pxEfcp = some (efcp.withStateVector dtp (dtp.pxDtpStateVector.write connection
        (descriptor.xDataLength + 14).toNat).1) := get?_setEfcp found _
  have ready := owns_encapsulate (owns.withCore (node.core.setEfcp pxEfcp
    (efcp.withStateVector dtp (dtp.pxDtpStateVector.write connection
      (descriptor.xDataLength + 14).toNat).1))) (descriptor.xDataLength + 14)
    (dtp.pxDtpStateVector.write connection (descriptor.xDataLength + 14).toNat).2.toBytes sdu
  obtain ⟨fault, -, run⟩ := run_dtpPduSend_looped ready rfl
    (headerOf_written node descriptor dtp connection sdu) here stored rfl container outcomes
  rw [run_dtpWrite owns found data connected held room obtained]
  exact ⟨fault, _, run⟩

/-- No write to the node itself loops its SDU back: with a buffer for the PDU it faults, and
without one nothing is handed on. -/
theorem loopback_never (owns : Owns node pxDu du buffer descriptor)
    (found : node.core.efcps.get? pxEfcp = some efcp) (connected : efcp.pxConnection = some connection)
    (here : connection.xSourceAddress = connection.xDestinationAddress) {sdu : List UInt8}
    (held : payloadOf descriptor = some sdu) (outcomes : Outcomes) :
    ¬ LoopsBack node outcomes pxEfcp efcp connection pxDu sdu := by
  intro loops
  obtain ⟨dtp, target, between, accepted, after, data, handed, received, returned⟩ := loops.handed
  cases obtained : outcomes.encapBuffer with
  | true =>
      rcases fits_or_unfit descriptor with fits | unfit
      · obtain ⟨fault, other, run⟩ := run_dtpWrite_looped owns found connected here loops.container
          held data fits.room obtained
        cases returned.symm.trans run
      · obtain ⟨fault, -, run⟩ := run_duEncap_unfit owns unfit
        simp only [xDtpWrite, EStateM.run_bind, run_readEfcp found, data, obtained,
          run_follow_some, run] at returned
        cases returned
  | false =>
      have given : (xDtpWrite outcomes pxEfcp pxDu).run node =
          .ok false (node.discard pxDu buffer) := by
        simp only [xDtpWrite, EStateM.run_bind, run_readEfcp found, data, obtained,
          run_follow_some, run_duEncap_unobtained owns, Bool.not_false, if_true,
          run_duDestroy owns]
        rfl
      -- A number was drawn for what was handed on, and none in this run.
      have same := efcpReceive_lastSent between target pxDu pxEfcp
      cases returned.symm.trans given
      rw [received, final_ok] at same
      obtain ⟨value, present, numbered⟩ := Option.bind_eq_some_iff.mp handed.numbered
      have unchanged : (node.discard pxDu buffer).core.efcps.get? pxEfcp = some efcp := found
      rw [unchanged, present] at same
      have drawn := Option.some.inj same
      rw [Efcp.lastSent, Efcp.lastSent, data, numbered] at drawn
      have next : dtp.pxDtpStateVector.xNextSeqNumberToSend =
        dtp.pxDtpStateVector.xNextSeqNumberToSend + 1 := Option.some.inj drawn
      exact absurd next (by simp)

end Path

/-! ## A flow of a node to itself -/

/-- The connection of CEP id 1 with itself. -/
def selfConnection : Connection := ⟨7, localAddress, localAddress, 1, 1, 1⟩

def selfEfcp : Efcp where
  pxConnection := some selfConnection
  pxUserIpcp := true
  pxDtp := some ⟨false, pxDtpStateVectorInit, true⟩
  pxEfcpContainer := true
  xState := .allocated

/-- A node with that connection that has one byte to write. -/
def Node.talksToSelf : Node :=
  Node.arrive
    { Node.linked with
      core := { Node.linked.core with
        efcps := (Store.empty.allocate selfEfcp).1
        xEfcpImapTable := [{ xCepIdKey := 1, xEfcpValue := some 0, ucValid := 1 }] } }
    (outgoingDescriptor ⟨[7], by decide⟩)

/-- Without a buffer for the PDU the byte is dropped. -/
theorem loopback_dropped :
    ¬ LoopsBack .talksToSelf ⟨true, false, true, true, true⟩ 0 selfEfcp selfConnection 0 [7] :=
  loopback_never (owns_arrive _ _) rfl rfl rfl (payloadOf_outgoing ⟨[7], by decide⟩) _

/-- With all buffers it ends in a fault. -/
theorem loopback_faults :
    ¬ LoopsBack .talksToSelf ⟨true, true, true, true, true⟩ 0 selfEfcp selfConnection 0 [7] := by
  intro loops
  obtain ⟨dtp, target, between, accepted, after, data, -, -, returned⟩ := loops.handed
  have room : (outgoingDescriptor ⟨[7], by decide⟩).xDataLength.toNat + 14 ≤ maxRequest := by decide
  have found : Node.talksToSelf.core.efcps.get? 0 = some selfEfcp := rfl
  have faults : ∃ fault other, (xDtpWrite ⟨true, true, true, true, true⟩ 0 0).run .talksToSelf =
      .error fault other :=
    run_dtpWrite_looped (owns_arrive _ _) found rfl rfl rfl (payloadOf_outgoing ⟨[7], by decide⟩)
      data room rfl
  obtain ⟨fault, other, run⟩ := faults
  cases returned.symm.trans run

end RinaSense
