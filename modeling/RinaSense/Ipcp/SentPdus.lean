import RinaSense.Ipcp.Confinement
import RinaSense.Ipcp.TransmitOwnership

/-!
# The PDUs of a write

A write through an EFCP instance gives the N-1 IPCP at most one PDU, with the CEP ids of
the connection of the instance, and leaves all connections as they are. Looping back a PDU
never gets as far as another instance.
-/

namespace RinaSense

open Command

/-- A data transfer PDU with the CEP ids of the connection. -/
def Connection.Carries (connection : Connection) (pdu : List UInt8) : Prop :=
  ∃ pci, Pci.ofBytes pdu = some pci ∧ pci.xType = pduTypeDt ∧
    pci.connectionId.xSource = connection.xSourceCepId ∧
    pci.connectionId.xDestination = connection.xDestinationCepId

/-- The state of an instance and its connection. -/
def Efcp.binding (efcp : Efcp) : EfcpState × Option Connection :=
  (efcp.xState, efcp.pxConnection)

/-- A write changes no connection, no receive queue and no row, and has sent these PDUs. -/
def sending (start : Node) (sentPdus : List (List UInt8)) : Scope (EfcpState × Option Connection)
    where
  view := Efcp.binding
  n1Port := fun _ => True
  sent := fun pdus => pdus = sentPdus
  port := fun _ => False
  rows := fun rows => rows = start.core.xFlowRequestTable

/-- The RMT has its N-1 port, and that takes PDUs. -/
structure Core.CanSend (core : Core) : Prop where
  rmt : ∃ rmt, core.pxRmt = some rmt ∧ rmt.pxN1Port = true
  port : ∃ port, core.xPortIdTable = some port ∧ port.mustEnqueue = false ∧
    port.pxN1Ipcp.duWrite = true

/-- What an instance is given to write gets to the N-1 IPCP. -/
structure Core.Gives (core : Core) (outcomes : Outcomes) (descriptor : NetworkBufferDescriptor)
    (pxEfcp : EfcpId) : Prop where
  encapBuffer : outcomes.encapBuffer = true
  fits : descriptor.Fits
  away : ∃ efcp connection dtp, core.efcps.get? pxEfcp = some efcp ∧
    efcp.pxConnection = some connection ∧
      connection.xSourceAddress ≠ connection.xDestinationAddress ∧
        efcp.pxDtp = some dtp ∧ dtp.pxRmt = true
  sends : core.CanSend

/-- Where a write ends: nothing was sent, or one PDU that is as `carries` says. -/
def Sends (start : Node) (carries : List UInt8 → Prop) (after : Node) : Prop :=
  Underway start (sending start start.sentPdus) after ∨
    ∃ pdu, carries pdu ∧ Underway start (sending start (start.sentPdus ++ [pdu])) after

section Sends

variable {α β : Type} {start node : Node} {carries : List UInt8 → Prop} {pxDu : DuId} {du : Du}
  {buffer : BufferId} {descriptor : NetworkBufferDescriptor}

/-- Before anything is sent. -/
theorem sends_of_confined {command : Rina α} {post : α → Prop}
    (confined : Confined start (sending start start.sentPdus) command post)
    (underway : Underway start (sending start start.sentPdus) node) :
    Sends start carries (final (command.run node)) :=
  .inl (confined.final underway)

/-- What follows sends nothing. -/
theorem Sends.andThen {command : Rina α} {rest : α → Rina β}
    (sends : Sends start carries (final (command.run node)))
    (quiet : ∀ value sentPdus, Confined start (sending start sentPdus) (rest value) fun _ => True) :
    Sends start carries (final ((command >>= rest).run node)) := by
  rw [EStateM.run_bind]
  cases run : command.run node with
  | error fault next =>
      rw [run] at sends
      exact sends
  | ok value next =>
      rw [run] at sends
      rcases sends with none | ⟨pdu, holds, one⟩
      · exact .inl ((quiet value _).final none)
      · exact .inr ⟨pdu, holds, (quiet value _).final one⟩

/-! ## The RMT -/

/-- The PDU is recorded when the port is asked to write it. -/
theorem rmtN1PortWriteDu_sends (underway : Underway start (sending start start.sentPdus) node)
    (beyond : start.dus.next ≤ pxDu) (owns : Owns node pxDu du buffer descriptor)
    {pdu : List UInt8} (held : payloadOf descriptor = some pdu) (outcomes : Outcomes)
    (port : RmtN1Port) (holds : port.pxN1Ipcp.duWrite = true → carries pdu) :
    Sends start carries (final ((xRmtN1PortWriteDu outcomes port pxDu).run node)) := by
  cases writes : port.pxN1Ipcp.duWrite with
  | false =>
      simp only [xRmtN1PortWriteDu, writes]
      exact .inl underway
  | true =>
      simp only [xRmtN1PortWriteDu, writes, Bool.not_true, Bool.false_eq_true, if_false]
      rw [run_bind_ok (run_recordSent owns held)]
      have recorded : Underway start (sending start (start.sentPdus ++ [pdu]))
          { node with sentPdus := node.sentPdus ++ [pdu] } :=
        { underway with sent := congrArg (· ++ [pdu]) underway.sent }
      exact .inr ⟨pdu, holds writes, (confined_shimSduWrite beyond _ _ _).final recorded⟩

theorem rmtSendPortId_sends (underway : Underway start (sending start start.sentPdus) node)
    (beyond : start.dus.next ≤ pxDu) (owns : Owns node pxDu du buffer descriptor)
    {pdu : List UInt8} (held : payloadOf descriptor = some pdu)
    (holds : (∃ port, node.core.xPortIdTable = some port ∧ port.mustEnqueue = false ∧
      port.pxN1Ipcp.duWrite = true) → carries pdu) (outcomes : Outcomes) :
    Sends start carries (final ((xRmtSendPortId outcomes pxDu).run node)) := by
  rw [xRmtSendPortId, run_bind_ok run_readCore]
  cases entry : node.core.xPortIdTable with
  | none => exact sends_of_confined (confined_destroyed beyond false) underway
  | some port =>
      dsimp only
      split
      · exact sends_of_confined (upholds_bind (confined_duDestroy beyond) fun _ _ =>
          confined_counted (fun _ _ _ => trivial) countError_received false) underway
      · next free =>
        have busy := (confined_modifyN1Port (fun _ _ _ => trivial) busy_received).final underway
        have run : (modifyN1Port fun port => { port with uxBusy := true }).run node =
          .ok () (final ((modifyN1Port fun port => { port with uxBusy := true }).run node)) := rfl
        rw [run_bind_ok run]
        apply Sends.andThen
        · refine rmtN1PortWriteDu_sends busy beyond (owns.withCore _) held outcomes port ?_
          exact fun writes => holds ⟨port, entry, Bool.eq_false_of_not_eq_true free, writes⟩
        · exact fun ret _ => confined_counted (fun _ _ _ => trivial) (countSent_received ret) true

theorem rmtSend_sends (underway : Underway start (sending start start.sentPdus) node)
    (beyond : start.dus.next ≤ pxDu) (owns : Owns node pxDu du buffer descriptor)
    {pdu : List UInt8} (held : payloadOf descriptor = some pdu)
    {pci : Pci} (header : headerOf du descriptor = some pci) (accepted : pci.isOk = true)
    (outcomes : Outcomes) (pxRmtInstance : Bool)
    (holds : pxRmtInstance = true → node.core.CanSend → carries pdu) :
    Sends start carries (final ((xRmtSend outcomes pxRmtInstance pxDu).run node)) := by
  cases pxRmtInstance with
  | false => exact sends_of_confined (confined_destroyed beyond false) underway
  | true =>
      simp only [xRmtSend, Bool.not_true, Bool.false_eq_true, if_false]
      rw [run_bind_ok (run_pciIsOk owns header), accepted]
      simp only [Bool.not_true, Bool.false_eq_true, if_false, EStateM.run_bind, run_readCore]
      cases present : node.core.pxRmt with
      | none => exact .inl underway
      | some rmt =>
          simp only [run_follow_some]
          cases port : rmt.pxN1Port with
          | false => exact .inl underway
          | true =>
              refine rmtSendPortId_sends underway beyond owns held (fun taken => ?_) outcomes
              exact holds rfl ⟨⟨rmt, present, port⟩, taken⟩

/-! ## DTP -/

/-- The header of a PDU that was never received cannot be found again, so looping it back
ends in a fault. -/
theorem dtpPduSend_sends (underway : Underway start (sending start start.sentPdus) node)
    (beyond : start.dus.next ≤ pxDu) (owns : Owns node pxDu du buffer descriptor)
    {pdu : List UInt8} (held : payloadOf descriptor = some pdu)
    {pci : Pci} (header : headerOf du descriptor = some pci) (accepted : pci.isOk = true)
    (unreceived : descriptor.pucRinaBuffer = none) (outcomes : Outcomes) {pxEfcp : EfcpId}
    (holds : pci.xSource ≠ pci.xDestination → ∀ efcp dtp,
      node.core.efcps.get? pxEfcp = some efcp → efcp.pxDtp = some dtp → dtp.pxRmt = true →
        node.core.CanSend → carries pdu) :
    Sends start carries (final ((xDtpPduSend outcomes pxEfcp pxDu).run node)) := by
  rw [xDtpPduSend, run_bind_ok (run_readPci owns header)]
  cases found : node.core.efcps.get? pxEfcp with
  | none =>
      rw [run_bind_error (run_readEfcp_absent found)]
      exact .inl underway
  | some efcp =>
      rw [run_bind_ok (run_readEfcp found)]
      cases data : efcp.pxDtp with
      | none => exact .inl underway
      | some dtp =>
          rw [run_bind_ok (run_follow_some dtp)]
          split
          · next remote =>
            exact rmtSend_sends underway beyond owns held header accepted outcomes _
              (holds remote efcp dtp found data)
          · dsimp only
            split
            · exact sends_of_confined (confined_destroyed beyond false) underway
            · have unreadable : receivedType descriptor = none := by
                cases block : descriptor.pucEthernetBuffer <;>
                  simp [receivedType, block, unreceived]
              obtain ⟨fault, -, run⟩ := run_duDecap_unreadable owns unreadable outcomes.decapBuffer
              rw [run_bind_error run]
              exact .inl underway

/-- Storing the state vector leaves the binding of an instance. -/
theorem confined_withStateVector {sentPdus : List (List UInt8)} {pxEfcp : EfcpId} {efcp : Efcp}
    (found : (start.core.efcps.get? pxEfcp).map Efcp.binding = some efcp.binding) (dtp : Dtp)
    (sv : DtpSv) :
    Confined start (sending start sentPdus) (writeEfcp pxEfcp (efcp.withStateVector dtp sv))
      fun _ => True := by
  apply upholds_modify
  intro between underway
  have known := (underway.core.efcps pxEfcp).trans found
  obtain ⟨old, present, same⟩ := Option.map_eq_some_iff.mp known
  have step : between.core.Evolves Efcp.binding
      (between.core.setEfcp pxEfcp (efcp.withStateVector dtp sv)) :=
    evolves_setEfcp present same.symm
  exact { underway with core := underway.core.trans step, rows := underway.rows }

/-- The header of the PDU is that of the connection. -/
theorem carries_header (connection : Connection) (sv : DtpSv) (length : Nat)
    (payload : List UInt8) :
    connection.Carries ((sv.write connection length).2.toBytes ++ payload) :=
  ⟨(sv.write connection length).2, Pci.ofBytes_toBytes _ _, rfl, rfl, rfl⟩

/-- Nothing has been sent when the PDU is complete. -/
theorem underway_written {sentPdus : List (List UInt8)}
    (underway : Underway start (sending start sentPdus) node) (beyond : start.dus.next ≤ pxDu)
    (owns : Owns node pxDu du buffer descriptor) {pxEfcp : EfcpId} {efcp : Efcp}
    (found : node.core.efcps.get? pxEfcp = some efcp) (dtp : Dtp) (connection : Connection)
    {payload : List UInt8} (held : payloadOf descriptor = some payload)
    (room : descriptor.xDataLength.toNat + 14 ≤ maxRequest) :
    Underway start (sending start sentPdus)
      (node.written pxEfcp efcp dtp connection pxDu buffer descriptor payload) := by
  have known : (start.core.efcps.get? pxEfcp).map Efcp.binding = some efcp.binding := by
    have same := underway.core.efcps pxEfcp
    rw [found] at same
    exact same.symm
  have numbered := ((confined_withStateVector known dtp
    (dtp.pxDtpStateVector.write connection (descriptor.xDataLength + 14).toNat).1).ok underway
      (run_writeEfcp _ _)).1
  have owned := owns.withCore (node.core.setEfcp pxEfcp (efcp.withStateVector dtp
    (dtp.pxDtpStateVector.write connection (descriptor.xDataLength + 14).toNat).1))
  have encapsulated := ((confined_duEncap beyond true).ok numbered
    (run_duEncap owned held room)).1
  exact ((confined_writePci beyond _).ok encapsulated
    (run_writePci owned _ _ List.length_replicate payload _)).1

theorem dtpWrite_sends (underway : Underway start (sending start start.sentPdus) node)
    (beyond : start.dus.next ≤ pxDu) (owns : Owns node pxDu du buffer descriptor)
    {pxEfcp : EfcpId} {efcp : Efcp} (found : node.core.efcps.get? pxEfcp = some efcp)
    (outcomes : Outcomes) (bound : node.core.Gives outcomes descriptor pxEfcp →
      ∀ {connection}, efcp.pxConnection = some connection → ∀ {pdu},
        connection.Carries pdu → carries pdu) :
    Sends start carries (final ((xDtpWrite outcomes pxEfcp pxDu).run node)) := by
  cases data : efcp.pxDtp with
  | none =>
      simp only [xDtpWrite, EStateM.run_bind, run_readEfcp found, data, run_follow_none]
      exact .inl underway
  | some dtp =>
      cases obtained : outcomes.encapBuffer with
      | false =>
          simp only [xDtpWrite, EStateM.run_bind, run_readEfcp found, data, obtained,
            run_follow_some, run_duEncap_unobtained owns, Bool.not_false, if_true]
          rw [← EStateM.run_bind]
          exact sends_of_confined (confined_destroyed beyond false) underway
      | true =>
          have encapsulated : Confined start (sending start start.sentPdus) (xDuEncap true pxDu)
              fun _ => True := confined_duEncap beyond true
          rcases fits_or_unfit descriptor with fits | unfit
          · obtain ⟨payload, held⟩ := Option.isSome_iff_exists.mp fits.held
            cases connected : efcp.pxConnection with
            | none =>
                have run := run_duEncap owns held fits.room
                simp only [xDtpWrite, EStateM.run_bind, run_readEfcp found, data, obtained,
                  run_follow_some, run, Bool.not_true, Bool.false_eq_true, if_false, connected,
                  run_follow_none]
                exact .inl (encapsulated.ok underway run).1
            | some connection =>
                rw [run_dtpWrite owns found data connected held fits.room obtained]
                have ready := owns_encapsulate (owns.withCore (node.core.setEfcp pxEfcp
                  (efcp.withStateVector dtp (dtp.pxDtpStateVector.write connection
                    (descriptor.xDataLength + 14).toNat).1))) (descriptor.xDataLength + 14)
                  (dtp.pxDtpStateVector.write connection
                    (descriptor.xDataLength + 14).toNat).2.toBytes payload
                have size : ((dtp.pxDtpStateVector.write connection
                    (descriptor.xDataLength + 14).toNat).2.toBytes ++ payload).length =
                      (descriptor.xDataLength + 14).toNat := by
                  rw [List.length_append, Pci.toBytes_length, pciLength, payloadOf_length held,
                    toNat_add_header fits.room, Nat.add_comm]
                refine dtpPduSend_sends
                  (underway_written underway beyond owns found dtp connection held fits.room)
                  beyond ready (payloadOf_encapsulated size)
                  (headerOf_written node descriptor dtp connection payload) rfl rfl outcomes ?_
                intro remote efcp' dtp' stored data' rmt can
                have same : efcp.withStateVector dtp (dtp.pxDtpStateVector.write connection
                    (descriptor.xDataLength + 14).toNat).1 = efcp' :=
                  Option.some.inj ((Store.get?_set_self found _).symm.trans stored)
                have sameRmt : dtp'.pxRmt = dtp.pxRmt := by
                  rw [← same] at data'
                  rw [← Option.some.inj data']
                refine bound ⟨obtained, fits, ⟨efcp, connection, dtp, found, connected, remote,
                  data, sameRmt.symm.trans rmt⟩, ⟨can.rmt, can.port⟩⟩ connected ?_
                exact carries_header connection _ _ payload
          · obtain ⟨fault, -, run⟩ := run_duEncap_unfit owns unfit
            have ends := encapsulated.final underway
            rw [run] at ends
            simp only [xDtpWrite, EStateM.run_bind, run_readEfcp found, data, obtained,
              run_follow_some, run]
            exact .inl ends

end Sends

end RinaSense
