import RinaSense.Ipcp.Account
import RinaSense.Ipcp.DuRoundTrip
import RinaSense.RinaApi.FlowWrite

/-!
# Ownership on transmit

Which calls on the transmit path release or hand over the buffer they were given
exactly once. The path of a call depends on the tables of the node and on the
outcomes; each function has a condition on these, and settles the account
exactly under it.
-/

namespace RinaSense

open Command

variable {account : Account} {node : Node} {pxDu : DuId} {du : Du} {buffer : BufferId}
  {descriptor : NetworkBufferDescriptor}

/-! ## The shim -/

/-- Exchanging the data unit for the frame made of it. -/
theorem Account.Balanced.handOver {frame : BufferId} {hand : BufferId → StackEvent}
    (other : frame ∉ account.buffers) {after : Node}
    (balanced : { account with buffers := insert frame account.buffers }.Balanced hand after)
    (silent : after.events = account.events) :
    account.Balanced hand { after with events := after.events ++ [hand frame] } where
  handed := by
    obtain ⟨frames, -, -, events, live⟩ := balanced.handed
    have none : frames = [] := by
      rw [silent] at events
      simpa using events
    refine ⟨[frame], le_refl _, by simpa using other, by simp [silent], ?_⟩
    rw [live, none]
    ext id
    simp
  dus := balanced.dus
  handles := balanced.handles

/-- Giving the frame up after all. -/
theorem Account.Balanced.giveUp {frame : BufferId} {hand : BufferId → StackEvent}
    (other : frame ∉ account.buffers) {after : Node}
    (balanced : { account with buffers := insert frame account.buffers }.Balanced hand after)
    (silent : after.events = account.events) :
    account.Balanced hand { after with buffers := after.buffers.free frame } where
  handed := by
    obtain ⟨frames, -, -, events, live⟩ := balanced.handed
    have none : frames = [] := by
      rw [silent] at events
      simpa using events
    refine ⟨[], Nat.zero_le _, by simp, by simpa using silent, ?_⟩
    rw [Store.live_free, live, none]
    simp [Finset.erase_insert other]
  dus := balanced.dus
  handles := balanced.handles

/-- The frame the shim makes of a data unit fits into the block it asks for. -/
theorem frame_fits {length : SizeT} (short : ¬ ieee802154Mtu < length) :
    ∃ block, (freshDescriptor (hdrLen + length)).pucEthernetBuffer = some block ∧
      (hdrLen + length).toNat ≤ block.length := by
  obtain ⟨small, size⟩ := hdrLen_add_toNat short
  apply freshDescriptor_block
  · rw [size]
    omega
  · rw [size, maxRequest]
    omega

/-- The frame an event hands to the network driver. -/
def handToDriver : BufferId → StackEvent := .networkTx

/-- Once the frame is complete, the data unit goes and the frame is handed to the
driver or released. -/
theorem handFrame_settles {frame : BufferId} (other : frame ∉ account.buffers)
    (beside : { account with buffers := insert frame account.buffers }.Carries node pxDu du
      buffer descriptor) (accepted : Bool) :
    account.Settles handToDriver ((do
      let _ ← xDuDestroy pxDu
      if ← xSendEventStructToIPCPTask accepted (.networkTx frame) then return true
      else
        vReleaseNetworkBufferAndDescriptor frame
        return false : Rina Bool).run node) := by
  have destroyed := beside.discard handToDriver
  have silent : (node.discard pxDu buffer).events = account.events := beside.events
  cases accepted with
  | true =>
      simp only [EStateM.run_bind, run_duDestroy beside.toOwns]
      exact ⟨unreleased_ok _ _, destroyed.handOver other silent⟩
  | false =>
      have different : frame ≠ buffer := fun same =>
        beside.otherBuffer (same ▸ Finset.mem_insert_self frame _)
      have inUse : frame ∈ (node.discard pxDu buffer).buffers.live := by
        rw [Node.discard, Store.live_free, beside.buffers]
        simp [different]
      obtain ⟨value, found⟩ := Store.mem_live.mp inUse
      simp only [EStateM.run_bind, run_duDestroy beside.toOwns, xSendEventStructToIPCPTask,
        Bool.false_eq_true, if_false, EStateM.run_pure, run_release found]
      exact ⟨unreleased_ok _ _, destroyed.giveUp other silent⟩

/-- The shim takes charge of every data unit unless its instance data is unset. -/
theorem shimSduWrite_ends (carries : account.Carries node pxDu du buffer descriptor)
    (held : (payloadOf descriptor).isSome) (outcomes : Outcomes) (pxData : Bool) (xId : PortId) :
    account.Ends handToDriver pxDu (pxData = true)
      ((xShimIEEE802154SDUWrite outcomes pxData xId pxDu).run node) := by
  cases pxData with
  | false => exact .inr ⟨Bool.false_ne_true, carries.abandons_ok false⟩
  | true =>
      apply Or.inl
      apply And.intro rfl
      simp only [xShimIEEE802154SDUWrite, Bool.not_true, Bool.false_eq_true, if_false,
        EStateM.run_bind, run_readDu carries.held, carries.pointer, run_follow_some,
        run_readBuffer carries.stored]
      by_cases long : ieee802154Mtu < descriptor.xDataLength
      · simp only [long, if_true, EStateM.run_bind, run_duDestroy carries.toOwns]
        exact carries.settles_discard _ _
      · simp only [long, if_false, EStateM.run_bind, run_readCore]
        split
        · simp only [EStateM.run_bind, run_duDestroy carries.toOwns]
          exact carries.settles_discard _ _
        · split
          · simp only [EStateM.run_bind, run_duDestroy carries.toOwns]
            exact carries.settles_discard _ _
          · cases obtained : outcomes.shimBuffer with
            | false =>
                simp only [run_getNetworkBuffer_false, EStateM.run_bind,
                  run_duDestroy carries.toOwns]
                exact carries.settles_discard _ _
            | true =>
                obtain ⟨block, storage, fits⟩ := frame_fits long
                obtain ⟨payload, payloadHeld⟩ := Option.isSome_iff_exists.mp held
                have beside := carries.allocate (freshDescriptor (hdrLen + descriptor.xDataLength))
                have written := beside.writeOther (Store.lt_next carries.stored).ne
                simp only [run_getNetworkBuffer_true, EStateM.run_bind, storage, run_follow_some]
                rw [run_readPayload beside.toOwns payloadHeld]
                dsimp only
                rw [run_copyInto (by rw [List.length_take]; omega)]
                simp only [run_writeBuffer]
                apply handFrame_settles _ (written _) outcomes.networkEvent
                intro member
                exact node.buffers.next_notMem_live
                  (carries.buffers ▸ Finset.mem_insert_of_mem member)

/-! ## The RMT -/

/-- An N-1 port that is asked to send has the operation and the instance data of
its IPCP set. -/
def Core.PortConnected (core : Core) : Prop :=
  ∀ port, core.xPortIdTable = some port → port.mustEnqueue = false →
    port.pxN1Ipcp.duWrite = true ∧ port.pxN1Ipcp.pxData = true

theorem rmtN1PortWriteDu_ends (carries : account.Carries node pxDu du buffer descriptor)
    (held : (payloadOf descriptor).isSome) (outcomes : Outcomes) (port : RmtN1Port) :
    account.Ends handToDriver pxDu
      (port.pxN1Ipcp.duWrite = true ∧ port.pxN1Ipcp.pxData = true)
      ((xRmtN1PortWriteDu outcomes port pxDu).run node) := by
  cases writes : port.pxN1Ipcp.duWrite with
  | false =>
      apply Or.inr
      simp only [xRmtN1PortWriteDu, writes]
      exact ⟨fun connected => Bool.false_ne_true connected.1,
        carries.abandons_error (by decide)⟩
  | true =>
      simp only [xRmtN1PortWriteDu, writes, true_and, Bool.not_true, Bool.false_eq_true, if_false]
      obtain ⟨pdu, holds⟩ := Option.isSome_iff_exists.mp held
      rw [run_bind_ok (run_recordSent carries.toOwns holds)]
      exact shimSduWrite_ends (carries.withSent _) held outcomes _ _

theorem rmtSendPortId_ends (carries : account.Carries node pxDu du buffer descriptor)
    (held : (payloadOf descriptor).isSome) (outcomes : Outcomes) :
    account.Ends handToDriver pxDu node.core.PortConnected
      ((xRmtSendPortId outcomes pxDu).run node) := by
  cases entry : node.core.xPortIdTable with
  | none =>
      apply Or.inl
      simp only [xRmtSendPortId, EStateM.run_bind, run_readCore, entry,
        run_duDestroy carries.toOwns]
      exact ⟨fun _ found => absurd (entry.symm.trans found) (by simp),
        carries.settles_discard _ _⟩
  | some port =>
      cases waits : port.mustEnqueue with
      | true =>
          apply Or.inl
          simp only [xRmtSendPortId, EStateM.run_bind, run_readCore, entry, waits, if_true,
            run_duDestroy carries.toOwns]
          refine ⟨fun other found idle => ?_, unreleased_ok _ _,
            (carries.discard handToDriver).withCore _⟩
          rw [← Option.some.inj (entry.symm.trans found), waits] at idle
          cases idle
      | false =>
          have connected : node.core.PortConnected ↔
              port.pxN1Ipcp.duWrite = true ∧ port.pxN1Ipcp.pxData = true := by
            constructor
            · exact fun all => all port entry waits
            · intro both other found _
              rw [← Option.some.inj (entry.symm.trans found)]
              exact both
          simp only [xRmtSendPortId, EStateM.run_bind, run_readCore, entry, waits,
            Bool.false_eq_true, if_false, connected]
          apply Account.Ends.andThen
          · exact rmtN1PortWriteDu_ends (carries.withCore _) held outcomes port
          · intro ret between
            exact ⟨true, _, rfl⟩

/-! ## Encapsulation -/

/-- The bytes a descriptor announces are there and leave room for a header. -/
structure NetworkBufferDescriptor.Fits (descriptor : NetworkBufferDescriptor) : Prop where
  held : (payloadOf descriptor).isSome
  room : descriptor.xDataLength.toNat + 14 ≤ maxRequest

theorem fits_or_unfit (descriptor : NetworkBufferDescriptor) :
    descriptor.Fits ∨
      (payloadOf descriptor = none ∨ maxRequest < descriptor.xDataLength.toNat + 14) := by
  cases held : payloadOf descriptor with
  | none => exact .inr (.inl rfl)
  | some payload =>
      rcases Nat.lt_or_ge maxRequest (descriptor.xDataLength.toNat + 14) with large | room
      · exact .inr (.inr large)
      · exact .inl ⟨by rw [held]; rfl, room⟩

theorem not_fits {descriptor : NetworkBufferDescriptor}
    (unfit : payloadOf descriptor = none ∨ maxRequest < descriptor.xDataLength.toNat + 14) :
    ¬ descriptor.Fits := by
  intro fits
  rcases unfit with none | large
  · exact absurd fits.held (by simp [none])
  · exact absurd fits.room (Nat.not_le.mpr large)

theorem abandons_unfit (carries : account.Carries node pxDu du buffer descriptor)
    (unfit : payloadOf descriptor = none ∨ maxRequest < descriptor.xDataLength.toNat + 14) :
    ∃ fault after, (xDuEncap true pxDu).run node = .error fault after ∧
      account.Abandons pxDu (.error fault after : EStateM.Result Fault Node Bool) := by
  obtain ⟨fault, other, run⟩ := run_duEncap_unfit carries.toOwns unfit
  have beside := carries.allocate (freshDescriptor (descriptor.xDataLength + 14))
  have abandons := beside.abandons_error (α := Bool) other
  exact ⟨fault, _, run, abandons.once, abandons.held,
    (Finset.subset_insert _ _).trans abandons.buffers, abandons.handles, abandons.events⟩

/-- An encapsulated data unit with its header filled holds bytes to send. -/
theorem held_encapsulated (fits : descriptor.Fits) {payload : List UInt8}
    (held : payloadOf descriptor = some payload) (pci : Pci) :
    (payloadOf (encapsulated (descriptor.xDataLength + 14) pci.toBytes payload)).isSome := by
  rw [payloadOf_encapsulated]
  · rfl
  · rw [List.length_append, Pci.toBytes_length, pciLength, payloadOf_length held,
      toNat_add_header fits.room, Nat.add_comm]

/-- The condition under which a management data unit is taken charge of. -/
structure MgmtWriteTaken (core : Core) (outcomes : Outcomes) (pxRmt : Option Rmt)
    (xPortId : PortId) (descriptor : NetworkBufferDescriptor) : Prop where
  rmt : pxRmt.isSome
  fits : outcomes.encapBuffer = true → descriptor.Fits
  connected : outcomes.encapBuffer = true → xPortId ≠ 0 → core.PortConnected

theorem normalMgmtDuWrite_ends (carries : account.Carries node pxDu du buffer descriptor)
    (outcomes : Outcomes) (pxRmt : Option Rmt) (xPortId : PortId) :
    account.Ends handToDriver pxDu
      (MgmtWriteTaken node.core outcomes pxRmt xPortId descriptor)
      ((xNormalMgmtDuWrite outcomes pxRmt xPortId pxDu).run node) := by
  cases rmt : pxRmt with
  | none =>
      exact .inr ⟨fun taken => absurd taken.rmt (by decide), carries.abandons_ok false⟩
  | some value =>
      cases obtained : outcomes.encapBuffer with
      | false =>
          apply Or.inl
          simp only [xNormalMgmtDuWrite, obtained, EStateM.run_bind, Option.isNone_some,
            Bool.false_eq_true, if_false, run_duEncap_unobtained carries.toOwns, Bool.not_false,
            if_true, run_duDestroy carries.toOwns]
          exact ⟨⟨rfl, by simp [obtained], by simp [obtained]⟩, carries.settles_discard _ _⟩
      | true =>
          rcases fits_or_unfit descriptor with fits | unfit
          · obtain ⟨payload, held⟩ := Option.isSome_iff_exists.mp fits.held
            have encapsulation :=
              carries.encapsulate (descriptor.xDataLength + 14) (List.replicate 14 0) payload
            obtain ⟨storage, read⟩ := run_readStorage_encapsulated carries.toOwns
              (descriptor.xDataLength + 14) (List.replicate 14 0) payload
            have filled := run_writePci carries.toOwns (descriptor.xDataLength + 14)
              (List.replicate 14 0) List.length_replicate payload
              (mgmtPci (descriptor.xDataLength + 14).toNat)
            simp only [xNormalMgmtDuWrite, obtained, EStateM.run_bind, Option.isNone_some,
              Bool.false_eq_true, if_false, run_duEncap carries.toOwns held fits.room,
              Bool.not_true, run_readDu encapsulation.held, read, encapsulated_dataLength, filled]
            have filledUnit := carries.encapsulate (descriptor.xDataLength + 14)
              (mgmtPci (descriptor.xDataLength + 14).toNat).toBytes payload
            by_cases unset : xPortId = 0
            · apply Or.inl
              simp only [unset, ne_eq, not_true_eq_false, if_false, EStateM.run_bind,
                run_duDestroy filledUnit.toOwns]
              exact ⟨⟨rfl, fun _ => fits, fun _ set => absurd rfl set⟩,
                filledUnit.settles_discard _ _⟩
            · simp only [ne_eq, unset, not_false_eq_true, if_true]
              apply (rmtSendPortId_ends filledUnit (held_encapsulated fits held _) outcomes).congr
              exact ⟨fun connected => ⟨rfl, fun _ => fits, fun _ _ => connected⟩,
                fun taken => taken.connected obtained unset⟩
          · obtain ⟨fault, after, run, abandons⟩ := abandons_unfit carries unfit
            apply Or.inr
            simp only [xNormalMgmtDuWrite, obtained, EStateM.run_bind, Option.isNone_some,
              Bool.false_eq_true, if_false, run]
            exact ⟨fun taken => not_fits unfit (taken.fits obtained), abandons⟩

/-! ## DTP -/

/-- The reference passed to `xRmtSend`, if set, is one of an RMT ready to send. -/
def Core.RmtConnected (core : Core) (pxRmtInstance : Bool) : Prop :=
  pxRmtInstance = true →
    (∃ rmt, core.pxRmt = some rmt ∧ rmt.pxN1Port = true) ∧ core.PortConnected

theorem rmtSend_ends (carries : account.Carries node pxDu du buffer descriptor)
    (held : (payloadOf descriptor).isSome) {pci : Pci}
    (header : headerOf du descriptor = some pci) (accepted : pci.isOk = true)
    (outcomes : Outcomes) (pxRmtInstance : Bool) :
    account.Ends handToDriver pxDu (node.core.RmtConnected pxRmtInstance)
      ((xRmtSend outcomes pxRmtInstance pxDu).run node) := by
  cases pxRmtInstance with
  | false =>
      apply Or.inl
      simp only [xRmtSend, Bool.not_false, if_true, EStateM.run_bind,
        run_duDestroy carries.toOwns]
      exact ⟨fun set => absurd set Bool.false_ne_true, carries.settles_discard _ _⟩
  | true =>
      simp only [xRmtSend, Bool.not_true, Bool.false_eq_true, if_false, EStateM.run_bind,
        run_pciIsOk carries.toOwns header, accepted, run_readCore]
      cases rmt : node.core.pxRmt with
      | none =>
          apply Or.inr
          refine ⟨fun connected => ?_, carries.abandons_error (by decide)⟩
          obtain ⟨⟨value, found, -⟩, -⟩ := connected rfl
          cases found.symm.trans rmt
      | some value =>
          cases port : value.pxN1Port with
          | false =>
              apply Or.inr
              simp only [run_follow_some, port, Bool.not_false, if_true]
              refine ⟨fun connected => ?_, carries.abandons_error (by decide)⟩
              obtain ⟨⟨other, found, set⟩, -⟩ := connected rfl
              rw [← Option.some.inj (rmt.symm.trans found), port] at set
              cases set
          | true =>
              simp only [run_follow_some, port, Bool.not_true, Bool.false_eq_true, if_false]
              apply (rmtSendPortId_ends carries held outcomes).congr
              exact ⟨fun connected _ => ⟨⟨value, rmt, port⟩, connected⟩,
                fun connected => (connected rfl).2⟩

/-- A PDU for another node needs a connected RMT. One for this node is looped
back, which only goes well without a container. -/
def DtpSendTaken (core : Core) (efcp : Efcp) (dtp : Dtp) (connection : Connection) : Prop :=
  if connection.xSourceAddress ≠ connection.xDestinationAddress then
    core.RmtConnected dtp.pxRmt
  else efcp.pxEfcpContainer = false

/-- The header of a PDU that was never received cannot be found again, so looping it back
ends in a fault. -/
theorem run_dtpPduSend_looped (owns : Owns node pxDu du buffer descriptor)
    (unreceived : descriptor.pucRinaBuffer = none) {pci : Pci}
    (header : headerOf du descriptor = some pci) (here : pci.xSource = pci.xDestination)
    {efcp : Efcp} {pxEfcp : EfcpId} (found : node.core.efcps.get? pxEfcp = some efcp)
    (data : efcp.pxDtp.isSome) (container : efcp.pxEfcpContainer = true) (outcomes : Outcomes) :
    ∃ fault, fault ≠ .released ∧
      (xDtpPduSend outcomes pxEfcp pxDu).run node = .error fault node := by
  obtain ⟨dtp, data⟩ := Option.isSome_iff_exists.mp data
  have unreadable : receivedType descriptor = none := by
    cases block : descriptor.pucEthernetBuffer <;> simp [receivedType, block, unreceived]
  obtain ⟨fault, other, run⟩ := run_duDecap_unreadable owns unreadable outcomes.decapBuffer
  refine ⟨fault, other, ?_⟩
  simp only [xDtpPduSend, EStateM.run_bind, run_readPci owns header, run_readEfcp found, data,
    run_follow_some, here, ne_eq, not_true_eq_false, if_false, container, Bool.not_true,
    Bool.false_eq_true, run]

theorem dtpPduSend_ends (carries : account.Carries node pxDu du buffer descriptor)
    (held : (payloadOf descriptor).isSome) (unreceived : descriptor.pucRinaBuffer = none)
    {efcp : Efcp} {pxEfcp : EfcpId} (instance_ : node.core.efcps.get? pxEfcp = some efcp)
    {dtp : Dtp} (data : efcp.pxDtp = some dtp) {sv : DtpSv} {connection : Connection}
    {length : Nat} (header : headerOf du descriptor = some (sv.write connection length).2)
    (outcomes : Outcomes) :
    account.Ends handToDriver pxDu (DtpSendTaken node.core efcp dtp connection)
      ((xDtpPduSend outcomes pxEfcp pxDu).run node) := by
  by_cases away : connection.xSourceAddress ≠ connection.xDestinationAddress
  · have sent := rmtSend_ends carries held header rfl outcomes dtp.pxRmt
    simp only [xDtpPduSend, EStateM.run_bind, run_readPci carries.toOwns header,
      run_readEfcp instance_, data, run_follow_some]
    simpa only [DtpSendTaken, DtpSv.write, away, ne_eq, not_false_eq_true, if_true] using sent
  · simp only [DtpSendTaken, away, if_false]
    cases container : efcp.pxEfcpContainer with
    | false =>
        apply Or.inl
        simp only [xDtpPduSend, EStateM.run_bind, run_readPci carries.toOwns header,
          run_readEfcp instance_, data, run_follow_some, DtpSv.write, away, if_false, container,
          Bool.not_false, if_true, run_duDestroy carries.toOwns]
        exact ⟨trivial, carries.settles_discard _ _⟩
    | true =>
        obtain ⟨fault, other, run⟩ := run_dtpPduSend_looped carries.toOwns unreceived header
          (not_not.mp away) instance_ (by rw [data, Option.isSome_some]) container outcomes
        apply Or.inr
        rw [run]
        exact ⟨by decide, carries.abandons_error other⟩

/-- The condition under which `xDtpWrite` takes charge of a data unit. -/
structure DtpWriteTaken (core : Core) (outcomes : Outcomes) (efcp : Efcp)
    (descriptor : NetworkBufferDescriptor) : Prop where
  dtp : efcp.pxDtp.isSome
  fits : outcomes.encapBuffer = true → descriptor.Fits
  connection : outcomes.encapBuffer = true → efcp.pxConnection.isSome
  send : outcomes.encapBuffer = true → ∀ dtp connection, efcp.pxDtp = some dtp →
    efcp.pxConnection = some connection → DtpSendTaken core efcp dtp connection

/-- The map of the container has no part in it. -/
theorem dtpWriteTaken_lookUp {core : Core} {xCepId : CepId} {outcomes : Outcomes} {efcp : Efcp} :
    DtpWriteTaken (core.lookUp xCepId) outcomes efcp descriptor ↔
      DtpWriteTaken core outcomes efcp descriptor :=
  ⟨fun taken => ⟨taken.dtp, taken.fits, taken.connection, taken.send⟩,
    fun taken => ⟨taken.dtp, taken.fits, taken.connection, taken.send⟩⟩

/-- The node once the PDU of a write is complete: the state vector has moved on, and the data
unit holds the header and the payload. -/
def Node.written (node : Node) (pxEfcp : EfcpId) (efcp : Efcp) (dtp : Dtp)
    (connection : Connection) (pxDu : DuId) (buffer : BufferId)
    (descriptor : NetworkBufferDescriptor) (payload : List UInt8) : Node :=
  let size := descriptor.xDataLength + 14
  let numbering := dtp.pxDtpStateVector.write connection size.toNat
  Node.encapsulate
    { node with core := node.core.setEfcp pxEfcp (efcp.withStateVector dtp numbering.1) }
    pxDu buffer size numbering.2.toBytes payload

/-- The header of that PDU is the one the state vector fills. -/
theorem headerOf_written (node : Node) (descriptor : NetworkBufferDescriptor) (dtp : Dtp)
    (connection : Connection) (payload : List UInt8) :
    headerOf { pxNetworkBuffer := some node.buffers.next, pxPci := some 0 }
      (encapsulated (descriptor.xDataLength + 14) (dtp.pxDtpStateVector.write connection
        (descriptor.xDataLength + 14).toNat).2.toBytes payload) =
      some (dtp.pxDtpStateVector.write connection (descriptor.xDataLength + 14).toNat).2 :=
  headerOf_encapsulated _ _ payload node.buffers.next

/-- A write that can encapsulate its data unit goes on to send it. -/
theorem run_dtpWrite (owns : Owns node pxDu du buffer descriptor) {efcp : Efcp}
    {pxEfcp : EfcpId} (found : node.core.efcps.get? pxEfcp = some efcp) {dtp : Dtp}
    (data : efcp.pxDtp = some dtp) {connection : Connection}
    (connected : efcp.pxConnection = some connection) {payload : List UInt8}
    (held : payloadOf descriptor = some payload)
    (room : descriptor.xDataLength.toNat + 14 ≤ maxRequest) {outcomes : Outcomes}
    (obtained : outcomes.encapBuffer = true) :
    (xDtpWrite outcomes pxEfcp pxDu).run node =
      (xDtpPduSend outcomes pxEfcp pxDu).run
        (node.written pxEfcp efcp dtp connection pxDu buffer descriptor payload) := by
  have numbered := owns.withCore (node.core.setEfcp pxEfcp (efcp.withStateVector dtp
    (dtp.pxDtpStateVector.write connection (descriptor.xDataLength + 14).toNat).1))
  obtain ⟨storage, read⟩ := run_readStorage_encapsulated owns (descriptor.xDataLength + 14)
    (List.replicate 14 0) payload
  have encapsulation := owns_encapsulate owns (descriptor.xDataLength + 14)
    (List.replicate 14 0) payload
  have filled := run_writePci numbered (descriptor.xDataLength + 14) (List.replicate 14 0)
    List.length_replicate payload
    (dtp.pxDtpStateVector.write connection (descriptor.xDataLength + 14).toNat).2
  have ready := owns_encapsulate numbered (descriptor.xDataLength + 14)
    (dtp.pxDtpStateVector.write connection (descriptor.xDataLength + 14).toNat).2.toBytes payload
  simp only [xDtpWrite, EStateM.run_bind, run_readEfcp found, data, run_follow_some, obtained,
    run_duEncap owns held room, Bool.not_true, Bool.false_eq_true, if_false, connected,
    run_readDu encapsulation.held, read, encapsulated_dataLength, run_writeEfcp,
    encapsulate_core, encapsulate_withCore, filled,
    run_pciIsOk ready (headerOf_written node descriptor dtp connection payload), DtpSv.write_isOk]
  rfl

theorem Account.Carries.written (carries : account.Carries node pxDu du buffer descriptor)
    (pxEfcp : EfcpId) (efcp : Efcp) (dtp : Dtp) (connection : Connection)
    (payload : List UInt8) :
    account.Carries (node.written pxEfcp efcp dtp connection pxDu buffer descriptor payload) pxDu
      { pxNetworkBuffer := some node.buffers.next, pxPci := some 0 } node.buffers.next
      (encapsulated (descriptor.xDataLength + 14) (dtp.pxDtpStateVector.write connection
        (descriptor.xDataLength + 14).toNat).2.toBytes payload) :=
  (carries.withCore _).encapsulate _ _ _

theorem dtpWrite_ends (carries : account.Carries node pxDu du buffer descriptor)
    {efcp : Efcp} {pxEfcp : EfcpId} (found : node.core.efcps.get? pxEfcp = some efcp)
    (outcomes : Outcomes) :
    account.Ends handToDriver pxDu (DtpWriteTaken node.core outcomes efcp descriptor)
      ((xDtpWrite outcomes pxEfcp pxDu).run node) := by
  cases data : efcp.pxDtp with
  | none =>
      apply Or.inr
      simp only [xDtpWrite, EStateM.run_bind, run_readEfcp found, data, run_follow_none]
      refine ⟨fun taken => ?_, carries.abandons_error (by decide)⟩
      have set := taken.dtp
      rw [data] at set
      cases set
  | some dtp =>
      cases obtained : outcomes.encapBuffer with
      | false =>
          apply Or.inl
          simp only [xDtpWrite, EStateM.run_bind, run_readEfcp found, data, obtained,
            run_follow_some, run_duEncap_unobtained carries.toOwns, Bool.not_false, if_true,
            run_duDestroy carries.toOwns]
          refine ⟨⟨by rw [data]; rfl, ?_, ?_, ?_⟩, carries.settles_discard _ _⟩ <;>
            simp [obtained]
      | true =>
          rcases fits_or_unfit descriptor with fits | unfit
          · obtain ⟨payload, held⟩ := Option.isSome_iff_exists.mp fits.held
            cases connected : efcp.pxConnection with
            | none =>
                have encapsulation :=
                  carries.encapsulate (descriptor.xDataLength + 14) (List.replicate 14 0) payload
                apply Or.inr
                simp only [xDtpWrite, EStateM.run_bind, run_readEfcp found, data, obtained,
                  run_follow_some, run_duEncap carries.toOwns held fits.room, Bool.not_true,
                  Bool.false_eq_true, if_false, connected, run_follow_none]
                refine ⟨fun taken => ?_, encapsulation.abandons_error (by decide)⟩
                have set := taken.connection obtained
                rw [connected] at set
                cases set
            | some connection =>
                have ready := carries.written pxEfcp efcp dtp connection payload
                have header := headerOf_written node descriptor dtp connection payload
                rw [run_dtpWrite carries.toOwns found data connected held fits.room obtained]
                apply (dtpPduSend_ends ready (held_encapsulated fits held _) rfl
                  (get?_setEfcp found _) rfl header outcomes).congr
                constructor
                · intro send
                  refine ⟨by rw [data]; rfl, fun _ => fits, fun _ => by rw [connected]; rfl, ?_⟩
                  intro _ other another set same
                  rw [← Option.some.inj (data.symm.trans set),
                    ← Option.some.inj (connected.symm.trans same)]
                  exact send
                · intro taken
                  exact taken.send obtained dtp connection data connected
          · obtain ⟨fault, after, run, abandons⟩ := abandons_unfit carries unfit
            apply Or.inr
            simp only [xDtpWrite, EStateM.run_bind, run_readEfcp found, data, obtained,
              run_follow_some, run]
            exact ⟨fun taken => not_fits unfit (taken.fits obtained), abandons⟩

/-! ## The container and the normal IPCP -/

/-- The condition under which a write to the container takes charge of a data
unit: the instance mapped to the CEP id, if any, is in use and writes. -/
structure ContainerWriteTaken (core : Core) (outcomes : Outcomes) (xCepId : CepId)
    (descriptor : NetworkBufferDescriptor) : Prop where
  container : core.pxEfcpc = true
  inUse : ∀ pxEfcp, (pxEfcpImapFind xCepId core.xEfcpImapTable).2 = some pxEfcp →
    (core.efcps.get? pxEfcp).isSome
  write : ∀ pxEfcp efcp, (pxEfcpImapFind xCepId core.xEfcpImapTable).2 = some pxEfcp →
    core.efcps.get? pxEfcp = some efcp → efcp.xState ≠ .deallocated →
    DtpWriteTaken core outcomes efcp descriptor

theorem efcpContainerWrite_settles_iff
    (carries : account.Carries node pxDu du buffer descriptor) (outcomes : Outcomes)
    (xCepId : CepId) :
    account.Settles handToDriver ((xEfcpContainerWrite outcomes xCepId pxDu).run node) ↔
      (isCepIdOk xCepId = true → ContainerWriteTaken node.core outcomes xCepId descriptor) := by
  simp only [xEfcpContainerWrite]
  cases ok : isCepIdOk xCepId with
  | false =>
      simp only [Bool.not_false, if_true, EStateM.run_bind, run_duDestroy carries.toOwns]
      exact iff_of_true (carries.settles_discard _ _) (fun set => absurd set Bool.false_ne_true)
  | true =>
      simp only [Bool.not_true, Bool.false_eq_true, if_false, EStateM.run_bind, run_readCore]
      cases container : node.core.pxEfcpc with
      | false =>
          apply iff_of_false
          · exact Account.not_settles_of_held carries.otherDu carries.du_mem
          · intro taken
            have set := (taken trivial).container
            rw [container] at set
            cases set
      | true =>
          have looked := carries.withCore (node.core.lookUp xCepId)
          simp only [Bool.not_true, Bool.false_eq_true, if_false, EStateM.run_bind,
            run_efcpImapFind]
          cases entry : (pxEfcpImapFind xCepId node.core.xEfcpImapTable).2 with
          | none =>
              simp only [EStateM.run_bind, run_duDestroy looked.toOwns]
              apply iff_of_true (looked.settles_discard _ _)
              exact fun _ => ⟨container, fun _ set => absurd (entry.symm.trans set) (by simp),
                fun _ _ set => absurd (entry.symm.trans set) (by simp)⟩
          | some pxEfcp =>
              have here : ∀ other,
                  (pxEfcpImapFind xCepId node.core.xEfcpImapTable).2 = some other →
                    other = pxEfcp :=
                fun other set => Option.some.inj (set.symm.trans entry)
              cases stored : node.core.efcps.get? pxEfcp with
              | none =>
                  have read := run_readEfcp_absent (show
                    ({ node with core := node.core.lookUp xCepId } : Node).core.efcps.get? pxEfcp =
                      none from stored)
                  simp only [EStateM.run_bind, read]
                  apply iff_of_false
                  · exact Account.not_settles_of_held carries.otherDu carries.du_mem
                  · intro taken
                    have inUse := (taken trivial).inUse pxEfcp entry
                    rw [stored] at inUse
                    cases inUse
              | some efcp =>
                  have read := run_readEfcp (show
                    ({ node with core := node.core.lookUp xCepId } : Node).core.efcps.get? pxEfcp =
                      some efcp from stored)
                  simp only [EStateM.run_bind, read]
                  by_cases gone : efcp.xState = .deallocated
                  · simp only [gone, if_true, EStateM.run_bind, run_duDestroy looked.toOwns]
                    apply iff_of_true (looked.settles_discard _ _)
                    refine fun _ => ⟨container, ?_, ?_⟩
                    · intro other set
                      rw [here other set, stored]
                      rfl
                    · intro other value set found alive
                      rw [here other set, stored] at found
                      exact absurd (Option.some.inj found ▸ gone) alive
                  · simp only [gone, if_false, xEfcpWrite]
                    rw [(dtpWrite_ends looked stored outcomes).settles_iff looked.otherDu,
                      dtpWriteTaken_lookUp]
                    constructor
                    · intro write _
                      refine ⟨container, ?_, ?_⟩
                      · intro other set
                        rw [here other set, stored]
                        rfl
                      · intro other value set found _
                        rw [here other set, stored] at found
                        exact Option.some.inj found ▸ write
                    · intro taken
                      exact (taken trivial).write pxEfcp efcp entry stored gone

/-- The account of a node without one of its buffers. -/
def Node.accountWithout (node : Node) (buffer : BufferId) : Account :=
  { node.account with buffers := node.account.buffers.erase buffer }

theorem carries_wrap (stored : node.buffers.get? buffer = some descriptor) :
    (node.accountWithout buffer).Carries
      { node with
        dus := (node.dus.allocate { pxNetworkBuffer := some buffer, pxPci := none }).1 }
      node.dus.next { pxNetworkBuffer := some buffer, pxPci := none } buffer descriptor where
  held := node.dus.get?_allocate_new _
  pointer := rfl
  stored := stored
  buffers := (Finset.insert_erase (Store.mem_live_of_get? stored)).symm
  otherBuffer := Finset.notMem_erase buffer _
  dus := Store.live_allocate _ _
  otherDu := Store.next_notMem_live _
  handles := rfl
  events := rfl

/-- The condition under which `xNormalDuWrite` takes charge of a buffer. -/
structure NormalWriteTaken (core : Core) (outcomes : Outcomes) (xAppPortId : PortId)
    (descriptor : NetworkBufferDescriptor) : Prop where
  duMemory : outcomes.duMemory = true
  write : ∀ flow, prvNormalFindFlow xAppPortId core.xFlowsList = some flow →
    flow.eState = .allocated → isCepIdOk flow.xActive = true →
    ContainerWriteTaken core outcomes flow.xActive descriptor

theorem normalDuWrite_settles_iff (stored : node.buffers.get? buffer = some descriptor)
    (outcomes : Outcomes) (xAppPortId : PortId) :
    (node.accountWithout buffer).Settles handToDriver
        ((xNormalDuWrite outcomes xAppPortId buffer).run node) ↔
      NormalWriteTaken node.core outcomes xAppPortId descriptor := by
  cases memory : outcomes.duMemory with
  | false =>
      apply iff_of_false
      · simp only [xNormalDuWrite, memory, EStateM.run_bind, wrapBuffer, Bool.not_false, if_true]
        exact Account.not_settles_of_kept (Finset.notMem_erase buffer _)
          (Store.mem_live_of_get? stored) rfl
      · intro taken
        have set := taken.duMemory
        rw [memory] at set
        cases set
  | true =>
      have carries := carries_wrap stored
      have wrapped : (wrapBuffer true buffer).run node = .ok node.dus.next
          { node with
            dus := (node.dus.allocate { pxNetworkBuffer := some buffer, pxPci := none }).1 } := rfl
      simp only [xNormalDuWrite, memory, EStateM.run_bind, wrapped, run_readCore]
      cases entry : prvNormalFindFlow xAppPortId node.core.xFlowsList with
      | none =>
          simp only [EStateM.run_bind, run_duDestroy carries.toOwns]
          exact iff_of_true (carries.settles_discard _ _)
            ⟨memory, fun _ set => absurd (entry.symm.trans set) (by simp)⟩
      | some flow =>
          have here : ∀ other, prvNormalFindFlow xAppPortId node.core.xFlowsList = some other →
              other = flow := fun other set => Option.some.inj (set.symm.trans entry)
          by_cases allocated : flow.eState = .allocated
          · simp only [allocated, ne_eq, not_true_eq_false, if_false]
            rw [efcpContainerWrite_settles_iff carries outcomes flow.xActive]
            constructor
            · intro write
              refine ⟨memory, fun other set _ ok => ?_⟩
              rw [here other set] at ok ⊢
              exact write ok
            · intro taken
              exact taken.write flow entry allocated
          · simp only [allocated, ne_eq, not_false_eq_true, if_true, EStateM.run_bind,
              run_duDestroy carries.toOwns]
            apply iff_of_true (carries.settles_discard _ _)
            refine ⟨memory, fun other set same => ?_⟩
            rw [here other set] at same
            exact absurd same allocated

/-! ## The application interface -/

/-- An event that hands a buffer to the IPCP task. -/
def handToTask : BufferId → StackEvent := .stackTx

/-- A buffer just obtained and filled is all that came on top of a node's account. -/
theorem balanced_fresh (hand : BufferId → StackEvent) (node : Node)
    (fresh filled : NetworkBufferDescriptor) :
    { node.account with buffers := insert node.buffers.next node.account.buffers }.Balanced hand
      { node with
        buffers := (node.buffers.allocate fresh).1.set node.buffers.next filled } where
  handed := ⟨[], Nat.zero_le _, by simp, by simp [Node.account], by simp [Node.account]⟩
  dus := rfl
  handles := rfl

/-- The condition under which `RINA_flow_write` accounts for its buffer: with the
buffer obtained, the check of the timeout goes well. -/
def FlowWriteTaken (outcomes : WriteOutcomes) (data : List UInt8) : Prop :=
  data.length ≤ maxSduSize → outcomes.timeoutSet = true → outcomes.buffer = true →
    outcomes.timeoutChecked = true

theorem flowWrite_settles_iff (node : Node) (outcomes : WriteOutcomes) (xPortId : PortId)
    (data : List UInt8) :
    node.account.Settles handToTask ((rinaFlowWrite outcomes xPortId data).run node) ↔
      FlowWriteTaken outcomes data := by
  rw [FlowWriteTaken]
  by_cases long : maxSduSize < data.length
  · simp only [rinaFlowWrite, long, if_true, EStateM.run_bind]
    exact iff_of_true ⟨unreleased_error (by decide) _, node.balanced_account handToTask⟩
      (fun short => absurd short (Nat.not_le.mpr long))
  · simp only [rinaFlowWrite, long, if_false, Nat.le_of_not_lt long, true_implies]
    cases outcomes.timeoutSet with
    | false =>
        simp only [Bool.not_false, if_true]
        exact iff_of_true ⟨unreleased_ok _ _, node.balanced_account handToTask⟩
          (fun set => absurd set Bool.false_ne_true)
    | true =>
        simp only [Bool.not_true, Bool.false_eq_true, if_false, true_implies]
        cases outcomes.buffer with
        | false =>
            simp only [EStateM.run_bind, run_getNetworkBuffer_false]
            exact iff_of_true ⟨unreleased_ok _ _, node.balanced_account handToTask⟩
              (fun set => absurd set Bool.false_ne_true)
        | true =>
            obtain ⟨storage, copied⟩ := run_copyBytes_fresh (show data.length ≤ maxRequest from
              (Nat.le_of_not_lt long).trans (by decide))
            simp only [EStateM.run_bind, run_getNetworkBuffer_true, true_implies, copied,
              run_writeBuffer]
            have other : node.buffers.next ∉ node.account.buffers :=
              node.buffers.next_notMem_live
            cases outcomes.timeoutChecked with
            | false =>
                simp only [Bool.not_false, if_true]
                apply iff_of_false _ Bool.false_ne_true
                exact Account.not_settles_of_kept other (by simp) rfl
            | true =>
                simp only [Bool.not_true, Bool.false_eq_true, if_false, EStateM.run_bind,
                  run_writeBuffer, Store.set_set, iff_true]
                have ready := balanced_fresh handToTask node
                cases outcomes.stackEvent with
                | true => exact ⟨unreleased_ok _ _, (ready _ _).handOver other rfl⟩
                | false =>
                    simp only [xSendEventStructToIPCPTask, Bool.false_eq_true, if_false,
                      EStateM.run_pure, EStateM.run_bind]
                    rw [run_release (Store.get?_set_self (node.buffers.get?_allocate_new _) _)]
                    exact ⟨unreleased_ok _ _, (ready _ _).giveUp other rfl⟩

/-! ## The calls -/

/-- The account of a node without a data unit and its buffer. -/
def Node.accountWithoutDu (node : Node) (pxDu : DuId) (buffer : BufferId) : Account :=
  { node.accountWithout buffer with dus := node.account.dus.erase pxDu }

theorem carries_owned (owns : Owns node pxDu du buffer descriptor) :
    (node.accountWithoutDu pxDu buffer).Carries node pxDu du buffer descriptor where
  toOwns := owns
  buffers := (Finset.insert_erase (Store.mem_live_of_get? owns.stored)).symm
  otherBuffer := Finset.notMem_erase buffer _
  dus := (Finset.insert_erase (Store.mem_live_of_get? owns.held)).symm
  otherDu := Finset.notMem_erase pxDu _
  handles := rfl
  events := rfl

/-- The three calls release or hand over the buffer they obtain or are given, and
the data unit around it, exactly once under these conditions and no others: the
timeout check of `RINA_flow_write` does not fail with the buffer obtained, and the
two writes meet no unset pointer on the way their data unit takes. -/
theorem transmit_settles_iff (node : Node)
    (writeOutcomes : WriteOutcomes) (xPortId : PortId) (data : List UInt8)
    (outcomes : Outcomes) (xAppPortId : PortId) (stored : node.buffers.get? buffer = some descriptor)
    (pxRmt : Option Rmt) (xN1PortId : PortId) {duBuffer : BufferId}
    {duDescriptor : NetworkBufferDescriptor} (owns : Owns node pxDu du duBuffer duDescriptor) :
    (node.account.Settles handToTask ((rinaFlowWrite writeOutcomes xPortId data).run node) ↔
      FlowWriteTaken writeOutcomes data) ∧
    ((node.accountWithout buffer).Settles handToDriver
        ((xNormalDuWrite outcomes xAppPortId buffer).run node) ↔
      NormalWriteTaken node.core outcomes xAppPortId descriptor) ∧
    ((node.accountWithoutDu pxDu duBuffer).Settles handToDriver
        ((xNormalMgmtDuWrite outcomes pxRmt xN1PortId pxDu).run node) ↔
      MgmtWriteTaken node.core outcomes pxRmt xN1PortId duDescriptor) := by
  have carries := carries_owned owns
  exact ⟨flowWrite_settles_iff node writeOutcomes xPortId data,
    normalDuWrite_settles_iff stored outcomes xAppPortId,
    (normalMgmtDuWrite_ends carries outcomes pxRmt xN1PortId).settles_iff carries.otherDu⟩

/-- A data unit of one byte. -/
def oneByteUnit : NetworkBufferDescriptor := { freshDescriptor 1 with xDataLength := 1 }

/-- The instance of a connection with node 3. -/
def flowingEfcp : Efcp where
  pxConnection := some ⟨1, 1, 3, 1, 1, 1⟩
  pxUserIpcp := true
  pxDtp := some ⟨false, pxDtpStateVectorInit, true⟩
  pxEfcpContainer := true
  xState := .allocated

/-- A node with a flow of port 1 over an N-1 port that can send. It holds a buffer of an
application, and a data unit of the management. -/
def flowingNode : Node :=
  let node : Node :=
    { Node.blank with
      core := { Node.blank.core with
        pxEfcpc := true
        xEfcpcRmt := true
        pxRmt := some ⟨true⟩
        efcps := (Store.empty.allocate flowingEfcp).1
        xEfcpImapTable := [⟨1, some 0, 1⟩]
        xFlowsList := [⟨1, .allocated, 1⟩]
        xPortIdTable := some
          { xPortId := 1
            pxN1Ipcp := ⟨true, true⟩
            eState := .enabled
            xStats := ⟨0, 0, 0, 0, 0, 0, 0⟩
            uxBusy := false } } }
  let node := node.arrive oneByteUnit
  { node with buffers := (node.buffers.allocate oneByteUnit).1 }

theorem fits_oneByteUnit : oneByteUnit.Fits := ⟨by decide, by decide⟩

theorem portConnected_flowing : flowingNode.core.PortConnected := by
  rintro _ ⟨⟩ _
  exact ⟨rfl, rfl⟩

theorem normalWriteTaken_flowing :
    NormalWriteTaken flowingNode.core ⟨true, true, true, true, true⟩ 1 oneByteUnit where
  duMemory := rfl
  write flow listed _ _ := by
    have same : prvNormalFindFlow 1 flowingNode.core.xFlowsList = some ⟨1, .allocated, 1⟩ := rfl
    cases same.symm.trans listed
    have led : (pxEfcpImapFind 1 flowingNode.core.xEfcpImapTable).2 = some 0 := rfl
    have stored : flowingNode.core.efcps.get? 0 = some flowingEfcp := rfl
    refine ⟨rfl, ?_, ?_⟩
    · intro pxEfcp found
      cases led.symm.trans found
      rfl
    · intro pxEfcp efcp found isEfcp _
      cases led.symm.trans found
      cases stored.symm.trans isEfcp
      refine ⟨rfl, fun _ => fits_oneByteUnit, fun _ => rfl, ?_⟩
      rintro _ _ _ ⟨⟩ ⟨⟩
      rw [DtpSendTaken, if_pos (by decide)]
      exact fun _ => ⟨⟨⟨true⟩, rfl, rfl⟩, portConnected_flowing⟩

/-- All three go well. -/
theorem transmit_settles_flowing :
    let outcomes : Outcomes := ⟨true, true, true, true, true⟩
    flowingNode.account.Settles handToTask
      ((rinaFlowWrite ⟨true, true, true, true⟩ 1 [7]).run flowingNode) ∧
    (flowingNode.accountWithout 1).Settles handToDriver
      ((xNormalDuWrite outcomes 1 1).run flowingNode) ∧
    (flowingNode.accountWithoutDu 0 0).Settles handToDriver
      ((xNormalMgmtDuWrite outcomes (some ⟨true⟩) 1 0).run flowingNode) := by
  have stored : flowingNode.buffers.get? 1 = some oneByteUnit := rfl
  have owns : Owns flowingNode 0 { pxNetworkBuffer := some 0, pxPci := none } 0 oneByteUnit :=
    ⟨rfl, rfl, rfl⟩
  obtain ⟨flow, normal, management⟩ := transmit_settles_iff flowingNode ⟨true, true, true, true⟩ 1
    [7] ⟨true, true, true, true, true⟩ 1 stored (some ⟨true⟩) 1 owns
  refine ⟨flow.mpr fun _ _ _ => rfl, normal.mpr normalWriteTaken_flowing, management.mpr ?_⟩
  exact ⟨rfl, fun _ => fits_oneByteUnit, fun _ _ => portConnected_flowing⟩

/-- One byte written while the check of the timeout fails: the buffer obtained for
it is kept by nobody. -/
theorem flow_write_leaks :
    ¬ Node.blank.account.Settles handToTask
      ((rinaFlowWrite ⟨true, true, false, true⟩ 1 [7]).run Node.blank) := by
  rw [flowWrite_settles_iff]
  exact fun taken => Bool.false_ne_true (taken (by decide) rfl rfl)

end RinaSense
