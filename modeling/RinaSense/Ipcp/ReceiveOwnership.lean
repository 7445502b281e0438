import RinaSense.Ipcp.ReceiveFates
import RinaSense.Ipcp.RibReplies
import RinaSense.Ipcp.TransmitOwnership

/-!
# Ownership on receive

The agreement between `xRmtReceive` and its two callers: a false result leaves the
data unit and its buffer to the caller, a true one says that they were released or
handed on. It is compared with what becomes of every received PDU.
-/

namespace RinaSense

open Command

/-- A data unit and its buffer that were released and queued nowhere. -/
structure Released (before : Node) (pxDu : DuId) (buffer : BufferId) (after : Node) : Prop where
  du : after.dus.get? pxDu = none
  gone : after.buffers.get? buffer = none
  handles : after.handles = before.handles

/-- A data unit that was released after its buffer had been queued once. -/
structure HandedOn (before : Node) (pxDu : DuId) (buffer : BufferId) (after : Node) : Prop where
  du : after.dus.get? pxDu = none
  stored : ∃ descriptor, after.buffers.get? buffer = some descriptor
  handles : ∃ handle value, before.handles.get? handle = some value ∧
    after.handles = before.handles.set handle (value.post buffer)

/-- A data unit still in use with its buffer, which is queued nowhere. -/
structure Retained (before : Node) (pxDu : DuId) (buffer : BufferId) (after : Node) : Prop where
  owns : ∃ du descriptor, Owns after pxDu du buffer descriptor
  handles : after.handles = before.handles

/-- The end of a run after which the data unit and its buffer were released or handed
on exactly once. -/
def SettledOnce {α : Type} (before : Node) (pxDu : DuId) (buffer : BufferId)
    (result : EStateM.Result Fault Node α) : Prop :=
  Unreleased result ∧
    (Released before pxDu buffer (final result) ∨ HandedOn before pxDu buffer (final result))

/-- What `xRmtReceive` owes its callers: a false result leaves the data unit to them,
and every other end has settled it once. -/
def MeetsAgreement (before : Node) (pxDu : DuId) (buffer : BufferId)
    (result : EStateM.Result Fault Node Bool) : Prop :=
  match result with
  | .ok false after => Retained before pxDu buffer after
  | .ok true after => SettledOnce before pxDu buffer (.ok true after : EStateM.Result Fault Node Bool)
  | .error fault after =>
      SettledOnce before pxDu buffer (.error fault after : EStateM.Result Fault Node Bool)

variable {before node : Node} {pxDu : DuId} {du : Du} {buffer : BufferId}
  {descriptor : NetworkBufferDescriptor}

theorem released_discard (handles : node.handles = before.handles) :
    Released before pxDu buffer (node.discard pxDu buffer) where
  du := Store.get?_free_self _ _
  gone := Store.get?_free_self _ _
  handles := handles

/-- What happens to others leaves a released data unit released. -/
theorem Released.sends (released : Released before pxDu buffer node) (oldDu : pxDu < node.dus.next)
    (oldBuffer : buffer < node.buffers.next) {after : Node} (sends : node.Sends after) :
    Released before pxDu buffer after where
  du := sends.dus.get?_eq_none oldDu released.du
  gone := sends.buffers.get?_eq_none oldBuffer released.gone
  handles := sends.handles.trans released.handles

theorem not_settledOnce_of_held {α : Type} {result : EStateM.Result Fault Node α} {value : Du}
    (held : (final result).dus.get? pxDu = some value) :
    ¬ SettledOnce before pxDu buffer result := by
  rintro ⟨-, released | handedOn⟩
  · cases held.symm.trans released.du
  · cases held.symm.trans handedOn.du

/-- A data unit destroyed before replies are sent stays settled. -/
theorem settledOnce_managed (owns : Owns node pxDu du buffer descriptor)
    (handles : node.handles = before.handles) (core : Core) (replies : List RibReply) :
    MeetsAgreement before pxDu buffer
      ((do sendReplies replies; return true : Rina Bool).run
        ({ node with core }.discard pxDu buffer)) ∧
    ∀ after, (do sendReplies replies; return true : Rina Bool).run
      ({ node with core }.discard pxDu buffer) ≠ .ok false after := by
  have released : Released before pxDu buffer ({ node with core }.discard pxDu buffer) :=
    released_discard handles
  have unreleased := unreleased_sendReplies replies ({ node with core }.discard pxDu buffer)
  have sends := onlySends_sendReplies replies ({ node with core }.discard pxDu buffer)
  have oldDu : pxDu < node.dus.next := Store.lt_next owns.held
  have oldBuffer : buffer < node.buffers.next := Store.lt_next owns.stored
  have later := released.sends oldDu oldBuffer sends
  cases run : (sendReplies replies).run ({ node with core }.discard pxDu buffer) with
  | ok value after =>
      rw [run] at later
      rw [run_bind_ok run]
      exact ⟨⟨unreleased_ok _ _, .inl later⟩, fun _ same => by cases same⟩
  | error fault after =>
      rw [run] at later unreleased
      rw [run_bind_error run]
      exact ⟨⟨unreleased_error (fun same => unreleased after (same ▸ rfl)) _, .inl later⟩,
        fun _ same => by cases same⟩

/-- A result meets the agreement exactly at the settled fates. -/
theorem Meets.meetsAgreement_iff {fate : Fate} {result : EStateM.Result Fault Node Bool}
    (meets : Meets node pxDu buffer fate result) (owns : Owns node pxDu du buffer descriptor)
    (handles : node.handles = before.handles) :
    MeetsAgreement before pxDu buffer result ↔ fate.settled = true := by
  cases meets with
  | kept core => exact iff_of_true ⟨⟨du, descriptor, owns.withCore core⟩, handles⟩ rfl
  | destroyed result core =>
      cases result with
      | true => exact iff_of_true ⟨unreleased_ok _ _, .inl (released_discard handles)⟩ rfl
      | false =>
          apply iff_of_false _ Bool.false_ne_true
          rintro ⟨⟨du, descriptor, owned⟩, -⟩
          cases owned.held.symm.trans (Store.get?_free_self _ _)
  | queued core handle value found =>
      exact iff_of_false (not_settledOnce_of_held owns.held) Bool.false_ne_true
  | ignored core => exact iff_of_false (not_settledOnce_of_held owns.held) Bool.false_ne_true
  | managed core replies result sent =>
      rw [← sent]
      exact iff_of_true (settledOnce_managed owns handles core replies).1 rfl
  | stuck fault core => exact iff_of_false (not_settledOnce_of_held owns.held) Bool.false_ne_true

/-! ## The callers -/

/-- Only how the run ended and the node count. -/
theorem settledOnce_ok {α β : Type} (value : α) (other : β) :
    SettledOnce before pxDu buffer (.ok value node : EStateM.Result Fault Node α) ↔
      SettledOnce before pxDu buffer (.ok other node : EStateM.Result Fault Node β) :=
  ⟨fun settled => ⟨unreleased_ok _ _, settled.2⟩, fun settled => ⟨unreleased_ok _ _, settled.2⟩⟩

theorem settledOnce_error {α β : Type} {fault : Fault}
    (settled : SettledOnce before pxDu buffer
      (.error fault node : EStateM.Result Fault Node α)) :
    SettledOnce before pxDu buffer (.error fault node : EStateM.Result Fault Node β) :=
  ⟨unreleased_error (fun same => settled.1 node (same ▸ rfl)) _, settled.2⟩

/-- A caller that returns when the data unit was taken and releases it otherwise
settles it exactly if the callee met the agreement. -/
theorem caller_settles_iff {α : Type} {fate : Fate} {result : EStateM.Result Fault Node Bool}
    (meets : Meets node pxDu buffer fate result) (owns : Owns node pxDu du buffer descriptor)
    (handles : node.handles = before.handles) {receive : Rina Bool} {rest : Bool → Rina α}
    {start : Node} (received : receive.run start = result)
    (taken : ∀ after, ∃ value, (rest true).run after = .ok value after)
    (left : ∀ {after du descriptor}, Owns after pxDu du buffer descriptor →
      ∃ value, (rest false).run after = .ok value (after.discard pxDu buffer))
    (gone : ∀ {after : Node}, after.dus.get? pxDu = none → after.buffers.get? buffer = none →
      (rest false).run after = .error .released after) :
    SettledOnce before pxDu buffer ((receive >>= rest).run start) ↔ fate.settled = true := by
  have agreement := meets.meetsAgreement_iff owns handles
  cases result with
  | error fault after =>
      rw [run_bind_error received, ← agreement]
      exact ⟨settledOnce_error, settledOnce_error⟩
  | ok value after =>
      rw [run_bind_ok received]
      cases value with
      | true =>
          obtain ⟨value, returned⟩ := taken after
          rw [returned, ← agreement]
          exact settledOnce_ok value true
      | false =>
          cases meets with
          | kept core =>
              obtain ⟨value, discarded⟩ := left (owns.withCore core)
              rw [discarded]
              exact iff_of_true ⟨unreleased_ok _ _, .inl (released_discard handles)⟩ rfl
          | destroyed result core =>
              rw [gone (Store.get?_free_self _ _) (Store.get?_free_self _ _)]
              apply iff_of_false _ Bool.false_ne_true
              exact fun settled => settled.1 _ rfl
          | managed core replies result sent =>
              exact absurd sent ((settledOnce_managed owns handles core replies).2 after)

variable {daemon : RibDaemon} {obtained : Bool} {start : Node} {fate : Fate}

theorem stackRxEvent_settles_iff
    (meets : Meets node pxDu buffer fate ((xRmtReceive daemon obtained pxDu 1).run start))
    (owns : Owns node pxDu du buffer descriptor) (handles : node.handles = before.handles) :
    SettledOnce before pxDu buffer ((stackRxEvent daemon obtained pxDu).run start) ↔
      fate.settled = true := by
  apply caller_settles_iff meets owns handles rfl
  · exact fun after => ⟨(), rfl⟩
  · intro after du descriptor owned
    exact ⟨(), by simp [run_duDestroy owned]⟩
  · intro after du _
    simp [run_duDestroy_absent du]

theorem enqueueIeee802154Packet_settles_iff
    (meets : Meets node pxDu buffer fate ((xRmtReceive daemon obtained pxDu 1).run start))
    (owns : Owns node pxDu du buffer descriptor) (handles : node.handles = before.handles) :
    SettledOnce before pxDu buffer
        ((enqueueIeee802154Packet daemon obtained pxDu buffer).run start) ↔
      fate.settled = true := by
  apply caller_settles_iff meets owns handles rfl
  · exact fun after => ⟨true, rfl⟩
  · intro after du descriptor owned
    exact ⟨false, by simp [run_release owned.stored, owned.held, Node.discard]⟩
  · intro after _ released
    simp [run_release_absent released]

/-! ## Every received PDU -/

/-- A PDU meets the agreement, and both callers settle it, exactly when it gets past
the RMT and is then for another node, or decoded by the RIB daemon, or for an
instance that is deallocated, or dropped while the first data run is awaited, or
refused by the flow allocator. Not when it is delivered, a control PDU, a duplicate or
malformed. -/
theorem receive_settles_iff (daemon : RibDaemon) (node : Node)
    (descriptor : NetworkBufferDescriptor) (obtained : Bool) (xFrom : PortId) :
    (MeetsAgreement (node.arrive descriptor) node.dus.next node.buffers.next
        ((xRmtReceive daemon obtained node.dus.next xFrom).run (node.arrive descriptor)) ↔
      ReceiveTaken daemon node.core obtained descriptor xFrom) ∧
    (SettledOnce (node.arrive descriptor) node.dus.next node.buffers.next
        ((stackRxEvent daemon obtained node.dus.next).run (node.arrive descriptor)) ↔
      ReceiveTaken daemon node.core obtained descriptor 1) ∧
    (SettledOnce (node.arrive descriptor) node.dus.next node.buffers.next
        ((enqueueIeee802154Packet daemon obtained node.dus.next node.buffers.next).run
          (node.arrive descriptor)) ↔
      ReceiveTaken daemon node.core obtained descriptor 1) := by
  have arrived := owns_arrive node descriptor
  obtain ⟨fate, between, du, held, owns, handles, meets, settled⟩ :=
    rmtReceive_fate daemon arrived rfl obtained xFrom
  obtain ⟨fateOne, betweenOne, duOne, heldOne, ownsOne, handlesOne, meetsOne, settledOne⟩ :=
    rmtReceive_fate daemon arrived rfl obtained 1
  exact ⟨(meets.meetsAgreement_iff owns handles).trans settled,
    (stackRxEvent_settles_iff meetsOne ownsOne handlesOne).trans settledOne,
    (enqueueIeee802154Packet_settles_iff meetsOne ownsOne handlesOne).trans settledOne⟩

/-- A RIB daemon that decodes nothing. -/
def RibDaemon.silent : RibDaemon where
  Message := Empty
  prvRibdDecodeCDAP := fun _ => none
  vRibHandleMessage := fun core _ _ => (core, [])

/-- A node whose RMT, container and N-1 port are set up. -/
def Node.linked : Node :=
  { Node.blank with
    core := { Node.blank.core with
      pxEfcpc := true
      pxRmt := some ⟨true⟩
      xPortIdTable := some
        { xPortId := 1
          pxN1Ipcp := ⟨true, true⟩
          eState := .enabled
          xStats := ⟨0, 0, 0, 0, 0, 0, 0⟩
          uxBusy := false } } }

/-- A received PDU of an unknown type. -/
def unknownPdu : NetworkBufferDescriptor :=
  receivedDescriptor [] ({ dataPduHeader 1 with xType := 0 }.toBytes ++ [7]) []

/-- A PDU of an unknown type is destroyed by `xRmtReceive`, and then again by the
event loop. -/
theorem receive_releases_twice :
    ¬ SettledOnce (Node.linked.arrive unknownPdu) 0 0
      ((stackRxEvent .silent true 0).run (Node.linked.arrive unknownPdu)) := by
  obtain ⟨fate, between, du, held, owns, handles, meets, settled⟩ :=
    rmtReceive_fate .silent (owns_arrive Node.linked unknownPdu) rfl true 1
  intro settles
  have taken := settled.mp ((stackRxEvent_settles_iff meets owns handles).mp settles)
  obtain ⟨pci, header, accepted, -⟩ := taken.header
  have parsed : receivedHeader unknownPdu = some { dataPduHeader 1 with xType := 0 } := by decide
  rw [← Option.some.inj (parsed.symm.trans header)] at accepted
  cases accepted

end RinaSense
