import RinaSense.Ipcp.RmtReceive
import RinaSense.Ipcp.TransmitOwnership

/-!
# What sending a reply leaves alone

Replies of the RIB daemon go down the same path as all management data units. On
that path no identity comes back into use, no receive queue changes and nothing is
released that was in use before, whatever happens to the reply.
-/

namespace RinaSense

open Command

/-- What sending may do to a node: buffers and data units come and go under new
identities, the N-1 port counts; the receive queues and the other tables stay. -/
structure Node.Sends (before after : Node) : Prop where
  buffers : Store.Later before.buffers after.buffers
  dus : Store.Later before.dus after.dus
  handles : after.handles = before.handles
  core : ∃ xPortIdTable, after.core = { before.core with xPortIdTable }

theorem sends_refl (node : Node) : node.Sends node := ⟨.refl _, .refl _, rfl, _, rfl⟩

theorem sends_trans {first second third : Node} (before : first.Sends second)
    (after : second.Sends third) : first.Sends third where
  buffers := before.buffers.trans after.buffers
  dus := before.dus.trans after.dus
  handles := after.handles.trans before.handles
  core := by
    obtain ⟨early, first⟩ := before.core
    obtain ⟨late, second⟩ := after.core
    exact ⟨late, by rw [second, first]⟩

/-- A command that only sends. -/
abbrev OnlySends {α : Type} (command : Rina α) : Prop := Keeps Node.Sends command

section Steps

variable {α β : Type}

theorem onlySends_bind {command : Rina α} {rest : α → Rina β} (first : OnlySends command)
    (second : ∀ value, OnlySends (rest value)) : OnlySends (command >>= rest) := by
  apply keeps_bind _ first second
  exact fun _ _ _ => sends_trans

theorem onlySends_pure (value : α) : OnlySends (pure value) := keeps_pure sends_refl value

theorem onlySends_throw (fault : Fault) : OnlySends (throw fault : Rina α) :=
  keeps_throw sends_refl fault

theorem onlySends_follow (pointer : Option α) : OnlySends (follow pointer) := by
  cases pointer with
  | none => exact onlySends_throw _
  | some value => exact onlySends_pure value

theorem onlySends_readCore : OnlySends readCore :=
  keeps_of_final sends_refl fun _ => rfl

theorem onlySends_readDu (pxDu : DuId) : OnlySends (readDu pxDu) :=
  keeps_of_final sends_refl fun node => by
    cases found : node.dus.get? pxDu <;> simp [readDu, found]

theorem onlySends_readBuffer (buffer : BufferId) : OnlySends (readBuffer buffer) :=
  keeps_of_final sends_refl fun node => by
    cases found : node.buffers.get? buffer <;> simp [readBuffer, found]

theorem onlySends_copyInto (block : List UInt8) (offset : Nat) (bytes : List UInt8) :
    OnlySends (copyInto block offset bytes) :=
  keeps_ite (onlySends_pure _) (onlySends_throw _)

theorem onlySends_copyFrom (block : Option (List UInt8)) (offset length : Nat) :
    OnlySends (copyFrom block offset length) :=
  keeps_ite (onlySends_pure _) (onlySends_bind (onlySends_follow block) fun _ =>
    keeps_ite (onlySends_pure _) (onlySends_throw _))

theorem onlySends_copyBytes (block : Option (List UInt8)) (bytes : List UInt8) :
    OnlySends (copyBytes block bytes) :=
  keeps_ite (onlySends_pure _) (onlySends_bind (onlySends_follow block) fun _ =>
    onlySends_bind (onlySends_copyInto _ _ _) fun _ => onlySends_pure _)

theorem onlySends_writeBuffer (buffer : BufferId) (value : NetworkBufferDescriptor) :
    OnlySends (writeBuffer buffer value) :=
  keeps_modify fun _ => ⟨Store.later_set _ _ _, .refl _, rfl, _, rfl⟩

theorem onlySends_writeDu (pxDu : DuId) (value : Du) : OnlySends (writeDu pxDu value) :=
  keeps_modify fun _ => ⟨.refl _, Store.later_set _ _ _, rfl, _, rfl⟩

theorem onlySends_modifyN1Port (change : RmtN1Port → RmtN1Port) :
    OnlySends (modifyN1Port change) :=
  keeps_modify fun _ => ⟨.refl _, .refl _, rfl, _, rfl⟩

theorem onlySends_recordSent (pxDu : DuId) : OnlySends (recordSent pxDu) :=
  keeps_modify fun _ => ⟨.refl _, .refl _, rfl, _, rfl⟩

theorem onlySends_getNetworkBuffer (obtained : Bool) (size : SizeT) :
    OnlySends (pxGetNetworkBufferWithDescriptor obtained size) := by
  cases obtained with
  | false => exact onlySends_pure _
  | true => exact fun _ => ⟨Store.later_allocate _ _, .refl _, rfl, _, rfl⟩

theorem onlySends_release (buffer : BufferId) :
    OnlySends (vReleaseNetworkBufferAndDescriptor buffer) := by
  intro node
  cases found : node.buffers.get? buffer with
  | none =>
      rw [run_release_absent found]
      exact sends_refl node
  | some descriptor =>
      rw [run_release found]
      exact ⟨Store.later_free _ _, .refl _, rfl, _, rfl⟩

theorem onlySends_wrapBuffer (obtained : Bool) (buffer : BufferId) :
    OnlySends (wrapBuffer obtained buffer) := by
  cases obtained with
  | false => exact onlySends_throw _
  | true => exact fun _ => ⟨.refl _, Store.later_allocate _ _, rfl, _, rfl⟩

theorem onlySends_sendEvent (accepted : Bool) (event : StackEvent) :
    OnlySends (xSendEventStructToIPCPTask accepted event) := by
  cases accepted with
  | false => exact onlySends_pure _
  | true => exact fun _ => ⟨.refl _, .refl _, rfl, _, rfl⟩

end Steps

/-! ## The functions on the path -/

theorem onlySends_duDestroy (pxDu : DuId) : OnlySends (xDuDestroy pxDu) := by
  apply onlySends_bind (onlySends_readDu pxDu)
  intro du
  have freed : OnlySends (modify fun node : Node => { node with dus := node.dus.free pxDu }) :=
    keeps_modify fun _ => ⟨.refl _, Store.later_free _ _, rfl, _, rfl⟩
  cases du.pxNetworkBuffer with
  | none => exact onlySends_bind freed fun _ => onlySends_pure _
  | some buffer => exact onlySends_bind (onlySends_release buffer) fun _ =>
      onlySends_bind freed fun _ => onlySends_pure _

/-- Destroying a data unit and returning. -/
theorem onlySends_destroyed {α : Type} (pxDu : DuId) (value : α) :
    OnlySends (do let _ ← xDuDestroy pxDu; return value : Rina α) :=
  onlySends_bind (onlySends_duDestroy pxDu) fun _ => onlySends_pure value

theorem onlySends_readStorage (du : Du) : OnlySends (readStorage du) :=
  onlySends_bind (onlySends_follow _) fun _ => onlySends_bind (onlySends_readBuffer _) fun _ =>
    onlySends_bind (onlySends_follow _) fun _ => onlySends_pure _

theorem onlySends_readPayload (pxDu : DuId) : OnlySends (readPayload pxDu) :=
  onlySends_bind (onlySends_readDu pxDu) fun _ => onlySends_bind (onlySends_follow _) fun _ =>
    onlySends_bind (onlySends_readBuffer _) fun _ => onlySends_copyFrom _ _ _

theorem onlySends_writePci (pxDu : DuId) (pci : Pci) : OnlySends (writePci pxDu pci) :=
  onlySends_bind (onlySends_readDu pxDu) fun _ => onlySends_bind (onlySends_follow _) fun _ =>
    onlySends_bind (onlySends_readStorage _) fun _ =>
      onlySends_bind (onlySends_copyInto _ _ _) fun _ => onlySends_writeBuffer _ _

theorem onlySends_duEncap (obtained : Bool) (pxDu : DuId) : OnlySends (xDuEncap obtained pxDu) := by
  apply onlySends_bind (onlySends_readDu pxDu)
  intro du
  apply onlySends_bind (onlySends_follow _)
  intro buffer
  apply onlySends_bind (onlySends_readBuffer buffer)
  intro descriptor
  apply onlySends_bind (onlySends_getNetworkBuffer obtained _)
  intro new
  cases new with
  | none => exact onlySends_pure _
  | some pxNewBuffer =>
      apply onlySends_bind (onlySends_follow _)
      intro storage
      apply onlySends_bind (onlySends_copyFrom _ _ _)
      intro payload
      apply onlySends_bind (onlySends_copyInto _ _ _)
      intro filled
      apply onlySends_bind (onlySends_release buffer)
      intro _
      apply onlySends_bind (onlySends_writeBuffer _ _)
      intro _
      exact onlySends_bind (onlySends_writeDu _ _) fun _ => onlySends_pure _

theorem onlySends_shimSduWrite (outcomes : Outcomes) (pxData : Bool) (xId : PortId)
    (pxDu : DuId) : OnlySends (xShimIEEE802154SDUWrite outcomes pxData xId pxDu) := by
  apply keeps_ite (onlySends_pure _)
  apply onlySends_bind (onlySends_readDu pxDu)
  intro du
  apply onlySends_bind (onlySends_follow _)
  intro buffer
  apply onlySends_bind (onlySends_readBuffer buffer)
  intro descriptor
  apply keeps_ite (onlySends_destroyed pxDu false)
  apply onlySends_bind onlySends_readCore
  intro core
  cases prvShimFindFlowByPortId xId core.xShimFlowsList with
  | none => exact onlySends_destroyed pxDu false
  | some flow =>
      apply keeps_ite (onlySends_destroyed pxDu false)
      apply onlySends_bind (onlySends_getNetworkBuffer _ _)
      intro new
      cases new with
      | none => exact onlySends_destroyed pxDu false
      | some frame =>
          apply onlySends_bind (onlySends_follow _)
          intro storage
          apply onlySends_bind (onlySends_readPayload pxDu)
          intro payload
          apply onlySends_bind (onlySends_copyInto _ _ _)
          intro filled
          apply onlySends_bind (onlySends_writeBuffer _ _)
          intro _
          apply onlySends_bind (onlySends_duDestroy pxDu)
          intro _
          apply onlySends_bind (onlySends_sendEvent _ _)
          intro accepted
          exact keeps_ite (onlySends_pure _)
            (onlySends_bind (onlySends_release frame) fun _ => onlySends_pure _)

theorem onlySends_rmtSendPortId (outcomes : Outcomes) (pxDu : DuId) :
    OnlySends (xRmtSendPortId outcomes pxDu) := by
  apply onlySends_bind onlySends_readCore
  intro core
  cases core.xPortIdTable with
  | none => exact onlySends_destroyed pxDu false
  | some port =>
      have written : OnlySends (xRmtN1PortWriteDu outcomes port pxDu) := by
        have send := onlySends_bind (onlySends_recordSent pxDu) fun _ =>
          onlySends_shimSduWrite outcomes port.pxN1Ipcp.pxData port.xPortId pxDu
        exact keeps_ite (onlySends_bind (onlySends_throw _) fun _ => send) send
      apply keeps_ite
      · exact onlySends_bind (onlySends_duDestroy pxDu) fun _ =>
          onlySends_bind (onlySends_modifyN1Port _) fun _ => onlySends_pure _
      · exact onlySends_bind (onlySends_modifyN1Port _) fun _ => onlySends_bind written fun _ =>
          onlySends_bind (onlySends_modifyN1Port _) fun _ => onlySends_pure _

theorem onlySends_normalMgmtDuWrite (outcomes : Outcomes) (pxRmt : Option Rmt) (xPortId : PortId)
    (pxDu : DuId) : OnlySends (xNormalMgmtDuWrite outcomes pxRmt xPortId pxDu) := by
  apply keeps_ite (onlySends_pure _)
  apply onlySends_bind (onlySends_duEncap _ pxDu)
  intro encapsulated
  apply keeps_ite (onlySends_destroyed pxDu false)
  apply onlySends_bind (onlySends_readDu pxDu)
  intro du
  apply onlySends_bind (onlySends_readStorage du)
  intro storage
  apply onlySends_bind (onlySends_writePci pxDu _)
  intro _
  exact keeps_ite (onlySends_rmtSendPortId outcomes pxDu) (onlySends_destroyed pxDu false)

theorem onlySends_sendReply (reply : RibReply) : OnlySends (sendReply reply) := by
  apply onlySends_bind (onlySends_getNetworkBuffer _ _)
  intro new
  apply onlySends_bind (onlySends_follow new)
  intro buffer
  apply onlySends_bind (onlySends_copyBytes _ _)
  intro storage
  apply onlySends_bind (onlySends_writeBuffer _ _)
  intro _
  apply onlySends_bind onlySends_readCore
  intro core
  apply onlySends_bind (onlySends_wrapBuffer _ _)
  intro pxDu
  apply onlySends_bind (onlySends_readBuffer _)
  intro descriptor
  apply onlySends_bind (onlySends_writeBuffer _ _)
  intro _
  exact onlySends_bind (onlySends_normalMgmtDuWrite _ _ _ _) fun _ => onlySends_pure _

/-- Sending replies brings nothing back into use and queues nothing for an
application. -/
theorem onlySends_sendReplies (replies : List RibReply) : OnlySends (sendReplies replies) := by
  induction replies with
  | nil => exact onlySends_pure _
  | cons reply replies ih => exact onlySends_bind (onlySends_sendReply reply) fun _ => ih

/-! ## What stays in use -/

/-- Nothing on the account was released, and every new event hands over a buffer of
its own. -/
def Account.Preserved (account : Account) (after : Node) : Prop :=
  ∃ frames : List BufferId, frames.Nodup ∧ (∀ frame ∈ frames, frame ∉ account.buffers) ∧
    after.events = account.events ++ frames.map handToDriver ∧
    account.buffers ∪ frames.toFinset ⊆ after.buffers.live

theorem Account.Balanced.preserved {account : Account} {after : Node}
    (balanced : account.Balanced handToDriver after) : account.Preserved after := by
  obtain ⟨frames, few, others, events, live⟩ := balanced.handed
  have nodup : frames.Nodup := by
    match frames, few with
    | [], _ => exact List.nodup_nil
    | [frame], _ => exact List.nodup_singleton frame
  exact ⟨frames, nodup, others, events, live.ge⟩

theorem Account.Ends.preserved {α : Type} {account : Account} {pxDu : DuId} {settled : Prop}
    {result : EStateM.Result Fault Node α}
    (ends : account.Ends handToDriver pxDu settled result) :
    account.Preserved (final result) := by
  rcases ends with ⟨-, settles⟩ | ⟨-, abandons⟩
  · exact settles.balanced.preserved
  · exact ⟨[], List.nodup_nil, by simp, by simp [abandons.events], by
      simpa using abandons.buffers⟩

/-- A node whose tables, data units and further buffers changed. -/
theorem preserved_of_subset {node after : Node} (events : after.events = node.events)
    (live : node.buffers.live ⊆ after.buffers.live) : node.account.Preserved after :=
  ⟨[], List.nodup_nil, by simp, by simpa [Node.account] using events, by
    simpa [Node.account] using live⟩

/-- The RIB daemon's message goes out in a data unit of its own. -/
theorem ribdSentCdapMsg_preserves {node : Node} {buffer : BufferId}
    {descriptor : NetworkBufferDescriptor} (stored : node.buffers.get? buffer = some descriptor)
    (outcomes : Outcomes) (xN1FlowPortId : PortId) :
    Unreleased ((vRibdSentCdapMsg outcomes buffer xN1FlowPortId).run node) ∧
      (node.accountWithout buffer).Preserved
        (final ((vRibdSentCdapMsg outcomes buffer xN1FlowPortId).run node)) := by
  simp only [vRibdSentCdapMsg, EStateM.run_bind, run_readCore]
  cases outcomes.duMemory with
  | false =>
      refine ⟨unreleased_error (by decide) _, [], List.nodup_nil, by simp, ?_, ?_⟩
      · exact (List.append_nil _).symm
      · change node.buffers.live.erase buffer ∪ ∅ ⊆ node.buffers.live
        rw [Finset.union_empty]
        exact Finset.erase_subset buffer node.buffers.live
  | true =>
      have carries := carries_wrap stored
      have wrapped : (wrapBuffer true buffer).run node = .ok node.dus.next
          { node with
            dus := (node.dus.allocate { pxNetworkBuffer := some buffer, pxPci := none }).1 } := rfl
      simp only [wrapped, run_readBuffer carries.stored, run_writeBuffer]
      have written := carries.writeOwn { descriptor with ulBoundPort := xN1FlowPortId }
      have ends : (node.accountWithout buffer).Ends handToDriver node.dus.next _
          ((xNormalMgmtDuWrite outcomes node.core.pxRmt xN1FlowPortId node.dus.next >>=
            fun _ => pure ()).run _) :=
        (normalMgmtDuWrite_ends written outcomes node.core.pxRmt xN1FlowPortId).andThen
          fun _ between => ⟨(), between.core, rfl⟩
      rw [EStateM.run_bind] at ends
      exact ⟨ends.unreleased, ends.preserved⟩

theorem accountWithout_fresh (node : Node) (fresh filled : NetworkBufferDescriptor) :
    { node with buffers := (node.buffers.allocate fresh).1.set node.buffers.next filled
      : Node }.accountWithout node.buffers.next = node.account := by
  simp [Node.accountWithout, Node.account]

/-- Sending one reply releases nothing twice and nothing that was in use before. -/
theorem sendReply_preserves (reply : RibReply) (node : Node) :
    Unreleased ((sendReply reply).run node) ∧
      node.account.Preserved (final ((sendReply reply).run node)) := by
  simp only [sendReply, EStateM.run_bind]
  cases reply.buffer with
  | false =>
      exact ⟨unreleased_error (by decide) _, preserved_of_subset rfl (Finset.Subset.refl _)⟩
  | true =>
      obtain ⟨outcome, other, copied⟩ := run_copyBytes
        (freshDescriptor (UInt32.ofNat reply.bytes.length)).pucEthernetBuffer reply.bytes
      have kept : node.buffers.live ⊆
          (node.buffers.allocate (freshDescriptor (UInt32.ofNat reply.bytes.length))).1.live := by
        rw [Store.live_allocate]
        exact Finset.subset_insert _ _
      simp only [run_getNetworkBuffer_true, run_follow_some, copied]
      cases outcome with
      | error fault =>
          exact ⟨unreleased_error (fun same => other (same ▸ rfl)) _,
            preserved_of_subset rfl kept⟩
      | ok storage =>
          simp only [run_writeBuffer]
          rw [← accountWithout_fresh]
          exact ribdSentCdapMsg_preserves
            (Store.get?_set_self (node.buffers.get?_allocate_new _) _) reply.outcomes reply.xN1Port

theorem unreleased_sendReplies (replies : List RibReply) (node : Node) :
    Unreleased ((sendReplies replies).run node) := by
  induction replies generalizing node with
  | nil => exact unreleased_ok _ _
  | cons reply replies ih =>
      have first := (sendReply_preserves reply node).1
      simp only [sendReplies, EStateM.run_bind]
      cases run : (sendReply reply).run node with
      | ok value after => exact ih after
      | error fault after =>
          rw [run] at first
          exact unreleased_error (fun same => first after (same ▸ rfl)) _

end RinaSense
