import RinaSense.Ipcp.Du

/-!
# Accounts

What a node has in use while a data unit is on its way: an account lists what
belongs to others, and the data unit with its buffer comes on top. A call settles
the account when nothing is left on top but a buffer handed over by a new event.
-/

namespace RinaSense

open Command

/-- The buffers and data units in use, the receive queues and the pending
events. -/
structure Account where
  buffers : Finset BufferId
  dus : Finset DuId
  handles : Store FlowAllocateHandle
  events : List StackEvent

/-- Everything a node has in use. -/
def Node.account (node : Node) : Account where
  buffers := node.buffers.live
  dus := node.dus.live
  handles := node.handles
  events := node.events

/-- A run that does not use or release an object after its release. -/
def Unreleased {α : Type} (result : EStateM.Result Fault Node α) : Prop :=
  ∀ after, result ≠ .error .released after

theorem unreleased_ok {α : Type} (value : α) (node : Node) :
    Unreleased (.ok value node : EStateM.Result Fault Node α) := fun _ same => by cases same

theorem unreleased_error {α : Type} {fault : Fault} (other : fault ≠ .released) (node : Node) :
    Unreleased (.error fault node : EStateM.Result Fault Node α) := fun _ same =>
  other (EStateM.Result.error.inj same).1

namespace Account

variable {account : Account} {node after : Node} {pxDu : DuId} {du : Du} {buffer : BufferId}
  {descriptor : NetworkBufferDescriptor}

/-- The node has a data unit and its buffer in use on top of the account. -/
structure Carries (account : Account) (node : Node) (pxDu : DuId) (du : Du) (buffer : BufferId)
    (descriptor : NetworkBufferDescriptor) : Prop
    extends Owns node pxDu du buffer descriptor where
  buffers : node.buffers.live = insert buffer account.buffers
  otherBuffer : buffer ∉ account.buffers
  dus : node.dus.live = insert pxDu account.dus
  otherDu : pxDu ∉ account.dus
  handles : node.handles = account.handles
  events : node.events = account.events

/-- Nothing is in use on top of the account but at most one buffer, which the
event `hand` made of it hands over. -/
structure Balanced (account : Account) (hand : BufferId → StackEvent) (after : Node) : Prop where
  handed : ∃ frames : List BufferId, frames.length ≤ 1 ∧
    (∀ frame ∈ frames, frame ∉ account.buffers) ∧
    after.events = account.events ++ frames.map hand ∧
    after.buffers.live = account.buffers ∪ frames.toFinset
  dus : after.dus.live = account.dus
  handles : after.handles = account.handles

/-- A call after which the account is balanced, and that released nothing
twice. -/
structure Settles {α : Type} (account : Account) (hand : BufferId → StackEvent)
    (result : EStateM.Result Fault Node α) : Prop where
  once : Unreleased result
  balanced : account.Balanced hand (final result)

/-- A call that ends with the data unit still in use. -/
structure Abandons {α : Type} (account : Account) (pxDu : DuId)
    (result : EStateM.Result Fault Node α) : Prop where
  once : Unreleased result
  held : pxDu ∈ (final result).dus.live
  buffers : account.buffers ⊆ (final result).buffers.live
  handles : (final result).handles = account.handles
  events : (final result).events = account.events

/-- A call that settles the account exactly under a condition, and otherwise
abandons the data unit. -/
def Ends {α : Type} (account : Account) (hand : BufferId → StackEvent) (pxDu : DuId)
    (settled : Prop) (result : EStateM.Result Fault Node α) : Prop :=
  (settled ∧ account.Settles hand result) ∨ (¬ settled ∧ account.Abandons pxDu result)

/-! ## Nodes with a data unit on its way -/

/-- The tables of the node do not matter. -/
theorem Carries.withCore (carries : account.Carries node pxDu du buffer descriptor)
    (core : Core) : account.Carries { node with core } pxDu du buffer descriptor where
  held := carries.held
  pointer := carries.pointer
  stored := carries.stored
  buffers := carries.buffers
  otherBuffer := carries.otherBuffer
  dus := carries.dus
  otherDu := carries.otherDu
  handles := carries.handles
  events := carries.events

/-- Neither does the record of sent PDUs. -/
theorem Carries.withSent (carries : account.Carries node pxDu du buffer descriptor)
    (sentPdus : List (List UInt8)) :
    account.Carries { node with sentPdus } pxDu du buffer descriptor where
  held := carries.held
  pointer := carries.pointer
  stored := carries.stored
  buffers := carries.buffers
  otherBuffer := carries.otherBuffer
  dus := carries.dus
  otherDu := carries.otherDu
  handles := carries.handles
  events := carries.events

/-- A further buffer comes into use beside the data unit. -/
theorem Carries.allocate (carries : account.Carries node pxDu du buffer descriptor)
    (further : NetworkBufferDescriptor) :
    { account with buffers := insert node.buffers.next account.buffers }.Carries
      { node with buffers := (node.buffers.allocate further).1 } pxDu du buffer descriptor where
  held := carries.held
  pointer := carries.pointer
  stored := (node.buffers.get?_allocate_of_lt further (Store.lt_next carries.stored)).trans
    carries.stored
  buffers := by
    rw [Store.live_allocate, carries.buffers, Finset.insert_comm]
  otherBuffer := by
    rw [Finset.mem_insert, not_or]
    exact ⟨(Store.lt_next carries.stored).ne, carries.otherBuffer⟩
  dus := carries.dus
  otherDu := carries.otherDu
  handles := carries.handles
  events := carries.events

/-- Writing to another buffer leaves the data unit alone. -/
theorem Carries.writeOther (carries : account.Carries node pxDu du buffer descriptor)
    {other : BufferId} (different : buffer ≠ other) (value : NetworkBufferDescriptor) :
    account.Carries { node with buffers := node.buffers.set other value } pxDu du buffer
      descriptor where
  held := carries.held
  pointer := carries.pointer
  stored := (node.buffers.get?_set_of_ne different value).trans carries.stored
  buffers := by rw [Store.live_set, carries.buffers]
  otherBuffer := carries.otherBuffer
  dus := carries.dus
  otherDu := carries.otherDu
  handles := carries.handles
  events := carries.events

/-- Writing to its own buffer changes what the data unit holds. -/
theorem Carries.writeOwn (carries : account.Carries node pxDu du buffer descriptor)
    (value : NetworkBufferDescriptor) :
    account.Carries { node with buffers := node.buffers.set buffer value } pxDu du buffer value where
  held := carries.held
  pointer := carries.pointer
  stored := Store.get?_set_self carries.stored value
  buffers := by rw [Store.live_set, carries.buffers]
  otherBuffer := carries.otherBuffer
  dus := carries.dus
  otherDu := carries.otherDu
  handles := carries.handles
  events := carries.events

theorem Carries.du_mem (carries : account.Carries node pxDu du buffer descriptor) :
    pxDu ∈ node.dus.live :=
  Store.mem_live_of_get? carries.held

/-- Encapsulation replaces the buffer of the data unit. -/
theorem Carries.encapsulate (carries : account.Carries node pxDu du buffer descriptor)
    (size : SizeT) (header payload : List UInt8) :
    account.Carries (node.encapsulate pxDu buffer size header payload) pxDu
      { pxNetworkBuffer := some node.buffers.next, pxPci := some 0 } node.buffers.next
      (encapsulated size header payload) where
  toOwns := owns_encapsulate carries.toOwns size header payload
  buffers := by
    have new : node.buffers.next ≠ buffer := (Store.lt_next carries.stored).ne'
    simp only [Node.encapsulate, Store.allocate_id, Store.live_set, Store.live_free,
      Store.live_allocate, carries.buffers]
    rw [Finset.erase_insert_of_ne new, Finset.erase_insert carries.otherBuffer]
  otherBuffer := fun member => node.buffers.next_notMem_live (by
    rw [carries.buffers]
    exact Finset.mem_insert_of_mem member)
  dus := by rw [Node.encapsulate, Store.live_set, carries.dus]
  otherDu := carries.otherDu
  handles := carries.handles
  events := carries.events

/-! ## Ends of calls -/

variable {α β : Type} {hand : BufferId → StackEvent} {settled : Prop}
  {result : EStateM.Result Fault Node α}

theorem Balanced.withCore (balanced : account.Balanced hand after) (core : Core) :
    account.Balanced hand { after with core } :=
  ⟨balanced.handed, balanced.dus, balanced.handles⟩

/-- Destroying the data unit leaves exactly the account. -/
theorem Carries.discard (carries : account.Carries node pxDu du buffer descriptor)
    (hand : BufferId → StackEvent) : account.Balanced hand (node.discard pxDu buffer) where
  handed := ⟨[], Nat.zero_le _, by simp, by simp [Node.discard, carries.events], by
    simp [Node.discard, carries.buffers, Finset.erase_insert carries.otherBuffer]⟩
  dus := by simp [Node.discard, carries.dus, Finset.erase_insert carries.otherDu]
  handles := carries.handles

theorem Carries.settles_discard (carries : account.Carries node pxDu du buffer descriptor)
    (hand : BufferId → StackEvent) (value : α) :
    account.Settles hand (.ok value (node.discard pxDu buffer) : EStateM.Result Fault Node α) :=
  ⟨unreleased_ok _ _, carries.discard hand⟩

theorem Carries.abandons_ok (carries : account.Carries node pxDu du buffer descriptor)
    (value : α) : account.Abandons pxDu (.ok value node : EStateM.Result Fault Node α) where
  once := unreleased_ok _ _
  held := carries.du_mem
  buffers := by
    rw [final_ok, carries.buffers]
    exact Finset.subset_insert _ _
  handles := carries.handles
  events := carries.events

theorem Carries.abandons_error (carries : account.Carries node pxDu du buffer descriptor)
    {fault : Fault} (other : fault ≠ .released) :
    account.Abandons pxDu (.error fault node : EStateM.Result Fault Node α) where
  once := unreleased_error other _
  held := carries.du_mem
  buffers := by
    rw [final_error, carries.buffers]
    exact Finset.subset_insert _ _
  handles := carries.handles
  events := carries.events

/-- While the data unit is in use, the account is not settled. -/
theorem not_settles_of_held (otherDu : pxDu ∉ account.dus)
    (held : pxDu ∈ (final result).dus.live) : ¬ account.Settles hand result := fun settles =>
  otherDu (settles.balanced.dus ▸ held)

/-- While a buffer outside the account is in use and no event was sent, neither. -/
theorem not_settles_of_kept (other : buffer ∉ account.buffers)
    (kept : buffer ∈ (final result).buffers.live)
    (silent : (final result).events = account.events) : ¬ account.Settles hand result := by
  intro settles
  obtain ⟨frames, -, -, events, live⟩ := settles.balanced.handed
  have none : frames = [] := by
    rw [silent] at events
    simpa using events
  rw [live, none] at kept
  exact other (by simpa using kept)

theorem Ends.congr {other : Prop} (ends : account.Ends hand pxDu settled result)
    (same : settled ↔ other) : account.Ends hand pxDu other result :=
  (propext same) ▸ ends

theorem Ends.settles_iff (ends : account.Ends hand pxDu settled result)
    (otherDu : pxDu ∉ account.dus) : account.Settles hand result ↔ settled := by
  rcases ends with ⟨holds, settles⟩ | ⟨fails, abandons⟩
  · exact iff_of_true settles holds
  · exact iff_of_false (not_settles_of_held otherDu abandons.held) fails

theorem Ends.unreleased (ends : account.Ends hand pxDu settled result) : Unreleased result := by
  rcases ends with ⟨-, settles⟩ | ⟨-, abandons⟩
  · exact settles.once
  · exact abandons.once

/-- What follows the call and only changes the tables does not matter. -/
theorem Ends.andThen {command : Rina α} {rest : α → Rina β}
    (ends : account.Ends hand pxDu settled (command.run node))
    (tables : ∀ value between, ∃ result core,
      (rest value).run between = .ok result { between with core }) :
    account.Ends hand pxDu settled ((command >>= rest).run node) := by
  cases run : command.run node with
  | error fault after =>
      rw [run] at ends
      rw [run_bind_error run]
      rcases ends with ⟨holds, settles⟩ | ⟨fails, abandons⟩
      · exact .inl ⟨holds, unreleased_error (fun same => settles.once after (same ▸ rfl)) _,
          settles.balanced⟩
      · exact .inr ⟨fails, unreleased_error (fun same => abandons.once after (same ▸ rfl)) _,
          abandons.held, abandons.buffers, abandons.handles, abandons.events⟩
  | ok value between =>
      obtain ⟨result, core, finished⟩ := tables value between
      rw [run] at ends
      rw [run_bind_ok run, finished]
      rcases ends with ⟨holds, settles⟩ | ⟨fails, abandons⟩
      · exact .inl ⟨holds, unreleased_ok _ _, settles.balanced.withCore core⟩
      · exact .inr ⟨fails, unreleased_ok _ _, abandons.held, abandons.buffers,
          abandons.handles, abandons.events⟩

end Account

/-- A node meets its own account. -/
theorem Node.balanced_account (node : Node) (hand : BufferId → StackEvent) :
    node.account.Balanced hand node where
  handed := ⟨[], Nat.zero_le _, by simp, by simp [Node.account], by simp [Node.account]⟩
  dus := rfl
  handles := rfl

end RinaSense
