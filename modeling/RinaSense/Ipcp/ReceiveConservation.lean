import RinaSense.Ipcp.ReceiveOwnership

/-!
# Conservation of network buffers on receive

The pool is small and fixed, so every buffer in use should be in somebody's hands.
This module counts the buffers in use against those that wait for an application or
in an event, over runs of any number of received PDUs.
-/

namespace RinaSense

open Command

/-! ## Counting -/

/-- The buffers that wait in a receive queue or in an event. -/
def Node.waiting (node : Node) : Nat :=
  node.handles.sum (fun handle => handle.xListWaitingPackets.length) + node.events.length

/-- The buffers in use have changed by as many as wait. -/
def Node.Conserves (before after : Node) : Prop :=
  after.buffers.size + before.waiting = before.buffers.size + after.waiting

/-- At least `lost` more buffers are in use that do not wait than before. -/
def Node.Loses (lost : Nat) (before after : Node) : Prop :=
  before.buffers.size + after.waiting + lost ≤ after.buffers.size + before.waiting

theorem loses_refl (node : Node) : Node.Loses 0 node node := by simp [Node.Loses]

theorem Node.Loses.trans {first second third : Node} {lost more : Nat}
    (before : Node.Loses lost first second) (after : Node.Loses more second third) :
    Node.Loses (lost + more) first third := by
  simp only [Node.Loses] at *
  omega

theorem Node.Conserves.loses {before after : Node} (conserves : before.Conserves after) :
    Node.Loses 0 before after := by
  simp only [Node.Conserves] at conserves
  simp only [Node.Loses]
  omega

/-- A lost buffer is not made up for. -/
theorem Node.Loses.not_conserves {before after : Node} (loses : Node.Loses 1 before after) :
    ¬ before.Conserves after := by
  simp only [Node.Loses] at loses
  simp only [Node.Conserves]
  omega

variable {node : Node} {pxDu : DuId} {du : Du} {buffer : BufferId}
  {descriptor : NetworkBufferDescriptor}

theorem size_discard (owns : Owns node pxDu du buffer descriptor) :
    (node.discard pxDu buffer).buffers.size + 1 = node.buffers.size :=
  Store.size_free owns.stored

/-- Queueing a buffer makes one more wait. -/
theorem waiting_post {handle : HandleId} {value : FlowAllocateHandle}
    (found : node.handles.get? handle = some value) (buffer : BufferId) :
    (node.post handle value buffer).waiting = node.waiting + 1 := by
  have queued := Store.sum_set found (value.post buffer)
    (fun handle => handle.xListWaitingPackets.length)
  simp only [FlowAllocateHandle.post, vRsListInsert_length] at queued
  simp only [Node.waiting, Node.post, FlowAllocateHandle.post]
  omega

/-! ## Replies -/

/-- What goes out on an account changes the count by nothing or leaves more in use. -/
theorem loses_of_preserved {after : Node} (preserved : node.account.Preserved after)
    (handles : after.handles = node.handles) : Node.Loses 0 node after := by
  obtain ⟨frames, nodup, others, events, live⟩ := preserved
  have disjoint : Disjoint node.buffers.live frames.toFinset := by
    rw [Finset.disjoint_right]
    intro frame member
    exact others frame (List.mem_toFinset.mp member)
  have count : node.buffers.size + frames.length ≤ after.buffers.size := by
    have counted := Finset.card_le_card live
    change (node.buffers.live ∪ frames.toFinset).card ≤ after.buffers.size at counted
    rw [Finset.card_union_of_disjoint disjoint, List.toFinset_card_of_nodup nodup] at counted
    exact counted
  have waits : after.waiting = node.waiting + frames.length := by
    simp only [Node.waiting, handles, events, Node.account, List.length_append, List.length_map]
    omega
  simp only [Node.Loses]
  omega

theorem sendReplies_loses (replies : List RibReply) (node : Node) :
    Node.Loses 0 node (final ((sendReplies replies).run node)) := by
  induction replies generalizing node with
  | nil => exact loses_refl node
  | cons reply replies ih =>
      have first := loses_of_preserved (sendReply_preserves reply node).2
        (onlySends_sendReply reply node).handles
      simp only [sendReplies, EStateM.run_bind]
      cases run : (sendReply reply).run node with
      | error fault after =>
          rw [run] at first
          exact first
      | ok value after =>
          rw [run] at first
          exact first.trans (ih after)

/-! ## One received PDU -/

/-- Whatever its fate, a data unit gives back no more than its own buffer. -/
theorem Meets.gives_back {fate : Fate} {result : EStateM.Result Fault Node Bool}
    (meets : Meets node pxDu buffer fate result) (owns : Owns node pxDu du buffer descriptor) :
    node.buffers.size + (final result).waiting ≤
      (final result).buffers.size + 1 + node.waiting := by
  have discarded := size_discard owns
  cases meets with
  | kept core => exact Nat.add_le_add_right (Nat.le_succ _) _
  | destroyed result core =>
      change node.buffers.size + node.waiting ≤ (node.discard pxDu buffer).buffers.size + 1 + node.waiting
      omega
  | queued core handle value found =>
      have waits : (({ node with core } : Node).post handle value buffer).waiting =
          node.waiting + 1 := waiting_post found buffer
      change node.buffers.size + (({ node with core } : Node).post handle value buffer).waiting ≤
        node.buffers.size + 1 + node.waiting
      omega
  | ignored core => exact Nat.add_le_add_right (Nat.le_succ _) _
  | managed core replies result sent =>
      have loses := sendReplies_loses replies ({ node with core }.discard pxDu buffer)
      have same : final result =
          final ((sendReplies replies).run ({ node with core }.discard pxDu buffer)) := by
        rw [← sent]
        cases run : (sendReplies replies).run ({ node with core }.discard pxDu buffer) with
        | ok value after => rw [run_bind_ok run]; rfl
        | error fault after => rw [run_bind_error run]; rfl
      rw [same]
      change (node.discard pxDu buffer).buffers.size + _ + 0 ≤ _ + node.waiting at loses
      omega
  | stuck fault core => exact Nat.add_le_add_right (Nat.le_succ _) _

/-- A PDU handed to the stack: its buffer, whether a second buffer is obtained for it,
and the port it came from. -/
structure Arrival where
  descriptor : NetworkBufferDescriptor
  secondBuffer : Bool
  xFrom : PortId

/-- One PDU comes in and is handed to `xRmtReceive`. -/
def receiveArrival (daemon : RibDaemon) (arrival : Arrival) : Rina Bool := do
  let node ← get
  set (node.arrive arrival.descriptor)
  xRmtReceive daemon arrival.secondBuffer node.dus.next arrival.xFrom

theorem run_receiveArrival (daemon : RibDaemon) (arrival : Arrival) (node : Node) :
    (receiveArrival daemon arrival).run node =
      (xRmtReceive daemon arrival.secondBuffer node.dus.next arrival.xFrom).run
        (node.arrive arrival.descriptor) := rfl

theorem size_arrive (node : Node) (descriptor : NetworkBufferDescriptor) :
    (node.arrive descriptor).buffers.size = node.buffers.size + 1 :=
  Store.size_allocate _ _

/-- A stopped PDU leaves the count as it was. -/
theorem receiveArrival_stopped (daemon : RibDaemon) {arrival : Arrival} {node : Node}
    (stopped : Stopped node.core arrival.descriptor arrival.xFrom) :
    ∃ after, (receiveArrival daemon arrival).run node = .ok false after ∧
      node.Conserves after ∧ node.core.SameLinks after.core := by
  have owns := owns_arrive node arrival.descriptor
  rcases FateRule.releasing.rmtReceive_cases daemon owns rfl arrival.secondBuffer arrival.xFrom with
    ⟨-, core, links, run⟩ | ⟨passed, -⟩ | ⟨passed, -⟩
  · refine ⟨_, run, ?_, links⟩
    have discarded := size_discard (owns.withCore core)
    have arrived := size_arrive node arrival.descriptor
    change _ + 1 = (node.arrive arrival.descriptor).buffers.size at discarded
    change _ + node.waiting = node.buffers.size + node.waiting
    omega
  · exact absurd stopped passed
  · exact absurd stopped passed

/-- Every other PDU loses a buffer: its own if a fault keeps its header from being
taken, and at least the second one afterwards. -/
theorem receiveArrival_loses (daemon : RibDaemon) {arrival : Arrival} {node : Node}
    (passed : ¬ Stopped node.core arrival.descriptor arrival.xFrom) :
    Node.Loses 1 node (final ((receiveArrival daemon arrival).run node)) := by
  have owns := owns_arrive node arrival.descriptor
  have arrived := size_arrive node arrival.descriptor
  have waits : (node.arrive arrival.descriptor).waiting = node.waiting := rfl
  rw [run_receiveArrival]
  rcases FateRule.releasing.rmtReceive_cases daemon owns rfl arrival.secondBuffer arrival.xFrom with
    ⟨stopped, -⟩ | ⟨-, -, meets⟩ | ⟨-, core, fate, meets, -⟩
  · exact absurd stopped passed
  · generalize (xRmtReceive daemon arrival.secondBuffer node.dus.next arrival.xFrom).run
      (node.arrive arrival.descriptor) = result at meets ⊢
    cases meets with
    | stuck fault core =>
        change node.buffers.size + node.waiting + 1 ≤
          (node.arrive arrival.descriptor).buffers.size + node.waiting
        omega
  · have given := meets.gives_back (owns_decapsulate (owns.withCore core))
    rw [size_decapsulate] at given
    change (node.arrive arrival.descriptor).buffers.size + 1 + _ ≤ _ + 1 + node.waiting at given
    simp only [Node.Loses]
    omega

/-! ## Runs -/

/-- PDUs coming in one after the other. A fault ends the run. -/
def receiveArrivals (daemon : RibDaemon) : List Arrival → Rina Unit
  | [] => return ()
  | arrival :: arrivals => do
      let _ ← receiveArrival daemon arrival
      receiveArrivals daemon arrivals

/-- No run makes up for a lost buffer. -/
theorem receiveArrivals_loses (daemon : RibDaemon) (arrivals : List Arrival) (node : Node) :
    Node.Loses 0 node (final ((receiveArrivals daemon arrivals).run node)) := by
  induction arrivals generalizing node with
  | nil => exact loses_refl node
  | cons arrival arrivals ih =>
      have first : Node.Loses 0 node (final ((receiveArrival daemon arrival).run node)) := by
        by_cases stopped : Stopped node.core arrival.descriptor arrival.xFrom
        · obtain ⟨after, run, conserves, -⟩ := receiveArrival_stopped daemon stopped
          rw [run]
          exact conserves.loses
        · have loses := receiveArrival_loses daemon stopped
          simp only [Node.Loses] at loses ⊢
          omega
      simp only [receiveArrivals, EStateM.run_bind]
      cases run : (receiveArrival daemon arrival).run node with
      | error fault after =>
          rw [run] at first
          exact first
      | ok value after =>
          rw [run] at first
          exact first.trans (ih after)

/-- The buffers in use stay those that wait exactly over the runs in which every PDU is
stopped before its header is taken. -/
theorem receive_conserves_iff (daemon : RibDaemon) (node : Node) (arrivals : List Arrival) :
    node.Conserves (final ((receiveArrivals daemon arrivals).run node)) ↔
      ∀ arrival ∈ arrivals, Stopped node.core arrival.descriptor arrival.xFrom := by
  induction arrivals generalizing node with
  | nil => exact iff_of_true rfl (by simp)
  | cons arrival arrivals ih =>
      by_cases stopped : Stopped node.core arrival.descriptor arrival.xFrom
      · obtain ⟨after, run, conserves, links⟩ := receiveArrival_stopped daemon stopped
        have rest : (∀ other ∈ arrivals, Stopped after.core other.descriptor other.xFrom) ↔
            ∀ other ∈ arrivals, Stopped node.core other.descriptor other.xFrom := by
          simp only [links.stopped_iff]
        rw [receiveArrivals, run_bind_ok run, List.forall_mem_cons, and_iff_right stopped, ← rest,
          ← ih after]
        simp only [Node.Conserves] at conserves ⊢
        omega
      · apply iff_of_false
        · have loses := receiveArrival_loses daemon stopped
          apply Node.Loses.not_conserves
          simp only [receiveArrivals, EStateM.run_bind]
          cases run : (receiveArrival daemon arrival).run node with
          | error fault after =>
              rw [run] at loses
              exact loses
          | ok value after =>
              rw [run] at loses
              exact loses.trans (receiveArrivals_loses daemon arrivals after)
        · exact fun all => stopped (all arrival List.mem_cons_self)

/-- One data PDU for a CEP id that is not bound: its own buffer is released, the second
one is not. -/
theorem receive_loses_buffers :
    ¬ Node.linked.Conserves (final ((receiveArrivals .silent
      [⟨receivedDescriptor [] ((dataPduHeader 1).toBytes ++ [7]) [], true, 1⟩]).run
      Node.linked)) := by
  rw [receive_conserves_iff]
  intro all
  rcases all _ List.mem_cons_self with none | wrong | ⟨-, none | ⟨xType, received, rejected⟩⟩
  · cases none
  · cases wrong
  · cases none
  · rw [receivedType_received] at received
    rw [← Option.some.inj received] at rejected
    cases rejected

end RinaSense
