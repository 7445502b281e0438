import RinaSense.Ipcp.FlowRequestTable
import RinaSense.Ipcp.Normal
import RinaSense.Library.Trace
import RinaSense.RinaApi.FlowAlloc
import Mathlib.Logic.Function.Basic

/-!
# Reading from a flow

`RINA_flow_read` of `rina_api.c` against the posts of received data units. Both
reach the queue and the event bits of the handle under a mutex, so a run is a
sequence of the accesses of all calls in some order. What a run is for is stated
here: the data units come out as they went in, and none overruns the caller's buffer.
-/

namespace RinaSense

open Trace

/-- The list of a handle, which `vRsListInit` prepared. -/
def FlowAllocateHandle.waitingPackets (handle : FlowAllocateHandle) : RsList BufferId :=
  { (vRsListInit : RsList BufferId) with items := handle.xListWaitingPackets }

def writeHandle (handle : HandleId) (value : FlowAllocateHandle) : Rina Unit :=
  modify fun node => { node with handles := node.handles.set handle value }

/-! ## Posts -/

/-- Put a network buffer into the queue of the application. -/
def insertBuffer (handle : HandleId) (pxNetworkBuffer : BufferId) : Rina Unit := do
  let value ← readHandle handle
  writeHandle handle
    { value with
      xListWaitingPackets := vRsListInsert value.xListWaitingPackets pxNetworkBuffer }

/-- `xFlowAllocatorDuPost` as far as the insertion into the queue: the handle to be
signalled next, with the buffer that was queued. -/
def insertDu (xAppPortId : PortId) (pxDu : DuId) : Rina (Option (HandleId × BufferId)) := do
  let du ← readDu pxDu
  if !xDuIsOk du || !isPortIdOk xAppPortId then
    let _ ← xDuDestroy pxDu
    return none
  match ← pxFAFindInstance xAppPortId with
  | none =>
      let _ ← xDuDestroy pxDu
      return none
  | some pxFlowAllocatorInstance =>
      let pxNetworkBuffer ← follow du.pxNetworkBuffer
      if pxFlowAllocatorInstance.eFaiState ≠ .allocated then
        let _ ← xDuDestroy pxDu
        return none
      insertBuffer pxFlowAllocatorInstance.pxFlowAllocatorHandle pxNetworkBuffer
      return some (pxFlowAllocatorInstance.pxFlowAllocatorHandle, pxNetworkBuffer)

/-- The rest of `xFlowAllocatorDuPost`. -/
def signalReceive (pxFlowAllocatorHandle : HandleId) : Rina Unit := do
  let handle ← readHandle pxFlowAllocatorHandle
  writeHandle pxFlowAllocatorHandle { handle with eFlowReceive := true }

/-! ## Reads -/

/-- Keep the bits a handle has. -/
def FlowAllocateHandle.withEventBits (handle : FlowAllocateHandle) (bits : EventBits) :
    FlowAllocateHandle :=
  { handle with
    eFlowBound := bits &&& RinaSense.eFlowBound ≠ 0#32
    eFlowReceive := bits &&& RinaSense.eFlowReceive ≠ 0#32 }

/-- `RINA_flowStatus`. -/
def xNormalIsFlowAllocated (xPortId : PortId) (flows : List NormalFlow) : Bool :=
  match prvNormalFindFlow xPortId flows with
  | none => false
  | some pxFlow => pxFlow.eState == .allocated

/-- Where a call of `RINA_flow_read` is between its accesses: before the first one,
waiting for the event bit, counting the packets after it, taking a buffer out of
the queue, copying from the buffer, or back with its result and the bytes copied. -/
inductive ReadPoint where
  | entry
  | waiting (pxFlowHandle : HandleId)
  | counting (pxFlowHandle : HandleId)
  | taking (pxFlowHandle : HandleId)
  | copying (pxNetworkBuffer : BufferId)
  | returned (lDataLength : Int32) (copied : List UInt8)
  deriving Repr, DecidableEq

/-- The bytes `memcpy` takes from a buffer. -/
def readDataBuffer (descriptor : NetworkBufferDescriptor) : Rina (List UInt8) := do
  if descriptor.xDataLength = 0 then return []
  let offset ← follow descriptor.pucDataBuffer
  copyFrom descriptor.pucEthernetBuffer offset descriptor.xDataLength.toNat

/-- A call goes on to its next access; `clock` tells whether the clock can be read.
The time left is never looked at, and neither is the size of the caller's buffer. -/
def rinaFlowRead (xReceiveBlockTime : Nat) (xPortId : PortId) (clock : Bool) :
    ReadPoint → Rina ReadPoint
  | .entry => do
      if !xNormalIsFlowAllocated xPortId (← readCore).xFlowsList then return .returned 0 []
      let pxFlowHandle ← follow (← pxFAFindFlowHandle xPortId)
      let xPacketCount := unRsListLength (← readHandle pxFlowHandle).waitingPackets
      if xPacketCount ≠ 0 then return .taking pxFlowHandle
      if xReceiveBlockTime = 0 then return .returned (-1) []
      if !clock then return .returned (-1) []
      return .waiting pxFlowHandle
  | .waiting pxFlowHandle => do
      let handle ← readHandle pxFlowHandle
      match prvWaitForBit (nEventBits handle) eFlowReceive true with
      | none => return .waiting pxFlowHandle
      | some bits =>
          writeHandle pxFlowHandle (handle.withEventBits bits)
          return .counting pxFlowHandle
  | .counting pxFlowHandle => do
      let xPacketCount := unRsListLength (← readHandle pxFlowHandle).waitingPackets
      if xPacketCount ≠ 0 then return .taking pxFlowHandle
      if !clock then return .returned 0 []
      return .waiting pxFlowHandle
  | .taking pxFlowHandle => do
      let handle ← readHandle pxFlowHandle
      let pxNetworkBuffer ← follow (pxRsListGetHeadOwner handle.waitingPackets)
      writeHandle pxFlowHandle
        { handle with
          xListWaitingPackets := vRsListRemove handle.xListWaitingPackets pxNetworkBuffer }
      return .copying pxNetworkBuffer
  | .copying pxNetworkBuffer => do
      let descriptor ← readBuffer pxNetworkBuffer
      let copied ← readDataBuffer descriptor
      vReleaseNetworkBufferAndDescriptor pxNetworkBuffer
      return .returned descriptor.xDataLength.toInt32 copied
  | .returned lDataLength copied => return .returned lDataLength copied

/-! ## Runs -/

/-- A node with the calls on the port of one flow: the handles of posts that have not
signalled yet, where every read is, and the buffers posted and taken out so far. -/
structure Reception where
  node : Node
  signals : List HandleId
  reads : Nat → ReadPoint
  posted : List BufferId
  taken : List BufferId

/-- A node with no call on the flow yet. -/
def Reception.start (node : Node) : Reception where
  node
  signals := []
  reads := fun _ => .entry
  posted := []
  taken := []

/-- An access: a post as far as its insertion, the signal of one of the posts that
got so far, or the next access of a read. -/
inductive ReceptionEvent where
  | post (pxDu : DuId)
  | signal (post : Nat)
  | read (call : Nat) (clock : Bool)
  deriving Repr, DecidableEq

abbrev Receiving := EStateM Fault Reception

/-- A command on the node. -/
def onNode {α : Type} (command : Rina α) : Receiving α := do
  let state ← get
  match command.run state.node with
  | .ok value node =>
      set { state with node }
      return value
  | .error fault node =>
      set { state with node }
      throw fault

/-- The buffer a read has taken out when it goes on to copy from it. -/
def ReadPoint.takes : ReadPoint → ReadPoint → List BufferId
  | .taking _, .copying pxNetworkBuffer => [pxNetworkBuffer]
  | _, _ => []

def Reception.perform (xReceiveBlockTime : Nat) (xPortId : PortId) :
    ReceptionEvent → Receiving Unit
  | .post pxDu => do
      match ← onNode (insertDu xPortId pxDu) with
      | none => return ()
      | some (handle, pxNetworkBuffer) =>
          modify fun state =>
            { state with
              signals := state.signals ++ [handle]
              posted := state.posted ++ [pxNetworkBuffer] }
  | .signal post => do
      match (← get).signals[post]? with
      | none => return ()
      | some handle =>
          onNode (signalReceive handle)
          modify fun state => { state with signals := state.signals.eraseIdx post }
  | .read call clock => do
      let point := (← get).reads call
      let next ← onNode (rinaFlowRead xReceiveBlockTime xPortId clock point)
      modify fun state =>
        { state with
          reads := Function.update state.reads call next
          taken := state.taken ++ point.takes next }

/-! ## Purpose -/

/-- The buffers taken out are the first ones that were posted, in their order, a read
that takes one out gets one, and no read copies more than its caller has room for. -/
structure ReadsProperly (uxTotalDataLength : Nat → SizeT) (before : Reception)
    (event : ReceptionEvent) (result : EStateM.Result Fault Reception Unit) : Prop where
  inOrder : (Command.final result).taken <+: (Command.final result).posted
  present : ∀ call clock handle, event = .read call clock → before.reads call = .taking handle →
    ∃ pxNetworkBuffer, (Command.final result).reads call = .copying pxNetworkBuffer
  bounded : ∀ call lDataLength copied,
    (Command.final result).reads call = .returned lDataLength copied →
      copied.length ≤ (uxTotalDataLength call).toNat

/-- No read goes as far as to take a buffer out. -/
def TakesNothing (before : Reception) (event : ReceptionEvent) : Prop :=
  ∀ call clock handle, event = .read call clock → before.reads call ≠ .taking handle

/-! ## What the steps do -/

theorem run_postToHandle (handle : HandleId) (pxNetworkBuffer : BufferId) (node : Node) :
    (postToHandle handle pxNetworkBuffer).run node =
      (insertBuffer handle pxNetworkBuffer >>= fun _ => signalReceive handle).run node := by
  cases found : node.handles.get? handle with
  | none => simp [postToHandle, insertBuffer, readHandle, found]
  | some value =>
      simp [postToHandle, insertBuffer, signalReceive, readHandle, writeHandle, found,
        Store.get?_set_self found, Node.post, FlowAllocateHandle.post]

/-- A post that is not interrupted inserts and signals. -/
theorem xFlowAllocatorDuPost_eq (xAppPortId : PortId) (pxDu : DuId) :
    xFlowAllocatorDuPost xAppPortId pxDu = do
      match ← insertDu xAppPortId pxDu with
      | none => return false
      | some (handle, _) =>
          signalReceive handle
          return true := by
  funext node
  change (xFlowAllocatorDuPost xAppPortId pxDu).run node = EStateM.run _ node
  simp only [xFlowAllocatorDuPost, insertDu, EStateM.run_bind]
  cases (readDu pxDu).run node with
  | error fault node => rfl
  | ok du node =>
      dsimp only
      split
      · simp only [EStateM.run_bind]
        cases (xDuDestroy pxDu).run node <;> rfl
      · simp only [EStateM.run_bind]
        cases (pxFAFindInstance xAppPortId).run node with
        | error fault node => rfl
        | ok found node =>
            cases found with
            | none =>
                simp only [EStateM.run_bind]
                cases (xDuDestroy pxDu).run node <;> rfl
            | some pxFlowAllocatorInstance =>
                simp only [EStateM.run_bind]
                cases (follow du.pxNetworkBuffer).run node with
                | error fault node => rfl
                | ok pxNetworkBuffer node =>
                    dsimp only
                    split
                    · simp only [EStateM.run_bind]
                      cases (xDuDestroy pxDu).run node <;> rfl
                    · rw [EStateM.run_bind, run_postToHandle]
                      simp only [EStateM.run_bind]
                      cases (insertBuffer _ pxNetworkBuffer).run node <;> rfl

theorem run_onNode {α : Type} (command : Rina α) (state : Reception) :
    (onNode command).run state =
      match command.run state.node with
      | .ok value node => .ok value { state with node }
      | .error fault node => .error fault { state with node } := by
  cases run : command.run state.node with
  | ok value node => simp [onNode, run]
  | error fault node => simp [onNode, run]

/-- A read that has not taken a buffer. -/
def ReadPoint.EmptyHanded : ReadPoint → Prop
  | .copying _ => False
  | .returned _ copied => copied = []
  | _ => True

section EmptyHanded

variable (pxFlowHandle : HandleId)

theorem emptyHanded_waiting : (ReadPoint.waiting pxFlowHandle).EmptyHanded := trivial

theorem emptyHanded_counting : (ReadPoint.counting pxFlowHandle).EmptyHanded := trivial

theorem emptyHanded_taking : (ReadPoint.taking pxFlowHandle).EmptyHanded := trivial

theorem emptyHanded_returned (lDataLength : Int32) :
    (ReadPoint.returned lDataLength []).EmptyHanded := rfl

end EmptyHanded

section Reads

variable (xReceiveBlockTime : Nat) (xPortId : PortId) (clock : Bool)

/-- The head has no owner, so a read that takes a buffer follows no pointer. -/
theorem run_rinaFlowRead_taking (handle : HandleId) (node : Node) :
    ∃ fault, (rinaFlowRead xReceiveBlockTime xPortId clock (.taking handle)).run node =
      .error fault node := by
  cases found : node.handles.get? handle with
  | none => exact ⟨.released, by simp [rinaFlowRead, readHandle, found]⟩
  | some value =>
      have noOwner : pxRsListGetHeadOwner value.waitingPackets = none := rfl
      exact ⟨.nullPointer, by simp [rinaFlowRead, readHandle, found, noOwner]⟩

/-- A read that takes a buffer out ends the run where it is. -/
theorem run_perform_taking {before : Reception} {call : Nat} {handle : HandleId}
    (taking : before.reads call = .taking handle) :
    ∃ fault, (Reception.perform xReceiveBlockTime xPortId (.read call clock)).run before =
      .error fault before := by
  obtain ⟨fault, run⟩ :=
    run_rinaFlowRead_taking xReceiveBlockTime xPortId clock handle before.node
  refine ⟨fault, ?_⟩
  simp only [Reception.perform, EStateM.run_bind, EStateM.run_get, run_onNode, taking, run]

theorem rinaFlowRead_emptyHanded {point : ReadPoint} (before : point.EmptyHanded) :
    Command.Yields ReadPoint.EmptyHanded (rinaFlowRead xReceiveBlockTime xPortId clock point) := by
  cases point with
  | entry =>
      apply Command.yields_bind
      intro core
      apply Command.yields_ite
      · exact Command.yields_pure (emptyHanded_returned 0)
      · apply Command.yields_bind
        intro found
        apply Command.yields_bind
        intro pxFlowHandle
        apply Command.yields_bind
        intro handle
        apply Command.yields_ite
        · exact Command.yields_pure (emptyHanded_taking pxFlowHandle)
        · apply Command.yields_ite
          · exact Command.yields_pure (emptyHanded_returned (-1))
          · apply Command.yields_ite
            · exact Command.yields_pure (emptyHanded_returned (-1))
            · exact Command.yields_pure (emptyHanded_waiting pxFlowHandle)
  | waiting pxFlowHandle =>
      apply Command.yields_bind
      intro handle
      cases prvWaitForBit (nEventBits handle) eFlowReceive true with
      | none => exact Command.yields_pure (emptyHanded_waiting pxFlowHandle)
      | some bits =>
          apply Command.yields_bind
          intro _
          exact Command.yields_pure (emptyHanded_counting pxFlowHandle)
  | counting pxFlowHandle =>
      apply Command.yields_bind
      intro handle
      apply Command.yields_ite
      · exact Command.yields_pure (emptyHanded_taking pxFlowHandle)
      · apply Command.yields_ite
        · exact Command.yields_pure (emptyHanded_returned 0)
        · exact Command.yields_pure (emptyHanded_waiting pxFlowHandle)
  | taking pxFlowHandle =>
      intro node next after returned
      obtain ⟨fault, run⟩ := run_rinaFlowRead_taking xReceiveBlockTime xPortId clock pxFlowHandle node
      rw [run] at returned
      cases returned
  | copying pxNetworkBuffer => exact before.elim
  | returned lDataLength copied => exact Command.yields_pure before

end Reads

/-- No read so far has taken a buffer. -/
structure Reception.Untouched (state : Reception) : Prop where
  taken : state.taken = []
  reads : ∀ call, (state.reads call).EmptyHanded

theorem Reception.untouched_start (node : Node) : (Reception.start node).Untouched where
  taken := rfl
  reads := fun _ => trivial

theorem ReadPoint.takes_of_emptyHanded {point next : ReadPoint} (empty : next.EmptyHanded) :
    point.takes next = [] := by
  cases next with
  | copying pxNetworkBuffer => exact empty.elim
  | _ => cases point <;> rfl

section Steps

variable {xReceiveBlockTime : Nat} {xPortId : PortId}

/-- Nothing is ever taken out of the queue. -/
theorem Reception.Untouched.perform {before : Reception} (untouched : before.Untouched)
    (event : ReceptionEvent) :
    (Command.final ((Reception.perform xReceiveBlockTime xPortId event).run before)).Untouched := by
  cases event with
  | post pxDu =>
      simp only [Reception.perform, EStateM.run_bind, run_onNode]
      cases (insertDu xPortId pxDu).run before.node with
      | error fault node => exact ⟨untouched.taken, untouched.reads⟩
      | ok inserted node =>
          cases inserted with
          | none => exact ⟨untouched.taken, untouched.reads⟩
          | some inserted => exact ⟨untouched.taken, untouched.reads⟩
  | signal post =>
      simp only [Reception.perform, EStateM.run_bind, EStateM.run_get]
      cases before.signals[post]? with
      | none => exact untouched
      | some handle =>
          simp only [EStateM.run_bind, run_onNode]
          cases (signalReceive handle).run before.node with
          | error fault node => exact ⟨untouched.taken, untouched.reads⟩
          | ok value node => exact ⟨untouched.taken, untouched.reads⟩
  | read call clock =>
      simp only [Reception.perform, EStateM.run_bind, EStateM.run_get, run_onNode]
      have yields := rinaFlowRead_emptyHanded xReceiveBlockTime xPortId clock (untouched.reads call)
      cases run : (rinaFlowRead xReceiveBlockTime xPortId clock (before.reads call)).run
          before.node with
      | error fault node => exact ⟨untouched.taken, untouched.reads⟩
      | ok next node =>
          have empty := yields _ _ _ run
          constructor
          · change before.taken ++ (before.reads call).takes next = []
            rw [untouched.taken, ReadPoint.takes_of_emptyHanded empty]
            rfl
          · intro other
            change (Function.update before.reads call next other).EmptyHanded
            by_cases same : other = call
            · rw [same, Function.update_self]
              exact empty
            · rw [Function.update_of_ne same]
              exact untouched.reads other

theorem Reception.Untouched.properly_iff {before : Reception} (untouched : before.Untouched)
    (uxTotalDataLength : Nat → SizeT) (event : ReceptionEvent) :
    ReadsProperly uxTotalDataLength before event
      ((Reception.perform xReceiveBlockTime xPortId event).run before) ↔
        TakesNothing before event := by
  constructor
  · intro properly call clock handle isRead taking
    subst isRead
    obtain ⟨pxNetworkBuffer, copying⟩ := properly.present call clock handle rfl taking
    obtain ⟨fault, run⟩ := run_perform_taking xReceiveBlockTime xPortId clock taking
    rw [run, Command.final_error, taking] at copying
    cases copying
  · intro nothing
    have after : (Command.final
        ((Reception.perform xReceiveBlockTime xPortId event).run before)).Untouched :=
      untouched.perform event
    constructor
    · rw [after.taken]
      exact List.nil_prefix
    · intro call clock handle isRead taking
      exact absurd taking (nothing call clock handle isRead)
    · intro call lDataLength copied isReturned
      have empty := after.reads call
      rw [isReturned] at empty
      rw [show copied = [] from empty]
      exact Nat.zero_le _

end Steps

/-- In a run of posts and reads on a flow the reads take out the data units in the
order they were posted, if and only if none of them gets to take one out. -/
theorem reads_properly_iff (xReceiveBlockTime : Nat) (xPortId : PortId)
    (uxTotalDataLength : Nat → SizeT) (node : Node) (events : List ReceptionEvent) :
    (∀ occurrence ∈ trace (Reception.perform xReceiveBlockTime xPortId) events (.start node),
      ReadsProperly uxTotalDataLength occurrence.before occurrence.event occurrence.result) ↔
    ∀ occurrence ∈ trace (Reception.perform xReceiveBlockTime xPortId) events (.start node),
      TakesNothing occurrence.before occurrence.event :=
  proper_iff_supported Reception.Untouched TakesNothing (ReadsProperly uxTotalDataLength)
    (fun _ event untouched => untouched.properly_iff uxTotalDataLength event)
    (fun _ event untouched _ => untouched.perform event) (Reception.untouched_start node)

/-! ## A read that follows no pointer -/

/-- A node with an allocated flow of port 7 and a data unit received for it. -/
def Node.receiving : Node :=
  { Node.blank with
    core := { Node.blank.core with
      xFlowRequestTable :=
        [{ pxFAI := some { xPortId := 7, eFaiState := .allocated, pxFlowAllocatorHandle := 0 }
           xValid := true }]
      xFlowsList := [{ xPortId := 7, eState := .allocated, xActive := 1 }] }
    buffers := (Store.empty.allocate (freshDescriptor 4)).1
    dus := (Store.empty.allocate { pxNetworkBuffer := some 0, pxPci := some 0 }).1
    handles := (Store.empty.allocate
      { xPortId := 7
        xListWaitingPackets := []
        eFlowBound := true
        eFlowReceive := false }).1 }

/-- The node after the data unit was posted. -/
def Node.received : Node :=
  { Node.receiving with
    handles := Node.receiving.handles.set 0
      { xPortId := 7
        xListWaitingPackets := [0]
        eFlowBound := true
        eFlowReceive := false } }

/-- A data unit is posted, and a read finds it and fails to take it. -/
theorem posted_not_taken :
    ¬ ∀ occurrence ∈ trace (Reception.perform flowDefaultReceiveBlockTime 7)
        [.post 0, .read 0 true, .read 0 true] (.start Node.receiving),
      ReadsProperly (fun _ => 4) occurrence.before occurrence.event occurrence.result := by
  intro each
  let posted : Reception :=
    { Reception.start Node.receiving with node := Node.received, signals := [0], posted := [0] }
  let counted : Reception :=
    { posted with reads := Function.update posted.reads 0 (.taking 0) }
  have post : (Reception.perform flowDefaultReceiveBlockTime 7 (.post 0)).run
      (.start Node.receiving) = .ok () posted := rfl
  have count : (Reception.perform flowDefaultReceiveBlockTime 7 (.read 0 true)).run posted =
      .ok () counted := rfl
  have properly := each _ (mem_trace_cons.mpr (.inr ⟨_, _, post, mem_trace_cons.mpr
    (.inr ⟨_, _, count, mem_trace_cons.mpr (.inl rfl)⟩)⟩))
  obtain ⟨pxNetworkBuffer, copying⟩ := properly.present 0 true 0 rfl rfl
  obtain ⟨fault, taking⟩ :=
    run_perform_taking flowDefaultReceiveBlockTime 7 true (show counted.reads 0 = .taking 0 from rfl)
  change (Command.final ((Reception.perform flowDefaultReceiveBlockTime 7 (.read 0 true)).run
    counted)).reads 0 = .copying pxNetworkBuffer at copying
  rw [taking] at copying
  cases copying

end RinaSense
