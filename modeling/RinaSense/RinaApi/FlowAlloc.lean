import RinaSense.Common.RsTime
import RinaSense.Library.Command
import RinaSense.RinaApi.FlowEvents

/-!
# Allocating a flow

`RINA_flow_alloc` and what it calls in `rina_api.c`: the flow request is built,
bound and queued, and the call waits for the flow in a loop. The loop is entered
when that failed, every way out of it ends with the port id of the request, and
the request is used whether there is one or not.
-/

namespace RinaSense

open EventOp

/-- `FLOW_DEFAULT_RECEIVE_BLOCK_TIME`, in microseconds. -/
def flowDefaultReceiveBlockTime : Nat := 100

/-- The fields of `flowAllocateHandle_t` the call reads. -/
structure FlowAllocateRequest where
  xPortId : PortId
  xReceiveBlockTime : Nat
  deriving Repr, DecidableEq

/-- Outcomes of building a request: memory, the initialisation of condition and
mutex, memory for the copies of the names, and the port id allocated. -/
structure RequestOutcomes where
  flowSpecMemory : Bool
  requestMemory : Bool
  condInit : Bool
  mutexInit : Bool
  namesCreated : Bool
  nameMemory : Bool
  xPortId : PortId
  deriving Repr, DecidableEq

/-- One pass of the wait loop: when it reads the flow status, and what the clock
shows when it checks the timeout, if it can be read. -/
structure Pass where
  now : Nat
  clock : Option ClockReading
  deriving Repr, DecidableEq

/-- What happens around a call: whether the events can be queued, the bits signalled
on the handle in their order, the clock when the timeout is set, the passes of the
wait loop, the time of the call, and when the flow of the port is allocated. -/
structure AllocOutcomes where
  request : RequestOutcomes
  bindEvent : Bool
  allocateEvent : Bool
  timerEvent : Bool
  wakeUps : List EventBits
  timeoutClock : Option ClockReading
  passes : List Pass
  called : Nat
  flowAllocated : Nat → Bool

/-- Ways a call does not return. -/
inductive AllocStop where
  | waiting
  | fault (fault : Fault)
  deriving Repr, DecidableEq

/-- The event bits of the handle and the signals still to come. -/
structure AllocState where
  nEventBits : EventBits
  wakeUps : List EventBits
  deriving Repr, DecidableEq

abbrev Alloc := EStateM AllocStop AllocState

/-- The copy of a string is cleared before it is known whether there is one. -/
def xRinaNameFromString (memory : Bool) (pcString : Option String) : Alloc Bool :=
  match pcString with
  | none => return false
  | some _ => if !memory then throw (.fault .nullPointer) else return true

def prvRinaCreateFlowRequest (outcomes : RequestOutcomes)
    (pcNameDif pcLocalApp pcRemoteApp : Option String) : Alloc (Option FlowAllocateRequest) := do
  if !outcomes.flowSpecMemory then return none
  if !outcomes.requestMemory then return none
  if !outcomes.condInit then return none
  if !outcomes.mutexInit then return none
  if !outcomes.namesCreated then return none
  if !(← xRinaNameFromString outcomes.nameMemory pcNameDif) then return none
  if pcLocalApp.isNone then return none
  if !(← xRinaNameFromString outcomes.nameMemory pcLocalApp) then return none
  if pcRemoteApp.isNone then return none
  if !(← xRinaNameFromString outcomes.nameMemory pcRemoteApp) then return none
  return some
    { xPortId := outcomes.xPortId
      xReceiveBlockTime := flowDefaultReceiveBlockTime }

/-- A wait with clearing, given the signals that come while it lasts. -/
def waitFor (nDesiredBits nEventBits : EventBits) :
    List EventBits → Option (EventBits × List EventBits)
  | [] => (prvWaitForBit nEventBits nDesiredBits true).map fun next => (next, [])
  | signalled :: wakeUps =>
      match prvWaitForBit nEventBits nDesiredBits true with
      | some next => some (next, signalled :: wakeUps)
      | none => waitFor nDesiredBits (nEventBits ||| signalled) wakeUps

def waitForBit (nDesiredBits : EventBits) : Alloc Unit := do
  let state ← get
  match waitFor nDesiredBits state.nEventBits state.wakeUps with
  | none => throw .waiting
  | some (nEventBits, wakeUps) => set (AllocState.mk nEventBits wakeUps)

def xRinaBind (outcomes : AllocOutcomes) (pxFlowRequest : Option FlowAllocateRequest) :
    Alloc Bool := do
  if pxFlowRequest.isNone then return false
  if !outcomes.bindEvent then return false
  waitForBit eFlowBound
  return true

/-- What is found out before the binding, that there is no request or that the flow
is allocated already, is overwritten by its result. The error code for an event
that cannot be queued becomes `true`. -/
def prvConnect (outcomes : AllocOutcomes) (pxFlowAllocateRequest : Option FlowAllocateRequest) :
    Alloc Bool := do
  let xResult ← xRinaBind outcomes pxFlowAllocateRequest
  if xResult then
    if !outcomes.allocateEvent then return true
    if !outcomes.timerEvent then return false
  return xResult

/-- The passes of the wait loop. A check of the timeout that succeeds is taken for a
failed one. The call goes on when the passes end. -/
def waitLoop (outcomes : AllocOutcomes) (pTimeOut : RsTimeOut) : List Pass → Alloc Unit
  | [] => throw .waiting
  | pass :: passes => do
      if outcomes.flowAllocated pass.now then return ()
      let (checked, pTimeOut) := xRsTimeCheckTimeOut pass.clock pTimeOut
      if checked then return ()
      if pTimeOut.xTimeLeft = 0 then return ()
      waitForBit eFlowAccept
      waitLoop outcomes pTimeOut passes

/-- The time-out before the loop, with the zero reading in place of what an unset one holds. -/
def AllocOutcomes.timeOut (outcomes : AllocOutcomes) (xReceiveBlockTime : Nat) : RsTimeOut where
  xTimespec := (xRsTimeSetTimeOut outcomes.timeoutClock).getD ClockReading.zero
  xTimeLeft := UInt32.ofNat xReceiveBlockTime

def rinaFlowAlloc (outcomes : AllocOutcomes) (pcNameDif pcLocalApp pcRemoteApp : Option String) :
    Alloc PortId := do
  let pxFlowAllocateRequest ←
    prvRinaCreateFlowRequest outcomes.request pcNameDif pcLocalApp pcRemoteApp
  let xResult ← prvConnect outcomes pxFlowAllocateRequest
  match pxFlowAllocateRequest with
  | none => throw (.fault .nullPointer)
  | some request =>
      if !xResult then
        if request.xReceiveBlockTime ≠ 0 then
          waitLoop outcomes (outcomes.timeOut request.xReceiveBlockTime) outcomes.passes
      return request.xPortId

/-! ## Purpose -/

/-- The flow of the port is allocated at some time before the call's deadline. -/
def AllocOutcomes.AllocatedInTime (outcomes : AllocOutcomes) : Prop :=
  ∃ now, now < outcomes.called + flowDefaultReceiveBlockTime ∧ outcomes.flowAllocated now = true

/-- The call returns, with a port id exactly if the flow was allocated in time. -/
def AllocOutcomes.Reports (outcomes : AllocOutcomes)
    (result : EStateM.Result AllocStop AllocState PortId) : Prop :=
  match result with
  | .ok xPortId _ => xPortId ≠ portIdWrong ↔ outcomes.AllocatedInTime
  | .error _ _ => False

/-- A call begins with a handle without event bits. -/
def AllocOutcomes.start (outcomes : AllocOutcomes) : AllocState where
  nEventBits := 0#32
  wakeUps := outcomes.wakeUps

/-! ## Condition -/

/-- Everything the request needs is there. -/
structure RequestOutcomes.Built (outcomes : RequestOutcomes)
    (pcNameDif pcLocalApp pcRemoteApp : Option String) : Prop where
  flowSpecMemory : outcomes.flowSpecMemory = true
  requestMemory : outcomes.requestMemory = true
  condInit : outcomes.condInit = true
  mutexInit : outcomes.mutexInit = true
  namesCreated : outcomes.namesCreated = true
  nameMemory : outcomes.nameMemory = true
  nameDif : pcNameDif.isSome = true
  localApp : pcLocalApp.isSome = true
  remoteApp : pcRemoteApp.isSome = true

/-- One of the signals has one of the bits. -/
def Signalled (bits : EventBits) (wakeUps : List EventBits) : Prop :=
  ∃ signalled ∈ wakeUps, signalled &&& bits ≠ 0#32

/-- A pass that leaves the loop: the flow is allocated or the clock can be read. -/
def AllocOutcomes.Leaves (outcomes : AllocOutcomes) (pass : Pass) : Prop :=
  outcomes.flowAllocated pass.now = true ∨ pass.clock.isSome = true

/-- The waits of the call end: for the binding, where its event is queued; and in
the loop, where it is entered. The first wait in the loop needs a signal only
without a binding, since the binding leaves all other bits set. -/
structure AllocOutcomes.Returns (outcomes : AllocOutcomes) : Prop where
  bound : outcomes.bindEvent = true → Signalled eFlowBound outcomes.wakeUps
  left : (outcomes.bindEvent = true → outcomes.allocateEvent = true ∧ outcomes.timerEvent = false) →
    ∃ pass ∈ outcomes.passes, outcomes.Leaves pass
  accepted : outcomes.bindEvent = false → (∀ pass, outcomes.passes.head? = some pass →
    ¬ outcomes.Leaves pass) → Signalled eFlowAccept outcomes.wakeUps

/-- A good port id is allocated and its flow in time, or there is no port id and no flow in
time. -/
def AllocOutcomes.Granted (outcomes : AllocOutcomes) : Prop :=
  (outcomes.request.xPortId ≠ portIdWrong ∧ ∃ now,
      now < outcomes.called + flowDefaultReceiveBlockTime ∧ outcomes.flowAllocated now = true) ∨
    (outcomes.request.xPortId = portIdWrong ∧ ∀ now,
      now < outcomes.called + flowDefaultReceiveBlockTime → outcomes.flowAllocated now = false)

/-! ## Waits -/

section Waits

variable {nDesiredBits nEventBits : EventBits} {wakeUps : List EventBits}

theorem waitFor_of_set (set : nEventBits &&& nDesiredBits ≠ 0#32) :
    waitFor nDesiredBits nEventBits wakeUps =
      some (nEventBits ||| ~~~nDesiredBits, wakeUps) := by
  cases wakeUps with
  | nil => simp [waitFor, prvWaitForBit, set]
  | cons signalled wakeUps => simp [waitFor, prvWaitForBit, set]

/-- A wait ends if a desired bit is set or comes; it adds all other bits to those
that are set then. -/
theorem waitFor_isSome_iff :
    (waitFor nDesiredBits nEventBits wakeUps).isSome = true ↔
      nEventBits &&& nDesiredBits ≠ 0#32 ∨ Signalled nDesiredBits wakeUps := by
  induction wakeUps generalizing nEventBits with
  | nil =>
      by_cases set : nEventBits &&& nDesiredBits = 0#32
      · simp [waitFor, prvWaitForBit, set, Signalled]
      · simp [waitFor, prvWaitForBit, set]
  | cons signalled wakeUps ih =>
      by_cases set : nEventBits &&& nDesiredBits = 0#32
      · have waits : prvWaitForBit nEventBits nDesiredBits true = none := by
          simp [prvWaitForBit, set]
        simp only [waitFor, waits, ih, Signalled, List.mem_cons, exists_eq_or_imp]
        rw [ne_eq, or_and_eq_zero]
        simp [set]
      · simp [waitFor_of_set set, set]

theorem waitFor_sets {next : EventBits} {rest : List EventBits}
    (ends : waitFor nDesiredBits nEventBits wakeUps = some (next, rest)) :
    ∃ before, before &&& nDesiredBits ≠ 0#32 ∧ next = before ||| ~~~nDesiredBits := by
  induction wakeUps generalizing nEventBits with
  | nil =>
      by_cases set : nEventBits &&& nDesiredBits = 0#32
      · simp [waitFor, prvWaitForBit, set] at ends
      · rw [waitFor_of_set set, Option.some.injEq, Prod.mk.injEq] at ends
        exact ⟨nEventBits, set, ends.1.symm⟩
  | cons signalled wakeUps ih =>
      by_cases set : nEventBits &&& nDesiredBits = 0#32
      · have waits : prvWaitForBit nEventBits nDesiredBits true = none := by
          simp [prvWaitForBit, set]
        simp only [waitFor, waits] at ends
        exact ih ends
      · rw [waitFor_of_set set, Option.some.injEq, Prod.mk.injEq] at ends
        exact ⟨nEventBits, set, ends.1.symm⟩

/-- After a wait for the binding or the acceptance, that of the acceptance is set. -/
theorem accept_set {bits : EventBits} (isBit : bits = eFlowBound ∨ bits = eFlowAccept)
    {next : EventBits} {rest : List EventBits}
    (ends : waitFor bits nEventBits wakeUps = some (next, rest)) :
    next &&& eFlowAccept ≠ 0#32 := by
  obtain ⟨before, set, rfl⟩ := waitFor_sets ends
  rw [ne_eq, or_and_eq_zero]
  intro ⟨unset, others⟩
  rcases isBit with rfl | rfl
  · exact absurd others (by decide)
  · exact set unset

theorem run_waitForBit (state : AllocState) :
    (waitForBit nDesiredBits).run state =
      match waitFor nDesiredBits state.nEventBits state.wakeUps with
      | none => .error .waiting state
      | some (nEventBits, wakeUps) => .ok () ⟨nEventBits, wakeUps⟩ := by
  simp only [waitForBit, EStateM.run_bind, EStateM.run_get]
  cases waitFor nDesiredBits state.nEventBits state.wakeUps with
  | none => rfl
  | some after => rfl

end Waits

/-! ## The loop -/

section Loop

variable {outcomes : AllocOutcomes} {pTimeOut : RsTimeOut} {pass : Pass}
variable {passes : List Pass} {state : AllocState}

/-- The run returns. -/
def Ends {ε σ α : Type} (result : EStateM.Result ε σ α) : Prop :=
  ∃ value next, result = .ok value next

theorem ends_ok {ε σ α : Type} (value : α) (next : σ) :
    Ends (.ok value next : EStateM.Result ε σ α) := ⟨value, next, rfl⟩

theorem not_ends_error {ε σ α : Type} (fault : ε) (next : σ) :
    ¬ Ends (.error fault next : EStateM.Result ε σ α) := by
  intro ⟨value, last, equal⟩
  cases equal

theorem run_waitLoop_leaves (leaves : outcomes.Leaves pass) :
    (waitLoop outcomes pTimeOut (pass :: passes)).run state = .ok () state := by
  by_cases allocated : outcomes.flowAllocated pass.now = true
  · simp [waitLoop, allocated]
  · obtain ⟨now, clock⟩ := Option.isSome_iff_exists.mp (leaves.resolve_left allocated)
    simp [waitLoop, allocated, clock, xRsTimeCheckTimeOut]

theorem run_waitLoop_stays (stays : ¬ outcomes.Leaves pass) (left : pTimeOut.xTimeLeft ≠ 0) :
    (waitLoop outcomes pTimeOut (pass :: passes)).run state =
      (do waitForBit eFlowAccept
          waitLoop outcomes pTimeOut passes : Alloc Unit).run state := by
  have allocated : outcomes.flowAllocated pass.now = false :=
    Bool.eq_false_of_not_eq_true fun isAllocated => stays (.inl isAllocated)
  have clock : pass.clock = none :=
    Option.not_isSome_iff_eq_none.mp fun isClock => stays (.inr isClock)
  simp [waitLoop, allocated, clock, xRsTimeCheckTimeOut, left]

/-- With the bit waited for set, the passes go on until one leaves. -/
theorem waitLoop_ends_of_set (set : state.nEventBits &&& eFlowAccept ≠ 0#32)
    (left : pTimeOut.xTimeLeft ≠ 0) :
    Ends ((waitLoop outcomes pTimeOut passes).run state) ↔
      ∃ pass ∈ passes, outcomes.Leaves pass := by
  induction passes generalizing state with
  | nil =>
      simp only [List.not_mem_nil, false_and, exists_false, iff_false]
      exact not_ends_error _ _
  | cons pass passes ih =>
      by_cases leaves : outcomes.Leaves pass
      · rw [run_waitLoop_leaves leaves]
        simp only [List.mem_cons, exists_eq_or_imp, leaves, true_or, iff_true]
        exact ends_ok _ _
      · have again : (eFlowAccept ||| ~~~eFlowAccept) &&& eFlowAccept ≠ 0#32 := by decide
        have still : (state.nEventBits ||| ~~~eFlowAccept) &&& eFlowAccept ≠ 0#32 := by
          rw [ne_eq, or_and_eq_zero]
          exact fun both => set both.1
        rw [run_waitLoop_stays leaves left, EStateM.run_bind, run_waitForBit, waitFor_of_set set]
        simp only [List.mem_cons, exists_eq_or_imp, leaves, false_or]
        exact ih still

/-- The first wait needs the bit or a signal of it. -/
theorem waitLoop_ends_iff (left : pTimeOut.xTimeLeft ≠ 0) :
    Ends ((waitLoop outcomes pTimeOut passes).run state) ↔
      (∃ pass ∈ passes, outcomes.Leaves pass) ∧
        ((∀ pass, passes.head? = some pass → ¬ outcomes.Leaves pass) →
          state.nEventBits &&& eFlowAccept ≠ 0#32 ∨ Signalled eFlowAccept state.wakeUps) := by
  cases passes with
  | nil =>
      simp only [List.not_mem_nil, false_and, exists_false, iff_false]
      exact not_ends_error _ _
  | cons pass passes =>
      by_cases leaves : outcomes.Leaves pass
      · rw [run_waitLoop_leaves leaves]
        simp only [List.mem_cons, exists_eq_or_imp, leaves, true_or, List.head?_cons,
          Option.some.injEq, forall_eq', not_true_eq_false, false_implies, and_self, iff_true]
        exact ends_ok _ _
      · rw [run_waitLoop_stays leaves left, EStateM.run_bind, run_waitForBit,
          ← waitFor_isSome_iff]
        simp only [List.mem_cons, exists_eq_or_imp, leaves, false_or, List.head?_cons,
          Option.some.injEq, forall_eq', not_false_eq_true, forall_const]
        cases ends : waitFor eFlowAccept state.nEventBits state.wakeUps with
        | none => simpa using not_ends_error _ _
        | some after =>
            rw [Option.isSome_some, waitLoop_ends_of_set (accept_set (.inr rfl) ends) left]
            simp

end Loop

/-! ## The call -/

section Call

variable {outcomes : AllocOutcomes} {pcNameDif pcLocalApp pcRemoteApp : Option String}

/-- The request of a call that builds one. -/
def RequestOutcomes.allocateRequest (outcomes : RequestOutcomes) : FlowAllocateRequest where
  xPortId := outcomes.xPortId
  xReceiveBlockTime := flowDefaultReceiveBlockTime

theorem run_xRinaNameFromString {pcString : Option String} {state : AllocState}
    (given : pcString.isSome = true) :
    (xRinaNameFromString true pcString).run state = .ok true state := by
  obtain ⟨name, rfl⟩ := Option.isSome_iff_exists.mp given
  rfl

theorem run_prvRinaCreateFlowRequest (state : AllocState)
    (built : outcomes.request.Built pcNameDif pcLocalApp pcRemoteApp) :
    (prvRinaCreateFlowRequest outcomes.request pcNameDif pcLocalApp pcRemoteApp).run state =
      .ok (some outcomes.request.allocateRequest) state := by
  simp [prvRinaCreateFlowRequest, built.flowSpecMemory, built.requestMemory, built.condInit,
    built.mutexInit, built.namesCreated, built.nameMemory,
    run_xRinaNameFromString built.nameDif, run_xRinaNameFromString built.localApp,
    run_xRinaNameFromString built.remoteApp, Option.isNone_eq_false_iff.mpr built.localApp,
    Option.isNone_eq_false_iff.mpr built.remoteApp, RequestOutcomes.allocateRequest]

/-- A request that is not built: there is none, or building it ends the call. -/
def Refused (command : Alloc (Option FlowAllocateRequest)) (state : AllocState) : Prop :=
  command.run state = .ok none state ∨ command.run state = .error (.fault .nullPointer) state

theorem refused_guard {present : Bool} {rest : Alloc (Option FlowAllocateRequest)}
    {state : AllocState} (refused : present = true → Refused rest state) :
    Refused (do if !present then return none
                rest) state := by
  cases present with
  | false => exact .inl rfl
  | true => exact refused rfl

theorem refused_name {memory : Bool} {pcString : Option String}
    {rest : Alloc (Option FlowAllocateRequest)} {state : AllocState}
    (refused : memory = true → pcString.isSome = true → Refused rest state) :
    Refused (do if !(← xRinaNameFromString memory pcString) then return none
                rest) state := by
  cases pcString with
  | none => exact .inl rfl
  | some name =>
      cases memory with
      | false => exact .inr rfl
      | true => exact refused rfl rfl

theorem refused_given {pcString : Option String} {rest : Alloc (Option FlowAllocateRequest)}
    {state : AllocState} (refused : Refused rest state) :
    Refused (do if pcString.isNone then return none
                rest) state := by
  cases pcString with
  | none => exact .inl rfl
  | some name => exact refused

/-- Without one of the things needed no request is built. -/
theorem refused_of_missing (state : AllocState)
    (missing : ¬ outcomes.request.Built pcNameDif pcLocalApp pcRemoteApp) :
    Refused (prvRinaCreateFlowRequest outcomes.request pcNameDif pcLocalApp pcRemoteApp)
      state := by
  apply refused_guard
  intro flowSpecMemory
  apply refused_guard
  intro requestMemory
  apply refused_guard
  intro condInit
  apply refused_guard
  intro mutexInit
  apply refused_guard
  intro namesCreated
  apply refused_name
  intro nameMemory nameDif
  apply refused_given
  apply refused_name
  intro _ localApp
  apply refused_given
  apply refused_name
  intro _ remoteApp
  exact absurd ⟨flowSpecMemory, requestMemory, condInit, mutexInit, namesCreated, nameMemory,
    nameDif, localApp, remoteApp⟩ missing

/-- Without a request the call uses an absent one. -/
theorem run_rinaFlowAlloc_missing (state : AllocState)
    (missing : ¬ outcomes.request.Built pcNameDif pcLocalApp pcRemoteApp) :
    (rinaFlowAlloc outcomes pcNameDif pcLocalApp pcRemoteApp).run state =
      .error (.fault .nullPointer) state := by
  rw [rinaFlowAlloc]
  cases refused_of_missing state missing with
  | inl none =>
      rw [Command.run_bind_ok none]
      rfl
  | inr faulted => rw [Command.run_bind_error faulted]

/-- The call from the result of the connection on. -/
def finishAlloc (outcomes : AllocOutcomes) (xResult : Bool) : Alloc PortId := do
  if !xResult then
    waitLoop outcomes (outcomes.timeOut flowDefaultReceiveBlockTime) outcomes.passes
  return outcomes.request.xPortId

theorem run_rinaFlowAlloc_eq (state : AllocState)
    (built : outcomes.request.Built pcNameDif pcLocalApp pcRemoteApp) :
    (rinaFlowAlloc outcomes pcNameDif pcLocalApp pcRemoteApp).run state =
      (do finishAlloc outcomes (← prvConnect outcomes (some outcomes.request.allocateRequest)) :
        Alloc PortId).run state := by
  rw [rinaFlowAlloc, Command.run_bind_ok (run_prvRinaCreateFlowRequest state built)]
  rfl

/-- Whatever the loop ends with, the port id is returned. -/
theorem run_finishAlloc (xResult : Bool) (state : AllocState) :
    (finishAlloc outcomes xResult).run state =
      if xResult then .ok outcomes.request.xPortId state
      else match (waitLoop outcomes (outcomes.timeOut flowDefaultReceiveBlockTime)
          outcomes.passes).run state with
        | .ok _ next => .ok outcomes.request.xPortId next
        | .error stop next => .error stop next := by
  cases xResult with
  | true => rfl
  | false =>
      simp only [finishAlloc, Bool.not_false, if_true, Bool.false_eq_true, if_false,
        EStateM.run_bind]
      cases (waitLoop outcomes (outcomes.timeOut flowDefaultReceiveBlockTime)
          outcomes.passes).run state with
      | ok value next => rfl
      | error stop next => rfl

theorem finishAlloc_port {xResult : Bool} {state next : AllocState} {xPortId : PortId}
    (run : (finishAlloc outcomes xResult).run state = .ok xPortId next) :
    xPortId = outcomes.request.xPortId := by
  rw [run_finishAlloc] at run
  split at run
  · exact ((EStateM.Result.ok.inj run).1).symm
  · split at run
    · exact ((EStateM.Result.ok.inj run).1).symm
    · cases run

theorem finishAlloc_ends_iff (state : AllocState) :
    Ends ((finishAlloc outcomes false).run state) ↔
      Ends ((waitLoop outcomes (outcomes.timeOut flowDefaultReceiveBlockTime)
        outcomes.passes).run state) := by
  rw [run_finishAlloc, if_neg Bool.false_ne_true]
  cases (waitLoop outcomes (outcomes.timeOut flowDefaultReceiveBlockTime)
      outcomes.passes).run state with
  | ok value next => exact iff_of_true (ends_ok _ _) (ends_ok _ _)
  | error stop next => exact iff_of_false (not_ends_error _ _) (not_ends_error _ _)

/-- The connection with a request. -/
theorem run_prvConnect (request : FlowAllocateRequest) :
    (prvConnect outcomes (some request)).run outcomes.start =
      if outcomes.bindEvent then
        match waitFor eFlowBound 0#32 outcomes.wakeUps with
        | none => .error .waiting outcomes.start
        | some (nEventBits, wakeUps) =>
            .ok (!outcomes.allocateEvent || outcomes.timerEvent) ⟨nEventBits, wakeUps⟩
      else .ok false outcomes.start := by
  cases event : outcomes.bindEvent with
  | false => simp [prvConnect, xRinaBind, event]
  | true =>
      have waits : (waitForBit eFlowBound).run outcomes.start =
          match waitFor eFlowBound 0#32 outcomes.wakeUps with
          | none => .error .waiting outcomes.start
          | some (nEventBits, wakeUps) => .ok () ⟨nEventBits, wakeUps⟩ := run_waitForBit _
      simp only [prvConnect, xRinaBind, event, Option.isNone_some, Bool.not_true,
        Bool.false_eq_true, if_false, if_true, EStateM.run_bind, waits]
      cases waitFor eFlowBound 0#32 outcomes.wakeUps with
      | none => rfl
      | some after =>
          cases outcomes.allocateEvent with
          | false => rfl
          | true =>
              cases outcomes.timerEvent with
              | false => rfl
              | true => rfl

/-- A call with a request returns its port id, if it returns. -/
theorem rinaFlowAlloc_port {xPortId : PortId} {next : AllocState}
    (built : outcomes.request.Built pcNameDif pcLocalApp pcRemoteApp)
    (run : (rinaFlowAlloc outcomes pcNameDif pcLocalApp pcRemoteApp).run outcomes.start =
      .ok xPortId next) : xPortId = outcomes.request.xPortId := by
  rw [run_rinaFlowAlloc_eq _ built, EStateM.run_bind] at run
  cases connected : (prvConnect outcomes (some outcomes.request.allocateRequest)).run
      outcomes.start with
  | ok xResult state =>
      rw [connected] at run
      exact finishAlloc_port run
  | error stop state =>
      rw [connected] at run
      cases run

theorem rinaFlowAlloc_ends_iff
    (built : outcomes.request.Built pcNameDif pcLocalApp pcRemoteApp) :
    Ends ((rinaFlowAlloc outcomes pcNameDif pcLocalApp pcRemoteApp).run outcomes.start) ↔
      outcomes.Returns := by
  have left : (outcomes.timeOut flowDefaultReceiveBlockTime).xTimeLeft ≠ 0 :=
    (by decide : UInt32.ofNat flowDefaultReceiveBlockTime ≠ 0)
  rw [run_rinaFlowAlloc_eq _ built, EStateM.run_bind, run_prvConnect]
  cases event : outcomes.bindEvent with
  | false =>
      simp only [Bool.false_eq_true, if_false]
      rw [finishAlloc_ends_iff, waitLoop_ends_iff left]
      have unset : ¬ outcomes.start.nEventBits &&& eFlowAccept ≠ 0#32 := by
        simp [AllocOutcomes.start]
      constructor
      · intro ⟨leaves, accepted⟩
        constructor
        · intro bound
          exact absurd (event.symm.trans bound) Bool.false_ne_true
        · exact fun _ => leaves
        · intro _ stays
          exact (accepted stays).resolve_left unset
      · intro returns
        constructor
        · apply returns.left
          intro bound
          exact absurd (event.symm.trans bound) Bool.false_ne_true
        · exact fun stays => .inr (returns.accepted event stays)
  | true =>
      have signalled : (waitFor eFlowBound 0#32 outcomes.wakeUps).isSome = true ↔
          Signalled eFlowBound outcomes.wakeUps := by
        rw [waitFor_isSome_iff]
        simp
      simp only [if_true]
      cases ends : waitFor eFlowBound 0#32 outcomes.wakeUps with
      | none =>
          rw [ends, Option.isSome_none] at signalled
          refine iff_of_false (not_ends_error _ _) fun returns => ?_
          exact absurd (signalled.mpr (returns.bound event)) Bool.false_ne_true
      | some after =>
          rw [ends, Option.isSome_some] at signalled
          have set := accept_set (.inl rfl) ends
          have bound := signalled.mp rfl
          cases entered : !outcomes.allocateEvent || outcomes.timerEvent with
          | true =>
              refine iff_of_true ?_ ?_
              · change Ends ((finishAlloc outcomes true).run ⟨after.1, after.2⟩)
                rw [run_finishAlloc, if_pos rfl]
                exact ends_ok _ _
              · constructor
                · exact fun _ => bound
                · intro failed
                  rw [(failed event).1, (failed event).2] at entered
                  exact absurd entered (by decide)
                · intro notBound
                  exact absurd (notBound.symm.trans event) Bool.false_ne_true
          | false =>
              rw [finishAlloc_ends_iff, waitLoop_ends_of_set set left]
              obtain ⟨allocateEvent, timerEvent⟩ := Bool.or_eq_false_iff.mp entered
              constructor
              · intro leaves
                constructor
                · exact fun _ => bound
                · exact fun _ => leaves
                · intro notBound
                  exact absurd (notBound.symm.trans event) Bool.false_ne_true
              · intro returns
                exact returns.left fun _ =>
                  ⟨Bool.not_eq_eq_eq_not.mp allocateEvent, timerEvent⟩

end Call

/-- The port id of the request tells of the allocation in the two cases in which both are good
or both are missing. -/
theorem granted_iff (outcomes : AllocOutcomes) :
    outcomes.Granted ↔ (outcomes.request.xPortId ≠ portIdWrong ↔ outcomes.AllocatedInTime) := by
  have missing : (∀ now, now < outcomes.called + flowDefaultReceiveBlockTime →
      outcomes.flowAllocated now = false) ↔ ¬ outcomes.AllocatedInTime := by
    simp only [AllocOutcomes.AllocatedInTime, not_exists, not_and, Bool.not_eq_true]
  have cases_ := @iff_iff_and_or_not_and_not (outcomes.request.xPortId ≠ portIdWrong)
    outcomes.AllocatedInTime
  rw [not_ne_iff] at cases_
  rw [AllocOutcomes.Granted, missing]
  exact cases_.symm

/-- A call reports the allocation if and only if its request is built, it returns, and either a
good port id was allocated and the flow in time, or neither. -/
theorem flow_alloc_reports_iff (outcomes : AllocOutcomes)
    (pcNameDif pcLocalApp pcRemoteApp : Option String) :
    outcomes.Reports
        ((rinaFlowAlloc outcomes pcNameDif pcLocalApp pcRemoteApp).run outcomes.start) ↔
      outcomes.request.Built pcNameDif pcLocalApp pcRemoteApp ∧ outcomes.Returns ∧
        outcomes.Granted := by
  rw [granted_iff]
  by_cases built : outcomes.request.Built pcNameDif pcLocalApp pcRemoteApp
  · rw [← rinaFlowAlloc_ends_iff built]
    cases run : (rinaFlowAlloc outcomes pcNameDif pcLocalApp pcRemoteApp).run outcomes.start with
    | error stop next =>
        simp only [AllocOutcomes.Reports, false_iff]
        exact fun holds => not_ends_error _ _ holds.2.1
    | ok xPortId next =>
        simp only [AllocOutcomes.Reports, rinaFlowAlloc_port built run, built, ends_ok, true_and]
  · rw [run_rinaFlowAlloc_missing _ built]
    simp only [AllocOutcomes.Reports, built, false_and]

/-- A call whose flow is never allocated returns its port id as if it were. -/
def neverAllocated : AllocOutcomes where
  request :=
    { flowSpecMemory := true
      requestMemory := true
      condInit := true
      mutexInit := true
      namesCreated := true
      nameMemory := true
      xPortId := 1 }
  bindEvent := true
  allocateEvent := true
  timerEvent := true
  wakeUps := [eFlowBound]
  timeoutClock := some ClockReading.zero
  passes := []
  called := 0
  flowAllocated := fun _ => false

theorem unallocated_port_returned : ¬ neverAllocated.Reports
    ((rinaFlowAlloc neverAllocated (some "d") (some "a") (some "b")).run neverAllocated.start) := by
  intro reports
  have same : (1 : PortId) ≠ portIdWrong ↔ neverAllocated.AllocatedInTime := reports
  obtain ⟨now, _, allocated⟩ := same.mp (by decide)
  exact absurd allocated Bool.false_ne_true

end RinaSense
