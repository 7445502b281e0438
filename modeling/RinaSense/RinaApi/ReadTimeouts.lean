import RinaSense.RinaApi.FlowRead

/-!
# Time-outs of reads

The time-out of `RINA_flow_read`. It is set before the first wait and checked at every wake-up
that finds nothing queued, and the loop goes on whatever is left of it.
-/

namespace RinaSense

open Command Trace

/-- A call with its local variables `xTimeOut` and `xRemainingTime`, and the reading the time-out
was set to, if it was. -/
structure TimedRead where
  point : ReadPoint
  timeOut : RsTimeOut
  started : Option ClockReading
  deriving DecidableEq

namespace TimedRead

/-- A call that has not begun, with zero in place of what the unset variables hold. -/
def start : TimedRead where
  point := .entry
  timeOut := { xTimespec := ClockReading.zero, xTimeLeft := 0 }
  started := none

/-- The call goes on. -/
def goOn (read : TimedRead) (point : ReadPoint) : TimedRead := { read with point }

/-- `RINA_flow_read` goes on to its next access. -/
def rinaFlowRead (xReceiveBlockTime : UInt32) (xPortId : PortId) (clock : Option ClockReading)
    (read : TimedRead) : Rina TimedRead :=
  match read.point with
  | .entry => do
      if !xNormalIsFlowAllocated xPortId (← readCore).xFlowsList then
        return read.goOn (.returned 0 [])
      let pxFlowHandle ← follow (← pxFAFindFlowHandle xPortId)
      let xPacketCount := unRsListLength (← readHandle pxFlowHandle).waitingPackets
      if xPacketCount ≠ 0 then return read.goOn (.taking pxFlowHandle)
      if xReceiveBlockTime = 0 then return read.goOn (.returned (-1) [])
      match xRsTimeSetTimeOut clock with
      | none => return read.goOn (.returned (-1) [])
      | some xTimespec =>
          return {
            point := .waiting pxFlowHandle
            timeOut := { xTimespec, xTimeLeft := xReceiveBlockTime }
            started := some xTimespec }
  | .counting pxFlowHandle => do
      let xPacketCount := unRsListLength (← readHandle pxFlowHandle).waitingPackets
      if xPacketCount ≠ 0 then return read.goOn (.taking pxFlowHandle)
      match xRsTimeCheckTimeOut clock read.timeOut with
      | (false, _) => return read.goOn (.returned 0 [])
      | (true, timeOut) => return { read with point := .waiting pxFlowHandle, timeOut }
  | point => do
      return read.goOn (← RinaSense.rinaFlowRead xReceiveBlockTime.toNat xPortId clock.isSome point)

end TimedRead

/-- An access of the call: the node as all others left it, and what the clock reads, if it can be
read. -/
structure ReadAccess where
  node : Node
  clock : Option ClockReading

namespace TimedRead

def perform (xReceiveBlockTime : UInt32) (xPortId : PortId) (access : ReadAccess) :
    EStateM Fault TimedRead Unit := do
  let read ← get
  match (rinaFlowRead xReceiveBlockTime xPortId access.clock read).run access.node with
  | .ok next _ => set next
  | .error fault _ => throw fault

/-! ## Purpose -/

/-- A wake-up that finds nothing queued, of a call whose time-out was set. -/
structure WakesUp (before : TimedRead) (access : ReadAccess) (set now : ClockReading) : Prop where
  empty : ∃ pxFlowHandle handle, before.point = .counting pxFlowHandle ∧
    access.node.handles.get? pxFlowHandle = some handle ∧ handle.xListWaitingPackets = []
  clock : access.clock = some now
  started : before.started = some set

/-- At such a wake-up the call ends with a timeout if no time remains, and not before. -/
def TimesOut (xReceiveBlockTime : UInt32) (before : TimedRead) (access : ReadAccess)
    (result : EStateM.Result Fault TimedRead Unit) : Prop :=
  ∀ set now, before.WakesUp access set now →
    ((∃ next, result = .ok () next ∧ next.point = .returned (-1) []) ↔
      Countdown.remaining set now xReceiveBlockTime = 0)

/-- No such wake-up comes when the time is over. -/
def WakesInTime (xReceiveBlockTime : UInt32) (before : TimedRead) (access : ReadAccess) : Prop :=
  ∀ set now, before.WakesUp access set now →
    Countdown.remaining set now xReceiveBlockTime ≠ 0

/-! ## Steps -/

variable {xReceiveBlockTime : UInt32} {xPortId : PortId}

theorem point_goOn (read : TimedRead) (command : Rina ReadPoint) :
    TimedRead.point <$> (do return read.goOn (← command)) = command := by
  simp only [map_bind, map_pure, goOn, bind_pure]

/-- Without its time-out the call is the one that only knows whether the clock can be read. -/
theorem point_rinaFlowRead (clock : Option ClockReading) (read : TimedRead) :
    TimedRead.point <$> rinaFlowRead xReceiveBlockTime xPortId clock read =
      RinaSense.rinaFlowRead xReceiveBlockTime.toNat xPortId clock.isSome read.point := by
  have zero : xReceiveBlockTime = 0 ↔ xReceiveBlockTime.toNat = 0 := by
    rw [← UInt32.toNat_inj]
    rfl
  cases point : read.point with
  | entry =>
      simp only [rinaFlowRead, RinaSense.rinaFlowRead, point, map_bind, map_pure, goOn,
        apply_ite (TimedRead.point <$> ·), zero]
      cases clock with
      | none => rfl
      | some now => rfl
  | waiting pxFlowHandle =>
      simp only [rinaFlowRead, point]
      exact point_goOn read _
  | counting pxFlowHandle =>
      simp only [rinaFlowRead, RinaSense.rinaFlowRead, point, map_bind, map_pure, goOn,
        apply_ite (TimedRead.point <$> ·)]
      cases clock with
      | none => rfl
      | some now => rfl
  | taking pxFlowHandle =>
      simp only [rinaFlowRead, point]
      exact point_goOn read _
  | copying pxNetworkBuffer =>
      simp only [rinaFlowRead, point]
      exact point_goOn read _
  | returned lDataLength copied =>
      simp only [rinaFlowRead, point]
      exact point_goOn read _

/-- What is left is computed and not looked at. -/
theorem run_perform_wakesUp {before : TimedRead} {access : ReadAccess} {set now : ClockReading}
    (wakesUp : before.WakesUp access set now) :
    ∃ pxFlowHandle next,
      (perform xReceiveBlockTime xPortId access).run before = .ok () next ∧
        next.point = .waiting pxFlowHandle := by
  obtain ⟨pxFlowHandle, handle, counting, found, empty⟩ := wakesUp.empty
  have handleRead : (readHandle pxFlowHandle).run access.node = .ok handle access.node := by
    simp [readHandle, found]
  have count : (rinaFlowRead xReceiveBlockTime xPortId access.clock before).run access.node =
      .ok { before with
            point := .waiting pxFlowHandle
            timeOut := (xRsTimeCheckTimeOut (some now) before.timeOut).2 } access.node := by
    simp only [rinaFlowRead, counting, wakesUp.clock]
    rw [run_bind_ok handleRead]
    simp only [unRsListLength, FlowAllocateHandle.waitingPackets, empty]
    rfl
  refine ⟨pxFlowHandle, { before with
    point := .waiting pxFlowHandle
    timeOut := (xRsTimeCheckTimeOut (some now) before.timeOut).2 }, ?_, rfl⟩
  rw [perform, run_bind_ok (EStateM.run_get before), count]
  rfl

theorem timesOut_iff (before : TimedRead) (access : ReadAccess) :
    TimesOut xReceiveBlockTime before access
        ((perform xReceiveBlockTime xPortId access).run before) ↔
      WakesInTime xReceiveBlockTime before access := by
  apply forall_congr'
  intro set
  apply forall_congr'
  intro now
  apply imp_congr_right
  intro wakesUp
  obtain ⟨pxFlowHandle, next, run, waiting⟩ := run_perform_wakesUp wakesUp
  have goesOn : ¬ ∃ other, (perform xReceiveBlockTime xPortId access).run before = .ok () other ∧
      other.point = .returned (-1) [] := by
    intro ⟨other, same, returned⟩
    cases run.symm.trans same
    cases waiting.symm.trans returned
  rw [ne_eq, iff_iff_implies_and_implies]
  exact ⟨fun both past => goesOn (both.2 past),
    fun inTime => ⟨fun ends => absurd ends goesOn, fun past => absurd past inTime⟩⟩

end TimedRead

/-- A time-out counts down if and only if its product with 1000 has 32 bits or it is over when it
is first checked; and reads end in time if and only if none wakes up later, with nothing
queued. -/
theorem read_timeouts_iff (clock : ClockPolls) (xReceiveBlockTime : UInt32) (xPortId : PortId)
    (accesses : List ReadAccess) :
    ((∀ occurrence ∈ trace Countdown.poll clock.polls (.start clock.set xReceiveBlockTime),
        Countdown.CountsDown clock.set xReceiveBlockTime occurrence.event occurrence.result) ↔
      clock.InTime xReceiveBlockTime) ∧
    ((∀ occurrence ∈ trace (TimedRead.perform xReceiveBlockTime xPortId) accesses .start,
        TimedRead.TimesOut xReceiveBlockTime occurrence.before occurrence.event
          occurrence.result) ↔
      ∀ occurrence ∈ trace (TimedRead.perform xReceiveBlockTime xPortId) accesses .start,
        TimedRead.WakesInTime xReceiveBlockTime occurrence.before occurrence.event) :=
  ⟨countdown_iff clock xReceiveBlockTime,
    proper_iff_supported (fun _ => True) (TimedRead.WakesInTime xReceiveBlockTime)
      (TimedRead.TimesOut xReceiveBlockTime)
      (fun before access _ => TimedRead.timesOut_iff before access)
      (fun _ _ _ _ => trivial) trivial⟩

/-! ## Two time-outs -/

/-- A reading one second later than the first one. -/
def secondLater : ClockReading where
  time := .atSecond 1
  range := by decide

/-- A time-out of five seconds, checked after one. -/
def checkedOnce : ClockPolls where
  set := ClockReading.zero
  polls := [some secondLater]
  ordered := ⟨Nat.zero_le _, trivial⟩

/-- A node whose flow was signalled and has nothing queued. -/
def Node.signalled : Node :=
  { Node.receiving with
    handles := Node.receiving.handles.set 0
      { xPortId := 7
        xListWaitingPackets := []
        eFlowBound := true
        eFlowReceive := true } }

/-- A read that wakes up with nothing queued when its time is over. -/
def wokenLate : List ReadAccess :=
  [⟨Node.receiving, some ClockReading.zero⟩, ⟨Node.signalled, none⟩,
    ⟨Node.receiving, some secondLater⟩]

/-- Of five seconds less than one is left after one, and a read goes on when its time is over. -/
theorem long_timeout_cut_short :
    (¬ ∀ occurrence ∈ trace Countdown.poll checkedOnce.polls (.start checkedOnce.set 5000000),
      Countdown.CountsDown checkedOnce.set 5000000 occurrence.event occurrence.result) ∧
    ¬ ∀ occurrence ∈ trace (TimedRead.perform 100 7) wokenLate .start,
      TimedRead.TimesOut 100 occurrence.before occurrence.event occurrence.result := by
  constructor
  · intro all
    obtain short | late := (countdown_iff checkedOnce 5000000).mp all
    · exact absurd short (by decide)
    · exact absurd (late secondLater rfl) (by decide)
  · intro each
    have wakesUp : TimedRead.WakesUp
        ⟨.counting 0, ⟨ClockReading.zero, 100⟩, some ClockReading.zero⟩
        ⟨Node.receiving, some secondLater⟩ ClockReading.zero secondLater :=
      { empty := ⟨0, _, rfl, rfl, rfl⟩
        clock := rfl
        started := rfl }
    have timesOut := each _ (mem_trace_cons.mpr (.inr ⟨_, _, rfl, mem_trace_cons.mpr
      (.inr ⟨_, _, rfl, mem_trace_cons.mpr (.inl rfl)⟩)⟩))
    exact (TimedRead.timesOut_iff _ _).mp timesOut _ _ wakesUp (by decide)

end RinaSense
