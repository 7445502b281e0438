import RinaSense.Library.Trace
import RinaSense.Shim.Ieee802154Receive

/-!
# Handing frames over to the receive task

`esp_ieee802154_receive_done` leaves a frame in `rx_temp_buffer` and notifies `vShimRxTask`,
which copies it from there. A run is a sequence of calls of the one and of steps of the other.
-/

namespace RinaSense

open Command Trace

/-- What the driver passes: the length byte and the bytes behind it, as many at least. -/
structure RadioBuffer where
  length : UInt8
  frame : List UInt8
  whole : length.toNat ≤ frame.length
  deriving DecidableEq

/-- A call of `vIeee802154NetworkInterfaceInput`: the length and the bytes it copied. -/
structure RxInput where
  len : UInt16
  bytes : List UInt8
  deriving Repr, DecidableEq

/-- Where `vShimRxTask` is: in `ulTaskNotifyTake`, back from it, or copying from
`rx_temp_buffer`. -/
inductive RxTaskPoint where
  | waiting
  | notified
  | copying (len : UInt16) (copied : List UInt8)
  deriving Repr, DecidableEq

/-- What the driver and the task share and where the task is, with the frames that were
accepted and the inputs that were made of them. -/
structure HandOver where
  rxTempBuffer : List UInt8
  rxTempLen : UInt16
  notifications : Nat
  task : RxTaskPoint
  accepted : List (List UInt8)
  inputs : List RxInput
  deriving DecidableEq

/-- An invocation of the driver's, with a buffer or without, or a step of the task, which
gets a network buffer or not. -/
inductive HandOverEvent where
  | receiveDone (buffer : Option RadioBuffer)
  | taskStep (buffer : Bool)
  deriving DecidableEq

namespace HandOver

/-- The static variables, and the task that was created. -/
def start : HandOver where
  rxTempBuffer := List.replicate ieee802154MaxFrameSize 0
  rxTempLen := 0
  notifications := 0
  task := .waiting
  accepted := []
  inputs := []

/-- The frame in the shared variables. -/
def current (state : HandOver) : List UInt8 := state.rxTempBuffer.take state.rxTempLen.toNat

/-- The shared variables after a frame was copied into them, and the notification. -/
def take (state : HandOver) (frame : List UInt8) : HandOver :=
  { state with
    rxTempBuffer := frame ++ state.rxTempBuffer.drop frame.length
    rxTempLen := UInt16.ofNat frame.length
    notifications := state.notifications + 1
    accepted := state.accepted ++ [frame] }

end HandOver

/-- The frame `esp_ieee802154_receive_done` accepts of a buffer. -/
def RadioBuffer.accepted (buffer : RadioBuffer) : Option (List UInt8) :=
  if buffer.length = 0 then none
  else if ieee802154MaxFrameSize < buffer.length.toNat then none
  else some (buffer.frame.take buffer.length.toNat)

namespace HandOver

def espIeee802154ReceiveDone : Option RadioBuffer → EStateM Fault HandOver Unit
  | none => return ()
  | some buffer => do
      match buffer.accepted with
      | none => return ()
      | some frame => modify fun state => state.take frame

/-- `vShimRxTask` goes on to its next access. All notifications are taken at once, and the
bytes are copied one by one. Without a network buffer they are copied to nowhere. -/
def vShimRxTask (buffer : Bool) : EStateM Fault HandOver Unit := do
  let state ← get
  match state.task with
  | .waiting =>
      if state.notifications ≠ 0 then set { state with notifications := 0, task := .notified }
  | .notified =>
      if !buffer then throw .nullPointer
      set { state with task := .copying state.rxTempLen [] }
  | .copying len copied =>
      if copied.length < len.toNat then
        match state.rxTempBuffer[copied.length]? with
        | none => throw .outOfBounds
        | some byte => set { state with task := .copying len (copied ++ [byte]) }
      else set { state with task := .waiting, inputs := state.inputs ++ [RxInput.mk len copied] }

def perform : HandOverEvent → EStateM Fault HandOver Unit
  | .receiveDone buffer => espIeee802154ReceiveDone buffer
  | .taskStep buffer => vShimRxTask buffer

/-- What is accepted of a buffer is what the receive side of the shim keeps of its bytes. -/
theorem run_espIeee802154ReceiveDone (buffer : RadioBuffer) (node : Node) :
    (RinaSense.espIeee802154ReceiveDone (buffer.length :: buffer.frame)).run node =
      .ok buffer.accepted node := by
  rw [RinaSense.espIeee802154ReceiveDone, RadioBuffer.accepted]
  by_cases empty : buffer.length = 0
  · rw [if_pos empty, if_pos empty]
    rfl
  · by_cases large : ieee802154MaxFrameSize < buffer.length.toNat
    · rw [if_neg empty, if_neg empty, if_pos large, if_pos large]
      rfl
    · rw [if_neg empty, if_neg empty, if_neg large, if_neg large]
      have inside : 0 + buffer.length.toNat ≤ buffer.frame.length := by
        rw [Nat.zero_add]
        exact buffer.whole
      exact run_bind_ok (run_copyFrom inside) _

/-! ## Purpose -/

/-- The input a frame is meant to be. -/
def inputOf (frame : List UInt8) : RxInput where
  len := UInt16.ofNat frame.length
  bytes := frame

/-- The inputs are those of accepted frames, of each one at most once, and of all of them when
nothing is left to do for the task. -/
structure HandsOver (state : HandOver) : Prop where
  own : state.inputs.Subperm (state.accepted.map inputOf)
  all : state.task = .waiting → state.notifications = 0 →
    state.inputs.Perm (state.accepted.map inputOf)

/-- The bytes of the shared buffer the task has still to copy. -/
def uncopied (state : HandOver) : List UInt8 :=
  match state.task with
  | .waiting => []
  | .notified => state.current
  | .copying len copied => (state.rxTempBuffer.take len.toNat).drop copied.length

/-- A frame is accepted only when the notification of the one before was taken, and leaves
what is still to be copied of it as it was. -/
def Spaced (before : HandOver) : HandOverEvent → Prop
  | .receiveDone (some buffer) =>
      ∀ frame ∈ buffer.accepted,
        before.notifications = 0 ∧ (before.take frame).uncopied = before.uncopied
  | .receiveDone none => True
  | .taskStep _ => True

instance (before : HandOver) : (event : HandOverEvent) → Decidable (before.Spaced event)
  | .receiveDone (some buffer) =>
      inferInstanceAs (Decidable (∀ frame ∈ buffer.accepted, _ ∧ _))
  | .receiveDone none => .isTrue trivial
  | .taskStep _ => .isTrue trivial

/-! ## The shared variables -/

/-- The input the frame is made that the task was notified of. -/
def begun (state : HandOver) : List RxInput :=
  match state.task with
  | .waiting => []
  | .notified => [inputOf state.current]
  | .copying len copied => [⟨len, copied ++ state.uncopied⟩]

/-- The input the frame is made that the task is still to be notified of. -/
def announced (state : HandOver) : List RxInput :=
  if state.notifications = 0 then [] else [inputOf state.current]

theorem begun_copying {state : HandOver} {len : UInt16} {copied : List UInt8}
    (task : state.task = .copying len copied) :
    state.begun =
      [⟨len, copied ++ (state.rxTempBuffer.take len.toNat).drop copied.length⟩] := by
  rw [begun, uncopied, task]

/-- The lengths are ones inside the buffer, and every accepted frame was made an input of or
is the one the task is at or the one it is to be notified of. -/
structure Orderly (state : HandOver) : Prop where
  size : state.rxTempBuffer.length = ieee802154MaxFrameSize
  inside : state.rxTempLen.toNat ≤ ieee802154MaxFrameSize
  within : ∀ len copied, state.task = .copying len copied →
    len.toNat ≤ ieee802154MaxFrameSize
  accounts : state.accepted.map inputOf = state.inputs ++ state.begun ++ state.announced

theorem orderly_start : start.Orderly where
  size := List.length_replicate
  inside := Nat.zero_le _
  within := by
    intro len copied task
    cases task
  accounts := rfl

variable {state : HandOver}

theorem Orderly.handsOver (orderly : state.Orderly) : state.HandsOver := by
  constructor
  · rw [orderly.accounts, List.append_assoc]
    exact (List.sublist_append_left _ _).subperm
  · intro waiting none
    rw [orderly.accounts, begun, waiting, announced, if_pos none, List.append_nil,
      List.append_nil]

theorem Orderly.length_current (orderly : state.Orderly) :
    state.current.length = state.rxTempLen.toNat := by
  rw [current, List.length_take, orderly.size]
  exact Nat.min_eq_left orderly.inside

/-! ## Steps -/

theorem accepted_length {buffer : RadioBuffer} {frame : List UInt8}
    (accepted : buffer.accepted = some frame) : frame.length ≤ ieee802154MaxFrameSize := by
  rw [RadioBuffer.accepted] at accepted
  split at accepted
  · cases accepted
  · split at accepted
    · cases accepted
    · next fits =>
        rw [← Option.some.inj accepted, List.length_take]
        exact Nat.le_trans (Nat.min_le_left _ _) (Nat.le_of_not_lt fits)

theorem current_take (state : HandOver) {frame : List UInt8}
    (short : frame.length ≤ ieee802154MaxFrameSize) : (state.take frame).current = frame := by
  have length : (UInt16.ofNat frame.length).toNat = frame.length :=
    UInt16.toNat_ofNat_of_lt' (Nat.lt_of_le_of_lt short (by decide))
  change (frame ++ state.rxTempBuffer.drop frame.length).take
    (UInt16.ofNat frame.length).toNat = frame
  rw [length]
  exact List.take_left

/-- The frame the task is at stays the same when the bytes of it do that are to be copied. -/
theorem begun_take {frame : List UInt8}
    (same : (state.take frame).uncopied = state.uncopied) :
    (state.take frame).begun = state.begun := by
  cases task : state.task with
  | waiting =>
      have taken : (state.take frame).task = .waiting := task
      rw [begun, taken, begun, task]
  | notified =>
      have taken : (state.take frame).task = .notified := task
      rw [uncopied, taken, uncopied, task] at same
      rw [begun, taken, begun, task]
      exact congrArg (fun bytes => [inputOf bytes]) same
  | copying len copied =>
      have taken : (state.take frame).task = .copying len copied := task
      rw [begun, taken, begun, task]
      exact congrArg (fun bytes => [RxInput.mk len (copied ++ bytes)]) same

/-- A frame that leaves the one before as it was changes nothing of that. -/
theorem Orderly.take (orderly : state.Orderly) (none : state.notifications = 0)
    {frame : List UInt8} (same : (state.take frame).uncopied = state.uncopied)
    (short : frame.length ≤ ieee802154MaxFrameSize) : (state.take frame).Orderly where
  size := by
    have size := orderly.size
    change (frame ++ state.rxTempBuffer.drop frame.length).length = _
    rw [List.length_append, List.length_drop]
    omega
  inside := by
    change (UInt16.ofNat frame.length).toNat ≤ _
    rw [UInt16.toNat_ofNat_of_lt' (Nat.lt_of_le_of_lt short (by decide))]
    exact short
  within := orderly.within
  accounts := by
    have accounts := orderly.accounts
    have some : (state.take frame).notifications ≠ 0 := Nat.succ_ne_zero _
    rw [announced, if_pos none, List.append_nil] at accounts
    rw [announced, if_neg some, begun_take same, state.current_take short]
    change (state.accepted ++ [frame]).map inputOf = state.inputs ++ _ ++ _
    rw [List.map_append, accounts]
    rfl

theorem Orderly.receiveDone (orderly : state.Orderly) {buffer : Option RadioBuffer}
    (spaced : state.Spaced (.receiveDone buffer)) :
    (final ((perform (.receiveDone buffer)).run state)).Orderly := by
  cases buffer with
  | none => exact orderly
  | some buffer =>
      rw [perform, espIeee802154ReceiveDone]
      cases accepted : buffer.accepted with
      | none => exact orderly
      | some frame =>
          obtain ⟨none, same⟩ := spaced frame accepted
          exact orderly.take none same (accepted_length accepted)

/-- Notifications that are taken. -/
theorem Orderly.notify (orderly : state.Orderly) (task : state.task = .waiting)
    (some : state.notifications ≠ 0) :
    ({ state with notifications := 0, task := .notified } : HandOver).Orderly where
  size := orderly.size
  inside := orderly.inside
  within := by
    intro len copied other
    cases other
  accounts := by
    have accounts := orderly.accounts
    rw [begun, task, announced, if_neg some, List.append_nil] at accounts
    rw [announced, if_pos rfl, List.append_nil]
    exact accounts

/-- The call of `vIeee802154NetworkInterfaceInput`. -/
theorem Orderly.call (orderly : state.Orderly) (task : state.task = .notified) :
    ({ state with task := .copying state.rxTempLen [] } : HandOver).Orderly where
  size := orderly.size
  inside := orderly.inside
  within := by
    rintro len copied ⟨⟩
    exact orderly.inside
  accounts := by
    have accounts := orderly.accounts
    have whole : inputOf state.current = ⟨state.rxTempLen, state.current⟩ := by
      rw [inputOf, orderly.length_current, UInt16.ofNat_toNat]
    rw [begun, task, whole] at accounts
    exact accounts

theorem Orderly.copy (orderly : state.Orderly) {len : UInt16} {copied : List UInt8}
    (task : state.task = .copying len copied) (more : copied.length < len.toNat) :
    ∃ byte, state.rxTempBuffer[copied.length]? = some byte ∧
      ({ state with task := .copying len (copied ++ [byte]) } : HandOver).Orderly := by
  have inside : copied.length < (state.rxTempBuffer.take len.toNat).length := by
    rw [List.length_take, orderly.size]
    exact Nat.lt_min.mpr ⟨more, Nat.lt_of_lt_of_le more (orderly.within len copied task)⟩
  have found := List.getElem?_eq_getElem inside
  rw [List.getElem?_take_of_lt more] at found
  refine ⟨_, found, orderly.size, orderly.inside, ?_, ?_⟩
  · rintro _ _ ⟨⟩
    exact orderly.within len copied task
  · have accounts := orderly.accounts
    rw [begun_copying task, List.drop_eq_getElem_cons inside] at accounts
    rw [begun_copying rfl, List.length_append, List.append_assoc copied]
    exact accounts

theorem Orderly.return (orderly : state.Orderly) {len : UInt16} {copied : List UInt8}
    (task : state.task = .copying len copied) (full : len.toNat ≤ copied.length) :
    ({ state with task := .waiting, inputs := state.inputs ++ [⟨len, copied⟩] } :
      HandOver).Orderly where
  size := orderly.size
  inside := orderly.inside
  within := by
    intro len copied other
    cases other
  accounts := by
    have accounts := orderly.accounts
    have nothing : (state.rxTempBuffer.take len.toNat).drop copied.length = [] :=
      List.drop_of_length_le (Nat.le_trans (List.length_take_le _ _) full)
    rw [begun_copying task, nothing, List.append_nil] at accounts
    rw [begun, List.append_nil]
    exact accounts

theorem Orderly.taskStep (orderly : state.Orderly) (buffer : Bool) :
    (final ((perform (.taskStep buffer)).run state)).Orderly := by
  simp only [perform, vShimRxTask, EStateM.run_bind, EStateM.run_get]
  cases task : state.task with
  | waiting =>
      by_cases some : state.notifications ≠ 0
      · rw [if_pos some]
        exact orderly.notify task some
      · rw [if_neg some]
        exact orderly
  | notified =>
      cases buffer with
      | false => exact orderly
      | true => exact orderly.call task
  | copying len copied =>
      by_cases more : copied.length < len.toNat
      · obtain ⟨byte, found, next⟩ := orderly.copy task more
        simp only [more, if_true, found]
        exact next
      · simp only [more, if_false]
        exact orderly.return task (Nat.le_of_not_lt more)

/-- In a run in which every frame is accepted after the notification of the one before was
taken and leaves what is still to be copied of it, each is made one input of, of its own length
and bytes. -/
theorem handOver_of_spaced (events : List HandOverEvent)
    (spaced : ∀ occurrence ∈ trace perform events start,
      Spaced occurrence.before occurrence.event) :
    ∀ occurrence ∈ trace perform events start, HandsOver occurrence.after := by
  apply proper_of_supported Orderly Spaced (fun _ _ result => HandsOver (final result)) _
    orderly_start spaced
  intro before event orderly isSpaced
  have kept : (final ((perform event).run before)).Orderly := by
    cases event with
    | receiveDone buffer => exact orderly.receiveDone isSpaced
    | taskStep buffer => exact orderly.taskStep buffer
  exact ⟨kept.handsOver, kept⟩

/-- A frame of one byte, with the two bytes of its check sequence left out. -/
def shortFrame (byte : UInt8) : RadioBuffer := ⟨1, [byte], Nat.le_refl 1⟩

/-- Three frames: the second, equal to the first, comes while that is copied, and the third
when the second was copied. -/
def threeFrames : List HandOverEvent :=
  [.receiveDone (some (shortFrame 1)), .taskStep true, .taskStep true,
    .receiveDone (some (shortFrame 1)), .taskStep true, .taskStep true, .taskStep true,
    .taskStep true, .taskStep true, .receiveDone (some (shortFrame 2)), .taskStep true,
    .taskStep true, .taskStep true, .taskStep true, .taskStep true]

theorem handOver_of_spaced_three :
    (∃ last ∈ trace perform threeFrames start,
        last.after.inputs = [⟨1, [1]⟩, ⟨1, [1]⟩, ⟨1, [2]⟩]) ∧
      ∀ occurrence ∈ trace perform threeFrames start, HandsOver occurrence.after :=
  ⟨⟨_, List.mem_of_getLast? rfl, rfl⟩, handOver_of_spaced threeFrames (by decide)⟩

/-- Two frames that were received before the task runs. -/
def frameBehind : List HandOverEvent :=
  [.receiveDone (some (shortFrame 1)), .receiveDone (some (shortFrame 2)), .taskStep true,
    .taskStep true, .taskStep true, .taskStep true]

/-- The second of them is all the task finds. -/
theorem earlier_frame_lost :
    ∃ last ∈ trace perform frameBehind start,
      last.after.accepted = [[1], [2]] ∧ last.after.inputs = [⟨1, [2]⟩] ∧
        ¬ HandsOver last.after := by
  refine ⟨_, List.mem_of_getLast? rfl, rfl, rfl, ?_⟩
  intro handsOver
  have lengths := (handsOver.all rfl rfl).length_eq
  cases lengths

end HandOver

end RinaSense
