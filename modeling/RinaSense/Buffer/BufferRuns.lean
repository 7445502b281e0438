import RinaSense.Buffer.BufferAccounts
import RinaSense.Common.RsrcPoolCreation

/-!
# Runs of the network buffers

What an initialisation makes, and the runs of the operations after it in which the
semaphore and the descriptors in use stay in step and no absent buffer is used.
-/

namespace RinaSense

namespace NetworkBuffers

/-! ## Purpose -/

/-- The descriptors in use, as their pool counts them. -/
def descriptorsInUse (state : NetworkBuffers) : Nat :=
  match state.xNetworkBufferDescriptorPool with
  | none => 0
  | some handle =>
      match state.rsrc.pools[handle]? with
      | none => 0
      | some pool => pool.uiNumInUse.toNat

/-- The value of the semaphore and the descriptors in use are all descriptors. -/
def Counted (state : NetworkBuffers) : Prop :=
  ∃ value, state.xNetworkBufferSemaphore = some value ∧
    value + state.descriptorsInUse = numNetworkBufferDescriptors.toNat

/-- The semaphore and both pools are there. -/
structure Made (state : NetworkBuffers) : Prop where
  semaphore : state.xNetworkBufferSemaphore.isSome
  descriptorPool : state.xNetworkBufferDescriptorPool.isSome
  payloadPool : state.xNetworkBufferPool.isSome

/-- An initialisation is successful only with everything there, or else the program
ends. -/
def InitialisesProperly :
    EStateM.Result NetworkBufferFault NetworkBuffers NetworkBufferResult → Prop
  | .ok result after => result = .initialised true → after.Made ∧ after.Counted
  | .error fault _ => fault = .rsrc .abort

/-- Another operation keeps the count, and one that gets nothing leaves the semaphore
and the descriptors in use as they are; or else the caller has broken its part, or the
program ends. -/
def OperatesProperly (before : NetworkBuffers) :
    EStateM.Result NetworkBufferFault NetworkBuffers NetworkBufferResult → Prop
  | .ok result after => after.Counted ∧
      (result = .descriptor none →
        after.xNetworkBufferSemaphore = before.xNetworkBufferSemaphore ∧
          after.descriptorsInUse = before.descriptorsInUse)
  | .error fault _ => fault = .notHeld ∨ fault = .rsrc .abort

def Properly (before : NetworkBuffers) (operation : NetworkBufferOp)
    (result : EStateM.Result NetworkBufferFault NetworkBuffers NetworkBufferResult) : Prop :=
  match operation with
  | .initialise _ => InitialisesProperly result
  | _ => before.semInitialized = true → before.OperatesProperly result

/-- The heap grants the structs of the two pools, where none are left, and the
descriptors. -/
structure Granted (rsrc : RsrcPools) (environment : InitEnvironment) : Prop where
  descriptorStruct : rsrc.HasStruct environment.descriptorStruct
  descriptors : environment.descriptors = true
  bufferStruct : rsrc.structsLeft < 2 → environment.bufferStruct = true

/-- The initialisations that are what they say: ones that are not the first, ones that
`sem_init` reports with a positive value, and ones with everything granted. What is
refused without a handler ends the program. -/
def InitSupported (before : NetworkBuffers) (environment : InitEnvironment) : Prop :=
  before.semInitialized = true ∨ 0 < environment.semInitReturn ∨
    environment.semInitReturn = 0 ∧
      (environment.vRsrcOOMfn = true → Granted before.rsrc environment)

/-- The operations whose payload is there, or not cleared, and is as long as was asked
for. -/
def Supported (ndebug : Bool) (before : NetworkBuffers) : NetworkBufferOp → Prop
  | .initialise environment => before.InitSupported environment
  | .get environment _ xRequestedSizeBytes xTimeOutUS => before.semInitialized = true →
      before.Obtains environment xTimeOutUS → 0 < xRequestedSizeBytes →
        before.PayloadSupported ndebug environment.payload (storageSize xRequestedSizeBytes)
  | .resize heap _ pxNetworkBuffer xNewSizeBytes => before.semInitialized = true →
      before.Holds pxNetworkBuffer →
        before.PayloadSupported ndebug heap (bufferSize xNewSizeBytes)
  | .rawGet heap _ pxRequestedSizeBytes => before.semInitialized = true →
      before.PayloadSupported ndebug heap (bufferSize pxRequestedSizeBytes)
  | .release _ | .rawRelease _ => True

/-! ## Steps -/

/-- The module before it is initialised. -/
structure Off (state : NetworkBuffers) : Prop where
  notInitialized : state.semInitialized = false
  noDescriptors : state.xNetworkBufferDescriptorPool = none
  noPayloads : state.xNetworkBufferPool = none
  noSemaphore : state.xNetworkBufferSemaphore = none
  noRaw : state.raw = []
  shaped : state.rsrc.Shaped

section Steps

variable {state : NetworkBuffers} {ndebug : Bool}

theorem Layout.descriptorsInUse {d b : Nat} {D B : RsrcPool} (layout : Layout state d b D B) :
    D.pxFreelist.length + state.descriptorsInUse = numNetworkBufferDescriptors.toNat := by
  rw [NetworkBuffers.descriptorsInUse, layout.descriptorHandle]
  simp only [layout.descriptorAt]
  rw [layout.descriptors.accounted.inUse]
  exact layout.descriptors.all

theorem Running.counted (running : state.Running) : state.Counted := by
  obtain ⟨-, d, b, D, B, layout, semaphore⟩ := running
  exact ⟨D.pxFreelist.length, semaphore, layout.descriptorsInUse⟩

theorem Running.made (running : state.Running) : state.Made := by
  obtain ⟨-, d, b, D, B, layout, semaphore⟩ := running
  constructor
  · rw [semaphore]
    rfl
  · rw [layout.descriptorHandle]
    rfl
  · rw [layout.payloadHandle]
    rfl

/-- The semaphore tells how many descriptors are in use. -/
theorem Running.inUse_eq {after : NetworkBuffers} (running : state.Running)
    (later : after.Running)
    (same : after.xNetworkBufferSemaphore = state.xNetworkBufferSemaphore) :
    after.descriptorsInUse = state.descriptorsInUse := by
  obtain ⟨value, semaphore, count⟩ := running.counted
  obtain ⟨value', semaphore', count'⟩ := later.counted
  rw [same, semaphore] at semaphore'
  obtain rfl := Option.some.inj semaphore'
  omega

/-- What a settled operation is to a run. -/
theorem Settled.step {supported : Prop} {operation : NetworkBufferOp}
    (running : state.Running)
    (settled : Settled (· = NetworkBufferResult.descriptor none) state.xNetworkBufferSemaphore
      supported (operate ndebug state operation)) :
    (state.OperatesProperly ((perform ndebug operation).run state) ↔ supported) ∧
      (supported → Running (Command.final ((perform ndebug operation).run state))) := by
  simp only [perform, EStateM.run]
  generalize operate ndebug state operation = outcome at settled ⊢
  cases settled with
  | returns isSupported later restored =>
      refine ⟨iff_of_true ⟨later.counted, fun failed => ?_⟩ isSupported, fun _ => later⟩
      exact ⟨restored failed, running.inUse_eq later (restored failed)⟩
  | notHeld isSupported => exact ⟨iff_of_true (.inl rfl) isSupported, fun _ => running⟩
  | aborts isSupported => exact ⟨iff_of_true (.inr rfl) isSupported, fun _ => running⟩
  | absent notSupported | outside notSupported =>
      refine ⟨iff_of_false ?_ notSupported, fun isSupported => absurd isSupported notSupported⟩
      rintro (same | same)
      · cases same
      · cases same

/-- An operation of a module that is not initialised leaves it so. -/
theorem Off.step (off : state.Off) {operation : NetworkBufferOp}
    (other : ∀ environment, operation ≠ .initialise environment) :
    Off (Command.final ((perform ndebug operation).run state)) := by
  have notHeld (pxNetworkBuffer : Rsrc) : ¬ state.Holds pxNetworkBuffer := by
    rintro ⟨handle, -⟩
    rw [off.noDescriptors] at handle
    cases handle
  have unchanged {fault : NetworkBufferFault} (failed : operate ndebug state operation =
      .error fault) : Off (Command.final ((perform ndebug operation).run state)) := by
    rw [EStateM.run, perform, failed]
    exact off
  cases operation with
  | initialise environment => exact absurd rfl (other environment)
  | get environment name size timeout =>
      apply unchanged
      rw [operate, pxGetNetworkBufferWithDescriptorFor, off.notInitialized]
      rfl
  | release pxNetworkBuffer =>
      apply unchanged
      rw [operate, if_neg (notHeld pxNetworkBuffer)]
      rfl
  | resize heap name pxNetworkBuffer size =>
      apply unchanged
      rw [operate, if_neg (notHeld pxNetworkBuffer)]
      rfl
  | rawGet heap name size =>
      have noPool : state.pxRsrcVarAlloc heap name (bufferSize size + bufferPadding) =
          .ok (none, state) := by
        apply varAlloc_none
        rw [off.noPayloads]
        rfl
      by_cases nothing : (bufferSize size + bufferPadding).toNat = 0
      · have run : operate ndebug state (.rawGet heap name size) =
            .ok (.buffer none (bufferSize size), state) := by
          rw [operate, pucGetNetworkBufferFor, noPool, nothing]
          simp only [bind, Except.bind, zero_nothing]
          rfl
        rw [EStateM.run, perform, run]
        exact off
      · cases ndebug with
        | true =>
            have run : operate true state (.rawGet heap name size) =
                .ok (.buffer none (bufferSize size), state) := by
              rw [operate, pucGetNetworkBufferFor, noPool]
              simp only [bind, Except.bind, zero_absent nothing]
              rfl
            rw [EStateM.run, perform, run]
            exact off
        | false =>
            apply @unchanged .nullPointer
            rw [operate, pucGetNetworkBufferFor, noPool]
            simp only [bind, Except.bind, zero_absent nothing]
            rfl
  | rawRelease pucEthernetBuffer =>
      cases pucEthernetBuffer with
      | none => exact off
      | some buffer =>
          apply @unchanged .notHeld
          rw [operate, off.noRaw, if_neg List.not_mem_nil]
          rfl

end Steps

/-! ## The initialisation -/

/-- The arguments of the payload pool. -/
def payloadPool : RsrcPools.NewPool where
  pcName := some "NetBuf"
  xRsrcSize := 0
  uiInitalloc := rsrcNone
  uiIncrement := rsrcOneResource
  uiMaxNumRes := numNetworkBufferDescriptors + 1

section Initialisation

variable {state : NetworkBuffers} {ndebug : Bool} {environment : InitEnvironment}

/-- The module with what `sem_init` and the two creations made. -/
def initialised (state : NetworkBuffers) (rsrc : RsrcPools)
    (descriptorHandle payloadHandle : RsrcPoolHandle) : NetworkBuffers :=
  { state with
    rsrc
    xNetworkBufferDescriptorPool := descriptorHandle
    xNetworkBufferPool := payloadHandle
    xNetworkBufferSemaphore := some numNetworkBufferDescriptors.toNat
    semInitialized := true }

theorem initialise_again (again : state.semInitialized = true) :
    state.xNetworkBuffersInitialise environment = .ok (true, state) := by
  have same : { state with semInitialized := true } = state := by rw [← again]
  rw [xNetworkBuffersInitialise, again]
  exact congrArg (fun after => Except.ok (true, after)) same

theorem initialise_failed (off : state.Off) (failed : environment.semInitReturn ≠ 0) :
    state.xNetworkBuffersInitialise environment =
      .ok (!decide (0 < environment.semInitReturn),
        { state with semInitialized := !decide (0 < environment.semInitReturn) }) := by
  have notZero : (environment.semInitReturn == 0) = false := beq_eq_false_iff_ne.mpr failed
  rw [xNetworkBuffersInitialise, off.notInitialized]
  simp only [Bool.false_eq_true, if_false, notZero, Bool.and_false]
  rfl

theorem initialise_pools (off : state.Off) (made : environment.semInitReturn = 0) :
    state.xNetworkBuffersInitialise environment = do
      let (descriptorHandle, rsrc) ← lift (state.rsrc.pxRsrcNewPool
        ⟨environment.descriptorStruct, environment.vRsrcOOMfn⟩
        ⟨environment.descriptors, environment.vRsrcOOMfn⟩ descriptorPool)
      let (payloadHandle, rsrc) ← lift (rsrc.pxRsrcNewPool
        ⟨environment.bufferStruct, environment.vRsrcOOMfn⟩ ⟨true, environment.vRsrcOOMfn⟩
        payloadPool)
      return (true, state.initialised rsrc descriptorHandle payloadHandle) := by
  rw [xNetworkBuffersInitialise, off.notInitialized, made]
  cases state.rsrc.pxRsrcNewPool ⟨environment.descriptorStruct, environment.vRsrcOOMfn⟩
    ⟨environment.descriptors, environment.vRsrcOOMfn⟩ descriptorPool with
  | error fault => rfl
  | ok created =>
      obtain ⟨descriptorHandle, rsrc⟩ := created
      have second : rsrc.pxRsrcNewVarPool ⟨environment.bufferStruct, environment.vRsrcOOMfn⟩
          ⟨true, environment.vRsrcOOMfn⟩ (some "NetBuf") (numNetworkBufferDescriptors + 1) =
          rsrc.pxRsrcNewPool ⟨environment.bufferStruct, environment.vRsrcOOMfn⟩
            ⟨true, environment.vRsrcOOMfn⟩ payloadPool := rfl
      simp only [lift, bind, Except.bind, second]
      cases rsrc.pxRsrcNewPool ⟨environment.bufferStruct, environment.vRsrcOOMfn⟩
        ⟨true, environment.vRsrcOOMfn⟩ payloadPool with
      | error fault => rfl
      | ok last => rfl

/-- With both pools created, the module runs. -/
theorem Off.running {rsrc rsrc' : RsrcPools} {D B : RsrcPool} (off : state.Off)
    (first : state.rsrc.Created descriptorPool rsrc D)
    (second : rsrc.Created payloadPool rsrc' B) :
    Running (state.initialised rsrc' (some state.rsrc.pools.length) (some rsrc.pools.length)) := by
  have length : rsrc.pools.length = state.rsrc.pools.length + 1 := by
    rw [first.pools, List.length_append]
    rfl
  have pools : rsrc'.pools = state.rsrc.pools ++ [D, B] := by
    rw [second.pools, first.pools, List.append_assoc]
    rfl
  have unused (handle : Nat) {pool : RsrcPool} (active : pool.xActive = []) :
      used handle pool = [] := by
    rw [used, active]
    rfl
  refine ⟨rfl, state.rsrc.pools.length, rsrc.pools.length, D, B, ?_, ?_⟩
  · constructor
    · rfl
    · rfl
    · rw [length]
      exact Nat.ne_of_lt (Nat.lt_succ_self _)
    · simp only [initialised, pools, List.getElem?_append_right (Nat.le_refl _), Nat.sub_self]
      rfl
    · have behind : state.rsrc.pools.length ≤ state.rsrc.pools.length + 1 := Nat.le_add_right _ 1
      simp only [initialised, pools, length, List.getElem?_append_right behind,
        Nat.add_sub_cancel_left]
      rfl
    · constructor
      · exact ⟨first.initial.balanced, first.initial.limited.mpr fun limit => absurd rfl limit⟩
      · exact first.initial.numbered.mono second.grown
      · exact first.initial.size
      · exact first.initial.increment
      · exact first.initial.maximum
      · exact first.initial.freeOnFree
      · rw [first.initial.free, first.initial.active]
        rfl
    · constructor
      · exact ⟨second.initial.balanced, second.initial.limited.mpr fun _ => Nat.zero_le _⟩
      · exact second.initial.numbered
      · exact second.initial.size
      · exact second.initial.increment
      · exact second.initial.maximum
      · exact second.initial.freeOnFree
      · exact List.length_eq_zero_iff.mp second.initial.free
    · rw [unused _ first.initial.active, unused _ second.initial.active]
      simp only [initialised, off.noRaw]
      exact Owned.empty _
    · rw [unused _ first.initial.active]
      exact fun _ member => absurd member List.not_mem_nil
  · exact congrArg some first.initial.free.symm

/-- What a call that returns true comes to. -/
theorem properly_true {after : NetworkBuffers}
    (run : state.xNetworkBuffersInitialise environment = .ok (true, after)) :
    (perform ndebug (.initialise environment)).run state = .ok (.initialised true) after := by
  rw [EStateM.run, perform, operate, run]
  rfl

/-- One of the pools is not there. -/
theorem not_properly {after : NetworkBuffers} (missing : ¬ after.Made) :
    ¬ InitialisesProperly (.ok (.initialised true) after) :=
  fun properly => missing (properly rfl).1

/-- What the two creations come to. -/
theorem Off.initialise_made (off : state.Off) (made : environment.semInitReturn = 0) :
    (InitialisesProperly ((perform ndebug (.initialise environment)).run state) ↔
        (environment.vRsrcOOMfn = true → Granted state.rsrc environment)) ∧
      ((environment.vRsrcOOMfn = true → Granted state.rsrc environment) →
        Off (Command.final ((perform ndebug (.initialise environment)).run state)) ∨
          Running (Command.final ((perform ndebug (.initialise environment)).run state))) := by
  have run := @initialise_pools state environment off made
  have aborting (failed : state.xNetworkBuffersInitialise environment =
      .error (.rsrc .abort)) : (perform ndebug (.initialise environment)).run state =
        .error (.rsrc .abort) state := by
    rw [EStateM.run, perform, operate, failed]
    rfl
  have first := @RsrcPools.newPool_case state.rsrc environment.descriptorStruct
    environment.descriptors environment.vRsrcOOMfn descriptorPool off.shaped rfl rfl
  generalize state.rsrc.pxRsrcNewPool _ _ _ = outcome at first run
  cases first with
  | aborts refuses unhandled =>
      have supported : environment.vRsrcOOMfn = true → Granted state.rsrc environment := by
        intro handled
        rw [unhandled] at handled
        cases handled
      rw [aborting run]
      exact ⟨iff_of_true rfl supported, fun _ => .inl off⟩
  | @refused refuses handled rsrc shaped =>
      have notGranted : ¬ Granted state.rsrc environment := fun granted =>
        refuses ⟨granted.descriptorStruct, fun _ => granted.descriptors⟩
      have notSupported : ¬ (environment.vRsrcOOMfn = true → Granted state.rsrc environment) :=
        fun supported => notGranted (supported handled)
      have second := @RsrcPools.newPool_case rsrc environment.bufferStruct true
        environment.vRsrcOOMfn payloadPool shaped rfl rfl
      simp only [lift, bind, Except.bind] at run
      generalize rsrc.pxRsrcNewPool _ _ _ = outcome at second run
      cases second with
      | aborts refuses' unhandled =>
          rw [handled] at unhandled
          cases unhandled
      | @created creates rsrc' B isCreated =>
          rw [properly_true run]
          exact ⟨iff_of_false (not_properly fun all => by cases all.descriptorPool) notSupported,
            fun supported => absurd supported notSupported⟩
      | refused refuses' isHandled shaped' =>
          rw [properly_true run]
          exact ⟨iff_of_false (not_properly fun all => by cases all.descriptorPool) notSupported,
            fun supported => absurd supported notSupported⟩
  | @created creates rsrc D isCreated =>
      have second := @RsrcPools.newPool_case rsrc environment.bufferStruct true
        environment.vRsrcOOMfn payloadPool isCreated.shaped rfl rfl
      have structs : rsrc.HasStruct environment.bufferStruct ↔
          (state.rsrc.structsLeft < 2 → environment.bufferStruct = true) := by
        rw [RsrcPools.hasStruct_iff isCreated.setUp, isCreated.structs]
        apply imp_congr _ Iff.rfl
        omega
      have granted_iff : Granted state.rsrc environment ↔
          rsrc.Creates environment.bufferStruct true payloadPool := by
        rw [RsrcPools.Creates, structs]
        constructor
        · exact fun granted => ⟨granted.bufferStruct, fun _ => rfl⟩
        · exact fun both => ⟨creates.1, creates.2 (by decide), both.1⟩
      simp only [lift, bind, Except.bind] at run
      generalize rsrc.pxRsrcNewPool _ _ _ = outcome at second run
      cases second with
      | aborts refuses unhandled =>
          have supported : environment.vRsrcOOMfn = true → Granted state.rsrc environment := by
            intro handled
            rw [unhandled] at handled
            cases handled
          rw [aborting run]
          exact ⟨iff_of_true rfl supported, fun _ => .inl off⟩
      | refused refuses handled shaped =>
          have notSupported :
              ¬ (environment.vRsrcOOMfn = true → Granted state.rsrc environment) :=
            fun supported => refuses (granted_iff.mp (supported handled))
          rw [properly_true run]
          exact ⟨iff_of_false (not_properly fun all => by cases all.payloadPool) notSupported,
            fun supported => absurd supported notSupported⟩
      | created creates' isCreated' =>
          have running := off.running isCreated isCreated'
          rw [properly_true run]
          exact ⟨iff_of_true (fun _ => ⟨running.made, running.counted⟩)
            fun _ => granted_iff.mpr creates', fun _ => .inr running⟩

/-- One initialisation. -/
theorem initialise_step (ok : state.Off ∨ state.Running) :
    (InitialisesProperly ((perform ndebug (.initialise environment)).run state) ↔
        state.InitSupported environment) ∧
      (state.InitSupported environment →
        Off (Command.final ((perform ndebug (.initialise environment)).run state)) ∨
          Running (Command.final ((perform ndebug (.initialise environment)).run state))) := by
  rcases ok with off | running
  · have notInitialized : ¬ state.semInitialized = true := by
      rw [off.notInitialized]
      exact Bool.false_ne_true
    rw [InitSupported, or_iff_right notInitialized]
    by_cases made : environment.semInitReturn = 0
    · have notPositive : ¬ 0 < environment.semInitReturn := by
        rw [made]
        exact Int.lt_irrefl 0
      rw [or_iff_right notPositive, and_iff_right made]
      exact off.initialise_made made
    · have run := @initialise_failed state environment off made
      by_cases positive : 0 < environment.semInitReturn
      · have performed : (perform ndebug (.initialise environment)).run state =
            .ok (.initialised false) { state with semInitialized := false } := by
          rw [EStateM.run, perform, operate, run, decide_eq_true positive]
          rfl
        rw [performed]
        refine ⟨iff_of_true (fun same => by cases same) (.inl positive), fun _ => .inl ?_⟩
        exact ⟨rfl, off.noDescriptors, off.noPayloads, off.noSemaphore, off.noRaw, off.shaped⟩
      · rw [decide_eq_false positive] at run
        rw [properly_true run]
        have notSupported : ¬ (0 < environment.semInitReturn ∨ environment.semInitReturn = 0 ∧
            (environment.vRsrcOOMfn = true → Granted state.rsrc environment)) :=
          fun supported => supported.elim positive fun both => made both.1
        refine ⟨iff_of_false (not_properly fun all => ?_) notSupported,
          fun supported => absurd supported notSupported⟩
        have isSome := all.semaphore
        rw [off.noSemaphore] at isSome
        cases isSome
  · rw [properly_true (initialise_again running.initialized)]
    exact ⟨iff_of_true (fun _ => ⟨running.made, running.counted⟩) (.inl running.initialized),
      fun _ => .inr running⟩

end Initialisation

/-! ## Runs -/

section Runs

variable {state : NetworkBuffers} {ndebug : Bool}

/-- One operation of any kind. -/
theorem step (ok : state.Off ∨ state.Running) (operation : NetworkBufferOp) :
    (state.Properly operation ((perform ndebug operation).run state) ↔
        Supported ndebug state operation) ∧
      (Supported ndebug state operation →
        Off (Command.final ((perform ndebug operation).run state)) ∨
          Running (Command.final ((perform ndebug operation).run state))) := by
  by_cases first : ∃ environment, operation = .initialise environment
  · obtain ⟨environment, rfl⟩ := first
    exact initialise_step ok
  · have other : ∀ environment, operation ≠ .initialise environment :=
      fun environment same => first ⟨environment, same⟩
    rcases ok with off | running
    · have notInitialized : ¬ state.semInitialized = true := by
        rw [off.notInitialized]
        exact Bool.false_ne_true
      refine ⟨?_, fun _ => .inl (off.step other)⟩
      cases operation with
      | initialise environment => exact absurd rfl (other environment)
      | get | resize | rawGet =>
          exact iff_of_true (fun initialized => absurd initialized notInitialized)
            (fun initialized => absurd initialized notInitialized)
      | release | rawRelease =>
          exact iff_of_true (fun initialized => absurd initialized notInitialized) trivial
    · have settle {supported : Prop}
          (settled : Settled (· = NetworkBufferResult.descriptor none)
            state.xNetworkBufferSemaphore supported (operate ndebug state operation)) :
          ((state.semInitialized = true →
            state.OperatesProperly ((perform ndebug operation).run state)) ↔ supported) ∧
          (supported → Off (Command.final ((perform ndebug operation).run state)) ∨
            Running (Command.final ((perform ndebug operation).run state))) := by
        obtain ⟨properly, later⟩ := settled.step running
        refine ⟨?_, fun isSupported => .inr (later isSupported)⟩
        rw [← properly]
        exact ⟨fun always => always running.initialized, fun isProper _ => isProper⟩
      have always (supported : Prop) : (state.semInitialized = true → supported) ↔ supported :=
        ⟨fun isSupported => isSupported running.initialized, fun isSupported _ => isSupported⟩
      cases operation with
      | initialise environment => exact absurd rfl (other environment)
      | get environment name size timeout =>
          rw [Supported, always]
          exact settle ((running.get environment name size timeout).map _
            fun result failed => NetworkBufferResult.descriptor.inj failed)
      | release pxNetworkBuffer => exact settle (running.release pxNetworkBuffer)
      | resize heap name pxNetworkBuffer size =>
          rw [Supported, always]
          exact settle (running.resize heap name pxNetworkBuffer size)
      | rawGet heap name size =>
          rw [Supported, always]
          exact settle (running.rawGet heap name size)
      | rawRelease pucEthernetBuffer =>
          cases pucEthernetBuffer with
          | none => exact settle (running.rawRelease none)
          | some buffer => exact settle (running.rawRelease (some buffer))

end Runs

theorem off_startup {rsrc : RsrcPools} (shaped : rsrc.Shaped) : (startup rsrc).Off where
  notInitialized := rfl
  noDescriptors := rfl
  noPayloads := rfl
  noSemaphore := rfl
  noRaw := rfl
  shaped := shaped

/-- The buffers of a run are in order exactly if each initialisation gets what it asks
for and, in a build without `NDEBUG`, each payload asked for is there. -/
theorem networkBuffers_run_iff {rsrc : RsrcPools} (shaped : rsrc.Shaped) (ndebug : Bool)
    (operations : List NetworkBufferOp) :
    (∀ occurrence ∈ Trace.trace (perform ndebug) operations (startup rsrc),
      occurrence.before.Properly occurrence.event occurrence.result) ↔
      ∀ occurrence ∈ Trace.trace (perform ndebug) operations (startup rsrc),
        Supported ndebug occurrence.before occurrence.event :=
  Trace.proper_iff_supported (fun state => state.Off ∨ state.Running) (Supported ndebug) Properly
    (fun _ operation ok => (step ok operation).1)
    (fun _ operation ok supported => (step ok operation).2 supported) (.inl (off_startup shaped))

/-- The payload is in use, in the pool of the payloads. -/
def PayloadInUse (state : NetworkBuffers) (buffer : Rsrc) : Prop :=
  state.xNetworkBufferPool = some buffer.pxPool ∧
    ∃ pool ∈ state.rsrc.pools[buffer.pxPool]?, buffer.number ∈ pool.xActive

theorem Layout.payloadInUse_iff {state : NetworkBuffers} {d b : Nat} {D B : RsrcPool}
    (layout : Layout state d b D B) {buffer : Rsrc} :
    state.PayloadInUse buffer ↔ buffer ∈ used b B :=
  active_iff layout.payloadHandle layout.payloadAt

theorem Running.payload_has_owner {state : NetworkBuffers} (running : state.Running)
    {buffer : Rsrc} (inUse : state.PayloadInUse buffer) :
    (∃ pxNetworkBuffer, state.Holds pxNetworkBuffer ∧
      (state.descriptors pxNetworkBuffer).pucEthernetBuffer = some buffer) ∨
      buffer ∈ state.raw := by
  obtain ⟨-, d, b, D, B, layout, -⟩ := running
  rcases layout.owned.has_owner (layout.payloadInUse_iff.mp inUse) with held | isRaw
  · obtain ⟨pxNetworkBuffer, isUsed, holds⟩ := held
    exact .inl ⟨pxNetworkBuffer, layout.holds_iff.mpr isUsed, holds⟩
  · exact .inr isRaw

/-- No payload is lost in a run that is in order: one in use is that of a descriptor in
use, or a caller has it. -/
theorem payloads_have_owners {rsrc : RsrcPools} (shaped : rsrc.Shaped) (ndebug : Bool)
    (operations : List NetworkBufferOp)
    (supported : ∀ occurrence ∈ Trace.trace (perform ndebug) operations (startup rsrc),
      Supported ndebug occurrence.before occurrence.event) :
    ∀ occurrence ∈ Trace.trace (perform ndebug) operations (startup rsrc), ∀ buffer,
      occurrence.before.PayloadInUse buffer →
        (∃ pxNetworkBuffer, occurrence.before.Holds pxNetworkBuffer ∧
          (occurrence.before.descriptors pxNetworkBuffer).pucEthernetBuffer = some buffer) ∨
          buffer ∈ occurrence.before.raw := by
  apply Trace.proper_of_supported (fun state => state.Off ∨ state.Running) (Supported ndebug)
    (fun before _ _ => ∀ buffer, before.PayloadInUse buffer →
      (∃ pxNetworkBuffer, before.Holds pxNetworkBuffer ∧
        (before.descriptors pxNetworkBuffer).pucEthernetBuffer = some buffer) ∨
        buffer ∈ before.raw) _ (.inl (off_startup shaped)) supported
  intro before operation ok isSupported
  refine ⟨fun buffer inUse => ?_, (step ok operation).2 isSupported⟩
  rcases ok with off | running
  · obtain ⟨isHandle, -⟩ := inUse
    rw [off.noPayloads] at isHandle
    cases isHandle
  · exact running.payload_has_owner inUse

/-- An initialisation that gets all it asks for. -/
def allGranted : InitEnvironment where
  semInitReturn := 0
  vRsrcOOMfn := false
  descriptorStruct := true
  descriptors := true
  bufferStruct := true

/-- A descriptor of ten bytes, obtained at once. -/
def obtainTen (payload : RsrcHeap) : NetworkBufferOp :=
  .get { scheduled := true, interrupted := false, payload } "buffer" 10 0

/-- A descriptor that is obtained and released. -/
theorem networkBuffers_run_iff_released :
    RsrcPools.startup.Shaped ∧ ∀ occurrence ∈ Trace.trace (perform false)
        [.initialise allGranted, obtainTen ⟨true, false⟩, .release ⟨0, 24⟩]
        (startup .startup),
      occurrence.before.Properly occurrence.event occurrence.result := by
  refine ⟨RsrcPools.shaped_startup, ?_⟩
  apply (networkBuffers_run_iff RsrcPools.shaped_startup false _).mpr
  intro occurrence member
  rcases Trace.mem_trace_cons.mp member with rfl | ⟨_, _, run, member⟩
  · exact .inr (.inr ⟨rfl, fun handled => nomatch handled⟩)
  · cases run
    rcases Trace.mem_trace_cons.mp member with rfl | ⟨_, _, run, member⟩
    · intro _ _ _
      constructor
      · refine .inr ?_
        rintro ⟨handle, isHandle, pool, isPool, -, absent⟩
        cases isHandle
        cases isPool
        exact absurd absent (by decide)
      · rintro ⟨_, _, _, _, -, -, large⟩
        exact absurd large (by decide)
    · rcases Trace.mem_trace_cons.mp member with rfl | ⟨_, _, _, member⟩
      · trivial
      · exact absurd member List.not_mem_nil

/-- A payload that the heap refuses is written to all the same, and an initialisation
whose `sem_init` fails is successful. -/
theorem absent_buffer_used :
    (¬ ∀ occurrence ∈ Trace.trace (perform false)
        [.initialise allGranted, obtainTen ⟨false, true⟩] (startup .startup),
      occurrence.before.Properly occurrence.event occurrence.result) ∧
    ∃ after, (perform false (.initialise { allGranted with semInitReturn := -1 })).run
        (startup .startup) = .ok (.initialised true) after ∧ ¬ after.Made := by
  constructor
  · intro all
    have last := all _ (.tail _ (.head _))
    rcases last rfl with same | same
    · cases same
    · cases same
  · refine ⟨_, rfl, ?_⟩
    intro made
    exact absurd made.semaphore (by decide)

end NetworkBuffers

end RinaSense
