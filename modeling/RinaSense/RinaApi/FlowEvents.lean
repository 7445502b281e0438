import RinaSense.Ipcp.FlowAllocator
import RinaSense.Library.History
import RinaSense.Library.Signals
import Mathlib.Data.Set.Lattice

/-!
# Event bits of a flow

The event bits through which the IPCP task wakes up the application, as in
`rina_api.c`. Every access is made under the mutex of the handle, so the accesses
of all parties follow one another in some order. The bits stand for the events
signalled and not consumed yet; the module determines the runs in which they do.
-/

namespace RinaSense

open History Signals

/-- `long` of the 32-bit target. -/
abbrev EventBits := BitVec 32

def eFlowReceive : EventBits := 0x0001
def eFlowAccept : EventBits := 0x0004
def eFlowBound : EventBits := 0x0010

/-- The event bits of a handle. -/
def nEventBits (handle : FlowAllocateHandle) : EventBits :=
  (if handle.eFlowBound then eFlowBound else 0#32) |||
    (if handle.eFlowReceive then eFlowReceive else 0#32)

/-- The bits after a wait, which goes on while none of the desired ones is set.
Clearing sets all the other bits. -/
def prvWaitForBit (nTargetBits nDesiredBits : EventBits) (xClearBits : Bool) :
    Option EventBits :=
  if nTargetBits &&& nDesiredBits = 0#32 then none
  else if xClearBits then some (nTargetBits ||| ~~~nDesiredBits)
  else some nTargetBits

/-- There are no bits after the assertion failed. -/
def vRinaWakeUpFlowRequest (nEventBits nNewBits : EventBits) : Option EventBits :=
  if nNewBits = 0#32 then none else some (nEventBits ||| nNewBits)

/-- Posting a data unit signals its arrival. -/
theorem nEventBits_post (handle : FlowAllocateHandle) (pxNetworkBuffer : BufferId) :
    nEventBits (handle.post pxNetworkBuffer) = nEventBits handle ||| eFlowReceive := by
  cases receive : handle.eFlowReceive with
  | false =>
      simp only [nEventBits, FlowAllocateHandle.post, receive, Bool.false_eq_true, if_false,
        if_true, BitVec.or_zero]
      rfl
  | true =>
      simp only [nEventBits, FlowAllocateHandle.post, receive, if_true, BitVec.or_assoc,
        BitVec.or_self]
      rfl

/-! ## Runs -/

/-- An access to the event bits: a wake-up, the signals of the handler of create
responses and of received data units, and an attempt of a wait to return. -/
inductive EventOp where
  | wakeUp (nNewBits : EventBits)
  | createResponse
  | duPost
  | wait (nDesiredBits : EventBits) (xClearBits : Bool)
  deriving Repr, DecidableEq

namespace EventOp

/-- The bits an access signals. -/
def signalled : EventOp → EventBits
  | wakeUp nNewBits => nNewBits
  | createResponse => eFlowBound
  | duPost => eFlowReceive
  | wait _ _ => 0#32

/-- The bits after an access. A wait that does not return leaves them as they are,
as does a failed assertion. -/
def apply (nEventBits : EventBits) : EventOp → EventBits
  | wakeUp nNewBits => (vRinaWakeUpFlowRequest nEventBits nNewBits).getD nEventBits
  | createResponse => nEventBits ||| eFlowBound
  | duPost => nEventBits ||| eFlowReceive
  | wait nDesiredBits xClearBits =>
      (prvWaitForBit nEventBits nDesiredBits xClearBits).getD nEventBits

/-- The bits after a run on a new handle. -/
def run (operations : List EventOp) : EventBits := operations.foldl apply 0#32

@[simp] theorem run_concat (operations : List EventOp) (operation : EventOp) :
    run (operations ++ [operation]) = apply (run operations) operation := by
  rw [run, List.foldl_append]
  rfl

/-! ## Purpose -/

/-- The events a set of bits stands for. -/
def kindsOf (bits : EventBits) : Set Nat := { kind | bits.getLsbD kind = true }

/-- What an access means: a signal of its bits, or, when a wait with clearing
returns, the consumption of the desired ones. -/
def events (nEventBits : EventBits) : EventOp → List (Event Nat)
  | wait nDesiredBits true =>
      if nEventBits &&& nDesiredBits = 0#32 then [] else [.consume (kindsOf nDesiredBits)]
  | operation => [.signal (kindsOf operation.signalled)]

/-- The events of a run, with the waits that did return in it. -/
def history : List EventOp → EventBits → List (Event Nat)
  | [], _ => []
  | operation :: operations, nEventBits =>
      operation.events nEventBits ++ history operations (operation.apply nEventBits)

/-- The bits stand for the events that are pending, and a wait that clears takes
the desired bits out of them and no others. -/
def Consumes (before : List EventOp) (operation : EventOp) : Prop :=
  kindsOf (run (before ++ [operation])) = pending (history (before ++ [operation]) 0#32) ∧
    match operation with
    | wait nDesiredBits true =>
        ∀ next, prvWaitForBit (run before) nDesiredBits true = some next →
          next = run before &&& ~~~nDesiredBits
    | _ => True

/-- What that says of one bit: it is set if and only if it was signalled and not
consumed since. -/
theorem Consumes.bit_iff {before : List EventOp} {operation : EventOp}
    (consumes : Consumes before operation) (kind : Nat) :
    (run (before ++ [operation])).getLsbD kind = true ↔
      ∃ earlier kinds later, history (before ++ [operation]) 0#32 =
          earlier ++ .signal kinds :: later ∧ kind ∈ kinds ∧
        ∀ consumed, .consume consumed ∈ later → kind ∉ consumed := by
  rw [← mem_pending_iff, ← consumes.1]
  rfl

/-- A bit that was consumed is set again only after a new signal of it. -/
theorem Consumes.signalled_again {before : List EventOp} {operation : EventOp}
    (consumes : Consumes before operation) {earlier later : List (Event Nat)}
    {consumed : Set Nat} {kind : Nat}
    (split : history (before ++ [operation]) 0#32 = earlier ++ .consume consumed :: later)
    (isConsumed : kind ∈ consumed) (set : (run (before ++ [operation])).getLsbD kind = true) :
    ∃ kinds, .signal kinds ∈ later ∧ kind ∈ kinds := by
  apply Signals.signalled_again isConsumed
  rw [← split, ← consumes.1]
  exact set

/-- No bit a wait with clearing asks for was signalled before. -/
def NeverReturns (before : List EventOp) (operation : EventOp) : Prop :=
  ∀ nDesiredBits, operation = wait nDesiredBits true →
    ∀ earlier ∈ before, earlier.signalled &&& nDesiredBits = 0#32

/-! ## Bits and events -/

theorem kindsOf_or (bits other : EventBits) :
    kindsOf (bits ||| other) = kindsOf bits ∪ kindsOf other := by
  ext kind
  simp only [kindsOf, Set.mem_ofPred_eq, Set.mem_union, BitVec.getLsbD_or, Bool.or_eq_true]

theorem kindsOf_zero : kindsOf 0#32 = ∅ := by
  ext kind
  simp only [kindsOf, Set.mem_ofPred_eq, BitVec.getLsbD_zero,
    Bool.false_eq_true, Set.mem_empty_iff_false]

/-- Without clearing, an access adds the bits it signals. -/
theorem apply_eq_or {operation : EventOp} {nEventBits : EventBits}
    (keeps : ∀ nDesiredBits, operation = wait nDesiredBits true → nEventBits &&& nDesiredBits = 0#32) :
    operation.apply nEventBits = nEventBits ||| operation.signalled := by
  cases operation with
  | wakeUp nNewBits =>
      by_cases nothing : nNewBits = 0#32
      · simp [apply, vRinaWakeUpFlowRequest, signalled, nothing]
      · simp [apply, vRinaWakeUpFlowRequest, signalled, nothing]
  | createResponse => rfl
  | duPost => rfl
  | wait nDesiredBits xClearBits =>
      cases xClearBits with
      | true =>
          simp [apply, prvWaitForBit, keeps nDesiredBits rfl, signalled]
      | false =>
          by_cases waits : nEventBits &&& nDesiredBits = 0#32
          · simp [apply, prvWaitForBit, waits, signalled]
          · simp [apply, prvWaitForBit, waits, signalled]

/-- A wait with clearing that returns leaves a desired bit set. -/
theorem clear_ne {nEventBits nDesiredBits : EventBits}
    (returns : nEventBits &&& nDesiredBits ≠ 0#32) :
    nEventBits ||| ~~~nDesiredBits ≠ nEventBits &&& ~~~nDesiredBits := by
  intro equal
  apply returns
  apply BitVec.eq_of_getLsbD_eq
  intro kind bound
  have bit := congrArg (fun bits : EventBits => bits.getLsbD kind) equal
  simp only [BitVec.getLsbD_or, BitVec.getLsbD_and, BitVec.getLsbD_not, bound, decide_true,
    Bool.true_and] at bit
  rw [BitVec.getLsbD_and, BitVec.getLsbD_zero]
  cases target : nEventBits.getLsbD kind with
  | false => rfl
  | true =>
      cases desired : nDesiredBits.getLsbD kind with
      | false => rfl
      | true =>
          rw [target, desired] at bit
          exact absurd bit (by decide)

theorem or_and_eq_zero {bits other desired : EventBits} :
    (bits ||| other) &&& desired = 0#32 ↔ bits &&& desired = 0#32 ∧ other &&& desired = 0#32 := by
  rw [BitVec.and_or_distrib_right, BitVec.or_eq_zero_iff]

theorem history_concat (operations : List EventOp) (operation : EventOp)
    (nEventBits : EventBits) :
    history (operations ++ [operation]) nEventBits =
      history operations nEventBits ++ operation.events (operations.foldl apply nEventBits) := by
  induction operations generalizing nEventBits with
  | nil => simp only [List.nil_append, history, List.append_nil, List.foldl_nil]
  | cons first operations ih =>
      simp only [List.cons_append, history, ih, List.append_assoc, List.foldl_cons]

/-! ## Runs that consume events -/

/-- While no wait with clearing has returned, the bits are all the signalled
ones and stand for the pending events. -/
structure Accumulates (operations : List EventOp) : Prop where
  pending : kindsOf (run operations) = Signals.pending (history operations 0#32)
  signalled : ∀ desired, run operations &&& desired = 0#32 ↔
    ∀ operation ∈ operations, operation.signalled &&& desired = 0#32

theorem accumulates_nil : Accumulates [] where
  pending := kindsOf_zero
  signalled := fun desired => by simp [run]

/-- An access that clears nothing. -/
theorem Accumulates.concat {operations : List EventOp} (accumulates : Accumulates operations)
    {operation : EventOp}
    (keeps : ∀ nDesiredBits, operation = wait nDesiredBits true →
      run operations &&& nDesiredBits = 0#32) : Accumulates (operations ++ [operation]) where
  pending := by
    rw [run_concat, apply_eq_or keeps, kindsOf_or, accumulates.pending, history_concat]
    change _ = Signals.pending (history operations 0#32 ++ operation.events (run operations))
    have signal := pending_concat (history operations 0#32)
      (.signal (kindsOf operation.signalled))
    cases operation with
    | wait nDesiredBits xClearBits =>
        cases xClearBits with
        | true =>
            rw [events, if_pos (keeps nDesiredBits rfl), List.append_nil, EventOp.signalled,
              kindsOf_zero, Set.union_empty]
        | false => exact signal.symm
    | _ => exact signal.symm
  signalled := by
    intro desired
    rw [run_concat, apply_eq_or keeps, or_and_eq_zero, accumulates.signalled]
    simp only [List.mem_append, List.mem_singleton, or_imp, forall_and, forall_eq]

/-- With the bits accumulated, an access is as it should be exactly if no wait with
clearing returns. -/
theorem Accumulates.consumes_iff {before : List EventOp} (accumulates : Accumulates before)
    (operation : EventOp) : Consumes before operation ↔ NeverReturns before operation := by
  constructor
  · intro ⟨_, cleared⟩ nDesiredBits isWait
    rw [← accumulates.signalled]
    by_cases waits : run before &&& nDesiredBits = 0#32
    · exact waits
    · subst isWait
      have next := cleared (run before ||| ~~~nDesiredBits) (by simp [prvWaitForBit, waits])
      exact absurd next (clear_ne waits)
  · intro never
    have keeps : ∀ nDesiredBits, operation = wait nDesiredBits true →
        run before &&& nDesiredBits = 0#32 := fun nDesiredBits isWait =>
      (accumulates.signalled nDesiredBits).mpr (never nDesiredBits isWait)
    refine ⟨(accumulates.concat keeps).pending, ?_⟩
    cases operation with
    | wait nDesiredBits xClearBits =>
        cases xClearBits with
        | true =>
            intro next returned
            simp [prvWaitForBit, keeps nDesiredBits rfl] at returned
        | false => trivial
    | _ => trivial

/-- In a run the event bits stand for the events signalled and not consumed, and
waits take out what they waited for, if and only if no wait with clearing ever
returns. -/
theorem run_consumes_iff (operations : List EventOp) :
    EachAfter Consumes operations ↔ EachAfter NeverReturns operations :=
  eachAfter_iff_of_invariant Accumulates accumulates_nil
    (fun _ _ accumulates never =>
      accumulates.concat fun nDesiredBits isWait =>
        (accumulates.signalled nDesiredBits).mpr (never nDesiredBits isWait))
    (fun _ operation accumulates => accumulates.consumes_iff operation) operations

/-- A received data unit wakes a reader up, who leaves its bit set. -/
theorem clearing_leaves_bit :
    ¬ EachAfter Consumes [duPost, wait eFlowReceive true] := by
  intro each
  have consumes := each [duPost] (wait eFlowReceive true) [] rfl
  exact absurd (consumes.2 (eFlowReceive ||| ~~~eFlowReceive) (by decide)) (by decide)

end EventOp

end RinaSense
