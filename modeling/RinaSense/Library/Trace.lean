import RinaSense.Library.Command

/-!
# Traces of commands

A sequence of events, each performed by a command, until they are all done or one of
them faults. The trace records every event with the state before it and its result.
An invariant carries what holds of one step to all the steps of a trace.
-/

universe u v

namespace Trace

variable {ε σ α : Type u} {η : Type v}

/-- One event of a trace. -/
structure Occurrence (ε σ α : Type u) (η : Type v) where
  before : σ
  event : η
  result : EStateM.Result ε σ α

/-- The state the event ended in. -/
def Occurrence.after (occurrence : Occurrence ε σ α η) : σ := Command.final occurrence.result

/-- The trace of the events from a state. -/
def trace (perform : η → EStateM ε σ α) : List η → σ → List (Occurrence ε σ α η)
  | [], _ => []
  | event :: events, before =>
      ⟨before, event, (perform event).run before⟩ ::
        match (perform event).run before with
        | .ok _ next => trace perform events next
        | .error _ _ => []

section Invariant

variable {perform : η → EStateM ε σ α}

theorem mem_trace_cons {event : η} {events : List η} {before : σ}
    {occurrence : Occurrence ε σ α η} :
    occurrence ∈ trace perform (event :: events) before ↔
      occurrence = ⟨before, event, (perform event).run before⟩ ∨
        ∃ value next, (perform event).run before = .ok value next ∧
          occurrence ∈ trace perform events next := by
  rw [trace, List.mem_cons]
  apply or_congr Iff.rfl
  cases run : (perform event).run before with
  | ok value next =>
      constructor
      · exact fun member => ⟨value, next, rfl, member⟩
      · rintro ⟨_, _, ⟨⟩, member⟩
        exact member
  | error fault next =>
      constructor
      · exact fun member => absurd member List.not_mem_nil
      · rintro ⟨_, _, ⟨⟩, _⟩

/-- After a step that returned the trace goes on. -/
theorem trace_of_ok {event : η} {before next : σ} {value : α}
    (run : (perform event).run before = .ok value next) (events : List η) :
    trace perform (event :: events) before =
      ⟨before, event, .ok value next⟩ :: trace perform events next := by
  rw [trace, run]

/-- Where the supported steps are proper, and those that return keep the invariant, a trace
of supported steps is one of proper steps. -/
theorem proper_of_returned (invariant : σ → Prop) (supported : σ → η → Prop)
    (proper : σ → η → EStateM.Result ε σ α → Prop)
    (step : ∀ before event, invariant before → supported before event →
      proper before event ((perform event).run before))
    (kept : ∀ before event value next, invariant before → supported before event →
      (perform event).run before = .ok value next → invariant next)
    {events : List η} {start : σ} (holds : invariant start)
    (all : ∀ occurrence ∈ trace perform events start,
      supported occurrence.before occurrence.event) :
    ∀ occurrence ∈ trace perform events start,
      proper occurrence.before occurrence.event occurrence.result := by
  induction events generalizing start with
  | nil => exact fun _ member => absurd member List.not_mem_nil
  | cons event events ih =>
      have first := all _ (mem_trace_cons.mpr (.inl rfl))
      intro occurrence member
      rcases mem_trace_cons.mp member with rfl | ⟨value, next, run, member⟩
      · exact step start event holds first
      · apply ih (kept start event value next holds first run) _ occurrence member
        intro other included
        exact all other (mem_trace_cons.mpr (.inr ⟨value, next, run, included⟩))

/-- Where the supported steps are proper and keep the invariant, a trace of supported
steps is one of proper steps. -/
theorem proper_of_supported (invariant : σ → Prop) (supported : σ → η → Prop)
    (proper : σ → η → EStateM.Result ε σ α → Prop)
    (step : ∀ before event, invariant before → supported before event →
      proper before event ((perform event).run before) ∧
        invariant (Command.final ((perform event).run before)))
    {events : List η} {start : σ} (holds : invariant start)
    (all : ∀ occurrence ∈ trace perform events start,
      supported occurrence.before occurrence.event) :
    ∀ occurrence ∈ trace perform events start,
      proper occurrence.before occurrence.event occurrence.result := by
  apply proper_of_returned invariant supported proper
  · exact fun before event invariantHolds isSupported =>
      (step before event invariantHolds isSupported).1
  · intro before event value next invariantHolds isSupported run
    have stepped := (step before event invariantHolds isSupported).2
    rwa [run] at stepped
  · exact holds
  · exact all

/-- Where exactly the supported steps are proper, and these keep the invariant, the
traces of proper steps are those of supported ones: the first step to break one
breaks the other. -/
theorem proper_iff_supported (invariant : σ → Prop) (supported : σ → η → Prop)
    (proper : σ → η → EStateM.Result ε σ α → Prop)
    (agree : ∀ before event, invariant before →
      (proper before event ((perform event).run before) ↔ supported before event))
    (kept : ∀ before event, invariant before → supported before event →
      invariant (Command.final ((perform event).run before)))
    {events : List η} {start : σ} (holds : invariant start) :
    (∀ occurrence ∈ trace perform events start,
      proper occurrence.before occurrence.event occurrence.result) ↔
      ∀ occurrence ∈ trace perform events start,
        supported occurrence.before occurrence.event := by
  constructor
  · intro all
    induction events generalizing start with
    | nil => exact fun _ member => absurd member List.not_mem_nil
    | cons event events ih =>
        have first := (agree start event holds).mp (all _ (mem_trace_cons.mpr (.inl rfl)))
        intro occurrence member
        rcases mem_trace_cons.mp member with rfl | ⟨value, next, run, member⟩
        · exact first
        · have next_holds := kept start event holds first
          rw [run] at next_holds
          apply ih next_holds _ occurrence member
          intro other included
          exact all other (mem_trace_cons.mpr (.inr ⟨value, next, run, included⟩))
  · apply proper_of_supported invariant supported proper _ holds
    intro before event invariantHolds isSupported
    exact ⟨(agree before event invariantHolds).mpr isSupported,
      kept before event invariantHolds isSupported⟩

end Invariant

/-! ## States that are reached -/

/-- The states that events which return lead to. -/
inductive Reached (perform : η → EStateM ε σ α) (start : σ) : σ → Prop where
  | start : Reached perform start start
  | step {before next : σ} {event : η} {value : α} (reached : Reached perform start before)
      (run : (perform event).run before = .ok value next) : Reached perform start next

section Reached

variable {perform : η → EStateM ε σ α} {start : σ}

theorem Reached.invariant (invariant : σ → Prop) (holds : invariant start)
    (kept : ∀ before event value next, invariant before →
      (perform event).run before = .ok value next → invariant next)
    {state : σ} (reached : Reached perform start state) : invariant state := by
  induction reached with
  | start => exact holds
  | step _ run ih => exact kept _ _ _ _ ih run

/-- A reached state is one in which some trace goes on with any further events. -/
theorem Reached.trace_append {state : σ} (reached : Reached perform start state) :
    ∃ earlier, ∀ events, ∀ occurrence ∈ trace perform events state,
      occurrence ∈ trace perform (earlier ++ events) start := by
  induction reached with
  | start => exact ⟨[], fun _ _ member => member⟩
  | @step before next event value _ run ih =>
      obtain ⟨earlier, goesOn⟩ := ih
      refine ⟨earlier ++ [event], fun events occurrence member => ?_⟩
      rw [List.append_assoc]
      apply goesOn
      exact mem_trace_cons.mpr (.inr ⟨value, next, run, member⟩)

theorem reached_of_mem {state : σ} (reached : Reached perform start state) {events : List η}
    {occurrence : Occurrence ε σ α η} (member : occurrence ∈ trace perform events state) :
    Reached perform start occurrence.before ∧
      occurrence.result = (perform occurrence.event).run occurrence.before := by
  induction events generalizing state with
  | nil => exact absurd member List.not_mem_nil
  | cons event events ih =>
      rcases mem_trace_cons.mp member with rfl | ⟨value, next, run, member⟩
      · exact ⟨reached, rfl⟩
      · exact ih (reached.step run) member

/-- What holds of every step of every trace is what holds of every event in every state
that is reached. -/
theorem forall_trace_iff (proper : σ → η → EStateM.Result ε σ α → Prop) :
    (∀ events, ∀ occurrence ∈ trace perform events start,
      proper occurrence.before occurrence.event occurrence.result) ↔
      ∀ state, Reached perform start state → ∀ event,
        proper state event ((perform event).run state) := by
  constructor
  · intro all state reached event
    obtain ⟨earlier, goesOn⟩ := reached.trace_append
    exact all _ _ (goesOn [event] _ (mem_trace_cons.mpr (.inl rfl)))
  · intro all events occurrence member
    obtain ⟨reached, result⟩ := reached_of_mem .start member
    rw [result]
    exact all _ reached _

end Reached

end Trace
