import RinaSense.Library.Command

/-!
# Computations that fail in known ways only

A computation made of checks either succeeds, and then every check holds, or fails in
one of the ways in which checks fail. So it fails exactly where some check does not hold.
-/

universe u

namespace Command

variable {ε α β : Type u} {bad : ε → Prop}

/-- Where the computation fails, its fault is a bad one. -/
def FailsOnly (bad : ε → Prop) (computation : Except ε α) : Prop :=
  ∀ fault, computation = .error fault → bad fault

theorem failsOnly_ok (value : α) : FailsOnly bad (.ok value : Except ε α) := nofun

theorem failsOnly_error {fault : ε} (isBad : bad fault) :
    FailsOnly bad (.error fault : Except ε α) := by
  intro other failed
  rw [← Except.error.inj failed]
  exact isBad

theorem FailsOnly.bind {computation : Except ε α} {rest : α → Except ε β}
    (first : FailsOnly bad computation) (last : ∀ value, FailsOnly bad (rest value)) :
    FailsOnly bad (computation >>= rest) := by
  cases computation with
  | ok value => exact last value
  | error fault => exact failsOnly_error (first fault rfl)

theorem FailsOnly.map {computation : Except ε α} (first : FailsOnly bad computation)
    (f : α → β) : FailsOnly bad (f <$> computation) := by
  cases computation with
  | ok value => exact failsOnly_ok (f value)
  | error fault => exact failsOnly_error (first fault rfl)

theorem failsOnly_ite {condition : Prop} [Decidable condition] {yes no : Except ε α}
    (failsYes : FailsOnly bad yes) (failsNo : FailsOnly bad no) :
    FailsOnly bad (if condition then yes else no) := by
  split
  · exact failsYes
  · exact failsNo

/-- A computation that cannot succeed fails with a bad fault. -/
theorem FailsOnly.error_of_not_ok {computation : Except ε α} (fails : FailsOnly bad computation)
    (noValue : ∀ value, computation ≠ .ok value) :
    ∃ fault, computation = .error fault ∧ bad fault := by
  cases computation with
  | ok value => exact absurd rfl (noValue value)
  | error fault => exact ⟨fault, rfl, fails fault rfl⟩

/-! ## Commands -/

section Commands

variable {σ : Type u} {command : EStateM ε σ α} {rest : α → EStateM ε σ β} {state next : σ}

/-- The run does not end with a bad fault. -/
def Avoids (bad : ε → Prop) (command : EStateM ε σ α) (state : σ) : Prop :=
  ∀ fault next, command.run state = .error fault next → ¬ bad fault

/-- Only the run matters. -/
theorem avoids_congr {other : EStateM ε σ α} {start : σ}
    (same : command.run state = other.run start) :
    Avoids bad command state ↔ Avoids bad other start := by
  simp only [Avoids, same]

theorem avoids_of_ok {value : α} (run : command.run state = .ok value next) :
    Avoids bad command state := by
  intro fault after failed
  rw [run] at failed
  cases failed

theorem avoids_iff_of_error {fault : ε} (run : command.run state = .error fault next) :
    Avoids bad command state ↔ ¬ bad fault := by
  constructor
  · intro avoids
    exact avoids fault next run
  · intro notBad other after failed
    rw [run] at failed
    cases failed
    exact notBad

theorem avoids_bind_of_ok {value : α} (run : command.run state = .ok value next) :
    Avoids bad (command >>= rest) state ↔ Avoids bad (rest value) next := by
  simp only [Avoids, run_bind_ok run]

theorem avoids_bind_of_error {fault : ε} (run : command.run state = .error fault next) :
    Avoids bad (command >>= rest) state ↔ ¬ bad fault :=
  avoids_iff_of_error (run_bind_error run rest)

/-- What comes after a part always returns. -/
theorem avoids_bind_of_total (total : ∀ value next, Returns (rest value) next) :
    Avoids bad (command >>= rest) state ↔ Avoids bad command state := by
  cases run : command.run state with
  | error fault next => rw [avoids_bind_of_error run, avoids_iff_of_error run]
  | ok value next =>
      obtain ⟨last, after, returned, _⟩ := wp_iff.mp (total value next)
      exact iff_of_true ((avoids_bind_of_ok run).mpr (avoids_of_ok returned)) (avoids_of_ok run)

end Commands

end Command
