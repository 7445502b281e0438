import Mathlib.Logic.Basic

/-!
# Commands with state and faults

Rules for running commands of `EStateM`: how a run of a composed command follows
from runs of its parts, and how a relation between the states before and after is
established for a whole command from its steps, faults included.
-/

universe u

namespace Command

variable {ε σ α β : Type u}

@[simp] theorem run_map (f : α → β) (command : EStateM ε σ α) (state : σ) :
    (f <$> command).run state =
      match command.run state with
      | .ok value next => .ok (f value) next
      | .error fault next => .error fault next := by
  change EStateM.map f command state = _
  rw [EStateM.map]
  rfl

@[simp] theorem run_throw (fault : ε) (state : σ) :
    (throw fault : EStateM ε σ α).run state = .error fault state := rfl

/-- Continue after a part that returned. -/
theorem run_bind_ok {command : EStateM ε σ α} {state next : σ} {value : α}
    (run : command.run state = .ok value next) (rest : α → EStateM ε σ β) :
    (command >>= rest).run state = (rest value).run next := by
  rw [EStateM.run_bind, run]

/-- A faulting part ends the run. -/
theorem run_bind_error {command : EStateM ε σ α} {state next : σ} {fault : ε}
    (run : command.run state = .error fault next) (rest : α → EStateM ε σ β) :
    (command >>= rest).run state = .error fault next := by
  rw [EStateM.run_bind, run]

/-- A run that returned did so part after part. -/
theorem run_bind_eq_ok {command : EStateM ε σ α} {rest : α → EStateM ε σ β} {state last : σ}
    {result : β} : (command >>= rest).run state = .ok result last ↔
      ∃ value next, command.run state = .ok value next ∧
        (rest value).run next = .ok result last := by
  constructor
  · intro returned
    cases run : command.run state with
    | ok value next => exact ⟨value, next, rfl, (run_bind_ok run rest).symm.trans returned⟩
    | error fault next =>
        rw [run_bind_error run] at returned
        cases returned
  · rintro ⟨value, next, run, following⟩
    rw [run_bind_ok run, following]

/-- What follows a choice follows both sides of it. -/
theorem ite_bind (condition : Prop) [Decidable condition] (yes no : EStateM ε σ α)
    (rest : α → EStateM ε σ β) :
    (if condition then yes else no) >>= rest =
      if condition then yes >>= rest else no >>= rest := by
  split <;> rfl

/-- Every run of the command that returns returns such a value. -/
def Yields (property : α → Prop) (command : EStateM ε σ α) : Prop :=
  ∀ state value next, command.run state = .ok value next → property value

section Yields

variable {property : α → Prop}

theorem yields_pure {value : α} (holds : property value) :
    Yields property (pure value : EStateM ε σ α) := by
  intro state other next returned
  cases returned
  exact holds

/-- The last part decides. -/
theorem yields_bind {property : β → Prop} {command : EStateM ε σ α}
    {rest : α → EStateM ε σ β} (last : ∀ first, Yields property (rest first)) :
    Yields property (command >>= rest) := by
  intro state other next returned
  rw [EStateM.run_bind] at returned
  cases run : command.run state with
  | ok first middle =>
      rw [run] at returned
      exact last first middle other next returned
  | error fault middle =>
      rw [run] at returned
      cases returned

theorem yields_ite {condition : Prop} [Decidable condition] {yes no : EStateM ε σ α}
    (yieldsYes : Yields property yes) (yieldsNo : Yields property no) :
    Yields property (if condition then yes else no) := by
  split
  · exact yieldsYes
  · exact yieldsNo

end Yields

/-- Every run of the command that returns returns this value. -/
def ReturnsOnly (value : α) (command : EStateM ε σ α) : Prop :=
  ∀ state other next, command.run state = .ok other next → other = value

theorem returnsOnly_pure (value : α) : ReturnsOnly value (pure value : EStateM ε σ α) :=
  yields_pure rfl

theorem returnsOnly_bind {value : β} {command : EStateM ε σ α} {rest : α → EStateM ε σ β}
    (last : ∀ first, ReturnsOnly value (rest first)) : ReturnsOnly value (command >>= rest) :=
  yields_bind last

theorem returnsOnly_ite {value : α} {condition : Prop} [Decidable condition]
    {yes no : EStateM ε σ α} (returnsYes : ReturnsOnly value yes)
    (returnsNo : ReturnsOnly value no) :
    ReturnsOnly value (if condition then yes else no) :=
  yields_ite returnsYes returnsNo

/-- The state a run ends in, whether it returned or faulted. -/
def final : EStateM.Result ε σ α → σ
  | .ok _ state => state
  | .error _ state => state

@[simp] theorem final_ok (value : α) (state : σ) :
    final (.ok value state : EStateM.Result ε σ α) = state := rfl

@[simp] theorem final_error (fault : ε) (state : σ) :
    final (.error fault state : EStateM.Result ε σ α) = state := rfl

/-- What comes after a part does not change the state. -/
theorem final_bind_of_still {command : EStateM ε σ α} {rest : α → EStateM ε σ β}
    (still : ∀ value next, final ((rest value).run next) = next) (state : σ) :
    final ((command >>= rest).run state) = final (command.run state) := by
  rw [EStateM.run_bind]
  cases command.run state with
  | ok value next => exact still value next
  | error fault next => rfl

/-! ## Sequences -/

section Sequences

variable {ι : Type*} {perform : ι → EStateM ε σ β}

/-- One command for each item, in order. What they return is not used. -/
def sequence (perform : ι → EStateM ε σ β) : List ι → EStateM ε σ PUnit
  | [] => pure ⟨⟩
  | item :: items => do
      let _ ← perform item
      sequence perform items

/-- A sequence returns when its last command does after the others did. -/
theorem sequence_concat {items : List ι} {last : ι} {state after : σ} :
    (sequence perform (items ++ [last])).run state = .ok ⟨⟩ after ↔
      ∃ middle value, (sequence perform items).run state = .ok ⟨⟩ middle ∧
        (perform last).run middle = .ok value after := by
  induction items generalizing state with
  | nil =>
      simp only [List.nil_append, sequence, EStateM.run_bind]
      cases run : (perform last).run state with
      | error fault next => simp [run]
      | ok value next => simp [run]
  | cons item items ih =>
      rw [List.cons_append, sequence, sequence, EStateM.run_bind, EStateM.run_bind]
      cases (perform item).run state with
      | error fault next => simp
      | ok value next => exact ih

/-- What every command keeps, the sequence keeps, however far it gets. -/
theorem final_sequence {invariant : σ → Prop}
    (kept : ∀ item state, invariant state → invariant (final ((perform item).run state)))
    (items : List ι) {state : σ} (holds : invariant state) :
    invariant (final ((sequence perform items).run state)) := by
  induction items generalizing state with
  | nil => exact holds
  | cons item items ih =>
      have first := kept item state holds
      rw [sequence, EStateM.run_bind]
      cases run : (perform item).run state with
      | ok value next =>
          rw [run] at first
          exact ih first
      | error fault next =>
          rw [run] at first
          exact first

end Sequences

/-! ## Parts without a state -/

section Pure

@[simp] theorem ok_bind (value : α) (rest : α → Except ε β) :
    (Except.ok value >>= rest) = rest value := rfl

@[simp] theorem error_bind (fault : ε) (rest : α → Except ε β) :
    (Except.error fault >>= rest) = .error fault := rfl

@[simp] theorem map_ok (f : α → β) (value : α) :
    f <$> (Except.ok value : Except ε α) = .ok (f value) := rfl

@[simp] theorem map_error (f : α → β) (fault : ε) :
    f <$> (Except.error fault : Except ε α) = .error fault := rfl

theorem bind_eq_ok {computation : Except ε α} {rest : α → Except ε β} {result : β} :
    (computation >>= rest) = .ok result ↔
      ∃ value, computation = .ok value ∧ rest value = .ok result := by
  cases computation <;> simp

/-- A computation without a state as a command. -/
def lift : Except ε α → EStateM ε σ α
  | .ok value => pure value
  | .error fault => throw fault

instance monadLiftExcept : MonadLift (Except ε) (EStateM ε σ) := ⟨lift⟩

@[simp] theorem run_lift (computation : Except ε α) (state : σ) :
    (liftM computation : EStateM ε σ α).run state =
      match computation with
      | .ok value => .ok value state
      | .error fault => .error fault state := by
  cases computation <;> rfl

theorem run_lift_ok {computation : Except ε α} {value : α} {state : σ}
    (succeeds : computation = .ok value) :
    (liftM computation : EStateM ε σ α).run state = .ok value state := by
  rw [succeeds, run_lift]

theorem run_lift_error {computation : Except ε α} {fault : ε} {state : σ}
    (fails : computation = .error fault) :
    (liftM computation : EStateM ε σ α).run state = .error fault state := by
  rw [fails, run_lift]

end Pure

/-! ## Parts of a state -/

section Parts

variable {τ : Type u}

/-- A command on a part of the state. -/
def zoom (part : σ → τ) (replace : τ → σ → σ) (command : EStateM ε τ α) : EStateM ε σ α :=
  fun state =>
    match command.run (part state) with
    | .ok value next => .ok value (replace next state)
    | .error fault next => .error fault (replace next state)

theorem run_zoom (part : σ → τ) (replace : τ → σ → σ) (command : EStateM ε τ α) (state : σ) :
    (zoom part replace command).run state =
      match command.run (part state) with
      | .ok value next => .ok value (replace next state)
      | .error fault next => .error fault (replace next state) := rfl

theorem final_zoom (part : σ → τ) (replace : τ → σ → σ) (command : EStateM ε τ α) (state : σ) :
    final ((zoom part replace command).run state) =
      replace (final (command.run (part state))) state := by
  rw [run_zoom]
  cases command.run (part state) with
  | ok value next => rfl
  | error fault next => rfl

end Parts

/-! ## Relations between the states before and after -/

/-- Every run of the command ends in a state related to the one it began in. -/
def Keeps (relation : σ → σ → Prop) (command : EStateM ε σ α) : Prop :=
  ∀ state, relation state (final (command.run state))

section Rules

variable {relation : σ → σ → Prop}

theorem keeps_pure (refl : ∀ state, relation state state) (value : α) :
    Keeps relation (pure value : EStateM ε σ α) := refl

theorem keeps_throw (refl : ∀ state, relation state state) (fault : ε) :
    Keeps relation (throw fault : EStateM ε σ α) := refl

theorem keeps_modify {change : σ → σ} (related : ∀ state, relation state (change state)) :
    Keeps relation (modify change : EStateM ε σ PUnit) := related

/-- A command that never changes the state. -/
theorem keeps_of_final (refl : ∀ state, relation state state) {command : EStateM ε σ α}
    (unchanged : ∀ state, final (command.run state) = state) : Keeps relation command :=
  fun state => (unchanged state).symm ▸ refl state

theorem keeps_ite {condition : Prop} [Decidable condition] {yes no : EStateM ε σ α}
    (keepsYes : Keeps relation yes) (keepsNo : Keeps relation no) :
    Keeps relation (if condition then yes else no) := by
  split
  · exact keepsYes
  · exact keepsNo

theorem keeps_bind (trans : ∀ first second third, relation first second →
      relation second third → relation first third)
    {command : EStateM ε σ α} {rest : α → EStateM ε σ β} (keeps : Keeps relation command)
    (keepsRest : ∀ value, Keeps relation (rest value)) :
    Keeps relation (command >>= rest) := by
  intro state
  have first := keeps state
  rw [EStateM.run_bind]
  cases run : command.run state with
  | ok value next =>
      rw [run] at first
      exact trans _ _ _ first (keepsRest value next)
  | error fault next =>
      rw [run] at first
      exact first

end Rules

/-! ## Invariants -/

/-- From a state that meets the invariant the run ends in one that meets it, and what is
returned is as `post` says. -/
def Upholds (invariant : σ → Prop) (command : EStateM ε σ α) (post : α → Prop) : Prop :=
  ∀ state, invariant state →
    match command.run state with
    | .ok value next => invariant next ∧ post value
    | .error _ next => invariant next

section Invariants

variable {invariant : σ → Prop} {post : α → Prop}

theorem Upholds.final {command : EStateM ε σ α} (upholds : Upholds invariant command post)
    {state : σ} (holds : invariant state) : invariant (final (command.run state)) := by
  have ends := upholds state holds
  cases run : command.run state with
  | ok value next =>
      rw [run] at ends
      exact ends.1
  | error fault next =>
      rw [run] at ends
      exact ends

theorem Upholds.ok {command : EStateM ε σ α} (upholds : Upholds invariant command post)
    {state next : σ} {value : α} (holds : invariant state)
    (run : command.run state = .ok value next) : invariant next ∧ post value := by
  have ends := upholds state holds
  rw [run] at ends
  exact ends

theorem upholds_pure {value : α} (holds : post value) :
    Upholds invariant (pure value : EStateM ε σ α) post := fun _ meets => ⟨meets, holds⟩

theorem upholds_throw (fault : ε) : Upholds invariant (throw fault : EStateM ε σ α) post :=
  fun _ meets => meets

theorem upholds_get : Upholds invariant (get : EStateM ε σ σ) invariant :=
  fun _ meets => ⟨meets, meets⟩

theorem upholds_modify {change : σ → σ} (kept : ∀ state, invariant state → invariant (change state)) :
    Upholds invariant (modify change : EStateM ε σ PUnit) fun _ => True :=
  fun state meets => ⟨kept state meets, trivial⟩

/-- A command that never changes the state. -/
theorem upholds_of_still {command : EStateM ε σ α}
    (still : ∀ state, Command.final (command.run state) = state) :
    Upholds invariant command fun _ => True := by
  intro state meets
  have same := still state
  cases run : command.run state with
  | ok value next =>
      rw [run, final_ok] at same
      exact ⟨same ▸ meets, trivial⟩
  | error fault next =>
      rw [run, final_error] at same
      exact same ▸ meets

theorem Upholds.weaken {command : EStateM ε σ α} {weaker : α → Prop}
    (upholds : Upholds invariant command post) (implies : ∀ value, post value → weaker value) :
    Upholds invariant command weaker := by
  intro state meets
  have ends := upholds state meets
  cases run : command.run state with
  | ok value next =>
      rw [run] at ends
      exact ⟨ends.1, implies value ends.2⟩
  | error fault next =>
      rw [run] at ends
      exact ends

theorem upholds_ite {condition : Prop} [Decidable condition] {yes no : EStateM ε σ α}
    (upholdsYes : condition → Upholds invariant yes post)
    (upholdsNo : ¬ condition → Upholds invariant no post) :
    Upholds invariant (if condition then yes else no) post := by
  split
  · next holds => exact upholdsYes holds
  · next fails => exact upholdsNo fails

theorem upholds_bind {command : EStateM ε σ α} {rest : α → EStateM ε σ β} {post : β → Prop}
    {between : α → Prop} (first : Upholds invariant command between)
    (second : ∀ value, between value → Upholds invariant (rest value) post) :
    Upholds invariant (command >>= rest) post := by
  intro state meets
  have ends := first state meets
  rw [EStateM.run_bind]
  cases run : command.run state with
  | ok value next =>
      rw [run] at ends
      exact second value ends.2 next ends.1
  | error fault next =>
      rw [run] at ends
      exact ends

end Invariants

/-! ## Weakest preconditions -/

/-- The run returns, with a value and in a state that meet `post`. -/
def Wp (command : EStateM ε σ α) (post : α → σ → Prop) (state : σ) : Prop :=
  match command.run state with
  | .ok value next => post value next
  | .error _ _ => False

section Preconditions

variable {command : EStateM ε σ α} {post : α → σ → Prop} {state : σ}

theorem wp_iff : Wp command post state ↔
    ∃ value next, command.run state = .ok value next ∧ post value next := by
  rw [Wp]
  cases command.run state with
  | ok value next =>
      constructor
      · exact fun holds => ⟨value, next, rfl, holds⟩
      · rintro ⟨_, _, ⟨⟩, holds⟩
        exact holds
  | error fault next => simp

@[simp] theorem wp_pure (value : α) : Wp (pure value : EStateM ε σ α) post state ↔ post value state :=
  Iff.rfl

@[simp] theorem wp_throw (fault : ε) : Wp (throw fault : EStateM ε σ α) post state ↔ False :=
  Iff.rfl

@[simp] theorem wp_bind {rest : α → EStateM ε σ β} {post : β → σ → Prop} :
    Wp (command >>= rest) post state ↔
      Wp command (fun value next => Wp (rest value) post next) state := by
  simp only [Wp, EStateM.run_bind]
  cases command.run state with
  | ok value next => exact Iff.rfl
  | error fault next => exact Iff.rfl

@[simp] theorem wp_map {f : α → β} {post : β → σ → Prop} :
    Wp (f <$> command) post state ↔ Wp command (fun value next => post (f value) next) state := by
  simp only [Wp, run_map]
  cases command.run state with
  | ok value next => exact Iff.rfl
  | error fault next => exact Iff.rfl

@[simp] theorem wp_get {post : σ → σ → Prop} :
    Wp (get : EStateM ε σ σ) post state ↔ post state state := Iff.rfl

@[simp] theorem wp_set {post : PUnit → σ → Prop} (next : σ) :
    Wp (set next : EStateM ε σ PUnit) post state ↔ post ⟨⟩ next := Iff.rfl

@[simp] theorem wp_modify {post : PUnit → σ → Prop} (change : σ → σ) :
    Wp (modify change : EStateM ε σ PUnit) post state ↔ post ⟨⟩ (change state) := Iff.rfl

@[simp] theorem wp_lift (computation : Except ε α) :
    Wp (liftM computation : EStateM ε σ α) post state ↔
      ∃ value, computation = .ok value ∧ post value state := by
  cases computation <;> simp [Wp]

theorem wp_congr {other : α → σ → Prop} (same : ∀ value next, post value next ↔ other value next) :
    Wp command post state ↔ Wp command other state := by
  simp only [Wp]
  cases command.run state with
  | ok value next => exact same value next
  | error fault next => exact Iff.rfl

/-- The run returns. -/
def Returns (command : EStateM ε σ α) (state : σ) : Prop := Wp command (fun _ _ => True) state

theorem wp_const {fact : Prop} : Wp command (fun _ _ => fact) state ↔ Returns command state ∧ fact := by
  simp only [Returns, Wp]
  cases command.run state with
  | ok value next => simp
  | error fault next => simp

theorem not_returns_of_error {fault : ε} {next : σ} (run : command.run state = .error fault next) :
    ¬ Returns command state := by
  simp only [Returns, Wp, run, not_false_eq_true]

/-- What comes after a part always returns. -/
theorem returns_bind_of_total {rest : α → EStateM ε σ β}
    (total : ∀ value next, Returns (rest value) next) :
    Returns (command >>= rest) state ↔ Returns command state := by
  rw [Returns, wp_bind]
  exact wp_congr fun value next => iff_true_intro (total value next)

/-- A part that returns is followed by the rest. -/
theorem returns_bind_of_ok {rest : α → EStateM ε σ β} {value : α} {next : σ}
    (run : command.run state = .ok value next) :
    Returns (command >>= rest) state ↔ Returns (rest value) next := by
  simp only [Returns, Wp, run_bind_ok run]

/-- Where only one value is returned, what is asked of the others does not matter. -/
theorem wp_of_returnsOnly {value : α} (only : ReturnsOnly value command) :
    Wp command post state ↔ Wp command (fun _ next => post value next) state := by
  simp only [Wp]
  cases run : command.run state with
  | ok other next =>
      rw [only state other next run]
  | error fault next => exact Iff.rfl

end Preconditions

end Command
