import RinaSense.Rib.State

/-!
# Invoke ids

The ids that consecutive calls of `get_next_invoke_id` return, by which the RIB daemon knows
its requests. When the counter is reset, its first id is returned twice in a row.
-/

namespace RinaSense

open Command

/-! ## Runs -/

/-- The ids of a number of calls in a row. -/
def invokeIds : Nat → Rib (List Int)
  | 0 => return []
  | calls + 1 => do
      let id ← getNextInvokeId
      return id :: (← invokeIds calls)

/-- The ids are positive, no increment of the counter overflows, and any two ids of
`INT_MAX - 1` calls in a row are different ones. -/
def WellNumbered (calls : Nat) : Prop :=
  ∃ ids after, (invokeIds calls).run .initial = .ok ids after ∧
    (∀ id ∈ ids, 0 < id) ∧
    (∀ earlier ≤ calls, (final ((invokeIds earlier).run .initial)).invokeId ≤ intMax) ∧
    ∀ (first second : Nat) (id : Int), first < second → (second : Int) - first < intMax - 1 →
      ids[first]? = some id → ids[second]? ≠ some id

/-! ## The counter -/

/-- The id that a call returns. -/
def takenId (counter : Int) : Int := if counter % intMax = 0 then 1 else counter

/-- The counter after a call. -/
def followingId (counter : Int) : Int := if counter % intMax = 0 then 1 else counter + 1

/-- The counter after a number of calls. -/
def counterAfter (counter : Int) : Nat → Int
  | 0 => counter
  | calls + 1 => counterAfter (followingId counter) calls

def idsFrom (counter : Int) : Nat → List Int
  | 0 => []
  | calls + 1 => takenId counter :: idsFrom (followingId counter) calls

theorem run_invokeIds (calls : Nat) (state : RibState) :
    (invokeIds calls).run state = .ok (idsFrom state.invokeId calls)
      { state with invokeId := counterAfter state.invokeId calls } := by
  induction calls generalizing state with
  | zero => rfl
  | succ calls ih =>
      rw [invokeIds, run_bind_ok (run_getNextInvokeId state), run_bind_ok (ih _)]
      rfl

theorem getElem?_idsFrom {counter : Int} {calls call : Nat} (made : call < calls) :
    (idsFrom counter calls)[call]? = some (takenId (counterAfter counter call)) := by
  induction calls generalizing counter call with
  | zero => exact absurd made (Nat.not_lt_zero _)
  | succ calls ih =>
      cases call with
      | zero => rfl
      | succ call => exact ih (Nat.lt_of_succ_lt_succ made)

theorem idsFrom_length (counter : Int) (calls : Nat) :
    (idsFrom counter calls).length = calls := by
  induction calls generalizing counter with
  | zero => rfl
  | succ calls ih => rw [idsFrom, List.length_cons, ih]

theorem counterAfter_succ (counter : Int) (calls : Nat) :
    counterAfter counter (calls + 1) = followingId (counterAfter counter calls) := by
  induction calls generalizing counter with
  | zero => rfl
  | succ calls ih => exact ih (followingId counter)

/-- The counter is reset at its limit only. -/
theorem resets_iff {counter : Int} (positive : 0 < counter) (inRange : counter ≤ intMax) :
    counter % intMax = 0 ↔ counter = intMax := by
  rw [intMax] at *
  omega

theorem takenId_eq {counter : Int} (positive : 0 < counter) (inRange : counter ≤ intMax) :
    takenId counter = if counter = intMax then 1 else counter := by
  simp only [takenId, resets_iff positive inRange]

theorem followingId_eq {counter : Int} (positive : 0 < counter) (inRange : counter ≤ intMax) :
    followingId counter = if counter = intMax then 1 else counter + 1 := by
  simp only [followingId, resets_iff positive inRange]

theorem counterAfter_inRange (calls : Nat) :
    0 < counterAfter 1 calls ∧ counterAfter 1 calls ≤ intMax := by
  induction calls with
  | zero => exact ⟨Int.one_pos, by decide⟩
  | succ calls ih =>
      rw [counterAfter_succ, followingId_eq ih.1 ih.2]
      split
      · exact ⟨Int.one_pos, by decide⟩
      · omega

theorem takenId_positive (call : Nat) : 0 < takenId (counterAfter 1 call) := by
  have ⟨positive, inRange⟩ := counterAfter_inRange call
  rw [takenId_eq positive inRange]
  split
  · exact Int.one_pos
  · exact positive

/-- Up to its limit the counter counts the calls. -/
theorem counterAfter_eq {calls : Nat} (few : (calls : Int) < intMax) :
    counterAfter 1 calls = calls + 1 := by
  induction calls with
  | zero => rfl
  | succ calls ih =>
      have ⟨positive, inRange⟩ := counterAfter_inRange calls
      have counted := ih (by omega)
      rw [counterAfter_succ, followingId_eq positive inRange, counted, if_neg (by omega)]
      rfl

/-- Of `INT_MAX` calls the last one returns 1, and the others are counted. -/
theorem takenId_counterAfter {call : Nat} (few : (call : Int) < intMax) :
    takenId (counterAfter 1 call) = if (call : Int) + 1 = intMax then 1 else (call : Int) + 1 := by
  have ⟨positive, inRange⟩ := counterAfter_inRange call
  rw [takenId_eq positive inRange, counterAfter_eq few]

/-- The call after the counter was reset returns 1 again. -/
theorem takenId_again : takenId (counterAfter 1 2147483646) = 1 ∧
    takenId (counterAfter 1 2147483647) = 1 := by
  have last : counterAfter 1 2147483646 = intMax := counterAfter_eq (by decide)
  constructor
  · rw [last]
    rfl
  · rw [counterAfter_succ, last]
    rfl

/-! ## Distinct ids -/

theorem getElem?_ids_eq_some {calls call : Nat} {id : Int}
    (found : (idsFrom 1 calls)[call]? = some id) :
    call < calls ∧ id = takenId (counterAfter 1 call) := by
  have made : call < calls := by
    rw [← idsFrom_length 1 calls]
    exact (List.getElem?_eq_some_iff.mp found).1
  rw [getElem?_idsFrom made] at found
  exact ⟨made, (Option.some.inj found).symm⟩

theorem wellNumbered_iff_distinct (calls : Nat) :
    WellNumbered calls ↔ ∀ (first second : Nat) (id : Int), first < second →
      (second : Int) - first < intMax - 1 →
        (idsFrom 1 calls)[first]? = some id → (idsFrom 1 calls)[second]? ≠ some id := by
  constructor
  · rintro ⟨ids, after, run, -, -, distinct⟩
    rw [run_invokeIds] at run
    cases run
    exact distinct
  · intro distinct
    refine ⟨_, _, run_invokeIds calls .initial, ?_, ?_, distinct⟩
    · intro id member
      obtain ⟨call, found⟩ := List.mem_iff_getElem?.mp member
      obtain ⟨-, rfl⟩ := getElem?_ids_eq_some found
      exact takenId_positive call
    · intro earlier _
      rw [run_invokeIds]
      exact (counterAfter_inRange earlier).2

theorem not_wellNumbered {calls : Nat} (many : 2147483647 < calls) : ¬ WellNumbered calls := by
  rw [wellNumbered_iff_distinct]
  intro distinct
  have first : (idsFrom 1 calls)[2147483646]? = some 1 := by
    rw [getElem?_idsFrom (by omega), takenId_again.1]
  have second : (idsFrom 1 calls)[2147483647]? = some 1 := by
    rw [getElem?_idsFrom many, takenId_again.2]
  exact distinct 2147483646 2147483647 1 (by decide) (by decide) first second

/-- The invoke ids of a run are positive and distinct within `INT_MAX - 1` calls exactly if the
counter is reset with its last call at most. -/
theorem invokeIds_distinct_iff (calls : Nat) : WellNumbered calls ↔ (calls : Int) ≤ intMax := by
  constructor
  · intro wellNumbered
    by_contra many
    apply not_wellNumbered _ wellNumbered
    rw [intMax] at many
    omega
  · intro few
    rw [wellNumbered_iff_distinct]
    intro first second id later near found again
    obtain ⟨-, rfl⟩ := getElem?_ids_eq_some found
    obtain ⟨made, same⟩ := getElem?_ids_eq_some again
    rw [takenId_counterAfter (by omega), takenId_counterAfter (by omega)] at same
    split at same
    · omega
    · split at same
      · omega
      · omega

/-- Two calls in a row return the same id. -/
theorem first_id_returned_twice : ¬ WellNumbered 2147483648 := not_wellNumbered (by decide)

end RinaSense
