import Mathlib.Data.List.Induction
import Mathlib.Data.Set.Basic

/-!
# Signals

Kinds of events that are signalled and consumed. A kind is pending when it was
signalled and not consumed since, so after it was consumed only a new signal
makes it pending again.
-/

universe u

namespace Signals

variable {κ : Type u}

inductive Event (κ : Type u) where
  | signal (kinds : Set κ)
  | consume (kinds : Set κ)

/-- The pending kinds after one more event. -/
def after (pending : Set κ) : Event κ → Set κ
  | .signal kinds => pending ∪ kinds
  | .consume kinds => pending \ kinds

/-- The pending kinds after a history. -/
def pending (history : List (Event κ)) : Set κ := history.foldl after ∅

@[simp] theorem pending_nil : pending ([] : List (Event κ)) = ∅ := rfl

@[simp] theorem pending_concat (history : List (Event κ)) (event : Event κ) :
    pending (history ++ [event]) = after (pending history) event := by
  rw [pending, List.foldl_append]
  rfl

/-- A kind is pending if and only if it was signalled and not consumed since. -/
theorem mem_pending_iff (history : List (Event κ)) (kind : κ) :
    kind ∈ pending history ↔
      ∃ before kinds later, history = before ++ .signal kinds :: later ∧ kind ∈ kinds ∧
        ∀ consumed, .consume consumed ∈ later → kind ∉ consumed := by
  induction history using List.reverseRecOn with
  | nil => simp
  | append_singleton history event ih =>
      rw [pending_concat]
      constructor
      · intro member
        cases event with
        | signal kinds =>
            cases member with
            | inl old =>
                obtain ⟨before, signalled, later, rfl, isKind, since⟩ := ih.mp old
                refine ⟨before, signalled, later ++ [.signal kinds], by simp, isKind, ?_⟩
                intro consumed consumption
                exact since consumed (by simpa using consumption)
            | inr new => exact ⟨history, kinds, [], rfl, new, by simp⟩
        | consume kinds =>
            obtain ⟨before, signalled, later, rfl, isKind, since⟩ := ih.mp member.1
            refine ⟨before, signalled, later ++ [.consume kinds], by simp, isKind, ?_⟩
            intro consumed consumption
            rcases List.mem_append.mp consumption with earlier | last
            · exact since consumed earlier
            · rw [List.mem_singleton, Event.consume.injEq] at last
              rw [last]
              exact member.2
      · intro ⟨before, signalled, later, equal, isKind, since⟩
        cases later using List.reverseRecOn with
        | nil =>
            have last := List.append_inj_right' equal rfl
            rw [List.cons.injEq] at last
            rw [last.1]
            exact .inr isKind
        | append_singleton later other =>
            rw [← List.cons_append, ← List.append_assoc] at equal
            have split := List.append_inj' equal rfl
            have old : kind ∈ pending history := ih.mpr ⟨before, signalled, later, split.1, isKind,
              fun consumed member => since consumed (List.mem_append_left _ member)⟩
            rw [(List.cons.inj split.2).1]
            cases other with
            | signal kinds => exact .inl old
            | consume kinds => exact ⟨old, since kinds (by simp)⟩

/-- A consumed kind is pending again only after a new signal of it. -/
theorem signalled_again {before later : List (Event κ)} {consumed : Set κ} {kind : κ}
    (isConsumed : kind ∈ consumed)
    (member : kind ∈ pending (before ++ .consume consumed :: later)) :
    ∃ kinds, .signal kinds ∈ later ∧ kind ∈ kinds := by
  induction later using List.reverseRecOn with
  | nil =>
      rw [pending_concat] at member
      exact absurd isConsumed member.2
  | append_singleton later last ih =>
      rw [← List.cons_append, ← List.append_assoc, pending_concat] at member
      cases last with
      | signal kinds =>
          cases member with
          | inl old =>
              obtain ⟨other, signalled, isKind⟩ := ih old
              exact ⟨other, List.mem_append_left _ signalled, isKind⟩
          | inr new => exact ⟨kinds, by simp, new⟩
      | consume kinds =>
          obtain ⟨other, signalled, isKind⟩ := ih member.1
          exact ⟨other, List.mem_append_left _ signalled, isKind⟩

end Signals
