import Mathlib.Data.List.Induction

/-!
# Histories

A history is a list of items in the order they happened. A condition on a run
usually constrains each item by the ones before it; this module gives such
conditions one form and the equations by which they unfold along the list.
-/

namespace History

universe u

variable {α : Type u}

/-- Every item of a history has `property` with respect to the items before
it. -/
def EachAfter (property : List α → α → Prop) (items : List α) : Prop :=
  ∀ before item after, items = before ++ item :: after → property before item

@[simp] theorem eachAfter_nil (property : List α → α → Prop) :
    EachAfter property [] := by
  intro before item after equal
  simp at equal

/-- Unfolding at the front: the condition on the rest sees the first item as
part of the past. -/
theorem eachAfter_cons (property : List α → α → Prop) (first : α) (rest : List α) :
    EachAfter property (first :: rest) ↔
      property [] first ∧
        EachAfter (fun before item => property (first :: before) item) rest := by
  constructor
  · intro each
    refine ⟨each [] first rest rfl, ?_⟩
    intro before item after equal
    exact each (first :: before) item after (by rw [equal, List.cons_append])
  · intro ⟨head, tail⟩ before item after equal
    cases before with
    | nil =>
        simp only [List.nil_append, List.cons.injEq] at equal
        exact equal.1 ▸ head
    | cons other before =>
        simp only [List.cons_append, List.cons.injEq] at equal
        exact equal.1 ▸ tail before item after equal.2

/-- Unfolding at the end: the last item sees all the others. -/
theorem eachAfter_concat (property : List α → α → Prop) (items : List α) (last : α) :
    EachAfter property (items ++ [last]) ↔
      EachAfter property items ∧ property items last := by
  induction items generalizing property with
  | nil => simp [eachAfter_cons]
  | cons first items ih =>
      rw [List.cons_append, eachAfter_cons, eachAfter_cons, ih, and_assoc]

theorem EachAfter.mono {weaker stronger : List α → α → Prop} {items : List α}
    (implies : ∀ before item, stronger before item → weaker before item)
    (each : EachAfter stronger items) : EachAfter weaker items :=
  fun before item after equal => implies before item (each before item after equal)

/-- Equivalent properties give equivalent conditions. -/
theorem eachAfter_congr {left right : List α → α → Prop} {items : List α}
    (same : ∀ before item, left before item ↔ right before item) :
    EachAfter left items ↔ EachAfter right items :=
  ⟨EachAfter.mono fun before item => (same before item).mp,
    EachAfter.mono fun before item => (same before item).mpr⟩

/-- A condition that agrees with `expected` while an invariant of the past holds,
and whose fulfilment restores the invariant, agrees with it over whole
histories: the first item to break one breaks the other. -/
theorem eachAfter_iff_of_invariant {expected condition : List α → α → Prop}
    (invariant : List α → Prop) (start : invariant [])
    (preserved : ∀ before item, invariant before → condition before item →
      invariant (before ++ [item]))
    (agree : ∀ before item, invariant before →
      (expected before item ↔ condition before item)) (items : List α) :
    EachAfter expected items ↔ EachAfter condition items := by
  have joint : (EachAfter condition items → invariant items) ∧
      (EachAfter expected items ↔ EachAfter condition items) := by
    induction items using List.reverseRecOn with
    | nil => exact ⟨fun _ => start, by simp⟩
    | append_singleton items last ih =>
        simp only [eachAfter_concat, ih.2]
        refine ⟨fun ⟨each, holds⟩ => preserved items last (ih.1 each) holds, ?_⟩
        exact and_congr_right fun each => agree items last (ih.1 each)
  exact joint.2

end History
