import Mathlib.Data.List.Basic

/-!
# Conversions that can be undone

A conversion to a form that not every value has, with the way back. What was converted is found
again, so that a value is determined by its form. Conversions are put together from those of the
parts of a value.
-/

universe u v w z

/-- A value of type `α` in the form `β`. -/
structure Conversion (α : Type u) (β : Type v) where
  fill : α → Option β
  view : β → Option α
  inverts : ∀ value form, fill value = some form → view form = some value

namespace Conversion

variable {α : Type u} {β : Type v} {γ : Type w} {δ : Type z}

/-- The form is the value. -/
def same : Conversion α α where
  fill := some
  view := some
  inverts := fun _ _ filled => congrArg some (Option.some.inj filled).symm

/-- There is nothing to convert, and what the form holds is not looked at. -/
def absent (form : β) : Conversion PUnit.{u + 1} β where
  fill := fun _ => some form
  view := fun _ => some ⟨⟩
  inverts := fun _ _ _ => rfl

/-- A value that may be missing, in the form of a value that may be missing. -/
def optional (part : Conversion α β) : Conversion (Option α) (Option β) where
  fill
    | none => some none
    | some value => (part.fill value).map some
  view
    | none => some none
    | some form => (part.view form).map some
  inverts := by
    intro value form filled
    cases value with
    | none =>
        cases filled
        rfl
    | some value =>
        obtain ⟨inner, converted, rfl⟩ := Option.map_eq_some_iff.mp filled
        exact congrArg (Option.map some) (part.inverts value inner converted)

/-- A value that may be missing, as a list of at most one. -/
def atMostOne (part : Conversion α β) : Conversion (Option α) (List β) where
  fill
    | none => some []
    | some value => (part.fill value).map fun form => [form]
  view
    | [] => some none
    | form :: _ => (part.view form).map some
  inverts := by
    intro value form filled
    cases value with
    | none =>
        cases filled
        rfl
    | some value =>
        obtain ⟨inner, converted, rfl⟩ := Option.map_eq_some_iff.mp filled
        exact congrArg (Option.map some) (part.inverts value inner converted)

/-- Both parts of a pair. -/
def pair (first : Conversion α β) (second : Conversion γ δ) : Conversion (α × γ) (β × δ) where
  fill := fun value => (first.fill value.1).bind fun left =>
    (second.fill value.2).map fun right => (left, right)
  view := fun form => (first.view form.1).bind fun left =>
    (second.view form.2).map fun right => (left, right)
  inverts := by
    intro value form filled
    obtain ⟨left, converted, filled⟩ := Option.bind_eq_some_iff.mp filled
    obtain ⟨right, others, rfl⟩ := Option.map_eq_some_iff.mp filled
    rw [first.inverts _ _ converted, Option.bind_some, second.inverts _ _ others]
    rfl

/-- The value by its parts. -/
def through (parts : γ → α) (whole : α → γ) (made : ∀ value, whole (parts value) = value)
    (conversion : Conversion α β) : Conversion γ β where
  fill := fun value => conversion.fill (parts value)
  view := fun form => (conversion.view form).map whole
  inverts := by
    intro value form filled
    rw [conversion.inverts _ _ filled, Option.map_some, made]

/-! ## What a form is like -/

/-- Where the value is as said, so is its form. -/
def Ensures (conversion : Conversion α β) (before : α → Prop) (after : β → Prop) : Prop :=
  ∀ value form, before value → conversion.fill value = some form → after form

variable {part : Conversion α β} {second : Conversion γ δ} {before : α → Prop} {after : β → Prop}
  {beforeSecond : γ → Prop} {afterSecond : δ → Prop}

theorem ensures_of_all {conversion : Conversion α β} (all : ∀ form, after form) :
    conversion.Ensures before after := fun _ form _ _ => all form

theorem ensures_optional (ensures : part.Ensures before after) :
    (optional part).Ensures (fun value => ∀ inner ∈ value, before inner)
      (fun form => ∀ inner ∈ form, after inner) := by
  intro value form holds filled
  cases value with
  | none =>
      cases filled
      rintro _ ⟨⟩
  | some value =>
      obtain ⟨inner, converted, rfl⟩ := Option.map_eq_some_iff.mp filled
      rintro _ ⟨⟩
      exact ensures value inner (holds value rfl) converted

theorem ensures_atMostOne (ensures : part.Ensures before after) :
    (atMostOne part).Ensures (fun value => ∀ inner ∈ value, before inner)
      (fun form => form.length ≤ 1 ∧ ∀ inner ∈ form, after inner) := by
  intro value form holds filled
  cases value with
  | none =>
      cases filled
      exact ⟨Nat.zero_le 1, by rintro _ ⟨⟩⟩
  | some value =>
      obtain ⟨inner, converted, rfl⟩ := Option.map_eq_some_iff.mp filled
      exact ⟨Nat.le_refl 1, List.forall_mem_singleton.mpr
        (ensures value inner (holds value rfl) converted)⟩

theorem ensures_pair (first : part.Ensures before after)
    (rest : second.Ensures beforeSecond afterSecond) :
    (pair part second).Ensures (fun value => before value.1 ∧ beforeSecond value.2)
      (fun form => after form.1 ∧ afterSecond form.2) := by
  intro value form holds filled
  obtain ⟨left, converted, filled⟩ := Option.bind_eq_some_iff.mp filled
  obtain ⟨right, others, rfl⟩ := Option.map_eq_some_iff.mp filled
  exact ⟨first _ _ holds.1 converted, rest _ _ holds.2 others⟩

theorem ensures_through {parts : γ → α} {whole : α → γ}
    {made : ∀ value, whole (parts value) = value}
    (ensures : part.Ensures before after) :
    (through parts whole made part).Ensures (fun value => before (parts value)) after :=
  fun value form holds filled => ensures (parts value) form holds filled

end Conversion
