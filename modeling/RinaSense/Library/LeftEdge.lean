import Mathlib.Data.List.Range
import Mathlib.Order.Basic
import RinaSense.Library.History

/-!
# Left window edges

A receiver that remembers the end of the in-order part of what it has taken,
its left window edge, refuses numbers at or below the edge and takes all others.
The edge follows the numbers only while they arrive consecutively. This module
states what such a receiver takes, in terms of the arrivals alone.
-/

namespace LeftEdge

open History

/-- The edge after one arrival. -/
def advance (edge number : Nat) : Nat := if number = edge + 1 then number else edge

/-- The edge after a list of arrivals. -/
def edge (start : Nat) (numbers : List Nat) : Nat := numbers.foldl advance start

/-- The arrivals above the edge of their moment. -/
def taken (start : Nat) : List Nat → List Nat
  | [] => []
  | number :: numbers =>
      if number ≤ start then taken start numbers
      else number :: taken (advance start number) numbers

@[simp] theorem edge_nil (start : Nat) : edge start [] = start := rfl

@[simp] theorem edge_cons (start number : Nat) (numbers : List Nat) :
    edge start (number :: numbers) = edge (advance start number) numbers := rfl

theorem edge_concat (start : Nat) (numbers : List Nat) (number : Nat) :
    edge start (numbers ++ [number]) = advance (edge start numbers) number := by
  simp [edge]

theorem advance_of_le {start number : Nat} (covered : number ≤ start) :
    advance start number = start := by
  simp only [advance]
  split <;> omega

theorem le_advance (start number : Nat) : start ≤ advance start number := by
  simp only [advance]
  split <;> omega

theorem le_edge (start : Nat) (numbers : List Nat) : start ≤ edge start numbers := by
  induction numbers generalizing start with
  | nil => exact Nat.le_refl start
  | cons number numbers ih => exact Nat.le_trans (le_advance start number) (ih _)

/-- All numbers from `first` up to `number` are among the arrivals, in this
order. Vacuous when `number` lies below `first`. -/
def Covered (first : Nat) (arrivals : List Nat) (number : Nat) : Prop :=
  (List.range' first (number + 1 - first)).Sublist arrivals

instance (first : Nat) (arrivals : List Nat) (number : Nat) :
    Decidable (Covered first arrivals number) :=
  inferInstanceAs (Decidable ((List.range' first (number + 1 - first)).Sublist arrivals))

private theorem concat_sublist_concat {xs ys : List Nat} {x y : Nat} :
    (xs ++ [x]).Sublist (ys ++ [y]) ↔ (xs ++ [x]).Sublist ys ∨ x = y ∧ xs.Sublist ys := by
  rw [← List.reverse_sublist, List.reverse_concat, List.reverse_concat,
    List.cons_sublist_cons', ← List.reverse_concat, List.reverse_sublist, List.reverse_sublist]

/-- One more arrival extends the covered numbers only as the next one. -/
theorem covered_concat {first : Nat} {arrivals : List Nat} {last number : Nat}
    (started : first < number) :
    Covered first (arrivals ++ [last]) number ↔
      Covered first arrivals number ∨ number = last ∧ Covered first arrivals (number - 1) := by
  have split : List.range' first (number + 1 - first) =
      List.range' first (number - 1 + 1 - first) ++ [number] := by
    rw [show number + 1 - first = (number - 1 + 1 - first) + 1 by omega, List.range'_1_concat]
    congr 2
    omega
  simp only [Covered, split, concat_sublist_concat]

/-- The edge covers exactly the numbers up to which the arrivals contain a
consecutive run beginning at the first one. -/
theorem le_edge_iff_covered (first : Nat) (numbers : List Nat) (number : Nat) :
    number ≤ edge first numbers ↔ Covered first (first :: numbers) number := by
  induction numbers using List.reverseRecOn generalizing number with
  | nil =>
      simp only [edge_nil, Covered]
      constructor
      · intro below
        rcases Nat.lt_or_eq_of_le below with lower | equal
        · rw [show number + 1 - first = 0 by omega]
          exact List.nil_sublist _
        · rw [show number + 1 - first = 1 by omega]
          exact List.Sublist.refl _
      · intro covered
        have short := covered.length_le
        simp only [List.length_range', List.length_singleton] at short
        omega
  | append_singleton numbers last ih =>
      rw [edge_concat, ← List.cons_append]
      by_cases below : number ≤ edge first numbers
      · have covered := ((ih number).mp below).trans (List.sublist_append_left _ [last])
        exact iff_of_true (Nat.le_trans below (le_advance _ last)) covered
      · have started := le_edge first numbers
        have uncovered := fun covered => below ((ih number).mpr covered)
        rw [covered_concat (by omega), or_iff_right uncovered, ← ih]
        simp only [advance]
        split <;> omega

theorem covered_of_lt {first number : Nat} (below : number < first) (arrivals : List Nat) :
    Covered first arrivals number := by
  rw [Covered, show number + 1 - first = 0 by omega]
  exact List.nil_sublist arrivals

/-- A covered number at or above the first one has itself arrived. -/
theorem mem_of_covered {first number : Nat} {arrivals : List Nat} (started : first ≤ number)
    (covered : Covered first arrivals number) : number ∈ arrivals := by
  refine covered.subset ?_
  rw [List.mem_range'_1]
  omega

/-! ## What is taken -/

/-- The arrivals taken above `highest` are strictly increasing exactly when
each arrival is above everything before it or covered by the edge. -/
theorem taken_increasing_iff_aux (start highest : Nat) (ordered : start ≤ highest)
    (numbers : List Nat) :
    (highest :: taken start numbers).Pairwise (· < ·) ↔
      EachAfter (fun before number =>
        (∀ earlier ∈ highest :: before, earlier < number) ∨ number ≤ edge start before)
        numbers := by
  induction numbers generalizing start highest with
  | nil => simp [taken]
  | cons number numbers ih =>
      rw [eachAfter_cons]
      by_cases covered : number ≤ start
      · rw [taken, if_pos covered, ih start highest ordered, edge_nil]
        simp only [covered, or_true, true_and]
        refine eachAfter_congr fun before item => ?_
        rw [edge_cons, advance_of_le covered]
        simp only [List.mem_cons, forall_eq_or_imp]
        constructor
        · rintro (⟨above, each⟩ | below)
          · exact .inl ⟨above, by omega, each⟩
          · exact .inr below
        · rintro (⟨above, -, each⟩ | below)
          · exact .inl ⟨above, each⟩
          · exact .inr below
      · rw [taken, if_neg covered]
        have advanced : advance start number ≤ number := by
          simp only [advance]
          split <;> omega
        have next := ih (advance start number) number advanced
        rw [List.pairwise_cons, next]
        simp only [edge_nil, covered, or_false, List.mem_singleton, forall_eq, edge_cons]
        constructor
        · rintro ⟨above, each⟩
          have higher : highest < number := above number List.mem_cons_self
          refine ⟨higher, each.mono fun before item => ?_⟩
          simp only [List.mem_cons, forall_eq_or_imp]
          exact Or.imp_left fun ⟨newer, rest⟩ => ⟨by omega, newer, rest⟩
        · rintro ⟨higher, each⟩
          have tail : EachAfter (fun before item =>
              (∀ earlier ∈ number :: before, earlier < item) ∨
                item ≤ edge (advance start number) before) numbers := by
            refine each.mono fun before item => ?_
            simp only [List.mem_cons, forall_eq_or_imp]
            exact Or.imp_left fun ⟨_, newer, rest⟩ => ⟨newer, rest⟩
          have increasing := List.pairwise_cons.mp (next.mpr tail)
          refine ⟨fun item member => ?_, tail⟩
          rcases List.mem_cons.mp member with rfl | member
          · exact higher
          · exact higher.trans (increasing.1 item member)

/-- A receiver that starts at `first` takes strictly increasing numbers exactly
when every arrival is either above all earlier ones or covered by them. -/
theorem taken_increasing_iff (first : Nat) (numbers : List Nat) :
    (first :: taken first numbers).Pairwise (· < ·) ↔
      EachAfter (fun before number =>
        (∀ earlier ∈ first :: before, earlier < number) ∨ Covered first (first :: before) number)
        numbers := by
  rw [taken_increasing_iff_aux first first (Nat.le_refl first)]
  exact eachAfter_congr fun before number => by rw [le_edge_iff_covered]

theorem taken_sublist (start : Nat) (numbers : List Nat) :
    (taken start numbers).Sublist numbers := by
  induction numbers generalizing start with
  | nil => exact List.Sublist.refl _
  | cons number numbers ih =>
      rw [taken]
      split
      · exact (ih start).cons number
      · exact (ih _).cons_cons number

/-- All arrivals are taken exactly when none lies at or below the edge of its
moment. -/
theorem taken_eq_self_iff (start : Nat) (numbers : List Nat) :
    taken start numbers = numbers ↔
      EachAfter (fun before number => edge start before < number) numbers := by
  induction numbers generalizing start with
  | nil => simp [taken]
  | cons number numbers ih =>
      rw [eachAfter_cons, edge_nil, taken]
      split
      case isTrue covered =>
          have shorter := (taken_sublist start numbers).length_le
          refine iff_of_false (fun equal => ?_) (fun each => by omega)
          have longer := congrArg List.length equal
          simp only [List.length_cons] at longer
          omega
      case isFalse above =>
          simp only [List.cons.injEq, true_and, ih, edge_cons]
          exact (and_iff_right (by omega)).symm

/-- A list of arrivals in which no number is covered by the earlier ones. -/
def NeverCovered : List Nat → Prop
  | [] => True
  | first :: later =>
      EachAfter (fun before number => ¬ Covered first (first :: before) number) later

/-- A receiver that starts at the first arrival takes all later ones exactly when
no number is ever covered. -/
theorem taken_all_iff (first : Nat) (later : List Nat) :
    taken first later = later ↔ NeverCovered (first :: later) := by
  rw [taken_eq_self_iff, NeverCovered]
  exact eachAfter_congr fun before number => by rw [← le_edge_iff_covered, Nat.not_le]

theorem neverCovered_of_increasing {numbers : List Nat}
    (increasing : numbers.Pairwise (· < ·)) : NeverCovered numbers := by
  cases numbers with
  | nil => trivial
  | cons first later =>
      intro before number after equal covered
      rw [equal, ← List.cons_append, List.pairwise_append] at increasing
      have newer := fun earlier member =>
        increasing.2.2 earlier member number List.mem_cons_self
      have started := newer first List.mem_cons_self
      exact (newer number (mem_of_covered started.le covered)).false

/-- Without covered numbers nothing falls below the first arrival. -/
theorem le_of_neverCovered {first number : Nat} {later : List Nat}
    (never : NeverCovered (first :: later)) (member : number ∈ later) : first ≤ number := by
  obtain ⟨before, after, equal⟩ := List.append_of_mem member
  by_contra below
  exact never before number after equal (covered_of_lt (Nat.not_le.mp below) _)

end LeftEdge
