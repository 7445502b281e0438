import Mathlib.Data.List.Basic

/-!
# Tables of a fixed number of slots

A row goes into the first free slot and is lost when there is none. As long as
no slot is freed the rows stored are the first ones inserted, in their order.
-/

universe u

namespace SlotTable

variable {ρ : Type u} {free : ρ → Bool}

/-- Put a row into the first free slot. -/
def insert (free : ρ → Bool) (row : ρ) : List ρ → List ρ
  | [] => []
  | slot :: slots => if free slot then row :: slots else slot :: insert free row slots

@[simp] theorem length_insert (row : ρ) (slots : List ρ) :
    (insert free row slots).length = slots.length := by
  induction slots with
  | nil => rfl
  | cons slot slots ih =>
      simp only [insert]
      split
      · rfl
      · simp only [List.length_cons, ih]

/-- A full table stays as it is. -/
theorem insert_full {row : ρ} {slots : List ρ} (full : ∀ slot ∈ slots, free slot = false) :
    insert free row slots = slots := by
  induction slots with
  | nil => rfl
  | cons slot slots ih =>
      have first : free slot = false := full slot List.mem_cons_self
      have rest := ih fun other member => full other (List.mem_cons_of_mem _ member)
      simp only [insert, first, Bool.false_eq_true, if_false, rest]

/-- The slots in use are passed over. -/
theorem insert_append {row slot : ρ} {used slots : List ρ}
    (full : ∀ other ∈ used, free other = false) (isFree : free slot = true) :
    insert free row (used ++ slot :: slots) = used ++ row :: slots := by
  induction used with
  | nil => simp only [List.nil_append, insert, isFree, if_true]
  | cons first used ih =>
      have taken : free first = false := full first List.mem_cons_self
      have rest := ih fun other member => full other (List.mem_cons_of_mem _ member)
      simp only [List.cons_append, insert, taken, Bool.false_eq_true, if_false, rest]

/-- A table is full, or splits at its first free slot. -/
theorem full_or_split (free : ρ → Bool) (slots : List ρ) :
    (∀ slot ∈ slots, free slot = false) ∨
      ∃ used slot rest, slots = used ++ slot :: rest ∧
        (∀ other ∈ used, free other = false) ∧ free slot = true := by
  induction slots with
  | nil => exact .inl fun _ member => absurd member List.not_mem_nil
  | cons slot slots ih =>
      cases isFree : free slot with
      | true => exact .inr ⟨[], slot, slots, rfl, fun _ member => absurd member List.not_mem_nil,
          isFree⟩
      | false =>
          cases ih with
          | inl full =>
              left
              intro other member
              rcases List.mem_cons.mp member with rfl | member
              · exact isFree
              · exact full other member
          | inr split =>
              obtain ⟨used, next, rest, rfl, full, nextFree⟩ := split
              right
              refine ⟨slot :: used, next, rest, rfl, ?_, nextFree⟩
              intro other member
              rcases List.mem_cons.mp member with rfl | member
              · exact isFree
              · exact full other member

/-- Rows of the new table are the inserted one or were there before. -/
theorem mem_insert {row other : ρ} {slots : List ρ} (member : other ∈ insert free row slots) :
    other = row ∨ other ∈ slots := by
  rcases full_or_split free slots with full | ⟨used, slot, rest, rfl, full, isFree⟩
  · rw [insert_full full] at member
    exact .inr member
  · rw [insert_append full isFree, List.mem_append, List.mem_cons] at member
    rw [List.mem_append, List.mem_cons]
    rcases member with member | rfl | member
    · exact .inr (.inl member)
    · exact .inl rfl
    · exact .inr (.inr (.inr member))

/-! ## Tables filled from the beginning -/

/-- A table with `rows` in use and `room` slots still blank. -/
def filled (blank : ρ) (rows : List ρ) (room : Nat) : List ρ :=
  rows ++ List.replicate room blank

section Filled

variable {blank : ρ} {rows : List ρ} {room : Nat}

theorem insert_filled (taken : ∀ row ∈ rows, free row = false) (isFree : free blank = true)
    (row : ρ) :
    insert free row (filled blank rows (room + 1)) = filled blank (rows ++ [row]) room := by
  rw [filled, List.replicate_succ, insert_append taken isFree, filled, List.append_assoc]
  rfl

theorem insert_filled_full (taken : ∀ row ∈ rows, free row = false) (row : ρ) :
    insert free row (filled blank rows 0) = filled blank rows 0 := by
  apply insert_full
  rw [filled, List.replicate_zero, List.append_nil]
  exact taken

/-- What is stored of several rows inserted one after the other. -/
theorem foldl_insert (isFree : free blank = true) :
    ∀ (new : List ρ) (rows : List ρ) (room : Nat), (∀ row ∈ rows, free row = false) →
      (∀ row ∈ new, free row = false) →
      new.foldl (fun table row => insert free row table) (filled blank rows room) =
        filled blank (rows ++ new.take room) (room - new.length) := by
  intro new
  induction new with
  | nil =>
      intro rows room _ _
      simp only [List.foldl_nil, List.take_nil, List.append_nil, List.length_nil, Nat.sub_zero]
  | cons row new ih =>
      intro rows room taken takenNew
      have rest : ∀ other ∈ new, free other = false := fun other member =>
        takenNew other (List.mem_cons_of_mem _ member)
      rw [List.foldl_cons]
      cases room with
      | zero =>
          rw [insert_filled_full taken, ih rows 0 taken rest]
          simp only [List.take_zero, Nat.zero_sub]
      | succ room =>
          have extended : ∀ other ∈ rows ++ [row], free other = false := by
            intro other member
            rcases List.mem_append.mp member with member | member
            · exact taken other member
            · rw [List.mem_singleton.mp member]
              exact takenNew row List.mem_cons_self
          rw [insert_filled taken isFree, ih (rows ++ [row]) room extended rest,
            List.append_assoc, List.take_succ_cons, List.length_cons, Nat.add_sub_add_right]
          rfl

end Filled

/-! ## Searching the slots in use -/

section Keyed

variable {α : Type u} {wanted : α → Bool} {change : α → α}

/-- The first row in use that is wanted. -/
def find (wanted : α → Bool) : List (Option α) → Option α
  | [] => none
  | none :: slots => find wanted slots
  | some row :: slots => if wanted row then some row else find wanted slots

/-- Change the row that `find` returns. -/
def update (wanted : α → Bool) (change : α → α) : List (Option α) → List (Option α)
  | [] => []
  | none :: slots => none :: update wanted change slots
  | some row :: slots =>
      if wanted row then some (change row) :: slots else some row :: update wanted change slots

/-- The rows in use, in their order. -/
def rows (slots : List (Option α)) : List α := slots.filterMap id

/-- Put a row into the first slot not in use. -/
abbrev add (row : α) (slots : List (Option α)) : List (Option α) :=
  insert Option.isNone (some row) slots

theorem find_some {slots : List (Option α)} {row : α} (found : find wanted slots = some row) :
    wanted row = true ∧ some row ∈ slots := by
  induction slots with
  | nil => cases found
  | cons slot slots ih =>
      cases slot with
      | none => exact ⟨(ih found).1, List.mem_cons_of_mem _ (ih found).2⟩
      | some first =>
          simp only [find] at found
          split at found
          · rename_i isWanted
            rw [← Option.some.inj found]
            exact ⟨isWanted, List.mem_cons_self⟩
          · exact ⟨(ih found).1, List.mem_cons_of_mem _ (ih found).2⟩

theorem find_eq_none {slots : List (Option α)} :
    find wanted slots = none ↔ ∀ row, some row ∈ slots → wanted row = false := by
  induction slots with
  | nil => simp [find]
  | cons slot slots ih =>
      cases slot with
      | none => simp [find, ih]
      | some first =>
          cases isWanted : wanted first with
          | true => simp [find, isWanted]
          | false => simp [find, isWanted, ih]

theorem find_update {slots : List (Option α)}
    (keeps : ∀ row, wanted row = true → wanted (change row) = true) :
    find wanted (update wanted change slots) = (find wanted slots).map change := by
  induction slots with
  | nil => rfl
  | cons slot slots ih =>
      cases slot with
      | none => exact ih
      | some first =>
          cases isWanted : wanted first with
          | true => simp [find, update, isWanted, keeps first isWanted]
          | false => simp [find, update, isWanted, ih]

/-- A search for other rows does not see the change. -/
theorem find_update_of_disjoint {slots : List (Option α)} {other : α → Bool}
    (apart : ∀ row, wanted row = true → other row = false ∧ other (change row) = false) :
    find other (update wanted change slots) = find other slots := by
  induction slots with
  | nil => rfl
  | cons slot slots ih =>
      cases slot with
      | none => exact ih
      | some first =>
          cases isWanted : wanted first with
          | true => simp [find, update, isWanted, apart first isWanted]
          | false => simp [find, update, isWanted, ih]

theorem update_of_absent {slots : List (Option α)} (absent : find wanted slots = none) :
    update wanted change slots = slots := by
  induction slots with
  | nil => rfl
  | cons slot slots ih =>
      cases slot with
      | none => exact congrArg (none :: ·) (ih absent)
      | some first =>
          cases isWanted : wanted first with
          | true => simp [find, isWanted] at absent
          | false =>
              simp only [find, isWanted, Bool.false_eq_true, if_false] at absent
              simp [update, isWanted, ih absent]

@[simp] theorem length_update (slots : List (Option α)) :
    (update wanted change slots).length = slots.length := by
  induction slots with
  | nil => rfl
  | cons slot slots ih =>
      cases slot with
      | none => simp [update, ih]
      | some first => cases isWanted : wanted first <;> simp [update, isWanted, ih]

/-- Two changes of the same row. -/
theorem update_update {slots : List (Option α)} {other : α → α}
    (keeps : ∀ row, wanted row = true → wanted (change row) = true) :
    update wanted other (update wanted change slots) =
      update wanted (fun row => other (change row)) slots := by
  induction slots with
  | nil => rfl
  | cons slot slots ih =>
      cases slot with
      | none => exact congrArg (none :: ·) ih
      | some first =>
          cases isWanted : wanted first with
          | true => simp [update, isWanted, keeps first isWanted]
          | false => simp [update, isWanted, ih]

/-- A change that does nothing to the row found. -/
theorem update_of_fixed {slots : List (Option α)} {row : α} (found : find wanted slots = some row)
    (fixed : change row = row) : update wanted change slots = slots := by
  induction slots with
  | nil => rfl
  | cons slot slots ih =>
      cases slot with
      | none => exact congrArg (none :: ·) (ih found)
      | some first =>
          cases isWanted : wanted first with
          | true =>
              simp only [find, isWanted, if_true, Option.some.injEq] at found
              rw [update, if_pos isWanted, found, fixed]
          | false =>
              simp only [find, isWanted, Bool.false_eq_true, if_false] at found
              simp [update, isWanted, ih found]

theorem find_add_of_unwanted {slots : List (Option α)} {row : α} (unwanted : wanted row = false) :
    find wanted (add row slots) = find wanted slots := by
  induction slots with
  | nil => rfl
  | cons slot slots ih =>
      cases slot with
      | none => simp [insert, find, unwanted]
      | some first => simp [insert, find, ih]

/-- A row that was missing is found when it has been added. -/
theorem find_add_of_absent {slots : List (Option α)} {row : α}
    (absent : find wanted slots = none) (isWanted : wanted row = true) (room : none ∈ slots) :
    find wanted (add row slots) = some row := by
  induction slots with
  | nil => exact absurd room List.not_mem_nil
  | cons slot slots ih =>
      cases slot with
      | none => simp [insert, find, isWanted]
      | some first =>
          cases firstWanted : wanted first with
          | true => simp [find, firstWanted] at absent
          | false =>
              simp only [find, firstWanted, Bool.false_eq_true, if_false] at absent
              simp only [List.mem_cons, reduceCtorEq, false_or] at room
              simp [insert, find, firstWanted, ih absent room]

/-! ## Tables without gaps -/

/-- The rows in use come before the free slots. -/
def Packed : List (Option α) → Prop
  | [] => True
  | none :: slots => ∀ slot ∈ slots, slot = none
  | some _ :: slots => Packed slots

theorem packed_of_free {slots : List (Option α)} (free : ∀ slot ∈ slots, slot = none) :
    Packed slots := by
  cases slots with
  | nil => trivial
  | cons slot slots =>
      have rest : ∀ other ∈ slots, other = none := fun other member =>
        free other (List.mem_cons_of_mem _ member)
      rw [free slot List.mem_cons_self]
      exact rest

theorem find_of_free {slots : List (Option α)} (free : ∀ slot ∈ slots, slot = none) :
    find wanted slots = none := by
  rw [find_eq_none]
  intro row member
  cases free _ member

theorem packed_add {slots : List (Option α)} (row : α) (packed : Packed slots) :
    Packed (add row slots) := by
  induction slots with
  | nil => trivial
  | cons slot slots ih =>
      cases slot with
      | none =>
          have rest : Packed slots := packed_of_free packed
          simpa [insert, Packed] using rest
      | some first => exact ih packed

theorem packed_update {slots : List (Option α)} (packed : Packed slots) :
    Packed (update wanted change slots) := by
  induction slots with
  | nil => trivial
  | cons slot slots ih =>
      cases slot with
      | none =>
          rw [update, update_of_absent (find_of_free packed)]
          exact packed
      | some first =>
          cases isWanted : wanted first with
          | true =>
              rw [update, if_pos isWanted]
              exact packed
          | false =>
              simp only [update, isWanted, Bool.false_eq_true, if_false]
              exact ih packed

/-- A new row of a packed table comes after the ones that were there. -/
theorem find_add_of_found {slots : List (Option α)} {row found : α} (packed : Packed slots)
    (isFound : find wanted slots = some found) : find wanted (add row slots) = some found := by
  induction slots with
  | nil => exact isFound
  | cons slot slots ih =>
      cases slot with
      | none =>
          rw [find, find_of_free packed] at isFound
          cases isFound
      | some first =>
          cases isWanted : wanted first with
          | true =>
              simp only [find, isWanted, if_true] at isFound
              rw [← isFound]
              simp [insert, find, isWanted]
          | false =>
              simp only [find, isWanted, Bool.false_eq_true, if_false] at isFound
              simp [insert, find, isWanted, ih packed isFound]

/-! ## The rows in use -/

@[simp] theorem rows_none (slots : List (Option α)) : rows (none :: slots) = rows slots := rfl

@[simp] theorem rows_some (row : α) (slots : List (Option α)) :
    rows (some row :: slots) = row :: rows slots := rfl

theorem rows_append (first second : List (Option α)) :
    rows (first ++ second) = rows first ++ rows second := List.filterMap_append

theorem mem_rows {slots : List (Option α)} {row : α} : row ∈ rows slots ↔ some row ∈ slots := by
  simp [rows]

/-- There is room as long as fewer rows are in use than there are slots. -/
theorem none_mem_iff {slots : List (Option α)} :
    none ∈ slots ↔ (rows slots).length < slots.length := by
  induction slots with
  | nil => simp [rows]
  | cons slot slots ih =>
      cases slot with
      | none =>
          have bounded : (rows slots).length ≤ slots.length := List.length_filterMap_le _ _
          simp only [List.mem_cons, true_or, rows_none, List.length_cons, true_iff]
          exact Nat.lt_succ_of_le bounded
      | some first => simp [ih]

theorem rows_add_of_full {slots : List (Option α)} (row : α) (full : none ∉ slots) :
    add row slots = slots := by
  apply insert_full
  intro slot member
  cases slot with
  | none => exact absurd member full
  | some _ => rfl

/-- The new row is one of the rows, and the others are as they were. -/
theorem rows_add {slots : List (Option α)} (row : α) (room : none ∈ slots) :
    (rows (add row slots)).Perm (row :: rows slots) := by
  rcases full_or_split Option.isNone slots with full | ⟨used, slot, rest, rfl, full, isFree⟩
  · exact absurd (full none room) Bool.noConfusion
  · rw [add, insert_append full isFree, Option.isNone_iff_eq_none.mp isFree, rows_append,
      rows_append, rows_some, rows_none]
    exact List.perm_middle

theorem map_rows_update {β : Type u} {key : α → β} {slots : List (Option α)}
    (keeps : ∀ row, wanted row = true → key (change row) = key row) :
    (rows (update wanted change slots)).map key = (rows slots).map key := by
  induction slots with
  | nil => rfl
  | cons slot slots ih =>
      cases slot with
      | none => exact ih
      | some first =>
          cases isWanted : wanted first with
          | true => simp [update, isWanted, keeps first isWanted]
          | false => simp [update, isWanted, ih]

end Keyed

end SlotTable
