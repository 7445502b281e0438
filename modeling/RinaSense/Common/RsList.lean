import Mathlib.Data.List.Basic

/-!
# Lists

The operations of `common/list.h` on the sequence of the entries.
-/

namespace RinaSense

universe u

variable {α : Type u}

/-- `RsList_t`: the owner of its head, and the owners of the items linked to the head,
in their order. -/
structure RsList (α : Type u) where
  xHead : Option α
  items : List α
  deriving Repr, DecidableEq

/-- The head is an item without an owner. -/
def vRsListInit : RsList α where
  xHead := none
  items := []

/-- `vRsListInsert` links the new item behind the first one. -/
def vRsListInsert (list : List α) (item : α) : List α :=
  match list with
  | [] => [item]
  | first :: rest => first :: item :: rest

/-- `vRsListInsertEnd` links the new item behind the last one. -/
def vRsListInsertEnd (list : List α) (item : α) : List α := list ++ [item]

def vRsListRemove [DecidableEq α] (list : List α) (item : α) : List α := list.erase item

def unRsListLength (list : RsList α) : Nat := list.items.length

/-- The owner of the head itself, not of the first item. -/
def pxRsListGetHeadOwner (list : RsList α) : Option α := list.xHead

@[simp] theorem vRsListInsert_length (list : List α) (item : α) :
    (vRsListInsert list item).length = list.length + 1 := by
  cases list <;> rfl

@[simp] theorem mem_vRsListInsert {list : List α} {item other : α} :
    other ∈ vRsListInsert list item ↔ other = item ∨ other ∈ list := by
  cases list with
  | nil => simp [vRsListInsert]
  | cons first rest =>
      simp only [vRsListInsert, List.mem_cons]
      exact or_left_comm

theorem foldl_vRsListInsert_cons (items : List α) (first : α) (rest : List α) :
    items.foldl vRsListInsert (first :: rest) = first :: (items.reverse ++ rest) := by
  induction items generalizing rest with
  | nil => rfl
  | cons item items ih =>
      rw [List.foldl_cons, vRsListInsert, ih, List.reverse_cons, List.append_assoc,
        List.singleton_append]

/-- What was inserted stands behind the first item, the newest in front. -/
theorem foldl_vRsListInsert (items : List α) :
    items.foldl vRsListInsert [] = items.take 1 ++ (items.drop 1).reverse := by
  cases items with
  | nil => rfl
  | cons first items =>
      rw [List.foldl_cons, vRsListInsert, foldl_vRsListInsert_cons, List.append_nil]
      rfl

end RinaSense
