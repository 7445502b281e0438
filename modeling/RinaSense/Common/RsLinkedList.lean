import RinaSense.Common.RsList
import RinaSense.Library.History
import RinaSense.Library.Ring

/-!
# Linked lists

The macros of `common/list.h` and `iot_doubly_linked_list.h` on the links themselves,
for any number of lists that share their items. What they are for is a sequence of
items for each list, which every run of insertions and removals keeps to.
-/

namespace RinaSense

/-- The places of list items in memory: the head of a list, or an item of its own. -/
inductive RsPlace (κ ι : Type) where
  | head (list : κ)
  | item (item : ι)
  deriving Repr, DecidableEq

/-- The `RsListItem_t` and `RsList_t` in memory, field by field. The container of a
head is never looked at. -/
structure RsMemory (κ ι ω : Type) where
  xLink : Links (RsPlace κ ι)
  pvOwner : RsPlace κ ι → Option ω
  pvCont : ι → Option κ
  nLength : κ → Nat

namespace RsMemory

variable {κ ι ω : Type} [DecidableEq κ] [DecidableEq ι]

/-- `listINIT_HEAD` and `vRsListSetItemOwner`. -/
def vRsListInitItem (memory : RsMemory κ ι ω) (place : RsPlace κ ι) (owner : Option ω) :
    RsMemory κ ι ω :=
  { memory with
    xLink := memory.xLink.close place
    pvOwner := Function.update memory.pvOwner place owner }

def vRsListInit (memory : RsMemory κ ι ω) (list : κ) : RsMemory κ ι ω :=
  { memory.vRsListInitItem (.head list) none with
    nLength := Function.update memory.nLength list 0 }

/-- The assignments after `listADD`. -/
def counted (memory : RsMemory κ ι ω) (xLink : Links (RsPlace κ ι)) (list : κ) (item : ι) :
    RsMemory κ ι ω :=
  { memory with
    xLink
    nLength := Function.update memory.nLength list (memory.nLength list + 1)
    pvCont := Function.update memory.pvCont item (some list) }

/-- `listADD` behind a place. -/
def addBehind (memory : RsMemory κ ι ω) (position : RsPlace κ ι) (list : κ) (item : ι) :
    Option (RsMemory κ ι ω) :=
  (memory.xLink.insertAfter position (.item item)).map fun xLink =>
    memory.counted xLink list item

/-- Behind `_first`. -/
def vRsListInsert (memory : RsMemory κ ι ω) (list : κ) (item : ι) :
    Option (RsMemory κ ι ω) := do
  memory.addBehind (← memory.xLink.next (.head list)) list item

/-- Behind `_last`. -/
def vRsListInsertEnd (memory : RsMemory κ ι ω) (list : κ) (item : ι) :
    Option (RsMemory κ ι ω) := do
  memory.addBehind (← memory.xLink.prev (.head list)) list item

/-- The length counted down is that of the container of the item. -/
def vRsListRemove (memory : RsMemory κ ι ω) (item : ι) : Option (RsMemory κ ι ω) := do
  let list ← memory.pvCont item
  return { memory with
    nLength := Function.update memory.nLength list (memory.nLength list - 1)
    xLink := memory.xLink.unlink (.item item) }

def unRsListLength (memory : RsMemory κ ι ω) (list : κ) : Nat := memory.nLength list

def pxRsListGetFirst (memory : RsMemory κ ι ω) (list : κ) : Option (RsPlace κ ι) :=
  if memory.nLength list = 0 then none else memory.xLink.next (.head list)

def pxRsListGetLast (memory : RsMemory κ ι ω) (list : κ) : Option (RsPlace κ ι) :=
  if memory.nLength list = 0 then none else memory.xLink.prev (.head list)

/-- The next place, unless it has no owner. The outer `Option` is that of a pointer
that cannot be followed. -/
def pxRsListGetNext (memory : RsMemory κ ι ω) (place : RsPlace κ ι) :
    Option (Option (RsPlace κ ι)) := do
  let next ← memory.xLink.next place
  return if (memory.pvOwner next).isSome then some next else none

def pxRsListGetHeadOwner (memory : RsMemory κ ι ω) (list : κ) : Option ω :=
  memory.pvOwner (.head list)

/-- The loop of a traversal, `while (pItem != NULL)`, with what it visits. -/
def visitFrom (memory : RsMemory κ ι ω) :
    Nat → Option (RsPlace κ ι) → Option (List (RsPlace κ ι))
  | _, none => some []
  | 0, some _ => none
  | fuel + 1, some place => do
      return place :: (← memory.visitFrom fuel (← memory.pxRsListGetNext place))

def visit (memory : RsMemory κ ι ω) (fuel : Nat) (list : κ) : Option (List (RsPlace κ ι)) :=
  memory.visitFrom fuel (memory.pxRsListGetFirst list)

/-- The loop of `xRsListIsContainedWithin`. -/
def isContainedFrom (memory : RsMemory κ ι ω) (pxItem : RsPlace κ ι) :
    Nat → Option (RsPlace κ ι) → Option Bool
  | _, none => some false
  | 0, some _ => none
  | fuel + 1, some place =>
      if place = pxItem then some true
      else do memory.isContainedFrom pxItem fuel (← memory.pxRsListGetNext place)

def xRsListIsContainedWithin (memory : RsMemory κ ι ω) (fuel : Nat) (list : κ) (item : ι) :
    Option Bool :=
  memory.isContainedFrom (.item item) fuel (memory.pxRsListGetFirst list)

/-! ## Runs -/

/-- Memory in which `vRsListInit` prepared every list and `vRsListInitItem` every item,
with its owner. -/
def prepared (owner : ι → ω) (pvCont : ι → Option κ) : RsMemory κ ι ω where
  xLink := { next := some, prev := some }
  pvOwner
    | .head _ => none
    | .item item => some (owner item)
  pvCont
  nLength := fun _ => 0

end RsMemory

inductive RsListOp (κ ι : Type) where
  | insert (list : κ) (item : ι)
  | insertEnd (list : κ) (item : ι)
  | remove (item : ι)
  deriving Repr, DecidableEq

namespace RsListOp

variable {κ ι ω : Type} [DecidableEq κ] [DecidableEq ι]

def perform (memory : RsMemory κ ι ω) : RsListOp κ ι → Option (RsMemory κ ι ω)
  | insert list item => memory.vRsListInsert list item
  | insertEnd list item => memory.vRsListInsertEnd list item
  | remove item => memory.vRsListRemove item

/-- The memory after a run, if no pointer was missing. -/
def run (memory : RsMemory κ ι ω) (operations : List (RsListOp κ ι)) :
    Option (RsMemory κ ι ω) :=
  operations.foldlM perform memory

/-! ## Purpose -/

/-- What an operation makes of the sequences the lists stand for. -/
def apply (sequences : κ → List ι) : RsListOp κ ι → κ → List ι
  | insert list item =>
      Function.update sequences list (RinaSense.vRsListInsert (sequences list) item)
  | insertEnd list item =>
      Function.update sequences list (RinaSense.vRsListInsertEnd (sequences list) item)
  | remove item => fun list => RinaSense.vRsListRemove (sequences list) item

/-- The sequences after a run on empty lists. -/
def sequences (operations : List (RsListOp κ ι)) : κ → List ι :=
  operations.foldl apply fun _ => []

/-- An item is inserted while it is in no list, and removed while it is in one. -/
def Allowed (before : List (RsListOp κ ι)) : RsListOp κ ι → Prop
  | insert _ item | insertEnd _ item => ∀ list, item ∉ sequences before list
  | remove item => ∃ list, item ∈ sequences before list

/-- An operation only moves its own item: the new one has its place among the others,
at the end if asked for, and without the removed one the others stay as they are. -/
def KeepsOrder (before : List (RsListOp κ ι)) (operation : RsListOp κ ι) : Prop :=
  let after := sequences (before ++ [operation])
  match operation with
  | insert list item =>
      item ∈ after list ∧ (after list).erase item = sequences before list ∧
        ∀ other, other ≠ list → after other = sequences before other
  | insertEnd list item =>
      after list = sequences before list ++ [item] ∧
        ∀ other, other ≠ list → after other = sequences before other
  | remove item => ∀ list, after list = (sequences before list).erase item

end RsListOp

/-- A list in memory is told by its length, its ends, a traversal and the test for
membership to be this sequence of different items. -/
structure RsMemory.Lists {κ ι ω : Type} [DecidableEq κ] [DecidableEq ι]
    (memory : RsMemory κ ι ω) (list : κ) (items : List ι) : Prop where
  nodup : items.Nodup
  length : memory.unRsListLength list = items.length
  first : memory.pxRsListGetFirst list = items.head?.map .item
  last : memory.pxRsListGetLast list = items.getLast?.map .item
  visit : ∀ fuel, items.length ≤ fuel → memory.visit fuel list = some (items.map .item)
  contained : ∀ item fuel, items.length ≤ fuel →
    memory.xRsListIsContainedWithin fuel list item = some (decide (item ∈ items))

/-! ## Representation -/

namespace RsMemory

variable {κ ι ω : Type} {memory : RsMemory κ ι ω}

/-- The links are rings around the heads, the heads have no owner and all else in
memory agrees. -/
structure Represents (memory : RsMemory κ ι ω) (sequences : κ → List ι) : Prop where
  ring : ∀ list, memory.xLink.Ring (.head list) ((sequences list).map .item)
  cont : ∀ list, ∀ item ∈ sequences list, memory.pvCont item = some list
  length : ∀ list, memory.nLength list = (sequences list).length
  headOwner : ∀ list, memory.pvOwner (.head list) = none
  itemOwner : ∀ item, (memory.pvOwner (.item item)).isSome

/-- Initialising a list empties it, whatever the memory held. -/
theorem ring_vRsListInit [DecidableEq κ] [DecidableEq ι] (memory : RsMemory κ ι ω) (list : κ) :
    (memory.vRsListInit list).xLink.Ring (.head list) [] :=
  Links.ring_close memory.xLink (.head list)

/-- Prepared memory is memory in which every list was initialised. -/
theorem vRsListInit_prepared [DecidableEq κ] [DecidableEq ι] (owner : ι → ω)
    (pvCont : ι → Option κ) (list : κ) :
    (prepared owner pvCont).vRsListInit list = prepared owner pvCont := by
  simp only [vRsListInit, vRsListInitItem, prepared, Links.close, Function.update_eq_self]

theorem represents_prepared [DecidableEq κ] [DecidableEq ι] (owner : ι → ω)
    (pvCont : ι → Option κ) : (prepared owner pvCont).Represents fun _ => [] where
  ring := fun list => by
    rw [← vRsListInit_prepared owner pvCont list]
    exact ring_vRsListInit _ list
  cont := fun _ _ member => absurd member List.not_mem_nil
  length := fun _ => rfl
  headOwner := fun _ => rfl
  itemOwner := fun _ => rfl

/-! ## What is read from a list -/

section Reads

variable {sequences : κ → List ι} {list : κ} {item : ι} {items : List ι}

theorem Represents.getNext_item (represents : memory.Represents sequences)
    {place : RsPlace κ ι} (next : memory.xLink.next place = some (.item item)) :
    memory.pxRsListGetNext place = some (some (.item item)) := by
  simp [pxRsListGetNext, next, represents.itemOwner]

theorem Represents.getNext_head (represents : memory.Represents sequences)
    {place : RsPlace κ ι} (next : memory.xLink.next place = some (.head list)) :
    memory.pxRsListGetNext place = some none := by
  simp [pxRsListGetNext, next, represents.headOwner]

theorem Represents.first (represents : memory.Represents sequences) (list : κ) :
    memory.pxRsListGetFirst list = (sequences list).head?.map .item := by
  have length := represents.length list
  have next := (represents.ring list).next_eq
  cases items : sequences list with
  | nil => simp [pxRsListGetFirst, length, items]
  | cons item rest => simp [pxRsListGetFirst, length, items, next]

theorem Represents.last (represents : memory.Represents sequences) (list : κ) :
    memory.pxRsListGetLast list = (sequences list).getLast?.map .item := by
  have length := represents.length list
  have prev := (represents.ring list).prev_eq
  cases items : sequences list using List.reverseRecOn with
  | nil => simp [pxRsListGetLast, length, items]
  | append_singleton rest item => simp [pxRsListGetLast, length, items, prev]

theorem Represents.visitFrom_eq (represents : memory.Represents sequences)
    (path : memory.xLink.Path (.item item) (items.map .item) (.head list)) {fuel : Nat}
    (enough : items.length < fuel) :
    memory.visitFrom fuel (some (.item item)) = some ((item :: items).map .item) := by
  induction items generalizing item fuel with
  | nil =>
      cases fuel with
      | zero => exact absurd enough (Nat.lt_irrefl 0)
      | succ fuel =>
          have last := represents.getNext_head path.next
          cases fuel <;> simp [visitFrom, last]
  | cons next items ih =>
      cases fuel with
      | zero => exact absurd enough (Nat.not_lt_zero _)
      | succ fuel =>
          have more := represents.getNext_item path.1.next
          have rest := ih path.2 (Nat.lt_of_succ_lt_succ enough)
          simp [visitFrom, more, rest]

variable [DecidableEq κ] [DecidableEq ι]

theorem Represents.isContainedFrom_eq (represents : memory.Represents sequences)
    (path : memory.xLink.Path (.item item) (items.map .item) (.head list)) {fuel : Nat}
    (enough : items.length < fuel) (wanted : ι) :
    memory.isContainedFrom (.item wanted) fuel (some (.item item)) =
      some (decide (wanted ∈ item :: items)) := by
  induction items generalizing item fuel with
  | nil =>
      cases fuel with
      | zero => exact absurd enough (Nat.lt_irrefl 0)
      | succ fuel =>
          have last := represents.getNext_head path.next
          by_cases found : item = wanted
          · simp [isContainedFrom, found]
          · cases fuel <;> simp [isContainedFrom, found, last, Ne.symm found]
  | cons next items ih =>
      cases fuel with
      | zero => exact absurd enough (Nat.not_lt_zero _)
      | succ fuel =>
          have more := represents.getNext_item path.1.next
          have rest := ih path.2 (Nat.lt_of_succ_lt_succ enough)
          by_cases found : item = wanted
          · simp [isContainedFrom, found]
          · simp [isContainedFrom, found, more, rest, Ne.symm found]

theorem Represents.lists (represents : memory.Represents sequences) (list : κ) :
    memory.Lists list (sequences list) where
  nodup := ((represents.ring list).nodup.of_cons).of_map _
  length := represents.length list
  first := represents.first list
  last := represents.last list
  visit := by
    intro fuel enough
    have path := (represents.ring list).path
    rw [visit, represents.first]
    cases items : sequences list with
    | nil => cases fuel <;> rfl
    | cons item rest =>
        rw [items] at path enough
        exact represents.visitFrom_eq path.2 enough
  contained := by
    intro wanted fuel enough
    have path := (represents.ring list).path
    rw [xRsListIsContainedWithin, represents.first]
    cases items : sequences list with
    | nil => cases fuel <;> rfl
    | cons item rest =>
        rw [items] at path enough
        exact represents.isContainedFrom_eq path.2 enough wanted

end Reads

/-! ## Changes -/

section Changes

variable {sequences : κ → List ι} {list : κ} {item : ι}

theorem item_notMem (free : ∀ other, item ∉ sequences other) (list : κ) :
    RsPlace.item item ∉ RsPlace.head list :: (sequences list).map .item := by
  intro member
  rcases List.mem_cons.mp member with same | member
  · cases same
  · obtain ⟨other, inside, same⟩ := List.mem_map.mp member
    cases same
    exact free list inside

/-- The rings of the other lists are where the links have not changed. -/
theorem Represents.ring_other (represents : memory.Represents sequences)
    {changed : Links (RsPlace κ ι)} {items : List ι}
    (untouched : memory.xLink.Untouched changed (.head list :: items.map .item)) {other : κ}
    (different : other ≠ list) (apart : ∀ item ∈ items, item ∉ sequences other) :
    changed.Ring (.head other) ((sequences other).map .item) := by
  apply (represents.ring other).congr
  intro place member
  apply untouched
  intro touched
  rcases List.mem_cons.mp member with rfl | member
  · rcases List.mem_cons.mp touched with same | touched
    · cases same
      exact different rfl
    · obtain ⟨_, _, same⟩ := List.mem_map.mp touched
      cases same
  · obtain ⟨item, inside, rfl⟩ := List.mem_map.mp member
    rcases List.mem_cons.mp touched with same | touched
    · cases same
    · obtain ⟨_, isTouched, same⟩ := List.mem_map.mp touched
      cases same
      exact apart item isTouched inside

/-- Items of one list are in no other. -/
theorem Represents.apart (represents : memory.Represents sequences) {other : κ}
    (different : other ≠ list) : ∀ item ∈ sequences list, item ∉ sequences other := by
  intro item inside elsewhere
  apply different
  have here := represents.cont list item inside
  rw [represents.cont other item elsewhere] at here
  exact Option.some.inj here

variable [DecidableEq κ] [DecidableEq ι]

/-- What an insertion has to do to the links for the item to get its place. -/
theorem Represents.add (represents : memory.Represents sequences)
    (free : ∀ other, item ∉ sequences other) {changed : Links (RsPlace κ ι)} {items : List ι}
    (ring : changed.Ring (.head list) (items.map .item))
    (untouched : memory.xLink.Untouched changed
      (.item item :: .head list :: (sequences list).map .item))
    (perm : items.Perm (item :: sequences list)) :
    (memory.counted changed list item).Represents (Function.update sequences list items) where
  ring := by
    intro other
    by_cases same : other = list
    · subst same
      rw [Function.update_self]
      exact ring
    · rw [Function.update_of_ne same]
      have untouchedItems : memory.xLink.Untouched changed
          (.head list :: (item :: sequences list).map .item) := by
        intro place outside
        apply untouched
        intro touched
        apply outside
        exact (List.Perm.swap _ _ _).mem_iff.mp touched
      apply represents.ring_other untouchedItems same
      intro place inside
      rcases List.mem_cons.mp inside with rfl | inside
      · exact free other
      · exact represents.apart same place inside
  cont := by
    intro other place inside
    by_cases same : other = list
    · subst same
      rw [Function.update_self] at inside
      rcases List.mem_cons.mp (perm.mem_iff.mp inside) with rfl | old
      · exact Function.update_self ..
      · have isOld : place ≠ item := fun new => free other (new ▸ old)
        exact (Function.update_of_ne isOld ..).trans (represents.cont other place old)
    · rw [Function.update_of_ne same] at inside
      have isOld : place ≠ item := fun new => free other (new ▸ inside)
      exact (Function.update_of_ne isOld ..).trans (represents.cont other place inside)
  length := by
    intro other
    by_cases same : other = list
    · subst same
      rw [Function.update_self, perm.length_eq, List.length_cons, ← represents.length]
      exact Function.update_self ..
    · rw [Function.update_of_ne same, ← represents.length]
      exact Function.update_of_ne same ..
  headOwner := represents.headOwner
  itemOwner := represents.itemOwner

theorem Represents.vRsListInsert (represents : memory.Represents sequences)
    (free : ∀ other, item ∉ sequences other) :
    ∃ next, memory.vRsListInsert list item = some next ∧
      next.Represents (Function.update sequences list
        (RinaSense.vRsListInsert (sequences list) item)) := by
  have ring := represents.ring list
  have fresh := item_notMem free list
  have isNext := ring.next_eq
  cases items : sequences list with
  | nil =>
      rw [items] at ring fresh
      obtain ⟨changed, inserted, inRing, untouched⟩ := ring.insertFirst fresh
      refine ⟨memory.counted changed list item, ?_, ?_⟩
      · simp [RsMemory.vRsListInsert, addBehind, isNext, items, inserted]
      · apply represents.add free inRing
        · rw [items]
          exact untouched
        · rw [items]
          exact List.Perm.refl _
  | cons first rest =>
      rw [items] at ring fresh
      obtain ⟨changed, inserted, inRing, untouched⟩ :=
        @Links.Ring.insertBehind _ memory.xLink _ _ [] _ _ _ ring fresh
      refine ⟨memory.counted changed list item, ?_, ?_⟩
      · simp [RsMemory.vRsListInsert, addBehind, isNext, items, inserted]
      · apply represents.add free inRing
        · rw [items]
          exact untouched
        · rw [items]
          exact List.Perm.swap item first rest

theorem Represents.vRsListInsertEnd (represents : memory.Represents sequences)
    (free : ∀ other, item ∉ sequences other) :
    ∃ next, memory.vRsListInsertEnd list item = some next ∧
      next.Represents (Function.update sequences list
        (RinaSense.vRsListInsertEnd (sequences list) item)) := by
  have ring := represents.ring list
  have fresh := item_notMem free list
  have isPrev := ring.prev_eq
  cases items : sequences list using List.reverseRecOn with
  | nil =>
      rw [items] at ring fresh
      obtain ⟨changed, inserted, inRing, untouched⟩ := ring.insertFirst fresh
      refine ⟨memory.counted changed list item, ?_, ?_⟩
      · simp [RsMemory.vRsListInsertEnd, addBehind, isPrev, items, inserted]
      · apply represents.add free inRing
        · rw [items]
          exact untouched
        · rw [items]
          exact List.Perm.refl _
  | append_singleton rest last =>
      rw [items, List.map_append, List.map_singleton] at ring fresh
      obtain ⟨changed, inserted, inRing, untouched⟩ := ring.insertBehind fresh
      refine ⟨memory.counted changed list item, ?_, ?_⟩
      · simp [RsMemory.vRsListInsertEnd, addBehind, isPrev, items, inserted]
      · apply represents.add free _ _ _
        · simpa [RinaSense.vRsListInsertEnd] using inRing
        · simpa [items] using untouched
        · rw [items]
          exact List.perm_append_comm

theorem Represents.vRsListRemove (represents : memory.Represents sequences)
    (inside : item ∈ sequences list) :
    ∃ next, memory.vRsListRemove item = some next ∧
      next.Represents fun other => RinaSense.vRsListRemove (sequences other) item := by
  have isCont := represents.cont list item inside
  have nodup : (sequences list).Nodup := (represents.lists list).nodup
  have elsewhere {other : κ} (different : other ≠ list) :
      RinaSense.vRsListRemove (sequences other) item = sequences other :=
    List.erase_of_not_mem (represents.apart different item inside)
  obtain ⟨before, after, split⟩ := List.append_of_mem inside
  have erased : RinaSense.vRsListRemove (sequences list) item = before ++ after := by
    rw [split] at nodup
    have notBefore : item ∉ before := by
      intro member
      exact (List.nodup_append.mp nodup).2.2 item member item List.mem_cons_self rfl
    rw [split, RinaSense.vRsListRemove, List.erase_append_right _ notBefore,
      List.erase_cons_head]
  have ring := represents.ring list
  rw [split, List.map_append, List.map_cons] at ring
  obtain ⟨shorter, untouched⟩ := ring.unlink
  rw [← List.map_append, ← erased] at shorter
  rw [← List.map_cons, ← List.map_append, ← split] at untouched
  simp only [RsMemory.vRsListRemove, isCont, Option.bind_eq_bind, Option.bind_some,
    Option.pure_def, Option.some.injEq, exists_eq_left']
  constructor
  · intro other
    by_cases same : other = list
    · exact same ▸ shorter
    · rw [elsewhere same]
      exact represents.ring_other untouched same (represents.apart same)
  · intro other place member
    exact represents.cont other place (List.mem_of_mem_erase member)
  · intro other
    by_cases same : other = list
    · subst same
      rw [RinaSense.vRsListRemove, List.length_erase_of_mem inside, ← represents.length]
      exact Function.update_self ..
    · rw [elsewhere same, ← represents.length]
      exact Function.update_of_ne same ..
  · exact represents.headOwner
  · exact represents.itemOwner

end Changes

end RsMemory

/-! ## Refinement -/

namespace RsListOp

variable {κ ι ω : Type} [DecidableEq κ] [DecidableEq ι] {memory : RsMemory κ ι ω}
  {before : List (RsListOp κ ι)} {operation : RsListOp κ ι}

theorem sequences_concat (before : List (RsListOp κ ι)) (operation : RsListOp κ ι) :
    sequences (before ++ [operation]) = operation.apply (sequences before) := by
  rw [sequences, List.foldl_append]
  rfl

/-- An operation on memory does what it does to the sequences. -/
theorem perform_represents (represents : memory.Represents (sequences before))
    (allowed : Allowed before operation) :
    ∃ next, perform memory operation = some next ∧
      next.Represents (sequences (before ++ [operation])) := by
  rw [sequences_concat]
  cases operation with
  | insert list item => exact represents.vRsListInsert allowed
  | insertEnd list item => exact represents.vRsListInsertEnd allowed
  | remove item =>
      obtain ⟨list, inside⟩ := allowed
      exact represents.vRsListRemove inside

theorem run_represents (start : memory.Represents fun _ => [])
    (operations : List (RsListOp κ ι)) (allowed : History.EachAfter Allowed operations) :
    ∃ final, run memory operations = some final ∧ final.Represents (sequences operations) := by
  induction operations using List.reverseRecOn with
  | nil => exact ⟨memory, rfl, start⟩
  | append_singleton before operation ih =>
      rw [History.eachAfter_concat] at allowed
      obtain ⟨middle, isRun, represents⟩ := ih allowed.1
      obtain ⟨final, performed, represents⟩ := perform_represents represents allowed.2
      refine ⟨final, ?_, represents⟩
      rw [run] at isRun ⊢
      rw [List.foldlM_append, isRun]
      simp [performed]

theorem keepsOrder (allowed : Allowed before operation) : KeepsOrder before operation := by
  unfold KeepsOrder
  rw [sequences_concat]
  cases operation with
  | insert list item =>
      refine ⟨?_, ?_, fun other different => Function.update_of_ne different ..⟩
      · rw [apply, Function.update_self]
        exact mem_vRsListInsert.mpr (Or.inl rfl)
      · rw [apply, Function.update_self]
        have fresh := allowed list
        cases items : sequences before list with
        | nil => exact List.erase_cons_head ..
        | cons first rest =>
            rw [items] at fresh
            have different : first ≠ item := fun same => fresh (same ▸ List.mem_cons_self)
            rw [RinaSense.vRsListInsert, List.erase_cons_tail (by simpa using different),
              List.erase_cons_head]
  | insertEnd list item =>
      exact ⟨Function.update_self .., fun other different => Function.update_of_ne different ..⟩
  | remove item => exact fun list => rfl

/-- Lists in memory stand for the sequences that the operations make, for any run of
operations on any number of lists. -/
theorem rsList_refines (owner : ι → ω) (pvCont : ι → Option κ) (operations : List (RsListOp κ ι))
    (allowed : History.EachAfter Allowed operations) :
    ∃ memory, run (RsMemory.prepared owner pvCont) operations = some memory ∧
      (∀ list, memory.Lists list (sequences operations list)) ∧
      History.EachAfter KeepsOrder operations := by
  have start := RsMemory.represents_prepared owner pvCont
  obtain ⟨memory, isRun, represents⟩ := run_represents start operations allowed
  refine ⟨memory, isRun, represents.lists, ?_⟩
  exact History.EachAfter.mono (fun _ _ => keepsOrder) allowed

/-- Two lists that exchange an item. -/
theorem rsList_refines_exchange :
    let operations : List (RsListOp Bool Nat) :=
      [.insertEnd false 1, .insertEnd false 2, .insert false 3, .remove 3, .insert true 3]
    History.EachAfter Allowed operations ∧ sequences operations false = [1, 2] ∧
      ∃ memory, run (RsMemory.prepared id fun _ => none) operations = some memory ∧
        (∀ list, memory.Lists list (sequences operations list)) ∧
        History.EachAfter KeepsOrder operations := by
  intro operations
  have allowed : History.EachAfter Allowed operations := by
    simp [operations, History.eachAfter_cons, Allowed, sequences, apply, RinaSense.vRsListInsert,
      RinaSense.vRsListInsertEnd, RinaSense.vRsListRemove, Function.update_apply]
  exact ⟨allowed, rfl, rsList_refines id (fun _ => none) operations allowed⟩

end RsListOp

end RinaSense
