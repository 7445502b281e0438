import Mathlib.Data.List.Induction
import Mathlib.Data.List.Nodup
import Mathlib.Logic.Function.Basic

/-!
# Rings of links

Circular doubly linked lists: every node has a link to the next and to the previous
one, and a head stands for the list. `Ring` says which items the links put behind a
head; inserting behind a node and unlinking a node change that sequence in one place.
-/

universe u

/-- The links of all nodes, where there are any. -/
structure Links (α : Type u) where
  next : α → Option α
  prev : α → Option α

namespace Links

variable {α : Type u}

section Writes

variable [DecidableEq α]

/-- A node on its own. -/
def close (links : Links α) (node : α) : Links α where
  next := Function.update links.next node (some node)
  prev := Function.update links.prev node (some node)

/-- Put a node between two neighbours. -/
def insertBetween (links : Links α) (position node following : α) : Links α where
  next := Function.update (Function.update links.next node (some following)) position (some node)
  prev := Function.update (Function.update links.prev following (some node)) node (some position)

/-- Put a node behind another one, which must have a next node. -/
def insertAfter (links : Links α) (position node : α) : Option (Links α) :=
  (links.next position).map (links.insertBetween position node)

/-- Make the neighbours of a node neighbours of each other. -/
def bypass (links : Links α) (before node following : α) : Links α where
  next := Function.update (Function.update links.next before (some following)) node none
  prev := Function.update (Function.update links.prev following (some before)) node none

/-- Take a node out from between its neighbours, if it has both of them. -/
def unlink (links : Links α) (node : α) : Links α :=
  match links.next node, links.prev node with
  | some following, some before => links.bypass before node following
  | _, _ =>
      { next := Function.update links.next node none
        prev := Function.update links.prev node none }

variable (links : Links α) (position node following other : α)

theorem insertBetween_next : (links.insertBetween position node following).next other =
    if other = position then some node
    else if other = node then some following else links.next other := by
  simp only [insertBetween, Function.update_apply]

theorem insertBetween_prev : (links.insertBetween position node following).prev other =
    if other = node then some position
    else if other = following then some node else links.prev other := by
  simp only [insertBetween, Function.update_apply]

theorem bypass_next : (links.bypass position node following).next other =
    if other = node then none
    else if other = position then some following else links.next other := by
  simp only [bypass, Function.update_apply]

theorem bypass_prev : (links.bypass position node following).prev other =
    if other = node then none
    else if other = following then some position else links.prev other := by
  simp only [bypass, Function.update_apply]

end Writes

/-! ## Paths -/

/-- The two nodes are neighbours, in both directions. -/
structure Joined (links : Links α) (node following : α) : Prop where
  next : links.next node = some following
  prev : links.prev following = some node

/-- The links lead from one node through the items to another one. -/
def Path (links : Links α) (start : α) : List α → α → Prop
  | [], target => links.Joined start target
  | item :: items, target => links.Joined start item ∧ links.Path item items target

variable {links other : Links α} {start target item node : α} {items before after : List α}

/-- A path only depends on the links along it. -/
theorem Path.congr (path : links.Path start items target)
    (next : ∀ node ∈ start :: items, other.next node = links.next node)
    (prev : ∀ node ∈ items ++ [target], other.prev node = links.prev node) :
    other.Path start items target := by
  induction items generalizing start with
  | nil =>
      constructor
      · rw [next start List.mem_cons_self, path.next]
      · rw [prev target List.mem_cons_self, path.prev]
  | cons item items ih =>
      constructor
      · constructor
        · rw [next start List.mem_cons_self, path.1.next]
        · rw [prev item List.mem_cons_self, path.1.prev]
      · apply ih path.2
        · exact fun node member => next node (List.mem_cons_of_mem _ member)
        · exact fun node member => prev node (List.mem_cons_of_mem _ member)

theorem path_append : links.Path start (before ++ item :: after) target ↔
    links.Path start before item ∧ links.Path item after target := by
  induction before generalizing start with
  | nil => exact Iff.rfl
  | cons first before ih =>
      simp only [List.cons_append, Path, ih, and_assoc]

/-- The node after the first one of a path. -/
theorem Path.next_eq (path : links.Path start items target) :
    links.next start = some ((items ++ [target]).head (by simp)) := by
  cases items with
  | nil => exact path.next
  | cons item items => exact path.1.next

/-- The node before the last one of a path. -/
theorem Path.prev_eq (path : links.Path start items target) :
    links.prev target = some ((start :: items).getLast (by simp)) := by
  induction items generalizing start with
  | nil => exact path.prev
  | cons item items ih =>
      rw [ih path.2, List.getLast_cons (List.cons_ne_nil item items)]

/-! ## Rings -/

/-- The items behind a head, in order, from which the links lead back to the head. -/
structure Ring (links : Links α) (head : α) (items : List α) : Prop where
  path : links.Path head items head
  nodup : (head :: items).Nodup

variable {head : α}

/-- A ring only depends on the links of its nodes. -/
theorem Ring.congr (ring : links.Ring head items)
    (same : ∀ node ∈ head :: items,
      other.next node = links.next node ∧ other.prev node = links.prev node) :
    other.Ring head items where
  path := by
    apply ring.path.congr fun node member => (same node member).1
    intro node member
    apply (same node _).2
    rcases List.mem_append.mp member with inside | last
    · exact List.mem_cons_of_mem _ inside
    · exact List.mem_singleton.mp last ▸ List.mem_cons_self
  nodup := ring.nodup

/-- The node behind the head of a ring. -/
theorem Ring.next_eq (ring : links.Ring head items) :
    links.next head = some ((items ++ [head]).head (by simp)) := ring.path.next_eq

/-- The node before the head of a ring. -/
theorem Ring.prev_eq (ring : links.Ring head items) :
    links.prev head = some ((head :: items).getLast (by simp)) := ring.path.prev_eq

theorem rotate_perm (head item : α) (before after : List α) :
    (item :: (after ++ head :: before)).Perm (head :: (before ++ item :: after)) :=
  @List.perm_append_comm _ (item :: after) (head :: before)

/-- Every node of a ring is the head of the same ring. -/
theorem Ring.rotate (ring : links.Ring head (before ++ item :: after)) :
    links.Ring item (after ++ head :: before) where
  path := path_append.mpr (path_append.mp ring.path).symm
  nodup := by
    exact (rotate_perm head item before after).nodup_iff.mpr ring.nodup

theorem Ring.targets_nodup (ring : links.Ring head items) : (items ++ [head]).Nodup :=
  (@List.perm_append_comm _ [head] items).nodup_iff.mp ring.nodup

/-- A path that ends where it first meets its target is determined by the links. -/
theorem Path.unique {others : List α} (path : links.Path start items target)
    (path' : links.Path start others target) (outside : target ∉ items)
    (outside' : target ∉ others) : items = others := by
  induction items generalizing start others with
  | nil =>
      cases others with
      | nil => rfl
      | cons other others =>
          have same : target = other := Option.some.inj (path.next.symm.trans path'.1.next)
          exact absurd (same ▸ List.mem_cons_self) outside'
  | cons item items ih =>
      cases others with
      | nil =>
          have same : item = target := Option.some.inj (path.1.next.symm.trans path'.next)
          exact absurd (same ▸ List.mem_cons_self) outside
      | cons other others =>
          have same : item = other := Option.some.inj (path.1.next.symm.trans path'.1.next)
          subst same
          rw [ih path.2 path'.2 (fun member => outside (List.mem_cons_of_mem _ member))
            fun member => outside' (List.mem_cons_of_mem _ member)]

/-- A head has one ring. -/
theorem Ring.unique {others : List α} (ring : links.Ring head items)
    (ring' : links.Ring head others) : items = others :=
  ring.path.unique ring'.path (List.nodup_cons.mp ring.nodup).1 (List.nodup_cons.mp ring'.nodup).1

/-! ## Walks -/

section Walks

variable [DecidableEq α]

/-- Follow the links from a node until the head comes or a node that is wanted. -/
def findFrom (links : Links α) (head : α) (wanted : α → Bool) :
    Nat → Option α → Option (Option α)
  | _, none => none
  | 0, some _ => none
  | fuel + 1, some node =>
      if node = head then some none
      else if wanted node then some (some node)
      else links.findFrom head wanted fuel (links.next node)

theorem Path.findFrom_eq (path : links.Path start items head) (outside : head ∉ items)
    (wanted : α → Bool) {fuel : Nat} (enough : items.length < fuel) :
    links.findFrom head wanted fuel (links.next start) = some (items.find? wanted) := by
  induction items generalizing start fuel with
  | nil =>
      cases fuel with
      | zero => exact absurd enough (Nat.not_lt_zero _)
      | succ fuel =>
          rw [path.next, findFrom, if_pos rfl]
          rfl
  | cons item items ih =>
      cases fuel with
      | zero => exact absurd enough (Nat.not_lt_zero _)
      | succ fuel =>
          have notHead : item ≠ head := fun same => outside (same ▸ List.mem_cons_self)
          rw [path.1.next, findFrom, if_neg notHead, List.find?_cons]
          cases wanted item with
          | true => rfl
          | false =>
              exact ih path.2 (fun member => outside (List.mem_cons_of_mem _ member))
                (Nat.lt_of_succ_lt_succ enough)

/-- A walk round a ring finds the first item that is wanted. -/
theorem Ring.findFrom_eq (ring : links.Ring head items) (wanted : α → Bool) {fuel : Nat}
    (enough : items.length < fuel) :
    links.findFrom head wanted fuel (links.next head) = some (items.find? wanted) :=
  ring.path.findFrom_eq (List.nodup_cons.mp ring.nodup).1 wanted enough

end Walks

/-! ## Changes of a ring -/

section Changes

variable [DecidableEq α]

theorem ring_close (links : Links α) (head : α) : (links.close head).Ring head [] where
  path := ⟨Function.update_self .., Function.update_self ..⟩
  nodup := List.nodup_singleton head

/-- Insertion behind the first node of a path. -/
theorem Path.insertBetween {following : α} (path : links.Path start items target)
    (isNext : links.next start = some following) (sources : (start :: items).Nodup)
    (targets : (items ++ [target]).Nodup) (newSource : node ∉ start :: items)
    (newTarget : node ≠ target) :
    (links.insertBetween start node following).Path start (node :: items) target := by
  have apart : node ≠ start := fun same => newSource (same ▸ List.mem_cons_self)
  constructor
  · exact ⟨by rw [insertBetween_next, if_pos rfl], by rw [insertBetween_prev, if_pos rfl]⟩
  · have nodeNext : (links.insertBetween start node following).next node = some following := by
      rw [insertBetween_next, if_neg apart, if_pos rfl]
    have followingPrev (different : following ≠ node) :
        (links.insertBetween start node following).prev following = some node := by
      rw [insertBetween_prev, if_neg different, if_pos rfl]
    cases items with
    | nil =>
        have last : following = target := Option.some.inj (isNext.symm.trans path.next)
        subst last
        exact ⟨nodeNext, followingPrev newTarget.symm⟩
    | cons item items =>
        have first : following = item := Option.some.inj (isNext.symm.trans path.1.next)
        subst first
        have different : following ≠ node := by
          intro same
          exact newSource (same ▸ List.mem_cons_of_mem _ List.mem_cons_self)
        refine ⟨⟨nodeNext, followingPrev different⟩, path.2.congr ?_ ?_⟩
        · intro other member
          have notStart : other ≠ start :=
            fun same => (List.nodup_cons.mp sources).1 (same ▸ member)
          have notNode : other ≠ node :=
            fun same => newSource (same ▸ List.mem_cons_of_mem _ member)
          rw [insertBetween_next, if_neg notStart, if_neg notNode]
        · intro other member
          have notFollowing : other ≠ following :=
            fun same => (List.nodup_cons.mp targets).1 (same ▸ member)
          have notNode : other ≠ node := by
            intro same
            subst same
            rcases List.mem_append.mp member with inside | last
            · exact newSource (List.mem_cons_of_mem _ (List.mem_cons_of_mem _ inside))
            · exact newTarget (List.mem_singleton.mp last)
          rw [insertBetween_prev, if_neg notNode, if_neg notFollowing]

/-- Unlinking the first item of a path. -/
theorem Path.bypass {following : α} (path : links.Path start (node :: items) target)
    (isNext : links.next node = some following) (sources : (start :: node :: items).Nodup)
    (targets : (node :: items ++ [target]).Nodup) :
    (links.bypass start node following).Path start items target := by
  have apart : start ≠ node := by
    intro same
    exact (List.nodup_cons.mp sources).1 (same ▸ List.mem_cons_self)
  have startNext : (links.bypass start node following).next start = some following := by
    rw [bypass_next, if_neg apart, if_pos rfl]
  have followingPrev (different : following ≠ node) :
      (links.bypass start node following).prev following = some start := by
    rw [bypass_prev, if_neg different, if_pos rfl]
  have targetsApart : ∀ other ∈ items ++ [target], other ≠ node := by
    intro other member same
    exact (List.nodup_cons.mp targets).1 (same ▸ member)
  cases items with
  | nil =>
      have last : following = target := Option.some.inj (isNext.symm.trans path.2.next)
      subst last
      exact ⟨startNext, followingPrev (targetsApart following List.mem_cons_self)⟩
  | cons item items =>
      have first : following = item := Option.some.inj (isNext.symm.trans path.2.1.next)
      subst first
      refine ⟨⟨startNext, followingPrev (targetsApart following List.mem_cons_self)⟩,
        path.2.2.congr ?_ ?_⟩
      · intro other member
        have notStart : other ≠ start := by
          intro same
          exact (List.nodup_cons.mp sources).1 (same ▸ List.mem_cons_of_mem _ member)
        have notNode : other ≠ node := by
          intro same
          exact (List.nodup_cons.mp (List.nodup_cons.mp sources).2).1 (same ▸ member)
        rw [bypass_next, if_neg notNode, if_neg notStart]
      · intro other member
        have notFollowing : other ≠ following := by
          intro same
          exact (List.nodup_cons.mp (List.nodup_cons.mp targets).2).1 (same ▸ member)
        have notNode : other ≠ node := targetsApart other (List.mem_cons_of_mem _ member)
        rw [bypass_prev, if_neg notNode, if_neg notFollowing]

/-- The links of all nodes but these are as they were. -/
def Untouched (links changed : Links α) (nodes : List α) : Prop :=
  ∀ other ∉ nodes, changed.next other = links.next other ∧ changed.prev other = links.prev other

theorem Ring.insertFirst (ring : links.Ring head items) (fresh : node ∉ head :: items) :
    ∃ changed, links.insertAfter head node = some changed ∧ changed.Ring head (node :: items) ∧
      links.Untouched changed (node :: head :: items) := by
  have apart : node ≠ head := fun same => fresh (same ▸ List.mem_cons_self)
  refine ⟨links.insertBetween head node ((items ++ [head]).head (by simp)), ?_, ⟨?_, ?_⟩, ?_⟩
  · rw [Links.insertAfter, ring.next_eq, Option.map_some]
  · exact ring.path.insertBetween ring.next_eq ring.nodup ring.targets_nodup fresh apart
  · have perm := List.Perm.swap head node items
    exact perm.nodup_iff.mp (List.nodup_cons.mpr ⟨fresh, ring.nodup⟩)
  · intro other outside
    have notNode : other ≠ node := fun same => outside (same ▸ List.mem_cons_self)
    have outsideRing : other ∉ head :: items := fun member =>
      outside (List.mem_cons_of_mem _ member)
    have notHead : other ≠ head := fun same => outsideRing (same ▸ List.mem_cons_self)
    have notNext : other ≠ (items ++ [head]).head (by simp) := by
      intro same
      have member : other ∈ items ++ [head] := same ▸ List.head_mem _
      rcases List.mem_append.mp member with inside | last
      · exact outsideRing (List.mem_cons_of_mem _ inside)
      · exact notHead (List.mem_singleton.mp last)
    constructor
    · rw [insertBetween_next, if_neg notHead, if_neg notNode]
    · rw [insertBetween_prev, if_neg notNode, if_neg notNext]

theorem Ring.insertBehind (ring : links.Ring head (before ++ item :: after))
    (fresh : node ∉ head :: (before ++ item :: after)) :
    ∃ changed, links.insertAfter item node = some changed ∧
      changed.Ring head (before ++ item :: node :: after) ∧
      links.Untouched changed (node :: head :: (before ++ item :: after)) := by
  have perm := rotate_perm head item before after
  have fresh' : node ∉ item :: (after ++ head :: before) := fun member =>
    fresh (perm.mem_iff.mp member)
  obtain ⟨changed, inserted, rotated, untouched⟩ := ring.rotate.insertFirst fresh'
  refine ⟨changed, inserted, rotated.rotate, ?_⟩
  intro other outside
  exact untouched other fun member => outside ((perm.cons node).mem_iff.mp member)

/-- Unlinking the first item. -/
theorem Ring.unlinkFirst (ring : links.Ring head (node :: items)) :
    (links.unlink node).Ring head items ∧
      links.Untouched (links.unlink node) (head :: node :: items) := by
  have isNext := ring.path.2.next_eq
  have unlinked : links.unlink node =
      links.bypass head node ((items ++ [head]).head (by simp)) := by
    rw [Links.unlink, isNext, ring.path.1.prev]
  rw [unlinked]
  refine ⟨⟨ring.path.bypass isNext ring.nodup ring.targets_nodup, ?_⟩, ?_⟩
  · exact ring.nodup.sublist (List.Sublist.cons_cons head (List.sublist_cons_self node items))
  · intro other outside
    have notHead : other ≠ head := fun same => outside (same ▸ List.mem_cons_self)
    have outsideItems : other ∉ node :: items := fun member =>
      outside (List.mem_cons_of_mem _ member)
    have notNode : other ≠ node := fun same => outsideItems (same ▸ List.mem_cons_self)
    have notNext : other ≠ (items ++ [head]).head (by simp) := by
      intro same
      have member : other ∈ items ++ [head] := same ▸ List.head_mem _
      rcases List.mem_append.mp member with inside | last
      · exact outsideItems (List.mem_cons_of_mem _ inside)
      · exact notHead (List.mem_singleton.mp last)
    constructor
    · rw [bypass_next, if_neg notNode, if_neg notHead]
    · rw [bypass_prev, if_neg notNode, if_neg notNext]

theorem Ring.unlink (ring : links.Ring head (before ++ node :: after)) :
    (links.unlink node).Ring head (before ++ after) ∧
      links.Untouched (links.unlink node) (head :: (before ++ node :: after)) := by
  cases before using List.reverseRecOn with
  | nil => exact ring.unlinkFirst
  | append_singleton before item =>
      simp only [List.append_assoc, List.singleton_append] at ring ⊢
      obtain ⟨rotated, untouched⟩ := ring.rotate.unlinkFirst
      have perm := rotate_perm head item before (node :: after)
      refine ⟨rotated.rotate, ?_⟩
      intro other outside
      exact untouched other fun member => outside (perm.mem_iff.mp member)

end Changes

end Links

/-! ## Chains -/

section Chains

variable {α : Type u}

/-- Single links lead from the start through the items to an end. -/
def Leads (next : α → Option α) : Option α → List α → Prop
  | start, [] => start = none
  | start, item :: items => start = some item ∧ Leads next (next item) items

variable {next other : α → Option α} {start : Option α} {items others : List α}

/-- A chain only depends on the links of its items. -/
theorem Leads.congr (leads : Leads next start items)
    (same : ∀ item ∈ items, other item = next item) : Leads other start items := by
  induction items generalizing start with
  | nil => exact leads
  | cons item items ih =>
      refine ⟨leads.1, ?_⟩
      rw [same item List.mem_cons_self]
      exact ih leads.2 fun item member => same item (List.mem_cons_of_mem _ member)

theorem Leads.unique (leads : Leads next start items) (leads' : Leads next start others) :
    items = others := by
  induction items generalizing start others with
  | nil =>
      cases others with
      | nil => rfl
      | cons other others => exact absurd (leads.symm.trans leads'.1) (Option.some_ne_none _).symm
  | cons item items ih =>
      cases others with
      | nil => exact absurd (leads.1.symm.trans leads') (Option.some_ne_none _)
      | cons other others =>
          have same : item = other := Option.some.inj (leads.1.symm.trans leads'.1)
          subst same
          rw [ih leads.2 leads'.2]

/-- Where a chain starts is its first item. -/
theorem Leads.of_some {first : α} (leads : Leads next start items) (isStart : start = some first) :
    ∃ rest, items = first :: rest := by
  cases items with
  | nil => exact absurd (isStart.symm.trans leads) (Option.some_ne_none _)
  | cons item items =>
      obtain rfl := Option.some.inj (isStart.symm.trans leads.1)
      exact ⟨items, rfl⟩

/-- An item put before a chain. -/
theorem Leads.push [DecidableEq α] (leads : Leads next start items) {item : α}
    (fresh : item ∉ items) : Leads (Function.update next item start) (some item) (item :: items) := by
  refine ⟨rfl, ?_⟩
  rw [Function.update_self]
  apply leads.congr
  intro other member
  have apart : other ≠ item := fun same => fresh (same ▸ member)
  exact Function.update_of_ne apart ..

end Chains
