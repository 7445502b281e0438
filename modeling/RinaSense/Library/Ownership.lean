import Mathlib.Data.List.Nodup
import Mathlib.Data.List.Perm.Basic
import Mathlib.Logic.Function.Basic

/-!
# Ownership of blocks

Blocks that are given out, each to one owner: a holder, which has at most one block as
its content, or nobody in particular, in which case the block is a loose one. The
operations hand blocks out, attach them, and take them back.
-/

universe u v

variable {ι : Type u} {β : Type v}

/-- Each block has one owner, and each holder and loose block owns what is a block. -/
structure Owned (holders : List ι) (blocks : List β) (content : ι → Option β)
    (loose : List β) : Prop where
  holdersNodup : holders.Nodup
  blocksNodup : blocks.Nodup
  shared : (holders.filterMap content ++ loose).Perm blocks

namespace Owned

section Content

variable [DecidableEq ι] {holders : List ι} {content : ι → Option β}

/-- What the others hold is as before. -/
theorem filterMap_update_of_not_mem {holder : ι} (absent : holder ∉ holders)
    (value : Option β) :
    holders.filterMap (Function.update content holder value) = holders.filterMap content := by
  induction holders with
  | nil => rfl
  | cons first rest ih =>
      have other : first ≠ holder := fun same => absent (same ▸ List.mem_cons_self)
      have absentRest : holder ∉ rest := fun member => absent (List.mem_cons_of_mem first member)
      rw [List.filterMap_cons, List.filterMap_cons, Function.update_of_ne other, ih absentRest]

/-- What is held with another content of one holder. -/
theorem filterMap_update_perm {holder : ι} (nodup : holders.Nodup) (member : holder ∈ holders)
    (value : Option β) :
    (holders.filterMap (Function.update content holder value)).Perm
      (value.toList ++ (holders.erase holder).filterMap content) := by
  have absent : holder ∉ holders.erase holder := nodup.not_mem_erase
  have split := (List.perm_cons_erase member).filterMap (Function.update content holder value)
  rw [List.filterMap_cons, Function.update_self, filterMap_update_of_not_mem absent] at split
  cases value with
  | none => exact split
  | some block => exact split

/-- What is held with the content there is. -/
theorem filterMap_perm {holder : ι} (nodup : holders.Nodup) (member : holder ∈ holders) :
    (holders.filterMap content).Perm
      ((content holder).toList ++ (holders.erase holder).filterMap content) := by
  have split := @filterMap_update_perm _ _ _ holders content holder nodup member (content holder)
  rw [Function.update_eq_self] at split
  exact split

end Content

section Reading

variable {holders : List ι} {blocks loose : List β} {content : ι → Option β}

theorem empty (content : ι → Option β) : Owned [] [] content [] where
  holdersNodup := List.nodup_nil
  blocksNodup := List.nodup_nil
  shared := List.Perm.nil

theorem mem_of_content {holder : ι} {block : β} (owned : Owned holders blocks content loose)
    (member : holder ∈ holders) (holds : content holder = some block) : block ∈ blocks := by
  apply owned.shared.subset
  apply List.mem_append_left
  exact List.mem_filterMap.mpr ⟨holder, member, holds⟩

theorem mem_of_loose {block : β} (owned : Owned holders blocks content loose)
    (member : block ∈ loose) : block ∈ blocks :=
  owned.shared.subset (List.mem_append_right _ member)

/-- A block has an owner. -/
theorem has_owner {block : β} (owned : Owned holders blocks content loose)
    (member : block ∈ blocks) :
    (∃ holder ∈ holders, content holder = some block) ∨ block ∈ loose := by
  rcases List.mem_append.mp (owned.shared.symm.subset member) with held | isLoose
  · exact .inl (List.mem_filterMap.mp held)
  · exact .inr isLoose

/-- A new block that is loose. -/
theorem lend {block : β} (owned : Owned holders blocks content loose) (fresh : block ∉ blocks) :
    Owned holders (block :: blocks) content (block :: loose) where
  holdersNodup := owned.holdersNodup
  blocksNodup := List.nodup_cons.mpr ⟨fresh, owned.blocksNodup⟩
  shared := List.perm_middle.trans (owned.shared.cons block)

end Reading

section Holders

variable [DecidableEq ι] {holders : List ι} {blocks loose : List β} {content : ι → Option β}

/-- A new holder, without a block. -/
theorem enter {holder : ι} (owned : Owned holders blocks content loose)
    (absent : holder ∉ holders) :
    Owned (holder :: holders) blocks (Function.update content holder none) loose where
  holdersNodup := List.nodup_cons.mpr ⟨absent, owned.holdersNodup⟩
  blocksNodup := owned.blocksNodup
  shared := by
    rw [List.filterMap_cons, Function.update_self, filterMap_update_of_not_mem absent]
    exact owned.shared

/-- A holder without a block goes. -/
theorem leave {holder : ι} (owned : Owned holders blocks content loose)
    (member : holder ∈ holders) (bare : content holder = none) :
    Owned (holders.erase holder) blocks content loose where
  holdersNodup := owned.holdersNodup.erase holder
  blocksNodup := owned.blocksNodup
  shared := by
    have split := @filterMap_perm _ _ _ holders content holder owned.holdersNodup member
    rw [bare] at split
    exact (split.symm.append_right loose).trans owned.shared

/-- What a holder has, no other holder has, and it is no loose block. -/
theorem has_one_owner {holder : ι} {block : β} (owned : Owned holders blocks content loose)
    (member : holder ∈ holders) (holds : content holder = some block) :
    (∀ other ∈ holders, content other = some block → other = holder) ∧ block ∉ loose := by
  have split := @filterMap_perm _ _ _ holders content holder owned.holdersNodup member
  rw [holds] at split
  have nodup : (block :: ((holders.erase holder).filterMap content ++ loose)).Nodup :=
    ((split.append_right loose).symm.trans owned.shared).nodup_iff.mpr owned.blocksNodup
  have absent := (List.nodup_cons.mp nodup).1
  constructor
  · intro other isOther same
    by_contra different
    apply absent
    apply List.mem_append_left
    exact List.mem_filterMap.mpr ⟨other, (List.mem_erase_of_ne different).mpr isOther, same⟩
  · exact fun isLoose => absent (List.mem_append_right _ isLoose)

/-- A new block for a holder without one. -/
theorem attach {holder : ι} {block : β} (owned : Owned holders blocks content loose)
    (member : holder ∈ holders) (bare : content holder = none) (fresh : block ∉ blocks) :
    Owned holders (block :: blocks) (Function.update content holder (some block)) loose where
  holdersNodup := owned.holdersNodup
  blocksNodup := List.nodup_cons.mpr ⟨fresh, owned.blocksNodup⟩
  shared := by
    have before := @filterMap_perm _ _ _ holders content holder owned.holdersNodup member
    rw [bare] at before
    have after := @filterMap_update_perm _ _ _ holders content holder owned.holdersNodup member
      (some block)
    have old : ((holders.erase holder).filterMap content ++ loose).Perm blocks :=
      (before.symm.append_right loose).trans owned.shared
    exact (after.append_right loose).trans (old.cons block)

/-- A content that is none is none again. -/
theorem keepBare {holder : ι} (owned : Owned holders blocks content loose)
    (bare : content holder = none) :
    Owned holders blocks (Function.update content holder none) loose := by
  rw [← bare, Function.update_eq_self]
  exact owned

end Holders

section TakingBack

variable [DecidableEq β] {holders : List ι} {blocks loose : List β} {content : ι → Option β}

/-- The block of a holder is taken back. -/
theorem detach [DecidableEq ι] {holder : ι} {block : β} (owned : Owned holders blocks content loose)
    (member : holder ∈ holders) (holds : content holder = some block) :
    Owned holders (blocks.erase block) (Function.update content holder none) loose where
  holdersNodup := owned.holdersNodup
  blocksNodup := owned.blocksNodup.erase block
  shared := by
    have before := @filterMap_perm _ _ _ holders content holder owned.holdersNodup member
    rw [holds] at before
    have after := @filterMap_update_perm _ _ _ holders content holder owned.holdersNodup member none
    have whole : (block :: ((holders.erase holder).filterMap content ++ loose)).Perm
        (block :: blocks.erase block) :=
      ((before.symm.append_right loose).trans owned.shared).trans
        (List.perm_cons_erase (owned.mem_of_content member holds))
    exact (after.append_right loose).trans whole.cons_inv

/-- A loose block is taken back. -/
theorem takeBack {block : β} (owned : Owned holders blocks content loose)
    (member : block ∈ loose) :
    Owned holders (blocks.erase block) content (loose.erase block) where
  holdersNodup := owned.holdersNodup
  blocksNodup := owned.blocksNodup.erase block
  shared := by
    have before := (List.perm_cons_erase member).append_left (holders.filterMap content)
    have whole : (block :: (holders.filterMap content ++ loose.erase block)).Perm
        (block :: blocks.erase block) :=
      (List.perm_middle.symm.trans (before.symm.trans owned.shared)).trans
        (List.perm_cons_erase (owned.mem_of_loose member))
    exact whole.cons_inv

end TakingBack

end Owned
