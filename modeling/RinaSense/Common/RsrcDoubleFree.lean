import RinaSense.Common.RsrcLinks

/-!
# Double frees

Runs of the pools in memory, with what their users hold and have given back. The word that
marks a free resource is a link of one in use, so a resource is marked exactly while it is
on the free list of its pool.
-/

namespace RinaSense

open Command

/-! ## Purpose -/

/-- The pools, the resources handed out, and those given back to a pool that keeps them and
not handed out again. -/
structure RsrcUsers where
  memory : RsrcMemory
  live : List RsrcWord
  freed : List RsrcWord

inductive LinkedCall where
  | initPool (heap : RsrcHeap) (pcName : String) (xRsrcSize : Nat)
      (uiInitAlloc uiIncrement uiMaxNumRes : UInt32)
  | alloc (heap : RsrcHeap) (pxPool : Nat) (pcRequestor : Option String)
  | varAlloc (heap : RsrcHeap) (pxPool : Nat) (pcRequestor : Option String) (xPayloadLen : Nat)
  | free (pvResPayload : Option RsrcWord)
  deriving Repr, DecidableEq

namespace RsrcUsers

def startup : RsrcUsers where
  memory := .startup
  live := []
  freed := []

/-- The pool of the resource keeps what is freed. -/
def keeps (users : RsrcUsers) (pxRsrc : RsrcWord) : Bool :=
  ((users.memory.pxPool pxRsrc).bind fun handle => users.memory.pools[handle]?).any
    fun pxPool => !pxPool.uiFreeOnFree

/-- The users behind an allocation that returned. -/
def allocated (users : RsrcUsers) (pxRsrc : Option RsrcWord) (memory : RsrcMemory) : RsrcUsers where
  memory := memory
  live := pxRsrc.toList ++ users.live
  freed := users.freed.filter fun other => some other ≠ pxRsrc

/-- The users behind a free that returned. -/
def gaveBack (users : RsrcUsers) (pvResPayload : Option RsrcWord) (memory : RsrcMemory) :
    RsrcUsers where
  memory := memory
  live := users.live.filter fun other => some other ≠ pvResPayload
  freed := pvResPayload.toList.filter users.keeps ++ users.freed

def onMemory {α : Type} (command : EStateM RsrcLinkFault RsrcMemory α) :
    EStateM RsrcLinkFault RsrcUsers α :=
  zoom RsrcUsers.memory (fun memory users => { users with memory }) command

/-- An allocation, whose resource is handed out. -/
def allocate (command : EStateM RsrcLinkFault RsrcMemory (Option RsrcWord)) :
    EStateM RsrcLinkFault RsrcUsers (Option RsrcWord) := do
  let pxRsrc ← onMemory command
  modify fun users => users.allocated pxRsrc users.memory
  return pxRsrc

/-- A call, whose fault keeps the pools as they are then. -/
def perform : LinkedCall → EStateM RsrcLinkFault RsrcUsers (Option RsrcWord)
  | .initPool heap pcName xRsrcSize uiInitAlloc uiIncrement uiMaxNumRes => do
      let _ ← onMemory (RsrcMemory.prviRsrcInitPool heap pcName xRsrcSize uiInitAlloc uiIncrement
        uiMaxNumRes)
      return none
  | .alloc heap pxPool pcRequestor =>
      allocate (RsrcMemory.pxRsrcAlloc heap pxPool pcRequestor)
  | .varAlloc heap pxPool pcRequestor xPayloadLen =>
      allocate (RsrcMemory.pxRsrcVarAlloc heap pxPool pcRequestor xPayloadLen)
  | .free pvResPayload => do
      let before ← get
      onMemory (RsrcMemory.vRsrcFree pvResPayload)
      modify fun users => before.gaveBack pvResPayload users.memory
      return none

/-- Freeing a resource that was given back aborts with every list and counter as it was before,
freeing one that is held returns. -/
def Detects (before : RsrcUsers) (call : LinkedCall)
    (result : EStateM.Result RsrcLinkFault RsrcUsers (Option RsrcWord)) : Prop :=
  ∀ pxRsrc, call = .free (some pxRsrc) →
    (pxRsrc ∈ before.freed → result = .error .abort before) ∧
      (pxRsrc ∈ before.live → ∃ after, result = .ok none after)

end RsrcUsers

/-! ## What the memory stands for -/

/-- The memory stands for the pools on lists, whose resources are different ones. -/
structure RsrcMemory.Represents (memory : RsrcMemory) (pools : List RsrcPool) : Prop where
  structs : memory.pools = pools.map RsrcPool.linked
  stands : ∀ (handle : Nat) (pool : RsrcPool), pools[handle]? = some pool →
    pool.Stands memory.xLinks handle memory.nextRsrc
  apart : ∀ (one : Nat) (first : RsrcPool) (other : Nat) (second : RsrcPool),
    pools[one]? = some first → pools[other]? = some second →
      ∀ number ∈ first.resources, number ∈ second.resources → one = other
  owned : ∀ (handle : Nat) (pool : RsrcPool), pools[handle]? = some pool → ∀ number ∈ pool.xActive,
    memory.pxPool (.rsrc number) = some handle

section Represents

variable {memory : RsrcMemory} {pools : List RsrcPool} {handle : Nat} {pool after : RsrcPool}
  {changed : Links RsrcWord} {later : Nat}

theorem RsrcMemory.Represents.struct (represents : memory.Represents pools)
    (found : pools[handle]? = some pool) : memory.pools[handle]? = some pool.linked := by
  rw [represents.structs, List.getElem?_map, found]
  rfl

/-- The words of two pools are different ones. -/
theorem RsrcMemory.Represents.words_apart (represents : memory.Represents pools)
    (found : pools[handle]? = some pool) {other : Nat} {second : RsrcPool}
    (isOther : pools[other]? = some second) (different : other ≠ handle) :
    ∀ word ∈ second.words other, word ∉ pool.words handle := by
  intro word member inside
  rcases List.mem_cons.mp member with rfl | member
  · rcases List.mem_cons.mp inside with same | inside
    · exact different (RsrcWord.active.inj same)
    · exact active_notMem other _ inside
  · obtain ⟨number, isSecond, rfl⟩ := List.mem_map.mp member
    rcases List.mem_cons.mp inside with same | inside
    · cases same
    · exact different (represents.apart _ _ _ _ isOther found number isSecond
        (mem_map_rsrc.mp inside))

/-- An operation of one pool keeps what the others stand for. -/
theorem RsrcMemory.Represents.moved (represents : memory.Represents pools)
    (found : pools[handle]? = some pool)
    (moves : RsrcPool.Moves handle memory.xLinks pool memory.nextRsrc changed after later)
    {pxPool : RsrcWord → Option Nat}
    (owned : ∀ number ∈ after.xActive, pxPool (.rsrc number) = some handle)
    (others : ∀ number, number ∉ pool.resources → number < memory.nextRsrc →
      pxPool (.rsrc number) = memory.pxPool (.rsrc number)) :
    RsrcMemory.Represents
      { xLinks := changed, pools := memory.pools.set handle after.linked, pxPool, nextRsrc := later }
      (pools.set handle after) := by
  have isHandle : handle < pools.length := (List.getElem?_eq_some_iff.mp found).1
  have cases_ {one : Nat} {first : RsrcPool} (isFirst : (pools.set handle after)[one]? = some first) :
      one = handle ∧ first = after ∨ one ≠ handle ∧ pools[one]? = some first := by
    by_cases same : one = handle
    · subst same
      rw [List.getElem?_set_self isHandle] at isFirst
      exact .inl ⟨rfl, (Option.some.inj isFirst).symm⟩
    · rw [List.getElem?_set_ne fun back => same back.symm] at isFirst
      exact .inr ⟨same, isFirst⟩
  have oldOf {one : Nat} {first : RsrcPool} (isFirst : pools[one]? = some first)
      (different : one ≠ handle) {number : Nat} (member : number ∈ first.resources) :
      number ∉ after.resources := by
    intro inside
    rcases moves.resources number inside with old | new
    · exact different (represents.apart _ _ _ _ isFirst found number member old)
    · exact absurd ((represents.stands one first isFirst).below number member)
        (Nat.not_lt_of_le new)
  constructor
  · rw [List.map_set, represents.structs]
  · intro one first isFirst
    rcases cases_ isFirst with ⟨rfl, rfl⟩ | ⟨different, isFirst⟩
    · exact moves.stands
    · have stands := represents.stands one first isFirst
      refine ⟨stands.holds.congr fun word member => ?_, stands.nodup, fun number member =>
        Nat.lt_of_lt_of_le (stands.below number member) moves.grown⟩
      apply moves.own word (represents.words_apart found isFirst different word member)
      rintro number rfl
      rcases List.mem_cons.mp member with other | member
      · cases other
      · exact stands.below number (mem_map_rsrc.mp member)
  · intro one first other second isFirst isSecond number inFirst inSecond
    rcases cases_ isFirst with ⟨rfl, rfl⟩ | ⟨oneDifferent, oldFirst⟩
    · rcases cases_ isSecond with ⟨rfl, rfl⟩ | ⟨different, oldSecond⟩
      · rfl
      · exact absurd inFirst (oldOf oldSecond different inSecond)
    · rcases cases_ isSecond with ⟨rfl, rfl⟩ | ⟨different, oldSecond⟩
      · exact absurd inSecond (oldOf oldFirst oneDifferent inFirst)
      · exact represents.apart _ _ _ _ oldFirst oldSecond number inFirst inSecond
  · intro one first isFirst number active
    rcases cases_ isFirst with ⟨rfl, rfl⟩ | ⟨different, isFirst⟩
    · exact owned number active
    · have member : number ∈ first.resources := List.mem_append_left _ active
      have outside : number ∉ pool.resources := fun inside =>
        different (represents.apart _ _ _ _ isFirst found number member inside)
      have same := others number outside ((represents.stands one first isFirst).below number member)
      exact same.trans (represents.owned one first isFirst number active)

/-- A pool that is new, its links included. -/
theorem RsrcMemory.Represents.appended (represents : memory.Represents pools)
    (stands : after.Stands changed pools.length later) (grown : memory.nextRsrc ≤ later)
    (none_active : after.xActive = [])
    (new : ∀ number ∈ after.resources, memory.nextRsrc ≤ number)
    (own : ∀ word, word ≠ .active pools.length →
      (∀ number, word = .rsrc number → number < memory.nextRsrc) →
        changed.next word = memory.xLinks.next word ∧
          changed.prev word = memory.xLinks.prev word) :
    RsrcMemory.Represents
      { memory with xLinks := changed, pools := memory.pools ++ [after.linked], nextRsrc := later }
      (pools ++ [after]) := by
  have cases_ {one : Nat} {first : RsrcPool} (isFirst : (pools ++ [after])[one]? = some first) :
      one = pools.length ∧ first = after ∨ one < pools.length ∧ pools[one]? = some first := by
    have bound := (List.getElem?_eq_some_iff.mp isFirst).1
    rw [List.length_append, List.length_singleton] at bound
    rcases Nat.lt_or_eq_of_le (Nat.le_of_lt_succ bound) with old | rfl
    · rw [List.getElem?_append_left old] at isFirst
      exact .inr ⟨old, isFirst⟩
    · rw [List.getElem?_concat_length] at isFirst
      exact .inl ⟨rfl, (Option.some.inj isFirst).symm⟩
  have oldOf {one : Nat} {first : RsrcPool} (isFirst : pools[one]? = some first) {number : Nat}
      (member : number ∈ first.resources) : number ∉ after.resources := fun inside =>
    absurd ((represents.stands one first isFirst).below number member)
      (Nat.not_lt_of_le (new number inside))
  constructor
  · rw [List.map_append, ← represents.structs]
    rfl
  · intro one first isFirst
    rcases cases_ isFirst with ⟨rfl, rfl⟩ | ⟨old, isFirst⟩
    · exact stands
    · have standsFirst := represents.stands one first isFirst
      refine ⟨standsFirst.holds.congr fun word member => ?_, standsFirst.nodup,
        fun number member => Nat.lt_of_lt_of_le (standsFirst.below number member) grown⟩
      rcases List.mem_cons.mp member with rfl | member
      · apply own
        · exact fun same => absurd old (by rw [RsrcWord.active.inj same]; exact Nat.lt_irrefl _)
        · exact fun _ other => nomatch other
      · obtain ⟨number, inside, rfl⟩ := List.mem_map.mp member
        apply own
        · exact fun other => nomatch other
        · rintro _ ⟨⟩
          exact standsFirst.below number inside
  · intro one first other second isFirst isSecond number inFirst inSecond
    rcases cases_ isFirst with ⟨rfl, rfl⟩ | ⟨_, oldFirst⟩
    · rcases cases_ isSecond with ⟨rfl, rfl⟩ | ⟨_, oldSecond⟩
      · rfl
      · exact absurd inFirst (oldOf oldSecond inSecond)
    · rcases cases_ isSecond with ⟨rfl, rfl⟩ | ⟨_, oldSecond⟩
      · exact absurd inSecond (oldOf oldFirst inFirst)
      · exact represents.apart _ _ _ _ oldFirst oldSecond number inFirst inSecond
  · intro one first isFirst number active
    rcases cases_ isFirst with ⟨rfl, rfl⟩ | ⟨_, oldFirst⟩
    · rw [none_active] at active
      exact absurd active List.not_mem_nil
    · exact represents.owned one first oldFirst number active

/-! ## The operations -/

theorem add2Pool_active {heap : RsrcHeap} {next : Nat} {uiCount : UInt32} {result : Int}
    (run : pool.prviRsrcAdd2Pool heap next uiCount = .ok (result, after, later)) :
    after.xActive = pool.xActive := by
  by_cases zero : uiCount = 0
  · rw [RsrcPool.prviRsrcAdd2Pool, if_pos zero] at run
    cases run
    rfl
  · cases granted : heap.memory with
    | true =>
        rw [RsrcPool.add2Pool_granted zero granted] at run
        cases run
        rfl
    | false =>
        rw [RsrcPool.add2Pool_refused zero granted] at run
        split at run
        · cases run
          rfl
        · cases run

theorem setUp_stands (links : Links RsrcWord) (next : Nat) (pcName : String) (xRsrcSize : Nat)
    (uiInitAlloc uiIncrement uiMaxNumRes : UInt32) :
    (RsrcPool.setUp pcName xRsrcSize uiInitAlloc uiIncrement uiMaxNumRes).Stands
      (links.close (.active handle)) handle next where
  holds :=
    { active := Links.ring_close links (.active handle)
      free := rfl
      flagged := fun _ member => absurd member List.not_mem_nil }
  nodup := List.nodup_nil
  below := fun _ member => absurd member List.not_mem_nil

/-- Setting up a pool. -/
theorem RsrcMemory.Represents.initPool (represents : memory.Represents pools) (heap : RsrcHeap)
    (pcName : String) (xRsrcSize : Nat) (uiInitAlloc uiIncrement uiMaxNumRes : UInt32) :
    RsrcPool.prviRsrcInitPool heap memory.nextRsrc pcName xRsrcSize uiInitAlloc uiIncrement
          uiMaxNumRes = .error .abort ∧
        (∃ last, (RsrcMemory.prviRsrcInitPool heap pcName xRsrcSize uiInitAlloc uiIncrement
          uiMaxNumRes).run memory = .error .abort last) ∨
      ∃ count pool later changed,
        RsrcPool.prviRsrcInitPool heap memory.nextRsrc pcName xRsrcSize uiInitAlloc uiIncrement
          uiMaxNumRes = .ok (count, pool, later) ∧
        (RsrcMemory.prviRsrcInitPool heap pcName xRsrcSize uiInitAlloc uiIncrement
          uiMaxNumRes).run memory = .ok count changed ∧
        changed.Represents (pools ++ [pool]) ∧ pool.xActive = [] ∧
        changed.pxPool = memory.pxPool := by
  have length : memory.pools.length = pools.length := by
    rw [represents.structs, List.length_map]
  have closed (word : RsrcWord) (other : word ≠ .active pools.length) :
      (memory.xLinks.close (.active pools.length)).next word = memory.xLinks.next word ∧
        (memory.xLinks.close (.active pools.length)).prev word = memory.xLinks.prev word :=
    ⟨Function.update_of_ne other .., Function.update_of_ne other ..⟩
  have stands := @setUp_stands pools.length memory.xLinks memory.nextRsrc pcName xRsrcSize
    uiInitAlloc uiIncrement uiMaxNumRes
  have setUp : LinkedPool.setUp pcName xRsrcSize uiInitAlloc uiIncrement uiMaxNumRes =
      (RsrcPool.setUp pcName xRsrcSize uiInitAlloc uiIncrement uiMaxNumRes).linked := rfl
  rw [RsrcPool.prviRsrcInitPool, RsrcMemory.prviRsrcInitPool]
  simp only [EStateM.run_bind, EStateM.run_get, EStateM.run_modify, length, setUp]
  by_cases zero : uiInitAlloc = 0
  · rw [if_neg (not_not.mpr zero), if_neg (not_not.mpr zero)]
    refine .inr ⟨0, _, _, _, rfl, rfl, ?_, rfl, rfl⟩
    apply represents.appended stands (Nat.le_refl _) rfl
    · exact fun _ member => absurd member List.not_mem_nil
    · exact fun word other _ => closed word other
  · rw [if_pos zero, if_pos zero]
    have found : (memory.pools ++ [(RsrcPool.setUp pcName xRsrcSize uiInitAlloc uiIncrement
        uiMaxNumRes).linked])[pools.length]? =
          some (RsrcPool.setUp pcName xRsrcSize uiInitAlloc uiIncrement uiMaxNumRes).linked := by
      rw [← length, List.getElem?_concat_length]
    rcases stands.add2Pool heap uiInitAlloc with ⟨onLists, onLinks⟩ |
      ⟨count, pool, later, changed, onLists, onLinks, moves⟩
    · exact .inl ⟨onLists, _, RsrcMemory.run_prviRsrcAdd2Pool_aborts found onLinks⟩
    · have none_active : pool.xActive = [] := add2Pool_active onLists
      refine .inr ⟨count, pool, later, _, onLists,
        RsrcMemory.run_prviRsrcAdd2Pool found onLinks, ?_, none_active, rfl⟩
      rw [← length, List.set_append_right _ _ (Nat.le_refl _), Nat.sub_self, List.set_cons_zero,
        length]
      apply represents.appended moves.stands moves.grown none_active
      · intro number member
        rcases moves.resources number member with old | new
        · exact absurd old List.not_mem_nil
        · exact new
      · intro word other below
        have outside : word ∉ (RsrcPool.setUp pcName xRsrcSize uiInitAlloc uiIncrement
            uiMaxNumRes).words pools.length := by
          intro member
          rcases List.mem_cons.mp member with same | inside
          · exact other same
          · exact absurd inside List.not_mem_nil
        obtain ⟨nextMoved, prevMoved⟩ := moves.own word outside below
        obtain ⟨nextClosed, prevClosed⟩ := closed word other
        exact ⟨nextMoved.trans nextClosed, prevMoved.trans prevClosed⟩

theorem add2Pool_positive {heap : RsrcHeap} {next : Nat} {uiCount : UInt32} {result : Int}
    (run : pool.prviRsrcAdd2Pool heap next uiCount = .ok (result, after, later))
    (positive : ¬ result ≤ 0) : ∃ number rest, after.pxFreelist = number :: rest := by
  by_cases zero : uiCount = 0
  · rw [RsrcPool.prviRsrcAdd2Pool, if_pos zero] at run
    cases run
    exact absurd (Int.le_refl 0) positive
  · cases granted : heap.memory with
    | true =>
        rw [RsrcPool.add2Pool_granted zero granted] at run
        cases run
        apply List.exists_cons_of_ne_nil
        intro empty
        rw [RsrcPool.added, List.append_eq_nil_iff, List.reverse_eq_nil_iff,
          List.range'_eq_nil_iff] at empty
        exact zero (UInt32.toNat_inj.mp empty.1)
    | false =>
        rw [RsrcPool.add2Pool_refused zero granted] at run
        split at run
        · cases run
          exact absurd (by decide) positive
        · cases run

theorem set_same {α : Type} {items : List α} {place : Nat} {item : α}
    (found : items[place]? = some item) : items.set place item = items := by
  obtain ⟨bound, rfl⟩ := List.getElem?_eq_some_iff.mp found
  exact List.set_getElem_self bound

/-- The pools of the resources when one of them may be allocated. -/
def owners (handle : Nat) (pxPool : RsrcWord → Option Nat) (pxRsrc : Option Nat) :
    RsrcWord → Option Nat :=
  match pxRsrc with
  | none => pxPool
  | some number => Function.update pxPool (.rsrc number) (some handle)

theorem RsrcMemory.Represents.taken (represents : memory.Represents pools)
    (found : pools[handle]? = some pool) {number : Nat}
    (moves : RsrcPool.Moves handle memory.xLinks pool memory.nextRsrc changed after later)
    (active : after.xActive = number :: pool.xActive) :
    RsrcMemory.Represents
      { xLinks := changed, pools := memory.pools.set handle after.linked
        pxPool := owners handle memory.pxPool (some number), nextRsrc := later }
      (pools.set handle after) := by
  apply represents.moved found moves
  · intro other member
    by_cases same : other = number
    · rw [owners, same]
      exact Function.update_self ..
    · have old : other ∈ pool.xActive := by
        rw [active] at member
        exact (List.mem_cons.mp member).resolve_left same
      rw [owners, Function.update_of_ne fun equal => same (rsrc_injective equal)]
      exact represents.owned handle pool found other old
  · intro other outside below
    have apart : RsrcWord.rsrc other ≠ .rsrc number := by
      intro same
      have isAfter : other ∈ after.resources := by
        rw [rsrc_injective same]
        exact List.mem_append_left _ (active ▸ List.mem_cons_self)
      rcases moves.resources other isAfter with old | new
      · exact outside old
      · exact absurd below (Nat.not_lt_of_le new)
    exact Function.update_of_ne apart ..

/-- What an allocation from the pool does, to the lists and to the links alike: the resource
it takes, if any, moves to the active ones and belongs to the pool. -/
def RsrcMemory.Allocated (memory : RsrcMemory) (pools : List RsrcPool) (handle : Nat)
    (pool : RsrcPool) (heap : RsrcHeap) (pcRequestor : Option String) (xPayloadLen : Nat) : Prop :=
  ∃ pxRsrc after later changed,
    pool.pxRsrcVarAlloc heap memory.nextRsrc pcRequestor xPayloadLen =
      .ok (pxRsrc, after, later) ∧
    (RsrcMemory.pxRsrcVarAlloc heap handle pcRequestor xPayloadLen).run memory =
      .ok (pxRsrc.map .rsrc) changed ∧
    changed.Represents (pools.set handle after) ∧
    after.xActive = pxRsrc.toList ++ pool.xActive ∧
    (∀ number ∈ pool.pxFreelist, number ∈ after.pxFreelist ∨ pxRsrc = some number) ∧
    changed.pxPool = owners handle memory.pxPool pxRsrc

section Allocations

variable {heap : RsrcHeap} {pcRequestor : Option String} {xPayloadLen : Nat}

theorem RsrcMemory.Represents.allocated_refused (represents : memory.Represents pools)
    (found : pools[handle]? = some pool)
    (refused : pool.refuses pcRequestor xPayloadLen = true) :
    memory.Allocated pools handle pool heap pcRequestor xPayloadLen := by
  have struct := represents.struct found
  have refuses : pool.linked.refuses pcRequestor xPayloadLen =
      pool.refuses pcRequestor xPayloadLen := rfl
  rw [Allocated, RsrcPool.pxRsrcVarAlloc, RsrcMemory.pxRsrcVarAlloc,
    run_bind_ok (RsrcMemory.run_readPool struct)]
  simp only [refuses, refused]
  refine ⟨none, pool, memory.nextRsrc, memory, rfl, rfl, ?_, rfl, ?_, rfl⟩
  · rw [set_same found]
    exact represents
  · exact fun number member => .inl member

theorem RsrcMemory.Represents.allocated_free (represents : memory.Represents pools)
    (found : pools[handle]? = some pool) (accepted : pool.refuses pcRequestor xPayloadLen = false)
    {number : Nat} {rest : List Nat} (isFree : pool.pxFreelist = number :: rest) :
    memory.Allocated pools handle pool heap pcRequestor xPayloadLen := by
  have struct := represents.struct found
  have refuses : pool.linked.refuses pcRequestor xPayloadLen =
      pool.refuses pcRequestor xPayloadLen := rfl
  obtain ⟨changed, first, inserted, taken, moves⟩ :=
    (represents.stands handle pool found).take isFree
  rw [Allocated, RsrcPool.pxRsrcVarAlloc, RsrcMemory.pxRsrcVarAlloc,
    run_bind_ok (RsrcMemory.run_readPool struct)]
  simp only [refuses, accepted]
  refine ⟨some number, pool.taken number rest, memory.nextRsrc, _, ?_, ?_,
    represents.taken found moves rfl, rfl, ?_, rfl⟩
  · simp only [Bool.false_eq_true, if_false, RsrcPool.take_of_free isFree, isFree]
    rfl
  · simp only [Bool.false_eq_true, if_false, first, Option.isNone_some, EStateM.run_bind,
      EStateM.run_pure, RsrcMemory.run_take struct first inserted, taken]
    rfl
  · intro other member
    rw [isFree] at member
    rcases List.mem_cons.mp member with rfl | member
    · exact .inr rfl
    · exact .inl member

/-- The pool is extended first; where nothing could be added, nothing is taken. -/
theorem RsrcMemory.Represents.varAlloc_empty (represents : memory.Represents pools)
    (found : pools[handle]? = some pool) (accepted : pool.refuses pcRequestor xPayloadLen = false)
    (isFree : pool.pxFreelist = []) :
    pool.pxRsrcVarAlloc heap memory.nextRsrc pcRequestor xPayloadLen = .error .abort ∧
        (∃ last, (RsrcMemory.pxRsrcVarAlloc heap handle pcRequestor xPayloadLen).run memory =
          .error .abort last) ∨
      memory.Allocated pools handle pool heap pcRequestor xPayloadLen := by
  have struct := represents.struct found
  have refuses : pool.linked.refuses pcRequestor xPayloadLen =
      pool.refuses pcRequestor xPayloadLen := rfl
  have noFirst : pool.linked.pxFreelist = none := by
    rw [RsrcPool.linked, isFree]
    rfl
  have increment : pool.linked.uiIncrement = pool.uiIncrement := rfl
  rw [Allocated, RsrcPool.pxRsrcVarAlloc, RsrcMemory.pxRsrcVarAlloc,
    run_bind_ok (RsrcMemory.run_readPool struct)]
  simp only [refuses, accepted, isFree, Bool.false_eq_true, if_false, noFirst,
    Option.isNone_none, if_true, increment, EStateM.run_bind]
  rcases (represents.stands handle pool found).add2Pool heap pool.uiIncrement.toUInt32 with
    ⟨onLists, onLinks⟩ | ⟨result, middle, later, between, onLists, onLinks, moves⟩
  · have aborts := RsrcMemory.run_prviRsrcAdd2Pool_aborts struct onLinks
    left
    simp only [onLists, aborts]
    exact ⟨rfl, _, rfl⟩
  · have added := RsrcMemory.run_prviRsrcAdd2Pool struct onLinks
    have sameActive := add2Pool_active onLists
    right
    by_cases none_added : result ≤ 0
    · refine ⟨none, middle, later, _, ?_, ?_, represents.moved found moves ?_ ?_,
        sameActive, fun _ member => absurd member List.not_mem_nil, rfl⟩
      · simp only [onLists, Command.ok_bind, none_added, if_true]
        rfl
      · simp only [EStateM.run_pure, added, none_added, if_true]
        rfl
      · rw [sameActive]
        exact represents.owned handle pool found
      · exact fun _ _ _ => rfl
    · obtain ⟨number, rest, middleFree⟩ := add2Pool_positive onLists none_added
      obtain ⟨changed, first, inserted, taken, last⟩ := moves.stands.take middleFree
      have active : (middle.taken number rest).xActive = number :: pool.xActive :=
        congrArg (number :: ·) sameActive
      have isHandle : handle < memory.pools.length := (List.getElem?_eq_some_iff.mp struct).1
      have takes := @RsrcMemory.run_take
        { memory with
          xLinks := between
          pools := memory.pools.set handle middle.linked
          nextRsrc := later }
        handle middle.linked (.rsrc number) changed (List.getElem?_set_self isHandle) first inserted
      refine ⟨some number, middle.taken number rest, later, _, ?_, ?_,
        represents.taken found (moves.trans last) active, active, fun _ member => absurd member List.not_mem_nil, rfl⟩
      · simp only [onLists, Command.ok_bind, none_added, if_false,
          RsrcPool.take_of_free middleFree]
        rfl
      · simp only [EStateM.run_pure, added, none_added, if_false, EStateM.run_bind, takes, taken,
          List.set_set]
        rfl

/-- An allocation of one pool aborts on the lists and on the links, or on neither. -/
theorem RsrcMemory.Represents.varAlloc (represents : memory.Represents pools)
    (found : pools[handle]? = some pool) (heap : RsrcHeap) (pcRequestor : Option String)
    (xPayloadLen : Nat) :
    pool.pxRsrcVarAlloc heap memory.nextRsrc pcRequestor xPayloadLen = .error .abort ∧
        (∃ last, (RsrcMemory.pxRsrcVarAlloc heap handle pcRequestor xPayloadLen).run memory =
          .error .abort last) ∨
      memory.Allocated pools handle pool heap pcRequestor xPayloadLen := by
  cases accepted : pool.refuses pcRequestor xPayloadLen with
  | true => exact .inr (represents.allocated_refused found accepted)
  | false =>
      cases isFree : pool.pxFreelist with
      | cons number rest => exact .inr (represents.allocated_free found accepted isFree)
      | nil => exact represents.varAlloc_empty found accepted isFree

end Allocations

/-- A resource that is free is found so. -/
theorem RsrcMemory.Represents.free_again (represents : memory.Represents pools)
    (found : pools[handle]? = some pool) {number : Nat} (free : number ∈ pool.pxFreelist)
    (owner : memory.pxPool (.rsrc number) = some handle) :
    (RsrcMemory.vRsrcFree (some (.rsrc number))).run memory = .error .abort memory :=
  RsrcMemory.run_vRsrcFree_flagged owner (represents.struct found)
    ((represents.stands handle pool found).holds.flagged number free)

/-- A resource in use goes back to its pool, or to the heap. -/
theorem RsrcMemory.Represents.free_live (represents : memory.Represents pools)
    (found : pools[handle]? = some pool) {number : Nat} (live : number ∈ pool.xActive) :
    ∃ changed, (RsrcMemory.vRsrcFree (some (.rsrc number))).run memory = .ok () changed ∧
      changed.Represents (pools.set handle (pool.vRsrcFree number)) ∧
      changed.pxPool =
        if pool.uiFreeOnFree then Function.update memory.pxPool (.rsrc number) none
        else memory.pxPool := by
  have stands := represents.stands handle pool found
  have unflagged := stands.holds.unflagged live
  have owner := represents.owned handle pool found number live
  have inPool : number ∈ pool.resources := List.mem_append_left _ live
  have struct : { pool.linked with uiNumInUse := pool.linked.uiNumInUse - 1 } =
      (pool.removed number).linked := rfl
  rw [RsrcMemory.run_vRsrcFree_unflagged owner (represents.struct found) unflagged,
    RsrcMemory.unlinked, struct]
  have flag : (pool.removed number).linked.uiFreeOnFree = pool.uiFreeOnFree := rfl
  have freed : pool.vRsrcFree number =
      if pool.uiFreeOnFree then pool.removed number
      else (pool.removed number).prvvFreeResTail number := rfl
  rw [flag, freed]
  obtain ⟨moves, gone⟩ := stands.removed live
  cases pool.uiFreeOnFree with
  | true =>
      refine ⟨_, rfl, represents.moved found moves ?_ ?_, rfl⟩
      · intro other active
        have apart : RsrcWord.rsrc other ≠ .rsrc number := by
          intro same
          have inside : other ∈ (pool.removed number).resources := List.mem_append_left _ active
          rw [rsrc_injective same] at inside
          exact gone inside
        rw [Function.update_of_ne apart]
        exact represents.owned handle pool found other (List.mem_of_mem_erase active)
      · intro other outside _
        have apart : RsrcWord.rsrc other ≠ .rsrc number := fun same =>
          outside (rsrc_injective same ▸ inPool)
        exact Function.update_of_ne apart ..
  | false =>
      refine ⟨_, rfl, represents.moved found (stands.returned live) ?_ ?_, rfl⟩
      · exact fun other active =>
          represents.owned handle pool found other (List.mem_of_mem_erase active)
      · exact fun _ _ _ => rfl

end Represents

/-! ## Runs -/

/-- What the users hold is in use, what they gave back is free, and every resource with a
pool is one of that pool. -/
structure RsrcUsers.Follows (users : RsrcUsers) (pools : List RsrcPool) : Prop where
  represents : users.memory.Represents pools
  live : ∀ word ∈ users.live, ∃ (handle : Nat) (pool : RsrcPool) (number : Nat),
    pools[handle]? = some pool ∧ number ∈ pool.xActive ∧ word = .rsrc number
  freed : ∀ word ∈ users.freed, ∃ (handle : Nat) (pool : RsrcPool) (number : Nat),
    pools[handle]? = some pool ∧ number ∈ pool.pxFreelist ∧ word = .rsrc number ∧
      users.memory.pxPool word = some handle
  owner : ∀ word handle, users.memory.pxPool word = some handle →
    ∃ (pool : RsrcPool) (number : Nat), pools[handle]? = some pool ∧ number ∈ pool.resources ∧
      word = .rsrc number

namespace RsrcUsers

section Runs

variable {users : RsrcUsers} {pools : List RsrcPool} {handle : Nat} {pool after : RsrcPool}
  {memory : RsrcMemory}

theorem follows_startup : startup.Follows [] where
  represents :=
    { structs := rfl
      stands := fun _ _ found => nomatch found
      apart := fun _ _ _ _ found => nomatch found
      owned := fun _ _ found => nomatch found }
  live := fun _ member => absurd member List.not_mem_nil
  freed := fun _ member => absurd member List.not_mem_nil
  owner := fun _ _ isOwner => nomatch isOwner

/-- A pool after another one was changed, or itself. -/
theorem getElem?_set_pool (found : pools[handle]? = some pool) {one : Nat} {first : RsrcPool}
    (isFirst : pools[one]? = some first) :
    one = handle ∧ first = pool ∧ (pools.set handle after)[one]? = some after ∨
      one ≠ handle ∧ (pools.set handle after)[one]? = some first := by
  by_cases same : one = handle
  · subst same
    refine .inl ⟨rfl, Option.some.inj (isFirst.symm.trans found), ?_⟩
    exact List.getElem?_set_self (List.getElem?_eq_some_iff.mp found).1
  · exact .inr ⟨same, (List.getElem?_set_ne fun back => same back.symm).trans isFirst⟩

theorem Follows.initPool (follows : users.Follows pools)
    (represents : memory.Represents (pools ++ [pool])) (owners : memory.pxPool = users.memory.pxPool) :
    Follows { users with memory } (pools ++ [pool]) := by
  have stays {one : Nat} {first : RsrcPool} (found : pools[one]? = some first) :
      (pools ++ [pool])[one]? = some first := by
    rw [List.getElem?_append_left (List.getElem?_eq_some_iff.mp found).1]
    exact found
  constructor
  · exact represents
  · intro word member
    obtain ⟨handle, first, number, found, rest⟩ := follows.live word member
    exact ⟨handle, first, number, stays found, rest⟩
  · intro word member
    obtain ⟨handle, first, number, found, free, isWord, owner⟩ := follows.freed word member
    exact ⟨handle, first, number, stays found, free, isWord, (congrFun owners word).trans owner⟩
  · intro word handle owner
    obtain ⟨first, number, found, rest⟩ :=
      follows.owner word handle ((congrFun owners word).symm.trans owner)
    exact ⟨first, number, stays found, rest⟩

theorem Follows.allocated (follows : users.Follows pools) (found : pools[handle]? = some pool)
    {pxRsrc : Option Nat} (represents : memory.Represents (pools.set handle after))
    (active : after.xActive = pxRsrc.toList ++ pool.xActive)
    (free : ∀ number ∈ pool.pxFreelist, number ∈ after.pxFreelist ∨ pxRsrc = some number)
    (isOwner : memory.pxPool = owners handle users.memory.pxPool pxRsrc) :
    (users.allocated (pxRsrc.map .rsrc) memory).Follows (pools.set handle after) := by
  have self : (pools.set handle after)[handle]? = some after :=
    List.getElem?_set_self (List.getElem?_eq_some_iff.mp found).1
  have stillActive {number : Nat} (member : number ∈ pool.xActive) : number ∈ after.xActive := by
    rw [active]
    exact List.mem_append_right _ member
  have newActive {number : Nat} (isNew : pxRsrc = some number) : number ∈ after.xActive := by
    rw [active, isNew]
    exact List.mem_cons_self
  have ownerOf (word : RsrcWord) (other : some word ≠ pxRsrc.map .rsrc) :
      memory.pxPool word = users.memory.pxPool word := by
    rw [isOwner]
    cases pxRsrc with
    | none => rfl
    | some number => exact Function.update_of_ne (fun same => other (congrArg some same)) ..
  constructor
  · exact represents
  · intro word member
    rcases List.mem_append.mp member with new | old
    · obtain ⟨number, isNew, rfl⟩ := Option.map_eq_some_iff.mp (Option.mem_toList.mp new)
      exact ⟨handle, after, number, self, newActive isNew, rfl⟩
    · obtain ⟨one, first, number, isFirst, inUse, isWord⟩ := follows.live word old
      rcases @getElem?_set_pool pools handle pool after found one first isFirst with
        ⟨rfl, rfl, there⟩ | ⟨-, there⟩
      · exact ⟨one, after, number, there, stillActive inUse, isWord⟩
      · exact ⟨one, first, number, there, inUse, isWord⟩
  · intro word member
    obtain ⟨old, other⟩ := List.mem_filter.mp member
    have other := of_decide_eq_true other
    obtain ⟨one, first, number, isFirst, wasFree, rfl, owner⟩ := follows.freed word old
    rcases @getElem?_set_pool pools handle pool after found one first isFirst with
      ⟨rfl, rfl, there⟩ | ⟨-, there⟩
    · have isFree := (free number wasFree).resolve_right fun taken =>
        other (by rw [taken]; rfl)
      exact ⟨one, after, number, there, isFree, rfl, (ownerOf _ other).trans owner⟩
    · exact ⟨one, first, number, there, wasFree, rfl, (ownerOf _ other).trans owner⟩
  · intro word one owner
    by_cases isNew : some word = pxRsrc.map .rsrc
    · obtain ⟨number, isSome, rfl⟩ := Option.map_eq_some_iff.mp isNew.symm
      rw [show (users.allocated (pxRsrc.map .rsrc) memory).memory = memory from rfl, isOwner, isSome,
        owners, Function.update_self] at owner
      obtain rfl := Option.some.inj owner
      exact ⟨after, number, self, List.mem_append_left _ (newActive isSome), rfl⟩
    · obtain ⟨first, number, isFirst, member, isWord⟩ :=
        follows.owner word one ((ownerOf word isNew).symm.trans owner)
      rcases @getElem?_set_pool pools handle pool after found one first isFirst with
        ⟨rfl, rfl, there⟩ | ⟨-, there⟩
      · refine ⟨after, number, there, ?_, isWord⟩
        rcases List.mem_append.mp member with inUse | wasFree
        · exact List.mem_append_left _ (stillActive inUse)
        · rcases free number wasFree with stays | taken
          · exact List.mem_append_right _ stays
          · exact List.mem_append_left _ (newActive taken)
      · exact ⟨first, number, there, member, isWord⟩

theorem Follows.keeps_eq (follows : users.Follows pools) (found : pools[handle]? = some pool)
    {number : Nat} (live : number ∈ pool.xActive) :
    users.keeps (.rsrc number) = !pool.uiFreeOnFree := by
  rw [keeps, follows.represents.owned handle pool found number live, Option.bind_some,
    follows.represents.struct found]
  rfl

theorem vRsrcFree_free {number : Nat} : (pool.vRsrcFree number).pxFreelist =
    if pool.uiFreeOnFree then pool.pxFreelist else number :: pool.pxFreelist := by
  rw [RsrcPool.vRsrcFree]
  split
  · rfl
  · rfl

theorem mem_active_vRsrcFree {number other : Nat} (member : other ∈ pool.xActive)
    (apart : other ≠ number) : other ∈ (pool.vRsrcFree number).xActive := by
  rw [RsrcPool.vRsrcFree_active]
  exact (List.mem_erase_of_ne apart).mpr member

theorem mem_free_vRsrcFree {number other : Nat} (member : other ∈ pool.pxFreelist) :
    other ∈ (pool.vRsrcFree number).pxFreelist := by
  rw [vRsrcFree_free]
  split
  · exact member
  · exact List.mem_cons_of_mem number member

theorem mem_vRsrcFree_self {number : Nat} (kept : pool.uiFreeOnFree = false) :
    number ∈ (pool.vRsrcFree number).pxFreelist := by
  rw [vRsrcFree_free, kept]
  exact List.mem_cons_self

/-- A free resource of any pool is not one in use. -/
theorem Follows.free_ne_live (follows : users.Follows pools) {one : Nat} {first : RsrcPool}
    (isFirst : pools[one]? = some first) {other : Nat} (free : other ∈ first.pxFreelist)
    (found : pools[handle]? = some pool) {number : Nat} (live : number ∈ pool.xActive) :
    other ≠ number := by
  rintro rfl
  obtain rfl := follows.represents.apart _ _ _ _ isFirst found other
    (List.mem_append_right _ free) (List.mem_append_left _ live)
  obtain rfl := Option.some.inj (isFirst.symm.trans found)
  have nodup := (follows.represents.stands one first found).nodup
  rw [RsrcPool.resources, List.nodup_append'] at nodup
  exact nodup.2.2 live free

theorem Follows.gaveBack (follows : users.Follows pools) (found : pools[handle]? = some pool)
    {number : Nat} (live : number ∈ pool.xActive)
    (represents : memory.Represents (pools.set handle (pool.vRsrcFree number)))
    (isOwner : memory.pxPool =
      if pool.uiFreeOnFree then Function.update users.memory.pxPool (.rsrc number) none
      else users.memory.pxPool) :
    (users.gaveBack (some (.rsrc number)) memory).Follows
      (pools.set handle (pool.vRsrcFree number)) := by
  have self : (pools.set handle (pool.vRsrcFree number))[handle]? =
      some (pool.vRsrcFree number) :=
    List.getElem?_set_self (List.getElem?_eq_some_iff.mp found).1
  have ownerOf (word : RsrcWord) (other : word ≠ .rsrc number) :
      memory.pxPool word = users.memory.pxPool word := by
    rw [isOwner]
    split
    · exact Function.update_of_ne other ..
    · rfl
  constructor
  · exact represents
  · intro word member
    obtain ⟨old, other⟩ := List.mem_filter.mp member
    obtain ⟨one, first, inUse, isFirst, active, rfl⟩ := follows.live word old
    have apart : inUse ≠ number := fun same =>
      of_decide_eq_true other (same ▸ rfl)
    rcases @getElem?_set_pool pools handle pool (pool.vRsrcFree number) found one first isFirst with
      ⟨rfl, rfl, there⟩ | ⟨-, there⟩
    · exact ⟨one, _, inUse, there, mem_active_vRsrcFree active apart, rfl⟩
    · exact ⟨one, first, inUse, there, active, rfl⟩
  · intro word member
    rcases List.mem_append.mp member with new | old
    · obtain ⟨isWord, kept⟩ := List.mem_filter.mp new
      obtain rfl := List.mem_singleton.mp isWord
      rw [follows.keeps_eq found live, Bool.not_eq_true'] at kept
      refine ⟨handle, _, number, self, mem_vRsrcFree_self kept, rfl, ?_⟩
      · rw [show (users.gaveBack (some (.rsrc number)) memory).memory = memory from rfl, isOwner,
          kept]
        exact follows.represents.owned handle pool found number live
    · obtain ⟨one, first, other, isFirst, free, rfl, owner⟩ := follows.freed word old
      have apart := follows.free_ne_live isFirst free found live
      have sameOwner := ownerOf (.rsrc other) fun same => apart (rsrc_injective same)
      rcases @getElem?_set_pool pools handle pool (pool.vRsrcFree number) found one first isFirst
        with ⟨rfl, rfl, there⟩ | ⟨-, there⟩
      · exact ⟨one, _, other, there, mem_free_vRsrcFree free, rfl, sameOwner.trans owner⟩
      · exact ⟨one, first, other, there, free, rfl, sameOwner.trans owner⟩
  · intro word one owner
    by_cases isWord : word = .rsrc number
    · subst isWord
      rw [show (users.gaveBack (some (.rsrc number)) memory).memory = memory from rfl,
        isOwner] at owner
      cases freeOnFree : pool.uiFreeOnFree with
      | true =>
          rw [freeOnFree, if_pos rfl, Function.update_self] at owner
          cases owner
      | false =>
          rw [freeOnFree, if_neg Bool.false_ne_true,
            follows.represents.owned handle pool found number live] at owner
          obtain rfl := Option.some.inj owner
          exact ⟨_, number, self, List.mem_append_right _ (mem_vRsrcFree_self freeOnFree), rfl⟩
    · obtain ⟨first, other, isFirst, member, rfl⟩ :=
        follows.owner word one ((ownerOf word isWord).symm.trans owner)
      have apart : other ≠ number := fun same => isWord (same ▸ rfl)
      rcases @getElem?_set_pool pools handle pool (pool.vRsrcFree number) found one first isFirst
        with ⟨rfl, rfl, there⟩ | ⟨-, there⟩
      · refine ⟨_, other, there, ?_, rfl⟩
        rcases List.mem_append.mp member with inUse | wasFree
        · exact List.mem_append_left _ (mem_active_vRsrcFree inUse apart)
        · exact List.mem_append_right _ (mem_free_vRsrcFree wasFree)
      · exact ⟨first, other, there, member, rfl⟩

section OnMemory

variable {α : Type} {command : EStateM RsrcLinkFault RsrcMemory α} {value : α}

theorem run_onMemory_ok (run : command.run users.memory = .ok value memory) :
    (onMemory command).run users = .ok value { users with memory } := by
  rw [onMemory, run_zoom, run]

theorem run_onMemory_error {fault : RsrcLinkFault}
    (run : command.run users.memory = .error fault memory) :
    (onMemory command).run users = .error fault { users with memory } := by
  rw [onMemory, run_zoom, run]

theorem run_onMemory_eq_ok {next : RsrcUsers} (run : (onMemory command).run users = .ok value next) :
    ∃ memory, command.run users.memory = .ok value memory ∧ next = { users with memory } := by
  cases ran : command.run users.memory with
  | ok other memory =>
      rw [run_onMemory_ok ran] at run
      cases run
      exact ⟨memory, rfl, rfl⟩
  | error fault memory =>
      rw [run_onMemory_error ran] at run
      cases run

end OnMemory

/-- An allocation that returns. -/
theorem run_allocate_eq_ok {command : EStateM RsrcLinkFault RsrcMemory (Option RsrcWord)}
    {pxRsrc : Option RsrcWord} {next : RsrcUsers}
    (run : (allocate command).run users = .ok pxRsrc next) :
    ∃ memory, command.run users.memory = .ok pxRsrc memory ∧ next = users.allocated pxRsrc memory := by
  obtain ⟨taken, middle, returned, run⟩ := run_bind_eq_ok.mp run
  obtain ⟨memory, ran, rfl⟩ := run_onMemory_eq_ok returned
  cases run
  exact ⟨memory, ran, rfl⟩

theorem Follows.varAlloc (follows : users.Follows pools) {heap : RsrcHeap} {handle : Nat}
    {pcRequestor : Option String} {xPayloadLen : Nat} {taken : Option RsrcWord}
    (run : (RsrcMemory.pxRsrcVarAlloc heap handle pcRequestor xPayloadLen).run users.memory =
      .ok taken memory) : ∃ later, (users.allocated taken memory).Follows later := by
  cases found : pools[handle]? with
  | none =>
      have unset : users.memory.pools[handle]? = none := by
        rw [follows.represents.structs, List.getElem?_map, found, Option.map_none]
      rw [RsrcMemory.pxRsrcVarAlloc, run_bind_error (RsrcMemory.run_readPool_unset unset)] at run
      cases run
  | some pool =>
      rcases follows.represents.varAlloc found heap pcRequestor xPayloadLen with
        ⟨-, last, aborts⟩ | ⟨number, after, later, changed, -, returns, represents, active, free,
          owner⟩
      · rw [aborts] at run
        cases run
      · rw [returns] at run
        cases run
        exact ⟨_, follows.allocated found represents active free owner⟩

theorem Follows.alloc (follows : users.Follows pools) {heap : RsrcHeap} {handle : Nat}
    {pcRequestor : Option String} {taken : Option RsrcWord}
    (run : (RsrcMemory.pxRsrcAlloc heap handle pcRequestor).run users.memory = .ok taken memory) :
    ∃ later, (users.allocated taken memory).Follows later := by
  obtain ⟨pxPool, middle, read, run⟩ := run_bind_eq_ok.mp run
  cases found : users.memory.pools[handle]? with
  | none =>
      rw [RsrcMemory.run_readPool_unset found] at read
      cases read
  | some pool =>
      rw [RsrcMemory.run_readPool found] at read
      cases read
      exact follows.varAlloc run

/-- A call that returns leaves pools that are followed. -/
theorem Follows.perform (follows : users.Follows pools) (call : LinkedCall)
    {pxRsrc : Option RsrcWord} {next : RsrcUsers}
    (run : (perform call).run users = .ok pxRsrc next) : ∃ later, next.Follows later := by
  cases call with
  | initPool heap pcName xRsrcSize uiInitAlloc uiIncrement uiMaxNumRes =>
      obtain ⟨count, middle, returned, run⟩ := run_bind_eq_ok.mp run
      obtain ⟨memory, ran, rfl⟩ := run_onMemory_eq_ok returned
      cases run
      rcases follows.represents.initPool heap pcName xRsrcSize uiInitAlloc uiIncrement
        uiMaxNumRes with ⟨-, last, aborts⟩ | ⟨_, pool, _, changed, -, returns, represents, -, owners⟩
      · rw [aborts] at ran
        cases ran
      · rw [returns] at ran
        cases ran
        exact ⟨_, follows.initPool represents owners⟩
  | alloc heap handle pcRequestor =>
      obtain ⟨memory, ran, rfl⟩ := run_allocate_eq_ok run
      exact follows.alloc ran
  | varAlloc heap handle pcRequestor xPayloadLen =>
      obtain ⟨memory, ran, rfl⟩ := run_allocate_eq_ok run
      exact follows.varAlloc ran
  | free pvResPayload =>
      obtain ⟨before, middle, got, run⟩ := run_bind_eq_ok.mp run
      cases got
      obtain ⟨_, middle, returned, run⟩ := run_bind_eq_ok.mp run
      obtain ⟨memory, ran, rfl⟩ := run_onMemory_eq_ok returned
      cases run
      cases pvResPayload with
      | none =>
          cases ran
          exact ⟨pools, follows.represents, fun word member =>
            follows.live word (List.mem_filter.mp member).1, follows.freed, follows.owner⟩
      | some word =>
          cases owner : users.memory.pxPool word with
          | none =>
              rw [RsrcMemory.vRsrcFree, EStateM.run_bind, EStateM.run_get] at ran
              simp only [owner, run_throw] at ran
              cases ran
          | some handle =>
              obtain ⟨pool, number, found, member, rfl⟩ := follows.owner word handle owner
              rcases List.mem_append.mp member with live | free
              · obtain ⟨changed, returns, represents, isOwner⟩ :=
                  follows.represents.free_live found live
                rw [returns] at ran
                cases ran
                exact ⟨_, follows.gaveBack found live represents isOwner⟩
              · rw [follows.represents.free_again found free owner] at ran
                cases ran

theorem Follows.detects (follows : users.Follows pools) (call : LinkedCall) :
    users.Detects call ((RsrcUsers.perform call).run users) := by
  rintro pxRsrc rfl
  constructor
  · intro member
    obtain ⟨handle, pool, number, found, free, rfl, owner⟩ := follows.freed pxRsrc member
    have run := run_onMemory_error (follows.represents.free_again found free owner)
    rw [RsrcUsers.perform, EStateM.run_bind, EStateM.run_get]
    exact run_bind_error run _
  · intro member
    obtain ⟨handle, pool, number, found, live, rfl⟩ := follows.live pxRsrc member
    obtain ⟨changed, run, -⟩ := follows.represents.free_live found live
    refine ⟨users.gaveBack (some (.rsrc number)) changed, ?_⟩
    rw [RsrcUsers.perform, EStateM.run_bind, EStateM.run_get]
    exact run_bind_ok (run_onMemory_ok run) _

end Runs

/-- In every run of creations, allocations and frees each free of a resource that was given
back to a pool which keeps it is found before anything is changed, and no free of a
resource in use is taken for one. -/
theorem double_free_detected (calls : List LinkedCall) :
    ∀ occurrence ∈ Trace.trace perform calls startup,
      occurrence.before.Detects occurrence.event occurrence.result := by
  revert calls
  rw [Trace.forall_trace_iff Detects]
  intro users reached call
  have follows : ∃ pools, users.Follows pools := by
    apply reached.invariant (fun users : RsrcUsers => ∃ pools, users.Follows pools)
      ⟨[], follows_startup⟩
    rintro before call value next ⟨pools, follows⟩ run
    exact follows.perform call run
  obtain ⟨pools, follows⟩ := follows
  exact follows.detects call

/-- A resource of a pool is given back and then freed again. -/
theorem double_free_detected_twice :
    ∃ before : RsrcUsers, .rsrc 1 ∈ before.freed ∧
      before.Detects (.free (some (.rsrc 1))) ((perform (.free (some (.rsrc 1)))).run before) := by
  have detected := double_free_detected
    [.initPool ⟨true, true⟩ "names" 8 2 2 0, .alloc ⟨true, true⟩ 0 (some "user"),
      .free (some (.rsrc 1)), .free (some (.rsrc 1))] _
    (Trace.mem_trace_cons.mpr (.inr ⟨_, _, rfl,
      Trace.mem_trace_cons.mpr (.inr ⟨_, _, rfl,
        Trace.mem_trace_cons.mpr (.inr ⟨_, _, rfl,
          Trace.mem_trace_cons.mpr (.inl rfl)⟩)⟩)⟩))
  exact ⟨_, List.mem_cons_self, detected⟩

end RsrcUsers

end RinaSense
