import RinaSense.Common.NameText
import RinaSense.Ipcp.State

/-!
# Copies of names

Duplicating names in memory, in `rina_name.c`, where any allocation may fail. The test for the
success of a component is reversed, so the first component copied ends a copy, and what it has
made is taken back.
-/

namespace RinaSense

open Command

abbrev StringId := Nat
abbrev NameId := Nat

/-- `name_t` with the pointers to its strings. -/
abbrev NamePointers := NameInfo (Option StringId)

inductive NameComponent where
  | processName
  | processInstance
  | entityName
  | entityInstance
  deriving Repr, DecidableEq

namespace NameComponent

/-- The components in the order of the struct. -/
def all : List NameComponent := [processName, processInstance, entityName, entityInstance]

theorem mem_all (component : NameComponent) : component ∈ all := by
  cases component <;> decide

end NameComponent

namespace NameInfo

variable {α : Type}

def get (name : NameInfo α) : NameComponent → α
  | .processName => name.pcProcessName
  | .processInstance => name.pcProcessInstance
  | .entityName => name.pcEntityName
  | .entityInstance => name.pcEntityInstance

def put (name : NameInfo α) (value : α) : NameComponent → NameInfo α
  | .processName => { name with pcProcessName := value }
  | .processInstance => { name with pcProcessInstance := value }
  | .entityName => { name with pcEntityName := value }
  | .entityInstance => { name with pcEntityInstance := value }

theorem get_put (name : NameInfo α) (value : α) (component other : NameComponent) :
    (name.put value component).get other = if other = component then value else name.get other := by
  cases component <;> cases other <;> rfl

@[simp] theorem get_map {β : Type} (f : α → β) (name : NameInfo α) (component : NameComponent) :
    (name.map f).get component = f (name.get component) := by
  cases component <;> rfl

@[ext] theorem ext_get {name other : NameInfo α}
    (same : ∀ component, name.get component = other.get component) : name = other := by
  cases name
  cases other
  have first := same .processName
  have second := same .processInstance
  have third := same .entityName
  have fourth := same .entityInstance
  simp only [get] at first second third fourth
  rw [first, second, third, fourth]

end NameInfo

/-- A name after `memset`. -/
def NamePointers.absent : NamePointers := ⟨none, none, none, none⟩

/-- The strings and names in memory, and how often memory was asked for. Which of the
allocations yield a block is a parameter of what allocates. -/
structure NameHeap where
  strings : Store CText
  names : Store NamePointers
  allocations : Nat

abbrev NameMemory := EStateM Fault NameHeap

namespace NamePointers

/-- The string is one of a name's. -/
def Owns (name : NamePointers) (string : StringId) : Prop :=
  ∃ component ∈ NameComponent.all, name.get component = some string

instance (name : NamePointers) : DecidablePred name.Owns :=
  fun string => inferInstanceAs (Decidable (∃ component ∈ _, name.get component = some string))

theorem owns_of_get {name : NamePointers} {component : NameComponent} {string : StringId}
    (held : name.get component = some string) : name.Owns string :=
  ⟨component, component.mem_all, held⟩

theorem get_absent (component : NameComponent) : absent.get component = none := by
  cases component <;> rfl

theorem not_owns_absent (string : StringId) : ¬ absent.Owns string := by
  rintro ⟨component, -, held⟩
  rw [get_absent] at held
  cases held

end NamePointers

namespace NameHeap

/-- The texts of a name's components. -/
def contents (heap : NameHeap) (name : NamePointers) : Name :=
  name.map fun string => string.bind heap.strings.get?

/-- A name in use, each component a string of its own. -/
structure Holds (heap : NameHeap) (n : NameId) (name : NamePointers) : Prop where
  found : heap.names.get? n = some name
  live : ∀ string, name.Owns string → ∃ text, heap.strings.get? string = some text
  unshared : ∀ component other string, name.get component = some string →
    name.get other = some string → component = other

end NameHeap

/-! ## Memory -/

section Operations

variable (memory : Nat → Bool)

def pvRsMemAlloc : NameMemory Bool := do
  let heap ← get
  set { heap with allocations := heap.allocations + 1 }
  return memory heap.allocations

def readName (name : NameId) : NameMemory NamePointers := do
  match (← get).names.get? name with
  | some pointers => return pointers
  | none => throw .released

def writeName (name : NameId) (pointers : NamePointers) : NameMemory Unit :=
  modify fun heap => { heap with names := heap.names.set name pointers }

/-- `vRsMemFree` of a string. -/
def freeString (string : StringId) : NameMemory Unit := do
  let heap ← get
  match heap.strings.get? string with
  | some _ => set { heap with strings := heap.strings.free string }
  | none => throw .released

/-! ## Strings -/

/-- The block is cleared before the pointer to it is looked at. -/
def pcRstrDup (s : Option StringId) : NameMemory (Option StringId) := do
  match s with
  | none => return none
  | some s =>
      match (← get).strings.get? s with
      | none => throw .released
      | some text =>
          if !(← pvRsMemAlloc memory) then throw .nullPointer
          let heap ← get
          set { heap with strings := (heap.strings.allocate text).1 }
          return some heap.strings.next

/-- The result and what is written to the destination. -/
def xRstringDup (pxSrc : Option StringId) : NameMemory (Bool × Option StringId) := do
  match pxSrc with
  | none => return (true, none)
  | some pxSrc =>
      let pxDst ← pcRstrDup memory (some pxSrc)
      return (pxDst.isSome, pxDst)

/-! ## Names -/

def freeComponent (n : NameId) (component : NameComponent) : NameMemory PUnit := do
  let name ← readName n
  match name.get component with
  | none => return
  | some string =>
      freeString string
      writeName n (name.put none component)

def vRstrNameFini (n : NameId) : NameMemory PUnit := sequence (freeComponent n) NameComponent.all

/-- `xRstringDup` of a component into the same one of another name. -/
def dupComponent (pxSrc pxDst : NameId) (component : NameComponent) : NameMemory Bool := do
  let (done, copy) ← xRstringDup memory ((← readName pxSrc).get component)
  writeName pxDst ((← readName pxDst).put copy component)
  return done

/-- The operands of a disjunction, up to the first that is true. -/
def dupAny (pxSrc pxDst : NameId) : List NameComponent → NameMemory Bool
  | [] => return false
  | component :: components => do
      if ← dupComponent memory pxSrc pxDst component then return true
      dupAny pxSrc pxDst components

def xRstrNameCpy (pxSrc pxDst : Option NameId) : NameMemory Bool := do
  match pxSrc, pxDst with
  | some pxSrc, some pxDst =>
      vRstrNameFini pxDst
      if ← dupAny memory pxSrc pxDst NameComponent.all then
        vRstrNameFini pxDst
        return false
      return true
  | _, _ => return false

def pxRStrNameCreate : NameMemory (Option NameId) := do
  if !(← pvRsMemAlloc memory) then return none
  let heap ← get
  set { heap with names := (heap.names.allocate .absent).1 }
  return some heap.names.next

def vRstrNameDestroy (pxName : NameId) : NameMemory Unit := do
  vRstrNameFini pxName
  modify fun heap => { heap with names := heap.names.free pxName }

def pxRstrNameDup (pxSrc : Option NameId) : NameMemory (Option NameId) := do
  match pxSrc with
  | none => return none
  | some pxSrc =>
      match ← pxRStrNameCreate memory with
      | none => return none
      | some pxTmp =>
          if ← xRstrNameCpy memory (some pxSrc) (some pxTmp) then
            vRstrNameDestroy pxTmp
            return none
          return some pxTmp

end Operations

/-! ## Releasing components -/

section Releasing

variable {heap : NameHeap} {n : NameId} {name : NamePointers}

theorem run_getHeap (heap : NameHeap) :
    (get : NameMemory NameHeap).run heap = .ok heap heap := rfl

theorem run_readName (found : heap.names.get? n = some name) :
    (readName n).run heap = .ok name heap := by
  rw [readName, run_bind_ok (run_getHeap heap)]
  simp only [found]
  rfl

/-- What is left of a name after some of its components were released. -/
structure ComponentsReleased (heap : NameHeap) (n : NameId) (name : NamePointers)
    (components : List NameComponent) (next : NameHeap) : Prop where
  held : ∃ rest, next.Holds n rest ∧
    ∀ component, rest.get component = if component ∈ components then none else name.get component
  others : ∀ other, other ≠ n → next.names.get? other = heap.names.get? other
  strings : ∀ string, next.strings.get? string =
    if ∃ component ∈ components, name.get component = some string then none
    else heap.strings.get? string
  allocations : next.allocations = heap.allocations

theorem run_freeComponent (holds : heap.Holds n name) (component : NameComponent) :
    ∃ next, (freeComponent n component).run heap = .ok ⟨⟩ next ∧
      ComponentsReleased heap n name [component] next := by
  rw [freeComponent, run_bind_ok (run_readName holds.found)]
  cases held : name.get component with
  | none =>
      refine ⟨heap, rfl, ⟨name, holds, fun other => ?_⟩, fun _ _ => rfl, fun string => ?_, rfl⟩
      · by_cases same : other = component
        · rw [same, held, ite_self]
        · rw [if_neg fun member => same (List.mem_singleton.mp member)]
      · rw [if_neg]
        rintro ⟨other, member, found⟩
        rw [List.mem_singleton.mp member, held] at found
        cases found
  | some string =>
      obtain ⟨text, live⟩ := holds.live string (NamePointers.owns_of_get held)
      have freed : (freeString string).run heap =
          .ok ⟨⟩ { heap with strings := heap.strings.free string } := by
        rw [freeString, run_bind_ok (run_getHeap heap)]
        simp only [live]
        rfl
      refine ⟨_, (run_bind_ok freed _).trans rfl, ⟨name.put none component, ⟨?_, ?_, ?_⟩, ?_⟩, ?_,
        ?_, rfl⟩
      · exact Store.get?_set_self holds.found _
      · rintro other ⟨place, -, found⟩
        rw [NameInfo.get_put] at found
        split at found
        · cases found
        · next apart =>
            have different : other ≠ string :=
              fun same => apart (holds.unshared _ _ _ found (same ▸ held))
            rw [Store.get?_free_of_ne _ different]
            exact holds.live other (NamePointers.owns_of_get found)
      · intro first second other foundFirst foundSecond
        rw [NameInfo.get_put] at foundFirst foundSecond
        split at foundFirst
        · cases foundFirst
        · split at foundSecond
          · cases foundSecond
          · exact holds.unshared _ _ _ foundFirst foundSecond
      · intro other
        rw [NameInfo.get_put]
        simp only [List.mem_singleton]
      · intro other different
        exact Store.get?_set_of_ne _ different _
      · intro other
        simp only [List.mem_singleton, exists_eq_left, held, Option.some.injEq]
        split
        · next same => rw [← same, Store.get?_free_self]
        · next different => exact Store.get?_free_of_ne _ (Ne.symm different)

/-- Releasing components one after another. -/
theorem run_freeComponents (components : List NameComponent) (holds : heap.Holds n name) :
    ∃ next, (sequence (freeComponent n) components).run heap = .ok ⟨⟩ next ∧
      ComponentsReleased heap n name components next := by
  induction components generalizing heap name with
  | nil =>
      refine ⟨heap, rfl, ⟨name, holds, fun _ => ?_⟩, fun _ _ => rfl, fun _ => ?_, rfl⟩
      · rw [if_neg List.not_mem_nil]
      · rw [if_neg fun ⟨_, member, _⟩ => List.not_mem_nil member]
  | cons component components ih =>
      obtain ⟨middle, first, released⟩ := run_freeComponent holds component
      obtain ⟨left, heldMiddle, gets⟩ := released.held
      simp only [List.mem_singleton] at gets
      obtain ⟨next, others, releasedAll⟩ := ih heldMiddle
      refine ⟨next, (run_bind_ok first _).trans others, ?_, fun other different => ?_,
        fun string => ?_, ?_⟩
      · obtain ⟨rest, heldNext, getsRest⟩ := releasedAll.held
        refine ⟨rest, heldNext, fun place => ?_⟩
        rw [getsRest, gets]
        simp only [List.mem_cons]
        by_cases here : place = component
        · simp only [here, if_true, ite_self, true_or]
        · simp only [here, if_false, false_or]
      · rw [releasedAll.others other different, released.others other different]
      · rw [releasedAll.strings, released.strings]
        simp only [gets, List.mem_cons, exists_eq_or_imp]
        by_cases here : name.get component = some string
        · simp only [here, if_true, ite_self, true_or]
        · simp only [here, false_or]
          congr 1
          apply propext
          constructor
          · rintro ⟨place, member, found⟩
            split at found
            · cases found
            · exact ⟨place, member, found⟩
          · rintro ⟨place, member, found⟩
            refine ⟨place, member, ?_⟩
            rw [if_neg]
            · exact found
            · rintro rfl
              exact here found
      · rw [releasedAll.allocations, released.allocations]

/-- A name emptied and its strings released. -/
structure Emptied (heap : NameHeap) (n : NameId) (name : NamePointers)
    (next : NameHeap) : Prop where
  held : next.Holds n .absent
  others : ∀ other, other ≠ n → next.names.get? other = heap.names.get? other
  strings : ∀ string, next.strings.get? string =
    if name.Owns string then none else heap.strings.get? string
  allocations : next.allocations = heap.allocations

theorem run_vRstrNameFini (holds : heap.Holds n name) :
    ∃ next, (vRstrNameFini n).run heap = .ok ⟨⟩ next ∧ Emptied heap n name next := by
  obtain ⟨next, run, released⟩ := run_freeComponents NameComponent.all holds
  obtain ⟨rest, held, gets⟩ := released.held
  have empty : rest = .absent := by
    apply NameInfo.ext_get
    intro component
    rw [gets, if_pos component.mem_all, NamePointers.get_absent]
  exact ⟨next, run, empty ▸ held, released.others, released.strings, released.allocations⟩

end Releasing

/-! ## Copying -/

/-- What a copy of a name into another leaves: with `true` the other is an equal name of its own,
with `false` it is empty, and besides its old strings nothing is lost or left over. -/
structure CopiedInto (heap : NameHeap) (source : NamePointers) (pxDst : NameId)
    (destination : NamePointers) (result : Bool) (next : NameHeap) : Prop where
  held : ∃ copy, next.Holds pxDst copy ∧
    (∀ string, copy.Owns string → ¬ source.Owns string) ∧
    (if result = true then next.contents copy = heap.contents source else copy = .absent) ∧
    ∀ string, ¬ copy.Owns string → next.strings.get? string =
      if destination.Owns string then none else heap.strings.get? string
  others : ∀ other, other ≠ pxDst → next.names.get? other = heap.names.get? other

/-- What a duplicate of a name leaves: an equal name of its own, or no name, and nothing else. -/
def Duplicated (heap : NameHeap) (source : NamePointers) (result : Option NameId)
    (next : NameHeap) : Prop :=
  match result with
  | some duplicate =>
      heap.names.get? duplicate = none ∧
      (∃ copy, next.Holds duplicate copy ∧
        (∀ string, copy.Owns string → ¬ source.Owns string) ∧
        next.contents copy = heap.contents source ∧
        ∀ string, ¬ copy.Owns string → next.strings.get? string = heap.strings.get? string) ∧
      ∀ other, other ≠ duplicate → next.names.get? other = heap.names.get? other
  | none =>
      (∀ string, next.strings.get? string = heap.strings.get? string) ∧
      ∀ other, next.names.get? other = heap.names.get? other

/-- The heap after a copy that ended with its first component. -/
structure Undone (heap : NameHeap) (pxDst : NameId) (destination : NamePointers)
    (next : NameHeap) : Prop where
  held : next.Holds pxDst .absent
  others : ∀ other, other ≠ pxDst → next.names.get? other = heap.names.get? other
  strings : ∀ string, next.strings.get? string =
    if destination.Owns string then none else heap.strings.get? string

section Copying

variable {heap : NameHeap} {pxSrc pxDst : NameId} {source destination : NamePointers}
  (memory : Nat → Bool)

theorem run_pvRsMemAlloc (heap : NameHeap) : (pvRsMemAlloc memory).run heap =
    .ok (memory heap.allocations) { heap with allocations := heap.allocations + 1 } := rfl

theorem run_xRstringDup_granted {string : StringId} {text : CText}
    (live : heap.strings.get? string = some text) (granted : memory heap.allocations = true) :
    (xRstringDup memory (some string)).run heap =
      .ok (true, some heap.strings.next)
        { heap with
          strings := (heap.strings.allocate text).1
          allocations := heap.allocations + 1 } := by
  have copied : (pcRstrDup memory (some string)).run heap =
      .ok (some heap.strings.next)
        { heap with
          strings := (heap.strings.allocate text).1
          allocations := heap.allocations + 1 } := by
    rw [pcRstrDup, run_bind_ok (run_getHeap heap)]
    simp only [live]
    rw [run_bind_ok (run_pvRsMemAlloc memory heap),
      granted]
    rfl
  rw [xRstringDup, run_bind_ok copied]
  rfl

theorem run_xRstringDup_refused {string : StringId} {text : CText}
    (live : heap.strings.get? string = some text) (refused : memory heap.allocations = false) :
    (xRstringDup memory (some string)).run heap =
      .error .nullPointer { heap with allocations := heap.allocations + 1 } := by
  have faulted : (pcRstrDup memory (some string)).run heap =
      .error .nullPointer { heap with allocations := heap.allocations + 1 } := by
    rw [pcRstrDup, run_bind_ok (run_getHeap heap)]
    simp only [live]
    rw [run_bind_ok (run_pvRsMemAlloc memory heap),
      refused]
    rfl
  rw [xRstringDup, run_bind_error faulted]

/-- A component copied into an empty name. -/
structure ComponentCopied (heap : NameHeap) (pxDst : NameId) (component : NameComponent)
    (copy : Option StringId) (next : NameHeap) : Prop where
  held : next.Holds pxDst (NamePointers.absent.put copy component)
  others : ∀ other, other ≠ pxDst → next.names.get? other = heap.names.get? other
  fresh : ∀ string, copy = some string → heap.strings.get? string = none
  strings : ∀ string, copy ≠ some string → next.strings.get? string = heap.strings.get? string

theorem get_absent_put {copy : Option StringId} {component other : NameComponent}
    {string : StringId} (held : (NamePointers.absent.put copy component).get other = some string) :
    other = component ∧ copy = some string := by
  rw [NameInfo.get_put] at held
  split at held
  · next same => exact ⟨same, held⟩
  · rw [NamePointers.get_absent] at held
    cases held

theorem run_dupComponent {component : NameComponent} (held : heap.Holds pxSrc source)
    (empty : heap.Holds pxDst .absent)
    (granted : source.get component = none ∨ memory heap.allocations = true) :
    ∃ copy next, (dupComponent memory pxSrc pxDst component).run heap = .ok true next ∧
      ComponentCopied heap pxDst component copy next := by
  rw [dupComponent, run_bind_ok (run_readName held.found)]
  cases present : source.get component with
  | none =>
      rw [run_bind_ok (show (xRstringDup memory none).run heap = .ok (true, none) heap from rfl)]
      simp only
      rw [run_bind_ok (run_readName empty.found)]
      refine ⟨none, _, rfl, ⟨Store.get?_set_self empty.found _, ?_, ?_⟩, ?_, ?_, fun _ _ => rfl⟩
      · rintro string ⟨other, -, owned⟩
        cases (get_absent_put owned).2
      · intro first second string foundFirst
        cases (get_absent_put foundFirst).2
      · exact fun other different => Store.get?_set_of_ne _ different _
      · rintro string ⟨⟩
  | some string =>
      obtain ⟨text, live⟩ := held.live string (NamePointers.owns_of_get present)
      have memoryThere : memory heap.allocations = true :=
        granted.resolve_left fun none => by rw [present] at none; cases none
      rw [run_bind_ok (run_xRstringDup_granted memory live memoryThere)]
      have read : (readName pxDst).run { heap with
          strings := (heap.strings.allocate text).1, allocations := heap.allocations + 1 } =
            .ok .absent _ := run_readName empty.found
      simp only
      rw [run_bind_ok read]
      refine ⟨some heap.strings.next, _, rfl, ⟨Store.get?_set_self empty.found _, ?_, ?_⟩, ?_, ?_,
        ?_⟩
      · rintro other ⟨place, -, owned⟩
        obtain rfl := Option.some.inj (get_absent_put owned).2
        exact ⟨text, Store.get?_allocate_new _ _⟩
      · intro first second other foundFirst foundSecond
        rw [(get_absent_put foundFirst).1, (get_absent_put foundSecond).1]
      · exact fun other different => Store.get?_set_of_ne _ different _
      · rintro other ⟨⟩
        exact Store.get?_next _
      · intro other different
        exact Store.get?_allocate_of_ne _ _ fun same => different (same ▸ rfl)

/-- The destination emptied before a copy. -/
theorem Emptied.held_of_apart {next : NameHeap} (emptied : Emptied heap pxDst destination next)
    (held : heap.Holds pxSrc source) (apart : pxSrc ≠ pxDst)
    (unshared : ∀ string, source.Owns string → ¬ destination.Owns string) :
    next.Holds pxSrc source where
  found := (emptied.others _ apart).trans held.found
  live := by
    intro string owned
    rw [emptied.strings, if_neg (unshared string owned)]
    exact held.live string owned
  unshared := held.unshared

/-- The second release of the destination takes back the component that was copied. -/
theorem run_xRstrNameCpy (held : heap.Holds pxSrc source) (heldDst : heap.Holds pxDst destination)
    (apart : pxSrc ≠ pxDst) (unshared : ∀ string, source.Owns string → ¬ destination.Owns string)
    (granted : source.pcProcessName = none ∨ memory heap.allocations = true) :
    ∃ next, (xRstrNameCpy memory (some pxSrc) (some pxDst)).run heap = .ok false next ∧
      Undone heap pxDst destination next := by
  obtain ⟨emptied, first, isEmptied⟩ := run_vRstrNameFini heldDst
  obtain ⟨copy, copied, dup, isCopied⟩ := @run_dupComponent emptied pxSrc pxDst source memory
    .processName (isEmptied.held_of_apart held apart unshared) isEmptied.held
    (isEmptied.allocations.symm ▸ granted)
  obtain ⟨next, last, isUndone⟩ := run_vRstrNameFini isCopied.held
  have stopped : (dupAny memory pxSrc pxDst NameComponent.all).run emptied = .ok true copied := by
    rw [NameComponent.all, dupAny, run_bind_ok dup]
    rfl
  refine ⟨next, ?_, isUndone.held, fun other different => ?_, fun string => ?_⟩
  · rw [xRstrNameCpy, run_bind_ok first, run_bind_ok stopped, if_pos rfl, run_bind_ok last]
    rfl
  · rw [isUndone.others other different, isCopied.others other different,
      isEmptied.others other different]
  · rw [isUndone.strings, ← isEmptied.strings]
    split
    · next owned =>
        obtain ⟨component, -, here⟩ := owned
        exact (isCopied.fresh string (get_absent_put here).2).symm
    · next free =>
        apply isCopied.strings
        rintro rfl
        exact free (NamePointers.owns_of_get (NameInfo.get_put _ _ .processName .processName))

/-- Where the first component is not copied, its block is cleared all the same. -/
theorem run_xRstrNameCpy_refused (held : heap.Holds pxSrc source)
    (heldDst : heap.Holds pxDst destination) (apart : pxSrc ≠ pxDst)
    (unshared : ∀ string, source.Owns string → ¬ destination.Owns string)
    (present : source.pcProcessName ≠ none) (refused : memory heap.allocations = false) :
    ∃ next, (xRstrNameCpy memory (some pxSrc) (some pxDst)).run heap =
      .error .nullPointer next := by
  obtain ⟨emptied, first, isEmptied⟩ := run_vRstrNameFini heldDst
  have heldNow := isEmptied.held_of_apart held apart unshared
  obtain ⟨string, here⟩ := Option.ne_none_iff_exists'.mp present
  obtain ⟨text, live⟩ := heldNow.live string
    (@NamePointers.owns_of_get source .processName string here)
  have faulted : (dupComponent memory pxSrc pxDst .processName).run emptied =
      .error .nullPointer { emptied with allocations := emptied.allocations + 1 } := by
    rw [dupComponent, run_bind_ok (run_readName heldNow.found), NameInfo.get, here,
      run_bind_error (run_xRstringDup_refused memory live (isEmptied.allocations ▸ refused))]
  refine ⟨{ emptied with allocations := emptied.allocations + 1 }, ?_⟩
  rw [xRstrNameCpy, run_bind_ok first, NameComponent.all, dupAny,
    run_bind_error (run_bind_error faulted _)]

/-! ## Duplicating -/

/-- Memory for the name of a duplicate. -/
theorem run_pxRStrNameCreate (granted : memory heap.allocations = true) :
    (pxRStrNameCreate memory).run heap = .ok (some heap.names.next)
      { heap with
        names := (heap.names.allocate .absent).1
        allocations := heap.allocations + 1 } := by
  rw [pxRStrNameCreate,
    run_bind_ok (run_pvRsMemAlloc memory heap), granted]
  rfl

/-- A name that was cleared has no strings. -/
theorem holds_absent {n : NameId} (found : heap.names.get? n = some .absent) :
    heap.Holds n .absent where
  found := found
  live := fun string owned => absurd owned (NamePointers.not_owns_absent string)
  unshared := by
    intro component other string held
    rw [NamePointers.get_absent] at held
    cases held

theorem holds_allocate_absent (heap : NameHeap) (allocations : Nat) :
    ({ heap with names := (heap.names.allocate .absent).1, allocations := allocations } :
      NameHeap).Holds heap.names.next .absent :=
  holds_absent (Store.get?_allocate_new _ _)

theorem holds_allocate {name : NamePointers} {n : NameId} (held : heap.Holds n name)
    (allocations : Nat) :
    ({ heap with names := (heap.names.allocate .absent).1, allocations := allocations } :
      NameHeap).Holds n name where
  found := (Store.get?_allocate_of_lt _ _ (Store.lt_next held.found)).trans held.found
  live := held.live
  unshared := held.unshared

/-- A duplicate that is returned is empty. -/
theorem run_pxRstrNameDup (held : heap.Holds pxSrc source)
    (granted : memory heap.allocations = true)
    (first : source.pcProcessName = none ∨ memory (heap.allocations + 1) = true) :
    ∃ next, (pxRstrNameDup memory (some pxSrc)).run heap = .ok (some heap.names.next) next ∧
      next.Holds heap.names.next .absent ∧
      (∀ string, next.strings.get? string = heap.strings.get? string) ∧
      ∀ other, other ≠ heap.names.next → next.names.get? other = heap.names.get? other := by
  obtain ⟨next, copied, undone⟩ := run_xRstrNameCpy memory
    (holds_allocate held (heap.allocations + 1)) (holds_allocate_absent heap (heap.allocations + 1))
    (Store.lt_next held.found).ne (fun string _ => NamePointers.not_owns_absent string) first
  refine ⟨next, ?_, undone.held, fun string => ?_, fun other different => ?_⟩
  · rw [pxRstrNameDup, run_bind_ok (run_pxRStrNameCreate memory granted)]
    simp only
    rw [run_bind_ok copied]
    rfl
  · rw [undone.strings, if_neg (NamePointers.not_owns_absent string)]
  · rw [undone.others other different]
    exact Store.get?_allocate_of_ne _ _ different

theorem run_pxRstrNameDup_refused (held : heap.Holds pxSrc source)
    (granted : memory heap.allocations = true) (present : source.pcProcessName ≠ none)
    (refused : memory (heap.allocations + 1) = false) :
    ∃ next, (pxRstrNameDup memory (some pxSrc)).run heap = .error .nullPointer next := by
  obtain ⟨next, faulted⟩ := run_xRstrNameCpy_refused memory
    (holds_allocate held (heap.allocations + 1)) (holds_allocate_absent heap (heap.allocations + 1))
    (Store.lt_next held.found).ne (fun string _ => NamePointers.not_owns_absent string) present
    refused
  refine ⟨next, ?_⟩
  rw [pxRstrNameDup, run_bind_ok (run_pxRStrNameCreate memory granted)]
  simp only
  rw [run_bind_error faulted]

/-- Only a name without components has the contents of an empty one. -/
theorem contents_eq_absent_iff (held : heap.Holds pxSrc source) (next : NameHeap) :
    next.contents .absent = heap.contents source ↔ source = .absent := by
  constructor
  · intro same
    apply NameInfo.ext_get
    intro component
    rw [NamePointers.get_absent]
    cases here : source.get component with
    | none => rfl
    | some string =>
        obtain ⟨text, live⟩ := held.live string (NamePointers.owns_of_get here)
        have equal := congrArg (fun name => NameInfo.get name component) same
        simp only [NameHeap.contents, NameInfo.get_map, NamePointers.get_absent, here,
          Option.bind_none, Option.bind_some, live] at equal
        cases equal
  · rintro rfl
    rfl

/-! ## Both operations -/

theorem wp_xRstrNameCpy_iff (held : heap.Holds pxSrc source)
    (heldDst : heap.Holds pxDst destination) (apart : pxSrc ≠ pxDst)
    (unshared : ∀ string, source.Owns string → ¬ destination.Owns string) :
    Wp (xRstrNameCpy memory (some pxSrc) (some pxDst))
        (CopiedInto heap source pxDst destination) heap ↔
      source.pcProcessName = none ∨ memory heap.allocations = true := by
  constructor
  · intro copies
    by_contra neither
    obtain ⟨present, refused⟩ := not_or.mp neither
    obtain ⟨next, faulted⟩ := run_xRstrNameCpy_refused memory held heldDst apart unshared present
      (Bool.eq_false_of_not_eq_true refused)
    rw [Wp, faulted] at copies
    exact copies
  · intro granted
    obtain ⟨next, returned, undone⟩ := run_xRstrNameCpy memory held heldDst apart unshared granted
    rw [Wp, returned]
    refine ⟨⟨.absent, undone.held, fun string owned => ?_, ?_,
      fun string _ => undone.strings string⟩, undone.others⟩
    · exact absurd owned (NamePointers.not_owns_absent string)
    · rw [if_neg Bool.false_ne_true]

theorem wp_pxRstrNameDup_iff (held : heap.Holds pxSrc source) :
    Wp (pxRstrNameDup memory (some pxSrc)) (Duplicated heap source) heap ↔
      memory heap.allocations = false ∨ source = .absent := by
  cases granted : memory heap.allocations with
  | false =>
      have nothing : (pxRstrNameDup memory (some pxSrc)).run heap =
          .ok none { heap with allocations := heap.allocations + 1 } := by
        rw [pxRstrNameDup, pxRStrNameCreate, bind_assoc,
          run_bind_ok (run_pvRsMemAlloc memory heap),
          granted]
        rfl
      rw [Wp, nothing]
      exact iff_of_true ⟨fun _ => rfl, fun _ => rfl⟩ (.inl rfl)
  | true =>
      by_cases first : source.pcProcessName = none ∨ memory (heap.allocations + 1) = true
      · obtain ⟨next, returned, empty, strings, others⟩ :=
          run_pxRstrNameDup memory held granted first
        rw [Wp, returned]
        simp only [Duplicated, Bool.true_eq_false, false_or]
        rw [← contents_eq_absent_iff held next]
        constructor
        · rintro ⟨-, ⟨copy, heldCopy, -, same, -⟩, -⟩
          obtain rfl : NamePointers.absent = copy :=
            Option.some.inj (empty.found.symm.trans heldCopy.found)
          exact same
        · intro same
          refine ⟨Store.get?_next _, ⟨.absent, empty, fun string owned => ?_, same, fun string _ =>
            strings string⟩, others⟩
          exact absurd owned (NamePointers.not_owns_absent string)
      · obtain ⟨present, refused⟩ := not_or.mp first
        obtain ⟨next, faulted⟩ := run_pxRstrNameDup_refused memory held granted present
          (Bool.eq_false_of_not_eq_true refused)
        rw [Wp, faulted]
        refine iff_of_false id ?_
        rintro (absurdity | rfl)
        · cases absurdity
        · exact present rfl

/-- A copy into a name goes as described unless clearing a missing block ends it, since it always
reports a failure; a duplicate only where there is no memory for a name, or nothing to copy. -/
theorem name_copies_iff (held : heap.Holds pxSrc source) (heldDst : heap.Holds pxDst destination)
    (apart : pxSrc ≠ pxDst) (unshared : ∀ string, source.Owns string → ¬ destination.Owns string) :
    (Wp (xRstrNameCpy memory (some pxSrc) (some pxDst))
        (CopiedInto heap source pxDst destination) heap ↔
      (source.pcProcessName = none ∨ memory heap.allocations = true)) ∧
    (Wp (pxRstrNameDup memory (some pxSrc)) (Duplicated heap source) heap ↔
      (memory heap.allocations = false ∨ source = .absent)) :=
  ⟨wp_xRstrNameCpy_iff memory held heldDst apart unshared, wp_pxRstrNameDup_iff memory held⟩

end Copying

/-- A name with the one component `a`, and an empty name. -/
def NameHeap.single : NameHeap where
  strings := (Store.empty.allocate [0x61]).1
  names := ((Store.empty.allocate ⟨some 0, none, none, none⟩).1.allocate .absent).1
  allocations := 0

theorem single_holds : NameHeap.single.Holds 0 ⟨some 0, none, none, none⟩ where
  found :=
    (Store.get?_allocate_of_lt _ _ Nat.zero_lt_one).trans (Store.get?_allocate_new Store.empty _)
  live := by
    rintro string ⟨component, -, held⟩
    cases component <;> cases held
    exact ⟨_, Store.get?_allocate_new Store.empty _⟩
  unshared := by
    intro component other string first second
    cases component <;> cases first
    cases other <;> cases second
    rfl

theorem single_holds_absent : NameHeap.single.Holds 1 .absent :=
  holds_absent (Store.get?_allocate_new _ _)

theorem name_copies_iff_single :
    (Wp (xRstrNameCpy (fun _ => true) (some 0) (some 1))
        (CopiedInto .single ⟨some 0, none, none, none⟩ 1 .absent) .single ↔
      ((some 0 : Option StringId) = none ∨ true = true)) ∧
    (Wp (pxRstrNameDup (fun _ => true) (some 0))
        (Duplicated .single ⟨some 0, none, none, none⟩) .single ↔
      (true = false ∨ (⟨some 0, none, none, none⟩ : NamePointers) = NamePointers.absent)) :=
  name_copies_iff (fun _ => true) single_holds single_holds_absent (by decide)
    fun string _ => NamePointers.not_owns_absent string

/-- With memory for everything the duplicate of a name with one component is empty. -/
theorem duplicate_of_name_empty :
    ∃ source, NameHeap.single.Holds 0 source ∧
      ¬ Wp (pxRstrNameDup (fun _ => true) (some 0)) (Duplicated .single source) .single := by
  refine ⟨_, single_holds, ?_⟩
  intro duplicated
  rw [wp_pxRstrNameDup_iff (fun _ => true) single_holds] at duplicated
  rcases duplicated with granted | same
  · cases granted
  · cases same

end RinaSense
