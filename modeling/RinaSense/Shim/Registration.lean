import RinaSense.Common.NameCopies
import RinaSense.Rib.Memory
import RinaSense.Shim.ArpProcessing

/-!
# Registering an application with a shim

`xShimApplicationRegister` of both shims, which duplicates two names and binds their addresses in
the ARP cache, and `xShimApplicationUnregister`. A name that was freed stays in the instance data,
and unregistering takes the success of `xARPRemove` for a failure.
-/

namespace RinaSense

open Command

namespace Registration

/-- The instance data of a shim that registering and unregistering use. The handles are not set
when an instance is made, and the address of its device is. -/
structure ShimData where
  pxAppName : Option NameId
  pxDafName : Option NameId
  pxAppHandle : Pointer RinarpHandle
  pxDafHandle : Pointer RinarpHandle
  pxPhyDev : MacAddress
  deriving Repr, DecidableEq

structure ShimState where
  data : ShimData
  names : NameHeap
  cache : ArpCache

abbrev ShimCommand := EStateM Fault ShimState

/-- Memory for the text of a name, and for an address of that text with its bytes. -/
structure AddressMemory where
  text : Bool
  gpa : Bool
  address : Bool
  deriving Repr, DecidableEq

/-- Outcomes of a registration: the allocations of each duplicate of a name, in their order, and
memory for the addresses and handles. -/
structure Outcomes where
  appName : Nat → Bool
  appAddress : AddressMemory
  gha : Bool
  appHandle : Bool
  dafName : Nat → Bool
  dafAddress : AddressMemory
  dafHandle : Bool

/-- The arguments of a registration. -/
structure Call where
  pxData : Bool
  pxAppName : Option NameId
  pxDafName : Option NameId
  deriving Repr, DecidableEq

/-! ## Parts -/

section Parts

def onNames {α : Type} (command : NameMemory α) : ShimCommand α :=
  zoom ShimState.names (fun names shim => { shim with names }) command

def onCache {α : Type} (command : Arp α) : ShimCommand α :=
  zoom ShimState.cache (fun cache shim => { shim with cache }) command

def modifyData (change : ShimData → ShimData) : ShimCommand PUnit :=
  modify fun shim => { shim with data := change shim.data }

/-- `pxRstrNameDup`, its allocations counted anew. -/
def duplicate (memory : Nat → Bool) (pxSrc : Option NameId) : ShimCommand (Option NameId) :=
  onNames do
    modify fun heap => { heap with allocations := 0 }
    pxRstrNameDup memory pxSrc

/-- `vRstrNameFree`. -/
def vRstrNameFree (xName : NameId) : ShimCommand Unit := onNames (vRstrNameDestroy xName)

/-- `pxNameToGPA`. The text and the bytes of the address are cleared whether there is memory for
them or not. -/
def pxNameToGpa (memory : AddressMemory) (pcName : NameId) : ShimCommand (Option GpaId) := do
  let pointers ← onNames (readName pcName)
  let shim ← get
  if !memory.text then throw .nullPointer
  match Name.pxNameToGpa (some (shim.names.contents pointers)) with
  | none => return none
  | some gpa =>
      if !memory.gpa then return none
      if !memory.address then throw .nullPointer
      let (gpas, pxGpa) := shim.cache.gpas.allocate gpa
      set { shim with cache := { shim.cache with gpas } }
      return some pxGpa

/-- `pxCreateGHA` of the address of the device. -/
def createGha (memory : Bool) (xType : GhaType) : ShimCommand (Option GhaId) := do
  let shim ← get
  match pxCreateGha memory xType shim.data.pxPhyDev with
  | none => return none
  | some gha =>
      let (ghas, pxHa) := shim.cache.ghas.allocate gha
      set { shim with cache := { shim.cache with ghas } }
      return some pxHa

/-- `pxARPAdd`, which writes to the handle before it adds the entry, whether there is memory for it
or not. -/
def arpAdd (memory : Bool) (pxPa : GpaId) (pxHa : GhaId) : ShimCommand (Option RinarpHandle) := do
  let cache := (← get).cache
  if xIsGpaOk (cache.gpa (some pxPa)) && xIsGhaOk (cache.gha (some pxHa)) && !memory then
    throw .nullPointer
  onCache (pxArpAdd (some pxPa) (some pxHa))

def vGpaDestroy (pxGpa : GpaId) : ShimCommand PUnit :=
  onCache (modify fun cache => { cache with gpas := cache.gpas.free pxGpa })

def vGhaDestroy (pxGha : GhaId) : ShimCommand PUnit :=
  onCache (modify fun cache => { cache with ghas := cache.ghas.free pxGha })

/-- `xARPRemove` of the addresses of a handle. -/
def removeEntry (pointer : Pointer RinarpHandle) : ShimCommand Bool := do
  let handle ← pointer.read
  onCache (xArpRemove (some handle.pxPa) (some handle.pxHa))

end Parts

/-! ## Registering -/

section Registering

variable (usesArp : Bool) (outcomes : Outcomes)

/-- The entry of the application is taken back, if there is one. -/
def undoAppEntry : ShimCommand PUnit := do
  if usesArp then
    let _ ← removeEntry (← get).data.pxAppHandle
  modifyData fun data => { data with pxAppHandle := .null }

/-- The last step: the entry of the DAF. -/
def registerDafEntry (appName dafName : NameId) (pxPa : GpaId) (pxHa : GhaId) :
    ShimCommand Bool := do
  if !usesArp then return true
  match ← arpAdd outcomes.dafHandle pxPa pxHa with
  | some handle =>
      modifyData fun data => { data with pxDafHandle := .target handle }
      return true
  | none =>
      undoAppEntry usesArp
      vRstrNameFree appName
      vRstrNameFree dafName
      vGpaDestroy pxPa
      vGhaDestroy pxHa
      return false

/-- The name and the address of the DAF. -/
def registerDaf (pxDafName : Option NameId) (appName : NameId) (pxHa : GhaId) :
    ShimCommand Bool := do
  let copy ← duplicate outcomes.dafName pxDafName
  modifyData fun data => { data with pxDafName := copy }
  match copy, pxDafName with
  | some dafName, some pxDafName =>
      match ← pxNameToGpa outcomes.dafAddress pxDafName with
      | some pxPa => registerDafEntry usesArp outcomes appName dafName pxPa pxHa
      | none =>
          undoAppEntry usesArp
          vRstrNameFree dafName
          vRstrNameFree appName
          vGhaDestroy pxHa
          return false
  | _, _ =>
      undoAppEntry usesArp
      vRstrNameFree appName
      vGhaDestroy pxHa
      return false

/-- The entry of the application. -/
def registerAppEntry (pxDafName : Option NameId) (appName : NameId) (pxPa : GpaId)
    (pxHa : GhaId) : ShimCommand Bool := do
  if !usesArp then registerDaf usesArp outcomes pxDafName appName pxHa
  else
    match ← arpAdd outcomes.appHandle pxPa pxHa with
    | some handle =>
        modifyData fun data => { data with pxAppHandle := .target handle }
        registerDaf usesArp outcomes pxDafName appName pxHa
    | none =>
        modifyData fun data => { data with pxAppHandle := .null }
        vGpaDestroy pxPa
        vGhaDestroy pxHa
        onNames (vRstrNameFini appName)
        return false

/-- What follows the name of the application, of which `appName` is the duplicate. -/
def registerAddresses (xType : GhaType) (pxAppName : NameId) (pxDafName : Option NameId)
    (appName : NameId) : ShimCommand Bool := do
  match ← pxNameToGpa outcomes.appAddress pxAppName with
  | none =>
      onNames (vRstrNameFini appName)
      return false
  | some pxPa =>
      match ← createGha outcomes.gha xType with
      | none =>
          onNames (vRstrNameFini appName)
          return false
      | some pxHa => registerAppEntry usesArp outcomes pxDafName appName pxPa pxHa

/-- What follows the checks of the arguments. -/
def registerNames (xType : GhaType) (pxAppName : NameId) (pxDafName : Option NameId) :
    ShimCommand Bool := do
  let copy ← duplicate outcomes.appName (some pxAppName)
  modifyData fun data => { data with pxAppName := copy }
  match copy with
  | none => return false
  | some appName => registerAddresses usesArp outcomes xType pxAppName pxDafName appName

/-- What the registrations of the shims have in common. Only one of them uses the ARP cache. -/
def applicationRegister (xType : GhaType) (call : Call) : ShimCommand Bool := do
  if !call.pxData then return false
  match call.pxAppName with
  | none => return false
  | some pxAppName =>
      if (← get).data.pxAppName.isSome then return false
      registerNames usesArp outcomes xType pxAppName call.pxDafName

end Registering

/-- The WiFi shim. -/
def xShimApplicationRegister (outcomes : Outcomes) (call : Call) : ShimCommand Bool :=
  applicationRegister true outcomes .macAddr8023 call

/-- The calls of the ARP cache are commented out in the IEEE 802.15.4 shim. -/
def xShim802154ApplicationRegister (outcomes : Outcomes) (call : Call) : ShimCommand Bool :=
  applicationRegister false outcomes .macAddr802154 call

/-! ## Unregistering -/

/-- An entry that a handle is set for is removed. The removal counts as a failure where the result
of `xARPRemove` is true. -/
def unregisterEntry (pointer : Pointer RinarpHandle) (reset : ShimData → ShimData) :
    ShimCommand Bool := do
  if pointer = .null then return true
  if ← removeEntry pointer then return false
  modifyData reset
  return true

/-- `vRstrNameFree`, which does nothing without a name. -/
def freeName : Option NameId → ShimCommand Unit
  | none => pure ()
  | some xName => vRstrNameFree xName

/-- The names are freed last. -/
def freeNames (data : ShimData) : ShimCommand Bool := do
  freeName data.pxAppName
  modifyData fun data => { data with pxAppName := none }
  freeName data.pxDafName
  modifyData fun data => { data with pxDafName := none }
  return true

def unregisterEntries (data : ShimData) : ShimCommand Bool := do
  if !(← unregisterEntry data.pxAppHandle fun data => { data with pxAppHandle := .null }) then
    return false
  if !(← unregisterEntry data.pxDafHandle fun data => { data with pxDafHandle := .null }) then
    return false
  freeNames data

def xShimApplicationUnregister (pxData : Bool) (pxName : Option NameId) : ShimCommand Bool := do
  if !pxData then return false
  if pxName.isNone then return false
  let data := (← get).data
  if data.pxAppName.isNone then return false
  unregisterEntries data

/-! ## What registering is for -/

/-- The instance data and the rows of the ARP cache are as before, and so is what was in memory. -/
structure Restored (before after : ShimState) : Prop where
  data : after.data = before.data
  rows : after.cache.xArpCache = before.cache.xArpCache
  addresses : before.cache.Keeps after.cache
  names : ∀ name, after.names.names.get? name = before.names.names.get? name
  strings : ∀ string, after.names.strings.get? string = before.names.strings.get? string

/-- A registration that fails leaves nothing behind, and unregistering takes back one that
succeeds. -/
def Conforms (call : Call) (before : ShimState) (registered : Bool) (after : ShimState) : Prop :=
  if registered = true then
    Wp (xShimApplicationUnregister call.pxData call.pxAppName)
      (fun undone last => undone = true ∧ Restored before last) after
  else Restored before after

/-- The text that stands for a name in its protocol address. -/
def addressText (names : NameHeap) (pointers : NamePointers) : List UInt8 :=
  Name.formatted (names.contents pointers).texts

/-- There is memory for all of an address. -/
def AddressMemory.Granted (memory : AddressMemory) : Prop :=
  memory.text = true ∧ memory.gpa = true ∧ memory.address = true

/-- There is memory for a duplicate of a name, and for the one component that is copied. -/
def DuplicateGranted (memory : Nat → Bool) (source : NamePointers) : Prop :=
  memory 0 = true ∧ (source.pcProcessName = none ∨ memory 1 = true)

/-- No row can take another binding. -/
def Full (cache : ArpCache) : Prop := ∀ row ∈ cache.xArpCache, row.ucValid = true

/-! ## Names -/

section Names

variable {memory : Nat → Bool} {shim : ShimState} {pxSrc : NameId} {source : NamePointers}

theorem run_onNames_ok {α : Type} {command : NameMemory α} {value : α} {names : NameHeap}
    (run : command.run shim.names = .ok value names) :
    (onNames command).run shim = .ok value { shim with names } := by
  rw [onNames, run_zoom, run]

theorem run_onNames_error {α : Type} {command : NameMemory α} {fault : Fault} {names : NameHeap}
    (run : command.run shim.names = .error fault names) :
    (onNames command).run shim = .error fault { shim with names } := by
  rw [onNames, run_zoom, run]

/-- An empty name has been put into memory. -/
structure NameMade (before after : NameHeap) (name : NameId) : Prop where
  found : after.names.get? name = some .absent
  fresh : before.names.get? name = none
  others : ∀ other, other ≠ name → after.names.get? other = before.names.get? other
  strings : ∀ string, after.strings.get? string = before.strings.get? string

theorem holds_counted (held : shim.names.Holds pxSrc source) (allocations : Nat) :
    NameHeap.Holds { shim.names with allocations } pxSrc source :=
  ⟨held.found, held.live, held.unshared⟩

/-- A name that was there is not changed by a new one. -/
theorem NameMade.holds {before after : NameHeap} {name : NameId} (made : NameMade before after name)
    (held : before.Holds pxSrc source) : after.Holds pxSrc source where
  found := by
    rw [made.others pxSrc]
    · exact held.found
    · rintro rfl
      have absent := made.fresh
      rw [held.found] at absent
      cases absent
  live := by
    intro string owned
    rw [made.strings]
    exact held.live string owned
  unshared := held.unshared

theorem NameMade.addressText {before after : NameHeap} {name : NameId}
    (made : NameMade before after name) (pointers : NamePointers) :
    addressText after pointers = addressText before pointers := by
  have same : after.strings.get? = before.strings.get? := funext made.strings
  simp only [Registration.addressText, NameHeap.contents, same]

theorem run_duplicate (held : shim.names.Holds pxSrc source)
    (granted : DuplicateGranted memory source) :
    ∃ name names, (duplicate memory (some pxSrc)).run shim =
        .ok (some name) { shim with names } ∧ NameMade shim.names names name := by
  obtain ⟨names, returned, empty, strings, others⟩ :=
    run_pxRstrNameDup memory (holds_counted held 0) granted.1 granted.2
  exact ⟨_, names, run_onNames_ok returned, empty.found, Store.get?_next _, others, strings⟩

/-- Without memory for the name there is no duplicate. -/
theorem run_duplicate_refused (refused : memory 0 = false) :
    (duplicate memory (some pxSrc)).run shim =
      .ok none { shim with names := { shim.names with allocations := 1 } } := by
  apply run_onNames_ok
  rw [run_bind_ok (show (modify _ : NameMemory PUnit).run shim.names = .ok ⟨⟩ _ from rfl),
    pxRstrNameDup, pxRStrNameCreate, bind_assoc, run_bind_ok (run_pvRsMemAlloc memory _)]
  simp only [refused]
  rfl

/-- Without memory for the first component the duplication ends in a fault. -/
theorem run_duplicate_fault (held : shim.names.Holds pxSrc source) (granted : memory 0 = true)
    (present : source.pcProcessName ≠ none) (refused : memory 1 = false) :
    ∃ next, (duplicate memory (some pxSrc)).run shim = .error .nullPointer next := by
  obtain ⟨names, faulted⟩ := run_pxRstrNameDup_refused memory (holds_counted held 0) granted present
    refused
  exact ⟨_, run_onNames_error faulted⟩

/-- An empty name is taken out of memory. -/
theorem run_vRstrNameFree {name : NameId} (found : shim.names.names.get? name = some .absent) :
    ∃ names, (vRstrNameFree name).run shim = .ok () { shim with names } ∧
      (∀ other, names.names.get? other =
        if other = name then none else shim.names.names.get? other) ∧
      ∀ string, names.strings.get? string = shim.names.strings.get? string := by
  obtain ⟨emptied, returned, isEmptied⟩ := run_vRstrNameFini (holds_absent found)
  have freed : (vRstrNameDestroy name).run shim.names =
      .ok () { emptied with names := emptied.names.free name } := by
    rw [vRstrNameDestroy, run_bind_ok returned]
    rfl
  refine ⟨_, run_onNames_ok freed, fun other => ?_, fun string => ?_⟩
  · split
    · next same => rw [same, Store.get?_free_self]
    · next different => rw [Store.get?_free_of_ne _ different, isEmptied.others other different]
  · rw [isEmptied.strings, if_neg (NamePointers.not_owns_absent string)]

end Names

/-! ## Addresses and bindings -/

section Bindings

variable {usesArp : Bool} {shim : ShimState} {cache : ArpCache}

theorem run_onCache_ok {α : Type} {command : Arp α} {value : α} {cache : ArpCache}
    (run : command.run shim.cache = .ok value cache) :
    (onCache command).run shim = .ok value { shim with cache } := by
  rw [onCache, run_zoom, run]

/-- A valid row in use binds the address with such contents. -/
def Bound (cache : ArpCache) (contents : List UInt8) : Prop :=
  ∃ row ∈ cache.xArpCache, row.ucValid = true ∧ row.ucAge ≠ 0 ∧
    xGpaCmp (cache.gpa row.pxProtocolAddress) (some ⟨some contents⟩) = true

theorem Bound.cached {contents : List UInt8} (bound : Bound cache contents) :
    cache.Cached contents := by
  obtain ⟨row, member, -, aged, same⟩ := bound
  exact ⟨row, member, aged, same⟩

/-- What no step of a registration undoes: addresses stay in memory and bindings in the cache.
Without ARP, or without room, the rows stay too. -/
structure CacheKept (usesArp : Bool) (before after : ArpCache) : Prop where
  gpas : ∀ pointer < before.gpas.next, after.gpas.get? pointer = before.gpas.get? pointer
  next : before.gpas.next ≤ after.gpas.next
  ghas : ∀ pointer gha, before.ghas.get? pointer = some gha → after.ghas.get? pointer = some gha
  rows : (usesArp = true → Full before) → after.xArpCache = before.xArpCache
  bound : ∀ contents, Bound before contents → Bound after contents

namespace CacheKept

variable {before middle after : ArpCache}

theorem refl (usesArp : Bool) (cache : ArpCache) : CacheKept usesArp cache cache :=
  ⟨fun _ _ => rfl, Nat.le_refl _, fun _ _ found => found, fun _ => rfl, fun _ bound => bound⟩

theorem trans (first : CacheKept usesArp before middle) (second : CacheKept usesArp middle after) :
    CacheKept usesArp before after where
  gpas := fun pointer old =>
    (second.gpas pointer (old.trans_le first.next)).trans (first.gpas pointer old)
  next := first.next.trans second.next
  ghas := fun pointer gha found => second.ghas pointer gha (first.ghas pointer gha found)
  rows := by
    intro full
    rw [second.rows, first.rows full]
    intro uses
    rw [Full, first.rows full]
    exact full uses
  bound := fun contents bound => second.bound contents (first.bound contents bound)

theorem keeps (kept : CacheKept usesArp before after) : before.Keeps after where
  gpas := fun pointer _ found => (kept.gpas pointer (Store.lt_next found)).trans found
  ghas := kept.ghas

/-- Bindings stay while rows do. -/
theorem of_rows {before after : ArpCache}
    (gpas : ∀ pointer < before.gpas.next, after.gpas.get? pointer = before.gpas.get? pointer)
    (next : before.gpas.next ≤ after.gpas.next)
    (ghas : ∀ pointer gha, before.ghas.get? pointer = some gha →
      after.ghas.get? pointer = some gha)
    (rows : after.xArpCache = before.xArpCache) : CacheKept usesArp before after where
  gpas := gpas
  next := next
  ghas := ghas
  rows := fun _ => rows
  bound := by
    rintro contents ⟨row, member, valid, aged, same⟩
    refine ⟨row, rows ▸ member, valid, aged, ?_⟩
    rw [← same]
    cases points : row.pxProtocolAddress with
    | none => rfl
    | some pointer =>
        rw [points] at same
        cases found : before.gpas.get? pointer with
        | none =>
            rw [ArpCache.gpa, Option.bind_some, found] at same
            cases same
        | some gpa => simp only [ArpCache.gpa, Option.bind_some, gpas pointer (Store.lt_next found)]

theorem newGpa (usesArp : Bool) (cache : ArpCache) (gpa : Gpa) :
    CacheKept usesArp cache { cache with gpas := (cache.gpas.allocate gpa).1 } :=
  of_rows (fun _ old => cache.gpas.get?_allocate_of_lt gpa old) (Nat.le_succ _)
    (fun _ _ found => found) rfl

theorem newGha (usesArp : Bool) (cache : ArpCache) (gha : Gha) :
    CacheKept usesArp cache { cache with ghas := (cache.ghas.allocate gha).1 } :=
  of_rows (fun _ _ => rfl) (Nat.le_refl _)
    (fun _ _ found => (cache.ghas.get?_allocate_of_lt gha (Store.lt_next found)).trans found) rfl

/-- A row that is not valid is given away. -/
theorem setRow {cache : ArpCache} {x : Nat} (inside : x < cache.xArpCache.length)
    (free : cache.xArpCache[x].ucValid = false) (row : ArpCacheRow) :
    CacheKept true cache { cache with xArpCache := cache.xArpCache.set x row } where
  gpas := fun _ _ => rfl
  next := Nat.le_refl _
  ghas := fun _ _ found => found
  rows := by
    intro full
    have valid := full rfl _ (List.getElem_mem inside)
    rw [free] at valid
    cases valid
  bound := by
    rintro contents ⟨other, member, valid, aged, same⟩
    obtain ⟨y, there, rfl⟩ := List.getElem_of_mem member
    have apart : x ≠ y := by
      rintro rfl
      rw [free] at valid
      cases valid
    refine ⟨_, ?_, valid, aged, same⟩
    rw [← List.getElem_set_of_ne apart row (by rwa [List.length_set])]
    exact List.getElem_mem _

end CacheKept

/-- The pointer is to a handle with an address in memory that has such contents. -/
def Handled (cache : ArpCache) (contents : List UInt8) (pointer : Pointer RinarpHandle) : Prop :=
  ∃ handle gha, pointer = .target handle ∧
    cache.gpas.get? handle.pxPa = some ⟨some contents⟩ ∧ cache.ghas.get? handle.pxHa = some gha

theorem CacheKept.handled {before after : ArpCache} {contents : List UInt8}
    {pointer : Pointer RinarpHandle} (kept : CacheKept usesArp before after)
    (handled : Handled before contents pointer) : Handled after contents pointer := by
  obtain ⟨handle, gha, points, foundGpa, foundGha⟩ := handled
  exact ⟨handle, gha, points, kept.keeps.gpas _ _ foundGpa, kept.ghas _ _ foundGha⟩

/-- An entry takes the first row that is not valid, if there is one. -/
theorem run_vArpAddCacheEntry {handle : RinarpHandle} {contents : List UInt8}
    (found : cache.gpas.get? handle.pxPa = some ⟨some contents⟩) (nonempty : contents ≠ []) :
    ∃ after, (vArpAddCacheEntry handle 1).run cache = .ok () after ∧
      CacheKept true cache after ∧ (¬ Full cache → Bound after contents) := by
  have here : cache.gpa (some handle.pxPa) = some ⟨some contents⟩ := found
  simp only [vArpAddCacheEntry, EStateM.run_bind, EStateM.run_get, here]
  split
  · next none =>
      refine ⟨cache, rfl, .refl _ _, fun room => absurd (fun row member => ?_) room⟩
      have valid := List.findIdx?_eq_none_iff.mp none row member
      simpa only [Bool.not_eq_false'] using valid
  · next x first =>
      obtain ⟨inside, free, -⟩ := List.findIdx?_eq_some_iff_getElem.mp first
      rw [Bool.not_eq_true'] at free
      have copied : cache.newGpa contents = ({ cache with
          gpas := (cache.gpas.allocate ⟨some contents⟩).1 }, some cache.gpas.next) := by
        rw [ArpCache.newGpa, pxCreateGpa, if_neg nonempty]
      simp only [Option.getD_some, copied]
      have grown := CacheKept.newGpa true cache ⟨some contents⟩
      have given := @CacheKept.setRow { cache with gpas := (cache.gpas.allocate ⟨some contents⟩).1 }
        x inside free
      refine ⟨_, rfl, grown.trans (given _), fun _ => ⟨_, List.mem_set inside _, rfl, ?_, ?_⟩⟩
      · exact (by decide : (1 : UInt8) ≠ 0)
      · simp [xGpaCmp, xIsGpaOk, ArpCache.gpa, Gpa.uxLength, nonempty]

theorem xIsGpaOk_some {contents : List UInt8} (nonempty : contents ≠ []) :
    xIsGpaOk (some ⟨some contents⟩) = true := by
  simp [xIsGpaOk, Gpa.uxLength, nonempty]

theorem run_arpAdd {pxPa : GpaId} {pxHa : GhaId} {contents : List UInt8} {gha : Gha}
    (foundGpa : shim.cache.gpas.get? pxPa = some ⟨some contents⟩) (nonempty : contents ≠ [])
    (foundGha : shim.cache.ghas.get? pxHa = some gha) :
    ∃ after : ArpCache, CacheKept true shim.cache after ∧
      (¬ Full shim.cache → Bound after contents) ∧
      ∀ memory, (arpAdd memory pxPa pxHa).run shim =
        if memory = true then .ok (some ⟨pxPa, pxHa⟩) { shim with cache := after }
        else .error .nullPointer shim := by
  obtain ⟨after, added, kept, bound⟩ :=
    @run_vArpAddCacheEntry shim.cache ⟨pxPa, pxHa⟩ contents foundGpa nonempty
  have hereGpa : shim.cache.gpa (some pxPa) = some ⟨some contents⟩ := foundGpa
  have hereGha : shim.cache.gha (some pxHa) = some gha := foundGha
  have returned : (pxArpAdd (some pxPa) (some pxHa)).run shim.cache =
      .ok (some ⟨pxPa, pxHa⟩) after := by
    simp only [pxArpAdd, EStateM.run_bind, EStateM.run_get, hereGpa, hereGha,
      xIsGpaOk_some nonempty, xIsGhaOk, Option.isSome_some, Bool.not_true, Bool.false_eq_true,
      if_false, added]
    rfl
  refine ⟨after, kept, bound, fun memory => ?_⟩
  have valid : (xIsGpaOk (shim.cache.gpa (some pxPa)) &&
      xIsGhaOk (shim.cache.gha (some pxHa))) = true := by
    rw [hereGpa, hereGha, xIsGpaOk_some nonempty]
    rfl
  simp only [arpAdd, EStateM.run_bind, EStateM.run_get, valid, Bool.true_and]
  cases memory with
  | true => exact run_onCache_ok returned
  | false => rfl

/-- Looking a binding up and removing it answers whether it is in the cache. -/
theorem removeEntry_of_handled {contents : List UInt8} {pointer : Pointer RinarpHandle}
    (handled : Handled shim.cache contents pointer) (nonempty : contents ≠ []) :
    (¬ shim.cache.Cached contents → (removeEntry pointer).run shim = .ok false shim) ∧
      (shim.cache.Cached contents →
        ∀ next, (removeEntry pointer).run shim ≠ .ok false next) := by
  obtain ⟨handle, gha, rfl, foundGpa, foundGha⟩ := handled
  obtain ⟨result, looked, missed⟩ := run_eArpLookupGpa shim.cache contents
  have hereGpa : shim.cache.gpa (some handle.pxPa) = some ⟨some contents⟩ := foundGpa
  have hereGha : shim.cache.gha (some handle.pxHa) = some gha := foundGha
  rw [removeEntry, Pointer.read_target, run_bind_ok (run_lift_ok rfl), onCache]
  simp only [run_zoom, xArpRemove, EStateM.run_bind, EStateM.run_get, hereGpa, hereGha,
    xIsGpaOk_some nonempty, xIsGhaOk, Option.isSome_some, Bool.not_true, Bool.false_eq_true,
    if_false, looked]
  constructor
  · intro absent
    rw [if_pos (missed.mpr absent)]
    rfl
  · intro cached next
    rw [if_neg fun miss => missed.mp miss cached, EStateM.run_bind]
    cases (vArpRemoveCacheEntry (some ⟨some contents⟩)).run shim.cache with
    | ok value after => rintro ⟨⟩
    | error fault after => rintro ⟨⟩

end Bindings

/-! ## Registrations that succeed -/

section Succeeding

variable {usesArp : Bool} {outcomes : Outcomes} {shim : ShimState} {name : NameId}
  {source : NamePointers}

/-- What the guards of the commands test. -/
theorem not_not_true : ¬ (!true) = true := Bool.false_ne_true

theorem addressText_ne_nil (names : NameHeap) (pointers : NamePointers) :
    addressText names pointers ≠ [] := by
  simp [addressText, Name.formatted]

theorem run_readName_onNames (held : shim.names.Holds name source) :
    (onNames (readName name)).run shim = .ok source shim :=
  run_onNames_ok (run_readName held.found)

/-- The text and the bytes of the address have to have memory, and without any for the address
itself there is none. -/
theorem run_pxNameToGpa (held : shim.names.Holds name source) (memory : AddressMemory) :
    (pxNameToGpa memory name).run shim =
      match memory with
      | ⟨false, _, _⟩ => .error .nullPointer shim
      | ⟨true, false, _⟩ => .ok none shim
      | ⟨true, true, false⟩ => .error .nullPointer shim
      | ⟨true, true, true⟩ => .ok (some shim.cache.gpas.next) { shim with
          cache := { shim.cache with
            gpas := (shim.cache.gpas.allocate ⟨some (addressText shim.names source)⟩).1 } } := by
  rw [pxNameToGpa, run_bind_ok (run_readName_onNames held)]
  simp only [EStateM.run_bind, EStateM.run_get, Name.pxNameToGpa_eq]
  obtain ⟨text, gpa, address⟩ := memory
  cases text <;> cases gpa <;> cases address <;> rfl

theorem run_pxNameToGpa_granted (held : shim.names.Holds name source) {memory : AddressMemory}
    (granted : memory.Granted) :
    (pxNameToGpa memory name).run shim = .ok (some shim.cache.gpas.next) { shim with
      cache := { shim.cache with
        gpas := (shim.cache.gpas.allocate ⟨some (addressText shim.names source)⟩).1 } } := by
  obtain ⟨text, gpa, address⟩ := memory
  obtain ⟨rfl, rfl, rfl⟩ := granted
  exact run_pxNameToGpa held ⟨true, true, true⟩

theorem granted_of_pxNameToGpa (held : shim.names.Holds name source) {memory : AddressMemory}
    {pxPa : GpaId} {next : ShimState}
    (run : (pxNameToGpa memory name).run shim = .ok (some pxPa) next) : memory.Granted := by
  rw [run_pxNameToGpa held] at run
  split at run
  · cases run
  · cases run
  · cases run
  · exact ⟨rfl, rfl, rfl⟩

/-- The command returns true where everything is granted, in a state as described, and only
there. -/
def Settles (command : ShimCommand Bool) (granted : Prop) (post : ShimState → Prop)
    (shim : ShimState) : Prop :=
  (granted → ∃ after, command.run shim = .ok true after ∧ post after) ∧
    ∀ after, command.run shim = .ok true after → granted

theorem settles_of_run {α : Type} {first : ShimCommand α} {value : α} {next : ShimState}
    {rest : α → ShimCommand Bool} {granted : Prop} {post : ShimState → Prop}
    (run : first.run shim = .ok value next) (settles : Settles (rest value) granted post next) :
    Settles (first >>= rest) granted post shim := by
  rw [Settles, run_bind_ok run]
  exact settles

/-- Where something is not granted, the command does not return true. -/
theorem settles_of_not {command : ShimCommand Bool} {granted : Prop} {post : ShimState → Prop}
    (refused : ¬ granted) (never : ∀ after, command.run shim ≠ .ok true after) :
    Settles command granted post shim :=
  ⟨fun grant => absurd grant refused, fun after run => absurd run (never after)⟩

theorem never_of_returnsOnly {command : ShimCommand Bool} (only : ReturnsOnly false command)
    (after : ShimState) : command.run shim ≠ .ok true after :=
  fun run => Bool.false_ne_true (only shim true after run).symm

theorem never_of_run {α : Type} {first : ShimCommand α} {value : α} {next : ShimState}
    {rest : α → ShimCommand Bool} (run : first.run shim = .ok value next)
    (only : ReturnsOnly false (rest value)) (after : ShimState) :
    (first >>= rest).run shim ≠ .ok true after := by
  rw [run_bind_ok run]
  exact never_of_returnsOnly only after

theorem never_of_error {α : Type} {first : ShimCommand α} {fault : Fault} {next : ShimState}
    {rest : α → ShimCommand Bool} (run : first.run shim = .error fault next) (after : ShimState) :
    (first >>= rest).run shim ≠ .ok true after := by
  rw [run_bind_error run]
  exact nofun

theorem settles_mono {command : ShimCommand Bool} {granted weaker : Prop}
    {post other : ShimState → Prop} (settles : Settles command granted post shim)
    (same : granted ↔ weaker) (implies : ∀ after, post after → other after) :
    Settles command weaker other shim := by
  refine ⟨fun grant => ?_, fun after run => same.mp (settles.2 after run)⟩
  obtain ⟨after, run, holds⟩ := settles.1 (same.mpr grant)
  exact ⟨after, run, implies after holds⟩

/-- The handle of an entry that was made, or what was there without ARP. -/
def Entered (usesArp : Bool) (cache : ArpCache) (contents : List UInt8)
    (before after : Pointer RinarpHandle) : Prop :=
  if usesArp = true then Handled cache contents after else after = before

/-- The entry of the DAF has been made. -/
structure DafEntered (usesArp : Bool) (before after : ShimState) (contents : List UInt8) :
    Prop where
  data : after.data = { before.data with pxDafHandle := after.data.pxDafHandle }
  names : after.names = before.names
  kept : CacheKept usesArp before.cache after.cache
  handle : Entered usesArp after.cache contents before.data.pxDafHandle after.data.pxDafHandle

theorem registerDafEntry_settles {appName dafName : NameId} {pxPa : GpaId} {pxHa : GhaId}
    {contents : List UInt8} {gha : Gha}
    (foundGpa : shim.cache.gpas.get? pxPa = some ⟨some contents⟩) (nonempty : contents ≠ [])
    (foundGha : shim.cache.ghas.get? pxHa = some gha) :
    Settles (registerDafEntry usesArp outcomes appName dafName pxPa pxHa)
      (usesArp = true → outcomes.dafHandle = true)
      (fun after => DafEntered usesArp shim after contents) shim := by
  cases usesArp with
  | false => exact ⟨fun _ => ⟨shim, rfl, rfl, rfl, .refl _ _, rfl⟩, fun _ _ => nofun⟩
  | true =>
      obtain ⟨cache, kept, -, run⟩ := run_arpAdd foundGpa nonempty foundGha
      have run := run outcomes.dafHandle
      rw [registerDafEntry, if_neg not_not_true]
      cases granted : outcomes.dafHandle with
      | false =>
          rw [granted, if_neg Bool.false_ne_true] at run
          exact settles_of_not (fun grant => Bool.false_ne_true (grant rfl)) (never_of_error run)
      | true =>
          rw [granted, if_pos rfl] at run
          apply settles_of_run run
          refine ⟨fun _ => ⟨_, rfl, rfl, rfl, kept, ⟨_, gha, rfl, ?_, ?_⟩⟩, fun _ _ _ => rfl⟩
          · exact kept.keeps.gpas _ _ foundGpa
          · exact kept.ghas _ _ foundGha

/-- What there has to be for the DAF to be registered. -/
structure DafGranted (usesArp : Bool) (outcomes : Outcomes) (source : NamePointers) : Prop where
  name : DuplicateGranted outcomes.dafName source
  address : outcomes.dafAddress.Granted
  handle : usesArp = true → outcomes.dafHandle = true

/-- The DAF has been registered. -/
structure DafRegistered (usesArp : Bool) (before after : ShimState) (contents : List UInt8)
    (dafName : NameId) : Prop where
  data : after.data = { before.data with
    pxDafName := some dafName, pxDafHandle := after.data.pxDafHandle }
  made : NameMade before.names after.names dafName
  kept : CacheKept usesArp before.cache after.cache
  handle : Entered usesArp after.cache contents before.data.pxDafHandle after.data.pxDafHandle

theorem run_modifyData (change : ShimData → ShimData) (shim : ShimState) :
    (modifyData change).run shim = .ok ⟨⟩ { shim with data := change shim.data } := rfl

theorem run_createGha (shim : ShimState) (xType : GhaType) :
    (createGha true xType).run shim = .ok (some shim.cache.ghas.next) { shim with
      cache := { shim.cache with
        ghas := (shim.cache.ghas.allocate ⟨xType, shim.data.pxPhyDev⟩).1 } } := rfl

theorem run_createGha_refused (shim : ShimState) (xType : GhaType) :
    (createGha false xType).run shim = .ok none shim := rfl

/-- A duplicate that is not granted is absent, or ends in a fault. -/
theorem run_duplicate_not (held : shim.names.Holds name source) {memory : Nat → Bool}
    (refused : ¬ DuplicateGranted memory source) :
    (memory 0 = false ∧ (duplicate memory (some name)).run shim =
      .ok none { shim with names := { shim.names with allocations := 1 } }) ∨
    (memory 0 = true ∧
      ∃ next, (duplicate memory (some name)).run shim = .error .nullPointer next) := by
  cases granted : memory 0 with
  | false => exact .inl ⟨rfl, run_duplicate_refused granted⟩
  | true =>
      obtain ⟨present, refused⟩ := not_or.mp fun first => refused ⟨granted, first⟩
      exact .inr ⟨rfl,
        run_duplicate_fault held granted present (Bool.eq_false_of_not_eq_true refused)⟩

/-- Without an address what follows the conversion does not register. -/
theorem never_of_address (held : shim.names.Holds name source) {memory : AddressMemory}
    (refused : ¬ memory.Granted) {rest : Option GpaId → ShimCommand Bool}
    (only : ReturnsOnly false (rest none)) (after : ShimState) :
    (pxNameToGpa memory name >>= rest).run shim ≠ .ok true after := by
  cases run : (pxNameToGpa memory name).run shim with
  | error fault next => exact never_of_error run after
  | ok pxPa next =>
      cases pxPa with
      | none => exact never_of_run run only after
      | some pxPa => exact absurd (granted_of_pxNameToGpa held run) refused

theorem registerDaf_none_returnsOnly (appName : NameId) (pxHa : GhaId) :
    ReturnsOnly false (do
      undoAppEntry usesArp
      vRstrNameFree appName
      vGhaDestroy pxHa
      return false : ShimCommand Bool) :=
  returnsOnly_bind fun _ => returnsOnly_bind fun _ => returnsOnly_bind fun _ =>
    returnsOnly_pure false

theorem registerDaf_settles {appName : NameId} {pxHa : GhaId} {gha : Gha}
    (held : shim.names.Holds name source) (foundGha : shim.cache.ghas.get? pxHa = some gha) :
    Settles (registerDaf usesArp outcomes (some name) appName pxHa)
      (DafGranted usesArp outcomes source)
      (fun after => ∃ dafName,
        DafRegistered usesArp shim after (addressText shim.names source) dafName) shim := by
  by_cases duplicates : DuplicateGranted outcomes.dafName source
  · obtain ⟨dafName, names, run, made⟩ := run_duplicate held duplicates
    apply settles_of_run run
    apply settles_of_run (run_modifyData _ _)
    have heldNow := made.holds held
    by_cases address : outcomes.dafAddress.Granted
    · apply settles_of_run (run_pxNameToGpa_granted heldNow address)
      have grown := CacheKept.newGpa usesArp shim.cache ⟨some (addressText names source)⟩
      have entry := @registerDafEntry_settles usesArp outcomes
        { data := { shim.data with pxDafName := some dafName }
          names
          cache := { shim.cache with
            gpas := (shim.cache.gpas.allocate ⟨some (addressText names source)⟩).1 } }
        appName dafName _ pxHa _ gha (Store.get?_allocate_new _ _) (addressText_ne_nil names source)
        foundGha
      refine settles_mono entry ?_ ?_
      · exact ⟨fun handle => ⟨duplicates, address, handle⟩, DafGranted.handle⟩
      · intro after entered
        refine ⟨dafName, entered.data, ?_, grown.trans entered.kept, ?_⟩
        · rw [entered.names]
          exact made
        · rw [← made.addressText]
          exact entered.handle
    · apply settles_of_not fun granted => address granted.address
      apply never_of_address heldNow address
      exact returnsOnly_bind fun _ => returnsOnly_bind fun _ => returnsOnly_bind fun _ =>
        returnsOnly_bind fun _ => returnsOnly_pure false
  · apply settles_of_not fun granted => duplicates granted.name
    rcases run_duplicate_not held duplicates with ⟨-, run⟩ | ⟨-, next, run⟩
    · exact never_of_run run (returnsOnly_bind fun _ => registerDaf_none_returnsOnly appName pxHa)
    · exact never_of_error run

/-- Without a name the DAF is not registered. -/
theorem registerDaf_null_returnsOnly (appName : NameId) (pxHa : GhaId) :
    ReturnsOnly false (registerDaf usesArp outcomes none appName pxHa) := by
  apply returnsOnly_bind
  intro copy
  apply returnsOnly_bind
  intro _
  cases copy <;> exact registerDaf_none_returnsOnly appName pxHa

theorem registerAppEntry_null_returnsOnly (appName : NameId) (pxPa : GpaId) (pxHa : GhaId) :
    ReturnsOnly false (registerAppEntry usesArp outcomes none appName pxPa pxHa) := by
  apply returnsOnly_ite
  · exact registerDaf_null_returnsOnly appName pxHa
  · apply returnsOnly_bind
    intro handle
    cases handle with
    | some handle => exact returnsOnly_bind fun _ => registerDaf_null_returnsOnly appName pxHa
    | none =>
        exact returnsOnly_bind fun _ => returnsOnly_bind fun _ => returnsOnly_bind fun _ =>
          returnsOnly_bind fun _ => returnsOnly_pure false

theorem registerAddresses_null_returnsOnly (xType : GhaType) (pxAppName appName : NameId) :
    ReturnsOnly false (registerAddresses usesArp outcomes xType pxAppName none appName) := by
  apply returnsOnly_bind
  intro pxPa
  cases pxPa with
  | none => exact returnsOnly_bind fun _ => returnsOnly_pure false
  | some pxPa =>
      apply returnsOnly_bind
      intro pxHa
      cases pxHa with
      | none => exact returnsOnly_bind fun _ => returnsOnly_pure false
      | some pxHa => exact registerAppEntry_null_returnsOnly appName pxPa pxHa

/-- Both names have their entries. -/
structure Registered (usesArp : Bool) (before after : ShimState) (appText dafText : List UInt8)
    (dafName : NameId) : Prop where
  data : after.data = { before.data with
    pxAppHandle := after.data.pxAppHandle
    pxDafName := some dafName
    pxDafHandle := after.data.pxDafHandle }
  made : NameMade before.names after.names dafName
  kept : CacheKept usesArp before.cache after.cache
  appHandle : Entered usesArp after.cache appText before.data.pxAppHandle after.data.pxAppHandle
  dafHandle : Entered usesArp after.cache dafText before.data.pxDafHandle after.data.pxDafHandle
  bound : usesArp = true → ¬ Full before.cache → Bound after.cache appText

theorem registerAppEntry_settles {appName : NameId} {pxPa : GpaId} {pxHa : GhaId} {gha : Gha}
    {contents : List UInt8} (held : shim.names.Holds name source)
    (foundGpa : shim.cache.gpas.get? pxPa = some ⟨some contents⟩) (nonempty : contents ≠ [])
    (foundGha : shim.cache.ghas.get? pxHa = some gha) :
    Settles (registerAppEntry usesArp outcomes (some name) appName pxPa pxHa)
      ((usesArp = true → outcomes.appHandle = true) ∧ DafGranted usesArp outcomes source)
      (fun after => ∃ dafName,
        Registered usesArp shim after contents (addressText shim.names source) dafName) shim := by
  cases usesArp with
  | false =>
      refine settles_mono (registerDaf_settles held foundGha) ?_ ?_
      · exact ⟨fun daf => ⟨nofun, daf⟩, And.right⟩
      · rintro after ⟨dafName, daf⟩
        refine ⟨dafName, ?_, daf.made, daf.kept, ?_, daf.handle, nofun⟩
        · rw [daf.data]
        · rw [daf.data]
          rfl
  | true =>
      obtain ⟨cache, kept, bound, run⟩ := run_arpAdd foundGpa nonempty foundGha
      have run := run outcomes.appHandle
      rw [registerAppEntry, if_neg not_not_true]
      cases granted : outcomes.appHandle with
      | false =>
          rw [granted, if_neg Bool.false_ne_true] at run
          exact settles_of_not (fun grant => Bool.false_ne_true (grant.1 rfl)) (never_of_error run)
      | true =>
          rw [granted, if_pos rfl] at run
          apply settles_of_run run
          apply settles_of_run (run_modifyData _ _)
          have daf := @registerDaf_settles true outcomes
            { data := { shim.data with pxAppHandle := .target ⟨pxPa, pxHa⟩ }
              names := shim.names
              cache := cache } name source appName pxHa gha held (kept.ghas _ _ foundGha)
          refine settles_mono daf ?_ ?_
          · exact ⟨fun daf => ⟨fun _ => rfl, daf⟩, And.right⟩
          · rintro after ⟨dafName, daf⟩
            have handled : Handled cache contents (.target ⟨pxPa, pxHa⟩) :=
              ⟨_, gha, rfl, kept.keeps.gpas _ _ foundGpa, kept.ghas _ _ foundGha⟩
            refine ⟨dafName, ?_, daf.made, kept.trans daf.kept, ?_, daf.handle,
              fun _ room => daf.kept.bound _ (bound room)⟩
            · rw [daf.data]
            · rw [daf.data]
              exact daf.kept.handled handled

/-- What there has to be for a registration to succeed, the name of the application duplicated. -/
structure Granted (usesArp : Bool) (outcomes : Outcomes) (source : NamePointers) : Prop where
  appAddress : outcomes.appAddress.Granted
  gha : outcomes.gha = true
  appHandle : usesArp = true → outcomes.appHandle = true
  daf : DafGranted usesArp outcomes source

theorem registerAddresses_settles {xType : GhaType} {pxAppName appName : NameId}
    {appSource : NamePointers} (heldApp : shim.names.Holds pxAppName appSource)
    (held : shim.names.Holds name source) :
    Settles (registerAddresses usesArp outcomes xType pxAppName (some name) appName)
      (Granted usesArp outcomes source)
      (fun after => ∃ dafName, Registered usesArp shim after (addressText shim.names appSource)
        (addressText shim.names source) dafName) shim := by
  by_cases address : outcomes.appAddress.Granted
  · apply settles_of_run (run_pxNameToGpa_granted heldApp address)
    cases memory : outcomes.gha with
    | false =>
        apply settles_of_not fun granted => Bool.false_ne_true (memory.symm.trans granted.gha)
        apply never_of_run (run_createGha_refused _ xType)
        exact returnsOnly_bind fun _ => returnsOnly_pure false
    | true =>
        apply settles_of_run (run_createGha _ xType)
        have grownGpa := CacheKept.newGpa usesArp shim.cache
          ⟨some (addressText shim.names appSource)⟩
        have grownGha := CacheKept.newGha usesArp { shim.cache with
          gpas := (shim.cache.gpas.allocate ⟨some (addressText shim.names appSource)⟩).1 }
          ⟨xType, shim.data.pxPhyDev⟩
        have grown := grownGpa.trans grownGha
        have entry := @registerAppEntry_settles usesArp outcomes
          { data := shim.data
            names := shim.names
            cache :=
              { gpas := (shim.cache.gpas.allocate ⟨some (addressText shim.names appSource)⟩).1
                ghas := (shim.cache.ghas.allocate ⟨xType, shim.data.pxPhyDev⟩).1
                xArpCache := shim.cache.xArpCache } }
          name source appName _ _ _ _ held (Store.get?_allocate_new _ _)
          (addressText_ne_nil shim.names appSource) (Store.get?_allocate_new _ _)
        refine settles_mono entry ?_ ?_
        · exact ⟨fun ⟨handle, daf⟩ => ⟨address, memory, handle, daf⟩,
            fun granted => ⟨granted.appHandle, granted.daf⟩⟩
        · rintro after ⟨dafName, registered⟩
          exact ⟨dafName, registered.data, registered.made, grown.trans registered.kept,
            registered.appHandle, registered.dafHandle, registered.bound⟩
  · apply settles_of_not fun granted => address granted.appAddress
    exact never_of_address heldApp address (returnsOnly_bind fun _ => returnsOnly_pure false)

end Succeeding

/-! ## Data that stays -/

section Staying

variable {β : Type} {field : ShimData → β}

/-- A part of the instance data is as it was. -/
def SameOn (field : ShimData → β) (before after : ShimState) : Prop :=
  field after.data = field before.data

theorem keeps_then {α γ : Type} {command : ShimCommand α} {rest : α → ShimCommand γ}
    (keeps : Keeps (SameOn field) command)
    (keepsRest : ∀ value, Keeps (SameOn field) (rest value)) :
    Keeps (SameOn field) (command >>= rest) :=
  keeps_bind (fun _ _ _ first second => second.trans first) keeps keepsRest

theorem keeps_value {α : Type} (value : α) :
    Keeps (SameOn field) (pure value : ShimCommand α) :=
  fun _ => rfl

theorem keeps_onNames {α : Type} (command : NameMemory α) :
    Keeps (SameOn field) (onNames command) := by
  intro shim
  rw [onNames, final_zoom]
  rfl

theorem keeps_onCache {α : Type} (command : Arp α) : Keeps (SameOn field) (onCache command) := by
  intro shim
  rw [onCache, final_zoom]
  rfl

theorem keeps_modifyData {change : ShimData → ShimData}
    (same : ∀ data, field (change data) = field data) :
    Keeps (SameOn field) (modifyData change) :=
  fun shim => same shim.data

theorem keeps_removeEntry (pointer : Pointer RinarpHandle) :
    Keeps (SameOn field) (removeEntry pointer) := by
  apply keeps_then
  · cases pointer <;> exact fun _ => rfl
  · exact fun handle => keeps_onCache _

theorem keeps_pxNameToGpa (memory : AddressMemory) (pcName : NameId) :
    Keeps (SameOn field) (pxNameToGpa memory pcName) := by
  apply keeps_then (keeps_onNames _)
  intro pointers shim
  simp only [EStateM.run_bind, EStateM.run_get, Name.pxNameToGpa_eq]
  cases memory.text <;> cases memory.gpa <;> cases memory.address <;> rfl

theorem keeps_createGha (memory : Bool) (xType : GhaType) :
    Keeps (SameOn field) (createGha memory xType) := by
  intro shim
  cases memory <;> rfl

theorem keeps_arpAdd (memory : Bool) (pxPa : GpaId) (pxHa : GhaId) :
    Keeps (SameOn field) (arpAdd memory pxPa pxHa) := by
  intro shim
  simp only [arpAdd, EStateM.run_bind, EStateM.run_get]
  split
  · rfl
  · exact keeps_onCache _ shim

end Staying

/-! ## Registrations that fail -/

section Failing

variable {usesArp : Bool} {outcomes : Outcomes}

/-- The duplicate of the name of the application stays in the instance data. -/
abbrev SameName : ShimState → ShimState → Prop := SameOn ShimData.pxAppName

theorem keeps_undoAppEntry : Keeps SameName (undoAppEntry usesArp) := by
  apply keeps_ite
  · exact keeps_then (fun _ => rfl) fun shim => keeps_then (keeps_removeEntry _) fun _ =>
      keeps_modifyData fun _ => rfl
  · exact keeps_modifyData fun _ => rfl

theorem keeps_registerDafEntry (appName dafName : NameId) (pxPa : GpaId) (pxHa : GhaId) :
    Keeps SameName (registerDafEntry usesArp outcomes appName dafName pxPa pxHa) := by
  apply keeps_ite
  · exact keeps_value true
  · apply keeps_then (keeps_arpAdd _ _ _)
    intro handle
    cases handle with
    | some handle => exact keeps_then (keeps_modifyData fun _ => rfl) fun _ => keeps_value true
    | none =>
        exact keeps_then keeps_undoAppEntry fun _ => keeps_then (keeps_onNames _) fun _ =>
          keeps_then (keeps_onNames _) fun _ => keeps_then (keeps_onCache _) fun _ =>
            keeps_then (keeps_onCache _) fun _ => keeps_value false

theorem keeps_registerDaf (pxDafName : Option NameId) (appName : NameId) (pxHa : GhaId) :
    Keeps SameName (registerDaf usesArp outcomes pxDafName appName pxHa) := by
  have refused : Keeps SameName (do
      undoAppEntry usesArp
      vRstrNameFree appName
      vGhaDestroy pxHa
      return false : ShimCommand Bool) :=
    keeps_then keeps_undoAppEntry fun _ => keeps_then (keeps_onNames _) fun _ =>
      keeps_then (keeps_onCache _) fun _ => keeps_value false
  apply keeps_then (keeps_onNames _)
  intro copy
  refine keeps_then (fun _ => rfl) fun _ => ?_
  cases copy with
  | none => cases pxDafName <;> exact refused
  | some dafName =>
      cases pxDafName with
      | none => exact refused
      | some pxDafName =>
          apply keeps_then (keeps_pxNameToGpa _ _)
          intro pxPa
          cases pxPa with
          | some pxPa => exact keeps_registerDafEntry appName dafName pxPa pxHa
          | none =>
              exact keeps_then keeps_undoAppEntry fun _ => keeps_then (keeps_onNames _) fun _ =>
                keeps_then (keeps_onNames _) fun _ => keeps_then (keeps_onCache _) fun _ =>
                  keeps_value false

theorem keeps_registerAppEntry (pxDafName : Option NameId) (appName : NameId) (pxPa : GpaId)
    (pxHa : GhaId) :
    Keeps SameName (registerAppEntry usesArp outcomes pxDafName appName pxPa pxHa) := by
  apply keeps_ite
  · exact keeps_registerDaf pxDafName appName pxHa
  · apply keeps_then (keeps_arpAdd _ _ _)
    intro handle
    cases handle with
    | some handle =>
        exact keeps_then (keeps_modifyData fun _ => rfl) fun _ =>
          keeps_registerDaf pxDafName appName pxHa
    | none =>
        exact keeps_then (keeps_modifyData fun _ => rfl) fun _ => keeps_then (keeps_onCache _)
          fun _ => keeps_then (keeps_onCache _) fun _ => keeps_then (keeps_onNames _) fun _ =>
            keeps_value false

theorem keeps_registerAddresses (xType : GhaType) (pxAppName : NameId) (pxDafName : Option NameId)
    (appName : NameId) :
    Keeps SameName (registerAddresses usesArp outcomes xType pxAppName pxDafName appName) := by
  apply keeps_then (keeps_pxNameToGpa _ _)
  intro pxPa
  cases pxPa with
  | none => exact keeps_then (keeps_onNames _) fun _ => keeps_value false
  | some pxPa =>
      apply keeps_then (keeps_createGha _ _)
      intro pxHa
      cases pxHa with
      | none => exact keeps_then (keeps_onNames _) fun _ => keeps_value false
      | some pxHa => exact keeps_registerAppEntry pxDafName appName pxPa pxHa

end Failing

/-! ## Unregistering what was registered -/

section Undoing

variable {shim : ShimState} {pointer : Pointer RinarpHandle} {reset : ShimData → ShimData}

theorem unregisterEntry_null : (unregisterEntry .null reset).run shim = .ok true shim := by
  rw [unregisterEntry, if_pos rfl]
  rfl

/-- An entry that is not in the cache counts as removed, one that is does not. -/
theorem unregisterEntry_of_handled {contents : List UInt8}
    (handled : Handled shim.cache contents pointer) (nonempty : contents ≠ []) :
    (¬ shim.cache.Cached contents → (unregisterEntry pointer reset).run shim =
      .ok true { shim with data := reset shim.data }) ∧
    (shim.cache.Cached contents →
      ∀ next, (unregisterEntry pointer reset).run shim ≠ .ok true next) := by
  obtain ⟨missing, found⟩ := removeEntry_of_handled handled nonempty
  have present : pointer ≠ .null := by
    obtain ⟨handle, gha, rfl, -⟩ := handled
    exact nofun
  rw [unregisterEntry, if_neg present]
  constructor
  · intro absent
    rw [run_bind_ok (missing absent)]
    rfl
  · intro cached next
    cases run : (removeEntry pointer).run shim with
    | error fault middle =>
        rw [run_bind_error run]
        exact nofun
    | ok removed middle =>
        rw [run_bind_ok run]
        cases removed with
        | false => exact absurd run (found cached middle)
        | true => exact nofun

/-- Where an entry is taken back its handle is reset. -/
theorem data_of_unregisterEntry {next : ShimState}
    (run : (unregisterEntry pointer reset).run shim = .ok true next)
    (unset : pointer = .null → reset shim.data = shim.data) : next.data = reset shim.data := by
  by_cases absent : pointer = .null
  · rw [absent, unregisterEntry_null] at run
    cases run
    exact (unset absent).symm
  · rw [unregisterEntry, if_neg absent] at run
    have same := @keeps_removeEntry _ id pointer shim
    cases removal : (removeEntry pointer).run shim with
    | error fault middle =>
        rw [run_bind_error removal] at run
        cases run
    | ok removed middle =>
        rw [removal] at same
        rw [run_bind_ok removal] at run
        cases removed with
        | true => cases run
        | false =>
            cases run
            exact congrArg reset same

/-- A step that has to return true is followed by the rest. -/
theorem run_guarded {command rest : ShimCommand Bool} {last : ShimState}
    (run : (do if !(← command) then return false else rest).run shim = .ok true last) :
    ∃ next, command.run shim = .ok true next ∧ rest.run next = .ok true last := by
  obtain ⟨done, next, returned, following⟩ := run_bind_eq_ok.mp run
  cases done with
  | false => cases following
  | true => exact ⟨next, returned, following⟩

theorem keeps_freeName (name : Option NameId) : Keeps (SameOn id) (freeName name) := by
  cases name with
  | none => exact keeps_value ()
  | some name => exact keeps_onNames _

/-- What unregistering leaves of the instance data. -/
def ShimData.cleared (data : ShimData) : ShimData where
  pxAppName := none
  pxDafName := none
  pxAppHandle := .null
  pxDafHandle := .null
  pxPhyDev := data.pxPhyDev

theorem data_of_freeNames {data : ShimData} {last : ShimState}
    (run : (freeNames data).run shim = .ok true last) :
    last.data = { shim.data with pxAppName := none, pxDafName := none } := by
  obtain ⟨_, first, runApp, run⟩ := run_bind_eq_ok.mp run
  rw [run_bind_ok (run_modifyData _ _)] at run
  obtain ⟨_, second, runDaf, run⟩ := run_bind_eq_ok.mp run
  have sameApp := @keeps_freeName data.pxAppName shim
  have sameDaf := @keeps_freeName data.pxDafName
    { first with data := { first.data with pxAppName := none } }
  rw [runApp] at sameApp
  rw [runDaf] at sameDaf
  have equalApp : first.data = shim.data := sameApp
  have equalDaf : second.data = { first.data with pxAppName := none } := sameDaf
  cases run
  simp only [equalDaf, equalApp]

theorem data_of_unregisterEntries {last : ShimState}
    (run : (unregisterEntries shim.data).run shim = .ok true last) :
    last.data = shim.data.cleared := by
  obtain ⟨first, runApp, run⟩ := run_guarded run
  obtain ⟨second, runDaf, run⟩ := run_guarded run
  have app := data_of_unregisterEntry runApp fun absent => by rw [← absent]
  have daf := data_of_unregisterEntry runDaf fun absent => by rw [app, ← absent]
  rw [data_of_freeNames run, daf, app]
  rfl

theorem run_unregister {appName : NameId} (registered : shim.data.pxAppName = some appName)
    (name : NameId) :
    (xShimApplicationUnregister true (some name)).run shim =
      (unregisterEntries shim.data).run shim := by
  simp only [xShimApplicationUnregister, Bool.not_true, Bool.false_eq_true, if_false,
    Option.isNone_some, EStateM.run_bind, EStateM.run_get, registered]

theorem run_freeNames {appName dafName : NameId}
    (foundApp : shim.names.names.get? appName = some .absent)
    (foundDaf : shim.names.names.get? dafName = some .absent) (apart : dafName ≠ appName)
    {data : ShimData} (app : data.pxAppName = some appName) (daf : data.pxDafName = some dafName) :
    ∃ names, (freeNames data).run shim = .ok true
        { shim with data := { shim.data with pxAppName := none, pxDafName := none }, names } ∧
      (∀ other, names.names.get? other =
        if other = appName ∨ other = dafName then none else shim.names.names.get? other) ∧
      ∀ string, names.strings.get? string = shim.names.strings.get? string := by
  obtain ⟨first, runApp, namesApp, stringsApp⟩ := run_vRstrNameFree foundApp
  have stillThere : first.names.get? dafName = some .absent := by
    rw [namesApp, if_neg apart]
    exact foundDaf
  obtain ⟨second, runDaf, namesDaf, stringsDaf⟩ := @run_vRstrNameFree
    { data := { shim.data with pxAppName := none }, names := first, cache := shim.cache } dafName
    stillThere
  refine ⟨second, ?_, fun other => ?_, fun string => ?_⟩
  · rw [freeNames, app, daf, freeName, freeName, run_bind_ok runApp,
      run_bind_ok (run_modifyData _ _), run_bind_ok runDaf, run_bind_ok (run_modifyData _ _)]
    rfl
  · rw [namesDaf]
    by_cases isDaf : other = dafName
    · rw [if_pos isDaf, if_pos (.inr isDaf)]
    · rw [if_neg isDaf, namesApp]
      simp only [isDaf, or_false]
  · rw [stringsDaf, stringsApp]

/-- A lookup finds what it found before. -/
theorem CacheKept.cached_iff {usesArp : Bool} {before after : ArpCache}
    (kept : CacheKept usesArp before after) (rows : after.xArpCache = before.xArpCache)
    (made : ∀ row ∈ before.xArpCache, ∀ pointer, row.pxProtocolAddress = some pointer →
      pointer < before.gpas.next) (contents : List UInt8) :
    after.Cached contents ↔ before.Cached contents := by
  rw [ArpCache.Cached, ArpCache.Cached, rows]
  apply exists_congr
  intro row
  apply and_congr_right
  intro member
  cases points : row.pxProtocolAddress with
  | none => exact Iff.rfl
  | some pointer =>
      simp only [ArpCache.gpa, Option.bind_some, kept.gpas pointer (made row member pointer points)]

/-- Nothing of a DAF and no handle is in the instance data. -/
structure ShimData.Clean (data : ShimData) : Prop where
  pxDafName : data.pxDafName = none
  pxAppHandle : data.pxAppHandle = .null
  pxDafHandle : data.pxDafHandle = .null

theorem ShimData.cleared_eq_iff {data other : ShimData} :
    other.cleared = data ↔
      data.pxAppName = none ∧ data.Clean ∧ other.pxPhyDev = data.pxPhyDev := by
  constructor
  · rintro rfl
    exact ⟨rfl, ⟨rfl, rfl, rfl⟩, rfl⟩
  · rintro ⟨unregistered, ⟨noDaf, noAppHandle, noDafHandle⟩, device⟩
    rw [cleared, device, ← unregistered, ← noAppHandle]
    cases data
    simp only at unregistered noDaf noAppHandle noDafHandle
    rw [unregistered, noDaf, noAppHandle, noDafHandle]

/-- No row takes or has a binding of the names. -/
structure Unbinding (cache : ArpCache) (appText dafText : List UInt8) : Prop where
  full : Full cache
  app : ¬ cache.Cached appText
  daf : ¬ cache.Cached dafText

/-- What a registration leaves that succeeded, `appName` and `dafName` being the duplicates. -/
structure Succeeded (usesArp : Bool) (before after : ShimState) (appText dafText : List UInt8)
    (appName dafName : NameId) : Prop where
  data : after.data = { before.data with
    pxAppName := some appName
    pxAppHandle := after.data.pxAppHandle
    pxDafName := some dafName
    pxDafHandle := after.data.pxDafHandle }
  names : ∃ middle, NameMade before.names middle appName ∧ NameMade middle after.names dafName
  kept : CacheKept usesArp before.cache after.cache
  appHandle : Entered usesArp after.cache appText before.data.pxAppHandle after.data.pxAppHandle
  dafHandle : Entered usesArp after.cache dafText before.data.pxDafHandle after.data.pxDafHandle
  bound : usesArp = true → ¬ Full before.cache → Bound after.cache appText

/-- Entries that are not in the cache are taken back. -/
theorem restored_of_entries {usesArp : Bool} {before after : ShimState}
    {appText dafText : List UInt8} {appName dafName : NameId}
    (succeeded : Succeeded usesArp before after appText dafText appName dafName)
    (unregistered : before.data.pxAppName = none) (clean : before.data.Clean)
    (rows : after.cache.xArpCache = before.cache.xArpCache) {first : ShimState}
    (runApp : (unregisterEntry after.data.pxAppHandle fun data =>
      { data with pxAppHandle := .null }).run after = .ok true first)
    {second : ShimState} (runDaf : (unregisterEntry after.data.pxDafHandle fun data =>
      { data with pxDafHandle := .null }).run first = .ok true second)
    (names : second.names = after.names) (cache : second.cache = after.cache) :
    Wp (unregisterEntries after.data) (fun undone last => undone = true ∧ Restored before last)
      after := by
  obtain ⟨middle, madeApp, madeDaf⟩ := succeeded.names
  have apart : dafName ≠ appName := by
    rintro rfl
    have absent := madeDaf.fresh
    rw [madeApp.found] at absent
    cases absent
  have foundApp : second.names.names.get? appName = some .absent := by
    rw [names, madeDaf.others appName apart.symm]
    exact madeApp.found
  have foundDaf : second.names.names.get? dafName = some .absent := by
    rw [names]
    exact madeDaf.found
  obtain ⟨last, run, namesLast, stringsLast⟩ := @run_freeNames second appName dafName foundApp
    foundDaf apart after.data (by rw [succeeded.data]) (by rw [succeeded.data])
  have returned : (unregisterEntries after.data).run after = .ok true
      { second with
        data := { second.data with pxAppName := none, pxDafName := none }
        names := last } := by
    rw [unregisterEntries, run_bind_ok runApp, if_neg not_not_true, run_bind_ok runDaf,
      if_neg not_not_true, run]
  rw [Wp, returned]
  refine ⟨rfl, ?_, cache ▸ rows, cache ▸ succeeded.kept.keeps, fun name => ?_, fun string => ?_⟩
  · rw [data_of_unregisterEntries returned, ShimData.cleared_eq_iff, succeeded.data]
    exact ⟨unregistered, clean, rfl⟩
  · rw [namesLast, names]
    split
    · next new =>
        rcases new with rfl | rfl
        · exact madeApp.fresh.symm
        · rw [← madeApp.others name apart, madeDaf.fresh]
    · next neither =>
        obtain ⟨notApp, notDaf⟩ := not_or.mp neither
        rw [madeDaf.others name notDaf, madeApp.others name notApp]
  · rw [stringsLast, names, madeDaf.strings, madeApp.strings]

/-- A registration that succeeded can be taken back where the shim had nothing of one, and no row
took a binding or has one. -/
theorem unregisterEntries_iff {usesArp : Bool} {before after : ShimState}
    {appText dafText : List UInt8} {appName dafName : NameId}
    (succeeded : Succeeded usesArp before after appText dafText appName dafName)
    (unregistered : before.data.pxAppName = none) (appPresent : appText ≠ [])
    (dafPresent : dafText ≠ [])
    (made : ∀ row ∈ before.cache.xArpCache, ∀ pointer, row.pxProtocolAddress = some pointer →
      pointer < before.cache.gpas.next) :
    Wp (unregisterEntries after.data) (fun undone last => undone = true ∧ Restored before last)
        after ↔
      before.data.Clean ∧ (usesArp = true → Unbinding before.cache appText dafText) := by
  constructor
  · intro undoes
    obtain ⟨_, last, run, rfl, restored⟩ := wp_iff.mp undoes
    have cleared := (data_of_unregisterEntries run).symm.trans restored.data
    refine ⟨(ShimData.cleared_eq_iff.mp cleared).2.1, ?_⟩
    rintro rfl
    obtain ⟨first, runApp, rest⟩ := run_guarded run
    obtain ⟨second, runDaf, -⟩ := run_guarded rest
    obtain ⟨missing, taken⟩ := @unregisterEntry_of_handled _ _
      (fun data => { data with pxAppHandle := .null }) _ succeeded.appHandle appPresent
    have noApp : ¬ after.cache.Cached appText := fun cached => taken cached first runApp
    have full : Full before.cache :=
      Classical.byContradiction fun room => noApp (succeeded.bound rfl room).cached
    have same := succeeded.kept.rows fun _ => full
    rw [missing noApp] at runApp
    cases runApp
    have noDaf : ¬ after.cache.Cached dafText := fun cached =>
      (@unregisterEntry_of_handled { after with data := { after.data with pxAppHandle := .null } }
        _ _ _ succeeded.dafHandle dafPresent).2 cached second runDaf
    rw [succeeded.kept.cached_iff same made] at noApp noDaf
    exact ⟨full, noApp, noDaf⟩
  · rintro ⟨clean, unbinding⟩
    cases usesArp with
    | false =>
        have noApp : after.data.pxAppHandle = .null := succeeded.appHandle.trans clean.pxAppHandle
        have noDaf : after.data.pxDafHandle = .null := succeeded.dafHandle.trans clean.pxDafHandle
        exact restored_of_entries succeeded unregistered clean (succeeded.kept.rows nofun)
          (noApp ▸ unregisterEntry_null) (noDaf ▸ unregisterEntry_null) rfl rfl
    | true =>
        obtain ⟨full, noApp, noDaf⟩ := unbinding rfl
        have same := succeeded.kept.rows fun _ => full
        rw [← succeeded.kept.cached_iff same made] at noApp noDaf
        have runDaf := (@unregisterEntry_of_handled
          { after with data := { after.data with pxAppHandle := .null } } _
          (fun data => { data with pxDafHandle := .null }) _ succeeded.dafHandle dafPresent).1 noDaf
        exact restored_of_entries succeeded unregistered clean same
          ((unregisterEntry_of_handled succeeded.appHandle appPresent).1 noApp) runDaf rfl rfl

end Undoing

/-! ## Both registrations -/

section Both

variable {usesArp : Bool} {outcomes : Outcomes} {xType : GhaType} {call : Call}
  {before : ShimState}

/-- The names of a call are in memory, and no row points to an address yet to be made. -/
structure Offered (call : Call) (before : ShimState) : Prop where
  app : ∀ name, call.pxAppName = some name → ∃ source, before.names.Holds name source
  daf : ∀ name, call.pxDafName = some name → ∃ source, before.names.Holds name source
  made : ∀ row ∈ before.cache.xArpCache, ∀ pointer, row.pxProtocolAddress = some pointer →
    pointer < before.cache.gpas.next

/-- A call that is turned down before anything changes. -/
def TurnedDown (outcomes : Outcomes) (call : Call) (before : ShimState) : Prop :=
  call.pxData = false ∨ call.pxAppName = none ∨ before.data.pxAppName ≠ none ∨
    outcomes.appName 0 = false

/-- A call for which there is everything, and of which no row takes a binding or has one. -/
structure Undoable (usesArp : Bool) (outcomes : Outcomes) (before : ShimState)
    (appSource dafSource : NamePointers) : Prop where
  appName : DuplicateGranted outcomes.appName appSource
  granted : Granted usesArp outcomes dafSource
  clean : before.data.Clean
  unbinding : usesArp = true → Unbinding before.cache (addressText before.names appSource)
    (addressText before.names dafSource)

def Orderly (usesArp : Bool) (outcomes : Outcomes) (call : Call) (before : ShimState) : Prop :=
  TurnedDown outcomes call before ∨ ∃ pxAppName pxDafName appSource dafSource,
    call.pxAppName = some pxAppName ∧ call.pxDafName = some pxDafName ∧
      before.names.Holds pxAppName appSource ∧ before.names.Holds pxDafName dafSource ∧
        Undoable usesArp outcomes before appSource dafSource

theorem restored_of_data {after : ShimState} (data : after.data = before.data)
    (cache : after.cache = before.cache) (names : after.names.names = before.names.names)
    (strings : after.names.strings = before.names.strings) : Restored before after where
  data := data
  rows := by rw [cache]
  addresses := cache ▸ .refl _
  names := fun _ => by rw [names]
  strings := fun _ => by rw [strings]

theorem conforms_false_iff {after : ShimState} :
    Conforms call before false after ↔ Restored before after := by
  rw [Conforms, if_neg Bool.false_ne_true]

/-- The registered name is what keeps a registration that failed from being taken back. -/
theorem registered_of_conforms {command : ShimCommand Bool} {shim : ShimState} {appName : NameId}
    (unregistered : before.data.pxAppName = none) (registered : shim.data.pxAppName = some appName)
    (keeps : Keeps SameName command) (conforms : Wp command (Conforms call before) shim) :
    ∃ after, command.run shim = .ok true after ∧ Conforms call before true after := by
  obtain ⟨value, after, run, holds⟩ := wp_iff.mp conforms
  cases value with
  | true => exact ⟨after, run, holds⟩
  | false =>
      have same := keeps shim
      rw [run] at same
      have left : after.data.pxAppName = shim.data.pxAppName := same
      rw [(conforms_false_iff.mp holds).data, unregistered, registered] at left
      cases left

/-- What follows the duplication of the name of the application. -/
theorem registerAddresses_iff {pxAppName pxDafName appName : NameId}
    {appSource dafSource : NamePointers} {names : NameHeap} (offered : Offered call before)
    (unregistered : before.data.pxAppName = none) (data : call.pxData = true)
    (app : call.pxAppName = some pxAppName) (heldApp : before.names.Holds pxAppName appSource)
    (heldDaf : before.names.Holds pxDafName dafSource)
    (made : NameMade before.names names appName) :
    Wp (registerAddresses usesArp outcomes xType pxAppName (some pxDafName) appName)
        (Conforms call before)
        { before with data := { before.data with pxAppName := some appName }, names } ↔
      Granted usesArp outcomes dafSource ∧ before.data.Clean ∧
        (usesArp = true → Unbinding before.cache (addressText before.names appSource)
          (addressText before.names dafSource)) := by
  obtain ⟨returns, needs⟩ := @registerAddresses_settles usesArp outcomes
    { before with data := { before.data with pxAppName := some appName }, names } pxDafName
    dafSource xType pxAppName appName appSource (made.holds heldApp) (made.holds heldDaf)
  have undoes : ∀ after dafName, Registered usesArp
      { before with data := { before.data with pxAppName := some appName }, names } after
      (addressText names appSource) (addressText names dafSource) dafName →
        (Conforms call before true after ↔ before.data.Clean ∧
          (usesArp = true → Unbinding before.cache (addressText before.names appSource)
            (addressText before.names dafSource))) := by
    intro after dafName registered
    have succeeded : Succeeded usesArp before after (addressText names appSource)
        (addressText names dafSource) appName dafName :=
      ⟨registered.data, ⟨names, made, registered.made⟩, registered.kept, registered.appHandle,
        registered.dafHandle, registered.bound⟩
    have name : after.data.pxAppName = some appName := by rw [registered.data]
    rw [Conforms, if_pos rfl, data, app, Wp, run_unregister name, ← made.addressText,
      ← made.addressText]
    exact unregisterEntries_iff succeeded unregistered (addressText_ne_nil names appSource)
      (addressText_ne_nil names dafSource) offered.made
  constructor
  · intro conforms
    obtain ⟨after, run, holds⟩ :=
      registered_of_conforms unregistered rfl (keeps_registerAddresses _ _ _ _) conforms
    have granted := needs after run
    obtain ⟨_, same, dafName, registered⟩ := returns granted
    rw [run] at same
    cases same
    exact ⟨granted, (undoes after dafName registered).mp holds⟩
  · rintro ⟨granted, undoable⟩
    obtain ⟨after, run, dafName, registered⟩ := returns granted
    exact wp_iff.mpr ⟨true, after, run, (undoes after dafName registered).mpr undoable⟩

theorem not_turnedDown {pxAppName : NameId} (data : call.pxData = true)
    (app : call.pxAppName = some pxAppName) (unregistered : before.data.pxAppName = none)
    (memory : outcomes.appName 0 = true) : ¬ TurnedDown outcomes call before := by
  rintro (absent | absent | other | refused)
  · exact Bool.false_ne_true (absent.symm.trans data)
  · rw [app] at absent
    cases absent
  · exact other unregistered
  · exact Bool.false_ne_true (refused.symm.trans memory)

theorem registerNames_iff {pxAppName : NameId} (offered : Offered call before)
    (unregistered : before.data.pxAppName = none) (data : call.pxData = true)
    (app : call.pxAppName = some pxAppName) :
    Wp (registerNames usesArp outcomes xType pxAppName call.pxDafName) (Conforms call before)
        before ↔ Orderly usesArp outcomes call before := by
  obtain ⟨appSource, heldApp⟩ := offered.app pxAppName app
  have sameApp : ∀ {name source}, call.pxAppName = some name → before.names.Holds name source →
      source = appSource := by
    intro name source found held
    obtain rfl := Option.some.inj (app.symm.trans found)
    exact Option.some.inj (held.found.symm.trans heldApp.found)
  by_cases duplicates : DuplicateGranted outcomes.appName appSource
  · have accepted := not_turnedDown data app unregistered duplicates.1
    obtain ⟨appName, names, run, made⟩ := run_duplicate heldApp duplicates
    rw [registerNames, Wp, run_bind_ok run, run_bind_ok (run_modifyData _ _), Orderly,
      or_iff_right accepted]
    cases daf : call.pxDafName with
    | none =>
        refine iff_of_false (fun conforms => ?_) ?_
        · obtain ⟨after, returned, -⟩ :=
            registered_of_conforms unregistered rfl (keeps_registerAddresses _ _ _ _) conforms
          exact never_of_returnsOnly (registerAddresses_null_returnsOnly _ _ _) after returned
        · rintro ⟨_, _, _, _, -, absent, -⟩
          cases absent
    | some pxDafName =>
        obtain ⟨dafSource, heldDaf⟩ := offered.daf pxDafName daf
        apply (registerAddresses_iff offered unregistered data app heldApp heldDaf made).trans
        constructor
        · rintro ⟨granted, clean, unbinding⟩
          exact ⟨pxAppName, pxDafName, appSource, dafSource, app, rfl, heldApp, heldDaf, duplicates,
            granted, clean, unbinding⟩
        · rintro ⟨name, other, source, otherSource, found, same, held, heldOther, undoable⟩
          obtain rfl := sameApp found held
          obtain rfl := Option.some.inj same
          obtain rfl := Option.some.inj (heldOther.found.symm.trans heldDaf.found)
          exact ⟨undoable.granted, undoable.clean, undoable.unbinding⟩
  · rcases run_duplicate_not heldApp duplicates with ⟨refused, run⟩ | ⟨memory, next, run⟩
    · rw [registerNames, Wp, run_bind_ok run, run_bind_ok (run_modifyData _ _)]
      refine iff_of_true (conforms_false_iff.mpr (restored_of_data ?_ rfl rfl rfl))
        (.inl (.inr (.inr (.inr refused))))
      rw [← unregistered]
    · rw [registerNames, Wp, run_bind_error run]
      refine iff_of_false id ?_
      rintro (turnedDown | ⟨name, _, source, _, found, -, held, -, undoable⟩)
      · exact not_turnedDown data app unregistered memory turnedDown
      · obtain rfl := sameApp found held
        exact duplicates undoable.appName

theorem applicationRegister_iff (offered : Offered call before) :
    Wp (applicationRegister usesArp outcomes xType call) (Conforms call before) before ↔
      Orderly usesArp outcomes call before := by
  have unchanged : Conforms call before false before :=
    conforms_false_iff.mpr (restored_of_data rfl rfl rfl rfl)
  cases data : call.pxData with
  | false =>
      refine iff_of_true ?_ (.inl (.inl data))
      rw [applicationRegister, data]
      exact unchanged
  | true =>
      cases app : call.pxAppName with
      | none =>
          refine iff_of_true ?_ (.inl (.inr (.inl app)))
          rw [applicationRegister, data, app]
          exact unchanged
      | some pxAppName =>
          rw [applicationRegister, data, app, if_neg not_not_true, wp_bind, wp_get]
          cases unregistered : before.data.pxAppName with
          | some other =>
              refine iff_of_true unchanged (.inl (.inr (.inr (.inl ?_))))
              rw [unregistered]
              exact nofun
          | none => exact registerNames_iff offered unregistered data app

theorem xShimApplicationRegister_iff (offered : Offered call before) :
    Wp (xShimApplicationRegister outcomes call) (Conforms call before) before ↔
      Orderly true outcomes call before :=
  applicationRegister_iff offered

theorem xShim802154ApplicationRegister_iff (offered : Offered call before) :
    Wp (xShim802154ApplicationRegister outcomes call) (Conforms call before) before ↔
      Orderly false outcomes call before :=
  applicationRegister_iff offered

/-- A registration leaves nothing behind or can be taken back where the call is turned down before
anything changes, or there is everything it asks for, the shim has nothing of a DAF and no handle,
and, with ARP, the cache is full of other bindings. -/
theorem registrations_iff (offered : Offered call before) :
    (Wp (xShimApplicationRegister outcomes call) (Conforms call before) before ↔
      Orderly true outcomes call before) ∧
    (Wp (xShim802154ApplicationRegister outcomes call) (Conforms call before) before ↔
      Orderly false outcomes call before) :=
  ⟨xShimApplicationRegister_iff offered, xShim802154ApplicationRegister_iff offered⟩

end Both

/-- There is memory for everything. -/
def unlimited : Outcomes where
  appName := fun _ => true
  appAddress := ⟨true, true, true⟩
  gha := true
  appHandle := true
  dafName := fun _ => true
  dafAddress := ⟨true, true, true⟩
  dafHandle := true

/-- The first registration of a shim with a new cache. -/
def firstShim : ShimState where
  data := ⟨none, none, .null, .null, ⟨Vector.replicate 6 0⟩⟩
  names := .single
  cache :=
    { gpas := (Store.empty.allocate ⟨some [0]⟩).1
      ghas := (Store.empty.allocate ghaUnknown).1
      xArpCache := List.replicate arpCacheEntries ⟨some 0, some 0, 0, false⟩ }

def firstCall : Call where
  pxData := true
  pxAppName := some 0
  pxDafName := some 1

theorem offered_first : Offered firstCall firstShim where
  app := by
    rintro name ⟨⟩
    exact ⟨_, single_holds⟩
  daf := by
    rintro name ⟨⟩
    exact ⟨_, single_holds_absent⟩
  made := by
    intro row member pointer points
    rw [List.eq_of_mem_replicate member] at points
    cases points
    exact Nat.zero_lt_one

theorem registrations_iff_first :
    (Wp (xShimApplicationRegister unlimited firstCall) (Conforms firstCall firstShim) firstShim ↔
      Orderly true unlimited firstCall firstShim) ∧
    (Wp (xShim802154ApplicationRegister unlimited firstCall) (Conforms firstCall firstShim)
        firstShim ↔ Orderly false unlimited firstCall firstShim) :=
  registrations_iff offered_first

theorem not_turnedDown_first (gha : Bool) :
    ¬ TurnedDown { unlimited with gha } firstCall firstShim :=
  @not_turnedDown { unlimited with gha } firstCall firstShim 0 rfl rfl rfl rfl

theorem not_full_first : ¬ Full firstShim.cache := by
  intro full
  have valid := full ⟨some 0, some 0, 0, false⟩ (List.mem_replicate.mpr ⟨by decide, rfl⟩)
  cases valid

/-- The first registration cannot be taken back, and one without memory for an address leaves the
name of the application behind. -/
theorem first_registration_left :
    ¬ Wp (xShimApplicationRegister unlimited firstCall) (Conforms firstCall firstShim) firstShim ∧
    ¬ Wp (xShim802154ApplicationRegister { unlimited with gha := false } firstCall)
      (Conforms firstCall firstShim) firstShim := by
  rw [xShimApplicationRegister_iff offered_first, xShim802154ApplicationRegister_iff offered_first]
  constructor
  · rintro (turnedDown | ⟨_, _, _, _, -, -, -, -, undoable⟩)
    · exact not_turnedDown_first true turnedDown
    · exact not_full_first (undoable.unbinding rfl).full
  · rintro (turnedDown | ⟨_, _, _, _, -, -, -, -, undoable⟩)
    · exact not_turnedDown_first false turnedDown
    · exact Bool.false_ne_true undoable.granted.gha

end Registration

end RinaSense
