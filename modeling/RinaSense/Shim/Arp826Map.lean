import Mathlib.Logic.Function.Basic
import RinaSense.Library.Trace
import RinaSense.Shim.Arp826

/-!
# The ARP cache as a map

What the rows are to stand for: a map from the contents of protocol addresses to
hardware addresses. The lookup of a hardware address does not depend on the address
looked up, so the cache tells the map only as long as nothing is bound.
-/

namespace RinaSense

open Command

/-! ## Runs -/

/-- A pointer to a well-formed protocol address in memory. -/
def ArpCache.GpaRef (cache : ArpCache) : Type :=
  { pointer : GpaId // xIsGpaOk (cache.gpa (some pointer)) = true }

/-- A pointer to a hardware address in memory. -/
def ArpCache.GhaRef (cache : ArpCache) : Type :=
  { pointer : GhaId // xIsGhaOk (cache.gha (some pointer)) = true }

/-- The calls of a run, on addresses that are in memory from the start. The calls
that check their addresses are made with any. -/
inductive ArpOp (heap : ArpCache) where
  | add (pxPa : Option GpaId) (pxHa : Option GhaId)
  | addCacheEntry (pxPa : heap.GpaRef) (pxHa : heap.GhaRef) (ucAge : UInt8)
  | refresh (pxGpa : heap.GpaRef) (pxMacAddress : Option heap.GhaRef)
  | remove (pxPa : Option GpaId) (pxHa : Option GhaId)
  | lookupGha (gpa : Option Gpa)
  | lookupGpa (gpa : Option Gpa)

/-- The cache with the hardware address bound last to the contents of each protocol
address. -/
structure BoundArp where
  cache : ArpCache
  bound : List UInt8 → Option MacAddress

namespace BoundArp

/-- The bindings after two addresses were bound, if both are well formed. -/
def bind (run : BoundArp) (pxPa : Option GpaId) (pxHa : Option GhaId) :
    List UInt8 → Option MacAddress :=
  match run.cache.gpa pxPa, run.cache.gha pxHa with
  | some gpa, some gha =>
      if xIsGpaOk (some gpa) then Function.update run.bound gpa.contents (some gha.xAddress)
      else run.bound
  | _, _ => run.bound

/-- The bindings after an address was removed, if the call is well formed. -/
def unbind (run : BoundArp) (pxPa : Option GpaId) (pxHa : Option GhaId) :
    List UInt8 → Option MacAddress :=
  match run.cache.gpa pxPa, run.cache.gha pxHa with
  | some gpa, some _ =>
      if xIsGpaOk (some gpa) then Function.update run.bound gpa.contents none else run.bound
  | _, _ => run.bound

variable {heap : ArpCache}

/-- What a call is to make of the bindings. -/
def rebind (run : BoundArp) : ArpOp heap → List UInt8 → Option MacAddress
  | .add pxPa pxHa => run.bind pxPa pxHa
  | .addCacheEntry pxPa pxHa _ => run.bind (some pxPa.val) (some pxHa.val)
  | .refresh pxGpa (some pxMacAddress) => run.bind (some pxGpa.val) (some pxMacAddress.val)
  | .refresh _ none => run.bound
  | .remove pxPa pxHa => run.unbind pxPa pxHa
  | .lookupGha _ | .lookupGpa _ => run.bound

def operate : ArpOp heap → Arp Unit
  | .add pxPa pxHa => do let _ ← pxArpAdd pxPa pxHa
  | .addCacheEntry pxPa pxHa ucAge => vArpAddCacheEntry ⟨pxPa.val, pxHa.val⟩ ucAge
  | .refresh pxGpa pxMacAddress => vArpRefreshCacheEntry pxGpa.val (pxMacAddress.map (·.val))
  | .remove pxPa pxHa => do let _ ← xArpRemove pxPa pxHa
  | .lookupGha gpa => do let _ ← pxArpLookupGha gpa
  | .lookupGpa gpa => do let _ ← eArpLookupGpa gpa

def perform (operation : ArpOp heap) : EStateM Fault BoundArp Unit := do
  let run ← get
  match (operate operation).run run.cache with
  | .ok _ cache => set ({ cache, bound := run.rebind operation } : BoundArp)
  | .error fault _ => throw fault

/-- The memory `heap` after the initialisation of the cache. -/
def initial (heap : ArpCache) (leftover : Vector UInt8 3) : BoundArp where
  cache := final ((vArpInitCache leftover).run heap)
  bound := fun _ => none

/-- Lookups tell the bindings, and no two valid rows hold the same address. -/
structure Tells (run : BoundArp) : Prop where
  gha : ∀ gpa, xIsGpaOk (some gpa) = true → ∃ found after,
    (pxArpLookupGha (some gpa)).run run.cache = .ok found after ∧
      found.map Gha.xAddress = run.bound gpa.contents
  gpa : ∀ gpa, xIsGpaOk (some gpa) = true → ∃ result after,
    (eArpLookupGpa (some gpa)).run run.cache = .ok result after ∧
      (result = .cacheHit ↔ (run.bound gpa.contents).isSome)
  single : ∀ (x y : Nat) (row other : ArpCacheRow), run.cache.xArpCache[x]? = some row →
    run.cache.xArpCache[y]? = some other → row.ucValid = true → other.ucValid = true →
      xGpaCmp (run.cache.gpa row.pxProtocolAddress) (run.cache.gpa other.pxProtocolAddress) = true →
        x = y

/-- A step that returns, with the bindings told afterwards. -/
def Properly (result : EStateM.Result Fault BoundArp Unit) : Prop :=
  ∃ after, result = .ok () after ∧ after.Tells

/-- A call that binds a hardware address. -/
def Binds (run : BoundArp) : ArpOp heap → Prop
  | .add pxPa pxHa => xIsGpaOk (run.cache.gpa pxPa) = true ∧ xIsGhaOk (run.cache.gha pxHa) = true
  | .addCacheEntry _ _ _ => True
  | .refresh _ pxMacAddress => pxMacAddress.isSome
  | .remove _ _ | .lookupGha _ | .lookupGpa _ => False

end BoundArp

/-! ## Nothing bound -/

/-- A row that is not valid and is not taken for a resolved one. -/
def ArpCacheRow.Idle (row : ArpCacheRow) : Prop := row.ucValid = false ∧ row.ucAge ≠ 3

theorem idle_modify {rows : List ArpCacheRow} (idle : ∀ row ∈ rows, row.Idle) (x : Nat)
    {change : ArpCacheRow → ArpCacheRow} (kept : ∀ row, row.Idle → (change row).Idle) :
    ∀ row ∈ rows.modify x change, row.Idle := by
  induction rows generalizing x with
  | nil => simp
  | cons first rows ih =>
      cases x with
      | zero =>
          intro row member
          rw [List.modify_zero_cons, List.mem_cons] at member
          rcases member with rfl | member
          · exact kept first (idle first List.mem_cons_self)
          · exact idle row (List.mem_cons_of_mem _ member)
      | succ x =>
          intro row member
          rw [List.modify_succ_cons, List.mem_cons] at member
          rcases member with rfl | member
          · exact idle _ List.mem_cons_self
          · exact ih (fun other included => idle other (List.mem_cons_of_mem _ included)) x row member

/-- Memory that still has the addresses there were at the start. -/
structure ArpCache.Keeps (heap cache : ArpCache) : Prop where
  gpas : ∀ pointer gpa, heap.gpas.get? pointer = some gpa → cache.gpas.get? pointer = some gpa
  ghas : ∀ pointer gha, heap.ghas.get? pointer = some gha → cache.ghas.get? pointer = some gha

namespace ArpCache.Keeps

theorem refl (cache : ArpCache) : cache.Keeps cache :=
  ⟨fun _ _ found => found, fun _ _ found => found⟩

theorem trans {heap middle cache : ArpCache} (first : heap.Keeps middle)
    (second : middle.Keeps cache) : heap.Keeps cache where
  gpas := fun pointer gpa found => second.gpas pointer gpa (first.gpas pointer gpa found)
  ghas := fun pointer gha found => second.ghas pointer gha (first.ghas pointer gha found)

/-- Well-formed addresses stay what they were. -/
theorem gpa {heap cache : ArpCache} (kept : heap.Keeps cache) (pxGpa : heap.GpaRef) :
    ∃ gpa, cache.gpa (some pxGpa.val) = some gpa ∧ xIsGpaOk (some gpa) = true := by
  obtain ⟨pointer, ok⟩ := pxGpa
  cases found : heap.gpas.get? pointer with
  | none =>
      rw [ArpCache.gpa, Option.bind_some, found] at ok
      cases ok
  | some gpa =>
      rw [ArpCache.gpa, Option.bind_some, found] at ok
      exact ⟨gpa, kept.gpas pointer gpa found, ok⟩

theorem gha {heap cache : ArpCache} (kept : heap.Keeps cache) (pxGha : heap.GhaRef) :
    ∃ gha, cache.gha (some pxGha.val) = some gha := by
  obtain ⟨pointer, ok⟩ := pxGha
  cases found : heap.ghas.get? pointer with
  | none =>
      rw [ArpCache.gha, Option.bind_some, found] at ok
      cases ok
  | some gha => exact ⟨gha, kept.ghas pointer gha found⟩

theorem newGpa (cache : ArpCache) (pucAddress : List UInt8) :
    cache.Keeps (cache.newGpa pucAddress).1 := by
  rw [ArpCache.newGpa]
  cases pxCreateGpa pucAddress with
  | none => exact refl cache
  | some gpa =>
      refine ⟨fun pointer other found => ?_, fun _ _ found => found⟩
      exact (cache.gpas.get?_allocate_of_lt gpa (Store.lt_next found)).trans found

theorem newGha (cache : ArpCache) (gha : Gha) : cache.Keeps (cache.newGha gha).1 where
  gpas := fun _ _ found => found
  ghas := fun _ _ found => (cache.ghas.get?_allocate_of_lt gha (Store.lt_next found)).trans found

end ArpCache.Keeps

section Commands

variable {cache : ArpCache}

@[simp] theorem xArpCache_newGpa (pucAddress : List UInt8) :
    (cache.newGpa pucAddress).1.xArpCache = cache.xArpCache := by
  rw [ArpCache.newGpa]
  cases pxCreateGpa pucAddress <;> rfl

/-- A null entry is idle, and nothing else changes than that it has addresses. -/
theorem run_nullCacheEntry (cache : ArpCache) (pucAddress : List UInt8) :
    ∃ row after, (nullCacheEntry pucAddress).run cache = .ok row after ∧ row.Idle ∧
      after.xArpCache = cache.xArpCache ∧ cache.Keeps after := by
  refine ⟨_, _, rfl, ⟨rfl, (by decide : (0 : UInt8) ≠ 3)⟩, ?_, ?_⟩
  · exact xArpCache_newGpa pucAddress
  · exact (ArpCache.Keeps.newGha cache ghaUnknown).trans (ArpCache.Keeps.newGpa _ pucAddress)

/-- Without a row of age 3 no hardware address is found. -/
theorem run_lookupGha_idle (idle : ∀ row ∈ cache.xArpCache, row.Idle) (gpa : Option Gpa) :
    (pxArpLookupGha gpa).run cache = .ok none cache := by
  have nowhere : cache.xArpCache.find? (fun row => row.ucAge == 3) = none := by
    rw [List.find?_eq_none]
    intro row member aged
    exact (idle row member).2 (by simpa using aged)
  simp only [pxArpLookupGha, EStateM.run_bind, EStateM.run_get, nowhere, EStateM.run_pure]

/-- Without a valid row no lookup of a protocol address hits. -/
theorem run_lookupGpa_idle (idle : ∀ row ∈ cache.xArpCache, row.Idle) (gpa : Option Gpa) :
    ∃ result, (eArpLookupGpa gpa).run cache = .ok result cache ∧ result ≠ .cacheHit := by
  simp only [eArpLookupGpa, EStateM.run_bind, EStateM.run_get]
  split
  · next row found =>
      have invalid := (idle row (List.mem_of_find?_eq_some found)).1
      simp only [invalid, Bool.false_eq_true, if_false, EStateM.run_pure]
      exact ⟨.cantSendPacket, rfl, by decide⟩
  · exact ⟨.cacheMiss, rfl, by decide⟩

/-- Without a hardware address the loop reads none, and it tells which row is to be
used. -/
theorem run_scanRows_reserve (pxGpa : GpaId) (rows : List ArpCacheRow) (x xUseEntry : Nat)
    (ucMinAgeFound : UInt8) :
    ∃ xIpcpEntry use, (scanRows pxGpa none rows x none none xUseEntry ucMinAgeFound).run cache =
      .ok (.rows xIpcpEntry none use) cache := by
  induction rows generalizing x xUseEntry ucMinAgeFound with
  | nil => exact ⟨none, xUseEntry, rfl⟩
  | cons row rows ih =>
      simp only [scanRows, EStateM.run_bind, EStateM.run_pure, Option.isNone_none, if_true,
        Bool.false_eq_true, if_false]
      split
      · exact ⟨some x, xUseEntry, rfl⟩
      · split
        · exact ih (x + 1) x row.ucAge
        · exact ih (x + 1) xUseEntry ucMinAgeFound

/-- A row reserved for an outstanding request is idle. -/
theorem run_refresh_reserve (idle : ∀ row ∈ cache.xArpCache, row.Idle) (pxGpa : GpaId) :
    ∃ rows, (vArpRefreshCacheEntry pxGpa none).run cache =
        .ok () { cache with xArpCache := rows } ∧ ∀ row ∈ rows, row.Idle := by
  obtain ⟨xIpcpEntry, use, scanned⟩ :=
    @run_scanRows_reserve cache pxGpa cache.xArpCache 0 0 255
  have pointed : ∀ x, ∀ row ∈ cache.xArpCache.modify x
      (fun row => { row with pxProtocolAddress := some pxGpa }), row.Idle :=
    fun x => idle_modify idle x fun row isIdle => isIdle
  simp only [vArpRefreshCacheEntry, EStateM.run_bind, EStateM.run_pure, EStateM.run_get, scanned]
  cases xIpcpEntry with
  | some x => exact ⟨_, rfl, pointed x⟩
  | none =>
      refine ⟨_, rfl, idle_modify (pointed use) use fun row _ => ⟨rfl, ?_⟩⟩
      exact (by decide : maxArpRetransmissions ≠ 3)

/-- Removing an entry leaves all rows idle. -/
theorem run_removeCacheEntry_idle (idle : ∀ row ∈ cache.xArpCache, row.Idle) (gpa : Option Gpa) :
    ∃ after, (vArpRemoveCacheEntry gpa).run cache = .ok () after ∧
      (∀ row ∈ after.xArpCache, row.Idle) ∧ cache.Keeps after := by
  obtain ⟨null, between, run, nullIdle, rows, kept⟩ :=
    run_nullCacheEntry cache [0x4E, 0x55, 0x4C, 0x4C]
  simp only [vArpRemoveCacheEntry, EStateM.run_bind, run, EStateM.run_get]
  split
  · next x found =>
      refine ⟨_, rfl, ?_, ⟨kept.gpas, kept.ghas⟩⟩
      intro row member
      rcases List.mem_or_eq_of_mem_set member with old | rfl
      · exact idle row (rows ▸ old)
      · exact nullIdle
  · refine ⟨_, rfl, ?_, kept⟩
    rw [rows]
    exact idle

theorem run_arpRemove_idle (idle : ∀ row ∈ cache.xArpCache, row.Idle) (pxPa : Option GpaId)
    (pxHa : Option GhaId) :
    ∃ value after, (xArpRemove pxPa pxHa).run cache = .ok value after ∧
      (∀ row ∈ after.xArpCache, row.Idle) ∧ cache.Keeps after := by
  obtain ⟨result, lookup, -⟩ := run_lookupGpa_idle idle (cache.gpa pxPa)
  simp only [xArpRemove, EStateM.run_bind, EStateM.run_get]
  split
  · exact ⟨false, cache, rfl, idle, .refl cache⟩
  · split
    · exact ⟨false, cache, rfl, idle, .refl cache⟩
    · simp only [EStateM.run_bind, lookup]
      split
      · exact ⟨false, cache, rfl, idle, .refl cache⟩
      · obtain ⟨after, run, afterIdle, kept⟩ := run_removeCacheEntry_idle idle (cache.gpa pxPa)
        simp only [EStateM.run_bind, run]
        exact ⟨true, after, rfl, afterIdle, kept⟩

/-- Addresses that are not both well formed are refused. -/
theorem run_arpAdd_refused {pxPa : Option GpaId} {pxHa : Option GhaId}
    (refused : ¬ (xIsGpaOk (cache.gpa pxPa) = true ∧ xIsGhaOk (cache.gha pxHa) = true)) :
    (pxArpAdd pxPa pxHa).run cache = .ok none cache := by
  cases gpa : xIsGpaOk (cache.gpa pxPa) with
  | false => simp [pxArpAdd, gpa]
  | true =>
      have gha : xIsGhaOk (cache.gha pxHa) = false := by
        rw [gpa] at refused
        simpa using refused
      simp [pxArpAdd, gpa, gha]

end Commands

/-! ## Steps -/

namespace BoundArp

variable {heap : ArpCache} {run : BoundArp}

/-- Nothing is bound, and no row looks as if. -/
structure Unbound (heap : ArpCache) (run : BoundArp) : Prop where
  bound : run.bound = fun _ => none
  idle : ∀ row ∈ run.cache.xArpCache, row.Idle
  kept : heap.Keeps run.cache

theorem Unbound.tells (unbound : run.Unbound heap) : run.Tells where
  gha := by
    intro gpa _
    refine ⟨none, run.cache, run_lookupGha_idle unbound.idle _, ?_⟩
    rw [unbound.bound]
    rfl
  gpa := by
    intro gpa _
    obtain ⟨result, lookup, misses⟩ := run_lookupGpa_idle unbound.idle (some gpa)
    refine ⟨result, run.cache, lookup, ?_⟩
    rw [unbound.bound]
    simp [misses]
  single := by
    intro x y row other here _ valid _ _
    have idle := unbound.idle row (List.mem_of_getElem? here)
    rw [idle.1] at valid
    cases valid

/-- What a call that binds nothing does to the memory. -/
theorem operate_unbound (unbound : run.Unbound heap) {operation : ArpOp heap}
    (binds : ¬ run.Binds operation) :
    ∃ after, (operate operation).run run.cache = .ok () after ∧
      (∀ row ∈ after.xArpCache, row.Idle) ∧ run.cache.Keeps after := by
  cases operation with
  | add pxPa pxHa =>
      simp only [operate, EStateM.run_bind, run_arpAdd_refused binds]
      exact ⟨_, rfl, unbound.idle, .refl _⟩
  | addCacheEntry pxPa pxHa ucAge => exact absurd trivial binds
  | refresh pxGpa pxMacAddress =>
      cases pxMacAddress with
      | some pxMacAddress => exact absurd rfl binds
      | none =>
          obtain ⟨rows, ran, idle⟩ := run_refresh_reserve unbound.idle pxGpa.val
          exact ⟨_, ran, idle, ⟨fun _ _ found => found, fun _ _ found => found⟩⟩
  | remove pxPa pxHa =>
      obtain ⟨value, after, ran, idle, kept⟩ := run_arpRemove_idle unbound.idle pxPa pxHa
      simp only [operate, EStateM.run_bind, ran]
      exact ⟨after, rfl, idle, kept⟩
  | lookupGha gpa =>
      simp only [operate, EStateM.run_bind, run_lookupGha_idle unbound.idle gpa]
      exact ⟨_, rfl, unbound.idle, .refl _⟩
  | lookupGpa gpa =>
      obtain ⟨result, lookup, -⟩ := run_lookupGpa_idle unbound.idle gpa
      simp only [operate, EStateM.run_bind, lookup]
      exact ⟨_, rfl, unbound.idle, .refl _⟩

/-- Where nothing is bound, a call that binds nothing leaves it so. -/
theorem rebind_unbound (unbound : run.Unbound heap) {operation : ArpOp heap}
    (binds : ¬ run.Binds operation) : run.rebind operation = fun _ => none := by
  cases operation with
  | add pxPa pxHa =>
      simp only [rebind, bind]
      split
      · next gpa gha foundGpa foundGha =>
          split
          · next ok =>
              refine absurd ⟨?_, ?_⟩ binds
              · rw [foundGpa]
                exact ok
              · rw [foundGha]
                rfl
          · exact unbound.bound
      · exact unbound.bound
  | addCacheEntry pxPa pxHa ucAge => exact absurd trivial binds
  | refresh pxGpa pxMacAddress =>
      cases pxMacAddress with
      | some pxMacAddress => exact absurd rfl binds
      | none => exact unbound.bound
  | remove pxPa pxHa =>
      simp only [rebind, unbind, unbound.bound]
      split
      · split
        · exact Function.update_eq_self _ _
        · rfl
      · rfl
  | lookupGha gpa => exact unbound.bound
  | lookupGpa gpa => exact unbound.bound

theorem perform_unbound (unbound : run.Unbound heap) {operation : ArpOp heap}
    (binds : ¬ run.Binds operation) :
    ∃ after, (perform operation).run run = .ok () after ∧ after.Unbound heap := by
  obtain ⟨cache, ran, idle, kept⟩ := operate_unbound unbound binds
  refine ⟨⟨cache, run.rebind operation⟩, ?_, rebind_unbound unbound binds, idle,
    unbound.kept.trans kept⟩
  simp only [perform, EStateM.run_bind, EStateM.run_get, ran]
  rfl

/-- Where nothing is bound, a call that binds makes the one binding there is. -/
theorem rebind_bound (unbound : run.Unbound heap) {operation : ArpOp heap}
    (binds : run.Binds operation) :
    ∃ gpa address, xIsGpaOk (some gpa) = true ∧
      run.rebind operation = Function.update (fun _ => none) gpa.contents (some address) := by
  have bound_of {pxPa : Option GpaId} {pxHa : Option GhaId} {gpa : Gpa} {gha : Gha}
      (foundGpa : run.cache.gpa pxPa = some gpa) (foundGha : run.cache.gha pxHa = some gha)
      (ok : xIsGpaOk (some gpa) = true) :
      run.bind pxPa pxHa =
        Function.update (fun _ => none) gpa.contents (some gha.xAddress) := by
    simp only [bind, foundGpa, foundGha, ok, if_true, unbound.bound]
  cases operation with
  | add pxPa pxHa =>
      obtain ⟨okGpa, okGha⟩ := binds
      cases foundGpa : run.cache.gpa pxPa with
      | none =>
          rw [foundGpa] at okGpa
          cases okGpa
      | some gpa =>
          cases foundGha : run.cache.gha pxHa with
          | none =>
              rw [foundGha] at okGha
              cases okGha
          | some gha =>
              rw [foundGpa] at okGpa
              exact ⟨gpa, gha.xAddress, okGpa, bound_of foundGpa foundGha okGpa⟩
  | addCacheEntry pxPa pxHa ucAge =>
      obtain ⟨gpa, foundGpa, ok⟩ := unbound.kept.gpa pxPa
      obtain ⟨gha, foundGha⟩ := unbound.kept.gha pxHa
      exact ⟨gpa, gha.xAddress, ok, bound_of foundGpa foundGha ok⟩
  | refresh pxGpa pxMacAddress =>
      cases pxMacAddress with
      | none => cases binds
      | some pxMacAddress =>
          obtain ⟨gpa, foundGpa, ok⟩ := unbound.kept.gpa pxGpa
          obtain ⟨gha, foundGha⟩ := unbound.kept.gha pxMacAddress
          exact ⟨gpa, gha.xAddress, ok, bound_of foundGpa foundGha ok⟩
  | remove pxPa pxHa => exact binds.elim
  | lookupGha gpa => exact binds.elim
  | lookupGpa gpa => exact binds.elim

/-- The lookup of a hardware address gives the same answer for all addresses, so it
cannot tell a single binding. -/
theorem not_tells_one {gpa : Gpa} {address : MacAddress} (ok : xIsGpaOk (some gpa) = true)
    (bound : run.bound = Function.update (fun _ => none) gpa.contents (some address)) :
    ¬ run.Tells := by
  intro tells
  let other : Gpa := { pucAddress := some (gpa.contents ++ [0]) }
  have okOther : xIsGpaOk (some other) = true := by
    simp [xIsGpaOk, other, Gpa.uxLength]
  obtain ⟨found, after, lookup, told⟩ := tells.gha gpa ok
  obtain ⟨foundOther, afterOther, lookupOther, toldOther⟩ := tells.gha other okOther
  have same : (pxArpLookupGha (some other)).run run.cache = .ok found after := lookup
  rw [same] at lookupOther
  injection lookupOther with results
  have different : other.contents ≠ gpa.contents := by
    intro equal
    have lengths := congrArg List.length equal
    simp [other, Gpa.contents] at lengths
  rw [bound, Function.update_self] at told
  rw [bound, Function.update_of_ne different, ← results, told] at toldOther
  cases toldOther

/-- A step is proper exactly where it binds nothing. -/
theorem properly_iff (unbound : run.Unbound heap) (operation : ArpOp heap) :
    Properly ((perform operation).run run) ↔ ¬ run.Binds operation := by
  constructor
  · rintro ⟨after, ran, tells⟩ binds
    obtain ⟨gpa, address, ok, rebound⟩ := rebind_bound unbound binds
    simp only [perform, EStateM.run_bind, EStateM.run_get] at ran
    split at ran
    · injection ran with _ states
      rw [← states] at tells
      exact not_tells_one ok rebound tells
    · cases ran
  · intro binds
    obtain ⟨after, ran, kept⟩ := perform_unbound unbound binds
    exact ⟨after, ran, kept.tells⟩

theorem unbound_initial (heap : ArpCache) (leftover : Vector UInt8 3) :
    (initial heap leftover).Unbound heap := by
  obtain ⟨row, after, run, idle, -, kept⟩ :=
    run_nullCacheEntry heap ([0, 0] ++ leftover.toList)
  have initialised : final ((vArpInitCache leftover).run heap) =
      { after with xArpCache := List.replicate arpCacheEntries row } := by
    simp only [vArpInitCache, EStateM.run_bind, run]
    rfl
  refine ⟨rfl, ?_, ?_⟩
  · rw [initial, initialised]
    intro other member
    rw [List.eq_of_mem_replicate member]
    exact idle
  · rw [initial, initialised]
    exact ⟨kept.gpas, kept.ghas⟩

/-! ## Runs -/

/-- In a run of calls on an initialised cache, the lookups tell the bindings after
every call exactly if no call binds a hardware address. -/
theorem arpCache_run_iff (heap : ArpCache) (leftover : Vector UInt8 3)
    (operations : List (ArpOp heap)) :
    (∀ occurrence ∈ Trace.trace perform operations (initial heap leftover),
        Properly occurrence.result) ↔
      ∀ occurrence ∈ Trace.trace perform operations (initial heap leftover),
        ¬ occurrence.before.Binds occurrence.event := by
  apply Trace.proper_iff_supported (Unbound heap) (fun before event => ¬ before.Binds event)
    (fun _ _ result => Properly result)
  · exact fun before event unbound => properly_iff unbound event
  · intro before event unbound binds
    obtain ⟨after, ran, kept⟩ := perform_unbound unbound binds
    rw [ran]
    exact kept
  · exact unbound_initial heap leftover

/-- Memory with the protocol address `A` and a hardware address. -/
def oneStation : ArpCache where
  gpas := (Store.empty.allocate { pucAddress := some [0x41] }).1
  ghas := (Store.empty.allocate ⟨.macAddr8023, ⟨#v[2, 0, 0, 0, 0, 1]⟩⟩).1
  xArpCache := []

/-- One reply of the station is taken in: from then on every address has its
hardware address. -/
theorem lookup_ignores_address :
    ¬ ∀ occurrence ∈ Trace.trace perform
        [(.addCacheEntry ⟨0, rfl⟩ ⟨0, rfl⟩ 3 : ArpOp oneStation)]
        (initial oneStation (Vector.replicate 3 0)), Properly occurrence.result := by
  intro all
  have first := all _ (Trace.mem_trace_cons.mpr (.inl rfl))
  exact (properly_iff (unbound_initial oneStation _) _).mp first trivial

end BoundArp

end RinaSense
