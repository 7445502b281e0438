import RinaSense.Ipcp.State
import RinaSense.Shim.Gpha

/-!
# The ARP cache

The rows of `Arp826.c` with the operations on them. Rows point to addresses, which
they share with each other and with their callers. The log statements and what they
alone evaluate are left out, and there is memory for the addresses made.
-/

namespace RinaSense

abbrev GpaId := Nat
abbrev GhaId := Nat

/-- `ARP_CACHE_ENTRIES`. -/
def arpCacheEntries : Nat := 4

/-- `MAX_ARP_AGE`. -/
def maxArpAge : UInt8 := 5

/-- `MAX_ARP_RETRANSMISSIONS`. -/
def maxArpRetransmissions : UInt8 := 5

/-- `ARPCacheRow_t`. -/
structure ArpCacheRow where
  pxProtocolAddress : Option GpaId
  pxMacAddress : Option GhaId
  ucAge : UInt8
  ucValid : Bool
  deriving Repr, DecidableEq

/-- The cache with the addresses in memory. -/
structure ArpCache where
  gpas : Store Gpa
  ghas : Store Gha
  xArpCache : List ArpCacheRow

/-- `struct rinarpHandle_t`. -/
structure RinarpHandle where
  pxPa : GpaId
  pxHa : GhaId
  deriving Repr, DecidableEq

inductive ArpLookupResult where
  | cacheMiss
  | cacheHit
  | cantSendPacket
  deriving Repr, DecidableEq

abbrev Arp := EStateM Fault ArpCache

namespace ArpCache

/-- The protocol address a pointer leads to. -/
def gpa (cache : ArpCache) (pointer : Option GpaId) : Option Gpa :=
  pointer.bind cache.gpas.get?

/-- The hardware address a pointer leads to. -/
def gha (cache : ArpCache) (pointer : Option GhaId) : Option Gha :=
  pointer.bind cache.ghas.get?

/-- A new protocol address. -/
def newGpa (pucAddress : List UInt8) (cache : ArpCache) : ArpCache × Option GpaId :=
  match pxCreateGpa pucAddress with
  | none => (cache, none)
  | some gpa => ({ cache with gpas := (cache.gpas.allocate gpa).1 }, some cache.gpas.next)

/-- A new hardware address. -/
def newGha (gha : Gha) (cache : ArpCache) : ArpCache × GhaId :=
  ({ cache with ghas := (cache.ghas.allocate gha).1 }, cache.ghas.next)

end ArpCache

/-- What a pointer to a hardware address leads to. -/
def readGha (pxGha : Option GhaId) : Arp Gha := do
  match (← get).gha pxGha with
  | some gha => return gha
  | none => throw .nullPointer

/-- The hardware address that stands for any. -/
def ghaUnknown : Gha where
  xType := .macAddr8023
  xAddress := ⟨#v[0xff, 0xff, 0xff, 0xff, 0xff, 0xff]⟩

/-- `pxARPCreateGHAUnknown` for Ethernet. -/
def pxArpCreateGhaUnknown (memory : Bool) : Option Gha :=
  if memory then some ghaUnknown else none

/-- A row that stands for no binding, with addresses of its own. -/
def nullCacheEntry (pucAddress : List UInt8) : Arp ArpCacheRow := do
  let cache ← get
  let (cache, pxMacAddress) := cache.newGha ghaUnknown
  let (cache, pxProtocolAddress) := cache.newGpa pucAddress
  set cache
  return { pxProtocolAddress, pxMacAddress := some pxMacAddress, ucAge := 0, ucValid := false }

/-- The address of five bytes is made from a literal of two, so the others are what
follows it in memory. -/
def vArpInitCache (leftover : Vector UInt8 3) : Arp Unit := do
  let xNullCacheEntry ← nullCacheEntry ([0, 0] ++ leftover.toList)
  modify fun cache =>
    { cache with xArpCache := List.replicate arpCacheEntries xNullCacheEntry }

/-! ## Binding -/

/-- The first row that is not valid takes a copy of the protocol address and the
hardware address of the handle itself. -/
def vArpAddCacheEntry (pxHandle : RinarpHandle) (ucAge : UInt8) : Arp Unit := do
  let cache ← get
  match cache.gpa (some pxHandle.pxPa) with
  | none => throw .released
  | some gpa =>
      match cache.xArpCache.findIdx? fun row => !row.ucValid with
      | none => return
      | some x =>
          let (cache, pxProtocolAddress) := cache.newGpa (gpa.pucAddress.getD [])
          set { cache with
            xArpCache := cache.xArpCache.set x
              { pxProtocolAddress
                pxMacAddress := some pxHandle.pxHa
                ucAge
                ucValid := true } }

def pxArpAdd (pxPa : Option GpaId) (pxHa : Option GhaId) : Arp (Option RinarpHandle) := do
  let cache ← get
  if !xIsGpaOk (cache.gpa pxPa) then return none
  if !xIsGhaOk (cache.gha pxHa) then return none
  match pxPa, pxHa with
  | some pxPa, some pxHa =>
      vArpAddCacheEntry { pxPa, pxHa } 1
      return some { pxPa, pxHa }
  | _, _ => return none

/-! ## Lookups -/

/-- The address looked up has no part in it: the first row of age 3 is taken. -/
def pxArpLookupGha (_pxGpaToLookup : Option Gpa) : Arp (Option Gha) := do
  match (← get).xArpCache.find? fun row => row.ucAge == 3 with
  | some row => return some (← readGha row.pxMacAddress)
  | none => return none

def eArpLookupGpa (pxGpaToLookup : Option Gpa) : Arp ArpLookupResult := do
  let cache ← get
  match cache.xArpCache.find? fun row =>
      row.ucAge != 0 && xGpaCmp (cache.gpa row.pxProtocolAddress) pxGpaToLookup with
  | some row => return if row.ucValid then .cacheHit else .cantSendPacket
  | none => return .cacheMiss

/-! ## Removing -/

def vArpRemoveCacheEntry (pxGpa : Option Gpa) : Arp Unit := do
  let xNullCacheEntry ← nullCacheEntry [0x4E, 0x55, 0x4C, 0x4C]
  let cache ← get
  match cache.xArpCache.findIdx? fun row => xGpaCmp (cache.gpa row.pxProtocolAddress) pxGpa with
  | some x => set { cache with xArpCache := cache.xArpCache.set x xNullCacheEntry }
  | none => return

def xArpRemove (pxPa : Option GpaId) (pxHa : Option GhaId) : Arp Bool := do
  let cache ← get
  if !xIsGpaOk (cache.gpa pxPa) then return false
  if !xIsGhaOk (cache.gha pxHa) then return false
  if (← eArpLookupGpa (cache.gpa pxPa)) = .cacheMiss then return false
  vArpRemoveCacheEntry (cache.gpa pxPa)
  return true

/-! ## Refreshing -/

/-- What the loop of `vARPRefreshCacheEntry` has found: the row that has both
addresses, or the rows with one of them and the row to be used otherwise. -/
inductive RefreshScan where
  | known (x : Nat)
  | rows (xIpcpEntry xMacEntry : Option Nat) (xUseEntry : Nat)
  deriving Repr, DecidableEq

/-- The loop from row `x` on. Protocol addresses are compared as pointers. -/
def scanRows (pxGpa : GpaId) (pxMacAddress : Option MacAddress) :
    List ArpCacheRow → Nat → Option Nat → Option Nat → Nat → UInt8 → Arp RefreshScan
  | [], _, xIpcpEntry, xMacEntry, xUseEntry, _ => return .rows xIpcpEntry xMacEntry xUseEntry
  | row :: rows, x, xIpcpEntry, xMacEntry, xUseEntry, ucMinAgeFound => do
      let xMatchingMac ← match pxMacAddress with
        | some address => pure ((← readGha row.pxMacAddress).xAddress == address)
        | none => pure false
      if row.pxProtocolAddress = some pxGpa then
        if pxMacAddress.isNone then return .rows (some x) xMacEntry xUseEntry
        if xMatchingMac then return .known x
        scanRows pxGpa pxMacAddress rows (x + 1) (some x) xMacEntry xUseEntry ucMinAgeFound
      else if xMatchingMac then
        scanRows pxGpa pxMacAddress rows (x + 1) xIpcpEntry (some x) xUseEntry ucMinAgeFound
      else if row.ucAge < ucMinAgeFound then
        scanRows pxGpa pxMacAddress rows (x + 1) xIpcpEntry xMacEntry x row.ucAge
      else scanRows pxGpa pxMacAddress rows (x + 1) xIpcpEntry xMacEntry xUseEntry ucMinAgeFound

/-- A row after a `memset`. -/
def clearedRow : ArpCacheRow where
  pxProtocolAddress := none
  pxMacAddress := none
  ucAge := 0
  ucValid := false

/-- Change one row. -/
def modifyRow (x : Nat) (change : ArpCacheRow → ArpCacheRow) : Arp Unit :=
  modify fun cache => { cache with xArpCache := cache.xArpCache.modify x change }

/-- The hardware address is written into the one the row points to. -/
def writeMac (x : Nat) (address : MacAddress) : Arp Unit := do
  let cache ← get
  match cache.xArpCache[x]? with
  | none => throw .outOfBounds
  | some row =>
      let gha ← readGha row.pxMacAddress
      match row.pxMacAddress with
      | none => throw .nullPointer
      | some pxMacAddress =>
          set { cache with ghas := cache.ghas.set pxMacAddress { gha with xAddress := address } }

def vArpRefreshCacheEntry (pxGpa : GpaId) (pxMacAddress : Option GhaId) : Arp Unit := do
  let address ← match pxMacAddress with
    | some pointer => pure (some (← readGha (some pointer)).xAddress)
    | none => pure none
  match ← scanRows pxGpa address (← get).xArpCache 0 none none 0 255 with
  | .known x => modifyRow x fun row => { row with ucAge := maxArpAge, ucValid := true }
  | .rows xIpcpEntry xMacEntry xUseEntry =>
      let xUseEntry ← match xMacEntry, xIpcpEntry with
        | some mac, some ipcp => do
            modifyRow ipcp fun _ => clearedRow
            pure mac
        | some mac, none => pure mac
        | none, some ipcp => pure ipcp
        | none, none => pure xUseEntry
      modifyRow xUseEntry fun row => { row with pxProtocolAddress := some pxGpa }
      match address with
      | some address =>
          writeMac xUseEntry address
          modifyRow xUseEntry fun row => { row with ucAge := maxArpAge, ucValid := true }
      | none =>
          if xIpcpEntry.isNone then
            modifyRow xUseEntry fun row =>
              { row with ucAge := maxArpRetransmissions, ucValid := false }

end RinaSense
