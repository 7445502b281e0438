import RinaSense.Shim.Arp826Map
import RinaSense.Shim.ArpFrames

/-!
# Processing ARP packets

What a packet does to a cache whose rows have hardware addresses: it is processed to the end,
and a request is answered if the address of its sender is in the cache.
-/

namespace RinaSense

open Command

/-- Every row has a hardware address in memory, and none points to a protocol address yet to be
made. -/
structure ArpCache.Ready (cache : ArpCache) : Prop where
  rows : cache.xArpCache.length = arpCacheEntries
  macs : ∀ row ∈ cache.xArpCache, ∃ pointer gha, row.pxMacAddress = some pointer ∧
    cache.ghas.get? pointer = some gha
  gpas : ∀ row ∈ cache.xArpCache, ∀ pointer, row.pxProtocolAddress = some pointer →
    pointer < cache.gpas.next

/-- The address with such contents is in a row in use. -/
def ArpCache.Cached (cache : ArpCache) (contents : List UInt8) : Prop :=
  ∃ row ∈ cache.xArpCache, row.ucAge ≠ 0 ∧
    xGpaCmp (cache.gpa row.pxProtocolAddress) (some ⟨some contents⟩) = true

/-! ## Caches that are ready -/

section Ready

variable {cache after : ArpCache}

/-- More memory does not matter. -/
theorem ArpCache.Ready.mono (ready : cache.Ready) (rows : after.xArpCache = cache.xArpCache)
    (gpas : cache.gpas.next ≤ after.gpas.next)
    (ghas : ∀ pointer gha, cache.ghas.get? pointer = some gha →
      ∃ other, after.ghas.get? pointer = some other) : after.Ready where
  rows := rows ▸ ready.rows
  macs := by
    intro row member
    obtain ⟨pointer, gha, points, found⟩ := ready.macs row (rows ▸ member)
    obtain ⟨other, found⟩ := ghas pointer gha found
    exact ⟨pointer, other, points, found⟩
  gpas := by
    intro row member pointer points
    exact (ready.gpas row (rows ▸ member) pointer points).trans_le gpas

/-- Another row with addresses in memory. -/
theorem ArpCache.Ready.setRow (ready : cache.Ready) (x : Nat) {row : ArpCacheRow}
    (mac : ∃ pointer gha, row.pxMacAddress = some pointer ∧ cache.ghas.get? pointer = some gha)
    (gpa : ∀ pointer, row.pxProtocolAddress = some pointer → pointer < cache.gpas.next) :
    ArpCache.Ready { cache with xArpCache := cache.xArpCache.set x row } where
  rows := by rw [List.length_set, ready.rows]
  macs := by
    intro other member
    rcases List.mem_or_eq_of_mem_set member with old | rfl
    · exact ready.macs other old
    · exact mac
  gpas := by
    intro other member
    rcases List.mem_or_eq_of_mem_set member with old | rfl
    · exact ready.gpas other old
    · exact gpa

/-- A change of one row that keeps its hardware address. -/
theorem ArpCache.Ready.modifyRow (ready : cache.Ready) (x : Nat)
    {change : ArpCacheRow → ArpCacheRow}
    (mac : ∀ row, (change row).pxMacAddress = row.pxMacAddress)
    (gpa : ∀ row ∈ cache.xArpCache, ∀ pointer, (change row).pxProtocolAddress = some pointer →
      pointer < cache.gpas.next) :
    ArpCache.Ready { cache with xArpCache := cache.xArpCache.modify x change } where
  rows := by rw [List.length_modify, ready.rows]
  macs := by
    intro other member
    obtain ⟨position, inside, rfl⟩ := List.getElem_of_mem member
    rw [List.getElem_modify]
    rw [List.length_modify] at inside
    split
    · rw [mac]
      exact ready.macs _ (List.getElem_mem inside)
    · exact ready.macs _ (List.getElem_mem inside)
  gpas := by
    intro other member
    obtain ⟨position, inside, rfl⟩ := List.getElem_of_mem member
    rw [List.getElem_modify]
    rw [List.length_modify] at inside
    split
    · exact gpa _ (List.getElem_mem inside)
    · exact ready.gpas _ (List.getElem_mem inside)

/-- The row is there, with its hardware address. -/
theorem ArpCache.Ready.row (ready : cache.Ready) {x : Nat} (inside : x < arpCacheEntries) :
    ∃ row pointer gha, cache.xArpCache[x]? = some row ∧ row.pxMacAddress = some pointer ∧
      cache.ghas.get? pointer = some gha := by
  have here : x < cache.xArpCache.length := ready.rows ▸ inside
  obtain ⟨pointer, gha, points, found⟩ := ready.macs _ (List.getElem_mem here)
  exact ⟨_, pointer, gha, List.getElem?_eq_getElem here, points, found⟩

end Ready

/-! ## Lookups -/

/-- A lookup changes nothing, and misses what is not in the cache. -/
theorem run_eArpLookupGpa (cache : ArpCache) (contents : List UInt8) :
    ∃ result, (eArpLookupGpa (some ⟨some contents⟩)).run cache = .ok result cache ∧
      (result = .cacheMiss ↔ ¬ cache.Cached contents) := by
  simp only [eArpLookupGpa, EStateM.run_bind, EStateM.run_get]
  split
  · next row found =>
      have here : cache.Cached contents := by
        have matched := List.find?_some found
        rw [Bool.and_eq_true, bne_iff_ne] at matched
        exact ⟨row, List.mem_of_find?_eq_some found, matched⟩
      cases row.ucValid with
      | true => exact ⟨.cacheHit, rfl, iff_of_false (by rintro ⟨⟩) (not_not_intro here)⟩
      | false => exact ⟨.cantSendPacket, rfl, iff_of_false (by rintro ⟨⟩) (not_not_intro here)⟩
  · next nowhere =>
      refine ⟨.cacheMiss, rfl, iff_of_true rfl ?_⟩
      rintro ⟨row, member, aged, same⟩
      have absent := List.find?_eq_none.mp nowhere row member
      rw [Bool.and_eq_true, bne_iff_ne] at absent
      exact absent ⟨aged, same⟩

theorem final_eArpLookupGpa (gpa : Option Gpa) (cache : ArpCache) :
    final ((eArpLookupGpa gpa).run cache) = cache := by
  simp only [eArpLookupGpa, EStateM.run_bind, EStateM.run_get]
  split
  · split <;> rfl
  · rfl

/-! ## Refreshing -/

section Refresh

variable {cache : ArpCache}

/-- What the loop finds for a protocol address no row points to: rows that are there. -/
theorem run_scanRows_fresh {pxGpa : GpaId} (address : MacAddress) (rows : List ArpCacheRow)
    (macs : ∀ row ∈ rows, ∃ pointer gha, row.pxMacAddress = some pointer ∧
      cache.ghas.get? pointer = some gha)
    (fresh : ∀ row ∈ rows, row.pxProtocolAddress ≠ some pxGpa) {x bound xUseEntry : Nat}
    {xMacEntry : Option Nat} (ucMinAgeFound : UInt8) (ends : x + rows.length ≤ bound)
    (useInside : xUseEntry < bound) (macInside : ∀ mac, xMacEntry = some mac → mac < bound) :
    ∃ mac use, (scanRows pxGpa (some address) rows x none xMacEntry xUseEntry ucMinAgeFound).run
        cache = .ok (.rows none mac use) cache ∧ use < bound ∧ ∀ entry, mac = some entry →
          entry < bound := by
  induction rows generalizing x xUseEntry xMacEntry ucMinAgeFound with
  | nil => exact ⟨xMacEntry, xUseEntry, rfl, useInside, macInside⟩
  | cons row rows ih =>
      obtain ⟨pointer, gha, points, found⟩ := macs row List.mem_cons_self
      have here : cache.gha row.pxMacAddress = some gha := by
        rw [points]
        exact found
      have read : (readGha row.pxMacAddress).run cache = .ok gha cache := by
        simp only [readGha, EStateM.run_bind, EStateM.run_get, here]
        rfl
      rw [List.length_cons] at ends
      have inside : x < bound := by omega
      have rest : ∀ {xUseEntry : Nat} {xMacEntry : Option Nat} (ucMinAgeFound : UInt8),
          xUseEntry < bound → (∀ mac, xMacEntry = some mac → mac < bound) → _ :=
        fun ucMinAgeFound => @ih (fun other member => macs other (List.mem_cons_of_mem _ member))
          (fun other member => fresh other (List.mem_cons_of_mem _ member)) (x + 1) _ _
            ucMinAgeFound (by omega)
      simp only [scanRows, EStateM.run_bind, EStateM.run_pure, read,
        if_neg (fresh row List.mem_cons_self)]
      split
      · apply rest _ useInside
        rintro mac ⟨⟩
        exact inside
      · split
        · exact rest _ inside macInside
        · exact rest _ useInside macInside

theorem run_writeMac_ready (ready : cache.Ready) {x : Nat} (inside : x < arpCacheEntries)
    (address : MacAddress) :
    ∃ after, (writeMac x address).run cache = .ok () after ∧ after.Ready := by
  obtain ⟨row, pointer, gha, here, points, found⟩ := ready.row inside
  have read : cache.gha (some pointer) = some gha := found
  simp only [writeMac, readGha, EStateM.run_bind, EStateM.run_get, here, points, read,
    EStateM.run_pure]
  refine ⟨_, rfl, ready.mono rfl (Nat.le_refl _) fun other value present => ?_⟩
  by_cases same : other = pointer
  · subst same
    exact ⟨_, Store.get?_set_self found _⟩
  · exact ⟨value, (Store.get?_set_of_ne _ same _).trans present⟩

/-- A row is given over to a protocol address and what is known of it. -/
theorem run_useRow_ready (ready : cache.Ready) {pxGpa : GpaId} (made : pxGpa < cache.gpas.next)
    {x : Nat} (inside : x < arpCacheEntries) (address : MacAddress) :
    ∃ after, (do
        modifyRow x fun row => { row with pxProtocolAddress := some pxGpa }
        writeMac x address
        modifyRow x fun row =>
          { row with ucAge := maxArpAge, ucValid := true } : Arp Unit).run cache =
      .ok () after ∧ after.Ready := by
  have pointed := @ArpCache.Ready.modifyRow cache ready x
    (fun row => { row with pxProtocolAddress := some pxGpa }) (fun _ => rfl)
    fun row _ pointer points => Option.some.inj points ▸ made
  obtain ⟨written, wrote, readyWritten⟩ := run_writeMac_ready pointed inside address
  rw [run_bind_ok (show (modifyRow x _).run cache = .ok () _ from rfl), run_bind_ok wrote]
  exact ⟨_, rfl, readyWritten.modifyRow x (fun _ => rfl) readyWritten.gpas⟩

/-- A protocol address that was just made takes a row for the hardware address. -/
theorem run_refresh_fresh (ready : cache.Ready) {pxGpa : GpaId} {pxMacAddress : GhaId} {gha : Gha}
    (made : pxGpa < cache.gpas.next)
    (fresh : ∀ row ∈ cache.xArpCache, row.pxProtocolAddress ≠ some pxGpa)
    (found : cache.ghas.get? pxMacAddress = some gha) :
    ∃ after, (vArpRefreshCacheEntry pxGpa (some pxMacAddress)).run cache = .ok () after ∧
      after.Ready := by
  obtain ⟨mac, use, scanned, useInside, macInside⟩ := @run_scanRows_fresh cache pxGpa gha.xAddress
    cache.xArpCache ready.macs fresh 0 arpCacheEntries 0 none 255
    (by rw [ready.rows, Nat.zero_add]) (by decide) nofun
  have here : cache.gha (some pxMacAddress) = some gha := found
  simp only [vArpRefreshCacheEntry, readGha, EStateM.run_bind, EStateM.run_get, here,
    EStateM.run_pure, scanned]
  cases mac with
  | none => exact run_useRow_ready ready made useInside gha.xAddress
  | some entry => exact run_useRow_ready ready made (macInside entry rfl) gha.xAddress

end Refresh

/-! ## Packets -/

section Packets

variable {cache : ArpCache} {emptyBlock : Bool} {packet : ArpPacket}

/-- Putting new addresses into memory. -/
theorem ArpCache.Ready.allocate (ready : cache.Ready) (gpa : Gpa) (gha : Gha) :
    ArpCache.Ready { cache with
      gpas := (cache.gpas.allocate gpa).1, ghas := (cache.ghas.allocate gha).1 } :=
  ready.mono rfl (Nat.le_succ _) fun _ other found =>
    ⟨other, (cache.ghas.get?_allocate_of_lt gha (Store.lt_next found)).trans found⟩

/-- A new protocol address. -/
theorem ArpCache.Ready.newGpa (ready : cache.Ready) (pucAddress : List UInt8) :
    (cache.newGpa pucAddress).1.Ready ∧
      (cache.newGpa pucAddress).1.ghas = cache.ghas ∧
      ∀ pointer, (cache.newGpa pucAddress).2 = some pointer →
        pointer < (cache.newGpa pucAddress).1.gpas.next := by
  rw [ArpCache.newGpa]
  cases pxCreateGpa pucAddress with
  | none => exact ⟨ready, rfl, by rintro _ ⟨⟩⟩
  | some gpa =>
      refine ⟨ready.mono rfl (Nat.le_succ _) fun _ other found => ⟨other, found⟩, rfl, ?_⟩
      rintro pointer ⟨⟩
      exact Nat.lt_succ_self _

/-- An entry is added if there is room for it. -/
theorem run_vArpAddCacheEntry_ready (ready : cache.Ready) {pxPa : GpaId} {pxHa : GhaId} {gpa : Gpa}
    {gha : Gha} (foundGpa : cache.gpas.get? pxPa = some gpa)
    (foundGha : cache.ghas.get? pxHa = some gha) (ucAge : UInt8) :
    ∃ after, (vArpAddCacheEntry ⟨pxPa, pxHa⟩ ucAge).run cache = .ok () after ∧ after.Ready := by
  have here : cache.gpa (some pxPa) = some gpa := foundGpa
  simp only [vArpAddCacheEntry, EStateM.run_bind, EStateM.run_get, here]
  split
  · exact ⟨cache, rfl, ready⟩
  · next x free =>
      obtain ⟨readyNew, ghas, made⟩ := ready.newGpa (gpa.pucAddress.getD [])
      exact ⟨_, rfl, readyNew.setRow x ⟨pxHa, gha, rfl, ghas ▸ foundGha⟩ made⟩

/-- A packet is processed to the end. -/
def Processed (emptyBlock : Bool) (cache : ArpCache) (packet : ArpPacket)
    (post : FrameProcessingResult → Prop) : Prop :=
  ∃ eReturn after, (eArpProcessPacket emptyBlock packet).run cache = .ok eReturn after ∧
    after.Ready ∧ post eReturn

/-- A request that is returned as a reply: it is well formed, and the address of its sender is in
the cache. -/
structure AnsweredBy (emptyBlock : Bool) (cache : ArpCache) (packet : ArpPacket) : Prop where
  hardware : packet.usHType = arpHardwareTypeEthernet
  length : packet.ucHaLength = 6
  request : packet.usOperation = arpRequest
  spa : (xArpAddressGpaShrink emptyBlock (pxCreateGpa packet.spa)).isSome
  tpa : (xArpAddressGpaShrink emptyBlock (pxCreateGpa packet.tpa)).isSome
  cached : cache.Cached (unpadded packet.spa)

section Accepted

variable {spa tpa : List UInt8} (hardware : packet.usHType = arpHardwareTypeEthernet)
  (length : packet.ucHaLength = 6)
  (parsedSpa : xArpAddressGpaShrink emptyBlock (pxCreateGpa packet.spa) = some ⟨some spa⟩)
  (parsedTpa : xArpAddressGpaShrink emptyBlock (pxCreateGpa packet.tpa) = some ⟨some tpa⟩)
include hardware length parsedSpa parsedTpa

/-- A request is answered where the address of its sender is in the cache. -/
theorem processed_request (ready : cache.Ready) (request : packet.usOperation = arpRequest) :
    Processed emptyBlock cache packet fun eReturn =>
      eReturn ≠ .frameConsumed ∧ (eReturn = .returnEthernetFrame ↔ cache.Cached spa) := by
  obtain ⟨result, looked, missed⟩ := run_eArpLookupGpa cache spa
  have allocated := ready.allocate ⟨some spa⟩ ⟨.macAddr8023, packet.sha⟩
  obtain ⟨after, refreshed, readyAfter⟩ := run_refresh_fresh allocated (Nat.lt_succ_self _)
    (fun row member points => (ready.gpas row member _ points).false)
    (Store.get?_allocate_new cache.ghas _)
  have known : ¬ (packet.usOperation ≠ arpReply ∧ packet.usOperation ≠ arpRequest) :=
    fun other => other.2 request
  rw [Processed, eArpProcessPacket]
  simp only [hardware, length, ne_eq, not_true_eq_false, if_false, if_neg known, parsedSpa,
    parsedTpa, EStateM.run_bind, EStateM.run_get, if_pos request, looked]
  by_cases here : cache.Cached spa
  · rw [if_neg fun miss => missed.mp miss here]
    simp only [EStateM.run_bind, EStateM.run_set, Store.allocate_id, refreshed]
    exact ⟨_, _, rfl, readyAfter, nofun, iff_of_true rfl here⟩
  · rw [if_pos (missed.mpr here)]
    exact ⟨_, _, rfl, ready, nofun, iff_of_false nofun here⟩

/-- A reply is taken in. -/
theorem processed_reply (ready : cache.Ready) (reply : packet.usOperation = arpReply) :
    Processed emptyBlock cache packet fun eReturn => eReturn = .processBuffer := by
  have allocated := ready.allocate ⟨some spa⟩ ⟨.macAddr8023, packet.sha⟩
  obtain ⟨after, added, readyAfter⟩ := run_vArpAddCacheEntry_ready allocated
    (Store.get?_allocate_new cache.gpas _) (Store.get?_allocate_new cache.ghas _) 3
  have known : ¬ (packet.usOperation ≠ arpReply ∧ packet.usOperation ≠ arpRequest) :=
    fun other => other.1 reply
  have notRequest : packet.usOperation ≠ arpRequest := by
    rw [reply]
    decide
  rw [Processed, eArpProcessPacket]
  simp only [hardware, length, ne_eq, not_true_eq_false, if_false, if_neg known, parsedSpa,
    parsedTpa, EStateM.run_bind, EStateM.run_get, if_neg notRequest, EStateM.run_set,
    Store.allocate_id, added]
  exact ⟨_, _, rfl, readyAfter, rfl⟩

end Accepted

/-- Every packet is processed to the end. -/
theorem processed_ready (ready : cache.Ready) (packet : ArpPacket) :
    Processed emptyBlock cache packet fun eReturn => eReturn ≠ .frameConsumed ∧
      (eReturn = .returnEthernetFrame ↔ AnsweredBy emptyBlock cache packet) := by
  have released : ∀ {command : Arp FrameProcessingResult}, command = pure .releaseBuffer →
      ¬ AnsweredBy emptyBlock cache packet →
      ∃ eReturn after, command.run cache = .ok eReturn after ∧ after.Ready ∧
        eReturn ≠ .frameConsumed ∧
        (eReturn = .returnEthernetFrame ↔ AnsweredBy emptyBlock cache packet) := by
    rintro command rfl unanswered
    exact ⟨_, _, rfl, ready, nofun, iff_of_false nofun unanswered⟩
  by_cases hardware : packet.usHType = arpHardwareTypeEthernet
  · by_cases length : packet.ucHaLength = 6
    · by_cases other : packet.usOperation ≠ arpReply ∧ packet.usOperation ≠ arpRequest
      · refine released ?_ fun answered => other.2 answered.request
        simp only [eArpProcessPacket, hardware, length, ne_eq, not_true_eq_false, if_false,
          if_pos other]
      · cases parsedSpa : xArpAddressGpaShrink emptyBlock (pxCreateGpa packet.spa) with
        | none =>
            refine released ?_ fun answered => ?_
            · simp [eArpProcessPacket, hardware, length, other, parsedSpa]
            · exact absurd answered.spa (by simp [parsedSpa])
        | some spa =>
            cases parsedTpa : xArpAddressGpaShrink emptyBlock (pxCreateGpa packet.tpa) with
            | none =>
                refine released ?_ fun answered => ?_
                · simp [eArpProcessPacket, hardware, length, other, parsedSpa, parsedTpa]
                · exact absurd answered.tpa (by simp [parsedTpa])
            | some tpa =>
                obtain rfl := eq_of_parsed parsedSpa
                obtain rfl := eq_of_parsed parsedTpa
                by_cases request : packet.usOperation = arpRequest
                · obtain ⟨eReturn, after, run, readyAfter, unconsumed, answered⟩ :=
                    processed_request hardware length parsedSpa parsedTpa ready request
                  refine ⟨eReturn, after, run, readyAfter, unconsumed, answered.trans ?_⟩
                  exact ⟨fun cached => ⟨hardware, length, request, by rw [parsedSpa]; rfl,
                    by rw [parsedTpa]; rfl, cached⟩, AnsweredBy.cached⟩
                · have reply : packet.usOperation = arpReply :=
                    by_contra fun no => other ⟨no, request⟩
                  obtain ⟨eReturn, after, run, readyAfter, processed⟩ :=
                    processed_reply hardware length parsedSpa parsedTpa ready reply
                  refine ⟨eReturn, after, run, readyAfter, by rw [processed]; nofun, ?_⟩
                  exact iff_of_false (by rw [processed]; nofun)
                    fun answered => request answered.request
    · refine released ?_ fun answered => length answered.length
      simp [eArpProcessPacket, hardware, length]
  · refine released ?_ fun answered => hardware answered.hardware
    simp [eArpProcessPacket, hardware]

/-! ## Frames -/

/-- A header that is refused. -/
theorem run_eArpProcessFrame_refused {frame : List UInt8} (read : readArpPacket frame = .ok none) :
    (eArpProcessFrame emptyBlock frame).run cache = .ok (.releaseBuffer, frame) cache := by
  rw [eArpProcessFrame, run_bind_ok (run_lift_ok read)]
  rfl

/-- A frame that ends before its addresses do. -/
theorem run_eArpProcessFrame_outside {frame : List UInt8}
    (read : readArpPacket frame = .error .outOfBounds) :
    (eArpProcessFrame emptyBlock frame).run cache = .error .outOfBounds cache := by
  rw [eArpProcessFrame, run_bind_error (run_lift_error read)]

/-- The frame of a packet that is processed, as a reply if the packet is answered. -/
theorem run_eArpProcessFrame {frame : List UInt8} {post : FrameProcessingResult → Prop}
    (read : readArpPacket frame = .ok (some packet))
    (processed : Processed emptyBlock cache packet post) :
    ∃ eReturn after, (eArpProcessFrame emptyBlock frame).run cache =
        .ok (eReturn,
          if eReturn = .returnEthernetFrame then withOperation frame arpReply else frame) after ∧
      after.Ready ∧ post eReturn := by
  obtain ⟨eReturn, after, run, ready, holds⟩ := processed
  refine ⟨eReturn, after, ?_, ready, holds⟩
  rw [eArpProcessFrame, run_bind_ok (run_lift_ok read)]
  simp only
  rw [run_bind_ok run]
  split <;> rfl

end Packets

/-! ## The other operations -/

section Operations

variable {cache : ArpCache}

/-- The addresses of a row are in memory. -/
structure ArpCacheRow.Placed (row : ArpCacheRow) (cache : ArpCache) : Prop where
  mac : ∃ pointer gha, row.pxMacAddress = some pointer ∧ cache.ghas.get? pointer = some gha
  gpa : ∀ pointer, row.pxProtocolAddress = some pointer → pointer < cache.gpas.next

/-- A null entry comes with addresses of its own. -/
theorem run_nullCacheEntry_placed (cache : ArpCache) (pucAddress : List UInt8) :
    ∃ row after, (nullCacheEntry pucAddress).run cache = .ok row after ∧ row.Placed after ∧
      after.xArpCache = cache.xArpCache ∧ (cache.Ready → after.Ready) := by
  refine ⟨_, _, rfl, ?_, xArpCache_newGpa pucAddress, ?_⟩
  · cases pxCreateGpa pucAddress with
    | none =>
        exact ⟨⟨_, _, rfl, Store.get?_allocate_new cache.ghas _⟩, nofun⟩
    | some gpa =>
        refine ⟨⟨_, _, rfl, Store.get?_allocate_new cache.ghas _⟩, ?_⟩
        rintro pointer ⟨⟩
        exact Nat.lt_succ_self _
  · intro ready
    have more : (cache.newGha ghaUnknown).1.Ready := ready.mono rfl (Nat.le_refl _)
      fun _ other found =>
        ⟨other, (cache.ghas.get?_allocate_of_lt ghaUnknown (Store.lt_next found)).trans found⟩
    exact (more.newGpa pucAddress).1

/-- All rows of an initialised cache are the null entry. -/
theorem ready_vArpInitCache (heap : ArpCache) (leftover : Vector UInt8 3) :
    (final ((vArpInitCache leftover).run heap)).Ready := by
  obtain ⟨row, after, run, placed, -, -⟩ :=
    run_nullCacheEntry_placed heap ([0, 0] ++ leftover.toList)
  rw [vArpInitCache, run_bind_ok run]
  refine ⟨List.length_replicate, fun other member => ?_, fun other member => ?_⟩
  · rw [List.eq_of_mem_replicate member]
    exact placed.mac
  · rw [List.eq_of_mem_replicate member]
    exact placed.gpa

theorem upholds_pxArpAdd (pxPa : Option GpaId) (pxHa : Option GhaId) :
    Upholds ArpCache.Ready (pxArpAdd pxPa pxHa) fun _ => True := by
  intro cache ready
  by_cases valid : xIsGpaOk (cache.gpa pxPa) = true ∧ xIsGhaOk (cache.gha pxHa) = true
  · match pxPa, pxHa, valid with
    | some pxPa, some pxHa, ⟨okGpa, okGha⟩ =>
        obtain ⟨gha, foundGha⟩ := Option.isSome_iff_exists.mp okGha
        cases foundGpa : cache.gpa (some pxPa) with
        | none =>
            rw [foundGpa] at okGpa
            cases okGpa
        | some gpa =>
            obtain ⟨after, added, readyAfter⟩ :=
              run_vArpAddCacheEntry_ready ready foundGpa foundGha 1
            simp only [pxArpAdd, EStateM.run_bind, EStateM.run_get, okGpa, okGha, Bool.not_true,
              Bool.false_eq_true, if_false, added]
            exact ⟨readyAfter, trivial⟩
  · rw [run_arpAdd_refused valid]
    exact ⟨ready, trivial⟩

theorem upholds_vArpRemoveCacheEntry (pxGpa : Option Gpa) :
    Upholds ArpCache.Ready (vArpRemoveCacheEntry pxGpa) fun _ => True := by
  intro cache ready
  obtain ⟨row, after, run, placed, rows, readyAfter⟩ :=
    run_nullCacheEntry_placed cache [0x4E, 0x55, 0x4C, 0x4C]
  rw [vArpRemoveCacheEntry, run_bind_ok run]
  simp only [EStateM.run_bind, EStateM.run_get]
  cases after.xArpCache.findIdx? fun row => xGpaCmp (after.gpa row.pxProtocolAddress) pxGpa with
  | none => exact ⟨readyAfter ready, trivial⟩
  | some x => exact ⟨(readyAfter ready).setRow x placed.mac placed.gpa, trivial⟩

theorem upholds_xArpRemove (pxPa : Option GpaId) (pxHa : Option GhaId) :
    Upholds ArpCache.Ready (xArpRemove pxPa pxHa) fun _ => True := by
  rw [xArpRemove]
  apply upholds_bind upholds_get
  intro cache _
  apply upholds_ite
  · exact fun _ => upholds_pure trivial
  · intro _
    apply upholds_ite
    · exact fun _ => upholds_pure trivial
    · intro _
      apply upholds_bind (upholds_of_still (final_eArpLookupGpa _))
      intro result _
      apply upholds_ite
      · exact fun _ => upholds_pure trivial
      · intro _
        apply upholds_bind (upholds_vArpRemoveCacheEntry _)
        exact fun _ _ => upholds_pure trivial

end Operations

end RinaSense
