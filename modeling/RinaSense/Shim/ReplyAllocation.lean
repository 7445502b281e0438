import RinaSense.Shim.ArpReplies

/-!
# Flows allocated by ARP replies

Which flow a reply is to allocate, and with which hardware address. The handler goes
for the flow of port 1 and for the first resolved row of the cache whatever the reply
says, so what it does is right only where these happen to agree with it.
-/

namespace RinaSense

open Command

/-- An ARP reply as it arrives. -/
structure ArpReply where
  usHType : UInt16
  ucHaLength : UInt8
  sha : MacAddress
  spa : List UInt8
  tha : MacAddress
  tpa : List UInt8
  deriving Repr, DecidableEq

namespace ArpReply

def packet (reply : ArpReply) : ArpPacket where
  usHType := reply.usHType
  ucHaLength := reply.ucHaLength
  usOperation := arpReply
  sha := reply.sha
  spa := reply.spa
  tha := reply.tha
  tpa := reply.tpa

/-- The contents of the sender's protocol address, without what fills it up. -/
def sender (reply : ArpReply) : List UInt8 := reply.spa.takeWhile (· != 0)

/-- A reply whose header and addresses are accepted. -/
structure Accepted (emptyBlock : Bool) (reply : ArpReply) : Prop where
  hardware : reply.usHType = arpHardwareTypeEthernet
  length : reply.ucHaLength = 6
  sender : (xArpAddressGpaShrink emptyBlock (pxCreateGpa reply.spa)).isSome
  target : (xArpAddressGpaShrink emptyBlock (pxCreateGpa reply.tpa)).isSome

end ArpReply

/-- The contents of the destination address of a flow, without what fills it up. -/
def WifiFlow.destination (flow : WifiFlow) : List UInt8 :=
  ((flow.pxDestPa.bind Gpa.pucAddress).getD []).takeWhile (· != 0)

/-- A reply with what the environment answers while it is processed. -/
structure ReplyEvent where
  outcomes : ReplyOutcomes
  reply : ArpReply
  deriving Repr, DecidableEq

def receiveReply (emptyBlock : Bool) (event : ReplyEvent) : Shim Unit :=
  receiveArpPacket emptyBlock event.outcomes event.reply.packet

/-! ## Purpose -/

/-- What a reply may make of a flow: it is as before, or it was pending for the sender
and is allocated with the sender's hardware address. -/
def WifiFlow.Follows (reply : ArpReply) (before after : WifiFlow) : Prop :=
  after = before ∨
    before.ePortIdState = .pending ∧ before.destination = reply.sender ∧ ∃ gha : Gha,
      gha.xAddress = reply.sha ∧
        after = { before with ePortIdState := .allocated, pxDestHa := some gha }

/-- A reply that is processed to the end, with all flows following it. -/
def ProcessedProperly (before : WifiShim) (event : ReplyEvent)
    (result : EStateM.Result Fault WifiShim Unit) : Prop :=
  ∃ after, result = .ok () after ∧
    List.Forall₂ (WifiFlow.Follows event.reply) before.xShimFlowsList after.xShimFlowsList

/-- The row the hardware address will be taken from is the one for the reply, or holds
its address already: of the rows that are resolved or free, the first. -/
def ArpCache.ResolvesTo (cache : ArpCache) (address : MacAddress) : Prop :=
  ∃ row, cache.xArpCache.find? (fun row => row.ucAge == 3 || !row.ucValid) = some row ∧
    (row.ucValid = true →
      ((cache.newGha ⟨.macAddr8023, address⟩).1.gha row.pxMacAddress).map Gha.xAddress =
        some address)

/-- The flow of port 1 is not waiting to be bound, or it is for the sender of the
reply, and so is the row of the cache. -/
def ForPortOne (emptyBlock : Bool) (before : WifiShim) (event : ReplyEvent) : Prop :=
  event.reply.Accepted emptyBlock → before.pxData = true →
    ∀ position flow,
      findFlowByPortId event.outcomes.flowMemory 1 before.xShimFlowsList = some position →
      before.xShimFlowsList[position]? = some flow → flow.ePortIdState = .pending →
      event.outcomes.flowBindingIpcp = true →
        flow.destination = event.reply.sender ∧ before.cache.ResolvesTo event.reply.sha

/-! ## Processing a reply -/

section Reply

variable {emptyBlock : Bool} {cache : ArpCache} {reply : ArpReply}

theorem run_processReply_refused (refused : ¬ reply.Accepted emptyBlock) :
    (eArpProcessPacket emptyBlock reply.packet).run cache = .ok .releaseBuffer cache := by
  by_cases hardware : reply.usHType = arpHardwareTypeEthernet
  · by_cases length : reply.ucHaLength = 6
    · cases sender : xArpAddressGpaShrink emptyBlock (pxCreateGpa reply.spa) with
      | none => simp [eArpProcessPacket, ArpReply.packet, hardware, length, sender]
      | some spa =>
          cases target : xArpAddressGpaShrink emptyBlock (pxCreateGpa reply.tpa) with
          | none => simp [eArpProcessPacket, ArpReply.packet, hardware, length, sender, target]
          | some tpa =>
              refine absurd ⟨hardware, length, ?_, ?_⟩ refused
              · rw [sender]
                rfl
              · rw [target]
                rfl
    · simp [eArpProcessPacket, ArpReply.packet, hardware, length]
  · simp [eArpProcessPacket, ArpReply.packet, hardware]

/-- The rows with an entry in the first free one. -/
def entryAdded (entry : ArpCacheRow) (rows : List ArpCacheRow) : List ArpCacheRow :=
  match rows.findIdx? fun row : ArpCacheRow => !row.ucValid with
  | none => rows
  | some x => rows.set x entry

/-- The first resolved row after an entry was added is the first that was resolved or
free before, with the entry in place of a free one. -/
theorem find_entryAdded (rows : List ArpCacheRow) {entry : ArpCacheRow}
    (resolved : entry.ucAge = 3) :
    (entryAdded entry rows).find? (fun row => row.ucAge == 3) =
      (rows.find? fun row => row.ucAge == 3 || !row.ucValid).map
        fun row => if row.ucValid then row else entry := by
  induction rows with
  | nil => rfl
  | cons row rows ih =>
      cases valid : row.ucValid with
      | false => simp [entryAdded, List.findIdx?_cons, valid, resolved]
      | true =>
          rw [entryAdded] at ih ⊢
          cases free : rows.findIdx? fun row : ArpCacheRow => !row.ucValid with
          | none =>
              rw [free] at ih
              cases aged : row.ucAge == 3 with
              | true => simp [List.findIdx?_cons, valid, aged, free]
              | false => simpa [List.findIdx?_cons, List.find?_cons, valid, aged, free] using ih
          | some x =>
              rw [free] at ih
              cases aged : row.ucAge == 3 with
              | true => simp [List.findIdx?_cons, valid, aged, free]
              | false => simpa [List.findIdx?_cons, List.find?_cons, valid, aged, free] using ih

/-- An entry with a hardware address of the caller is added. -/
theorem run_addCacheEntry {pxHandle : RinarpHandle} {gpa : Gpa}
    (found : cache.gpa (some pxHandle.pxPa) = some gpa) (ucAge : UInt8) :
    ∃ gpas pxProtocolAddress, (vArpAddCacheEntry pxHandle ucAge).run cache =
      .ok () ⟨gpas, cache.ghas,
        entryAdded ⟨pxProtocolAddress, some pxHandle.pxHa, ucAge, true⟩ cache.xArpCache⟩ := by
  simp only [vArpAddCacheEntry, EStateM.run_bind, EStateM.run_get, found, entryAdded]
  cases cache.xArpCache.findIdx? fun row : ArpCacheRow => !row.ucValid with
  | none => exact ⟨cache.gpas, none, rfl⟩
  | some x =>
      cases made : pxCreateGpa (gpa.pucAddress.getD []) with
      | none => exact ⟨cache.gpas, none, by simp [ArpCache.newGpa, made]⟩
      | some copy =>
          exact ⟨(cache.gpas.allocate copy).1, some cache.gpas.next,
            by simp [ArpCache.newGpa, made]⟩

/-- The cache after an accepted reply: the hardware address is in memory, and the entry
of the reply is in the first free row. -/
structure ReplyTaken (reply : ArpReply) (cache after : ArpCache) : Prop where
  ghas : after.ghas = (cache.newGha ⟨.macAddr8023, reply.sha⟩).1.ghas
  rows : ∃ pxProtocolAddress, after.xArpCache =
    entryAdded ⟨pxProtocolAddress, some cache.ghas.next, 3, true⟩ cache.xArpCache

theorem run_processReply (accepted : reply.Accepted emptyBlock) :
    ∃ after, (eArpProcessPacket emptyBlock reply.packet).run cache = .ok .processBuffer after ∧
      ReplyTaken reply cache after := by
  obtain ⟨spa, sender⟩ := Option.isSome_iff_exists.mp accepted.sender
  obtain ⟨tpa, target⟩ := Option.isSome_iff_exists.mp accepted.target
  have other : arpReply ≠ arpRequest := by decide
  have held : ({ cache with
      gpas := (cache.gpas.allocate spa).1
      ghas := (cache.ghas.allocate ⟨.macAddr8023, reply.sha⟩).1 } : ArpCache).gpa
        (some (RinarpHandle.mk cache.gpas.next cache.ghas.next).pxPa) = some spa :=
    cache.gpas.get?_allocate_new spa
  obtain ⟨gpas, pxProtocolAddress, added⟩ := run_addCacheEntry held 3
  refine ⟨⟨gpas, (cache.ghas.allocate ⟨.macAddr8023, reply.sha⟩).1,
    entryAdded ⟨pxProtocolAddress, some cache.ghas.next, 3, true⟩ cache.xArpCache⟩, ?_, rfl,
    pxProtocolAddress, rfl⟩
  simp only [eArpProcessPacket, ArpReply.packet, accepted.hardware, accepted.length, sender, target,
    ne_eq, not_true_eq_false, if_false, false_and, EStateM.run_bind, EStateM.run_get, other,
    EStateM.run_set]
  exact run_bind_ok added _

/-- Whatever is looked up, the sender's address is found exactly if the cache resolves
to it. -/
theorem resolvesTo_iff {after : ArpCache} (taken : ReplyTaken reply cache after)
    (gpa : Option Gpa) :
    cache.ResolvesTo reply.sha ↔ ∃ gha kept,
      (pxArpLookupGha gpa).run after = .ok (some gha) kept ∧ gha.xAddress = reply.sha := by
  obtain ⟨pxProtocolAddress, rows⟩ := taken.rows
  have resolved := @find_entryAdded cache.xArpCache
    ⟨pxProtocolAddress, some cache.ghas.next, 3, true⟩ rfl
  rw [← rows] at resolved
  have memory : ∀ pointer, after.gha pointer =
      (cache.newGha ⟨.macAddr8023, reply.sha⟩).1.gha pointer := by
    intro pointer
    rw [ArpCache.gha, ArpCache.gha, taken.ghas]
  have own : after.gha (some cache.ghas.next) = some ⟨.macAddr8023, reply.sha⟩ :=
    (memory _).trans (cache.ghas.get?_allocate_new _)
  simp only [pxArpLookupGha, EStateM.run_bind, EStateM.run_get, resolved, ArpCache.ResolvesTo]
  cases cache.xArpCache.find? fun row => row.ucAge == 3 || !row.ucValid with
  | none => simp
  | some row =>
      cases valid : row.ucValid with
      | false =>
          simp only [Option.map_some, valid, Bool.false_eq_true, if_false, readGha,
            EStateM.run_bind, EStateM.run_get, own, EStateM.run_pure, Option.some.injEq,
            exists_eq_left', false_implies, true_iff]
          exact ⟨_, after, rfl, rfl⟩
      | true =>
          simp only [Option.map_some, valid, if_true, readGha, EStateM.run_bind, EStateM.run_get,
            memory, Option.some.injEq, exists_eq_left', true_implies]
          cases (cache.newGha ⟨.macAddr8023, reply.sha⟩).1.gha row.pxMacAddress with
          | none => simp
          | some gha => simp

end Reply

/-! ## The response -/

/-- The flow a response is for: that of port 1, pending and bound by its user. -/
structure Asked (shim : WifiShim) (outcomes : ReplyOutcomes) (position : Nat) (flow : WifiFlow) :
    Prop where
  instanceData : shim.pxData = true
  found : findFlowByPortId outcomes.flowMemory 1 shim.xShimFlowsList = some position
  stored : shim.xShimFlowsList[position]? = some flow
  pending : flow.ePortIdState = .pending
  binding : outcomes.flowBindingIpcp = true

section Response

variable {shim : WifiShim} {outcomes : ReplyOutcomes} {position : Nat} {flow : WifiFlow}

theorem Asked.port (asked : Asked shim outcomes position flow) : flow.xPortId = 1 := by
  have found := asked.found
  rw [findFlowByPortId] at found
  split at found
  · have here := (List.findIdx?_eq_some_iff_getElem.mp found)
    obtain ⟨inside, holds, -⟩ := here
    have stored := asked.stored
    rw [List.getElem?_eq_getElem inside] at stored
    rw [← Option.some.inj stored]
    simpa using holds
  · cases found

/-- Without a flow to respond for nothing changes. -/
theorem run_response_unasked (unasked : ∀ position flow, ¬ Asked shim outcomes position flow) :
    (xShimFlowAllocateResponse outcomes 1).run shim = .ok false shim := by
  have port : isPortIdOk 1 = true := by decide
  cases instanceData : shim.pxData with
  | false => simp [xShimFlowAllocateResponse, instanceData]
  | true =>
      cases found : findFlowByPortId outcomes.flowMemory 1 shim.xShimFlowsList with
      | none => simp [xShimFlowAllocateResponse, instanceData, port, found]
      | some position =>
          cases stored : shim.xShimFlowsList[position]? with
          | none => simp [xShimFlowAllocateResponse, instanceData, port, found, stored]
          | some flow =>
              by_cases pending : flow.ePortIdState = .pending
              · cases binding : outcomes.flowBindingIpcp with
                | false =>
                    simp [xShimFlowAllocateResponse, instanceData, port, found, stored, binding]
                | true =>
                    exact (unasked position flow
                      ⟨instanceData, found, stored, pending, binding⟩).elim
              · simp [xShimFlowAllocateResponse, instanceData, port, found, stored, pending]

/-- The flow is allocated with what is looked up, unless the lookup faults. -/
theorem run_response_asked (asked : Asked shim outcomes position flow) :
    (∃ found cache after, (pxArpLookupGha flow.pxDestPa).run shim.cache = .ok found cache ∧
      (xShimFlowAllocateResponse outcomes 1).run shim = .ok true after ∧
      after.xShimFlowsList = shim.xShimFlowsList.modify position fun flow =>
        { flow with ePortIdState := .allocated, xPortId := 1, pxDestHa := found }) ∨
    ∃ fault cache after, (pxArpLookupGha flow.pxDestPa).run shim.cache = .error fault cache ∧
      (xShimFlowAllocateResponse outcomes 1).run shim = .error fault after := by
  have port : isPortIdOk 1 = true := by decide
  have zoomed : ∀ between : WifiShim, (onCache (pxArpLookupGha flow.pxDestPa)).run between =
      match (pxArpLookupGha flow.pxDestPa).run between.cache with
      | .ok value cache => .ok value { between with cache }
      | .error fault cache => .error fault { between with cache } := by
    intro between
    simp only [onCache, EStateM.run_bind, EStateM.run_get]
    cases (pxArpLookupGha flow.pxDestPa).run between.cache <;> rfl
  simp only [xShimFlowAllocateResponse, EStateM.run_bind, EStateM.run_get, asked.instanceData,
    Bool.not_true, Bool.false_eq_true, if_false, port, asked.found, asked.stored, asked.pending,
    ne_eq, not_true_eq_false, asked.binding, modifyFlow, EStateM.run_modify, zoomed]
  cases (pxArpLookupGha flow.pxDestPa).run shim.cache with
  | ok found cache =>
      refine .inl ⟨found, cache, _, rfl, rfl, ?_⟩
      rw [List.modify_modify_eq]
      rfl
  | error fault cache => exact .inr ⟨fault, cache, _, rfl, rfl⟩

end Response

/-! ## Runs -/

/-- All elements but one stay as they are, so only that one matters. -/
theorem forall₂_modify_iff {α : Type} {related : α → α → Prop} (refl : ∀ value, related value value)
    {values : List α} {position : Nat} {value : α} (stored : values[position]? = some value)
    (change : α → α) :
    List.Forall₂ related values (values.modify position change) ↔
      related value (change value) := by
  induction values generalizing position with
  | nil => cases stored
  | cons first values ih =>
      cases position with
      | zero =>
          rw [List.getElem?_cons_zero] at stored
          rw [List.modify_zero_cons, List.forall₂_cons, Option.some.inj stored]
          exact and_iff_left (List.forall₂_same.mpr fun other _ => refl other)
      | succ position =>
          rw [List.getElem?_cons_succ] at stored
          rw [List.modify_succ_cons, List.forall₂_cons, ih stored]
          exact and_iff_right (refl first)

theorem follows_refl (reply : ArpReply) (flow : WifiFlow) : flow.Follows reply flow := .inl rfl

theorem follows_allocated_iff {reply : ArpReply} {flow : WifiFlow} (port : flow.xPortId = 1)
    (pending : flow.ePortIdState = .pending) (found : Option Gha) :
    flow.Follows reply
        { flow with ePortIdState := .allocated, xPortId := 1, pxDestHa := found } ↔
      flow.destination = reply.sender ∧ ∃ gha, found = some gha ∧ gha.xAddress = reply.sha := by
  constructor
  · rintro (same | ⟨-, destination, gha, address, same⟩)
    · have states := congrArg (fun flow : WifiFlow => flow.ePortIdState) same
      rw [pending] at states
      cases states
    · exact ⟨destination, gha, congrArg WifiFlow.pxDestHa same, address⟩
  · rintro ⟨destination, gha, rfl, address⟩
    refine .inr ⟨pending, destination, gha, address, ?_⟩
    rw [← port]

/-- A reply is processed properly exactly where the flow of port 1 and the row of the
cache happen to be the ones for it. -/
theorem processedProperly_iff (emptyBlock : Bool) (before : WifiShim) (event : ReplyEvent) :
    ProcessedProperly before event ((receiveReply emptyBlock event).run before) ↔
      ForPortOne emptyBlock before event := by
  by_cases accepted : event.reply.Accepted emptyBlock
  · obtain ⟨cache, processed, taken⟩ := @run_processReply emptyBlock before.cache event.reply accepted
    have started : (receiveReply emptyBlock event).run before =
        (prxHandleAllocateResponse event.outcomes >>= fun _ => pure ()).run { before with cache } := by
      simp only [receiveReply, receiveArpPacket, onCache, EStateM.run_bind, EStateM.run_get, processed,
        EStateM.run_set, EStateM.run_pure, if_true]
    by_cases asked : ∃ position flow, Asked { before with cache } event.outcomes position flow
    · obtain ⟨position, flow, asked⟩ := asked
      have condition : ForPortOne emptyBlock before event ↔
          flow.destination = event.reply.sender ∧ before.cache.ResolvesTo event.reply.sha := by
        constructor
        · exact fun forOne => forOne accepted asked.instanceData position flow asked.found
            asked.stored asked.pending asked.binding
        · intro both _ _ other otherFlow found stored _ _
          rw [Option.some.inj (asked.found.symm.trans found)] at asked
          rw [← Option.some.inj (asked.stored.symm.trans stored)]
          exact both
      rw [condition, resolvesTo_iff taken flow.pxDestPa]
      rcases run_response_asked asked with ⟨found, kept, after, lookup, run, flows⟩ |
        ⟨fault, kept, after, lookup, run⟩
      · have finished : (receiveReply emptyBlock event).run before = .ok () after := by
          rw [started]
          simp only [prxHandleAllocateResponse, EStateM.run_bind, run, EStateM.run_pure]
        rw [finished, lookup]
        constructor
        · rintro ⟨_, returned, follow⟩
          cases returned
          rw [flows, forall₂_modify_iff (follows_refl event.reply) asked.stored,
            follows_allocated_iff asked.port asked.pending] at follow
          obtain ⟨destination, gha, rfl, address⟩ := follow
          exact ⟨destination, gha, kept, rfl, address⟩
        · rintro ⟨destination, gha, _, returned, address⟩
          cases returned
          refine ⟨after, rfl, ?_⟩
          rw [flows, forall₂_modify_iff (follows_refl event.reply) asked.stored,
            follows_allocated_iff asked.port asked.pending]
          exact ⟨destination, gha, rfl, address⟩
      · have faulted : (receiveReply emptyBlock event).run before = .error fault after := by
          rw [started]
          simp only [prxHandleAllocateResponse, EStateM.run_bind, run]
        rw [faulted, lookup]
        constructor
        · rintro ⟨_, returned, -⟩
          cases returned
        · rintro ⟨-, _, _, returned, -⟩
          cases returned
    · have finished : (receiveReply emptyBlock event).run before =
          .ok () { before with cache } := by
        rw [started]
        simp only [prxHandleAllocateResponse, EStateM.run_bind, EStateM.run_pure,
          run_response_unasked fun position flow isAsked => asked ⟨position, flow, isAsked⟩]
      rw [finished]
      refine iff_of_true ⟨_, rfl, List.forall₂_same.mpr fun flow _ => follows_refl _ flow⟩ ?_
      intro _ instanceData position flow found stored pending binding
      exact absurd ⟨position, flow, instanceData, found, stored, pending, binding⟩ asked
  · have finished : (receiveReply emptyBlock event).run before = .ok () before := by
      simp only [receiveReply, receiveArpPacket, onCache, EStateM.run_bind, EStateM.run_get,
        run_processReply_refused accepted, EStateM.run_set, EStateM.run_pure]
      rfl
    rw [finished]
    exact iff_of_true ⟨_, rfl, List.forall₂_same.mpr fun flow _ => follows_refl _ flow⟩
      fun isAccepted => absurd isAccepted accepted

/-- In a run of replies, every flow that becomes allocated does so by a reply of its
destination, with the hardware address of that reply, and no reply changes any other
flow, exactly if whenever the flow of port 1 waits and is bound, the reply is from its
destination and the cache resolves to the reply. -/
theorem arpReplies_run_iff (emptyBlock : Bool) (start : WifiShim) (events : List ReplyEvent) :
    (∀ occurrence ∈ Trace.trace (receiveReply emptyBlock) events start,
        ProcessedProperly occurrence.before occurrence.event occurrence.result) ↔
      ∀ occurrence ∈ Trace.trace (receiveReply emptyBlock) events start,
        ForPortOne emptyBlock occurrence.before occurrence.event := by
  apply Trace.proper_iff_supported (fun _ => True) (ForPortOne emptyBlock) ProcessedProperly
  · exact fun before event _ => processedProperly_iff emptyBlock before event
  · exact fun _ _ _ _ => trivial
  · trivial

/-- The reply of a station to the node `@`. -/
def replyOf (address name : UInt8) : ReplyEvent where
  outcomes := ⟨true, true⟩
  reply :=
    { usHType := 1
      ucHaLength := 6
      sha := ⟨#v[2, 0, 0, 0, 0, address]⟩
      spa := [name]
      tha := ⟨#v[2, 0, 0, 0, 0, 0]⟩
      tpa := [0x40] }

/-- A node with an initialised cache whose flow of port 1 waits for the station `A`. -/
def waitingForA : WifiShim where
  cache := final ((vArpInitCache (Vector.replicate 3 0)).run ⟨.empty, .empty, []⟩)
  xShimFlowsList :=
    [{ xPortId := 1
       ePortIdState := .pending
       pxDestHa := none
       pxDestPa := some { pucAddress := some [0x41] } }]
  pxData := true

/-- An unsolicited reply of the station `B` allocates the flow to `A`. -/
theorem stray_reply_allocates :
    ¬ ∀ occurrence ∈ Trace.trace (receiveReply true) [replyOf 1 0x42] waitingForA,
      ProcessedProperly occurrence.before occurrence.event occurrence.result := by
  intro all
  have first := all _ (Trace.mem_trace_cons.mpr (.inl rfl))
  have forOne := (processedProperly_iff true waitingForA (replyOf 1 0x42)).mp first
  have both := forOne ⟨rfl, rfl, rfl, rfl⟩ rfl 0 _ rfl rfl rfl rfl
  exact absurd both.1 (by decide)

end RinaSense
