import RinaSense.Shim.ArpProcessing
import RinaSense.Shim.ArpRequests

/-!
# ARP answers

Which requests a node is to answer, and how, over runs in which addresses are registered, removed
and resolved and frames arrive. What is looked up is the sender's address, and only the operation
of the packet is changed.
-/

namespace RinaSense

open Command

namespace BoundArp

/-- What a node with local addresses does. -/
inductive AnswerEvent where
  | register (pxPa : Option GpaId) (pxHa : Option GhaId)
  | unregister (pxPa : Option GpaId) (pxHa : Option GhaId)
  | resolve (outcomes : ArpTxOutcomes) (pxTpa pxSpa : Option GpaId) (pxSha : Option GhaId)
  | receive (frame : List UInt8)

/-- The answer of the processing and the frame after it, where one was received. -/
def answer (emptyBlock : Bool) : AnswerEvent → Arp (Option (FrameProcessingResult × List UInt8))
  | .register pxPa pxHa => do
      let _ ← pxArpAdd pxPa pxHa
      return none
  | .unregister pxPa pxHa => do
      let _ ← xArpRemove pxPa pxHa
      return none
  | .resolve outcomes pxTpa pxSpa pxSha => do
      let _ ← xArpResolveGpa outcomes pxTpa pxSpa pxSha
      return none
  | .receive frame => some <$> eArpProcessFrame emptyBlock frame

/-- The local addresses after an event: those that are bound here. -/
def registered (run : BoundArp) : AnswerEvent → List UInt8 → Option MacAddress
  | .register pxPa pxHa => run.bind pxPa pxHa
  | .unregister pxPa pxHa => run.unbind pxPa pxHa
  | .resolve _ _ _ _ | .receive _ => run.bound

def respond (emptyBlock : Bool) (event : AnswerEvent) :
    EStateM Fault BoundArp (Option (FrameProcessingResult × List UInt8)) := do
  let run ← get
  match (answer emptyBlock event).run run.cache with
  | .ok result cache => do
      set ({ cache, bound := run.registered event } : BoundArp)
      return result
  | .error fault _ => throw fault

/-! ## Purpose -/

/-- A frame with a request between protocol addresses that are not empty. -/
structure RequestIn (frame : List UInt8) (packet : ArpPacket) : Prop where
  read : readArpPacket frame = .ok (some packet)
  request : packet.usOperation = arpRequest
  sender : unpadded packet.spa ≠ []
  target : unpadded packet.tpa ≠ []

/-- A frame with the reply to a request from the station with a hardware address. -/
def ReplyIn (frame : List UInt8) (address : MacAddress) (packet : ArpPacket) : Prop :=
  ∃ reply, readArpPacket frame = .ok (some reply) ∧ reply.usOperation = arpReply ∧
    reply.sha = address ∧ unpadded reply.spa = unpadded packet.tpa ∧
    reply.tha = packet.sha ∧ unpadded reply.tpa = unpadded packet.spa

/-- A request is to be returned as a reply exactly if its target is a local address. -/
def Answers (before : BoundArp) (event : AnswerEvent)
    (result : EStateM.Result Fault BoundArp (Option (FrameProcessingResult × List UInt8))) : Prop :=
  ∀ frame packet, event = .receive frame → RequestIn frame packet →
    ∃ eReturn reply after, result = .ok (some (eReturn, reply)) after ∧
      (eReturn = .returnEthernetFrame ↔ (before.bound (unpadded packet.tpa)).isSome) ∧
      ∀ address, before.bound (unpadded packet.tpa) = some address → ReplyIn reply address packet

/-- The sender's address is in the cache exactly if the target's is local, and if it is, the
request has the addresses of the reply already. -/
def Answerable (before : BoundArp) (event : AnswerEvent) : Prop :=
  ∀ frame packet, event = .receive frame → RequestIn frame packet →
    (before.cache.Cached (unpadded packet.spa) ↔ (before.bound (unpadded packet.tpa)).isSome) ∧
      ∀ address, before.bound (unpadded packet.tpa) = some address →
        packet.sha = address ∧ unpadded packet.spa = unpadded packet.tpa ∧ packet.tha = packet.sha

/-! ## Steps -/

section Steps

variable {run : BoundArp} {emptyBlock : Bool}

/-- What a request changes are the contents of addresses. -/
theorem upholds_growGpa (memory : Bool) (pxGpa : GpaId) (length : Nat) :
    Upholds ArpCache.Ready (growGpa memory pxGpa length) fun _ => True := by
  apply upholds_bind (upholds_of_still (still_readGpa pxGpa))
  intro gpa _
  apply upholds_bind (upholds_modify _)
  · exact fun _ _ => upholds_pure trivial
  · intro cache ready
    exact ready.mono rfl (Store.next_set _ _ _).ge fun _ other found => ⟨other, found⟩

theorem upholds_vArpSendRequest (outcomes : ArpTxOutcomes) (pxTpa pxSpa : GpaId) (pxSha : GhaId) :
    Upholds ArpCache.Ready (vArpSendRequest outcomes pxTpa pxSpa pxSha) fun _ => True := by
  have nothing : Upholds ArpCache.Ready
      (pure (false, none) : Arp (Bool × Option (List UInt8))) fun _ => True := upholds_pure trivial
  apply upholds_bind (upholds_of_still (still_readGpa pxSpa))
  intro spa _
  apply upholds_bind (upholds_of_still (still_readGpa pxTpa))
  intro tpa _
  apply upholds_bind (upholds_growGpa _ _ _)
  intro grownSpa _
  apply upholds_ite (fun _ => nothing)
  intro _
  apply upholds_bind (upholds_growGpa _ _ _)
  intro grownTpa _
  apply upholds_ite (fun _ => nothing)
  intro _
  apply upholds_ite (fun _ => nothing)
  intro _
  apply upholds_bind (upholds_of_still (still_readGha _))
  intro sha _
  apply upholds_bind (upholds_of_still (still_readGpa pxSpa))
  intro spa _
  apply upholds_bind (upholds_of_still (still_readGpa pxTpa))
  intro tpa _
  apply upholds_bind (upholds_of_still (still_generate _ sha spa tpa))
  intro frame _
  apply upholds_ite (fun _ => upholds_pure trivial)
  intro _
  exact upholds_ite (fun _ => nothing) fun _ => upholds_pure trivial

theorem upholds_xArpResolveGpa (outcomes : ArpTxOutcomes) (pxTpa pxSpa : Option GpaId)
    (pxSha : Option GhaId) :
    Upholds ArpCache.Ready (xArpResolveGpa outcomes pxTpa pxSpa pxSha) fun _ => True := by
  apply upholds_bind upholds_get
  intro cache _
  apply upholds_ite (fun _ => upholds_pure trivial)
  intro _
  split
  · exact upholds_vArpSendRequest outcomes _ _ _
  · exact upholds_pure trivial

theorem upholds_eArpProcessFrame (frame : List UInt8) :
    Upholds ArpCache.Ready (eArpProcessFrame emptyBlock frame) fun _ => True := by
  intro cache ready
  cases read : readArpPacket frame with
  | error fault =>
      rw [eArpProcessFrame, run_bind_error (run_lift_error read)]
      exact ready
  | ok packet =>
      cases packet with
      | none =>
          rw [run_eArpProcessFrame_refused read]
          exact ⟨ready, trivial⟩
      | some packet =>
          obtain ⟨eReturn, after, run, readyAfter, -⟩ :=
            run_eArpProcessFrame read (@processed_ready cache emptyBlock ready packet)
          rw [run]
          exact ⟨readyAfter, trivial⟩

/-- No event takes a row its addresses. -/
theorem upholds_answer (event : AnswerEvent) :
    Upholds ArpCache.Ready (answer emptyBlock event) fun _ => True := by
  cases event with
  | register pxPa pxHa =>
      exact upholds_bind (upholds_pxArpAdd pxPa pxHa) fun _ _ => upholds_pure trivial
  | unregister pxPa pxHa =>
      exact upholds_bind (upholds_xArpRemove pxPa pxHa) fun _ _ => upholds_pure trivial
  | resolve outcomes pxTpa pxSpa pxSha =>
      exact upholds_bind (upholds_xArpResolveGpa outcomes pxTpa pxSpa pxSha)
        fun _ _ => upholds_pure trivial
  | receive frame =>
      rw [answer, map_eq_pure_bind]
      exact upholds_bind (upholds_eArpProcessFrame frame) fun _ _ => upholds_pure trivial

theorem ready_respond (ready : run.cache.Ready) (event : AnswerEvent) :
    (final ((respond emptyBlock event).run run)).cache.Ready := by
  have kept := (@upholds_answer emptyBlock event).final ready
  simp only [respond, EStateM.run_bind, EStateM.run_get]
  cases answered : (answer emptyBlock event).run run.cache with
  | ok result cache =>
      rw [answered] at kept
      exact kept
  | error fault cache => exact ready

/-- A request is returned with another operation if its sender is in the cache. -/
theorem run_respond_request (ready : run.cache.Ready) {frame : List UInt8} {packet : ArpPacket}
    (requested : RequestIn frame packet) :
    ∃ eReturn after, (respond emptyBlock (.receive frame)).run run = .ok (some (eReturn,
        if eReturn = .returnEthernetFrame then withOperation frame arpReply else frame)) after ∧
      (eReturn = .returnEthernetFrame ↔ run.cache.Cached (unpadded packet.spa)) := by
  obtain ⟨hardware, length⟩ := hardware_of_read requested.read
  obtain ⟨eReturn, after, processed, -, -, answered⟩ := run_eArpProcessFrame requested.read
    (@processed_request run.cache emptyBlock packet _ _ hardware length
      (parsed_of_unpadded requested.sender) (parsed_of_unpadded requested.target) ready
      requested.request)
  refine ⟨eReturn, ⟨after, run.bound⟩, ?_, answered⟩
  simp only [respond, answer, EStateM.run_bind, EStateM.run_get, run_map, processed]
  rfl

/-- The reply has the addresses of the request in their old places. -/
theorem replyIn_withOperation_iff {frame : List UInt8} {packet : ArpPacket}
    (read : readArpPacket frame = .ok (some packet)) (address : MacAddress) :
    ReplyIn (withOperation frame arpReply) address packet ↔
      packet.sha = address ∧ unpadded packet.spa = unpadded packet.tpa ∧
        packet.tha = packet.sha := by
  have reread := readArpPacket_withOperation read
  constructor
  · rintro ⟨reply, readReply, -, sha, spa, tha, -⟩
    rw [reread] at readReply
    cases readReply
    exact ⟨sha, spa, tha⟩
  · rintro ⟨sha, spa, tha⟩
    exact ⟨_, reread, rfl, sha, spa, tha, spa.symm⟩

/-- A request is answered as it should be exactly where the code answers so. -/
theorem answers_iff (ready : run.cache.Ready) (event : AnswerEvent) :
    Answers run event ((respond emptyBlock event).run run) ↔ Answerable run event := by
  constructor
  · rintro answers frame packet rfl requested
    obtain ⟨eReturn, reply, after, returned, registered, replies⟩ :=
      answers frame packet rfl requested
    obtain ⟨result, next, ran, cached⟩ := @run_respond_request run emptyBlock ready _ _ requested
    rw [ran] at returned
    cases returned
    refine ⟨cached.symm.trans registered, fun address bound => ?_⟩
    have isReply := replies address bound
    rw [if_pos (registered.mpr (by rw [bound]; rfl))] at isReply
    exact (replyIn_withOperation_iff requested.read address).mp isReply
  · rintro answerable frame packet rfl requested
    obtain ⟨registered, already⟩ := answerable frame packet rfl requested
    obtain ⟨result, next, ran, cached⟩ := @run_respond_request run emptyBlock ready _ _ requested
    refine ⟨result, _, next, ran, cached.trans registered, fun address bound => ?_⟩
    rw [if_pos ((cached.trans registered).mpr (by rw [bound]; rfl))]
    exact (replyIn_withOperation_iff requested.read address).mpr (already address bound)

/-- An address that is registered is local from then on, if it gets a row or not. -/
theorem run_respond_register (ready : run.cache.Ready) {pxPa : GpaId} {pxHa : GhaId} {gpa : Gpa}
    {gha : Gha} (foundGpa : run.cache.gpa (some pxPa) = some gpa)
    (foundGha : run.cache.gha (some pxHa) = some gha) (ok : xIsGpaOk (some gpa) = true) :
    ∃ after, (respond emptyBlock (.register (some pxPa) (some pxHa))).run run = .ok none after ∧
      after.cache.Ready ∧
      after.bound = Function.update run.bound gpa.contents (some gha.xAddress) := by
  obtain ⟨cache, added, readyAfter⟩ := run_vArpAddCacheEntry_ready ready foundGpa foundGha 1
  refine ⟨⟨cache, run.registered (.register (some pxPa) (some pxHa))⟩, ?_, readyAfter, ?_⟩
  · simp only [respond, answer, pxArpAdd, EStateM.run_bind, EStateM.run_get, foundGpa, foundGha, ok,
      xIsGhaOk, Option.isSome_some, Bool.not_true, Bool.false_eq_true, if_false, added]
    rfl
  · simp only [registered, bind, foundGpa, foundGha, ok, if_true]

end Steps

/-- In a run on an initialised cache every request is answered as it should be exactly if every
request is one the code answers so. -/
theorem arp_answers_iff (emptyBlock : Bool) (heap : ArpCache) (leftover : Vector UInt8 3)
    (events : List AnswerEvent) :
    (∀ occurrence ∈ Trace.trace (respond emptyBlock) events (initial heap leftover),
        Answers occurrence.before occurrence.event occurrence.result) ↔
      ∀ occurrence ∈ Trace.trace (respond emptyBlock) events (initial heap leftover),
        Answerable occurrence.before occurrence.event := by
  apply Trace.proper_iff_supported (fun run => run.cache.Ready) Answerable Answers
  · exact fun run event ready => answers_iff ready event
  · exact fun run event ready _ => ready_respond ready event
  · exact ready_vArpInitCache heap leftover

/-- A station that asks. -/
def askingStation : Gha where
  xType := .macAddr8023
  xAddress := ⟨#v[2, 0, 0, 0, 0, 2]⟩

/-- `A` is registered, and the first request `B` sends for it is not answered. -/
theorem first_request_unanswered :
    ¬ ∀ occurrence ∈ Trace.trace (respond false)
        [.register (some 0) (some 0),
          .receive (arpPacketBytes askingStation (Gpa.padded ⟨some [0x42]⟩ 1 0)
            (Gpa.padded ⟨some [0x41]⟩ 1 0) arpRequest)]
        (initial oneStation (Vector.replicate 3 0)),
      Answers occurrence.before occurrence.event occurrence.result := by
  intro all
  have kept := (unbound_initial oneStation (Vector.replicate 3 0)).kept
  obtain ⟨after, ran, ready, bound⟩ := @run_respond_register
    (initial oneStation (Vector.replicate 3 0)) false (ready_vArpInitCache _ _) 0 0 _ _
    (kept.gpas 0 _ (Store.get?_allocate_new Store.empty _))
    (kept.ghas 0 _ (Store.get?_allocate_new Store.empty _)) rfl
  have answers := all _ (Trace.mem_trace_cons.mpr (.inr ⟨none, after, ran,
    Trace.mem_trace_cons.mpr (.inl rfl)⟩))
  obtain ⟨packet, read, request, -, -, sender, target⟩ := @recovers_of_short false askingStation
    ⟨some [0x42]⟩ ⟨some [0x41]⟩ 1 rfl rfl (by decide) (by decide) (by decide) (by decide)
    (by decide)
  have spa := unpadded_of_parsed sender
  have tpa := unpadded_of_parsed target
  have requested : RequestIn _ packet :=
    ⟨read, request, spa ▸ List.cons_ne_nil _ _, tpa ▸ List.cons_ne_nil _ _⟩
  have answerable := (answers_iff ready _).mp answers _ packet rfl requested
  have already := answerable.2 ⟨#v[2, 0, 0, 0, 0, 1]⟩ (by
    rw [bound, tpa]
    exact Function.update_self _ _ _)
  rw [spa, tpa] at already
  exact absurd already.2.1 (by decide)

end BoundArp

end RinaSense
