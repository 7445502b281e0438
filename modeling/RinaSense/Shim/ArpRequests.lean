import RinaSense.Shim.ArpFrames

/-!
# ARP requests

Sending a request with `vARPSendRequest`, which pads the shorter one of two protocol addresses
where it stands. The request can be read back as long as the addresses fit the length field, and
the callers keep their addresses only if there is nothing to pad.
-/

namespace RinaSense

open Command

/-- Outcomes of sending a request: memory for growing an address, the buffer, memory for the
unknown hardware address, and for a caller that is not the IPCP task room for the event. -/
structure ArpTxOutcomes where
  spaMemory : Bool
  tpaMemory : Bool
  buffer : Bool
  ghaMemory : Bool
  ipcpTask : Bool
  networkEvent : Bool
  deriving Repr, DecidableEq

def readGpa (pxGpa : GpaId) : Arp Gpa := do
  match (← get).gpa (some pxGpa) with
  | some gpa => return gpa
  | none => throw .released

/-- `xARPAddressGPAGrow` of an address in memory with the filler zero. -/
def growGpa (memory : Bool) (pxGpa : GpaId) (uxLength : Nat) : Arp Bool := do
  let gpa ← readGpa pxGpa
  let (done, grown) := gpa.xArpAddressGpaGrow memory uxLength 0x00
  modify fun cache => { cache with gpas := cache.gpas.set pxGpa grown }
  return done

/-- The result and the frame handed on. -/
def vArpSendRequest (outcomes : ArpTxOutcomes) (pxTpa pxSpa : GpaId) (pxSha : GhaId) :
    Arp (Bool × Option (List UInt8)) := do
  let xMaxLen := max (← readGpa pxSpa).uxLength (← readGpa pxTpa).uxLength
  if !(← growGpa outcomes.spaMemory pxSpa xMaxLen) then return (false, none)
  if !(← growGpa outcomes.tpaMemory pxTpa xMaxLen) then return (false, none)
  if !outcomes.buffer then return (false, none)
  let frame ← prvArpGeneratePacket outcomes.ghaMemory (← readGha (some pxSha)) (← readGpa pxSpa)
    (← readGpa pxTpa) arpRequest
  if outcomes.ipcpTask then return (true, some frame)
  if !outcomes.networkEvent then return (false, none)
  return (true, some frame)

def xArpResolveGpa (outcomes : ArpTxOutcomes) (pxTpa pxSpa : Option GpaId) (pxSha : Option GhaId) :
    Arp (Bool × Option (List UInt8)) := do
  let cache ← get
  if !xIsGpaOk (cache.gpa pxTpa) || !xIsGhaOk (cache.gha pxSha) || !xIsGpaOk (cache.gpa pxSpa) then
    return (false, none)
  match pxTpa, pxSpa, pxSha with
  | some pxTpa, some pxSpa, some pxSha => vArpSendRequest outcomes pxTpa pxSpa pxSha
  | _, _, _ => return (false, none)

/-! ## Sending -/

section Sending

variable {cache : ArpCache} {pxTpa pxSpa pxGpa : GpaId} {pxSha : GhaId} {gpa spa tpa : Gpa}
  {sha : Gha} {outcomes : ArpTxOutcomes} {length : Nat}

theorem run_readGpa (found : cache.gpas.get? pxGpa = some gpa) :
    (readGpa pxGpa).run cache = .ok gpa cache := by
  have here : cache.gpa (some pxGpa) = some gpa := found
  simp only [readGpa, EStateM.run_bind, EStateM.run_get, here]
  rfl

theorem run_readGha (found : cache.ghas.get? pxSha = some sha) :
    (readGha (some pxSha)).run cache = .ok sha cache := by
  have here : cache.gha (some pxSha) = some sha := found
  simp only [readGha, EStateM.run_bind, EStateM.run_get, here]
  rfl

theorem still_readGpa (pxGpa : GpaId) (cache : ArpCache) :
    final ((readGpa pxGpa).run cache) = cache := by
  simp only [readGpa, EStateM.run_bind, EStateM.run_get]
  split <;> rfl

theorem still_readGha (pxGha : Option GhaId) (cache : ArpCache) :
    final ((readGha pxGha).run cache) = cache := by
  simp only [readGha, EStateM.run_bind, EStateM.run_get]
  split <;> rfl

theorem still_generate (ghaMemory : Bool) (sha : Gha) (spa tpa : Gpa) (cache : ArpCache) :
    final ((liftM (prvArpGeneratePacket ghaMemory sha spa tpa arpRequest) :
      Arp (List UInt8)).run cache) = cache := by
  rw [run_lift]
  cases prvArpGeneratePacket ghaMemory sha spa tpa arpRequest <;> rfl

theorem run_growGpa (memory : Bool) (found : cache.gpas.get? pxGpa = some gpa) :
    (growGpa memory pxGpa length).run cache =
      .ok (gpa.xArpAddressGpaGrow memory length 0).1
        { cache with
          gpas := cache.gpas.set pxGpa (gpa.xArpAddressGpaGrow memory length 0).2 } := by
  rw [growGpa, run_bind_ok (run_readGpa found)]
  rfl

/-- An address that has the length, or can be given it. -/
theorem run_growGpa_ok {memory : Bool} (found : cache.gpas.get? pxGpa = some gpa)
    (ok : xIsGpaOk (some gpa) = true) (le : gpa.uxLength ≤ length)
    (granted : gpa.uxLength = length ∨ memory = true) :
    (growGpa memory pxGpa length).run cache =
      .ok true { cache with gpas := cache.gpas.set pxGpa (gpa.padded length 0) } := by
  rw [run_growGpa memory found, Gpa.grow_of_le ok le granted]

/-- Without memory for it an address stays as it is. -/
theorem run_growGpa_refused (found : cache.gpas.get? pxGpa = some gpa)
    (ok : xIsGpaOk (some gpa) = true) (shorter : gpa.uxLength < length) :
    (growGpa false pxGpa length).run cache = .ok false cache := by
  rw [Gpa.uxLength_eq] at shorter
  rw [run_growGpa false found, Gpa.grow_eq ok, if_neg (Nat.not_lt.mpr shorter.le),
    if_neg shorter.ne', if_neg Bool.false_ne_true, Store.set_of_get? found]

/-- The frame of a request, where it is handed on. -/
def handedOn (outcomes : ArpTxOutcomes) (frame : List UInt8) : Bool × Option (List UInt8) :=
  if outcomes.buffer && (outcomes.ipcpTask || outcomes.networkEvent) then (true, some frame)
  else (false, none)

/-- The cache with both addresses as long as the longer one. -/
def ArpCache.withPadded (cache : ArpCache) (pxSpa pxTpa : GpaId) (spa tpa : Gpa) : ArpCache :=
  { cache with
    gpas := (cache.gpas.set pxSpa (spa.padded (max spa.uxLength tpa.uxLength) 0)).set pxTpa
      (tpa.padded (max spa.uxLength tpa.uxLength) 0) }

section Both

variable (foundSpa : cache.gpas.get? pxSpa = some spa) (foundTpa : cache.gpas.get? pxTpa = some tpa)
include foundSpa foundTpa

theorem get?_padded_spa : (cache.withPadded pxSpa pxTpa spa tpa).gpas.get? pxSpa =
    some (spa.padded (max spa.uxLength tpa.uxLength) 0) := by
  simp only [ArpCache.withPadded]
  by_cases same : pxSpa = pxTpa
  · subst same
    obtain rfl := Option.some.inj (foundSpa.symm.trans foundTpa)
    rw [Store.set_set, Store.get?_set_self foundSpa]
  · rw [Store.get?_set_of_ne _ same, Store.get?_set_self foundSpa]

variable (okSpa : xIsGpaOk (some spa) = true)
include okSpa

/-- Where both pointers lead to one address, that has the length already. -/
theorem get?_set_spa :
    (cache.gpas.set pxSpa (spa.padded (max spa.uxLength tpa.uxLength) 0)).get? pxTpa =
      some tpa := by
  by_cases same : pxTpa = pxSpa
  · subst same
    obtain rfl := Option.some.inj (foundSpa.symm.trans foundTpa)
    rw [Nat.max_self, Gpa.padded_self okSpa, Store.get?_set_self foundSpa]
  · rw [Store.get?_set_of_ne _ same, foundTpa]

theorem get?_padded_tpa : (cache.withPadded pxSpa pxTpa spa tpa).gpas.get? pxTpa =
    some (tpa.padded (max spa.uxLength tpa.uxLength) 0) :=
  Store.get?_set_self (get?_set_spa foundSpa foundTpa okSpa) _

variable (okTpa : xIsGpaOk (some tpa) = true)
include okTpa

/-- A request for which both addresses get the length of the longer one. -/
theorem run_vArpSendRequest_padded (foundSha : cache.ghas.get? pxSha = some sha)
    (grantedSpa : spa.uxLength = max spa.uxLength tpa.uxLength ∨ outcomes.spaMemory = true)
    (grantedTpa : tpa.uxLength = max spa.uxLength tpa.uxLength ∨ outcomes.tpaMemory = true) :
    (vArpSendRequest outcomes pxTpa pxSpa pxSha).run cache =
      if outcomes.buffer && !outcomes.ghaMemory then
        .error .nullPointer (cache.withPadded pxSpa pxTpa spa tpa)
      else
        .ok (handedOn outcomes (arpPacketBytes sha
            (spa.padded (max spa.uxLength tpa.uxLength) 0)
            (tpa.padded (max spa.uxLength tpa.uxLength) 0) arpRequest))
          (cache.withPadded pxSpa pxTpa spa tpa) := by
  have growSpa := run_growGpa_ok foundSpa okSpa (Nat.le_max_left _ tpa.uxLength) grantedSpa
  have growTpa := @run_growGpa_ok { cache with
    gpas := cache.gpas.set pxSpa (spa.padded (max spa.uxLength tpa.uxLength) 0) } pxTpa tpa
      (max spa.uxLength tpa.uxLength) outcomes.tpaMemory (get?_set_spa foundSpa foundTpa okSpa)
        okTpa (Nat.le_max_right _ _) grantedTpa
  rw [vArpSendRequest, run_bind_ok (run_readGpa foundSpa), run_bind_ok (run_readGpa foundTpa),
    run_bind_ok growSpa]
  simp only [Bool.not_true, Bool.false_eq_true, if_false]
  rw [run_bind_ok growTpa, handedOn]
  simp only [Bool.not_true, Bool.false_eq_true, if_false]
  cases outcomes.buffer with
  | false => rfl
  | true =>
      simp only [Bool.not_true, Bool.false_eq_true, if_false, Bool.true_and]
      have foundSha : (cache.withPadded pxSpa pxTpa spa tpa).ghas.get? pxSha = some sha := foundSha
      rw [← ArpCache.withPadded, run_bind_ok (run_readGha foundSha),
        run_bind_ok (run_readGpa (get?_padded_spa foundSpa foundTpa)),
        run_bind_ok (run_readGpa (get?_padded_tpa foundSpa foundTpa okSpa))]
      cases outcomes.ghaMemory with
      | false => rfl
      | true =>
          cases outcomes.ipcpTask with
          | true => rfl
          | false => cases outcomes.networkEvent <;> rfl

/-- Without memory for growing the shorter address nothing is sent, and nothing changes. -/
theorem run_vArpSendRequest_refused
    (refused : spa.uxLength < tpa.uxLength ∧ outcomes.spaMemory = false ∨
      tpa.uxLength < spa.uxLength ∧ outcomes.tpaMemory = false) :
    (vArpSendRequest outcomes pxTpa pxSpa pxSha).run cache = .ok (false, none) cache := by
  rw [vArpSendRequest, run_bind_ok (run_readGpa foundSpa), run_bind_ok (run_readGpa foundTpa)]
  rcases refused with ⟨shorter, refused⟩ | ⟨shorter, refused⟩
  · rw [refused, run_bind_ok (run_growGpa_refused foundSpa okSpa (lt_max_of_lt_right shorter))]
    rfl
  · have whole : max spa.uxLength tpa.uxLength = spa.uxLength := Nat.max_eq_left shorter.le
    have kept := @run_growGpa_ok cache pxSpa spa spa.uxLength outcomes.spaMemory foundSpa okSpa
      (Nat.le_refl _) (.inl rfl)
    rw [Gpa.padded_self okSpa, Store.set_of_get? foundSpa] at kept
    rw [whole, run_bind_ok kept, refused]
    simp only [Bool.not_true, Bool.false_eq_true, if_false]
    rw [run_bind_ok (run_growGpa_refused foundTpa okTpa shorter)]
    rfl

end Both

/-- Both addresses are given the length of the longer one, or memory for the shorter one is
refused. -/
theorem growable_or_refused (outcomes : ArpTxOutcomes) (spa tpa : Gpa) :
    (spa.uxLength = max spa.uxLength tpa.uxLength ∨ outcomes.spaMemory = true) ∧
        (tpa.uxLength = max spa.uxLength tpa.uxLength ∨ outcomes.tpaMemory = true) ∨
      (spa.uxLength < tpa.uxLength ∧ outcomes.spaMemory = false ∨
        tpa.uxLength < spa.uxLength ∧ outcomes.tpaMemory = false) := by
  rcases Nat.lt_trichotomy spa.uxLength tpa.uxLength with shorter | same | shorter
  · cases memory : outcomes.spaMemory with
    | true => exact .inl ⟨.inr rfl, .inl (Nat.max_eq_right shorter.le).symm⟩
    | false => exact .inr (.inl ⟨shorter, rfl⟩)
  · rw [same, Nat.max_self]
    exact .inl ⟨.inl rfl, .inl rfl⟩
  · cases memory : outcomes.tpaMemory with
    | true => exact .inl ⟨.inl (Nat.max_eq_left shorter.le).symm, .inr rfl⟩
    | false => exact .inr (.inr ⟨shorter, rfl⟩)

/-- A packet is generated: the addresses get one length, and there is a buffer. -/
def ArpTxOutcomes.Generates (outcomes : ArpTxOutcomes) (spa tpa : Gpa) : Prop :=
  (spa.uxLength < tpa.uxLength → outcomes.spaMemory = true) ∧
    (tpa.uxLength < spa.uxLength → outcomes.tpaMemory = true) ∧ outcomes.buffer = true

instance (outcomes : ArpTxOutcomes) (spa tpa : Gpa) : Decidable (outcomes.Generates spa tpa) :=
  inferInstanceAs (Decidable (_ ∧ _))

theorem generates_iff
    (grantedSpa : spa.uxLength = max spa.uxLength tpa.uxLength ∨ outcomes.spaMemory = true)
    (grantedTpa : tpa.uxLength = max spa.uxLength tpa.uxLength ∨ outcomes.tpaMemory = true) :
    outcomes.Generates spa tpa ↔ outcomes.buffer = true := by
  constructor
  · exact fun generates => generates.2.2
  · intro buffer
    refine ⟨fun shorter => grantedSpa.resolve_left fun same => ?_,
      fun shorter => grantedTpa.resolve_left fun same => ?_, buffer⟩
    · omega
    · omega

theorem not_generates
    (refused : spa.uxLength < tpa.uxLength ∧ outcomes.spaMemory = false ∨
      tpa.uxLength < spa.uxLength ∧ outcomes.tpaMemory = false) :
    ¬ outcomes.Generates spa tpa := by
  rintro ⟨spaMemory, tpaMemory, -⟩
  rcases refused with ⟨shorter, refused⟩ | ⟨shorter, refused⟩
  · cases refused.symm.trans (spaMemory shorter)
  · cases refused.symm.trans (tpaMemory shorter)

/-! ## Round trip -/

/-- There is memory for a request, and it is handed on. -/
def ArpTxOutcomes.granted (outcomes : ArpTxOutcomes) : Bool :=
  outcomes.spaMemory && outcomes.tpaMemory && outcomes.buffer && outcomes.ghaMemory &&
    (outcomes.ipcpTask || outcomes.networkEvent)

/-- A request that is made is read back, and where none is made something was refused or the
addresses are too long for the header. -/
def RequestRoundTrips (outcomes : ArpTxOutcomes) (emptyBlock : Bool) (cache : ArpCache)
    (pxTpa pxSpa : GpaId) (pxSha : GhaId) (sha : Gha) (spa tpa : Gpa) : Prop :=
  Wp (vArpSendRequest outcomes pxTpa pxSpa pxSha)
    (fun result _ =>
      match result.2 with
      | some frame => Recovers emptyBlock frame sha spa tpa
      | none => outcomes.granted = true → 255 < max spa.uxLength tpa.uxLength) cache

/-- A packet that is generated has its hardware address, and one that is handed on has addresses
whose length one byte can hold. -/
def ArpTxOutcomes.Fits (outcomes : ArpTxOutcomes) (spa tpa : Gpa) : Prop :=
  outcomes.Generates spa tpa → outcomes.ghaMemory = true ∧
    (outcomes.ipcpTask = true ∨ outcomes.networkEvent = true →
      max spa.uxLength tpa.uxLength ≤ 255)

instance (outcomes : ArpTxOutcomes) (spa tpa : Gpa) : Decidable (outcomes.Fits spa tpa) :=
  inferInstanceAs (Decidable (_ → _))

/-- Requests make the round trip exactly up to the length one byte can hold, and where what was
allocated on the way is there. -/
theorem arp_request_roundTrip_iff {emptyBlock : Bool} (foundSpa : cache.gpas.get? pxSpa = some spa)
    (foundTpa : cache.gpas.get? pxTpa = some tpa) (foundSha : cache.ghas.get? pxSha = some sha)
    (okSpa : xIsGpaOk (some spa) = true) (okTpa : xIsGpaOk (some tpa) = true)
    (absentSpa : 0 ∉ spa.contents) (absentTpa : 0 ∉ tpa.contents) (outcomes : ArpTxOutcomes) :
    RequestRoundTrips outcomes emptyBlock cache pxTpa pxSpa pxSha sha spa tpa ↔
      outcomes.Fits spa tpa := by
  rcases growable_or_refused outcomes spa tpa with ⟨grantedSpa, grantedTpa⟩ | refused
  · rw [ArpTxOutcomes.Fits, generates_iff grantedSpa grantedTpa, RequestRoundTrips, Wp,
      run_vArpSendRequest_padded foundSpa foundTpa okSpa okTpa foundSha grantedSpa grantedTpa,
      handedOn, ArpTxOutcomes.granted]
    cases buffer : outcomes.buffer with
    | false => simp
    | true =>
        cases gha : outcomes.ghaMemory with
        | false => simp
        | true =>
            have handed : (outcomes.ipcpTask || outcomes.networkEvent) = true ↔
                (outcomes.ipcpTask = true ∨ outcomes.networkEvent = true) := Bool.or_eq_true_iff
            simp only [Bool.not_true, Bool.and_false, Bool.false_eq_true, if_false, Bool.true_and,
              forall_const, true_and, ← handed]
            cases outcomes.ipcpTask || outcomes.networkEvent with
            | false => simp
            | true =>
                simp only [if_true, forall_const]
                exact recovers_iff okSpa okTpa absentSpa absentTpa
  · have nothing := not_generates refused
    rw [RequestRoundTrips, Wp, run_vArpSendRequest_refused foundSpa foundTpa okSpa okTpa refused]
    refine iff_of_true (fun granted => ?_) fun generates => absurd generates nothing
    simp only [ArpTxOutcomes.granted, Bool.and_eq_true] at granted
    exact absurd ⟨fun _ => granted.1.1.1.1, fun _ => granted.1.1.1.2, granted.1.1.2⟩ nothing

/-! ## What the callers keep -/

/-- Two calls answer alike and leave the same rows. -/
def SameAnswer {α : Type} : EStateM.Result Fault ArpCache α → EStateM.Result Fault ArpCache α → Prop
  | .ok value after, .ok otherValue otherAfter =>
      value = otherValue ∧ after.xArpCache = otherAfter.xArpCache
  | .error fault _, .error otherFault _ => fault = otherFault
  | _, _ => False

theorem SameAnswer.refl {α : Type} (result : EStateM.Result Fault ArpCache α) :
    SameAnswer result result := by
  cases result with
  | ok value after => exact ⟨rfl, rfl⟩
  | error fault after => rfl

/-- An address of a caller is what it was, and what was found, matched and removed by its contents
or by its pointer still is. -/
structure AddressKept (before after : ArpCache) (pxGpa : GpaId) : Prop where
  equal : xGpaCmp (before.gpa (some pxGpa)) (after.gpa (some pxGpa)) = true
  byContents : SameAnswer ((eArpLookupGpa (before.gpa (some pxGpa))).run before)
    ((eArpLookupGpa (before.gpa (some pxGpa))).run after)
  byPointer : SameAnswer ((eArpLookupGpa (before.gpa (some pxGpa))).run before)
    ((eArpLookupGpa (after.gpa (some pxGpa))).run after)
  removed : ∀ pxHa, SameAnswer ((xArpRemove (some pxGpa) pxHa).run before)
    ((xArpRemove (some pxGpa) pxHa).run after)

theorem AddressKept.refl {gpa : Gpa} (found : cache.gpas.get? pxGpa = some gpa)
    (ok : xIsGpaOk (some gpa) = true) : AddressKept cache cache pxGpa where
  equal := by
    have here : cache.gpa (some pxGpa) = some gpa := found
    simp only [here, xGpaCmp, ok, Bool.and_self, beq_self_eq_true]
  byContents := .refl _
  byPointer := .refl _
  removed := fun _ => .refl _

/-- A padded address is another address. -/
theorem xGpaCmp_padded {gpa : Gpa} (shorter : gpa.uxLength < length) :
    xGpaCmp (some gpa) (some (gpa.padded length 0)) = false := by
  have different :
      (some gpa).bind Gpa.pucAddress ≠ (some (gpa.padded length 0)).bind Gpa.pucAddress := by
    intro same
    have lengths := congrArg (fun address => (address.getD []).length) same
    change gpa.contents.length = (gpa.padded length 0).contents.length at lengths
    rw [padded_length shorter.le] at lengths
    exact shorter.ne lengths
  rw [xGpaCmp, beq_eq_false_iff_ne.mpr different, Bool.and_false]

/-- A request leaves both addresses of its caller as they were. -/
def KeepsAddresses (before : ArpCache) (pxTpa pxSpa : GpaId)
    (request : Arp (Bool × Option (List UInt8))) : Prop :=
  Wp request (fun _ after => AddressKept before after pxTpa ∧ AddressKept before after pxSpa) before

theorem not_addressKept {after : ArpCache} {gpa : Gpa} (found : cache.gpas.get? pxGpa = some gpa)
    (padded : after.gpas.get? pxGpa = some (gpa.padded length 0))
    (shorter : gpa.uxLength < length) : ¬ AddressKept cache after pxGpa := by
  intro kept
  have equal := kept.equal
  have here : cache.gpa (some pxGpa) = some gpa := found
  have there : after.gpa (some pxGpa) = some (gpa.padded length 0) := padded
  rw [here, there, xGpaCmp_padded shorter] at equal
  cases equal

/-- Two addresses of one length stay, and so does the shorter one where there is no memory for
growing it. -/
def Unpadded (outcomes : ArpTxOutcomes) (spa tpa : Gpa) : Prop :=
  spa.uxLength = tpa.uxLength ∨ spa.uxLength < tpa.uxLength ∧ outcomes.spaMemory = false ∨
    tpa.uxLength < spa.uxLength ∧ outcomes.tpaMemory = false

instance (outcomes : ArpTxOutcomes) (spa tpa : Gpa) : Decidable (Unpadded outcomes spa tpa) :=
  inferInstanceAs (Decidable (_ ∨ _))

/-- Neither address is padded, and a packet that is generated has its hardware address. -/
def ArpTxOutcomes.Keeps (outcomes : ArpTxOutcomes) (spa tpa : Gpa) : Prop :=
  Unpadded outcomes spa tpa ∧ (outcomes.Generates spa tpa → outcomes.ghaMemory = true)

instance (outcomes : ArpTxOutcomes) (spa tpa : Gpa) : Decidable (outcomes.Keeps spa tpa) :=
  inferInstanceAs (Decidable (_ ∧ _))

/-- Where both addresses get the length of the longer one, they are kept if that is their own. -/
theorem kept_padded_iff (foundSpa : cache.gpas.get? pxSpa = some spa)
    (foundTpa : cache.gpas.get? pxTpa = some tpa) (okSpa : xIsGpaOk (some spa) = true)
    (okTpa : xIsGpaOk (some tpa) = true)
    (grantedSpa : spa.uxLength = max spa.uxLength tpa.uxLength ∨ outcomes.spaMemory = true)
    (grantedTpa : tpa.uxLength = max spa.uxLength tpa.uxLength ∨ outcomes.tpaMemory = true) :
    (AddressKept cache (cache.withPadded pxSpa pxTpa spa tpa) pxTpa ∧
        AddressKept cache (cache.withPadded pxSpa pxTpa spa tpa) pxSpa) ↔
      Unpadded outcomes spa tpa := by
  rcases Nat.lt_trichotomy spa.uxLength tpa.uxLength with shorter | same | shorter
  · have longest := Nat.max_eq_right shorter.le
    refine iff_of_false (fun keeps => ?_) ?_
    · exact not_addressKept foundSpa (get?_padded_spa foundSpa foundTpa)
        (lt_max_of_lt_right shorter) keeps.2
    · rintro (same | ⟨-, refused⟩ | ⟨longer, -⟩)
      · exact shorter.ne same
      · rw [longest, refused] at grantedSpa
        exact grantedSpa.elim shorter.ne Bool.false_ne_true
      · exact shorter.not_gt longer
  · have unchanged : cache.withPadded pxSpa pxTpa spa tpa = cache := by
      simp only [ArpCache.withPadded, ← same, Nat.max_self, Gpa.padded_self okSpa,
        Store.set_of_get? foundSpa]
      rw [same, Gpa.padded_self okTpa, Store.set_of_get? foundTpa]
    rw [unchanged]
    exact iff_of_true ⟨.refl foundTpa okTpa, .refl foundSpa okSpa⟩ (.inl same)
  · have longest := Nat.max_eq_left shorter.le
    refine iff_of_false (fun keeps => ?_) ?_
    · exact not_addressKept foundTpa (get?_padded_tpa foundSpa foundTpa okSpa)
        (lt_max_of_lt_left shorter) keeps.1
    · rintro (same | ⟨longer, -⟩ | ⟨-, refused⟩)
      · exact shorter.ne' same
      · exact shorter.not_gt longer
      · rw [longest, refused] at grantedTpa
        exact grantedTpa.elim shorter.ne Bool.false_ne_true

section Callers

variable (foundSpa : cache.gpas.get? pxSpa = some spa) (foundTpa : cache.gpas.get? pxTpa = some tpa)
  (foundSha : cache.ghas.get? pxSha = some sha) (okSpa : xIsGpaOk (some spa) = true)
  (okTpa : xIsGpaOk (some tpa) = true)
include foundSpa foundTpa foundSha okSpa okTpa

theorem keepsAddresses_iff :
    KeepsAddresses cache pxTpa pxSpa (vArpSendRequest outcomes pxTpa pxSpa pxSha) ↔
      outcomes.Keeps spa tpa := by
  rcases growable_or_refused outcomes spa tpa with ⟨grantedSpa, grantedTpa⟩ | refused
  · rw [KeepsAddresses, Wp, ArpTxOutcomes.Keeps, generates_iff grantedSpa grantedTpa,
      ← kept_padded_iff foundSpa foundTpa okSpa okTpa grantedSpa grantedTpa,
      run_vArpSendRequest_padded foundSpa foundTpa okSpa okTpa foundSha grantedSpa grantedTpa]
    cases outcomes.buffer with
    | false => simp
    | true =>
        cases outcomes.ghaMemory with
        | false => simp
        | true => simp
  · rw [KeepsAddresses, Wp, run_vArpSendRequest_refused foundSpa foundTpa okSpa okTpa refused]
    exact iff_of_true ⟨.refl foundTpa okTpa, .refl foundSpa okSpa⟩
      ⟨.inr refused, fun generates => absurd generates (not_generates refused)⟩

/-- Resolving an address is sending a request for it. -/
theorem run_xArpResolveGpa :
    (xArpResolveGpa outcomes (some pxTpa) (some pxSpa) (some pxSha)).run cache =
      (vArpSendRequest outcomes pxTpa pxSpa pxSha).run cache := by
  have hereSpa : cache.gpa (some pxSpa) = some spa := foundSpa
  have hereTpa : cache.gpa (some pxTpa) = some tpa := foundTpa
  have hereSha : cache.gha (some pxSha) = some sha := foundSha
  simp only [xArpResolveGpa, EStateM.run_bind, EStateM.run_get, hereSpa, hereTpa, hereSha, okSpa,
    okTpa, xIsGhaOk, Option.isSome_some, Bool.not_true, Bool.or_self, Bool.false_eq_true, if_false]

/-- Callers keep their addresses exactly where neither is padded and no packet lacks its hardware
address. -/
theorem arp_request_keeps_iff :
    (KeepsAddresses cache pxTpa pxSpa (vArpSendRequest outcomes pxTpa pxSpa pxSha) ↔
      outcomes.Keeps spa tpa) ∧
    (KeepsAddresses cache pxTpa pxSpa
        (xArpResolveGpa outcomes (some pxTpa) (some pxSpa) (some pxSha)) ↔
      outcomes.Keeps spa tpa) := by
  have keeps := @keepsAddresses_iff _ _ _ _ _ _ _ outcomes foundSpa foundTpa foundSha okSpa okTpa
  refine ⟨keeps, ?_⟩
  rw [KeepsAddresses, Wp, run_xArpResolveGpa foundSpa foundTpa foundSha okSpa okTpa]
  exact keeps

end Callers

end Sending

/-! ## Two stations -/

/-- Memory with two protocol addresses and a hardware address. -/
def ArpCache.stations (spa tpa : Gpa) (sha : Gha) : ArpCache where
  gpas := ((Store.empty.allocate spa).1.allocate tpa).1
  ghas := (Store.empty.allocate sha).1
  xArpCache := []

section Stations

variable (spa tpa : Gpa) (sha : Gha)

theorem stations_spa : (ArpCache.stations spa tpa sha).gpas.get? 0 = some spa :=
  (Store.get?_allocate_of_lt _ _ Nat.zero_lt_one).trans (Store.get?_allocate_new Store.empty _)

theorem stations_tpa : (ArpCache.stations spa tpa sha).gpas.get? 1 = some tpa :=
  Store.get?_allocate_new (Store.empty.allocate spa).1 _

theorem stations_sha : (ArpCache.stations spa tpa sha).ghas.get? 0 = some sha :=
  Store.get?_allocate_new Store.empty _

end Stations

/-- Everything is there. -/
def ArpTxOutcomes.all : ArpTxOutcomes := ⟨true, true, true, true, true, true⟩

/-- The addresses `A` and `BC`. -/
def addressA : Gpa := ⟨some [0x41]⟩
def addressBC : Gpa := ⟨some [0x42, 0x43]⟩

theorem arp_request_roundTrip_iff_stations :
    RequestRoundTrips .all false (.stations addressA addressBC ghaUnknown) 1 0 0 ghaUnknown addressA
        addressBC ↔
      ArpTxOutcomes.all.Fits addressA addressBC :=
  arp_request_roundTrip_iff (stations_spa _ _ _) (stations_tpa _ _ _) (stations_sha _ _ _) rfl rfl
    (by decide) (by decide) .all

/-- An address of 256 bytes. -/
def longAddress : Gpa := ⟨some (List.replicate 256 0x41)⟩

/-- Two addresses of 256 bytes: the header says that they have none. -/
theorem long_request_lost :
    ¬ RequestRoundTrips .all false (.stations longAddress longAddress ghaUnknown) 1 0 0 ghaUnknown
      longAddress longAddress := by
  have ok : xIsGpaOk (some longAddress) = true := Gpa.ok_iff.mpr ⟨rfl, List.cons_ne_nil _ _⟩
  have length : longAddress.uxLength = 256 := List.length_replicate
  have long : 255 < max longAddress.uxLength longAddress.uxLength := by
    rw [length]
    decide
  rw [RequestRoundTrips, Wp, run_vArpSendRequest_padded (stations_spa _ _ _) (stations_tpa _ _ _)
    ok ok (stations_sha _ _ _) (.inr rfl) (.inr rfl)]
  exact not_recovers_of_long (Nat.le_max_left _ _) (Nat.le_max_right _ _) long

theorem arp_request_keeps_iff_stations :
    (KeepsAddresses (.stations addressA addressBC ghaUnknown) 1 0 (vArpSendRequest .all 1 0 0) ↔
      ArpTxOutcomes.all.Keeps addressA addressBC) ∧
    (KeepsAddresses (.stations addressA addressBC ghaUnknown) 1 0
        (xArpResolveGpa .all (some 1) (some 0) (some 0)) ↔
      ArpTxOutcomes.all.Keeps addressA addressBC) :=
  arp_request_keeps_iff (stations_spa _ _ _) (stations_tpa _ _ _) (stations_sha _ _ _) rfl rfl

/-- A request for `BC` from `A` pads the `A`. -/
theorem shorter_address_padded :
    ¬ KeepsAddresses (.stations addressA addressBC ghaUnknown) 1 0
      (vArpSendRequest .all 1 0 0) := by
  rw [keepsAddresses_iff (stations_spa _ _ _) (stations_tpa _ _ _) (stations_sha _ _ _) rfl rfl]
  decide

end RinaSense
