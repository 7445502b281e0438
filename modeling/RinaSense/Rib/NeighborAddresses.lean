import RinaSense.Rib.EnrollmentRuns
import RinaSense.Rib.FlowRequestCopies

/-!
# Addresses of the neighbors

What the neighbors say their address is, what is stored for them, and what flow requests
use. An address goes over the wire with 64 bits and is stored with 8, the value for an
unknown address is one of these, and the address of the one that answers an enrollment is
not stored at all. The module determines the runs in which stored and advertised addresses
agree.
-/

namespace RinaSense

open Command

/-! ## Events -/

/-- A message of an enrollment arrives, a flow is requested, or an address is looked up. -/
inductive AddressEvent where
  | enrollment (event : EnrollmentEvent)
  | flowRequest (setup : FlowRequestSetup) (xAppPortId : PortId)
      (pxLocal pxRemote : NameInfo (Pointer String))
  | lookup (pcRemoteApName : Pointer String)

/-- The address stored for a neighbor. -/
def RibState.storedAddress (state : RibState) (name : String) : Option Address :=
  (state.neighbor name).map NeighborInfo.xNeighborAddress

/-- The address in an enrollment message. -/
def addressIn (codecs : RibCodecs) (contents : List UInt8) : Option UInt64 :=
  (codecs.enrollment.decode contents).bind EnrollmentInformation.address

namespace AddressEvent

def command (codecs : RibCodecs) : RibOutcomes × AddressEvent → Rib Bool
  | (outcomes, enrollment event) => EnrollmentEvent.perform codecs (outcomes, event)
  | (outcomes, flowRequest setup port source destination) => do
      Rib.vFlowAllocatorFlowRequest codecs outcomes setup port source destination
      return true
  | (_, lookup name) => do
      let _ ← xEnrollmentGetNeighborAddress name
      return true

/-- The neighbor that advertises an address, and the address: with the start of an enrollment
or with the answer to it. -/
def advertisement (codecs : RibCodecs) : AddressEvent → Option (String × UInt64)
  | enrollment (.start (.target contents) (.target name) _) =>
      (addressIn codecs contents).map fun address => (name, address)
  | enrollment (.startR (.target name) (.target contents)) =>
      (addressIn codecs contents).map fun address => (name, address)
  | _ => none

/-- The neighbor whose address is used, and the address that is used for it: the one the
connection of a flow request is opened to (`flowRequest_of_used`), or the one looked up
(`lookup_of_used`). -/
def usedAddress (state : RibState) : AddressEvent → Option (String × Address)
  | flowRequest setup _ _ _ =>
      if setup.flowMemory = true ∧ setup.faiMemory = true then
        state.nextHop.map fun neighbor => (remoteAddressApName, neighbor.xNeighborAddress)
      else none
  | lookup (.target name) => some (name, (state.storedAddress name).getD 3)
  | _ => none

end AddressEvent

/-- The state with what each neighbor advertised last. -/
structure Neighborhood where
  rib : RibState
  advertised : String → Option UInt64

namespace Neighborhood

/-- Note an address that was advertised. That of a neighbor which is not stored, and so is
rejected, is not noted. -/
def noted (advertised : String → Option UInt64) (rib : RibState) :
    Option (String × UInt64) → String → Option UInt64
  | none => advertised
  | some (name, address) => fun other =>
      if other = name ∧ (rib.storedAddress name).isSome then some address else advertised other

/-- One event. A neighbor whose message is answered with a failure is rejected too. -/
def perform (codecs : RibCodecs) (event : RibOutcomes × AddressEvent) :
    EStateM Fault Neighborhood Bool := fun before =>
  match (AddressEvent.command codecs event).run before.rib with
  | .ok value rib =>
      .ok value
        { rib
          advertised := noted before.advertised rib
            (if value then event.2.advertisement codecs else none) }
  | .error fault rib => .error fault { before with rib }

/-! ## Purpose -/

/-- The neighbors that advertised an address are stored under it, two that advertised
different ones under different ones, and an address that is used is the one its neighbor
advertised. -/
structure AddressesKept (before : Neighborhood) (event : AddressEvent) (after : Neighborhood) :
    Prop where
  stored : ∀ name advertised, after.advertised name = some advertised →
    ∀ address, after.rib.storedAddress name = some address → address.toUInt64 = advertised
  apart : ∀ first second one other, after.advertised first = some one →
    after.advertised second = some other → one ≠ other →
      after.rib.storedAddress first ≠ after.rib.storedAddress second
  used : ∀ name address, event.usedAddress before.rib = some (name, address) →
    ∃ advertised, before.advertised name = some advertised ∧ address.toUInt64 = advertised

/-! ## Condition -/

/-- The start of an enrollment by a neighbor in progress, with an address below 256 or, if it
has none, while the memory of the message holds what is stored already; or by another one,
with the address that is stored already. For one that is not known that is the value of no
address, if there is room for it. -/
def StartSupported (outcomes : RibOutcomes) (before : Neighborhood) (name : String)
    (address : Option UInt64) : Prop :=
  match before.rib.neighbor name with
  | none => none ∈ before.rib.xNeighborsTable → ∀ advertised, address = some advertised →
      addressWrong.toUInt64 = advertised
  | some neighbor =>
      if neighbor.eEnrollmentState = .inProgress then
        match address with
        | some advertised => advertised < 256
        | none => ∀ advertised, before.advertised name = some advertised →
            outcomes.enrollment.ullAddress.toUInt8.toUInt64 = advertised
      else ∀ advertised, address = some advertised → neighbor.xNeighborAddress.toUInt64 = advertised

/-- The starts above, the answers with the address that is stored already, and the uses of
an address that was advertised. -/
def Supported (codecs : RibCodecs) (before : Neighborhood) : RibOutcomes × AddressEvent → Prop
  | (outcomes, .enrollment (.start (.target contents) (.target name) _)) =>
      ∀ information, codecs.enrollment.decode contents = some information →
        StartSupported outcomes before name information.address
  | (_, .enrollment (.startR (.target name) (.target contents))) =>
      ∀ advertised, addressIn codecs contents = some advertised →
        ∀ address, before.rib.storedAddress name = some address → address.toUInt64 = advertised
  | (_, event) => ∀ name address, event.usedAddress before.rib = some (name, address) →
      before.advertised name ≠ none

end Neighborhood

/-! ## What the handlers do to the stored addresses -/

section Handlers

variable {codecs : RibCodecs} {outcomes : RibOutcomes} {state before after : RibState}
  {text name : String} {port : PortId} {change : NeighborInfo → NeighborInfo}

/-- Stored addresses stay; neighbors may be added. -/
def KeepsStored (before after : RibState) : Prop :=
  ∀ name address, before.storedAddress name = some address →
    after.storedAddress name = some address

theorem keepsStored_of_leaves {α : Type} {command : Rib α}
    (leaves : Leaves RibState.storedAddress command) : Keeps KeepsStored command := by
  intro state name address stored
  have same := congrFun (leaves state) name
  exact same.trans stored

theorem keepsStored_trans (first second third : RibState) (one : KeepsStored first second)
    (other : KeepsStored second third) : KeepsStored first third :=
  fun name address stored => other name address (one name address stored)

theorem storedAddress_changed (keepsName : ∀ row, (change row).pcApName = row.pcApName)
    (keepsAddress : ∀ row, (change row).xNeighborAddress = row.xNeighborAddress) :
    (state.changed text change).storedAddress = state.storedAddress := by
  funext name
  by_cases named : name = text
  · rw [named, RibState.storedAddress, neighbor_changed_self keepsName, RibState.storedAddress]
    cases state.neighbor text with
    | none => rfl
    | some neighbor => exact congrArg some (keepsAddress neighbor)
  · rw [RibState.storedAddress, neighbor_changed_other keepsName named, RibState.storedAddress]

theorem leaves_changeNeighbor_stored
    (keepsName : ∀ row, (change row).pcApName = row.pcApName)
    (keepsAddress : ∀ row, (change row).xNeighborAddress = row.xNeighborAddress) :
    Leaves RibState.storedAddress (changeNeighbor text change) :=
  fun _ => storedAddress_changed keepsName keepsAddress

theorem storedAddress_withNeighbor_other (other : name ≠ text) :
    (state.withNeighbor text port).storedAddress name = state.storedAddress name := by
  rw [RibState.storedAddress, neighbor_withNeighbor_other other, RibState.storedAddress]

theorem storedAddress_created (unknown : state.neighbor text = none)
    (room : none ∈ state.xNeighborsTable) :
    (state.withNeighbor text port).storedAddress text = some addressWrong := by
  rcases neighbor_withNeighbor_of_unknown port unknown with created | ⟨full, _⟩
  · rw [RibState.storedAddress, created]
    rfl
  · exact absurd room full

theorem storedAddress_not_created (unknown : state.neighbor text = none)
    (full : none ∉ state.xNeighborsTable) :
    (state.withNeighbor text port).storedAddress text = none := by
  have same : state.withNeighbor text port = state := by
    simp only [RibState.withNeighbor, unknown, SlotTable.rows_add_of_full _ full]
  rw [same, RibState.storedAddress, unknown, Option.map_none]

theorem keepsStored_withNeighbor : KeepsStored state (state.withNeighbor text port) := by
  intro name address stored
  by_cases named : name = text
  · cases known : state.neighbor text with
    | none =>
        rw [named, RibState.storedAddress, known] at stored
        cases stored
    | some neighbor =>
        rw [neighbor_withNeighbor_of_known known]
        exact stored
  · rw [storedAddress_withNeighbor_other named]
    exact stored

theorem keepsStored_findOrCreate (name : Pointer String) (port : PortId) :
    Keeps KeepsStored (findOrCreateNeighbor name port) := by
  intro state
  have faulting : (∀ text, name ≠ .target text) →
      KeepsStored state (final ((findOrCreateNeighbor name port).run state)) := by
    intro absent
    obtain ⟨fault, faulted⟩ := run_findOrCreate_of_not_target state port absent
    rw [faulted]
    exact fun _ _ stored => stored
  cases name with
  | null => exact faulting nofun
  | stray => exact faulting nofun
  | target text =>
      rw [run_findOrCreate_target]
      exact keepsStored_withNeighbor

theorem keepsStored_putInProgress (name : Pointer String) (port : PortId) :
    Keeps KeepsStored (putInProgress name port) :=
  keeps_bind keepsStored_trans (keepsStored_findOrCreate name port) fun _ =>
    keepsStored_of_leaves (leaves_changeNeighbor_stored (fun _ => rfl) fun _ => rfl)

theorem leaves_handleStop_stored (object : RibObject) (value : Pointer (List UInt8))
    (name : Pointer String) (invokeId : Int) (port : PortId) :
    Leaves RibState.storedAddress
      (xEnrollmentHandleStop codecs outcomes object value name invokeId port) := by
  apply leaves_bind (leaves_findNeighbor name)
  intro found
  cases found with
  | none => exact leaves_pure _
  | some neighbor =>
      apply leaves_bind
      · exact leaves_changeNeighbor_stored (fun _ => rfl) fun _ => rfl
      intro _
      apply leaves_bind (leaves_lift _)
      intro contents
      cases pxSerdesMsgEnrollmentDecode codecs.enrollment outcomes.enrollment contents with
      | none => exact leaves_throw _
      | some message =>
          apply leaves_bind
          · exact leaves_changeNeighbor_stored (fun _ => rfl) fun _ => rfl
          intro _
          apply leaves_bind (leaves_sendResponse (fun _ _ => rfl) (fun _ _ => rfl) _ _ _ _ _ _ _ _)
          exact fun _ => leaves_ite (leaves_pure _) (leaves_pure _)

theorem leaves_flowRequest_stored (setup : FlowRequestSetup) (xAppPortId : PortId)
    (pxLocal pxRemote : NameInfo (Pointer String)) :
    Leaves RibState.storedAddress
      (Rib.vFlowAllocatorFlowRequest codecs outcomes setup xAppPortId pxLocal pxRemote) := by
  have send : ∀ flow port, Leaves RibState.storedAddress
      (sendFlowRequest codecs outcomes setup flow port) := by
    intro flow port
    apply leaves_bind (leaves_lift _)
    intro value
    apply leaves_bind (leaves_lift _)
    intro key
    apply leaves_bind (leaves_createObject (fun _ _ => rfl) _ _ _ _)
    intro _
    apply leaves_bind (leaves_sendRequest (fun _ _ => rfl) (fun _ _ => rfl) (fun _ _ => rfl)
      (fun _ _ => rfl) _ _ _ _ _ _)
    exact fun _ => leaves_pure _
  intro state
  rw [run_flowRequest]
  split
  · cases state.nextHop with
    | none => rfl
    | some neighbor =>
        simp only
        split
        · exact send _ _ state
        · rfl
  · rfl

/-- Every event but the start of an enrollment keeps the stored addresses. -/
theorem keepsStored_command (event : AddressEvent)
    (notStart : ∀ value name port, event ≠ .enrollment (.start value name port)) :
    Keeps KeepsStored (AddressEvent.command codecs (outcomes, event)) := by
  cases event with
  | flowRequest setup port source destination =>
      exact keepsStored_of_leaves (leaves_bind (leaves_flowRequest_stored _ _ _ _) fun _ =>
        leaves_pure _)
  | lookup name =>
      apply keepsStored_of_leaves
      refine leaves_bind ?_ fun _ => leaves_pure _
      apply leaves_ite (leaves_pure _)
      apply leaves_bind (leaves_findNeighbor name)
      intro found
      cases found with
      | none => exact leaves_pure _
      | some neighbor => exact leaves_pure _
  | enrollment event =>
      cases event with
      | start value name port => exact absurd rfl (notStart value name port)
      | connect name port =>
          apply keeps_bind keepsStored_trans (keepsStored_putInProgress name port)
          intro _
          apply keepsStored_of_leaves
          exact leaves_bind (leaves_connectWith (fun _ _ => rfl) (fun _ _ => rfl) _ _ _ _ _) fun _ =>
            leaves_pure _
      | connectR name port =>
          apply keeps_bind keepsStored_trans (keepsStored_putInProgress name port)
          intro _
          apply keepsStored_of_leaves
          apply leaves_bind (leaves_sendRequest (fun _ _ => rfl) (fun _ _ => rfl) (fun _ _ => rfl)
            (fun _ _ => rfl) _ _ _ _ _ _)
          exact fun _ => leaves_ite (leaves_pure _) (leaves_pure _)
      | operationalStart object name invokeId port =>
          exact keepsStored_of_leaves
            (leaves_operationalStart (fun _ _ => rfl) (fun _ _ => rfl) object name invokeId port)
      | startR name value => exact keepsStored_of_leaves (leaves_pure _)
      | stop object value name invokeId port =>
          exact keepsStored_of_leaves (leaves_handleStop_stored object value name invokeId port)
      | stopR name => exact keepsStored_of_leaves (leaves_handleStopR name)

theorem run_start {contents : List UInt8} :
    (xEnrollmentEnroller codecs outcomes (.target contents) (.target text) port).run state =
      match state.neighbor text with
      | none => .ok true (state.withNeighbor text port)
      | some neighbor =>
          if neighbor.eEnrollmentState = .inProgress then
            match codecs.enrollment.decode contents with
            | none => .error .nullPointer state
            | some information =>
                .ok true (state.changed text (NeighborInfo.addressed
                  (information.address.getD outcomes.enrollment.ullAddress).toUInt8))
          else .ok true state := by
  rw [xEnrollmentEnroller, run_bind_ok run_findOrCreate_target]
  cases known : state.neighbor text with
  | none => rfl
  | some neighbor =>
      rw [neighbor_withNeighbor_of_known known, Option.getD_some]
      cases progress : neighbor.eEnrollmentState with
      | none =>
          simp only [progress, reduceCtorEq, if_false]
          rfl
      | enrolled =>
          simp only [progress, reduceCtorEq, if_false]
          rfl
      | inProgress =>
          simp only [progress, if_true, Pointer.read_target, EStateM.run_bind, run_lift,
            pxSerdesMsgEnrollmentDecode, pcApName_of_neighbor known]
          cases codecs.enrollment.decode contents with
          | none => rfl
          | some information => rfl

/-- A start that holds no enrollment information stores nothing. -/
theorem keepsStored_start {value : Pointer (List UInt8)} {peer : Pointer String}
    (nothing : ∀ contents, value = .target contents → codecs.enrollment.decode contents = none) :
    KeepsStored state
      (final ((xEnrollmentEnroller codecs outcomes value peer port).run state)) := by
  have created := keepsStored_findOrCreate peer port state
  rw [xEnrollmentEnroller, EStateM.run_bind]
  cases found : (findOrCreateNeighbor peer port).run state with
  | error fault next =>
      rw [found] at created
      exact created
  | ok neighbor next =>
      rw [found] at created
      simp only
      cases neighbor.eEnrollmentState with
      | none => exact created
      | enrolled => exact created
      | inProgress =>
          cases value with
          | null => exact created
          | stray => exact created
          | target contents =>
              simp only [Pointer.read_target, EStateM.run_bind, run_lift,
                pxSerdesMsgEnrollmentDecode, nothing contents rfl]
              exact created

/-- Without a name nothing happens. -/
theorem keepsStored_start_of_not_target {value : Pointer (List UInt8)} {peer : Pointer String}
    (absent : ∀ text, peer ≠ .target text) :
    KeepsStored state
      (final ((xEnrollmentEnroller codecs outcomes value peer port).run state)) := by
  obtain ⟨fault, faulted⟩ := run_findOrCreate_of_not_target state port absent
  rw [xEnrollmentEnroller, run_bind_error faulted]
  exact fun _ _ stored => stored

/-- Only a start that holds enrollment information changes what is stored. -/
theorem keepsStored_or_starts (event : AddressEvent) (state : RibState) :
    KeepsStored state (final ((AddressEvent.command codecs (outcomes, event)).run state)) ∨
      ∃ contents text port information,
        event = .enrollment (.start (.target contents) (.target text) port) ∧
          codecs.enrollment.decode contents = some information := by
  by_cases start : ∃ value peer port, event = .enrollment (.start value peer port)
  · obtain ⟨value, peer, port, rfl⟩ := start
    cases peer with
    | null => exact .inl (keepsStored_start_of_not_target nofun)
    | stray => exact .inl (keepsStored_start_of_not_target nofun)
    | target text =>
        cases value with
        | null => exact .inl (keepsStored_start nofun)
        | stray => exact .inl (keepsStored_start nofun)
        | target contents =>
            cases decoded : codecs.enrollment.decode contents with
            | none =>
                refine .inl (keepsStored_start ?_)
                rintro _ ⟨⟩
                exact decoded
            | some information => exact .inr ⟨contents, text, port, information, rfl, decoded⟩
  · left
    exact keepsStored_command event (fun value peer port same => start ⟨value, peer, port, same⟩)
      state

theorem addressed_pcApName (address : Address) (neighbor : NeighborInfo) :
    (neighbor.addressed address).pcApName = neighbor.pcApName := rfl

theorem storedAddress_addressed_self {neighbor : NeighborInfo} (address : Address)
    (known : state.neighbor text = some neighbor) :
    (state.changed text (NeighborInfo.addressed address)).storedAddress text = some address := by
  rw [RibState.storedAddress, neighbor_changed_self (addressed_pcApName address), known]
  rfl

theorem storedAddress_addressed_other (address : Address) (other : name ≠ text) :
    (state.changed text (NeighborInfo.addressed address)).storedAddress name =
      state.storedAddress name := by
  rw [RibState.storedAddress, neighbor_changed_other (addressed_pcApName address) other,
    RibState.storedAddress]

end Handlers

/-! ## The addresses in use -/

section Uses

variable {codecs : RibCodecs} {outcomes : RibOutcomes} {state : RibState} {name : String}
  {address : Address}

/-- The address of a lookup is the one it returns. -/
theorem lookup_of_used {peer : Pointer String}
    (used : (AddressEvent.lookup peer).usedAddress state = some (name, address)) :
    (xEnrollmentGetNeighborAddress peer).run state = .ok address state := by
  cases peer with
  | null => cases used
  | stray => cases used
  | target text =>
      cases used
      rw [xEnrollmentGetNeighborAddress, if_neg (by rintro ⟨⟩), run_bind_ok run_findNeighbor_target,
        RibState.storedAddress]
      cases state.neighbor name with
      | none => rfl
      | some neighbor => rfl

/-- The address of a flow request is the one the flow it sends is for, and is looked up like
any other. -/
theorem flowRequest_of_used {setup : FlowRequestSetup} {xAppPortId : PortId}
    {pxLocal pxRemote : NameInfo (Pointer String)}
    (used : (AddressEvent.flowRequest setup xAppPortId pxLocal pxRemote).usedAddress state =
      some (name, address)) (memory : setup.connectionIdMemory = true) :
    (xEnrollmentGetNeighborAddress (.target name)).run state = .ok address state ∧
      ∃ xN1Port, (Rib.vFlowAllocatorFlowRequest codecs outcomes setup xAppPortId pxLocal
          pxRemote).run state =
        (sendFlowRequest codecs outcomes setup
          (requestFlow setup xAppPortId pxLocal pxRemote address) xN1Port).run state := by
  rw [AddressEvent.usedAddress] at used
  by_cases obtained : setup.flowMemory = true ∧ setup.faiMemory = true
  · rw [if_pos obtained] at used
    obtain ⟨neighbor, hop, same⟩ := Option.map_eq_some_iff.mp used
    cases same
    have known : state.neighbor remoteAddressApName = some neighbor := hop
    constructor
    · apply lookup_of_used
      rw [AddressEvent.usedAddress, RibState.storedAddress, known]
      rfl
    · refine ⟨neighbor.xN1Port, ?_⟩
      rw [run_flowRequest, if_pos obtained, hop]
      exact if_pos memory
  · rw [if_neg obtained] at used
    cases used

end Uses

/-! ## Stored and advertised addresses -/

namespace Neighborhood

section Faithful

variable {codecs : RibCodecs} {before after : Neighborhood} {event : AddressEvent}
  {name : String} {learned : Option (String × UInt64)}

/-- Every neighbor that advertised an address is stored under it. -/
def Faithful (neighborhood : Neighborhood) : Prop :=
  ∀ name advertised, neighborhood.advertised name = some advertised →
    (neighborhood.rib.storedAddress name).map UInt8.toUInt64 = some advertised

theorem Faithful.isSome (faithful : before.Faithful) (noted : before.advertised name ≠ none) :
    (before.rib.storedAddress name).isSome := by
  obtain ⟨advertised, noted⟩ := Option.ne_none_iff_exists'.mp noted
  have stored := congrArg Option.isSome (faithful name advertised noted)
  rw [Option.isSome_map] at stored
  exact stored

/-- The address used for a neighbor that is stored is the stored one. -/
theorem usedAddress_of_stored {state : RibState} {address stored : Address}
    (used : event.usedAddress state = some (name, address))
    (isStored : state.storedAddress name = some stored) : address = stored := by
  cases event with
  | enrollment event => cases used
  | flowRequest setup port source destination =>
      rw [AddressEvent.usedAddress] at used
      split at used
      · obtain ⟨neighbor, hop, same⟩ := Option.map_eq_some_iff.mp used
        cases same
        have found : state.storedAddress remoteAddressApName = some neighbor.xNeighborAddress :=
          congrArg (Option.map NeighborInfo.xNeighborAddress) hop
        exact Option.some.inj (found.symm.trans isStored)
      · cases used
  | lookup peer =>
      cases peer with
      | null => cases used
      | stray => cases used
      | target text =>
          cases used
          rw [isStored]
          rfl

/-- What is asked of an event, given that it was so before: the addresses agree after it, and
one that is used was advertised. -/
theorem addressesKept_iff (faithful : before.Faithful)
    (stays : ∀ name, (before.rib.storedAddress name).isSome → (after.rib.storedAddress name).isSome)
    (notes : after.advertised = noted before.advertised after.rib learned) :
    AddressesKept before event after ↔
      after.Faithful ∧ ∀ name address, event.usedAddress before.rib = some (name, address) →
        before.advertised name ≠ none := by
  have isSome : ∀ name, after.advertised name ≠ none → (after.rib.storedAddress name).isSome := by
    intro name isNoted
    rw [notes] at isNoted
    cases learned with
    | none => exact stays name (faithful.isSome isNoted)
    | some learned =>
        simp only [noted] at isNoted
        split at isNoted
        · next now =>
            rw [now.1]
            exact now.2
        · exact stays name (faithful.isSome isNoted)
  constructor
  · intro kept
    constructor
    · intro name advertised isNoted
      obtain ⟨address, stored⟩ :=
        Option.isSome_iff_exists.mp (isSome name (by rw [isNoted]; exact nofun))
      rw [stored, Option.map_some, kept.stored name advertised isNoted address stored]
    · intro name address used
      obtain ⟨advertised, isNoted, _⟩ := kept.used name address used
      rw [isNoted]
      exact nofun
  · rintro ⟨agrees, advertisedBefore⟩
    constructor
    · intro name advertised isNoted address stored
      have same := agrees name advertised isNoted
      rw [stored, Option.map_some] at same
      exact Option.some.inj same
    · intro first second one other oneNoted otherNoted different same
      apply different
      have agree := (agrees first one oneNoted).symm.trans
        ((congrArg (Option.map UInt8.toUInt64) same).trans (agrees second other otherNoted))
      exact Option.some.inj agree
    · intro name address used
      obtain ⟨advertised, isNoted⟩ :=
        Option.ne_none_iff_exists'.mp (advertisedBefore name address used)
      obtain ⟨stored, isStored⟩ := Option.isSome_iff_exists.mp
        (faithful.isSome (advertisedBefore name address used))
      have same := faithful name advertised isNoted
      rw [isStored, Option.map_some] at same
      rw [usedAddress_of_stored used isStored]
      exact ⟨advertised, isNoted, Option.some.inj same⟩

/-- Nothing is noted and the stored addresses stay. -/
theorem faithful_of_keepsStored (faithful : before.Faithful) {rib : RibState}
    (keeps : KeepsStored before.rib rib) : ({ before with rib } : Neighborhood).Faithful := by
  intro name advertised isNoted
  obtain ⟨address, stored, same⟩ :=
    Option.map_eq_some_iff.mp (faithful name advertised isNoted)
  rw [keeps name address stored, Option.map_some, same]

/-- Only the address of one neighbor changes, by what is stored or what is noted. -/
theorem faithful_iff_at (faithful : before.Faithful) (name : String)
    (stored : ∀ other, other ≠ name →
      after.rib.storedAddress other = before.rib.storedAddress other)
    (notes : ∀ other, other ≠ name → after.advertised other = before.advertised other) :
    after.Faithful ↔ ∀ advertised, after.advertised name = some advertised →
      (after.rib.storedAddress name).map UInt8.toUInt64 = some advertised := by
  constructor
  · exact fun agrees => agrees name
  · intro atName other advertised isNoted
    by_cases same : other = name
    · rw [same] at isNoted ⊢
      exact atName advertised isNoted
    · rw [stored other same]
      rw [notes other same] at isNoted
      exact faithful other advertised isNoted

theorem noted_other {advertised : String → Option UInt64} {rib : RibState} {other : String}
    (address : Option UInt64) (apart : other ≠ name) :
    noted advertised rib (address.map fun address => (name, address)) other = advertised other := by
  cases address with
  | none => rfl
  | some address => exact if_neg fun same => apart same.1

theorem noted_self_of_stored {advertised : String → Option UInt64} {rib : RibState}
    (address : UInt64) (stored : (rib.storedAddress name).isSome) :
    noted advertised rib (some (name, address)) name = some address := if_pos ⟨rfl, stored⟩

theorem noted_self_of_unstored {advertised : String → Option UInt64} {rib : RibState}
    (address : UInt64) (unstored : rib.storedAddress name = none) :
    noted advertised rib (some (name, address)) name = advertised name := by
  apply if_neg
  rw [unstored]
  exact nofun

/-- What has to hold for one neighbor after it was heard. -/
theorem faithful_noted_iff (faithful : before.Faithful) {rib : RibState}
    (stored : ∀ other, other ≠ name → rib.storedAddress other = before.rib.storedAddress other)
    (stays : (before.rib.storedAddress name).isSome → (rib.storedAddress name).isSome)
    (address : Option UInt64) :
    ({ rib
       advertised := noted before.advertised rib (address.map fun address => (name, address)) } :
        Neighborhood).Faithful ↔
      match address with
      | some advertised => ∀ address, rib.storedAddress name = some address →
          address.toUInt64 = advertised
      | none => ∀ advertised, before.advertised name = some advertised →
          (rib.storedAddress name).map UInt8.toUInt64 = some advertised := by
  rw [faithful_iff_at faithful name stored fun other apart => noted_other address apart]
  cases address with
  | none => exact Iff.rfl
  | some advertised =>
      rw [Option.map_some]
      cases held : rib.storedAddress name with
      | none =>
          apply iff_of_true _ nofun
          intro other isNoted
          have before_noted : before.advertised name = some other :=
            (noted_self_of_unstored advertised held).symm.trans isNoted
          have isStored := stays (faithful.isSome (by rw [before_noted]; exact nofun))
          rw [held] at isStored
          cases isStored
      | some address =>
          have isNoted : noted before.advertised rib (some (name, advertised)) name =
              some advertised := noted_self_of_stored advertised (by rw [held]; rfl)
          simp only [isNoted, Option.some.injEq, Option.map_some, forall_eq']

end Faithful

section Events

variable {codecs : RibCodecs} {outcomes : RibOutcomes} {before : Neighborhood} {text : String}
  {contents : List UInt8} {port : PortId}

theorem addressIn_of_decoded {information : EnrollmentInformation}
    (decoded : codecs.enrollment.decode contents = some information) :
    addressIn codecs contents = information.address := by
  rw [addressIn, decoded, Option.bind_some]

theorem toUInt8_toUInt64_iff {address : UInt64} :
    address.toUInt8.toUInt64 = address ↔ address < 256 := by
  rw [← UInt64.toNat_inj, UInt64.lt_iff_toNat_lt, UInt8.toNat_toUInt64, UInt64.toNat_toUInt8]
  exact Nat.mod_eq_iff_lt (by decide)

theorem run_perform (event : RibOutcomes × AddressEvent) :
    (perform codecs event).run before =
      match (AddressEvent.command codecs event).run before.rib with
      | .ok value rib =>
          .ok value
            { rib
              advertised := noted before.advertised rib
                (if value then event.2.advertisement codecs else none) }
      | .error fault rib => .error fault { before with rib } := rfl

theorem final_perform_ok {event : RibOutcomes × AddressEvent} {rib : RibState}
    (run : (AddressEvent.command codecs event).run before.rib = .ok true rib) :
    final ((perform codecs event).run before) =
      { rib
        advertised := noted before.advertised rib (event.2.advertisement codecs) } := by
  rw [run_perform, run]
  rfl

theorem rib_final (event : RibOutcomes × AddressEvent) :
    (final ((perform codecs event).run before)).rib =
      final ((AddressEvent.command codecs event).run before.rib) := by
  rw [run_perform]
  cases (AddressEvent.command codecs event).run before.rib with
  | ok value rib => rfl
  | error fault rib => rfl

theorem advertised_final (event : RibOutcomes × AddressEvent) :
    ∃ learned, (final ((perform codecs event).run before)).advertised =
      noted before.advertised (final ((perform codecs event).run before)).rib learned := by
  rw [run_perform]
  cases (AddressEvent.command codecs event).run before.rib with
  | ok value rib => exact ⟨_, rfl⟩
  | error fault rib => exact ⟨none, rfl⟩

/-- A start that holds enrollment information: from a neighbor that is not known, from one that
is not in progress, or from one in progress, whose address is stored. -/
theorem start_faithful_iff (faithful : before.Faithful) {information : EnrollmentInformation}
    (decoded : codecs.enrollment.decode contents = some information) :
    (final ((perform codecs
        (outcomes, .enrollment (.start (.target contents) (.target text) port))).run
          before)).Faithful ↔
      StartSupported outcomes before text information.address := by
  have advertises : AddressEvent.advertisement codecs
      (.enrollment (.start (.target contents) (.target text) port)) =
        information.address.map fun address => (text, address) := by
    rw [AddressEvent.advertisement, addressIn_of_decoded decoded]
  have run : (AddressEvent.command codecs
      (outcomes, .enrollment (.start (.target contents) (.target text) port))).run before.rib = _ :=
    run_start
  cases known : before.rib.neighbor text with
  | none =>
      have unstored : before.rib.storedAddress text = none := by
        rw [RibState.storedAddress, known, Option.map_none]
      have unnoted : before.advertised text = none := by
        by_contra isNoted
        have stored := faithful.isSome isNoted
        rw [unstored] at stored
        cases stored
      simp only [known] at run
      rw [final_perform_ok run, advertises, faithful_noted_iff faithful
        (fun other apart => storedAddress_withNeighbor_other apart)
        (fun stored => by rw [unstored] at stored; cases stored)]
      simp only [StartSupported, known]
      cases information.address with
      | none => simp [unnoted]
      | some advertised =>
          by_cases room : none ∈ before.rib.xNeighborsTable
          · have created : (before.rib.withNeighbor text port).storedAddress text =
                some addressWrong := storedAddress_created known room
            simp [created, room]
          · have missing : (before.rib.withNeighbor text port).storedAddress text = none :=
              storedAddress_not_created known room
            simp [missing, room]
  | some neighbor =>
      have stored : before.rib.storedAddress text = some neighbor.xNeighborAddress := by
        rw [RibState.storedAddress, known, Option.map_some]
      simp only [known, decoded] at run
      simp only [StartSupported, known]
      split
      case isTrue inProgress =>
        rw [if_pos inProgress] at run
        rw [final_perform_ok run, advertises, faithful_noted_iff faithful
          (fun other apart => storedAddress_addressed_other _ apart)
          (fun _ => by rw [storedAddress_addressed_self _ known]; rfl),
          storedAddress_addressed_self _ known]
        cases information.address with
        | none => simp
        | some advertised =>
            simp only [Option.getD_some, Option.some.injEq, forall_eq', toUInt8_toUInt64_iff]
      case isFalse otherwise =>
        rw [if_neg otherwise] at run
        rw [final_perform_ok run, advertises, faithful_noted_iff faithful (fun _ _ => rfl) fun h => h,
          stored]
        cases information.address with
        | none =>
            apply iff_of_true _ nofun
            intro advertised isNoted
            exact (congrArg (Option.map UInt8.toUInt64) stored).symm.trans
              (faithful text advertised isNoted)
        | some advertised =>
            simp only [Option.some.injEq, forall_eq']

/-- An event that advertises nothing or is not answered well, and keeps what is stored. -/
theorem faithful_final_of_keeps (faithful : before.Faithful)
    {event : RibOutcomes × AddressEvent}
    (keeps : KeepsStored before.rib
      (final ((AddressEvent.command codecs event).run before.rib)))
    (silent : event.2.advertisement codecs = none) :
    (final ((perform codecs event).run before)).Faithful := by
  rw [run_perform]
  cases run : (AddressEvent.command codecs event).run before.rib with
  | error fault rib =>
      rw [run] at keeps
      exact faithful_of_keepsStored faithful keeps
  | ok value rib =>
      rw [run] at keeps
      simp only [silent, ite_self]
      exact faithful_of_keepsStored faithful keeps

theorem startR_faithful_iff (faithful : before.Faithful) :
    (final ((perform codecs
        (outcomes, .enrollment (.startR (.target text) (.target contents)))).run
          before)).Faithful ↔
      ∀ advertised, addressIn codecs contents = some advertised →
        ∀ address, before.rib.storedAddress text = some address →
          address.toUInt64 = advertised := by
  have run : (AddressEvent.command codecs
      (outcomes, .enrollment (.startR (.target text) (.target contents)))).run before.rib =
        .ok true before.rib := rfl
  rw [final_perform_ok run, AddressEvent.advertisement,
    faithful_noted_iff faithful (fun _ _ => rfl) fun stored => stored]
  cases addressIn codecs contents with
  | none => exact iff_of_true (faithful text) nofun
  | some advertised => simp only [Option.some.injEq, forall_eq']

/-- The neighbors that are stored stay. -/
theorem isSome_final (event : RibOutcomes × AddressEvent) (name : String)
    (stored : (before.rib.storedAddress name).isSome) :
    ((final ((perform codecs event).run before)).rib.storedAddress name).isSome := by
  obtain ⟨outcomes, event⟩ := event
  obtain ⟨address, isStored⟩ := Option.isSome_iff_exists.mp stored
  rw [rib_final]
  rcases keepsStored_or_starts event before.rib with
    keeps | ⟨contents, text, port, information, rfl, decoded⟩
  · rw [keeps name address isStored]
    rfl
  · have run : (AddressEvent.command codecs
        (outcomes, .enrollment (.start (.target contents) (.target text) port))).run
          before.rib = _ := run_start
    cases known : before.rib.neighbor text with
    | none =>
        simp only [known] at run
        rw [run]
        exact Option.isSome_iff_exists.mpr ⟨address, keepsStored_withNeighbor name address isStored⟩
    | some neighbor =>
        simp only [known, decoded] at run
        rw [run]
        split
        · by_cases self : name = text
          · rw [self]
            exact Option.isSome_iff_exists.mpr ⟨_, storedAddress_addressed_self _ known⟩
          · exact Option.isSome_iff_exists.mpr
              ⟨address, (storedAddress_addressed_other _ self).trans isStored⟩
        · exact stored

/-- An event that keeps what is stored and advertises nothing. -/
theorem agree_of_keeps (faithful : before.Faithful) {event : RibOutcomes × AddressEvent}
    (keeps : KeepsStored before.rib
      (final ((AddressEvent.command codecs event).run before.rib)))
    (silent : event.2.advertisement codecs = none) :
    AddressesKept before event.2 (final ((perform codecs event).run before)) ↔
      ∀ name address, event.2.usedAddress before.rib = some (name, address) →
        before.advertised name ≠ none := by
  obtain ⟨learned, notes⟩ := @advertised_final codecs before event
  rw [addressesKept_iff faithful (isSome_final event) notes]
  exact and_iff_right (faithful_final_of_keeps faithful keeps silent)

/-- An event that uses no address. -/
theorem agree_of_unused (faithful : before.Faithful) {event : RibOutcomes × AddressEvent}
    (unused : event.2.usedAddress before.rib = none) :
    AddressesKept before event.2 (final ((perform codecs event).run before)) ↔
      (final ((perform codecs event).run before)).Faithful := by
  obtain ⟨learned, notes⟩ := @advertised_final codecs before event
  rw [addressesKept_iff faithful (isSome_final event) notes]
  apply and_iff_left
  intro name address used
  rw [unused] at used
  cases used

/-- The addresses agree after an event exactly when it is supported. -/
theorem agree (faithful : before.Faithful) (event : RibOutcomes × AddressEvent) :
    AddressesKept before event.2 (final ((perform codecs event).run before)) ↔
      Supported codecs before event := by
  obtain ⟨outcomes, event⟩ := event
  have quiet : (∀ value name port, event ≠ .enrollment (.start value name port)) →
      event.advertisement codecs = none → _ := fun notStart =>
    @agree_of_keeps codecs before faithful (outcomes, event)
      (keepsStored_command event notStart before.rib)
  cases event with
  | flowRequest setup port source destination => exact quiet (fun _ _ _ => nofun) rfl
  | lookup name => exact quiet (fun _ _ _ => nofun) rfl
  | enrollment event =>
      cases event with
      | connect name port => exact quiet (fun _ _ _ => nofun) rfl
      | connectR name port => exact quiet (fun _ _ _ => nofun) rfl
      | operationalStart object name invokeId port => exact quiet (fun _ _ _ => nofun) rfl
      | stop object value name invokeId port => exact quiet (fun _ _ _ => nofun) rfl
      | stopR name => exact quiet (fun _ _ _ => nofun) rfl
      | startR name value =>
          cases name with
          | null => exact quiet (fun _ _ _ => nofun) rfl
          | stray => exact quiet (fun _ _ _ => nofun) rfl
          | target text =>
              cases value with
              | null => exact quiet (fun _ _ _ => nofun) rfl
              | stray => exact quiet (fun _ _ _ => nofun) rfl
              | target contents =>
                  exact (agree_of_unused faithful rfl).trans (startR_faithful_iff faithful)
      | start value name port =>
          have unnamed : ∀ value, (∀ text, name ≠ .target text) →
              AddressEvent.advertisement codecs (.enrollment (.start value name port)) = none → _ :=
            fun value absent => @agree_of_keeps codecs before faithful
              (outcomes, .enrollment (.start value name port))
              (keepsStored_start_of_not_target absent)
          cases name with
          | null =>
              have keeps := unnamed value nofun
              cases value with
              | null => exact keeps rfl
              | stray => exact keeps rfl
              | target contents => exact keeps rfl
          | stray =>
              have keeps := unnamed value nofun
              cases value with
              | null => exact keeps rfl
              | stray => exact keeps rfl
              | target contents => exact keeps rfl
          | target text =>
              cases value with
              | null => exact agree_of_keeps faithful (keepsStored_start nofun) rfl
              | stray => exact agree_of_keeps faithful (keepsStored_start nofun) rfl
              | target contents =>
                  cases decoded : codecs.enrollment.decode contents with
                  | some information =>
                      apply ((agree_of_unused faithful rfl).trans
                        (start_faithful_iff faithful decoded)).trans
                      rw [Supported, decoded]
                      simp only [Option.some.injEq, forall_eq']
                  | none =>
                      have nothing : ∀ other, Pointer.target contents = .target other →
                          codecs.enrollment.decode other = none := by
                        rintro _ ⟨⟩
                        exact decoded
                      have silent : AddressEvent.advertisement codecs
                          (.enrollment (.start (.target contents) (.target text) port)) = none := by
                        rw [AddressEvent.advertisement, addressIn, decoded]
                        rfl
                      apply (agree_of_keeps faithful (keepsStored_start nothing) silent).trans
                      rw [Supported, decoded]
                      exact iff_of_true nofun nofun

/-- In the state after a supported event the addresses still agree. -/
theorem faithful_of_supported (faithful : before.Faithful) (event : RibOutcomes × AddressEvent)
    (supported : Supported codecs before event) :
    (final ((perform codecs event).run before)).Faithful := by
  obtain ⟨learned, notes⟩ := @advertised_final codecs before event
  have kept := (agree faithful event).mpr supported
  exact ((addressesKept_iff faithful (isSome_final event) notes).mp kept).1

end Events

end Neighborhood

/-! ## Runs -/

/-- Nothing was heard of the neighbors yet. -/
def Neighborhood.unheard (rib : RibState) : Neighborhood where
  rib
  advertised := fun _ => none

/-- In exactly the runs of supported events the addresses of the neighbors are kept. -/
theorem neighbor_addresses_iff (codecs : RibCodecs) (start : RibState)
    (events : List (RibOutcomes × AddressEvent)) :
    (∀ occurrence ∈ Trace.trace (Neighborhood.perform codecs) events (.unheard start),
      occurrence.before.AddressesKept occurrence.event.2 occurrence.after) ↔
      ∀ occurrence ∈ Trace.trace (Neighborhood.perform codecs) events (.unheard start),
        occurrence.before.Supported codecs occurrence.event := by
  apply Trace.proper_iff_supported Neighborhood.Faithful (Neighborhood.Supported codecs)
    (fun before event result => before.AddressesKept event.2 (final result))
  · exact fun before event faithful => Neighborhood.agree faithful event
  · exact fun before event faithful => Neighborhood.faithful_of_supported faithful event
  · exact nofun

/-- Codecs for an enrollment that advertises the address 300. -/
def wideCodecs : RibCodecs where
  cdap := .refusing
  enrollment := .single { address := some 300, token := none } [0x08, 0xac, 0x02]
  neighbor := .refusing
  aData := .refusing
  flow := .refusing

/-- A neighbor that connects and advertises the address 300 is stored under 44, and a flow is
requested from one that advertised nothing. -/
theorem wide_address_truncated :
    (¬ ∀ occurrence ∈ Trace.trace (Neighborhood.perform wideCodecs)
        [(RibOutcomes.clear, .enrollment (.connect peerName 1)),
          (RibOutcomes.clear, .enrollment (.start (.target [0x08, 0xac, 0x02]) peerName 1))]
        (.unheard .initial),
      occurrence.before.AddressesKept occurrence.event.2 occurrence.after) ∧
    ¬ ∀ occurrence ∈ Trace.trace (Neighborhood.perform wideCodecs)
        [(RibOutcomes.clear, .enrollment (.connect peerName 1)),
          (RibOutcomes.clear, .flowRequest setupWithMemory 1 difName remoteName)]
        (.unheard .initial),
      occurrence.before.AddressesKept occurrence.event.2 occurrence.after := by
  constructor
  · intro all
    have last := all _ (Trace.mem_trace_cons.mpr (.inr ⟨_, _, rfl,
      Trace.mem_trace_cons.mpr (.inl rfl)⟩))
    have same := last.stored remoteAddressApName 300 (by decide) 44 (by decide)
    exact absurd same (by decide)
  · intro all
    have last := all _ (Trace.mem_trace_cons.mpr (.inr ⟨_, _, rfl,
      Trace.mem_trace_cons.mpr (.inl rfl)⟩))
    obtain ⟨advertised, known, _⟩ := last.used remoteAddressApName 255 (by decide)
    cases known

end RinaSense
