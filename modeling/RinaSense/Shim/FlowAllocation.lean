import RinaSense.Common.NameText
import RinaSense.Common.RsList
import RinaSense.Rib.Memory
import RinaSense.Shim.ArpRequests

/-!
# Flow allocation in the shims

Requests for flows on the list of flows that both shims share. A new flow is linked before the
steps that may fail, and destroying it does not unlink it. The module determines the requests that
leave the list as they should.
-/

namespace RinaSense

open Command

namespace FlowAllocation

abbrev FlowId := Nat

/-- `shimFlow_t`. Of the queue only matters whether there is one. -/
structure Flow where
  xPortId : PortId
  ePortIdState : ShimPortState
  pxDestPa : Option GpaId
  pxDestHa : Pointer GhaId
  pxSduQueue : Pointer Unit
  deriving Repr, DecidableEq

/-- The flows in memory, those of them that are linked, and the addresses. -/
structure Memory where
  cache : ArpCache
  flows : Store Flow
  xShimFlowsList : List FlowId

abbrev FlowCommand := EStateM Fault Memory

/-- Whether two fields of a new flow are `NULL` in the memory it is given. -/
structure Leftover where
  pxDestHa : Bool
  pxSduQueue : Bool
  deriving Repr, DecidableEq

/-- What a field holds that is not set. -/
def leftoverPointer {α : Type} (isNull : Bool) : Pointer α := if isNull then .null else .stray

/-- Outcomes of a request: memory for the search, for the flow, for the text of the destination and
its address, and for the queue, and those of the ARP request. -/
structure Outcomes where
  scratch : Bool
  flow : Option Leftover
  text : Bool
  gpa : Bool
  address : Bool
  fifo : Bool
  queue : Bool
  arp : ArpTxOutcomes
  deriving Repr, DecidableEq

/-- The arguments of a request. Of the instance data the ARP handle of the application is read. -/
structure Call where
  pxData : Option (Option RinarpHandle)
  pxSourceInfo : Option Name
  pxDestinationInfo : Option Name
  xPortId : PortId
  deriving DecidableEq

/-! ## The list -/

def readFlow (pxFlow : FlowId) : FlowCommand Flow := do
  match (← get).flows.get? pxFlow with
  | some flow => return flow
  | none => throw .released

def vShimFlowAdd (pxFlow : FlowId) : FlowCommand Unit :=
  modify fun memory =>
    { memory with xShimFlowsList := vRsListInsert memory.xShimFlowsList pxFlow }

/-- The walk over the list from an item on. -/
def findFlowFrom (xPortId : PortId) : List FlowId → FlowCommand (Option FlowId)
  | [] => return none
  | pxFlow :: rest => do
      if (← readFlow pxFlow).xPortId = xPortId then return some pxFlow
      findFlowFrom xPortId rest

/-- The memory taken for the search is not used, and not given back. -/
def prvShimFindFlowByPortId (scratch : Bool) (xPortId : PortId) : FlowCommand (Option FlowId) := do
  if !scratch then return none
  findFlowFrom xPortId (← get).xShimFlowsList

def vGpaDestroy (pxGpa : GpaId) : FlowCommand Unit := do
  let memory ← get
  match memory.cache.gpas.get? pxGpa with
  | none => throw .released
  | some gpa =>
      if xIsGpaOk (some gpa) then
        set { memory with cache := { memory.cache with gpas := memory.cache.gpas.free pxGpa } }

def vGhaDestroy (pxGha : GhaId) : FlowCommand Unit :=
  modify fun memory =>
    { memory with cache := { memory.cache with ghas := memory.cache.ghas.free pxGha } }

/-- The fields of a flow are destroyed where they are set. -/
def destroyDestPa : Option GpaId → FlowCommand Unit
  | none => pure ()
  | some pxDestPa => vGpaDestroy pxDestPa

def destroyDestHa : Pointer GhaId → FlowCommand Unit
  | .null => pure ()
  | .target pxDestHa => vGhaDestroy pxDestHa
  | .stray => throw .released

def deleteSduQueue : Pointer Unit → FlowCommand Unit
  | .null => pure ()
  | .target () => pure ()
  | .stray => throw .released

def prvShimFlowDestroy (xFlow : FlowId) : FlowCommand Bool := do
  let flow ← readFlow xFlow
  destroyDestPa flow.pxDestPa
  destroyDestHa flow.pxDestHa
  deleteSduQueue flow.pxSduQueue
  modify fun memory => { memory with flows := memory.flows.free xFlow }
  return true

/-- The result is false where the flow is destroyed. Nothing is unbound, and nothing unlinked. -/
def prvShimUnbindDestroyFlow (pxFlow : FlowId) : FlowCommand Bool := do
  if ← prvShimFlowDestroy pxFlow then return false
  return true

/-- The structure is used whether there is memory for it or not. -/
def prvShimCreateQueue (outcomes : Outcomes) : FlowCommand (Pointer Unit) := do
  if !outcomes.fifo then throw .nullPointer
  if !outcomes.queue then return .null
  return .target ()

/-! ## Requests -/

/-- `pxNameToGPA`. The text and the bytes of the address are cleared whether there is memory for
them or not. -/
def pxNameToGpa (outcomes : Outcomes) (pcName : Name) : FlowCommand (Option GpaId) := do
  if !outcomes.text then throw .nullPointer
  match Name.pxNameToGpa (some pcName) with
  | none => return none
  | some gpa =>
      if !outcomes.gpa then return none
      if !outcomes.address then throw .nullPointer
      let memory ← get
      let (gpas, pxGpa) := memory.cache.gpas.allocate gpa
      set { memory with cache := { memory.cache with gpas } }
      return some pxGpa

/-- What is left to do once a flow is linked. -/
def completeFlow (resolve : FlowCommand Bool) (outcomes : Outcomes) (pxFlow : FlowId)
    (flow : Flow) : FlowCommand Bool := do
  let pxSduQueue ← prvShimCreateQueue outcomes
  modify fun memory => { memory with flows := memory.flows.set pxFlow { flow with pxSduQueue } }
  if pxSduQueue = .null then
    let _ ← prvShimUnbindDestroyFlow pxFlow
    return false
  if !(← resolve) then
    let _ ← prvShimUnbindDestroyFlow pxFlow
    return false
  return true

/-- A request for a flow with a port that none was found with. -/
def createFlow (resolve : GpaId → FlowCommand Bool) (outcomes : Outcomes) (xPortId : PortId)
    (pxDestinationInfo : Name) : FlowCommand Bool := do
  match outcomes.flow with
  | none => return false
  | some leftover =>
      let pxDestPa ← pxNameToGpa outcomes pxDestinationInfo
      let flow : Flow :=
        { xPortId
          ePortIdState := .pending
          pxDestPa
          pxDestHa := leftoverPointer leftover.pxDestHa
          pxSduQueue := leftoverPointer leftover.pxSduQueue }
      let memory ← get
      let (flows, pxFlow) := memory.flows.allocate flow
      set { memory with flows }
      match pxDestPa with
      | none =>
          let _ ← prvShimUnbindDestroyFlow pxFlow
          return false
      | some pxDestPa =>
          if !xIsGpaOk (memory.cache.gpa (some pxDestPa)) then
            let _ ← prvShimUnbindDestroyFlow pxFlow
            return false
          vShimFlowAdd pxFlow
          completeFlow (resolve pxDestPa) outcomes pxFlow flow

/-- What the requests of the shims have in common: all but how the destination is resolved. -/
def flowAllocateRequest (resolve : Option RinarpHandle → GpaId → FlowCommand Bool)
    (outcomes : Outcomes) (call : Call) : FlowCommand Bool := do
  match call.pxData, call.pxSourceInfo, call.pxDestinationInfo with
  | some pxAppHandle, some _, some pxDestinationInfo =>
      if !isPortIdOk call.xPortId then return false
      match ← prvShimFindFlowByPortId outcomes.scratch call.xPortId with
      | none => createFlow (resolve pxAppHandle) outcomes call.xPortId pxDestinationInfo
      | some pxFlow =>
          -- a pending flow is reported as a success
          if (← readFlow pxFlow).ePortIdState = .pending then return true
          return false
  | _, _, _ => return false

/-- An ARP request for the destination, from the addresses of the application. -/
def resolveDestination (outcomes : ArpTxOutcomes) (pxAppHandle : Option RinarpHandle)
    (pxDestPa : GpaId) : FlowCommand Bool := do
  match pxAppHandle with
  | none => throw .nullPointer
  | some handle =>
      let (resolved, _) ← zoom Memory.cache (fun cache memory => { memory with cache })
        (xArpResolveGpa outcomes (some pxDestPa) (some handle.pxPa) (some handle.pxHa))
      return resolved

/-- The WiFi shim. -/
def xShimFlowAllocateRequest (outcomes : Outcomes) (call : Call) : FlowCommand Bool :=
  flowAllocateRequest (resolveDestination outcomes.arp) outcomes call

/-- The IEEE 802.15.4 shim does not resolve the destination. -/
def xShim802154FlowAllocateRequest (outcomes : Outcomes) (call : Call) : FlowCommand Bool :=
  flowAllocateRequest (fun _ _ => return true) outcomes call

/-! ## What a request should leave -/

namespace Memory

/-- The port of a flow in memory. -/
def port (memory : Memory) (pxFlow : FlowId) : Option PortId :=
  (memory.flows.get? pxFlow).map Flow.xPortId

/-- The linked flows with a port. -/
def withPort (memory : Memory) (xPortId : PortId) : List FlowId :=
  memory.xShimFlowsList.filter fun pxFlow => memory.port pxFlow == some xPortId

/-- What is linked is in memory, and no two linked flows have one port. -/
structure Sound (memory : Memory) : Prop where
  live : ∀ pxFlow ∈ memory.xShimFlowsList, ∃ flow, memory.flows.get? pxFlow = some flow
  single : ∀ xPortId, (memory.withPort xPortId).length ≤ 1

end Memory

/-- A request that fails leaves the list and the flows in it, and one that succeeds leaves what is
linked in memory, with one flow for the port and still at most one for each other. -/
def Conforms (before : Memory) (xPortId : PortId) : EStateM.Result Fault Memory Bool → Prop
  | .ok false after => after.xShimFlowsList = before.xShimFlowsList ∧
      ∀ pxFlow ∈ before.xShimFlowsList, after.flows.get? pxFlow = before.flows.get? pxFlow
  | .ok true after => after.Sound ∧ (after.withPort xPortId).length = 1
  | .error _ _ => False

/-- An argument is missing or the port is wrong. -/
def Refused (call : Call) : Prop :=
  call.pxData = none ∨ call.pxSourceInfo = none ∨ call.pxDestinationInfo = none ∨
    isPortIdOk call.xPortId = false

/-- The flow is found, or there is no memory for a new one, or its destination has no address and
what is left in its memory passes for unset, or no flow has the port and nothing fails. -/
def Settles (resolved : Prop) (memory : Memory) (outcomes : Outcomes) (xPortId : PortId) : Prop :=
  (outcomes.scratch = true ∧ memory.withPort xPortId ≠ []) ∨ outcomes.flow = none ∨
    (outcomes.flow = some ⟨true, true⟩ ∧ outcomes.text = true ∧ outcomes.gpa = false) ∨
    (memory.withPort xPortId = [] ∧ outcomes.text = true ∧ outcomes.gpa = true ∧
      outcomes.address = true ∧ outcomes.fifo = true ∧ outcomes.queue = true ∧ resolved)

section List

variable {memory : Memory} {xPortId : PortId} {pxFlow : FlowId} {flow : Flow}

theorem run_readFlow (found : memory.flows.get? pxFlow = some flow) :
    (readFlow pxFlow).run memory = .ok flow memory := by
  simp only [readFlow, EStateM.run_bind, EStateM.run_get, found]
  rfl

/-- The walk finds the first flow with the port. -/
theorem run_findFlowFrom {flows : List FlowId}
    (live : ∀ pxFlow ∈ flows, ∃ flow, memory.flows.get? pxFlow = some flow) :
    (findFlowFrom xPortId flows).run memory =
      .ok (flows.find? fun pxFlow => memory.port pxFlow == some xPortId) memory := by
  induction flows with
  | nil => rfl
  | cons pxFlow rest ih =>
      obtain ⟨flow, found⟩ := live pxFlow List.mem_cons_self
      have port : memory.port pxFlow = some flow.xPortId := by rw [Memory.port, found]; rfl
      rw [findFlowFrom, run_bind_ok (run_readFlow found), List.find?_cons, port]
      by_cases here : flow.xPortId = xPortId
      · rw [if_pos here, here, beq_self_eq_true]
        rfl
      · have other : (some flow.xPortId == some xPortId) = false := by simpa using here
        rw [if_neg here, other]
        exact ih fun pxFlow member => live pxFlow (List.mem_cons_of_mem _ member)

theorem vRsListInsert_perm (list : List FlowId) (item : FlowId) :
    (vRsListInsert list item).Perm (item :: list) := by
  cases list with
  | nil => exact .refl _
  | cons first rest => exact .swap _ _ _

/-- The memory after a flow was linked that has a queue. -/
def Memory.link (memory : Memory) (cache : ArpCache) (flow : Flow) : Memory where
  cache := cache
  flows := (memory.flows.allocate flow).1
  xShimFlowsList := vRsListInsert memory.xShimFlowsList memory.flows.next

theorem Memory.Sound.old (sound : memory.Sound) (member : pxFlow ∈ memory.xShimFlowsList) :
    pxFlow < memory.flows.next := by
  obtain ⟨flow, found⟩ := sound.live pxFlow member
  exact Store.lt_next found

theorem Memory.Sound.get?_link (sound : memory.Sound) (cache : ArpCache) (flow : Flow)
    (member : pxFlow ∈ memory.xShimFlowsList) :
    (memory.link cache flow).flows.get? pxFlow = memory.flows.get? pxFlow :=
  Store.get?_allocate_of_lt _ _ (sound.old member)

/-- One more flow has the port of the new one. -/
theorem Memory.Sound.length_withPort_link (sound : memory.Sound) (cache : ArpCache) (flow : Flow)
    (xPortId : PortId) :
    ((memory.link cache flow).withPort xPortId).length =
      (memory.withPort xPortId).length + if flow.xPortId = xPortId then 1 else 0 := by
  have inserted := (vRsListInsert_perm memory.xShimFlowsList memory.flows.next).filter
    fun pxFlow => (memory.link cache flow).port pxFlow == some xPortId
  have new : (memory.link cache flow).port memory.flows.next = some flow.xPortId := by
    rw [Memory.port, Memory.link, Store.get?_allocate_new]
    rfl
  have old : (memory.xShimFlowsList.filter
      fun pxFlow => (memory.link cache flow).port pxFlow == some xPortId) =
        memory.withPort xPortId := by
    refine List.filter_congr fun pxFlow member => ?_
    rw [Memory.port, sound.get?_link cache flow member, Memory.port]
  by_cases here : flow.xPortId = xPortId
  · rw [List.filter_cons_of_pos (by rw [new, here, beq_self_eq_true]), old] at inserted
    rw [if_pos here]
    exact inserted.length_eq
  · rw [List.filter_cons_of_neg (by simpa [new] using here), old] at inserted
    rw [if_neg here]
    exact inserted.length_eq

theorem Memory.Sound.live_link (sound : memory.Sound) (cache : ArpCache) (flow : Flow) :
    ∀ pxFlow ∈ (memory.link cache flow).xShimFlowsList,
      ∃ flow', (memory.link cache flow).flows.get? pxFlow = some flow' := by
  intro pxFlow member
  rcases mem_vRsListInsert.mp member with rfl | member
  · exact ⟨flow, Store.get?_allocate_new _ _⟩
  · obtain ⟨flow', found⟩ := sound.live pxFlow member
    exact ⟨flow', (sound.get?_link cache flow member).trans found⟩

/-- The first flow with its port can be linked. -/
theorem Memory.Sound.link (sound : memory.Sound) (cache : ArpCache) {flow : Flow}
    (first : memory.withPort flow.xPortId = []) : (memory.link cache flow).Sound where
  live := sound.live_link cache flow
  single := by
    intro xPortId
    rw [sound.length_withPort_link]
    by_cases here : flow.xPortId = xPortId
    · rw [if_pos here, ← here, first, List.length_nil]
    · rw [if_neg here]
      exact sound.single xPortId

/-- A new flow that stays linked conforms exactly if it is the first one with its port. -/
theorem conforms_link_iff (sound : memory.Sound) (cache : ArpCache) (flow : Flow) :
    Conforms memory flow.xPortId (.ok true (memory.link cache flow)) ↔
      memory.withPort flow.xPortId = [] := by
  rw [Conforms, sound.length_withPort_link, if_pos rfl, Nat.add_eq_right,
    List.length_eq_zero_iff]
  exact ⟨And.right, fun first => ⟨sound.link cache first, first⟩⟩

/-- A failure that leaves the flow linked. -/
theorem not_conforms_linked {result : EStateM.Result Fault Memory Bool}
    (linked : (final result).xShimFlowsList =
      vRsListInsert memory.xShimFlowsList memory.flows.next)
    (fails : ∀ after, result ≠ .ok true after) : ¬ Conforms memory xPortId result := by
  intro conforms
  cases result with
  | error fault after => exact conforms
  | ok value after =>
      cases value with
      | true => exact fails after rfl
      | false =>
          have lengths := congrArg List.length (linked.symm.trans conforms.1)
          rw [vRsListInsert_length] at lengths
          omega

end List

/-! ## Destroying a flow -/

section Destroying

variable {memory : Memory} {xPortId : PortId} {pxFlow : FlowId} {flow : Flow}

/-- The same flows are linked. -/
def SameList (before after : Memory) : Prop := after.xShimFlowsList = before.xShimFlowsList

theorem sameList_of_keeps {α : Type} {command : FlowCommand α} (keeps : Keeps SameList command)
    (memory : Memory) :
    (final (command.run memory)).xShimFlowsList = memory.xShimFlowsList := keeps memory

theorem keeps_bind_list {α β : Type} {command : FlowCommand α} {rest : α → FlowCommand β}
    (keeps : Keeps SameList command) (keepsRest : ∀ value, Keeps SameList (rest value)) :
    Keeps SameList (command >>= rest) :=
  keeps_bind (fun _ _ _ one two => two.trans one) keeps keepsRest

theorem keeps_vGpaDestroy (pxGpa : GpaId) : Keeps SameList (vGpaDestroy pxGpa) := by
  intro memory
  simp only [vGpaDestroy, EStateM.run_bind, EStateM.run_get]
  split
  · rfl
  · split <;> rfl

/-- Destroying a flow does not unlink it. -/
theorem keeps_prvShimUnbindDestroyFlow (pxFlow : FlowId) :
    Keeps SameList (prvShimUnbindDestroyFlow pxFlow) := by
  refine keeps_bind_list (keeps_bind_list ?_ fun flow => keeps_bind_list ?_ fun _ =>
    keeps_bind_list ?_ fun _ => keeps_bind_list ?_ fun _ => fun _ => rfl) fun destroyed => ?_
  · intro memory
    simp only [readFlow, EStateM.run_bind, EStateM.run_get]
    split <;> rfl
  · cases flow.pxDestPa with
    | none => exact fun _ => rfl
    | some pxDestPa => exact keeps_vGpaDestroy pxDestPa
  · cases flow.pxDestHa with
    | null => exact fun _ => rfl
    | target pxDestHa => exact fun _ => rfl
    | stray => exact fun _ => rfl
  · cases flow.pxSduQueue with
    | null => exact fun _ => rfl
    | target => exact fun _ => rfl
    | stray => exact fun _ => rfl
  · cases destroyed with
    | true => exact fun _ => rfl
    | false => exact fun _ => rfl

/-- A failure behind a flow that is linked. -/
theorem not_conforms_destroyed {before : Memory}
    (linked : memory.xShimFlowsList = vRsListInsert before.xShimFlowsList before.flows.next) :
    ¬ Conforms before xPortId
      ((do
        let _ ← prvShimUnbindDestroyFlow pxFlow
        return false : FlowCommand Bool).run memory) := by
  have kept := sameList_of_keeps (keeps_bind_list (keeps_prvShimUnbindDestroyFlow pxFlow)
    fun _ => fun _ => rfl : Keeps SameList (do
      let _ ← prvShimUnbindDestroyFlow pxFlow
      return false : FlowCommand Bool)) memory
  refine not_conforms_linked (kept.trans linked) fun after same => ?_
  cases run : (prvShimUnbindDestroyFlow pxFlow).run memory with
  | ok value next =>
      rw [run_bind_ok run] at same
      cases same
  | error fault next =>
      rw [run_bind_error run] at same
      cases same

/-- A flow that was not linked is freed if its fields pass for unset. -/
theorem conforms_destroyed_iff (leftover : Leftover) (port : PortId) :
    Conforms memory xPortId
        ((do
          let _ ← prvShimUnbindDestroyFlow memory.flows.next
          return false : FlowCommand Bool).run
            { memory with
              flows := (memory.flows.allocate
                { xPortId := port
                  ePortIdState := .pending
                  pxDestPa := none
                  pxDestHa := leftoverPointer leftover.pxDestHa
                  pxSduQueue := leftoverPointer leftover.pxSduQueue }).1 }) ↔
      leftover = ⟨true, true⟩ := by
  obtain ⟨pxDestHa, pxSduQueue⟩ := leftover
  have read := @run_readFlow { memory with
    flows := (memory.flows.allocate
      { xPortId := port
        ePortIdState := .pending
        pxDestPa := none
        pxDestHa := leftoverPointer pxDestHa
        pxSduQueue := leftoverPointer pxSduQueue }).1 } _ _ (Store.get?_allocate_new _ _)
  rw [prvShimUnbindDestroyFlow, prvShimFlowDestroy, bind_assoc, bind_assoc, run_bind_ok read]
  cases pxDestHa with
  | false => exact iff_of_false id nofun
  | true =>
      cases pxSduQueue with
      | false => exact iff_of_false id nofun
      | true => exact iff_of_true ⟨rfl, fun pxFlow _ => Store.get?_free_allocate _ _ _⟩ rfl

end Destroying

/-! ## Creating a flow -/

/-- How the destination is resolved, which changes no flow. -/
def Resolution (resolve : FlowCommand Bool) (memory : Memory) (resolved : Prop) : Prop :=
  (resolved ∧ ∃ cache, resolve.run memory = .ok true { memory with cache }) ∨
    (¬ resolved ∧ (final (resolve.run memory)).xShimFlowsList = memory.xShimFlowsList ∧
      ∀ after, resolve.run memory ≠ .ok true after)

section Creating

variable {memory : Memory} {outcomes : Outcomes} {resolved : Prop} {cache : ArpCache} {flow : Flow}

/-- A linked flow stays as it should if it gets a queue, is resolved, and is the first one with its
port. -/
theorem completeFlow_conforms_iff (sound : memory.Sound) {resolve : FlowCommand Bool}
    (resolution : Resolution resolve
      (memory.link cache { flow with pxSduQueue := .target () }) resolved) :
    Conforms memory flow.xPortId
        ((completeFlow resolve outcomes memory.flows.next flow).run (memory.link cache flow)) ↔
      memory.withPort flow.xPortId = [] ∧ outcomes.fifo = true ∧ outcomes.queue = true ∧
        resolved := by
  rw [completeFlow]
  cases fifo : outcomes.fifo with
  | false =>
      have created : (prvShimCreateQueue outcomes).run (memory.link cache flow) =
          .error .nullPointer (memory.link cache flow) := by
        rw [prvShimCreateQueue, fifo]
        rfl
      rw [run_bind_error created]
      exact iff_of_false id nofun
  | true =>
      cases queue : outcomes.queue with
      | false =>
          have created : (prvShimCreateQueue outcomes).run (memory.link cache flow) =
              .ok .null (memory.link cache flow) := by
            rw [prvShimCreateQueue, fifo, queue]
            rfl
          rw [run_bind_ok created]
          exact iff_of_false (not_conforms_destroyed rfl) nofun
      | true =>
          have created : (prvShimCreateQueue outcomes).run (memory.link cache flow) =
              .ok (.target ()) (memory.link cache flow) := by
            rw [prvShimCreateQueue, fifo, queue]
            rfl
          have written : (modify fun memory' : Memory => { memory' with
              flows := memory'.flows.set memory.flows.next
                { flow with pxSduQueue := .target () } } : FlowCommand PUnit).run
              (memory.link cache flow) =
              .ok ⟨⟩ (memory.link cache { flow with pxSduQueue := .target () }) := by
            rw [EStateM.run_modify, Memory.link, Memory.link, Store.set_allocate]
          rw [run_bind_ok created, run_bind_ok written, if_neg nofun]
          simp only [true_and]
          rcases resolution with ⟨holds, cache', run⟩ | ⟨fails, kept, never⟩
          · rw [run_bind_ok run]
            exact (conforms_link_iff sound cache' { flow with pxSduQueue := .target () }).trans
              (and_iff_left holds).symm
          · refine iff_of_false ?_ fun conforms => fails conforms.2
            cases run : resolve.run
                (memory.link cache { flow with pxSduQueue := .target () }) with
            | error fault after =>
                rw [run_bind_error run]
                exact id
            | ok value after =>
                rw [run_bind_ok run]
                rw [run] at kept
                cases value with
                | true => exact absurd run (never after)
                | false => exact not_conforms_destroyed kept

/-- The text and the bytes of the address have to have memory, and without any for the address
itself there is none. -/
theorem run_pxNameToGpa (outcomes : Outcomes) (destination : Name) (memory : Memory) :
    (pxNameToGpa outcomes destination).run memory =
      match outcomes.text, outcomes.gpa, outcomes.address with
      | false, _, _ => .error .nullPointer memory
      | true, false, _ => .ok none memory
      | true, true, false => .error .nullPointer memory
      | true, true, true => .ok (some memory.cache.gpas.next) { memory with
          cache := { memory.cache with
            gpas := (memory.cache.gpas.allocate
              ⟨some (Name.formatted destination.texts)⟩).1 } } := by
  rw [pxNameToGpa, Name.pxNameToGpa_eq]
  cases outcomes.text <;> cases outcomes.gpa <;> cases outcomes.address <;> rfl

/-- A new flow conforms if there is no memory for it, or it is freed before it is linked, or
completed. -/
theorem createFlow_conforms_iff (sound : memory.Sound) {resolve : GpaId → FlowCommand Bool}
    {xPortId : PortId} {destination : Name}
    (resolution : ∀ flow, Resolution (resolve memory.cache.gpas.next)
      (memory.link
        { memory.cache with
          gpas := (memory.cache.gpas.allocate
            ⟨some (Name.formatted destination.texts)⟩).1 } flow) resolved) :
    Conforms memory xPortId
        ((createFlow resolve outcomes xPortId destination).run memory) ↔
      outcomes.flow = none ∨
        (outcomes.flow = some ⟨true, true⟩ ∧ outcomes.text = true ∧ outcomes.gpa = false) ∨
        (memory.withPort xPortId = [] ∧ outcomes.text = true ∧ outcomes.gpa = true ∧
          outcomes.address = true ∧ outcomes.fifo = true ∧ outcomes.queue = true ∧ resolved) := by
  have converted := run_pxNameToGpa outcomes destination memory
  rw [createFlow]
  cases room : outcomes.flow with
  | none => exact iff_of_true ⟨rfl, fun _ _ => rfl⟩ (.inl rfl)
  | some leftover =>
      cases text : outcomes.text with
      | false =>
          rw [text] at converted
          simp only
          rw [run_bind_error converted]
          exact iff_of_false id (by simp)
      | true =>
          cases gpa : outcomes.gpa with
          | false =>
              rw [text, gpa] at converted
              simp only
              rw [run_bind_ok converted]
              refine (conforms_destroyed_iff leftover xPortId).trans ?_
              simp
          | true =>
              cases address : outcomes.address with
              | false =>
                  rw [text, gpa, address] at converted
                  simp only
                  rw [run_bind_error converted]
                  exact iff_of_false id (by simp)
              | true =>
                  let cache : ArpCache := { memory.cache with
                    gpas := (memory.cache.gpas.allocate
                      ⟨some (Name.formatted destination.texts)⟩).1 }
                  have converted : (pxNameToGpa outcomes destination).run memory =
                      .ok (some memory.cache.gpas.next) { memory with cache } := by
                    rw [converted, text, gpa, address]
                  let flow : Flow :=
                    { xPortId
                      ePortIdState := .pending
                      pxDestPa := some memory.cache.gpas.next
                      pxDestHa := leftoverPointer leftover.pxDestHa
                      pxSduQueue := leftoverPointer leftover.pxSduQueue }
                  have found : cache.gpa (some memory.cache.gpas.next) =
                      some ⟨some (Name.formatted destination.texts)⟩ :=
                    Store.get?_allocate_new _ _
                  have ok : xIsGpaOk (cache.gpa (some memory.cache.gpas.next)) = true := by
                    rw [found]
                    simp [xIsGpaOk, Gpa.uxLength, Name.formatted]
                  simp only
                  rw [run_bind_ok converted]
                  simp only [EStateM.run_bind, EStateM.run_get, EStateM.run_set,
                    Store.allocate_id, ok, Bool.not_true, Bool.false_eq_true, if_false]
                  have completed := @completeFlow_conforms_iff memory outcomes resolved cache flow
                    sound _ (resolution { flow with pxSduQueue := .target () })
                  exact completed.trans (by simp [flow])

end Creating

/-! ## Resolving the destination -/

/-- The packet is generated, with its hardware address, and handed on. -/
structure Sends (outcomes : ArpTxOutcomes) (spa tpa : Gpa) : Prop where
  generates : outcomes.Generates spa tpa
  ghaMemory : outcomes.ghaMemory = true
  event : outcomes.ipcpTask = true ∨ outcomes.networkEvent = true

/-- The application is registered with addresses in memory, and a request for the destination is
sent. -/
def Resolves (outcomes : ArpTxOutcomes) (cache : ArpCache) (pxAppHandle : Option RinarpHandle)
    (tpa : Gpa) : Prop :=
  ∃ handle spa sha, pxAppHandle = some handle ∧ cache.gpas.get? handle.pxPa = some spa ∧
    cache.ghas.get? handle.pxHa = some sha ∧ xIsGpaOk (some spa) = true ∧ Sends outcomes spa tpa

section Resolving

variable {outcomes : ArpTxOutcomes} {cache : ArpCache} {pxDestPa : GpaId} {tpa : Gpa}

theorem sends_iff (frame : List UInt8) {spa : Gpa}
    (grantedSpa : spa.uxLength = max spa.uxLength tpa.uxLength ∨ outcomes.spaMemory = true)
    (grantedTpa : tpa.uxLength = max spa.uxLength tpa.uxLength ∨ outcomes.tpaMemory = true)
    (made : outcomes.ghaMemory = true) :
    (handedOn outcomes frame).1 = true ↔ Sends outcomes spa tpa := by
  have handed : (handedOn outcomes frame).1 = true ↔
      outcomes.buffer = true ∧ (outcomes.ipcpTask = true ∨ outcomes.networkEvent = true) := by
    rw [handedOn, apply_ite Prod.fst, ite_eq_iff]
    simp
  rw [handed, ← generates_iff grantedSpa grantedTpa]
  constructor
  · rintro ⟨generates, event⟩
    exact ⟨generates, made, event⟩
  · exact fun sends => ⟨sends.generates, sends.event⟩

/-- What resolving a destination comes to: it returns whether a request is sent, or the packet
lacks its hardware address. -/
inductive ResolveCase (request : EStateM.Result Fault ArpCache (Bool × Option (List UInt8)))
    (resolved : Prop) : Prop where
  | returns (result : Bool × Option (List UInt8)) (after : ArpCache)
      (run : request = .ok result after) (isResolved : result.1 = true ↔ resolved)
  | faults (fault : Fault) (after : ArpCache) (run : request = .error fault after)
      (notResolved : ¬ resolved)

/-- A request for a destination with a well-formed address. -/
theorem run_resolve (found : cache.gpas.get? pxDestPa = some tpa) (ok : xIsGpaOk (some tpa) = true)
    (handle : RinarpHandle) :
    ResolveCase ((xArpResolveGpa outcomes (some pxDestPa) (some handle.pxPa)
        (some handle.pxHa)).run cache) (Resolves outcomes cache (some handle) tpa) := by
  have unique : ∀ {spa sha}, cache.gpas.get? handle.pxPa = some spa →
      cache.ghas.get? handle.pxHa = some sha → xIsGpaOk (some spa) = true →
      (Resolves outcomes cache (some handle) tpa ↔ Sends outcomes spa tpa) := by
    intro spa sha foundSpa foundSha okSpa
    constructor
    · rintro ⟨other, _, _, same, foundOther, -, -, sends⟩
      obtain rfl := Option.some.inj same
      exact Option.some.inj (foundOther.symm.trans foundSpa) ▸ sends
    · exact fun sends => ⟨handle, spa, sha, rfl, foundSpa, foundSha, okSpa, sends⟩
  by_cases sound : xIsGpaOk (cache.gpa (some handle.pxPa)) = true ∧
      xIsGhaOk (cache.gha (some handle.pxHa)) = true
  · obtain ⟨okSpa, okSha⟩ := sound
    cases foundSpa : cache.gpas.get? handle.pxPa with
    | none =>
        have absent : cache.gpa (some handle.pxPa) = none := foundSpa
        rw [absent] at okSpa
        cases okSpa
    | some spa =>
        cases foundSha : cache.ghas.get? handle.pxHa with
        | none =>
            have absent : cache.gha (some handle.pxHa) = none := foundSha
            rw [absent] at okSha
            cases okSha
        | some sha =>
            have here : cache.gpa (some handle.pxPa) = some spa := foundSpa
            rw [here] at okSpa
            rw [run_xArpResolveGpa foundSpa found foundSha okSpa ok,
              unique foundSpa foundSha okSpa]
            rcases growable_or_refused outcomes spa tpa with ⟨grantedSpa, grantedTpa⟩ | refused
            · rw [run_vArpSendRequest_padded foundSpa found okSpa ok foundSha grantedSpa grantedTpa]
              by_cases fails : (outcomes.buffer && !outcomes.ghaMemory) = true
              · rw [if_pos fails]
                rw [Bool.and_eq_true, Bool.not_eq_true'] at fails
                refine .faults _ _ rfl fun sends => ?_
                cases fails.2.symm.trans sends.ghaMemory
              · rw [if_neg fails]
                refine .returns _ _ rfl ?_
                cases made : outcomes.ghaMemory with
                | true => exact sends_iff _ grantedSpa grantedTpa made
                | false =>
                    rw [made, Bool.not_false, Bool.and_true, Bool.not_eq_true] at fails
                    refine iff_of_false ?_ fun sends => ?_
                    · rw [handedOn, fails]
                      exact Bool.false_ne_true
                    · cases made.symm.trans sends.ghaMemory
            · rw [run_vArpSendRequest_refused foundSpa found okSpa ok refused]
              refine .returns _ _ rfl (iff_of_false Bool.false_ne_true fun sends => ?_)
              exact not_generates refused sends.generates
  · refine .returns (false, none) cache ?_ (iff_of_false Bool.false_ne_true ?_)
    · have here : cache.gpa (some pxDestPa) = some tpa := found
      have refused : (!xIsGpaOk (cache.gpa (some pxDestPa)) ||
          !xIsGhaOk (cache.gha (some handle.pxHa)) ||
          !xIsGpaOk (cache.gpa (some handle.pxPa))) = true := by
        rw [here, ok]
        simpa [and_comm, imp_iff_not_or] using sound
      simp only [xArpResolveGpa, EStateM.run_bind, EStateM.run_get, refused, if_true]
      rfl
    · rintro ⟨other, spa, sha, same, foundSpa, foundSha, okSpa, -⟩
      obtain rfl := Option.some.inj same
      have here : cache.gpa (some handle.pxPa) = some spa := foundSpa
      have there : cache.gha (some handle.pxHa) = some sha := foundSha
      exact sound ⟨here ▸ okSpa, there ▸ rfl⟩

theorem resolution_arp {memory : Memory} (found : memory.cache.gpas.get? pxDestPa = some tpa)
    (ok : xIsGpaOk (some tpa) = true) (pxAppHandle : Option RinarpHandle) :
    Resolution (resolveDestination outcomes pxAppHandle pxDestPa) memory
      (Resolves outcomes memory.cache pxAppHandle tpa) := by
  cases pxAppHandle with
  | none =>
      refine .inr ⟨?_, rfl, fun _ => nofun⟩
      rintro ⟨handle, spa, sha, unset, -⟩
      cases unset
  | some handle =>
      cases @run_resolve outcomes memory.cache pxDestPa tpa found ok handle with
      | faults fault after run notResolved =>
          have ran : (resolveDestination outcomes (some handle) pxDestPa).run memory =
              .error fault { memory with cache := after } := by
            simp only [resolveDestination, EStateM.run_bind, run_zoom, run]
          refine .inr ⟨notResolved, by rw [ran]; rfl, fun _ same => ?_⟩
          rw [ran] at same
          cases same
      | returns result after run resolved =>
          have ran : (resolveDestination outcomes (some handle) pxDestPa).run memory =
              .ok result.1 { memory with cache := after } := by
            simp only [resolveDestination, EStateM.run_bind, run_zoom, run]
            rfl
          cases value : result.1 with
          | true =>
              exact .inl ⟨resolved.mp value, after, value ▸ ran⟩
          | false =>
              refine .inr ⟨fun resolves => ?_, by rw [ran]; rfl, fun _ same => ?_⟩
              · cases value.symm.trans (resolved.mpr resolves)
              · rw [ran, value] at same
                cases same

end Resolving

/-! ## Every request -/

/-- The addresses in memory with that of the destination. -/
def withDestination (cache : ArpCache) (destination : Name) : ArpCache :=
  { cache with gpas := (cache.gpas.allocate ⟨some (Name.formatted destination.texts)⟩).1 }

section Requests

variable {memory : Memory} {outcomes : Outcomes} {call : Call}

/-- A request from which nothing new comes: the flow is there. -/
theorem found_conforms {pxFlow : FlowId} {flow : Flow} (sound : memory.Sound) {xPortId : PortId}
    (member : pxFlow ∈ memory.withPort xPortId) (found : memory.flows.get? pxFlow = some flow) :
    Conforms memory xPortId
      ((do
        if (← readFlow pxFlow).ePortIdState = .pending then return true
        return false : FlowCommand Bool).run memory) := by
  rw [run_bind_ok (run_readFlow found)]
  by_cases pending : flow.ePortIdState = .pending
  · rw [if_pos pending]
    have some := List.length_pos_of_mem member
    exact ⟨sound, Nat.le_antisymm (sound.single xPortId) some⟩
  · rw [if_neg pending]
    exact ⟨rfl, fun _ _ => rfl⟩

theorem request_conforms_iff (sound : memory.Sound)
    {resolve : Option RinarpHandle → GpaId → FlowCommand Bool} {resolved : Prop}
    (resolution : ∀ pxAppHandle destination flow, call.pxData = some pxAppHandle →
      call.pxDestinationInfo = some destination →
        Resolution (resolve pxAppHandle memory.cache.gpas.next)
          (memory.link (withDestination memory.cache destination) flow) resolved) :
    Conforms memory call.xPortId ((flowAllocateRequest resolve outcomes call).run memory) ↔
      Refused call ∨ Settles resolved memory outcomes call.xPortId := by
  have unchanged : Conforms memory call.xPortId (.ok false memory) := ⟨rfl, fun _ _ => rfl⟩
  rw [flowAllocateRequest]
  cases data : call.pxData with
  | none => exact iff_of_true unchanged (.inl (.inl data))
  | some pxAppHandle =>
      cases source : call.pxSourceInfo with
      | none => exact iff_of_true unchanged (.inl (.inr (.inl source)))
      | some pxSourceInfo =>
          cases destination : call.pxDestinationInfo with
          | none => exact iff_of_true unchanged (.inl (.inr (.inr (.inl destination))))
          | some pxDestinationInfo =>
              cases port : isPortIdOk call.xPortId with
              | false => exact iff_of_true unchanged (.inl (.inr (.inr (.inr port))))
              | true =>
                  have accepted : ¬ Refused call := by
                    simp [Refused, data, source, destination, port]
                  have created := @createFlow_conforms_iff memory outcomes resolved sound
                    (resolve pxAppHandle) call.xPortId pxDestinationInfo
                    fun flow => resolution _ _ flow data destination
                  simp only [accepted, false_or, Bool.not_true, Bool.false_eq_true, if_false,
                    Settles]
                  cases scratch : outcomes.scratch with
                  | false =>
                      have missed : (prvShimFindFlowByPortId false call.xPortId).run memory =
                          .ok none memory := rfl
                      rw [run_bind_ok missed]
                      exact created.trans (by simp)
                  | true =>
                      have walked : (prvShimFindFlowByPortId true call.xPortId).run memory = _ :=
                        run_findFlowFrom sound.live
                      rw [run_bind_ok walked]
                      cases here : memory.xShimFlowsList.find?
                          fun pxFlow => memory.port pxFlow == some call.xPortId with
                      | none =>
                          have none : memory.withPort call.xPortId = [] :=
                            List.filter_eq_nil_iff.mpr (List.find?_eq_none.mp here)
                          exact created.trans (by simp [none])
                      | some pxFlow =>
                          have meets := List.find?_some here
                          have member : pxFlow ∈ memory.withPort call.xPortId :=
                            List.mem_filter.mpr ⟨List.mem_of_find?_eq_some here, meets⟩
                          obtain ⟨flow, found⟩ :=
                            sound.live pxFlow (List.mem_of_find?_eq_some here)
                          exact iff_of_true (found_conforms sound member found)
                            (.inl ⟨rfl, List.ne_nil_of_mem member⟩)

/-- The application is registered, and a request for the address of the destination is sent. -/
def WifiResolves (memory : Memory) (outcomes : Outcomes) (call : Call) : Prop :=
  ∃ pxAppHandle destination, call.pxData = some pxAppHandle ∧
    call.pxDestinationInfo = some destination ∧
    Resolves outcomes.arp (withDestination memory.cache destination) pxAppHandle
      ⟨some (Name.formatted destination.texts)⟩

theorem wifi_request_iff (sound : memory.Sound) (outcomes : Outcomes) (call : Call) :
    Conforms memory call.xPortId ((xShimFlowAllocateRequest outcomes call).run memory) ↔
      Refused call ∨ Settles (WifiResolves memory outcomes call) memory outcomes call.xPortId := by
  refine request_conforms_iff sound fun pxAppHandle destination flow data named => ?_
  have ok : xIsGpaOk (some ⟨some (Name.formatted destination.texts)⟩) = true := by
    simp [xIsGpaOk, Gpa.uxLength, Name.formatted]
  have resolution := @resolution_arp outcomes.arp memory.cache.gpas.next _
    (memory.link (withDestination memory.cache destination) flow)
    (Store.get?_allocate_new memory.cache.gpas _) ok pxAppHandle
  have same : WifiResolves memory outcomes call ↔
      Resolves outcomes.arp (withDestination memory.cache destination) pxAppHandle
        ⟨some (Name.formatted destination.texts)⟩ := by
    constructor
    · rintro ⟨other, another, otherData, otherNamed, resolves⟩
      obtain rfl := Option.some.inj (otherData.symm.trans data)
      obtain rfl := Option.some.inj (otherNamed.symm.trans named)
      exact resolves
    · exact fun resolves => ⟨pxAppHandle, destination, data, named, resolves⟩
  rw [propext same]
  exact resolution

theorem ieee802154_request_iff (sound : memory.Sound) (outcomes : Outcomes) (call : Call) :
    Conforms memory call.xPortId ((xShim802154FlowAllocateRequest outcomes call).run memory) ↔
      Refused call ∨ Settles True memory outcomes call.xPortId :=
  request_conforms_iff sound fun _ _ _ _ _ => .inl ⟨trivial, _, rfl⟩

/-- Requests of both shims on every sound list. -/
theorem flow_requests_iff (memory : { memory : Memory // memory.Sound }) (outcomes : Outcomes)
    (call : Call) :
    (Conforms memory.val call.xPortId ((xShimFlowAllocateRequest outcomes call).run memory.val) ↔
      Refused call ∨
        Settles (WifiResolves memory.val outcomes call) memory.val outcomes call.xPortId) ∧
    (Conforms memory.val call.xPortId
        ((xShim802154FlowAllocateRequest outcomes call).run memory.val) ↔
      Refused call ∨ Settles True memory.val outcomes call.xPortId) :=
  ⟨wifi_request_iff memory.property outcomes call,
    ieee802154_request_iff memory.property outcomes call⟩

/-- The list stays sound as long as requests conform. -/
theorem sound_of_conforms (sound : memory.Sound) {xPortId : PortId} {value : Bool} {after : Memory}
    (conforms : Conforms memory xPortId (.ok value after)) : after.Sound := by
  cases value with
  | true => exact conforms.1
  | false =>
      obtain ⟨list, kept⟩ := conforms
      have ports : ∀ xPortId, after.withPort xPortId = memory.withPort xPortId := by
        intro xPortId
        rw [Memory.withPort, list]
        refine List.filter_congr fun pxFlow member => ?_
        rw [Memory.port, kept pxFlow member, Memory.port]
      constructor
      · intro pxFlow member
        rw [list] at member
        rw [kept pxFlow member]
        exact sound.live pxFlow member
      · intro xPortId
        rw [ports]
        exact sound.single xPortId

end Requests

/-- The list of `vShimFlowListInit`. -/
def initialMemory (cache : ArpCache) : Memory where
  cache := cache
  flows := .empty
  xShimFlowsList := []

theorem sound_initialMemory (cache : ArpCache) : (initialMemory cache).Sound where
  live := nofun
  single := fun _ => Nat.zero_le _

/-- Everything is there but the queue. -/
def queueless : Outcomes where
  scratch := true
  flow := some ⟨true, true⟩
  text := true
  gpa := true
  address := true
  fifo := true
  queue := false
  arp := .all

/-- A request for the port 1 from an application that is registered. -/
def firstCall : Call where
  pxData := some (some ⟨0, 0⟩)
  pxSourceInfo := some ⟨some [97], none, none, none⟩
  pxDestinationInfo := some ⟨some [98], none, none, none⟩
  xPortId := 1

theorem not_settled_queueless (resolved : Prop) (cache : ArpCache) :
    ¬ (Refused firstCall ∨ Settles resolved (initialMemory cache) queueless 1) := by
  rintro (refused | found | absent | ⟨-, -, gpa⟩ | ⟨-, -, -, -, -, queue, -⟩)
  · rcases refused with none | none | none | wrong
    · cases none
    · cases none
    · cases none
    · cases wrong
  · exact found.2 rfl
  · cases absent
  · cases gpa
  · cases queue

/-- No address is in memory. -/
def noAddresses : ArpCache where
  gpas := .empty
  ghas := .empty
  xArpCache := []

/-- Both shims leave the destroyed flow linked. -/
theorem destroyed_flow_linked :
    (initialMemory noAddresses).Sound ∧
      ¬ Conforms (initialMemory noAddresses) 1
        ((xShimFlowAllocateRequest queueless firstCall).run (initialMemory noAddresses)) ∧
      ¬ Conforms (initialMemory noAddresses) 1
        ((xShim802154FlowAllocateRequest queueless firstCall).run (initialMemory noAddresses)) := by
  have sound := sound_initialMemory noAddresses
  refine ⟨sound, fun conforms => ?_, fun conforms => ?_⟩
  · exact not_settled_queueless _ noAddresses
      ((wifi_request_iff sound queueless firstCall).mp conforms)
  · exact not_settled_queueless _ noAddresses
      ((ieee802154_request_iff sound queueless firstCall).mp conforms)

end FlowAllocation

end RinaSense
