import RinaSense.Ipcp.FlowRequest
import RinaSense.Ipcp.DuRoundTrip
import RinaSense.Library.SlotTable

/-!
# The flow request table

What the table is for: every registered flow is found again under its port, by
all three lookups, and a flow that could not be registered is not lost in
silence. The module determines the sequences of registrations that keep to this.
-/

namespace RinaSense

/-- `FLOWS_REQUEST`. -/
def flowsRequest : Nat := 5

def pxFAFindFlowHandle (xPortId : PortId) : Rina (Option HandleId) := do
  let pxFAI ← pxFAFindInstance xPortId
  return pxFAI.map FlowAllocatorInstance.pxFlowAllocatorHandle

/-- The same loop once more. -/
def prvGetPendingFlowRequest (xPortId : PortId) : Rina (Option HandleId) := do
  let pxFAI ← pxFAFindInstance xPortId
  return pxFAI.map FlowAllocatorInstance.pxFlowAllocatorHandle

/-- The table after a sequence of registrations, beginning with the cleared
table. -/
def registered (requests : List FlowAllocatorInstance) : List FlowRequestRow :=
  requests.foldl (fun table pxFAI => prvAddFlowRequestEntry pxFAI table)
    (List.replicate flowsRequest { pxFAI := none, xValid := false })

/-- A node on which these requests were registered, in this order. -/
def Node.afterRequests (node : Node) (requests : List FlowAllocatorInstance) : Node :=
  { node with core := { node.core with xFlowRequestTable := registered requests } }

/-- The instances in the rows in use. -/
def storedInstances (table : List FlowRequestRow) : List FlowAllocatorInstance :=
  (table.filter FlowRequestRow.xValid).filterMap FlowRequestRow.pxFAI

/-! ## Purpose -/

/-- A lookup returns what was registered for the port, and nothing exactly if
nothing was. -/
def Finds {α : Type} (result : EStateM.Result Fault Node (Option α)) (node : Node)
    (requests : List FlowAllocatorInstance) (image : FlowAllocatorInstance → α)
    (xPortId : PortId) : Prop :=
  match result with
  | .ok (some found) next =>
      next = node ∧ ∃ request ∈ requests, request.xPortId = xPortId ∧ found = image request
  | .ok none next => next = node ∧ ∀ request ∈ requests, request.xPortId ≠ xPortId
  | .error _ _ => False

/-- `prvAddFlowRequestEntry` returns nothing, so no registration may be dropped. -/
structure ServesRequests (node : Node) (requests : List FlowAllocatorInstance) : Prop where
  kept : storedInstances node.core.xFlowRequestTable = requests
  findInstance : ∀ xPortId,
    Finds ((pxFAFindInstance xPortId).run node) node requests id xPortId
  findFlowHandle : ∀ xPortId,
    Finds ((pxFAFindFlowHandle xPortId).run node) node requests
      FlowAllocatorInstance.pxFlowAllocatorHandle xPortId
  getPendingFlowRequest : ∀ xPortId,
    Finds ((prvGetPendingFlowRequest xPortId).run node) node requests
      FlowAllocatorInstance.pxFlowAllocatorHandle xPortId

/-! ## Registration -/

theorem prvAddFlowRequestEntry_eq (pxFAI : FlowAllocatorInstance) (table : List FlowRequestRow) :
    prvAddFlowRequestEntry pxFAI table =
      SlotTable.insert (fun row => !row.xValid) { pxFAI := some pxFAI, xValid := true } table := by
  induction table with
  | nil => rfl
  | cons row rows ih =>
      simp only [prvAddFlowRequestEntry, SlotTable.insert, ih, Bool.not_eq_true']

/-- The first five requests are stored, the others are not. -/
theorem registered_eq (requests : List FlowAllocatorInstance) :
    registered requests =
      SlotTable.filled { pxFAI := none, xValid := false }
        ((requests.take flowsRequest).map fun pxFAI => { pxFAI := some pxFAI, xValid := true })
        (flowsRequest - requests.length) := by
  have stored := @SlotTable.foldl_insert FlowRequestRow (fun row => !row.xValid)
    { pxFAI := none, xValid := false } rfl
    (requests.map fun pxFAI => { pxFAI := some pxFAI, xValid := true }) [] flowsRequest
    (fun _ member => absurd member List.not_mem_nil)
    (fun row member => by
      obtain ⟨pxFAI, _, rfl⟩ := List.mem_map.mp member
      rfl)
  rw [List.foldl_map, List.nil_append, List.length_map, ← List.map_take] at stored
  rw [registered, ← stored]
  simp only [prvAddFlowRequestEntry_eq]
  rfl

theorem storedInstances_registered (requests : List FlowAllocatorInstance) :
    storedInstances (registered requests) = requests.take flowsRequest := by
  rw [storedInstances, registered_eq, SlotTable.filled, List.filter_append]
  have blank (room : Nat) : (List.replicate room
      { pxFAI := none, xValid := false : FlowRequestRow }).filter FlowRequestRow.xValid = [] := by
    rw [List.filter_replicate]
    rfl
  rw [blank, List.append_nil, List.filter_map, List.filterMap_map]
  have valid : (FlowRequestRow.xValid ∘ fun pxFAI : FlowAllocatorInstance =>
      ({ pxFAI := some pxFAI, xValid := true } : FlowRequestRow)) = fun _ => true := rfl
  rw [valid, List.filter_true]
  exact List.filterMap_some

/-! ## Lookups -/

section Lookups

variable {node : Node} {requests : List FlowAllocatorInstance}

/-- All lookups compare the first request only. -/
theorem run_pxFAFindInstance_registered (node : Node) (requests : List FlowAllocatorInstance)
    (xPortId : PortId) :
    (pxFAFindInstance xPortId).run (node.afterRequests requests) =
      .ok (requests.head?.filter fun pxFAI => pxFAI.xPortId = xPortId)
        (node.afterRequests requests) := by
  have lookup : (pxFAFindInstance xPortId).run (node.afterRequests requests) =
      (findInstanceFrom ((registered requests).head?.bind FlowRequestRow.pxFAI) xPortId
        (registered requests)).run (node.afterRequests requests) := by
    simp only [pxFAFindInstance, EStateM.run_bind, run_readCore]
    rfl
  rw [lookup]
  cases requests with
  | nil =>
      apply run_findInstanceFrom_none
      intro row member
      rw [List.eq_of_mem_replicate member]
  | cons first rest =>
      have rows : registered (first :: rest) =
          { pxFAI := some first, xValid := true } ::
            (registered (first :: rest)).tail := by
        rw [registered_eq]
        rfl
      have valid : ¬ ∀ row ∈ registered (first :: rest), row.xValid = false := by
        intro invalid
        rw [rows] at invalid
        exact Bool.noConfusion (invalid _ List.mem_cons_self)
      rw [run_findInstanceFrom valid, rows]
      simp only [List.head?_cons, Option.bind_some, Option.filter_some]
      by_cases same : first.xPortId = xPortId
      · simp only [same, if_true, decide_true]
      · simp only [same, if_false, decide_false, Bool.false_eq_true]

/-- With the ports all equal the first request speaks for every one. -/
theorem finds_head {α : Type} {image : FlowAllocatorInstance → α}
    (same : ∀ one ∈ requests, ∀ other ∈ requests, one.xPortId = other.xPortId)
    (xPortId : PortId) :
    Finds (.ok ((requests.head?.filter fun pxFAI => pxFAI.xPortId = xPortId).map image) node) node
      requests image xPortId := by
  cases requests with
  | nil => exact ⟨rfl, fun _ member => absurd member List.not_mem_nil⟩
  | cons first rest =>
      by_cases port : first.xPortId = xPortId
      · simp only [List.head?_cons, Option.filter_some, port, decide_true, if_true,
          Option.map_some, Finds]
        exact ⟨trivial, first, List.mem_cons_self, port, rfl⟩
      · simp only [List.head?_cons, Option.filter_some, port, decide_false, Bool.false_eq_true,
          if_false, Option.map_none, Finds]
        refine ⟨trivial, fun request member equal => port ?_⟩
        rw [same first List.mem_cons_self request member, equal]

/-- If the first request is what is found for a port, it is a request of that
port. -/
theorem same_port_of_finds
    (finds : ∀ xPortId, Finds (.ok (requests.head?.filter fun pxFAI => pxFAI.xPortId = xPortId) node)
      node requests id xPortId)
    {first request : FlowAllocatorInstance} (head : requests.head? = some first)
    (member : request ∈ requests) : first.xPortId = request.xPortId := by
  have found := finds request.xPortId
  by_cases port : first.xPortId = request.xPortId
  · exact port
  · simp only [head, Option.filter_some, port, decide_false, Bool.false_eq_true, if_false,
      Finds] at found
    exact absurd rfl (found.2 request member)

end Lookups

/-- A sequence of registrations is served if and only if it fits into the table
and all its requests are for one port. -/
theorem registrations_served_iff (node : Node) (requests : List FlowAllocatorInstance) :
    ServesRequests (node.afterRequests requests) requests ↔
      requests.length ≤ flowsRequest ∧
        ∀ one ∈ requests, ∀ other ∈ requests, one.xPortId = other.xPortId := by
  have found := run_pxFAFindInstance_registered node requests
  constructor
  · intro serves
    have kept : (storedInstances (registered requests)) = requests := serves.kept
    rw [storedInstances_registered, List.take_eq_self_iff] at kept
    have finds := serves.findInstance
    simp only [found] at finds
    refine ⟨kept, fun one first other second => ?_⟩
    cases head : requests.head? with
    | none =>
        rw [List.head?_eq_none_iff.mp head] at first
        exact absurd first List.not_mem_nil
    | some request =>
        exact (same_port_of_finds finds head first).symm.trans
          (same_port_of_finds finds head second)
  · intro ⟨fits, same⟩
    constructor
    · change storedInstances (registered requests) = requests
      rw [storedInstances_registered, List.take_of_length_le fits]
    · intro xPortId
      have finds := @finds_head (node.afterRequests requests) requests _ id same xPortId
      rw [Option.map_id] at finds
      rw [found]
      exact finds
    · intro xPortId
      simp only [pxFAFindFlowHandle, EStateM.run_bind, found]
      exact finds_head same xPortId
    · intro xPortId
      simp only [prvGetPendingFlowRequest, EStateM.run_bind, found]
      exact finds_head same xPortId

/-- Two flows that are registered one after the other. -/
def twoRequests : List FlowAllocatorInstance :=
  [{ xPortId := 1, eFaiState := .none, pxFlowAllocatorHandle := 0 },
    { xPortId := 2, eFaiState := .none, pxFlowAllocatorHandle := 1 }]

/-- The second is found by no lookup. -/
theorem second_flow_not_found :
    ¬ ServesRequests (Node.blank.afterRequests twoRequests) twoRequests := by
  intro serves
  have missed := serves.findInstance 2
  rw [run_pxFAFindInstance_registered] at missed
  exact absurd (missed.2 _ (List.mem_cons_of_mem _ List.mem_cons_self)) (by decide)

end RinaSense
