import RinaSense.Common.RsList
import RinaSense.Ipcp.Du

/-!
# Flow allocator instances

The lookups in `xFlowRequestTable` and the delivery of received data units to the
application, as in `flowAllocator.c`.
-/

namespace RinaSense

/-- The loop over the rows. Whatever row is valid, the instance compared is the
one of the first row, `head`. -/
def findInstanceFrom (head : Option FlowAllocatorInstance) (xPortId : PortId) :
    List FlowRequestRow → Rina (Option FlowAllocatorInstance)
  | [] => return none
  | row :: rows => do
      if row.xValid then
        let pxFAI ← follow head
        if pxFAI.xPortId = xPortId then return some pxFAI
        else findInstanceFrom head xPortId rows
      else findInstanceFrom head xPortId rows

def pxFAFindInstance (xPortId : PortId) : Rina (Option FlowAllocatorInstance) := do
  let table := (← readCore).xFlowRequestTable
  findInstanceFrom (table.head?.bind FlowRequestRow.pxFAI) xPortId table

section Lookup

variable {node : Node} {head : Option FlowAllocatorInstance} {xPortId : PortId}

/-- Without a valid row nothing is found. -/
theorem run_findInstanceFrom_none {rows : List FlowRequestRow}
    (invalid : ∀ row ∈ rows, row.xValid = false) :
    (findInstanceFrom head xPortId rows).run node = .ok none node := by
  induction rows with
  | nil => rfl
  | cons row rows ih =>
      have first := invalid row List.mem_cons_self
      simp only [findInstanceFrom, first, Bool.false_eq_true, if_false]
      exact ih fun other member => invalid other (List.mem_cons_of_mem _ member)

/-- With a valid row the first instance decides, whatever row is valid. -/
theorem run_findInstanceFrom {rows : List FlowRequestRow}
    (valid : ¬ ∀ row ∈ rows, row.xValid = false) :
    (findInstanceFrom head xPortId rows).run node =
      match head with
      | some fai => .ok (if fai.xPortId = xPortId then some fai else none) node
      | none => .error .nullPointer node := by
  induction rows with
  | nil => exact absurd (by simp) valid
  | cons row rows ih =>
      cases first : row.xValid with
      | false =>
          simp only [findInstanceFrom, first, Bool.false_eq_true, if_false]
          apply ih
          intro invalid
          apply valid
          intro other member
          rcases List.mem_cons.mp member with rfl | member
          · exact first
          · exact invalid other member
      | true =>
          cases head with
          | none => simp [findInstanceFrom, first]
          | some fai =>
              by_cases same : fai.xPortId = xPortId
              · simp [findInstanceFrom, first, same]
              · simp only [findInstanceFrom, first, if_true, EStateM.run_bind, run_follow_some,
                  same, if_false]
                by_cases more : ∀ row ∈ rows, row.xValid = false
                · exact run_findInstanceFrom_none more
                · exact (ih more).trans (by simp only [same, if_false])

end Lookup

def readHandle (handle : HandleId) : Rina FlowAllocateHandle := do
  match (← get).handles.get? handle with
  | some value => pure value
  | none => throw .released

/-- A handle with one more buffer waiting and the application woken up. -/
def FlowAllocateHandle.post (handle : FlowAllocateHandle) (pxNetworkBuffer : BufferId) :
    FlowAllocateHandle :=
  { handle with
    xListWaitingPackets := vRsListInsert handle.xListWaitingPackets pxNetworkBuffer
    eFlowReceive := true }

/-- The node after a buffer was queued for an application. -/
def Node.post (node : Node) (handle : HandleId) (value : FlowAllocateHandle)
    (pxNetworkBuffer : BufferId) : Node :=
  { node with handles := node.handles.set handle (value.post pxNetworkBuffer) }

/-- Queue a network buffer for the application. -/
def postToHandle (handle : HandleId) (pxNetworkBuffer : BufferId) : Rina Unit := do
  let value ← readHandle handle
  modify fun node => node.post handle value pxNetworkBuffer

/-- Only the buffer is queued; the data unit around it stays allocated. -/
def xFlowAllocatorDuPost (xAppPortId : PortId) (pxDu : DuId) : Rina Bool := do
  let du ← readDu pxDu
  if !xDuIsOk du || !isPortIdOk xAppPortId then
    let _ ← xDuDestroy pxDu
    return false
  match ← pxFAFindInstance xAppPortId with
  | none =>
      let _ ← xDuDestroy pxDu
      return false
  | some pxFlowAllocatorInstance =>
      let pxNetworkBuffer ← follow du.pxNetworkBuffer
      if pxFlowAllocatorInstance.eFaiState ≠ .allocated then
        let _ ← xDuDestroy pxDu
        return false
      postToHandle pxFlowAllocatorInstance.pxFlowAllocatorHandle pxNetworkBuffer
      return true

end RinaSense
