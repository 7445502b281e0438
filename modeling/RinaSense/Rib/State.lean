import RinaSense.Library.SlotTable
import RinaSense.Rib.Cdap
import RinaSense.Rib.FlowMessage
import RinaSense.Rib.SerdesMsg

/-!
# The state of the RIB daemon

The tables of `ribd.c`, `rib.c` and `enrollment.c`, the counter of invoke ids, and
two records of what was done: the messages handed to the RMT and the calls of
handlers, by the address of the callback or `none` for a call of what is none. A row
holds what its pointer points to; a slot not in use is `none`.
-/

namespace RinaSense

open Command

/-! ## Tables -/

/-- `connectionStatus_t`. -/
inductive ConnectionStatus where
  | inProgress
  | connected
  | released
  deriving Repr, DecidableEq

/-- `appConnection_t`. -/
structure AppConnection where
  pxSourceInfo : NameInfo (Pointer String)
  pxDestinationInfo : NameInfo (Pointer String)
  uCdapVersion : UInt8
  uRibVersion : UInt8
  xStatus : ConnectionStatus
  deriving Repr, DecidableEq

/-- `appConnectionTableRow_t`. -/
structure AppConnectionRow where
  pxAppConnection : AppConnection
  xN1portId : PortId
  deriving Repr, DecidableEq

/-- `struct ribCallbackOps_t`. Each field has one handler it can be set to; the value
says whether it holds it. -/
structure RibCallbackOps where
  startResponse : Bool
  stopResponse : Bool
  createResponse : Bool
  deriving Repr, DecidableEq

/-- The operations at their address. -/
structure RibCallback where
  address : Nat
  ops : RibCallbackOps
  deriving Repr, DecidableEq

/-- `responseHandlersRow_t`. -/
structure ResponseHandlersRow where
  invokeID : Int
  pxCallbackHandler : RibCallback
  deriving Repr, DecidableEq

/-- The functions a `start` operation can be set to. -/
inductive StartOperation where
  | enroller
  | operationalStart
  deriving Repr, DecidableEq

/-- `struct ribObjOps_t`. The operation `create` is never called; the other two have
one function they can be set to. -/
structure RibObjOps where
  start : Option StartOperation
  stop : Bool
  delete : Bool
  deriving Repr, DecidableEq

/-- `struct ribObject_t`. The class is never set and the displayable value never
read. -/
structure RibObject where
  pxObjOps : RibObjOps
  ucObjName : String
  ulObjInst : Int
  deriving Repr, DecidableEq

/-- `enrollmentState_t`. -/
inductive EnrollmentState where
  | none
  | inProgress
  | enrolled
  deriving Repr, DecidableEq

/-- `neighborInfo_t`. -/
structure NeighborInfo where
  eEnrollmentState : EnrollmentState
  pcApName : String
  xN1Port : PortId
  xNeighborAddress : Address
  pcToken : Pointer String
  deriving Repr, DecidableEq

structure RibState where
  invokeId : Int
  callbacks : Nat
  xAppConnectionTable : List (Option AppConnectionRow)
  xPendingResponseHandlersTable : List (Option ResponseHandlersRow)
  xRibObjectTable : List (Option RibObject)
  xNeighborsTable : List (Option NeighborInfo)
  sent : List (PortId × List UInt8)
  invoked : List (Option Nat)
  deriving Repr, DecidableEq

def appConnectionTableSize : Nat := 5
def responseHandlerTableSize : Nat := 10
def ribTableSize : Nat := 10
def neighborTableSize : Nat := 5

/-- Before anything is registered. -/
def RibState.initial : RibState where
  invokeId := 1
  callbacks := 0
  xAppConnectionTable := List.replicate appConnectionTableSize none
  xPendingResponseHandlersTable := List.replicate responseHandlerTableSize none
  xRibObjectTable := List.replicate ribTableSize none
  xNeighborsTable := List.replicate neighborTableSize none
  sent := []
  invoked := []

abbrev Rib := EStateM Fault RibState

/-- The codecs of the messages the daemon sends and receives. -/
structure RibCodecs where
  cdap : Codec CdapMessage
  enrollment : Codec EnrollmentInformation
  neighbor : Codec WireNeighbor
  aData : Codec WireAData
  flow : Codec FlowMessage

/-- What one call depends on besides its arguments and the state: whether the network
buffer for the message it sends is obtained, what new structures hold before they are
set, and what the flow allocator makes of a flow answer. -/
structure RibOutcomes where
  bufferObtained : Bool
  message : MessageCdap
  nested : MessageCdap
  aData : ADataMsg
  enrollment : EnrollmentMessage
  neighbor : NeighborMessage
  connection : AppConnection
  callback : RibCallbackOps
  objOps : RibObjOps
  flowAnswered : Bool

/-- A buffer is obtained and all memory happens to be clear. -/
def RibOutcomes.clear : RibOutcomes where
  bufferObtained := true
  message := { prvRibMessageCdapInit with eOpCode := 0, objInst := 0, invokeID := 0, version := 0 }
  nested := { prvRibMessageCdapInit with eOpCode := 0, objInst := 0, invokeID := 0, version := 0 }
  aData := { xSourceAddress := 0, xDestinationAddress := 0, pxMsgCdap := .null }
  enrollment :=
    { ullAddress := 0, pcSupportingDifs := .null, xStartEarly := false, pcToken := .null }
  neighbor :=
    { pcApName := .null
      pcApInstance := .null
      pcAeName := .null
      pcAeInstance := .null
      ullAddress := 0
      pcSupportingDifs := .null }
  connection :=
    { pxSourceInfo :=
        { pcProcessName := .null
          pcProcessInstance := .null
          pcEntityName := .null
          pcEntityInstance := .null }
      pxDestinationInfo :=
        { pcProcessName := .null
          pcProcessInstance := .null
          pcEntityName := .null
          pcEntityInstance := .null }
      uCdapVersion := 0
      uRibVersion := 0
      xStatus := .inProgress }
  callback := { startResponse := false, stopResponse := false, createResponse := false }
  objOps := { start := none, stop := false, delete := false }
  flowAnswered := false

/-! ## Searching by a name -/

/-- The loop of `pxRibFindObject` and `pxEnrollmentFindNeighbor`: the name is compared
with that of each row in use. -/
def findNamed {α : Type} (nameOf : α → String) (name : Pointer String) :
    List (Option α) → Except Fault (Option α)
  | [] => return none
  | none :: rows => findNamed nameOf name rows
  | some row :: rows => do
      let text ← name.read
      if nameOf row = text then return some row else findNamed nameOf name rows

section FindNamed

variable {α : Type} {nameOf : α → String}

theorem findNamed_target (text : String) (rows : List (Option α)) :
    findNamed nameOf (.target text) rows =
      .ok (SlotTable.find (fun row => nameOf row = text) rows) := by
  induction rows with
  | nil => rfl
  | cons row rows ih =>
      cases row with
      | none => exact ih
      | some first =>
          simp only [findNamed, Pointer.read_target, ok_bind, SlotTable.find, decide_eq_true_eq]
          split
          · rfl
          · exact ih

/-- The name can be printed, and compared with the names of the rows if there are any. -/
def CanFind (name : Pointer String) (rows : List (Option α)) : Prop :=
  match name with
  | .target _ => True
  | .null => SlotTable.rows rows = []
  | .stray => False

/-- The first row of a name. -/
def findRow (nameOf : α → String) (name : Pointer String) (rows : List (Option α)) : Option α :=
  match name with
  | .target text => SlotTable.find (fun row => nameOf row = text) rows
  | _ => none

theorem findNamed_null (rows : List (Option α)) :
    findNamed nameOf .null rows =
      if SlotTable.rows rows = [] then .ok none else .error .nullPointer := by
  induction rows with
  | nil => rfl
  | cons row rows ih =>
      cases row with
      | none => exact ih
      | some first => rfl

theorem findNamed_of_canFind (nameOf : α → String) {name : Pointer String}
    {rows : List (Option α)} (can : CanFind name rows) :
    (do name.log; findNamed nameOf name rows) = .ok (findRow nameOf name rows) := by
  cases name with
  | target text => exact findNamed_target text rows
  | stray => exact can.elim
  | null =>
      simp only [Pointer.log_null, ok_bind, findNamed_null]
      exact if_pos can

theorem findNamed_of_not_canFind (nameOf : α → String) {name : Pointer String}
    {rows : List (Option α)} (cannot : ¬ CanFind name rows) :
    ∃ fault, (do name.log; findNamed nameOf name rows) = .error fault := by
  cases name with
  | target text => exact absurd trivial cannot
  | stray => exact ⟨_, rfl⟩
  | null =>
      simp only [Pointer.log_null, ok_bind, findNamed_null]
      exact ⟨_, if_neg cannot⟩

/-- The search in a table of the state. -/
theorem run_findNamed (nameOf : α → String) (table : RibState → List (Option α))
    (name : Pointer String) (state : RibState) :
    (do name.log; let state ← get; findNamed nameOf name (table state) : Rib (Option α)).run
        state =
      match (do name.log; findNamed nameOf name (table state) : Except Fault (Option α)) with
      | .ok row => .ok row state
      | .error fault => .error fault state := by
  cases name with
  | stray => rfl
  | null =>
      simp only [Pointer.log_null, EStateM.run_bind, EStateM.run_get, run_lift, ok_bind]
      cases findNamed nameOf .null (table state) <;> rfl
  | target text =>
      simp only [Pointer.log_target, EStateM.run_bind, EStateM.run_get, run_lift, ok_bind]
      cases findNamed nameOf (.target text) (table state) <;> rfl

end FindNamed

/-! ## Invoke ids and callbacks -/

/-- `INT_MAX`. -/
def intMax : Int := 2147483647

/-- `get_next_invoke_id`. -/
def getNextInvokeId : Rib Int := do
  let state ← get
  if state.invokeId % intMax = 0 then
    set { state with invokeId := 1 }
    return 1
  else
    set { state with invokeId := state.invokeId + 1 }
    return state.invokeId

/-- The id that is taken next and the counter after that. -/
def RibState.takenInvokeId (state : RibState) : Int :=
  if state.invokeId % intMax = 0 then 1 else state.invokeId

def RibState.followingInvokeId (state : RibState) : Int :=
  if state.invokeId % intMax = 0 then 1 else state.invokeId + 1

theorem run_getNextInvokeId (state : RibState) :
    getNextInvokeId.run state =
      .ok state.takenInvokeId { state with invokeId := state.followingInvokeId } := by
  rw [getNextInvokeId, RibState.takenInvokeId, RibState.followingInvokeId, EStateM.run_bind,
    EStateM.run_get]
  by_cases wrapped : state.invokeId % intMax = 0
  · simp only [wrapped, if_true]
    rfl
  · simp only [wrapped, if_false]
    rfl

/-- One field of a new structure is set, the others are as the memory had them. -/
def pxRibdCreateCdapCallback (left : RibCallbackOps) (xOpCode : OpCode) : Rib RibCallback := do
  let state ← get
  set { state with callbacks := state.callbacks + 1 }
  let ops :=
    match xOpCode with
    | .start => { left with startResponse := true }
    | .stop => { left with stopResponse := true }
    | .create => { left with createResponse := true }
    | _ => left
  return { address := state.callbacks, ops }

def vRibdAddResponseHandler (invokeID : Int) (pxCb : Option RibCallback) : Rib Unit := do
  match pxCb with
  | none => return ()
  | some pxCallbackHandler =>
      modify fun state =>
        { state with
          xPendingResponseHandlersTable :=
            SlotTable.add { invokeID, pxCallbackHandler } state.xPendingResponseHandlersTable }

def pxRibdFindPendingResponseHandler (invokeID : Int) : Rib (Option RibCallback) := do
  let state ← get
  return (SlotTable.find (fun row => row.invokeID = invokeID)
    state.xPendingResponseHandlersTable).map (·.pxCallbackHandler)

def recordCall (call : Option Nat) : Rib Unit :=
  modify fun state => { state with invoked := state.invoked ++ [call] }

/-- Call a handler of a callback. Without a callback, or where the field was never set,
the call goes anywhere. -/
def callHandler (field : RibCallbackOps → Bool) (pxCallback : Option RibCallback) : Rib Unit := do
  match pxCallback with
  | none =>
      recordCall none
      throw .nullPointer
  | some pxCallback =>
      if field pxCallback.ops then recordCall (some pxCallback.address)
      else
        recordCall none
        throw .released

/-! ## Connections -/

def pxRibdFindAppConnection (xPortId : PortId) : Rib (Option AppConnection) := do
  let state ← get
  return (SlotTable.find (fun row => row.xN1portId = xPortId)
    state.xAppConnectionTable).map (·.pxAppConnection)

/-- Change the connection `pxRibdFindAppConnection` finds. -/
def changeAppConnection (xPortId : PortId) (change : AppConnection → AppConnection) : Rib Unit :=
  modify fun state =>
    { state with
      xAppConnectionTable :=
        SlotTable.update (fun row => row.xN1portId = xPortId)
          (fun row => { row with pxAppConnection := change row.pxAppConnection })
          state.xAppConnectionTable }

def vRibdAddAppConnectionEntry (pxAppConnectionToAdd : AppConnection) (xPortId : PortId) :
    Rib Unit :=
  modify fun state =>
    { state with
      xAppConnectionTable :=
        SlotTable.add { pxAppConnection := pxAppConnectionToAdd, xN1portId := xPortId }
          state.xAppConnectionTable }

/-- One of the two names of a new connection. The process name is stored as the
entity instance, over the one stored before. -/
def createName (left name : NameInfo (Pointer String)) :
    Except Fault (NameInfo (Pointer String)) := do
  let _ ← name.pcEntityInstance.read
  let pcEntityName ← name.pcEntityName.read
  let pcProcessInstance ← name.pcProcessInstance.read
  let pcProcessName ← name.pcProcessName.read
  return {
    pcProcessName := left.pcProcessName
    pcProcessInstance := .target pcProcessInstance
    pcEntityName := .target pcEntityName
    pcEntityInstance := .target pcProcessName }

def prvRibCreateConnection (left : AppConnection) (pxSource pxDestInfo : NameInfo (Pointer String)) :
    Except Fault AppConnection := do
  let pxSourceInfo ← createName left.pxSourceInfo pxSource
  let pxDestinationInfo ← createName left.pxDestinationInfo pxDestInfo
  return {
    pxSourceInfo
    pxDestinationInfo
    uCdapVersion := 1
    uRibVersion := 1
    xStatus := .inProgress }

/-! ## Objects -/

/-- `eObjectType_t`. -/
inductive ObjectType where
  | enrollment
  | flowAllocator
  | operational
  | flow
  deriving Repr, DecidableEq

def pxRibFindObject (ucRibObjectName : Pointer String) : Rib (Option RibObject) := do
  ucRibObjectName.log
  let state ← get
  findNamed RibObject.ucObjName ucRibObjectName state.xRibObjectTable

theorem run_findObject {name : Pointer String} {state : RibState}
    (can : CanFind name state.xRibObjectTable) :
    (pxRibFindObject name).run state =
      .ok (findRow RibObject.ucObjName name state.xRibObjectTable) state := by
  rw [pxRibFindObject, run_findNamed _ RibState.xRibObjectTable, findNamed_of_canFind _ can]

theorem run_findObject_fault {name : Pointer String} {state : RibState}
    (cannot : ¬ CanFind name state.xRibObjectTable) :
    ∃ fault, (pxRibFindObject name).run state = .error fault state := by
  obtain ⟨fault, faulted⟩ := findNamed_of_not_canFind RibObject.ucObjName cannot
  refine ⟨fault, ?_⟩
  rw [pxRibFindObject, run_findNamed _ RibState.xRibObjectTable, faulted]

def pxRibCreateObject (left : RibObjOps) (ucObjName : Pointer String) (ulObjInst : Int)
    (eObjType : ObjectType) : Rib RibObject := do
  let ucObjName ← ucObjName.read
  let pxObjOps :=
    match eObjType with
    | .enrollment => { left with stop := true, start := some .enroller }
    | .flowAllocator => left
    | .operational => { left with start := some .operationalStart }
    | .flow => { left with delete := true }
  let pxObj := { pxObjOps, ucObjName, ulObjInst }
  modify fun state => { state with xRibObjectTable := SlotTable.add pxObj state.xRibObjectTable }
  return pxObj

/-! ## Neighbors -/

def pxEnrollmentFindNeighbor (pcRemoteApName : Pointer String) : Rib (Option NeighborInfo) := do
  pcRemoteApName.log
  let state ← get
  findNamed NeighborInfo.pcApName pcRemoteApName state.xNeighborsTable

theorem run_findNeighbor {name : Pointer String} {state : RibState}
    (can : CanFind name state.xNeighborsTable) :
    (pxEnrollmentFindNeighbor name).run state =
      .ok (findRow NeighborInfo.pcApName name state.xNeighborsTable) state := by
  rw [pxEnrollmentFindNeighbor, run_findNamed _ RibState.xNeighborsTable,
    findNamed_of_canFind _ can]

theorem run_findNeighbor_fault {name : Pointer String} {state : RibState}
    (cannot : ¬ CanFind name state.xNeighborsTable) :
    ∃ fault, (pxEnrollmentFindNeighbor name).run state = .error fault state := by
  obtain ⟨fault, faulted⟩ := findNamed_of_not_canFind NeighborInfo.pcApName cannot
  refine ⟨fault, ?_⟩
  rw [pxEnrollmentFindNeighbor, run_findNamed _ RibState.xNeighborsTable, faulted]

/-- A new neighbor is lost when the table is full. Its address is that of none. -/
def pxEnrollmentCreateNeighInfo (pcApName : Pointer String) (xN1Port : PortId) :
    Rib NeighborInfo := do
  let pcApName ← pcApName.read
  let pxNeighInfo : NeighborInfo :=
    { eEnrollmentState := .none
      pcApName
      xN1Port
      xNeighborAddress := addressWrong
      pcToken := .null }
  modify fun state =>
    { state with xNeighborsTable := SlotTable.add pxNeighInfo state.xNeighborsTable }
  return pxNeighInfo

/-- Change the neighbor `pxEnrollmentFindNeighbor` finds. One that found no room in the
table when it was created is not found and its changes are lost. -/
def changeNeighbor (pcApName : String) (change : NeighborInfo → NeighborInfo) : Rib Unit :=
  modify fun state =>
    { state with
      xNeighborsTable :=
        SlotTable.update (fun row => row.pcApName = pcApName) change state.xNeighborsTable }

end RinaSense
