import RinaSense.Rib.HandleMessage

/-!
# What the daemon leaves alone

Each function changes few of the tables. A view of the state that does not see the
tables a function writes to is the same before and after it, whether the function
returns or faults. One table is such a view, and so are several together.
-/

namespace RinaSense

open Command

/-- The command leaves the view as it is. -/
abbrev Leaves {α β : Type} (view : RibState → β) (command : Rib α) : Prop :=
  Keeps (fun before after => view after = view before) command

section Rules

variable {α γ β : Type} {view : RibState → β}

theorem leaves_pure (value : α) : Leaves view (pure value) := fun _ => rfl

theorem leaves_throw (fault : Fault) : Leaves view (throw fault : Rib α) :=
  fun _ => rfl

theorem leaves_get : Leaves view (get : Rib RibState) := fun _ => rfl

theorem leaves_lift (computation : Except Fault α) : Leaves view (liftM computation : Rib α) := by
  intro state
  cases computation with
  | ok value => rfl
  | error fault => rfl

theorem leaves_bind {command : Rib α} {rest : α → Rib γ} (first : Leaves view command)
    (second : ∀ value, Leaves view (rest value)) : Leaves view (command >>= rest) := by
  apply keeps_bind _ first second
  exact fun _ _ _ before after => after.trans before

theorem leaves_map {f : α → γ} {command : Rib α} (leaves : Leaves view command) :
    Leaves view (f <$> command) := by
  intro state
  have kept := leaves state
  rw [run_map]
  cases run : command.run state with
  | ok value next => rwa [run] at kept
  | error fault next => rwa [run] at kept

theorem leaves_ite {condition : Prop} [Decidable condition] {yes no : Rib α}
    (leavesYes : Leaves view yes) (leavesNo : Leaves view no) :
    Leaves view (if condition then yes else no) := keeps_ite leavesYes leavesNo

end Rules

/-! ## Lookups -/

section Lookups

variable {β : Type} {view : RibState → β}

theorem leaves_findPending (invokeID : Int) :
    Leaves view (pxRibdFindPendingResponseHandler invokeID) :=
  leaves_bind leaves_get fun _ => leaves_pure _

theorem leaves_findObject (name : Pointer String) : Leaves view (pxRibFindObject name) :=
  leaves_bind (leaves_lift _) fun _ => leaves_bind leaves_get fun _ => leaves_lift _

theorem leaves_findNeighbor (name : Pointer String) :
    Leaves view (pxEnrollmentFindNeighbor name) :=
  leaves_bind (leaves_lift _) fun _ => leaves_bind leaves_get fun _ => leaves_lift _

theorem leaves_createResponse (codecs : RibCodecs) (outcomes : RibOutcomes)
    (value : Pointer (List UInt8)) (result : Int) :
    Leaves view (createResponse codecs outcomes value result) := by
  apply leaves_ite (leaves_pure _)
  apply leaves_ite (leaves_pure _)
  apply leaves_bind (leaves_lift _)
  intro contents
  cases codecs.flow.decode contents with
  | none => exact leaves_pure _
  | some _ => exact leaves_pure _

theorem leaves_handleStopR (name : Pointer String) : Leaves view (xEnrollmentHandleStopR name) := by
  apply leaves_ite (leaves_pure _)
  apply leaves_bind (leaves_findNeighbor name)
  intro found
  cases found with
  | none => exact leaves_pure _
  | some _ => exact leaves_pure _

theorem leaves_deleteObject (object : RibObject) : Leaves view (deleteObject object) :=
  leaves_ite (leaves_pure _) (leaves_throw _)

end Lookups

/-! ## Functions that write

The hypotheses name what a view does not see. -/

section Writers

variable {β : Type} {view : RibState → β} {codecs : RibCodecs} {outcomes : RibOutcomes}

theorem leaves_getNextInvokeId
    (counter : ∀ state invokeId, view { state with invokeId } = view state) :
    Leaves view getNextInvokeId := by
  intro state
  rw [run_getNextInvokeId]
  exact counter state _

theorem leaves_fillCommon (counter : ∀ state invokeId, view { state with invokeId } = view state)
    (pcObjClass pcObjName : Option String) (objInst : Int) (eOpCode : OpCode)
    (value : Option (List UInt8)) :
    Leaves view (prvRibdFillCommon pcObjClass pcObjName objInst eOpCode value) :=
  leaves_bind (leaves_getNextInvokeId counter) fun _ => leaves_pure _

theorem leaves_fillStop (counter : ∀ state invokeId, view { state with invokeId } = view state)
    (pcObjClass pcObjName : Option String) (objInst : Int) (eOpCode : OpCode)
    (value : Option (List UInt8)) (result invokeID : Int) :
    Leaves view (prvRibdFillEnrollMsgStop pcObjClass pcObjName objInst eOpCode value result
      invokeID) :=
  leaves_bind (leaves_fillCommon counter _ _ _ _ _) fun _ => leaves_pure _

theorem leaves_createCallback
    (count : ∀ state callbacks, view { state with callbacks } = view state)
    (left : RibCallbackOps) (xOpCode : OpCode) :
    Leaves view (pxRibdCreateCdapCallback left xOpCode) :=
  fun state => count state _

theorem leaves_addResponseHandler
    (handlers : ∀ state table,
      view { state with xPendingResponseHandlersTable := table } = view state)
    (invokeID : Int) (pxCb : Option RibCallback) :
    Leaves view (vRibdAddResponseHandler invokeID pxCb) := by
  cases pxCb with
  | none => exact leaves_pure _
  | some callback => exact fun state => handlers state _

theorem leaves_encodeAndSend (sending : ∀ state sent, view { state with sent } = view state)
    (message : Option MessageCdap) (port : PortId) :
    Leaves view (encodeAndSend codecs outcomes message port) := by
  apply leaves_bind (leaves_lift _)
  intro encoded
  cases encoded with
  | none => exact leaves_pure _
  | some contents => exact fun state => sending state _

theorem leaves_connectWith
    (connections : ∀ state table,
      view { state with xAppConnectionTable := table } = view state)
    (sending : ∀ state sent, view { state with sent } = view state) (opCode : OpCode)
    (source dest : NameInfo (Pointer String)) (port : PortId) (auth : AuthPolicy (Pointer String)) :
    Leaves view (connectWith codecs outcomes opCode source dest port auth) := by
  apply leaves_bind (leaves_lift _)
  intro message
  apply leaves_bind (leaves_lift _)
  intro _
  apply leaves_bind (leaves_lift _)
  intro connection
  apply leaves_bind
  · exact fun state => connections state _
  · exact fun _ => leaves_encodeAndSend sending _ _

theorem leaves_sendRequest
    (counter : ∀ state invokeId, view { state with invokeId } = view state)
    (count : ∀ state callbacks, view { state with callbacks } = view state)
    (handlers : ∀ state table,
      view { state with xPendingResponseHandlersTable := table } = view state)
    (sending : ∀ state sent, view { state with sent } = view state)
    (pcObjClass pcObjName : Option String) (objInst : Int) (eOpCode : UInt32) (port : PortId)
    (value : Option (List UInt8)) :
    Leaves view (xRibdSendRequest codecs outcomes pcObjClass pcObjName objInst eOpCode port
      value) := by
  have send : ∀ (pcObjClass : Option String) (opCode : OpCode), Leaves view (do
      let pxMsgCdap ← prvRibdFillCommon pcObjClass pcObjName objInst opCode value
      let pxCb ← pxRibdCreateCdapCallback outcomes.callback opCode
      vRibdAddResponseHandler pxMsgCdap.invokeID (some pxCb)
      encodeAndSend codecs outcomes (some pxMsgCdap) port) := fun _ _ =>
    leaves_bind (leaves_fillCommon counter _ _ _ _ _) fun _ =>
      leaves_bind (leaves_createCallback count _ _) fun _ =>
        leaves_bind (leaves_addResponseHandler handlers _ _) fun _ =>
          leaves_encodeAndSend sending _ _
  rw [xRibdSendRequest]
  cases OpCode.ofCode? eOpCode with
  | none => exact leaves_throw _
  | some opCode =>
      apply leaves_bind (leaves_pure _)
      intro opCode
      cases opCode with
      | start => exact send none .start
      | stop => exact send none .stop
      | create => exact send pcObjClass .create
      | delete => exact send pcObjClass .delete
      | _ => exact leaves_pure false

theorem leaves_sendResponse (counter : ∀ state invokeId, view { state with invokeId } = view state)
    (sending : ∀ state sent, view { state with sent } = view state)
    (pcObjClass pcObjName : Option String) (objInst result : Int) (eOpCode : OpCode)
    (invokeId : Int) (port : PortId) (value : Option (List UInt8)) :
    Leaves view (xRibdSendResponse codecs outcomes pcObjClass pcObjName objInst result eOpCode
      invokeId port value) := by
  apply leaves_bind
  · cases eOpCode with
    | startR =>
        have first : Leaves view (prvRibdFillEnrollMsgStart pcObjClass pcObjName objInst .startR
            value result invokeId) :=
          leaves_fillStop counter pcObjClass pcObjName objInst .startR value result invokeId
        exact leaves_bind first fun _ => leaves_map (leaves_fillStop counter _ _ _ _ _ _ _)
    | stopR => exact leaves_map (leaves_fillStop counter _ _ _ _ _ _ _)
    | _ => exact leaves_pure none
  · exact fun message => leaves_encodeAndSend sending message port

theorem leaves_findOrCreate
    (neighbors : ∀ state table, view { state with xNeighborsTable := table } = view state)
    (name : Pointer String) (port : PortId) : Leaves view (findOrCreateNeighbor name port) := by
  apply leaves_bind (leaves_findNeighbor name)
  intro found
  cases found with
  | some neighbor => exact leaves_pure _
  | none =>
      apply leaves_bind (leaves_lift _)
      intro text
      apply leaves_bind
      · exact fun state => neighbors state _
      · exact fun _ => leaves_pure _

theorem leaves_changeNeighbor
    (neighbors : ∀ state table, view { state with xNeighborsTable := table } = view state)
    (name : String) (change : NeighborInfo → NeighborInfo) :
    Leaves view (changeNeighbor name change) :=
  fun state => neighbors state _

theorem leaves_putInProgress
    (neighbors : ∀ state table, view { state with xNeighborsTable := table } = view state)
    (name : Pointer String) (port : PortId) : Leaves view (putInProgress name port) :=
  leaves_bind (leaves_findOrCreate neighbors name port) fun _ => leaves_changeNeighbor neighbors _ _

theorem leaves_enroller
    (neighbors : ∀ state table, view { state with xNeighborsTable := table } = view state)
    (value : Pointer (List UInt8)) (name : Pointer String) (port : PortId) :
    Leaves view (xEnrollmentEnroller codecs outcomes value name port) := by
  apply leaves_bind (leaves_findOrCreate neighbors name port)
  intro neighbor
  cases neighbor.eEnrollmentState with
  | none => exact leaves_pure _
  | enrolled => exact leaves_pure _
  | inProgress =>
      apply leaves_bind (leaves_lift _)
      intro contents
      cases pxSerdesMsgEnrollmentDecode codecs.enrollment outcomes.enrollment contents with
      | none => exact leaves_throw _
      | some message =>
          exact leaves_bind (leaves_changeNeighbor neighbors _ _) fun _ => leaves_pure _

theorem leaves_answerStop
    (neighbors : ∀ state table, view { state with xNeighborsTable := table } = view state)
    (counter : ∀ state invokeId, view { state with invokeId } = view state)
    (sending : ∀ state sent, view { state with sent } = view state)
    (object : RibObject) (name : String) (token : Pointer String) (invokeId : Int)
    (port : PortId) :
    Leaves view (answerStop codecs outcomes object name token invokeId port) := by
  apply leaves_bind (leaves_changeNeighbor neighbors _ _)
  intro _
  apply leaves_bind (leaves_sendResponse counter sending _ _ _ _ _ _ _ _)
  exact fun _ => leaves_ite (leaves_pure _) (leaves_pure _)

theorem leaves_handleStop
    (neighbors : ∀ state table, view { state with xNeighborsTable := table } = view state)
    (counter : ∀ state invokeId, view { state with invokeId } = view state)
    (sending : ∀ state sent, view { state with sent } = view state)
    (object : RibObject) (value : Pointer (List UInt8)) (name : Pointer String) (invokeId : Int)
    (port : PortId) :
    Leaves view (xEnrollmentHandleStop codecs outcomes object value name invokeId port) := by
  apply leaves_bind (leaves_findNeighbor name)
  intro found
  cases found with
  | none => exact leaves_pure _
  | some neighbor =>
      apply leaves_bind (leaves_changeNeighbor neighbors _ _)
      intro _
      apply leaves_bind (leaves_lift _)
      intro contents
      cases pxSerdesMsgEnrollmentDecode codecs.enrollment outcomes.enrollment contents with
      | none => exact leaves_throw _
      | some message => exact leaves_answerStop neighbors counter sending object _ _ invokeId port

theorem leaves_operationalStart
    (counter : ∀ state invokeId, view { state with invokeId } = view state)
    (sending : ∀ state sent, view { state with sent } = view state)
    (object : RibObject) (name : Pointer String) (invokeId : Int) (port : PortId) :
    Leaves view (xEnrollmentHandleOperationalStart codecs outcomes object name invokeId port) := by
  apply leaves_bind (leaves_findNeighbor name)
  intro found
  cases found with
  | none => exact leaves_throw _
  | some neighbor =>
      apply leaves_bind (leaves_lift _)
      intro value
      apply leaves_bind (leaves_sendResponse counter sending _ _ _ _ _ _ _ _)
      exact fun _ => leaves_ite (leaves_pure _) (leaves_pure _)

/-- What the `start` and `stop` operations of an object write to. -/
theorem leaves_startObject
    (neighbors : ∀ state table, view { state with xNeighborsTable := table } = view state)
    (counter : ∀ state invokeId, view { state with invokeId } = view state)
    (sending : ∀ state sent, view { state with sent } = view state)
    (object : RibObject) (value : Pointer (List UInt8)) (name : Pointer String) (invokeId : Int)
    (port : PortId) :
    Leaves view (startObject codecs outcomes object value name invokeId port) := by
  rw [startObject]
  cases object.pxObjOps.start with
  | none => exact leaves_throw _
  | some operation =>
      cases operation with
      | enroller => exact leaves_enroller neighbors value name port
      | operationalStart => exact leaves_operationalStart counter sending object name invokeId port

theorem leaves_stopObject
    (neighbors : ∀ state table, view { state with xNeighborsTable := table } = view state)
    (counter : ∀ state invokeId, view { state with invokeId } = view state)
    (sending : ∀ state sent, view { state with sent } = view state)
    (object : RibObject) (value : Pointer (List UInt8)) (name : Pointer String) (invokeId : Int)
    (port : PortId) :
    Leaves view (stopObject codecs outcomes object value name invokeId port) :=
  leaves_ite (leaves_handleStop neighbors counter sending object value name invokeId port)
    (leaves_throw _)

theorem leaves_createObject
    (objects : ∀ state table, view { state with xRibObjectTable := table } = view state)
    (left : RibObjOps) (name : Pointer String) (inst : Int) (type : ObjectType) :
    Leaves view (pxRibCreateObject left name inst type) := by
  apply leaves_bind (leaves_lift _)
  intro text
  apply leaves_bind
  · exact fun state => objects state _
  · exact fun _ => leaves_pure _

theorem leaves_callHandler (calls : ∀ state invoked, view { state with invoked } = view state)
    (field : RibCallbackOps → Bool) (pxCallback : Option RibCallback) :
    Leaves view (callHandler field pxCallback) := by
  have record : ∀ call, Leaves view (recordCall call) := fun call state => calls state _
  cases pxCallback with
  | none => exact leaves_bind (record none) fun _ => leaves_throw _
  | some callback =>
      exact leaves_ite (record _) (leaves_bind (record none) fun _ => leaves_throw _)

theorem leaves_respondCreate (calls : ∀ state invoked, view { state with invoked } = view state)
    (message : MessageCdap) : Leaves view (respondCreate codecs outcomes message) :=
  leaves_bind (leaves_findPending _) fun _ => leaves_bind (leaves_callHandler calls _ _) fun _ =>
    leaves_createResponse codecs outcomes _ _

theorem leaves_handledAData (calls : ∀ state invoked, view { state with invoked } = view state)
    (value : Pointer (List UInt8)) : Leaves view (prvRibdHandledAData codecs outcomes value) := by
  apply leaves_bind (leaves_lift _)
  intro contents
  apply leaves_bind (leaves_lift _)
  intro _
  apply leaves_bind (leaves_lift _)
  intro message
  apply leaves_bind (leaves_findObject _)
  intro object
  cases OpCode.ofCode? message.eOpCode with
  | none => exact leaves_pure _
  | some opCode =>
      cases opCode with
      | createR => exact leaves_bind (leaves_respondCreate calls message) fun _ => leaves_pure _
      | delete => exact leaves_bind (leaves_lift _) fun _ =>
          leaves_bind (leaves_deleteObject _) fun _ => leaves_pure _
      | _ => exact leaves_pure _

theorem leaves_handleWrite (calls : ∀ state invoked, view { state with invoked } = view state)
    (message : MessageCdap) : Leaves view (handleWrite codecs outcomes message) := by
  apply leaves_bind (leaves_lift _)
  intro name
  have nested : ∀ value, Leaves view (prvRibdHandledAData codecs outcomes value) :=
    leaves_handledAData calls
  by_cases aData : name = "a_data"
  · simp only [aData, if_true]
    apply leaves_bind (leaves_lift _)
    intro contents
    apply leaves_bind (leaves_lift _)
    intro message
    by_cases addressed : message.xDestinationAddress = localAddress.toNat
    · simp only [addressed, if_true]
      exact leaves_bind (nested _) fun _ => leaves_pure _
    · simp only [addressed, if_false]
      exact leaves_pure _
  · simp only [aData, if_false]
    exact leaves_pure _

/-! ### Cases of the switch -/

theorem leaves_create
    (objects : ∀ state table, view { state with xRibObjectTable := table } = view state)
    (message : MessageCdap) : Leaves view (handleCreate outcomes message) :=
  leaves_bind (leaves_createObject objects _ _ _ _) fun _ => leaves_pure _

theorem leaves_stop
    (neighbors : ∀ state table, view { state with xNeighborsTable := table } = view state)
    (counter : ∀ state invokeId, view { state with invokeId } = view state)
    (sending : ∀ state sent, view { state with sent } = view state)
    (message : MessageCdap) (connection : Option AppConnection) (object : Option RibObject)
    (port : PortId) :
    Leaves view (handleStop codecs outcomes message connection object port) :=
  leaves_bind (leaves_lift _) fun _ => leaves_bind (leaves_lift _) fun _ =>
    leaves_bind (leaves_stopObject neighbors counter sending _ _ _ _ _) fun _ => leaves_pure _

theorem leaves_start
    (neighbors : ∀ state table, view { state with xNeighborsTable := table } = view state)
    (counter : ∀ state invokeId, view { state with invokeId } = view state)
    (sending : ∀ state sent, view { state with sent } = view state)
    (message : MessageCdap) (connection : Option AppConnection) (object : Option RibObject)
    (port : PortId) :
    Leaves view (handleStart codecs outcomes message connection object port) :=
  leaves_bind (leaves_lift _) fun _ => leaves_bind (leaves_lift _) fun _ =>
    leaves_bind (leaves_startObject neighbors counter sending _ _ _ _ _) fun _ => leaves_pure _

theorem leaves_releaseR
    (connections : ∀ state table,
      view { state with xAppConnectionTable := table } = view state)
    (connection : Option AppConnection) (port : PortId) :
    Leaves view (handleReleaseR connection port) := by
  apply leaves_bind (leaves_lift _)
  intro connection
  apply leaves_ite (leaves_pure _)
  apply leaves_bind
  · exact fun state => connections state _
  · exact fun _ => leaves_pure _

/-- A connect without a connection faults and any other does nothing. -/
theorem leaves_connect (connection : Option AppConnection) (port : PortId) :
    Leaves view (handleConnect codecs outcomes connection port) := by
  intro state
  cases connection with
  | none => rfl
  | some connection => rfl

theorem leaves_startR (calls : ∀ state invoked, view { state with invoked } = view state)
    (message : MessageCdap) (connection : Option AppConnection) :
    Leaves view (handleStartR message connection) :=
  leaves_bind (leaves_findPending _) fun _ => leaves_bind (leaves_lift _) fun _ =>
    leaves_bind (leaves_callHandler calls _ _) fun _ => leaves_bind (leaves_pure true) fun _ =>
      leaves_pure _

theorem leaves_stopR (calls : ∀ state invoked, view { state with invoked } = view state)
    (message : MessageCdap) (connection : Option AppConnection) :
    Leaves view (handleStopR message connection) :=
  leaves_bind (leaves_findPending _) fun _ => leaves_bind (leaves_lift _) fun _ =>
    leaves_bind (leaves_callHandler calls _ _) fun _ => leaves_bind (leaves_handleStopR _) fun _ =>
      leaves_pure _

theorem leaves_createR (calls : ∀ state invoked, view { state with invoked } = view state)
    (message : MessageCdap) : Leaves view (handleCreateR codecs outcomes message) :=
  leaves_bind (leaves_respondCreate calls message) fun _ => leaves_pure _

theorem leaves_handleConnectR
    (neighbors : ∀ state table, view { state with xNeighborsTable := table } = view state)
    (counter : ∀ state invokeId, view { state with invokeId } = view state)
    (count : ∀ state callbacks, view { state with callbacks } = view state)
    (handlers : ∀ state table,
      view { state with xPendingResponseHandlersTable := table } = view state)
    (sending : ∀ state sent, view { state with sent } = view state) (name : Pointer String)
    (port : PortId) : Leaves view (xEnrollmentHandleConnectR codecs outcomes name port) :=
  leaves_bind (leaves_putInProgress neighbors name port) fun _ =>
    leaves_bind (leaves_sendRequest counter count handlers sending _ _ _ _ _ _) fun _ =>
      leaves_ite (leaves_pure _) (leaves_pure _)

theorem leaves_enrollmentInit
    (objects : ∀ state table, view { state with xRibObjectTable := table } = view state)
    (connections : ∀ state table,
      view { state with xAppConnectionTable := table } = view state)
    (sending : ∀ state sent, view { state with sent } = view state) (coordinator : Bool)
    (port : PortId) : Leaves view (vEnrollmentInit codecs outcomes coordinator port) :=
  leaves_bind (leaves_createObject objects _ _ _ _) fun _ =>
    leaves_bind (leaves_createObject objects _ _ _ _) fun _ =>
      leaves_ite
        (leaves_bind (leaves_connectWith connections sending _ _ _ _ _) fun _ => leaves_pure _)
        (leaves_pure _)

end Writers

/-! ## Runs of the functions that send -/

section Runs

variable {codecs : RibCodecs} {outcomes : RibOutcomes} {state : RibState}

theorem run_encodeAndSend (message : Option MessageCdap) (port : PortId) :
    (encodeAndSend codecs outcomes message port).run state =
      match prvRibdEncodeCDAP codecs.cdap outcomes.bufferObtained message with
      | .error fault => .error fault state
      | .ok none => .ok false state
      | .ok (some contents) =>
          .ok true { state with sent := state.sent ++ [(port, contents)] } := by
  rw [encodeAndSend, EStateM.run_bind, run_lift]
  cases prvRibdEncodeCDAP codecs.cdap outcomes.bufferObtained message with
  | error fault => rfl
  | ok encoded =>
      cases encoded with
      | none => rfl
      | some contents => rfl

/-- A failure is reported only where the encoder reports one. -/
theorem encodeAndSend_false {message : Option MessageCdap} {port : PortId} {next : RibState}
    (failed : (encodeAndSend codecs outcomes message port).run state = .ok false next) :
    prvRibdEncodeCDAP codecs.cdap outcomes.bufferObtained message = .ok none := by
  rw [run_encodeAndSend] at failed
  cases encoded : prvRibdEncodeCDAP codecs.cdap outcomes.bufferObtained message with
  | error fault =>
      rw [encoded] at failed
      cases failed
  | ok contents =>
      cases contents with
      | none => rfl
      | some contents =>
          rw [encoded] at failed
          cases failed

/-- The message of a request with an invoke id. -/
def requestMessage (pcObjClass pcObjName : Option String) (objInst : Int) (eOpCode : OpCode)
    (pxObjValue : Option (List UInt8)) (invokeID : Int) : MessageCdap :=
  { prvRibMessageCdapInit with
    invokeID
    eOpCode := eOpCode.toCode
    objInst
    pcObjClass := .ofOption pcObjClass
    pcObjName := .ofOption pcObjName
    pxObjValue := .ofOption pxObjValue }

theorem run_fillCommon (pcObjClass pcObjName : Option String) (objInst : Int) (eOpCode : OpCode)
    (value : Option (List UInt8)) :
    (prvRibdFillCommon pcObjClass pcObjName objInst eOpCode value).run state =
      .ok (requestMessage pcObjClass pcObjName objInst eOpCode value state.takenInvokeId)
        { state with invokeId := state.followingInvokeId } := by
  rw [prvRibdFillCommon, run_bind_ok (run_getNextInvokeId state)]
  rfl

/-- The class a request is sent with, for the operations that can be requested. -/
def OpCode.requestClass (pcObjClass : Option String) : OpCode → Option (Option String)
  | .start => some none
  | .stop => some none
  | .create => some pcObjClass
  | .delete => some pcObjClass
  | _ => none

theorem fillRequest_eq (pcObjClass pcObjName : Option String) (objInst : Int)
    (value : Option (List UInt8)) (opCode : OpCode) :
    fillRequest pcObjClass pcObjName objInst value opCode =
      (opCode.requestClass pcObjClass).map fun sentClass =>
        prvRibdFillCommon sentClass pcObjName objInst opCode value := by
  cases opCode <;> rfl

/-- The row a request is registered with. -/
def RibState.requestRow (state : RibState) (outcomes : RibOutcomes) (opCode : OpCode) :
    ResponseHandlersRow where
  invokeID := state.takenInvokeId
  pxCallbackHandler :=
    { address := state.callbacks
      ops :=
        match opCode with
        | .start => { outcomes.callback with startResponse := true }
        | .stop => { outcomes.callback with stopResponse := true }
        | .create => { outcomes.callback with createResponse := true }
        | _ => outcomes.callback }

/-- The state when a request is registered and not yet encoded. -/
def RibState.registered (state : RibState) (outcomes : RibOutcomes) (opCode : OpCode) : RibState :=
  { state with
    invokeId := state.followingInvokeId
    callbacks := state.callbacks + 1
    xPendingResponseHandlersTable :=
      SlotTable.add (state.requestRow outcomes opCode) state.xPendingResponseHandlersTable }

theorem run_sendRequest {pcObjClass pcObjName : Option String} {objInst : Int} {eOpCode : UInt32}
    {port : PortId} {value : Option (List UInt8)} {opCode : OpCode} {sentClass : Option String}
    (known : OpCode.ofCode? eOpCode = some opCode)
    (requested : opCode.requestClass pcObjClass = some sentClass) :
    (xRibdSendRequest codecs outcomes pcObjClass pcObjName objInst eOpCode port value).run state =
      (encodeAndSend codecs outcomes
        (some (requestMessage sentClass pcObjName objInst opCode value state.takenInvokeId))
        port).run (state.registered outcomes opCode) := by
  simp only [xRibdSendRequest, known, pure_bind, fillRequest_eq, requested, Option.map_some]
  rw [run_bind_ok (run_fillCommon _ _ _ _ _)]
  rfl

/-- The message of a response to a stop. -/
def stopResponse (pcObjName : Option String) (objInst : Int) (invokeID : Int) : MessageCdap :=
  { requestMessage none pcObjName objInst .stopR none invokeID with result := 0 }

theorem run_sendResponse_stop (pcObjName : Option String) (objInst invokeId : Int)
    (port : PortId) :
    (xRibdSendResponse codecs outcomes none pcObjName objInst 0 .stopR invokeId port none).run
        state =
      (encodeAndSend codecs outcomes (some (stopResponse pcObjName objInst invokeId)) port).run
        { state with invokeId := state.followingInvokeId } := by
  have filled : (fillResponse none pcObjName objInst 0 invokeId none .stopR).run state =
      .ok (some (stopResponse pcObjName objInst invokeId))
        { state with invokeId := state.followingInvokeId } := by
    rw [fillResponse, run_map, prvRibdFillEnrollMsgStop, prvRibdFillEnrollMsg,
      run_bind_ok (run_fillCommon _ _ _ _ _)]
    rfl
  rw [xRibdSendResponse, run_bind_ok filled]

/-- The message of a response to a start. -/
def startResponse (pcObjName : Option String) (objInst : Int) (invokeID : Int)
    (pxObjVal : Option (List UInt8)) : MessageCdap :=
  { requestMessage none pcObjName objInst .startR pxObjVal invokeID with result := 0 }

/-- Two invoke ids are taken for it. -/
theorem run_sendResponse_start (pcObjName : Option String) (objInst invokeId : Int)
    (port : PortId) (value : Option (List UInt8)) :
    (xRibdSendResponse codecs outcomes none pcObjName objInst 0 .startR invokeId port value).run
        state =
      (encodeAndSend codecs outcomes (some (startResponse pcObjName objInst invokeId value))
        port).run { state with
          invokeId := { state with invokeId := state.followingInvokeId }.followingInvokeId } := by
  have filled : (fillResponse none pcObjName objInst 0 invokeId value .startR).run state =
      .ok (some (startResponse pcObjName objInst invokeId value)) { state with
        invokeId := { state with invokeId := state.followingInvokeId }.followingInvokeId } := by
    have first : (prvRibdFillEnrollMsgStart none pcObjName objInst .startR value 0 invokeId).run
        state = .ok (startResponse pcObjName objInst invokeId value)
          { state with invokeId := state.followingInvokeId } := by
      rw [prvRibdFillEnrollMsgStart, prvRibdFillEnrollMsg, run_bind_ok (run_fillCommon _ _ _ _ _)]
      rfl
    rw [fillResponse, run_bind_ok first, run_map, prvRibdFillEnrollMsgStop, prvRibdFillEnrollMsg,
      run_bind_ok (run_fillCommon _ _ _ _ _)]
    rfl
  rw [xRibdSendResponse, run_bind_ok filled]

/-- What is not a request is refused without a trace. -/
theorem run_sendRequest_refused {pcObjClass pcObjName : Option String} {objInst : Int}
    {eOpCode : UInt32} {port : PortId} {value : Option (List UInt8)}
    (refused : ∀ opCode, OpCode.ofCode? eOpCode = some opCode →
      opCode.requestClass pcObjClass = none) :
    final ((xRibdSendRequest codecs outcomes pcObjClass pcObjName objInst eOpCode port
      value).run state) = state := by
  cases known : OpCode.ofCode? eOpCode with
  | none =>
      simp only [xRibdSendRequest, known]
      rfl
  | some opCode =>
      simp only [xRibdSendRequest, known, pure_bind, fillRequest_eq, refused opCode known,
        Option.map_none]
      rfl

end Runs

end RinaSense
