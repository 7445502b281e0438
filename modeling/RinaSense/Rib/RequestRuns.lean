import RinaSense.Rib.AppConnections
import RinaSense.Rib.ManagementSafety

/-!
# Runs of requests and responses

In a run every event should end without a fault, a response should call the handler of
its request and free the slot, and one without a request should call none. The module
names the events for which that is so.
-/

namespace RinaSense

open Command

/-! ## Purpose -/

structure MatchesProperly (codecs : RibCodecs) (before : RibState) (event : RibOutcomes × RibEvent)
    (result : EStateM.Result Fault RibState Bool) : Prop where
  returned : ∃ value next, result = .ok value next
  matched : RibEvent.MatchesRequests codecs before (final result) event
  once : ∀ address, (final result).invoked.count (some address) ≤ 1

/-! ## Condition -/

namespace RibState

variable (codecs : RibCodecs) (outcomes : RibOutcomes) (state : RibState)

/-- Everything the operation follows is there. The response to a start, a stop or a
create needs its request. -/
def Runs (message : MessageCdap) (port : PortId) : OpCode → Prop
  | .connect => state.connection port ≠ none
  | .connectR => ∃ connection, state.connection port = some connection ∧
      (connection.xStatus = .inProgress → message.pxSourceInfo.pcProcessName.IsSet ∧
        Encodes codecs outcomes (startRequest codecs state.takenInvokeId))
  | .releaseR => state.connection port ≠ none
  | .create => message.pcObjName.IsSet
  | .stop => ∃ object connection, state.object message = some object ∧
      state.connection port = some connection ∧ object.pxObjOps.stop = true ∧
      CanFind connection.pxDestinationInfo.pcProcessName state.xNeighborsTable ∧
      (state.peer connection ≠ none → HoldsInformation codecs message ∧
        Encodes codecs outcomes (stopAnswered object message))
  | .start => ∃ object connection, state.object message = some object ∧
      state.connection port = some connection ∧
      match object.pxObjOps.start with
      | none => False
      | some .enroller => connection.pxDestinationInfo.pcProcessName.IsSet ∧
          ∀ neighbor, state.peer connection = some neighbor →
            neighbor.eEnrollmentState = .inProgress → HoldsInformation codecs message
      | some .operationalStart => ∃ neighbor, state.peer connection = some neighbor ∧
          neighbor.pcToken.Fits neighborTextSize ∧
          Encodes codecs outcomes (startAnswered codecs object neighbor message)
  | .startR => ∃ connection row, state.connection port = some connection ∧
      state.pending message.invokeID = some row ∧
      row.pxCallbackHandler.ops.startResponse = true
  | .stopR => ∃ connection row, state.connection port = some connection ∧
      state.pending message.invokeID = some row ∧
      row.pxCallbackHandler.ops.stopResponse = true ∧
      connection.pxDestinationInfo.pcProcessName ≠ .stray
  | .createR => state.CallsCreate message
  | .write => message.pcObjName.IsSet ∧ (message.pcObjName = .target "a_data" →
      ∃ contents aDataMsg, message.pxObjValue = .target contents ∧
        pxSerdesMsgDecodeAData codecs.aData outcomes.aData contents = some aDataMsg ∧
        (aDataMsg.xDestinationAddress = localAddress.toNat →
          ∃ nested, message.nested codecs outcomes = some nested ∧ state.RunsNested nested))
  | _ => True

/-- The messages that leave the requests in order: everything they follow is there, none
carries the response to an outstanding request, and the request that answers a connect
response is sent or finds no room. So no response to a start, a stop or a create that
gets as far as its handler is among them. -/
structure Receives (message : MessageCdap) (port : PortId) : Prop where
  runs : ∃ opCode, OpCode.ofCode? message.eOpCode = some opCode ∧
    CanFind message.pcObjName state.xRibObjectTable ∧
    state.Runs codecs outcomes message port opCode
  unmatched : ∀ response, message.response? codecs outcomes = some response →
    state.pending response.invokeID = none
  connectR : ∀ connection, OpCode.ofCode? message.eOpCode = some .connectR →
    state.connection port = some connection → connection.xStatus = .inProgress →
      state.SentOrFull codecs outcomes (startRequest codecs state.takenInvokeId)

end RibState

/-- A connect message with all its names, which can be encoded. -/
def Connects (codecs : RibCodecs) (outcomes : RibOutcomes)
    (pxSource pxDestInfo : NameInfo (Pointer String)) (pxAuth : AuthPolicy (Pointer String)) :
    Prop :=
  CompleteNames pxSource pxDestInfo pxAuth ∧
    ∃ message, fillConnectMessage .connect pxSource pxDestInfo pxAuth = .ok message ∧
      Encodes codecs outcomes message

/-- The events that leave the requests in order. -/
def RibEvent.SupportsRequests (codecs : RibCodecs) (state : RibState) :
    RibOutcomes × RibEvent → Prop
  | (outcomes, setUp coordinator _) =>
      coordinator = true → Connects codecs outcomes normalName difName noAuthentication
  | (outcomes, connect source dest _ auth) => Connects codecs outcomes source dest auth
  | (outcomes, request pcObjClass pcObjName objInst eOpCode _ pxObjVal) =>
      ∃ opCode, OpCode.ofCode? eOpCode = some opCode ∧
        ∀ sentClass, opCode.requestClass pcObjClass = some sentClass →
          let message :=
            requestMessage sentClass pcObjName objInst opCode pxObjVal state.takenInvokeId
          Encodes codecs outcomes message ∧ state.SentOrFull codecs outcomes message
  | (outcomes, message decoded port) => state.Receives codecs outcomes decoded port

/-! ## Events that return -/

section Returning

variable {codecs : RibCodecs} {outcomes : RibOutcomes} {state : RibState} {port : PortId}
  {message : MessageCdap} {source dest : NameInfo (Pointer String)}
  {auth : AuthPolicy (Pointer String)}

theorem returns_operation (opCode : OpCode) :
    Returns (handleOperation codecs outcomes message (state.connection port)
      (state.object message) port opCode) state ↔
        state.Runs codecs outcomes message port opCode := by
  cases opCode with
  | connect =>
      rw [RibState.Runs, handleOperation]
      cases state.connection port with
      | none => simp [handleConnect, Returns]
      | some connection => simp [handleConnect, Returns]
  | connectR => exact returns_handleConnectR
  | releaseR => exact returns_handleReleaseR
  | create => exact returns_handleCreate
  | stop => exact returns_handleStop
  | start => exact returns_handleStart
  | startR => exact returns_handleStartR
  | stopR => exact returns_handleStopR
  | createR =>
      rw [handleOperation, handleCreateR, Returns, wp_bind]
      exact returns_respondCreate
  | write => exact returns_handleWrite
  | _ => exact Iff.rfl

theorem returns_vRibHandleMessage :
    Returns (vRibHandleMessage codecs outcomes message port) state ↔
      ∃ opCode, OpCode.ofCode? message.eOpCode = some opCode ∧
        CanFind message.pcObjName state.xRibObjectTable ∧
        state.Runs codecs outcomes message port opCode := by
  cases known : OpCode.ofCode? message.eOpCode with
  | none => simp [vRibHandleMessage, known, Returns]
  | some opCode =>
      simp only [Option.some.injEq, exists_eq_left']
      exact (wp_vRibHandleMessage known).trans (and_congr_right fun _ => returns_operation opCode)

theorem returns_sendRequest {pcObjClass pcObjName : Option String} {objInst : Int}
    {eOpCode : UInt32} {value : Option (List UInt8)} :
    Returns (xRibdSendRequest codecs outcomes pcObjClass pcObjName objInst eOpCode port value)
        state ↔
      ∃ opCode, OpCode.ofCode? eOpCode = some opCode ∧
        ∀ sentClass, opCode.requestClass pcObjClass = some sentClass →
          Encodes codecs outcomes
            (requestMessage sentClass pcObjName objInst opCode value state.takenInvokeId) := by
  cases known : OpCode.ofCode? eOpCode with
  | none => simp [xRibdSendRequest, known, Returns]
  | some opCode =>
      simp only [Option.some.injEq, exists_eq_left']
      cases requested : opCode.requestClass pcObjClass with
      | none =>
          have refused : fillRequest pcObjClass pcObjName objInst value opCode = none := by
            rw [fillRequest_eq, requested, Option.map_none]
          simp [xRibdSendRequest, known, refused, Returns]
      | some sentClass =>
          rw [Returns, Wp, run_sendRequest known requested]
          simp only [Option.some.injEq, forall_eq']
          exact returns_encodeAndSend

theorem createName_of_set {name : NameInfo (Pointer String)} (left : NameInfo (Pointer String))
    (complete : name.All Pointer.IsSet) : ∃ created, createName left name = .ok created := by
  obtain ⟨⟨process, hasProcess⟩, ⟨processInstance, hasProcessInstance⟩, ⟨entity, hasEntity⟩,
    ⟨entityInstance, hasEntityInstance⟩⟩ := complete
  simp only [createName, hasProcess, hasProcessInstance, hasEntity, hasEntityInstance,
    Pointer.read_target, ok_bind]
  exact ⟨_, rfl⟩

theorem createConnection_of_set (left : AppConnection) (complete : CompleteNames source dest auth) :
    ∃ connection, prvRibCreateConnection left source dest = .ok connection := by
  obtain ⟨sourceInfo, createdSource⟩ := createName_of_set left.pxSourceInfo complete.source
  obtain ⟨destInfo, createdDest⟩ := createName_of_set left.pxDestinationInfo complete.destination
  simp only [prvRibCreateConnection, createdSource, createdDest, ok_bind]
  exact ⟨_, rfl⟩

/-- A connect message has all that is printed. -/
theorem print_connect (fills : fillConnectMessage .connect source dest auth = .ok message) :
    vRibdPrintCdapMessage (some message) = .ok () := by
  simp only [fillConnectMessage, fillConnectName, bind_eq_ok] at fills
  obtain ⟨_, ⟨_, _, _, _, _, _, destFilled⟩, _, ⟨_, _, _, _, _, _, sourceFilled⟩, _, _, _, _,
    filled⟩ := fills
  rw [← Except.ok.inj filled, ← Except.ok.inj destFilled, ← Except.ok.inj sourceFilled]
  rfl

/-- A connect with all its names ends without a fault if its message can be encoded. -/
theorem returns_connect (connects : Connects codecs outcomes source dest auth) :
    Returns (xRibdConnectToIpcp codecs outcomes source dest port auth) state := by
  obtain ⟨complete, message, fills, encodes⟩ := connects
  obtain ⟨connection, created⟩ := createConnection_of_set outcomes.connection complete
  simp only [xRibdConnectToIpcp, connectWith, vRibdAddAppConnectionEntry, Returns, wp_bind,
    wp_lift, wp_modify]
  exact ⟨message, fills, ⟨⟩, print_connect fills, connection, created,
    returns_encodeAndSend.mpr encodes⟩

theorem run_createObject_target (state : RibState) (left : RibObjOps) (name : String)
    (objInst : Int) (objType : ObjectType) : ∃ object next,
      (pxRibCreateObject left (.target name) objInst objType).run state = .ok object next :=
  ⟨_, _, rfl⟩

theorem returns_enrollmentInit {coordinator : Bool}
    (connects : coordinator = true →
      Connects codecs outcomes normalName difName noAuthentication) :
    Returns (vEnrollmentInit codecs outcomes coordinator port) state := by
  obtain ⟨_, first, created⟩ := run_createObject_target state outcomes.objOps
    "/difm/enr" 0 .enrollment
  obtain ⟨_, second, operational⟩ := run_createObject_target first outcomes.objOps
    "/difm/ops" 1 .operational
  rw [vEnrollmentInit, returns_bind_of_ok created, returns_bind_of_ok operational]
  cases coordinator with
  | false => trivial
  | true =>
      apply (returns_bind_of_total _).mpr (returns_connect (connects rfl))
      intro _ _
      trivial

theorem event_returns (event : RibOutcomes × RibEvent)
    (supported : RibEvent.SupportsRequests codecs state event) :
    Returns (RibEvent.perform codecs event) state := by
  obtain ⟨outcomes, event⟩ := event
  cases event with
  | setUp coordinator port =>
      apply (returns_bind_of_total _).mpr (returns_enrollmentInit supported)
      intro _ _
      trivial
  | connect source dest port auth => exact returns_connect supported
  | request objClass objName objInst opCode port value =>
      obtain ⟨opCode, known, sends⟩ := supported
      exact returns_sendRequest.mpr
        ⟨opCode, known, fun sentClass requested => (sends sentClass requested).1⟩
  | message decoded port => exact returns_vRibHandleMessage.mpr supported.runs

end Returning

/-! ## Events that match -/

section Matching

variable {codecs : RibCodecs} {outcomes : RibOutcomes} {state : RibState} {port : PortId}
  {message : MessageCdap}

theorem response?_of_isResponse {opCode : OpCode} (isResponse : opCode.isResponse = true)
    (other : opCode ≠ .write) (known : OpCode.ofCode? message.eOpCode = some opCode) :
    message.response? codecs outcomes = some message := by
  simp [MessageCdap.response?, MessageCdap.carried, known, other, isResponse]

/-- A handler is called for a response only if its request is there, so for none that is
received. -/
theorem uncalled_of_receives (receives : state.Receives codecs outcomes message port) :
    ¬ state.CallsHandler codecs outcomes message port := by
  obtain ⟨opCode, known, _, runs⟩ := receives.runs
  have direct : opCode.isResponse = true → opCode ≠ .write →
      ∀ row, state.pending message.invokeID ≠ some row := by
    intro isResponse other row pending
    have unmatched := receives.unmatched message (response?_of_isResponse isResponse other known)
    rw [unmatched] at pending
    cases pending
  rw [RibState.CallsHandler, known]
  rintro ⟨_, called⟩
  cases opCode with
  | startR =>
      obtain ⟨_, row, _, pending, _⟩ := runs
      exact direct rfl (by decide) row pending
  | stopR =>
      obtain ⟨_, row, _, pending, _⟩ := runs
      exact direct rfl (by decide) row pending
  | createR =>
      obtain ⟨row, pending, _⟩ := runs
      exact direct rfl (by decide) row pending
  | write =>
      obtain ⟨aData, nested, carried, createR, _⟩ := called
      obtain ⟨_, _, value, decoded, runs⟩ := runs.2 aData
      obtain ⟨addressed, _⟩ := (MessageCdap.nested_eq_some value decoded).mp carried
      obtain ⟨other, same, _, _, calls⟩ := runs addressed
      rw [← Option.some.inj (carried.symm.trans same), createR] at calls
      obtain ⟨row, pending, _⟩ := calls
      have arrives : message.response? codecs outcomes = some nested := by
        simp [MessageCdap.response?, MessageCdap.carried, known, aData, carried, createR,
          OpCode.isResponse]
      have unmatched := receives.unmatched nested arrives
      rw [unmatched] at pending
      cases pending
  | _ => exact called

theorem respondsTo_of_receives (receives : state.Receives codecs outcomes message port) :
    state.RespondsTo codecs outcomes message port where
  unmatched := receives.unmatched
  uncalled := uncalled_of_receives receives
  connectR := fun connection _ isConnectR _ known inProgress _ =>
    receives.connectR connection isConnectR known inProgress

theorem event_matches (unanswered : state.Unanswered) (event : RibOutcomes × RibEvent)
    (supported : RibEvent.SupportsRequests codecs state event) :
    RibEvent.MatchesRequests codecs state
        (final ((RibEvent.perform codecs event).run state)) event ∧
      (final ((RibEvent.perform codecs event).run state)).Unanswered := by
  obtain ⟨outcomes, event⟩ := event
  cases event with
  | setUp coordinator port =>
      have leaves : Leaves RibState.handlerView
          (RibEvent.perform codecs (outcomes, .setUp coordinator port)) :=
        leaves_bind (leaves_enrollmentInit (fun _ _ => rfl) (fun _ _ => rfl) (fun _ _ => rfl) _ _)
          fun _ => leaves_pure _
      exact ⟨sameRequests_of_view (leaves state), unanswered_of_view (leaves state) unanswered⟩
  | connect source dest port auth =>
      have leaves : Leaves RibState.handlerView
          (RibEvent.perform codecs (outcomes, .connect source dest port auth)) :=
        leaves_connectWith (fun _ _ => rfl) (fun _ _ => rfl) _ _ _ _ _
      exact ⟨sameRequests_of_view (leaves state), unanswered_of_view (leaves state) unanswered⟩
  | request objClass objName objInst eOpCode port value =>
      obtain ⟨opCode, known, sends⟩ := supported
      apply request_matches unanswered
      intro other sentClass same requested
      rw [← Option.some.inj (known.symm.trans same)] at requested ⊢
      exact (sends sentClass requested).2
  | message decoded port => exact message_matches unanswered (respondsTo_of_receives supported)

end Matching

/-! ## Runs -/

theorem unanswered_initial : RibState.initial.Unanswered := ⟨rfl, rfl⟩

/-- In a run of supported events every event ends without a fault and every response is
matched with its request. -/
theorem requests_run_matched (codecs : RibCodecs) (events : List (RibOutcomes × RibEvent))
    (supported : ∀ occurrence ∈ Trace.trace (RibEvent.perform codecs) events .initial,
      RibEvent.SupportsRequests codecs occurrence.before occurrence.event) :
    ∀ occurrence ∈ Trace.trace (RibEvent.perform codecs) events .initial,
      MatchesProperly codecs occurrence.before occurrence.event occurrence.result := by
  apply Trace.proper_of_supported RibState.Unanswered (RibEvent.SupportsRequests codecs)
    (MatchesProperly codecs) _ unanswered_initial supported
  intro before event unanswered supported
  obtain ⟨matched, after⟩ := event_matches unanswered event supported
  obtain ⟨value, next, returned, _⟩ := wp_iff.mp (event_returns event supported)
  refine ⟨⟨⟨value, next, returned⟩, matched, ?_⟩, after⟩
  intro address
  rw [after.uncalled]
  exact Nat.zero_le 1

/-! ## A request that is sent, and its response -/

/-- The encoding of the first request for a flow, without an object value. -/
def createRequestBytes : List UInt8 :=
  let management : List UInt8 := [0x4d, 0x61, 0x6e, 0x61, 0x67, 0x65, 0x6d, 0x65, 0x6e, 0x74]
  [0x10, 0x04, 0x18, 0x01, 0x2a, 0x04, 0x46, 0x6c, 0x6f, 0x77, 0x32, 0x11, 0x2f, 0x66, 0x61, 0x2f,
    0x66, 0x6c, 0x6f, 0x77, 0x73, 0x2f, 0x6b, 0x65, 0x79, 0x3d, 0x31, 0x2d, 0x31, 0x48, 0x00,
    0x9a, 0x01, 0x00, 0xa2, 0x01, 0x0a] ++ management ++
    [0xba, 0x01, 0x00, 0xc2, 0x01, 0x0a] ++ management ++ [0xe0, 0x01, 0x01]

def createCodecs : RibCodecs where
  cdap := .single
    (requestMessage (some "Flow") (some "/fa/flows/key=1-1") (-1) .create none 1).wire
    createRequestBytes
  enrollment := .refusing
  neighbor := .refusing
  aData := .refusing
  flow := .refusing

/-- The request for a flow, on port 1. -/
def createRequest : RibOutcomes × RibEvent :=
  (.clear,
    .request (some "Flow") (some "/fa/flows/key=1-1") (-1) OpCode.create.toCode 1 none)

/-- The response to it. -/
def createAnswer : RibOutcomes × RibEvent :=
  (.clear, .message { prvRibMessageCdapInit with eOpCode := OpCode.createR.toCode } 1)

/-- A response nobody asked for. -/
def unsolicitedAnswer : RibOutcomes × RibEvent :=
  (.clear,
    .message { prvRibMessageCdapInit with eOpCode := OpCode.deleteR.toCode, invokeID := 2 } 1)

section Unsolicited

variable {state : RibState}

theorem createRequest_supported :
    RibEvent.SupportsRequests createCodecs .initial createRequest := by
  refine ⟨.create, OpCode.ofCode?_toCode .create, ?_⟩
  intro sentClass requested
  rw [← Option.some.inj requested]
  exact ⟨⟨some createRequestBytes, by rfl⟩, .inr ⟨createRequestBytes, by rfl⟩⟩

theorem unsolicitedAnswer_supported (empty : SlotTable.rows state.xRibObjectTable = [])
    (absent : state.pending 2 = none) :
    RibEvent.SupportsRequests createCodecs state unsolicitedAnswer where
  runs := ⟨.deleteR, OpCode.ofCode?_toCode .deleteR, empty, trivial⟩
  unmatched := by
    intro response arrives
    rw [response?_of_isResponse rfl (by decide) (OpCode.ofCode?_toCode .deleteR)] at arrives
    rw [← Option.some.inj arrives]
    exact absent
  connectR := by
    rintro _ ⟨⟩

theorem run_unsolicitedAnswer (empty : SlotTable.rows state.xRibObjectTable = []) :
    (RibEvent.perform createCodecs unsolicitedAnswer).run state = .ok false state := by
  have known := OpCode.ofCode?_toCode .deleteR
  have found : (pxRibdFindAppConnection 1).run state = .ok (state.connection 1) state := rfl
  rw [unsolicitedAnswer, RibEvent.perform, vRibHandleMessage, known]
  simp only
  rw [run_bind_ok found]
  have can : CanFind .null state.xRibObjectTable := empty
  exact run_bind_ok (run_findObject can) _

end Unsolicited

/-- After a request two responses come that nobody asked for. -/
theorem requests_run_matched_unsolicited :
    (Trace.trace (RibEvent.perform createCodecs)
        [createRequest, unsolicitedAnswer, unsolicitedAnswer] .initial).length = 3 ∧
    ∀ occurrence ∈ Trace.trace (RibEvent.perform createCodecs)
        [createRequest, unsolicitedAnswer, unsolicitedAnswer] .initial,
      MatchesProperly createCodecs occurrence.before occurrence.event occurrence.result := by
  refine ⟨by decide +kernel, ?_⟩
  apply requests_run_matched createCodecs
  intro occurrence member
  rcases Trace.mem_trace_cons.mp member with rfl | ⟨_, next, sent, member⟩
  · exact createRequest_supported
  have reached : next = final ((RibEvent.perform createCodecs createRequest).run .initial) := by
    rw [sent]
    rfl
  have empty : SlotTable.rows next.xRibObjectTable = [] := by
    rw [reached]
    rfl
  have absent : next.pending 2 = none := by
    rw [reached]
    rfl
  have answered := run_unsolicitedAnswer empty
  rcases Trace.mem_trace_cons.mp member with rfl | ⟨_, last, run, member⟩
  · exact unsolicitedAnswer_supported empty absent
  rw [answered] at run
  obtain ⟨rfl, rfl⟩ := EStateM.Result.ok.inj run
  rcases Trace.mem_trace_cons.mp member with rfl | ⟨_, _, _, none⟩
  · exact unsolicitedAnswer_supported empty absent
  · exact absurd none List.not_mem_nil

/-- The handler is called and its slot stays in use. -/
theorem create_answered_slot_kept :
    ¬ ∀ occurrence ∈ Trace.trace (RibEvent.perform createCodecs) [createRequest, createAnswer]
        .initial,
      MatchesProperly createCodecs occurrence.before occurrence.event occurrence.result := by
  intro properly
  have answered := properly _
    (Trace.mem_trace_cons.mpr (.inr ⟨_, _, rfl, Trace.mem_trace_cons.mpr (.inl rfl)⟩))
  have completes : CompletesRequest _ _ _ := answered.matched
  exact absurd completes.outstanding.length_eq (by decide)

end RinaSense
