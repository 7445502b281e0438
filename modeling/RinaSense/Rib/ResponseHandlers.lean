import RinaSense.Rib.EnrollmentRuns
import RinaSense.Rib.Events

/-!
# Requests and their responses

A request that is sent is outstanding until its response arrives, which calls the
handler of the request and no other. The daemon registers a request before it is sent
and never frees a slot. The module shows for which requests and messages the requests
are in order afterwards.
-/

namespace RinaSense

open Command

/-! ## Responses -/

/-- The operations that answer a request. Those of a connection have no handler. -/
def OpCode.isResponse : OpCode → Bool
  | .createR => true
  | .deleteR => true
  | .readR => true
  | .cancelReadR => true
  | .writeR => true
  | .startR => true
  | .stopR => true
  | _ => false

namespace MessageCdap

variable (codecs : RibCodecs) (outcomes : RibOutcomes)

/-- The message inside an a_data object that is addressed to this node. -/
def nested (message : MessageCdap) : Option MessageCdap := do
  let contents ← message.pxObjValue.value?
  let pxADataMsg ← pxSerdesMsgDecodeAData codecs.aData outcomes.aData contents
  if pxADataMsg.xDestinationAddress = localAddress.toNat then
    let contents ← pxADataMsg.pxMsgCdap.value?
    prvRibdDecodeCDAP codecs.cdap outcomes.nested contents
  else none

theorem nested_eq_some {codecs : RibCodecs} {outcomes : RibOutcomes}
    {message nested : MessageCdap} {contents : List UInt8} {aDataMsg : ADataMsg}
    (value : message.pxObjValue = .target contents)
    (decoded : pxSerdesMsgDecodeAData codecs.aData outcomes.aData contents = some aDataMsg) :
    message.nested codecs outcomes = some nested ↔
      aDataMsg.xDestinationAddress = localAddress.toNat ∧
        ∃ inner, aDataMsg.pxMsgCdap = .target inner ∧
          prvRibdDecodeCDAP codecs.cdap outcomes.nested inner = some nested := by
  cases target : aDataMsg.pxMsgCdap with
  | null => simp [MessageCdap.nested, Pointer.value?, value, decoded, target]
  | stray => simp [MessageCdap.nested, Pointer.value?, value, decoded, target]
  | target inner => simp [MessageCdap.nested, Pointer.value?, value, decoded, target]

/-- The message that an a_data object is written with, and any other message itself. -/
def carried (message : MessageCdap) : Option MessageCdap :=
  if OpCode.ofCode? message.eOpCode = some .write ∧ message.pcObjName = .target "a_data" then
    message.nested codecs outcomes
  else some message

/-- The response that arrives with the message. -/
def response? (message : MessageCdap) : Option MessageCdap :=
  (message.carried codecs outcomes).filter fun carried =>
    (OpCode.ofCode? carried.eOpCode).any OpCode.isResponse

end MessageCdap

/-! ## Purpose -/

/-- The requests that wait for their response. -/
def RibState.outstanding (state : RibState) : List ResponseHandlersRow :=
  SlotTable.rows state.xPendingResponseHandlersTable

def RibState.pending (state : RibState) (invokeID : Int) : Option ResponseHandlersRow :=
  SlotTable.find (fun row => row.invokeID = invokeID) state.xPendingResponseHandlersTable

structure SameRequests (before after : RibState) : Prop where
  outstanding : after.outstanding.Perm before.outstanding
  invoked : after.invoked = before.invoked

structure AddsRequest (row : ResponseHandlersRow) (before after : RibState) : Prop where
  outstanding : after.outstanding.Perm (row :: before.outstanding)
  invoked : after.invoked = before.invoked

/-- The handler of the request is called and its slot is free. -/
structure CompletesRequest (row : ResponseHandlersRow) (before after : RibState) : Prop where
  outstanding : before.outstanding.Perm (row :: after.outstanding)
  invoked : after.invoked = before.invoked ++ [some row.pxCallbackHandler.address]

/-- A request is outstanding if there was room for it and it is sent. -/
def Registers (outcomes : RibOutcomes) (opCode : OpCode) (before after : RibState) : Prop :=
  if before.outstanding.length < responseHandlerTableSize ∧
      before.sent.length < after.sent.length then
    AddsRequest (before.requestRow outcomes opCode) before after
  else SameRequests before after

/-- A response completes the outstanding request of its invoke id. -/
def Answers (response : MessageCdap) (before after : RibState) : Prop :=
  match before.pending response.invokeID with
  | some row => CompletesRequest row before after
  | none => SameRequests before after

/-- What an event may do to the requests. A connect response is answered by a request
of the enrollment. -/
def RibEvent.MatchesRequests (codecs : RibCodecs) (before after : RibState) :
    RibOutcomes × RibEvent → Prop
  | (outcomes, request _ _ _ eOpCode _ _) =>
      match OpCode.ofCode? eOpCode with
      | some opCode => Registers outcomes opCode before after
      | none => SameRequests before after
  | (outcomes, message decoded _) =>
      match decoded.response? codecs outcomes with
      | some response => Answers response before after
      | none =>
          if OpCode.ofCode? decoded.eOpCode = some .connectR then
            Registers outcomes .start before after
          else SameRequests before after
  | _ => SameRequests before after

/-! ## Condition -/

/-- The message can be encoded and there is a buffer for it. -/
def CanSend (codecs : RibCodecs) (outcomes : RibOutcomes) (message : MessageCdap) : Prop :=
  ∃ contents,
    prvRibdEncodeCDAP codecs.cdap outcomes.bufferObtained (some message) = .ok (some contents)

/-- The request is sent, or finds no room. -/
def RibState.SentOrFull (codecs : RibCodecs) (outcomes : RibOutcomes) (state : RibState)
    (message : MessageCdap) : Prop :=
  none ∉ state.xPendingResponseHandlersTable ∨ CanSend codecs outcomes message

/-- A handler is called for the message: it is a response to a start or stop on a port
with a connection, or a response to a create, alone or in an a_data object, whose
objects can be looked up. -/
def RibState.CallsHandler (codecs : RibCodecs) (outcomes : RibOutcomes) (state : RibState)
    (message : MessageCdap) (port : PortId) : Prop :=
  CanFind message.pcObjName state.xRibObjectTable ∧
    match OpCode.ofCode? message.eOpCode with
    | some .startR => state.connection port ≠ none
    | some .stopR => state.connection port ≠ none
    | some .createR => True
    | some .write => message.pcObjName = .target "a_data" ∧
        ∃ nested, message.nested codecs outcomes = some nested ∧
          OpCode.ofCode? nested.eOpCode = some .createR ∧
          vRibdPrintCdapMessage (some nested) = .ok () ∧
          CanFind nested.pcObjName state.xRibObjectTable
    | _ => False

/-- What leaves the requests in order, whether or not the handling returns: the message
does not carry the response to an outstanding request, no handler is called for it, and
the request that answers a connect response is sent or finds no room. -/
structure RibState.RespondsTo (codecs : RibCodecs) (outcomes : RibOutcomes) (state : RibState)
    (message : MessageCdap) (port : PortId) : Prop where
  unmatched : ∀ response, message.response? codecs outcomes = some response →
    state.pending response.invokeID = none
  uncalled : ¬ state.CallsHandler codecs outcomes message port
  connectR : ∀ connection text, OpCode.ofCode? message.eOpCode = some .connectR →
    CanFind message.pcObjName state.xRibObjectTable → state.connection port = some connection →
    connection.xStatus = .inProgress → message.pxSourceInfo.pcProcessName = .target text →
      state.SentOrFull codecs outcomes (startRequest codecs state.takenInvokeId)

/-! ## What the requests depend on -/

/-- The part of the state that requests and responses read and write. -/
def RibState.requestView (state : RibState) :=
  (state.xPendingResponseHandlersTable, state.invoked, state.sent, state.invokeId,
    state.callbacks)

/-- The part of it that decides which requests are outstanding. -/
def RibState.handlerView (state : RibState) :=
  (state.xPendingResponseHandlersTable, state.invoked)

/-- A table of the size it was declared with, and no handler called. -/
structure RibState.Unanswered (state : RibState) : Prop where
  sized : state.xPendingResponseHandlersTable.length = responseHandlerTableSize
  uncalled : state.invoked = []

section Requests

variable {codecs : RibCodecs} {outcomes : RibOutcomes} {state before after other : RibState}
  {opCode : OpCode}

theorem sameRequests_of_view (same : after.handlerView = before.handlerView) :
    SameRequests before after := by
  obtain ⟨table, invoked⟩ := Prod.mk.inj same
  constructor
  · rw [RibState.outstanding, table, RibState.outstanding]
  · exact invoked

theorem unanswered_of_view (same : after.handlerView = before.handlerView)
    (unanswered : before.Unanswered) : after.Unanswered := by
  obtain ⟨table, invoked⟩ := Prod.mk.inj same
  constructor
  · rw [table, unanswered.sized]
  · rw [invoked, unanswered.uncalled]

theorem registers_of_view (same : other.requestView = before.requestView)
    (registers : Registers outcomes opCode other after) :
    Registers outcomes opCode before after := by
  simp only [RibState.requestView, Prod.mk.injEq] at same
  obtain ⟨table, invoked, sent, invokeId, callbacks⟩ := same
  have outstanding : other.outstanding = before.outstanding := congrArg SlotTable.rows table
  have row : other.requestRow outcomes opCode = before.requestRow outcomes opCode := by
    simp only [RibState.requestRow, RibState.takenInvokeId, invokeId, callbacks]
  rw [Registers, outstanding, sent] at registers
  rw [Registers]
  split at registers
  · rename_i added
    rw [if_pos added]
    exact ⟨outstanding ▸ row ▸ registers.outstanding, invoked ▸ registers.invoked⟩
  · rename_i unmoved
    rw [if_neg unmoved]
    exact ⟨outstanding ▸ registers.outstanding, invoked ▸ registers.invoked⟩

/-- Nothing is sent and nothing else happens. -/
theorem registers_of_unsent (sent : after.sent = before.sent)
    (same : after.handlerView = before.handlerView) : Registers outcomes opCode before after := by
  rw [Registers, if_neg]
  · exact sameRequests_of_view same
  · rw [sent]
    exact fun both => absurd both.2 (Nat.lt_irrefl _)

theorem room_iff (sized : state.xPendingResponseHandlersTable.length = responseHandlerTableSize) :
    none ∈ state.xPendingResponseHandlersTable ↔
      state.outstanding.length < responseHandlerTableSize := by
  rw [SlotTable.none_mem_iff, sized, RibState.outstanding]

theorem registered_of_full (full : none ∉ state.xPendingResponseHandlersTable) :
    (state.registered outcomes opCode).xPendingResponseHandlersTable =
      state.xPendingResponseHandlersTable :=
  SlotTable.rows_add_of_full _ full

/-- A request that is sent, or for which there is no room, is registered as it should
be. -/
theorem registers_sendRequest
    (sized : state.xPendingResponseHandlersTable.length = responseHandlerTableSize)
    {message : MessageCdap} {port : PortId}
    (sends : state.SentOrFull codecs outcomes message) :
    Registers outcomes opCode state (final ((encodeAndSend codecs outcomes (some message) port).run
      (state.registered outcomes opCode))) := by
  have unsent : none ∉ state.xPendingResponseHandlersTable →
      Registers outcomes opCode state (state.registered outcomes opCode) := fun full =>
    registers_of_unsent rfl (congrArg (·, state.invoked) (registered_of_full full))
  rw [run_encodeAndSend]
  cases encoded : prvRibdEncodeCDAP codecs.cdap outcomes.bufferObtained (some message) with
  | error fault =>
      rcases sends with full | ⟨contents, sent⟩
      · exact unsent full
      · rw [encoded] at sent
        cases sent
  | ok result =>
      cases result with
      | none =>
          rcases sends with full | ⟨contents, sent⟩
          · exact unsent full
          · rw [encoded] at sent
            cases sent
      | some contents =>
          have grows : state.sent.length < (state.sent ++ [(port, contents)]).length := by
            rw [List.length_append]
            exact Nat.lt_succ_self _
          by_cases room : none ∈ state.xPendingResponseHandlersTable
          · have added := SlotTable.rows_add (state.requestRow outcomes opCode) room
            rw [Registers, if_pos ⟨(room_iff sized).mp room, grows⟩]
            exact ⟨added, rfl⟩
          · rw [Registers, if_neg fun both => room ((room_iff sized).mpr both.1)]
            apply sameRequests_of_view
            exact congrArg (·, state.invoked) (registered_of_full room)

theorem unanswered_encodeAndSend (unanswered : state.Unanswered) (message : Option MessageCdap)
    (port : PortId) : (final ((encodeAndSend codecs outcomes message port).run
      (state.registered outcomes opCode))).Unanswered := by
  have registered : (state.registered outcomes opCode).Unanswered :=
    ⟨(SlotTable.length_insert _ _).trans unanswered.sized, unanswered.uncalled⟩
  exact unanswered_of_view (leaves_encodeAndSend (fun _ _ => rfl) message port _) registered

end Requests

/-! ## The effect of each event -/

section Effects

variable {codecs : RibCodecs} {outcomes : RibOutcomes} {state after : RibState} {port : PortId}
  {message : MessageCdap}

theorem request_matches (unanswered : state.Unanswered) {pcObjClass pcObjName : Option String}
    {objInst : Int} {eOpCode : UInt32} {value : Option (List UInt8)}
    (sends : ∀ opCode sentClass, OpCode.ofCode? eOpCode = some opCode →
      opCode.requestClass pcObjClass = some sentClass →
        state.SentOrFull codecs outcomes
          (requestMessage sentClass pcObjName objInst opCode value state.takenInvokeId)) :
    RibEvent.MatchesRequests codecs state
        (final ((xRibdSendRequest codecs outcomes pcObjClass pcObjName objInst eOpCode port
          value).run state))
        (outcomes, .request pcObjClass pcObjName objInst eOpCode port value) ∧
      (final ((xRibdSendRequest codecs outcomes pcObjClass pcObjName objInst eOpCode port
        value).run state)).Unanswered := by
  rw [RibEvent.MatchesRequests]
  cases known : OpCode.ofCode? eOpCode with
  | none =>
      rw [run_sendRequest_refused fun opCode other => by rw [known] at other; cases other]
      exact ⟨sameRequests_of_view rfl, unanswered⟩
  | some opCode =>
      cases requested : opCode.requestClass pcObjClass with
      | none =>
          rw [run_sendRequest_refused fun other same => by
            rw [← Option.some.inj (known.symm.trans same)]
            exact requested]
          exact ⟨registers_of_unsent rfl rfl, unanswered⟩
      | some sentClass =>
          rw [run_sendRequest known requested]
          exact ⟨registers_sendRequest unanswered.sized (sends opCode sentClass known requested),
            unanswered_encodeAndSend unanswered _ _⟩

/-- A message that changes no request and has no handler called. -/
theorem message_matches_of_same (responds : state.RespondsTo codecs outcomes message port)
    (same : after.handlerView = state.handlerView)
    (unsent : OpCode.ofCode? message.eOpCode = some .connectR → after.sent = state.sent) :
    RibEvent.MatchesRequests codecs state after (outcomes, .message message port) := by
  rw [RibEvent.MatchesRequests]
  cases arrives : message.response? codecs outcomes with
  | some response =>
      simp only [Answers, responds.unmatched response arrives]
      exact sameRequests_of_view same
  | none =>
      by_cases connectR : OpCode.ofCode? message.eOpCode = some .connectR
      · simp only [connectR, if_true]
        exact registers_of_unsent (unsent connectR) same
      · simp only [connectR, if_false]
        exact sameRequests_of_view same

/-- Without a response to a create that gets as far as its handler, an a_data object
changes nothing. -/
theorem final_handledAData {value : Pointer (List UInt8)}
    (uncalled : ∀ contents nested, value = .target contents →
      prvRibdDecodeCDAP codecs.cdap outcomes.nested contents = some nested →
      OpCode.ofCode? nested.eOpCode = some .createR →
      vRibdPrintCdapMessage (some nested) = .ok () →
        ¬ CanFind nested.pcObjName state.xRibObjectTable) :
    final ((prvRibdHandledAData codecs outcomes value).run state) = state := by
  cases value with
  | null => rfl
  | stray => rfl
  | target contents =>
      simp only [prvRibdHandledAData, Pointer.read_target, EStateM.run_bind, run_lift]
      cases decoded : prvRibdDecodeCDAP codecs.cdap outcomes.nested contents with
      | none => rfl
      | some nested =>
          cases printed : vRibdPrintCdapMessage (some nested) with
          | error fault => rfl
          | ok _ =>
              simp only [deref_some]
              by_cases can : CanFind nested.pcObjName state.xRibObjectTable
              · simp only [run_findObject can]
                cases known : OpCode.ofCode? nested.eOpCode with
                | none => rfl
                | some opCode =>
                    cases opCode with
                    | createR => exact absurd can (uncalled contents nested rfl decoded known printed)
                    | delete =>
                        have leaves : ∀ object, Leaves id (do
                            let object ← deref object
                            let _ ← deleteObject object : Rib Unit) := fun object =>
                          leaves_bind (leaves_lift _) fun object =>
                            leaves_bind (leaves_deleteObject object) fun _ => leaves_pure _
                        exact leaves _ state
                    | _ => rfl
              · obtain ⟨fault, faulted⟩ := run_findObject_fault can
                simp only [faulted]
                rfl

theorem final_handleWrite (written : OpCode.ofCode? message.eOpCode = some .write)
    (can : CanFind message.pcObjName state.xRibObjectTable)
    (uncalled : ¬ state.CallsHandler codecs outcomes message port) :
    final ((handleWrite codecs outcomes message).run state) = state := by
  cases name : message.pcObjName with
  | null => simp [handleWrite, name]
  | stray => simp [handleWrite, name]
  | target text =>
      simp only [handleWrite, name, Pointer.read_target, EStateM.run_bind, run_lift]
      by_cases aData : text = "a_data"
      · simp only [aData, if_true]
        cases value : message.pxObjValue with
        | null => rfl
        | stray => rfl
        | target contents =>
            simp only [Pointer.read_target, EStateM.run_bind, run_lift]
            cases decoded : pxSerdesMsgDecodeAData codecs.aData outcomes.aData contents with
            | none => rfl
            | some aDataMsg =>
                simp only [deref_some]
                by_cases addressed : aDataMsg.xDestinationAddress = localAddress.toNat
                · simp only [addressed, if_true]
                  rw [final_bind_of_still fun _ _ => rfl]
                  apply final_handledAData
                  intro inner nested target decodes createR printed found
                  apply uncalled
                  refine ⟨can, ?_⟩
                  simp only [written]
                  refine ⟨by rw [name, aData], nested, ?_, createR, printed, found⟩
                  exact (MessageCdap.nested_eq_some value decoded).mpr
                    ⟨addressed, inner, target, decodes⟩
                · simp only [addressed, if_false]
                  rfl
      · simp only [aData, if_false]
        rfl

/-- A connect response of a connection in progress is answered by a request. -/
theorem connectR_registers (unanswered : state.Unanswered) (name : Pointer String) (port : PortId)
    (sends : ∀ text, name = .target text →
      state.SentOrFull codecs outcomes (startRequest codecs state.takenInvokeId)) :
    Registers outcomes .start state
        (final ((xEnrollmentHandleConnectR codecs outcomes name port).run state)) ∧
      (final ((xEnrollmentHandleConnectR codecs outcomes name port).run state)).Unanswered := by
  have faulting : (∀ text, name ≠ .target text) → Registers outcomes .start state
        (final ((xEnrollmentHandleConnectR codecs outcomes name port).run state)) ∧
      (final ((xEnrollmentHandleConnectR codecs outcomes name port).run state)).Unanswered := by
    intro absent
    obtain ⟨fault, faulted⟩ := run_findOrCreate_of_not_target state port absent
    have stopped : (putInProgress name port).run state = .error fault state :=
      run_bind_error faulted _
    rw [xEnrollmentHandleConnectR, run_bind_error stopped]
    exact ⟨registers_of_unsent rfl rfl, unanswered⟩
  cases name with
  | null => exact faulting nofun
  | stray => exact faulting nofun
  | target text =>
      have view : (state.started text port).requestView = state.requestView := by
        have leaves : Leaves RibState.requestView (putInProgress (.target text) port) :=
          leaves_putInProgress (fun _ _ => rfl) _ _
        have kept := leaves state
        rw [run_putInProgress_target] at kept
        exact kept
      have same : (state.started text port).handlerView = state.handlerView := by
        simp only [RibState.requestView, Prod.mk.injEq] at view
        rw [RibState.handlerView, view.1, view.2.1, RibState.handlerView]
      have started := unanswered_of_view same unanswered
      have table : (state.started text port).xPendingResponseHandlersTable =
          state.xPendingResponseHandlersTable := congrArg Prod.fst same
      have request : (state.started text port).SentOrFull codecs outcomes
          (startRequest codecs (state.started text port).takenInvokeId) := by
        rw [RibState.SentOrFull, table, takenInvokeId_started]
        exact sends text rfl
      rw [xEnrollmentHandleConnectR, run_bind_ok run_putInProgress_target,
        final_bind_of_still fun accepted next => by cases accepted <;> rfl]
      rw [run_sendRequest (OpCode.ofCode?_toCode .start) rfl]
      exact ⟨registers_of_view view (registers_sendRequest started.sized request),
        unanswered_encodeAndSend started _ _⟩

theorem response?_connectR (connectR : OpCode.ofCode? message.eOpCode = some .connectR) :
    message.response? codecs outcomes = none := by
  simp [MessageCdap.response?, MessageCdap.carried, connectR, OpCode.isResponse]

theorem handleConnectR_matches (unanswered : state.Unanswered)
    (connectR : OpCode.ofCode? message.eOpCode = some .connectR)
    (can : CanFind message.pcObjName state.xRibObjectTable)
    (responds : state.RespondsTo codecs outcomes message port) :
    RibEvent.MatchesRequests codecs state
        (final ((handleConnectR codecs outcomes message (state.connection port) port).run state))
        (outcomes, .message message port) ∧
      (final ((handleConnectR codecs outcomes message (state.connection port) port).run
        state)).Unanswered := by
  have quiet : RibEvent.MatchesRequests codecs state state (outcomes, .message message port) :=
    message_matches_of_same responds rfl fun _ => rfl
  cases known : state.connection port with
  | none => exact ⟨quiet, unanswered⟩
  | some connection =>
      by_cases inProgress : connection.xStatus = .inProgress
      · have connected : (state.changedConnection port fun connection =>
            connection.connectedTo message.pxSourceInfo.pcProcessName).Unanswered :=
          ⟨unanswered.sized, unanswered.uncalled⟩
        have registers := connectR_registers connected message.pxSourceInfo.pcProcessName port
          fun text named =>
            responds.connectR connection text connectR can known inProgress named
        rw [final_handleConnectR_inProgress inProgress, RibEvent.MatchesRequests,
          response?_connectR connectR]
        simp only [connectR, if_true]
        exact ⟨registers_of_view (by rfl) registers.1, registers.2⟩
      · rw [run_handleConnectR_other inProgress]
        exact ⟨quiet, unanswered⟩

/-- A message that is responded to is matched with the requests. -/
theorem message_matches (unanswered : state.Unanswered)
    (responds : state.RespondsTo codecs outcomes message port) :
    RibEvent.MatchesRequests codecs state
        (final ((vRibHandleMessage codecs outcomes message port).run state))
        (outcomes, .message message port) ∧
      (final ((vRibHandleMessage codecs outcomes message port).run state)).Unanswered := by
  rcases run_vRibHandleMessage with ⟨fault, run⟩ | ⟨opCode, known, can, run⟩
  · rw [run]
    exact ⟨message_matches_of_same responds rfl fun _ => rfl, unanswered⟩
  · rw [run]
    have quiet : opCode ≠ .connectR → ∀ after : RibState, after.handlerView = state.handlerView →
        RibEvent.MatchesRequests codecs state after (outcomes, .message message port) ∧
          after.Unanswered := by
      intro other after same
      refine ⟨message_matches_of_same responds same ?_, unanswered_of_view same unanswered⟩
      intro connectR
      exact absurd (Option.some.inj (known.symm.trans connectR)) other
    have called := responds.uncalled
    rw [RibState.CallsHandler, known] at called
    cases opCode with
    | connect => exact quiet nofun _ (leaves_connect _ _ state)
    | connectR => exact handleConnectR_matches unanswered known can responds
    | releaseR => exact quiet nofun _ (leaves_releaseR (fun _ _ => rfl) _ _ state)
    | create => exact quiet nofun _ (leaves_create (fun _ _ => rfl) message state)
    | stop =>
        exact quiet nofun _
          (leaves_stop (fun _ _ => rfl) (fun _ _ => rfl) (fun _ _ => rfl) message _ _ port state)
    | start =>
        exact quiet nofun _
          (leaves_start (fun _ _ => rfl) (fun _ _ => rfl) (fun _ _ => rfl) message _ _ port state)
    | startR =>
        have absent : state.connection port = none := by
          by_contra present
          exact called ⟨can, present⟩
        rw [absent]
        exact quiet nofun _ rfl
    | stopR =>
        have absent : state.connection port = none := by
          by_contra present
          exact called ⟨can, present⟩
        rw [absent]
        exact quiet nofun _ rfl
    | createR => exact absurd ⟨can, trivial⟩ called
    | write =>
        apply quiet nofun
        exact congrArg RibState.handlerView (final_handleWrite known can responds.uncalled)
    | _ => exact quiet nofun _ rfl

end Effects

end RinaSense
