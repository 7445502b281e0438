import RinaSense.Rib.ResponseHandlers

/-!
# Safety of the management messages

A management PDU holds whatever the peer sends. Its handling should follow no pointer
that is not there, and report a message that cannot be decoded or answered. The module
finds the messages for which that is so, operation by operation.
-/

namespace RinaSense

open Command

/-! ## Purpose -/

/-- What the daemon is given: the bytes of a management PDU, or a message decoded
already. -/
inductive ManagementInput where
  | pdu (contents : List UInt8)
  | message (pxDecodeCdap : MessageCdap)

namespace RibState

/-- The object a message is about. -/
def object (state : RibState) (message : MessageCdap) : Option RibObject :=
  findRow RibObject.ucObjName message.pcObjName state.xRibObjectTable

/-- The neighbor at the other end of a connection. -/
def peer (state : RibState) (connection : AppConnection) : Option NeighborInfo :=
  findRow NeighborInfo.pcApName connection.pxDestinationInfo.pcProcessName state.xNeighborsTable

section Answers

variable (codecs : RibCodecs) (outcomes : RibOutcomes) (state : RibState)

/-- The answer to a stop of the object. -/
def stopAnswered (object : RibObject) (message : MessageCdap) : MessageCdap :=
  stopResponse (some object.ucObjName) object.ulObjInst message.invokeID

/-- The answer to a start of the operational object. -/
def startAnswered (object : RibObject) (neighbor : NeighborInfo) (message : MessageCdap) :
    MessageCdap :=
  startResponse (some object.ucObjName) object.ulObjInst message.invokeID
    (codecs.neighbor.encodeWithin mtu
      { apname := some normalProcessName
        apinstance := some normalProcessInstance
        aename := some managementAe
        aeinstance := neighbor.pcToken.value?
        address := none })

/-- No answer can be given to the message inside an a_data object. -/
def NestedUnanswerable (nested : MessageCdap) : Prop :=
  match OpCode.ofCode? nested.eOpCode with
  | some .createR => state.pending nested.invokeID = none
  | some .delete => state.object nested = none
  | _ => True

/-- No answer can be given to the message: the operation is none the daemon handles, it
needs a connection, an object, a neighbor or a request that is not there, or what is
sent for it cannot be encoded. -/
def Unanswerable (message : MessageCdap) (port : PortId) : OpCode → Prop
  | .connect => False
  | .connectR => ∀ connection, state.connection port = some connection →
      connection.xStatus = .inProgress ∧
        CannotEncode codecs outcomes (startRequest codecs state.takenInvokeId)
  | .releaseR => state.connection port = none
  | .create => False
  | .delete => False
  | .stop => ∀ object connection, state.object message = some object →
      state.connection port = some connection →
        state.peer connection = none ∨
          CannotEncode codecs outcomes (stopAnswered object message)
  | .start => ∀ object connection, state.object message = some object →
      state.connection port = some connection →
        object.pxObjOps.start = some .operationalStart ∧
          ∀ neighbor, state.peer connection = some neighbor →
            CannotEncode codecs outcomes (startAnswered codecs object neighbor message)
  | .startR => state.pending message.invokeID = none ∨ state.connection port = none
  | .stopR => state.pending message.invokeID = none ∨ state.connection port = none
  | .createR => state.pending message.invokeID = none
  | .write => message.pcObjName = .target "a_data" ∧
      ∃ nested, message.nested codecs outcomes = some nested ∧ state.NestedUnanswerable nested
  | _ => True

end Answers

end RibState

namespace ManagementInput

variable (codecs : RibCodecs) (outcomes : RibOutcomes) (state : RibState) (port : PortId)

/-- The function that is given the input. -/
def handle : ManagementInput → Rib Bool
  | pdu contents => Rib.xRibdProcessLayerManagementPDU codecs outcomes port contents
  | message decoded => vRibHandleMessage codecs outcomes decoded port

/-- The message, if the input can be decoded. -/
def decoded : ManagementInput → Option MessageCdap
  | pdu contents => prvRibdDecodeCDAP codecs.cdap outcomes.message contents
  | message decoded => some decoded

/-- The input cannot be decoded or answered. -/
def MustFail (input : ManagementInput) : Prop :=
  ∀ message opCode, input.decoded codecs outcomes = some message →
    OpCode.ofCode? message.eOpCode = some opCode →
      state.Unanswerable codecs outcomes message port opCode

/-- The input is handled without a fault, and reported if it has to be. -/
def HandledSafely (input : ManagementInput) : Prop :=
  ∃ value next, (input.handle codecs outcomes port).run state = .ok value next ∧
    (input.MustFail codecs outcomes state port → value = false)

end ManagementInput

/-! ## Condition -/

namespace RibState

variable (codecs : RibCodecs) (outcomes : RibOutcomes) (state : RibState)

/-- The handler of the request for an object is there, and the value can be read if it
is looked at. -/
def CallsCreate (message : MessageCdap) : Prop :=
  ∃ row, state.pending message.invokeID = some row ∧
    row.pxCallbackHandler.ops.createResponse = true ∧
    (message.result = 0 → message.pxObjValue ≠ .stray)

/-- The message inside an a_data object can be printed, and its request or its object
is there. -/
def HandlesNested (nested : MessageCdap) : Prop :=
  vRibdPrintCdapMessage (some nested) = .ok () ∧
    CanFind nested.pcObjName state.xRibObjectTable ∧
    match OpCode.ofCode? nested.eOpCode with
    | some .createR => state.CallsCreate nested
    | some .delete => ∃ object, state.object nested = some object ∧ object.pxObjOps.delete = true
    | _ => False

/-- The object value holds enrollment information. -/
def HoldsInformation (message : MessageCdap) : Prop :=
  ∃ contents information, message.pxObjValue = .target contents ∧
    codecs.enrollment.decode contents = some information

/-- What the `start` operation of the object needs. -/
def Starts (object : RibObject) (connection : AppConnection) (message : MessageCdap) : Prop :=
  match object.pxObjOps.start with
  | none => False
  | some .enroller => connection.pxDestinationInfo.pcProcessName.IsSet ∧
      ∀ neighbor, state.peer connection = some neighbor →
        neighbor.eEnrollmentState = .inProgress → HoldsInformation codecs message
  | some .operationalStart => ∃ neighbor, state.peer connection = some neighbor ∧
      neighbor.pcToken.Fits neighborTextSize ∧
      CanSend codecs outcomes (startAnswered codecs object neighbor message)

/-- Everything the operation uses is there, and it is answered. -/
def Handles (message : MessageCdap) (port : PortId) : OpCode → Prop
  | .connect => state.connection port ≠ none
  | .connectR => ∃ connection, state.connection port = some connection ∧
      (connection.xStatus = .inProgress → message.pxSourceInfo.pcProcessName.IsSet ∧
        CanSend codecs outcomes (startRequest codecs state.takenInvokeId))
  | .releaseR => state.connection port ≠ none
  | .create => message.pcObjName.IsSet
  | .delete => True
  | .stop => ∃ object connection, state.object message = some object ∧
      state.connection port = some connection ∧ object.pxObjOps.stop = true ∧
      state.peer connection ≠ none ∧ HoldsInformation codecs message ∧
      CanSend codecs outcomes (stopAnswered object message)
  | .start => ∃ object connection, state.object message = some object ∧
      state.connection port = some connection ∧
      state.Starts codecs outcomes object connection message
  | .startR => ∃ connection row, state.connection port = some connection ∧
      state.pending message.invokeID = some row ∧
      row.pxCallbackHandler.ops.startResponse = true
  | .stopR => ∃ connection row, state.connection port = some connection ∧
      state.pending message.invokeID = some row ∧
      row.pxCallbackHandler.ops.stopResponse = true ∧
      connection.pxDestinationInfo.pcProcessName ≠ .stray
  | .createR => state.CallsCreate message
  | .write => message.pcObjName.IsSet ∧ (message.pcObjName = .target "a_data" →
      ∃ contents aDataMsg, message.pxObjValue = .target contents ∧
        pxSerdesMsgDecodeAData codecs.aData outcomes.aData contents = some aDataMsg ∧
        (aDataMsg.xDestinationAddress = localAddress.toNat →
          ∃ nested, message.nested codecs outcomes = some nested ∧ state.HandlesNested nested))
  | _ => False

end RibState

/-- The operations without a case in the switch, which are reported. -/
def OpCode.IsRefused : OpCode → Prop
  | .release | .deleteR | .read | .readR | .cancelRead | .cancelReadR | .writeR => True
  | _ => False

/-- A message is handled if its object name can be looked up and everything it needs is
there; one that is not decoded yet must be printable too, and handled by the switch. -/
def ManagementInput.Supported (codecs : RibCodecs) (outcomes : RibOutcomes) (state : RibState)
    (port : PortId) : ManagementInput → Prop
  | pdu contents => ∃ message opCode,
      prvRibdDecodeCDAP codecs.cdap outcomes.message contents = some message ∧
        vRibdPrintCdapMessage (some message) = .ok () ∧
        OpCode.ofCode? message.eOpCode = some opCode ∧
        CanFind message.pcObjName state.xRibObjectTable ∧
        state.Handles codecs outcomes message port opCode
  | message decoded => ∃ opCode, OpCode.ofCode? decoded.eOpCode = some opCode ∧
      CanFind decoded.pcObjName state.xRibObjectTable ∧
      (opCode.IsRefused ∨ state.Handles codecs outcomes decoded port opCode)

/-! ## Parts of the handlers -/

section Parts

variable {codecs : RibCodecs} {outcomes : RibOutcomes} {state : RibState} {port : PortId}
  {message : MessageCdap}

/-- Encoding the message ends without a fault. -/
def Encodes (codecs : RibCodecs) (outcomes : RibOutcomes) (message : MessageCdap) : Prop :=
  ∃ encoded, prvRibdEncodeCDAP codecs.cdap outcomes.bufferObtained (some message) = .ok encoded

theorem canSend_iff :
    CanSend codecs outcomes message ↔
      Encodes codecs outcomes message ∧ ¬ CannotEncode codecs outcomes message := by
  constructor
  · intro ⟨contents, sent⟩
    refine ⟨⟨_, sent⟩, ?_⟩
    intro failed
    have same := sent.symm.trans failed
    cases same
  · intro ⟨⟨encoded, ended⟩, encodes⟩
    cases encoded with
    | none => exact absurd ended encodes
    | some contents => exact ⟨contents, ended⟩

theorem returns_encodeAndSend :
    Returns (encodeAndSend codecs outcomes (some message) port) state ↔
      Encodes codecs outcomes message := by
  simp only [Returns, Wp, run_encodeAndSend, Encodes]
  cases prvRibdEncodeCDAP codecs.cdap outcomes.bufferObtained (some message) with
  | error fault => simp
  | ok encoded => cases encoded <;> simp

/-- Nothing that comes after the answer is sent leads to a fault. -/
theorem returns_reported {send : Rib Bool} :
    Returns (do
      if !(← send) then
        return false
      return true : Rib Bool) state ↔ Returns send state := by
  apply returns_bind_of_total
  intro sent next
  cases sent <;> trivial

theorem wp_read {contents : Pointer (List UInt8)} {post : List UInt8 → RibState → Prop} :
    Wp (liftM contents.read : Rib (List UInt8)) post state ↔
      ∃ bytes, contents = .target bytes ∧ post bytes state := by
  simp only [wp_lift, Pointer.read_eq_ok]

theorem wp_findObject {name : Pointer String} {post : Option RibObject → RibState → Prop} :
    Wp (pxRibFindObject name) post state ↔
      CanFind name state.xRibObjectTable ∧
        post (findRow RibObject.ucObjName name state.xRibObjectTable) state := by
  by_cases can : CanFind name state.xRibObjectTable
  · simp only [Wp, run_findObject can, can, true_and]
  · obtain ⟨fault, faulted⟩ := run_findObject_fault can
    simp only [Wp, faulted, can, false_and]

theorem wp_findNeighbor {name : Pointer String} {post : Option NeighborInfo → RibState → Prop} :
    Wp (pxEnrollmentFindNeighbor name) post state ↔
      CanFind name state.xNeighborsTable ∧
        post (findRow NeighborInfo.pcApName name state.xNeighborsTable) state := by
  by_cases can : CanFind name state.xNeighborsTable
  · simp only [Wp, run_findNeighbor can, can, true_and]
  · obtain ⟨fault, faulted⟩ := run_findNeighbor_fault can
    simp only [Wp, faulted, can, false_and]

theorem wp_findPending {invokeID : Int} {post : Option RibCallback → RibState → Prop} :
    Wp (pxRibdFindPendingResponseHandler invokeID) post state ↔
      post ((state.pending invokeID).map ResponseHandlersRow.pxCallbackHandler) state := Iff.rfl

/-- A callback is called if it is there and its field was set. -/
theorem wp_callHandler {field : RibCallbackOps → Bool} {row : Option ResponseHandlersRow}
    {post : PUnit → RibState → Prop} :
    Wp (callHandler field (row.map ResponseHandlersRow.pxCallbackHandler)) post state ↔
      ∃ found, row = some found ∧ field found.pxCallbackHandler.ops = true ∧
        post ⟨⟩ { state with
          invoked := state.invoked ++ [some found.pxCallbackHandler.address] } := by
  cases row with
  | none => simp [callHandler, recordCall]
  | some found =>
      cases set : field found.pxCallbackHandler.ops with
      | false => simp [callHandler, recordCall, set]
      | true => simp [callHandler, recordCall, set]

theorem returns_createResponse {value : Pointer (List UInt8)} {result : Int} :
    Returns (createResponse codecs outcomes value result) state ↔
      (result = 0 → value ≠ .stray) := by
  by_cases succeeded : result = 0
  · cases value with
    | null => simp [createResponse, Returns]
    | stray => simp [createResponse, Returns, succeeded]
    | target contents =>
        simp only [createResponse, Returns, wp_bind, succeeded, reduceCtorEq, if_false, ne_eq,
          not_true_eq_false, wp_read, Pointer.target.injEq, exists_eq_left', forall_const,
          not_false_eq_true, iff_true]
        cases codecs.flow.decode contents with
        | none => trivial
        | some _ => trivial
  · apply iff_of_true _ fun zero => absurd zero succeeded
    simp only [createResponse, ne_eq, succeeded, not_false_eq_true, if_true]
    split
    · trivial
    · trivial

theorem returns_respondCreate :
    Returns (respondCreate codecs outcomes message) state ↔ state.CallsCreate message := by
  rw [respondCreate, Returns, wp_bind, wp_findPending, wp_bind, wp_callHandler]
  apply exists_congr
  intro row
  apply and_congr_right
  intro _
  apply and_congr_right
  intro _
  exact returns_createResponse

end Parts

/-! ## The handlers of the enrollment -/

section Enrollment

variable {codecs : RibCodecs} {outcomes : RibOutcomes} {state : RibState} {port : PortId}
  {message : MessageCdap} {object : RibObject} {connection : AppConnection}

theorem isSet_target {text : String} : (Pointer.target text).IsSet := ⟨text, rfl⟩

theorem not_isSet {name : Pointer String} (absent : ∀ text, name ≠ .target text) : ¬ name.IsSet :=
  fun ⟨text, target⟩ => absent text target

/-- The request that answers a connect response. -/
theorem returns_enrollmentConnectR {name : Pointer String} :
    Returns (xEnrollmentHandleConnectR codecs outcomes name port) state ↔
      name.IsSet ∧ Encodes codecs outcomes (startRequest codecs state.takenInvokeId) := by
  have faulting : (∀ text, name ≠ .target text) →
      (Returns (xEnrollmentHandleConnectR codecs outcomes name port) state ↔
        name.IsSet ∧ Encodes codecs outcomes (startRequest codecs state.takenInvokeId)) := by
    intro absent
    obtain ⟨fault, faulted⟩ := run_findOrCreate_of_not_target state port absent
    have stopped : (putInProgress name port).run state = .error fault state :=
      run_bind_error faulted _
    have fails : ¬ Returns (xEnrollmentHandleConnectR codecs outcomes name port) state :=
      not_returns_of_error (run_bind_error stopped _)
    exact iff_of_false fails fun both => not_isSet absent both.1
  cases name with
  | null => exact faulting nofun
  | stray => exact faulting nofun
  | target text =>
      rw [xEnrollmentHandleConnectR, returns_bind_of_ok run_putInProgress_target,
        returns_reported]
      have sent : Returns (xRibdSendRequest codecs outcomes (some "Enrollment")
          (some "/difm/enr") (-1) OpCode.start.toCode port
          (pxSerdesMsgEnrollmentEncode codecs.enrollment localAddress.toUInt64))
          (state.started text port) ↔
            Encodes codecs outcomes (startRequest codecs state.takenInvokeId) := by
        rw [Returns, Wp, run_sendRequest (OpCode.ofCode?_toCode .start) rfl,
          takenInvokeId_started]
        exact returns_encodeAndSend
      exact sent.trans (iff_and_self.mpr fun _ => isSet_target)

/-- The answer to a stop, once the value is decoded. -/
theorem returns_answerStop {text : String} {token : Pointer String} :
    Returns (answerStop codecs outcomes object text token message.invokeID port) state ↔
      Encodes codecs outcomes (RibState.stopAnswered object message) := by
  rw [answerStop, returns_bind_of_ok (run_changeNeighbor _), returns_reported]
  rw [Returns, Wp, run_sendResponse_stop]
  exact returns_encodeAndSend

theorem returns_enrollmentStop :
    Returns (xEnrollmentHandleStop codecs outcomes object message.pxObjValue
        connection.pxDestinationInfo.pcProcessName message.invokeID port) state ↔
      CanFind connection.pxDestinationInfo.pcProcessName state.xNeighborsTable ∧
        (state.peer connection ≠ none → RibState.HoldsInformation codecs message ∧
          Encodes codecs outcomes (RibState.stopAnswered object message)) := by
  rw [xEnrollmentHandleStop, Returns, wp_bind, wp_findNeighbor]
  apply and_congr_right
  intro _
  rw [RibState.peer]
  cases findRow NeighborInfo.pcApName connection.pxDestinationInfo.pcProcessName
    state.xNeighborsTable with
  | none => simp
  | some neighbor =>
      simp only [changeNeighbor, wp_bind, wp_modify, wp_read, ne_eq, reduceCtorEq,
        not_false_eq_true, forall_const]
      constructor
      · rintro ⟨contents, value, returned⟩
        rw [pxSerdesMsgEnrollmentDecode] at returned
        cases decoded : codecs.enrollment.decode contents with
        | none =>
            rw [decoded] at returned
            exact returned.elim
        | some information =>
            rw [decoded] at returned
            exact ⟨⟨contents, information, value, decoded⟩, returns_answerStop.mp returned⟩
      · rintro ⟨⟨contents, information, value, decoded⟩, encodes⟩
        refine ⟨contents, value, ?_⟩
        rw [pxSerdesMsgEnrollmentDecode, decoded]
        exact returns_answerStop.mpr encodes

theorem returns_enroller :
    Returns (xEnrollmentEnroller codecs outcomes message.pxObjValue
        connection.pxDestinationInfo.pcProcessName port) state ↔
      connection.pxDestinationInfo.pcProcessName.IsSet ∧
        ∀ neighbor, state.peer connection = some neighbor →
          neighbor.eEnrollmentState = .inProgress → RibState.HoldsInformation codecs message := by
  rw [RibState.peer]
  generalize connection.pxDestinationInfo.pcProcessName = name
  have faulting : (∀ text, name ≠ .target text) →
      (Returns (xEnrollmentEnroller codecs outcomes message.pxObjValue name port) state ↔
        name.IsSet ∧ ∀ neighbor,
          findRow NeighborInfo.pcApName name state.xNeighborsTable = some neighbor →
            neighbor.eEnrollmentState = .inProgress →
              RibState.HoldsInformation codecs message) := by
    intro absent
    obtain ⟨fault, faulted⟩ := run_findOrCreate_of_not_target state port absent
    have fails : ¬ Returns (xEnrollmentEnroller codecs outcomes message.pxObjValue name port)
        state := not_returns_of_error (run_bind_error faulted _)
    exact iff_of_false fails fun both => not_isSet absent both.1
  cases name with
  | null => exact faulting (by rintro _ ⟨⟩)
  | stray => exact faulting (by rintro _ ⟨⟩)
  | target text =>
      have found : findRow NeighborInfo.pcApName (.target text) state.xNeighborsTable =
          state.neighbor text := rfl
      rw [xEnrollmentEnroller, returns_bind_of_ok run_findOrCreate_target, found]
      cases known : state.neighbor text with
      | none => exact iff_of_true trivial ⟨isSet_target, by rintro _ ⟨⟩⟩
      | some neighbor =>
          simp only [isSet_target, true_and, Option.some.injEq, forall_eq', Option.getD_some]
          cases neighbor.eEnrollmentState with
          | none => exact iff_of_true trivial (by rintro ⟨⟩)
          | enrolled => exact iff_of_true trivial (by rintro ⟨⟩)
          | inProgress =>
              simp only [Returns, wp_bind, wp_read, forall_const]
              constructor
              · rintro ⟨contents, value, returned⟩
                rw [pxSerdesMsgEnrollmentDecode] at returned
                cases decoded : codecs.enrollment.decode contents with
                | none =>
                    rw [decoded] at returned
                    exact returned.elim
                | some information => exact ⟨contents, information, value, decoded⟩
              · rintro ⟨contents, information, value, decoded⟩
                refine ⟨contents, value, ?_⟩
                rw [pxSerdesMsgEnrollmentDecode, decoded]
                trivial

/-- Of the four strings of the neighbor only the token may not fit. -/
theorem neighborEncode_eq_ok {left : NeighborMessage} {token : Pointer String}
    {value : Option (List UInt8)} :
    pxSerdesMsgNeighborEncode codecs.neighbor
        { left with
          pcApName := .target normalProcessName
          pcApInstance := .target normalProcessInstance
          pcAeName := .target managementAe
          pcAeInstance := token } = .ok value ↔
      token.Fits neighborTextSize ∧ value = codecs.neighbor.encodeWithin mtu
        { apname := some normalProcessName
          apinstance := some normalProcessInstance
          aename := some managementAe
          aeinstance := token.value?
          address := none } := by
  have short : ∀ text : String, text.utf8ByteSize < neighborTextSize →
      copyIfSet neighborTextSize (.target text) = .ok (some text) := by
    intro text short
    apply copyIfSet_of_fits
    refine ⟨nofun, ?_⟩
    intro other equal
    rw [← Pointer.target.inj equal]
    exact short
  have encode : ∀ fits : token.Fits neighborTextSize,
      pxSerdesMsgNeighborEncode codecs.neighbor
        { left with
          pcApName := .target normalProcessName
          pcApInstance := .target normalProcessInstance
          pcAeName := .target managementAe
          pcAeInstance := token } =
        .ok (codecs.neighbor.encodeWithin mtu
          { apname := some normalProcessName
            apinstance := some normalProcessInstance
            aename := some managementAe
            aeinstance := token.value?
            address := none }) := by
    intro fits
    simp only [pxSerdesMsgNeighborEncode, prvSerdesMsgEncodeNeighbor, copyIfSet_of_fits fits,
      short managementAe (by decide), short normalProcessInstance (by decide),
      short normalProcessName (by decide), ok_bind]
    rfl
  constructor
  · intro encoded
    have copied := encoded
    simp only [pxSerdesMsgNeighborEncode, prvSerdesMsgEncodeNeighbor, bind_eq_ok] at copied
    obtain ⟨_, ⟨_, copies, _⟩, _⟩ := copied
    have fits := fits_of_copyIfSet copies
    exact ⟨fits, Except.ok.inj (encoded.symm.trans (encode fits))⟩
  · intro ⟨fits, equal⟩
    rw [equal]
    exact encode fits

theorem returns_operationalStart :
    Returns (xEnrollmentHandleOperationalStart codecs outcomes object
        connection.pxDestinationInfo.pcProcessName message.invokeID port) state ↔
      ∃ neighbor, state.peer connection = some neighbor ∧
        neighbor.pcToken.Fits neighborTextSize ∧
        Encodes codecs outcomes (RibState.startAnswered codecs object neighbor message) := by
  rw [xEnrollmentHandleOperationalStart, Returns, wp_bind, wp_findNeighbor, RibState.peer]
  generalize connection.pxDestinationInfo.pcProcessName = name
  cases found : findRow NeighborInfo.pcApName name state.xNeighborsTable with
  | none =>
      apply iff_of_false
      · exact fun both => both.2
      · rintro ⟨_, ⟨⟩, _⟩
  | some neighbor =>
      have can : CanFind name state.xNeighborsTable := by
        cases name with
        | target text => exact trivial
        | null => cases found
        | stray => cases found
      have sent : ∀ value, Returns (do
          if !(← xRibdSendResponse codecs outcomes none (some object.ucObjName) object.ulObjInst 0
              .startR message.invokeID port value) then
            return false
          return true : Rib Bool) state ↔ Encodes codecs outcomes
            (startResponse (some object.ucObjName) object.ulObjInst message.invokeID value) := by
        intro value
        rw [returns_reported, Returns, Wp, run_sendResponse_start]
        exact returns_encodeAndSend
      simp only [can, true_and, wp_bind, wp_lift, neighborEncode_eq_ok, Option.some.injEq,
        exists_eq_left']
      constructor
      · rintro ⟨value, ⟨fits, equal⟩, returned⟩
        rw [equal] at returned
        exact ⟨fits, (sent _).mp (wp_bind.mpr returned)⟩
      · rintro ⟨fits, encodes⟩
        exact ⟨_, ⟨fits, rfl⟩, wp_bind.mp ((sent _).mpr encodes)⟩

end Enrollment

/-! ## The cases of the switch -/

section Cases

variable {codecs : RibCodecs} {outcomes : RibOutcomes} {state : RibState} {port : PortId}
  {message : MessageCdap}

theorem returns_handleConnectR :
    Returns (handleConnectR codecs outcomes message (state.connection port) port) state ↔
      ∃ connection, state.connection port = some connection ∧
        (connection.xStatus = .inProgress → message.pxSourceInfo.pcProcessName.IsSet ∧
          Encodes codecs outcomes (startRequest codecs state.takenInvokeId)) := by
  cases state.connection port with
  | none => simp [handleConnectR, Returns]
  | some connection =>
      simp only [Option.some.injEq, exists_eq_left']
      by_cases inProgress : connection.xStatus = .inProgress
      · simp only [handleConnectR, changeAppConnection, Returns, wp_bind, wp_lift, deref_eq_ok,
          Option.some.injEq, exists_eq_left', inProgress, ne_eq, not_true_eq_false, if_false,
          wp_modify, wp_pure, forall_const]
        exact returns_enrollmentConnectR
      · have returns : Returns (handleConnectR codecs outcomes message (some connection) port)
            state := by
          rw [Returns, Wp, run_handleConnectR_other inProgress]
          trivial
        exact iff_of_true returns fun started => absurd started inProgress

theorem returns_handleReleaseR :
    Returns (handleReleaseR (state.connection port) port) state ↔
      state.connection port ≠ none := by
  cases state.connection port with
  | none => simp [handleReleaseR, Returns]
  | some connection =>
      apply iff_of_true _ (Option.some_ne_none connection)
      rw [handleReleaseR, Returns, wp_bind, wp_lift]
      refine ⟨connection, rfl, ?_⟩
      split
      · trivial
      · trivial

theorem returns_handleCreate :
    Returns (handleCreate outcomes message) state ↔ message.pcObjName.IsSet := by
  simp only [handleCreate, pxRibCreateObject, Returns, wp_bind, wp_lift, Pointer.read_eq_ok,
    wp_modify, wp_pure, and_true, Pointer.IsSet]

theorem returns_handleStop :
    Returns (handleStop codecs outcomes message (state.connection port) (state.object message)
        port) state ↔
      ∃ object connection, state.object message = some object ∧
        state.connection port = some connection ∧ object.pxObjOps.stop = true ∧
        CanFind connection.pxDestinationInfo.pcProcessName state.xNeighborsTable ∧
        (state.peer connection ≠ none → RibState.HoldsInformation codecs message ∧
          Encodes codecs outcomes (RibState.stopAnswered object message)) := by
  simp only [handleStop, Returns, wp_bind, wp_lift, deref_eq_ok, wp_pure]
  apply exists_congr
  intro object
  rw [← exists_and_left]
  apply exists_congr
  intro connection
  apply and_congr_right
  intro _
  apply and_congr_right
  intro _
  rw [stopObject]
  cases object.pxObjOps.stop with
  | false => exact iff_of_false id fun stops => Bool.false_ne_true stops.1
  | true =>
      simp only [if_true, true_and]
      exact returns_enrollmentStop

theorem returns_handleStart :
    Returns (handleStart codecs outcomes message (state.connection port) (state.object message)
        port) state ↔
      ∃ object connection, state.object message = some object ∧
        state.connection port = some connection ∧
        match object.pxObjOps.start with
        | none => False
        | some .enroller => connection.pxDestinationInfo.pcProcessName.IsSet ∧
            ∀ neighbor, state.peer connection = some neighbor →
              neighbor.eEnrollmentState = .inProgress → RibState.HoldsInformation codecs message
        | some .operationalStart => ∃ neighbor, state.peer connection = some neighbor ∧
            neighbor.pcToken.Fits neighborTextSize ∧
            Encodes codecs outcomes (RibState.startAnswered codecs object neighbor message) := by
  simp only [handleStart, Returns, wp_bind, wp_lift, deref_eq_ok, wp_pure]
  apply exists_congr
  intro object
  rw [← exists_and_left]
  apply exists_congr
  intro connection
  apply and_congr_right
  intro _
  apply and_congr_right
  intro _
  rw [startObject]
  cases object.pxObjOps.start with
  | none => exact Iff.rfl
  | some operation =>
      cases operation with
      | enroller => exact returns_enroller
      | operationalStart => exact returns_operationalStart

theorem returns_handleStartR :
    Returns (handleStartR message (state.connection port)) state ↔
      ∃ connection row, state.connection port = some connection ∧
        state.pending message.invokeID = some row ∧
        row.pxCallbackHandler.ops.startResponse = true := by
  rw [handleStartR, Returns, wp_bind, wp_findPending]
  simp only [wp_bind, wp_lift, deref_eq_ok, wp_callHandler, xEnrollmentHandleStartR, wp_pure,
    and_true, exists_and_left]

theorem returns_enrollmentStopR {name : Pointer String} :
    Returns (xEnrollmentHandleStopR name) state ↔ name ≠ .stray := by
  cases name with
  | null => simp [xEnrollmentHandleStopR, Returns]
  | stray => simp [xEnrollmentHandleStopR, Returns, wp_findNeighbor, CanFind]
  | target text =>
      apply iff_of_true _ (by rintro ⟨⟩)
      rw [xEnrollmentHandleStopR, if_neg (by rintro ⟨⟩), Returns, wp_bind, wp_findNeighbor]
      refine ⟨trivial, ?_⟩
      cases findRow NeighborInfo.pcApName (.target text) state.xNeighborsTable with
      | none => trivial
      | some neighbor => trivial

theorem returns_handleStopR :
    Returns (handleStopR message (state.connection port)) state ↔
      ∃ connection row, state.connection port = some connection ∧
        state.pending message.invokeID = some row ∧
        row.pxCallbackHandler.ops.stopResponse = true ∧
        connection.pxDestinationInfo.pcProcessName ≠ .stray := by
  rw [handleStopR, Returns, wp_bind, wp_findPending]
  simp only [wp_bind, wp_lift, deref_eq_ok, wp_callHandler, wp_pure, exists_and_left]
  apply exists_congr
  intro connection
  apply and_congr_right
  intro _
  apply exists_congr
  intro row
  apply and_congr_right
  intro _
  apply and_congr_right
  intro _
  exact returns_enrollmentStopR

/-- The message inside an a_data object is handled without a fault. -/
def RibState.RunsNested (state : RibState) (nested : MessageCdap) : Prop :=
  vRibdPrintCdapMessage (some nested) = .ok () ∧
    CanFind nested.pcObjName state.xRibObjectTable ∧
    match OpCode.ofCode? nested.eOpCode with
    | some .createR => state.CallsCreate nested
    | some .delete => ∃ object, state.object nested = some object ∧ object.pxObjOps.delete = true
    | _ => True

theorem returns_deleteObject {object : RibObject} :
    Returns (deleteObject object) state ↔ object.pxObjOps.delete = true := by
  cases set : object.pxObjOps.delete with
  | false => simp [deleteObject, Returns, set]
  | true => simp [deleteObject, Returns, set]

theorem returns_handledAData {value : Pointer (List UInt8)} :
    Returns (prvRibdHandledAData codecs outcomes value) state ↔
      ∃ contents nested, value = .target contents ∧
        prvRibdDecodeCDAP codecs.cdap outcomes.nested contents = some nested ∧
        state.RunsNested nested := by
  rw [prvRibdHandledAData, Returns, wp_bind, wp_read]
  apply exists_congr
  intro contents
  rw [exists_and_left]
  apply and_congr_right
  intro _
  cases prvRibdDecodeCDAP codecs.cdap outcomes.nested contents with
  | none => simp [vRibdPrintCdapMessage]
  | some nested =>
      simp only [wp_bind, wp_lift, deref_some, Option.some.injEq, exists_eq_left',
        Except.ok.injEq, wp_findObject]
      have handled : Wp (match OpCode.ofCode? nested.eOpCode with
          | some .createR => do
              let _ ← respondCreate codecs outcomes nested
          | some .delete => do
              let object ← deref (state.object nested)
              let _ ← deleteObject object
          | _ => return () : Rib Unit) (fun _ _ => True) state ↔
          match OpCode.ofCode? nested.eOpCode with
          | some .createR => state.CallsCreate nested
          | some .delete =>
              ∃ object, state.object nested = some object ∧ object.pxObjOps.delete = true
          | _ => True := by
        split
        · simp only [wp_bind, wp_pure]
          exact returns_respondCreate
        · simp only [wp_bind, wp_lift, deref_eq_ok, wp_pure]
          apply exists_congr
          intro object
          exact and_congr_right fun _ => returns_deleteObject
        · exact Iff.rfl
      constructor
      · rintro ⟨⟨⟩, printed, can, returned⟩
        exact ⟨printed, can, handled.mp returned⟩
      · rintro ⟨printed, can, runs⟩
        exact ⟨⟨⟩, printed, can, handled.mpr runs⟩

theorem returns_handleWrite :
    Returns (handleWrite codecs outcomes message) state ↔
      message.pcObjName.IsSet ∧ (message.pcObjName = .target "a_data" →
        ∃ contents aDataMsg, message.pxObjValue = .target contents ∧
          pxSerdesMsgDecodeAData codecs.aData outcomes.aData contents = some aDataMsg ∧
          (aDataMsg.xDestinationAddress = localAddress.toNat →
            ∃ nested, message.nested codecs outcomes = some nested ∧ state.RunsNested nested)) := by
  cases name : message.pcObjName with
  | null => simp [handleWrite, Returns, name, Pointer.IsSet]
  | stray => simp [handleWrite, Returns, name, Pointer.IsSet]
  | target text =>
      simp only [handleWrite, name, Returns, wp_bind, wp_lift, Pointer.read_target, Except.ok.injEq,
        exists_eq_left', isSet_target, true_and, Pointer.target.injEq]
      by_cases aData : text = "a_data"
      · simp only [aData, if_true, wp_bind, wp_lift, deref_eq_ok, Pointer.read_eq_ok, forall_const]
        apply exists_congr
        intro contents
        rw [exists_and_left]
        apply and_congr_right
        intro value
        apply exists_congr
        intro aDataMsg
        apply and_congr_right
        intro decoded
        by_cases addressed : aDataMsg.xDestinationAddress = localAddress.toNat
        · simp only [addressed, if_true, wp_bind, wp_pure, forall_const]
          refine returns_handledAData.trans ?_
          constructor
          · rintro ⟨inner, nested, target, decodes, runs⟩
            exact ⟨nested, (MessageCdap.nested_eq_some value decoded).mpr
              ⟨addressed, inner, target, decodes⟩, runs⟩
          · rintro ⟨nested, found, runs⟩
            obtain ⟨_, inner, target, decodes⟩ :=
              (MessageCdap.nested_eq_some value decoded).mp found
            exact ⟨inner, nested, target, decodes, runs⟩
        · simp only [addressed, if_false, false_implies, iff_true]
          trivial
      · simp only [aData, if_false, false_implies, iff_true]
        trivial

/-! ### Handled and answered -/

theorem pending_of_callsCreate (calls : state.CallsCreate message) :
    state.pending message.invokeID ≠ none := by
  obtain ⟨row, pending, _⟩ := calls
  rw [pending]
  exact nofun

theorem handlesNested_iff {nested : MessageCdap} :
    state.HandlesNested nested ↔ state.RunsNested nested ∧ ¬ state.NestedUnanswerable nested := by
  rw [RibState.HandlesNested, RibState.RunsNested, RibState.NestedUnanswerable, and_assoc,
    and_assoc]
  apply and_congr_right
  intro _
  apply and_congr_right
  intro _
  cases OpCode.ofCode? nested.eOpCode with
  | none => simp
  | some opCode =>
      cases opCode with
      | createR => exact (and_iff_left_of_imp pending_of_callsCreate).symm
      | delete =>
          apply (and_iff_left_of_imp _).symm
          intro ⟨object, found, _⟩
          rw [found]
          exact nofun
      | _ => simp

theorem handleConnectR_answered :
    Returns (handleConnectR codecs outcomes message (state.connection port) port) state ∧
        ¬ state.Unanswerable codecs outcomes message port .connectR ↔
      state.Handles codecs outcomes message port .connectR := by
  rw [returns_handleConnectR, RibState.Unanswerable, RibState.Handles]
  constructor
  · intro ⟨⟨connection, known, runs⟩, answerable⟩
    refine ⟨connection, known, ?_⟩
    intro inProgress
    obtain ⟨named, encodes⟩ := runs inProgress
    refine ⟨named, canSend_iff.mpr ⟨encodes, ?_⟩⟩
    intro fails
    apply answerable
    intro other same
    rw [← Option.some.inj (known.symm.trans same)]
    exact ⟨inProgress, fails⟩
  · intro ⟨connection, known, handles⟩
    refine ⟨⟨connection, known, fun inProgress => ?_⟩, fun unanswerable => ?_⟩
    · obtain ⟨named, sends⟩ := handles inProgress
      exact ⟨named, (canSend_iff.mp sends).1⟩
    · obtain ⟨inProgress, fails⟩ := unanswerable connection known
      exact (canSend_iff.mp (handles inProgress).2).2 fails

theorem handleStop_answered :
    Returns (handleStop codecs outcomes message (state.connection port) (state.object message)
        port) state ∧ ¬ state.Unanswerable codecs outcomes message port .stop ↔
      state.Handles codecs outcomes message port .stop := by
  rw [returns_handleStop, RibState.Unanswerable, RibState.Handles]
  constructor
  · intro ⟨⟨object, connection, found, known, stops, can, runs⟩, answerable⟩
    have present : state.peer connection ≠ none := by
      intro absent
      apply answerable
      intro _ other _ same
      rw [← Option.some.inj (known.symm.trans same)]
      exact .inl absent
    obtain ⟨holds, encodes⟩ := runs present
    refine ⟨object, connection, found, known, stops, present, holds,
      canSend_iff.mpr ⟨encodes, ?_⟩⟩
    intro fails
    apply answerable
    intro other _ same _
    rw [← Option.some.inj (found.symm.trans same)]
    exact .inr fails
  · intro ⟨object, connection, found, known, stops, present, holds, sends⟩
    obtain ⟨encodes, succeeds⟩ := canSend_iff.mp sends
    have can : CanFind connection.pxDestinationInfo.pcProcessName state.xNeighborsTable := by
      rw [RibState.peer] at present
      cases name : connection.pxDestinationInfo.pcProcessName with
      | target text => trivial
      | null => exact absurd (by rw [name]; rfl) present
      | stray => exact absurd (by rw [name]; rfl) present
    refine ⟨⟨object, connection, found, known, stops, can, fun _ => ⟨holds, encodes⟩⟩, ?_⟩
    intro unanswerable
    rcases unanswerable object connection found known with absent | fails
    · exact present absent
    · exact succeeds fails

theorem handleStart_answered :
    Returns (handleStart codecs outcomes message (state.connection port) (state.object message)
        port) state ∧ ¬ state.Unanswerable codecs outcomes message port .start ↔
      state.Handles codecs outcomes message port .start := by
  rw [returns_handleStart, RibState.Unanswerable, RibState.Handles]
  constructor
  · intro ⟨⟨object, connection, found, known, runs⟩, answerable⟩
    refine ⟨object, connection, found, known, ?_⟩
    rw [RibState.Starts]
    cases starts : object.pxObjOps.start with
    | none =>
        rw [starts] at runs
        exact runs
    | some operation =>
        rw [starts] at runs
        cases operation with
        | enroller => exact runs
        | operationalStart =>
            obtain ⟨neighbor, isPeer, fits, encodes⟩ := runs
            refine ⟨neighbor, isPeer, fits, canSend_iff.mpr ⟨encodes, ?_⟩⟩
            intro fails
            apply answerable
            intro otherObject otherConnection sameObject sameConnection
            rw [← Option.some.inj (found.symm.trans sameObject),
              ← Option.some.inj (known.symm.trans sameConnection)]
            refine ⟨starts, ?_⟩
            intro other same
            rw [← Option.some.inj (isPeer.symm.trans same)]
            exact fails
  · intro ⟨object, connection, found, known, handles⟩
    rw [RibState.Starts] at handles
    refine ⟨⟨object, connection, found, known, ?_⟩, fun unanswerable => ?_⟩
    · cases starts : object.pxObjOps.start with
      | none =>
          rw [starts] at handles
          exact handles
      | some operation =>
          rw [starts] at handles
          cases operation with
          | enroller => exact handles
          | operationalStart =>
              obtain ⟨neighbor, isPeer, fits, sends⟩ := handles
              exact ⟨neighbor, isPeer, fits, (canSend_iff.mp sends).1⟩
    · obtain ⟨starts, unsent⟩ := unanswerable object connection found known
      rw [starts] at handles
      obtain ⟨neighbor, isPeer, _, sends⟩ := handles
      exact (canSend_iff.mp sends).2 (unsent neighbor isPeer)

theorem handleWrite_answered :
    Returns (handleWrite codecs outcomes message) state ∧
        ¬ state.Unanswerable codecs outcomes message port .write ↔
      state.Handles codecs outcomes message port .write := by
  rw [returns_handleWrite, RibState.Unanswerable, RibState.Handles]
  constructor
  · intro ⟨⟨named, runs⟩, answerable⟩
    refine ⟨named, fun aData => ?_⟩
    obtain ⟨contents, aDataMsg, value, decoded, runs⟩ := runs aData
    refine ⟨contents, aDataMsg, value, decoded, fun addressed => ?_⟩
    obtain ⟨nested, found, runs⟩ := runs addressed
    refine ⟨nested, found, handlesNested_iff.mpr ⟨runs, fun unanswerable => ?_⟩⟩
    exact answerable ⟨aData, nested, found, unanswerable⟩
  · intro ⟨named, handles⟩
    refine ⟨⟨named, fun aData => ?_⟩, fun ⟨aData, other, same, unanswerable⟩ => ?_⟩
    · obtain ⟨contents, aDataMsg, value, decoded, handles⟩ := handles aData
      refine ⟨contents, aDataMsg, value, decoded, fun addressed => ?_⟩
      obtain ⟨nested, found, handles⟩ := handles addressed
      exact ⟨nested, found, (handlesNested_iff.mp handles).1⟩
    · obtain ⟨contents, aDataMsg, value, decoded, handles⟩ := handles aData
      obtain ⟨addressed, _⟩ := (MessageCdap.nested_eq_some value decoded).mp same
      obtain ⟨nested, found, handles⟩ := handles addressed
      rw [← Option.some.inj (found.symm.trans same)] at unanswerable
      exact (handlesNested_iff.mp handles).2 unanswerable

/-- An operation is handled without a fault and answered exactly if everything it uses
is there. -/
theorem operation_answered (opCode : OpCode) :
    Returns (handleOperation codecs outcomes message (state.connection port)
        (state.object message) port opCode) state ∧
        ¬ state.Unanswerable codecs outcomes message port opCode ↔
      state.Handles codecs outcomes message port opCode := by
  cases opCode with
  | connectR => exact handleConnectR_answered
  | stop => exact handleStop_answered
  | start => exact handleStart_answered
  | write => exact handleWrite_answered
  | connect =>
      refine (and_iff_left id).trans ?_
      rw [RibState.Handles, handleOperation]
      cases state.connection port with
      | none => simp [handleConnect, Returns]
      | some connection => simp [handleConnect, Returns]
  | releaseR =>
      have returns : Returns (handleReleaseR (state.connection port) port) state ↔
          state.connection port ≠ none := returns_handleReleaseR
      exact (and_iff_left_of_imp returns.mp).trans returns
  | create => exact (and_iff_left id).trans returns_handleCreate
  | delete => exact iff_of_true ⟨trivial, id⟩ trivial
  | startR =>
      refine Iff.trans (and_iff_left_of_imp ?_) returns_handleStartR
      intro returned
      obtain ⟨connection, row, known, pending, _⟩ := returns_handleStartR.mp returned
      rw [RibState.Unanswerable, known, pending]
      exact not_or.mpr ⟨Option.some_ne_none _, Option.some_ne_none _⟩
  | stopR =>
      refine Iff.trans (and_iff_left_of_imp ?_) returns_handleStopR
      intro returned
      obtain ⟨connection, row, known, pending, _⟩ := returns_handleStopR.mp returned
      rw [RibState.Unanswerable, known, pending]
      exact not_or.mpr ⟨Option.some_ne_none _, Option.some_ne_none _⟩
  | createR =>
      have returns : Returns (handleCreateR codecs outcomes message) state ↔
          state.CallsCreate message := by
        rw [handleCreateR, Returns, wp_bind]
        exact returns_respondCreate
      exact Iff.trans (and_iff_left_of_imp fun returned =>
        pending_of_callsCreate (returns.mp returned)) returns
  | _ => exact iff_of_false (fun both => both.2 trivial) id

/-- The cases of the switch return true. -/
theorem returnsOnly_operation {opCode : OpCode} (handled : ¬ opCode.IsRefused)
    (connection : Option AppConnection) (object : Option RibObject) :
    ReturnsOnly true
      (handleOperation codecs outcomes message connection object port opCode) := by
  have last : ∀ {α : Type} (body : Rib α),
      ReturnsOnly true (do let _ ← body; return true : Rib Bool) :=
    fun body => returnsOnly_bind fun _ => returnsOnly_pure true
  cases opCode with
  | connect =>
      exact returnsOnly_ite (returnsOnly_bind fun _ => last _) (returnsOnly_pure true)
  | connectR =>
      exact returnsOnly_bind fun _ => returnsOnly_ite (returnsOnly_pure true)
        (returnsOnly_bind fun _ => last _)
  | releaseR =>
      exact returnsOnly_bind fun _ => returnsOnly_ite (returnsOnly_pure true) (last _)
  | create => exact last _
  | delete => exact returnsOnly_pure true
  | stop => exact returnsOnly_bind fun _ => returnsOnly_bind fun _ => last _
  | start => exact returnsOnly_bind fun _ => returnsOnly_bind fun _ => last _
  | startR =>
      exact returnsOnly_bind fun _ => returnsOnly_bind fun _ => returnsOnly_bind fun _ => last _
  | stopR =>
      exact returnsOnly_bind fun _ => returnsOnly_bind fun _ => returnsOnly_bind fun _ => last _
  | createR => exact last _
  | write =>
      exact returnsOnly_bind fun _ => returnsOnly_ite
        (returnsOnly_bind fun _ => returnsOnly_bind fun _ =>
          returnsOnly_ite (last _) (returnsOnly_pure true))
        (returnsOnly_pure true)
  | _ => exact absurd trivial handled

theorem wp_operation (opCode : OpCode) :
    Wp (handleOperation codecs outcomes message (state.connection port) (state.object message)
        port opCode)
      (fun value _ => state.Unanswerable codecs outcomes message port opCode → value = false)
      state ↔
      opCode.IsRefused ∨ state.Handles codecs outcomes message port opCode := by
  by_cases refused : opCode.IsRefused
  · apply iff_of_true _ (.inl refused)
    cases opCode with
    | release => exact fun _ => rfl
    | deleteR => exact fun _ => rfl
    | read => exact fun _ => rfl
    | readR => exact fun _ => rfl
    | cancelRead => exact fun _ => rfl
    | cancelReadR => exact fun _ => rfl
    | writeR => exact fun _ => rfl
    | _ => exact refused.elim
  · rw [wp_of_returnsOnly (returnsOnly_operation refused _ _), wp_const]
    simp only [Bool.true_eq_false, imp_false, refused, false_or]
    exact operation_answered opCode

theorem wp_vRibHandleMessage {opCode : OpCode} {post : Bool → RibState → Prop}
    (known : OpCode.ofCode? message.eOpCode = some opCode) :
    Wp (vRibHandleMessage codecs outcomes message port) post state ↔
      CanFind message.pcObjName state.xRibObjectTable ∧
        Wp (handleOperation codecs outcomes message (state.connection port)
          (state.object message) port opCode) post state := by
  have found : (pxRibdFindAppConnection port).run state = .ok (state.connection port) state := rfl
  rw [vRibHandleMessage, known]
  simp only
  rw [Wp, run_bind_ok found]
  exact wp_bind.trans wp_findObject

end Cases

/-! ## Whole messages -/

/-- A management PDU or message is handled safely exactly if it is one of those named
above. -/
theorem management_safe_iff (codecs : RibCodecs) (outcomes : RibOutcomes) (state : RibState)
    (port : PortId) (input : ManagementInput) :
    input.HandledSafely codecs outcomes state port ↔
      input.Supported codecs outcomes state port := by
  have fails : ∀ {message opCode}, input.decoded codecs outcomes = some message →
      OpCode.ofCode? message.eOpCode = some opCode →
        (input.MustFail codecs outcomes state port ↔
          state.Unanswerable codecs outcomes message port opCode) := by
    intro message opCode decoded known
    constructor
    · exact fun fails => fails message opCode decoded known
    · intro unanswerable other otherCode same sameCode
      rw [← Option.some.inj (decoded.symm.trans same)] at sameCode ⊢
      rw [← Option.some.inj (known.symm.trans sameCode)]
      exact unanswerable
  rw [ManagementInput.HandledSafely, ← wp_iff]
  cases input with
  | message decoded =>
      rw [ManagementInput.handle, ManagementInput.Supported]
      cases known : OpCode.ofCode? decoded.eOpCode with
      | none => simp [vRibHandleMessage, known]
      | some opCode =>
          simp only [fails rfl known, wp_vRibHandleMessage known, wp_operation, Option.some.injEq,
            exists_eq_left']
  | pdu contents =>
      rw [ManagementInput.handle, ManagementInput.Supported, Rib.xRibdProcessLayerManagementPDU]
      cases decodes : prvRibdDecodeCDAP codecs.cdap outcomes.message contents with
      | none => simp [vRibdPrintCdapMessage]
      | some message =>
          cases known : OpCode.ofCode? message.eOpCode with
          | none => simp [vRibHandleMessage, known]
          | some opCode =>
              simp only [Option.some.injEq, exists_and_left, exists_eq_left', wp_bind, wp_lift,
                wp_pure, fails decodes known, Bool.true_eq_false, imp_false,
                wp_vRibHandleMessage known, wp_const, operation_answered, known]
              exact Unique.exists_iff

/-! ## A release response without a connection -/

/-- A message that holds nothing but its operation. -/
def bareMessage (opCode : OpCode) : CdapMessage where
  opCode := opCode.toCode
  invokeID := none
  objClass := none
  objName := none
  objInst := none
  objValue := none
  result := none
  authPolicy := none
  dest :=
    { pcProcessName := none
      pcProcessInstance := none
      pcEntityName := none
      pcEntityInstance := none }
  src :=
    { pcProcessName := none
      pcProcessInstance := none
      pcEntityName := none
      pcEntityInstance := none }
  version := none

def releaseCodecs : RibCodecs where
  cdap := .single (bareMessage .releaseR) [0x10, 0x03]
  enrollment := .refusing
  neighbor := .refusing
  aData := .refusing
  flow := .refusing

/-- The connection that is not there is followed. -/
theorem releaseR_without_connection :
    ((ManagementInput.pdu [0x10, 0x03]).handle releaseCodecs .clear 1).run .initial =
        .error .nullPointer .initial ∧
      ¬ (ManagementInput.pdu [0x10, 0x03]).HandledSafely releaseCodecs .clear .initial 1 := by
  have faulted : ((ManagementInput.pdu [0x10, 0x03]).handle releaseCodecs .clear 1).run .initial =
      .error .nullPointer .initial := by rfl
  refine ⟨faulted, ?_⟩
  rintro ⟨value, next, returned, _⟩
  have same := faulted.symm.trans returned
  cases same

end RinaSense
