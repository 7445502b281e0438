import RinaSense.Library.Trace
import RinaSense.Rib.CdapRoundTrip
import RinaSense.Rib.Frames
import RinaSense.Rib.PbMessages

/-!
# Runs of the enrollment

What the handlers of the enrollment are meant to do to the neighbors: one becomes
enrolled from being in progress, on a stop message that can be decoded, and is not
put back; a handler that fails changes nothing; the names stay distinct. The module
names the events after which this is so.
-/

namespace RinaSense

open Command

/-! ## Events -/

/-- The messages of an enrollment, from the peer of a name on a port. -/
inductive EnrollmentEvent where
  | connect (pcRemoteApName : Pointer String) (xN1Port : PortId)
  | connectR (pcRemoteApName : Pointer String) (xN1Port : PortId)
  | start (pxObjValue : Pointer (List UInt8)) (pcRemoteApName : Pointer String) (xN1Port : PortId)
  | operationalStart (pxRibObject : RibObject) (pcRemoteApName : Pointer String) (invokeId : Int)
      (xN1Port : PortId)
  | startR (pcRemoteApName : Pointer String) (pxObjValue : Pointer (List UInt8))
  | stop (pxRibObject : RibObject) (pxObjValue : Pointer (List UInt8))
      (pcRemoteApName : Pointer String) (invokeId : Int) (xN1Port : PortId)
  | stopR (pcRemoteApName : Pointer String)

namespace EnrollmentEvent

/-- The handler of an event, with the outcomes that come with it. -/
def perform (codecs : RibCodecs) : RibOutcomes × EnrollmentEvent → Rib Bool
  | (outcomes, connect name port) => xEnrollmentHandleConnect codecs outcomes name port
  | (outcomes, connectR name port) => xEnrollmentHandleConnectR codecs outcomes name port
  | (outcomes, start value name port) => xEnrollmentEnroller codecs outcomes value name port
  | (outcomes, operationalStart object name invokeId port) =>
      xEnrollmentHandleOperationalStart codecs outcomes object name invokeId port
  | (_, startR name value) => xEnrollmentHandleStartR name value
  | (outcomes, stop object value name invokeId port) =>
      xEnrollmentHandleStop codecs outcomes object value name invokeId port
  | (_, stopR name) => xEnrollmentHandleStopR name

/-- A stop whose object value can be decoded. -/
def StopsDecodably (codecs : RibCodecs) : EnrollmentEvent → Prop
  | stop _ value _ _ _ => ∃ contents message, value = .target contents ∧
      codecs.enrollment.decode contents = some message
  | _ => False

end EnrollmentEvent

/-! ## Purpose -/

/-- The neighbor a name leads to. -/
def RibState.neighbor (state : RibState) (name : String) : Option NeighborInfo :=
  SlotTable.find (fun row => row.pcApName = name) state.xNeighborsTable

def RibState.enrollment (state : RibState) (name : String) : Option EnrollmentState :=
  (state.neighbor name).map NeighborInfo.eEnrollmentState

def RibState.neighborNames (state : RibState) : List String :=
  (SlotTable.rows state.xNeighborsTable).map NeighborInfo.pcApName

/-- What one event may do to the neighbors. There is no release among the events, so an
enrolled neighbor is never put back. -/
structure EnrollsProperly (codecs : RibCodecs) (before : RibState) (event : EnrollmentEvent)
    (result : EStateM.Result Fault RibState Bool) : Prop where
  enrolls : ∀ name, (final result).enrollment name = some .enrolled →
    before.enrollment name ≠ some .enrolled →
      before.enrollment name = some .inProgress ∧ event.StopsDecodably codecs
  stays : ∀ name, before.enrollment name = some .enrolled →
    (final result).enrollment name ≠ some .inProgress
  failure : ∀ next, result = .ok false next → next.xNeighborsTable = before.xNeighborsTable
  distinct : (final result).neighborNames.Nodup

/-! ## Condition -/

/-- The request that answers a connect response. -/
def startRequest (codecs : RibCodecs) (invokeID : Int) : MessageCdap :=
  requestMessage none (some "/difm/enr") (-1) .start
    (pxSerdesMsgEnrollmentEncode codecs.enrollment localAddress.toUInt64) invokeID

/-- Encoding the message reports a failure. -/
def CannotEncode (codecs : RibCodecs) (outcomes : RibOutcomes) (message : MessageCdap) : Prop :=
  prvRibdEncodeCDAP codecs.cdap outcomes.bufferObtained (some message) = .ok none

/-- Putting a neighbor in progress changes nothing: it is in progress, or it is not
known and there is no room for it. -/
def RibState.InProgressAlready (state : RibState) (name : String) : Prop :=
  match state.neighbor name with
  | some neighbor => neighbor.eEnrollmentState = .inProgress
  | none => none ∉ state.xNeighborsTable

/-- A stop for a neighbor that is enrolled or, if the message can be decoded, in
progress; if the answer cannot be encoded, one that brings nothing new. -/
def StopSupported (codecs : RibCodecs) (outcomes : RibOutcomes) (neighbor : NeighborInfo)
    (value : Pointer (List UInt8)) (answer : MessageCdap) : Prop :=
  (neighbor.eEnrollmentState = .enrolled ∨ neighbor.eEnrollmentState = .inProgress ∧
    ∃ contents message, value = .target contents ∧
      codecs.enrollment.decode contents = some message) ∧
  (CannotEncode codecs outcomes answer → ∀ contents message, value = .target contents →
    codecs.enrollment.decode contents = some message →
      neighbor.eEnrollmentState = .enrolled ∧
        neighbor.pcToken = outcomes.enrollment.pcToken.setFrom message.token)

/-- The events handled properly: no connect or connect response of an enrolled
neighbor, no connect response whose request cannot be encoded unless the neighbor is
in progress already, and the stops above. -/
def EnrollmentEvent.Supported (codecs : RibCodecs) (state : RibState) :
    RibOutcomes × EnrollmentEvent → Prop
  | (_, connect name _) => ∀ text, name = .target text → state.enrollment text ≠ some .enrolled
  | (outcomes, connectR name _) => ∀ text, name = .target text →
      state.enrollment text ≠ some .enrolled ∧
        (CannotEncode codecs outcomes (startRequest codecs state.takenInvokeId) →
          state.InProgressAlready text)
  | (outcomes, stop object value name invokeId _) => ∀ text neighbor, name = .target text →
      state.neighbor text = some neighbor →
        StopSupported codecs outcomes neighbor value
          (stopResponse (some object.ucObjName) object.ulObjInst invokeId)
  | _ => True

/-! ## Changes of the table -/

section Changes

variable {state : RibState} {text name : String} {port : PortId}
  {change : NeighborInfo → NeighborInfo}

/-- The state with one neighbor changed. -/
def RibState.changed (state : RibState) (text : String) (change : NeighborInfo → NeighborInfo) :
    RibState :=
  { state with
    xNeighborsTable :=
      SlotTable.update (fun row => row.pcApName = text) change state.xNeighborsTable }

def newNeighbor (pcApName : String) (xN1Port : PortId) : NeighborInfo where
  eEnrollmentState := .none
  pcApName
  xN1Port
  xNeighborAddress := addressWrong
  pcToken := .null

/-- The state when a neighbor has been looked up and created if it was not known. -/
def RibState.withNeighbor (state : RibState) (text : String) (port : PortId) : RibState :=
  match state.neighbor text with
  | some _ => state
  | none =>
      { state with xNeighborsTable := SlotTable.add (newNeighbor text port) state.xNeighborsTable }

theorem pcApName_of_neighbor {neighbor : NeighborInfo} (found : state.neighbor text = some neighbor) :
    neighbor.pcApName = text :=
  of_decide_eq_true (SlotTable.find_some found).1

theorem neighbor_changed_self (keeps : ∀ row, (change row).pcApName = row.pcApName) :
    (state.changed text change).neighbor text = (state.neighbor text).map change := by
  apply SlotTable.find_update
  intro row named
  rw [keeps row]
  exact named

theorem neighbor_changed_other (keeps : ∀ row, (change row).pcApName = row.pcApName)
    (other : name ≠ text) : (state.changed text change).neighbor name = state.neighbor name := by
  apply SlotTable.find_update_of_disjoint
  intro row named
  rw [keeps row, of_decide_eq_true named]
  have apart : decide (text = name) = false := decide_eq_false other.symm
  exact ⟨apart, apart⟩

theorem neighborNames_changed (keeps : ∀ row, (change row).pcApName = row.pcApName) :
    (state.changed text change).neighborNames = state.neighborNames :=
  SlotTable.map_rows_update fun row _ => keeps row

theorem neighbor_withNeighbor_other (other : name ≠ text) :
    (state.withNeighbor text port).neighbor name = state.neighbor name := by
  rw [RibState.withNeighbor]
  cases state.neighbor text with
  | some neighbor => rfl
  | none => exact SlotTable.find_add_of_unwanted (decide_eq_false other.symm)

theorem neighbor_withNeighbor_of_known {neighbor : NeighborInfo}
    (known : state.neighbor text = some neighbor) : state.withNeighbor text port = state := by
  rw [RibState.withNeighbor, known]

/-- A new neighbor is nobody's, and there only if there was room. -/
theorem neighbor_withNeighbor_of_unknown (port : PortId) (unknown : state.neighbor text = none) :
    (state.withNeighbor text port).neighbor text = some (newNeighbor text port) ∨
      none ∉ state.xNeighborsTable ∧ state.withNeighbor text port = state := by
  by_cases room : none ∈ state.xNeighborsTable
  · left
    rw [RibState.withNeighbor, unknown]
    exact SlotTable.find_add_of_absent unknown (decide_eq_true rfl) room
  · right
    refine ⟨room, ?_⟩
    simp only [RibState.withNeighbor, unknown, SlotTable.rows_add_of_full _ room]

theorem nodup_withNeighbor (distinct : state.neighborNames.Nodup) :
    (state.withNeighbor text port).neighborNames.Nodup := by
  rw [RibState.withNeighbor]
  cases known : state.neighbor text with
  | some neighbor => exact distinct
  | none =>
      by_cases room : none ∈ state.xNeighborsTable
      · have fresh : text ∉ state.neighborNames := by
          intro member
          obtain ⟨row, inUse, named⟩ := List.mem_map.mp member
          have unnamed := SlotTable.find_eq_none.mp known row (SlotTable.mem_rows.mp inUse)
          exact of_decide_eq_false unnamed named
        have placed := (SlotTable.rows_add (newNeighbor text port) room).map NeighborInfo.pcApName
        exact placed.nodup_iff.mpr (List.nodup_cons.mpr ⟨fresh, distinct⟩)
      · simp only [SlotTable.rows_add_of_full _ room]
        exact distinct

end Changes

/-! ## Runs of the handlers -/

section Runs

variable {codecs : RibCodecs} {outcomes : RibOutcomes} {state : RibState} {text : String}
  {port : PortId}

theorem run_findNeighbor_target :
    (pxEnrollmentFindNeighbor (.target text)).run state = .ok (state.neighbor text) state :=
  run_findNeighbor trivial

theorem run_findNeighbor_of_not_target (state : RibState) {name : Pointer String}
    (absent : ∀ text, name ≠ .target text) :
    (pxEnrollmentFindNeighbor name).run state = .ok none state ∨
      ∃ fault, (pxEnrollmentFindNeighbor name).run state = .error fault state := by
  by_cases can : CanFind name state.xNeighborsTable
  · left
    rw [run_findNeighbor can]
    cases name with
    | target text => exact absurd rfl (absent text)
    | null => rfl
    | stray => rfl
  · exact .inr (run_findNeighbor_fault can)

theorem run_findOrCreate_target :
    (findOrCreateNeighbor (.target text) port).run state =
      .ok ((state.neighbor text).getD (newNeighbor text port)) (state.withNeighbor text port) := by
  rw [findOrCreateNeighbor, run_bind_ok run_findNeighbor_target, RibState.withNeighbor]
  cases state.neighbor text with
  | some neighbor => rfl
  | none => rfl

/-- Without a name there is no neighbor and none is created. -/
theorem run_findOrCreate_of_not_target (state : RibState) (port : PortId) {name : Pointer String}
    (absent : ∀ text, name ≠ .target text) :
    ∃ fault, (findOrCreateNeighbor name port).run state = .error fault state := by
  rw [findOrCreateNeighbor]
  rcases run_findNeighbor_of_not_target state absent with found | ⟨fault, faulted⟩
  · rw [run_bind_ok found]
    cases name with
    | target text => exact absurd rfl (absent text)
    | null => exact ⟨_, rfl⟩
    | stray => exact ⟨_, rfl⟩
  · exact ⟨fault, run_bind_error faulted _⟩

theorem getD_pcApName :
    ((state.neighbor text).getD (newNeighbor text port)).pcApName = text := by
  cases found : state.neighbor text with
  | none => rfl
  | some neighbor => exact pcApName_of_neighbor found

theorem run_changeNeighbor (change : NeighborInfo → NeighborInfo) :
    (changeNeighbor text change).run state = .ok ⟨⟩ (state.changed text change) := rfl

def NeighborInfo.inProgress (neighbor : NeighborInfo) : NeighborInfo :=
  { neighbor with eEnrollmentState := .inProgress }

def NeighborInfo.enrolled (neighbor : NeighborInfo) : NeighborInfo :=
  { neighbor with eEnrollmentState := .enrolled }

theorem inProgress_pcApName (neighbor : NeighborInfo) :
    neighbor.inProgress.pcApName = neighbor.pcApName := rfl

theorem run_putInProgress_target :
    (putInProgress (.target text) port).run state =
      .ok ⟨⟩ ((state.withNeighbor text port).changed text NeighborInfo.inProgress) := by
  rw [putInProgress, run_bind_ok run_findOrCreate_target, getD_pcApName]
  exact run_changeNeighbor _

theorem run_putInProgress_of_not_target {name : Pointer String}
    (absent : ∀ text, name ≠ .target text) :
    ∃ fault, (putInProgress name port).run state = .error fault state := by
  obtain ⟨fault, faulted⟩ := run_findOrCreate_of_not_target state port absent
  exact ⟨fault, run_bind_error faulted _⟩

end Runs

/-! ## The effect of each handler -/

section Effects

variable {codecs : RibCodecs} {outcomes : RibOutcomes} {state before after : RibState}
  {event : EnrollmentEvent} {text : String} {port : PortId}
  {result : EStateM.Result Fault RibState Bool}

theorem enrollment_of_table (same : after.xNeighborsTable = before.xNeighborsTable)
    (name : String) : after.enrollment name = before.enrollment name := by
  simp only [RibState.enrollment, RibState.neighbor, same]

theorem neighborNames_of_table (same : after.xNeighborsTable = before.xNeighborsTable) :
    after.neighborNames = before.neighborNames := by
  simp only [RibState.neighborNames, same]

/-- Nothing happens to the neighbors. -/
theorem enrollsProperly_of_same (distinct : before.neighborNames.Nodup)
    (same : (final result).xNeighborsTable = before.xNeighborsTable) :
    EnrollsProperly codecs before event result where
  enrolls := fun name enrolled other => by
    rw [enrollment_of_table same] at enrolled
    exact absurd enrolled other
  stays := fun name enrolled => by
    rw [enrollment_of_table same, enrolled]
    exact nofun
  failure := fun next returned => by
    rw [returned] at same
    exact same
  distinct := by
    rw [neighborNames_of_table same]
    exact distinct

/-- The state when a neighbor has been put in progress. -/
def RibState.started (state : RibState) (text : String) (port : PortId) : RibState :=
  (state.withNeighbor text port).changed text NeighborInfo.inProgress

theorem enrollment_started_other {name : String} (other : name ≠ text) :
    (state.started text port).enrollment name = state.enrollment name := by
  rw [RibState.started, RibState.enrollment, neighbor_changed_other inProgress_pcApName other,
    neighbor_withNeighbor_other other, RibState.enrollment]

theorem enrollment_started_ne_enrolled :
    (state.started text port).enrollment text ≠ some .enrolled := by
  rw [RibState.started, RibState.enrollment, neighbor_changed_self inProgress_pcApName]
  cases (state.withNeighbor text port).neighbor text with
  | none => exact nofun
  | some neighbor => exact nofun

theorem takenInvokeId_started : (state.started text port).takenInvokeId = state.takenInvokeId := by
  rw [RibState.started, RibState.withNeighbor]
  cases state.neighbor text with
  | some neighbor => rfl
  | none => rfl

theorem started_of_already (already : state.InProgressAlready text) :
    (state.started text port).xNeighborsTable = state.xNeighborsTable := by
  rw [RibState.InProgressAlready] at already
  rw [RibState.started, RibState.changed]
  cases known : state.neighbor text with
  | some neighbor =>
      rw [known] at already
      rw [neighbor_withNeighbor_of_known known]
      apply SlotTable.update_of_fixed known
      rw [NeighborInfo.inProgress, ← already]
  | none =>
      rw [known] at already
      have unchanged : state.withNeighbor text port = state := by
        simp only [RibState.withNeighbor, known, SlotTable.rows_add_of_full _ already]
      rw [unchanged]
      exact SlotTable.update_of_absent known

/-- A neighbor that is not enrolled is put in progress. -/
theorem enrollsProperly_of_started (distinct : before.neighborNames.Nodup)
    (notEnrolled : before.enrollment text ≠ some .enrolled)
    (same : (final result).xNeighborsTable = (before.started text port).xNeighborsTable)
    (failure : ∀ next, result = .ok false next → before.InProgressAlready text) :
    EnrollsProperly codecs before event result where
  enrolls := fun name enrolled other => by
    rw [enrollment_of_table same] at enrolled
    by_cases named : name = text
    · rw [named] at enrolled
      exact absurd enrolled enrollment_started_ne_enrolled
    · rw [enrollment_started_other named] at enrolled
      exact absurd enrolled other
  stays := fun name enrolled => by
    by_cases named : name = text
    · rw [named] at enrolled
      exact absurd enrolled notEnrolled
    · rw [enrollment_of_table same, enrollment_started_other named, enrolled]
      exact nofun
  failure := fun next returned => by
    rw [returned] at same
    exact same.trans (started_of_already (failure next returned))
  distinct := by
    rw [neighborNames_of_table same, RibState.started,
      neighborNames_changed inProgress_pcApName]
    exact nodup_withNeighbor distinct

/-- A handler that begins by putting the neighbor in progress and leaves the neighbors
alone after that. -/
theorem enrollsProperly_of_putInProgress (distinct : state.neighborNames.Nodup)
    {name : Pointer String} {rest : Rib Bool} (leaves : Leaves RibState.xNeighborsTable rest)
    (notEnrolled : ∀ text, name = .target text → state.enrollment text ≠ some .enrolled)
    (failure : ∀ text next, name = .target text →
      rest.run (state.started text port) = .ok false next → state.InProgressAlready text) :
    EnrollsProperly codecs state event
      ((putInProgress name port >>= fun _ => rest).run state) := by
  have faulting : (∀ text, name ≠ .target text) → EnrollsProperly codecs state event
      ((putInProgress name port >>= fun _ => rest).run state) := by
    intro absent
    obtain ⟨fault, faulted⟩ := run_putInProgress_of_not_target absent
    rw [run_bind_error faulted]
    exact enrollsProperly_of_same distinct rfl
  cases name with
  | target text =>
      rw [run_bind_ok run_putInProgress_target]
      apply enrollsProperly_of_started distinct (notEnrolled text rfl) (leaves _)
      exact fun next returned => failure text next rfl returned
  | null => exact faulting nofun
  | stray => exact faulting nofun

theorem connect_properly (distinct : state.neighborNames.Nodup) {name : Pointer String}
    (supported : EnrollmentEvent.Supported codecs state (outcomes, .connect name port)) :
    EnrollsProperly codecs state (.connect name port)
      ((xEnrollmentHandleConnect codecs outcomes name port).run state) := by
  apply enrollsProperly_of_putInProgress distinct _ supported
  · intro text next _ returned
    have only := returnsOnly_bind (fun _ => returnsOnly_pure true) _ _ _ returned
    exact absurd only Bool.noConfusion
  · exact leaves_bind (leaves_connectWith (fun _ _ => rfl) (fun _ _ => rfl) _ _ _ _ _) fun _ =>
      leaves_pure _

theorem connectR_properly (distinct : state.neighborNames.Nodup) {name : Pointer String}
    (supported : EnrollmentEvent.Supported codecs state (outcomes, .connectR name port)) :
    EnrollsProperly codecs state (.connectR name port)
      ((xEnrollmentHandleConnectR codecs outcomes name port).run state) := by
  apply enrollsProperly_of_putInProgress distinct _ fun text named => (supported text named).1
  · intro text next named returned
    apply (supported text named).2
    rw [EStateM.run_bind] at returned
    cases sent : (xRibdSendRequest codecs outcomes (some "Enrollment") (some "/difm/enr") (-1)
        OpCode.start.toCode port
        (pxSerdesMsgEnrollmentEncode codecs.enrollment localAddress.toUInt64)).run
        (state.started text port) with
    | error fault middle =>
        rw [sent] at returned
        cases returned
    | ok accepted middle =>
        cases accepted with
        | true =>
            rw [sent] at returned
            cases returned
        | false =>
            rw [run_sendRequest (OpCode.ofCode?_toCode .start) rfl, takenInvokeId_started] at sent
            exact encodeAndSend_false sent
  · apply leaves_bind (leaves_sendRequest (fun _ _ => rfl) (fun _ _ => rfl) (fun _ _ => rfl)
      (fun _ _ => rfl) _ _ _ _ _ _)
    exact fun _ => leaves_ite (leaves_pure _) (leaves_pure _)

/-! ### Stop -/

theorem changed_changed {first second : NeighborInfo → NeighborInfo}
    (keeps : ∀ row, (first row).pcApName = row.pcApName) :
    (state.changed text first).changed text second =
      state.changed text fun row => second (first row) := by
  simp only [RibState.changed]
  congr 1
  apply SlotTable.update_update
  intro row named
  rw [keeps row]
  exact named

/-- A neighbor that was in progress or enrolled is enrolled. -/
theorem enrollsProperly_of_enrolled {change : NeighborInfo → NeighborInfo}
    (distinct : before.neighborNames.Nodup)
    (keeps : ∀ row, (change row).pcApName = row.pcApName)
    (enrolls : ∀ row, (change row).eEnrollmentState = .enrolled) {neighbor : NeighborInfo}
    (known : before.neighbor text = some neighbor)
    (allowed : neighbor.eEnrollmentState = .enrolled ∨
      neighbor.eEnrollmentState = .inProgress ∧ event.StopsDecodably codecs)
    (same : (final result).xNeighborsTable = (before.changed text change).xNeighborsTable)
    (failure : ∀ next, result = .ok false next → change neighbor = neighbor) :
    EnrollsProperly codecs before event result where
  enrolls := fun name enrolled other => by
    by_cases named : name = text
    · rw [named, RibState.enrollment, known] at other ⊢
      rcases allowed with already | ⟨started, decodable⟩
      · exact absurd (congrArg some already) other
      · exact ⟨congrArg some started, decodable⟩
    · rw [enrollment_of_table same, RibState.enrollment, neighbor_changed_other keeps named]
        at enrolled
      exact absurd enrolled other
  stays := fun name enrolled => by
    rw [enrollment_of_table same]
    by_cases named : name = text
    · rw [named, RibState.enrollment, neighbor_changed_self keeps, known]
      simp [enrolls neighbor]
    · rw [RibState.enrollment, neighbor_changed_other keeps named]
      rw [RibState.enrollment] at enrolled
      rw [enrolled]
      exact nofun
  failure := fun next returned => by
    rw [returned] at same
    exact same.trans (SlotTable.update_of_fixed known (failure next returned))
  distinct := by
    rw [neighborNames_of_table same, neighborNames_changed keeps]
    exact distinct

theorem enrolled_pcApName (neighbor : NeighborInfo) :
    neighbor.enrolled.pcApName = neighbor.pcApName := rfl

/-- The neighbor when a stop has been handled. -/
def NeighborInfo.stopped (pcToken : Pointer String) (neighbor : NeighborInfo) : NeighborInfo :=
  { neighbor.enrolled with pcToken }

/-- A stop for a neighbor that may be enrolled, once its message is decoded. -/
theorem answerStop_properly (distinct : state.neighborNames.Nodup) {object : RibObject}
    {invokeId : Int} {neighbor : NeighborInfo} {pcToken : Pointer String}
    (known : state.neighbor text = some neighbor)
    (allowed : neighbor.eEnrollmentState = .enrolled ∨
      neighbor.eEnrollmentState = .inProgress ∧ event.StopsDecodably codecs)
    (answerable : CannotEncode codecs outcomes
        (stopResponse (some object.ucObjName) object.ulObjInst invokeId) →
      neighbor.eEnrollmentState = .enrolled ∧ neighbor.pcToken = pcToken) :
    EnrollsProperly codecs state event
      ((answerStop codecs outcomes object text pcToken invokeId port).run
        (state.changed text NeighborInfo.enrolled)) := by
  have keeps : ∀ row, (NeighborInfo.stopped pcToken row).pcApName = row.pcApName := fun _ => rfl
  have enrolls : ∀ row, (NeighborInfo.stopped pcToken row).eEnrollmentState = .enrolled :=
    fun _ => rfl
  have leaves : Leaves RibState.xNeighborsTable (do
      if !(← xRibdSendResponse codecs outcomes none (some object.ucObjName) object.ulObjInst 0
          .stopR invokeId port none) then
        return false
      return true : Rib Bool) := by
    apply leaves_bind (leaves_sendResponse (fun _ _ => rfl) (fun _ _ => rfl) _ _ _ _ _ _ _ _)
    exact fun _ => leaves_ite (leaves_pure _) (leaves_pure _)
  have stored : ((changeNeighbor text fun neighbor => { neighbor with pcToken }).run
      (state.changed text NeighborInfo.enrolled)) =
        .ok ⟨⟩ (state.changed text (NeighborInfo.stopped pcToken)) := by
    rw [run_changeNeighbor, changed_changed enrolled_pcApName]
    rfl
  rw [answerStop, run_bind_ok stored]
  apply enrollsProperly_of_enrolled distinct keeps enrolls known allowed (leaves _)
  intro next returned
  rw [EStateM.run_bind, run_sendResponse_stop] at returned
  cases sent : (encodeAndSend codecs outcomes
      (some (stopResponse (some object.ucObjName) object.ulObjInst invokeId)) port).run
      { state.changed text (NeighborInfo.stopped pcToken) with
        invokeId := (state.changed text (NeighborInfo.stopped pcToken)).followingInvokeId } with
  | error fault middle =>
      rw [sent] at returned
      cases returned
  | ok accepted middle =>
      cases accepted with
      | true =>
          rw [sent] at returned
          cases returned
      | false =>
          obtain ⟨enrolled, token⟩ := answerable (encodeAndSend_false sent)
          rw [NeighborInfo.stopped, NeighborInfo.enrolled, ← enrolled, ← token]

theorem stop_properly (distinct : state.neighborNames.Nodup) {object : RibObject}
    {value : Pointer (List UInt8)} {name : Pointer String} {invokeId : Int}
    (supported : EnrollmentEvent.Supported codecs state
      (outcomes, .stop object value name invokeId port)) :
    EnrollsProperly codecs state (.stop object value name invokeId port)
      ((xEnrollmentHandleStop codecs outcomes object value name invokeId port).run state) := by
  have absent : (∀ text, name ≠ .target text) → EnrollsProperly codecs state
      (.stop object value name invokeId port)
      ((xEnrollmentHandleStop codecs outcomes object value name invokeId port).run state) := by
    intro absent
    apply enrollsProperly_of_same distinct
    rw [xEnrollmentHandleStop]
    rcases run_findNeighbor_of_not_target state absent with found | ⟨fault, faulted⟩
    · rw [run_bind_ok found]
      rfl
    · rw [run_bind_error faulted]
      rfl
  cases name with
  | null => exact absent nofun
  | stray => exact absent nofun
  | target text =>
      rw [xEnrollmentHandleStop, run_bind_ok run_findNeighbor_target]
      cases known : state.neighbor text with
      | none => exact enrollsProperly_of_same distinct rfl
      | some neighbor =>
          obtain ⟨allowed, answerable⟩ := supported text neighbor rfl known
          have decodable : neighbor.eEnrollmentState = .enrolled ∨
              neighbor.eEnrollmentState = .inProgress ∧
                EnrollmentEvent.StopsDecodably codecs (.stop object value (.target text) invokeId
                  port) := allowed
          have stuck : ∀ fault, EnrollsProperly codecs state
              (.stop object value (.target text) invokeId port)
              (.error fault (state.changed text NeighborInfo.enrolled)) := fun fault =>
            enrollsProperly_of_enrolled distinct enrolled_pcApName (fun _ => rfl) known decodable rfl
              nofun
          have enrolled : ((changeNeighbor neighbor.pcApName fun neighbor =>
              { neighbor with eEnrollmentState := .enrolled }).run state) =
                .ok ⟨⟩ (state.changed text NeighborInfo.enrolled) := by
            rw [pcApName_of_neighbor known]
            rfl
          simp only
          rw [run_bind_ok enrolled]
          cases value with
          | null => exact stuck _
          | stray => exact stuck _
          | target contents =>
              have read : ((liftM (Pointer.target contents).read : Rib (List UInt8)).run
                  (state.changed text NeighborInfo.enrolled)) =
                    .ok contents (state.changed text NeighborInfo.enrolled) := rfl
              rw [run_bind_ok read, pxSerdesMsgEnrollmentDecode]
              cases decoded : codecs.enrollment.decode contents with
              | none => exact stuck _
              | some message =>
                  simp only [Option.map_some, pcApName_of_neighbor known]
                  apply answerStop_properly distinct known decodable
                  exact fun fails => answerable fails contents message rfl decoded

/-! ### Start -/

/-- A handler that at most adds a neighbor that is not enrolled. -/
theorem enrollsProperly_of_unmoved (distinct : (final result).neighborNames.Nodup)
    (moved : ∀ name, (final result).enrollment name = before.enrollment name ∨
      before.enrollment name = none ∧ (final result).enrollment name = some .none)
    (succeeds : ∀ next, result ≠ .ok false next) :
    EnrollsProperly codecs before event result where
  enrolls := fun name enrolled other => by
    rcases moved name with same | ⟨_, created⟩
    · rw [same] at enrolled
      exact absurd enrolled other
    · rw [created] at enrolled
      cases enrolled
  stays := fun name enrolled => by
    rcases moved name with same | ⟨unknown, _⟩
    · rw [same, enrolled]
      exact nofun
    · rw [unknown] at enrolled
      cases enrolled
  failure := fun next returned => absurd returned (succeeds next)
  distinct := distinct

theorem enrollment_withNeighbor (name : String) :
    (state.withNeighbor text port).enrollment name = state.enrollment name ∨
      state.enrollment name = none ∧
        (state.withNeighbor text port).enrollment name = some .none := by
  by_cases named : name = text
  · rw [named]
    cases known : state.neighbor text with
    | some neighbor => exact .inl (by rw [neighbor_withNeighbor_of_known known])
    | none =>
        rcases neighbor_withNeighbor_of_unknown port known with created | ⟨_, same⟩
        · right
          rw [RibState.enrollment, RibState.enrollment, known, created]
          exact ⟨rfl, rfl⟩
        · exact .inl (by rw [same])
  · left
    rw [RibState.enrollment, neighbor_withNeighbor_other named, RibState.enrollment]

/-- A change of other fields does not move a neighbor. -/
theorem enrollment_changed {change : NeighborInfo → NeighborInfo}
    (keeps : ∀ row, (change row).pcApName = row.pcApName)
    (stays : ∀ row, (change row).eEnrollmentState = row.eEnrollmentState) (name : String) :
    (state.changed text change).enrollment name = state.enrollment name := by
  by_cases named : name = text
  · rw [named, RibState.enrollment, neighbor_changed_self keeps, RibState.enrollment]
    cases state.neighbor text with
    | none => rfl
    | some neighbor => exact congrArg some (stays neighbor)
  · rw [RibState.enrollment, neighbor_changed_other keeps named, RibState.enrollment]

def NeighborInfo.addressed (xNeighborAddress : Address) (neighbor : NeighborInfo) : NeighborInfo :=
  { neighbor with xNeighborAddress }

theorem start_properly (distinct : state.neighborNames.Nodup) {value : Pointer (List UInt8)}
    {name : Pointer String} :
    EnrollsProperly codecs state (.start value name port)
      ((xEnrollmentEnroller codecs outcomes value name port).run state) := by
  have absent : (∀ text, name ≠ .target text) → EnrollsProperly codecs state
      (.start value name port) ((xEnrollmentEnroller codecs outcomes value name port).run state) := by
    intro absent
    obtain ⟨fault, faulted⟩ := run_findOrCreate_of_not_target state port absent
    rw [xEnrollmentEnroller, run_bind_error faulted]
    exact enrollsProperly_of_same distinct rfl
  cases name with
  | null => exact absent (by rintro _ ⟨⟩)
  | stray => exact absent (by rintro _ ⟨⟩)
  | target text =>
      have created : ∀ outcome : EStateM.Result Fault RibState Bool,
          final outcome = state.withNeighbor text port → (∀ next, outcome ≠ .ok false next) →
          EnrollsProperly codecs state (.start value (.target text) port) outcome := by
        intro outcome ended succeeds
        apply enrollsProperly_of_unmoved _ _ succeeds
        · rw [ended]
          exact nodup_withNeighbor distinct
        · intro name
          rw [ended]
          exact enrollment_withNeighbor name
      rw [xEnrollmentEnroller, run_bind_ok run_findOrCreate_target]
      cases ((state.neighbor text).getD (newNeighbor text port)).eEnrollmentState with
      | none => exact created _ rfl (by rintro _ ⟨⟩)
      | enrolled => exact created _ rfl (by rintro _ ⟨⟩)
      | inProgress =>
          cases value with
          | null => exact created _ rfl (by rintro _ ⟨⟩)
          | stray => exact created _ rfl (by rintro _ ⟨⟩)
          | target contents =>
              simp only [Pointer.read_target, EStateM.run_bind, run_lift,
                pxSerdesMsgEnrollmentDecode, getD_pcApName]
              cases codecs.enrollment.decode contents with
              | none => exact created _ rfl (by rintro _ ⟨⟩)
              | some message =>
                  have keeps : ∀ address (row : NeighborInfo),
                      (row.addressed address).pcApName = row.pcApName := fun _ _ => rfl
                  have stays : ∀ address (row : NeighborInfo),
                      (row.addressed address).eEnrollmentState = row.eEnrollmentState :=
                    fun _ _ => rfl
                  have ended : ∀ address, EnrollsProperly codecs state
                      (.start (.target contents) (.target text) port)
                      (.ok true ((state.withNeighbor text port).changed text
                        (NeighborInfo.addressed address))) := by
                    intro address
                    apply enrollsProperly_of_unmoved
                    · rw [final_ok, neighborNames_changed (keeps address)]
                      exact nodup_withNeighbor distinct
                    · intro name
                      rw [final_ok, enrollment_changed (keeps address) (stays address)]
                      exact enrollment_withNeighbor name
                    · rintro _ ⟨⟩
                  exact ended _

/-! ## Runs -/

theorem event_properly (distinct : state.neighborNames.Nodup)
    (occurring : RibOutcomes × EnrollmentEvent)
    (supported : EnrollmentEvent.Supported codecs state occurring) :
    EnrollsProperly codecs state occurring.2
      ((EnrollmentEvent.perform codecs occurring).run state) := by
  obtain ⟨outcomes, event⟩ := occurring
  cases event with
  | connect name port => exact connect_properly distinct supported
  | connectR name port => exact connectR_properly distinct supported
  | start value name port => exact start_properly distinct
  | operationalStart object name invokeId port =>
      exact enrollsProperly_of_same distinct
        (leaves_operationalStart (fun _ _ => rfl) (fun _ _ => rfl) object name invokeId port state)
  | startR name value => exact enrollsProperly_of_same distinct rfl
  | stop object value name invokeId port => exact stop_properly distinct supported
  | stopR name => exact enrollsProperly_of_same distinct (leaves_handleStopR name state)

end Effects

/-- In a run of supported events, from a state whose neighbors have distinct names,
every event is handled properly. -/
theorem enrollment_run_properly (codecs : RibCodecs) (start : RibState)
    (events : List (RibOutcomes × EnrollmentEvent)) (distinct : start.neighborNames.Nodup)
    (supported : ∀ occurrence ∈ Trace.trace (EnrollmentEvent.perform codecs) events start,
      EnrollmentEvent.Supported codecs occurrence.before occurrence.event) :
    ∀ occurrence ∈ Trace.trace (EnrollmentEvent.perform codecs) events start,
      EnrollsProperly codecs occurrence.before occurrence.event.2 occurrence.result := by
  apply Trace.proper_of_supported (fun state => state.neighborNames.Nodup)
    (EnrollmentEvent.Supported codecs)
    (fun before event result => EnrollsProperly codecs before event.2 result) _ distinct supported
  intro before event distinct supported
  have proper := event_properly distinct event supported
  exact ⟨proper, proper.distinct⟩

/-! ## An enrollment that begins, and one that ends before it begins -/

/-- Codecs for the messages of an enrollment. -/
def enrollmentCodecs : RibCodecs where
  cdap := cdapCodec
  enrollment := enrollmentCodec
  neighbor := .refusing
  aData := .refusing
  flow := .refusing

/-- The enrollment object of the RIB. -/
def enrollmentObject : RibObject where
  pxObjOps := { start := some .enroller, stop := true, delete := false }
  ucObjName := "/difm/enr"
  ulObjInst := 0

def peerName : Pointer String := .target remoteAddressApName

/-- A connect response of the peer and its stop, whose value tells an address. -/
def enrollingRun : List (RibOutcomes × EnrollmentEvent) :=
  [(.clear, .connectR peerName 1),
    (.clear, .stop enrollmentObject (.target [0x08, 0x05]) peerName 1 1)]

theorem inProgress_answered :
    (final ((EnrollmentEvent.perform enrollmentCodecs (.clear, .connectR peerName 1)).run
      .initial)).enrollment remoteAddressApName = some .inProgress := by
  decide +kernel

/-- The peer is in progress when it stops. -/
theorem stop_supported_answered {state : RibState} {neighbor : NeighborInfo}
    (progress : state.enrollment remoteAddressApName = some .inProgress)
    (found : state.neighbor remoteAddressApName = some neighbor) :
    StopSupported enrollmentCodecs .clear neighbor (.target [0x08, 0x05])
      (stopResponse (some enrollmentObject.ucObjName) enrollmentObject.ulObjInst 1) := by
  have decodes : (enrollmentCodec.decode [0x08, 0x05]).isSome = true := by decide +kernel
  have encodes : ¬ CannotEncode enrollmentCodecs .clear
      (stopResponse (some enrollmentObject.ucObjName) enrollmentObject.ulObjInst 1) := by
    rw [CannotEncode]
    decide +kernel
  obtain ⟨message, decoded⟩ := Option.isSome_iff_exists.mp decodes
  rw [RibState.enrollment, found] at progress
  exact ⟨.inr ⟨Option.some.inj progress, _, message, rfl, decoded⟩, fun fails =>
    absurd fails encodes⟩

/-- The peer ends up enrolled. -/
theorem enrollment_run_properly_connectR :
    (∀ occurrence ∈ Trace.trace (EnrollmentEvent.perform enrollmentCodecs) enrollingRun .initial,
      EnrollsProperly enrollmentCodecs occurrence.before occurrence.event.2 occurrence.result) ∧
    ((final ((EnrollmentEvent.perform enrollmentCodecs (.clear, .connectR peerName 1)).run
        .initial)).enrollment remoteAddressApName = some .inProgress) ∧
    (final ((Command.sequence (EnrollmentEvent.perform enrollmentCodecs) enrollingRun).run
        .initial)).enrollment remoteAddressApName = some .enrolled := by
  have supported : ∀ occurrence ∈
      Trace.trace (EnrollmentEvent.perform enrollmentCodecs) enrollingRun .initial,
      EnrollmentEvent.Supported enrollmentCodecs occurrence.before occurrence.event := by
    intro occurrence member
    rcases Trace.mem_trace_cons.mp member with rfl | ⟨returned, next, run, stopped⟩
    · intro text named
      have encodes : ¬ CannotEncode enrollmentCodecs .clear
          (startRequest enrollmentCodecs RibState.initial.takenInvokeId) := by
        rw [CannotEncode]
        decide +kernel
      rw [← Pointer.target.inj named]
      exact ⟨by decide, fun fails => absurd fails encodes⟩
    · rcases Trace.mem_trace_cons.mp stopped with rfl | ⟨_, _, _, none⟩
      · intro text neighbor named found
        rw [← Pointer.target.inj named] at found
        have progress := inProgress_answered
        rw [run] at progress
        exact stop_supported_answered progress found
      · exact absurd none List.not_mem_nil
  refine ⟨?_, inProgress_answered, by decide +kernel⟩
  exact enrollment_run_properly enrollmentCodecs .initial enrollingRun (by decide) supported

/-- A start of an unknown neighbor and a stop without a value: the neighbor is enrolled
without having been in progress. -/
theorem stop_enrolls_without_progress :
    ¬ ∀ occurrence ∈ Trace.trace (EnrollmentEvent.perform enrollmentCodecs)
        [(.clear, .start .null peerName 1),
          (.clear, .stop enrollmentObject .null peerName 1 1)] .initial,
      EnrollsProperly enrollmentCodecs occurrence.before occurrence.event.2 occurrence.result := by
  intro properly
  have known := properly _ (Trace.mem_trace_cons.mpr (.inr ⟨_, _, rfl,
    Trace.mem_trace_cons.mpr (.inl rfl)⟩))
  have enrolled := known.enrolls remoteAddressApName rfl (by decide)
  exact absurd enrolled.1 (by decide)

end RinaSense
