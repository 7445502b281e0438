import RinaSense.Rib.CdapRoundTrip
import RinaSense.Rib.Events

/-!
# Application connections

The connection of a port is created in progress, is connected by the response of the
peer and ends released. The names given at its creation stay, but for the process name
of the peer. What the daemon stores is another name, and it releases only what is
released, so the module names the events after which the connections are in order.
-/

namespace RinaSense

open Command

/-! ## Purpose -/

/-- A new connection with the names it was asked for. -/
structure AppConnection.CreatedFor (connection : AppConnection)
    (pxSource pxDestInfo : NameInfo (Pointer String)) : Prop where
  source : connection.pxSourceInfo = pxSource
  destination : connection.pxDestinationInfo = pxDestInfo
  status : connection.xStatus = .inProgress

def AppConnection.release (connection : AppConnection) : AppConnection :=
  { connection with xStatus := .released }

namespace RibEvent

/-- The event asks for a connection on the port. -/
def Creates (port : PortId) (connection : AppConnection) : RibEvent → Prop
  | connect source dest xN1flowPortId _ => xN1flowPortId = port ∧ connection.CreatedFor source dest
  | setUp coordinator xN1PortId =>
      coordinator = true ∧ xN1PortId = port ∧ connection.CreatedFor normalName difName
  | _ => False

/-- What a message may do to the connection of its port. A connect response is accepted
only in progress; a released connection is released already. -/
def Answered (decoded : MessageCdap) (before after : AppConnection) : Prop :=
  match OpCode.ofCode? decoded.eOpCode with
  | some .connectR => after = before ∨
      before.xStatus = .inProgress ∧ after = before.connectedTo decoded.pxSourceInfo.pcProcessName
  | some .releaseR => after = before.release
  | _ => after = before

/-- What an event may do to the connection of a port. -/
def Moves (port : PortId) (before after : Option AppConnection) (event : RibEvent) : Prop :=
  match before with
  | none => after = none ∨ ∃ connection, after = some connection ∧ event.Creates port connection
  | some connection => ∃ next, after = some next ∧
      match event with
      | message decoded xN1FlowPortId =>
          if xN1FlowPortId = port then Answered decoded connection next else next = connection
      | _ => next = connection

end RibEvent

def ConnectsProperly (before : RibState) (event : RibOutcomes × RibEvent)
    (result : EStateM.Result Fault RibState Bool) : Prop :=
  ∀ port, event.2.Moves port (before.connection port) ((final result).connection port)

/-! ## Condition -/

/-- The names and the policy are complete. -/
structure CompleteNames (pxSource pxDestInfo : NameInfo (Pointer String))
    (pxAuth : AuthPolicy (Pointer String)) : Prop where
  source : pxSource.All Pointer.IsSet
  destination : pxDestInfo.All Pointer.IsSet
  authName : pxAuth.pcName.IsSet
  authVersion : pxAuth.pcVersion.IsSet

/-- What is stored for the name is the name: the memory holds the process name, and the
entity instance is the same text. -/
def StoredAs (left name : NameInfo (Pointer String)) : Prop :=
  left.pcProcessName = name.pcProcessName ∧ name.pcEntityInstance = name.pcProcessName

/-- A connect that creates the connection of its port stores the names given. -/
def RibState.CreatesNamed (state : RibState) (outcomes : RibOutcomes)
    (pxSource pxDestInfo : NameInfo (Pointer String)) (port : PortId)
    (pxAuth : AuthPolicy (Pointer String)) : Prop :=
  state.connection port = none → none ∈ state.xAppConnectionTable →
    CompleteNames pxSource pxDestInfo pxAuth →
      StoredAs outcomes.connection.pxSourceInfo pxSource ∧
        StoredAs outcomes.connection.pxDestinationInfo pxDestInfo

/-- The events that leave the connections in order: the connects above, and release
responses for released connections or none. -/
def RibEvent.SupportsConnections (state : RibState) : RibOutcomes × RibEvent → Prop
  | (outcomes, connect source dest port auth) => state.CreatesNamed outcomes source dest port auth
  | (outcomes, setUp coordinator port) => coordinator = true →
      state.CreatesNamed outcomes normalName difName port noAuthentication
  | (_, message decoded port) => OpCode.ofCode? decoded.eOpCode = some .releaseR →
      ∀ connection, state.connection port = some connection → connection.xStatus = .released
  | _ => True

/-! ## Changes of the table -/

section Changes

variable {state before after : RibState} {port other : PortId}
  {change : AppConnection → AppConnection}

theorem connection_of_table (same : after.xAppConnectionTable = before.xAppConnectionTable)
    (port : PortId) : after.connection port = before.connection port := by
  rw [RibState.connection, same, RibState.connection]

theorem connection_changed_self :
    (state.changedConnection port change).connection port =
      (state.connection port).map change := by
  rw [RibState.connection, RibState.changedConnection, SlotTable.find_update,
    RibState.connection, Option.map_map, Option.map_map]
  · rfl
  · exact fun row named => named

theorem connection_changed_other (apart : other ≠ port) :
    (state.changedConnection port change).connection other = state.connection other := by
  rw [RibState.connection, RibState.changedConnection, RibState.connection]
  congr 1
  apply SlotTable.find_update_of_disjoint
  intro row named
  rw [of_decide_eq_true named]
  exact ⟨decide_eq_false apart.symm, decide_eq_false apart.symm⟩

/-- The state with a new connection in the table. -/
def RibState.withConnection (state : RibState) (connection : AppConnection) (port : PortId) :
    RibState :=
  { state with
    xAppConnectionTable :=
      SlotTable.add { pxAppConnection := connection, xN1portId := port }
        state.xAppConnectionTable }

theorem connection_with_other (connection : AppConnection) (apart : other ≠ port) :
    (state.withConnection connection port).connection other = state.connection other := by
  rw [RibState.connection, RibState.withConnection, SlotTable.find_add_of_unwanted,
    RibState.connection]
  exact decide_eq_false apart.symm

/-- A port keeps the connection it has. -/
theorem connection_with_of_some (connection : AppConnection) {known : AppConnection}
    (packed : SlotTable.Packed state.xAppConnectionTable)
    (found : state.connection port = some known) :
    (state.withConnection connection port).connection port = some known := by
  rw [RibState.connection, Option.map_eq_some_iff] at found
  obtain ⟨row, inTable, stored⟩ := found
  rw [RibState.connection, RibState.withConnection, SlotTable.find_add_of_found packed inTable,
    Option.map_some, stored]

theorem connection_with_of_none (connection : AppConnection)
    (absent : state.connection port = none) (room : none ∈ state.xAppConnectionTable) :
    (state.withConnection connection port).connection port = some connection := by
  rw [RibState.connection, Option.map_eq_none_iff] at absent
  rw [RibState.connection, RibState.withConnection,
    SlotTable.find_add_of_absent absent (decide_eq_true rfl) room, Option.map_some]

theorem withConnection_of_full (connection : AppConnection)
    (full : none ∉ state.xAppConnectionTable) : state.withConnection connection port = state := by
  rw [RibState.withConnection, SlotTable.rows_add_of_full _ full]

end Changes

/-! ## Creation -/

section Creation

variable {codecs : RibCodecs} {outcomes : RibOutcomes} {state : RibState} {port : PortId}
  {left name created source dest : NameInfo (Pointer String)} {auth : AuthPolicy (Pointer String)}

theorem createName_eq_ok (creates : createName left name = .ok created) :
    name.All Pointer.IsSet ∧
      created = { name with
        pcProcessName := left.pcProcessName
        pcEntityInstance := name.pcProcessName } := by
  simp only [createName, bind_eq_ok, Pointer.read_eq_ok] at creates
  obtain ⟨entityInstance, hasInstance, entityName, hasEntity, processInstance, hasProcessInstance,
    processName, hasProcess, equal⟩ := creates
  refine ⟨⟨⟨_, hasProcess⟩, ⟨_, hasProcessInstance⟩, ⟨_, hasEntity⟩, ⟨_, hasInstance⟩⟩, ?_⟩
  rw [← Except.ok.inj equal, hasProcess, hasProcessInstance, hasEntity]

theorem createName_of_stored (stored : StoredAs left name)
    (creates : createName left name = .ok created) : created = name := by
  obtain ⟨sameProcess, sameInstance⟩ := stored
  rw [(createName_eq_ok creates).2, sameProcess]
  exact congrArg (fun pcEntityInstance => { name with pcEntityInstance }) sameInstance.symm

theorem fillConnectMessage_auth {opCode : OpCode} {message : MessageCdap}
    (fills : fillConnectMessage opCode source dest auth = .ok message) :
    auth.pcName.IsSet ∧ auth.pcVersion.IsSet := by
  simp only [fillConnectMessage, bind_eq_ok, Pointer.read_eq_ok] at fills
  obtain ⟨_, _, _, _, name, hasName, version, hasVersion, _⟩ := fills
  exact ⟨⟨name, hasName⟩, ⟨version, hasVersion⟩⟩

/-- A connect faults before it changes the table, or all names are set and the
connection made of them is added. -/
theorem connectWith_cases (codecs : RibCodecs) (outcomes : RibOutcomes) (opCode : OpCode) :
    (final ((connectWith codecs outcomes opCode source dest port auth).run
        state)).xAppConnectionTable = state.xAppConnectionTable ∨
      ∃ connection, CompleteNames source dest auth ∧
        prvRibCreateConnection outcomes.connection source dest = .ok connection ∧
        (final ((connectWith codecs outcomes opCode source dest port auth).run
          state)).xAppConnectionTable =
            (state.withConnection connection port).xAppConnectionTable := by
  simp only [connectWith, EStateM.run_bind, run_lift]
  cases fills : fillConnectMessage opCode source dest auth with
  | error fault => exact .inl rfl
  | ok message =>
      simp only
      cases vRibdPrintCdapMessage (some message) with
      | error fault => exact .inl rfl
      | ok _ =>
          simp only
          cases creates : prvRibCreateConnection outcomes.connection source dest with
          | error fault => exact .inl rfl
          | ok connection =>
              right
              have kept := creates
              simp only [prvRibCreateConnection, bind_eq_ok] at kept
              obtain ⟨_, createdSource, _, createdDest, _⟩ := kept
              obtain ⟨authName, authVersion⟩ := fillConnectMessage_auth fills
              have complete : CompleteNames source dest auth :=
                ⟨(createName_eq_ok createdSource).1, (createName_eq_ok createdDest).1, authName,
                  authVersion⟩
              have leaves : Leaves RibState.xAppConnectionTable
                  (encodeAndSend codecs outcomes (some message) port) :=
                leaves_encodeAndSend (fun _ _ => rfl) _ _
              exact ⟨connection, complete, rfl, leaves (state.withConnection connection port)⟩

theorem createdFor_of_stored {connection : AppConnection} {left : AppConnection}
    (storedSource : StoredAs left.pxSourceInfo source)
    (storedDest : StoredAs left.pxDestinationInfo dest)
    (creates : prvRibCreateConnection left source dest = .ok connection) :
    connection.CreatedFor source dest := by
  simp only [prvRibCreateConnection, bind_eq_ok] at creates
  obtain ⟨sourceInfo, createdSource, destinationInfo, createdDest, equal⟩ := creates
  rw [← Except.ok.inj equal]
  exact ⟨createName_of_stored storedSource createdSource,
    createName_of_stored storedDest createdDest, rfl⟩

end Creation

/-! ## The effect of each event -/

section Effects

variable {codecs : RibCodecs} {outcomes : RibOutcomes} {state after : RibState} {port : PortId}
  {message : MessageCdap} {source dest : NameInfo (Pointer String)}
  {auth : AuthPolicy (Pointer String)} {event : RibEvent}

/-- The connection of the port is the same, or one that was asked for if it had none. -/
theorem connection_after_connect (codecs : RibCodecs)
    (packed : SlotTable.Packed state.xAppConnectionTable)
    (named : state.CreatesNamed outcomes source dest port auth) (opCode : OpCode)
    (other : PortId) :
    let result := (connectWith codecs outcomes opCode source dest port auth).run state
    (final result).connection other = state.connection other ∨
      state.connection other = none ∧ port = other ∧
        ∃ connection, (final result).connection other = some connection ∧
          connection.CreatedFor source dest := by
  intro result
  rcases connectWith_cases codecs outcomes opCode with
    same | ⟨connection, complete, creates, added⟩
  · exact .inl (connection_of_table same other)
  · rw [connection_of_table added other]
    by_cases apart : other = port
    · rw [apart]
      cases known : state.connection port with
      | some connected => exact .inl (connection_with_of_some connection packed known)
      | none =>
          by_cases room : none ∈ state.xAppConnectionTable
          · obtain ⟨storedSource, storedDest⟩ := named known room complete
            exact .inr ⟨rfl, rfl, connection, connection_with_of_none connection known room,
              createdFor_of_stored storedSource storedDest creates⟩
          · left
            rw [withConnection_of_full connection room, known]
    · exact .inl (connection_with_other connection apart)

/-- A message changes no connection, or that of its port as it should. -/
theorem message_cases (codecs : RibCodecs) (outcomes : RibOutcomes) :
    (final ((vRibHandleMessage codecs outcomes message port).run state)).xAppConnectionTable =
        state.xAppConnectionTable ∨
      ∃ connection change, state.connection port = some connection ∧
        RibEvent.Answered message connection (change connection) ∧
        (final ((vRibHandleMessage codecs outcomes message port).run state)).xAppConnectionTable =
          (state.changedConnection port change).xAppConnectionTable := by
  rcases run_vRibHandleMessage with ⟨fault, run⟩ | ⟨opCode, known, can, run⟩
  · left
    rw [run]
    rfl
  · rw [run]
    cases opCode with
    | connectR =>
        cases found : state.connection port with
        | none => exact .inl rfl
        | some connection =>
            by_cases inProgress : connection.xStatus = .inProgress
            · right
              have leaves : Leaves RibState.xAppConnectionTable (xEnrollmentHandleConnectR codecs
                  outcomes message.pxSourceInfo.pcProcessName port) :=
                leaves_handleConnectR (fun _ _ => rfl) (fun _ _ => rfl) (fun _ _ => rfl)
                  (fun _ _ => rfl) (fun _ _ => rfl) _ _
              refine ⟨connection, fun connection =>
                connection.connectedTo message.pxSourceInfo.pcProcessName, rfl, ?_, ?_⟩
              · rw [RibEvent.Answered, known]
                exact .inr ⟨inProgress, rfl⟩
              · rw [handleOperation, final_handleConnectR_inProgress inProgress]
                exact leaves _
            · left
              rw [handleOperation, run_handleConnectR_other inProgress]
              rfl
    | releaseR =>
        cases found : state.connection port with
        | none => exact .inl rfl
        | some connection =>
            simp only [handleOperation, handleReleaseR, deref_some, EStateM.run_bind, run_lift]
            by_cases released : connection.xStatus = .released
            · right
              refine ⟨connection, AppConnection.release, rfl, ?_, ?_⟩
              · rw [RibEvent.Answered, known]
              · simp only [released, ne_eq, not_true_eq_false, if_false]
                rfl
            · left
              simp only [ne_eq, released, not_false_eq_true, if_true]
              rfl
    | connect => exact .inl (leaves_connect _ _ state)
    | create => exact .inl (leaves_create (fun _ _ => rfl) message state)
    | stop =>
        exact .inl
          (leaves_stop (fun _ _ => rfl) (fun _ _ => rfl) (fun _ _ => rfl) message _ _ port state)
    | start =>
        exact .inl
          (leaves_start (fun _ _ => rfl) (fun _ _ => rfl) (fun _ _ => rfl) message _ _ port state)
    | startR => exact .inl (leaves_startR (fun _ _ => rfl) message _ state)
    | stopR => exact .inl (leaves_stopR (fun _ _ => rfl) message _ state)
    | createR => exact .inl (leaves_createR (fun _ _ => rfl) message state)
    | write => exact .inl (leaves_handleWrite (fun _ _ => rfl) message state)
    | _ => exact .inl rfl

/-- A connection that is left alone moves as it should. -/
theorem moves_of_same {other : PortId}
    (supported : RibEvent.SupportsConnections state (outcomes, event))
    (same : after.connection other = state.connection other) :
    event.Moves other (state.connection other) (after.connection other) := by
  rw [same]
  cases known : state.connection other with
  | none => exact .inl rfl
  | some connection =>
      refine ⟨connection, rfl, ?_⟩
      cases event with
      | setUp coordinator port => rfl
      | connect source dest port auth => rfl
      | request objClass objName objInst opCode port value => rfl
      | message decoded port =>
          simp only
          split
          · rename_i here
            rw [RibEvent.Answered]
            split
            · exact .inl rfl
            · rename_i releaseR
              rw [← here] at known
              have released := supported releaseR connection known
              rw [AppConnection.release, ← released]
            · rfl
          · trivial

theorem message_moves
    (supported : RibEvent.SupportsConnections state (outcomes, .message message port))
    (other : PortId) :
    (RibEvent.message message port).Moves other (state.connection other)
      ((final ((vRibHandleMessage codecs outcomes message port).run state)).connection other) := by
  rcases message_cases codecs outcomes with
    same | ⟨connection, change, known, answered, changed⟩
  · exact moves_of_same supported (connection_of_table same other)
  · by_cases here : other = port
    · rw [here, connection_of_table changed, connection_changed_self, known]
      refine ⟨change connection, rfl, ?_⟩
      simp only [if_true]
      exact answered
    · apply moves_of_same supported
      rw [connection_of_table changed, connection_changed_other here]

theorem connect_moves (packed : SlotTable.Packed state.xAppConnectionTable)
    (supported : RibEvent.SupportsConnections state (outcomes, .connect source dest port auth))
    (other : PortId) :
    (RibEvent.connect source dest port auth).Moves other (state.connection other)
      ((final ((xRibdConnectToIpcp codecs outcomes source dest port auth).run state)).connection
        other) := by
  rcases connection_after_connect codecs packed supported .connect other with
    same | ⟨absent, here, connection, created, named⟩
  · exact moves_of_same supported same
  · rw [absent]
    exact .inr ⟨connection, created, here, named⟩

theorem packed_connectWith (packed : SlotTable.Packed state.xAppConnectionTable)
    (opCode : OpCode) : SlotTable.Packed (final ((connectWith codecs outcomes opCode source dest
      port auth).run state)).xAppConnectionTable := by
  rcases connectWith_cases codecs outcomes opCode with
    same | ⟨connection, _, _, added⟩
  · rw [same]
    exact packed
  · rw [added]
    exact SlotTable.packed_add _ packed

/-- The state when the objects of the enrollment are created. -/
def RibState.withObjects (state : RibState) (outcomes : RibOutcomes) : RibState :=
  { state with
    xRibObjectTable :=
      SlotTable.add
        { pxObjOps := { outcomes.objOps with start := some .operationalStart }
          ucObjName := "/difm/ops"
          ulObjInst := 1 }
        (SlotTable.add
          { pxObjOps := { outcomes.objOps with stop := true, start := some .enroller }
            ucObjName := "/difm/enr"
            ulObjInst := 0 }
          state.xRibObjectTable) }

theorem final_setUp (coordinator : Bool) :
    final ((RibEvent.perform codecs (outcomes, .setUp coordinator port)).run state) =
      if coordinator then
        final ((xRibdConnectToIpcp codecs outcomes normalName difName port noAuthentication).run
          (state.withObjects outcomes))
      else state.withObjects outcomes := by
  cases coordinator with
  | false => rfl
  | true =>
      have returned : ∀ command : Rib Unit,
          final ((do command; return true : Rib Bool).run state) = final (command.run state) :=
        fun _ => final_bind_of_still (fun _ _ => rfl) state
      have connected : final ((vEnrollmentInit codecs outcomes true port).run state) =
          final ((xRibdConnectToIpcp codecs outcomes normalName difName port
            noAuthentication).run (state.withObjects outcomes)) :=
        final_bind_of_still (fun _ _ => rfl) (state.withObjects outcomes)
      exact (returned _).trans connected

theorem setUp_moves (packed : SlotTable.Packed state.xAppConnectionTable) {coordinator : Bool}
    (supported : RibEvent.SupportsConnections state (outcomes, .setUp coordinator port))
    (other : PortId) :
    (RibEvent.setUp coordinator port).Moves other (state.connection other)
      ((final ((RibEvent.perform codecs (outcomes, .setUp coordinator port)).run
        state)).connection other) := by
  rw [final_setUp]
  cases coordinator with
  | false => exact moves_of_same supported rfl
  | true =>
      have named : (state.withObjects outcomes).CreatesNamed outcomes normalName difName port
          noAuthentication := supported rfl
      have unmoved : SlotTable.Packed (state.withObjects outcomes).xAppConnectionTable := packed
      rcases connection_after_connect codecs unmoved named .connect other with
        same | ⟨absent, here, connection, created, named⟩
      · exact moves_of_same supported same
      · have unknown : state.connection other = none := absent
        rw [unknown]
        exact .inr ⟨connection, created, rfl, here, named⟩

end Effects

/-! ## Runs -/

section Runs

variable {codecs : RibCodecs} {state : RibState}

theorem event_moves (packed : SlotTable.Packed state.xAppConnectionTable)
    (event : RibOutcomes × RibEvent) (supported : RibEvent.SupportsConnections state event) :
    ConnectsProperly state event ((RibEvent.perform codecs event).run state) := by
  obtain ⟨outcomes, event⟩ := event
  intro other
  cases event with
  | setUp coordinator port => exact setUp_moves packed supported other
  | connect source dest port auth => exact connect_moves packed supported other
  | request objClass objName objInst opCode port value =>
      have leaves : Leaves RibState.xAppConnectionTable
          (xRibdSendRequest codecs outcomes objClass objName objInst opCode port value) :=
        leaves_sendRequest (fun _ _ => rfl) (fun _ _ => rfl) (fun _ _ => rfl) (fun _ _ => rfl)
          _ _ _ _ _ _
      exact moves_of_same supported (connection_of_table (leaves state) other)
  | message decoded port => exact message_moves supported other

theorem event_packed (packed : SlotTable.Packed state.xAppConnectionTable)
    (event : RibOutcomes × RibEvent) :
    SlotTable.Packed
      (final ((RibEvent.perform codecs event).run state)).xAppConnectionTable := by
  obtain ⟨outcomes, event⟩ := event
  cases event with
  | setUp coordinator port =>
      rw [final_setUp]
      cases coordinator with
      | false => exact packed
      | true =>
          have unmoved : SlotTable.Packed (state.withObjects outcomes).xAppConnectionTable := packed
          exact packed_connectWith unmoved .connect
  | connect source dest port auth => exact packed_connectWith packed .connect
  | request objClass objName objInst opCode port value =>
      have leaves : Leaves RibState.xAppConnectionTable
          (xRibdSendRequest codecs outcomes objClass objName objInst opCode port value) :=
        leaves_sendRequest (fun _ _ => rfl) (fun _ _ => rfl) (fun _ _ => rfl) (fun _ _ => rfl)
          _ _ _ _ _ _
      have same : (final ((RibEvent.perform codecs (outcomes, .request objClass objName objInst
          opCode port value)).run state)).xAppConnectionTable = state.xAppConnectionTable :=
        leaves state
      rw [same]
      exact packed
  | message decoded port =>
      rw [RibEvent.perform]
      rcases message_cases codecs outcomes with
        same | ⟨_, change, _, _, changed⟩
      · rw [same]
        exact packed
      · rw [changed]
        exact SlotTable.packed_update packed

end Runs

/-- In a run of supported events the connection of every port moves as it should. -/
theorem connections_run_properly (codecs : RibCodecs) (events : List (RibOutcomes × RibEvent))
    (supported : ∀ occurrence ∈ Trace.trace (RibEvent.perform codecs) events .initial,
      RibEvent.SupportsConnections occurrence.before occurrence.event) :
    ∀ occurrence ∈ Trace.trace (RibEvent.perform codecs) events .initial,
      ConnectsProperly occurrence.before occurrence.event occurrence.result := by
  have free : SlotTable.Packed RibState.initial.xAppConnectionTable :=
    SlotTable.packed_of_free fun _ => List.eq_of_mem_replicate
  apply Trace.proper_of_supported (fun state => SlotTable.Packed state.xAppConnectionTable)
    RibEvent.SupportsConnections ConnectsProperly _ free supported
  intro before event packed supported
  exact ⟨event_moves packed event supported, event_packed packed event⟩

/-! ## A connect -/

/-- The name of a process whose entity instance is called like it. -/
def processName (text : String) : NameInfo (Pointer String) where
  pcProcessName := .target text
  pcProcessInstance := .target "1"
  pcEntityName := .target managementAe
  pcEntityInstance := .target text

/-- The message of a connect from `a` to `b`. -/
def connectMessage : MessageCdap :=
  { prvRibMessageCdapInit with
    eOpCode := OpCode.connect.toCode
    pxDestinationInfo := { processName "b" with pcEntityInstance := .target "" }
    pxSourceInfo := { processName "a" with pcEntityInstance := .target "" }
    pxAuthPolicy := noAuthentication }

/-- Its encoding. -/
def connectMessageBytes : List UInt8 :=
  let management : List UInt8 := [0x4d, 0x61, 0x6e, 0x61, 0x67, 0x65, 0x6d, 0x65, 0x6e, 0x74]
  let policy : List UInt8 :=
    [0x50, 0x53, 0x4f, 0x43, 0x5f, 0x61, 0x75, 0x74, 0x68, 0x65, 0x6e, 0x74,
      0x69, 0x63, 0x61, 0x74, 0x69, 0x6f, 0x6e, 0x2d, 0x6e, 0x6f, 0x6e, 0x65]
  [0x10, 0x00, 0x18, 0x01, 0x48, 0x00, 0x92, 0x01, 0x1d, 0x0a, 0x18] ++ policy ++
    [0x12, 0x01, 0x31, 0x9a, 0x01, 0x00, 0xa2, 0x01, 0x0a] ++ management ++
    [0xaa, 0x01, 0x01, 0x31, 0xb2, 0x01, 0x01, 0x62, 0xba, 0x01, 0x00, 0xc2, 0x01, 0x0a] ++
    management ++ [0xca, 0x01, 0x01, 0x31, 0xd2, 0x01, 0x01, 0x61, 0xe0, 0x01, 0x01]

def connectCodecs : RibCodecs where
  cdap := .single connectMessage.wire connectMessageBytes
  enrollment := .refusing
  neighbor := .refusing
  aData := .refusing
  flow := .refusing

/-- The connect on port 1, with what the memory of the connection holds. -/
def connectEvent (connection : AppConnection) : RibOutcomes × RibEvent :=
  ({ RibOutcomes.clear with connection },
    .connect (processName "a") (processName "b") 1 noAuthentication)

/-- Memory in which the process names are there already. -/
def namedMemory : AppConnection :=
  { RibOutcomes.clear.connection with
    pxSourceInfo := processName "a"
    pxDestinationInfo := processName "b" }

/-- The answer of the peer, which calls itself `c`. -/
def connectedEvent : RibOutcomes × RibEvent :=
  (.clear, .message { prvRibMessageCdapInit with
    eOpCode := OpCode.connectR.toCode
    pxSourceInfo := processName "c" } 1)

/-- The answer comes, and comes again. -/
def connectedRun : List (RibOutcomes × RibEvent) :=
  [connectEvent namedMemory, connectedEvent, connectedEvent]

/-- The connection ends up connected to the peer. -/
theorem connections_run_properly_connect :
    (∀ occurrence ∈ Trace.trace (RibEvent.perform connectCodecs) connectedRun .initial,
      ConnectsProperly occurrence.before occurrence.event occurrence.result) ∧
    ((final ((Command.sequence (RibEvent.perform connectCodecs) connectedRun).run
        .initial)).connection 1).map (fun connection => (connection.xStatus,
          connection.pxSourceInfo.pcProcessName, connection.pxDestinationInfo.pcProcessName)) =
      some (.connected, .target "a", .target "c") := by
  constructor
  · refine connections_run_properly connectCodecs connectedRun ?_
    intro occurrence member
    rcases Trace.mem_trace_cons.mp member with rfl | ⟨_, _, _, answered⟩
    · intro _ _ _
      exact ⟨⟨rfl, rfl⟩, ⟨rfl, rfl⟩⟩
    · have answer : occurrence.event = connectedEvent := by
        rcases Trace.mem_trace_cons.mp answered with rfl | ⟨_, _, _, again⟩
        · rfl
        · rcases Trace.mem_trace_cons.mp again with rfl | ⟨_, _, _, none⟩
          · rfl
          · exact absurd none List.not_mem_nil
      rw [answer]
      intro isRelease
      exact absurd isRelease (by decide)
  · decide +kernel

/-- The process names of the connection are not those given. -/
theorem connect_process_name_lost :
    ¬ ∀ occurrence ∈ Trace.trace (RibEvent.perform connectCodecs)
        [connectEvent RibOutcomes.clear.connection] .initial,
      ConnectsProperly occurrence.before occurrence.event occurrence.result := by
  intro properly
  have moves := properly _ (Trace.mem_trace_cons.mpr (.inl rfl)) 1
  have lost : ((final ((RibEvent.perform connectCodecs
      (connectEvent RibOutcomes.clear.connection)).run .initial)).connection 1).map
        AppConnection.pxSourceInfo = some { processName "a" with pcProcessName := .null } := by
    decide
  rcases moves with absent | ⟨connection, stored, _, named⟩
  · have none := (congrArg (Option.map AppConnection.pxSourceInfo) absent).symm.trans lost
    cases none
  · have kept := (congrArg (Option.map AppConnection.pxSourceInfo) stored).symm.trans lost
    rw [Option.map_some, named.source] at kept
    exact absurd kept (by decide)

end RinaSense
