import RinaSense.Ipcp.RibReplies
import RinaSense.Rib.FlowRequestCopies

/-!
# Failing flow requests

The whole of `vFlowAllocatorFlowRequest` on both halves of an IPC process, the tables of the
IPCP and those of the RIB daemon. A request that fails is to leave both as they were; the
module determines the requests that keep to this.
-/

namespace RinaSense

open Command

/-! ## The request -/

/-- A step of a flow request that can fail, with what it was given and what it returned. -/
inductive FlowRequestStep where
  | findNeighbor (found : Bool)
  | createConnection (xCepId : CepId)
  | updateCepId (xCepId : CepId) (updated : Bool)
  | encodeFlow (pxFlow : Flow) (encoded : Bool)
  | createObject
  | sendRequest (sent : Bool)
  deriving Repr, DecidableEq

/-- An IPC process, with the steps its flow request took. -/
structure IpcProcess where
  node : Node
  rib : RibState
  steps : List FlowRequestStep

abbrev FlowRequest := EStateM Fault IpcProcess

def onIpcp {α : Type} (command : Rina α) : FlowRequest α :=
  zoom IpcProcess.node (fun node process => { process with node }) command

def onRib {α : Type} (command : Rib α) : FlowRequest α :=
  zoom IpcProcess.rib (fun rib process => { process with rib }) command

def noteStep (step : FlowRequestStep) : FlowRequest Unit :=
  modify fun process => { process with steps := process.steps ++ [step] }

/-- Register the instance of a request. -/
def registerInstance (pxFlowAllocatorInstance : FlowAllocatorInstance) : Rina Unit := do
  let core ← readCore
  writeCore { core with
    xFlowRequestTable := prvAddFlowRequestEntry pxFlowAllocatorInstance core.xFlowRequestTable }

/-- The RMT sends the message the daemon handed over last. -/
def transmit (sending : Outcomes) : FlowRequest Unit := do
  let process ← get
  match process.rib.sent.getLast? with
  | none => return ()
  | some (xN1Port, bytes) =>
      onIpcp (sendReply { xN1Port, bytes, buffer := true, outcomes := sending })

section Request

variable (codecs : RibCodecs) (outcomes : RibOutcomes) (setup : FlowRequestSetup)
  (connection : ConnectionOutcomes) (sending : Outcomes)

/-- The create request with the encoded flow, sent or not. -/
def sendCreateRequest (flowObj : String) (xN1Port : PortId) (pxObjVal : Option (List UInt8)) :
    FlowRequest Unit := do
  let sent ← onRib (xRibdSendRequest codecs outcomes (some "Flow") (some flowObj) (-1)
    OpCode.create.toCode xN1Port pxObjVal)
  if sent then transmit sending
  noteStep (.sendRequest sent)

/-- The object of the flow, which is always returned, stored or not, and the request. -/
def createRemoteFlow (pxFlow : Flow) (xN1Port : PortId) (pxObjVal : Option (List UInt8)) :
    FlowRequest Unit := do
  let flowObj ← printFlowObj pxFlow.xSourceAddress pxFlow.xSourcePortId
  let _ ← onRib (pxRibCreateObject outcomes.objOps (.target flowObj) (-1) .flow)
  noteStep .createObject
  sendCreateRequest codecs outcomes sending flowObj xN1Port pxObjVal

/-- The description of the flow is sent to the neighbor, encoded or not. -/
def requestRemoteFlow (pxFlow : Flow) (xN1Port : PortId) : FlowRequest Unit := do
  let pxObjVal ← pxSerdesMsgFlowEncode codecs.flow setup.flowSize setup.encodeMemory (some pxFlow)
  noteStep (.encodeFlow pxFlow pxObjVal.isSome)
  createRemoteFlow codecs outcomes sending pxFlow xN1Port pxObjVal

/-- The flow as it is sent, with the CEP id of its connection. -/
def FlowRequestSetup.describe (setup : FlowRequestSetup) (xCepSourceId : CepId)
    (xAppPortId : PortId) (pxLocal pxRemote : NameInfo (Pointer String))
    (xRemoteAddress : Address) : Flow :=
  requestFlow { setup with xCepSourceId } xAppPortId pxLocal pxRemote xRemoteAddress

/-- The CEP id is noted in the flow of the port, whether it is one or not and whether there
is such a flow or not, and the flow is requested. -/
def requestOver (xAppPortId : PortId) (pxLocal pxRemote : NameInfo (Pointer String))
    (pxNeighbor : NeighborInfo) (xCepSourceId : CepId) : FlowRequest Unit := do
  let updated ← onIpcp (xNormalUpdateCepIdFlow xAppPortId xCepSourceId)
  noteStep (.updateCepId xCepSourceId updated)
  if !setup.connectionIdMemory then throw .nullPointer
  requestRemoteFlow codecs outcomes setup sending
    (setup.describe xCepSourceId xAppPortId pxLocal pxRemote pxNeighbor.xNeighborAddress)
    pxNeighbor.xN1Port

def requestThrough (xAppPortId : PortId) (pxLocal pxRemote : NameInfo (Pointer String))
    (pxNeighbor : NeighborInfo) : FlowRequest Unit := do
  let xCepSourceId ← onIpcp (xNormalConnectionCreateRequest connection xAppPortId localAddress
    pxNeighbor.xNeighborAddress qosCubeId true)
  noteStep (.createConnection xCepSourceId)
  requestOver codecs outcomes setup sending xAppPortId pxLocal pxRemote pxNeighbor xCepSourceId

/-- Without a neighbor the request ends, and its instance stays registered. -/
def FlowRequest.vFlowAllocatorFlowRequest (xAppPortId : PortId) (pxFlowRequest : HandleId)
    (pxLocal pxRemote : NameInfo (Pointer String)) : FlowRequest Unit := do
  if !setup.flowMemory then throw .nullPointer
  if !setup.faiMemory then throw .nullPointer
  onIpcp (registerInstance
    { eFaiState := .none
      xPortId := xAppPortId
      pxFlowAllocatorHandle := pxFlowRequest })
  let pxNeighbor ← onRib (pxEnrollmentFindNeighbor (.target remoteAddressApName))
  noteStep (.findNeighbor pxNeighbor.isSome)
  match pxNeighbor with
  | none => return ()
  | some pxNeighbor =>
      requestThrough codecs outcomes setup connection sending xAppPortId pxLocal pxRemote pxNeighbor

/-- Where a request ends, returned or not. -/
def afterFlowRequest (node : Node) (rib : RibState) (xAppPortId : PortId)
    (pxFlowRequest : HandleId) (pxLocal pxRemote : NameInfo (Pointer String)) : IpcProcess :=
  final ((FlowRequest.vFlowAllocatorFlowRequest codecs outcomes setup connection sending
    xAppPortId pxFlowRequest pxLocal pxRemote).run { node, rib, steps := [] })

end Request

/-! ## Purpose -/

namespace FlowRequestStep

def Failed : FlowRequestStep → Prop
  | findNeighbor found => found = false
  | createConnection xCepId => isCepIdOk xCepId = false
  | updateCepId _ updated => updated = false
  | encodeFlow _ encoded => encoded = false
  | createObject => False
  | sendRequest sent => sent = false

/-- The source CEP id a step gives to a flow. -/
def sourceCepId : FlowRequestStep → Option CepId
  | updateCepId xCepId _ => some xCepId
  | encodeFlow pxFlow _ =>
      match pxFlow.pxConnectionId with
      | .target connectionId => some connectionId.xSource
      | _ => none
  | _ => none

end FlowRequestStep

/-- What a failed request may not change. -/
structure IpcProcess.Untouched (node : Node) (rib : RibState) (after : IpcProcess) : Prop where
  requests : after.node.core.xFlowRequestTable = node.core.xFlowRequestTable
  objects : after.rib.xRibObjectTable = rib.xRibObjectTable
  container : after.node.core.pxEfcpc = node.core.pxEfcpc
  instances : ∀ id, after.node.core.efcps.get? id = node.core.efcps.get? id
  map : after.node.core.xEfcpImapTable = node.core.xEfcpImapTable
  active : ∀ xPortId,
    (prvNormalFindFlow xPortId after.node.core.xFlowsList).map NormalFlow.xActive =
      (prvNormalFindFlow xPortId node.core.xFlowsList).map NormalFlow.xActive

/-- A failing step is the last one and everything before it is undone; no flow is given the
wrong CEP id. -/
structure IpcProcess.LeavesNoTrace (node : Node) (rib : RibState) (after : IpcProcess) : Prop where
  undone : (∃ step ∈ after.steps, step.Failed) → after.Untouched node rib
  last : ∀ {earlier step later}, after.steps = earlier ++ step :: later → step.Failed → later = []
  described : ∀ step ∈ after.steps, step.sourceCepId ≠ some cepIdWrong
  flows : ∀ flow ∈ after.node.core.xFlowsList, flow.xActive = cepIdWrong →
    flow ∈ node.core.xFlowsList

/-! ## When a connection is created -/

/-- How the creation of a connection for a flow can end. -/
inductive Creation where
  | made
  | refused
  | aborted
  deriving Repr, DecidableEq

/-- The first thing that is missing decides, and what the memory of a new instance held. -/
def creation (core : Core) (connection : ConnectionOutcomes) (xAppPortId : PortId) : Creation :=
  if !core.pxEfcpc then .refused
  else if !connection.connectionMemory then .aborted
  else if !connection.efcpMemory then .refused
  else if !isPortIdOk xAppPortId then
    if connection.leftDtp || connection.leftConnection || connection.leftUserIpcp then .aborted
    else .refused
  else if !(core.xEfcpcRmt && connection.dtpMemory) then
    if connection.leftUserIpcp then .aborted else .refused
  else if !connection.svMemory then .aborted
  else if core.xEfcpImapTable.isEmpty then
    if connection.leftUserIpcp then .aborted else .refused
  else .made

section Connection

variable {node : Node} {connection : ConnectionOutcomes} {xAppPortId : PortId}
  {xRemoteAddress : Address}

/-- Where a creation ends; the flows stay as they are. -/
inductive CreationEnds (node : Node) : Creation → EStateM.Result Fault Node CepId → Prop where
  | refused (core : Core) (flows : core.xFlowsList = node.core.xFlowsList) :
      CreationEnds node .refused (.ok cepIdWrong { node with core })
  | made (value : Efcp) :
      CreationEnds node .made (.ok hardcodedCepId { node with core := node.core.created value })
  | aborted (fault : Fault) (core : Core) (flows : core.xFlowsList = node.core.xFlowsList) :
      CreationEnds node .aborted (.error fault { node with core })

/-- A map without rows takes no connection. -/
theorem run_xEfcpConnectionCreate_unmapped {request : ConnectionRequest}
    (reached : ReachesInstance request connection node) (portId : isPortIdOk request.xPortId = true)
    (dtp : (node.core.xEfcpcRmt && connection.dtpMemory) = true)
    (svMemory : connection.svMemory = true) (empty : node.core.xEfcpImapTable = []) :
    (xEfcpConnectionCreate request connection).run node =
      if connection.leftUserIpcp then
        .error .nullPointer { node with
          core := node.core.addEfcp (connection.efcp request.connection (some connection.dtp)) }
      else .ok cepIdWrong { node with
        core := node.core.undone (connection.efcp request.connection (some connection.dtp)) } := by
  obtain ⟨rmt, dtpMemory⟩ := Bool.and_eq_true_iff.mp dtp
  have destroyed := run_xEfcpDestroy_new node
    (connection.efcp request.connection (some connection.dtp)) rfl
  have unmapped (value : Efcp) : (efcpImapAdd hardcodedCepId node.core.efcps.next).run
      { node with core := node.core.addEfcp value } =
        .ok false { node with core := node.core.addEfcp value } := by
    simp [efcpImapAdd, Core.addEfcp, empty, xEfcpImapAdd]
  have created : (pxDtpCreate connection node.core.xEfcpcRmt request.pxDtpCfg).run
      { node with core := node.core.addEfcp (connection.efcp request.connection none) } =
        .ok (some connection.dtp)
          { node with core := node.core.addEfcp (connection.efcp request.connection none) } := by
    simp [pxDtpCreate, reached.configuration, rmt, dtpMemory, svMemory, ConnectionOutcomes.dtp]
  rw [run_xEfcpConnectionCreate_reached reached, run_bindConnection]
  simp only [portId, Bool.not_true, Bool.false_eq_true, if_false, EStateM.run_bind,
    run_writeEfcp, setEfcp_addEfcp, created, Option.isNone_some, unmapped, Bool.not_false, if_true,
    destroyed]
  cases user : connection.leftUserIpcp with
  | true => simp [ConnectionOutcomes.efcp, ConnectionOutcomes.newEfcp, user]
  | false => simp [ConnectionOutcomes.efcp, ConnectionOutcomes.newEfcp, user]

/-- The request of a flow. -/
def flowConnection (xAppPortId : PortId) (xRemoteAddress : Address) : ConnectionRequest where
  xSrcAddr := localAddress
  xDstAddr := xRemoteAddress
  xPortId := xAppPortId
  xQosId := qosCubeId
  xSrcCepId := cepIdWrong
  xDstCepId := cepIdWrong
  pxDtpCfg := true

/-- Once there is an instance it is given up as soon as something is missing. -/
theorem efcpConnectionCreate_ends_reached
    (reached : ReachesInstance (flowConnection xAppPortId xRemoteAddress) connection node) :
    CreationEnds node (creation node.core connection xAppPortId)
      ((xEfcpConnectionCreate (flowConnection xAppPortId xRemoteAddress) connection).run node) := by
  simp only [creation, reached.container, reached.connectionMemory, reached.efcpMemory,
    Bool.not_true, Bool.false_eq_true, if_false]
  cases portId : isPortIdOk xAppPortId with
  | false =>
      rw [run_xEfcpConnectionCreate_portId reached portId]
      simp only [Bool.not_false, if_true]
      split
      · exact .aborted _ _ rfl
      · exact .refused _ rfl
  | true =>
      simp only [Bool.not_true, Bool.false_eq_true, if_false]
      cases dtp : node.core.xEfcpcRmt && connection.dtpMemory with
      | false =>
          rw [run_xEfcpConnectionCreate_dtp reached portId dtp]
          simp only [Bool.not_false, if_true]
          split
          · exact .aborted _ _ rfl
          · exact .refused _ rfl
      | true =>
          simp only [Bool.not_true, Bool.false_eq_true, if_false]
          cases svMemory : connection.svMemory with
          | false =>
              rw [run_xEfcpConnectionCreate_sv reached portId dtp svMemory]
              exact .aborted _ _ rfl
          | true =>
              simp only [Bool.not_true, Bool.false_eq_true, if_false, List.isEmpty_iff]
              by_cases empty : node.core.xEfcpImapTable = []
              · rw [run_xEfcpConnectionCreate_unmapped reached portId dtp svMemory empty,
                  if_pos empty]
                split
                · exact .aborted _ _ rfl
                · exact .refused _ rfl
              · rw [run_xEfcpConnectionCreate_created reached portId dtp svMemory empty,
                  if_neg empty]
                exact .made _

theorem efcpConnectionCreate_ends :
    CreationEnds node (creation node.core connection xAppPortId)
      ((xEfcpConnectionCreate (flowConnection xAppPortId xRemoteAddress) connection).run node) := by
  by_cases reached : ReachesInstance (flowConnection xAppPortId xRemoteAddress) connection node
  · exact efcpConnectionCreate_ends_reached reached
  · cases container : node.core.pxEfcpc with
    | false =>
        simp only [xEfcpConnectionCreate, creation, container, EStateM.run_bind, run_readCore]
        exact .refused node.core rfl
    | true =>
        cases copied : connection.connectionMemory with
        | false =>
            simp only [xEfcpConnectionCreate, creation, container, copied, EStateM.run_bind,
              run_readCore]
            exact .aborted _ node.core rfl
        | true =>
            cases memory : connection.efcpMemory with
            | true => exact absurd ⟨container, copied, rfl, memory⟩ reached
            | false =>
                simp only [xEfcpConnectionCreate, pxEfcpCreate, creation, flowConnection, container,
                  copied, memory, EStateM.run_bind, run_readCore]
                exact .refused node.core rfl

/-- The caller passes on what was returned. -/
theorem connectionCreateRequest_ends :
    CreationEnds node (creation node.core connection xAppPortId)
      ((xNormalConnectionCreateRequest connection xAppPortId localAddress xRemoteAddress qosCubeId
        true).run node) := by
  have ends := @efcpConnectionCreate_ends node connection xAppPortId xRemoteAddress
  rw [xNormalConnectionCreateRequest, EStateM.run_bind, ← flowConnection]
  generalize creation node.core connection xAppPortId = outcome at ends ⊢
  generalize (xEfcpConnectionCreate (flowConnection xAppPortId xRemoteAddress) connection).run
    node = result at ends ⊢
  cases ends with
  | refused core flows => exact .refused core flows
  | made value => exact .made value
  | aborted fault core flows => exact .aborted fault core flows

end Connection

/-! ## When a request fails -/

section Conditions

variable (codecs : RibCodecs) (setup : FlowRequestSetup) (connection : ConnectionOutcomes)
  (node : Node) (rib : RibState) (xAppPortId : PortId)
  (pxLocal pxRemote : NameInfo (Pointer String))

/-- The texts of a flow fit, but there is no memory for its encoding or the codec refuses it. -/
def FlowRequestSetup.Unencoded (setup : FlowRequestSetup) (codec : Codec FlowMessage)
    (flow : Flow) : Prop :=
  ∃ message, fillFlowMessage flow = .ok message ∧ setup.value codec message = none

/-- The flow is encoded, within its block. -/
def FlowRequestSetup.Encodes (setup : FlowRequestSetup) (codec : Codec FlowMessage)
    (flow : Flow) (bytes : List UInt8) : Prop :=
  ∃ message, fillFlowMessage flow = .ok message ∧ setup.value codec message = some bytes ∧
    flowBufferOffset + bytes.length ≤ setup.flowSize + serObjectValueSize

/-- The codec refuses the create request. -/
def CreateRefused (codec : Codec CdapMessage) (rib : RibState) (key : String)
    (bytes : List UInt8) : Prop :=
  ∃ message, fillCdapMessage (requestMessage (some "Flow") (some key) (-1) .create (some bytes)
      rib.takenInvokeId) = .ok message ∧
    codec.encodeWithin encodeBufferSize message = none

/-- The flow gets its connection and the request is built. -/
structure FlowBinds (neighbor : NeighborInfo) : Prop where
  memory : setup.flowMemory = true ∧ setup.faiMemory = true
  known : rib.nextHop = some neighbor
  made : creation node.core connection xAppPortId = .made
  flow : prvNormalFindFlow xAppPortId node.core.xFlowsList ≠ none
  connectionIdMemory : setup.connectionIdMemory = true

/-- The flow a bound request describes. -/
def boundFlow (neighbor : NeighborInfo) : Flow :=
  setup.describe hardcodedCepId xAppPortId pxLocal pxRemote neighbor.xNeighborAddress

/-- A step of the request fails. -/
inductive RequestFails : Prop where
  | neighbor (memory : setup.flowMemory = true ∧ setup.faiMemory = true)
      (unknown : rib.nextHop = none)
  | connection (memory : setup.flowMemory = true ∧ setup.faiMemory = true)
      (known : rib.nextHop ≠ none) (refused : creation node.core connection xAppPortId = .refused)
  | flow (memory : setup.flowMemory = true ∧ setup.faiMemory = true)
      (known : rib.nextHop ≠ none) (made : creation node.core connection xAppPortId = .made)
      (missing : prvNormalFindFlow xAppPortId node.core.xFlowsList = none)
  | encoding (neighbor : NeighborInfo)
      (binds : FlowBinds setup connection node rib xAppPortId neighbor)
      (unencoded : setup.Unencoded codecs.flow
        (boundFlow setup xAppPortId pxLocal pxRemote neighbor))
  | request (neighbor : NeighborInfo) (bytes : List UInt8)
      (binds : FlowBinds setup connection node rib xAppPortId neighbor)
      (encodes : setup.Encodes codecs.flow
        (boundFlow setup xAppPortId pxLocal pxRemote neighbor) bytes)
      (printed : xAppPortId.toNat < 10000000)
      (refused : CreateRefused codecs.cdap rib (flowKey localAddress xAppPortId) bytes)

end Conditions

/-! ## Runs of the steps -/

section Steps

variable {α : Type} {process : IpcProcess} {codecs : RibCodecs} {outcomes : RibOutcomes}
  {setup : FlowRequestSetup} {flow : Flow}

theorem run_onIpcp (command : Rina α) :
    (onIpcp command).run process =
      match command.run process.node with
      | .ok value node => .ok value { process with node }
      | .error fault node => .error fault { process with node } := by
  rw [onIpcp, run_zoom]
  cases command.run process.node with
  | ok value next => rfl
  | error fault next => rfl

theorem run_onRib (command : Rib α) :
    (onRib command).run process =
      match command.run process.rib with
      | .ok value rib => .ok value { process with rib }
      | .error fault rib => .error fault { process with rib } := by
  rw [onRib, run_zoom]
  cases command.run process.rib with
  | ok value next => rfl
  | error fault next => rfl

@[simp] theorem run_noteStep (step : FlowRequestStep) :
    (noteStep step).run process = .ok () { process with steps := process.steps ++ [step] } := rfl

/-- How the encoding of a flow ends. -/
theorem encodeFlow_cases (codec : Codec FlowMessage) (setup : FlowRequestSetup) (flow : Flow) :
    (setup.Unencoded codec flow ∧
        pxSerdesMsgFlowEncode codec setup.flowSize setup.encodeMemory (some flow) = .ok none) ∨
      (∃ bytes, setup.Encodes codec flow bytes ∧
        pxSerdesMsgFlowEncode codec setup.flowSize setup.encodeMemory (some flow) =
          .ok (some bytes)) ∨
      ∃ fault, pxSerdesMsgFlowEncode codec setup.flowSize setup.encodeMemory (some flow) =
        .error fault := by
  cases filled : fillFlowMessage flow with
  | error fault =>
      right; right
      refine ⟨fault, ?_⟩
      rw [pxSerdesMsgFlowEncode]
      simp only [filled, error_bind]
  | ok message =>
      rw [pxSerdesMsgFlowEncode_value filled]
      cases value : setup.value codec message with
      | none => exact .inl ⟨⟨message, filled, value⟩, rfl⟩
      | some bytes =>
          by_cases block : flowBufferOffset + bytes.length ≤ setup.flowSize + serObjectValueSize
          · exact .inr (.inl ⟨bytes, ⟨message, filled, value, block⟩, if_pos block⟩)
          · exact .inr (.inr ⟨.outOfBounds, if_neg block⟩)

theorem encodeCdap_none_iff (codec : Codec CdapMessage) (obtained : Bool) (rib : RibState)
    (key : String) (bytes : List UInt8) :
    prvRibdEncodeCDAP codec obtained (some (requestMessage (some "Flow") (some key) (-1) .create
        (some bytes) rib.takenInvokeId)) = .ok none ↔
      CreateRefused codec rib key bytes := by
  constructor
  · intro encoded
    rw [prvRibdEncodeCDAP] at encoded
    obtain ⟨name, named, encoded⟩ := bind_eq_ok.mp encoded
    obtain ⟨message, filled, encoded⟩ := bind_eq_ok.mp encoded
    refine ⟨message, filled, ?_⟩
    cases within : codec.encodeWithin encodeBufferSize message with
    | none => rfl
    | some bytes =>
        rw [within] at encoded
        cases obtained <;> cases encoded
  · rintro ⟨message, filled, refused⟩
    rw [prvRibdEncodeCDAP]
    refine bind_eq_ok.mpr ⟨OpCode.create.name, rfl, bind_eq_ok.mpr ⟨message, filled, ?_⟩⟩
    rw [refused]
    rfl

theorem run_sendCreate (codecs : RibCodecs) (outcomes : RibOutcomes) (rib : RibState)
    (key : String) (bytes : List UInt8) (port : PortId) :
    (xRibdSendRequest codecs outcomes (some "Flow") (some key) (-1) OpCode.create.toCode port
        (some bytes)).run rib =
      match prvRibdEncodeCDAP codecs.cdap outcomes.bufferObtained (some (requestMessage
        (some "Flow") (some key) (-1) .create (some bytes) rib.takenInvokeId)) with
      | .error fault => .error fault (rib.registered outcomes .create)
      | .ok none => .ok false (rib.registered outcomes .create)
      | .ok (some contents) => .ok true { rib.registered outcomes .create with
          sent := rib.sent ++ [(port, contents)] } := by
  rw [run_sendRequest (OpCode.ofCode?_toCode .create) rfl, run_encodeAndSend]
  rfl

theorem run_updateCepId (node : Node) (xPortId : PortId) (xCepId : CepId) :
    (xNormalUpdateCepIdFlow xPortId xCepId).run node =
      match prvNormalFindFlow xPortId node.core.xFlowsList with
      | none => .ok false node
      | some _ => .ok true { node with core := { node.core with
          xFlowsList := changeFlow xPortId (fun flow => { flow with xActive := xCepId })
            node.core.xFlowsList } } := by
  rw [xNormalUpdateCepIdFlow, updateFlow, run_bind_ok run_readCore]
  cases prvNormalFindFlow xPortId node.core.xFlowsList with
  | none => rfl
  | some flow => rfl

end Steps

/-! ## What the rest of a request does -/

/-- Steps are added and the N-1 port counts; the other tables of the IPCP stay. -/
structure IpcProcess.Continues (before after : IpcProcess) : Prop where
  steps : before.steps <+: after.steps
  core : ∃ xPortIdTable, after.node.core = { before.node.core with xPortIdTable }

theorem continues_refl (process : IpcProcess) : process.Continues process :=
  ⟨List.prefix_refl _, _, rfl⟩

theorem continues_trans (first second third : IpcProcess) (before : first.Continues second)
    (after : second.Continues third) : first.Continues third where
  steps := before.steps.trans after.steps
  core := by
    obtain ⟨early, first⟩ := before.core
    obtain ⟨late, second⟩ := after.core
    exact ⟨late, by rw [second, first]⟩

section Continuing

variable {α β : Type} {codecs : RibCodecs} {outcomes : RibOutcomes} {setup : FlowRequestSetup}
  {sending : Outcomes}

theorem continues_bind {command : FlowRequest α} {rest : α → FlowRequest β}
    (first : Keeps IpcProcess.Continues command)
    (second : ∀ value, Keeps IpcProcess.Continues (rest value)) :
    Keeps IpcProcess.Continues (command >>= rest) := keeps_bind continues_trans first second

theorem continues_lift (computation : Except Fault α) :
    Keeps IpcProcess.Continues (liftM computation : FlowRequest α) :=
  keeps_of_final continues_refl fun process => by
    rw [run_lift]
    cases computation <;> rfl

theorem continues_noteStep (step : FlowRequestStep) :
    Keeps IpcProcess.Continues (noteStep step) :=
  keeps_modify fun _ => ⟨List.prefix_append _ _, _, rfl⟩

theorem continues_onRib (command : Rib α) : Keeps IpcProcess.Continues (onRib command) := by
  intro process
  rw [onRib, final_zoom]
  exact ⟨List.prefix_refl _, _, rfl⟩

theorem continues_onIpcp {command : Rina α} (sends : OnlySends command) :
    Keeps IpcProcess.Continues (onIpcp command) := by
  intro process
  rw [onIpcp, final_zoom]
  exact ⟨List.prefix_refl _, (sends process.node).core⟩

theorem continues_transmit (sending : Outcomes) : Keeps IpcProcess.Continues (transmit sending) := by
  apply continues_bind (keeps_of_final continues_refl fun _ => rfl)
  intro process
  cases process.rib.sent.getLast? with
  | none => exact keeps_pure continues_refl _
  | some message => exact continues_onIpcp (onlySends_sendReply _)

theorem continues_sendCreateRequest (key : String) (port : PortId) (value : Option (List UInt8)) :
    Keeps IpcProcess.Continues (sendCreateRequest codecs outcomes sending key port value) := by
  apply continues_bind (continues_onRib _)
  intro sent
  exact keeps_ite (continues_bind (continues_transmit sending) fun _ => continues_noteStep _)
    (continues_noteStep _)

theorem continues_createRemoteFlow (flow : Flow) (port : PortId) (value : Option (List UInt8)) :
    Keeps IpcProcess.Continues (createRemoteFlow codecs outcomes sending flow port value) := by
  apply continues_bind (continues_lift _)
  intro key
  apply continues_bind (continues_onRib _)
  intro _
  apply continues_bind (continues_noteStep _)
  intro _
  exact continues_sendCreateRequest _ _ _

theorem continues_requestRemoteFlow (flow : Flow) (port : PortId) :
    Keeps IpcProcess.Continues (requestRemoteFlow codecs outcomes setup sending flow port) := by
  apply continues_bind (continues_lift _)
  intro value
  apply continues_bind (continues_noteStep _)
  intro _
  exact continues_createRemoteFlow _ _ _

end Continuing

/-! ## Requesting the flow from the neighbor -/

/-- No step failed, and no flow was given the wrong CEP id. -/
structure IpcProcess.Clean (node : Node) (process : IpcProcess) : Prop where
  steps : ∀ step ∈ process.steps, ¬ step.Failed ∧ step.sourceCepId ≠ some cepIdWrong
  flows : ∀ flow ∈ process.node.core.xFlowsList, flow.xActive = cepIdWrong →
    flow ∈ node.core.xFlowsList

section Remote

variable {start : Node} {process : IpcProcess} {codecs : RibCodecs} {outcomes : RibOutcomes}
  {setup : FlowRequestSetup} {sending : Outcomes} {xAppPortId : PortId}
  {pxLocal pxRemote : NameInfo (Pointer String)} {neighbor : NeighborInfo} {port : PortId}

theorem IpcProcess.Clean.leavesNoTrace {rib : RibState} (clean : process.Clean start) :
    process.LeavesNoTrace start rib where
  undone := by
    rintro ⟨step, member, failed⟩
    exact absurd failed (clean.steps step member).1
  last := by
    intro earlier step later steps failed
    have member : step ∈ process.steps := by
      rw [steps]
      exact List.mem_append_right _ List.mem_cons_self
    exact absurd failed (clean.steps step member).1
  described step member := (clean.steps step member).2
  flows := clean.flows

theorem IpcProcess.Clean.note (clean : process.Clean start) (step : FlowRequestStep)
    (succeeded : ¬ step.Failed) (given : step.sourceCepId ≠ some cepIdWrong) :
    { process with steps := process.steps ++ [step] : IpcProcess }.Clean start where
  steps := by
    intro other member
    rcases List.mem_append.mp member with earlier | last
    · exact clean.steps other earlier
    · rw [List.mem_singleton.mp last]
      exact ⟨succeeded, given⟩
  flows := clean.flows

theorem IpcProcess.Clean.withRib (clean : process.Clean start) (rib : RibState) :
    { process with rib : IpcProcess }.Clean start := ⟨clean.steps, clean.flows⟩

/-- Sending a message changes none of the flows. -/
theorem IpcProcess.Clean.transmit (clean : process.Clean start) (sending : Outcomes) :
    (final ((transmit sending).run process)).Clean start := by
  have run : (RinaSense.transmit sending).run process =
      (match process.rib.sent.getLast? with
        | none => return ()
        | some (xN1Port, bytes) =>
            onIpcp (sendReply { xN1Port, bytes, buffer := true, outcomes := sending }) :
          FlowRequest Unit).run process := rfl
  rw [run]
  cases process.rib.sent.getLast? with
  | none => exact clean
  | some message =>
      obtain ⟨table, core⟩ := (onlySends_sendReply
        { xN1Port := message.1, bytes := message.2, buffer := true, outcomes := sending }
        process.node).core
      simp only [onIpcp, final_zoom]
      refine ⟨clean.steps, ?_⟩
      rw [core]
      exact clean.flows

theorem printFlowObj_bound (printed : xAppPortId.toNat < 10000000) :
    printFlowObj (boundFlow setup xAppPortId pxLocal pxRemote neighbor).xSourceAddress
        (boundFlow setup xAppPortId pxLocal pxRemote neighbor).xSourcePortId =
      .ok (flowKey localAddress xAppPortId) := if_pos (flowKey_short_iff.mpr printed)

theorem printFlowObj_bound_long (long : ¬ xAppPortId.toNat < 10000000) :
    printFlowObj (boundFlow setup xAppPortId pxLocal pxRemote neighbor).xSourceAddress
        (boundFlow setup xAppPortId pxLocal pxRemote neighbor).xSourcePortId =
      .error .outOfBounds := if_neg fun short => long (flowKey_short_iff.mp short)

/-- After the flow was encoded. -/
def IpcProcess.encoded (process : IpcProcess) (flow : Flow) : IpcProcess :=
  { process with steps := process.steps ++ [.encodeFlow flow true] }

/-- After the object was stored. -/
def IpcProcess.stored (process : IpcProcess) (table : List (Option RibObject)) : IpcProcess :=
  { process with
    rib := { process.rib with xRibObjectTable := table }
    steps := process.steps ++ [.createObject] }

/-- The description of a bound flow has the CEP id of its connection. -/
theorem IpcProcess.Clean.encoded (clean : process.Clean start) :
    (process.encoded (boundFlow setup xAppPortId pxLocal pxRemote neighbor)).Clean start :=
  clean.note _ nofun (by
    change some hardcodedCepId ≠ some cepIdWrong
    decide)

theorem IpcProcess.Clean.stored (clean : process.Clean start) (table : List (Option RibObject)) :
    (process.stored table).Clean start :=
  (clean.note .createObject nofun nofun).withRib _

/-- Once the object is stored, the request is sent. -/
theorem run_requestRemoteFlow {bytes : List UInt8} (printed : xAppPortId.toNat < 10000000)
    (value : pxSerdesMsgFlowEncode codecs.flow setup.flowSize setup.encodeMemory
      (some (boundFlow setup xAppPortId pxLocal pxRemote neighbor)) = .ok (some bytes)) :
    ∃ table, (requestRemoteFlow codecs outcomes setup sending
        (boundFlow setup xAppPortId pxLocal pxRemote neighbor) port).run process =
      (sendCreateRequest codecs outcomes sending (flowKey localAddress xAppPortId) port
        (some bytes)).run
        ((process.encoded (boundFlow setup xAppPortId pxLocal pxRemote neighbor)).stored table) := by
  obtain ⟨object, table, created⟩ := @run_createObject process.rib outcomes.objOps
    (flowKey localAddress xAppPortId) (-1)
  refine ⟨table, ?_⟩
  rw [requestRemoteFlow, run_bind_ok (run_lift_ok value), run_bind_ok (run_noteStep _),
    createRemoteFlow, run_bind_ok (run_lift_ok (printFlowObj_bound printed)), EStateM.run_bind,
    run_onRib, created]
  rfl

theorem clean_sendCreateRequest (clean : process.Clean start) {key : String} {bytes : List UInt8}
    (accepted : ¬ CreateRefused codecs.cdap process.rib key bytes) :
    (final ((sendCreateRequest codecs outcomes sending key port (some bytes)).run
      process)).Clean start := by
  rw [sendCreateRequest, EStateM.run_bind, run_onRib]
  rw [run_sendCreate]
  cases encoded : prvRibdEncodeCDAP codecs.cdap outcomes.bufferObtained (some (requestMessage
      (some "Flow") (some key) (-1) .create (some bytes) process.rib.takenInvokeId)) with
  | error fault => exact clean.withRib _
  | ok contents =>
      cases contents with
      | none => exact absurd ((encodeCdap_none_iff _ _ _ _ _).mp encoded) accepted
      | some contents =>
          have transmitted := (clean.withRib { process.rib.registered outcomes .create with
            sent := process.rib.sent ++ [(port, contents)] }).transmit sending
          simp only [if_true, EStateM.run_bind]
          generalize (transmit sending).run _ = result at transmitted ⊢
          cases result with
          | error fault last => exact transmitted
          | ok value last => exact transmitted.note (.sendRequest true) nofun nofun

theorem clean_requestRemoteFlow (clean : process.Clean start)
    (encoded : ¬ setup.Unencoded codecs.flow (boundFlow setup xAppPortId pxLocal pxRemote neighbor))
    (accepted : ∀ bytes, setup.Encodes codecs.flow
        (boundFlow setup xAppPortId pxLocal pxRemote neighbor) bytes →
      xAppPortId.toNat < 10000000 →
        ¬ CreateRefused codecs.cdap process.rib (flowKey localAddress xAppPortId) bytes) :
    (final ((requestRemoteFlow codecs outcomes setup sending
      (boundFlow setup xAppPortId pxLocal pxRemote neighbor) port).run process)).Clean start := by
  rcases encodeFlow_cases codecs.flow setup
      (boundFlow setup xAppPortId pxLocal pxRemote neighbor) with
    ⟨unencoded, -⟩ | ⟨bytes, encodes, value⟩ | ⟨fault, value⟩
  · exact absurd unencoded encoded
  · by_cases printed : xAppPortId.toNat < 10000000
    · obtain ⟨table, run⟩ := @run_requestRemoteFlow process codecs outcomes setup sending xAppPortId
        pxLocal pxRemote neighbor port bytes printed value
      rw [run]
      exact clean_sendCreateRequest (clean.encoded.stored table) (accepted bytes encodes printed)
    · rw [requestRemoteFlow, run_bind_ok (run_lift_ok value), run_bind_ok (run_noteStep _),
        createRemoteFlow, run_bind_error (run_lift_error (printFlowObj_bound_long printed))]
      exact clean.encoded
  · rw [requestRemoteFlow, run_bind_error (run_lift_error value)]
    exact clean

/-- A flow that is not encoded is a failure that is noted. -/
theorem failed_of_unencoded
    (unencoded : setup.Unencoded codecs.flow
      (boundFlow setup xAppPortId pxLocal pxRemote neighbor)) :
    ∃ step ∈ (final ((requestRemoteFlow codecs outcomes setup sending
      (boundFlow setup xAppPortId pxLocal pxRemote neighbor) port).run process)).steps,
        step.Failed := by
  obtain ⟨message, filled, missing⟩ := unencoded
  have value : pxSerdesMsgFlowEncode codecs.flow setup.flowSize setup.encodeMemory
      (some (boundFlow setup xAppPortId pxLocal pxRemote neighbor)) = .ok none := by
    rw [pxSerdesMsgFlowEncode_value filled, missing]
  rw [requestRemoteFlow, run_bind_ok (run_lift_ok value), run_bind_ok (run_noteStep _)]
  have noted := (@continues_createRemoteFlow codecs outcomes sending
    (boundFlow setup xAppPortId pxLocal pxRemote neighbor) port none { process with
      steps := process.steps ++
        [.encodeFlow (boundFlow setup xAppPortId pxLocal pxRemote neighbor) false] }).steps
  exact ⟨_, noted.subset (List.mem_append_right _ (List.mem_singleton.mpr rfl)), rfl⟩

/-- So is a request that is refused. -/
theorem failed_of_createRefused {bytes : List UInt8}
    (encodes : setup.Encodes codecs.flow
      (boundFlow setup xAppPortId pxLocal pxRemote neighbor) bytes)
    (printed : xAppPortId.toNat < 10000000)
    (refused : CreateRefused codecs.cdap process.rib (flowKey localAddress xAppPortId) bytes) :
    ∃ step ∈ (final ((requestRemoteFlow codecs outcomes setup sending
      (boundFlow setup xAppPortId pxLocal pxRemote neighbor) port).run process)).steps,
        step.Failed := by
  obtain ⟨message, filled, isValue, block⟩ := encodes
  have value : pxSerdesMsgFlowEncode codecs.flow setup.flowSize setup.encodeMemory
      (some (boundFlow setup xAppPortId pxLocal pxRemote neighbor)) = .ok (some bytes) := by
    rw [pxSerdesMsgFlowEncode_value filled, isValue]
    exact if_pos block
  obtain ⟨table, run⟩ := @run_requestRemoteFlow process codecs outcomes setup sending xAppPortId
    pxLocal pxRemote neighbor port bytes printed value
  have unsent := (encodeCdap_none_iff codecs.cdap outcomes.bufferObtained
    ((process.encoded (boundFlow setup xAppPortId pxLocal pxRemote neighbor)).stored table).rib
    (flowKey localAddress xAppPortId) bytes).mpr refused
  rw [run, sendCreateRequest, EStateM.run_bind, run_onRib, run_sendCreate, unsent]
  exact ⟨.sendRequest false, List.mem_append_right _ (List.mem_singleton.mpr rfl), rfl⟩

end Remote

/-! ## The whole request -/

section Whole

variable {codecs : RibCodecs} {outcomes : RibOutcomes} {setup : FlowRequestSetup}
  {connection : ConnectionOutcomes} {sending : Outcomes} {node : Node} {rib : RibState}
  {xAppPortId : PortId} {pxFlowRequest : HandleId} {pxLocal pxRemote : NameInfo (Pointer String)}

/-- The instance of a request, and the node it is registered with. -/
def requestInstance (xAppPortId : PortId) (pxFlowRequest : HandleId) : FlowAllocatorInstance where
  eFaiState := .none
  xPortId := xAppPortId
  pxFlowAllocatorHandle := pxFlowRequest

def Node.withInstance (node : Node) (pxFAI : FlowAllocatorInstance) : Node :=
  { node with core := { node.core with
      xFlowRequestTable := prvAddFlowRequestEntry pxFAI node.core.xFlowRequestTable } }

/-- The process when the neighbor was found. -/
def registeredProcess (node : Node) (rib : RibState) (xAppPortId : PortId)
    (pxFlowRequest : HandleId) : IpcProcess where
  node := node.withInstance (requestInstance xAppPortId pxFlowRequest)
  rib
  steps := [.findNeighbor true]

/-- After a connection was created. -/
def IpcProcess.connected (process : IpcProcess) (value : Efcp) : IpcProcess :=
  { process with
    node := { process.node with core := process.node.core.created value }
    steps := process.steps ++ [.createConnection hardcodedCepId] }

theorem after_memoryless (missing : ¬ (setup.flowMemory = true ∧ setup.faiMemory = true)) :
    afterFlowRequest codecs outcomes setup connection sending node rib xAppPortId pxFlowRequest
      pxLocal pxRemote = { node, rib, steps := [] } := by
  rw [afterFlowRequest, FlowRequest.vFlowAllocatorFlowRequest]
  cases flowMemory : setup.flowMemory with
  | false => rfl
  | true =>
      cases faiMemory : setup.faiMemory with
      | false => rfl
      | true => exact absurd ⟨flowMemory, faiMemory⟩ missing

/-- With memory the instance is registered and the neighbor looked up. -/
theorem after_eq (memory : setup.flowMemory = true ∧ setup.faiMemory = true) :
    afterFlowRequest codecs outcomes setup connection sending node rib xAppPortId pxFlowRequest
        pxLocal pxRemote =
      match rib.nextHop with
      | none =>
          { node := node.withInstance (requestInstance xAppPortId pxFlowRequest)
            rib
            steps := [.findNeighbor false] }
      | some neighbor =>
          final ((requestThrough codecs outcomes setup connection sending xAppPortId pxLocal
            pxRemote neighbor).run (registeredProcess node rib xAppPortId pxFlowRequest)) := by
  have can : CanFind (Pointer.target remoteAddressApName) rib.xNeighborsTable := trivial
  have found (start : IpcProcess) (same : start.rib = rib) :
      (onRib (pxEnrollmentFindNeighbor (.target remoteAddressApName))).run start =
        .ok rib.nextHop start := by
    rw [run_onRib, same, run_findNeighbor can, ← same]
    rfl
  have registered : (onIpcp (registerInstance
      { eFaiState := .none, xPortId := xAppPortId, pxFlowAllocatorHandle := pxFlowRequest })).run
        { node, rib, steps := [] } =
      .ok () { node := node.withInstance (requestInstance xAppPortId pxFlowRequest), rib, steps := [] } :=
    rfl
  rw [afterFlowRequest, FlowRequest.vFlowAllocatorFlowRequest, memory.1, memory.2]
  simp only [Bool.not_true, Bool.false_eq_true, if_false]
  rw [run_bind_ok registered, run_bind_ok (found _ rfl), run_bind_ok (run_noteStep _)]
  cases rib.nextHop with
  | none => rfl
  | some neighbor => rfl

theorem addFlowRequestEntry_eq_iff (pxFAI : FlowAllocatorInstance) (table : List FlowRequestRow) :
    prvAddFlowRequestEntry pxFAI table = table ↔ ∀ row ∈ table, row.xValid = true := by
  induction table with
  | nil => exact iff_of_true rfl nofun
  | cons row rows ih =>
      rw [prvAddFlowRequestEntry, List.forall_mem_cons, ← ih]
      cases valid : row.xValid with
      | false =>
          rw [if_pos rfl]
          refine iff_of_false ?_ (fun both => Bool.false_ne_true both.1)
          intro same
          rw [← (List.cons.inj same).1] at valid
          exact Bool.false_ne_true valid.symm
      | true =>
          rw [if_neg Bool.false_ne_true.symm]
          constructor
          · intro same
            exact ⟨rfl, (List.cons.inj same).2⟩
          · intro both
            rw [both.2]

/-- After the CEP id was noted in the flow of the port, if there is one. -/
def IpcProcess.withCepId (process : IpcProcess) (xAppPortId : PortId) (xCepSourceId : CepId) :
    IpcProcess :=
  let updated := (prvNormalFindFlow xAppPortId process.node.core.xFlowsList).isSome
  { process with
    node :=
      if updated then
        { process.node with core := { process.node.core with
            xFlowsList := changeFlow xAppPortId (fun flow => { flow with xActive := xCepSourceId })
              process.node.core.xFlowsList } }
      else process.node
    steps := process.steps ++ [.updateCepId xCepSourceId updated] }

theorem run_requestOver (process : IpcProcess) (neighbor : NeighborInfo) (xCepSourceId : CepId) :
    (requestOver codecs outcomes setup sending xAppPortId pxLocal pxRemote neighbor
        xCepSourceId).run process =
      if setup.connectionIdMemory then
        (requestRemoteFlow codecs outcomes setup sending (setup.describe xCepSourceId xAppPortId
          pxLocal pxRemote neighbor.xNeighborAddress) neighbor.xN1Port).run
            (process.withCepId xAppPortId xCepSourceId)
      else .error .nullPointer (process.withCepId xAppPortId xCepSourceId) := by
  rw [requestOver, EStateM.run_bind, run_onIpcp, run_updateCepId, IpcProcess.withCepId]
  cases prvNormalFindFlow xAppPortId process.node.core.xFlowsList with
  | none => cases setup.connectionIdMemory <;> rfl
  | some flow => cases setup.connectionIdMemory <;> rfl

/-- The EFCP instances are those the connection left. -/
theorem efcps_withCepId (process : IpcProcess) (xCepSourceId : CepId) :
    (process.withCepId xAppPortId xCepSourceId).node.core.efcps = process.node.core.efcps := by
  simp only [IpcProcess.withCepId]
  split
  · rfl
  · rfl

/-- Nothing after the update changes the EFCP instances or forgets a step. -/
theorem requestOver_continues (process : IpcProcess) (neighbor : NeighborInfo)
    (xCepSourceId : CepId) :
    (process.withCepId xAppPortId xCepSourceId).Continues
      (final ((requestOver codecs outcomes setup sending xAppPortId pxLocal pxRemote neighbor
        xCepSourceId).run process)) := by
  rw [run_requestOver]
  split
  · exact continues_requestRemoteFlow _ _ _
  · exact continues_refl _

theorem mem_changeFlow {change : NormalFlow → NormalFlow} {flows : List NormalFlow}
    {flow : NormalFlow} (member : flow ∈ changeFlow xAppPortId change flows) :
    flow ∈ flows ∨ ∃ other, flow = change other := by
  induction flows with
  | nil => exact .inl member
  | cons first rest ih =>
      rw [changeFlow] at member
      split at member
      · rcases List.mem_cons.mp member with same | later
        · exact .inr ⟨first, same⟩
        · exact .inl (List.mem_cons_of_mem _ later)
      · rcases List.mem_cons.mp member with same | later
        · exact .inl (same ▸ List.mem_cons_self)
        · rcases ih later with unchanged | changed
          · exact .inl (List.mem_cons_of_mem _ unchanged)
          · exact .inr changed

/-- A flow that is there gets a proper CEP id. -/
theorem IpcProcess.Clean.withCepId {process : IpcProcess} {start : Node}
    (clean : process.Clean start)
    (found : prvNormalFindFlow xAppPortId process.node.core.xFlowsList ≠ none) :
    (process.withCepId xAppPortId hardcodedCepId).Clean start := by
  have updated : (prvNormalFindFlow xAppPortId process.node.core.xFlowsList).isSome = true :=
    Option.isSome_iff_ne_none.mpr found
  have noted := clean.note (.updateCepId hardcodedCepId true) nofun (by decide)
  refine ⟨?_, ?_⟩
  · simp only [IpcProcess.withCepId, updated]
    exact noted.steps
  · simp only [IpcProcess.withCepId, updated, if_true]
    intro flow member wrong
    rcases mem_changeFlow member with unchanged | ⟨other, changed⟩
    · exact clean.flows flow unchanged wrong
    · rw [changed] at wrong
      exact absurd wrong (show hardcodedCepId ≠ cepIdWrong by decide)

/-! ### Requests that fail -/

section Failing

variable {neighbor : NeighborInfo} {process : IpcProcess}

/-- The wrong CEP id is passed on. -/
theorem steps_of_refused (refused : creation process.node.core connection xAppPortId = .refused) :
    ∃ updated, process.steps ++ [.createConnection cepIdWrong] ++ [.updateCepId cepIdWrong updated] <+:
      (final ((requestThrough codecs outcomes setup connection sending xAppPortId pxLocal pxRemote
        neighbor).run process)).steps := by
  have ends := @connectionCreateRequest_ends process.node connection xAppPortId
    neighbor.xNeighborAddress
  rw [refused] at ends
  rw [requestThrough, EStateM.run_bind, run_onIpcp]
  generalize (xNormalConnectionCreateRequest connection xAppPortId localAddress
    neighbor.xNeighborAddress qosCubeId true).run process.node = result at ends ⊢
  cases ends with
  | refused core flows =>
      exact ⟨_, (requestOver_continues { process with
        node := { process.node with core }
        steps := process.steps ++ [.createConnection cepIdWrong] } neighbor cepIdWrong).steps⟩

/-- A connection that was created stays. -/
theorem requestThrough_of_made (made : creation process.node.core connection xAppPortId = .made) :
    ∃ value, (requestThrough codecs outcomes setup connection sending xAppPortId pxLocal pxRemote
        neighbor).run process =
      (requestOver codecs outcomes setup sending xAppPortId pxLocal pxRemote neighbor
        hardcodedCepId).run (process.connected value) := by
  have ends := @connectionCreateRequest_ends process.node connection xAppPortId
    neighbor.xNeighborAddress
  rw [made] at ends
  rw [requestThrough, EStateM.run_bind, run_onIpcp]
  generalize (xNormalConnectionCreateRequest connection xAppPortId localAddress
    neighbor.xNeighborAddress qosCubeId true).run process.node = result at ends ⊢
  cases ends with
  | made value => exact ⟨value, rfl⟩

theorem clean_of_aborted {start : Node} (clean : process.Clean start)
    (aborted : creation process.node.core connection xAppPortId = .aborted) :
    (final ((requestThrough codecs outcomes setup connection sending xAppPortId pxLocal pxRemote
      neighbor).run process)).Clean start := by
  have ends := @connectionCreateRequest_ends process.node connection xAppPortId
    neighbor.xNeighborAddress
  rw [aborted] at ends
  rw [requestThrough, EStateM.run_bind, run_onIpcp]
  generalize (xNormalConnectionCreateRequest connection xAppPortId localAddress
    neighbor.xNeighborAddress qosCubeId true).run process.node = result at ends ⊢
  cases ends with
  | aborted fault core flows =>
      refine ⟨clean.steps, ?_⟩
      change ∀ flow ∈ core.xFlowsList, _
      rw [flows]
      exact clean.flows

end Failing

/-! ### Requests that leave no trace -/

theorem clean_registered : (registeredProcess node rib xAppPortId pxFlowRequest).Clean node where
  steps step member := by
    rw [List.mem_singleton.mp member]
    exact ⟨nofun, nofun⟩
  flows _ member _ := member

/-- A request that found its neighbor and left an instance behind is not undone. -/
theorem not_leavesNoTrace_of_made {neighbor : NeighborInfo}
    (made : creation node.core connection xAppPortId = .made)
    (failed : ∃ step ∈ (final ((requestThrough codecs outcomes setup connection sending xAppPortId
      pxLocal pxRemote neighbor).run
        (registeredProcess node rib xAppPortId pxFlowRequest))).steps, step.Failed) :
    ¬ (final ((requestThrough codecs outcomes setup connection sending xAppPortId pxLocal pxRemote
      neighbor).run (registeredProcess node rib xAppPortId pxFlowRequest))).LeavesNoTrace node rib := by
  intro leaves
  have instances := (leaves.undone failed).instances
  obtain ⟨value, run⟩ := @requestThrough_of_made codecs outcomes setup connection sending xAppPortId
    pxLocal pxRemote neighbor (registeredProcess node rib xAppPortId pxFlowRequest) made
  obtain ⟨table, core⟩ := (@requestOver_continues codecs outcomes setup sending xAppPortId pxLocal
    pxRemote ((registeredProcess node rib xAppPortId pxFlowRequest).connected value) neighbor
      hardcodedCepId).core
  rw [run, core, efcps_withCepId] at instances
  have kept := instances node.core.efcps.next
  have new : ((registeredProcess node rib xAppPortId pxFlowRequest).connected
      value).node.core.efcps.get? node.core.efcps.next = some value :=
    Store.get?_allocate_new _ _
  rw [new, Store.get?_next] at kept
  cases kept

theorem untraced_of_unknown {process : IpcProcess} (leaves : process.LeavesNoTrace node rib)
    (ends : process =
      { node := node.withInstance (requestInstance xAppPortId pxFlowRequest)
        rib
        steps := [.findNeighbor false] }) :
    ∀ row ∈ node.core.xFlowRequestTable, row.xValid = true := by
  rw [ends] at leaves
  exact (addFlowRequestEntry_eq_iff _ _).mp
    (leaves.undone ⟨.findNeighbor false, List.mem_singleton.mpr rfl, rfl⟩).requests

theorem leavesNoTrace_unknown (full : ∀ row ∈ node.core.xFlowRequestTable, row.xValid = true) :
    IpcProcess.LeavesNoTrace node rib
      { node := node.withInstance (requestInstance xAppPortId pxFlowRequest)
        rib
        steps := [.findNeighbor false] } where
  undone _ := ⟨(addFlowRequestEntry_eq_iff _ _).mpr full, rfl, rfl, fun _ => rfl, rfl, fun _ => rfl⟩
  last := by
    intro earlier step later steps _
    have length := congrArg List.length steps
    rw [List.length_append, List.length_cons, List.length_cons, List.length_nil] at length
    exact List.length_eq_zero_iff.mp (by omega)
  described step member := by
    rw [List.mem_singleton.mp member]
    exact nofun
  flows _ member _ := member

theorem not_leavesNoTrace_of_refused {neighbor : NeighborInfo}
    (refused : creation node.core connection xAppPortId = .refused) :
    ¬ (final ((requestThrough codecs outcomes setup connection sending xAppPortId pxLocal pxRemote
      neighbor).run (registeredProcess node rib xAppPortId pxFlowRequest))).LeavesNoTrace node rib := by
  intro leaves
  obtain ⟨updated, later, steps⟩ := @steps_of_refused codecs outcomes setup connection sending
    xAppPortId pxLocal pxRemote neighbor (registeredProcess node rib xAppPortId pxFlowRequest) refused
  have last := @IpcProcess.LeavesNoTrace.last _ _ _ leaves [.findNeighbor true]
    (.createConnection cepIdWrong) (.updateCepId cepIdWrong updated :: later) steps.symm rfl
  cases last

/-- With a connection and the flow, all depends on the request to the neighbor. -/
theorem run_of_binds {neighbor : NeighborInfo}
    (binds : FlowBinds setup connection node rib xAppPortId neighbor) :
    ∃ value, (requestThrough codecs outcomes setup connection sending xAppPortId pxLocal pxRemote
        neighbor).run (registeredProcess node rib xAppPortId pxFlowRequest) =
      (requestRemoteFlow codecs outcomes setup sending
        (boundFlow setup xAppPortId pxLocal pxRemote neighbor) neighbor.xN1Port).run
        (((registeredProcess node rib xAppPortId pxFlowRequest).connected value).withCepId xAppPortId
          hardcodedCepId) := by
  obtain ⟨value, run⟩ := @requestThrough_of_made codecs outcomes setup connection sending xAppPortId
    pxLocal pxRemote neighbor (registeredProcess node rib xAppPortId pxFlowRequest) binds.made
  refine ⟨value, ?_⟩
  rw [run, run_requestOver, if_pos binds.connectionIdMemory]
  rfl

/-- Where a step fails, only a request without a neighbor can be undone. -/
theorem unknown_of_leavesNoTrace
    (leaves : (afterFlowRequest codecs outcomes setup connection sending node rib xAppPortId
      pxFlowRequest pxLocal pxRemote).LeavesNoTrace node rib)
    (fails : RequestFails codecs setup connection node rib xAppPortId pxLocal pxRemote) :
    rib.nextHop = none ∧ ∀ row ∈ node.core.xFlowRequestTable, row.xValid = true := by
  cases fails with
  | neighbor memory unknown =>
      have ends := @after_eq codecs outcomes setup connection sending node rib xAppPortId
        pxFlowRequest pxLocal pxRemote memory
      rw [unknown] at ends
      exact ⟨unknown, untraced_of_unknown leaves ends⟩
  | connection memory known refused =>
      obtain ⟨neighbor, found⟩ := Option.ne_none_iff_exists'.mp known
      rw [after_eq memory, found] at leaves
      exact absurd leaves (not_leavesNoTrace_of_refused refused)
  | flow memory known made missing =>
      obtain ⟨neighbor, found⟩ := Option.ne_none_iff_exists'.mp known
      rw [after_eq memory, found] at leaves
      refine absurd leaves (not_leavesNoTrace_of_made made ?_)
      obtain ⟨value, run⟩ := @requestThrough_of_made codecs outcomes setup connection sending
        xAppPortId pxLocal pxRemote neighbor (registeredProcess node rib xAppPortId pxFlowRequest) made
      have noted := (@requestOver_continues codecs outcomes setup sending xAppPortId pxLocal pxRemote
        ((registeredProcess node rib xAppPortId pxFlowRequest).connected value) neighbor
          hardcodedCepId).steps
      have absent : prvNormalFindFlow xAppPortId
          ((registeredProcess node rib xAppPortId pxFlowRequest).connected
            value).node.core.xFlowsList = none := missing
      rw [IpcProcess.withCepId, absent] at noted
      rw [run]
      exact ⟨_, noted.subset (List.mem_append_right _ (List.mem_singleton.mpr rfl)), rfl⟩
  | encoding neighbor binds unencoded =>
      rw [after_eq binds.memory, binds.known] at leaves
      refine absurd leaves (not_leavesNoTrace_of_made binds.made ?_)
      obtain ⟨value, run⟩ := @run_of_binds codecs outcomes setup connection sending node rib
        xAppPortId pxFlowRequest pxLocal pxRemote neighbor binds
      rw [run]
      exact failed_of_unencoded unencoded
  | request neighbor bytes binds encodes printed refused =>
      rw [after_eq binds.memory, binds.known] at leaves
      refine absurd leaves (not_leavesNoTrace_of_made binds.made ?_)
      obtain ⟨value, run⟩ := @run_of_binds codecs outcomes setup connection sending node rib
        xAppPortId pxFlowRequest pxLocal pxRemote neighbor binds
      rw [run]
      exact failed_of_createRefused encodes printed refused

theorem clean_connected (value : Efcp) :
    ((registeredProcess node rib xAppPortId pxFlowRequest).connected value).Clean node := by
  have noted := (@clean_registered node rib xAppPortId pxFlowRequest).note
    (.createConnection hardcodedCepId) nofun nofun
  exact ⟨noted.steps, noted.flows⟩

/-- Where no step fails, every step taken succeeds. -/
theorem clean_of_not_fails {neighbor : NeighborInfo}
    (memory : setup.flowMemory = true ∧ setup.faiMemory = true)
    (known : rib.nextHop = some neighbor)
    (succeeds : ¬ RequestFails codecs setup connection node rib xAppPortId pxLocal pxRemote) :
    (final ((requestThrough codecs outcomes setup connection sending xAppPortId pxLocal pxRemote
      neighbor).run (registeredProcess node rib xAppPortId pxFlowRequest))).Clean node := by
  have some_neighbor : rib.nextHop ≠ none := by
    rw [known]
    exact nofun
  cases outcome : creation node.core connection xAppPortId with
  | aborted => exact clean_of_aborted clean_registered outcome
  | refused => exact absurd (.connection memory some_neighbor outcome) succeeds
  | made =>
      by_cases missing : prvNormalFindFlow xAppPortId node.core.xFlowsList = none
      · exact absurd (.flow memory some_neighbor outcome missing) succeeds
      · obtain ⟨value, run⟩ := @requestThrough_of_made codecs outcomes setup connection sending
          xAppPortId pxLocal pxRemote neighbor (registeredProcess node rib xAppPortId pxFlowRequest)
          outcome
        have updated := (@clean_connected node rib xAppPortId pxFlowRequest value).withCepId missing
        rw [run, run_requestOver]
        cases connectionIdMemory : setup.connectionIdMemory with
        | false => exact updated
        | true =>
            have binds : FlowBinds setup connection node rib xAppPortId neighbor :=
              ⟨memory, known, outcome, missing, connectionIdMemory⟩
            exact clean_requestRemoteFlow updated
              (fun unencoded => succeeds (.encoding neighbor binds unencoded))
              (fun bytes encodes printed refused =>
                succeeds (.request neighbor bytes binds encodes printed refused))

theorem flowRequest_leavesNoTrace_iff :
    (afterFlowRequest codecs outcomes setup connection sending node rib xAppPortId pxFlowRequest
        pxLocal pxRemote).LeavesNoTrace node rib ↔
      (RequestFails codecs setup connection node rib xAppPortId pxLocal pxRemote →
        rib.nextHop = none ∧ ∀ row ∈ node.core.xFlowRequestTable, row.xValid = true) := by
  constructor
  · exact unknown_of_leavesNoTrace
  · intro undone
    by_cases memory : setup.flowMemory = true ∧ setup.faiMemory = true
    · rw [after_eq memory]
      cases known : rib.nextHop with
      | none => exact leavesNoTrace_unknown (undone (.neighbor memory known)).2
      | some neighbor =>
          refine (clean_of_not_fails memory known ?_).leavesNoTrace
          intro fails
          exact Option.some_ne_none neighbor (known.symm.trans (undone fails).1)
    · have clean : IpcProcess.Clean node { node, rib, steps := [] } :=
        ⟨fun _ member => absurd member List.not_mem_nil, fun _ member _ => member⟩
      rw [after_memoryless memory]
      exact clean.leavesNoTrace

end Whole

/-- One flow waits for its connection. -/
def Node.oneWaiting : Node :=
  { Node.blank with
    core := { Node.blank.core with
      pxEfcpc := true
      xFlowRequestTable := [{ pxFAI := none, xValid := false }]
      xFlowsList := [{ xPortId := 7, eState := .pending, xActive := 0 }] } }

/-- There is no memory for a new EFCP instance. -/
def noInstanceMemory : ConnectionOutcomes where
  connectionMemory := true
  efcpMemory := false
  dtpMemory := true
  svMemory := true
  leftUserIpcp := false
  leftDtp := false
  leftConnection := false
  leftDtcp := false

/-- The flow is bound to the CEP id of a connection that was not created. -/
theorem refused_connection_leaves_trace :
    ¬ (afterFlowRequest refusingCodecs .clear setupWithMemory noInstanceMemory
      ⟨true, true, true, true, true⟩ .oneWaiting stateWithNextHop 7 0 initialProcess
      initialProcess).LeavesNoTrace .oneWaiting stateWithNextHop := by
  intro leaves
  rw [after_eq ⟨rfl, rfl⟩] at leaves
  exact not_leavesNoTrace_of_refused rfl leaves

end RinaSense
