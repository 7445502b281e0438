import RinaSense.Ipcp.Efcp

/-!
# EFCP connections

Creation, change and destruction of the connections of the EFCP container, as in
`efcp.c`, with the creation of DTP instances from `dtp.c`. Memory from the
allocator is not cleared, so what a new instance holds in the fields not written
yet is an outcome of the allocation.
-/

namespace RinaSense

/-- The arguments of `xEfcpConnectionCreate`; for the configuration of the DTP
instance it is kept whether it is set. -/
structure ConnectionRequest where
  xSrcAddr : Address
  xDstAddr : Address
  xPortId : PortId
  xQosId : QosId
  xSrcCepId : CepId
  xDstCepId : CepId
  pxDtpCfg : Bool
  deriving Repr, DecidableEq

/-- Outcomes of one creation: which allocations succeed, and which pointers the
memory of the new instances happens to hold. -/
structure ConnectionOutcomes where
  connectionMemory : Bool
  efcpMemory : Bool
  dtpMemory : Bool
  svMemory : Bool
  leftUserIpcp : Bool
  leftDtp : Bool
  leftConnection : Bool
  leftDtcp : Bool
  deriving Repr, DecidableEq

/-- `is_candidate_connection_ok`. -/
def isCandidateConnectionOk (connection : Connection) : Bool :=
  isCepIdOk connection.xSourceCepId && isPortIdOk connection.xPortId

/-- Put an EFCP instance into use. -/
def Core.addEfcp (core : Core) (value : Efcp) : Core :=
  { core with efcps := (core.efcps.allocate value).1 }

/-- Take an EFCP instance out of use. -/
def Core.freeEfcp (core : Core) (efcp : EfcpId) : Core :=
  { core with efcps := core.efcps.free efcp }

/-- What a new instance holds before its connection is known. -/
def ConnectionOutcomes.newEfcp (outcomes : ConnectionOutcomes) : Efcp where
  pxConnection := none
  pxUserIpcp := outcomes.leftUserIpcp
  pxDtp := none
  pxEfcpContainer := false
  xState := .allocated

def pxEfcpCreate (outcomes : ConnectionOutcomes) : Rina (Option EfcpId) := do
  if !outcomes.efcpMemory then return none
  let core ← readCore
  writeCore (core.addEfcp outcomes.newEfcp)
  return some core.efcps.next

/-- The test for the state vector comes after `pxDtpStateVectorInit` has already
filled it. -/
def pxDtpCreate (outcomes : ConnectionOutcomes) (pxRmt pxDtpCfg : Bool) :
    Rina (Option Dtp) := do
  if !pxDtpCfg then return none
  if !pxRmt then return none
  if !outcomes.dtpMemory then return none
  if !outcomes.svMemory then throw .nullPointer
  return some { pxDtcp := outcomes.leftDtcp, pxDtpStateVector := pxDtpStateVectorInit, pxRmt }

/-- The pointer to the user's IPCP is never assigned: where it is set it was left
in the memory. The connection and the DTP instance go with the instance. -/
def xEfcpDestroy (pxInstance : EfcpId) : Rina Bool := do
  let efcp ← readEfcp pxInstance
  if efcp.pxUserIpcp then throw .nullPointer
  if efcp.pxConnection.any fun connection => isCepIdOk connection.xSourceCepId then
    if !efcp.pxEfcpContainer then throw .assertion
  writeCore ((← readCore).freeEfcp pxInstance)
  return true

/-- `xEfcpImapAdd` on the table of the node. -/
def efcpImapAdd (xCepId : CepId) (pxEfcp : EfcpId) : Rina Bool := do
  let core ← readCore
  let (xEfcpImapTable, result) := xEfcpImapAdd xCepId pxEfcp core.xEfcpImapTable
  writeCore { core with xEfcpImapTable }
  return result

/-- `xEfcpImapRemove` on the table of the node. -/
def efcpImapRemove (xCepId : CepId) : Rina Bool := do
  let core ← readCore
  let (xEfcpImapTable, result) := xEfcpImapRemove xCepId core.xEfcpImapTable
  writeCore { core with xEfcpImapTable }
  return result

/-- The id every connection is given in place of one of the id manager. -/
def hardcodedCepId : CepId := 1

@[simp] theorem isCepIdOk_hardcodedCepId : isCepIdOk hardcodedCepId = true := rfl

/-- What a creation does once it has an instance for the connection. -/
def bindConnection (core : Core) (request : ConnectionRequest) (outcomes : ConnectionOutcomes)
    (pxConnection : Connection) (pxEfcp : EfcpId) : Rina CepId := do
  let xCepId := hardcodedCepId
  if !isCepIdOk xCepId then
    let _ ← xEfcpDestroy pxEfcp
    return cepIdWrong
  let efcp := { ← readEfcp pxEfcp with pxEfcpContainer := true }
  writeEfcp pxEfcp efcp
  let pxConnection := { pxConnection with xSourceCepId := xCepId }
  if !isCandidateConnectionOk pxConnection then
    -- the pointers of the instance to its connection and DTP are not written yet
    if outcomes.leftDtp || outcomes.leftConnection then throw .nullPointer
    let _ ← xEfcpDestroy pxEfcp
    return cepIdWrong
  let efcp := { efcp with pxConnection := some pxConnection }
  writeEfcp pxEfcp efcp
  let pxDtp ← pxDtpCreate outcomes core.xEfcpcRmt request.pxDtpCfg
  writeEfcp pxEfcp { efcp with pxDtp }
  if pxDtp.isNone then
    let _ ← xEfcpDestroy pxEfcp
    return cepIdWrong
  if !(← efcpImapAdd xCepId pxEfcp) then
    let _ ← xEfcpDestroy pxEfcp
    return cepIdWrong
  return xCepId

/-- The source address is not the one passed, and the source CEP id passed is
overwritten. -/
def xEfcpConnectionCreate (request : ConnectionRequest) (outcomes : ConnectionOutcomes) :
    Rina CepId := do
  let core ← readCore
  if !core.pxEfcpc then return cepIdWrong
  if !outcomes.connectionMemory then throw .assertion
  if !request.pxDtpCfg then throw .assertion
  let pxConnection : Connection :=
    { xDestinationAddress := request.xDstAddr
      xPortId := request.xPortId
      xQosId := request.xQosId
      xSourceCepId := request.xSrcCepId
      xDestinationCepId := request.xDstCepId
      xSourceAddress := localAddress }
  match ← pxEfcpCreate outcomes with
  | none => return cepIdWrong
  | some pxEfcp => bindConnection core request outcomes pxConnection pxEfcp

/-- The result of the removal is read the wrong way round, so what follows it is
not reached. -/
def xEfcpConnectionDestroy (xId : CepId) : Rina Bool := do
  if !(← readCore).pxEfcpc then return false
  if !isCepIdOk xId then return false
  match ← efcpImapFind xId with
  | none => return false
  | some pxEfcp =>
      if ← efcpImapRemove xId then return false
      writeEfcp pxEfcp { ← readEfcp pxEfcp with xState := .deallocated }
      if ← xEfcpDestroy pxEfcp then return false
      return true

/-- Change the connection of an instance in use, or destroy the instance if it is
deallocated; the result of the destruction is read the wrong way round. -/
def changeConnection (pxEfcp : EfcpId) (change : Connection → Connection) : Rina Bool := do
  let efcp ← readEfcp pxEfcp
  if efcp.xState = .deallocated then
    if ← xEfcpDestroy pxEfcp then return false
    return true
  let connection ← follow efcp.pxConnection
  writeEfcp pxEfcp { efcp with pxConnection := some (change connection) }
  return true

def xEfcpConnectionModify (xCepId : CepId) (xSrc xDst : Address) : Rina Bool := do
  if !(← readCore).pxEfcpc then return false
  match ← efcpImapFind xCepId with
  | none => return false
  | some pxEfcp =>
      changeConnection pxEfcp fun connection =>
        { connection with xSourceAddress := xSrc, xDestinationAddress := xDst }

def xEfcpConnectionUpdate (source destination : CepId) : Rina Bool := do
  if !(← readCore).pxEfcpc then return false
  if !isCepIdOk source then return false
  if !isCepIdOk destination then return false
  match ← efcpImapFind source with
  | none => return false
  | some pxEfcp =>
      changeConnection pxEfcp fun connection =>
        { connection with xDestinationCepId := destination }

/-! ## Runs of a creation -/

section Creation

variable (request : ConnectionRequest) (outcomes : ConnectionOutcomes) (node : Node)

/-- The connection a creation makes. -/
def ConnectionRequest.connection : Connection where
  xDestinationAddress := request.xDstAddr
  xPortId := request.xPortId
  xQosId := request.xQosId
  xSourceCepId := hardcodedCepId
  xDestinationCepId := request.xDstCepId
  xSourceAddress := localAddress

/-- The instance of a connection, with its DTP instance if that was created. -/
def ConnectionOutcomes.efcp (connection : Connection) (pxDtp : Option Dtp) : Efcp :=
  { outcomes.newEfcp with pxConnection := some connection, pxDtp, pxEfcpContainer := true }

def ConnectionOutcomes.dtp : Dtp where
  pxDtcp := outcomes.leftDtcp
  pxDtpStateVector := pxDtpStateVectorInit
  pxRmt := true

/-- A creation reaches its instance when there is a container and memory. -/
structure ReachesInstance : Prop where
  container : node.core.pxEfcpc = true
  connectionMemory : outcomes.connectionMemory = true
  configuration : request.pxDtpCfg = true
  efcpMemory : outcomes.efcpMemory = true

@[simp] theorem setEfcp_addEfcp (core : Core) (first second : Efcp) :
    (core.addEfcp first).setEfcp core.efcps.next second = core.addEfcp second := by
  rw [Core.setEfcp, Core.addEfcp, Core.addEfcp, Store.set_allocate]

@[simp] theorem get?_addEfcp_new (core : Core) (value : Efcp) :
    (core.addEfcp value).efcps.get? core.efcps.next = some value :=
  core.efcps.get?_allocate_new value

variable {request outcomes node}

/-- Without a container or memory for the instance, nothing is created. -/
theorem run_xEfcpConnectionCreate_unreached (unreached : ¬ ReachesInstance request outcomes node) :
    (xEfcpConnectionCreate request outcomes).run node = .ok cepIdWrong node ∨
      (xEfcpConnectionCreate request outcomes).run node = .error .assertion node := by
  cases container : node.core.pxEfcpc with
  | false => exact .inl (by simp [xEfcpConnectionCreate, container])
  | true =>
      cases connectionMemory : outcomes.connectionMemory with
      | false => exact .inr (by simp [xEfcpConnectionCreate, container, connectionMemory])
      | true =>
          cases configuration : request.pxDtpCfg with
          | false =>
              exact .inr (by
                simp [xEfcpConnectionCreate, container, connectionMemory, configuration])
          | true =>
              cases efcpMemory : outcomes.efcpMemory with
              | false =>
                  exact .inl (by
                    simp [xEfcpConnectionCreate, pxEfcpCreate, connectionMemory, configuration,
                      efcpMemory])
              | true =>
                  exact absurd ⟨container, connectionMemory, configuration, efcpMemory⟩ unreached

theorem run_xEfcpDestroy {efcp : EfcpId} {value : Efcp}
    (found : node.core.efcps.get? efcp = some value) (user : value.pxUserIpcp = false)
    (container : value.pxConnection = none ∨ value.pxEfcpContainer = true) :
    (xEfcpDestroy efcp).run node = .ok true { node with core := node.core.freeEfcp efcp } := by
  rw [xEfcpDestroy, Command.run_bind_ok (run_readEfcp found)]
  obtain unset | container := container
  · simp [user, unset]
  · simp [user, container]

theorem run_xEfcpDestroy_user {efcp : EfcpId} {value : Efcp}
    (found : node.core.efcps.get? efcp = some value) (user : value.pxUserIpcp = true) :
    (xEfcpDestroy efcp).run node = .error .nullPointer node := by
  rw [xEfcpDestroy, Command.run_bind_ok (run_readEfcp found)]
  simp [user]

/-- The tables after an instance was put into use and destroyed again. -/
def Core.undone (core : Core) (value : Efcp) : Core :=
  (core.addEfcp value).freeEfcp core.efcps.next

/-- The bare instance with its container. -/
def ConnectionOutcomes.contained (outcomes : ConnectionOutcomes) : Efcp :=
  { outcomes.newEfcp with pxEfcpContainer := true }

/-- Giving up destroys the instance, unless a leftover pointer is followed. -/
theorem run_xEfcpDestroy_new (node : Node) (value : Efcp)
    (container : value.pxEfcpContainer = true) :
    (xEfcpDestroy node.core.efcps.next).run { node with core := node.core.addEfcp value } =
      if value.pxUserIpcp then
        .error .nullPointer { node with core := node.core.addEfcp value }
      else .ok true { node with core := node.core.undone value } := by
  split
  · next user => exact run_xEfcpDestroy_user (get?_addEfcp_new _ _) user
  · next user =>
      exact run_xEfcpDestroy (get?_addEfcp_new _ _) (Bool.eq_false_of_not_eq_true user)
        (.inr container)

/-- The part of a creation before the instance. -/
theorem run_xEfcpConnectionCreate_reached (reached : ReachesInstance request outcomes node) :
    (xEfcpConnectionCreate request outcomes).run node =
      (bindConnection node.core request outcomes
          { request.connection with xSourceCepId := request.xSrcCepId } node.core.efcps.next).run
        { node with core := node.core.addEfcp outcomes.newEfcp } := by
  simp [xEfcpConnectionCreate, pxEfcpCreate, reached.container, reached.connectionMemory,
    reached.configuration, reached.efcpMemory, ConnectionRequest.connection]

/-- The rest of it, from the candidate check on. -/
theorem run_bindConnection :
    (bindConnection node.core request outcomes
          { request.connection with xSourceCepId := request.xSrcCepId } node.core.efcps.next).run
        { node with core := node.core.addEfcp outcomes.newEfcp } =
      EStateM.run (do
        if !isPortIdOk request.xPortId then
          if outcomes.leftDtp || outcomes.leftConnection then throw .nullPointer
          let _ ← xEfcpDestroy node.core.efcps.next
          return cepIdWrong
        writeEfcp node.core.efcps.next (outcomes.efcp request.connection none)
        let pxDtp ← pxDtpCreate outcomes node.core.xEfcpcRmt request.pxDtpCfg
        writeEfcp node.core.efcps.next (outcomes.efcp request.connection pxDtp)
        if pxDtp.isNone then
          let _ ← xEfcpDestroy node.core.efcps.next
          return cepIdWrong
        if !(← efcpImapAdd hardcodedCepId node.core.efcps.next) then
          let _ ← xEfcpDestroy node.core.efcps.next
          return cepIdWrong
        return hardcodedCepId)
        { node with core := node.core.addEfcp outcomes.contained } := by
  have held : (readEfcp node.core.efcps.next).run
        { node with core := node.core.addEfcp outcomes.newEfcp } =
      .ok outcomes.newEfcp { node with core := node.core.addEfcp outcomes.newEfcp } :=
    run_readEfcp (get?_addEfcp_new _ _)
  simp only [bindConnection, isCepIdOk_hardcodedCepId, Bool.not_true, Bool.false_eq_true, if_false]
  rw [Command.run_bind_ok held, Command.run_bind_ok (run_writeEfcp _ _), setEfcp_addEfcp]
  rfl

/-- A request with a wrong port id is given up before the connection is bound. -/
theorem run_xEfcpConnectionCreate_portId (reached : ReachesInstance request outcomes node)
    (wrong : isPortIdOk request.xPortId = false) :
    (xEfcpConnectionCreate request outcomes).run node =
      if outcomes.leftDtp || outcomes.leftConnection || outcomes.leftUserIpcp then
        .error .nullPointer { node with core := node.core.addEfcp outcomes.contained }
      else .ok cepIdWrong { node with core := node.core.undone outcomes.contained } := by
  have destroyed := run_xEfcpDestroy_new node outcomes.contained rfl
  rw [run_xEfcpConnectionCreate_reached reached, run_bindConnection]
  cases left : outcomes.leftDtp || outcomes.leftConnection with
  | true => simp [wrong]
  | false =>
      simp only [wrong, Bool.not_false, if_true, Bool.false_eq_true, if_false, Bool.false_or,
        EStateM.run_bind, destroyed]
      cases user : outcomes.leftUserIpcp with
      | true => simp [ConnectionOutcomes.contained, ConnectionOutcomes.newEfcp, user]
      | false => simp [ConnectionOutcomes.contained, ConnectionOutcomes.newEfcp, user]

/-- So is one whose DTP instance cannot be had. -/
theorem run_xEfcpConnectionCreate_dtp (reached : ReachesInstance request outcomes node)
    (portId : isPortIdOk request.xPortId = true)
    (missing : (node.core.xEfcpcRmt && outcomes.dtpMemory) = false) :
    (xEfcpConnectionCreate request outcomes).run node =
      if outcomes.leftUserIpcp then
        .error .nullPointer
          { node with core := node.core.addEfcp (outcomes.efcp request.connection none) }
      else .ok cepIdWrong
        { node with core := node.core.undone (outcomes.efcp request.connection none) } := by
  have refused (other : Node) :
      (pxDtpCreate outcomes node.core.xEfcpcRmt request.pxDtpCfg).run other = .ok none other := by
    cases rmt : node.core.xEfcpcRmt with
    | false => simp [pxDtpCreate, reached.configuration]
    | true =>
        rw [rmt, Bool.true_and] at missing
        simp [pxDtpCreate, reached.configuration, missing]
  have destroyed := run_xEfcpDestroy_new node (outcomes.efcp request.connection none) rfl
  rw [run_xEfcpConnectionCreate_reached reached, run_bindConnection]
  simp only [portId, Bool.not_true, Bool.false_eq_true, if_false, EStateM.run_bind,
    run_writeEfcp, setEfcp_addEfcp, refused, Option.isNone_none, if_true, destroyed]
  cases user : outcomes.leftUserIpcp with
  | true => simp [ConnectionOutcomes.efcp, ConnectionOutcomes.newEfcp, user]
  | false => simp [ConnectionOutcomes.efcp, ConnectionOutcomes.newEfcp, user]

/-- Without memory for its state vector the DTP instance is not refused. -/
theorem run_xEfcpConnectionCreate_sv (reached : ReachesInstance request outcomes node)
    (portId : isPortIdOk request.xPortId = true)
    (dtp : (node.core.xEfcpcRmt && outcomes.dtpMemory) = true)
    (missing : outcomes.svMemory = false) :
    (xEfcpConnectionCreate request outcomes).run node =
      .error .nullPointer
        { node with core := node.core.addEfcp (outcomes.efcp request.connection none) } := by
  obtain ⟨rmt, dtpMemory⟩ := Bool.and_eq_true_iff.mp dtp
  rw [run_xEfcpConnectionCreate_reached reached, run_bindConnection]
  simp [portId, pxDtpCreate, reached.configuration, rmt, dtpMemory, missing]

/-- The tables after a connection was created. -/
def Core.created (core : Core) (value : Efcp) : Core :=
  { core.addEfcp value with
    xEfcpImapTable := (xEfcpImapAdd hardcodedCepId core.efcps.next core.xEfcpImapTable).1 }

theorem run_efcpImapAdd_new (value : Efcp) (rows : node.core.xEfcpImapTable ≠ []) :
    (efcpImapAdd hardcodedCepId node.core.efcps.next).run
        { node with core := node.core.addEfcp value } =
      .ok true { node with core := node.core.created value } := by
  obtain ⟨row, others, table⟩ := List.exists_cons_of_ne_nil rows
  simp [efcpImapAdd, Core.created, Core.addEfcp, table]

/-- In all other cases a connection is created, if the map has rows. -/
theorem run_xEfcpConnectionCreate_created (reached : ReachesInstance request outcomes node)
    (portId : isPortIdOk request.xPortId = true)
    (dtp : (node.core.xEfcpcRmt && outcomes.dtpMemory) = true)
    (svMemory : outcomes.svMemory = true) (rows : node.core.xEfcpImapTable ≠ []) :
    (xEfcpConnectionCreate request outcomes).run node =
      .ok hardcodedCepId
        { node with
          core := node.core.created (outcomes.efcp request.connection (some outcomes.dtp)) } := by
  obtain ⟨rmt, dtpMemory⟩ := Bool.and_eq_true_iff.mp dtp
  rw [run_xEfcpConnectionCreate_reached reached, run_bindConnection]
  simp [portId, pxDtpCreate, reached.configuration, rmt, dtpMemory, svMemory,
    run_efcpImapAdd_new _ rows, ConnectionOutcomes.dtp]

end Creation

/-! ## Runs of a destruction -/

/-- The tables after a destruction that found an instance. -/
def Core.unmapped (core : Core) (xId : CepId) : Core :=
  { core with
    xEfcpImapTable := (xEfcpImapRemove xId (pxEfcpImapFind xId core.xEfcpImapTable).1).1 }

theorem run_xEfcpConnectionDestroy_refused {node : Node} {xId : CepId}
    (refused : (node.core.pxEfcpc && isCepIdOk xId) = false) :
    (xEfcpConnectionDestroy xId).run node = .ok false node := by
  cases container : node.core.pxEfcpc with
  | false => simp [xEfcpConnectionDestroy, container]
  | true =>
      rw [container, Bool.true_and] at refused
      simp [xEfcpConnectionDestroy, refused]

/-- The row is taken away, but the instance stays allocated. -/
theorem run_xEfcpConnectionDestroy {node : Node} {xId : CepId}
    (accepted : (node.core.pxEfcpc && isCepIdOk xId) = true) :
    (xEfcpConnectionDestroy xId).run node =
      match (pxEfcpImapFind xId node.core.xEfcpImapTable).2 with
      | none => .ok false { node with core := node.core.lookUp xId }
      | some _ => .ok false { node with core := node.core.unmapped xId } := by
  obtain ⟨container, idOk⟩ := Bool.and_eq_true_iff.mp accepted
  simp only [xEfcpConnectionDestroy, EStateM.run_bind, run_readCore, container, idOk,
    Bool.not_true, Bool.false_eq_true, if_false, run_efcpImapFind]
  cases found : (pxEfcpImapFind xId node.core.xEfcpImapTable).2 with
  | none => rfl
  | some efcp =>
      simp [efcpImapRemove, xEfcpImapRemove_result, Core.lookUp, Core.unmapped]

end RinaSense
