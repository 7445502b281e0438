import RinaSense.Library.Trace
import RinaSense.Rib.Frames

/-!
# Events of the RIB daemon

What happens to the daemon in a run: the enrollment is initialized, this process
connects on a port or sends a request, a message arrives on a port. The functions that
handle the events are followed up to the operation of a message.
-/

namespace RinaSense

open Command

inductive RibEvent where
  | setUp (coordinator : Bool) (xN1PortId : PortId)
  | connect (pxSource pxDestInfo : NameInfo (Pointer String)) (xN1flowPortId : PortId)
      (pxAuth : AuthPolicy (Pointer String))
  | request (pcObjClass pcObjName : Option String) (objInst : Int) (eOpCode : UInt32)
      (xN1flowPortId : PortId) (pxObjVal : Option (List UInt8))
  | message (pxDecodeCdap : MessageCdap) (xN1FlowPortId : PortId)

namespace RibEvent

/-- The function an event calls, with the outcomes that come with it. -/
def perform (codecs : RibCodecs) : RibOutcomes × RibEvent → Rib Bool
  | (outcomes, setUp coordinator port) => do
      vEnrollmentInit codecs outcomes coordinator port
      return true
  | (outcomes, connect source dest port auth) =>
      xRibdConnectToIpcp codecs outcomes source dest port auth
  | (outcomes, request objClass objName objInst opCode port value) =>
      xRibdSendRequest codecs outcomes objClass objName objInst opCode port value
  | (outcomes, message decoded port) => vRibHandleMessage codecs outcomes decoded port

end RibEvent

/-- The connection of a port. -/
def RibState.connection (state : RibState) (port : PortId) : Option AppConnection :=
  (SlotTable.find (fun row => row.xN1portId = port) state.xAppConnectionTable).map
    AppConnectionRow.pxAppConnection

/-- The state with the connection of a port changed. -/
def RibState.changedConnection (state : RibState) (port : PortId)
    (change : AppConnection → AppConnection) : RibState :=
  { state with
    xAppConnectionTable :=
      SlotTable.update (fun row => row.xN1portId = port)
        (fun row => { row with pxAppConnection := change row.pxAppConnection })
        state.xAppConnectionTable }

section Messages

variable {codecs : RibCodecs} {outcomes : RibOutcomes} {state : RibState} {port : PortId}
  {message : MessageCdap}

/-- A message faults before anything is done, or its operation is handled with the
connection of the port and the object of its name. -/
theorem run_vRibHandleMessage :
    (∃ fault, (vRibHandleMessage codecs outcomes message port).run state = .error fault state) ∨
      ∃ opCode, OpCode.ofCode? message.eOpCode = some opCode ∧
        CanFind message.pcObjName state.xRibObjectTable ∧
        (vRibHandleMessage codecs outcomes message port).run state =
          (handleOperation codecs outcomes message (state.connection port)
            (findRow RibObject.ucObjName message.pcObjName state.xRibObjectTable) port
            opCode).run state := by
  rw [vRibHandleMessage]
  cases known : OpCode.ofCode? message.eOpCode with
  | none => exact .inl ⟨_, rfl⟩
  | some opCode =>
      have found : (pxRibdFindAppConnection port).run state = .ok (state.connection port) state :=
        rfl
      simp only
      rw [run_bind_ok found]
      by_cases can : CanFind message.pcObjName state.xRibObjectTable
      · exact .inr ⟨opCode, rfl, can, run_bind_ok (run_findObject can) _⟩
      · obtain ⟨fault, faulted⟩ := run_findObject_fault can
        exact .inl ⟨fault, run_bind_error faulted _⟩

theorem final_handleConnectR_inProgress {connection : AppConnection}
    (inProgress : connection.xStatus = .inProgress) :
    final ((handleConnectR codecs outcomes message (some connection) port).run state) =
      final ((xEnrollmentHandleConnectR codecs outcomes message.pxSourceInfo.pcProcessName
        port).run (state.changedConnection port fun connection =>
          connection.connectedTo message.pxSourceInfo.pcProcessName)) := by
  simp only [handleConnectR, deref_some, EStateM.run_bind, run_lift, inProgress, ne_eq,
    not_true_eq_false, if_false]
  exact final_bind_of_still (fun _ _ => rfl) _

theorem run_handleConnectR_other {connection : AppConnection}
    (other : connection.xStatus ≠ .inProgress) :
    (handleConnectR codecs outcomes message (some connection) port).run state =
      .ok true state := by
  simp only [handleConnectR, deref_some, EStateM.run_bind, run_lift, ne_eq, other,
    not_false_eq_true, if_true]
  rfl

end Messages

end RinaSense
