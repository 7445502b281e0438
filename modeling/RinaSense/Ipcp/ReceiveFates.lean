import RinaSense.Ipcp.RmtDispatch

/-!
# The fates of a received data unit

Where a data unit ends up that is handed to a receiving function, function by
function, and the conditions on the tables of the node that decide it.
-/

namespace RinaSense

open Command

/-- Where a data unit is when a receiving function is done with it. -/
inductive Fate where
  /-- Left to the caller. -/
  | kept
  /-- Destroyed, and this was returned. -/
  | destroyed (result : Bool)
  /-- Its buffer waits for an application. -/
  | queued
  /-- Left in use, although the result says it was taken. -/
  | ignored
  /-- Destroyed, before replies to its message were sent. -/
  | managed
  /-- Still in use when a fault ended the run. -/
  | stuck
  deriving Repr, DecidableEq

/-- The fates at which the data unit was released once or is still the caller's to
release. A queued buffer is none: the data unit around it stays in use. -/
def Fate.settled : Fate → Bool
  | kept => true
  | destroyed result => result
  | managed => true
  | queued => false
  | ignored => false
  | stuck => false

/-- The result of a run that started in `node` leads to a fate. Only the tables of
the node may have changed otherwise. -/
inductive Meets (node : Node) (pxDu : DuId) (buffer : BufferId) :
    Fate → EStateM.Result Fault Node Bool → Prop
  | kept (core : Core) : Meets node pxDu buffer .kept (.ok false { node with core })
  | destroyed (result : Bool) (core : Core) :
      Meets node pxDu buffer (.destroyed result)
        (.ok result ({ node with core }.discard pxDu buffer))
  | queued (core : Core) (handle : HandleId) (value : FlowAllocateHandle)
      (found : node.handles.get? handle = some value) :
      Meets node pxDu buffer .queued (.ok true ({ node with core }.post handle value buffer))
  | ignored (core : Core) : Meets node pxDu buffer .ignored (.ok true { node with core })
  | managed (core : Core) (replies : List RibReply) (result : EStateM.Result Fault Node Bool)
      (sent : (do sendReplies replies; return true : Rina Bool).run
        ({ node with core }.discard pxDu buffer) = result) :
      Meets node pxDu buffer .managed result
  | stuck (fault : Fault) (core : Core) :
      Meets node pxDu buffer .stuck (.error fault { node with core })

variable {node : Node} {pxDu : DuId} {du : Du} {buffer : BufferId}
  {descriptor : NetworkBufferDescriptor}

theorem Meets.ofCore {core : Core} {fate : Fate} {result : EStateM.Result Fault Node Bool}
    (meets : Meets { node with core } pxDu buffer fate result) :
    Meets node pxDu buffer fate result := by
  cases meets with
  | kept core => exact .kept core
  | destroyed result core => exact .destroyed result core
  | queued core handle value found => exact .queued core handle value found
  | ignored core => exact .ignored core
  | managed core replies result sent => exact .managed core replies result sent
  | stuck fault core => exact .stuck fault core

theorem meets_destroyed (owns : Owns node pxDu du buffer descriptor) (result : Bool) :
    Meets node pxDu buffer (.destroyed result)
      ((do let _ ← xDuDestroy pxDu; return result : Rina Bool).run node) := by
  rw [run_bind_ok (run_duDestroy owns)]
  exact .destroyed result node.core

theorem meets_kept : Meets node pxDu buffer .kept (.ok false node) := .kept node.core

theorem meets_ignored : Meets node pxDu buffer .ignored (.ok true node) := .ignored node.core

theorem meets_stuck (fault : Fault) : Meets node pxDu buffer .stuck (.error fault node) :=
  .stuck fault node.core

/-! ## The flow allocator -/

/-- The flow allocator does not take a data unit for a port: the port id is wrong,
no row of the table is valid, or the instance of the first row is for another port
or not allocated. -/
def PostRefused (core : Core) (xPortId : PortId) : Prop :=
  isPortIdOk xPortId = false ∨ (∀ row ∈ core.xFlowRequestTable, row.xValid = false) ∨
    ∃ fai, core.xFlowRequestTable.head?.bind FlowRequestRow.pxFAI = some fai ∧
      (fai.xPortId ≠ xPortId ∨ fai.eFaiState ≠ .allocated)

/-- The run of the posting function when it does not refuse the data unit. -/
inductive Posted (node : Node) (buffer : BufferId) : EStateM.Result Fault Node Bool → Prop
  | queued (handle : HandleId) (value : FlowAllocateHandle)
      (found : node.handles.get? handle = some value) :
      Posted node buffer (.ok true (node.post handle value buffer))
  | stuck (fault : Fault) : Posted node buffer (.error fault node)

/-- The handle of the first instance is there. -/
def HandleFound (handles : Store FlowAllocateHandle) (core : Core) : Prop :=
  ∃ fai value, core.xFlowRequestTable.head?.bind FlowRequestRow.pxFAI = some fai ∧
    handles.get? fai.pxFlowAllocatorHandle = some value

theorem flowAllocatorDuPost_run (owns : Owns node pxDu du buffer descriptor) (xPortId : PortId) :
    (PostRefused node.core xPortId ∧
      (xFlowAllocatorDuPost xPortId pxDu).run node = .ok false (node.discard pxDu buffer)) ∨
    (¬ PostRefused node.core xPortId ∧
      Posted node buffer ((xFlowAllocatorDuPost xPortId pxDu).run node) ∧
      (HandleFound node.handles node.core ↔
        ∃ value after, (xFlowAllocatorDuPost xPortId pxDu).run node = .ok value after)) := by
  have present : xDuIsOk du = true := by rw [xDuIsOk, owns.pointer]; rfl
  simp only [xFlowAllocatorDuPost, EStateM.run_bind, run_readDu owns.held, present, Bool.not_true,
    Bool.false_or]
  cases port : isPortIdOk xPortId with
  | false =>
      simp only [Bool.not_false, if_true, EStateM.run_bind, run_duDestroy owns]
      exact .inl ⟨.inl port, rfl⟩
  | true =>
      simp only [Bool.not_true, Bool.false_eq_true, if_false, pxFAFindInstance, EStateM.run_bind,
        run_readCore]
      by_cases invalid : ∀ row ∈ node.core.xFlowRequestTable, row.xValid = false
      · simp only [run_findInstanceFrom_none invalid, EStateM.run_bind, run_duDestroy owns]
        exact .inl ⟨.inr (.inl invalid), rfl⟩
      · rw [run_findInstanceFrom invalid]
        cases head : node.core.xFlowRequestTable.head?.bind FlowRequestRow.pxFAI with
        | none =>
            refine .inr ⟨?_, .stuck _, iff_of_false ?_ (by simp)⟩
            · rintro (wrong | none | ⟨fai, found, -⟩)
              · cases wrong.symm.trans port
              · exact invalid none
              · cases found.symm.trans head
            · rintro ⟨fai, value, found, -⟩
              cases found.symm.trans head
        | some fai =>
            by_cases other : fai.xPortId = xPortId
            · simp only [other, if_true]
              by_cases allocated : fai.eFaiState = .allocated
              · have taken : ¬ PostRefused node.core xPortId := by
                  rintro (wrong | none | ⟨found, same, refused⟩)
                  · cases wrong.symm.trans port
                  · exact invalid none
                  · rw [← Option.some.inj (head.symm.trans same)] at refused
                    exact refused.elim (fun different => different other)
                      (fun closed => closed allocated)
                apply Or.inr
                apply And.intro taken
                simp only [owns.pointer, EStateM.run_bind, run_follow_some, allocated, ne_eq,
                  not_true_eq_false, if_false, postToHandle, readHandle]
                cases found : node.handles.get? fai.pxFlowAllocatorHandle with
                | none =>
                    simp only [EStateM.run_get, found, run_throw]
                    refine ⟨.stuck _, iff_of_false ?_ (by simp)⟩
                    rintro ⟨other, value, same, present⟩
                    rw [← Option.some.inj (head.symm.trans same), found] at present
                    cases present
                | some value =>
                    simp only [EStateM.run_get, found, EStateM.run_pure]
                    exact ⟨.queued _ value found,
                      iff_of_true ⟨fai, value, head, found⟩ ⟨_, _, rfl⟩⟩
              · simp only [owns.pointer, EStateM.run_bind, run_follow_some, allocated, ne_eq,
                  not_false_eq_true, if_true, run_duDestroy owns]
                exact .inl ⟨.inr (.inr ⟨fai, head, .inr allocated⟩), rfl⟩
            · simp only [other, if_false, EStateM.run_bind, run_duDestroy owns]
              exact .inl ⟨.inr (.inr ⟨fai, head, .inl other⟩), rfl⟩

/-! ## What counts as settled -/

/-- The fates that are good, and which posted data units meet one. -/
structure FateRule where
  good : Fate → Bool
  posts : Store FlowAllocateHandle → Core → PortId → Prop
  kept : good .kept = true
  destroyed : ∀ result, good (.destroyed result) = result
  ignored : good .ignored = false
  managed : good .managed = true
  stuck : good .stuck = false
  table : ∀ handles core other xPortId, other.xFlowRequestTable = core.xFlowRequestTable →
    (posts handles other xPortId ↔ posts handles core xPortId)
  queued : ∀ handles core xPortId, ¬ PostRefused core xPortId → HandleFound handles core →
    (good .queued = true ↔ posts handles core xPortId)
  lost : ∀ handles core xPortId, ¬ PostRefused core xPortId → ¬ HandleFound handles core →
    ¬ posts handles core xPortId
  refused : ∀ handles core xPortId, PostRefused core xPortId → posts handles core xPortId

theorem postRefused_congr {core other : Core} (xPortId : PortId)
    (table : other.xFlowRequestTable = core.xFlowRequestTable) :
    PostRefused other xPortId ↔ PostRefused core xPortId := by
  rw [PostRefused, PostRefused, table]

/-- The data unit is released or the caller's; a queued buffer leaves the one around it. -/
def FateRule.releasing : FateRule where
  good := Fate.settled
  posts := fun _ => PostRefused
  kept := rfl
  destroyed := fun _ => rfl
  ignored := rfl
  managed := rfl
  stuck := rfl
  table := fun _ _ _ xPortId table => postRefused_congr xPortId table
  queued := fun _ _ _ taken _ => iff_of_false Bool.false_ne_true taken
  lost := fun _ _ _ taken _ => taken
  refused := fun _ _ _ refused => refused

/-- A run whose fate is a good one exactly under a condition. -/
def FateRule.Decides (rule : FateRule) (node : Node) (pxDu : DuId) (buffer : BufferId)
    (condition : Prop) (result : EStateM.Result Fault Node Bool) : Prop :=
  ∃ fate, Meets node pxDu buffer fate result ∧ (rule.good fate = true ↔ condition)

section Rules

variable {rule : FateRule}

theorem Meets.decides_true {fate : Fate} {result : EStateM.Result Fault Node Bool}
    (meets : Meets node pxDu buffer fate result) (good : rule.good fate = true)
    {condition : Prop} (holds : condition) : rule.Decides node pxDu buffer condition result :=
  ⟨fate, meets, iff_of_true good holds⟩

theorem Meets.decides_false {fate : Fate} {result : EStateM.Result Fault Node Bool}
    (meets : Meets node pxDu buffer fate result) (bad : rule.good fate = false)
    {condition : Prop} (fails : ¬ condition) : rule.Decides node pxDu buffer condition result :=
  ⟨fate, meets, iff_of_false (by rw [bad]; exact Bool.false_ne_true) fails⟩

theorem FateRule.Decides.ofCore {core : Core} {condition : Prop}
    {result : EStateM.Result Fault Node Bool}
    (decides : rule.Decides { node with core } pxDu buffer condition result) :
    rule.Decides node pxDu buffer condition result := by
  obtain ⟨fate, meets, good⟩ := decides
  exact ⟨fate, meets.ofCore, good⟩

theorem FateRule.Decides.congr {condition other : Prop} {result : EStateM.Result Fault Node Bool}
    (decides : rule.Decides node pxDu buffer condition result) (same : condition ↔ other) :
    rule.Decides node pxDu buffer other result :=
  propext same ▸ decides

end Rules

/-! ## DTP -/

/-- The RIB daemon decodes the bytes of a management PDU. -/
def MgmtTaken (daemon : RibDaemon) (descriptor : NetworkBufferDescriptor) : Prop :=
  ∃ bytes message, managementBytes descriptor = some bytes ∧
    daemon.prvRibdDecodeCDAP bytes = some message

/-- The types passed to `xRmtProcessDtPdu` are the data type and control types. -/
theorem kind_of_isDtPdu {xType : PduType} (dt : isDtPdu xType = true) :
    xType = pduTypeDt ∨ pduTypeIsControl xType = true := by
  simp only [isDtPdu, Bool.or_eq_true, beq_iff_eq] at dt
  simp only [pduTypeIsControl, Bool.or_eq_true, beq_iff_eq]
  tauto

/-- Tables that are linked to an RMT, a container and an N-1 port alike. -/
structure Core.SameLinks (core other : Core) : Prop where
  rmt : other.pxRmt = core.pxRmt
  container : other.pxEfcpc = core.pxEfcpc
  n1Port : other.xPortIdTable = none ↔ core.xPortIdTable = none

theorem sameLinks_refl (core : Core) : core.SameLinks core := ⟨rfl, rfl, Iff.rfl⟩

theorem sameLinks_countReceived (core : Core) (bytes : SizeT) :
    core.SameLinks (core.countReceived bytes) where
  rmt := rfl
  container := rfl
  n1Port := Option.map_eq_none_iff

theorem Core.SameLinks.stopped_iff {core other : Core} (same : core.SameLinks other)
    (descriptor : NetworkBufferDescriptor) (xFrom : PortId) :
    Stopped other descriptor xFrom ↔ Stopped core descriptor xFrom := by
  simp only [Stopped, same.rmt, same.container, same.n1Port]

theorem sameLinks_counting (core : Core) (xFrom : PortId) (bytes : SizeT) :
    core.SameLinks (core.counting xFrom bytes) := by
  rw [Core.counting]
  split
  · exact sameLinks_countReceived core bytes
  · exact sameLinks_refl core

namespace FateRule

variable (rule : FateRule)

/-- A data PDU that DTP drops while it waits for the first data run, or posts for a good fate. -/
def DtpTaken (handles : Store FlowAllocateHandle) (core : Core) (efcp : Efcp) (pci : Pci) : Prop :=
  ∃ dtp, efcp.pxDtp = some dtp ∧ (dtp.pxDtpStateVector.Drops pci ∨
    (dtp.pxDtpStateVector.Posts pci ∧
      ∃ connection, efcp.pxConnection = some connection ∧
        rule.posts handles core connection.xPortId))

/-- What DTP returns for a PDU it posts does not depend on the result of that. -/
theorem dtpPduPost_decides (owns : Owns node pxDu du buffer descriptor) {pxEfcp : EfcpId}
    {efcp : Efcp} (found : node.core.efcps.get? pxEfcp = some efcp) :
    rule.Decides node pxDu buffer
      (∃ connection, efcp.pxConnection = some connection ∧
        rule.posts node.handles node.core connection.xPortId)
      ((do let _ ← xDtpPduPost pxEfcp pxDu; return true : Rina Bool).run node) := by
  cases connected : efcp.pxConnection with
  | none =>
      simp only [xDtpPduPost, EStateM.run_bind, run_readEfcp found, connected, run_follow_none]
      exact (meets_stuck _).decides_false rule.stuck (by simp)
  | some connection =>
      simp only [xDtpPduPost, EStateM.run_bind, run_readEfcp found, connected, run_follow_some,
        xEfcpEnqueue, Option.some.injEq, exists_eq_left']
      rcases flowAllocatorDuPost_run owns connection.xPortId with
        ⟨refused, run⟩ | ⟨taken, posted, reached⟩
      · rw [run]
        exact (Meets.destroyed true node.core).decides_true (rule.destroyed true)
          (rule.refused _ _ _ refused)
      · cases run : (xFlowAllocatorDuPost connection.xPortId pxDu).run node with
        | ok value after =>
            rw [run] at posted reached
            cases posted with
            | queued handle value present =>
                exact ⟨.queued, Meets.queued node.core handle value present,
                  rule.queued _ _ _ taken (reached.mpr ⟨_, _, rfl⟩)⟩
        | error fault after =>
            rw [run] at posted reached
            cases posted with
            | stuck fault =>
                have lost : ¬ HandleFound node.handles node.core := by
                  intro found
                  obtain ⟨_, _, same⟩ := reached.mp found
                  cases same
                exact (meets_stuck fault).decides_false rule.stuck (rule.lost _ _ _ taken lost)

theorem dtpReceive_decides (owns : Owns node pxDu du buffer descriptor) {pci : Pci}
    (header : headerOf du descriptor = some pci) {pxEfcp : EfcpId} {efcp : Efcp}
    (found : node.core.efcps.get? pxEfcp = some efcp) :
    rule.Decides node pxDu buffer (rule.DtpTaken node.handles node.core efcp pci)
      ((xDtpReceive pxEfcp pxDu).run node) := by
  cases data : efcp.pxDtp with
  | none =>
      simp only [xDtpReceive, EStateM.run_bind, run_readEfcp found, data, run_follow_none]
      refine (meets_stuck _).decides_false rule.stuck ?_
      rintro ⟨dtp, set, -⟩
      cases set.symm.trans data
  | some dtp =>
      have unique : ∀ {other}, efcp.pxDtp = some other → other = dtp :=
        fun set => Option.some.inj (set.symm.trans data)
      simp only [xDtpReceive, EStateM.run_bind, run_readEfcp found, data, run_follow_some,
        run_readPci owns header, run_writeEfcp]
      let core := node.core.setEfcp pxEfcp
        (efcp.withStateVector dtp (dtp.pxDtpStateVector.receive pci).1)
      have owned : Owns { node with core } pxDu du buffer descriptor := owns.withCore core
      have stored : ({ node with core } : Node).core.efcps.get? pxEfcp =
          some (efcp.withStateVector dtp (dtp.pxDtpStateVector.receive pci).1) :=
        get?_setEfcp found _
      rcases dtp.pxDtpStateVector.receive_verdict pci with
        ⟨drops, -, verdict⟩ | ⟨kept, posts, verdict⟩ | ⟨kept, silent, verdict⟩
      · simp only [verdict]
        exact (meets_destroyed owned true).ofCore.decides_true (rule.destroyed true)
          ⟨dtp, data, .inl drops⟩
      · simp only [verdict]
        apply (rule.dtpPduPost_decides owned stored).ofCore.congr
        have same : ∀ xPortId, rule.posts node.handles core xPortId ↔
            rule.posts node.handles node.core xPortId :=
          fun xPortId => rule.table _ _ _ xPortId rfl
        simp only [same]
        constructor
        · intro posted
          exact ⟨dtp, data, .inr ⟨posts, posted⟩⟩
        · rintro ⟨other, set, drops | ⟨-, posted⟩⟩
          · exact absurd (unique set ▸ drops) kept
          · exact posted
      · simp only [verdict]
        refine (meets_destroyed owned false).ofCore.decides_false (rule.destroyed false) ?_
        rintro ⟨other, set, drops | ⟨posts, -⟩⟩
        · exact kept (unique set ▸ drops)
        · exact silent (unique set ▸ posts)

/-! ## The container -/

/-- Control PDUs are never settled: one with a DTCP instance is forgotten, and one
without is destroyed although the caller is told to do so. -/
theorem efcpReceive_control (owns : Owns node pxDu du buffer descriptor) {pci : Pci}
    (header : headerOf du descriptor = some pci) (control : pduTypeIsControl pci.xType = true)
    {pxEfcp : EfcpId} {efcp : Efcp} (found : node.core.efcps.get? pxEfcp = some efcp) :
    rule.Decides node pxDu buffer False ((xEfcpReceive pxEfcp pxDu).run node) := by
  simp only [xEfcpReceive, EStateM.run_bind, run_readPci owns header, control, if_true,
    run_readEfcp found]
  cases efcp.pxDtp.any Dtp.pxDtcp with
  | true => exact meets_ignored.decides_false rule.ignored id
  | false => exact (meets_destroyed owns false).decides_false (rule.destroyed false) id

theorem efcpReceive_data (owns : Owns node pxDu du buffer descriptor) {pci : Pci}
    (header : headerOf du descriptor = some pci) (data : pci.xType = pduTypeDt)
    (pxEfcp : EfcpId) :
    (xEfcpReceive pxEfcp pxDu).run node = (xDtpReceive pxEfcp pxDu).run node := by
  have control : pduTypeIsControl pci.xType = false := by rw [data]; rfl
  simp only [xEfcpReceive, EStateM.run_bind, run_readPci owns header, control,
    Bool.false_eq_true, if_false]

/-- The container takes a PDU for an instance that is deallocated, and a data PDU that
DTP takes. -/
def ContainerReceiveTaken (handles : Store FlowAllocateHandle) (core : Core) (xCepId : CepId)
    (pci : Pci) : Prop :=
  isCepIdOk xCepId = true ∧
    ∃ pxEfcp efcp, (pxEfcpImapFind xCepId core.xEfcpImapTable).2 = some pxEfcp ∧
      core.efcps.get? pxEfcp = some efcp ∧
      (efcp.xState = .deallocated ∨
        (pci.xType = pduTypeDt ∧ efcp.pxConnection.isSome ∧ rule.DtpTaken handles core efcp pci))

/-- The connection's note of the received CEP id has no part in it. -/
theorem dtpTaken_noteReceived {handles : Store FlowAllocateHandle} {core other : Core}
    {efcp : Efcp} {pci : Pci} {connection : Connection}
    (connected : efcp.pxConnection = some connection)
    (table : other.xFlowRequestTable = core.xFlowRequestTable) :
    rule.DtpTaken handles other { efcp with pxConnection := some (connection.noteReceived pci) }
        pci ↔
      rule.DtpTaken handles core efcp pci := by
  have posts : ∀ xPortId, rule.posts handles other xPortId ↔ rule.posts handles core xPortId :=
    fun xPortId => rule.table _ _ _ xPortId table
  have port : (connection.noteReceived pci).xPortId = connection.xPortId := by
    rw [Connection.noteReceived]
    split <;> rfl
  simp only [DtpTaken, connected, Option.some.injEq, exists_eq_left', posts, port]

/-- What the container takes, of an instance that is found. -/
theorem containerReceiveTaken_iff {handles : Store FlowAllocateHandle} {core : Core}
    {xCepId : CepId} {pci : Pci} {pxEfcp : EfcpId} {efcp : Efcp}
    (entry : (pxEfcpImapFind xCepId core.xEfcpImapTable).2 = some pxEfcp)
    (stored : core.efcps.get? pxEfcp = some efcp) :
    rule.ContainerReceiveTaken handles core xCepId pci ↔ isCepIdOk xCepId = true ∧
      (efcp.xState = .deallocated ∨
        (pci.xType = pduTypeDt ∧ efcp.pxConnection.isSome ∧
          rule.DtpTaken handles core efcp pci)) := by
  constructor
  · rintro ⟨ok, other, value, set, present, received⟩
    obtain rfl := Option.some.inj (entry.symm.trans set)
    obtain rfl := Option.some.inj (stored.symm.trans present)
    exact ⟨ok, received⟩
  · rintro ⟨ok, received⟩
    exact ⟨ok, pxEfcp, efcp, entry, stored, received⟩

theorem efcpContainerReceive_decides (owns : Owns node pxDu du buffer descriptor) {pci : Pci}
    (header : headerOf du descriptor = some pci)
    (kind : pci.xType = pduTypeDt ∨ pduTypeIsControl pci.xType = true) (xCepId : CepId) :
    rule.Decides node pxDu buffer (rule.ContainerReceiveTaken node.handles node.core xCepId pci)
      ((xEfcpContainerReceive xCepId pxDu).run node) := by
  simp only [xEfcpContainerReceive]
  cases ok : isCepIdOk xCepId with
  | false =>
      simp only [Bool.not_false, if_true]
      exact (meets_destroyed owns false).decides_false (rule.destroyed false)
        (fun taken => absurd (ok.symm.trans taken.1) Bool.false_ne_true)
  | true =>
      have looked := owns.withCore (node.core.lookUp xCepId)
      simp only [Bool.not_true, Bool.false_eq_true, if_false, EStateM.run_bind, run_efcpImapFind]
      apply FateRule.Decides.ofCore
      cases entry : (pxEfcpImapFind xCepId node.core.xEfcpImapTable).2 with
      | none =>
          refine (meets_destroyed looked false).decides_false (rule.destroyed false) ?_
          rintro ⟨-, pxEfcp, efcp, set, -⟩
          cases set.symm.trans entry
      | some pxEfcp =>
          cases stored : node.core.efcps.get? pxEfcp with
          | none =>
              have read := run_readEfcp_absent (show
                ({ node with core := node.core.lookUp xCepId } : Node).core.efcps.get? pxEfcp =
                  none from stored)
              simp only [EStateM.run_bind, read]
              refine (meets_stuck _).decides_false rule.stuck ?_
              rintro ⟨-, other, efcp, set, found, -⟩
              obtain rfl := Option.some.inj (entry.symm.trans set)
              cases stored.symm.trans found
          | some efcp =>
              have found : ({ node with core := node.core.lookUp xCepId } : Node).core.efcps.get?
                  pxEfcp = some efcp := stored
              simp only [EStateM.run_bind, run_readEfcp found]
              by_cases gone : efcp.xState = .deallocated
              · simp only [gone, if_true]
                exact (meets_destroyed looked true).decides_true (rule.destroyed true)
                  ⟨ok, pxEfcp, efcp, entry, stored, .inl gone⟩
              · have alive : rule.ContainerReceiveTaken node.handles node.core xCepId pci ↔
                    pci.xType = pduTypeDt ∧ efcp.pxConnection.isSome ∧
                      rule.DtpTaken node.handles node.core efcp pci := by
                  rw [rule.containerReceiveTaken_iff entry stored, and_iff_right ok,
                    or_iff_right gone]
                simp only [gone, if_false, EStateM.run_bind, run_readPci looked header]
                apply FateRule.Decides.congr _ alive.symm
                by_cases data : pci.xType = pduTypeDt
                · cases connected : efcp.pxConnection with
                  | none =>
                      simp only [data, if_true, EStateM.run_bind, run_follow_none]
                      exact (meets_stuck _).decides_false rule.stuck (by simp)
                  | some connection =>
                      let noted := { efcp with
                        pxConnection := some (connection.noteReceived pci) }
                      have written : ({ node with
                          core := (node.core.lookUp xCepId).setEfcp pxEfcp noted } :
                          Node).core.efcps.get? pxEfcp = some noted :=
                        get?_setEfcp stored noted
                      have owned := looked.withCore
                        ((node.core.lookUp xCepId).setEfcp pxEfcp noted)
                      have same : rule.DtpTaken node.handles
                          ((node.core.lookUp xCepId).setEfcp pxEfcp noted) noted pci ↔
                          rule.DtpTaken node.handles node.core efcp pci :=
                        rule.dtpTaken_noteReceived connected rfl
                      simp only [data, if_true, EStateM.run_bind, run_follow_some,
                        run_writeEfcp, Option.isSome_some, true_and]
                      rw [efcpReceive_data owned header data]
                      exact (rule.dtpReceive_decides owned header written).ofCore.congr same
                · have control := kind.resolve_left data
                  simp only [data, if_false, false_and]
                  exact rule.efcpReceive_control looked header control found

/-! ## The RMT -/

theorem rmtProcessDtPdu_decides (owns : Owns node pxDu du buffer descriptor) {pci : Pci}
    (header : headerOf du descriptor = some pci)
    (kind : pci.xType = pduTypeDt ∨ pduTypeIsControl pci.xType = true)
    (address : isAddressOk pci.xDestination = true) :
    rule.Decides node pxDu buffer
      (rule.ContainerReceiveTaken node.handles node.core pci.connectionId.xDestination pci)
      ((xRmtProcessDtPdu pxDu).run node) := by
  have unmanaged : pci.xType ≠ pduTypeMgmt := by
    rintro managed
    rw [managed] at kind
    exact absurd kind (by decide)
  simp only [xRmtProcessDtPdu, EStateM.run_bind, run_readPci owns header, address, Bool.not_true,
    Bool.false_eq_true, if_false, unmanaged]
  cases ok : isCepIdOk pci.connectionId.xDestination with
  | false =>
      simp only [Bool.not_false, if_true]
      exact (meets_destroyed owns false).decides_false (rule.destroyed false)
        (fun taken => absurd (ok.symm.trans taken.1) Bool.false_ne_true)
  | true =>
      simp only [Bool.not_true, Bool.false_eq_true, if_false]
      exact rule.efcpContainerReceive_decides owns header kind _

variable (daemon : RibDaemon)

theorem rmtProcessMgmtPdu_decides (owns : Owns node pxDu du buffer descriptor) {xPortId : PortId}
    (port : isPortIdOk xPortId = true) :
    rule.Decides node pxDu buffer (MgmtTaken daemon descriptor)
      ((xRmtProcessMgmtPdu daemon xPortId pxDu).run node) := by
  simp only [xRmtProcessMgmtPdu, xNormalMgmtDuPost, port, Bool.not_true, Bool.false_eq_true,
    if_false, xRibdProcessLayerManagementPDU, EStateM.run_bind, run_readDu owns.held,
    run_readStorage owns]
  cases block : descriptor.pucEthernetBuffer with
  | none =>
      refine (meets_stuck _).decides_false rule.stuck ?_
      rintro ⟨bytes, message, held, -⟩
      simp [managementBytes, block] at held
  | some storage =>
      cases held : managementBytes descriptor with
      | none =>
          simp only [held, run_follow_none]
          exact (meets_stuck _).decides_false rule.stuck (by simp [MgmtTaken, held])
      | some bytes =>
          cases decoded : daemon.prvRibdDecodeCDAP bytes with
          | none =>
              simp only [held, run_follow_some, decoded, run_follow_none]
              exact (meets_stuck _).decides_false rule.stuck (by simp [MgmtTaken, held, decoded])
          | some message =>
              simp only [held, run_follow_some, decoded, run_duDestroy owns]
              have handled : Meets node pxDu buffer .managed _ :=
                .managed (daemon.vRibHandleMessage node.core message xPortId).1
                  (daemon.vRibHandleMessage node.core message xPortId).2 _ rfl
              rw [EStateM.run_bind] at handled
              exact handled.decides_true rule.managed ⟨bytes, message, held, decoded⟩

/-- A PDU whose header is read goes to the RIB daemon, to the container, or is for
another node. -/
def PduTaken (handles : Store FlowAllocateHandle) (core : Core)
    (descriptor : NetworkBufferDescriptor) (pci : Pci) : Prop :=
  pduTypeIsOk pci.xType = true ∧ isAddressOk pci.xDestination = true ∧
    isQosIdOk pci.connectionId.xQosId = true ∧
    (if pci.xDestination = localAddress then
      (pci.xType = pduTypeMgmt ∧ MgmtTaken daemon descriptor) ∨
        (isDtPdu pci.xType = true ∧
          rule.ContainerReceiveTaken handles core pci.connectionId.xDestination pci)
    else pci.xDestination = 0 → MgmtTaken daemon descriptor)

/-- The PDU gets past the RMT and is taken by what follows. -/
structure ReceiveTaken (handles : Store FlowAllocateHandle) (core : Core) (obtained : Bool)
    (descriptor : NetworkBufferDescriptor) (xFrom : PortId) : Prop where
  rmt : core.pxRmt.isSome
  port : isPortIdOk xFrom = true
  container : core.pxEfcpc = true
  n1Port : core.xPortIdTable.isSome
  secondBuffer : obtained = true
  header : ∃ pci, receivedHeader descriptor = some pci ∧
    rule.PduTaken daemon handles core (decapsulated descriptor) pci

theorem afterHeader_decides (owns : Owns node pxDu du buffer descriptor) {pci : Pci}
    (header : headerOf du descriptor = some pci) {xFrom : PortId}
    (port : isPortIdOk xFrom = true) :
    rule.Decides node pxDu buffer (rule.PduTaken daemon node.handles node.core descriptor pci)
      ((afterHeader daemon xFrom pxDu pci).run node) := by
  rw [afterHeader]
  by_cases wrong : (!pduTypeIsOk pci.xType || !isAddressOk pci.xDestination ||
      !isQosIdOk pci.connectionId.xQosId) = true
  · simp only [wrong, if_true]
    refine (meets_destroyed owns false).decides_false (rule.destroyed false) ?_
    rintro ⟨type, address, qos, -⟩
    simp [type, address, qos] at wrong
  · have accepted : pduTypeIsOk pci.xType = true ∧ isAddressOk pci.xDestination = true ∧
        isQosIdOk pci.connectionId.xQosId = true := by
      simpa [and_assoc] using wrong
    simp only [PduTaken, accepted, true_and]
    by_cases here : pci.xDestination = localAddress
    · simp only [here, if_true]
      by_cases managed : pci.xType = pduTypeMgmt
      · simp only [managed, if_true]
        apply (rule.rmtProcessMgmtPdu_decides daemon owns port).congr
        simp [isDtPdu, pduTypeMgmt, pduTypeCack, pduTypeSack, pduTypeNack, pduTypeFc, pduTypeAck,
          pduTypeAckAndFc, pduTypeRendezvous, pduTypeDt]
      · simp only [managed, if_false, false_and, false_or]
        cases dt : isDtPdu pci.xType with
        | true =>
            simp only [if_true, true_and]
            exact rule.rmtProcessDtPdu_decides owns header (kind_of_isDtPdu dt) accepted.2.1
        | false =>
            simp only [Bool.false_eq_true, if_false, false_and]
            exact (meets_destroyed owns false).decides_false (rule.destroyed false) id
    · simp only [here, if_false]
      by_cases broadcast : pci.xDestination = 0
      · simp only [broadcast, if_true, true_implies]
        exact rule.rmtProcessMgmtPdu_decides daemon owns port
      · simp only [broadcast, if_false, false_implies]
        exact meets_kept.decides_true rule.kept trivial

/-- Counting has no part in what happens to a PDU. -/
theorem pduTaken_counting (handles : Store FlowAllocateHandle) (core : Core) (xFrom : PortId)
    (bytes : SizeT) (pci : Pci) :
    rule.PduTaken daemon handles (core.counting xFrom bytes) descriptor pci ↔
      rule.PduTaken daemon handles core descriptor pci := by
  rw [Core.counting]
  split
  · have posts : ∀ xPortId, rule.posts handles (core.countReceived bytes) xPortId ↔
        rule.posts handles core xPortId := fun xPortId => rule.table _ _ _ xPortId rfl
    have dtp : ∀ efcp, rule.DtpTaken handles (core.countReceived bytes) efcp pci ↔
        rule.DtpTaken handles core efcp pci := by
      intro efcp
      simp only [FateRule.DtpTaken, posts]
    simp only [FateRule.PduTaken, FateRule.ContainerReceiveTaken, dtp]
    exact Iff.rfl
  · exact Iff.rfl

/-- What becomes of a PDU handed to `xRmtReceive`: it is stopped and destroyed, its
header cannot be taken and a fault ends the run, or its header is taken and the rest
decides. -/
theorem rmtReceive_run (owns : Owns node pxDu du buffer descriptor) (unset : du.pxPci = none)
    (obtained : Bool) (xFrom : PortId) :
    (Stopped node.core descriptor xFrom ∧
      (xRmtReceive daemon obtained pxDu xFrom).run node =
        .ok false ((node.counting xFrom descriptor).discard pxDu buffer)) ∨
    (¬ Stopped node.core descriptor xFrom ∧
      ¬ rule.ReceiveTaken daemon node.handles node.core obtained descriptor xFrom ∧ ∃ fault,
        (xRmtReceive daemon obtained pxDu xFrom).run node =
          .error fault (node.counting xFrom descriptor)) ∨
    (¬ Stopped node.core descriptor xFrom ∧
      ¬ rule.ReceiveTaken daemon node.handles node.core obtained descriptor xFrom ∧ ∃ fault,
        (xRmtReceive daemon obtained pxDu xFrom).run node =
          .error fault ((node.counting xFrom descriptor).decapsulate pxDu du buffer descriptor)) ∨
    (¬ Stopped node.core descriptor xFrom ∧ isPortIdOk xFrom = true ∧
      ∃ pci, receivedHeader descriptor = some pci ∧
        (rule.ReceiveTaken daemon node.handles node.core obtained descriptor xFrom ↔
          rule.PduTaken daemon node.handles node.core (decapsulated descriptor) pci) ∧
        (xRmtReceive daemon obtained pxDu xFrom).run node =
          (afterHeader daemon xFrom pxDu pci).run
            ((node.counting xFrom descriptor).decapsulate pxDu du buffer descriptor)) := by
  rw [rmtReceive_eq]
  rcases rmtDispatch_run owns unset obtained xFrom with
    ⟨stopped, run⟩ | ⟨past, unfit, fault, run⟩ | ⟨past, headless, fault, run⟩ |
    ⟨arrives, rfl, pci, header, run⟩
  · exact .inl ⟨stopped, run_bind_ok run _⟩
  · refine .inr (.inl ⟨past, fun taken => ?_, fault, run_bind_error run _⟩)
    obtain ⟨pci, header, -⟩ := taken.header
    rcases unfit with unset | unreadable | unobtained
    · cases taken.container.symm.trans unset
    · cases unreadable.symm.trans (receivedType_of_header header)
    · cases taken.secondBuffer.symm.trans unobtained
  · refine .inr (.inr (.inl ⟨past, fun taken => ?_, fault, run_bind_error run _⟩))
    obtain ⟨pci, header, -⟩ := taken.header
    cases headless.symm.trans header
  · refine .inr (.inr (.inr ⟨arrives.past, arrives.port, pci, header, ?_, ?_⟩))
    · constructor
      · intro taken
        obtain ⟨other, set, settled⟩ := taken.header
        exact Option.some.inj (set.symm.trans header) ▸ settled
      · intro taken
        exact ⟨arrives.rmt, arrives.port, arrives.container, arrives.n1Port, rfl, pci, header,
          taken⟩
    · rw [afterHeader_eq, EStateM.run_bind, run, ← EStateM.run_bind]

/-- The fates of the three kinds: destroyed, stuck, or decided after
decapsulation. -/
theorem rmtReceive_cases (owns : Owns node pxDu du buffer descriptor) (unset : du.pxPci = none)
    (obtained : Bool) (xFrom : PortId) :
    (Stopped node.core descriptor xFrom ∧ ∃ core, node.core.SameLinks core ∧
      (xRmtReceive daemon obtained pxDu xFrom).run node =
        .ok false ({ node with core }.discard pxDu buffer)) ∨
    (¬ Stopped node.core descriptor xFrom ∧
      ¬ rule.ReceiveTaken daemon node.handles node.core obtained descriptor xFrom ∧
      Meets node pxDu buffer .stuck ((xRmtReceive daemon obtained pxDu xFrom).run node)) ∨
    (¬ Stopped node.core descriptor xFrom ∧
      ∃ core, rule.Decides ({ node with core }.decapsulate pxDu du buffer descriptor) pxDu buffer
        (rule.ReceiveTaken daemon node.handles node.core obtained descriptor xFrom)
        ((xRmtReceive daemon obtained pxDu xFrom).run node)) := by
  let core := node.core.counting xFrom descriptor.xRinaDataLength
  rcases rule.rmtReceive_run daemon owns unset obtained xFrom with
    ⟨stopped, run⟩ | ⟨past, fails, fault, run⟩ | ⟨past, fails, fault, run⟩ |
    ⟨past, port, pci, header, taken, run⟩
  · exact .inl ⟨stopped, core, sameLinks_counting _ _ _, run⟩
  · exact .inr (.inl ⟨past, fails, run ▸ .stuck fault core⟩)
  · refine .inr (.inr ⟨past, core, ?_⟩)
    rw [run]
    exact (meets_stuck fault).decides_false rule.stuck fails
  · refine .inr (.inr ⟨past, core, ?_⟩)
    have owned : Owns (node.counting xFrom descriptor) pxDu du buffer descriptor := owns.withCore _
    rw [run]
    exact (rule.afterHeader_decides daemon (owns_decapsulate owned) header port).congr
      ((rule.pduTaken_counting daemon _ _ _ _ pci).trans taken.symm)

/-- A stopped PDU is not taken. -/
theorem not_taken_of_stopped {core : Core} {xFrom : PortId}
    (stopped : Stopped core descriptor xFrom) (handles : Store FlowAllocateHandle)
    (obtained : Bool) : ¬ rule.ReceiveTaken daemon handles core obtained descriptor xFrom := by
  intro taken
  rcases stopped with none | wrong | ⟨-, none | ⟨xType, received, rejected⟩⟩
  · exact absurd taken.rmt (by simp [none])
  · cases wrong.symm.trans taken.port
  · exact absurd taken.n1Port (by simp [none])
  · obtain ⟨pci, header, accepted, -⟩ := taken.header
    rw [receivedType_of_header header] at received
    rw [← Option.some.inj received] at rejected
    cases rejected.symm.trans accepted

/-- Every received data unit meets a fate, counted from a node in which it is still in
use with its buffer and no queue has changed. -/
theorem rmtReceive_fate (owns : Owns node pxDu du buffer descriptor) (unset : du.pxPci = none)
    (obtained : Bool) (xFrom : PortId) :
    ∃ fate between du' descriptor', Owns between pxDu du' buffer descriptor' ∧
      between.handles = node.handles ∧
      Meets between pxDu buffer fate ((xRmtReceive daemon obtained pxDu xFrom).run node) ∧
      (rule.good fate = true ↔
        rule.ReceiveTaken daemon node.handles node.core obtained descriptor xFrom) := by
  rcases rule.rmtReceive_cases daemon owns unset obtained xFrom with
    ⟨stopped, core, -, run⟩ | ⟨-, fails, meets⟩ | ⟨-, core, fate, meets, settled⟩
  · refine ⟨.destroyed false, node, du, descriptor, owns, rfl, ?_,
      iff_of_false (by rw [rule.destroyed]; exact Bool.false_ne_true)
        (rule.not_taken_of_stopped daemon stopped node.handles obtained)⟩
    rw [run]
    exact .destroyed false core
  · exact ⟨_, node, du, descriptor, owns, rfl, meets,
      iff_of_false (by rw [rule.stuck]; exact Bool.false_ne_true) fails⟩
  · exact ⟨fate, _, _, _, owns_decapsulate (owns.withCore core), rfl, meets, settled⟩

end FateRule

/-! ## Released or left to the caller -/

/-- DTP settles a data PDU that it drops while it waits for the first data run, or
that it posts to a flow allocator that refuses it. -/
def DtpTaken (core : Core) (efcp : Efcp) (pci : Pci) : Prop :=
  ∃ dtp, efcp.pxDtp = some dtp ∧ (dtp.pxDtpStateVector.Drops pci ∨
    (dtp.pxDtpStateVector.Posts pci ∧
      ∃ connection, efcp.pxConnection = some connection ∧
        PostRefused core connection.xPortId))

/-- The container settles a PDU for an instance that is deallocated, and a data PDU
that DTP settles. -/
def ContainerReceiveTaken (core : Core) (xCepId : CepId) (pci : Pci) : Prop :=
  isCepIdOk xCepId = true ∧
    ∃ pxEfcp efcp, (pxEfcpImapFind xCepId core.xEfcpImapTable).2 = some pxEfcp ∧
      core.efcps.get? pxEfcp = some efcp ∧
      (efcp.xState = .deallocated ∨
        (pci.xType = pduTypeDt ∧ efcp.pxConnection.isSome ∧ DtpTaken core efcp pci))

variable (daemon : RibDaemon)

/-- A PDU whose header is read goes to the RIB daemon, to the container, or is for
another node. -/
def PduTaken (core : Core) (descriptor : NetworkBufferDescriptor) (pci : Pci) : Prop :=
  pduTypeIsOk pci.xType = true ∧ isAddressOk pci.xDestination = true ∧
    isQosIdOk pci.connectionId.xQosId = true ∧
    (if pci.xDestination = localAddress then
      (pci.xType = pduTypeMgmt ∧ MgmtTaken daemon descriptor) ∨
        (isDtPdu pci.xType = true ∧
          ContainerReceiveTaken core pci.connectionId.xDestination pci)
    else pci.xDestination = 0 → MgmtTaken daemon descriptor)

/-- The PDU gets past the RMT and is settled by what follows. -/
structure ReceiveTaken (core : Core) (obtained : Bool) (descriptor : NetworkBufferDescriptor)
    (xFrom : PortId) : Prop where
  rmt : core.pxRmt.isSome
  port : isPortIdOk xFrom = true
  container : core.pxEfcpc = true
  n1Port : core.xPortIdTable.isSome
  secondBuffer : obtained = true
  header : ∃ pci, receivedHeader descriptor = some pci ∧
    PduTaken daemon core (decapsulated descriptor) pci

theorem receiveTaken_releasing (handles : Store FlowAllocateHandle) (core : Core)
    (obtained : Bool) (xFrom : PortId) :
    FateRule.releasing.ReceiveTaken daemon handles core obtained descriptor xFrom ↔
      ReceiveTaken daemon core obtained descriptor xFrom := by
  constructor
  · rintro ⟨rmt, port, container, n1Port, obtained, header⟩
    exact ⟨rmt, port, container, n1Port, obtained, header⟩
  · rintro ⟨rmt, port, container, n1Port, obtained, header⟩
    exact ⟨rmt, port, container, n1Port, obtained, header⟩

theorem rmtReceive_fate (owns : Owns node pxDu du buffer descriptor) (unset : du.pxPci = none)
    (obtained : Bool) (xFrom : PortId) :
    ∃ fate between du' descriptor', Owns between pxDu du' buffer descriptor' ∧
      between.handles = node.handles ∧
      Meets between pxDu buffer fate ((xRmtReceive daemon obtained pxDu xFrom).run node) ∧
      (fate.settled = true ↔ ReceiveTaken daemon node.core obtained descriptor xFrom) := by
  obtain ⟨fate, between, du', descriptor', owned, handles, meets, settled⟩ :=
    FateRule.releasing.rmtReceive_fate daemon owns unset obtained xFrom
  exact ⟨fate, between, du', descriptor', owned, handles, meets,
    settled.trans (receiveTaken_releasing daemon _ _ _ _)⟩

end RinaSense
