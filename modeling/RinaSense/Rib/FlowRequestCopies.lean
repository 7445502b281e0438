import RinaSense.Rib.BoundedCopies
import RinaSense.Rib.FlowRequests
import RinaSense.Rib.FlowRoundTrip

/-!
# Copies of a flow request

The strings of an application and its port id on their way to the neighbor: the process
names go to the flow message, the port id to the name of the object, and the encoded flow
to its block and to the object value of the create request.
-/

namespace RinaSense

open Command

/-! ## Purpose -/

/-- Nothing is written behind the end of a field or a buffer, and nothing is sent where
something does not fit. -/
def SendsWithin (fits : Prop) (command : Rib Unit) (state : RibState) : Prop :=
  Avoids Fault.FromCopy command state ∧
    ∀ next, command.run state = .ok ⟨⟩ next → ¬ fits → next.sent = state.sent

/-! ## Condition -/

section Request

variable {codecs : RibCodecs} {outcomes : RibOutcomes} {setup : FlowRequestSetup}
  {pxLocal pxRemote : NameInfo String} {xAppPortId : PortId} {xRemoteAddress : Address}

/-- The description of the flow as it goes over the wire. -/
def flowRequestMessage (setup : FlowRequestSetup) (xAppPortId : PortId)
    (pxLocal pxRemote : NameInfo String) : FlowMessage where
  sourceNamingInfo := wireNameOf pxLocal.pcProcessName
  destinationNamingInfo := wireNameOf pxRemote.pcProcessName
  sourcePortId := xAppPortId.toUInt64
  destinationPortId := none
  sourceAddress := localAddress.toUInt64
  destinationAddress := none
  connectionIds := some
    { qosId := some qosCubeId.toUInt32
      sourceCEPId := some setup.xCepSourceId.toUInt32
      destinationCEPId := some 0 }
  qosParameters := some
    { name := some qosCubeName
      qosid := some qosCubeId.toUInt32
      partialDelivery := some false
      order := some true }
  dtpConfig := some { dtcpPresent := some false, initialATimer := some dtpInitialATimer }
  hopCount := some 4

/-- The encoded flow, if there is memory for it and it can be encoded. -/
def FlowRequestSetup.value (setup : FlowRequestSetup) (codec : Codec FlowMessage)
    (message : FlowMessage) : Option (List UInt8) :=
  if setup.encodeMemory then codec.encodeWithin setup.flowSize message else none

/-- The encoded flow fits the block it is encoded to and the object value. -/
def FlowValueFits (codec : Codec FlowMessage) (setup : FlowRequestSetup) (message : FlowMessage) :
    Prop :=
  ∀ bytes, setup.value codec message = some bytes →
    flowBufferOffset + bytes.length ≤ setup.flowSize + serObjectValueSize ∧
      bytes.length ≤ byteValueSize

/-- The process names are shorter than their fields, the port id has at most seven digits,
and the encoded flow fits. -/
structure FlowRequestFits (codec : Codec FlowMessage) (setup : FlowRequestSetup)
    (xAppPortId : PortId) (pxLocal pxRemote : NameInfo String) : Prop where
  localName : pxLocal.pcProcessName.utf8ByteSize < flowTextSize
  remoteName : pxRemote.pcProcessName.utf8ByteSize < flowTextSize
  portId : xAppPortId.toNat < 10000000
  value : FlowValueFits codec setup (flowRequestMessage setup xAppPortId pxLocal pxRemote)

/-- The neighbor flow requests are sent to. -/
def RibState.nextHop (state : RibState) : Option NeighborInfo :=
  findRow NeighborInfo.pcApName (.target remoteAddressApName) state.xNeighborsTable

/-- The request gets as far as building its messages. -/
structure FlowRequestSetup.Proceeds (setup : FlowRequestSetup) (state : RibState) : Prop where
  flow : setup.flowMemory = true
  fai : setup.faiMemory = true
  connectionId : setup.connectionIdMemory = true
  neighbor : state.nextHop.isSome

/-! ## The name of the object -/

theorem utf8Size_of_isDigit {c : Char} (digit : c.isDigit = true) : c.utf8Size = 1 := by
  rw [Char.isDigit, Bool.and_eq_true, decide_eq_true_eq, decide_eq_true_eq] at digit
  rw [Char.utf8Size_eq_one_iff]
  exact UInt32.le_trans digit.2 (by decide)

theorem utf8ByteSize_ofList_of_isDigit {digits : List Char}
    (isDigit : ∀ c ∈ digits, c.isDigit = true) :
    (String.ofList digits).utf8ByteSize = digits.length := by
  induction digits with
  | nil => rfl
  | cons c digits ih =>
      have rest := ih fun other member => isDigit other (List.mem_cons_of_mem c member)
      rw [String.ofList_cons, String.utf8ByteSize_append, String.utf8ByteSize_singleton,
        utf8Size_of_isDigit (isDigit c List.mem_cons_self), rest, List.length_cons, Nat.add_comm]

theorem utf8ByteSize_repr (n : Nat) : n.repr.utf8ByteSize = (Nat.toDigits 10 n).length := by
  rw [Nat.repr_eq_ofList_toDigits]
  exact utf8ByteSize_ofList_of_isDigit fun _ member =>
    Nat.isDigit_of_mem_toDigits (by decide) (by decide) member

theorem utf8ByteSize_flowKey (xSourceAddress : Address) (xSourcePortId : PortId) :
    (flowKey xSourceAddress xSourcePortId).utf8ByteSize =
      15 + (Nat.toDigits 10 xSourceAddress.toNat).length +
        (Nat.toDigits 10 xSourcePortId.toNat).length := by
  -- its equation lemma compares string literals, which is slow
  delta flowKey
  rw [String.utf8ByteSize_append, String.utf8ByteSize_append, String.utf8ByteSize_append,
    utf8ByteSize_repr, utf8ByteSize_repr]
  rw [show "/fa/flows/key=".utf8ByteSize = 14 by decide, show "-".utf8ByteSize = 1 by decide]
  omega

/-- With the address of this node, seven digits of the port id fit. -/
theorem flowKey_short_iff :
    (flowKey localAddress xAppPortId).utf8ByteSize < flowObjSize ↔
      xAppPortId.toNat < 10000000 := by
  have digits : (Nat.toDigits 10 xAppPortId.toNat).length ≤ 7 ↔ xAppPortId.toNat < 10 ^ 7 :=
    Nat.length_toDigits_le_iff (by decide) (by decide)
  rw [utf8ByteSize_flowKey, flowObjSize, show (10000000 : Nat) = 10 ^ 7 by decide, ← digits,
    show (Nat.toDigits 10 localAddress.toNat).length = 1 by decide]
  omega

/-- The name fits the field of the create request too. -/
theorem flowKey_fits (portId : xAppPortId.toNat < 10000000) :
    (flowKey localAddress xAppPortId).utf8ByteSize < textSize :=
  Nat.lt_of_lt_of_le (flowKey_short_iff.mpr portId) (by decide)

/-! ## The flow message -/

/-- The flow of a request, with the names an application gave. -/
abbrev flowOf (setup : FlowRequestSetup) (xAppPortId : PortId) (pxLocal pxRemote : NameInfo String)
    (xRemoteAddress : Address) : Flow :=
  requestFlow setup xAppPortId (pxLocal.map .target) (pxRemote.map .target) xRemoteAddress

theorem printFlowObj_of_short (portId : xAppPortId.toNat < 10000000) :
    printFlowObj (flowOf setup xAppPortId pxLocal pxRemote xRemoteAddress).xSourceAddress
        (flowOf setup xAppPortId pxLocal pxRemote xRemoteAddress).xSourcePortId =
      .ok (flowKey localAddress xAppPortId) :=
  if_pos (flowKey_short_iff.mpr portId)

theorem printFlowObj_of_long (long : ¬ xAppPortId.toNat < 10000000) :
    printFlowObj (flowOf setup xAppPortId pxLocal pxRemote xRemoteAddress).xSourceAddress
        (flowOf setup xAppPortId pxLocal pxRemote xRemoteAddress).xSourcePortId =
      .error .outOfBounds :=
  if_neg fun short => long (flowKey_short_iff.mp short)

theorem fillFlowMessage_of_fits (localName : pxLocal.pcProcessName.utf8ByteSize < flowTextSize)
    (remoteName : pxRemote.pcProcessName.utf8ByteSize < flowTextSize) :
    fillFlowMessage (flowOf setup xAppPortId pxLocal pxRemote xRemoteAddress) =
      .ok (flowRequestMessage setup xAppPortId pxLocal pxRemote) := by
  have localCopy : copyProcessName
      (flowOf setup xAppPortId pxLocal pxRemote xRemoteAddress).pxSourceInfo =
        .ok pxLocal.pcProcessName := strcpy_of_short localName
  have remoteCopy : copyProcessName
      (flowOf setup xAppPortId pxLocal pxRemote xRemoteAddress).pxDestInfo =
        .ok pxRemote.pcProcessName := strcpy_of_short remoteName
  rw [fillFlowMessage, localCopy, ok_bind, remoteCopy, ok_bind]
  rfl

/-- A name that is too long makes the filling fault. -/
theorem fillFlowMessage_of_misfit
    (misfit : ¬ (pxLocal.pcProcessName.utf8ByteSize < flowTextSize ∧
      pxRemote.pcProcessName.utf8ByteSize < flowTextSize)) :
    fillFlowMessage (flowOf setup xAppPortId pxLocal pxRemote xRemoteAddress) =
      .error .outOfBounds := by
  by_cases localName : pxLocal.pcProcessName.utf8ByteSize < flowTextSize
  · have remoteCopy : copyProcessName
        (flowOf setup xAppPortId pxLocal pxRemote xRemoteAddress).pxDestInfo =
          .error .outOfBounds := if_neg fun remoteName => misfit ⟨localName, remoteName⟩
    have localCopy : copyProcessName
        (flowOf setup xAppPortId pxLocal pxRemote xRemoteAddress).pxSourceInfo =
          .ok pxLocal.pcProcessName := strcpy_of_short localName
    rw [fillFlowMessage, localCopy, ok_bind, remoteCopy, error_bind]
  · have localCopy : copyProcessName
        (flowOf setup xAppPortId pxLocal pxRemote xRemoteAddress).pxSourceInfo =
          .error .outOfBounds := if_neg localName
    rw [fillFlowMessage, localCopy, error_bind]

/-- The names fit the message and the encoded flow its block. -/
structure FlowEncodes (codec : Codec FlowMessage) (setup : FlowRequestSetup)
    (xAppPortId : PortId) (pxLocal pxRemote : NameInfo String) : Prop where
  localName : pxLocal.pcProcessName.utf8ByteSize < flowTextSize
  remoteName : pxRemote.pcProcessName.utf8ByteSize < flowTextSize
  block : ∀ bytes,
    setup.value codec (flowRequestMessage setup xAppPortId pxLocal pxRemote) = some bytes →
      flowBufferOffset + bytes.length ≤ setup.flowSize + serObjectValueSize

variable {codec : Codec FlowMessage}

theorem pxSerdesMsgFlowEncode_value {flow : Flow} {message : FlowMessage}
    (filled : fillFlowMessage flow = .ok message) :
    pxSerdesMsgFlowEncode codec setup.flowSize setup.encodeMemory (some flow) =
      match setup.value codec message with
      | none => .ok none
      | some bytes =>
          if flowBufferOffset + bytes.length ≤ setup.flowSize + serObjectValueSize then
            .ok (some bytes)
          else .error .outOfBounds := by
  rw [pxSerdesMsgFlowEncode_of_filled filled, FlowRequestSetup.value]
  cases setup.encodeMemory with
  | false => rfl
  | true => rfl

theorem encodeFlow_of_fits (encodes : FlowEncodes codec setup xAppPortId pxLocal pxRemote) :
    pxSerdesMsgFlowEncode codec setup.flowSize setup.encodeMemory
        (some (flowOf setup xAppPortId pxLocal pxRemote xRemoteAddress)) =
      .ok (setup.value codec (flowRequestMessage setup xAppPortId pxLocal pxRemote)) := by
  rw [pxSerdesMsgFlowEncode_value
    (fillFlowMessage_of_fits encodes.localName encodes.remoteName)]
  cases value : setup.value codec (flowRequestMessage setup xAppPortId pxLocal pxRemote) with
  | none => rfl
  | some bytes => exact if_pos (encodes.block bytes value)

theorem encodeFlow_of_misfit (misfit : ¬ FlowEncodes codec setup xAppPortId pxLocal pxRemote) :
    pxSerdesMsgFlowEncode codec setup.flowSize setup.encodeMemory
        (some (flowOf setup xAppPortId pxLocal pxRemote xRemoteAddress)) =
      .error .outOfBounds := by
  by_cases names : pxLocal.pcProcessName.utf8ByteSize < flowTextSize ∧
      pxRemote.pcProcessName.utf8ByteSize < flowTextSize
  · rw [pxSerdesMsgFlowEncode_value (fillFlowMessage_of_fits names.1 names.2)]
    cases value : setup.value codec (flowRequestMessage setup xAppPortId pxLocal pxRemote) with
    | none =>
        have nothing : ∀ bytes, setup.value codec
            (flowRequestMessage setup xAppPortId pxLocal pxRemote) ≠ some bytes := by
          rw [value]
          exact nofun
        exact absurd ⟨names.1, names.2, fun bytes isValue => absurd isValue (nothing bytes)⟩ misfit
    | some bytes =>
        apply if_neg
        intro inside
        refine misfit ⟨names.1, names.2, ?_⟩
        intro other isValue
        rw [value] at isValue
        rw [← Option.some.inj isValue]
        exact inside
  · rw [pxSerdesMsgFlowEncode]
    simp only [fillFlowMessage_of_misfit names, error_bind]

end Request

/-! ## The request -/

section Send

variable {codecs : RibCodecs} {outcomes : RibOutcomes} {setup : FlowRequestSetup}
  {pxLocal pxRemote : NameInfo String} {xAppPortId : PortId} {xRemoteAddress : Address}
  {state : RibState} {xN1Port : PortId}

/-- The create request as the message that is encoded. -/
def createFlowMessage (key : String) (value : Option (List UInt8)) (invokeID : Int) : BuiltMessage :=
  .other .create (some "Flow") (some key) (-1) 0 invokeID value

theorem createFlowMessage_message (key : String) (value : Option (List UInt8)) (invokeID : Int) :
    (createFlowMessage key value invokeID).message =
      requestMessage (some "Flow") (some key) (-1) .create value invokeID := rfl

theorem createFlowMessage_fits_iff {key : String} (short : key.utf8ByteSize < textSize)
    (value : Option (List UInt8)) (invokeID : Int) :
    (createFlowMessage key value invokeID).message.Fits ↔
      ∀ bytes, value = some bytes → bytes.length ≤ byteValueSize := by
  have text : ∀ {size : Nat} {text : String}, text.utf8ByteSize < size →
      (Pointer.target text).Fits size := fun fits =>
    ⟨nofun, fun _ same => Pointer.target.inj same ▸ fits⟩
  have initial : initialName.All (Pointer.Fits nameSize) :=
    ⟨⟨nofun, nofun⟩, ⟨nofun, nofun⟩, text (by decide), text (by decide)⟩
  constructor
  · intro fits bytes isValue
    apply fits.objValueLength bytes
    rw [isValue]
    rfl
  · intro valueFits
    exact
      { destination := initial
        source := initial
        authName := ⟨nofun, nofun⟩
        authVersion := ⟨nofun, nofun⟩
        objClass := text (by decide)
        objName := text short
        objValue := by cases value <;> exact nofun
        objValueLength := by
          intro bytes isValue
          cases value with
          | none => cases isValue
          | some other =>
              rw [← Pointer.target.inj isValue]
              exact valueFits other rfl }

theorem encodeAndSend_avoids_iff (built : BuiltMessage) :
    Avoids Fault.FromCopy (encodeAndSend codecs outcomes (some built.message) xN1Port) state ↔
      built.message.Fits := by
  constructor
  · intro avoids
    by_contra misfit
    obtain ⟨fault, failed, isCopy⟩ :=
      encodeCdap_of_misfit codecs.cdap outcomes.bufferObtained misfit
    have run : (encodeAndSend codecs outcomes (some built.message) xN1Port).run state =
        .error fault state := by
      rw [run_encodeAndSend, failed]
    exact avoids fault state run isCopy
  · intro fits fault next failed
    have builds := (cdap_buildsWithin_iff codecs.cdap outcomes.bufferObtained built).mpr fits
    rw [run_encodeAndSend] at failed
    cases encoded : prvRibdEncodeCDAP codecs.cdap outcomes.bufferObtained (some built.message) with
    | error other =>
        rw [encoded] at failed builds
        cases failed
        exact builds
    | ok contents =>
        rw [encoded] at failed
        cases contents <;> cases failed

theorem run_createObject (left : RibObjOps) (name : String) (inst : Int) :
    ∃ object table, (pxRibCreateObject left (.target name) inst .flow).run state =
      .ok object { state with xRibObjectTable := table } := ⟨_, _, rfl⟩

/-- The end of the request: a value that is too long is copied all the same. -/
theorem sendRequest_avoids_iff {key : String} (short : key.utf8ByteSize < textSize)
    (value : Option (List UInt8)) :
    Avoids Fault.FromCopy (xRibdSendRequest codecs outcomes (some "Flow") (some key) (-1)
        OpCode.create.toCode xN1Port value) state ↔
      ∀ bytes, value = some bytes → bytes.length ≤ byteValueSize := by
  have run : (xRibdSendRequest codecs outcomes (some "Flow") (some key) (-1)
      OpCode.create.toCode xN1Port value).run state =
        (encodeAndSend codecs outcomes
          (some (createFlowMessage key value state.takenInvokeId).message) xN1Port).run
            (state.registered outcomes .create) := by
    rw [createFlowMessage_message]
    exact run_sendRequest (OpCode.ofCode?_toCode .create) rfl
  calc
    _ ↔ Avoids Fault.FromCopy (encodeAndSend codecs outcomes
          (some (createFlowMessage key value state.takenInvokeId).message) xN1Port)
        (state.registered outcomes .create) := avoids_congr run
    _ ↔ (createFlowMessage key value state.takenInvokeId).message.Fits := encodeAndSend_avoids_iff _
    _ ↔ _ := createFlowMessage_fits_iff short value state.takenInvokeId

/-- The message is filled and encoded, the name of the object printed, the object created,
and the request sent; every one of them copies whatever it is given. -/
theorem sendFlowRequest_avoids_iff :
    Avoids Fault.FromCopy (sendFlowRequest codecs outcomes setup
        (flowOf setup xAppPortId pxLocal pxRemote xRemoteAddress) xN1Port) state ↔
      FlowRequestFits codecs.flow setup xAppPortId pxLocal pxRemote := by
  by_cases encodes : FlowEncodes codecs.flow setup xAppPortId pxLocal pxRemote
  · rw [sendFlowRequest, avoids_bind_of_ok (run_lift_ok (encodeFlow_of_fits encodes))]
    by_cases portId : xAppPortId.toNat < 10000000
    · obtain ⟨object, table, created⟩ := @run_createObject state outcomes.objOps
        (flowKey localAddress xAppPortId) (-1)
      rw [avoids_bind_of_ok (run_lift_ok (printFlowObj_of_short portId)),
        avoids_bind_of_ok created,
        avoids_bind_of_total fun _ _ => (wp_pure _).mpr trivial, sendRequest_avoids_iff (flowKey_fits portId)]
      constructor
      · intro value
        exact ⟨encodes.localName, encodes.remoteName, portId,
          fun bytes isValue => ⟨encodes.block bytes isValue, value bytes isValue⟩⟩
      · intro fits bytes isValue
        exact (fits.value bytes isValue).2
    · rw [avoids_bind_of_error (run_lift_error (printFlowObj_of_long portId))]
      exact iff_of_false (fun fine => fine (Or.inl rfl)) fun fits => portId fits.portId
  · rw [sendFlowRequest, avoids_bind_of_error (run_lift_error (encodeFlow_of_misfit encodes))]
    exact iff_of_false (fun fine => fine (Or.inl rfl)) fun fits => encodes
      ⟨fits.localName, fits.remoteName, fun bytes isValue => (fits.value bytes isValue).1⟩

/-! ## Flow requests -/

/-- A request without memory or neighbor ends before anything is copied. -/
theorem run_flowRequest (source destination : NameInfo (Pointer String)) :
    (Rib.vFlowAllocatorFlowRequest codecs outcomes setup xAppPortId source destination).run state =
      if setup.flowMemory = true ∧ setup.faiMemory = true then
        match state.nextHop with
        | none => .ok ⟨⟩ state
        | some neighbor =>
            if setup.connectionIdMemory = true then
              (sendFlowRequest codecs outcomes setup
                (requestFlow setup xAppPortId source destination neighbor.xNeighborAddress)
                neighbor.xN1Port).run state
            else .error .nullPointer state
      else .error .nullPointer state := by
  have can : CanFind (Pointer.target remoteAddressApName) state.xNeighborsTable := trivial
  rw [Rib.vFlowAllocatorFlowRequest]
  cases setup.flowMemory with
  | false => rfl
  | true =>
      cases setup.faiMemory with
      | false => rfl
      | true =>
          simp only [Bool.not_true, Bool.false_eq_true, if_false, and_self, if_true]
          rw [run_bind_ok (run_findNeighbor can)]
          change _ = match state.nextHop with
            | none => _
            | some neighbor => _
          rw [RibState.nextHop]
          cases findRow NeighborInfo.pcApName (.target remoteAddressApName)
              state.xNeighborsTable with
          | none => rfl
          | some neighbor =>
              cases setup.connectionIdMemory with
              | false => rfl
              | true => rfl

theorem not_fromCopy_nullPointer : ¬ Fault.nullPointer.FromCopy := by
  rintro (same | same)
  · cases same
  · cases same

/-- A request that does not get that far is either reported or faults, and sends nothing. -/
theorem sendsWithin_of_not_proceeds {fits : Prop} (stops : ¬ setup.Proceeds state) :
    SendsWithin fits (Rib.vFlowAllocatorFlowRequest codecs outcomes setup xAppPortId
      (pxLocal.map .target) (pxRemote.map .target)) state := by
  have run := @run_flowRequest codecs outcomes setup xAppPortId state (pxLocal.map .target)
    (pxRemote.map .target)
  by_cases memory : setup.flowMemory = true ∧ setup.faiMemory = true
  · rw [if_pos memory] at run
    cases hop : state.nextHop with
    | none =>
        rw [hop] at run
        refine ⟨avoids_of_ok run, ?_⟩
        intro next returned _
        rw [run] at returned
        cases returned
        rfl
    | some neighbor =>
        have noMemory : ¬ setup.connectionIdMemory = true := fun connectionId =>
          stops ⟨memory.1, memory.2, connectionId, by rw [hop]; rfl⟩
        simp only [hop, if_neg noMemory] at run
        refine ⟨(avoids_iff_of_error run).mpr not_fromCopy_nullPointer, ?_⟩
        intro next returned
        rw [run] at returned
        cases returned
  · rw [if_neg memory] at run
    refine ⟨(avoids_iff_of_error run).mpr not_fromCopy_nullPointer, ?_⟩
    intro next returned
    rw [run] at returned
    cases returned

/-- A request that gets that far copies within bounds exactly when everything fits. -/
theorem avoids_iff_of_proceeds (proceeds : setup.Proceeds state) :
    Avoids Fault.FromCopy (Rib.vFlowAllocatorFlowRequest codecs outcomes setup xAppPortId
        (pxLocal.map .target) (pxRemote.map .target)) state ↔
      FlowRequestFits codecs.flow setup xAppPortId pxLocal pxRemote := by
  obtain ⟨neighbor, hop⟩ := Option.isSome_iff_exists.mp proceeds.neighbor
  have run := @run_flowRequest codecs outcomes setup xAppPortId state (pxLocal.map .target)
    (pxRemote.map .target)
  simp only [if_pos (And.intro proceeds.flow proceeds.fai), hop, if_pos proceeds.connectionId]
    at run
  rw [avoids_congr run]
  exact sendFlowRequest_avoids_iff

theorem flowRequest_sendsWithin_iff :
    SendsWithin (FlowRequestFits codecs.flow setup xAppPortId pxLocal pxRemote)
        (Rib.vFlowAllocatorFlowRequest codecs outcomes setup xAppPortId (pxLocal.map .target)
          (pxRemote.map .target)) state ↔
      (setup.Proceeds state → FlowRequestFits codecs.flow setup xAppPortId pxLocal pxRemote) := by
  by_cases proceeds : setup.Proceeds state
  · constructor
    · intro within _
      exact (avoids_iff_of_proceeds proceeds).mp within.1
    · intro fits
      exact ⟨(avoids_iff_of_proceeds proceeds).mpr (fits proceeds),
        fun _ _ misfit => absurd (fits proceeds) misfit⟩
  · exact iff_of_true (sendsWithin_of_not_proceeds proceeds) fun gets => absurd gets proceeds

end Send

/-! ## All messages -/

section All

variable (codecs : RibCodecs) (outcomes : RibOutcomes) (setup : FlowRequestSetup)
  (state : RibState) (pcNameDif pcLocalApp pcRemoteApp : Option String) (xPortId : PortId)

/-- The flow request of an application keeps within bounds. -/
def AllocationWithin : Prop :=
  ∀ names, requestNames pcNameDif pcLocalApp pcRemoteApp = some names →
    SendsWithin (FlowRequestFits codecs.flow setup xPortId names.pxLocal names.pxRemote)
      (Rib.vFlowAllocatorFlowRequest codecs outcomes setup xPortId (names.pxLocal.map .target)
        (names.pxRemote.map .target)) state

/-- What the application and the id manager pass down fits, if the request gets as far as
building its messages. -/
def AllocationFits : Prop :=
  ∀ names, requestNames pcNameDif pcLocalApp pcRemoteApp = some names → setup.Proceeds state →
    FlowRequestFits codecs.flow setup xPortId names.pxLocal names.pxRemote

/-- No message is built within its fields but those of which everything fits: flow
requests, neighbor messages and CDAP messages. -/
theorem message_copies_iff (neighbor : NeighborMessage) (obtained : Bool) (built : BuiltMessage) :
    (AllocationWithin codecs outcomes setup state pcNameDif pcLocalApp pcRemoteApp xPortId ↔
      AllocationFits codecs setup state pcNameDif pcLocalApp pcRemoteApp xPortId) ∧
    (BuildsWithin neighbor.Fits (pxSerdesMsgNeighborEncode codecs.neighbor neighbor) ↔
      neighbor.Fits) ∧
    (BuildsWithin built.message.Fits
        (prvRibdEncodeCDAP codecs.cdap obtained (some built.message)) ↔
      built.message.Fits) := by
  refine ⟨?_, neighbor_buildsWithin_iff codecs.neighbor neighbor,
    cdap_buildsWithin_iff codecs.cdap obtained built⟩
  constructor
  · intro within names requested
    exact flowRequest_sendsWithin_iff.mp (within names requested)
  · intro fits names requested
    exact flowRequest_sendsWithin_iff.mpr (fits names requested)

end All

/-- The neighbor that flow requests are sent to is known. -/
def stateWithNextHop : RibState :=
  { RibState.initial with
    xNeighborsTable :=
      [some
        { eEnrollmentState := .enrolled
          pcApName := remoteAddressApName
          xN1Port := 1
          xNeighborAddress := 3
          pcToken := .null }] }

def refusingCodecs : RibCodecs where
  cdap := .refusing
  enrollment := .refusing
  neighbor := .refusing
  aData := .refusing
  flow := .refusing

def setupWithMemory : FlowRequestSetup where
  flowMemory := true
  faiMemory := true
  connectionIdMemory := true
  encodeMemory := true
  left := requestedFlow
  flowSize := 1024
  xCepSourceId := 1

theorem setupWithMemory_proceeds : setupWithMemory.Proceeds stateWithNextHop :=
  ⟨rfl, rfl, rfl, rfl⟩

/-- A name of 21 bytes overflows its field, and so does the port id that stands for none. -/
theorem long_name_overflows :
    ¬ AllocationWithin refusingCodecs .clear setupWithMemory stateWithNextHop
        (some "slice1.DIF") (some "temperature-sensor-01") (some "st2.slice1") 1 ∧
      ¬ AllocationWithin refusingCodecs .clear setupWithMemory stateWithNextHop
        (some "slice1.DIF") (some "sensor") (some "st2.slice1") portIdWrong := by
  constructor
  · intro within
    have fits := flowRequest_sendsWithin_iff.mp (within _ rfl) setupWithMemory_proceeds
    exact absurd fits.localName (by decide)
  · intro within
    have fits := flowRequest_sendsWithin_iff.mp (within _ rfl) setupWithMemory_proceeds
    exact absurd fits.portId (by decide)

end RinaSense
