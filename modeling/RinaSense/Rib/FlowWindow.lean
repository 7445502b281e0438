import RinaSense.Rib.CdapRoundTrip
import RinaSense.Rib.FlowRoundTrip

/-!
# The block of an encoded flow

`pxSerdesMsgFlowEncode` takes one block for a `serObjectValue_t` and the encoding behind it.
What it hands to the encoder is a window of that block, and what it returns refers to it.
-/

namespace RinaSense

open Command

/-- The two ports. -/
inductive Target where
  | esp32
  | linux
  deriving Repr, DecidableEq

/-- Bytes of a pointer and of a `size_t`. -/
def Target.wordSize : Target → Nat
  | .esp32 => 4
  | .linux => 8

/-- `sizeof(serObjectValue_t)`, a pointer and a length. -/
def Target.serObjectValueSize (target : Target) : Nat := target.wordSize + target.wordSize

/-- `serObjectValue_t`, its pointer counted from the start of the block. -/
structure SerObjectValue where
  pvSerBuffer : Nat
  xSerLength : Nat
  deriving Repr, DecidableEq

/-- The buffer of a stream: where it begins in the block and how much may be written. -/
structure OutputWindow where
  start : Nat
  capacity : Nat
  deriving Repr, DecidableEq

/-- The block that was obtained and the window of it that was handed to the encoder. -/
structure FlowBlock where
  block : Option (List UInt8)
  window : Option OutputWindow
  deriving Repr, DecidableEq

namespace FlowBlock

/-- Nothing obtained and nothing handed over. -/
def start : FlowBlock := ⟨none, none⟩

/-- The encoder writes to its window. -/
def write (window : OutputWindow) (bytes : List UInt8) : EStateM Fault FlowBlock Unit := do
  match (← get).block with
  | none => throw .nullPointer
  | some block =>
      if window.start + bytes.length ≤ block.length then
        modify fun state =>
          { state with
            block := some (block.take window.start ++ bytes ++
              block.drop (window.start + bytes.length)) }
      else throw .outOfBounds

/-- What the encoder may write to. The addition to the pointer is one of whole structures. -/
def flowWindow (target : Target) (flowSize : Nat) : OutputWindow where
  start := target.serObjectValueSize * target.serObjectValueSize
  capacity := flowSize

/-- The memory is the block that is obtained, if one is. -/
def pxSerdesMsgFlowEncode (target : Target) (codec : Codec FlowMessage) (flowSize : Nat)
    (memory : Option (Vector UInt8 (flowSize + target.serObjectValueSize))) (pxMsg : Flow) :
    EStateM Fault FlowBlock (Option SerObjectValue) := do
  let message ← fillFlowMessage pxMsg
  match memory with
  | none => return none
  | some block =>
      let window := flowWindow target flowSize
      set { block := some block.toList, window := some window : FlowBlock }
      match codec.encodeWithin window.capacity message with
      | none => return none
      | some bytes =>
          write window bytes
          return some { pvSerBuffer := window.start, xSerLength := bytes.length }

end FlowBlock

/-- The bytes a value refers to in its block. -/
def SerObjectValue.read (value : SerObjectValue) (block : List UInt8) :
    Except Fault (List UInt8) :=
  if value.pvSerBuffer + value.xSerLength ≤ block.length then
    .ok ((block.drop value.pvSerBuffer).take value.xSerLength)
  else .error .outOfBounds

/-! ## Purpose -/

namespace FlowBlock

/-- The window lies in the block, behind the structure at its start. -/
def Inside (target : Target) (flowSize : Nat) (window : OutputWindow) : Prop :=
  target.serObjectValueSize ≤ window.start ∧
    window.start + window.capacity ≤ flowSize + target.serObjectValueSize

/-- The window handed over is one inside the block, what is returned refers to the encoding,
and as an object value it is copied as it is, whatever else the message holds. -/
structure EncodesInside (target : Target) (codec : Codec FlowMessage) (flowSize : Nat)
    (memory : Option (Vector UInt8 (flowSize + target.serObjectValueSize))) (flow : Flow) :
    Prop where
  window : ∀ window,
    (final ((pxSerdesMsgFlowEncode target codec flowSize memory flow).run start)).window =
      some window → Inside target flowSize window
  object : ∀ value next,
    (pxSerdesMsgFlowEncode target codec flowSize memory flow).run start = .ok (some value) next →
      ∃ block message bytes, next.block = some block ∧ fillFlowMessage flow = .ok message ∧
        codec.encode message = some bytes ∧ value.read block = .ok bytes
  consumer : ∀ value next block bytes,
    (pxSerdesMsgFlowEncode target codec flowSize memory flow).run start = .ok (some value) next →
      next.block = some block → value.read block = .ok bytes →
        copyObjectValue (.target bytes) = .ok (some (some bytes)) ∧
          ∀ (message : MessageCdap) filled,
            fillCdapMessage { message with pxObjValue := .target bytes } = .ok filled →
              filled.objValue = some (some bytes)

end FlowBlock

/-- Everything of the flow that is copied is there, and its strings fit their fields. -/
structure Flow.Encodable (flow : Flow) : Prop where
  source : ∃ name text, flow.pxSourceInfo = .target name ∧ name.pcProcessName = .target text ∧
    text.utf8ByteSize < flowTextSize
  destination : ∃ name text, flow.pxDestInfo = .target name ∧
    name.pcProcessName = .target text ∧ text.utf8ByteSize < flowTextSize
  connectionId : flow.pxConnectionId.IsSet
  qosSpec : ∃ qosSpec name, flow.pxQosSpec = .target qosSpec ∧ qosSpec.pxFlowSpec.IsSet ∧
    qosSpec.pcQosName = .target name ∧ name.utf8ByteSize < flowTextSize
  dtpConfig : ∃ dtpConfig policySet name version, flow.pxDtpConfig = .target dtpConfig ∧
    dtpConfig.pxDtpPolicySet = .target policySet ∧
    (policySet.pcPolicyName = .target name ∧ name.utf8ByteSize < flowTextSize) ∧
    policySet.pcPolicyVersion = .target version ∧ version.utf8ByteSize < flowTextSize

/-! ## Filling the message -/

theorem strcpy_eq_ok_iff {size : Nat} {source : Pointer String} {text : String} :
    strcpy size source = .ok text ↔ source = .target text ∧ text.utf8ByteSize < size := by
  rw [strcpy, bind_eq_ok]
  simp only [Pointer.read_eq_ok]
  constructor
  · rintro ⟨found, isTarget, copied⟩
    split at copied
    · next short =>
        cases copied
        exact ⟨isTarget, short⟩
    · cases copied
  · rintro ⟨isTarget, short⟩
    exact ⟨text, isTarget, if_pos short⟩

theorem fillFlowMessage_isOk_iff {flow : Flow} :
    (∃ message, fillFlowMessage flow = .ok message) ↔ flow.Encodable := by
  simp only [fillFlowMessage, copyProcessName, fillQosParameters, fillDtpConfig, bind_eq_ok,
    Pointer.read_eq_ok, strcpy_eq_ok_iff]
  constructor
  · rintro ⟨_, _, ⟨source, hasSource, sourceText⟩, _, ⟨dest, hasDest, destText⟩, id, hasId,
      _, ⟨qosSpec, hasQos, qosName, qosText, flowSpec, hasSpec, _⟩,
      _, ⟨dtp, hasDtp, policy, hasPolicy, name, nameText, version, versionText, _⟩, _⟩
    exact
      { source := ⟨source, _, hasSource, sourceText⟩
        destination := ⟨dest, _, hasDest, destText⟩
        connectionId := ⟨id, hasId⟩
        qosSpec := ⟨qosSpec, qosName, hasQos, ⟨flowSpec, hasSpec⟩, qosText⟩
        dtpConfig := ⟨dtp, policy, name, version, hasDtp, hasPolicy, nameText, versionText⟩ }
  · intro encodable
    obtain ⟨source, sourceName, hasSource, sourceText⟩ := encodable.source
    obtain ⟨dest, destName, hasDest, destText⟩ := encodable.destination
    obtain ⟨id, hasId⟩ := encodable.connectionId
    obtain ⟨qosSpec, qosName, hasQos, ⟨flowSpec, hasSpec⟩, qosText⟩ := encodable.qosSpec
    obtain ⟨dtp, policy, name, version, hasDtp, hasPolicy, nameText, versionText⟩ :=
      encodable.dtpConfig
    exact ⟨_, sourceName, ⟨source, hasSource, sourceText⟩, destName, ⟨dest, hasDest, destText⟩,
      id, hasId, _, ⟨qosSpec, hasQos, qosName, qosText, flowSpec, hasSpec, rfl⟩,
      _, ⟨dtp, hasDtp, policy, hasPolicy, name, nameText, version, versionText, rfl⟩, rfl⟩

/-! ## The window -/

namespace FlowBlock

variable {target : Target} {codec : Codec FlowMessage} {flowSize : Nat} {flow : Flow}
  {memory : Option (Vector UInt8 (flowSize + target.serObjectValueSize))} {message : FlowMessage}

/-- The addition scales, so the buffer begins behind where a window of its capacity could. -/
theorem not_inside_scaled (target : Target) (flowSize : Nat) :
    ¬ Inside target flowSize (flowWindow target flowSize) := by
  intro inside
  have room : target.serObjectValueSize * target.serObjectValueSize + flowSize ≤
      flowSize + target.serObjectValueSize := inside.2
  rw [Nat.add_comm] at room
  have small : target.serObjectValueSize * target.serObjectValueSize ≤
      target.serObjectValueSize := Nat.le_of_add_le_add_left room
  cases target with
  | esp32 => exact absurd small (by decide)
  | linux => exact absurd small (by decide)

/-- Nothing is handed over where the flow is not read to its end. -/
theorem run_encode_of_unreadable {fault : Fault}
    (unreadable : fillFlowMessage flow = .error fault) :
    (pxSerdesMsgFlowEncode target codec flowSize memory flow).run start = .error fault start :=
  run_bind_error (run_lift_error unreadable) _

theorem run_encode_refused (filled : fillFlowMessage flow = .ok message) :
    (pxSerdesMsgFlowEncode target codec flowSize none flow).run start = .ok none start :=
  run_bind_ok (run_lift_ok filled) _

/-- The block after a write to a window. -/
def written (block : List UInt8) (window : OutputWindow) (bytes : List UInt8) : List UInt8 :=
  block.take window.start ++ bytes ++ block.drop (window.start + bytes.length)

section Write

variable {block bytes : List UInt8} {window : OutputWindow} {handed : Option OutputWindow}

theorem run_write (inside : window.start + bytes.length ≤ block.length) :
    (write window bytes).run ⟨some block, handed⟩ =
      .ok () ⟨some (written block window bytes), handed⟩ := by
  rw [write, run_bind_ok (EStateM.run_get _)]
  exact congrArg (EStateM.run · _) (if_pos inside)

theorem run_write_outside (outside : ¬ window.start + bytes.length ≤ block.length) :
    (write window bytes).run ⟨some block, handed⟩ = .error .outOfBounds ⟨some block, handed⟩ := by
  rw [write, run_bind_ok (EStateM.run_get _)]
  exact congrArg (EStateM.run · _) (if_neg outside)

/-- What was written is found where the window begins. -/
theorem read_written (inside : window.start + bytes.length ≤ block.length) :
    SerObjectValue.read ⟨window.start, bytes.length⟩ (written block window bytes) = .ok bytes := by
  have start : (block.take window.start).length = window.start :=
    List.length_take_of_le (Nat.le_of_add_right_le inside)
  have room : window.start + bytes.length ≤ (written block window bytes).length := by
    rw [written, List.length_append, List.length_append, start]
    exact Nat.le_add_right _ _
  rw [SerObjectValue.read, if_pos room, written, List.append_assoc, List.drop_left' start,
    List.take_left]

end Write

/-- The run once the block was obtained. -/
theorem run_encode_granted (filled : fillFlowMessage flow = .ok message)
    (block : Vector UInt8 (flowSize + target.serObjectValueSize)) :
    (pxSerdesMsgFlowEncode target codec flowSize (some block) flow).run start =
      let window := flowWindow target flowSize
      match codec.encodeWithin flowSize message with
      | none => .ok none ⟨some block.toList, some window⟩
      | some bytes =>
          if window.start + bytes.length ≤ block.toList.length then
            .ok (some ⟨window.start, bytes.length⟩)
              ⟨some (written block.toList window bytes), some window⟩
          else .error .outOfBounds ⟨some block.toList, some window⟩ := by
  rw [pxSerdesMsgFlowEncode, run_bind_ok (run_lift_ok filled)]
  simp only
  rw [run_bind_ok (EStateM.run_set _ start)]
  cases encoded : codec.encodeWithin flowSize message with
  | none =>
      have refused : codec.encodeWithin (flowWindow target flowSize).capacity message = none :=
        encoded
      rw [refused]
      rfl
  | some bytes =>
      have given : codec.encodeWithin (flowWindow target flowSize).capacity message = some bytes :=
        encoded
      rw [given]
      dsimp only
      by_cases inside : (flowWindow target flowSize).start + bytes.length ≤ block.toList.length
      · rw [if_pos inside]
        exact run_bind_ok (run_write inside) _
      · rw [if_neg inside]
        exact run_bind_error (run_write_outside inside) _

/-- Whatever the encoder makes of it, it was given the window. -/
theorem window_of_granted (filled : fillFlowMessage flow = .ok message)
    (block : Vector UInt8 (flowSize + target.serObjectValueSize)) :
    (final ((pxSerdesMsgFlowEncode target codec flowSize (some block) flow).run start)).window =
      some (flowWindow target flowSize) := by
  rw [run_encode_granted filled]
  cases codec.encodeWithin flowSize message with
  | none => rfl
  | some bytes =>
      simp only
      split
      · rfl
      · rfl

/-- What is returned refers to the encoding, though its window lies elsewhere. -/
theorem returned_refers {value : SerObjectValue} {next : FlowBlock}
    (returned : (pxSerdesMsgFlowEncode target codec flowSize memory flow).run start =
      .ok (some value) next) :
    ∃ block message bytes, next.block = some block ∧ fillFlowMessage flow = .ok message ∧
      codec.encode message = some bytes ∧ value.read block = .ok bytes := by
  cases filled : fillFlowMessage flow with
  | error fault =>
      rw [run_encode_of_unreadable filled] at returned
      cases returned
  | ok message =>
      cases memory with
      | none =>
          rw [run_encode_refused filled] at returned
          cases returned
      | some block =>
          rw [run_encode_granted filled] at returned
          cases encoded : codec.encodeWithin flowSize message with
          | none =>
              rw [encoded] at returned
              cases returned
          | some bytes =>
              simp only [encoded] at returned
              split at returned
              · next inside =>
                  cases returned
                  exact ⟨_, message, bytes, rfl, rfl, (Codec.encode_of_encodeWithin encoded).1,
                    read_written inside⟩
              · cases returned

/-- The bytes a result refers to. -/
def contents :
    EStateM.Result Fault FlowBlock (Option SerObjectValue) → Except Fault (Option (List UInt8))
  | .error fault _ => .error fault
  | .ok none _ => .ok none
  | .ok (some value) next =>
      match next.block with
      | none => .error .nullPointer
      | some block => some <$> value.read block

/-- On the target of 32 bits the bytes that result are those of the model without a block. -/
theorem contents_encode (codec : Codec FlowMessage) (flowSize : Nat)
    (memory : Option (Vector UInt8 (flowSize + Target.esp32.serObjectValueSize))) (flow : Flow) :
    contents ((pxSerdesMsgFlowEncode .esp32 codec flowSize memory flow).run start) =
      RinaSense.pxSerdesMsgFlowEncode codec flowSize memory.isSome (some flow) := by
  cases filled : fillFlowMessage flow with
  | error fault =>
      rw [run_encode_of_unreadable filled, RinaSense.pxSerdesMsgFlowEncode, filled]
      rfl
  | ok message =>
      rw [pxSerdesMsgFlowEncode_of_filled filled]
      cases memory with
      | none =>
          rw [run_encode_refused filled]
          rfl
      | some block =>
          rw [run_encode_granted filled]
          cases codec.encodeWithin flowSize message with
          | none => rfl
          | some bytes =>
              have bound : (flowWindow .esp32 flowSize).start + bytes.length ≤
                  block.toList.length ↔
                    flowBufferOffset + bytes.length ≤ flowSize + serObjectValueSize := by
                rw [Vector.length_toList]
                rfl
              by_cases inside : flowBufferOffset + bytes.length ≤ flowSize + serObjectValueSize
              · simp only [inside, bound.mpr inside, if_true, Option.isSome_some]
                exact congrArg (some <$> ·) (read_written (bound.mpr inside))
              · simp only [inside, mt bound.mp inside, if_false, if_true, Option.isSome_some]
                rfl

/-- What is handed to the encoder lies in the block, and what it wrote is what the consumer
finds and copies, if and only if nothing is handed to it. -/
theorem flow_window_iff (target : Target) (codec : Codec FlowMessage) (flowSize : Nat)
    (memory : Option (Vector UInt8 (flowSize + target.serObjectValueSize))) (flow : Flow) :
    EncodesInside target codec flowSize memory flow ↔ memory = none ∨ ¬ flow.Encodable := by
  rw [← fillFlowMessage_isOk_iff]
  constructor
  · intro encodes
    cases memory with
    | none => exact Or.inl rfl
    | some block =>
        refine Or.inr ?_
        intro ⟨message, filled⟩
        exact not_inside_scaled target flowSize (encodes.window _ (window_of_granted filled block))
  · intro nothing
    have still : ∃ result, (pxSerdesMsgFlowEncode target codec flowSize memory flow).run start =
        result ∧ (final result).window = none ∧ ∀ value next, result ≠ .ok (some value) next := by
      cases filled : fillFlowMessage flow with
      | error fault => exact ⟨_, run_encode_of_unreadable filled, rfl, nofun⟩
      | ok message =>
          obtain refused | unreadable := nothing
          · subst refused
            exact ⟨_, run_encode_refused filled, rfl, nofun⟩
          · exact absurd ⟨message, filled⟩ unreadable
    obtain ⟨result, run, noWindow, noValue⟩ := still
    constructor
    · intro window handed
      rw [run, noWindow] at handed
      cases handed
    · exact fun value next returned => returned_refers returned
    · intro value next _ _ returned
      exact absurd (run.symm.trans returned) (noValue value next)

theorem requestedFlow_encodable : requestedFlow.Encodable where
  source := ⟨_, _, rfl, rfl, by decide⟩
  destination := ⟨_, _, rfl, rfl, by decide⟩
  connectionId := ⟨_, rfl⟩
  qosSpec := ⟨_, _, rfl, ⟨_, rfl⟩, rfl, by decide⟩
  dtpConfig := ⟨_, _, _, _, rfl, rfl, ⟨rfl, by decide⟩, rfl, by decide⟩

/-- With 256 bytes for the encoding the block has 264 bytes and the window ends 56 behind it. -/
theorem granted_window_outside :
    flowWindow .esp32 256 = ⟨64, 256⟩ ∧ 256 + Target.esp32.serObjectValueSize = 264 ∧
      ¬ EncodesInside .esp32 Codec.refusing 256 (some (Vector.replicate _ 0)) requestedFlow := by
  refine ⟨rfl, rfl, ?_⟩
  intro encodes
  obtain ⟨message, filled⟩ := fillFlowMessage_isOk_iff.mpr requestedFlow_encodable
  exact not_inside_scaled .esp32 256 (encodes.window _ (window_of_granted filled _))

end FlowBlock

end RinaSense
