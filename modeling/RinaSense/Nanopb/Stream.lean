import RinaSense.Library.Command
import RinaSense.Library.LittleEndian

/-!
# Streams of the protocol buffers

The output and input streams of `pb_encode.c` and `pb_decode.c` over a buffer. An output stream
without a buffer counts what would be written. Sizes are natural numbers: a message whose size
exceeds the address space is not built.
-/

namespace RinaSense

open Command

/-- The errors of the encoder and the decoder. -/
inductive PbError where
  | streamFull
  | arrayMaxSizeExceeded
  | bytesSizeExceeded
  | zeroLengthString
  | unterminatedString
  | submsgSizeChanged
  | endOfStream
  | varintOverflow
  | invalidWireType
  | parentStreamTooShort
  | wrongWireType
  | arrayOverflow
  | zeroTag
  | missingRequiredField
  | integerTooLarge
  | bytesOverflow1
  | bytesOverflow
  | sizeTooLarge
  | stringOverflow
  deriving Repr, DecidableEq

/-- The text of an error in `errmsg`. -/
def PbError.errmsg : PbError → String
  | .streamFull => "stream full"
  | .arrayMaxSizeExceeded => "array max size exceeded"
  | .bytesSizeExceeded => "bytes size exceeded"
  | .zeroLengthString => "zero-length string"
  | .unterminatedString => "unterminated string"
  | .submsgSizeChanged => "submsg size changed"
  | .endOfStream => "end-of-stream"
  | .varintOverflow => "varint overflow"
  | .invalidWireType => "invalid wire_type"
  | .parentStreamTooShort => "parent stream too short"
  | .wrongWireType => "wrong wire type"
  | .arrayOverflow => "array overflow"
  | .zeroTag => "zero tag"
  | .missingRequiredField => "missing required field"
  | .integerTooLarge => "integer too large"
  | .bytesOverflow1 => "bytes overflow1"
  | .bytesOverflow => "bytes overflow"
  | .sizeTooLarge => "size too large"
  | .stringOverflow => "string overflow"

/-- The text tells which check failed. -/
theorem PbError.errmsg_injective : Function.Injective PbError.errmsg := by
  intro error other same
  cases error <;> cases other <;> first | rfl | exact absurd same (by decide)

/-! ## Output -/

/-- `pb_ostream_t`: a stream without a callback only counts. -/
structure PbOstream where
  callback : Bool
  state : List UInt8
  maxSize : Nat
  bytesWritten : Nat
  deriving Repr, DecidableEq

/-- `PB_OSTREAM_SIZING`. -/
def PbOstream.sizing : PbOstream where
  callback := false
  state := []
  maxSize := 0
  bytesWritten := 0

def pbOstreamFromBuffer (bufsize : Nat) : PbOstream where
  callback := true
  state := []
  maxSize := bufsize
  bytesWritten := 0

/-- What writes to a stream. -/
abbrev Encoder (α : Type) := EStateM PbError PbOstream α

/-- `pb_write` of the bytes of a buffer. -/
def pbWrite (buf : List UInt8) : Encoder Unit := do
  let stream ← get
  if 0 < buf.length ∧ stream.callback = true then
    if stream.maxSize < stream.bytesWritten + buf.length then throw .streamFull
    set { stream with
      state := stream.state ++ buf
      bytesWritten := stream.bytesWritten + buf.length }
  else
    set { stream with bytesWritten := stream.bytesWritten + buf.length }

/-- `pb_write` without a buffer, on a stream that only counts. -/
def pbWriteSize (count : Nat) : Encoder Unit :=
  modify fun stream => { stream with bytesWritten := stream.bytesWritten + count }

namespace PbOstream

/-- The stream after the bytes. -/
def after (stream : PbOstream) (bytes : List UInt8) : PbOstream where
  callback := stream.callback
  state := if stream.callback then stream.state ++ bytes else stream.state
  maxSize := stream.maxSize
  bytesWritten := stream.bytesWritten + bytes.length

/-- There is room for so many bytes, or none is needed. -/
def Room (stream : PbOstream) (count : Nat) : Prop :=
  stream.callback = true → stream.bytesWritten + count ≤ stream.maxSize

/-- A stream to a buffer has not written more than fits. -/
def Bounded (stream : PbOstream) : Prop := stream.Room 0

instance decidableRoom (stream : PbOstream) (count : Nat) : Decidable (stream.Room count) :=
  inferInstanceAs (Decidable (_ → _))

@[simp] theorem after_nil (stream : PbOstream) : stream.after [] = stream := by
  rw [after, List.append_nil, ite_self, List.length_nil, Nat.add_zero]

@[simp] theorem after_append (stream : PbOstream) (first second : List UInt8) :
    (stream.after first).after second = stream.after (first ++ second) := by
  simp only [after, List.length_append, Nat.add_assoc, mk.injEq, true_and, and_true]
  split
  · exact List.append_assoc _ _ _
  · rfl

@[simp] theorem after_callback (stream : PbOstream) (bytes : List UInt8) :
    (stream.after bytes).callback = stream.callback := rfl

theorem room_sizing (count : Nat) : sizing.Room count := by rintro ⟨⟩

theorem bounded_sizing : sizing.Bounded := room_sizing 0

theorem bounded_fromBuffer (bufsize : Nat) : (pbOstreamFromBuffer bufsize).Bounded :=
  fun _ => Nat.zero_le bufsize

theorem Room.mono {stream : PbOstream} {less count : Nat} (room : stream.Room count)
    (le : less ≤ count) : stream.Room less :=
  fun buffer => Nat.le_trans (Nat.add_le_add_left le _) (room buffer)

theorem room_after {stream : PbOstream} {bytes : List UInt8} {count : Nat} :
    (stream.after bytes).Room count ↔ stream.Room (bytes.length + count) := by
  simp only [Room, after, Nat.add_assoc]

end PbOstream

/-- The bytes are written if there is room. -/
theorem run_pbWrite {stream : PbOstream} {buf : List UInt8} (room : stream.Room buf.length) :
    (pbWrite buf).run stream = .ok ⟨⟩ (stream.after buf) := by
  change (if 0 < buf.length ∧ stream.callback = true then _ else _ : Encoder Unit).run stream = _
  cases callback : stream.callback with
  | false =>
      rw [if_neg (by rintro ⟨-, ⟨⟩⟩)]
      simp only [PbOstream.after, callback]
      rfl
  | true =>
      have fits := room callback
      cases buf with
      | nil =>
          rw [if_neg (by rintro ⟨⟨⟩, -⟩), PbOstream.after_nil, List.length_nil, Nat.add_zero,
            ← callback]
          rfl
      | cons byte bytes =>
          rw [if_pos ⟨Nat.succ_pos _, rfl⟩, if_neg (Nat.not_lt.mpr fits)]
          simp only [PbOstream.after, callback]
          rfl

/-- Without room nothing is written. -/
theorem run_pbWrite_full {stream : PbOstream} {buf : List UInt8} (bounded : stream.Bounded)
    (full : ¬ stream.Room buf.length) : (pbWrite buf).run stream = .error .streamFull stream := by
  rw [PbOstream.Room, Classical.not_imp, Nat.not_le] at full
  have present : 0 < buf.length := by
    have bound := bounded full.1
    have longer := full.2
    omega
  change (if 0 < buf.length ∧ stream.callback = true then _ else _ : Encoder Unit).run stream = _
  rw [if_pos ⟨present, full.1⟩, if_pos full.2]
  rfl

/-! ## Input -/

/-- What reads from a stream, whose state is the bytes that are left. -/
abbrev Decoder (α : Type) := EStateM PbError (List UInt8) α

/-- A loop over the bytes that are left. -/
def overBytes {α : Type} (loop : List UInt8 → EStateM.Result PbError (List UInt8) α) :
    Decoder α := loop

@[simp] theorem run_overBytes {α : Type}
    (loop : List UInt8 → EStateM.Result PbError (List UInt8) α) (bytes : List UInt8) :
    (overBytes loop).run bytes = loop bytes := rfl

def pbReadbyte : Decoder UInt8 := do
  match ← get with
  | [] => throw .endOfStream
  | byte :: bytes =>
      set bytes
      return byte

def pbRead (count : Nat) : Decoder (List UInt8) := do
  let bytes ← get
  if bytes.length < count then throw .endOfStream
  set (bytes.drop count)
  return bytes.take count

theorem run_pbRead (bytes rest : List UInt8) :
    (pbRead bytes.length).run (bytes ++ rest) = .ok bytes rest := by
  change (if (bytes ++ rest).length < bytes.length then _ else _ : Decoder (List UInt8)).run _ = _
  rw [if_neg (by rw [List.length_append]; exact Nat.not_lt.mpr (Nat.le_add_right _ _))]
  change EStateM.Result.ok ((bytes ++ rest).take bytes.length)
    ((bytes ++ rest).drop bytes.length) = _
  rw [List.take_left, List.drop_left]

theorem run_pbRead_eq_ok {count : Nat} {stream bytes rest : List UInt8} :
    (pbRead count).run stream = .ok bytes rest ↔ stream = bytes ++ rest ∧ bytes.length = count := by
  constructor
  · intro run
    change (if stream.length < count then _ else _ : Decoder (List UInt8)).run _ = _ at run
    split at run
    · cases run
    · rename_i long
      cases run
      rw [List.take_append_drop, List.length_take]
      exact ⟨rfl, Nat.min_eq_left (Nat.le_of_not_lt long)⟩
  · rintro ⟨rfl, rfl⟩
    exact run_pbRead bytes rest

end RinaSense
