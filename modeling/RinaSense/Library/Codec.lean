import Mathlib.Data.List.Basic

/-!
# Codecs with a bounded output

An encoder that may refuse a message and a decoder that may refuse its input. The
encoder writes to a buffer of a given size and fails when the encoding is longer.
-/

universe u

/-- An encoder and a decoder for messages of type `μ`. -/
structure Codec (μ : Type u) where
  encode : μ → Option (List UInt8)
  decode : List UInt8 → Option μ

namespace Codec

variable {μ : Type u} {codec : Codec μ} {message : μ} {bytes : List UInt8} {capacity : Nat}

/-- Decoding what was encoded gives the message back. -/
def Faithful (codec : Codec μ) : Prop :=
  ∀ message bytes, codec.encode message = some bytes → codec.decode bytes = some message

/-- Encode to a buffer of `capacity` bytes. -/
def encodeWithin (codec : Codec μ) (capacity : Nat) (message : μ) : Option (List UInt8) :=
  match codec.encode message with
  | none => none
  | some bytes => if bytes.length ≤ capacity then some bytes else none

theorem encode_of_encodeWithin (encoded : codec.encodeWithin capacity message = some bytes) :
    codec.encode message = some bytes ∧ bytes.length ≤ capacity := by
  rw [encodeWithin] at encoded
  split at encoded
  · cases encoded
  · split at encoded
    · rename_i whole short
      rw [Option.some.inj encoded] at whole short
      exact ⟨whole, short⟩
    · cases encoded

theorem Faithful.decode_encodeWithin (faithful : codec.Faithful)
    (encoded : codec.encodeWithin capacity message = some bytes) :
    codec.decode bytes = some message :=
  faithful message bytes (encode_of_encodeWithin encoded).1

/-- The codec that refuses everything. -/
def refusing : Codec μ where
  encode := fun _ => none
  decode := fun _ => none

section Single

variable [DecidableEq μ]

/-- The codec that knows one message and its encoding. -/
def single (message : μ) (bytes : List UInt8) : Codec μ where
  encode := fun other => if other = message then some bytes else none
  decode := fun other => if other = bytes then some message else none

theorem single_faithful (message : μ) (bytes : List UInt8) : (single message bytes).Faithful := by
  intro other encoded equal
  simp only [single] at equal ⊢
  split at equal
  · rename_i same
    rw [← Option.some.inj equal, if_pos rfl, same]
  · cases equal

end Single

end Codec
