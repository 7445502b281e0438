import Mathlib.Data.List.TakeWhile
import Mathlib.Data.UInt
import RinaSense.Nanopb.Integers

/-!
# Messages and their descriptors

The descriptor of a message lists its fields in the order of their tags, as the field lists of
the generated headers do. A structure of the message has a slot for each field, whose type follows
from the descriptor. The functions of callback fields are not set in this program, so that these
fields hold nothing. Extensions, pointers, unions and arrays of a fixed count are not used.
-/

namespace RinaSense

/-- The types of fields that are not messages. Bytes and strings have a `data_size`; an unsigned
enumeration is a `uint32`, a double is a `fixed64`. -/
inductive PbLtype where
  | bool
  | int32
  | int64
  | uint32
  | uint64
  | sint32
  | sint64
  | fixed32
  | fixed64
  | bytes (dataSize : Nat)
  | string (dataSize : Nat)
  deriving Repr, DecidableEq

/-- How often a field is there. -/
inductive PbHtype where
  | required
  | optional
  | repeated (arraySize : Nat)
  deriving Repr, DecidableEq

/-- The text of a `char` array up to its terminator. -/
abbrev CString := { text : List UInt8 // 0 ∉ text }

theorem not_mem_takeWhile (bytes : List UInt8) : 0 ∉ bytes.takeWhile (· != 0) := by
  intro found
  have text := List.all_eq_true.mp List.all_takeWhile 0 found
  exact absurd text (by decide)

/-- What an array holds as a text after the bytes and a terminator were put in it. -/
def CString.ofBytes (bytes : List UInt8) : CString :=
  ⟨bytes.takeWhile (· != 0), not_mem_takeWhile bytes⟩

theorem CString.ofBytes_text (text : CString) : CString.ofBytes text.val = text := by
  apply Subtype.ext
  refine List.takeWhile_eq_self_iff.mpr fun byte member => ?_
  rw [bne_iff_ne]
  rintro rfl
  exact text.property member

/-- `pb_msgdesc_t`, a field after the other. -/
inductive PbMsgdesc where
  | nil
  | field (tag : UInt16) (htype : PbHtype) (ltype : PbLtype) (rest : PbMsgdesc)
  | submessage (tag : UInt16) (htype : PbHtype) (submsgDesc rest : PbMsgdesc)
  | callback (tag : UInt16) (rest : PbMsgdesc)
  deriving Repr, DecidableEq

/-! ## Structures -/

/-- What the structure holds of a field. -/
abbrev PbLtype.Data : PbLtype → Type
  | .bool => Bool
  | .int32 => Int32
  | .int64 => Int64
  | .uint32 => UInt32
  | .uint64 => UInt64
  | .sint32 => Int32
  | .sint64 => Int64
  | .fixed32 => UInt32
  | .fixed64 => UInt64
  | .bytes _ => List UInt8
  | .string _ => CString

/-- The data of a field with its `has` flag or its count. -/
abbrev PbHtype.Slot (htype : PbHtype) (α : Type) : Type :=
  match htype with
  | .required => α
  | .optional => Option α
  | .repeated _ => List α

/-- The structure of a message. -/
def PbMsgdesc.Struct : PbMsgdesc → Type
  | .nil => Unit
  | .field _ htype ltype rest => htype.Slot ltype.Data × rest.Struct
  | .submessage _ htype submsgDesc rest => htype.Slot submsgDesc.Struct × rest.Struct
  | .callback _ rest => rest.Struct

/-- The data of a field that was set to zeros. -/
def PbLtype.zero : (ltype : PbLtype) → ltype.Data
  | .bool => false
  | .int32 => 0
  | .int64 => 0
  | .uint32 => 0
  | .uint64 => 0
  | .sint32 => 0
  | .sint64 => 0
  | .fixed32 => 0
  | .fixed64 => 0
  | .bytes _ => []
  | .string _ => ⟨[], List.not_mem_nil⟩

/-- A slot without an optional value or with no elements. -/
def PbHtype.unset {α : Type} (zero : α) : (htype : PbHtype) → htype.Slot α
  | .required => zero
  | .optional => none
  | .repeated _ => []

/-- `pb_message_set_to_defaults`. The defaults of the only descriptor that has some are zeros. -/
def pbMessageSetToDefaults : (fields : PbMsgdesc) → fields.Struct
  | .nil => ⟨⟩
  | .field _ htype ltype rest => (htype.unset ltype.zero, pbMessageSetToDefaults rest)
  | .submessage _ htype submsgDesc rest =>
      (htype.unset (pbMessageSetToDefaults submsgDesc), pbMessageSetToDefaults rest)
  | .callback _ rest => pbMessageSetToDefaults rest

/-! ## Descriptors -/

/-- A size is a `pb_size_t` and leaves a place for the length of bytes or the terminator of a
string. -/
def PbLtype.Sized : PbLtype → Prop
  | .bytes dataSize => 2 ≤ dataSize ∧ dataSize < 2 ^ 16
  | .string dataSize => 0 < dataSize ∧ dataSize < 2 ^ 16
  | _ => True

instance decidableSized : (ltype : PbLtype) → Decidable ltype.Sized
  | .bytes _ => inferInstanceAs (Decidable (_ ∧ _))
  | .string _ => inferInstanceAs (Decidable (_ ∧ _))
  | .bool => isTrue trivial
  | .int32 => isTrue trivial
  | .int64 => isTrue trivial
  | .uint32 => isTrue trivial
  | .uint64 => isTrue trivial
  | .sint32 => isTrue trivial
  | .sint64 => isTrue trivial
  | .fixed32 => isTrue trivial
  | .fixed64 => isTrue trivial

namespace PbMsgdesc

def tags : PbMsgdesc → List UInt16
  | .nil => []
  | .field tag _ _ rest => tag :: rest.tags
  | .submessage tag _ _ rest => tag :: rest.tags
  | .callback tag rest => tag :: rest.tags

/-- The tags of the fields that have to be there. -/
def requiredTags : PbMsgdesc → List UInt16
  | .nil => []
  | .field tag htype _ rest =>
      if htype = .required then tag :: rest.requiredTags else rest.requiredTags
  | .submessage tag htype _ rest =>
      if htype = .required then tag :: rest.requiredTags else rest.requiredTags
  | .callback _ rest => rest.requiredTags

/-- A tag that is not 0 and comes before the others. -/
def Leads (tag : UInt16) (rest : PbMsgdesc) : Prop := 0 < tag ∧ ∀ other ∈ rest.tags, tag < other

instance decidableLeads (tag : UInt16) (rest : PbMsgdesc) : Decidable (Leads tag rest) :=
  have := List.decidableBAll (fun other => tag < other) rest.tags
  inferInstanceAs (Decidable (_ ∧ _))

/-- The tags of a generated descriptor are in order, and its strings and bytes have a place for
their terminator or length. So is every descriptor of a submessage. -/
def WellFormed : PbMsgdesc → Prop
  | .nil => True
  | .field tag _ ltype rest => Leads tag rest ∧ ltype.Sized ∧ rest.WellFormed
  | .submessage tag _ submsgDesc rest => Leads tag rest ∧ submsgDesc.WellFormed ∧ rest.WellFormed
  | .callback tag rest => Leads tag rest ∧ rest.WellFormed

instance decidableWellFormed : (fields : PbMsgdesc) → Decidable fields.WellFormed
  | .nil => isTrue trivial
  | .field _ _ _ rest =>
      have := decidableWellFormed rest
      inferInstanceAs (Decidable (_ ∧ _ ∧ _))
  | .submessage _ _ submsgDesc rest =>
      have := decidableWellFormed rest
      have := decidableWellFormed submsgDesc
      inferInstanceAs (Decidable (_ ∧ _ ∧ _))
  | .callback _ rest =>
      have := decidableWellFormed rest
      inferInstanceAs (Decidable (_ ∧ _))

end PbMsgdesc

end RinaSense
