import RinaSense.Ipcp.State

/-!
# Pointers in structures that were not cleared

The heap hands out memory as it was left, so a field of a new structure holds
whatever the memory held until it is set. The names of an application and the
authentication policy are structures of such fields.
-/

namespace RinaSense

open Command

/-- A pointer field. A stray pointer is not `NULL` and points to nothing in use. -/
inductive Pointer (α : Type) where
  | null
  | target (value : α)
  | stray
  deriving Repr, DecidableEq

namespace Pointer

variable {α : Type}

/-- Follow the pointer. -/
def read : Pointer α → Except Fault α
  | .null => throw .nullPointer
  | .target value => pure value
  | .stray => throw .released

/-- Print what the pointer points to; `NULL` is printed as such. -/
def log : Pointer α → Except Fault Unit
  | .stray => throw .released
  | _ => pure ()

/-- Set a field if there is a value for it. -/
def setFrom (left : Pointer α) : Option α → Pointer α
  | none => left
  | some value => .target value

/-- A new field for an argument that may be `NULL`. -/
def ofOption : Option α → Pointer α := setFrom .null

@[simp] theorem read_null : (null : Pointer α).read = .error .nullPointer := rfl

@[simp] theorem read_target (value : α) : (target value).read = .ok value := rfl

@[simp] theorem read_stray : (stray : Pointer α).read = .error .released := rfl

theorem read_eq_ok {pointer : Pointer α} {value : α} :
    pointer.read = .ok value ↔ pointer = .target value := by
  cases pointer <;> simp

@[simp] theorem log_null : (null : Pointer α).log = .ok () := rfl

@[simp] theorem log_target (value : α) : (target value).log = .ok () := rfl

@[simp] theorem log_stray : (stray : Pointer α).log = .error .released := rfl

/-- The field points to a value. -/
def IsSet (pointer : Pointer α) : Prop := ∃ value, pointer = .target value

/-- What is absent is absent in the memory too that it is decoded to. -/
def Cleared (pointer left : Pointer α) : Prop := pointer = .null → left = .null

/-- The value of the field as it goes into a message: present if it is set. -/
def value? : Pointer α → Option α
  | .target value => some value
  | _ => none

end Pointer

/-- `strcpy` to a field of `size` bytes; the terminating zero needs one of them. -/
def strcpy (size : Nat) (source : Pointer String) : Except Fault String := do
  let text ← source.read
  if text.utf8ByteSize < size then return text else throw .outOfBounds

/-- Copy a string to an optional field if the pointer is not `NULL`. -/
def copyIfSet (size : Nat) : Pointer String → Except Fault (Option String)
  | .null => return none
  | source => some <$> strcpy size source

/-- The copy leads to no fault. -/
def Pointer.Fits (size : Nat) (source : Pointer String) : Prop :=
  source ≠ .stray ∧ ∀ text, source = .target text → text.utf8ByteSize < size

theorem strcpy_of_short {size : Nat} {text : String} (short : text.utf8ByteSize < size) :
    strcpy size (.target text) = .ok text := by
  rw [strcpy, Pointer.read_target, ok_bind, if_pos short]
  rfl

theorem strcpy_eq_ok {size : Nat} {source : Pointer String} (fits : source.Fits size)
    {text : String} : strcpy size source = .ok text ↔ source = .target text := by
  cases source with
  | null => simp [strcpy]
  | stray => simp [strcpy]
  | target value =>
      rw [strcpy_of_short (fits.2 value rfl)]
      simp

/-- Only a copy that fits leads to no fault. -/
theorem fits_of_copyIfSet {size : Nat} {source : Pointer String} {copied : Option String}
    (copies : copyIfSet size source = .ok copied) : source.Fits size := by
  cases source with
  | null => exact ⟨nofun, nofun⟩
  | stray => cases copies
  | target text =>
      by_cases short : text.utf8ByteSize < size
      · refine ⟨nofun, ?_⟩
        intro other equal
        rw [← Pointer.target.inj equal]
        exact short
      · have faults : strcpy size (.target text) = .error .outOfBounds := by
          rw [strcpy, Pointer.read_target, ok_bind, if_neg short]
          rfl
        rw [copyIfSet, faults] at copies
        · cases copies
        · exact nofun

theorem copyIfSet_of_fits {size : Nat} {source : Pointer String} (fits : source.Fits size) :
    copyIfSet size source = .ok source.value? := by
  cases source with
  | null => rfl
  | target text =>
      have short := fits.2 text rfl
      simp only [copyIfSet, strcpy, Pointer.read_target]
      change Except.map some (if text.utf8ByteSize < size then .ok text else .error _) = _
      rw [if_pos short]
      rfl
  | stray => exact absurd rfl fits.1

/-- `name_t`, with a field of type `α` for each component. -/
structure NameInfo (α : Type) where
  pcProcessName : α
  pcProcessInstance : α
  pcEntityName : α
  pcEntityInstance : α
  deriving Repr, DecidableEq

namespace NameInfo

variable {α β γ : Type}

def map (change : α → β) (name : NameInfo α) : NameInfo β where
  pcProcessName := change name.pcProcessName
  pcProcessInstance := change name.pcProcessInstance
  pcEntityName := change name.pcEntityName
  pcEntityInstance := change name.pcEntityInstance

def zipWith (combine : α → β → γ) (name : NameInfo α) (other : NameInfo β) : NameInfo γ where
  pcProcessName := combine name.pcProcessName other.pcProcessName
  pcProcessInstance := combine name.pcProcessInstance other.pcProcessInstance
  pcEntityName := combine name.pcEntityName other.pcEntityName
  pcEntityInstance := combine name.pcEntityInstance other.pcEntityInstance

/-- The property holds of every component. -/
structure All (property : α → Prop) (name : NameInfo α) : Prop where
  processName : property name.pcProcessName
  processInstance : property name.pcProcessInstance
  entityName : property name.pcEntityName
  entityInstance : property name.pcEntityInstance

/-- The relation holds between the components. -/
def Rel (relation : α → β → Prop) (name : NameInfo α) (other : NameInfo β) : Prop :=
  (name.zipWith relation other).All id

end NameInfo

/-- `authPolicy_t`. Its abstract syntax is not read. -/
structure AuthPolicy (α : Type) where
  pcName : α
  pcVersion : α
  deriving Repr, DecidableEq

end RinaSense
