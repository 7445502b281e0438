import Mathlib.Data.List.Basic

/-!
# Generic addresses

Protocol and hardware addresses as the shims and the address resolution use them.
-/

namespace RinaSense

/-- `MACAddress_t`. -/
structure MacAddress where
  ucBytes : Vector UInt8 6
  deriving Repr, DecidableEq

inductive GhaType where
  | macAddr8023
  | macAddr802154
  deriving Repr, DecidableEq

/-- `gha_t`. -/
structure Gha where
  xType : GhaType
  xAddress : MacAddress
  deriving Repr, DecidableEq

/-- `gpa_t`. The block of an address holds its `uxLength` bytes. -/
structure Gpa where
  pucAddress : Option (List UInt8)
  deriving Repr, DecidableEq

def Gpa.contents (gpa : Gpa) : List UInt8 := gpa.pucAddress.getD []

def Gpa.uxLength (gpa : Gpa) : Nat := (gpa.pucAddress.getD []).length

def xIsGpaOk : Option Gpa → Bool
  | some gpa => gpa.pucAddress.isSome && gpa.uxLength != 0
  | none => false

/-- The comparison of two protocol addresses by their contents. -/
def xGpaCmp (gpa1 gpa2 : Option Gpa) : Bool :=
  xIsGpaOk gpa1 && xIsGpaOk gpa2 && gpa1.bind Gpa.pucAddress == gpa2.bind Gpa.pucAddress

/-- `pxCreateGPA`, with memory for the address. -/
def pxCreateGpa (pucAddress : List UInt8) : Option Gpa :=
  if pucAddress = [] then none else some { pucAddress := some pucAddress }

/-- Every present hardware address has one of the two types. -/
def xIsGhaOk (pxGha : Option Gha) : Bool := pxGha.isSome

/-- `pxCreateGHA`, given whether there is memory. -/
def pxCreateGha (memory : Bool) (xType : GhaType) (xAddress : MacAddress) : Option Gha :=
  if memory then some { xType, xAddress } else none

def MacAddress.toBytes (address : MacAddress) : List UInt8 := address.ucBytes.toList

@[simp] theorem MacAddress.toBytes_length (address : MacAddress) : address.toBytes.length = 6 :=
  address.ucBytes.length_toList

end RinaSense
