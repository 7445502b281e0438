import Mathlib.Logic.Basic

/-!
# Identifiers

The integer types of `common/rina_ids.h` and their reserved values. Each
identifier type reserves the value written `(type)-1` in the source, which is
the all-ones value of its width.
-/

namespace RinaSense

abbrev PortId := UInt32
abbrev SeqNum := UInt32
abbrev CepId := UInt8
abbrev QosId := UInt8
abbrev Address := UInt8

def portIdWrong : PortId := -1
def cepIdWrong : CepId := -1
def addressWrong : Address := -1
def qosIdWrong : QosId := -1

/-- `LOCAL_ADDRESS` of the configuration. -/
def localAddress : Address := 1

def isPortIdOk (id : PortId) : Bool := id != portIdWrong

def isCepIdOk (id : CepId) : Bool := id != cepIdWrong

def isAddressOk (address : Address) : Bool := address != addressWrong

def isQosIdOk (id : QosId) : Bool := id != qosIdWrong

end RinaSense
