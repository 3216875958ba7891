import EtherNetIP.Cip.AnnouncedOctets

/-! The data of attributes.

An attribute has a pointer to its data, a number that stands for a CIP data type
and functions that encode and decode it. Which C type the data have is not
recorded in the number; here it is the kind of the pointer. Variables of
different kinds or names do not overlap.
-/

set_option autoImplicit false

namespace EtherNetIP

inductive CipDataType where
  | any
  | bool
  | sint
  | int
  | dint
  | lint
  | usint
  | uint
  | udint
  | ulint
  | real
  | lreal
  | stime
  | date
  | timeOfDay
  | dateAndTime
  | string
  | byte
  | word
  | dword
  | lword
  | string2
  | ftime
  | ltime
  | itime
  | stringN
  | shortString
  | time
  | epath
  | engUnit
  | usintUsint
  | udintUdintUdintUdintUdintString
  | cip6Usint
  | memberList
  | byteArray
  | internalUint6
  | stringI
  deriving DecidableEq, Repr

/-- The octets that a value of the type takes, for which those at the pointer may be looked at. The lengths of strings
are read as signed numbers; as a `size_t` a negative result is very large, as the `int_fast64_t` it is compared as
and as a displacement of a pointer it is negative again. -/
def getCipDataTypeLength (type : CipDataType) (data : List CipOctet) : Int :=
  match type with
  | .bool | .sint | .usint | .byte => 1
  | .int | .uint | .word | .usintUsint | .itime | .date | .engUnit => 2
  | .dint | .udint | .dword | .stime | .ftime | .time | .real | .timeOfDay => 4
  | .lint | .ulint | .lreal | .lword | .ltime => 8
  | .cip6Usint => 6
  | .string | .string2 | .stringN | .epath => (getIntFromMessage.run data).1.toInt16.toInt + 2
  | .shortString => (getSintFromMessage.run data).1.toInt8.toInt + 1
  | .byteArray => (getUintFromMessage.run data).1.toNat
  | _ => 0

def CipDataType.lengthOctets : CipDataType → Nat
  | .string | .string2 | .stringN | .epath | .byteArray => 2
  | .shortString => 1
  | _ => 0

section Values

/-- The octets are in a block of the heap of just this length; there is none for the empty string. -/
structure CipString where
  string : List CipOctet
  fits : string.length < 2 ^ 16
  deriving DecidableEq, Repr

structure CipShortString where
  string : List CipOctet
  fits : string.length < 2 ^ 8
  deriving DecidableEq, Repr

def CipString.length (string : CipString) : UInt16 := UInt16.ofNat string.string.length

def CipShortString.length (string : CipShortString) : UInt8 := UInt8.ofNat string.string.length

theorem CipString.toNat_length (string : CipString) : string.length.toNat = string.string.length :=
  UInt16.toNat_ofNat_of_lt' string.fits

structure CipRevision where
  majorRevision : UInt8
  minorRevision : UInt8
  deriving DecidableEq, Repr

/-- The addresses are in network byte order. -/
structure CipTcpIpInterfaceConfiguration where
  ipAddress : UInt32
  networkMask : UInt32
  gateway : UInt32
  nameServer : UInt32
  nameServer2 : UInt32
  domainName : CipString
  deriving DecidableEq, Repr

structure CipEthernetLinkInterfaceControl where
  controlBits : UInt16
  forcedInterfaceSpeed : UInt16
  deriving DecidableEq, Repr

/-- The C types of the data. A byte array has its length from the start. -/
inductive DataKind where
  | octet
  | word
  | dword
  | lword
  | revision
  | byteArray (length : UInt16)
  | string
  | shortString
  | interfaceConfiguration
  | interfaceControl
  deriving DecidableEq, Repr

@[reducible] def DataKind.Value : DataKind → Type
  | .octet => UInt8
  | .word => UInt16
  | .dword => UInt32
  | .lword => UInt64
  | .revision => CipRevision
  | .byteArray length => { octets : List CipOctet // octets.length = length.toNat }
  | .string => CipString
  | .shortString => CipShortString
  | .interfaceConfiguration => CipTcpIpInterfaceConfiguration
  | .interfaceControl => CipEthernetLinkInterfaceControl

/-- The first octets of a variable, as far as they can be taken for a length; the host is little-endian. -/
def DataKind.front : (kind : DataKind) → kind.Value → List CipOctet
  | .octet, value => addSintToMessage value
  | .word, value => addIntToMessage value
  | .dword, value => addDintToMessage value
  | .lword, value => addLintToMessage value
  | .revision, value => [value.majorRevision, value.minorRevision]
  | .byteArray length, _ => addIntToMessage length
  | .string, value => addIntToMessage value.length
  | .shortString, value => addSintToMessage value.length
  | .interfaceConfiguration, value => addDintToMessage value.ipAddress
  | .interfaceControl, value => addIntToMessage value.controlBits

end Values

section Memory

inductive Variable where
  | identityVendorId
  | identityDeviceType
  | identityProductCode
  | identityRevision
  | identityStatus
  | identitySerialNumber
  | identityProductName
  | tcpipStatus
  | tcpipConfigControl
  | tcpipInterfaceConfiguration
  | tcpipHostname
  | tcpipEncapsulationInactivityTimeout
  | qosQFramesEnable
  | qosDscpEvent
  | qosDscpGeneral
  | qosDscpUrgent
  | qosDscpScheduled
  | qosDscpHigh
  | qosDscpLow
  | qosDscpExplicitMsg
  | ethernetLinkInterfaceControl (index : Nat)
  | ethernetLinkSpeedDuplexSelector (index : Nat)
  | assemblyData (instanceId : CipInstanceNum)
  | assemblyLength (instanceId : CipInstanceNum)
  | other (index : Nat)
  deriving DecidableEq, Repr

structure CipPointer (kind : DataKind) where
  name : Variable
  deriving DecidableEq, Repr

abbrev CipMemory := (kind : DataKind) → Variable → kind.Value

namespace CipMemory

variable {kind : DataKind}

def read (memory : CipMemory) (data : CipPointer kind) : kind.Value := memory kind data.name

def write (memory : CipMemory) (data : CipPointer kind) (value : kind.Value) : CipMemory :=
  Function.update memory kind (Function.update (memory kind) data.name value)

@[simp] theorem read_write_self (memory : CipMemory) (data : CipPointer kind) (value : kind.Value) :
    (memory.write data value).read data = value := by
  simp [read, write]

theorem read_write_of_kind {other : DataKind} (memory : CipMemory) (data : CipPointer kind) (value : kind.Value)
    (looked : CipPointer other) (different : other ≠ kind) :
    (memory.write data value).read looked = memory.read looked := by
  simp [read, write, different]

end CipMemory

end Memory

section Encoding

def ntohl (data : UInt32) : UInt32 := (getUdintFromMessage.run (addDintToMessage data).reverse).1

def htonl (data : UInt32) : UInt32 := ntohl data

theorem ntohl_htonl (data : UInt32) : ntohl (htonl data) = data := by
  have swapped : addDintToMessage (htonl data) = (addDintToMessage data).reverse := addDintToMessage_read _
  rw [ntohl, swapped, List.reverse_reverse]
  exact congrArg Prod.fst (getUdintFromMessage_add [] data)

def CipString.PaddedBy (string : CipString) (octets : List CipOctet) : Prop :=
  octets.length = 2 + string.string.length + string.string.length % 2 ∧
    octets.take (2 + string.string.length) = addIntToMessage string.length ++ string.string

/-- Octets that encode the value. The pad octet of a string of odd length may be any. -/
def DataKind.Encodes : (kind : DataKind) → kind.Value → List CipOctet → Prop
  | .octet, value, octets => octets = addSintToMessage value
  | .word, value, octets => octets = addIntToMessage value
  | .dword, value, octets => octets = addDintToMessage value
  | .lword, value, octets => octets = addLintToMessage value
  | .revision, value, octets => octets = [value.majorRevision, value.minorRevision]
  | .byteArray _, value, octets => octets = value.val
  | .string, value, octets => value.PaddedBy octets
  | .shortString, value, octets => octets = addSintToMessage value.length ++ value.string
  | .interfaceConfiguration, value, octets =>
      octets.take 20 = addDintToMessage (ntohl value.ipAddress) ++ addDintToMessage (ntohl value.networkMask) ++
        addDintToMessage (ntohl value.gateway) ++ addDintToMessage (ntohl value.nameServer) ++
        addDintToMessage (ntohl value.nameServer2) ∧ value.domainName.PaddedBy (octets.drop 20)
  | .interfaceControl, value, octets =>
      octets = addIntToMessage value.controlBits ++ addIntToMessage value.forcedInterfaceSpeed

end Encoding

end EtherNetIP
