import EtherNetIP.Application.Assemblies
import EtherNetIP.Cip.InterfaceChecks
import EtherNetIP.Encap.Encap

/-! The functions that decode attributes.

Each takes what it needs from the read position of the request, writes the
variable of the attribute and sets the general status of the reply; what it
returns nobody looks at. Only the functions for byte arrays look at the size of
the request.
-/

set_option autoImplicit false

namespace EtherNetIP

def kCipErrorInvalidAttributeValue : UInt8 := 0x09
def kCipErrorObjectStateConflict : UInt8 := 0x0C
def kCipErrorDeviceStateConflict : UInt8 := 0x10

def kTcpipStatusIfaceCfgPend : UInt32 := 0x20
def kTcpipCfgCtrlStaticIp : UInt32 := 0x00
def kTcpipCfgCtrlMethodMask : UInt32 := 0x0F
def kTcpipCfgCtrlDnsEnable : UInt32 := 0x10

inductive DeviceCall where
  | beforeAssemblyDataSend (instanceNumber : CipInstanceNum)
  | afterAssemblyDataReceived (instanceNumber : CipInstanceNum)
  | nvQosStore
  | nvTcpipStore
  deriving DecidableEq, Repr

structure CipDevice where
  memory : CipMemory
  calls : List DeviceCall

/-- What the services find beside the device: the connections, the answers of the application, and what stands in
memory in front of the data of the request, nearest first, and behind a block of the heap. -/
structure ServiceEnvironment where
  connectionList : List CipConnectionObject
  afterAssemblyDataReceived : CipDevice → CipInstanceNum → EipStatus
  octetsBefore : List CipOctet
  octetsBehind : List CipOctet

section Reading

/-- The memory around the data of a request, whose first octet is at position zero, the read position, and the end of
what has been looked at. -/
structure RequestData where
  octets : Int → CipOctet
  position : Int
  lookedAt : Int

namespace RequestData

def ofRequest (environment : ServiceEnvironment) (request : CipMessageRouterRequest) : RequestData where
  octets
    | .ofNat position => octetAt request.data position
    | .negSucc distance => octetAt environment.octetsBefore distance
  position := 0
  lookedAt := 0

def next (request : RequestData) (count : Nat) : List CipOctet :=
  (List.range count).map fun (i : Nat) => request.octets (request.position + i)

def look (request : RequestData) (count : Nat) : RequestData :=
  if count = 0 then request
  else { request with lookedAt := max request.lookedAt (request.position + count) }

def skip (request : RequestData) (count : Int) : RequestData :=
  { request with position := request.position + count }

@[simp] theorem length_next (request : RequestData) (count : Nat) : (request.next count).length = count := by
  simp [next]

end RequestData

end Reading

structure Decoding where
  device : CipDevice
  request : RequestData
  generalStatus : UInt8

namespace Decoding

variable {kind : DataKind} {α : Type}

def get (decoding : Decoding) (read : FromMessage α) (count : Nat) : α × Decoding :=
  ((read.run (decoding.request.next count)).1,
    { decoding with request := (decoding.request.look count).skip count })

def answer (decoding : Decoding) (generalStatus : UInt8) : Decoding := { decoding with generalStatus }

def write (decoding : Decoding) (data : CipPointer kind) (value : kind.Value) : Decoding :=
  { decoding with device.memory := decoding.device.memory.write data value }

/-- Octets are copied from the read position, which stays. -/
def copied (decoding : Decoding) (count : Nat) : Decoding :=
  { decoding with request := decoding.request.look count }

def skip (decoding : Decoding) (count : Int) : Decoding :=
  { decoding with request := decoding.request.skip count }

def call (decoding : Decoding) (made : DeviceCall) : Decoding :=
  { decoding with device.calls := made :: decoding.device.calls }

end Decoding

section Numbers

def realOfDint (received : UInt32) : UInt32 := (Float32.Model.ofInt32 received.toInt32).toBits

def lrealOfLint (received : UInt64) : UInt64 := (Float.Model.ofUInt64 received).toBits

def decodeNumber {kind : DataKind} (read : FromMessage kind.Value) (count : Nat) (numberOfDecodedBytes : Int)
    (data : CipPointer kind) (decoding : Decoding) : Int × Decoding :=
  let (value, decoding) := decoding.get read count
  (numberOfDecodedBytes, (decoding.write data value).answer kCipErrorSuccess)

def decodeCipBool := @decodeNumber .octet getBoolFromMessage 1 1
def decodeCipByte := @decodeNumber .octet getByteFromMessage 1 1
def decodeCipWord := @decodeNumber .word getWordFromMessage 2 2
def decodeCipDword := @decodeNumber .dword getDintFromMessage 4 4
def decodeCipLword := @decodeNumber .lword getLintFromMessage 8 4
def decodeCipUsint := @decodeNumber .octet getUsintFromMessage 1 1
def decodeCipUint := @decodeNumber .word getUintFromMessage 2 2
def decodeCipUdint := @decodeNumber .dword getUdintFromMessage 4 4
def decodeCipUlint := @decodeNumber .lword getLintFromMessage 8 8
def decodeCipSint := @decodeNumber .octet getSintFromMessage 1 1
def decodeCipInt := @decodeNumber .word getIntFromMessage 2 2
def decodeCipDint := @decodeNumber .dword getDintFromMessage 4 4
def decodeCipLint := @decodeNumber .lword getLintFromMessage 8 8
def decodeCipReal := @decodeNumber .dword (realOfDint <$> getDintFromMessage) 4 4
def decodeCipLreal := @decodeNumber .lword (lrealOfLint <$> getLintFromMessage) 8 8

def decodeChecked {kind : DataKind} (read : FromMessage kind.Value) (count : Nat) (admits : kind.Value → Bool)
    (data : CipPointer kind) (decoding : Decoding) : Int × Decoding :=
  let (value, decoding) := decoding.get read count
  if admits value then (count, (decoding.write data value).answer kCipErrorSuccess)
  else (-1, decoding.answer kCipErrorInvalidAttributeValue)

def decodeCipQoSAttribute := @decodeChecked .octet getUsintFromMessage 1 fun (value : UInt8) => decide (value < 64)

/-- With the reserved bits the flag for host names is refused too, although it would be kept. -/
def admitsConfigurationControl (received : UInt32) : Bool :=
  !(received &&& kTcpipCfgCtrlMethodMask ≥ 0x03 || received &&& ~~~ kTcpipCfgCtrlMethodMask != 0)

def decodeTcpIpInterfaceConfigurationControl (data : CipPointer .dword) (decoding : Decoding) : Int × Decoding :=
  let (received, decoding) := decoding.get getDintFromMessage 4
  if admitsConfigurationControl received then
    let kept : UInt32 := received &&& (kTcpipCfgCtrlMethodMask ||| kTcpipCfgCtrlDnsEnable)
    (4, (decoding.write data kept).answer kCipErrorSuccess)
  else (-1, decoding.answer kCipErrorInvalidAttributeValue)

def decodeCipTcpIpInterfaceEncapsulationInactivityTimeout :=
  @decodeChecked .word getUintFromMessage 2 fun (value : UInt16) => decide (value ≤ 3600)

end Numbers

section ByteArrays

variable {length : UInt16}

def Decoding.copyTo (decoding : Decoding) (data : CipPointer (.byteArray length)) : Decoding :=
  (decoding.write data ⟨decoding.request.next length.toNat, decoding.request.length_next _⟩).copied length.toNat

def decodeCipByteArray (requestDataSize : UInt64) (data : CipPointer (.byteArray length)) (decoding : Decoding) :
    Int × Decoding :=
  if requestDataSize < length.toUInt64 then (-1, decoding.answer kCipErrorNotEnoughData)
  else if requestDataSize > length.toUInt64 then (-1, decoding.answer kCipErrorTooMuchData)
  else (length.toNat, (decoding.copyTo data).answer kCipErrorSuccess)

/-- The application is asked when the data have been overwritten. -/
def decodeCipAssemblyAttribute3 (environment : ServiceEnvironment) (requestDataSize : UInt64)
    (instanceNumber : CipInstanceNum) (data : CipPointer (.byteArray length)) (decoding : Decoding) : Int × Decoding :=
  if requestDataSize < length.toUInt64 then (-1, decoding.answer kCipErrorNotEnoughData)
  else if requestDataSize > length.toUInt64 then (-1, decoding.answer kCipErrorTooMuchData)
  else
    let decoding := decoding.copyTo data
    let status := environment.afterAssemblyDataReceived decoding.device instanceNumber
    let decoding := decoding.call (.afterAssemblyDataReceived instanceNumber)
    (length.toNat, decoding.answer (if status ≠ .ok then kCipErrorInvalidAttributeValue else kCipErrorSuccess))

end ByteArrays

section Strings

def Decoding.cipString (decoding : Decoding) (length : UInt16) : CipString :=
  ⟨decoding.request.next length.toNat, by rw [RequestData.length_next]; exact length.toNat_lt⟩

def Decoding.cipShortString (decoding : Decoding) (length : UInt8) : CipShortString :=
  ⟨decoding.request.next length.toNat, by rw [RequestData.length_next]; exact length.toNat_lt⟩

def decodeCipString (data : CipPointer .string) (decoding : Decoding) : Int × Decoding :=
  let (length, decoding) := decoding.get getUintFromMessage 2
  let decoding := ((decoding.write data (decoding.cipString length)).copied length.toNat).skip length.toNat
  if length.toNat % 2 = 1 then (length.toNat + 3, (decoding.skip 1).answer kCipErrorSuccess)
  else (length.toNat + 2, decoding.answer kCipErrorSuccess)

def decodeCipShortString (data : CipPointer .shortString) (decoding : Decoding) : Int × Decoding :=
  let (length, decoding) := decoding.get getUsintFromMessage 1
  let decoding := ((decoding.write data (decoding.cipShortString length)).copied length.toNat).skip length.toNat
  (length.toNat + 1, decoding.answer kCipErrorSuccess)

end Strings

section Interfaces

def gTcpipStatus : CipPointer .dword := ⟨.tcpipStatus⟩
def gTcpipConfigControl : CipPointer .dword := ⟨.tcpipConfigControl⟩

def Decoding.configurationPends (decoding : Decoding) : Decoding :=
  let status : UInt32 := decoding.device.memory.read gTcpipStatus
  decoding.write gTcpipStatus (status ||| kTcpipStatusIfaceCfgPend)

/-- The names are checked in their blocks, which have no zero at their end. -/
def decodeCipTcpIpInterfaceConfiguration (environment : ServiceEnvironment) (data : CipPointer .interfaceConfiguration)
    (decoding : Decoding) : Int × Decoding :=
  let configControl : UInt32 := decoding.device.memory.read gTcpipConfigControl
  if isIOConnectionActive environment.connectionList then (-1, decoding.answer kCipErrorDeviceStateConflict)
  else if kTcpipCfgCtrlStaticIp ≠ configControl &&& kTcpipCfgCtrlMethodMask then
    (-1, decoding.answer kCipErrorObjectStateConflict)
  else
    let (ipAddress, decoding) := decoding.get getUdintFromMessage 4
    let (networkMask, decoding) := decoding.get getUdintFromMessage 4
    let (gateway, decoding) := decoding.get getUdintFromMessage 4
    let (nameServer, decoding) := decoding.get getUdintFromMessage 4
    let (nameServer2, decoding) := decoding.get getUdintFromMessage 4
    let (domainNameLength, decoding) := decoding.get getUintFromMessage 2
    if domainNameLength > 48 then (-1, decoding.answer kCipErrorTooMuchData)
    else
      let ifCfg : CipTcpIpInterfaceConfiguration := ⟨htonl ipAddress, htonl networkMask, htonl gateway, htonl nameServer,
        htonl nameServer2, decoding.cipString domainNameLength⟩
      let decoding := decoding.copied domainNameLength.toNat
      let aligned : UInt16 := (domainNameLength + 1) &&& ~~~ 1
      if !isValidNetworkConfig ifCfg ||
          (decide (aligned > 0) && !isValidDomain (cString (ifCfg.domainName.string ++ environment.octetsBehind))) then
        (-1, decoding.answer kCipErrorInvalidAttributeValue)
      else (20 + aligned.toNat, ((decoding.write data ifCfg).configurationPends).answer kCipErrorSuccess)

/-- There is no block for an empty name, and the pointer that is followed is null. The count that is returned is that
of an error even if the name is accepted. -/
def decodeCipTcpIpInterfaceHostName (environment : ServiceEnvironment) (data : CipPointer .string) (decoding : Decoding) :
    Option (Int × Decoding) :=
  let (hostNameLength, decoding) := decoding.get getUintFromMessage 2
  if hostNameLength > 64 then some (-1, decoding.answer kCipErrorTooMuchData)
  else if hostNameLength = 0 then none
  else
    let hostName := decoding.cipString hostNameLength
    let decoding := decoding.copied hostNameLength.toNat
    if !isValidNameLabel (cString (hostName.string ++ environment.octetsBehind)) then
      some (-1, decoding.answer kCipErrorInvalidAttributeValue)
    else some (-1, ((decoding.write data hostName).configurationPends).answer kCipErrorSuccess)

/-- The instance tells which interface it is whose speeds are looked up. -/
def decodeCipEthernetLinkInterfaceControl (instanceNumber : CipInstanceNum) (data : CipPointer .interfaceControl)
    (decoding : Decoding) : Int × Decoding :=
  let (controlBits, decoding) := decoding.get getWordFromMessage 2
  let (forcedInterfaceSpeed, decoding) := decoding.get getUintFromMessage 2
  let decoding := decoding.answer kCipErrorSuccess
  let ifCntrl : CipEthernetLinkInterfaceControl := ⟨controlBits, forcedInterfaceSpeed⟩
  let selector : CipPointer .word := ⟨.ethernetLinkSpeedDuplexSelector (instanceNumber.toNat - 1)⟩
  if controlBits > kEthLinkIfCntrlMaxValid then (-1, decoding.answer kCipErrorInvalidAttributeValue)
  else if controlBits &&& kEthLinkIfCntrlAutonegotiate ≠ 0 ∧
      (controlBits &&& kEthLinkIfCntrlForceDuplexFD ≠ 0 ∨ forcedInterfaceSpeed ≠ 0) then
    (-1, decoding.answer kCipErrorObjectStateConflict)
  else if controlBits &&& kEthLinkIfCntrlAutonegotiate = 0 ∧
      !isIfaceControlAllowed (decoding.device.memory.read selector) ifCntrl then
    (-1, decoding.answer kCipErrorInvalidAttributeValue)
  else (4, (decoding.write data ifCntrl).answer kCipErrorSuccess)

end Interfaces

inductive DecodeFunction : DataKind → Type where
  | cipBool : DecodeFunction .octet
  | cipByte : DecodeFunction .octet
  | cipByteArray {length : UInt16} : DecodeFunction (.byteArray length)
  | cipWord : DecodeFunction .word
  | cipDword : DecodeFunction .dword
  | cipLword : DecodeFunction .lword
  | cipUsint : DecodeFunction .octet
  | cipUint : DecodeFunction .word
  | cipUdint : DecodeFunction .dword
  | cipUlint : DecodeFunction .lword
  | cipSint : DecodeFunction .octet
  | cipInt : DecodeFunction .word
  | cipDint : DecodeFunction .dword
  | cipLint : DecodeFunction .lword
  | cipReal : DecodeFunction .dword
  | cipLreal : DecodeFunction .lword
  | cipString : DecodeFunction .string
  | cipShortString : DecodeFunction .shortString
  | cipAssemblyAttribute3 {length : UInt16} : DecodeFunction (.byteArray length)
  | tcpIpInterfaceConfigurationControl : DecodeFunction .dword
  | cipTcpIpInterfaceConfiguration : DecodeFunction .interfaceConfiguration
  | cipTcpIpInterfaceHostName : DecodeFunction .string
  | cipTcpIpInterfaceEncapsulationInactivityTimeout : DecodeFunction .word
  | cipQoSAttribute : DecodeFunction .octet
  | cipEthernetLinkInterfaceControl : DecodeFunction .interfaceControl

/-- A call of the function. None is a read through a null pointer. -/
def DecodeFunction.run {kind : DataKind} (environment : ServiceEnvironment) (request : CipMessageRouterRequest) :
    DecodeFunction kind → CipPointer kind → Decoding → Option (Int × Decoding)
  | .cipBool, data, decoding => decodeCipBool data decoding
  | .cipByte, data, decoding => decodeCipByte data decoding
  | .cipByteArray, data, decoding => decodeCipByteArray request.requestDataSize data decoding
  | .cipWord, data, decoding => decodeCipWord data decoding
  | .cipDword, data, decoding => decodeCipDword data decoding
  | .cipLword, data, decoding => decodeCipLword data decoding
  | .cipUsint, data, decoding => decodeCipUsint data decoding
  | .cipUint, data, decoding => decodeCipUint data decoding
  | .cipUdint, data, decoding => decodeCipUdint data decoding
  | .cipUlint, data, decoding => decodeCipUlint data decoding
  | .cipSint, data, decoding => decodeCipSint data decoding
  | .cipInt, data, decoding => decodeCipInt data decoding
  | .cipDint, data, decoding => decodeCipDint data decoding
  | .cipLint, data, decoding => decodeCipLint data decoding
  | .cipReal, data, decoding => decodeCipReal data decoding
  | .cipLreal, data, decoding => decodeCipLreal data decoding
  | .cipString, data, decoding => decodeCipString data decoding
  | .cipShortString, data, decoding => decodeCipShortString data decoding
  | .cipAssemblyAttribute3, data, decoding =>
      decodeCipAssemblyAttribute3 environment request.requestDataSize request.requestPath.instanceNumber data decoding
  | .tcpIpInterfaceConfigurationControl, data, decoding => decodeTcpIpInterfaceConfigurationControl data decoding
  | .cipTcpIpInterfaceConfiguration, data, decoding =>
      decodeCipTcpIpInterfaceConfiguration environment data decoding
  | .cipTcpIpInterfaceHostName, data, decoding => decodeCipTcpIpInterfaceHostName environment data decoding
  | .cipTcpIpInterfaceEncapsulationInactivityTimeout, data, decoding =>
      decodeCipTcpIpInterfaceEncapsulationInactivityTimeout data decoding
  | .cipQoSAttribute, data, decoding => decodeCipQoSAttribute data decoding
  | .cipEthernetLinkInterfaceControl, data, decoding =>
      decodeCipEthernetLinkInterfaceControl request.requestPath.instanceNumber data decoding

end EtherNetIP
