import EtherNetIP.Encap.EndianConv

/-! Connection objects.

A connection object is the record one CIP connection is kept in. Function
pointers are enumerations of the functions the stack stores in them, sockets
are integers with -1 for none, and counters and timers have the width they
have in the source. Addresses and ports are kept by value, not in byte order.
-/

set_option autoImplicit false

namespace EtherNetIP

abbrev CipInstanceNum := UInt16
abbrev CipSessionHandle := UInt32
abbrev MilliSeconds := UInt64

def kEipInvalidSocket : Int := -1

def kOpenerTimerTickInMilliSeconds : UInt32 := 10

inductive ConnectionObjectState where
  | nonExistent
  | configuring
  | waitingForConnectionID
  | established
  | timedOut
  | deferredDelete
  | closing
  deriving DecidableEq, Repr

inductive ConnectionObjectInstanceType where
  | explicitMessaging
  | io
  | ioExclusiveOwner
  | ioInputOnly
  | ioListenOnly
  | cipBridged
  deriving DecidableEq, Repr

inductive TransportClassTriggerDirection where
  | client
  | server
  deriving DecidableEq, Repr

inductive ProductionTrigger where
  | invalid
  | cyclic
  | changeOfState
  | applicationObject
  deriving DecidableEq, Repr

inductive TransportClass where
  | invalid
  | class0
  | class1
  | class2
  | class3
  deriving DecidableEq, Repr

inductive ConnectionObjectConnectionType where
  | null
  | multicast
  | pointToPoint
  | invalid
  deriving DecidableEq, Repr

inductive ConnectionObjectPriority where
  | low
  | high
  | scheduled
  | urgent
  deriving DecidableEq, Repr

inductive ConnectionObjectConnectionSizeType where
  | fixed
  | variable
  deriving DecidableEq, Repr

inductive ConnectionCloseFunction where
  | closeConnection
  | closeIoConnection
  deriving DecidableEq, Repr

inductive ConnectionTimeoutFunction where
  | class3ConnectionTimeoutHandler
  | handleIoConnectionTimeOut
  deriving DecidableEq, Repr

inductive ConnectionSendDataFunction where
  | sendConnectedData
  deriving DecidableEq, Repr

inductive ConnectionReceiveDataFunction where
  | handleReceivedIoConnectionData
  deriving DecidableEq, Repr

structure CipConnectionPathEpath where
  classId : UInt32
  instanceId : CipInstanceNum
  attributeIdOrConnectionPoint : UInt32
  deriving DecidableEq, Repr

structure SocketAddress where
  sinFamily : UInt16
  sinPort : UInt16
  sAddr : UInt32
  deriving DecidableEq, Repr

def CipConnectionPathEpath.zero : CipConnectionPathEpath := ⟨0, 0, 0⟩
def SocketAddress.zero : SocketAddress := ⟨0, 0, 0⟩

structure CipConnectionObject where
  state : ConnectionObjectState
  instanceType : ConnectionObjectInstanceType
  transportClassTrigger : UInt8
  expectedPacketRate : UInt16
  cipProducedConnectionId : UInt32
  cipConsumedConnectionId : UInt32
  producedPath : CipConnectionPathEpath
  consumedPath : CipConnectionPathEpath
  productionInhibitTime : UInt16
  connectionTimeoutMultiplier : UInt8
  electronicKeyFormat : UInt8
  configurationPath : CipConnectionPathEpath
  producingInstance : Option CipInstanceNum
  consumingInstance : Option CipInstanceNum
  transmissionTriggerTimer : UInt64
  inactivityWatchdogTimer : UInt64
  lastPackageWatchdogTimer : UInt64
  productionInhibitTimer : UInt64
  connectionSerialNumber : UInt16
  originatorVendorId : UInt16
  originatorSerialNumber : UInt32
  connectionNumber : UInt16
  oToTRequestedPacketInterval : UInt32
  oToTNetworkConnectionParameters : UInt32
  tToORequestedPacketInterval : UInt32
  tToONetworkConnectionParameters : UInt32
  sequenceCountProducing : UInt16
  sequenceCountConsuming : UInt16
  eipLevelSequenceCountProducing : UInt32
  eipLevelSequenceCountConsuming : UInt32
  eipFirstLevelSequenceCountReceived : Bool
  correctOriginatorToTargetSize : UInt16
  correctTargetToOriginatorSize : UInt16
  consumingSocket : Int
  producingSocket : Int
  remoteAddress : SocketAddress
  originatorAddress : SocketAddress
  associatedEncapsulationSession : CipSessionHandle
  /-- The octets of the last reply behind its encapsulation header; none while the message is zeroed. -/
  lastReplySent : Option (List CipOctet)
  connectionCloseFunction : Option ConnectionCloseFunction
  connectionTimeoutFunction : Option ConnectionTimeoutFunction
  connectionSendDataFunction : Option ConnectionSendDataFunction
  connectionReceiveDataFunction : Option ConnectionReceiveDataFunction
  isLargeForwardOpen : Bool
  deriving DecidableEq, Repr

namespace CipConnectionObject

/-- The object with every byte zero, as `memset` leaves it. Its sockets are the valid descriptor 0. -/
def zeroed : CipConnectionObject where
  state := .nonExistent
  instanceType := .explicitMessaging
  transportClassTrigger := 0
  expectedPacketRate := 0
  cipProducedConnectionId := 0
  cipConsumedConnectionId := 0
  producedPath := .zero
  consumedPath := .zero
  productionInhibitTime := 0
  connectionTimeoutMultiplier := 0
  electronicKeyFormat := 0
  configurationPath := .zero
  producingInstance := none
  consumingInstance := none
  transmissionTriggerTimer := 0
  inactivityWatchdogTimer := 0
  lastPackageWatchdogTimer := 0
  productionInhibitTimer := 0
  connectionSerialNumber := 0
  originatorVendorId := 0
  originatorSerialNumber := 0
  connectionNumber := 0
  oToTRequestedPacketInterval := 0
  oToTNetworkConnectionParameters := 0
  tToORequestedPacketInterval := 0
  tToONetworkConnectionParameters := 0
  sequenceCountProducing := 0
  sequenceCountConsuming := 0
  eipLevelSequenceCountProducing := 0
  eipLevelSequenceCountConsuming := 0
  eipFirstLevelSequenceCountReceived := false
  correctOriginatorToTargetSize := 0
  correctTargetToOriginatorSize := 0
  consumingSocket := 0
  producingSocket := 0
  remoteAddress := .zero
  originatorAddress := .zero
  associatedEncapsulationSession := 0
  lastReplySent := none
  connectionCloseFunction := none
  connectionTimeoutFunction := none
  connectionSendDataFunction := none
  connectionReceiveDataFunction := none
  isLargeForwardOpen := false

def initializeEmpty : CipConnectionObject :=
  { zeroed with consumingSocket := kEipInvalidSocket, producingSocket := kEipInvalidSocket }

def setState (object : CipConnectionObject) (state : ConnectionObjectState) : CipConnectionObject :=
  { object with state }

def setInstanceType (object : CipConnectionObject) (instanceType : ConnectionObjectInstanceType) :
    CipConnectionObject :=
  { object with instanceType }

def isTypeNonLOIOConnection (object : CipConnectionObject) : Bool :=
  match object.instanceType with
  | .io | .ioExclusiveOwner | .ioInputOnly => true
  | _ => false

def isTypeIOConnection (object : CipConnectionObject) : Bool :=
  match object.instanceType with
  | .io | .ioExclusiveOwner | .ioInputOnly | .ioListenOnly => true
  | _ => false

def getTransportClassTriggerDirection (object : CipConnectionObject) : TransportClassTriggerDirection :=
  if object.transportClassTrigger &&& 0x80 = 0x80 then .server else .client

def getProductionTrigger (object : CipConnectionObject) : ProductionTrigger :=
  let trigger := object.transportClassTrigger &&& 0x70
  if trigger = 0x00 then .cyclic
  else if trigger = 0x10 then .changeOfState
  else if trigger = 0x20 then .applicationObject
  else .invalid

def getTransportClass (object : CipConnectionObject) : TransportClass :=
  let transportClass := object.transportClassTrigger &&& 0x0F
  if transportClass = 0 then .class0
  else if transportClass = 1 then .class1
  else if transportClass = 2 then .class2
  else if transportClass = 3 then .class3
  else .invalid

def getRequestedPacketInterval (object : CipConnectionObject) : UInt16 :=
  let remainderToResolution := object.tToORequestedPacketInterval % (kOpenerTimerTickInMilliSeconds * 1000)
  if remainderToResolution = 0 then (object.tToORequestedPacketInterval / 1000).toUInt16
  -- rounded down to a tick, and cut to sixteen bits
  else (object.tToORequestedPacketInterval / 1000 - remainderToResolution / 1000).toUInt16

def expectedPacketRateOf (tToORequestedPacketInterval : UInt32) : UInt16 :=
  let remainderToResolution := tToORequestedPacketInterval % (kOpenerTimerTickInMilliSeconds * 1000)
  if remainderToResolution = 0 then (tToORequestedPacketInterval / 1000).toUInt16
  -- rounded up to a tick, and cut to sixteen bits
  else (tToORequestedPacketInterval / 1000 +
    (kOpenerTimerTickInMilliSeconds - remainderToResolution / 1000)).toUInt16

/-- The shift count is taken modulo 64, as the processor takes it. -/
def regularInactivityWatchdogTimerValueOf (oToTRequestedPacketInterval : UInt32)
    (connectionTimeoutMultiplier : UInt8) : UInt64 :=
  (oToTRequestedPacketInterval.toUInt64 / 1000) <<< (2 + connectionTimeoutMultiplier.toUInt64)

def calculateRegularInactivityWatchdogTimerValue (object : CipConnectionObject) : UInt64 :=
  regularInactivityWatchdogTimerValueOf object.oToTRequestedPacketInterval object.connectionTimeoutMultiplier

def initialInactivityWatchdogTimerValueOf (oToTRequestedPacketInterval : UInt32)
    (connectionTimeoutMultiplier : UInt8) : UInt64 :=
  let calculated := regularInactivityWatchdogTimerValueOf oToTRequestedPacketInterval connectionTimeoutMultiplier
  if calculated > 10000 then calculated else 10000

def getConnectionType (connectionParameters : UInt32) (isLfo : Bool) : ConnectionObjectConnectionType :=
  let connectionType := (connectionParameters >>> (if isLfo then 29 else 13)) &&& 3
  if connectionType = 0 then .null
  else if connectionType = 1 then .multicast
  else if connectionType = 2 then .pointToPoint
  else .invalid

def getOToTConnectionType (object : CipConnectionObject) : ConnectionObjectConnectionType :=
  getConnectionType object.oToTNetworkConnectionParameters object.isLargeForwardOpen

def getTToOConnectionType (object : CipConnectionObject) : ConnectionObjectConnectionType :=
  getConnectionType object.tToONetworkConnectionParameters object.isLargeForwardOpen

def getPriority (connectionParameters : UInt32) (isLfo : Bool) : ConnectionObjectPriority :=
  let priority := (connectionParameters >>> (if isLfo then 26 else 10)) &&& 3
  if priority = 0 then .low
  else if priority = 1 then .high
  else if priority = 2 then .scheduled
  else .urgent

def getTToOPriority (object : CipConnectionObject) : ConnectionObjectPriority :=
  getPriority object.tToONetworkConnectionParameters object.isLargeForwardOpen

def getConnectionSizeType (connectionParameters : UInt32) (isLfo : Bool) :
    ConnectionObjectConnectionSizeType :=
  if (connectionParameters >>> (if isLfo then 25 else 9)) &&& 1 = 1 then .variable else .fixed

def getTToOConnectionSizeType (object : CipConnectionObject) : ConnectionObjectConnectionSizeType :=
  getConnectionSizeType object.tToONetworkConnectionParameters object.isLargeForwardOpen

def getConnectionSize (connectionParameters : UInt32) (isLfo : Bool) : Nat :=
  (connectionParameters &&& (if isLfo then 0x0000FFFF else 0x000001FF)).toNat

def getOToTConnectionSize (object : CipConnectionObject) : Nat :=
  getConnectionSize object.oToTNetworkConnectionParameters object.isLargeForwardOpen

def getTToOConnectionSize (object : CipConnectionObject) : Nat :=
  getConnectionSize object.tToONetworkConnectionParameters object.isLargeForwardOpen

def equalOriginator (object1 object2 : CipConnectionObject) : Bool :=
  object1.originatorVendorId == object2.originatorVendorId &&
    object1.originatorSerialNumber == object2.originatorSerialNumber

def equalConnectionTriad (object1 object2 : CipConnectionObject) : Bool :=
  object1.connectionSerialNumber == object2.connectionSerialNumber &&
    object1.originatorVendorId == object2.originatorVendorId &&
    object1.originatorSerialNumber == object2.originatorSerialNumber

/-- Reset everything that does not come with the request. The identifiers are the ones
`GetConnectionId` yields where the target chooses them, else those of the request. -/
def generalConfiguration (object : CipConnectionObject) (consumedId producedId : UInt32) :
    CipConnectionObject :=
  { object with
    consumingSocket := kEipInvalidSocket
    producingSocket := kEipInvalidSocket
    cipConsumedConnectionId := consumedId
    cipProducedConnectionId := producedId
    eipLevelSequenceCountProducing := 0
    sequenceCountProducing := 0
    eipLevelSequenceCountConsuming := 0
    eipFirstLevelSequenceCountReceived := false
    sequenceCountConsuming := 0
    productionInhibitTimer := object.productionInhibitTime.toUInt64
    transmissionTriggerTimer := 0 }

end CipConnectionObject

structure ForwardOpenHeader where
  oToTConnectionId : UInt32
  tToOConnectionId : UInt32
  connectionSerialNumber : UInt16
  originatorVendorId : UInt16
  originatorSerialNumber : UInt32
  connectionTimeoutMultiplier : UInt8
  oToTRequestedPacketInterval : UInt32
  oToTNetworkConnectionParameters : UInt32
  tToORequestedPacketInterval : UInt32
  tToONetworkConnectionParameters : UInt32
  transportClassTrigger : UInt8
  deriving DecidableEq, Repr

def readNetworkConnectionParameters (isLfo : Bool) : FromMessage UInt32 := do
  if isLfo then
    getDwordFromMessage
  else
    let parameters ← getWordFromMessage
    return parameters.toUInt32

def readForwardOpenHeader (isLfo : Bool) : FromMessage ForwardOpenHeader := do
  let _priorityTimetick ← getByteFromMessage
  let _timeoutTicks ← getUsintFromMessage
  let oToTConnectionId ← getUdintFromMessage
  let tToOConnectionId ← getUdintFromMessage
  let connectionSerialNumber ← getUintFromMessage
  let originatorVendorId ← getUintFromMessage
  let originatorSerialNumber ← getUdintFromMessage
  let connectionTimeoutMultiplier ← getUsintFromMessage
  skipOctets 3
  let oToTRequestedPacketInterval ← getUdintFromMessage
  let oToTNetworkConnectionParameters ← readNetworkConnectionParameters isLfo
  let tToORequestedPacketInterval ← getUdintFromMessage
  let tToONetworkConnectionParameters ← readNetworkConnectionParameters isLfo
  let transportClassTrigger ← getByteFromMessage
  return {
    oToTConnectionId, tToOConnectionId, connectionSerialNumber, originatorVendorId
    originatorSerialNumber, connectionTimeoutMultiplier, oToTRequestedPacketInterval
    oToTNetworkConnectionParameters, tToORequestedPacketInterval
    tToONetworkConnectionParameters, transportClassTrigger }

/-- The writes of `ConnectionObjectInitializeFromMessage`. Fields not named here keep what an
earlier request left in them. -/
def CipConnectionObject.initializeFromMessage (object : CipConnectionObject) (header : ForwardOpenHeader)
    (connectionNumber : UInt16) : CipConnectionObject :=
  { object with
    cipConsumedConnectionId := header.oToTConnectionId
    cipProducedConnectionId := header.tToOConnectionId
    connectionSerialNumber := header.connectionSerialNumber
    originatorVendorId := header.originatorVendorId
    originatorSerialNumber := header.originatorSerialNumber
    connectionNumber
    state := .nonExistent
    sequenceCountProducing := 0
    connectionTimeoutMultiplier := header.connectionTimeoutMultiplier
    oToTRequestedPacketInterval := header.oToTRequestedPacketInterval
    inactivityWatchdogTimer :=
      initialInactivityWatchdogTimerValueOf header.oToTRequestedPacketInterval header.connectionTimeoutMultiplier
    oToTNetworkConnectionParameters := header.oToTNetworkConnectionParameters
    tToORequestedPacketInterval := header.tToORequestedPacketInterval
    expectedPacketRate := expectedPacketRateOf header.tToORequestedPacketInterval
    tToONetworkConnectionParameters := header.tToONetworkConnectionParameters
    transportClassTrigger := header.transportClassTrigger }

end EtherNetIP
