import EtherNetIP.Cip.AppConType
import EtherNetIP.Cip.IoData

/-! Opening I/O connections.

`EstablishIoConnection` copies the request into the selected connection object
and then checks it step by step; each step may refuse, and what the earlier
steps have written stays. A refusal therefore carries the stack it leaves.
-/

set_option autoImplicit false

namespace EtherNetIP

open Library CipConnectionObject

variable {config : Configuration}

def kCipItemIdSocketAddressInfoOriginatorToTarget : UInt16 := 0x8000
def kCipItemIdSocketAddressInfoTargetToOriginator : UInt16 := 0x8001
def kOpenerEipIoUdpPort : UInt16 := 2222
def AF_INET : UInt16 := 2
def INADDR_ANY : UInt32 := 0

/-- What `CreateUdpSocket` meets. A socket that cannot be set up is closed, but its handle is kept. -/
inductive UdpSocket where
  | notCreated
  | blocking (handle : Nat)
  | notBound (handle : Nat)
  | bound (handle : Nat)
  deriving DecidableEq, Repr

structure Network where
  udpSocket : UdpSocket
  qosAccepted : Bool
  peerAddress : UInt32
  deriving DecidableEq, Repr

/-- How the opening of a connection ends early. -/
inductive Stop (config : Configuration) where
  | fault (fault : Fault)
  | refused (refusal : Refusal) (stack : Stack config)

def orStop {α : Type} : Except Fault α → Except (Stop config) α
  | .ok value => .ok value
  | .error fault => .error (.fault fault)

namespace AddressInfoItems

inductive Position where
  | first
  | second
  deriving DecidableEq, Repr

def get (items : AddressInfoItems) : Position → SocketAddressInfoItem
  | .first => items.first
  | .second => items.second

def set (items : AddressInfoItems) (item : SocketAddressInfoItem) : Position → AddressInfoItems
  | .first => { items with first := item }
  | .second => { items with second := item }

/-- The first item that is unused or of the type. -/
def allocateSocketAddressInfoItem (items : AddressInfoItems) (typeId : UInt16) : Option Position :=
  if items.first.typeId = 0 ∨ items.first.typeId = typeId then some .first
  else if items.second.typeId = 0 ∨ items.second.typeId = typeId then some .second
  else none

def find (items : AddressInfoItems) (typeId : UInt16) : Option Position :=
  if items.first.typeId = typeId then some .first
  else if items.second.typeId = typeId then some .second
  else none

end AddressInfoItems

/-- A cyclic connection without a production inhibit time gets a quarter of its packet interval. -/
def processProductionInhibitTime (object : CipConnectionObject) : Except UInt16 CipConnectionObject :=
  if object.getProductionTrigger = .cyclic then
    if object.productionInhibitTime = 256 then
      .ok { object with productionInhibitTime := (object.tToORequestedPacketInterval / 4000).toUInt16 }
    else if object.productionInhibitTime.toUInt32 > object.tToORequestedPacketInterval / 1000 then
      .error ExtendedStatus.productionInhibitTimerGreaterThanRpi
    else .ok object
  else .ok object

def setIoConnectionCallbacks (object : CipConnectionObject) : CipConnectionObject :=
  { object with
    connectionCloseFunction := some .closeIoConnection
    connectionTimeoutFunction := some .handleIoConnectionTimeOut
    connectionSendDataFunction := some .sendConnectedData
    connectionReceiveDataFunction := some .handleReceivedIoConnectionData }

def clearInstances (object : CipConnectionObject) : CipConnectionObject :=
  { object with consumingInstance := none, producingInstance := none }

def kAssemblyObjectInstanceAttributeIdData : UInt32 := 3

def setConsumer (object : CipConnectionObject) : CipConnectionObject :=
  { object with
    consumingInstance := some object.consumedPath.instanceId
    consumedPath :=
      { object.consumedPath with attributeIdOrConnectionPoint := kAssemblyObjectInstanceAttributeIdData } }

def setProducer (object : CipConnectionObject) : CipConnectionObject :=
  { object with
    producingInstance := some object.producedPath.instanceId
    producedPath :=
      { object.producedPath with attributeIdOrConnectionPoint := kAssemblyObjectInstanceAttributeIdData } }

def connectionObjectSetCipProducedConnectionID (cipProducedConnectionId : UInt32) (object : CipConnectionObject) :
    CipConnectionObject :=
  { object with cipProducedConnectionId }

def setProducingSocket (producingSocket : Int) (object : CipConnectionObject) : CipConnectionObject :=
  { object with producingSocket }

def setRemoteAddress (remoteAddress : SocketAddress) (object : CipConnectionObject) : CipConnectionObject :=
  { object with remoteAddress }

def setConsumingSocket (consumingSocket : Int) (originatorAddress : SocketAddress) (object : CipConnectionObject) :
    CipConnectionObject :=
  { object with consumingSocket, originatorAddress }

/-- The octets of its assembly a connection of the size carries, and the octets in front of them: the
sequence count of class 1 and, unless the assembly is empty, the run/idle header. -/
def dataAndHeaderSize (transportClass : TransportClass) (runIdle : Bool) (length connectionSize : Nat) :
    Int × Nat :=
  let (dataSize, diffSize) : Int × Nat :=
    if transportClass = .class1 then ((connectionSize : Int) - 2, 2) else ((connectionSize : Int), 0)
  if runIdle ∧ dataSize > 0 ∧ length ≠ 0 then (dataSize - 4, diffSize + 4) else (dataSize, diffSize)

def SizeAgrees (config : Configuration) (runIdle : Bool) (instanceNumber : CipInstanceNum)
    (transportClass : TransportClass) (connectionSize : Nat) : Prop :=
  ∃ length : Nat, config.assemblyLength instanceNumber = some length ∧
    (length : Int) = (dataAndHeaderSize transportClass runIdle length connectionSize).1

structure SizesAgree (config : Configuration) (object : CipConnectionObject) : Prop where
  consumer : object.getOToTConnectionType ≠ .null →
    SizeAgrees config config.consumeRunIdle object.consumedPath.instanceId object.getTransportClass
      object.getOToTConnectionSize
  producer : object.getTToOConnectionType ≠ .null →
    SizeAgrees config config.produceRunIdle object.producedPath.instanceId object.getTransportClass
      object.getTToOConnectionSize

def sizeParameters (object : CipConnectionObject) :
    TransportClass × (ConnectionObjectConnectionType × CipInstanceNum × Nat) ×
      (ConnectionObjectConnectionType × CipInstanceNum × Nat) :=
  (object.getTransportClass,
    (object.getOToTConnectionType, object.consumedPath.instanceId, object.getOToTConnectionSize),
    (object.getTToOConnectionType, object.producedPath.instanceId, object.getTToOConnectionSize))

theorem SizesAgree.congr {config : Configuration} {before after : CipConnectionObject}
    (sizes : SizesAgree config before) (same : sizeParameters before = sizeParameters after) :
    SizesAgree config after := by
  simp only [sizeParameters, Prod.mk.injEq] at same
  obtain ⟨transportClass, ⟨oToT, output, oToTSize⟩, tToO, input, tToOSize⟩ := same
  constructor
  · rw [← oToT, ← output, ← transportClass, ← oToTSize]
    exact sizes.consumer
  · rw [← tToO, ← input, ← transportClass, ← tToOSize]
    exact sizes.producer

def producerMismatch (object other : CipConnectionObject) : Option UInt16 :=
  if object.tToORequestedPacketInterval ≠ other.tToORequestedPacketInterval then
    some ExtendedStatus.errorRpiValuesNotAcceptable
  else if object.getTToOConnectionSizeType ≠ other.getTToOConnectionSizeType then
    some ExtendedStatus.mismatchedTToONetworkConnectionFixVar
  else if object.getTToOPriority ≠ other.getTToOPriority then
    some ExtendedStatus.mismatchedTToONetworkConnectionPriority
  else if object.getTransportClass ≠ other.getTransportClass then
    some ExtendedStatus.mismatchedTransportClass
  else if object.getProductionTrigger ≠ other.getProductionTrigger then
    some ExtendedStatus.mismatchedTToOProductionTrigger
  else if object.productionInhibitTime ≠ other.productionInhibitTime then
    some ExtendedStatus.mismatchedTToOProductionInhibitTimeSegment
  else none

namespace Stack

/-- The lower half of an identifier is counted up, the upper half is the incarnation. -/
def getConnectionId (stack : Stack config) : UInt32 × Stack config :=
  let connectionId := stack.connectionId + 1
  (config.incarnationId ||| connectionId.toUInt32, { stack with connectionId })

/-- The target chooses the identifiers of point-to-point consumption and of multicast production. -/
def connectionObjectGeneralConfiguration (stack : Stack config) (slot : Slot config) : Stack config :=
  let object := stack.object slot
  let (consumedId, stack) :=
    if object.getOToTConnectionType = .pointToPoint then stack.getConnectionId
    else (object.cipConsumedConnectionId, stack)
  let (producedId, stack) :=
    if object.getTToOConnectionType = .multicast then stack.getConnectionId
    else (object.cipProducedConnectionId, stack)
  stack.setObject slot (object.generalConfiguration consumedId producedId)

def refuse {α : Type} (stack : Stack config) (generalStatus : UInt8) (extendedStatus : UInt16) :
    Except (Stop config) α :=
  .error (.refused ⟨generalStatus, extendedStatus⟩ stack)

def connectionFailure {α : Type} (stack : Stack config) (extendedStatus : UInt16) : Except (Stop config) α :=
  stack.refuse kCipErrorConnectionFailure extendedStatus

/-- The size the request should have asked for goes to the buffer object, for the reply. -/
def setupIoConnectionOriginatorToTargetConnectionPoint (stack : Stack config) (slot : Slot config) :
    Except (Stop config) (Stack config) :=
  let object := stack.object slot
  if config.assemblyClass.hasInstance object.consumedPath.instanceId = false then
    stack.connectionFailure ExtendedStatus.invalidConsumingApplicationPath
  else
    match config.assemblyLength object.consumedPath.instanceId with
    | none => .error (.fault .typeConfusion)
    | some length =>
        let stack := stack.setObject slot (setConsumer object)
        let (dataSize, diffSize) :=
          dataAndHeaderSize object.getTransportClass config.consumeRunIdle length object.getOToTConnectionSize
        if length ≠ dataSize then
          let dummy := { stack.dummy with correctOriginatorToTargetSize := UInt16.ofNat (length + diffSize) }
          { stack with dummy }.connectionFailure ExtendedStatus.errorInvalidOToTConnectionSize
        else .ok stack

/-- Multicast connections with the same input share one stream and have to agree on its parameters. -/
def findProducerMismatch (stack : Stack config) (object : CipConnectionObject) : Option UInt16 :=
  if object.getTToOConnectionType = .multicast then
    stack.connectionList.toList.findSome? fun slot =>
      if object.producedPath.instanceId = (stack.object slot).producedPath.instanceId then
        producerMismatch object (stack.object slot)
      else none
  else none

def setupIoConnectionTargetToOriginatorConnectionPoint (stack : Stack config) (slot : Slot config) :
    Except (Stop config) (Stack config) :=
  let object := stack.object slot
  match stack.findProducerMismatch object with
  | some extendedStatus => stack.connectionFailure extendedStatus
  | none =>
      if config.assemblyClass.hasInstance object.producedPath.instanceId = false then
        stack.connectionFailure ExtendedStatus.invalidProducingApplicationPath
      else
        match config.assemblyLength object.producedPath.instanceId with
        | none => .error (.fault .typeConfusion)
        | some length =>
            let stack := stack.setObject slot (setProducer object)
            let (dataSize, diffSize) :=
              dataAndHeaderSize object.getTransportClass config.produceRunIdle length object.getTToOConnectionSize
            if length ≠ dataSize then
              let dummy := { stack.dummy with correctTargetToOriginatorSize := UInt16.ofNat (length + diffSize) }
              { stack with dummy }.connectionFailure ExtendedStatus.errorInvalidTToOConnectionSize
            else .ok stack

/-- While a connection uses the configuration point the data must be those it has; else they are written. -/
def handleConfigData (stack : Stack config) (slot : Slot config) (configData : List CipOctet) :
    Except (Stop config) (Stack config) :=
  let configInstance := (stack.object slot).configurationPath.instanceId
  if configData = [] then .ok stack
  else if config.assemblyClass.hasInstance configInstance = false then .error (.fault .assertion)
  else if stack.connectionWithSameConfigPointExists configInstance.toUInt32 then
    match config.assemblyLength configInstance with
    | none => .error (.fault .typeConfusion)
    | some length =>
        if length ≠ configData.length then stack.connectionFailure ExtendedStatus.errorOwnershipConflict
        else if (stack.assemblyData configInstance).take length ≠ configData then
          stack.connectionFailure ExtendedStatus.errorOwnershipConflict
        else .ok stack
  else
    orStop (stack.notifyAssemblyConnectedDataReceived configInstance configData configData.length) >>=
      fun (accepted, stack) =>
        if accepted then .ok stack
        else stack.connectionFailure ExtendedStatus.invalidConfigurationApplicationPath

def handleSentConfigData (stack : Stack config) (slot : Slot config) : Except (Stop config) (Stack config) :=
  match stack.configData with
  | none => .ok stack
  | some configData => stack.handleConfigData slot configData

def createUdpSocket (stack : Stack config) : UdpSocket → Except Fault (Stack config)
  | .notCreated => .ok { stack with udpIoMessaging := kEipInvalidSocket }
  | .blocking _ => .error .assertion
  | .notBound handle =>
      .ok (({ stack with udpIoMessaging := handle }.log (.udpSocketCreated handle)).closeUdpSocket handle)
  | .bound handle => .ok ({ stack with udpIoMessaging := handle }.log (.udpSocketCreated handle))

def openConsumingPointToPointConnection (network : Network) (stack : Stack config) (slot : Slot config) :
    Bool × Stack config :=
  match stack.addressInfoItems.allocateSocketAddressInfoItem kCipItemIdSocketAddressInfoOriginatorToTarget with
  | none => (false, stack)
  | some position =>
      if network.qosAccepted = false then (false, stack)
      else
        let item : SocketAddressInfoItem :=
          ⟨kCipItemIdSocketAddressInfoOriginatorToTarget, 16, AF_INET, kOpenerEipIoUdpPort, INADDR_ANY⟩
        let stack := stack.modifyObject slot
          (setConsumingSocket stack.udpIoMessaging ⟨AF_INET, kOpenerEipIoUdpPort, network.peerAddress⟩)
        (true, { stack with addressInfoItems := stack.addressInfoItems.set item position })

/-- The port of a T→O item of the request, if there is one, is the destination port. -/
def openProducingPointToPointConnection (network : Network) (stack : Stack config) (slot : Slot config) :
    Bool × Stack config :=
  let items := stack.addressInfoItems
  let port :=
    match items.find kCipItemIdSocketAddressInfoTargetToOriginator with
    | some position => (items.get position).sinPort
    | none => kOpenerEipIoUdpPort
  let stack := stack.modifyObject slot (setRemoteAddress ⟨AF_INET, port, network.peerAddress⟩)
  if network.qosAccepted = false then (false, stack)
  else (true, stack.modifyObject slot (setProducingSocket stack.udpIoMessaging))

inductive UdpCommunicationDirection where
  | consuming
  | producing
  deriving DecidableEq, Repr

/-- The item a multicast connection uses; a T→O item gets the default multicast address. -/
def multicastItem (config : Configuration) (item : SocketAddressInfoItem) : SocketAddressInfoItem :=
  if item.typeId = kCipItemIdSocketAddressInfoTargetToOriginator then
    { item with
      length := 16
      sinFamily := AF_INET
      sinPort := kOpenerEipIoUdpPort
      sinAddr := config.startingMulticastAddress }
  else item

def setMulticastSocket (direction : UdpCommunicationDirection) (socket : Int) (item : SocketAddressInfoItem)
    (peerAddress : UInt32) (object : CipConnectionObject) : CipConnectionObject :=
  match direction with
  | .consuming => setConsumingSocket socket ⟨item.sinFamily, item.sinPort, peerAddress⟩ object
  | .producing =>
      setProducingSocket socket (setRemoteAddress ⟨item.sinFamily, item.sinPort, item.sinAddr⟩ object)

def openMulticastConnection (network : Network) (direction : UdpCommunicationDirection) (stack : Stack config)
    (slot : Slot config) : Bool × Stack config :=
  let typeId :=
    match direction with
    | .consuming => kCipItemIdSocketAddressInfoOriginatorToTarget
    | .producing => kCipItemIdSocketAddressInfoTargetToOriginator
  match stack.addressInfoItems.find typeId with
  | none => (false, stack)
  | some position =>
      let item := multicastItem config (stack.addressInfoItems.get position)
      let stack := { stack with addressInfoItems := stack.addressInfoItems.set item position }
      if item.sinFamily ≠ AF_INET then (false, stack)
      else if network.qosAccepted = false then (false, stack)
      else
        (true, stack.modifyObject slot
          (setMulticastSocket direction stack.udpIoMessaging item network.peerAddress))

/-- An exclusive owner takes the socket of the stream over from the connection that produces it. -/
def shareProducingSocket (stack : Stack config) (slot existing : Slot config) : Stack config :=
  if (stack.object slot).instanceType = .ioExclusiveOwner then
    let socket := (stack.object existing).producingSocket
    (stack.modifyObject slot (setProducingSocket socket)).modifyObject existing releaseProducingSocket
  else stack.modifyObject slot releaseProducingSocket

/-- The port of the item counts when the item is not a T→O item. -/
def openProducingMulticastConnection (network : Network) (stack : Stack config) (slot : Slot config) :
    Bool × Stack config :=
  let existing := stack.getExistingProducerIoConnection true (stack.object slot).producedPath.instanceId.toUInt32
  match stack.addressInfoItems.allocateSocketAddressInfoItem kCipItemIdSocketAddressInfoTargetToOriginator with
  | none => (false, stack)
  | some position =>
      let item := stack.addressInfoItems.get position
      let port :=
        if kCipItemIdSocketAddressInfoTargetToOriginator ≠ item.typeId then item.sinPort
        else kOpenerEipIoUdpPort
      let item := { item with typeId := kCipItemIdSocketAddressInfoTargetToOriginator }
      let stack := { stack with addressInfoItems := stack.addressInfoItems.set item position }
      match existing with
      | none => stack.openMulticastConnection network .producing slot
      | some existing =>
          let producedId := (stack.object existing).cipProducedConnectionId
          let stack := stack.modifyObject slot (connectionObjectSetCipProducedConnectionID producedId)
          let stack := stack.shareProducingSocket slot existing
          let item : SocketAddressInfoItem :=
            ⟨kCipItemIdSocketAddressInfoTargetToOriginator, 16, AF_INET, port, config.startingMulticastAddress⟩
          let stack := stack.modifyObject slot
            (setRemoteAddress ⟨AF_INET, port, config.startingMulticastAddress⟩)
          (true, { stack with addressInfoItems := stack.addressInfoItems.set item position })

/-- The test of the multicast result is inverted: an opened multicast connection is taken for a failure. -/
def openConsuming (network : Network) (stack : Stack config) (slot : Slot config) : Bool × Stack config :=
  match (stack.object slot).getOToTConnectionType with
  | .multicast =>
      let (opened, stack) := stack.openMulticastConnection network .consuming slot
      (!opened, stack)
  | .pointToPoint => stack.openConsumingPointToPointConnection network slot
  | _ => (true, stack)

def openProducing (network : Network) (stack : Stack config) (slot : Slot config) : Bool × Stack config :=
  match (stack.object slot).getTToOConnectionType with
  | .multicast => stack.openProducingMulticastConnection network slot
  | .pointToPoint => stack.openProducingPointToPointConnection network slot
  | _ => (true, stack)

def orConnectionFailure : Bool × Stack config → Except (Stop config) (Stack config)
  | (true, stack) => .ok stack
  | (false, stack) => stack.connectionFailure ExtendedStatus.success

def openCommunicationChannels (network : Network) (stack : Stack config) (slot : Slot config) :
    Except (Stop config) (Stack config) :=
  orStop (stack.createUdpSocket network.udpSocket) >>= fun stack =>
    orConnectionFailure (stack.openConsuming network slot) >>= fun stack =>
      orConnectionFailure (stack.openProducing network slot)

/-- Without a free node the list code writes through a null pointer. -/
def addNewActiveConnection (stack : Stack config) (slot : Slot config) : Except Fault (Stack config) :=
  match stack.connectionList.insertAtHead slot with
  | none => .error .nullNode
  | some connectionList => .ok ({ stack with connectionList }.modifyObject slot (·.setState .established))

/-- The request is copied, byte for byte, onto the selected connection object. -/
def connectionObjectDeepCopy (stack : Stack config) (slot : Slot config) : Stack config :=
  stack.setObject slot stack.dummy

def getIoConnectionForConnectionData (stack : Stack config) :
    Except (Stop config) (Slot config × Stack config) :=
  match stack.chooseIoConnection stack.dummy with
  | .error (extendedStatus, instanceType) =>
      { stack with dummy := stack.dummy.setInstanceType instanceType }.connectionFailure extendedStatus
  | .ok (choice, instanceType) =>
      orStop (stack.makeRoom choice) >>= fun stack =>
        let stack := { stack with dummy := stack.dummy.setInstanceType instanceType }
        .ok (choice.slot, stack.connectionObjectDeepCopy choice.slot)

def prepareIoConnection (stack : Stack config) (slot : Slot config) : Except (Stop config) (Stack config) :=
  match processProductionInhibitTime (stack.object slot) with
  | .error extendedStatus => stack.connectionFailure extendedStatus
  | .ok object =>
      let stack := stack.setObject slot (setIoConnectionCallbacks object)
      .ok ((stack.connectionObjectGeneralConfiguration slot).modifyObject slot clearInstances)

def setupConsumerSide (stack : Stack config) (slot : Slot config) : Except (Stop config) (Stack config) :=
  if (stack.object slot).getOToTConnectionType ≠ .null then
    stack.setupIoConnectionOriginatorToTargetConnectionPoint slot
  else .ok stack

def setupProducerSide (stack : Stack config) (slot : Slot config) : Except (Stop config) (Stack config) :=
  if (stack.object slot).getTToOConnectionType ≠ .null then
    stack.setupIoConnectionTargetToOriginatorConnectionPoint slot
  else .ok stack

def setupIoConnection (stack : Stack config) (slot : Slot config) : Except (Stop config) (Stack config) :=
  stack.prepareIoConnection slot >>= fun stack =>
    stack.setupConsumerSide slot >>= fun stack =>
      stack.setupProducerSide slot

def openIoConnection (network : Network) (stack : Stack config) :
    Except (Stop config) (Slot config × Stack config) :=
  stack.getIoConnectionForConnectionData >>= fun (slot, stack) =>
    stack.setupIoConnection slot >>= fun stack =>
      stack.handleSentConfigData slot >>= fun stack =>
        stack.openCommunicationChannels network slot >>= fun stack => .ok (slot, stack)

def establishIoConnection (network : Network) (stack : Stack config) : Except (Stop config) (Stack config) :=
  stack.openIoConnection network >>= fun (slot, stack) =>
    orStop (stack.addNewActiveConnection slot) >>= fun stack =>
      let object := stack.object slot
      .ok (stack.checkIoConnectionEvent object.consumedPath.instanceId object.producedPath.instanceId .opened)

def setClass3ConnectionCallbacks (object : CipConnectionObject) : CipConnectionObject :=
  { object with
    connectionCloseFunction := some .closeConnection
    connectionTimeoutFunction := some .class3ConnectionTimeoutHandler }

def establishClass3Connection (stack : Stack config) : Except (Stop config) (Stack config) :=
  match stack.getFreeExplicitConnection with
  | none => stack.connectionFailure ExtendedStatus.errorNoMoreConnectionsAvailable
  | some slot =>
      let stack := (stack.connectionObjectDeepCopy slot).connectionObjectGeneralConfiguration slot
      let stack := stack.modifyObject slot fun object =>
        setClass3ConnectionCallbacks (object.setInstanceType .explicitMessaging)
      orStop (stack.addNewActiveConnection slot)

end Stack

end EtherNetIP
