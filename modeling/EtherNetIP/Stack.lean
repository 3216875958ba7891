import EtherNetIP.Library.Outcome
import EtherNetIP.Cip.ConnectionList
import EtherNetIP.Cip.ConnectionObject
import Mathlib.Data.List.Find
import Mathlib.Tactic.Simps.Basic

/-! The configuration and the state of the stack.

A configuration fixes what the build and the application's set-up fix: the pool
sizes, the configured connection points, the registered classes and assemblies
and the application's call-backs. A slot names one statically allocated
connection object; only slots the configuration has can be named. The state
gathers the global variables, with one log of the calls that leave the stack.
-/

set_option autoImplicit false

namespace EtherNetIP

structure ConnectionPoint where
  outputAssembly : UInt32
  inputAssembly : UInt32
  configAssembly : UInt32
  deriving DecidableEq, Repr

structure CipClass where
  classId : UInt32
  instances : List CipInstanceNum
  deriving DecidableEq, Repr

structure Identity where
  vendorId : UInt16
  deviceType : UInt16
  productCode : UInt16
  majorRevision : UInt8
  minorRevision : UInt8
  deriving DecidableEq, Repr

structure Configuration where
  numExplicitConns : Nat
  exclusiveOwnerConnections : List ConnectionPoint
  inputOnlyConnections : List ConnectionPoint
  inputOnlyConnsPerConPath : Nat
  listenOnlyConnections : List ConnectionPoint
  listenOnlyConnsPerConPath : Nat
  numApplicationSpecificConnectableObjects : Nat
  numberOfSupportedSessions : Nat
  /-- The registered classes other than the assembly class. -/
  classes : List CipClass
  /-- The assembly instances with the length of their data attribute. -/
  assemblies : List (CipInstanceNum × Nat)
  identity : Identity
  ipAddress : UInt32
  networkMask : UInt32
  startingMulticastAddress : UInt32
  incarnationId : UInt32
  consumeRunIdle : Bool
  produceRunIdle : Bool
  /-- Whether the application accepts data received for an assembly. -/
  afterAssemblyDataReceived : CipInstanceNum → List CipOctet → Bool
  /-- Whether the application has changed an assembly's data before they are sent. -/
  beforeAssemblyDataSend : CipInstanceNum → Bool

namespace Configuration

/-- The size of the static node array: each input-only and listen-only path counts once. -/
def kNodesAmount (config : Configuration) : Nat :=
  config.numExplicitConns + config.inputOnlyConnections.length +
    config.exclusiveOwnerConnections.length + config.listenOnlyConnections.length

/-- The length of an assembly's data attribute. Number zero designates the class object, which has none. -/
def assemblyLength (config : Configuration) (instanceNumber : CipInstanceNum) : Option Nat :=
  if instanceNumber = 0 then none else config.assemblies.lookup instanceNumber

end Configuration

inductive Slot (config : Configuration) where
  | explicit (i : Fin config.numExplicitConns)
  | exclusiveOwner (i : Fin config.exclusiveOwnerConnections.length)
  | inputOnly (i : Fin config.inputOnlyConnections.length) (j : Fin config.inputOnlyConnsPerConPath)
  | listenOnly (i : Fin config.listenOnlyConnections.length) (j : Fin config.listenOnlyConnsPerConPath)
  deriving DecidableEq, Repr

instance {config : Configuration} : LawfulBEq (Slot config) := inferInstance

def Slot.instanceType {config : Configuration} : Slot config → ConnectionObjectInstanceType
  | .explicit _ => .explicitMessaging
  | .exclusiveOwner _ => .ioExclusiveOwner
  | .inputOnly _ _ => .ioInputOnly
  | .listenOnly _ _ => .ioListenOnly

structure SocketAddressInfoItem where
  typeId : UInt16
  length : UInt16
  sinFamily : UInt16
  sinPort : UInt16
  sinAddr : UInt32
  deriving DecidableEq, Repr

def SocketAddressInfoItem.zero : SocketAddressInfoItem := ⟨0, 0, 0, 0, 0⟩

structure AddressInfoItems where
  first : SocketAddressInfoItem
  second : SocketAddressInfoItem
  deriving DecidableEq, Repr

structure DeviceStatus where
  status : UInt16
  extStatus : UInt16
  deriving DecidableEq, Repr

structure SocketTimer where
  socket : Int
  lastUpdate : MilliSeconds
  deriving DecidableEq, Repr

structure DelayedEncapsulationMessage where
  socket : Int
  timeOut : Int32
  message : List CipOctet
  deriving DecidableEq

inductive IoConnectionEvent where
  | opened
  | timedOut
  | closed
  deriving DecidableEq, Repr

structure IoFrame where
  destination : SocketAddress
  connectionIdentifier : UInt32
  /-- Present in a sequenced address item, absent in a connected address item. -/
  sequenceNumber : Option UInt32
  sequenceCount : Option UInt16
  runIdleState : Option UInt32
  data : List CipOctet
  deriving DecidableEq, Repr

/-- The calls that leave the stack. -/
inductive Effect where
  | tcpSocketAccepted (socket : Int)
  | checkIoConnectionEvent (output input : CipInstanceNum) (event : IoConnectionEvent)
  | runIdleChanged (runIdleState : UInt32)
  | shutdownSocket (socket : Int)
  | closeSocket (socket : Int)
  | sendUdpData (frame : IoFrame)
  | udpSocketCreated (socket : Int)
  | sendDelayedMessage (socket : Int) (message : List CipOctet)
  deriving DecidableEq

/-- The calls that open, use or close a socket that carries data. -/
def Effect.isTraffic : Effect → Bool
  | .closeSocket _ | .sendUdpData _ | .udpSocketCreated _ => true
  | _ => false

inductive Fault where
  | nullNode
  | nullConnection
  | nullFunction
  | nullInstance
  | nullSocketTimer
  | assertion
  | typeConfusion
  | invalidSessionHandle
  | endlessLoop
  | randomNumbersExhausted
  | messageOverflow
  | outOfFuel
  deriving DecidableEq, Repr

structure Stack (config : Configuration) where
  connectionList : ConnectionList config.kNodesAmount (Slot config)
  object : Slot config → CipConnectionObject
  /-- The buffer object `g_dummy_connection_object`. -/
  dummy : CipConnectionObject
  connectionId : UInt16
  /-- `g_config_data_buffer` with its length. -/
  configData : Option (List CipOctet)
  assemblyData : CipInstanceNum → List CipOctet
  addressInfoItems : AddressInfoItems
  registeredSessions : List Int
  timestamps : List SocketTimer
  delayedEncapsulationMessages : List DelayedEncapsulationMessage
  udpIoMessaging : Int
  actualTime : MilliSeconds
  encapsulationInactivityTimeout : UInt16
  runIdleState : UInt32
  deviceStatus : DeviceStatus
  /-- The newest effect first. -/
  effects : List Effect

variable {config : Configuration}

namespace Stack

/-- The stack after its set-up, with cleared pools and no session. -/
def initialized (config : Configuration) (assemblyData : CipInstanceNum → List CipOctet)
    (encapsulationInactivityTimeout : UInt16) : Stack config where
  connectionList := .initialized
  object := fun _ => .zeroed
  dummy := .zeroed
  connectionId := 18
  configData := none
  assemblyData := assemblyData
  addressInfoItems := ⟨.zero, .zero⟩
  registeredSessions := List.replicate config.numberOfSupportedSessions kEipInvalidSocket
  timestamps := List.replicate config.numberOfSupportedSessions ⟨kEipInvalidSocket, 0⟩
  delayedEncapsulationMessages := List.replicate 2 ⟨kEipInvalidSocket, 0, []⟩
  udpIoMessaging := kEipInvalidSocket
  actualTime := 0
  encapsulationInactivityTimeout := encapsulationInactivityTimeout
  runIdleState := 0
  deviceStatus := ⟨0, 0⟩
  effects := []

@[simps] def log (stack : Stack config) (effect : Effect) : Stack config :=
  { stack with effects := effect :: stack.effects }

def traffic (stack : Stack config) : List Effect := stack.effects.filter Effect.isTraffic

theorem traffic_log (stack : Stack config) (effect : Effect) :
    (stack.log effect).traffic = if effect.isTraffic then effect :: stack.traffic else stack.traffic :=
  List.filter_cons

@[simps] def setObject (stack : Stack config) (slot : Slot config) (object : CipConnectionObject) :
    Stack config :=
  { stack with object := Function.update stack.object slot object }

theorem setObject_objects (stack : Stack config) (slot : Slot config) (object : CipConnectionObject) :
    (stack.setObject slot object).object = Function.update stack.object slot object := rfl

def modifyObject (stack : Stack config) (slot : Slot config)
    (change : CipConnectionObject → CipConnectionObject) : Stack config :=
  stack.setObject slot (change (stack.object slot))

def connections (stack : Stack config) : List (Slot config × CipConnectionObject) :=
  stack.connectionList.toList.map fun slot => (slot, stack.object slot)

def findConnection (stack : Stack config) (test : CipConnectionObject → Bool) : Option (Slot config) :=
  stack.connectionList.toList.find? fun slot => test (stack.object slot)

theorem findConnection_mem {stack : Stack config} {test : CipConnectionObject → Bool} {slot : Slot config}
    (found : stack.findConnection test = some slot) :
    slot ∈ stack.connectionList.toList ∧ test (stack.object slot) = true :=
  ⟨List.mem_of_find?_eq_some found, by simpa using List.find?_some found⟩

theorem findConnection_eq_none_iff {stack : Stack config} {test : CipConnectionObject → Bool} :
    stack.findConnection test = none ↔
      ∀ slot ∈ stack.connectionList.toList, test (stack.object slot) = false := by
  simp [findConnection, List.find?_eq_none]

theorem findConnection_congr {stack other : Stack config} {test : CipConnectionObject → Bool}
    (list : other.connectionList = stack.connectionList)
    (same : ∀ slot ∈ stack.connectionList.toList, other.object slot = stack.object slot) :
    other.findConnection test = stack.findConnection test := by
  unfold findConnection
  rw [list]
  exact List.find?_congr fun slot listed => by rw [same slot listed]

end Stack

end EtherNetIP
