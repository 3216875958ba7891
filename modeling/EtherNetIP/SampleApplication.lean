import EtherNetIP.Operations

/-! The sample application and requests as an originator sends them.

The configuration is the one the repository builds: its connection numbers, its
pools and the connection points its application sets up. Runs that show a
failing input are runs of this configuration, or of one that differs from it in
the connection points.
-/

set_option autoImplicit false

namespace EtherNetIP

section Messages

def addNetworkConnectionParameters (isLfo : Bool) (parameters : UInt32) : List CipOctet :=
  if isLfo then addDintToMessage parameters else addIntToMessage parameters.toUInt16

def addForwardOpenHeader (isLfo : Bool) (header : ForwardOpenHeader) : List CipOctet :=
  addSintToMessage 0 ++ addSintToMessage 0 ++ addDintToMessage header.oToTConnectionId ++
    addDintToMessage header.tToOConnectionId ++ addIntToMessage header.connectionSerialNumber ++
    addIntToMessage header.originatorVendorId ++ addDintToMessage header.originatorSerialNumber ++
    addSintToMessage header.connectionTimeoutMultiplier ++ [0, 0, 0] ++
    addDintToMessage header.oToTRequestedPacketInterval ++
    addNetworkConnectionParameters isLfo header.oToTNetworkConnectionParameters ++
    addDintToMessage header.tToORequestedPacketInterval ++
    addNetworkConnectionParameters isLfo header.tToONetworkConnectionParameters ++
    addSintToMessage header.transportClassTrigger

/-- Only a large request carries parameters of more than 16 bits. -/
def FitsParameters (isLfo : Bool) (parameters : UInt32) : Prop :=
  isLfo = true ∨ parameters.toUInt16.toUInt32 = parameters

theorem readNetworkConnectionParameters_add {isLfo : Bool} {parameters : UInt32}
    (fits : FitsParameters isLfo parameters) (message : List CipOctet) :
    (readNetworkConnectionParameters isLfo).run (addNetworkConnectionParameters isLfo parameters ++ message) =
      (parameters, message) := by
  cases isLfo with
  | true => exact getUdintFromMessage_add message parameters
  | false =>
      have same : parameters.toUInt16.toUInt32 = parameters := by simpa [FitsParameters] using fits
      exact (run_bind_of_run (getUintFromMessage_add message parameters.toUInt16)).trans
        (congrArg (·, message) same)

theorem skipOctets_reserved (message : List CipOctet) :
    (skipOctets 3).run ([0, 0, 0] ++ message) = ((), message) := rfl

theorem readForwardOpenHeader_add {isLfo : Bool} {header : ForwardOpenHeader}
    (oToT : FitsParameters isLfo header.oToTNetworkConnectionParameters)
    (tToO : FitsParameters isLfo header.tToONetworkConnectionParameters) (path : List CipOctet) :
    (readForwardOpenHeader isLfo).run (addForwardOpenHeader isLfo header ++ path) = (header, path) := by
  unfold readForwardOpenHeader addForwardOpenHeader getUsintFromMessage
  simp only [List.append_assoc]
  rw [run_bind_of_run (getByteFromMessage_add _ 0), run_bind_of_run (getByteFromMessage_add _ 0),
    run_bind_of_run (getUdintFromMessage_add _ _), run_bind_of_run (getUdintFromMessage_add _ _),
    run_bind_of_run (getUintFromMessage_add _ _), run_bind_of_run (getUintFromMessage_add _ _),
    run_bind_of_run (getUdintFromMessage_add _ _), run_bind_of_run (getByteFromMessage_add _ _),
    run_bind_of_run (skipOctets_reserved _), run_bind_of_run (getUdintFromMessage_add _ _),
    run_bind_of_run (readNetworkConnectionParameters_add oToT _), run_bind_of_run (getUdintFromMessage_add _ _),
    run_bind_of_run (readNetworkConnectionParameters_add tToO _), run_bind_of_run (getByteFromMessage_add _ _)]
  rfl

end Messages

namespace SampleApplication

/-- The configuration with other exclusive-owner points; its assemblies are those of the application and
a second output and a second input. -/
def withExclusiveOwners (exclusiveOwnerConnections : List ConnectionPoint) : Configuration where
  numExplicitConns := 6
  exclusiveOwnerConnections
  inputOnlyConnections := [⟨152, 102, 103⟩]
  inputOnlyConnsPerConPath := 3
  listenOnlyConnections := [⟨153, 102, 103⟩]
  listenOnlyConnsPerConPath := 3
  numApplicationSpecificConnectableObjects := 1
  numberOfSupportedSessions := 20
  classes := [⟨kCipMessageRouterClassCode, [1]⟩]
  assemblies := [(101, 128), (102, 128), (103, 128), (111, 128), (112, 128), (152, 0), (153, 0), (154, 32)]
  identity := ⟨1, 12, 65001, 1, 0⟩
  ipAddress := 0x0A01A8C0
  networkMask := 0x00FFFFFF
  startingMulticastAddress := 0x2000C0EF
  incarnationId := 0x12340000
  consumeRunIdle := false
  produceRunIdle := false
  afterAssemblyDataReceived := fun _ _ => true
  beforeAssemblyDataSend := fun _ => true

def configuration : Configuration := withExclusiveOwners [⟨101, 102, 103⟩]

theorem exclusiveOwners_some : 0 < configuration.exclusiveOwnerConnections.length := by decide

def start (config : Configuration) : Stack config :=
  Stack.initialized config (fun instanceNumber => List.replicate ((config.assemblyLength instanceNumber).getD 0) 0) 120

def ends {config : Configuration} (operations : List Operation) (test : Stack config → Bool) : Bool :=
  match operations.foldlM Stack.step (start config) with
  | .ok stack => test stack
  | .error _ => false

theorem run_of_ends {config : Configuration} {operations : List Operation} {test : Stack config → Bool}
    (passes : ends operations test = true) :
    ∃ stack, operations.foldlM Stack.step (start config) = .ok stack ∧ test stack = true := by
  unfold ends at passes
  split at passes
  · rename_i stack run
    exact ⟨stack, run, passes⟩
  · cases passes

theorem exists_of_ends {config : Configuration} {operations : List Operation} {test : Stack config → Bool}
    (passes : ends operations test = true) : ∃ stack, Stack.Reached stack ∧ test stack = true := by
  obtain ⟨stack, run, passed⟩ := run_of_ends passes
  exact ⟨stack, ⟨_, _, operations, run⟩, passed⟩

/-- A Forward Open of one originator over its first session; nothing fails in the network. -/
def openRequest (connectionSerialNumber : UInt16) (oToT tToO : UInt32) (transportClassTrigger : UInt8)
    (path : List CipOctet) : Request where
  data :=
    addForwardOpenHeader false
      { oToTConnectionId := 0
        tToOConnectionId := 0x100
        connectionSerialNumber
        originatorVendorId := 1
        originatorSerialNumber := 7
        connectionTimeoutMultiplier := 0
        oToTRequestedPacketInterval := 10000
        oToTNetworkConnectionParameters := oToT
        tToORequestedPacketInterval := 10000
        tToONetworkConnectionParameters := tToO
        transportClassTrigger } ++
      UInt8.ofNat (path.length / 2) :: path
  requestDataSize := 36 + path.length
  originatorAddress := ⟨AF_INET, kOpenerEipIoUdpPort, 0x0B01A8C0⟩
  encapsulationSession := 1
  addressInfoItems := ⟨.zero, .zero⟩
  randomNumbers := [connectionSerialNumber]
  network := ⟨.bound 7, true, 0x0B01A8C0⟩

def openExplicit (connectionSerialNumber : UInt16) : Request :=
  openRequest connectionSerialNumber 0x43F8 0x43F8 0xA3 [0x20, 0x02, 0x24, 0x01]

def openIo (connectionSerialNumber : UInt16) (oToT tToO : UInt32) (output input : CipOctet) : Request :=
  openRequest connectionSerialNumber oToT tToO 0x01 [0x20, 0x04, 0x24, 103, 0x2C, output, 0x2C, input]

/-- The originator closes a connection by its serial number; the path is empty. -/
def closeRequest (connectionSerialNumber : UInt16) : Request :=
  { openExplicit connectionSerialNumber with
    data := [0, 0] ++ addConnectionTriad ⟨connectionSerialNumber, 1, 7⟩ ++ [0, 0]
    requestDataSize := 12 }

def sendUnitData (sessionHandle : CipSessionHandle) (connectionIdentifier : UInt32) (sequenceCount : UInt16)
    (request : List CipOctet) : SendUnitData where
  sessionHandle
  dataLength := UInt16.ofNat (22 + request.length)
  data := addDintToMessage 0 ++ addIntToMessage 0 ++ connectedRequest connectionIdentifier sequenceCount request
  leftOver := ⟨0, ⟨0, 0, ⟨0, 0⟩⟩, ⟨0, 0, []⟩, ⟨.zero, .zero⟩⟩
  originatorAddress := ⟨AF_INET, kOpenerEipIoUdpPort, 0x0B01A8C0⟩
  randomNumbers := [1000 + sequenceCount]
  network := ⟨.bound 7, true, 0x0B01A8C0⟩
  otherService := ⟨emptyResponse (octetAt request 0) kCipErrorSuccess, fun _ => [], 120⟩

def getVendor : List CipOctet := [0x0E, 3, 0x20, 0x01, 0x24, 0x01, 0x30, 0x01]

def timeOut : Operation := .manageConnections ⟨fun _ => 0⟩ 10000

def pointToPoint (size : UInt32) : UInt32 := 0x4800 ||| (size + 2)

def multicast (size : UInt32) : UInt32 := 0x2800 ||| (size + 2)

end SampleApplication

end EtherNetIP
