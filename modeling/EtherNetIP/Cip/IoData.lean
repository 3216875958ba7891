import EtherNetIP.Cip.Closing

/-! Sending and receiving the data of I/O connections.

A producing connection sends its input assembly, a consuming connection writes
received data to its output assembly. Reception is modelled from the parsed
items of the packet on.
-/

set_option autoImplicit false

namespace EtherNetIP

open CipConnectionObject

variable {config : Configuration}

def kCipItemIdConnectionAddress : UInt16 := 0x00A1
def kCipItemIdConnectedDataItem : UInt16 := 0x00B1
def kCipItemIdSequencedAddressItem : UInt16 := 0x8002

def seqGt32 (a b : UInt32) : Bool := 0 < (a - b).toInt32

def seqLeq16 (a b : UInt16) : Bool := (a - b).toInt16 ≤ 0

section DeviceStatus

def kMajorRecoverableFault : UInt16 := 0x0400
def kMajorUnrecoverableFault : UInt16 := 0x0800
def kMajorFault : UInt16 := 0x0050
def kAtLeastOneIoConnectionInRunMode : UInt16 := 0x0060
def kAtLeastOneIoConnectionEstablishedAllInIdleMode : UInt16 := 0x0070
def kExtStatusMask : UInt16 := 0x00F0

namespace DeviceStatus

/-- A major fault overrides the extended device status. -/
def mergeStatusAndExtStatus (device : DeviceStatus) : DeviceStatus :=
  let statusFlags := device.status &&& ~~~kExtStatusMask
  let extStatus :=
    if statusFlags &&& (kMajorRecoverableFault ||| kMajorUnrecoverableFault) ≠ 0 then kMajorFault
    else device.extStatus &&& kExtStatusMask
  { device with status := statusFlags ||| extStatus }

def cipIdentitySetExtendedDeviceStatus (device : DeviceStatus) (extendedStatus : UInt16) : DeviceStatus :=
  { device with extStatus := extendedStatus &&& kExtStatusMask }.mergeStatusAndExtStatus

/-- `SetDeviceStatus`, with which the application sets the whole attribute. -/
def setDeviceStatus (status : UInt16) : DeviceStatus := ⟨status, status &&& kExtStatusMask⟩

end DeviceStatus

def extendedStatusOf (header : UInt32) : UInt16 :=
  if header &&& 1 = 1 then kAtLeastOneIoConnectionInRunMode else kAtLeastOneIoConnectionEstablishedAllInIdleMode

end DeviceStatus

/-- The length and data of the assembly an instance pointer designates. The class object, which instance
number zero designates, has no byte array attribute to read. -/
def Stack.producedData (stack : Stack config) : Option CipInstanceNum → Except Fault (Nat × List CipOctet)
  | none => .error .nullInstance
  | some instanceNumber =>
      match config.assemblyLength instanceNumber with
      | none => .error .typeConfusion
      | some length => .ok (length, (stack.assemblyData instanceNumber).take length)

namespace Stack

/-- The counters a sent frame advances; the 16-bit one only when the application has new data. -/
def countFrame (hasChanged : Bool) (object : CipConnectionObject) : CipConnectionObject :=
  { object with
    eipLevelSequenceCountProducing := object.eipLevelSequenceCountProducing + 1
    sequenceCountProducing :=
      if hasChanged then object.sequenceCountProducing + 1 else object.sequenceCountProducing }

/-- The frame an object sends, its counters already advanced. -/
def ioFrame (config : Configuration) (runIdleState : UInt32) (object : CipConnectionObject) (length : Nat)
    (data : List CipOctet) : IoFrame where
  destination := object.remoteAddress
  connectionIdentifier := object.cipProducedConnectionId
  sequenceNumber :=
    if object.getTransportClass ≠ .class0 then some object.eipLevelSequenceCountProducing else none
  sequenceCount := if object.getTransportClass = .class1 then some object.sequenceCountProducing else none
  runIdleState := if config.produceRunIdle ∧ length ≠ 0 then some runIdleState else none
  data := data

def sendConnectedData (stack : Stack config) (slot : Slot config) : Except Fault (Stack config) := do
  let producing := (stack.object slot).producingInstance
  let (length, data) ← stack.producedData producing
  let stack := stack.modifyObject slot (countFrame ((producing.map config.beforeAssemblyDataSend).getD false))
  let items := stack.addressInfoItems
  let stack := { stack with
    addressInfoItems := ⟨{ items.first with typeId := 0 }, { items.second with typeId := 0 }⟩ }
  return stack.log (.sendUdpData (ioFrame config stack.runIdleState (stack.object slot) length data))

/-- The instance must have a byte array to write to; the result tells whether the data were accepted. -/
def notifyAssemblyConnectedDataReceived (stack : Stack config) (instanceNumber : CipInstanceNum)
    (data : List CipOctet) (dataLength : Nat) : Except Fault (Bool × Stack config) :=
  match config.assemblyLength instanceNumber with
  | none => .error .typeConfusion
  | some length =>
      if length ≠ dataLength then .ok (false, stack)
      else
        let received := (data ++ List.replicate dataLength 0).take dataLength
        .ok (config.afterAssemblyDataReceived instanceNumber received,
          { stack with assemblyData := Function.update stack.assemblyData instanceNumber received })

def receiveRunIdle (stack : Stack config) (header : UInt32) : Stack config :=
  let stack := { stack with
    deviceStatus := stack.deviceStatus.cipIdentitySetExtendedDeviceStatus (extendedStatusOf header) }
  let stack := if stack.runIdleState ≠ header then stack.log (.runIdleChanged header) else stack
  { stack with runIdleState := header }

/-- The data behind the headers go to the assembly, unless their sequence count is not newer. -/
def receiveAssemblyData (stack : Stack config) (consuming : Option CipInstanceNum) (noNewData : Bool)
    (data : List CipOctet) (dataLength : UInt16) : Except Fault (Stack config) :=
  if noNewData then .ok stack
  else
    match consuming with
    | none => .error .nullInstance
    | some instanceNumber => do
        let (_, stack) ← stack.notifyAssemblyConnectedDataReceived instanceNumber data dataLength.toNat
        return stack

def receiveBehindSequenceCount (stack : Stack config) (consuming : Option CipInstanceNum) (noNewData : Bool)
    (data : List CipOctet) (dataLength : UInt16) : Except Fault (Stack config) :=
  if dataLength > 0 then
    if config.consumeRunIdle then
      let (header, data) := getUdintFromMessage.run data
      (stack.receiveRunIdle header).receiveAssemblyData consuming noNewData data (dataLength - 4)
    else stack.receiveAssemblyData consuming noNewData data dataLength
  else .ok stack

/-- The length is a 16-bit number: the removal of a header that is not there wraps around. -/
def handleReceivedIoConnectionData (stack : Stack config) (slot : Slot config) (data : List CipOctet)
    (dataLength : UInt16) : Except Fault (Stack config) :=
  let object := stack.object slot
  if object.getTransportClass = .class1 then
    let (sequenceBuffer, data) := getUintFromMessage.run data
    let noNewData := seqLeq16 sequenceBuffer object.sequenceCountConsuming
    (stack.modifyObject slot ({ · with sequenceCountConsuming := sequenceBuffer })).receiveBehindSequenceCount
      object.consumingInstance noNewData data (dataLength - 2)
  else stack.receiveBehindSequenceCount object.consumingInstance false data dataLength

/-- The items of a received connected message. The data are the octets from the data item's on to the end of
the receive buffer. -/
structure ConnectedData where
  addressItemTypeId : UInt16
  connectionIdentifier : UInt32
  sequenceNumber : UInt32
  dataItemTypeId : UInt16
  dataItemLength : UInt16
  data : List CipOctet
  fromAddress : UInt32

def getConnectedObject (stack : Stack config) (connectionId : UInt32) : Option (Slot config) :=
  stack.findConnection fun object =>
    object.state == .established && connectionId == object.cipConsumedConnectionId

def resetLastPackageInactivityTimer (object : CipConnectionObject) : CipConnectionObject :=
  { object with lastPackageWatchdogTimer := object.calculateRegularInactivityWatchdogTimerValue }

def acceptSequenceNumber (sequenceNumber : UInt32) (object : CipConnectionObject) : CipConnectionObject :=
  { object with
    inactivityWatchdogTimer := object.calculateRegularInactivityWatchdogTimerValue
    eipLevelSequenceCountConsuming := sequenceNumber
    eipFirstLevelSequenceCountReceived := true }

/-- A packet of the originator keeps the connection alive; one with a newer number is also handed on. -/
def receiveFromOriginator (stack : Stack config) (slot : Slot config) (received : ConnectedData) :
    Except Fault (Stack config) :=
  let stack := stack.modifyObject slot resetLastPackageInactivityTimer
  let object := stack.object slot
  -- strictly newer: a packet with the same number again is not handed on
  if seqGt32 received.sequenceNumber object.eipLevelSequenceCountConsuming ∨
      object.eipFirstLevelSequenceCountReceived = false then
    let stack := stack.modifyObject slot (acceptSequenceNumber received.sequenceNumber)
    match object.connectionReceiveDataFunction with
    | none => .ok stack
    | some .handleReceivedIoConnectionData =>
        stack.handleReceivedIoConnectionData slot received.data received.dataItemLength
  else .ok stack

def handleReceivedConnectedData (stack : Stack config) (received : ConnectedData) :
    Except Fault (Stack config) :=
  if received.addressItemTypeId = kCipItemIdConnectionAddress ∨
      received.addressItemTypeId = kCipItemIdSequencedAddressItem then
    if received.dataItemTypeId = kCipItemIdConnectedDataItem then
      match stack.getConnectedObject received.connectionIdentifier with
      | none => .ok stack
      | some slot =>
          if (stack.object slot).originatorAddress.sAddr = received.fromAddress then
            stack.receiveFromOriginator slot received
          else .ok stack
    else .ok stack
  else .ok stack

end Stack

end EtherNetIP
