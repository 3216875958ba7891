import EtherNetIP.Cip.IoConnection

/-! The Forward Open and Forward Close services.

A (Large) Forward Open is read into the buffer object, checked and, when it
asks for a new connection, opened; every refusal is answered from the buffer
object. A request comes with the random numbers and the network answers the
stack gets while it serves it.
-/

set_option autoImplicit false

namespace EtherNetIP

open Library CipConnectionObject

variable {config : Configuration}

def kForwardClose : UInt8 := 0x4E
def kForwardOpen : UInt8 := 0x54
def kLargeForwardOpen : UInt8 := 0x5B

/-- A request to the connection manager. The octets are those from its data on to the end of the
receive buffer, the address items those of the packet it came in. -/
structure Request where
  data : List CipOctet
  requestDataSize : Nat
  originatorAddress : SocketAddress
  encapsulationSession : CipSessionHandle
  addressInfoItems : AddressInfoItems
  randomNumbers : List UInt16
  network : Network
  deriving DecidableEq, Repr

structure Response where
  replyService : UInt8
  generalStatus : UInt8
  additionalStatus : List UInt16
  message : List CipOctet
  addressInfoItems : List SocketAddressInfoItem
  deriving DecidableEq, Repr

structure ConnectionTriad where
  connectionSerialNumber : UInt16
  originatorVendorId : UInt16
  originatorSerialNumber : UInt32
  deriving DecidableEq, Repr

def CipConnectionObject.connectionTriad (object : CipConnectionObject) : ConnectionTriad :=
  ⟨object.connectionSerialNumber, object.originatorVendorId, object.originatorSerialNumber⟩

def addConnectionTriad (triad : ConnectionTriad) : List CipOctet :=
  addIntToMessage triad.connectionSerialNumber ++ addIntToMessage triad.originatorVendorId ++
    addDintToMessage triad.originatorSerialNumber

/-- The items of a success reply: the second one only together with the first. -/
def AddressInfoItems.toSend (items : AddressInfoItems) : List SocketAddressInfoItem :=
  if items.first.typeId ≠ 0 then
    if items.second.typeId ≠ 0 then [items.first, items.second] else [items.first]
  else []

/-- A wrong size is answered with the size the request should have asked for. -/
def additionalStatus (object : CipConnectionObject) (refusal : Refusal) : List UInt16 :=
  if refusal.generalStatus = kCipErrorNotEnoughData ∨ refusal.generalStatus = kCipErrorTooMuchData then []
  else if refusal.extendedStatus = ExtendedStatus.errorInvalidOToTConnectionSize then
    [refusal.extendedStatus, object.correctOriginatorToTargetSize]
  else if refusal.extendedStatus = ExtendedStatus.errorInvalidTToOConnectionSize then
    [refusal.extendedStatus, object.correctTargetToOriginatorSize]
  else [refusal.extendedStatus]

def forwardOpenReplyService (object : CipConnectionObject) : UInt8 :=
  0x80 ||| if object.isLargeForwardOpen then kLargeForwardOpen else kForwardOpen

def assembleForwardOpenResponse (items : AddressInfoItems) (object : CipConnectionObject) : Response where
  replyService := forwardOpenReplyService object
  generalStatus := kCipErrorSuccess
  additionalStatus := []
  message :=
    addDintToMessage object.cipConsumedConnectionId ++ addDintToMessage object.cipProducedConnectionId ++
      addConnectionTriad object.connectionTriad ++ addDintToMessage object.oToTRequestedPacketInterval ++
      addDintToMessage object.tToORequestedPacketInterval ++ addSintToMessage 0 ++ addSintToMessage 0
  addressInfoItems := items.toSend

def assembleForwardOpenRefusal (object : CipConnectionObject) (refusal : Refusal) : Response where
  replyService := forwardOpenReplyService object
  generalStatus := refusal.generalStatus
  additionalStatus := additionalStatus object refusal
  message := addConnectionTriad object.connectionTriad ++ addSintToMessage 0 ++ addSintToMessage 0
  addressInfoItems := []

inductive OpenConnectionFunction where
  | establishClass3Connection
  | establishIoConnection
  deriving DecidableEq, Repr

/-- The two objects the stack registers; the entries left for the application have no function. -/
def Configuration.connectionManagementList (config : Configuration) :
    List (UInt32 × Option OpenConnectionFunction) :=
  (kCipMessageRouterClassCode, some .establishClass3Connection) ::
    (kCipAssemblyClassCode, some .establishIoConnection) ::
    List.replicate config.numApplicationSpecificConnectableObjects (0, none)

namespace Stack

/-- The first random number no listed connection has. A number that is taken makes the function call
itself, and what that call returns is taken by none. -/
def generateRandomConnectionNumber (stack : Stack config) : List UInt16 → Except Fault UInt16
  | [] => .error .randomNumbersExhausted
  | randNum :: rest =>
      if stack.connectionList.toList.any fun slot => (stack.object slot).connectionNumber == randNum then
        stack.generateRandomConnectionNumber rest
      else .ok randNum

def checkForExistingConnection (stack : Stack config) (object : CipConnectionObject) : Option (Slot config) :=
  stack.findConnection fun other => other.state == .established && equalConnectionTriad object other

/-- What is read of the request before anything is checked. -/
def readForwardOpen (isLfo : Bool) (request : Request) (stack : Stack config) :
    Except Fault (List CipOctet × Stack config) :=
  let stack := { stack with addressInfoItems := request.addressInfoItems }
  let (header, data) := (readForwardOpenHeader isLfo).run request.data
  stack.generateRandomConnectionNumber request.randomNumbers >>= fun connectionNumber =>
    let object := { stack.dummy with isLargeForwardOpen := isLfo }.initializeFromMessage header connectionNumber
    let dummy := { object with
      associatedEncapsulationSession := request.encapsulationSession
      originatorAddress := request.originatorAddress }
    .ok (data, { stack with dummy })

def parseConnectionPath (request : Request) (data : List CipOctet) (stack : Stack config) :
    Except (Stop config) (Stack config) :=
  match EtherNetIP.parseConnectionPath config stack.dummy stack.configData data request.requestDataSize with
  | .error (refusal, reader) =>
      { stack with dummy := reader.object, configData := reader.configData }.refuse
        refusal.generalStatus refusal.extendedStatus
  | .ok reader => .ok { stack with dummy := reader.object, configData := reader.configData }

/-- An entry without function opens nothing and counts as success. -/
def openConnection (network : Network) (stack : Stack config) : Except (Stop config) (Stack config) :=
  match config.connectionManagementList.lookup stack.dummy.configurationPath.classId with
  | none => stack.refuse kEipStatusErrorOctet ExtendedStatus.inconsistentApplicationPathCombo
  | some none => .ok stack
  | some (some .establishClass3Connection) => stack.establishClass3Connection
  | some (some .establishIoConnection) => stack.establishIoConnection network

def handleNonNullNonMatchingForwardOpenRequest (request : Request) (data : List CipOctet)
    (stack : Stack config) : Except (Stop config) (Stack config) :=
  if stack.dummy.getProductionTrigger = .invalid then
    stack.connectionFailure ExtendedStatus.errorTransportClassAndTriggerCombinationNotSupported
  else stack.parseConnectionPath request data >>= openConnection request.network

def handleNonNullMatchingForwardOpenRequest (stack : Stack config) : Except (Stop config) (Stack config) :=
  stack.connectionFailure ExtendedStatus.errorConnectionInUseOrDuplicateForwardOpen

/-- Null requests are refused, matching or not. -/
def handleNullForwardOpenRequest (stack : Stack config) : Except (Stop config) (Stack config) :=
  stack.connectionFailure ExtendedStatus.nullForwardOpenNotSupported

/-- The originator is on the subnet, as multicast frames do not leave it. -/
def onSubnet (config : Configuration) (originatorAddress : SocketAddress) : Bool :=
  originatorAddress.sAddr &&& config.networkMask == config.ipAddress &&& config.networkMask

def isNullRequest (object : CipConnectionObject) : Bool :=
  object.getOToTConnectionType == .null && object.getTToOConnectionType == .null

def handleForwardOpenRequest (request : Request) (data : List CipOctet) (stack : Stack config) :
    Except (Stop config) (Stack config) :=
  if isNullRequest stack.dummy then stack.handleNullForwardOpenRequest
  else if (stack.checkForExistingConnection stack.dummy).isSome then
    stack.handleNonNullMatchingForwardOpenRequest
  else stack.handleNonNullNonMatchingForwardOpenRequest request data

def checkForwardOpen (request : Request) (data : List CipOctet) (stack : Stack config) :
    Except (Stop config) (Stack config) :=
  if stack.dummy.getOToTConnectionType = .invalid then
    stack.connectionFailure ExtendedStatus.errorInvalidOToTConnectionType
  else if stack.dummy.getTToOConnectionType = .invalid then
    stack.connectionFailure ExtendedStatus.errorInvalidTToOConnectionType
  else if stack.dummy.getTToOConnectionType = .multicast ∧ onSubnet config request.originatorAddress = false then
    stack.connectionFailure ExtendedStatus.notConfiguredForOffSubnetMulticast
  else stack.handleForwardOpenRequest request data

/-- A success is answered from the connection at the head of the list, a refusal from the buffer object. -/
def answerForwardOpen : Except (Stop config) (Stack config) → Except Fault (Response × Stack config)
  | .error (.fault fault) => .error fault
  | .error (.refused refusal stack) =>
      .ok (assembleForwardOpenRefusal stack.dummy refusal, { stack with dummy := stack.dummy.setState .nonExistent })
  | .ok stack =>
      match stack.connectionList.toList.head? with
      | none => .error .nullConnection
      | some slot => .ok (assembleForwardOpenResponse stack.addressInfoItems (stack.object slot), stack)

def forwardOpenRoutine (isLfo : Bool) (request : Request) (stack : Stack config) :
    Except Fault (Response × Stack config) :=
  stack.readForwardOpen isLfo request >>= fun (data, stack) =>
    answerForwardOpen (stack.checkForwardOpen request data)

def forwardOpen (request : Request) (stack : Stack config) : Except Fault (Response × Stack config) :=
  stack.forwardOpenRoutine false request

def largeForwardOpen (request : Request) (stack : Stack config) : Except Fault (Response × Stack config) :=
  stack.forwardOpenRoutine true request

def readForwardCloseHeader : FromMessage ConnectionTriad := do
  skipOctets 2
  let connectionSerialNumber ← getUintFromMessage
  let originatorVendorId ← getUintFromMessage
  let originatorSerialNumber ← getUdintFromMessage
  return ⟨connectionSerialNumber, originatorVendorId, originatorSerialNumber⟩

/-- An error reply repeats the path size of the request. -/
def assembleForwardCloseResponse (triad : ConnectionTriad) (data : List CipOctet)
    (extendedErrorCode : UInt16) : Response :=
  let success := extendedErrorCode = ExtendedStatus.success
  let wrongCloser := extendedErrorCode = ExtendedStatus.wrongCloser
  { replyService := 0x80 ||| kForwardClose
    generalStatus :=
      if success then kCipErrorSuccess
      else if wrongCloser then kCipErrorPrivilegeViolation
      else kCipErrorConnectionFailure
    additionalStatus := if success ∨ wrongCloser then [] else [extendedErrorCode]
    message :=
      addConnectionTriad triad ++ addSintToMessage (if success then 0 else octetAt data 0) ++ addSintToMessage 0
    addressInfoItems := [] }

def hasTriad (triad : ConnectionTriad) (object : CipConnectionObject) : Bool :=
  (object.state == .established || object.state == .timedOut) && object.connectionTriad == triad

/-- Only the originator's address may close the connection. -/
def closeRequestedConnection (request : Request) (stack : Stack config) : Except Fault (Response × Stack config) :=
  let (triad, data) := readForwardCloseHeader.run request.data
  match stack.findConnection (hasTriad triad) with
  | none =>
      .ok (assembleForwardCloseResponse triad data ExtendedStatus.errorConnectionTargetConnectionNotFound, stack)
  | some slot =>
      if (stack.object slot).connectionCloseFunction = none then .error .assertion
      else if request.originatorAddress.sAddr = (stack.object slot).originatorAddress.sAddr then
        stack.connectionCloseFunction slot >>= fun stack =>
          .ok (assembleForwardCloseResponse triad data ExtendedStatus.success, stack)
      else .ok (assembleForwardCloseResponse triad data ExtendedStatus.wrongCloser, stack)

/-- The reply carries no address items. -/
def forwardClose (request : Request) (stack : Stack config) : Except Fault (Response × Stack config) :=
  let items := request.addressInfoItems
  { stack with
    addressInfoItems := ⟨{ items.first with typeId := 0 }, { items.second with typeId := 0 }⟩
  }.closeRequestedConnection request

end Stack

end EtherNetIP
