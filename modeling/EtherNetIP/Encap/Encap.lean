import EtherNetIP.Encap.ConnectedMessages
import EtherNetIP.Encap.EnipMessage

/-! The encapsulation layer.

A packet is a header and the data of a command; what follows the data is the
next packet. Each command writes its reply into an outgoing message that is
empty at first. The replies that carry a common packet are assembled behind the
place of the header, which is written once their length is known.
-/

set_option autoImplicit false

namespace EtherNetIP

open Library
open Stack (EncapsulationProtocolErrorCode)

variable {config : Configuration}

def ENCAPSULATION_HEADER_LENGTH : Nat := 24
def kSenderContextSize : Nat := 8
def kOpenerEthernetPort : UInt16 := 44818
def kCipItemIdListServiceResponse : UInt16 := 0x0100
def kListIdentityDefaultDelayTime : UInt16 := 2000
def kListIdentityMinimumDelayTime : UInt16 := 500

inductive EipStatus where
  | ok
  | okSend
  | error
  deriving DecidableEq, Repr

inductive EncapsulationCommand where
  | noOperation
  | listServices
  | listIdentity
  | listInterfaces
  | registerSession
  | unregisterSession
  | sendRequestReplyData
  | sendUnitData
  deriving DecidableEq, Repr

def EncapsulationCommand.ofCode (code : UInt16) : Option EncapsulationCommand :=
  if code = 0x0000 then some .noOperation
  else if code = 0x0004 then some .listServices
  else if code = 0x0063 then some .listIdentity
  else if code = 0x0064 then some .listInterfaces
  else if code = 0x0065 then some .registerSession
  else if code = 0x0066 then some .unregisterSession
  else if code = 0x006F then some .sendRequestReplyData
  else if code = 0x0070 then some .sendUnitData
  else none

structure Received where
  buffer : List CipOctet
  length : Nat
  within : length ≤ buffer.length

/-- The header of a packet; the data are the octets from behind it to the end of the receive buffer. -/
structure EncapsulationData where
  commandCode : UInt16
  dataLength : UInt16
  sessionHandle : CipSessionHandle
  status : UInt32
  senderContext : List CipOctet
  options : UInt32
  data : List CipOctet
  deriving DecidableEq, Repr

def getSenderContextFromMessage : FromMessage (List CipOctet) := do
  let message ← get
  set (message.drop kSenderContextSize)
  return message.take kSenderContextSize

def readEncapsulationData : FromMessage EncapsulationData := do
  let commandCode ← getUintFromMessage
  let dataLength ← getUintFromMessage
  let sessionHandle ← getUdintFromMessage
  let status ← getUdintFromMessage
  let senderContext ← getSenderContextFromMessage
  let options ← getUdintFromMessage
  return ⟨commandCode, dataLength, sessionHandle, status, senderContext, options, ← get⟩

/-- The header and the number of octets behind the packet, which is negative when it is not complete. -/
def createEncapsulationStructure (received : Received) : Except Fault (EncapsulationData × Int) :=
  let data := (readEncapsulationData.run received.buffer).1
  if received.length ≤ 2147483647 then
    .ok (data, received.length - ENCAPSULATION_HEADER_LENGTH - data.dataLength.toNat)
  else .error .assertion

/-- What the identity object answers besides the configured attributes. The length of a name is an octet. -/
structure IdentityAttributes where
  serialNumber : UInt32
  productName : List CipOctet
  productNameFits : productName.length < 256
  state : UInt8

/-- What a packet meets: the sender, the answers of the system and of the other services, and what earlier
packets left. A service has an array of two words for its additional status. -/
structure Surroundings where
  originatorAddress : SocketAddress
  randomNumbers : List UInt16
  network : Network
  leftOver : CipCommonPacketFormatData
  identity : IdentityAttributes
  otherService : OtherService
  statusFits : otherService.reply.additionalStatus.length ≤ MAX_SIZE_OF_ADD_STATUS

def Surroundings.circumstances (surroundings : Surroundings) (encapsulationSession : CipSessionHandle) :
    Circumstances where
  originatorAddress := surroundings.originatorAddress
  encapsulationSession
  randomNumbers := surroundings.randomNumbers
  network := surroundings.network
  otherService := surroundings.otherService

def Surroundings.sendUnitData (surroundings : Surroundings) (receivedData : EncapsulationData) : SendUnitData where
  sessionHandle := receivedData.sessionHandle
  dataLength := receivedData.dataLength
  data := receivedData.data
  leftOver := surroundings.leftOver
  originatorAddress := surroundings.originatorAddress
  randomNumbers := surroundings.randomNumbers
  network := surroundings.network
  otherService := surroundings.otherService

section Headers

/-- The octets of a reply's header; the length is cut to its field. -/
def encapsulationHeader (receivedData : EncapsulationData) (commandSpecificDataLength : UInt64)
    (sessionHandle : CipSessionHandle) (status : EncapsulationProtocolErrorCode) : List CipOctet :=
  addIntToMessage receivedData.commandCode ++ addIntToMessage commandSpecificDataLength.toUInt16 ++
    addDintToMessage sessionHandle ++ addDintToMessage status.code ++ receivedData.senderContext ++
    addDintToMessage 0

namespace EnipMessage

def generateEncapsulationHeader (receivedData : EncapsulationData) (commandSpecificDataLength : UInt64)
    (sessionHandle : CipSessionHandle) (status : EncapsulationProtocolErrorCode) (message : EnipMessage) :
    EnipMessage :=
  message.add (encapsulationHeader receivedData commandSpecificDataLength sessionHandle status)

/-- The position goes behind the header, the count does not go along. -/
def skipEncapsulationHeader (message : EnipMessage) : EnipMessage :=
  { message with currentMessagePosition := message.currentMessagePosition + ENCAPSULATION_HEADER_LENGTH }

/-- The header of a reply that has been assembled behind its place; the position goes back to its end. -/
def headerBefore (receivedData : EncapsulationData) (message : EnipMessage) : EnipMessage :=
  let start := { message with currentMessagePosition := 0 }
  let headed := start.generateEncapsulationHeader receivedData start.usedMessageLength receivedData.sessionHandle
    .success
  { headed with currentMessagePosition := message.currentMessagePosition }

/-- A reply with its header; none when octets of it overwrite the fields behind the buffer. -/
def encapsulate (receivedData : EncapsulationData) (reply : List CipOctet) (message : EnipMessage) :
    Option EnipMessage :=
  let skipped := message.skipEncapsulationHeader
  if skipped.currentMessagePosition + reply.length ≤ PC_OPENER_ETHERNET_BUFFER_SIZE then
    some ((skipped.add reply).headerBefore receivedData)
  else none

/-- The message kept of the last reply; it is cleared while there is none. The octets of its header are
overwritten before it is sent again. -/
def lastReplySent : Option (List CipOctet) → EnipMessage
  | none => initialized
  | some reply =>
      let added := initialized.skipEncapsulationHeader.add reply
      { added with usedMessageLength := added.usedMessageLength + UInt64.ofNat ENCAPSULATION_HEADER_LENGTH }

def regenerateHeader (receivedData : EncapsulationData) (message : EnipMessage) : EnipMessage :=
  { message with
    usedMessageLength := message.usedMessageLength - UInt64.ofNat ENCAPSULATION_HEADER_LENGTH
    }.headerBefore receivedData

end EnipMessage

end Headers

section ListCommands

/-- `g_service_information`: the name is "Communications", filled up with zeros. -/
def serviceInformation : List CipOctet :=
  addIntToMessage kCipItemIdListServiceResponse ++ addIntToMessage (24 - 4) ++ addIntToMessage 1 ++
    addIntToMessage (0x0020 ||| 0x0100) ++
    [67, 111, 109, 109, 117, 110, 105, 99, 97, 116, 105, 111, 110, 115, 0, 0]

def handleReceivedListServicesCommand (receivedData : EncapsulationData) (outgoingMessage : EnipMessage) :
    EnipMessage :=
  (outgoingMessage.generateEncapsulationHeader receivedData (2 + 24) 0 .success).add
    (addIntToMessage 1 ++ serviceInformation)

def handleReceivedListInterfacesCommand (receivedData : EncapsulationData) (outgoingMessage : EnipMessage) :
    EnipMessage :=
  (outgoingMessage.generateEncapsulationHeader receivedData 2 0 .success).add (addIntToMessage 0)

def listIdentityGetCipIdentityItemLength (identity : IdentityAttributes) : UInt16 :=
  UInt16.ofNat (34 + identity.productName.length)

def encapsulateIpAddress (port : UInt16) (address : UInt32) : List CipOctet :=
  addIntToMessage (ntohs AF_INET) ++ addIntToMessage port ++ addDintToMessage address

def encodeListIdentityCipIdentityItem (identity : IdentityAttributes) (stack : Stack config) : List CipOctet :=
  addIntToMessage 0x0C ++ addIntToMessage (listIdentityGetCipIdentityItemLength identity) ++
    addIntToMessage Stack.kSupportedProtocolVersion ++
    encapsulateIpAddress (ntohs kOpenerEthernetPort) config.ipAddress ++ List.replicate 8 0 ++
    addIntToMessage config.identity.vendorId ++ addIntToMessage config.identity.deviceType ++
    addIntToMessage config.identity.productCode ++ addSintToMessage config.identity.majorRevision ++
    addSintToMessage config.identity.minorRevision ++ addIntToMessage stack.deviceStatus.status ++
    addDintToMessage identity.serialNumber ++ addSintToMessage (UInt8.ofNat identity.productName.length) ++
    identity.productName ++ addSintToMessage identity.state

def encapsulateListIdentityResponseMessage (receivedData : EncapsulationData) (identity : IdentityAttributes)
    (stack : Stack config) (outgoingMessage : EnipMessage) : EnipMessage :=
  let length := listIdentityGetCipIdentityItemLength identity + 6
  (outgoingMessage.generateEncapsulationHeader receivedData length.toUInt64 0 .success).add
    (addIntToMessage 1 ++ encodeListIdentityCipIdentityItem identity stack)

/-- The largest delay is the first word of the sender context. -/
def determineDelayTime (receivedData : EncapsulationData) (random : UInt16) : Int32 :=
  let maximumDelayTime := (getUintFromMessage.run receivedData.senderContext).1
  let maximumDelayTime :=
    if maximumDelayTime = 0 then kListIdentityDefaultDelayTime
    else if kListIdentityMinimumDelayTime > maximumDelayTime then kListIdentityMinimumDelayTime
    else maximumDelayTime
  (random % maximumDelayTime).toUInt32.toInt32

/-- The answer to a broadcast is kept for later, if there is a free place. -/
def handleReceivedListIdentityCommandUdp (socket : Int) (receivedData : EncapsulationData)
    (surroundings : Surroundings) (stack : Stack config) : Stack config :=
  match stack.delayedEncapsulationMessages.findIdx? (·.socket == kEipInvalidSocket) with
  | none => stack
  | some index =>
      let message := encapsulateListIdentityResponseMessage receivedData surroundings.identity stack .initialized
      let delayed := ⟨socket, determineDelayTime receivedData (surroundings.randomNumbers.headD 0),
        message.messageBuffer.take message.usedMessageLength.toNat⟩
      { stack with delayedEncapsulationMessages := stack.delayedEncapsulationMessages.set index delayed }

end ListCommands

/-- What a command leaves: its status, the outgoing message and the stack. Of a message whose fields are overwritten
nothing is known but that it is to be sent. -/
structure Answer (config : Configuration) where
  returnValue : EipStatus
  outgoingMessage : Option EnipMessage
  stack : Stack config

/-- The message as it can be used further; an overwritten one ends the run. -/
def Answer.message (answer : Answer config) : Except Fault EnipMessage :=
  match answer.outgoingMessage with
  | none => .error .messageOverflow
  | some message => .ok message

namespace Stack

section Commands

variable (surroundings : Surroundings) (receivedData : EncapsulationData) (outgoingMessage : EnipMessage)

def answerHeader (status : EncapsulationProtocolErrorCode) (stack : Stack config) : Answer config :=
  let message := outgoingMessage.generateEncapsulationHeader receivedData 0 receivedData.sessionHandle status
  ⟨.okSend, some message, stack⟩

def answerRegisterSessionCommand (socket : Int) (stack : Stack config) : Except Fault (Answer config) := do
  let (protocolVersion, data) := getUintFromMessage.run receivedData.data
  let (optionFlag, _) := getUintFromMessage.run data
  let ((sessionHandle, status), stack) ←
    stack.handleReceivedRegisterSessionCommand socket protocolVersion optionFlag
  let headed := outgoingMessage.generateEncapsulationHeader receivedData 4 sessionHandle status
  return ⟨.okSend, some (headed.add (addIntToMessage 1 ++ addIntToMessage 0)), stack⟩

def answerUnregisterSessionCommand (stack : Stack config) : Except Fault (Answer config) := do
  match ← stack.handleReceivedUnregisterSessionCommand receivedData.sessionHandle with
  | (none, stack) => return ⟨.ok, some outgoingMessage, stack⟩
  | (some status, stack) => return stack.answerHeader receivedData outgoingMessage status

def notifyCommonPacketFormat (stack : Stack config) : Except Fault (Answer config) :=
  match createCommonPacketFormatStructure surroundings.leftOver (receivedData.data.drop 6)
    (receivedData.dataLength.toNat - 6) with
  | none => .ok ⟨.error, some outgoingMessage, stack⟩
  | some items =>
      let parsed := { stack with addressInfoItems := items.addressInfoItems }
      if items.addressItem.typeId = kCipItemIdNullAddress then
        if items.dataItem.typeId = kCipItemIdUnconnectedDataItem then do
          let executed ← parsed.notifyMessageRouter (surroundings.circumstances receivedData.sessionHandle) items
            items.dataItem.data items.dataItem.length.toInt16
          let reply := assembleLinearMessage executed.reply executed.items
          -- the length of the frame is not compared with that of the buffer
          return ⟨.okSend, outgoingMessage.encapsulate receivedData reply, executed.stack⟩
        else .ok (parsed.answerHeader receivedData outgoingMessage .incorrectData)
      else .ok (parsed.answerHeader receivedData outgoingMessage .incorrectData)

def handleReceivedSendRequestResponseDataCommand (stack : Stack config) : Except Fault (Answer config) :=
  if receivedData.dataLength < 6 then .ok ⟨.ok, some outgoingMessage, stack⟩
  else if stack.checkRegisteredSessions receivedData.sessionHandle then
    stack.notifyCommonPacketFormat surroundings receivedData outgoingMessage
  else .ok (stack.answerHeader receivedData .initialized .invalidSessionHandle)

/-- The status of a connected message: something is sent if something was written. -/
def statusOfConnected (outgoingMessage : EnipMessage) : EipStatus :=
  if outgoingMessage.usedMessageLength ≠ 0 then .okSend else .ok

/-- `NotifyConnectedCommonPacketFormat`, as far as it writes the outgoing message. A repeated request is
answered in any case. -/
def answerConnectedMessage (stack : Stack config) : Except Fault (Answer config) := do
  match ← stack.handleReceivedSendUnitDataCommand (surroundings.sendUnitData receivedData) with
  | (.dropped, stack) | (.noData _, stack) =>
      return ⟨statusOfConnected outgoingMessage, some outgoingMessage, stack⟩
  -- zeroed octets are sent where no reply has been stored yet
  | (.repeated _ _ reply, stack) =>
      return ⟨.okSend, some ((EnipMessage.lastReplySent reply).regenerateHeader receivedData), stack⟩
  | (.executed _ _ reply, stack) =>
      let outgoingMessage := outgoingMessage.encapsulate receivedData reply
      return ⟨outgoingMessage.elim .okSend statusOfConnected, outgoingMessage, stack⟩

def answerSendUnitDataCommand (stack : Stack config) : Except Fault (Answer config) :=
  if receivedData.dataLength < 6 then .ok ⟨.ok, some outgoingMessage, stack⟩
  else if stack.checkRegisteredSessions receivedData.sessionHandle then
    stack.answerConnectedMessage surroundings receivedData outgoingMessage
  else .ok (stack.answerHeader receivedData .initialized .invalidSessionHandle)

def handleTcpCommand (socket : Int) (stack : Stack config) : Except Fault (Answer config) :=
  match EncapsulationCommand.ofCode receivedData.commandCode with
  | some .noOperation => .ok ⟨.ok, some outgoingMessage, stack⟩
  | some .listServices => .ok ⟨.okSend, some (handleReceivedListServicesCommand receivedData outgoingMessage), stack⟩
  | some .listIdentity =>
      let message := encapsulateListIdentityResponseMessage receivedData surroundings.identity stack outgoingMessage
      .ok ⟨.okSend, some message, stack⟩
  | some .listInterfaces =>
      .ok ⟨.okSend, some (handleReceivedListInterfacesCommand receivedData outgoingMessage), stack⟩
  | some .registerSession => stack.answerRegisterSessionCommand receivedData outgoingMessage socket
  | some .unregisterSession => stack.answerUnregisterSessionCommand receivedData outgoingMessage
  | some .sendRequestReplyData =>
      stack.handleReceivedSendRequestResponseDataCommand surroundings receivedData outgoingMessage
  | some .sendUnitData => stack.answerSendUnitDataCommand surroundings receivedData outgoingMessage
  | none => .ok (stack.answerHeader receivedData outgoingMessage .invalidCommand)

/-- The commands of a packet received over UDP; those that are not to be sent so leave the message empty. -/
def handleUdpCommand (socket : Int) (unicast : Bool) (stack : Stack config) : Answer config :=
  match EncapsulationCommand.ofCode receivedData.commandCode with
  | some .listServices => ⟨.okSend, some (handleReceivedListServicesCommand receivedData outgoingMessage), stack⟩
  | some .listIdentity =>
      if unicast then
        let message := encapsulateListIdentityResponseMessage receivedData surroundings.identity stack outgoingMessage
        ⟨.okSend, some message, stack⟩
      else ⟨.ok, some outgoingMessage, handleReceivedListIdentityCommandUdp socket receivedData surroundings stack⟩
  | some .listInterfaces => ⟨.okSend, some (handleReceivedListInterfacesCommand receivedData outgoingMessage), stack⟩
  -- the status was set in front of the switch, and no reply is written
  | _ => ⟨.okSend, some outgoingMessage, stack⟩

end Commands

/-- A complete packet without options is served; the number is that of the octets behind it. -/
def handlePacket (received : Received) (serve : EncapsulationData → Except Fault (Answer config))
    (stack : Stack config) : Except Fault (Int × Answer config) := do
  let (encapsulationData, remainingBytes) ← createEncapsulationStructure received
  if remainingBytes < 0 then return (0, ⟨.error, some .initialized, stack⟩)
  else if encapsulationData.options ≠ 0 then return (remainingBytes, ⟨.ok, some .initialized, stack⟩)
  else
    let answer ← serve { encapsulationData with status := EncapsulationProtocolErrorCode.success.code }
    return (remainingBytes, answer)

def handleReceivedExplictTcpData (surroundings : Surroundings) (socket : Int) (received : Received)
    (stack : Stack config) : Except Fault (Int × Answer config) :=
  stack.handlePacket received fun encapsulationData =>
    stack.handleTcpCommand surroundings encapsulationData .initialized socket

def handleReceivedExplictUdpData (surroundings : Surroundings) (socket : Int) (unicast : Bool) (received : Received)
    (stack : Stack config) : Except Fault (Int × Answer config) :=
  stack.handlePacket received fun encapsulationData =>
    .ok (stack.handleUdpCommand surroundings encapsulationData .initialized socket unicast)

end Stack

end EtherNetIP
