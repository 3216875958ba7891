import EtherNetIP.Encap.Cpf

/-! The message router.

A request names its service and the path of an object. The services that open,
close and reset connections are executed here; what the others answer and write
comes with the request, as they touch neither connections nor the structure the
reply is assembled from.
-/

set_option autoImplicit false

namespace EtherNetIP

open Library

variable {config : Configuration}

def kCipErrorInvalidParameter : UInt8 := 0x20
def kCipErrorPathSizeInvalid : UInt8 := 0x26

def kCipIdentityClassCode : UInt16 := 0x01
def kCipConnectionManagerClassCode : UInt16 := 0x06
def kReset : UInt8 := 0x05

/-- The class is a number of 16 bits, unlike that of a connection path. -/
structure CipEpath where
  pathSize : UInt8
  classId : UInt16
  instanceNumber : CipInstanceNum
  attributeNumber : UInt16
  deriving DecidableEq, Repr

/-- The data are the octets from there on to the end of the receive buffer, the size is unsigned. -/
structure CipMessageRouterRequest where
  service : UInt8
  requestPath : CipEpath
  requestDataSize : UInt64
  data : List CipOctet
  deriving DecidableEq, Repr

section Decoding

/-- A path half decoded: the words counted so far and the read position. -/
structure EpathDecoder where
  epath : CipEpath
  decodedElements : Nat
  message : List CipOctet
  deriving DecidableEq, Repr

namespace EpathDecoder

def eightBit (decoder : EpathDecoder) (write : UInt16 → CipEpath) : EpathDecoder :=
  { epath := write (octetAt decoder.message 1).toUInt16
    decodedElements := decoder.decodedElements + 1
    message := decoder.message.drop 2 }

def sixteenBit (decoder : EpathDecoder) (write : UInt16 → CipEpath) : EpathDecoder :=
  let (value, message) := getUintFromMessage.run (decoder.message.drop 2)
  { epath := write value, decodedElements := decoder.decodedElements + 2, message }

/-- One segment. Of a 16-bit member both words are counted but only one is skipped. -/
def decodeSegment (decoder : EpathDecoder) : Option EpathDecoder :=
  let segment := octetAt decoder.message 0
  let epath := decoder.epath
  if segment &&& 0xE0 = 0xE0 then none
  else if segment = 0x20 then some (decoder.eightBit ({ epath with classId := · }))
  else if segment = 0x21 then some (decoder.sixteenBit ({ epath with classId := · }))
  else if segment = 0x24 then some (decoder.eightBit ({ epath with instanceNumber := · }))
  else if segment = 0x25 then some (decoder.sixteenBit ({ epath with instanceNumber := · }))
  else if segment = 0x30 then some (decoder.eightBit ({ epath with attributeNumber := · }))
  else if segment = 0x31 then some (decoder.sixteenBit ({ epath with attributeNumber := · }))
  else if segment = 0x28 then
    some { decoder with decodedElements := decoder.decodedElements + 1, message := decoder.message.drop 2 }
  else if segment = 0x29 then
    some { decoder with decodedElements := decoder.decodedElements + 2, message := decoder.message.drop 2 }
  else none

/-- The loop over the segments; each counts a word at least, so the size of the path is enough fuel. -/
def decodeSegments : Nat → EpathDecoder → Option EpathDecoder
  | 0, decoder => some decoder
  | fuel + 1, decoder =>
      if decoder.decodedElements < decoder.epath.pathSize.toNat then
        decoder.decodeSegment >>= decodeSegments fuel
      else some decoder

end EpathDecoder

def decodePaddedEPath (message : List CipOctet) : Option (CipEpath × Nat × List CipOctet) :=
  let pathSize := octetAt message 0
  (EpathDecoder.decodeSegments pathSize.toNat ⟨⟨pathSize, 0, 0, 0⟩, 0, message.tail⟩).map fun decoder =>
    (decoder.epath, 2 * decoder.decodedElements + 1, decoder.message)

/-- A request and its service, or the error it is answered with. The length is a signed number of 16 bits;
it is compared and diminished as an unsigned one. -/
def createMessageRouterRequestStructure (data : List CipOctet) (dataLength : Int16) :
    UInt8 × Except UInt8 CipMessageRouterRequest :=
  let service := octetAt data 0
  let dataLength := dataLength - 1
  match decodePaddedEPath data.tail with
  | none => (service, .error kCipErrorPathSegmentError)
  | some (requestPath, numberOfDecodedBytes, data) =>
      let unsignedLength := dataLength.toInt64.toUInt64
      if UInt64.ofNat numberOfDecodedBytes > unsignedLength then (service, .error kCipErrorPathSizeInvalid)
      else
        (service, .ok ⟨service, requestPath, unsignedLength - UInt64.ofNat numberOfDecodedBytes, data⟩)

end Decoding

/-- The services that concern connections. -/
inductive Service where
  | forwardOpen
  | largeForwardOpen
  | forwardClose
  | reset
  | other
  deriving DecidableEq, Repr

def CipMessageRouterRequest.dispatch (request : CipMessageRouterRequest) : Service :=
  let path := request.requestPath
  if path.classId = kCipConnectionManagerClassCode ∧ path.instanceNumber = 1 then
    if request.service = kForwardOpen then .forwardOpen
    else if request.service = kLargeForwardOpen then .largeForwardOpen
    else if request.service = kForwardClose then .forwardClose
    else .other
  else if path.classId = kCipIdentityClassCode ∧ path.instanceNumber = 1 ∧ request.service = kReset then .reset
  else .other

/-- What the services other than these answer and write. None of them returns the error status, with which
there would be no reply. -/
structure OtherService where
  reply : Response
  assemblyData : CipInstanceNum → List CipOctet
  encapsulationInactivityTimeout : UInt16

/-- The circumstances of a request: who sent it, the answers of the system and those of the other services. -/
structure Circumstances where
  originatorAddress : SocketAddress
  encapsulationSession : CipSessionHandle
  randomNumbers : List UInt16
  network : Network
  otherService : OtherService

def Circumstances.request (circumstances : Circumstances) (request : CipMessageRouterRequest)
    (addressInfoItems : AddressInfoItems) : Request where
  data := request.data
  requestDataSize := request.requestDataSize.toNat
  originatorAddress := circumstances.originatorAddress
  encapsulationSession := circumstances.encapsulationSession
  addressInfoItems
  randomNumbers := circumstances.randomNumbers
  network := circumstances.network

/-- What the connection manager writes into the packet structure: a null address item and the type of
an unconnected data item. -/
def unconnectedItems (items : CipCommonPacketFormatData) (response : Response) (addressInfoItems : AddressInfoItems) :
    CipCommonPacketFormatData :=
  { items with
    itemCount := UInt16.ofNat (2 + response.addressInfoItems.length)
    addressItem := { items.addressItem with typeId := kCipItemIdNullAddress, length := 0 }
    dataItem := { items.dataItem with typeId := kCipItemIdUnconnectedDataItem }
    addressInfoItems }

def emptyResponse (service generalStatus : UInt8) : Response where
  replyService := 0x80 ||| service
  generalStatus
  additionalStatus := []
  message := []
  addressInfoItems := []

/-- The reset type of the request; type 0 when it carries none, no type when it carries too much. -/
def CipMessageRouterRequest.resetType (request : CipMessageRouterRequest) : Option CipOctet :=
  if request.requestDataSize > 1 then none
  else if request.requestDataSize = 1 then some (octetAt request.data 0)
  else some 0

namespace Stack

/-- The part of a reset that concerns the stack; type 1 sets the inactivity time-out back first. -/
def cipResetService (request : CipMessageRouterRequest) (stack : Stack config) :
    Except Fault (Response × Stack config) :=
  match request.resetType with
  | none => .ok (emptyResponse request.service kCipErrorTooMuchData, stack)
  | some resetType =>
      if resetType = 0 then do
        let stack ← stack.closeAllConnections
        return (emptyResponse request.service kCipErrorSuccess, stack)
      else if resetType = 1 then do
        let stack ← { stack with encapsulationInactivityTimeout := 120 }.closeAllConnections
        return (emptyResponse request.service kCipErrorSuccess, stack)
      else .ok (emptyResponse request.service kCipErrorInvalidParameter, stack)

structure Executed (config : Configuration) where
  reply : Response
  items : CipCommonPacketFormatData
  stack : Stack config

def unconnected (items : CipCommonPacketFormatData) (answered : Response × Stack config) : Executed config :=
  ⟨answered.1, unconnectedItems items answered.1 answered.2.addressInfoItems, answered.2⟩

def executeService (circumstances : Circumstances) (items : CipCommonPacketFormatData)
    (request : CipMessageRouterRequest) (stack : Stack config) : Except Fault (Executed config) :=
  let asked := circumstances.request request items.addressInfoItems
  match request.dispatch with
  | .forwardOpen => (stack.forwardOpen asked).map (unconnected items)
  | .largeForwardOpen => (stack.largeForwardOpen asked).map (unconnected items)
  | .forwardClose => (stack.forwardClose asked).map (unconnected items)
  | .reset => (stack.cipResetService request).map fun answered => ⟨answered.1, items, answered.2⟩
  | .other =>
      let other := circumstances.otherService
      .ok ⟨other.reply, items, { stack with
        assemblyData := other.assemblyData
        encapsulationInactivityTimeout := other.encapsulationInactivityTimeout }⟩

def notifyMessageRouter (circumstances : Circumstances) (items : CipCommonPacketFormatData) (data : List CipOctet)
    (dataLength : Int16) (stack : Stack config) : Except Fault (Executed config) :=
  match createMessageRouterRequestStructure data dataLength with
  | (service, .error status) => .ok ⟨emptyResponse service status, items, stack⟩
  | (_, .ok request) => stack.executeService circumstances items request

end Stack

end EtherNetIP
