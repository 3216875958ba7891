import EtherNetIP.Cip.AttributeServices
import EtherNetIP.Encap.EnipMessage

/-! The services that get and set lists of attributes.

A request has a count and so many attribute numbers, each followed by a value if
it is to be set. The reply begins with the count too, for which a place is kept
until the entries are written. Before each entry the space that is left is
compared with the length the attribute announces; how many octets the request
has is not looked at.
-/

set_option autoImplicit false

namespace EtherNetIP

def kGetAttributeList : UInt8 := 0x03

def kCipErrorPartialTransfer : UInt8 := 0x06
def kCipErrorAttributeListError : UInt8 := 0x0A
def kCipErrorAttributeNotGettable : UInt8 := 0x2C

namespace EnipMessage

def moveOn (count : Nat) (message : EnipMessage) : EnipMessage :=
  { message with
    currentMessagePosition := message.currentMessagePosition + count
    usedMessageLength := message.usedMessageLength + UInt64.ofNat count }

/-- The count is written to its place in front, for which the used length has been counted before. -/
def addCount (attributeCount : UInt16) (message : EnipMessage) : EnipMessage :=
  let inFront : EnipMessage :=
    { message with currentMessagePosition := 0, usedMessageLength := message.usedMessageLength - 2 }
  { inFront.add (addIntToMessage attributeCount) with currentMessagePosition := message.currentMessagePosition }

end EnipMessage

def AttributeEntry.type : AttributeEntry → CipDataType
  | none => .any
  | some attr => attr.type

/-- The length an attribute announces, or that of the status of one that is not there. -/
def neededMessageSpace (device : CipDevice) : Option AttributeEntry → Int
  | none => 2
  | some none => getCipDataTypeLength .any []
  | some (some attr) => getCipDataTypeLength attr.type (attr.kind.front (device.memory.read attr.data))

structure Listing where
  device : CipDevice
  request : RequestData
  generalStatus : UInt8
  message : EnipMessage

namespace Listing

def getUint (listing : Listing) : UInt16 × Listing :=
  ((getUintFromMessage.run (listing.request.next 2)).1,
    { listing with request := (listing.request.look 2).skip 2 })

def add (listing : Listing) (octets : List CipOctet) : Listing :=
  { listing with message := listing.message.add octets }

def addStatus (listing : Listing) (status : UInt8) : Listing := listing.add (addSintToMessage status ++ addSintToMessage 0)

def answer (listing : Listing) (generalStatus : UInt8) : Listing := { listing with generalStatus }

def addCount (listing : Listing) (attributeCount : UInt16) : Listing :=
  { listing with message := listing.message.addCount attributeCount }

/-- There are 33 octets kept for the rest of the frame. -/
def remainingMessageSpace (listing : Listing) : Int :=
  (PC_OPENER_ETHERNET_BUFFER_SIZE : Int) - listing.message.usedMessageLength.toNat - 33

end Listing

/-- How a pass of the loop ends: it goes on, it is left because there is no space, or the service returns at once. -/
inductive Pass where
  | next (listing : Listing)
  | full (listing : Listing)
  | returned (listing : Listing)

/-- Nothing has been written behind the end of the message. -/
def Pass.inBuffer : Pass → Bool
  | .next listing | .full listing | .returned listing =>
      decide (listing.message.currentMessagePosition ≤ PC_OPENER_ETHERNET_BUFFER_SIZE)

/-- What a service does with an entry whose number has been written. None is a call through a null pointer. -/
abbrev EntryAccess := UInt16 → Option AttributeEntry → Listing → Option Pass

def getListed (cipClass : AttributeClass) : EntryAccess
  | _, none, listing =>
      some (.next ((listing.addStatus kCipErrorAttributeNotSupported).answer kCipErrorAttributeListError))
  | attributeNumber, some entry, listing =>
      if attributeNumber ∈ cipClass.getSingleBitMask then
        let listing := listing.addStatus kCipErrorSuccess
        entry.map fun attr =>
          .next (listing.add (attr.encode (listing.device.memory.read attr.data) listing.message.usedMessageLength))
      else some (.next ((listing.addStatus kCipErrorAttributeNotGettable).answer kCipErrorAttributeListError))

/-- The status of the entry is written before the value is decoded, and the general status is what the decode function
makes it. The value of an attribute that cannot be set is passed over by its own length. -/
def setListed (environment : ServiceEnvironment) (request : CipMessageRouterRequest) (cipClass : AttributeClass) : EntryAccess
  | _, none, listing =>
      some (.next ((listing.addStatus kCipErrorAttributeNotSupported).answer kCipErrorAttributeListError))
  | attributeNumber, some entry, listing =>
      if attributeNumber ∈ cipClass.setBitMask then
        let listing := listing.addStatus kCipErrorSuccess
        entry.bind fun attr => attr.decode.bind fun decode =>
          (decode.run environment request attr.data ⟨listing.device, listing.request, listing.generalStatus⟩).map
            fun (_, decoding) => .next ⟨decoding.device, decoding.request, decoding.generalStatus, listing.message⟩
      else
        let listing := listing.addStatus kCipErrorAttributeNotSetable
        let attributeDataLength := getCipDataTypeLength entry.type (listing.request.next 2)
        let looked := listing.request.look entry.type.lengthOctets
        if attributeDataLength ≠ 0 then
          some (.next ({ listing with request := looked.skip attributeDataLength }.answer kCipErrorAttributeListError))
        else some (.returned ({ listing with request := looked }.answer kCipErrorPartialTransfer))

/-- One pass of the loop. None is also an octet that is written behind the end of the message. -/
def pass (access : EntryAccess) (inst : CipInstance) (listing : Listing) : Option Pass :=
  let (attributeNumber, listing) := listing.getUint
  let entry := inst.getCipAttribute attributeNumber
  if neededMessageSpace listing.device entry > listing.remainingMessageSpace then some (.full listing)
  else (access attributeNumber entry (listing.add (addIntToMessage attributeNumber))).filter Pass.inBuffer

def passes (access : EntryAccess) (inst : CipInstance) : Nat → Listing → Option Pass
  | 0, listing => some (.next listing)
  | count + 1, listing =>
      match pass access inst listing with
      | some (.next listing) => passes access inst count listing
      | other => other

structure ListReply where
  response : Response
  device : CipDevice
  request : RequestData

def Listing.reply (request : CipMessageRouterRequest) (listing : Listing) : ListReply where
  response :=
    { emptyReply request listing.generalStatus with
      message := listing.message.messageBuffer.take listing.message.usedMessageLength.toNat }
  device := listing.device
  request := listing.request

/-- There is no space for another entry, but the count is that of the request. -/
def Listing.partialTransfer (listing : Listing) : Listing :=
  if listing.generalStatus ≠ kCipErrorAttributeListError then listing.answer kCipErrorPartialTransfer else listing

def attributeList (access : EntryAccess) (environment : ServiceEnvironment) (inst : CipInstance)
    (request : CipMessageRouterRequest) (device : CipDevice) : Option ListReply :=
  let started : Listing := ⟨device, .ofRequest environment request, kCipErrorSuccess, .initialized⟩
  let (attributeCountRequest, listing) := started.getUint
  if attributeCountRequest ≠ 0 then
    -- two octets are left for the count, which is written behind the passes
    (passes access inst attributeCountRequest.toNat { listing with message := listing.message.moveOn 2 }).map fun
      | .next listing => (listing.addCount attributeCountRequest).reply request
      | .full listing => (listing.addCount attributeCountRequest).partialTransfer.reply request
      | .returned listing => listing.reply request
  else some ((listing.answer kCipErrorAttributeListError).reply request)

def getAttributeList (environment : ServiceEnvironment) (cipClass : AttributeClass) (inst : CipInstance)
    (request : CipMessageRouterRequest) (device : CipDevice) : Option ListReply :=
  attributeList (getListed cipClass) environment inst request device

def setAttributeList (environment : ServiceEnvironment) (cipClass : AttributeClass) (inst : CipInstance)
    (request : CipMessageRouterRequest) (device : CipDevice) : Option ListReply :=
  attributeList (setListed environment request cipClass) environment inst request device

end EtherNetIP
