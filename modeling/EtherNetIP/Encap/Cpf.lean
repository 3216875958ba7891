import EtherNetIP.Cip.ForwardOpen

/-! Packets in the common packet format.

A packet is an item count, an address item, a data item and up to two socket
address items. One structure holds the items of the packet that is served: what
a packet does not bring is left from an earlier one, a service may write into
it, and the reply is assembled from it.
-/

set_option autoImplicit false

namespace EtherNetIP

def kCipItemIdNullAddress : UInt16 := 0x0000
def kCipItemIdUnconnectedDataItem : UInt16 := 0x00B2

structure AddressData where
  connectionIdentifier : UInt32
  sequenceNumber : UInt32
  deriving DecidableEq, Repr

structure AddressItem where
  typeId : UInt16
  length : UInt16
  data : AddressData
  deriving DecidableEq, Repr

/-- The data are the octets from there on to the end of the receive buffer. -/
structure DataItem where
  typeId : UInt16
  length : UInt16
  data : List CipOctet
  deriving DecidableEq, Repr

structure CipCommonPacketFormatData where
  itemCount : UInt16
  addressItem : AddressItem
  dataItem : DataItem
  addressInfoItems : AddressInfoItems
  deriving DecidableEq, Repr

def ntohs (data : UInt16) : UInt16 := (data >>> 8) ||| (data <<< 8)

section Reading

def readAddressItem (previous : AddressItem) : FromMessage (AddressItem × Nat) := do
  let typeId ← getUintFromMessage
  let length ← getUintFromMessage
  let connectionIdentifier ←
    if length ≥ 4 then getUdintFromMessage else pure previous.data.connectionIdentifier
  let sequenceNumber ← if length = 8 then getUdintFromMessage else pure previous.data.sequenceNumber
  return (⟨typeId, length, connectionIdentifier, sequenceNumber⟩,
    4 + (if length ≥ 4 then 4 else 0) + if length = 8 then 4 else 0)

def readDataItem : FromMessage DataItem := do
  let typeId ← getUintFromMessage
  let length ← getUintFromMessage
  return ⟨typeId, length, ← get⟩

/-- A socket address item and the octets counted for it. Of any other item the type is counted although
the read position goes back in front of it. -/
def readSocketAddressInfoItem (previous : SocketAddressInfoItem) : FromMessage (SocketAddressInfoItem × Nat) := do
  let position ← get
  let typeId ← getUintFromMessage
  if typeId = kCipItemIdSocketAddressInfoOriginatorToTarget ∨
      typeId = kCipItemIdSocketAddressInfoTargetToOriginator then
    let length ← getUintFromMessage
    let sinFamily ← getUintFromMessage
    let sinPort ← getUintFromMessage
    let sinAddr ← getUdintFromMessage
    skipOctets 8
    return (⟨typeId, length, ntohs sinFamily, ntohs sinPort, sinAddr⟩, 20)
  else
    set position
    return ({ previous with typeId := 0 }, 2)

/-- The loop over the items behind the data item; at most two are looked at. -/
def readAddressInfoItems (itemCount : UInt16) (previous : AddressInfoItems) :
    FromMessage (AddressInfoItems × Nat) := do
  let (first, firstLength) ←
    if itemCount ≥ 3 then readSocketAddressInfoItem previous.first
    else pure ({ previous.first with typeId := 0 }, 0)
  let (second, secondLength) ←
    if itemCount ≥ 4 then readSocketAddressInfoItem previous.second
    else pure ({ previous.second with typeId := 0 }, 0)
  return (⟨first, second⟩, firstLength + secondLength)

/-- None is the error status. With more than two items the lengths need not add up. -/
def createCommonPacketFormatStructure (previous : CipCommonPacketFormatData) (data : List CipOctet)
    (dataLength : Nat) : Option CipCommonPacketFormatData :=
  let (itemCount, data) := getUintFromMessage.run data
  let ((addressItem, addressLength), data) :=
    if itemCount ≥ 1 then (readAddressItem previous.addressItem).run data else ((previous.addressItem, 0), data)
  if itemCount ≥ 2 then
    let (dataItem, data) := readDataItem.run data
    let lengthCount := 2 + addressLength + 4 + dataItem.length.toNat
    if lengthCount ≤ dataLength then
      let ((addressInfoItems, infoLength), _) :=
        (readAddressInfoItems itemCount previous.addressInfoItems).run (data.drop dataItem.length.toNat)
      if lengthCount + infoLength = dataLength ∨ itemCount > 2 then
        some ⟨itemCount, addressItem, dataItem, addressInfoItems⟩
      else none
    else none
  else
    let items := previous.addressInfoItems
    if 2 + addressLength = dataLength then
      some ⟨itemCount, addressItem, previous.dataItem,
        ⟨{ items.first with typeId := 0 }, { items.second with typeId := 0 }⟩⟩
    else none

end Reading

section Writing

def MAX_SIZE_OF_ADD_STATUS : Nat := 2

def encodeNullAddressItem : List CipOctet := addIntToMessage kCipItemIdNullAddress ++ addIntToMessage 0

def encodeConnectedAddressItem (items : CipCommonPacketFormatData) : List CipOctet :=
  addIntToMessage kCipItemIdConnectionAddress ++ addIntToMessage 4 ++
    addDintToMessage items.addressItem.data.connectionIdentifier

def encodeSequencedAddressItem (items : CipCommonPacketFormatData) : List CipOctet :=
  addIntToMessage kCipItemIdSequencedAddressItem ++ addIntToMessage 8 ++
    addDintToMessage items.addressItem.data.connectionIdentifier ++
    addDintToMessage items.addressItem.data.sequenceNumber

def responseLength (response : Response) : Nat :=
  response.message.length + 4 + 2 * response.additionalStatus.length

def encodeExtendedStatus (response : Response) : List CipOctet :=
  addSintToMessage (UInt8.ofNat response.additionalStatus.length) ++
    (response.additionalStatus.take MAX_SIZE_OF_ADD_STATUS).flatMap addIntToMessage

def encodeResponse (response : Response) : List CipOctet :=
  addSintToMessage response.replyService ++ addSintToMessage 0 ++ addSintToMessage response.generalStatus ++
    encodeExtendedStatus response ++ response.message

/-- A connected data item begins with the sequence count of the request. -/
def encodeDataItem (items : CipCommonPacketFormatData) (response : Response) : List CipOctet :=
  if items.dataItem.typeId = kCipItemIdConnectedDataItem then
    addIntToMessage items.dataItem.typeId ++ addIntToMessage (UInt16.ofNat (responseLength response + 2)) ++
      addIntToMessage items.addressItem.data.sequenceNumber.toUInt16 ++ encodeResponse response
  else if items.dataItem.typeId = kCipItemIdUnconnectedDataItem then
    addIntToMessage items.dataItem.typeId ++ addIntToMessage (UInt16.ofNat (responseLength response)) ++
      encodeResponse response
  else []

def encodeSocketAddressInfoItem (item : SocketAddressInfoItem) : List CipOctet :=
  addIntToMessage item.typeId ++ addIntToMessage item.length ++ addIntToMessage (ntohs AF_INET) ++
    addIntToMessage (ntohs item.sinPort) ++ addDintToMessage item.sinAddr ++ List.replicate 8 0

def encodeItemOfType (items : AddressInfoItems) (type : UInt16) : List CipOctet :=
  if items.first.typeId = type then encodeSocketAddressInfoItem items.first
  else if items.second.typeId = type then encodeSocketAddressInfoItem items.second
  else []

/-- `AssembleLinearMessage` of a reply, from the interface handle on. Behind an address item of another
type nothing is added. -/
def assembleLinearMessage (response : Response) (items : CipCommonPacketFormatData) : List CipOctet :=
  let header := addDintToMessage 0 ++ addIntToMessage 0 ++ addIntToMessage items.itemCount
  let behind := encodeDataItem items response ++
    encodeItemOfType items.addressInfoItems kCipItemIdSocketAddressInfoOriginatorToTarget ++
    encodeItemOfType items.addressInfoItems kCipItemIdSocketAddressInfoTargetToOriginator
  if items.addressItem.typeId = kCipItemIdNullAddress then header ++ encodeNullAddressItem ++ behind
  else if items.addressItem.typeId = kCipItemIdConnectionAddress then
    header ++ encodeConnectedAddressItem items ++ behind
  else if items.addressItem.typeId = kCipItemIdSequencedAddressItem then
    header ++ encodeSequencedAddressItem items ++ behind
  else header

end Writing

section ConnectedRequest

def connectedRequest (connectionIdentifier : UInt32) (sequenceCount : UInt16) (request : List CipOctet) :
    List CipOctet :=
  addIntToMessage 2 ++ addIntToMessage kCipItemIdConnectionAddress ++ addIntToMessage 4 ++
    addDintToMessage connectionIdentifier ++ addIntToMessage kCipItemIdConnectedDataItem ++
    addIntToMessage (UInt16.ofNat (request.length + 2)) ++ addIntToMessage sequenceCount ++ request

end ConnectedRequest

end EtherNetIP
