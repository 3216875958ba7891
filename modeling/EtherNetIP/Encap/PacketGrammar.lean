import EtherNetIP.Encap.Cpf

/-! The grammar of packets in the common packet format.

A packet is the number of its items and the items, each with its type, its
length and so many octets; a socket address item has sixteen. The parser reads
its fields at positions that follow from the lengths it meets; on an encoded
packet whose address item is empty, an identifier or an identifier with a
sequence number, they are the positions of the items.
-/

set_option autoImplicit false

namespace EtherNetIP

section Positions

/-- The number in the first two octets; octets that are not there are zero. -/
def uintOf (message : List CipOctet) : UInt16 :=
  (message.headD 0).toUInt16 ||| ((message.drop 1).headD 0).toUInt16 <<< 8

def udintOf (message : List CipOctet) : UInt32 :=
  (message.headD 0).toUInt32 ||| ((message.drop 1).headD 0).toUInt32 <<< 8 |||
    ((message.drop 2).headD 0).toUInt32 <<< 16 ||| ((message.drop 3).headD 0).toUInt32 <<< 24

theorem getUintFromMessage_run (message : List CipOctet) :
    getUintFromMessage.run message = (uintOf message, message.drop 2) := by
  have tail : message.tail.tail = message.drop 2 := by rw [← List.drop_one, ← List.drop_one, List.drop_drop]
  rw [← tail, uintOf, List.drop_one]
  rfl

theorem getUdintFromMessage_run (message : List CipOctet) :
    getUdintFromMessage.run message = (udintOf message, message.drop 4) := by
  have two : message.tail.tail = message.drop 2 := by rw [← List.drop_one, ← List.drop_one, List.drop_drop]
  have three : message.tail.tail.tail = message.drop 3 := by rw [two, ← List.drop_one, List.drop_drop]
  have four : message.tail.tail.tail.tail = message.drop 4 := by rw [three, ← List.drop_one, List.drop_drop]
  rw [← four, udintOf, ← three, ← two, List.drop_one]
  rfl

theorem uintOf_add (data : UInt16) (message : List CipOctet) : uintOf (addIntToMessage data ++ message) = data := by
  have read := getUintFromMessage_add message data
  rw [getUintFromMessage_run] at read
  exact congrArg Prod.fst read

theorem udintOf_add (data : UInt32) (message : List CipOctet) : udintOf (addDintToMessage data ++ message) = data := by
  have read := getUdintFromMessage_add message data
  rw [getUdintFromMessage_run] at read
  exact congrArg Prod.fst read

def addressOctets (length : UInt16) : Nat := (if length ≥ 4 then 4 else 0) + if length = 8 then 4 else 0

def addressItemOf (previous : AddressItem) (message : List CipOctet) : AddressItem :=
  let length := uintOf (message.drop 2)
  ⟨uintOf message, length,
    if length ≥ 4 then udintOf (message.drop 4) else previous.data.connectionIdentifier,
    if length = 8 then udintOf (message.drop 8) else previous.data.sequenceNumber⟩

theorem readAddressItem_run (previous : AddressItem) (message : List CipOctet) :
    (readAddressItem previous).run message =
      ((addressItemOf previous message, 4 + addressOctets (uintOf (message.drop 2))),
        message.drop (4 + addressOctets (uintOf (message.drop 2)))) := by
  unfold readAddressItem addressItemOf addressOctets
  rw [run_bind_of_run (getUintFromMessage_run message), run_bind_of_run (getUintFromMessage_run _)]
  by_cases identified : uintOf (message.drop 2) ≥ 4
  · rw [if_pos identified, run_bind_of_run (getUdintFromMessage_run _)]
    beta_reduce
    by_cases sequenced : uintOf (message.drop 2) = 8
    · rw [if_pos sequenced, run_bind_of_run (getUdintFromMessage_run _)]
      simp only [sequenced, if_true, List.drop_drop]
      rfl
    · rw [if_neg sequenced]
      simp only [identified, sequenced, if_true, if_false, List.drop_drop]
      rfl
  · have short : uintOf (message.drop 2) ≠ 8 := by
      intro eight
      rw [eight] at identified
      exact identified (by decide)
    rw [if_neg identified, if_neg short]
    simp only [identified, short, if_false, List.drop_drop]
    rfl

theorem readDataItem_run (message : List CipOctet) :
    readDataItem.run message =
      (⟨uintOf message, uintOf (message.drop 2), message.drop 4⟩, message.drop 4) := by
  unfold readDataItem
  rw [run_bind_of_run (getUintFromMessage_run message), run_bind_of_run (getUintFromMessage_run _)]
  rw [List.drop_drop]
  rfl

abbrev IsSocketAddressInfo (typeId : UInt16) : Prop :=
  typeId = kCipItemIdSocketAddressInfoOriginatorToTarget ∨ typeId = kCipItemIdSocketAddressInfoTargetToOriginator

def socketAddressInfoItemOf (message : List CipOctet) : SocketAddressInfoItem :=
  ⟨uintOf message, uintOf (message.drop 2), ntohs (uintOf (message.drop 4)), ntohs (uintOf (message.drop 6)),
    udintOf (message.drop 8)⟩

theorem readSocketAddressInfoItem_run (previous : SocketAddressInfoItem) (message : List CipOctet) :
    (readSocketAddressInfoItem previous).run message =
      if IsSocketAddressInfo (uintOf message) then ((socketAddressInfoItemOf message, 20), message.drop 20)
      else (({ previous with typeId := 0 }, 2), message) := by
  have position : (get : FromMessage (List CipOctet)).run message = (message, message) := rfl
  unfold readSocketAddressInfoItem
  rw [run_bind_of_run position, run_bind_of_run (getUintFromMessage_run message)]
  by_cases address : IsSocketAddressInfo (uintOf message)
  · rw [if_pos address, if_pos address, run_bind_of_run (getUintFromMessage_run _),
      run_bind_of_run (getUintFromMessage_run _), run_bind_of_run (getUintFromMessage_run _),
      run_bind_of_run (getUdintFromMessage_run _)]
    simp only [List.drop_drop]
    have skipped : (skipOctets 8).run (message.drop 12) = ((), message.drop 20) := by
      change ((), (message.drop 12).drop 8) = _
      rw [List.drop_drop]
    rw [run_bind_of_run skipped]
    rfl
  · rw [if_neg address, if_neg address]
    rfl

def addressLengthOf (message : List CipOctet) : Nat :=
  if uintOf message ≥ 1 then 4 + addressOctets (uintOf (message.drop 4)) else 0

def dataItemPosition (message : List CipOctet) : Nat := 2 + addressLengthOf message

def dataItemOf (message : List CipOctet) : DataItem :=
  let dataItem := message.drop (dataItemPosition message)
  ⟨uintOf dataItem, uintOf (dataItem.drop 2), dataItem.drop 4⟩

def dataItemEnd (message : List CipOctet) : Nat := dataItemPosition message + 4 + (dataItemOf message).length.toNat

/-- The lengths are those of a packet of so many octets; with more than two items they need not add up. -/
structure LengthsFit (message : List CipOctet) (dataLength : Nat) : Prop where
  without : uintOf message < 2 → dataItemPosition message = dataLength
  exactly : uintOf message = 2 → dataItemEnd message = dataLength
  within : 2 < uintOf message → dataItemEnd message ≤ dataLength

def addressInfoItemsOf (previous : AddressInfoItems) (message : List CipOctet) : AddressInfoItems :=
  ((readAddressInfoItems (uintOf message) previous).run (message.drop (dataItemEnd message))).1.1

def socketAddressInfoItemAt (looked : Bool) (previous : SocketAddressInfoItem) (message : List CipOctet) :
    SocketAddressInfoItem :=
  if looked ∧ IsSocketAddressInfo (uintOf message) then socketAddressInfoItemOf message
  else { previous with typeId := 0 }

def socketAddressInfoOctets (looked : Bool) (message : List CipOctet) : Nat :=
  if looked ∧ IsSocketAddressInfo (uintOf message) then 20 else 0

def socketAddressInfoLength (looked : Bool) (message : List CipOctet) : Nat :=
  if looked then if IsSocketAddressInfo (uintOf message) then 20 else 2 else 0

theorem readSocketAddressInfoItem_if_bind {α : Type} (looked : Prop) [Decidable looked]
    (previous : SocketAddressInfoItem) (next : SocketAddressInfoItem × Nat → FromMessage α) (message : List CipOctet) :
    (if looked then readSocketAddressInfoItem previous >>= next
        else pure ({ previous with typeId := 0 }, 0) >>= next).run message =
      (next (socketAddressInfoItemAt looked previous message, socketAddressInfoLength looked message)).run
        (message.drop (socketAddressInfoOctets looked message)) := by
  unfold socketAddressInfoItemAt socketAddressInfoOctets socketAddressInfoLength
  by_cases asked : looked
  · have read := readSocketAddressInfoItem_run previous message
    rw [if_pos asked]
    by_cases found : IsSocketAddressInfo (uintOf message)
    · rw [if_pos found] at read
      rw [run_bind_of_run read]
      simp only [asked, found, decide_true, and_self, if_true]
    · rw [if_neg found] at read
      rw [run_bind_of_run read]
      simp only [asked, found, decide_true, and_false, if_true, if_false, List.drop_zero]
  · rw [if_neg asked]
    simp only [asked, decide_false, Bool.false_eq_true, false_and, if_false]
    rfl

/-- The read position of the second socket address item: that of the first unless this one was found. -/
def secondInfoPosition (message : List CipOctet) : Nat :=
  dataItemEnd message + socketAddressInfoOctets (uintOf message ≥ 3) (message.drop (dataItemEnd message))

theorem addressInfoItemsOf_eq (previous : AddressInfoItems) (message : List CipOctet) :
    addressInfoItemsOf previous message =
      ⟨socketAddressInfoItemAt (uintOf message ≥ 3) previous.first (message.drop (dataItemEnd message)),
        socketAddressInfoItemAt (uintOf message ≥ 4) previous.second (message.drop (secondInfoPosition message))⟩ := by
  unfold addressInfoItemsOf readAddressInfoItems secondInfoPosition
  dsimp only
  rw [← List.drop_drop, readSocketAddressInfoItem_if_bind]
  dsimp only
  rw [readSocketAddressInfoItem_if_bind]
  rfl

/-- The items of an accepted packet; what it does not bring is left as it was. -/
def itemsOf (previous : CipCommonPacketFormatData) (message : List CipOctet) : CipCommonPacketFormatData where
  itemCount := uintOf message
  addressItem :=
    if uintOf message ≥ 1 then addressItemOf previous.addressItem (message.drop 2) else previous.addressItem
  dataItem := if uintOf message ≥ 2 then dataItemOf message else previous.dataItem
  addressInfoItems := addressInfoItemsOf previous.addressInfoItems message

theorem readAddressInfoItems_none {itemCount : UInt16} (few : itemCount ≤ 2) (previous : AddressInfoItems)
    (message : List CipOctet) :
    (readAddressInfoItems itemCount previous).run message =
      ((⟨{ previous.first with typeId := 0 }, { previous.second with typeId := 0 }⟩, 0), message) := by
  have below : ¬ itemCount ≥ 3 ∧ ¬ itemCount ≥ 4 := by
    simp only [ge_iff_le, UInt16.le_iff_toNat_le] at few ⊢
    have two : (2 : UInt16).toNat = 2 := rfl
    have three : (3 : UInt16).toNat = 3 := rfl
    have four : (4 : UInt16).toNat = 4 := rfl
    omega
  simp only [readAddressInfoItems, below.1, below.2, if_false]
  rfl

theorem createCommonPacketFormatStructure_eq (previous : CipCommonPacketFormatData) (message : List CipOctet)
    (dataLength : Nat) :
    createCommonPacketFormatStructure previous message dataLength =
      if 2 ≤ uintOf message then
        if dataItemEnd message ≤ dataLength then
          if dataItemEnd message + ((readAddressInfoItems (uintOf message) previous.addressInfoItems).run
              (message.drop (dataItemEnd message))).1.2 = dataLength ∨ uintOf message > 2 then
            some (itemsOf previous message)
          else none
        else none
      else if dataItemPosition message = dataLength then some (itemsOf previous message) else none := by
  -- the address item and the position behind it
  have address : (if uintOf message ≥ 1 then (readAddressItem previous.addressItem).run (message.drop 2)
      else ((previous.addressItem, 0), message.drop 2)) =
      (((itemsOf previous message).addressItem, addressLengthOf message), message.drop (dataItemPosition message)) := by
    unfold itemsOf dataItemPosition addressLengthOf
    by_cases some : uintOf message ≥ 1
    · simp only [if_pos some, readAddressItem_run, List.drop_drop]
    · simp only [if_neg some]
  unfold createCommonPacketFormatStructure
  rw [getUintFromMessage_run]
  dsimp only
  rw [address]
  dsimp only
  by_cases two : 2 ≤ uintOf message
  · rw [if_pos two, if_pos two, readDataItem_run]
    dsimp only
    have length : 2 + addressLengthOf message + 4 + (uintOf ((message.drop (dataItemPosition message)).drop 2)).toNat =
        dataItemEnd message := rfl
    have behind : ((message.drop (dataItemPosition message)).drop 4).drop
        (uintOf ((message.drop (dataItemPosition message)).drop 2)).toNat = message.drop (dataItemEnd message) := by
      rw [List.drop_drop, List.drop_drop, dataItemEnd, dataItemOf, Nat.add_assoc]
    rw [length, behind]
    by_cases within : dataItemEnd message ≤ dataLength
    · rw [if_pos within, if_pos within]
      unfold itemsOf addressInfoItemsOf
      rw [if_pos two]
      rfl
    · rw [if_neg within, if_neg within]
  · rw [if_neg two, if_neg two]
    have few : uintOf message ≤ 2 := by
      rw [UInt16.le_iff_toNat_le] at two ⊢
      omega
    unfold itemsOf addressInfoItemsOf
    rw [if_neg two, readAddressInfoItems_none few]
    rfl

theorem createCommonPacketFormatStructure_eq_some_iff {previous items : CipCommonPacketFormatData}
    {message : List CipOctet} {dataLength : Nat} :
    createCommonPacketFormatStructure previous message dataLength = some items ↔
      LengthsFit message dataLength ∧ items = itemsOf previous message := by
  have only (condition : Prop) [Decidable condition] (fits : LengthsFit message dataLength ↔ condition) :
      (if condition then some (itemsOf previous message) else none) = some items ↔
        LengthsFit message dataLength ∧ items = itemsOf previous message := by
    rw [fits]
    by_cases met : condition
    · simp [met, eq_comm]
    · simp [met]
  rw [createCommonPacketFormatStructure_eq]
  by_cases two : 2 ≤ uintOf message
  · have notFewer : ¬ uintOf message < 2 := by simpa using two
    rw [if_pos two, ← ite_and]
    apply only
    by_cases exactly : uintOf message = 2
    · rw [exactly, readAddressInfoItems_none (by decide)]
      constructor
      · intro fits
        have same := fits.exactly exactly
        exact ⟨by omega, .inl same⟩
      · rintro ⟨within, same | more⟩
        · exact ⟨fun fewer => absurd fewer notFewer, fun _ => same, fun _ => within⟩
        · exact absurd more (by decide)
    · have more : uintOf message > 2 := by
        rw [← UInt16.toNat_inj] at exactly
        rw [gt_iff_lt, UInt16.lt_iff_toNat_lt]
        rw [UInt16.le_iff_toNat_le] at two
        omega
      constructor
      · exact fun fits => ⟨fits.within more, .inr more⟩
      · exact fun both => ⟨fun fewer => absurd fewer notFewer, fun same => absurd same exactly, fun _ => both.1⟩
  · have fewer : uintOf message < 2 := by simpa using two
    rw [if_neg two]
    apply only
    constructor
    · exact fun fits => fits.without fewer
    · intro same
      refine ⟨fun _ => same, fun exactly => ?_, fun more => ?_⟩
      · rw [exactly] at fewer
        exact absurd fewer (by decide)
      · exact absurd (UInt16.lt_trans fewer more) (UInt16.lt_irrefl _)

end Positions

structure PacketItem where
  typeId : UInt16
  payload : List CipOctet
  fits : payload.length < 2 ^ 16

/-- As many items as the item count can count; a socket address item has sixteen octets. -/
structure Packet where
  items : List PacketItem
  fits : items.length < 2 ^ 16
  socketAddresses : ∀ item ∈ items, IsSocketAddressInfo item.typeId → item.payload.length = 16

namespace PacketItem

variable (item : PacketItem)

def length : UInt16 := UInt16.ofNat item.payload.length

def encode : List CipOctet := addIntToMessage item.typeId ++ addIntToMessage item.length ++ item.payload

theorem length_toNat : item.length.toNat = item.payload.length := by
  rw [length, UInt16.toNat_ofNat', Nat.mod_eq_of_lt item.fits]

theorem encode_length : item.encode.length = 4 + item.payload.length := by
  simp [encode, addIntToMessage]
  omega

theorem uintOf_encode (rest : List CipOctet) : uintOf (item.encode ++ rest) = item.typeId := by
  rw [encode, List.append_assoc, List.append_assoc, uintOf_add]

theorem drop_encode (rest : List CipOctet) : (item.encode ++ rest).drop 4 = item.payload ++ rest := by
  simp [encode, addIntToMessage]

theorem uintOf_drop_encode (rest : List CipOctet) : uintOf ((item.encode ++ rest).drop 2) = item.length := by
  have behind : (item.encode ++ rest).drop 2 = addIntToMessage item.length ++ (item.payload ++ rest) := by
    simp [encode, addIntToMessage]
  rw [behind, uintOf_add]

/-- An empty address item, an identifier, or an identifier with a sequence number. -/
def IsAddress : Prop := addressOctets item.length = item.payload.length

def addressItem (previous : AddressItem) : AddressItem :=
  ⟨item.typeId, item.length,
    if item.length ≥ 4 then udintOf item.payload else previous.data.connectionIdentifier,
    if item.length = 8 then udintOf (item.payload.drop 4) else previous.data.sequenceNumber⟩

def connectedAddress (connectionIdentifier : UInt32) : PacketItem :=
  ⟨kCipItemIdConnectionAddress, addDintToMessage connectionIdentifier, show 4 < 2 ^ 16 by decide⟩

def sequencedAddress (connectionIdentifier sequenceNumber : UInt32) : PacketItem :=
  ⟨kCipItemIdSequencedAddressItem, addDintToMessage connectionIdentifier ++ addDintToMessage sequenceNumber,
    show 8 < 2 ^ 16 by decide⟩

theorem IsAddress.connectedAddress (connectionIdentifier : UInt32) :
    (connectedAddress connectionIdentifier).IsAddress := rfl

theorem IsAddress.sequencedAddress (connectionIdentifier sequenceNumber : UInt32) :
    (sequencedAddress connectionIdentifier sequenceNumber).IsAddress := rfl

theorem connectedAddress_addressItem (connectionIdentifier : UInt32) (previous : AddressItem) :
    (connectedAddress connectionIdentifier).addressItem previous =
      ⟨kCipItemIdConnectionAddress, 4, connectionIdentifier, previous.data.sequenceNumber⟩ := by
  have identifier : udintOf (addDintToMessage connectionIdentifier) = connectionIdentifier := by
    simpa using udintOf_add connectionIdentifier []
  have length : (PacketItem.connectedAddress connectionIdentifier).length = 4 := rfl
  rw [addressItem, length, if_pos (by decide), if_neg (by decide)]
  exact congrArg (fun identifier => AddressItem.mk _ 4 ⟨identifier, _⟩) identifier

theorem sequencedAddress_addressItem (connectionIdentifier sequenceNumber : UInt32) (previous : AddressItem) :
    (sequencedAddress connectionIdentifier sequenceNumber).addressItem previous =
      ⟨kCipItemIdSequencedAddressItem, 8, connectionIdentifier, sequenceNumber⟩ := by
  have identifier : udintOf (addDintToMessage connectionIdentifier ++ addDintToMessage sequenceNumber) =
      connectionIdentifier := udintOf_add _ _
  have number : udintOf ((addDintToMessage connectionIdentifier ++ addDintToMessage sequenceNumber).drop 4) =
      sequenceNumber := by
    have behind : (addDintToMessage connectionIdentifier ++ addDintToMessage sequenceNumber).drop 4 =
        addDintToMessage sequenceNumber ++ [] := by simp [addDintToMessage]
    rw [behind, udintOf_add]
  have length : (PacketItem.sequencedAddress connectionIdentifier sequenceNumber).length = 8 := rfl
  rw [addressItem, length, if_pos (by decide), if_pos rfl]
  exact congrArg₂ (fun identifier number => AddressItem.mk _ 8 ⟨identifier, number⟩) identifier number

end PacketItem

/-- A packet of at least two items: behind the address item and the data item there may be any octets. -/
def encodePacket (itemCount : UInt16) (address data : PacketItem) (rest : List CipOctet) : List CipOctet :=
  addIntToMessage itemCount ++ (address.encode ++ (data.encode ++ rest))

section Parsing

variable {itemCount : UInt16} {address data : PacketItem} {rest : List CipOctet}

theorem udintOf_append {message : List CipOctet} (long : 4 ≤ message.length) (rest : List CipOctet) :
    udintOf (message ++ rest) = udintOf message := by
  obtain _ | ⟨first, _ | ⟨second, _ | ⟨third, _ | ⟨fourth, message⟩⟩⟩⟩ := message
  · simp at long
  · simp at long
  · simp at long
  · simp at long
  · rfl

theorem addressItemOf_encode (previous : AddressItem) (item : PacketItem) (rest : List CipOctet) :
    addressItemOf previous (item.encode ++ rest) = item.addressItem previous := by
  have further : (item.encode ++ rest).drop 8 = (item.payload ++ rest).drop 4 := by
    rw [← item.drop_encode, List.drop_drop]
  have length := item.length_toNat
  unfold addressItemOf PacketItem.addressItem
  simp only [item.uintOf_encode, item.uintOf_drop_encode, item.drop_encode, further]
  congr 2
  · split
    · rename_i identified
      rw [ge_iff_le, UInt16.le_iff_toNat_le, length] at identified
      exact udintOf_append identified rest
    · rfl
  · split
    · rename_i sequenced
      have eight : item.payload.length = 8 := by
        rw [← length, sequenced]
        rfl
      rw [List.drop_append_of_le_length (by omega), udintOf_append (by simp [eight])]
    · rfl

theorem uintOf_encodePacket : uintOf (encodePacket itemCount address data rest) = itemCount := uintOf_add _ _

theorem encodePacket_append (trailing : List CipOctet) :
    encodePacket itemCount address data rest ++ trailing = encodePacket itemCount address data (rest ++ trailing) := by
  simp [encodePacket]

theorem drop_encodePacket : (encodePacket itemCount address data rest).drop 2 =
    address.encode ++ (data.encode ++ rest) := by
  simp [encodePacket, addIntToMessage]

theorem dataItemPosition_encodePacket (several : 2 ≤ itemCount) (isAddress : address.IsAddress) :
    dataItemPosition (encodePacket itemCount address data rest) = 2 + address.encode.length := by
  have length : uintOf ((encodePacket itemCount address data rest).drop 4) = address.length := by
    have behind : (encodePacket itemCount address data rest).drop 4 =
        ((encodePacket itemCount address data rest).drop 2).drop 2 := by rw [List.drop_drop]
    rw [behind, drop_encodePacket, address.uintOf_drop_encode]
  have one : itemCount ≥ 1 := UInt16.le_trans (by decide) several
  rw [dataItemPosition, addressLengthOf, uintOf_encodePacket, if_pos one, length, isAddress, address.encode_length]

theorem dataItemOf_encodePacket (several : 2 ≤ itemCount) (isAddress : address.IsAddress) :
    dataItemOf (encodePacket itemCount address data rest) = ⟨data.typeId, data.length, data.payload ++ rest⟩ := by
  have item : (encodePacket itemCount address data rest).drop (2 + address.encode.length) = data.encode ++ rest := by
    rw [← List.drop_drop, drop_encodePacket, List.drop_left]
  rw [dataItemOf, dataItemPosition_encodePacket several isAddress, item]
  rw [data.uintOf_encode, data.uintOf_drop_encode, data.drop_encode]

theorem dataItemEnd_encodePacket (several : 2 ≤ itemCount) (isAddress : address.IsAddress) :
    dataItemEnd (encodePacket itemCount address data rest) = 2 + address.encode.length + data.encode.length := by
  rw [dataItemEnd, dataItemPosition_encodePacket several isAddress, dataItemOf_encodePacket several isAddress,
    data.length_toNat, data.encode_length, Nat.add_assoc _ 4]

/-- A packet of at least two items is accepted and its first two items are found. -/
theorem createCommonPacketFormatStructure_encodePacket (previous : CipCommonPacketFormatData) (several : 2 ≤ itemCount)
    (isAddress : address.IsAddress) (all : itemCount = 2 → rest = []) (trailing : List CipOctet) :
    createCommonPacketFormatStructure previous (encodePacket itemCount address data rest ++ trailing)
        (encodePacket itemCount address data rest).length =
      some ⟨itemCount, address.addressItem previous.addressItem,
        ⟨data.typeId, data.length, data.payload ++ (rest ++ trailing)⟩,
        addressInfoItemsOf previous.addressInfoItems (encodePacket itemCount address data (rest ++ trailing))⟩ := by
  have length : (encodePacket itemCount address data rest).length =
      2 + address.encode.length + data.encode.length + rest.length := by
    simp only [encodePacket, List.length_append, addIntToMessage, List.length_cons, List.length_nil]
    omega
  rw [length, encodePacket_append, createCommonPacketFormatStructure_eq_some_iff]
  constructor
  · refine ⟨fun fewer => ?_, fun exactly => ?_, fun more => ?_⟩
    · rw [uintOf_encodePacket] at fewer
      exact absurd several (UInt16.not_le.mpr fewer)
    · rw [uintOf_encodePacket] at exactly
      rw [dataItemEnd_encodePacket several isAddress, all exactly]
      rfl
    · rw [dataItemEnd_encodePacket several isAddress]
      omega
  · have one : itemCount ≥ 1 := UInt16.le_trans (by decide) several
    unfold itemsOf
    rw [uintOf_encodePacket, if_pos one, if_pos several, dataItemOf_encodePacket several isAddress, drop_encodePacket,
      addressItemOf_encode]

theorem createCommonPacketFormatStructure_connectedRequest (previous : CipCommonPacketFormatData)
    (connectionIdentifier : UInt32) (sequenceCount : UInt16) {request : List CipOctet}
    (fits : request.length + 2 < 2 ^ 16) (trailing : List CipOctet) :
    createCommonPacketFormatStructure previous (connectedRequest connectionIdentifier sequenceCount request ++ trailing)
        (connectedRequest connectionIdentifier sequenceCount request).length =
      some ⟨2, ⟨kCipItemIdConnectionAddress, 4, connectionIdentifier, previous.addressItem.data.sequenceNumber⟩,
        ⟨kCipItemIdConnectedDataItem, UInt16.ofNat (request.length + 2),
          addIntToMessage sequenceCount ++ request ++ trailing⟩,
        ⟨{ previous.addressInfoItems.first with typeId := 0 },
          { previous.addressInfoItems.second with typeId := 0 }⟩⟩ := by
  have payload : (addIntToMessage sequenceCount ++ request).length < 2 ^ 16 := by
    simp only [addIntToMessage, List.length_append, List.length_cons, List.length_nil]
    omega
  let data : PacketItem := ⟨kCipItemIdConnectedDataItem, addIntToMessage sequenceCount ++ request, payload⟩
  have length : data.length = UInt16.ofNat (request.length + 2) := by
    have octets : data.payload.length = request.length + 2 := rfl
    rw [PacketItem.length, octets]
  have octets : connectedRequest connectionIdentifier sequenceCount request =
      encodePacket 2 (.connectedAddress connectionIdentifier) data [] := by
    rw [encodePacket, PacketItem.encode, PacketItem.encode, length]
    simp [connectedRequest, PacketItem.connectedAddress, PacketItem.length, data, addIntToMessage, addDintToMessage]
  rw [octets, createCommonPacketFormatStructure_encodePacket previous (by decide) (.connectedAddress _) fun _ => rfl,
    PacketItem.connectedAddress_addressItem, addressInfoItemsOf, uintOf_encodePacket,
    readAddressInfoItems_none (by decide), length]
  simp [data]

end Parsing

def encodeItems (items : List PacketItem) : List CipOctet := items.flatMap (·.encode)

def Packet.encode (packet : Packet) : List CipOctet :=
  addIntToMessage (UInt16.ofNat packet.items.length) ++ encodeItems packet.items

end EtherNetIP
