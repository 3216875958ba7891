import EtherNetIP.Encap.PacketGrammar

/-! What the packet structure remembers.

All packets are parsed into one structure. Fields that a packet does not bring
stay as an earlier packet left them, and the callers look at some of them all
the same: at the types whatever the item count, at the identifier and at the
sequence number whatever the length of the address item.
-/

set_option autoImplicit false

namespace EtherNetIP

abbrev IsServedAddress (typeId : UInt16) : Prop :=
  typeId = kCipItemIdNullAddress ∨ typeId = kCipItemIdConnectionAddress ∨ typeId = kCipItemIdSequencedAddressItem

abbrev IsSequencedData (addressTypeId dataTypeId : UInt16) : Prop :=
  addressTypeId = kCipItemIdSequencedAddressItem ∧ dataTypeId = kCipItemIdConnectedDataItem

/-- The connection is looked up: of a connected address whatever the data item is. -/
abbrev NamesConnection (addressTypeId dataTypeId : UInt16) : Prop :=
  addressTypeId = kCipItemIdConnectionAddress ∨ IsSequencedData addressTypeId dataTypeId

structure UsedFields where
  itemCount : UInt16
  addressTypeId : UInt16
  addressLength : UInt16
  dataItem : Option DataItem
  connectionIdentifier : Option UInt32
  sequenceNumber : Option UInt32
  firstAddressInfo : Option SocketAddressInfoItem
  secondAddressInfo : Option SocketAddressInfoItem
  deriving DecidableEq, Repr

def SocketAddressInfoItem.used (item : SocketAddressInfoItem) : Option SocketAddressInfoItem :=
  if item.typeId = 0 then none else some item

def CipCommonPacketFormatData.used (items : CipCommonPacketFormatData) : UsedFields where
  itemCount := items.itemCount
  addressTypeId := items.addressItem.typeId
  addressLength := items.addressItem.length
  dataItem := if IsServedAddress items.addressItem.typeId then some items.dataItem else none
  connectionIdentifier :=
    if NamesConnection items.addressItem.typeId items.dataItem.typeId then
      some items.addressItem.data.connectionIdentifier
    else none
  sequenceNumber :=
    if IsSequencedData items.addressItem.typeId items.dataItem.typeId then some items.addressItem.data.sequenceNumber
    else none
  firstAddressInfo := items.addressInfoItems.first.used
  secondAddressInfo := items.addressInfoItems.second.used

/-- Whatever was in the structure, an accepted packet leaves the same in the fields that are used. -/
def Memoryless (message : List CipOctet) (dataLength : Nat) : Prop :=
  ∀ previous other items otherItems,
    createCommonPacketFormatStructure previous message dataLength = some items →
    createCommonPacketFormatStructure other message dataLength = some otherItems → items.used = otherItems.used

section Fields

variable (message : List CipOctet)

def addressTypeOf : UInt16 := uintOf (message.drop 2)

def addressItemLengthOf : UInt16 := uintOf (message.drop 4)

/-- The packet brings what is used of it: an address item; a data item if its address is served; an identifier and a
sequence number if they are asked for. -/
structure SelfContained : Prop where
  address : 1 ≤ uintOf message
  data : IsServedAddress (addressTypeOf message) → 2 ≤ uintOf message
  identified : NamesConnection (addressTypeOf message) (dataItemOf message).typeId → 4 ≤ addressItemLengthOf message
  sequenced : IsSequencedData (addressTypeOf message) (dataItemOf message).typeId → addressItemLengthOf message = 8

/-- A structure in which a number is left wherever a packet may have left one. -/
def leftOver (number : UInt16) : CipCommonPacketFormatData :=
  ⟨0, ⟨number, number, ⟨number.toUInt32, number.toUInt32⟩⟩, ⟨number, number, []⟩, ⟨.zero, .zero⟩⟩

variable {message}

theorem itemsOf_addressItem (address : 1 ≤ uintOf message) (previous : CipCommonPacketFormatData) :
    (itemsOf previous message).addressItem =
      ⟨addressTypeOf message, addressItemLengthOf message,
        if addressItemLengthOf message ≥ 4 then udintOf (message.drop 6) else previous.addressItem.data.connectionIdentifier,
        if addressItemLengthOf message = 8 then udintOf (message.drop 10) else previous.addressItem.data.sequenceNumber⟩ := by
  unfold itemsOf
  rw [if_pos address, addressItemOf]
  simp only [List.drop_drop]
  rfl

theorem socketAddressInfoItemAt_used (looked : Bool) (previous other : SocketAddressInfoItem) (behind : List CipOctet) :
    (socketAddressInfoItemAt looked previous behind).used = (socketAddressInfoItemAt looked other behind).used := by
  unfold socketAddressInfoItemAt
  split <;> rfl

theorem SelfContained.used (contained : SelfContained message) (previous other : CipCommonPacketFormatData) :
    (itemsOf previous message).used = (itemsOf other message).used := by
  have info : (itemsOf previous message).addressInfoItems.first.used = (itemsOf other message).addressInfoItems.first.used ∧
      (itemsOf previous message).addressInfoItems.second.used = (itemsOf other message).addressInfoItems.second.used := by
    unfold itemsOf
    dsimp only
    rw [addressInfoItemsOf_eq, addressInfoItemsOf_eq]
    exact ⟨socketAddressInfoItemAt_used .., socketAddressInfoItemAt_used ..⟩
  have data (served : IsServedAddress (addressTypeOf message)) (items : CipCommonPacketFormatData) :
      (itemsOf items message).dataItem = dataItemOf message := if_pos (contained.data served)
  unfold CipCommonPacketFormatData.used
  rw [info.1, info.2, itemsOf_addressItem contained.address, itemsOf_addressItem contained.address]
  dsimp only
  by_cases served : IsServedAddress (addressTypeOf message)
  · rw [data served, data served]
    have identifier (names : NamesConnection (addressTypeOf message) (dataItemOf message).typeId) :
        addressItemLengthOf message ≥ 4 := contained.identified names
    have number (sequenced : IsSequencedData (addressTypeOf message) (dataItemOf message).typeId) :
        addressItemLengthOf message = 8 := contained.sequenced sequenced
    congr 1
    · exact ite_congr rfl (fun names => by rw [if_pos (identifier names), if_pos (identifier names)]) fun _ => rfl
    · exact ite_congr rfl (fun sequenced => by rw [if_pos (number sequenced), if_pos (number sequenced)]) fun _ => rfl
  · -- an address that is not served is not looked at any further
    have unnamed (dataTypeId : UInt16) : ¬ NamesConnection (addressTypeOf message) dataTypeId := by
      rintro (connected | sequenced)
      · exact served (.inr (.inl connected))
      · exact served (.inr (.inr sequenced.1))
    have unnumbered (dataTypeId : UInt16) : ¬ IsSequencedData (addressTypeOf message) dataTypeId :=
      fun sequenced => served (.inr (.inr sequenced.1))
    simp only [served, unnamed, unnumbered, if_false]
    rfl

/-- Where the packet does not bring what is used, two different left-overs show. -/
theorem selfContained_of_used (same : (itemsOf (leftOver 0) message).used = (itemsOf (leftOver 1) message).used) :
    SelfContained message := by
  have address : 1 ≤ uintOf message := by
    by_contra nothing
    have types := congrArg (·.addressTypeId) same
    simp [CipCommonPacketFormatData.used, itemsOf, nothing, leftOver] at types
  have types (number : UInt16) : (itemsOf (leftOver number) message).addressItem.typeId = addressTypeOf message := by
    rw [itemsOf_addressItem address]
  have data : IsServedAddress (addressTypeOf message) → 2 ≤ uintOf message := by
    intro served
    by_contra alone
    have items := congrArg (·.dataItem) same
    simp only [CipCommonPacketFormatData.used, types, if_pos served, Option.some.injEq] at items
    simp [itemsOf, alone, leftOver] at items
  have dataItem (served : IsServedAddress (addressTypeOf message)) (number : UInt16) :
      (itemsOf (leftOver number) message).dataItem = dataItemOf message := if_pos (data served)
  refine ⟨address, data, fun names => ?_, fun sequenced => ?_⟩
  · have served : IsServedAddress (addressTypeOf message) := .inr (names.imp_right (·.1))
    by_contra short
    have identifiers := congrArg (·.connectionIdentifier) same
    simp only [CipCommonPacketFormatData.used, types, dataItem served, if_pos names, Option.some.injEq] at identifiers
    rw [itemsOf_addressItem address, itemsOf_addressItem address] at identifiers
    dsimp only at identifiers
    rw [if_neg short, if_neg short] at identifiers
    simp [leftOver] at identifiers
  · have served : IsServedAddress (addressTypeOf message) := .inr (.inr sequenced.1)
    by_contra other
    have numbers := congrArg (·.sequenceNumber) same
    simp only [CipCommonPacketFormatData.used, types, dataItem served, if_pos sequenced, Option.some.injEq] at numbers
    rw [itemsOf_addressItem address, itemsOf_addressItem address] at numbers
    dsimp only at numbers
    rw [if_neg other, if_neg other] at numbers
    simp [leftOver] at numbers

/-- The parser has no memory on the packets it refuses and on those that bring what is used of them, and on no
others. -/
theorem memoryless_iff (message : List CipOctet) (dataLength : Nat) :
    Memoryless message dataLength ↔ (LengthsFit message dataLength → SelfContained message) := by
  have accepted (fits : LengthsFit message dataLength) (previous : CipCommonPacketFormatData) :
      createCommonPacketFormatStructure previous message dataLength = some (itemsOf previous message) :=
    createCommonPacketFormatStructure_eq_some_iff.mpr ⟨fits, rfl⟩
  constructor
  · intro memoryless fits
    exact selfContained_of_used (memoryless _ _ _ _ (accepted fits (leftOver 0)) (accepted fits (leftOver 1)))
  · intro contained previous other items otherItems parsed otherParsed
    obtain ⟨fits, rfl⟩ := createCommonPacketFormatStructure_eq_some_iff.mp parsed
    obtain ⟨_, rfl⟩ := createCommonPacketFormatStructure_eq_some_iff.mp otherParsed
    exact (contained fits).used previous other

/-- A packet without any item is accepted and shows the address type of the packet before. -/
theorem empty_packet_shows_address : ¬ Memoryless [0, 0] 2 := by
  intro memoryless
  have same := memoryless (leftOver 0) (leftOver 1) (itemsOf (leftOver 0) [0, 0]) (itemsOf (leftOver 1) [0, 0])
    (by decide) (by decide)
  exact absurd same (by decide)

end Fields

end EtherNetIP
