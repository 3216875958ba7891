import EtherNetIP.Cip.DataItems
import EtherNetIP.Encap.EnipMessage

/-! The frames of producing connections, octet by octet.

The packet structure is filled in and written with an empty data item. The
message then goes back over the length of this item; the length is computed
anew with the headers, and these and the data are written behind it. What comes
out is a packet of an address item and a data item of the negotiated size.
-/

set_option autoImplicit false

namespace EtherNetIP

open Library CipConnectionObject

variable {config : Configuration}

section Writing

def encodeIoDataItem (items : CipCommonPacketFormatData) : List CipOctet :=
  if items.dataItem.typeId = kCipItemIdUnconnectedDataItem ∨ items.dataItem.typeId = kCipItemIdConnectedDataItem then
    addIntToMessage items.dataItem.typeId ++ addIntToMessage items.dataItem.length ++
      octetsOf items.dataItem.data items.dataItem.length.toNat
  else []

/-- `AssembleIOMessage`: the items without a reply, and without anything in front of the item count. -/
def assembleIoMessage (items : CipCommonPacketFormatData) : List CipOctet :=
  let header := addIntToMessage items.itemCount
  let behind := encodeIoDataItem items ++
    encodeItemOfType items.addressInfoItems kCipItemIdSocketAddressInfoOriginatorToTarget ++
    encodeItemOfType items.addressInfoItems kCipItemIdSocketAddressInfoTargetToOriginator
  if items.addressItem.typeId = kCipItemIdNullAddress then header ++ encodeNullAddressItem ++ behind
  else if items.addressItem.typeId = kCipItemIdConnectionAddress then
    header ++ encodeConnectedAddressItem items ++ behind
  else if items.addressItem.typeId = kCipItemIdSequencedAddressItem then
    header ++ encodeSequencedAddressItem items ++ behind
  else header

def ioItems (leftOver : CipCommonPacketFormatData) (object : CipConnectionObject) : CipCommonPacketFormatData where
  itemCount := 2
  addressItem :=
    if object.getTransportClass ≠ .class0 then
      ⟨kCipItemIdSequencedAddressItem, 8, object.cipProducedConnectionId, object.eipLevelSequenceCountProducing⟩
    else
      ⟨kCipItemIdConnectionAddress, 4, object.cipProducedConnectionId, leftOver.addressItem.data.sequenceNumber⟩
  dataItem := ⟨kCipItemIdConnectedDataItem, 0, leftOver.dataItem.data⟩
  addressInfoItems := ⟨{ leftOver.addressInfoItems.first with typeId := 0 },
    { leftOver.addressInfoItems.second with typeId := 0 }⟩

/-- The message `SendConnectedData` writes for an object whose counters are advanced. -/
def ioMessage (config : Configuration) (leftOver : CipCommonPacketFormatData) (runIdleState : UInt32)
    (object : CipConnectionObject) (length : Nat) (data : List CipOctet) : EnipMessage :=
  let message := EnipMessage.initialized.add (assembleIoMessage (ioItems leftOver object))
  let message := message.moveBack 2
  let itemLength := UInt16.ofNat length
  let isHeartbeat := itemLength = 0
  let itemLength := if config.produceRunIdle ∧ ¬ isHeartbeat then itemLength + 4 else itemLength
  let message :=
    if object.getTransportClass = .class1 then
      (message.add (addIntToMessage (itemLength + 2))).add (addIntToMessage object.sequenceCountProducing)
    else message.add (addIntToMessage itemLength)
  let message := if config.produceRunIdle ∧ ¬ isHeartbeat then message.add (addDintToMessage runIdleState) else message
  message.add (octetsOf data length)

def Stack.ioMessage (stack : Stack config) (slot : Slot config) (leftOver : CipCommonPacketFormatData) :
    Except Fault EnipMessage := do
  let producing := (stack.object slot).producingInstance
  let (length, data) ← stack.producedData producing
  let object := countFrame ((producing.map config.beforeAssemblyDataSend).getD false) (stack.object slot)
  return EtherNetIP.ioMessage config leftOver stack.runIdleState object length data

end Writing

section Contents

variable {leftOver : CipCommonPacketFormatData} {runIdleState : UInt32} {object : CipConnectionObject} {length : Nat}
  {data : List CipOctet}

def ioAddress (object : CipConnectionObject) : PacketItem :=
  if object.getTransportClass ≠ .class0 then
    .sequencedAddress object.cipProducedConnectionId object.eipLevelSequenceCountProducing
  else .connectedAddress object.cipProducedConnectionId

theorem ioAddress_isAddress (object : CipConnectionObject) : (ioAddress object).IsAddress := by
  unfold ioAddress
  split
  · exact .sequencedAddress _ _
  · exact .connectedAddress _

/-- The octets of the data item: the sequence count of class 1, the run/idle header of data, and the data. -/
def ioPayload (config : Configuration) (runIdleState : UInt32) (object : CipConnectionObject) (length : Nat)
    (data : List CipOctet) : List CipOctet :=
  (if object.getTransportClass = .class1 then addIntToMessage object.sequenceCountProducing else []) ++
    (if config.produceRunIdle ∧ length ≠ 0 then addDintToMessage runIdleState else []) ++ octetsOf data length

theorem ioPayload_length : (ioPayload config runIdleState object length data).length =
    (if object.getTransportClass = .class1 then 2 else 0) +
      (if config.produceRunIdle ∧ length ≠ 0 then 4 else 0) + length := by
  unfold ioPayload
  rw [List.length_append, List.length_append, octetsOf_length]
  congr 2
  · split <;> rfl
  · split <;> rfl

theorem assembleIoMessage_ioItems (leftOver : CipCommonPacketFormatData) (object : CipConnectionObject) :
    assembleIoMessage (ioItems leftOver object) =
      addIntToMessage 2 ++ (ioAddress object).encode ++ addIntToMessage kCipItemIdConnectedDataItem ++
        addIntToMessage 0 := by
  unfold assembleIoMessage encodeIoDataItem ioItems ioAddress
  by_cases sequenced : object.getTransportClass ≠ .class0
  · simp only [if_pos sequenced]
    rfl
  · simp only [if_neg sequenced]
    rfl

theorem ioItemLength (fits : (ioPayload config runIdleState object length data).length < 2 ^ 16) :
    (if object.getTransportClass = .class1 then
        (if config.produceRunIdle ∧ ¬ UInt16.ofNat length = 0 then UInt16.ofNat length + 4
          else UInt16.ofNat length) + 2
      else if config.produceRunIdle ∧ ¬ UInt16.ofNat length = 0 then UInt16.ofNat length + 4
        else UInt16.ofNat length) =
      UInt16.ofNat (ioPayload config runIdleState object length data).length := by
  rw [ioPayload_length] at fits ⊢
  have small : length < 2 ^ 16 := by omega
  have zero : UInt16.ofNat length = 0 ↔ length = 0 := by
    rw [← UInt16.toNat_inj, UInt16.toNat_ofNat', Nat.mod_eq_of_lt small]
    rfl
  have four : (4 : UInt16).toNat = 4 := rfl
  have two : (2 : UInt16).toNat = 2 := rfl
  rw [← UInt16.toNat_inj, UInt16.toNat_ofNat', Nat.mod_eq_of_lt fits]
  simp only [zero, ne_eq] at fits ⊢
  by_cases class1 : object.getTransportClass = .class1
  · by_cases headed : config.produceRunIdle = true ∧ ¬ length = 0
    · simp only [if_pos class1, if_pos headed] at fits ⊢
      rw [UInt16.toNat_add, UInt16.toNat_add, UInt16.toNat_ofNat', four, two]
      omega
    · simp only [if_pos class1, if_neg headed] at fits ⊢
      rw [UInt16.toNat_add, UInt16.toNat_ofNat', two]
      omega
  · by_cases headed : config.produceRunIdle = true ∧ ¬ length = 0
    · simp only [if_neg class1, if_pos headed] at fits ⊢
      rw [UInt16.toNat_add, UInt16.toNat_ofNat', four]
      omega
    · simp only [if_neg class1, if_neg headed] at fits ⊢
      rw [UInt16.toNat_ofNat']
      omega

/-- The message is the packet of the address and the data item, written from the first octet of the buffer on. -/
theorem ioMessage_eq (fits : (ioPayload config runIdleState object length data).length < 2 ^ 16) :
    ioMessage config leftOver runIdleState object length data =
      EnipMessage.initialized.add (encodePacket 2 (ioAddress object)
        ⟨kCipItemIdConnectedDataItem, ioPayload config runIdleState object length data, fits⟩ []) := by
  have itemLength := ioItemLength fits
  have empty : (¬ UInt16.ofNat length = 0) ↔ length ≠ 0 := by
    rw [ioPayload_length] at fits
    rw [← UInt16.toNat_inj, UInt16.toNat_ofNat', Nat.mod_eq_of_lt (by omega)]
    exact Iff.rfl
  have inFront : assembleIoMessage (ioItems leftOver object) =
      (addIntToMessage 2 ++ (ioAddress object).encode ++ addIntToMessage kCipItemIdConnectedDataItem) ++
        addIntToMessage 0 := assembleIoMessage_ioItems leftOver object
  have packet : encodePacket 2 (ioAddress object)
      ⟨kCipItemIdConnectedDataItem, ioPayload config runIdleState object length data, fits⟩ [] =
      (addIntToMessage 2 ++ (ioAddress object).encode ++ addIntToMessage kCipItemIdConnectedDataItem) ++
        (addIntToMessage (UInt16.ofNat (ioPayload config runIdleState object length data).length) ++
          ioPayload config runIdleState object length data) := by
    simp [encodePacket, PacketItem.encode, PacketItem.length]
  unfold ioMessage
  dsimp only
  rw [inFront, packet, ← itemLength, EnipMessage.add_if]
  generalize addIntToMessage 2 ++ (ioAddress object).encode ++ addIntToMessage kCipItemIdConnectedDataItem = front
  -- everything behind the item's length is added one after the other, from where the length stands
  have within : ((EnipMessage.initialized.add (front ++ addIntToMessage 0)).moveBack 2).currentMessagePosition ≤
      ((EnipMessage.initialized.add (front ++ addIntToMessage 0)).moveBack 2).messageBuffer.length :=
    EnipMessage.moveBack_within (EnipMessage.add_within EnipMessage.initialized_within) 2
  have overwrite (behind : List CipOctet) (covered : 2 ≤ behind.length) :
      ((EnipMessage.initialized.add (front ++ addIntToMessage 0)).moveBack 2).add behind =
        EnipMessage.initialized.add (front ++ behind) :=
    EnipMessage.add_moveBack EnipMessage.initialized_within (show (addIntToMessage 0).length ≤ behind.length from covered)
  simp only [empty] at itemLength ⊢
  by_cases class1 : object.getTransportClass = .class1
  · rw [if_pos class1, if_pos class1, EnipMessage.add_add within, EnipMessage.add_add within,
      EnipMessage.add_add within, overwrite _ (by simp [addIntToMessage]), ioPayload, if_pos class1]
    simp only [List.append_assoc]
  · rw [if_neg class1, if_neg class1, EnipMessage.add_add within, EnipMessage.add_add within,
      overwrite _ (by simp [addIntToMessage]), ioPayload, if_neg class1]
    simp only [List.append_assoc, List.nil_append]

def IoFrame.encode (frame : IoFrame) (length : Nat) : List CipOctet :=
  let address : PacketItem :=
    match frame.sequenceNumber with
    | some sequenceNumber => .sequencedAddress frame.connectionIdentifier sequenceNumber
    | none => .connectedAddress frame.connectionIdentifier
  let payload := frame.sequenceCount.elim [] addIntToMessage ++ frame.runIdleState.elim [] addDintToMessage ++
    octetsOf frame.data length
  addIntToMessage 2 ++ (address.encode ++
    (addIntToMessage kCipItemIdConnectedDataItem ++ addIntToMessage (UInt16.ofNat payload.length) ++ payload))

theorem ioFrame_encode (fits : (ioPayload config runIdleState object length data).length < 2 ^ 16) :
    (Stack.ioFrame config runIdleState object length data).encode length =
      encodePacket 2 (ioAddress object)
        ⟨kCipItemIdConnectedDataItem, ioPayload config runIdleState object length data, fits⟩ [] := by
  have payload : (Stack.ioFrame config runIdleState object length data).sequenceCount.elim [] addIntToMessage ++
      (Stack.ioFrame config runIdleState object length data).runIdleState.elim [] addDintToMessage ++
        octetsOf data length = ioPayload config runIdleState object length data := by
    unfold Stack.ioFrame ioPayload
    dsimp only
    congr 2
    · split <;> rfl
    · split <;> rfl
  have address : (match (Stack.ioFrame config runIdleState object length data).sequenceNumber with
      | some sequenceNumber => PacketItem.sequencedAddress object.cipProducedConnectionId sequenceNumber
      | none => PacketItem.connectedAddress object.cipProducedConnectionId) = ioAddress object := by
    unfold Stack.ioFrame ioAddress
    dsimp only
    by_cases sequenced : object.getTransportClass ≠ .class0
    · rw [if_pos sequenced, if_pos sequenced]
    · rw [if_neg sequenced, if_neg sequenced]
  unfold IoFrame.encode encodePacket
  dsimp only
  rw [show (Stack.ioFrame config runIdleState object length data).data = data from rfl, payload]
  rw [show (Stack.ioFrame config runIdleState object length data).connectionIdentifier =
    object.cipProducedConnectionId from rfl, address]
  simp [PacketItem.encode, PacketItem.length]

end Contents

namespace Stack

variable {stack after : Stack config} {slot : Slot config}

theorem sendConnectedData_ioMessage (done : stack.sendConnectedData slot = .ok after)
    (leftOver : CipCommonPacketFormatData) :
    ∃ frame length message, after.traffic = .sendUdpData frame :: stack.traffic ∧
      stack.ioMessage slot leftOver = .ok message ∧
      (6 + length < 2 ^ 16 → message = EnipMessage.initialized.add (frame.encode length)) := by
  unfold sendConnectedData at done
  obtain ⟨⟨length, data⟩, produced, finish⟩ := bind_eq_ok.mp done
  let changed := ((stack.object slot).producingInstance.map config.beforeAssemblyDataSend).getD false
  let object := countFrame changed (stack.object slot)
  have own : (stack.modifyObject slot (countFrame changed)).object slot = object := Function.update_self ..
  refine ⟨ioFrame config stack.runIdleState object length data, length,
    EtherNetIP.ioMessage config leftOver stack.runIdleState object length data, ?_, ?_, fun small => ?_⟩
  · cases finish
    rw [traffic_log]
    simp only [Effect.isTraffic, if_true]
    change Effect.sendUdpData (ioFrame config stack.runIdleState
      ((stack.modifyObject slot (countFrame changed)).object slot) length data) :: stack.traffic = _
    rw [own]
  · unfold ioMessage
    dsimp only
    rw [produced]
    rfl
  · have fits : (ioPayload config stack.runIdleState object length data).length < 2 ^ 16 := by
      rw [ioPayload_length]
      split <;> split <;> omega
    rw [ioMessage_eq fits, ioFrame_encode fits]

/-- What is read of a frame: the identifier, the number unless the class is 0, and a data item of the negotiated size
with the count, the header and the data. -/
structure RecoversFrame (config : Configuration) (runIdleState : UInt32) (object : CipConnectionObject) (length : Nat)
    (data : List CipOctet) (items : CipCommonPacketFormatData) : Prop where
  identifier : items.addressItem.data.connectionIdentifier = object.cipProducedConnectionId
  sequenced : object.getTransportClass ≠ .class0 → items.addressItem.typeId = kCipItemIdSequencedAddressItem ∧
    items.addressItem.data.sequenceNumber = object.eipLevelSequenceCountProducing
  unsequenced : object.getTransportClass = .class0 → items.addressItem.typeId = kCipItemIdConnectionAddress
  dataType : items.dataItem.typeId = kCipItemIdConnectedDataItem
  dataLength : items.dataItem.length.toNat = object.getTToOConnectionSize
  data : items.dataItem.data.take items.dataItem.length.toNat = ioPayload config runIdleState object length data

def frameLength (object : CipConnectionObject) : Nat :=
  2 + (if object.getTransportClass ≠ .class0 then 12 else 8) + 4 + object.getTToOConnectionSize

section Recovering

variable {leftOver previous : CipCommonPacketFormatData} {runIdleState : UInt32} {object : CipConnectionObject}
  {length : Nat} {data : List CipOctet}

theorem octetsOf_take (data : List CipOctet) (count : Nat) : octetsOf (data.take count) count = octetsOf data count := by
  unfold octetsOf
  by_cases long : count ≤ data.length
  · rw [List.take_append_of_le_length (by simp [long]), List.take_take, Nat.min_self,
      List.take_append_of_le_length long]
  · rw [List.take_of_length_le (show data.length ≤ count by omega)]

theorem ioAddress_addressItem (object : CipConnectionObject) (previous : AddressItem) :
    (ioAddress object).addressItem previous =
      if object.getTransportClass ≠ .class0 then
        ⟨kCipItemIdSequencedAddressItem, 8, object.cipProducedConnectionId, object.eipLevelSequenceCountProducing⟩
      else ⟨kCipItemIdConnectionAddress, 4, object.cipProducedConnectionId, previous.data.sequenceNumber⟩ := by
  unfold ioAddress
  split
  · exact PacketItem.sequencedAddress_addressItem ..
  · exact PacketItem.connectedAddress_addressItem ..

theorem recoversFrame (small : (ioPayload config runIdleState object length data).length < 2 ^ 16)
    (size : (ioPayload config runIdleState object length data).length = object.getTToOConnectionSize)
    (trailing : List CipOctet) :
    ∃ items, createCommonPacketFormatStructure previous
        (encodePacket 2 (ioAddress object) ⟨kCipItemIdConnectedDataItem, _, small⟩ [] ++ trailing)
        (encodePacket 2 (ioAddress object) ⟨kCipItemIdConnectedDataItem, _, small⟩ []).length = some items ∧
      RecoversFrame config runIdleState object length data items := by
  refine ⟨_, createCommonPacketFormatStructure_encodePacket previous (by decide) (ioAddress_isAddress object)
    (fun _ => rfl) trailing, ?_⟩
  have itemLength : (PacketItem.length ⟨kCipItemIdConnectedDataItem, _, small⟩).toNat =
      (ioPayload config runIdleState object length data).length := PacketItem.length_toNat _
  rw [ioAddress_addressItem]
  refine ⟨?_, fun sequenced => ?_, fun unsequenced => ?_, rfl, itemLength.trans size, ?_⟩
  · dsimp only
    split <;> rfl
  · dsimp only
    rw [if_pos sequenced]
    exact ⟨rfl, rfl⟩
  · dsimp only
    rw [if_neg (by simp [unsequenced])]
  · dsimp only
    rw [itemLength]
    exact List.take_left

theorem ioPacket_length (small : (ioPayload config runIdleState object length data).length < 2 ^ 16)
    (size : (ioPayload config runIdleState object length data).length = object.getTToOConnectionSize) :
    (encodePacket 2 (ioAddress object) ⟨kCipItemIdConnectedDataItem, _, small⟩ []).length = frameLength object := by
  have address : (ioAddress object).encode.length = if object.getTransportClass ≠ .class0 then 12 else 8 := by
    unfold ioAddress
    split <;> rfl
  rw [encodePacket, List.length_append, List.length_append, List.length_append, address, PacketItem.encode_length, size,
    frameLength]
  simp only [addIntToMessage, List.length_cons, List.length_nil]
  omega

end Recovering

theorem Reached.producingInstance (reached : Reached stack) (io : slot.instanceType ≠ .explicitMessaging)
    (listed : slot ∈ stack.connectionList.toList) (produces : (stack.object slot).getTToOConnectionType ≠ .null) :
    (stack.object slot).producingInstance = some (stack.object slot).producedPath.instanceId := by
  have opened := reached.intact.coherent.opened slot listed
  cases slot with
  | explicit i => exact absurd rfl io
  | exclusiveOwner i => exact OpenedIo.produces opened produces
  | inputOnly i j => exact OpenedIo.produces opened produces
  | listenOnly i j => exact OpenedIo.produces opened produces

def counted (stack : Stack config) (slot : Slot config) : CipConnectionObject :=
  countFrame (config.beforeAssemblyDataSend (stack.object slot).producedPath.instanceId) (stack.object slot)

def producedOctets (stack : Stack config) (slot : Slot config) : List CipOctet :=
  stack.assemblyData (stack.object slot).producedPath.instanceId

theorem ioMessage_ok {length : Nat} (producing : (stack.object slot).producingInstance =
      some (stack.object slot).producedPath.instanceId)
    (known : config.assemblyLength (stack.object slot).producedPath.instanceId = some length)
    (small : (ioPayload config stack.runIdleState (stack.counted slot) length (stack.producedOctets slot)).length < 2 ^ 16)
    (leftOver : CipCommonPacketFormatData) :
    stack.ioMessage slot leftOver = .ok (EnipMessage.initialized.add
      (encodePacket 2 (ioAddress (stack.counted slot)) ⟨kCipItemIdConnectedDataItem, _, small⟩ [])) := by
  have taken : ioPayload config stack.runIdleState (stack.counted slot) length ((stack.producedOctets slot).take length) =
      ioPayload config stack.runIdleState (stack.counted slot) length (stack.producedOctets slot) := by
    rw [ioPayload, ioPayload, octetsOf_take]
  have produced : stack.producedData (some (stack.object slot).producedPath.instanceId) =
      .ok (length, (stack.producedOctets slot).take length) := by
    unfold producedData producedOctets
    dsimp only
    rw [known]
  have same := @ioMessage_eq config leftOver stack.runIdleState (stack.counted slot) length
    ((stack.producedOctets slot).take length) (by rw [taken]; exact small)
  simp only [taken] at same
  unfold ioMessage
  dsimp only
  rw [producing, produced]
  exact congrArg Except.ok same

/-- The message of a producing connection holds nothing but a packet of its size. -/
theorem Reached.ioMessage (reached : Reached stack) (io : slot.instanceType ≠ .explicitMessaging)
    (listed : slot ∈ stack.connectionList.toList) (produces : (stack.object slot).getTToOConnectionType ≠ .null)
    (leftOver : CipCommonPacketFormatData) :
    ∃ length small, config.assemblyLength (stack.object slot).producedPath.instanceId = some length ∧
      (ioPayload config stack.runIdleState (stack.counted slot) length (stack.producedOctets slot)).length =
        (stack.counted slot).getTToOConnectionSize ∧
      stack.ioMessage slot leftOver = .ok (EnipMessage.initialized.add (encodePacket 2 (ioAddress (stack.counted slot))
        ⟨kCipItemIdConnectedDataItem,
          ioPayload config stack.runIdleState (stack.counted slot) length (stack.producedOctets slot), small⟩ [])) := by
  obtain ⟨length, known, _⟩ := (reached.sizesAgree slot listed io).producer produces
  have negotiated := size_of_agrees ((reached.sizesAgree slot listed io).producer produces) known
  have size : (ioPayload config stack.runIdleState (stack.counted slot) length (stack.producedOctets slot)).length =
      (stack.counted slot).getTToOConnectionSize := by
    rw [ioPayload_length]
    exact negotiated.symm
  have small := getConnectionSize_lt (stack.counted slot).tToONetworkConnectionParameters
    (stack.counted slot).isLargeForwardOpen
  rw [← getTToOConnectionSize, ← size] at small
  exact ⟨length, small, known, size, ioMessage_ok (reached.producingInstance io listed produces) known small leftOver⟩

/-- The frame of a producing connection is a packet with what the connection sends, if it fits the message buffer. -/
theorem produced_frame_recovered (reached : Reached stack) (io : slot.instanceType ≠ .explicitMessaging)
    (established : (stack.object slot).state = .established)
    (produces : (stack.object slot).getTToOConnectionType ≠ .null) (leftOver : CipCommonPacketFormatData)
    (fits : frameLength (stack.object slot) ≤ PC_OPENER_ETHERNET_BUFFER_SIZE) :
    ∃ length octets, config.assemblyLength (stack.object slot).producedPath.instanceId = some length ∧
      stack.ioMessage slot leftOver = .ok (EnipMessage.initialized.add octets) ∧
      (EnipMessage.initialized.add octets).messageBuffer.length = PC_OPENER_ETHERNET_BUFFER_SIZE ∧
      (EnipMessage.initialized.add octets).usedMessageLength.toNat = octets.length ∧
      ∀ previous, ∃ items, createCommonPacketFormatStructure previous
          (EnipMessage.initialized.add octets).messageBuffer
          (EnipMessage.initialized.add octets).usedMessageLength.toNat = some items ∧
        RecoversFrame config stack.runIdleState (stack.counted slot) length (stack.producedOctets slot) items := by
  have listed := (reached.intact.coherent.mem_iff slot).mpr (.inl established)
  obtain ⟨length, small, known, size, message⟩ := reached.ioMessage io listed produces leftOver
  have octets := ioPacket_length small size
  rw [show frameLength (stack.counted slot) = frameLength (stack.object slot) from rfl] at octets
  have within : (encodePacket 2 (ioAddress (stack.counted slot)) ⟨kCipItemIdConnectedDataItem, _, small⟩ []).length ≤
      PC_OPENER_ETHERNET_BUFFER_SIZE := by rw [octets]; exact fits
  have used := EnipMessage.initialized_add_used within
  refine ⟨length, _, known, message, ?_, used, fun previous => ?_⟩
  · rw [EnipMessage.initialized_add, List.length_append, List.length_replicate]
    omega
  · rw [used, EnipMessage.initialized_add]
    exact recoversFrame small size _

open SampleApplication in
/-- The sample's exclusive owner sends its frames with 128 octets of data. -/
theorem sample_frame_recovered :
    ∃ stack : Stack configuration, Reached stack ∧ (stack.object firstOwner).getTransportClass = .class1 ∧
      frameLength (stack.object firstOwner) = 148 ∧
      ∃ length octets, configuration.assemblyLength (stack.object firstOwner).producedPath.instanceId = some length ∧
        stack.ioMessage firstOwner noItems = .ok (EnipMessage.initialized.add octets) ∧
        (EnipMessage.initialized.add octets).messageBuffer.length = PC_OPENER_ETHERNET_BUFFER_SIZE ∧
        (EnipMessage.initialized.add octets).usedMessageLength.toNat = octets.length ∧
        ∀ previous, ∃ items, createCommonPacketFormatStructure previous
            (EnipMessage.initialized.add octets).messageBuffer
            (EnipMessage.initialized.add octets).usedMessageLength.toNat = some items ∧
          RecoversFrame configuration stack.runIdleState (stack.counted firstOwner) length
            (stack.producedOctets firstOwner) items := by
  let test (stack : Stack configuration) : Bool :=
    (stack.object firstOwner).state == .established && (stack.object firstOwner).getTToOConnectionType != .null &&
      (stack.object firstOwner).getTransportClass == .class1 && frameLength (stack.object firstOwner) == 148
  have run : ends [.forwardOpen (openIo 1 (pointToPoint 128) (pointToPoint 128) 101 102)] test = true := by
    decide +kernel
  obtain ⟨stack, reached, passes⟩ := exists_of_ends run
  simp only [test, Bool.and_eq_true, beq_iff_eq, bne_iff_ne] at passes
  obtain ⟨⟨⟨established, produces⟩, class1⟩, length⟩ := passes
  refine ⟨stack, reached, class1, length, ?_⟩
  exact produced_frame_recovered reached (by decide) established produces noItems (by rw [length]; decide)

end Stack

end EtherNetIP
