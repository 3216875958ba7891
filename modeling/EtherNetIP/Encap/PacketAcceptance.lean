import EtherNetIP.Encap.PacketGrammar

/-! Which packets are accepted.

The parser accepts by lengths: those of at most two items have to add up, of
more than two the first two have to fit. Behind them it looks for socket
addresses, and whatever else stands there is accepted. Its reads follow the item
count and the lengths; only the data of the second item are compared with the
length of the packet before they are passed over.
-/

set_option autoImplicit false

namespace EtherNetIP

section Grammar

theorem splitOctets16 (low high : UInt8) :
    addIntToMessage (low.toUInt16 ||| high.toUInt16 <<< 8) = [low, high] := by
  unfold addIntToMessage
  congr 1
  · apply UInt8.eq_of_toBitVec_eq
    apply BitVec.eq_of_getLsbD_eq
    intro i within
    change ((low.toUInt16 ||| high.toUInt16 <<< 8).toBitVec.setWidth 8).getLsbD i = _
    simp
  · congr 1
    apply UInt8.eq_of_toBitVec_eq
    apply BitVec.eq_of_getLsbD_eq
    intro i within
    change (((low.toUInt16 ||| high.toUInt16 <<< 8).toBitVec >>> 8).setWidth 8).getLsbD i = _
    simp
    grind

theorem splitOctets32 (first second third fourth : UInt8) :
    addDintToMessage (first.toUInt32 ||| second.toUInt32 <<< 8 ||| third.toUInt32 <<< 16 |||
      fourth.toUInt32 <<< 24) = [first, second, third, fourth] := by
  have bits (i : Nat) : (first.toUInt32 ||| second.toUInt32 <<< 8 ||| third.toUInt32 <<< 16 |||
      fourth.toUInt32 <<< 24).toBitVec.getLsbD i =
      ((first.toBitVec.setWidth 32).getLsbD i || (second.toBitVec.setWidth 32 <<< 8).getLsbD i ||
        (third.toBitVec.setWidth 32 <<< 16).getLsbD i || (fourth.toBitVec.setWidth 32 <<< 24).getLsbD i) := by
    change (first.toBitVec.setWidth 32 ||| second.toBitVec.setWidth 32 <<< 8 ||| third.toBitVec.setWidth 32 <<< 16 |||
      fourth.toBitVec.setWidth 32 <<< 24).getLsbD i = _
    rw [BitVec.getLsbD_or, BitVec.getLsbD_or, BitVec.getLsbD_or]
  generalize first.toUInt32 ||| second.toUInt32 <<< 8 ||| third.toUInt32 <<< 16 ||| fourth.toUInt32 <<< 24 = joined
    at bits
  have octet (shift : Nat) (data : UInt8)
      (same : ∀ i < 8, joined.toBitVec.getLsbD (shift + i) = data.toBitVec.getLsbD i) :
      (joined.toBitVec >>> shift).setWidth 8 = data.toBitVec := by
    apply BitVec.eq_of_getLsbD_eq
    intro i within
    rw [BitVec.getLsbD_setWidth, BitVec.getLsbD_ushiftRight, same i within]
    simp [within]
  have beyond (data : UInt8) (i : Nat) (outside : 8 ≤ i) : data.toBitVec.getLsbD i = false :=
    data.toBitVec.getLsbD_of_ge i outside
  simp only [BitVec.getLsbD_shiftLeft, BitVec.getLsbD_setWidth] at bits
  unfold addDintToMessage
  congr 1
  · exact UInt8.eq_of_toBitVec_eq (octet 0 first fun i within => by cases bit : first.toBitVec.getLsbD i <;> grind)
  · congr 1
    · exact UInt8.eq_of_toBitVec_eq (octet 8 second fun i within => by cases bit : second.toBitVec.getLsbD i <;> grind)
    · congr 1
      · exact UInt8.eq_of_toBitVec_eq (octet 16 third fun i within => by cases bit : third.toBitVec.getLsbD i <;> grind)
      · congr 1
        exact UInt8.eq_of_toBitVec_eq (octet 24 fourth fun i within => by cases bit : fourth.toBitVec.getLsbD i <;> grind)

theorem add_uintOf {octets : List CipOctet} (two : 2 ≤ octets.length) :
    addIntToMessage (uintOf octets) = octets.take 2 := by
  obtain _ | ⟨low, _ | ⟨high, rest⟩⟩ := octets
  · simp at two
  · simp at two
  · exact splitOctets16 low high

/-- The octets are so many items, and the socket address items among them have sixteen octets. -/
def IsItems : Nat → List CipOctet → Prop
  | 0, octets => octets = []
  | count + 1, octets =>
      4 ≤ octets.length ∧ (uintOf (octets.drop 2)).toNat ≤ (octets.drop 4).length ∧
        (IsSocketAddressInfo (uintOf octets) → uintOf (octets.drop 2) = 16) ∧
        IsItems count ((octets.drop 4).drop (uintOf (octets.drop 2)).toNat)

def PacketItem.ofOctets (octets : List CipOctet) : PacketItem where
  typeId := uintOf octets
  payload := (octets.drop 4).take (uintOf (octets.drop 2)).toNat
  fits := Nat.lt_of_le_of_lt (List.length_take_le ..) (UInt16.toNat_lt _)

theorem PacketItem.ofOctets_length {octets : List CipOctet}
    (room : (uintOf (octets.drop 2)).toNat ≤ (octets.drop 4).length) :
    (PacketItem.ofOctets octets).length = uintOf (octets.drop 2) := by
  rw [← UInt16.toNat_inj, PacketItem.length_toNat]
  simpa [PacketItem.ofOctets] using room

theorem PacketItem.encode_ofOctets {octets : List CipOctet} (header : 4 ≤ octets.length)
    (room : (uintOf (octets.drop 2)).toNat ≤ (octets.drop 4).length) :
    (PacketItem.ofOctets octets).encode ++ (octets.drop 4).drop (uintOf (octets.drop 2)).toNat = octets := by
  have number : addIntToMessage (uintOf (octets.drop 2)) = (octets.drop 2).take 2 := add_uintOf (by simp; omega)
  unfold PacketItem.encode
  rw [PacketItem.ofOctets_length room, number, PacketItem.ofOctets, add_uintOf (by omega)]
  rw [List.append_assoc, List.take_append_drop, List.append_assoc]
  have rest : octets.drop 4 = (octets.drop 2).drop 2 := by rw [List.drop_drop]
  rw [rest, List.take_append_drop, List.take_append_drop]

theorem encodeItems_cons (item : PacketItem) (items : List PacketItem) :
    encodeItems (item :: items) = item.encode ++ encodeItems items := rfl

theorem isItems_iff {count : Nat} {octets : List CipOctet} :
    IsItems count octets ↔ ∃ items : List PacketItem, items.length = count ∧
      (∀ item ∈ items, IsSocketAddressInfo item.typeId → item.payload.length = 16) ∧ encodeItems items = octets := by
  induction count generalizing octets with
  | zero =>
      constructor
      · intro nothing
        exact ⟨[], rfl, by simp, Eq.symm nothing⟩
      · rintro ⟨items, none, _, encoded⟩
        rw [List.length_eq_zero_iff.mp none] at encoded
        exact encoded.symm
  | succ count ih =>
      constructor
      · rintro ⟨header, room, sixteen, later⟩
        obtain ⟨items, length, addresses, encoded⟩ := ih.mp later
        refine ⟨PacketItem.ofOctets octets :: items, by simp [length], ?_, ?_⟩
        · intro item member address
          rcases List.mem_cons.mp member with rfl | inRest
          · rw [← PacketItem.length_toNat, PacketItem.ofOctets_length room, sixteen address]
            rfl
          · exact addresses item inRest address
        · rw [encodeItems_cons, encoded, PacketItem.encode_ofOctets header room]
      · rintro ⟨_ | ⟨item, items⟩, length, addresses, rfl⟩
        · simp at length
        · rw [encodeItems_cons]
          unfold IsItems
          rw [item.uintOf_encode, item.uintOf_drop_encode, item.drop_encode, item.length_toNat, List.drop_left]
          refine ⟨by rw [List.length_append, item.encode_length]; omega, by simp, fun address => ?_, ?_⟩
          · rw [← UInt16.toNat_inj, item.length_toNat, addresses item List.mem_cons_self address]
            rfl
          · exact ih.mpr ⟨items, by simpa using length, fun other member => addresses other (List.mem_cons_of_mem _ member),
              rfl⟩

end Grammar

section Reads

/-- How many octets are read, from the first one on. The data of the second item are passed over if they fit. -/
def octetsRead (message : List CipOctet) (dataLength : Nat) : Nat :=
  if uintOf message < 2 then dataItemPosition message
  else if dataItemEnd message ≤ dataLength ∧ 3 ≤ uintOf message then
    max (dataItemEnd message + socketAddressInfoLength (uintOf message ≥ 3) (message.drop (dataItemEnd message)))
      (secondInfoPosition message +
        socketAddressInfoLength (uintOf message ≥ 4) (message.drop (secondInfoPosition message)))
  else dataItemPosition message + 4

/-- The packet holds the fields its item count and its lengths announce. -/
structure HoldsFields (message : List CipOctet) (dataLength : Nat) : Prop where
  address : dataItemPosition message ≤ dataLength
  data : 2 ≤ uintOf message → dataItemPosition message + 4 ≤ dataLength
  first : 3 ≤ uintOf message → dataItemEnd message ≤ dataLength → dataItemEnd message +
    socketAddressInfoLength (uintOf message ≥ 3) (message.drop (dataItemEnd message)) ≤ dataLength
  second : 3 ≤ uintOf message → dataItemEnd message ≤ dataLength → secondInfoPosition message +
    socketAddressInfoLength (uintOf message ≥ 4) (message.drop (secondInfoPosition message)) ≤ dataLength

theorem octetsRead_le_iff {message : List CipOctet} {dataLength : Nat} :
    octetsRead message dataLength ≤ dataLength ↔ HoldsFields message dataLength := by
  have data : dataItemPosition message + 4 ≤ dataItemEnd message := Nat.le_add_right ..
  unfold octetsRead
  by_cases fewer : uintOf message < 2
  · have notTwo : ¬ 2 ≤ uintOf message := by simpa using fewer
    have notThree : ¬ 3 ≤ uintOf message := fun three => notTwo (UInt16.le_trans (by decide) three)
    rw [if_pos fewer]
    exact ⟨fun address => ⟨address, fun two => absurd two notTwo, fun three => absurd three notThree,
      fun three => absurd three notThree⟩, HoldsFields.address⟩
  · have two : 2 ≤ uintOf message := by simpa using fewer
    rw [if_neg fewer]
    by_cases further : dataItemEnd message ≤ dataLength ∧ 3 ≤ uintOf message
    · rw [if_pos further, Nat.max_le]
      exact ⟨fun both => ⟨by omega, fun _ => by omega, fun _ _ => both.1, fun _ _ => both.2⟩,
        fun holds => ⟨holds.first further.2 further.1, holds.second further.2 further.1⟩⟩
    · rw [if_neg further]
      exact ⟨fun header => ⟨by omega, fun _ => header, fun three within => absurd ⟨within, three⟩ further,
        fun three within => absurd ⟨within, three⟩ further⟩, fun holds => holds.data two⟩

section Congruence

variable {message other : List CipOctet} {dataLength count position : Nat}

theorem headD_drop_congr (same : message.take count = other.take count) (read : position < count) :
    (message.drop position).headD 0 = (other.drop position).headD 0 := by
  rw [List.headD_eq_head?_getD, List.headD_eq_head?_getD, List.head?_drop, List.head?_drop,
    ← List.getElem?_take_of_lt read, same, List.getElem?_take_of_lt read]

theorem uintOf_drop_congr (same : message.take count = other.take count) (read : position + 2 ≤ count) :
    uintOf (message.drop position) = uintOf (other.drop position) := by
  unfold uintOf
  rw [List.drop_drop, List.drop_drop, headD_drop_congr same (by omega), headD_drop_congr same (by omega)]

theorem udintOf_drop_congr (same : message.take count = other.take count) (read : position + 4 ≤ count) :
    udintOf (message.drop position) = udintOf (other.drop position) := by
  unfold udintOf
  simp only [List.drop_drop]
  rw [headD_drop_congr same (by omega), headD_drop_congr same (by omega), headD_drop_congr same (by omega),
    headD_drop_congr same (by omega)]

def CipCommonPacketFormatData.withoutData (items : CipCommonPacketFormatData) : CipCommonPacketFormatData :=
  { items with dataItem := { items.dataItem with data := [] } }

theorem octetsRead_position (message : List CipOctet) (dataLength : Nat) :
    dataItemPosition message ≤ octetsRead message dataLength ∧
      (2 ≤ uintOf message → dataItemPosition message + 4 ≤ octetsRead message dataLength) := by
  have data : dataItemPosition message + 4 ≤ dataItemEnd message := Nat.le_add_right ..
  unfold octetsRead
  split
  · rename_i fewer
    exact ⟨Nat.le_refl _, fun several => absurd fewer (UInt16.not_lt.mpr several)⟩
  · split
    · have first := Nat.le_max_left (dataItemEnd message + socketAddressInfoLength (uintOf message ≥ 3)
        (message.drop (dataItemEnd message))) (secondInfoPosition message + socketAddressInfoLength
        (uintOf message ≥ 4) (message.drop (secondInfoPosition message)))
      exact ⟨by omega, fun _ => by omega⟩
    · exact ⟨by omega, fun _ => by omega⟩

variable (same : message.take (octetsRead message dataLength) = other.take (octetsRead message dataLength))

include same

theorem uintOf_congr : uintOf message = uintOf other := by
  have read := (octetsRead_position message dataLength).1
  have two : 2 ≤ dataItemPosition message := Nat.le_add_right ..
  exact uintOf_drop_congr same (show 0 + 2 ≤ _ by omega)

theorem addressItem_congr (one : 1 ≤ uintOf message) (previous : AddressItem) :
    dataItemPosition message = dataItemPosition other ∧
      addressItemOf previous (message.drop 2) = addressItemOf previous (other.drop 2) := by
  have read := (octetsRead_position message dataLength).1
  have position : dataItemPosition message = 2 + (4 + addressOctets (uintOf (message.drop 4))) := by
    rw [dataItemPosition, addressLengthOf, if_pos one]
  have type : uintOf (message.drop 2) = uintOf (other.drop 2) := uintOf_drop_congr same (by omega)
  have length : uintOf (message.drop 4) = uintOf (other.drop 4) := uintOf_drop_congr same (by omega)
  refine ⟨?_, ?_⟩
  · rw [position, dataItemPosition, addressLengthOf, ← uintOf_congr same, if_pos one, length]
  · unfold addressOctets at position
    unfold addressItemOf
    simp only [List.drop_drop, ← type, ← length]
    congr 2
    · split
      · rename_i identified
        rw [if_pos identified] at position
        exact udintOf_drop_congr same (by omega)
      · rfl
    · split
      · rename_i sequenced
        rw [if_pos sequenced, if_pos (by rw [sequenced]; decide)] at position
        exact udintOf_drop_congr same (by omega)
      · rfl

theorem dataItemPosition_congr : dataItemPosition message = dataItemPosition other := by
  by_cases one : 1 ≤ uintOf message
  · exact (addressItem_congr same one ⟨0, 0, ⟨0, 0⟩⟩).1
  · rw [dataItemPosition, dataItemPosition, addressLengthOf, addressLengthOf, ← uintOf_congr same, if_neg one, if_neg one]

theorem dataItem_congr (several : 2 ≤ uintOf message) :
    (dataItemOf message).typeId = (dataItemOf other).typeId ∧
      (dataItemOf message).length = (dataItemOf other).length ∧ dataItemEnd message = dataItemEnd other := by
  have read := (octetsRead_position message dataLength).2 several
  have position := dataItemPosition_congr same
  have length : (dataItemOf message).length = (dataItemOf other).length := by
    unfold dataItemOf
    dsimp only
    rw [List.drop_drop, List.drop_drop, ← position]
    exact uintOf_drop_congr same (by omega)
  refine ⟨?_, length, ?_⟩
  · unfold dataItemOf
    dsimp only
    rw [← position]
    exact uintOf_drop_congr same (by omega)
  · rw [dataItemEnd, dataItemEnd, length, position]

theorem socketAddressInfoItemAt_congr {looked : Bool}
    (read : position + socketAddressInfoLength looked (message.drop position) ≤ octetsRead message dataLength)
    (previous : SocketAddressInfoItem) :
    socketAddressInfoItemAt looked previous (message.drop position) =
        socketAddressInfoItemAt looked previous (other.drop position) ∧
      socketAddressInfoOctets looked (message.drop position) = socketAddressInfoOctets looked (other.drop position) := by
  unfold socketAddressInfoItemAt socketAddressInfoOctets
  unfold socketAddressInfoLength at read
  cases looked with
  | false => simp
  | true =>
      have type : uintOf (message.drop position) = uintOf (other.drop position) := by
        refine uintOf_drop_congr same ?_
        rw [if_pos rfl] at read
        split at read <;> omega
      rw [← type]
      refine ⟨?_, rfl⟩
      split
      · rename_i found
        rw [if_pos rfl, if_pos found.2] at read
        unfold socketAddressInfoItemOf
        simp only [List.drop_drop]
        rw [type, uintOf_drop_congr same (by omega), uintOf_drop_congr same (by omega),
          uintOf_drop_congr same (by omega), udintOf_drop_congr same (by omega)]
      · rfl

theorem addressInfoItemsOf_congr (three : 3 ≤ uintOf message) (within : dataItemEnd message ≤ dataLength)
    (previous : AddressInfoItems) : addressInfoItemsOf previous message = addressInfoItemsOf previous other := by
  have several : 2 ≤ uintOf message := UInt16.le_trans (by decide) three
  have dataEnd := (dataItem_congr same several).2.2
  have read : octetsRead message dataLength = _ :=
    (if_neg (UInt16.not_lt.mpr several)).trans (if_pos ⟨within, three⟩)
  have first := socketAddressInfoItemAt_congr same (Nat.le_trans (Nat.le_max_left ..) (Nat.le_of_eq read.symm))
    previous.first
  have second := socketAddressInfoItemAt_congr same (Nat.le_trans (Nat.le_max_right ..) (Nat.le_of_eq read.symm))
    previous.second
  have position : secondInfoPosition message = secondInfoPosition other := by
    rw [secondInfoPosition, secondInfoPosition, ← dataEnd, ← uintOf_congr same, first.2]
  rw [addressInfoItemsOf_eq, addressInfoItemsOf_eq, ← uintOf_congr same, ← position, ← dataEnd, first.1, second.1]

theorem lengthsFit_congr : LengthsFit message dataLength ↔ LengthsFit other dataLength := by
  have counted := uintOf_congr same
  have position := dataItemPosition_congr same
  have dataEnd (several : 2 ≤ uintOf message) := (dataItem_congr same several).2.2
  constructor
  · intro fit
    refine ⟨fun fewer => ?_, fun exactly => ?_, fun more => ?_⟩
    · rw [← position, fit.without (counted ▸ fewer)]
    · rw [← counted] at exactly
      rw [← dataEnd (exactly ▸ UInt16.le_refl _), fit.exactly exactly]
    · rw [← counted] at more
      rw [← dataEnd (UInt16.le_of_lt more)]
      exact fit.within more
  · intro fit
    refine ⟨fun fewer => ?_, fun exactly => ?_, fun more => ?_⟩
    · rw [position, fit.without (counted ▸ fewer)]
    · rw [dataEnd (exactly ▸ UInt16.le_refl _), fit.exactly (counted ▸ exactly)]
    · rw [dataEnd (UInt16.le_of_lt more)]
      exact fit.within (counted ▸ more)

theorem itemsOf_congr (fit : LengthsFit message dataLength) (previous : CipCommonPacketFormatData) :
    (itemsOf previous message).withoutData = (itemsOf previous other).withoutData := by
  have counted := uintOf_congr same
  have address : (itemsOf previous message).addressItem = (itemsOf previous other).addressItem := by
    unfold itemsOf
    dsimp only
    rw [← counted]
    split
    · rename_i one
      exact (addressItem_congr same one previous.addressItem).2
    · rfl
  have data : { (itemsOf previous message).dataItem with data := [] } =
      { (itemsOf previous other).dataItem with data := [] } := by
    unfold itemsOf
    dsimp only
    rw [← counted]
    by_cases several : 2 ≤ uintOf message
    · obtain ⟨type, length, _⟩ := dataItem_congr same several
      rw [if_pos several, if_pos several, type, length]
    · rw [if_neg several, if_neg several]
  have infos : (itemsOf previous message).addressInfoItems = (itemsOf previous other).addressInfoItems := by
    unfold itemsOf
    dsimp only
    by_cases three : 3 ≤ uintOf message
    · have more : 2 < uintOf message := UInt16.lt_of_lt_of_le (by decide) three
      exact addressInfoItemsOf_congr same three (fit.within more) _
    · have four : ¬ 4 ≤ uintOf message := fun four => three (UInt16.le_trans (by decide) four)
      rw [addressInfoItemsOf_eq, addressInfoItemsOf_eq, ← counted]
      simp [socketAddressInfoItemAt, three, four]
  unfold CipCommonPacketFormatData.withoutData
  rw [address, data, infos]
  exact congrArg (CipCommonPacketFormatData.mk · _ _ _) counted

/-- No octet behind those that are read has a part in what the parser does. -/
theorem createCommonPacketFormatStructure_reads (previous : CipCommonPacketFormatData) :
    (createCommonPacketFormatStructure previous message dataLength).map (·.withoutData) =
      (createCommonPacketFormatStructure previous other dataLength).map (·.withoutData) := by
  by_cases fit : LengthsFit message dataLength
  · rw [createCommonPacketFormatStructure_eq_some_iff.mpr ⟨fit, rfl⟩,
      createCommonPacketFormatStructure_eq_some_iff.mpr ⟨(lengthsFit_congr same).mp fit, rfl⟩]
    exact congrArg some (itemsOf_congr same fit previous)
  · have refused (octets : List CipOctet) (unfit : ¬ LengthsFit octets dataLength) :
        createCommonPacketFormatStructure previous octets dataLength = none := by
      rw [Option.eq_none_iff_forall_ne_some]
      intro items accepted
      exact unfit (createCommonPacketFormatStructure_eq_some_iff.mp accepted).1
    rw [refused message fit, refused other fun fits => fit ((lengthsFit_congr same).mpr fits)]

end Congruence

end Reads

section Acceptance

variable {message string trailing : List CipOctet} {previous : CipCommonPacketFormatData}

/-- The fields are those of the items: of the first, of the second with the octets from its data on, and socket
addresses of the third and the fourth. -/
structure HoldsItems (items : CipCommonPacketFormatData) (packet : Packet) (trailing : List CipOctet) : Prop where
  itemCount : items.itemCount.toNat = packet.items.length
  address : ∀ item, packet.items[0]? = some item →
    items.addressItem.typeId = item.typeId ∧ items.addressItem.length = item.length ∧
      (4 ≤ item.payload.length → items.addressItem.data.connectionIdentifier = udintOf item.payload) ∧
      (item.payload.length = 8 → items.addressItem.data.sequenceNumber = udintOf (item.payload.drop 4))
  data : ∀ item, packet.items[1]? = some item →
    items.dataItem = ⟨item.typeId, item.length, item.payload ++ (encodeItems (packet.items.drop 2) ++ trailing)⟩
  first : items.addressInfoItems.first.typeId ≠ 0 → ∃ item, packet.items[2]? = some item ∧
    items.addressInfoItems.first = socketAddressInfoItemOf item.encode
  second : items.addressInfoItems.second.typeId ≠ 0 → ∃ item, packet.items[3]? = some item ∧
    items.addressInfoItems.second = socketAddressInfoItemOf item.encode

/-- The string is accepted as the packet it is or not at all, and nothing behind it is read. -/
structure ParsesExactly (previous : CipCommonPacketFormatData) (string trailing : List CipOctet) : Prop where
  accepted : ∀ items, createCommonPacketFormatStructure previous (string ++ trailing) string.length = some items →
    ∃ packet : Packet, packet.encode = string ∧ HoldsItems items packet trailing
  within : octetsRead (string ++ trailing) string.length ≤ string.length

/-- The fields are there. If the lengths fit, the address item is empty or has an identifier, perhaps with a number; a
socket address as second item has sixteen octets; and so many items as are announced stand behind the second. -/
structure Conforming (message : List CipOctet) (dataLength : Nat) : Prop where
  fields : HoldsFields message dataLength
  address : LengthsFit message dataLength → 1 ≤ uintOf message →
    addressOctets (uintOf (message.drop 4)) = (uintOf (message.drop 4)).toNat ∧
      ¬ IsSocketAddressInfo (uintOf (message.drop 2))
  data : LengthsFit message dataLength → 2 ≤ uintOf message → IsSocketAddressInfo (dataItemOf message).typeId →
    (dataItemOf message).length = 16
  rest : LengthsFit message dataLength → 3 ≤ uintOf message →
    IsItems ((uintOf message).toNat - 2) ((message.take dataLength).drop (dataItemEnd message))

theorem uintOf_append {octets : List CipOctet} (long : 2 ≤ octets.length) (rest : List CipOctet) :
    uintOf (octets ++ rest) = uintOf octets := by
  obtain _ | ⟨low, _ | ⟨high, octets⟩⟩ := octets
  · simp at long
  · simp at long
  · rfl

theorem uintOf_drop_append {octets : List CipOctet} {position : Nat} (long : position + 2 ≤ octets.length)
    (rest : List CipOctet) : uintOf ((octets ++ rest).drop position) = uintOf (octets.drop position) := by
  rw [List.drop_append_of_le_length (by omega), uintOf_append (by simp; omega)]

theorem isItems_drop {position count : Nat}
    (room : position + 4 + (uintOf (string.drop (position + 2))).toNat ≤ string.length)
    (sixteen : IsSocketAddressInfo (uintOf (string.drop position)) → uintOf (string.drop (position + 2)) = 16)
    (later : IsItems count (string.drop (position + 4 + (uintOf (string.drop (position + 2))).toNat))) :
    IsItems (count + 1) (string.drop position) := by
  unfold IsItems
  simp only [List.drop_drop, List.length_drop]
  exact ⟨by omega, by omega, sixteen, later⟩

theorem Conforming.isItems (conforming : Conforming (string ++ trailing) string.length)
    (fit : LengthsFit (string ++ trailing) string.length) : IsItems (uintOf string).toNat (string.drop 2) := by
  have address := conforming.fields.address
  have two : 2 ≤ string.length := Nat.le_trans (Nat.le_add_right ..) address
  have counted : uintOf (string ++ trailing) = uintOf string := uintOf_append two trailing
  have atOnce (few : uintOf string < 2) : dataItemPosition (string ++ trailing) = string.length :=
    fit.without (by rw [counted]; exact few)
  by_cases none : uintOf string < 1
  · have zero : (uintOf string).toNat = 0 := by
      rw [UInt16.lt_iff_toNat_lt, show (1 : UInt16).toNat = 1 from rfl] at none
      omega
    have position : dataItemPosition (string ++ trailing) = 2 := by
      rw [dataItemPosition, addressLengthOf, counted, if_neg (UInt16.not_le.mpr none)]
    rw [zero, IsItems, List.drop_eq_nil_iff, ← atOnce (UInt16.lt_trans none (by decide)), position]
  · have one : 1 ≤ uintOf string := UInt16.not_lt.mp none
    have position : dataItemPosition (string ++ trailing) =
        2 + (4 + addressOctets (uintOf ((string ++ trailing).drop 4))) := by
      rw [dataItemPosition, addressLengthOf, counted, if_pos one]
    obtain ⟨octets, notSocketAddress⟩ := conforming.address fit (counted ▸ one)
    rw [octets] at position
    have header : 6 ≤ string.length := by omega
    rw [uintOf_drop_append (by omega)] at position notSocketAddress
    have room : 2 + 4 + (uintOf (string.drop 4)).toNat ≤ string.length := by omega
    have atData : 2 + 4 + (uintOf (string.drop 4)).toNat = dataItemPosition (string ++ trailing) := by omega
    by_cases fewer : uintOf string < 2
    · have single : (uintOf string).toNat = 0 + 1 := by
        rw [UInt16.lt_iff_toNat_lt, show (2 : UInt16).toNat = 2 from rfl] at fewer
        rw [UInt16.le_iff_toNat_le, show (1 : UInt16).toNat = 1 from rfl] at one
        omega
      rw [single]
      refine isItems_drop room (fun socketAddress => absurd socketAddress notSocketAddress) ?_
      rw [IsItems, List.drop_eq_nil_iff, ← atOnce fewer, atData]
    · have several : 2 ≤ uintOf string := by simpa using fewer
      have more : (uintOf string).toNat = (uintOf string).toNat - 2 + 1 + 1 := by
        rw [UInt16.le_iff_toNat_le, show (2 : UInt16).toNat = 2 from rfl] at several
        omega
      have dataHeader := conforming.fields.data (counted ▸ several)
      have type : (dataItemOf (string ++ trailing)).typeId =
          uintOf (string.drop (dataItemPosition (string ++ trailing))) := uintOf_drop_append (by omega) trailing
      have length : (dataItemOf (string ++ trailing)).length =
          uintOf (string.drop (dataItemPosition (string ++ trailing) + 2)) := by
        unfold dataItemOf
        dsimp only
        rw [List.drop_drop, uintOf_drop_append (by omega)]
      have dataEnd : dataItemPosition (string ++ trailing) + 4 +
          (uintOf (string.drop (dataItemPosition (string ++ trailing) + 2))).toNat =
            dataItemEnd (string ++ trailing) := by
        rw [dataItemEnd, length]
      have sixteen := conforming.data fit (counted ▸ several)
      rw [type, length] at sixteen
      rw [more]
      refine isItems_drop room (fun socketAddress => absurd socketAddress notSocketAddress) ?_
      rw [atData]
      -- the second item, and what is left behind it
      by_cases exactly : uintOf string = 2
      · have atEnd := fit.exactly (counted.trans exactly)
        refine isItems_drop (by omega) sixteen ?_
        rw [exactly, dataEnd, atEnd, List.drop_length]
        rfl
      · have three : 3 ≤ uintOf string := by
          rw [← UInt16.toNat_inj] at exactly
          rw [UInt16.le_iff_toNat_le] at several ⊢
          have numbers : (2 : UInt16).toNat = 2 ∧ (3 : UInt16).toNat = 3 := ⟨rfl, rfl⟩
          omega
        have within := fit.within (counted ▸ UInt16.lt_of_lt_of_le (by decide) three)
        have rest := conforming.rest fit (counted ▸ three)
        rw [List.take_left, counted, ← dataEnd] at rest
        exact isItems_drop (by omega) sixteen rest

section Packets

variable {packet : Packet} {address data : PacketItem} {rest : List PacketItem}

theorem Packet.encode_append (packet : Packet) (trailing : List CipOctet) :
    packet.encode ++ trailing =
      addIntToMessage (UInt16.ofNat packet.items.length) ++ (encodeItems packet.items ++ trailing) :=
  List.append_assoc ..

theorem Packet.uintOf_encode (packet : Packet) (trailing : List CipOctet) :
    (uintOf (packet.encode ++ trailing)).toNat = packet.items.length := by
  rw [packet.encode_append, uintOf_add, UInt16.toNat_ofNat', Nat.mod_eq_of_lt packet.fits]

theorem Packet.drop_encode (packet : Packet) (trailing : List CipOctet) :
    (packet.encode ++ trailing).drop 2 = encodeItems packet.items ++ trailing := by
  rw [packet.encode_append]
  simp [addIntToMessage]

theorem Packet.encode_eq (shape : packet.items = address :: data :: rest) (trailing : List CipOctet) :
    packet.encode ++ trailing =
      encodePacket (UInt16.ofNat packet.items.length) address data (encodeItems rest ++ trailing) := by
  rw [packet.encode_append, encodePacket, shape, encodeItems_cons, encodeItems_cons]
  simp only [List.append_assoc]

theorem Packet.several (shape : packet.items = address :: data :: rest) :
    2 ≤ UInt16.ofNat packet.items.length := by
  rw [UInt16.le_iff_toNat_le, UInt16.toNat_ofNat', Nat.mod_eq_of_lt packet.fits, shape]
  simp

/-- An item that is filled has been looked for and found. -/
theorem socketAddressInfoItemAt_filled {looked : Bool} {previous : SocketAddressInfoItem} {behind : List CipOctet}
    (filled : (socketAddressInfoItemAt looked previous behind).typeId ≠ 0) :
    looked = true ∧ IsSocketAddressInfo (uintOf behind) ∧
      socketAddressInfoItemAt looked previous behind = socketAddressInfoItemOf behind := by
  unfold socketAddressInfoItemAt at filled ⊢
  split at filled
  · rename_i found
    exact ⟨found.1, found.2, if_pos found⟩
  · exact absurd rfl filled

theorem socketAddressInfoItemOf_encode {item : PacketItem} (sixteen : item.payload.length = 16)
    (behind : List CipOctet) : socketAddressInfoItemOf (item.encode ++ behind) = socketAddressInfoItemOf item.encode := by
  have length := item.encode_length
  unfold socketAddressInfoItemOf
  rw [uintOf_append (by omega), uintOf_drop_append (by omega), uintOf_drop_append (by omega),
    uintOf_drop_append (by omega), List.drop_append_of_le_length (by omega), udintOf_append (by simp; omega)]

theorem PacketItem.addressItem_eq (item : PacketItem) (previous : AddressItem) :
    (item.addressItem previous).typeId = item.typeId ∧ (item.addressItem previous).length = item.length ∧
      (4 ≤ item.payload.length → (item.addressItem previous).data.connectionIdentifier = udintOf item.payload) ∧
      (item.payload.length = 8 → (item.addressItem previous).data.sequenceNumber = udintOf (item.payload.drop 4)) := by
  refine ⟨rfl, rfl, fun identified => if_pos ?_, fun sequenced => if_pos ?_⟩
  · rw [ge_iff_le, UInt16.le_iff_toNat_le, item.length_toNat]
    exact identified
  · rw [← UInt16.toNat_inj, item.length_toNat, sequenced]
    rfl

theorem Packet.behind_data (shape : packet.items = address :: data :: rest) (isAddress : address.IsAddress)
    (trailing : List CipOctet) :
    (packet.encode ++ trailing).drop (dataItemEnd (packet.encode ++ trailing)) = encodeItems rest ++ trailing := by
  rw [packet.encode_eq shape, dataItemEnd_encodePacket (packet.several shape) isAddress, Nat.add_assoc,
    ← List.drop_drop, drop_encodePacket, ← List.drop_drop, List.drop_left, List.drop_left]

theorem Packet.looked {index : UInt16} (looked : decide (uintOf (packet.encode ++ trailing) ≥ index) = true) :
    index.toNat ≤ packet.items.length := by
  rw [decide_eq_true_iff, ge_iff_le, UInt16.le_iff_toNat_le, packet.uintOf_encode] at looked
  exact looked

variable {infos : AddressInfoItems}

theorem addressInfoItemsOf_first (isAddress : ∀ item, packet.items[0]? = some item → item.IsAddress)
    (filled : (addressInfoItemsOf infos (packet.encode ++ trailing)).first.typeId ≠ 0) :
    ∃ item, packet.items[2]? = some item ∧
      (addressInfoItemsOf infos (packet.encode ++ trailing)).first = socketAddressInfoItemOf item.encode := by
  rw [addressInfoItemsOf_eq] at filled ⊢
  obtain ⟨looked, found, same⟩ := socketAddressInfoItemAt_filled filled
  have three : 3 ≤ packet.items.length := Packet.looked looked
  match shape : packet.items, three with
  | address :: data :: third :: rest, _ =>
      have behind := packet.behind_data shape (isAddress address (by simp [shape])) trailing
      rw [encodeItems_cons, List.append_assoc] at behind
      rw [behind, third.uintOf_encode] at found
      have sixteen := packet.socketAddresses third (by simp [shape]) found
      exact ⟨third, rfl, same.trans (by rw [behind, socketAddressInfoItemOf_encode sixteen])⟩

theorem addressInfoItemsOf_second (isAddress : ∀ item, packet.items[0]? = some item → item.IsAddress)
    (filled : (addressInfoItemsOf infos (packet.encode ++ trailing)).second.typeId ≠ 0) :
    ∃ item, packet.items[3]? = some item ∧
      (addressInfoItemsOf infos (packet.encode ++ trailing)).second = socketAddressInfoItemOf item.encode := by
  rw [addressInfoItemsOf_eq] at filled ⊢
  obtain ⟨looked, found, same⟩ := socketAddressInfoItemAt_filled filled
  have four : 4 ≤ packet.items.length := Packet.looked looked
  match shape : packet.items, four with
  | address :: data :: third :: fourth :: rest, _ =>
      have behind := packet.behind_data shape (isAddress address (by simp [shape])) trailing
      rw [encodeItems_cons, encodeItems_cons, List.append_assoc, List.append_assoc] at behind
      have three : uintOf (packet.encode ++ trailing) ≥ 3 := by
        rw [ge_iff_le, UInt16.le_iff_toNat_le, packet.uintOf_encode, shape]
        simp
      -- the second is read behind the first only if the first is a socket address, and otherwise in its place
      have position : (packet.encode ++ trailing).drop (secondInfoPosition (packet.encode ++ trailing)) =
          (third.encode ++ (fourth.encode ++ (encodeItems rest ++ trailing))).drop
            (if IsSocketAddressInfo third.typeId then 20 else 0) := by
        rw [secondInfoPosition, ← List.drop_drop, behind, socketAddressInfoOctets, third.uintOf_encode]
        simp [three]
      by_cases socketAddress : IsSocketAddressInfo third.typeId
      · have twenty : third.encode.length = 20 := by
          rw [third.encode_length, packet.socketAddresses third (by simp [shape]) socketAddress]
        rw [if_pos socketAddress, ← twenty, List.drop_left] at position
        rw [position, fourth.uintOf_encode] at found
        have sixteen := packet.socketAddresses fourth (by simp [shape]) found
        exact ⟨fourth, rfl, same.trans (by rw [position, socketAddressInfoItemOf_encode sixteen])⟩
      · rw [if_neg socketAddress, List.drop_zero] at position
        rw [position, third.uintOf_encode] at found
        exact absurd found socketAddress

/-- The items of a packet are found if its address item has a length the parser knows. -/
theorem itemsOf_holdsItems (packet : Packet) (isAddress : ∀ item, packet.items[0]? = some item → item.IsAddress)
    (previous : CipCommonPacketFormatData) (trailing : List CipOctet) :
    HoldsItems (itemsOf previous (packet.encode ++ trailing)) packet trailing := by
  have counted := packet.uintOf_encode trailing
  refine ⟨counted, fun address first => ?_, fun data second => ?_, addressInfoItemsOf_first isAddress,
    addressInfoItemsOf_second isAddress⟩
  · match shape : packet.items with
    | head :: others =>
        have same : head = address := by simpa [shape] using first
        have one : uintOf (packet.encode ++ trailing) ≥ 1 := by
          rw [ge_iff_le, UInt16.le_iff_toNat_le, counted, shape]
          simp
        unfold itemsOf
        rw [if_pos one, packet.drop_encode, shape, encodeItems_cons, List.append_assoc, addressItemOf_encode, same]
        exact address.addressItem_eq _
    | [] => simp [shape] at first
  · match shape : packet.items with
    | address :: head :: rest =>
        have same : head = data := by simpa [shape] using second
        have several := packet.several shape
        unfold itemsOf
        rw [packet.encode_eq shape, uintOf_encodePacket, if_pos several,
          dataItemOf_encodePacket several (isAddress address (by simp [shape])), same]
        rfl
    | [] => simp [shape] at second
    | [address] => simp [shape] at second

theorem Packet.uintOf_drop_two {others : List PacketItem} (shape : packet.items = address :: others)
    (trailing : List CipOctet) : uintOf ((packet.encode ++ trailing).drop 2) = address.typeId := by
  rw [packet.drop_encode, shape, encodeItems_cons, List.append_assoc, address.uintOf_encode]

theorem Packet.uintOf_drop_four {others : List PacketItem} (shape : packet.items = address :: others)
    (trailing : List CipOctet) : uintOf ((packet.encode ++ trailing).drop 4) = address.length := by
  have behind : (packet.encode ++ trailing).drop 4 = ((packet.encode ++ trailing).drop 2).drop 2 := by
    rw [List.drop_drop]
  rw [behind, packet.drop_encode, shape, encodeItems_cons, List.append_assoc, address.uintOf_drop_encode]

theorem Packet.encode_length (packet : Packet) : packet.encode.length = 2 + (encodeItems packet.items).length := by
  simp [Packet.encode, addIntToMessage]
  omega

theorem isAddress_of_holdsItems {others : List PacketItem} (shape : packet.items = address :: others)
    (fields : HoldsFields (packet.encode ++ trailing) packet.encode.length)
    (fit : LengthsFit (packet.encode ++ trailing) packet.encode.length)
    (holds : HoldsItems (itemsOf previous (packet.encode ++ trailing)) packet trailing) : address.IsAddress := by
  have one : uintOf (packet.encode ++ trailing) ≥ 1 := by
    rw [ge_iff_le, UInt16.le_iff_toNat_le, packet.uintOf_encode, shape]
    simp
  have position : dataItemPosition (packet.encode ++ trailing) = 2 + (4 + addressOctets address.length) := by
    rw [dataItemPosition, addressLengthOf, if_pos one, Packet.uintOf_drop_four shape]
  have length := packet.encode_length
  rw [shape, encodeItems_cons, List.length_append, address.encode_length] at length
  unfold PacketItem.IsAddress
  cases others with
  | nil =>
      have single : uintOf (packet.encode ++ trailing) < 2 := by
        rw [UInt16.lt_iff_toNat_lt, packet.uintOf_encode, shape]
        exact Nat.one_lt_two
      have atEnd := fit.without single
      simp only [encodeItems, List.flatMap_nil, List.length_nil] at length
      omega
  | cons data rest =>
      -- the data of the second item begin where the parser says they do
      have several : 2 ≤ uintOf (packet.encode ++ trailing) := by
        rw [UInt16.le_iff_toNat_le, packet.uintOf_encode, shape]
        simp
      have second := holds.data data (by simp [shape])
      unfold itemsOf at second
      rw [if_pos several] at second
      have same : (packet.encode ++ trailing).drop (dataItemPosition (packet.encode ++ trailing) + 4) =
          data.payload ++ (encodeItems (packet.items.drop 2) ++ trailing) := by
        have found := congrArg DataItem.data second
        unfold dataItemOf at found
        dsimp only at found
        rwa [List.drop_drop] at found
      have lengths := congrArg List.length same
      have within := fields.data several
      rw [encodeItems_cons, List.length_append, data.encode_length] at length
      simp only [shape, List.drop_succ_cons, List.drop_zero, List.length_drop, List.length_append] at lengths
      omega

theorem conforming_of_parsesExactly (parses : ParsesExactly previous string trailing) :
    Conforming (string ++ trailing) string.length := by
  have fields := octetsRead_le_iff.mp parses.within
  have encoded (fit : LengthsFit (string ++ trailing) string.length) :=
    parses.accepted _ (createCommonPacketFormatStructure_eq_some_iff.mpr ⟨fit, rfl⟩)
  have head (packet : Packet) (some : 1 ≤ uintOf (packet.encode ++ trailing)) :
      ∃ address others, packet.items = address :: others := by
    rw [UInt16.le_iff_toNat_le, packet.uintOf_encode] at some
    exact List.exists_cons_of_length_pos some
  have second (packet : Packet) (several : 2 ≤ uintOf (packet.encode ++ trailing)) :
      ∃ address data rest, packet.items = address :: data :: rest := by
    rw [UInt16.le_iff_toNat_le, packet.uintOf_encode] at several
    match shape : packet.items with
    | address :: data :: rest => exact ⟨address, data, rest, rfl⟩
    | [] => simp [shape] at several
    | [address] => simp [shape] at several
  refine ⟨fields, fun fit one => ?_, fun fit several socketAddress => ?_, fun fit three => ?_⟩
  · obtain ⟨packet, rfl, holds⟩ := encoded fit
    obtain ⟨address, others, shape⟩ := head packet one
    have isAddress := isAddress_of_holdsItems shape fields fit holds
    rw [Packet.uintOf_drop_four shape, Packet.uintOf_drop_two shape, address.length_toNat]
    refine ⟨isAddress, fun socketAddress => ?_⟩
    -- a socket address as address item has 16 octets, and the parser counts eight at most
    have sixteen := packet.socketAddresses address (by simp [shape]) socketAddress
    have length : address.length = 16 := by
      rw [← UInt16.toNat_inj, address.length_toNat, sixteen]
      rfl
    rw [PacketItem.IsAddress, length, sixteen] at isAddress
    exact absurd isAddress (by decide)
  · obtain ⟨packet, rfl, holds⟩ := encoded fit
    obtain ⟨address, data, rest, shape⟩ := second packet several
    have isAddress := isAddress_of_holdsItems shape fields fit holds
    rw [packet.encode_eq shape, dataItemOf_encodePacket (packet.several shape) isAddress] at socketAddress ⊢
    rw [← UInt16.toNat_inj, data.length_toNat, packet.socketAddresses data (by simp [shape]) socketAddress]
    rfl
  · obtain ⟨packet, rfl, holds⟩ := encoded fit
    obtain ⟨address, data, rest, shape⟩ := second packet (UInt16.le_trans (by decide) three)
    have isAddress := isAddress_of_holdsItems shape fields fit holds
    have dataEnd : dataItemEnd (packet.encode ++ trailing) = dataItemEnd (packet.encode ++ []) := by
      rw [packet.encode_eq shape, packet.encode_eq shape, dataItemEnd_encodePacket (packet.several shape) isAddress,
        dataItemEnd_encodePacket (packet.several shape) isAddress]
    have behind := packet.behind_data shape isAddress []
    rw [List.append_nil, List.append_nil] at behind
    rw [List.take_left, dataEnd, List.append_nil, behind, packet.uintOf_encode, shape]
    refine isItems_iff.mpr ⟨rest, by simp, fun item member => ?_, rfl⟩
    exact packet.socketAddresses item (by simp [shape, member])

theorem Conforming.parsesExactly (conforming : Conforming (string ++ trailing) string.length) :
    ParsesExactly previous string trailing := by
  refine ⟨fun items accepted => ?_, octetsRead_le_iff.mpr conforming.fields⟩
  obtain ⟨fit, rfl⟩ := createCommonPacketFormatStructure_eq_some_iff.mp accepted
  have two : 2 ≤ string.length := Nat.le_trans (Nat.le_add_right ..) conforming.fields.address
  obtain ⟨packetItems, length, socketAddresses, encoded⟩ := isItems_iff.mp (conforming.isItems fit)
  let packet : Packet := ⟨packetItems, length ▸ UInt16.toNat_lt _, socketAddresses⟩
  have same : packet.encode = string := by
    have number : UInt16.ofNat packet.items.length = uintOf string := by
      rw [show packet.items.length = (uintOf string).toNat from length, UInt16.ofNat_toNat]
    have octets : encodeItems packet.items = string.drop 2 := encoded
    rw [Packet.encode, number, octets, add_uintOf two, List.take_append_drop]
  refine ⟨packet, same, ?_⟩
  rw [← same]
  refine itemsOf_holdsItems packet (fun address first => ?_) previous trailing
  match shape : packet.items with
  | head :: others =>
      have headIs : head = address := by simpa [shape] using first
      rw [← headIs]
      have one : 1 ≤ uintOf (string ++ trailing) := by
        rw [UInt16.le_iff_toNat_le, ← same, packet.uintOf_encode, shape]
        simp
      have octets := (conforming.address fit one).1
      rw [← same, Packet.uintOf_drop_four shape, head.length_toNat] at octets
      exact octets
  | [] => simp [shape] at first

/-- A string is parsed exactly if and only if its fields are there and, where its lengths fit, the lengths of its
items are those of a packet. -/
theorem parsesExactly_iff (previous : CipCommonPacketFormatData) (string trailing : List CipOctet) :
    ParsesExactly previous string trailing ↔ Conforming (string ++ trailing) string.length :=
  ⟨conforming_of_parsesExactly, Conforming.parsesExactly⟩

/-- Three items are announced and two are there: the packet is accepted. -/
theorem missing_item_accepted :
    ¬ ParsesExactly ⟨0, ⟨0, 0, ⟨0, 0⟩⟩, ⟨0, 0, []⟩, ⟨.zero, .zero⟩⟩ [3, 0, 0, 0, 0, 0, 0xB2, 0, 0, 0] [] := by
  intro parses
  have fit : LengthsFit [3, 0, 0, 0, 0, 0, 0xB2, 0, 0, 0] 10 := ⟨by decide, by decide, by decide⟩
  have missing : IsItems 1 [] := (conforming_of_parsesExactly parses).rest fit (by decide)
  exact absurd missing.1 (by decide)

end Packets

end Acceptance

end EtherNetIP
