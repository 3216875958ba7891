import EtherNetIP.Cip.IoOpenings
import EtherNetIP.Encap.Conversation
import EtherNetIP.Encap.Encap
import EtherNetIP.Encap.PacketGrammar

/-! Replies as they are sent.

A reply is complete when its header tells its length and whom it answers, and
when the length of its data item leads to the socket address items. A reply to a
connected message is kept in the connection object; in any run the kept replies
are complete, so that only an object without any can be answered from with
something else.
-/

set_option autoImplicit false

namespace EtherNetIP

open Library CipConnectionObject
open Stack (EncapsulationProtocolErrorCode)

variable {config : Configuration}

section Packets

def IsReplyAddress (octets : List CipOctet) : Prop :=
  octets = encodeNullAddressItem ∨ ∃ items, octets = encodeConnectedAddressItem items

/-- The common packet of a reply. The length of its data item is the number of the octets behind it up to the
socket address items. -/
def DataItemWhole (body : List CipOctet) : Prop :=
  ∃ (itemCount typeId : UInt16) (address content : List CipOctet) (items : AddressInfoItems),
    IsReplyAddress address ∧ content.length < 2 ^ 16 ∧
    body = addDintToMessage 0 ++ addIntToMessage 0 ++ addIntToMessage itemCount ++ address ++
      (addIntToMessage typeId ++ addIntToMessage (UInt16.ofNat content.length) ++ content) ++
      encodeItemOfType items kCipItemIdSocketAddressInfoOriginatorToTarget ++
      encodeItemOfType items kCipItemIdSocketAddressInfoTargetToOriginator

/-- The reply has the length its data item tells for each service that fills at most the array of its additional
status. -/
theorem encodeResponse_length {response : Response}
    (fits : response.additionalStatus.length ≤ MAX_SIZE_OF_ADD_STATUS) :
    (encodeResponse response).length = responseLength response := by
  have words (status : List UInt16) : (status.flatMap addIntToMessage).length = 2 * status.length := by
    induction status with
    | nil => rfl
    | cons word rest ih =>
        rw [List.flatMap_cons, List.length_append, ih, List.length_cons]
        change 2 + _ = _
        omega
  rw [encodeResponse, encodeExtendedStatus, List.take_of_length_le fits, responseLength]
  simp only [List.length_append, words, addSintToMessage, List.length_singleton]
  omega

theorem assembleLinearMessage_whole {response : Response} {items : CipCommonPacketFormatData}
    (address : items.addressItem.typeId = kCipItemIdNullAddress ∨
      items.addressItem.typeId = kCipItemIdConnectionAddress)
    (data : items.dataItem.typeId = kCipItemIdUnconnectedDataItem ∨
      items.dataItem.typeId = kCipItemIdConnectedDataItem)
    (fits : response.additionalStatus.length ≤ MAX_SIZE_OF_ADD_STATUS)
    (short : (assembleLinearMessage response items).length < 2 ^ 16) :
    DataItemWhole (assembleLinearMessage response items) := by
  have addressed : ∃ octets, IsReplyAddress octets ∧ assembleLinearMessage response items =
      addDintToMessage 0 ++ addIntToMessage 0 ++ addIntToMessage items.itemCount ++ octets ++
        encodeDataItem items response ++
        encodeItemOfType items.addressInfoItems kCipItemIdSocketAddressInfoOriginatorToTarget ++
        encodeItemOfType items.addressInfoItems kCipItemIdSocketAddressInfoTargetToOriginator := by
    unfold assembleLinearMessage
    obtain null | connection := address
    · refine ⟨_, .inl rfl, ?_⟩
      simp only [null, if_true, List.append_assoc]
    · have other : items.addressItem.typeId ≠ kCipItemIdNullAddress := by rw [connection]; decide
      refine ⟨_, .inr ⟨items, rfl⟩, ?_⟩
      simp only [if_neg other, if_pos connection, List.append_assoc]
  obtain ⟨octets, isAddress, message⟩ := addressed
  have item : ∃ content, encodeDataItem items response =
      addIntToMessage items.dataItem.typeId ++ addIntToMessage (UInt16.ofNat content.length) ++ content := by
    unfold encodeDataItem
    obtain unconnected | connected := data
    · have other : items.dataItem.typeId ≠ kCipItemIdConnectedDataItem := by rw [unconnected]; decide
      refine ⟨encodeResponse response, ?_⟩
      rw [if_neg other, if_pos unconnected, encodeResponse_length fits]
    · refine ⟨addIntToMessage items.addressItem.data.sequenceNumber.toUInt16 ++ encodeResponse response, ?_⟩
      have length : (addIntToMessage items.addressItem.data.sequenceNumber.toUInt16 ++
          encodeResponse response).length = responseLength response + 2 := by
        rw [List.length_append, encodeResponse_length fits]
        exact Nat.add_comm 2 _
      rw [if_pos connected, length, List.append_assoc]
  obtain ⟨content, encoded⟩ := item
  rw [encoded] at message
  refine ⟨items.itemCount, items.dataItem.typeId, octets, content, items.addressInfoItems, isAddress, ?_, message⟩
  rw [message] at short
  simp only [List.length_append] at short
  omega

def itemOfTypeLength (items : AddressInfoItems) (type : UInt16) : Nat :=
  if items.first.typeId = type ∨ items.second.typeId = type then 20 else 0

/-- The socket address items of a request that are copied into its reply. -/
def socketAddressesLength (items : AddressInfoItems) : Nat :=
  itemOfTypeLength items kCipItemIdSocketAddressInfoOriginatorToTarget +
    itemOfTypeLength items kCipItemIdSocketAddressInfoTargetToOriginator

theorem encodeItemOfType_length (items : AddressInfoItems) (type : UInt16) :
    (encodeItemOfType items type).length = itemOfTypeLength items type := by
  have twenty (item : SocketAddressInfoItem) : (encodeSocketAddressInfoItem item).length = 20 := rfl
  unfold encodeItemOfType itemOfTypeLength
  by_cases first : items.first.typeId = type
  · rw [if_pos first, if_pos (.inl first), twenty]
  · by_cases second : items.second.typeId = type
    · rw [if_neg first, if_pos second, if_pos (.inr second), twenty]
    · rw [if_neg first, if_neg second, if_neg (not_or_intro first second), List.length_nil]

theorem socketAddressesLength_le (items : AddressInfoItems) : socketAddressesLength items ≤ 40 := by
  unfold socketAddressesLength itemOfTypeLength
  split <;> split <;> omega

section Lengths

variable {response : Response} {items : CipCommonPacketFormatData}

theorem unconnectedMessage_length (address : items.addressItem.typeId = kCipItemIdNullAddress)
    (data : items.dataItem.typeId = kCipItemIdUnconnectedDataItem)
    (fits : response.additionalStatus.length ≤ MAX_SIZE_OF_ADD_STATUS) :
    (assembleLinearMessage response items).length =
      16 + responseLength response + socketAddressesLength items.addressInfoItems := by
  have other : kCipItemIdUnconnectedDataItem ≠ kCipItemIdConnectedDataItem := by decide
  unfold assembleLinearMessage encodeDataItem
  dsimp only
  rw [if_pos address, data, if_neg other, if_pos rfl, socketAddressesLength, ← encodeItemOfType_length,
    ← encodeItemOfType_length, ← encodeResponse_length fits]
  simp only [List.length_append, encodeNullAddressItem, addIntToMessage, addDintToMessage, List.length_cons,
    List.length_nil]
  omega

theorem connectedMessage_length (address : items.addressItem.typeId = kCipItemIdConnectionAddress)
    (data : items.dataItem.typeId = kCipItemIdConnectedDataItem)
    (fits : response.additionalStatus.length ≤ MAX_SIZE_OF_ADD_STATUS) :
    (assembleLinearMessage response items).length =
      22 + responseLength response + socketAddressesLength items.addressInfoItems := by
  have other : kCipItemIdConnectionAddress ≠ kCipItemIdNullAddress := by decide
  unfold assembleLinearMessage encodeDataItem
  dsimp only
  rw [address, if_neg other, if_pos rfl, if_pos data, socketAddressesLength, ← encodeItemOfType_length,
    ← encodeItemOfType_length, ← encodeResponse_length fits]
  simp only [List.length_append, encodeConnectedAddressItem, addIntToMessage, addDintToMessage, List.length_cons,
    List.length_nil]
  omega

end Lengths

end Packets

section Headers

theorem readEncapsulationData_run (message : List CipOctet) : (readEncapsulationData.run message).1 =
    ⟨uintOf message, uintOf (message.drop 2), udintOf (message.drop 4), udintOf (message.drop 8),
      (message.drop 12).take kSenderContextSize, udintOf (message.drop 20), message.drop 24⟩ := by
  have context (rest : List CipOctet) : getSenderContextFromMessage.run rest =
      (rest.take kSenderContextSize, rest.drop kSenderContextSize) := rfl
  unfold readEncapsulationData
  rw [run_bind_of_run (getUintFromMessage_run _), run_bind_of_run (getUintFromMessage_run _),
    run_bind_of_run (getUdintFromMessage_run _), run_bind_of_run (getUdintFromMessage_run _),
    run_bind_of_run (context _), run_bind_of_run (getUdintFromMessage_run _)]
  simp only [List.drop_drop]
  rfl

variable {receivedData : EncapsulationData} {body : List CipOctet} {message : EnipMessage}

theorem encapsulationHeader_length (context : receivedData.senderContext.length = kSenderContextSize)
    (length : UInt64) (sessionHandle : CipSessionHandle) (status : EncapsulationProtocolErrorCode) :
    (encapsulationHeader receivedData length sessionHandle status).length = ENCAPSULATION_HEADER_LENGTH := by
  simp only [encapsulationHeader, List.length_append, context]
  rfl

/-- The message is a header and a body, and is counted as such. -/
structure Carries (receivedData : EncapsulationData) (body : List CipOctet) (message : EnipMessage) : Prop where
  fits : ENCAPSULATION_HEADER_LENGTH + body.length ≤ PC_OPENER_ETHERNET_BUFFER_SIZE
  octets : ∃ sessionHandle status rest, message.messageBuffer =
    encapsulationHeader receivedData (UInt64.ofNat body.length) sessionHandle status ++ body ++ rest
  used : message.usedMessageLength.toNat = ENCAPSULATION_HEADER_LENGTH + body.length

theorem carries_of_add (context : receivedData.senderContext.length = kSenderContextSize)
    (fits : ENCAPSULATION_HEADER_LENGTH + body.length ≤ PC_OPENER_ETHERNET_BUFFER_SIZE)
    {length : UInt64} (told : length = UInt64.ofNat body.length) (sessionHandle : CipSessionHandle)
    (status : EncapsulationProtocolErrorCode) :
    Carries receivedData body
      ((EnipMessage.initialized.generateEncapsulationHeader receivedData length sessionHandle status).add body) := by
  have header := encapsulationHeader_length context length sessionHandle status
  rw [EnipMessage.generateEncapsulationHeader, EnipMessage.add_add EnipMessage.initialized_within]
  have whole : (encapsulationHeader receivedData length sessionHandle status ++ body).length =
      ENCAPSULATION_HEADER_LENGTH + body.length := by rw [List.length_append, header]
  constructor
  · exact fits
  · rw [EnipMessage.initialized_add, told]
    exact ⟨sessionHandle, status, _, rfl⟩
  · rw [EnipMessage.initialized_add_used (by rw [whole]; exact fits), whole]

theorem carries_of_headerBefore (context : receivedData.senderContext.length = kSenderContextSize)
    (fits : ENCAPSULATION_HEADER_LENGTH + body.length ≤ PC_OPENER_ETHERNET_BUFFER_SIZE)
    {front rest : List CipOctet} (place : front.length = ENCAPSULATION_HEADER_LENGTH)
    (octets : message.messageBuffer = front ++ body ++ rest)
    (used : message.usedMessageLength = UInt64.ofNat body.length) :
    Carries receivedData body (message.headerBefore receivedData) := by
  have header := encapsulationHeader_length context (UInt64.ofNat body.length) receivedData.sessionHandle .success
  refine ⟨fits, ⟨receivedData.sessionHandle, .success, rest, ?_⟩, ?_⟩
  · simp only [EnipMessage.headerBefore, EnipMessage.generateEncapsulationHeader, EnipMessage.add, used, header, octets,
      List.take_zero, List.nil_append, Nat.zero_add, List.append_assoc]
    rw [List.drop_left' place]
  · have small : ENCAPSULATION_HEADER_LENGTH + body.length < 2 ^ 64 := Nat.lt_of_le_of_lt fits (by decide)
    simp only [EnipMessage.headerBefore, EnipMessage.generateEncapsulationHeader, EnipMessage.add, used, header]
    rw [← UInt64.ofNat_add, Nat.add_comm, UInt64.toNat_ofNat_of_lt' small]

theorem skipped_add (reply : List CipOctet) :
    (EnipMessage.initialized.skipEncapsulationHeader.add reply).messageBuffer =
        List.replicate ENCAPSULATION_HEADER_LENGTH 0 ++ reply ++
          (List.replicate PC_OPENER_ETHERNET_BUFFER_SIZE 0).drop (ENCAPSULATION_HEADER_LENGTH + reply.length) ∧
      (EnipMessage.initialized.skipEncapsulationHeader.add reply).usedMessageLength = UInt64.ofNat reply.length := by
  constructor
  · simp only [EnipMessage.add, EnipMessage.skipEncapsulationHeader, EnipMessage.initialized, List.take_replicate]
    rfl
  · simp [EnipMessage.add, EnipMessage.skipEncapsulationHeader, EnipMessage.initialized]

theorem initialized_encapsulate (receivedData : EncapsulationData) (body : List CipOctet) :
    EnipMessage.initialized.encapsulate receivedData body =
      if ENCAPSULATION_HEADER_LENGTH + body.length ≤ PC_OPENER_ETHERNET_BUFFER_SIZE then
        some ((EnipMessage.initialized.skipEncapsulationHeader.add body).headerBefore receivedData)
      else none := by
  simp only [EnipMessage.encapsulate, EnipMessage.skipEncapsulationHeader, EnipMessage.initialized, Nat.zero_add]

theorem encapsulate_eq_some (done : EnipMessage.initialized.encapsulate receivedData body = some message) :
    ENCAPSULATION_HEADER_LENGTH + body.length ≤ PC_OPENER_ETHERNET_BUFFER_SIZE ∧
      message = (EnipMessage.initialized.skipEncapsulationHeader.add body).headerBefore receivedData := by
  rw [initialized_encapsulate] at done
  split at done
  · rename_i fits
    exact ⟨fits, (Option.some.inj done).symm⟩
  · cases done

theorem carries_of_encapsulate (context : receivedData.senderContext.length = kSenderContextSize)
    (done : EnipMessage.initialized.encapsulate receivedData body = some message) :
    Carries receivedData body message := by
  obtain ⟨fits, rfl⟩ := encapsulate_eq_some done
  exact carries_of_headerBefore context fits List.length_replicate (skipped_add body).1 (skipped_add body).2

theorem carries_of_regenerateHeader (context : receivedData.senderContext.length = kSenderContextSize)
    (fits : ENCAPSULATION_HEADER_LENGTH + body.length ≤ PC_OPENER_ETHERNET_BUFFER_SIZE) :
    Carries receivedData body ((EnipMessage.lastReplySent (some body)).regenerateHeader receivedData) := by
  refine carries_of_headerBefore context fits List.length_replicate (skipped_add body).1 ?_
  dsimp only [EnipMessage.lastReplySent]
  rw [(skipped_add body).2, UInt64.add_sub_cancel]

/-- What is sent again does not depend on the header that was kept. -/
theorem regenerateHeader_kept {answeredData : EncapsulationData}
    (answered : answeredData.senderContext.length = kSenderContextSize)
    (context : receivedData.senderContext.length = kSenderContextSize)
    (done : EnipMessage.initialized.encapsulate answeredData body = some message) :
    message.regenerateHeader receivedData =
      (EnipMessage.lastReplySent (some body)).regenerateHeader receivedData := by
  have old (length : UInt64) := encapsulationHeader_length answered length answeredData.sessionHandle .success
  have new (length : UInt64) := encapsulationHeader_length context length receivedData.sessionHandle .success
  obtain ⟨_, rfl⟩ := encapsulate_eq_some done
  simp only [EnipMessage.regenerateHeader, EnipMessage.headerBefore, EnipMessage.generateEncapsulationHeader,
    EnipMessage.lastReplySent, EnipMessage.add, old, new, List.take_zero, List.nil_append, Nat.zero_add]
  rw [List.drop_left' (old _)]

end Headers

def Received.accepted (received : Received) : Option EncapsulationData :=
  match createEncapsulationStructure received with
  | .error _ => none
  | .ok (encapsulationData, remainingBytes) =>
      if remainingBytes < 0 ∨ encapsulationData.options ≠ 0 then none
      else some { encapsulationData with status := EncapsulationProtocolErrorCode.success.code }

section Completeness

variable {received : Received} {receivedData : EncapsulationData} {body : List CipOctet} {message : EnipMessage}

/-- A reply that tells its length and echoes command and sender context, whose data item is whole if it has one. -/
structure CompleteReply (received : Received) (message : EnipMessage) : Prop where
  header : 24 ≤ message.usedMessageLength.toNat
  within : message.usedMessageLength.toNat ≤ message.messageBuffer.length
  length : (uintOf (message.messageBuffer.drop 2)).toNat = message.usedMessageLength.toNat - 24
  command : uintOf message.messageBuffer = uintOf received.buffer
  context : (message.messageBuffer.drop 12).take 8 = (received.buffer.drop 12).take 8
  dataItem : uintOf received.buffer = 0x006F ∨ uintOf received.buffer = 0x0070 →
    24 < message.usedMessageLength.toNat →
      DataItemWhole ((message.messageBuffer.take message.usedMessageLength.toNat).drop 24)

theorem Received.accepted_spec (accepted : received.accepted = some receivedData) :
    receivedData.commandCode = uintOf received.buffer ∧
      receivedData.senderContext = (received.buffer.drop 12).take kSenderContextSize ∧
      receivedData.senderContext.length = kSenderContextSize := by
  unfold Received.accepted createEncapsulationStructure at accepted
  rw [readEncapsulationData_run] at accepted
  dsimp only at accepted
  split at accepted
  · cases accepted
  · rename_i encapsulationData remainingBytes structured
    split at structured
    · cases structured
      split at accepted
      · cases accepted
      · rename_i complete
        cases accepted
        refine ⟨rfl, rfl, ?_⟩
        have within := received.within
        rw [not_or] at complete
        have enough := complete.1
        simp only [ENCAPSULATION_HEADER_LENGTH] at enough
        rw [List.length_take, List.length_drop]
        change min 8 _ = 8
        omega
    · cases structured

theorem Carries.complete (carries : Carries receivedData body message) (accepted : received.accepted = some receivedData)
    (whole : uintOf received.buffer = 0x006F ∨ uintOf received.buffer = 0x0070 → body ≠ [] → DataItemWhole body) :
    CompleteReply received message := by
  obtain ⟨fits, ⟨sessionHandle, status, rest, octets⟩, used⟩ := carries
  obtain ⟨command, sender, context⟩ := Received.accepted_spec accepted
  have header : (encapsulationHeader receivedData (UInt64.ofNat body.length) sessionHandle status).length = 24 :=
    encapsulationHeader_length context _ sessionHandle status
  have context : receivedData.senderContext.length = 8 := context
  rw [ENCAPSULATION_HEADER_LENGTH] at used fits
  have small : body.length < 2 ^ 16 := by
    simp only [PC_OPENER_ETHERNET_BUFFER_SIZE] at fits
    omega
  constructor
  · omega
  · rw [used, octets, List.length_append, List.length_append, header]
    omega
  · have length : (UInt64.ofNat body.length).toUInt16.toNat = body.length := by
      rw [UInt64.toUInt16_ofNat', UInt16.toNat_ofNat_of_lt' small]
    rw [octets, encapsulationHeader]
    simp only [List.append_assoc]
    have two : (addIntToMessage receivedData.commandCode).length = 2 := rfl
    rw [List.drop_left' two, uintOf_add, length, used]
    omega
  · rw [octets, encapsulationHeader, ← command]
    simp only [List.append_assoc]
    exact uintOf_add _ _
  · have front : (addIntToMessage receivedData.commandCode ++ (addIntToMessage (UInt64.ofNat body.length).toUInt16 ++
        (addDintToMessage sessionHandle ++ addDintToMessage status.code))).length = 12 := rfl
    have split : message.messageBuffer = (addIntToMessage receivedData.commandCode ++
        (addIntToMessage (UInt64.ofNat body.length).toUInt16 ++
          (addDintToMessage sessionHandle ++ addDintToMessage status.code))) ++
        (receivedData.senderContext ++ (addDintToMessage 0 ++ (body ++ rest))) := by
      rw [octets, encapsulationHeader]
      simp only [List.append_assoc]
    rw [split, List.drop_left' front, List.take_left' context, sender]
    rfl
  · intro connected long
    have carried : (message.messageBuffer.take message.usedMessageLength.toNat).drop 24 = body := by
      rw [octets, List.take_left' (by rw [List.length_append, header, used]),
        List.drop_left' header]
    rw [carried]
    refine whole connected fun empty => ?_
    rw [empty, List.length_nil] at used
    omega

theorem CompleteReply.nonempty (complete : CompleteReply received message) :
    message.usedMessageLength ≠ 0 := by
  intro empty
  have header := complete.header
  rw [empty] at header
  exact absurd header (by decide)

end Completeness

theorem Answer.message_eq_ok {answer : Answer config} {message : EnipMessage} :
    answer.message = .ok message ↔ message ∈ answer.outgoingMessage := by
  unfold Answer.message
  cases answer.outgoingMessage <;> simp

def Sendable (reply : List CipOctet) : Prop :=
  DataItemWhole reply ∧ ENCAPSULATION_HEADER_LENGTH + reply.length ≤ PC_OPENER_ETHERNET_BUFFER_SIZE

theorem Sendable.of_encapsulate {receivedData : EncapsulationData} {reply : List CipOctet} {message : EnipMessage}
    (whole : reply.length < 2 ^ 16 → DataItemWhole reply)
    (done : EnipMessage.initialized.encapsulate receivedData reply = some message) : Sendable reply := by
  have fits := (encapsulate_eq_some done).1
  refine ⟨whole ?_, fits⟩
  simp only [PC_OPENER_ETHERNET_BUFFER_SIZE] at fits
  omega

/-- A request to a service other than those that open, close and reset connections. -/
def AsksOther (data : List CipOctet) (dataLength : Int16) : Prop :=
  ∃ request ∈ (createMessageRouterRequestStructure data dataLength).2.toOption, request.dispatch = .other

instance (data : List CipOctet) (dataLength : Int16) : Decidable (AsksOther data dataLength) :=
  inferInstanceAs (Decidable (∃ _ ∈ _, _))

/-- The message of no answer of the stack's own is longer than that to a Forward Open. -/
structure Response.Brief (response : Response) : Prop where
  status : response.additionalStatus.length ≤ MAX_SIZE_OF_ADD_STATUS
  message : response.message.length ≤ 26

theorem Response.Brief.length {response : Response} (brief : response.Brief) : responseLength response ≤ 34 := by
  have status := brief.status
  have message := brief.message
  rw [MAX_SIZE_OF_ADD_STATUS] at status
  unfold responseLength
  omega

theorem Response.Brief.fits {response : Response} (brief : response.Brief) {front : Nat} (short : front ≤ 22)
    (items : AddressInfoItems) :
    ENCAPSULATION_HEADER_LENGTH + (front + responseLength response + socketAddressesLength items) ≤
      PC_OPENER_ETHERNET_BUFFER_SIZE := by
  have length := brief.length
  have addresses := socketAddressesLength_le items
  rw [ENCAPSULATION_HEADER_LENGTH, PC_OPENER_ETHERNET_BUFFER_SIZE]
  omega

theorem emptyResponse_brief (service generalStatus : UInt8) : (emptyResponse service generalStatus).Brief :=
  ⟨Nat.zero_le _, Nat.zero_le _⟩

namespace Stack

variable {before asked after stack : Stack config} {slot : Slot config}

section Services

variable {circumstances : Circumstances} {items : CipCommonPacketFormatData} {executed : Executed config}

theorem additionalStatus_length (object : CipConnectionObject) (refusal : Refusal) :
    (additionalStatus object refusal).length ≤ MAX_SIZE_OF_ADD_STATUS := by
  unfold additionalStatus
  split
  · exact Nat.zero_le _
  · split
    · exact Nat.le_refl 2
    · split
      · exact Nat.le_refl 2
      · exact Nat.le_succ 1

theorem forwardOpenRoutine_brief {isLfo : Bool} {request : Request} {response : Response}
    (answered : before.forwardOpenRoutine isLfo request = .ok (response, after)) : response.Brief := by
  unfold forwardOpenRoutine at answered
  obtain ⟨⟨data, read⟩, _, answered⟩ := bind_eq_ok.mp answered
  dsimp only at answered
  cases checked : read.checkForwardOpen request data with
  | error stop =>
      rw [checked] at answered
      cases stop with
      | fault fault => cases answered
      | refused refusal refused =>
          cases answered
          exact ⟨additionalStatus_length _ _, (by decide : 10 ≤ 26)⟩
  | ok opened =>
      rw [checked] at answered
      unfold answerForwardOpen at answered
      dsimp only at answered
      cases head : opened.connectionList.toList.head? with
      | none =>
          rw [head] at answered
          cases answered
      | some slot =>
          rw [head] at answered
          cases answered
          exact ⟨Nat.zero_le _, Nat.le_refl 26⟩

theorem closeRequestedConnection_brief {request : Request} {response : Response}
    (answered : before.closeRequestedConnection request = .ok (response, after)) : response.Brief := by
  have brief (triad : ConnectionTriad) (data : List CipOctet) (extendedErrorCode : UInt16) :
      (assembleForwardCloseResponse triad data extendedErrorCode).Brief := by
    refine ⟨?_, (by decide : 10 ≤ 26)⟩
    unfold assembleForwardCloseResponse
    dsimp only
    split
    · exact Nat.zero_le _
    · exact Nat.le_succ 1
  unfold closeRequestedConnection at answered
  generalize readForwardCloseHeader.run request.data = header at answered
  obtain ⟨triad, data⟩ := header
  dsimp only at answered
  cases found : before.findConnection (hasTriad triad) with
  | none =>
      rw [found] at answered
      cases answered
      exact brief _ _ _
  | some slot =>
      rw [found] at answered
      dsimp only at answered
      split at answered
      · cases answered
      · split at answered
        · obtain ⟨closed, _, answered⟩ := bind_eq_ok.mp answered
          cases answered
          exact brief _ _ _
        · cases answered
          exact brief _ _ _

theorem cipResetService_brief {request : CipMessageRouterRequest} {answered : Response × Stack config}
    (done : stack.cipResetService request = .ok answered) : answered.1.Brief := by
  unfold cipResetService at done
  split at done
  · cases done
    exact emptyResponse_brief _ _
  · split at done
    · obtain ⟨closed, _, finish⟩ := bind_eq_ok.mp done
      cases finish
      exact emptyResponse_brief _ _
    · split at done
      · obtain ⟨closed, _, finish⟩ := bind_eq_ok.mp done
        cases finish
        exact emptyResponse_brief _ _
      · cases done
        exact emptyResponse_brief _ _

/-- What a service leaves for the reply: a brief answer in the packet structure of the request or in that of an
unconnected message, or another service's in the structure of the request. -/
inductive LeavesReply (circumstances : Circumstances) (items : CipCommonPacketFormatData) (data : List CipOctet)
    (dataLength : Int16) (executed : Executed config) : Prop where
  | brief (reply : executed.reply.Brief) (kept : executed.items = items)
  | unconnected (reply : executed.reply.Brief) (answered : Response × Stack config)
      (made : executed.items = (unconnected items answered).items)
  | other (asks : AsksOther data dataLength) (reply : executed.reply = circumstances.otherService.reply)
      (kept : executed.items = items)

variable {data : List CipOctet} {dataLength : Int16}

theorem notifyMessageRouter_leaves
    (done : stack.notifyMessageRouter circumstances items data dataLength = .ok executed) :
    LeavesReply circumstances items data dataLength executed := by
  unfold notifyMessageRouter at done
  split at done
  · cases done
    exact .brief (emptyResponse_brief _ _) rfl
  · rename_i service request structured
    unfold executeService at done
    dsimp only at done
    split at done
    · obtain ⟨answered, outcome, rfl⟩ := map_eq_ok.mp done
      exact .unconnected (forwardOpenRoutine_brief outcome) answered rfl
    · obtain ⟨answered, outcome, rfl⟩ := map_eq_ok.mp done
      exact .unconnected (forwardOpenRoutine_brief outcome) answered rfl
    · obtain ⟨answered, outcome, rfl⟩ := map_eq_ok.mp done
      exact .unconnected (closeRequestedConnection_brief outcome) answered rfl
    · obtain ⟨answered, outcome, rfl⟩ := map_eq_ok.mp done
      exact .brief (cipResetService_brief outcome) rfl
    · rename_i other
      cases done
      exact .other ⟨request, by rw [structured]; rfl, other⟩ rfl rfl

theorem notifyMessageRouter_other (asks : AsksOther data dataLength) (stack : Stack config)
    (circumstances : Circumstances) (items : CipCommonPacketFormatData) :
    ∃ executed, stack.notifyMessageRouter circumstances items data dataLength = .ok executed ∧
      executed.reply = circumstances.otherService.reply ∧ executed.items = items := by
  obtain ⟨request, structured, other⟩ := asks
  unfold notifyMessageRouter
  generalize createMessageRouterRequestStructure data dataLength = made at structured ⊢
  obtain ⟨service, _ | decoded⟩ := made
  · cases structured
  · cases structured
    unfold executeService
    dsimp only
    rw [other]
    exact ⟨_, rfl, rfl, rfl⟩

section Unconnected

variable (address : items.addressItem.typeId = kCipItemIdNullAddress)
  (unconnectedData : items.dataItem.typeId = kCipItemIdUnconnectedDataItem)
  (statusFits : circumstances.otherService.reply.additionalStatus.length ≤ MAX_SIZE_OF_ADD_STATUS)

include address unconnectedData statusFits

theorem unconnectedReply_whole
    (done : stack.notifyMessageRouter circumstances items data dataLength = .ok executed)
    (short : (assembleLinearMessage executed.reply executed.items).length < 2 ^ 16) :
    DataItemWhole (assembleLinearMessage executed.reply executed.items) := by
  cases notifyMessageRouter_leaves done with
  | brief reply kept =>
      exact assembleLinearMessage_whole (.inl (kept ▸ address)) (.inl (kept ▸ unconnectedData)) reply.status short
  | unconnected reply answered made =>
      exact assembleLinearMessage_whole (.inl (by rw [made]; rfl)) (.inl (by rw [made]; rfl)) reply.status short
  | other asks reply kept =>
      have status := reply ▸ statusFits
      exact assembleLinearMessage_whole (.inl (kept ▸ address)) (.inl (kept ▸ unconnectedData)) status short

theorem unconnectedReply_fits
    (room : AsksOther data dataLength →
      ENCAPSULATION_HEADER_LENGTH + (16 + responseLength circumstances.otherService.reply +
        socketAddressesLength items.addressInfoItems) ≤ PC_OPENER_ETHERNET_BUFFER_SIZE)
    (done : stack.notifyMessageRouter circumstances items data dataLength = .ok executed) :
    ENCAPSULATION_HEADER_LENGTH + (assembleLinearMessage executed.reply executed.items).length ≤
      PC_OPENER_ETHERNET_BUFFER_SIZE := by
  cases notifyMessageRouter_leaves done with
  | brief reply kept =>
      rw [kept, unconnectedMessage_length address unconnectedData reply.status]
      exact reply.fits (by decide) _
  | unconnected reply answered made =>
      rw [unconnectedMessage_length (by rw [made]; rfl) (by rw [made]; rfl) reply.status]
      exact reply.fits (by decide) _
  | other asks reply kept =>
      rw [kept, reply, unconnectedMessage_length address unconnectedData statusFits]
      exact room asks

end Unconnected

section Connected

variable (address : items.addressItem.typeId = kCipItemIdConnectionAddress)
  (connectedData : items.dataItem.typeId = kCipItemIdConnectedDataItem)
  (statusFits : circumstances.otherService.reply.additionalStatus.length ≤ MAX_SIZE_OF_ADD_STATUS)

include address connectedData statusFits

theorem connectedReply_whole
    (done : stack.notifyMessageRouter circumstances items data dataLength = .ok executed)
    (short : (replyOnConnection slot executed).1.length < 2 ^ 16) :
    DataItemWhole (replyOnConnection slot executed).1 := by
  cases notifyMessageRouter_leaves done with
  | brief reply kept =>
      exact assembleLinearMessage_whole (.inr (by rw [replyItems, kept]; exact address))
        (.inr (by rw [replyItems, kept]; exact connectedData)) reply.status short
  | unconnected reply answered made =>
      exact assembleLinearMessage_whole (.inl (by rw [replyItems, made]; rfl))
        (.inl (by rw [replyItems, made]; rfl)) reply.status short
  | other asks reply kept =>
      have status := reply ▸ statusFits
      exact assembleLinearMessage_whole (.inr (by rw [replyItems, kept]; exact address))
        (.inr (by rw [replyItems, kept]; exact connectedData)) status short

theorem connectedReply_fits
    (room : AsksOther data dataLength →
      ENCAPSULATION_HEADER_LENGTH + (22 + responseLength circumstances.otherService.reply +
        socketAddressesLength items.addressInfoItems) ≤ PC_OPENER_ETHERNET_BUFFER_SIZE)
    (done : stack.notifyMessageRouter circumstances items data dataLength = .ok executed) :
    ENCAPSULATION_HEADER_LENGTH + (replyOnConnection slot executed).1.length ≤ PC_OPENER_ETHERNET_BUFFER_SIZE := by
  unfold replyOnConnection
  dsimp only
  cases notifyMessageRouter_leaves done with
  | brief reply kept =>
      rw [connectedMessage_length (by rw [replyItems, kept]; exact address)
        (by rw [replyItems, kept]; exact connectedData) reply.status]
      exact reply.fits (by decide) _
  | unconnected reply answered made =>
      rw [unconnectedMessage_length (by rw [replyItems, made]; rfl) (by rw [replyItems, made]; rfl) reply.status]
      exact reply.fits (by decide) _
  | other asks reply kept =>
      rw [reply, connectedMessage_length (by rw [replyItems, kept]; exact address)
        (by rw [replyItems, kept]; exact connectedData) statusFits, replyItems, kept]
      exact room asks

end Connected

end Services

section KeptReplies

theorem sameReply_tolerant : Tolerant fun (_ : Slot config) (object other : CipConnectionObject) =>
    other.lastReplySent = object.lastReplySent where
  refl := fun _ _ => rfl
  trans := fun _ _ _ _ first second => second.trans first
  takenOver := fun _ _ _ _ => rfl
  released := fun _ _ => rfl
  timedOut := fun _ _ _ => rfl

def KeepsReply (before after : Stack config) (slot : Slot config) : Prop :=
  (slot ∈ before.connectionList.toList ∧ (after.object slot).lastReplySent = (before.object slot).lastReplySent) ∨
    (after.object slot).lastReplySent = none

theorem Accepted.keepsReply {network : Network} (coherent : Coherent asked) (pristine : Pristine asked.dummy)
    (accepted : Accepted asked network after) (listed : slot ∈ after.connectionList.toList) :
    KeepsReply asked after slot := by
  have whole := accepted
  by_cases taken : asked.selects network = some slot
  · right
    cases accepted with
    | nothing entry same => simp [selects, entry] at taken
    | explicit entry new connectionList opened =>
        have free := (getFreeExplicitConnection_spec opened.free).2
        have chosen : asked.getFreeExplicitConnection = some slot := by simpa [selects, entry] using taken
        have same := Option.some.inj (opened.free.symm.trans chosen)
        subst same
        have absent : new ∉ asked.connectionList.toList := by
          rw [coherent.mem_iff, free]
          simp
        have explicit := (getFreeExplicitConnection_spec opened.free).1
        exact congrArg Prod.snd (whole.opened_newestRequest pristine explicit absent listed)
    | io entry opening ends =>
        have same : opening.choice.slot = slot := by simpa [selects, entry, ends.reached] using taken
        subst same
        exact ends.unanswered pristine
  · cases accepted with
    | nothing entry same => exact .inl ⟨same ▸ listed, by rw [same]⟩
    | explicit entry new connectionList opened =>
        have differs : slot ≠ new := fun same => taken (by simp [selects, entry, opened.free, same])
        have list : after.connectionList.toList = new :: asked.connectionList.toList := by
          rw [opened.after]
          exact ConnectionList.toList_insertAtHead opened.inserted
        rw [list, List.mem_cons] at listed
        have kept : after.object slot = asked.object slot := by
          rw [opened.after]
          exact Function.update_of_ne differs _ asked.object
        exact .inl ⟨listed.resolve_left differs, by rw [kept]⟩
    | io entry opening ends =>
        have differs : slot ≠ opening.choice.slot := fun same => taken (by simp [selects, entry, ends.reached, same])
        have spares := whole.sparesOthers sameReply_tolerant coherent pristine slot
        have inList := listed
        rw [ends.list pristine, List.mem_cons] at inList
        have early := ends.continues.sublist.subset (inList.resolve_left differs)
        exact .inl ⟨early, spares early listed taken⟩

theorem forwardOpenRoutine_keepsReply (intact : Intact before) {isLfo : Bool} {request : Request}
    {response : Response} (answered : before.forwardOpenRoutine isLfo request = .ok (response, after))
    (listed : slot ∈ after.connectionList.toList) : KeepsReply before after slot := by
  cases forwardOpenRoutine_ok intact answered with
  | refused failure leaves =>
      obtain ⟨asked, requested, refused⟩ := forwardOpenRoutine_refused intact answered failure
      have coherent : Coherent asked := by
        rw [requested]
        exact intact.coherent.of_same_table rfl rfl
      have spares := (requested.sparesOthers sameReply_tolerant).trans sameReply_tolerant
        (refused.sparesOthers sameReply_tolerant coherent)
      exact .inl (spares slot listed)
  | accepted asked admission accepted head first reply =>
      obtain ⟨⟨same, _, pristine⟩, _⟩ := admitted_spec intact.pristine admission
      have coherent : Coherent asked := intact.coherent.of_same_table same.1 same.2
      have keeps := accepted.keepsReply coherent pristine listed
      rw [KeepsReply, same.1, same.2] at keeps
      exact keeps

theorem Advances.keepsReply (intact : Intact before) (advances : Advances before after)
    (listed : slot ∈ after.connectionList.toList) : KeepsReply before after slot := by
  cases advances with
  | evolved named evolves =>
      have spares := Spares.of_evolves sameReply_tolerant intact.coherent
        (fun slot _ _ counted => counted.reply fun request => request rfl) (fun _ _ _ => rfl) evolves
      exact .inl (spares slot listed)
  | answered isLfo request response answered => exact forwardOpenRoutine_keepsReply intact answered listed

theorem Advances.intact (intact : Intact before) (advances : Advances before after) : Intact after := by
  cases advances with
  | evolved named evolves =>
      have continues := evolves.continues intact.coherent
      exact ⟨continues.coherent, continues.dummy ▸ intact.pristine⟩
  | answered isLfo request response answered =>
      have opened := (forwardOpenRoutine_spec intact.coherent intact.pristine isLfo request).returns answered
      have stepped : Stepped before (.forwardOpen request) after := .inr ⟨by simp [Operation.openRequest], opened⟩
      exact stepped.intact intact

/-- The table is intact, and what is kept of replies can be sent again. -/
structure Answering (stack : Stack config) : Prop where
  intact : Intact stack
  sendable : ∀ slot ∈ stack.connectionList.toList, ∀ reply, (stack.object slot).lastReplySent = some reply →
    Sendable reply

theorem Advances.answering (answering : Answering before) (advances : Advances before after) : Answering after := by
  refine ⟨advances.intact answering.intact, fun slot listed reply kept => ?_⟩
  obtain ⟨early, same⟩ | unanswered := advances.keepsReply answering.intact listed
  · exact answering.sendable slot early reply (same ▸ kept)
  · rw [unanswered] at kept
    cases kept

end KeptReplies

end Stack

end EtherNetIP
