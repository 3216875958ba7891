import EtherNetIP.Encap.CompleteReplies

/-! Packets and their answers in runs of the stack.

Packets arrive over TCP and UDP, and anything else may happen between them. Each
packet is served on a stack whose kept replies can be sent again and leaves such
a stack. What is sent back is complete, except for the answers to two kinds of
packets that the stack sends without having written one, and for replies that
are longer than the buffer.
-/

set_option autoImplicit false

namespace EtherNetIP

open Library CipConnectionObject

variable {config : Configuration}

inductive Transport where
  | tcp (socket : Int)
  | udp (socket : Int) (unicast : Bool)
  deriving DecidableEq, Repr

structure EncapsulationPacket where
  transport : Transport
  received : Received
  surroundings : Surroundings

inductive Occurrence where
  | operation (operation : Operation) (other : ¬ operation.notesRequest)
  | packet (packet : EncapsulationPacket)

namespace Stack

variable {stack before after : Stack config} {slot : Slot config} {surroundings : Surroundings}
  {receivedData : EncapsulationData} {answer : Answer config}

def handle (stack : Stack config) (packet : EncapsulationPacket) : Except Fault (Int × Answer config) :=
  match packet.transport with
  | .tcp socket => stack.handleReceivedExplictTcpData packet.surroundings socket packet.received
  | .udp socket unicast => stack.handleReceivedExplictUdpData packet.surroundings socket unicast packet.received

def occur (stack : Stack config) : Occurrence → Except Fault (Stack config)
  | .operation operation _ => stack.step operation
  | .packet packet => do
      let (_, answer) ← stack.handle packet
      let _ ← answer.message
      return answer.stack

def ReachedByPackets (stack : Stack config) : Prop :=
  ∃ assemblyData timeout, Reachable occur (Stack.initialized config assemblyData timeout) stack

/-- The packet repeats a request on a connection that has kept no reply. -/
def RepeatsUnanswered (stack : Stack config) (surroundings : Surroundings) (receivedData : EncapsulationData) : Prop :=
  EncapsulationCommand.ofCode receivedData.commandCode = some .sendUnitData ∧
    ∃ found ∈ stack.addressed (surroundings.sendUnitData receivedData),
      found.1.sequenced.map Prod.fst = some (stack.object found.2).sequenceCountConsuming ∧
        (stack.object found.2).lastReplySent = none

instance : Decidable (stack.RepeatsUnanswered surroundings receivedData) :=
  inferInstanceAs (Decidable (_ ∧ _))

def ListsSomething (receivedData : EncapsulationData) : Prop :=
  EncapsulationCommand.ofCode receivedData.commandCode ∈
    [some .listServices, some .listIdentity, some .listInterfaces]

instance : Decidable (ListsSomething receivedData) :=
  inferInstanceAs (Decidable (EncapsulationCommand.ofCode receivedData.commandCode ∈
    [some .listServices, some .listIdentity, some .listInterfaces]))

def unconnectedRequest (stack : Stack config) (surroundings : Surroundings) (receivedData : EncapsulationData) :
    Option CipCommonPacketFormatData :=
  if receivedData.dataLength < 6 ∨ stack.checkRegisteredSessions receivedData.sessionHandle = false then none
  else
    (createCommonPacketFormatStructure surroundings.leftOver (receivedData.data.drop 6)
      (receivedData.dataLength.toNat - 6)).filter fun items =>
        items.addressItem.typeId = kCipItemIdNullAddress ∧ items.dataItem.typeId = kCipItemIdUnconnectedDataItem

/-- The buffer has room for what another service answers, behind so many octets of the common packet and in front of
the socket addresses that came with the request. -/
def HasRoom (surroundings : Surroundings) (front : Nat) (items : AddressInfoItems) : Prop :=
  ENCAPSULATION_HEADER_LENGTH + (front + responseLength surroundings.otherService.reply + socketAddressesLength items) ≤
    PC_OPENER_ETHERNET_BUFFER_SIZE

instance (front : Nat) (items : AddressInfoItems) : Decidable (HasRoom surroundings front items) :=
  inferInstanceAs (Decidable (_ ≤ _))

/-- There is room for the answer to any request of the packet that another service executes. -/
def ReplyFits (stack : Stack config) (surroundings : Surroundings) (receivedData : EncapsulationData) : Prop :=
  (EncapsulationCommand.ofCode receivedData.commandCode = some .sendRequestReplyData →
    ∀ items ∈ stack.unconnectedRequest surroundings receivedData,
      AsksOther items.dataItem.data items.dataItem.length.toInt16 →
        HasRoom surroundings 16 items.addressInfoItems) ∧
  (EncapsulationCommand.ofCode receivedData.commandCode = some .sendUnitData →
    ∀ found ∈ stack.addressed (surroundings.sendUnitData receivedData), ∀ sequenced ∈ found.1.sequenced,
      (stack.object found.2).sequenceCountConsuming ≠ sequenced.1 →
        AsksOther sequenced.2 (found.1.dataItem.length - 2).toInt16 →
          HasRoom surroundings 22 found.1.addressInfoItems)

instance : Decidable (stack.ReplyFits surroundings receivedData) :=
  inferInstanceAs (Decidable ((_ → _) ∧ (_ → _)))

/-- The stack writes the answer it sends: over TCP to any command but the repetition of a request that was never
answered, if the answer fits; over UDP to the commands that list something. -/
def WritesAnswer (stack : Stack config) (surroundings : Surroundings) (receivedData : EncapsulationData) :
    Transport → Prop
  | .tcp _ => ¬ stack.RepeatsUnanswered surroundings receivedData ∧ stack.ReplyFits surroundings receivedData
  | .udp _ _ => ListsSomething receivedData

instance : (transport : Transport) → Decidable (stack.WritesAnswer surroundings receivedData transport)
  | .tcp _ => inferInstanceAs (Decidable (¬ _ ∧ _))
  | .udp _ _ => inferInstanceAs (Decidable (ListsSomething receivedData))

def Answerable (stack : Stack config) (packet : EncapsulationPacket) : Prop :=
  ∀ receivedData ∈ packet.received.accepted,
    stack.WritesAnswer packet.surroundings receivedData packet.transport

instance (packet : EncapsulationPacket) : Decidable (stack.Answerable packet) :=
  inferInstanceAs (Decidable (∀ _ ∈ _, _))

/-- What is sent back to the packet is complete: nothing is written behind the buffer, and the message is a reply. -/
def AnswersCompletely (stack : Stack config) (packet : EncapsulationPacket) : Prop :=
  ∀ remainingBytes (answer : Answer config), stack.handle packet = .ok (remainingBytes, answer) →
    answer.returnValue = .okSend →
      ∃ message ∈ answer.outgoingMessage, CompleteReply packet.received message

section Commands

def CarriesItems (receivedData : EncapsulationData) : Prop :=
  EncapsulationCommand.ofCode receivedData.commandCode ∈ [some .sendRequestReplyData, some .sendUnitData]

/-- The message is a header and a body, which is a common packet if it should be one and is not left out. -/
def Replies (receivedData : EncapsulationData) (message : EnipMessage) : Prop :=
  ∃ body, Carries receivedData body message ∧ (CarriesItems receivedData → body ≠ [] → DataItemWhole body)

/-- What serving a packet leaves: kept replies can be sent again unless the message is overwritten, and a message that
is to be sent is a reply if the packet is answerable. -/
structure Serves (answerable : Prop) (receivedData : EncapsulationData) (answer : Answer config) : Prop where
  answering : ∀ message ∈ answer.outgoingMessage, Answering answer.stack
  replies : answerable → answer.returnValue = .okSend →
    ∃ message ∈ answer.outgoingMessage, Replies receivedData message

theorem Serves.silent {status : EipStatus} {message : Option EnipMessage} (answering : Answering stack)
    (quiet : status ≠ .okSend) {answerable : Prop} :
    Serves answerable receivedData (⟨status, message, stack⟩ : Answer config) :=
  ⟨fun _ _ => answering, fun _ sends => absurd sends quiet⟩

theorem Serves.written {message : EnipMessage} (answering : Answering stack)
    (replies : Replies receivedData message) {answerable : Prop} :
    Serves answerable receivedData (⟨.okSend, some message, stack⟩ : Answer config) :=
  ⟨fun _ _ => answering, fun _ _ => ⟨message, rfl, replies⟩⟩

theorem Answering.aside (answering : Answering before) (list : after.connectionList = before.connectionList)
    (object : after.object = before.object) (dummy : after.dummy = before.dummy) : Answering after := by
  refine ⟨⟨answering.intact.coherent.of_same_table list object, dummy ▸ answering.intact.pristine⟩, ?_⟩
  rw [list, object]
  exact answering.sendable

theorem Replies.header (context : receivedData.senderContext.length = kSenderContextSize)
    (sessionHandle : CipSessionHandle) (status : EncapsulationProtocolErrorCode) :
    Replies receivedData
      (EnipMessage.initialized.generateEncapsulationHeader receivedData 0 sessionHandle status) := by
  have fits : ENCAPSULATION_HEADER_LENGTH + ([] : List CipOctet).length ≤ PC_OPENER_ETHERNET_BUFFER_SIZE := by decide
  have carries := carries_of_add context fits rfl sessionHandle status
  rw [EnipMessage.add_nil] at carries
  exact ⟨[], carries, fun _ nonempty => absurd rfl nonempty⟩

theorem Replies.of_add (context : receivedData.senderContext.length = kSenderContextSize) {body : List CipOctet}
    (fits : ENCAPSULATION_HEADER_LENGTH + body.length ≤ PC_OPENER_ETHERNET_BUFFER_SIZE) {length : UInt64}
    (told : length = UInt64.ofNat body.length) (sessionHandle : CipSessionHandle)
    (status : EncapsulationProtocolErrorCode) (other : ¬ CarriesItems receivedData) :
    Replies receivedData
      ((EnipMessage.initialized.generateEncapsulationHeader receivedData length sessionHandle status).add body) :=
  ⟨body, carries_of_add context fits told sessionHandle status, fun items => absurd items other⟩

theorem listIdentity_replies (context : receivedData.senderContext.length = kSenderContextSize)
    (identity : IdentityAttributes) (stack : Stack config) (other : ¬ CarriesItems receivedData) :
    Replies receivedData (encapsulateListIdentityResponseMessage receivedData identity stack .initialized) := by
  have name := identity.productNameFits
  have length : (addIntToMessage 1 ++ encodeListIdentityCipIdentityItem identity stack).length =
      40 + identity.productName.length := by
    simp only [encodeListIdentityCipIdentityItem, encapsulateIpAddress, addIntToMessage, addDintToMessage,
      addSintToMessage, List.length_append, List.length_cons, List.length_nil, List.length_replicate]
    omega
  refine .of_add context ?_ ?_ 0 .success other
  · rw [length, ENCAPSULATION_HEADER_LENGTH, PC_OPENER_ETHERNET_BUFFER_SIZE]
    omega
  · have told : (listIdentityGetCipIdentityItemLength identity + 6).toNat = 40 + identity.productName.length := by
      rw [listIdentityGetCipIdentityItemLength, UInt16.toNat_add, UInt16.toNat_ofNat']
      change ((34 + identity.productName.length) % 65536 + 6) % 65536 = _
      omega
    rw [length, ← told]
    have same (value : UInt64) : value = UInt64.ofNat value.toNat := UInt64.ofNat_toNat.symm
    exact same (listIdentityGetCipIdentityItemLength identity + 6).toUInt64

theorem registerSession_serves (answering : Answering stack) {socket : Int} (other : ¬ CarriesItems receivedData)
    (context : receivedData.senderContext.length = kSenderContextSize)
    (done : stack.answerRegisterSessionCommand receivedData .initialized socket = .ok answer) :
    Serves True receivedData answer := by
  unfold answerRegisterSessionCommand at done
  obtain ⟨⟨⟨sessionHandle, status⟩, registered⟩, outcome, finish⟩ := bind_eq_ok.mp done
  cases finish
  have operated : stack.step (.registerSession socket (getUintFromMessage.run receivedData.data).1
      (getUintFromMessage.run (getUintFromMessage.run receivedData.data).2).1) = .ok registered :=
    congrArg (·.map Prod.snd) outcome
  have length : (addIntToMessage 1 ++ addIntToMessage 0).length = 4 := rfl
  have replies := Replies.of_add context (by rw [length]; decide) (by rw [length]) sessionHandle status other
  exact .written ((step_advances answering.intact id operated).answering answering) replies

theorem unregisterSession_serves (answering : Answering stack)
    (context : receivedData.senderContext.length = kSenderContextSize)
    (done : stack.answerUnregisterSessionCommand receivedData .initialized = .ok answer) :
    Serves True receivedData answer := by
  unfold answerUnregisterSessionCommand at done
  obtain ⟨⟨status, unregistered⟩, outcome, finish⟩ := bind_eq_ok.mp done
  have operated : stack.step (.unregisterSession receivedData.sessionHandle) = .ok unregistered :=
    congrArg (·.map Prod.snd) outcome
  have advanced := (step_advances answering.intact id operated).answering answering
  cases status with
  | none =>
      cases finish
      exact .silent advanced (by decide)
  | some status =>
      cases finish
      exact .written advanced (.header context receivedData.sessionHandle status)

theorem encapsulated_replies (context : receivedData.senderContext.length = kSenderContextSize)
    {reply : List CipOctet} (whole : reply.length < 2 ^ 16 → DataItemWhole reply)
    (fits : ENCAPSULATION_HEADER_LENGTH + reply.length ≤ PC_OPENER_ETHERNET_BUFFER_SIZE) :
    ∃ message ∈ EnipMessage.initialized.encapsulate receivedData reply, Replies receivedData message := by
  have done := (initialized_encapsulate receivedData reply).trans (if_pos fits)
  exact ⟨_, done, reply, carries_of_encapsulate context done, fun _ _ => (Sendable.of_encapsulate whole done).1⟩

theorem notifyCommonPacketFormat_serves (answering : Answering stack)
    (context : receivedData.senderContext.length = kSenderContextSize)
    (done : stack.notifyCommonPacketFormat surroundings receivedData .initialized = .ok answer) :
    Serves (∀ items, createCommonPacketFormatStructure surroundings.leftOver (receivedData.data.drop 6)
        (receivedData.dataLength.toNat - 6) = some items →
      items.addressItem.typeId = kCipItemIdNullAddress ∧ items.dataItem.typeId = kCipItemIdUnconnectedDataItem →
        AsksOther items.dataItem.data items.dataItem.length.toInt16 → HasRoom surroundings 16 items.addressInfoItems)
      receivedData answer := by
  unfold notifyCommonPacketFormat at done
  split at done
  · cases done
    exact .silent answering (by decide)
  · rename_i items parsed
    dsimp only at done
    have noted : Answering { stack with addressInfoItems := items.addressInfoItems } := answering.aside rfl rfl rfl
    split at done
    · rename_i address
      split at done
      · rename_i data
        obtain ⟨executed, routed, finish⟩ := bind_eq_ok.mp done
        cases finish
        have whole := unconnectedReply_whole address data surroundings.statusFits routed
        refine ⟨fun _ _ => (notifyMessageRouter_advances noted.intact.coherent routed).answering noted, ?_⟩
        intro room _
        have fits := unconnectedReply_fits address data surroundings.statusFits
          (room items parsed ⟨address, data⟩) routed
        exact encapsulated_replies context whole fits
      · cases done
        exact .written noted (.header context receivedData.sessionHandle .incorrectData)
    · cases done
      exact .written noted (.header context receivedData.sessionHandle .incorrectData)

theorem noteReception_lastReplySent (sequenceCount : Option UInt16) (object : CipConnectionObject) :
    (noteReception sequenceCount object).lastReplySent = object.lastReplySent := by
  unfold noteReception
  split
  · rfl
  · split <;> rfl

theorem received_answering (answering : Answering stack) {packet : SendUnitData} {items : CipCommonPacketFormatData}
    (addressed : stack.addressed packet = some (items, slot)) : Answering (stack.received items slot) := by
  have operated : stack.step (.connectedMessageReceived items.addressInfoItems
      items.addressItem.data.connectionIdentifier (items.sequenced.map Prod.fst)) =
      .ok (stack.received items slot) :=
    congrArg Except.ok (receiveConnectedMessage_eq (addressed_eq_some addressed).2 _)
  refine ⟨((step_spec answering.intact _).returns operated).intact answering.intact, ?_⟩
  intro other listed reply kept
  rw [received_object] at kept
  by_cases same : other = slot
  · subst same
    rw [Function.update_self, noteReception_lastReplySent] at kept
    exact answering.sendable other listed reply kept
  · rw [Function.update_of_ne same] at kept
    exact answering.sendable other listed reply kept

theorem stored_answering (answering : Answering stack) {reply : List CipOctet} (sendable : Sendable reply) :
    Answering (stack.modifyObject slot (storeReply reply)) := by
  have operated : stack.step (.connectedReplyStored slot.poolObject reply) =
      .ok (stack.modifyObject slot (storeReply reply)) := congrArg Except.ok (storeReplyAt_slot slot reply)
  refine ⟨((step_spec answering.intact _).returns operated).intact answering.intact, ?_⟩
  intro other listed kept stored
  rw [modifyObject, setObject_objects] at stored
  by_cases same : other = slot
  · subst same
    rw [Function.update_self] at stored
    cases stored
    exact sendable
  · rw [Function.update_of_ne same] at stored
    exact answering.sendable other listed kept stored

/-- A message on a connection is answered unless it repeats a request of which no reply is kept. -/
theorem answerConnectedMessage_serves (answering : Answering stack)
    (sends : EncapsulationCommand.ofCode receivedData.commandCode = some .sendUnitData)
    (context : receivedData.senderContext.length = kSenderContextSize)
    (done : stack.answerConnectedMessage surroundings receivedData .initialized = .ok answer) :
    Serves (¬ stack.RepeatsUnanswered surroundings receivedData ∧ stack.ReplyFits surroundings receivedData)
      receivedData answer := by
  unfold answerConnectedMessage at done
  obtain ⟨⟨handled, noted⟩, outcome, finish⟩ := bind_eq_ok.mp done
  have handling := handleReceivedSendUnitDataCommand_handling outcome
  -- nothing is sent while the message is empty
  have quiet : statusOfConnected EnipMessage.initialized ≠ .okSend := by decide
  cases handling with
  | dropped unaddressed =>
      cases finish
      exact .silent answering quiet
  | noData addressed absent =>
      cases finish
      exact .silent (received_answering answering addressed) quiet
  | @repeated items slot request addressed sequenced =>
      cases finish
      refine ⟨fun _ _ => received_answering answering addressed, fun answerable _ => ?_⟩
      have listed := (getConnectedObject_established (addressed_eq_some addressed).2).1
      cases kept : (stack.object slot).lastReplySent with
      | none =>
          have same : items.sequenced.map Prod.fst = some (stack.object slot).sequenceCountConsuming := by rw [sequenced]; rfl
          exact absurd ⟨sends, (items, slot), addressed, same, kept⟩ answerable.1
      | some reply =>
          obtain ⟨whole, fits⟩ := answering.sendable slot listed reply kept
          exact ⟨_, rfl, reply, carries_of_regenerateHeader context fits, fun _ _ => whole⟩
  | @executed items slot sequenceCount request executed addressed sequenced fresh routed =>
      cases finish
      have reception := received_answering answering addressed
      have address : (items.numbered sequenceCount).addressItem.typeId = kCipItemIdConnectionAddress :=
        (addressed_eq_some addressed).1
      have data : (items.numbered sequenceCount).dataItem.typeId = kCipItemIdConnectedDataItem :=
        sequenced_eq_some sequenced
      have status : (surroundings.sendUnitData receivedData).circumstances.otherService.reply.additionalStatus.length ≤
          MAX_SIZE_OF_ADD_STATUS := surroundings.statusFits
      have whole : (replyOnConnection slot executed).1.length < 2 ^ 16 →
          DataItemWhole (replyOnConnection slot executed).1 := connectedReply_whole address data status routed
      have advanced := (notifyMessageRouter_advances reception.intact.coherent routed).answering reception
      refine ⟨fun message written => stored_answering advanced (Sendable.of_encapsulate whole written), ?_⟩
      rintro ⟨_, room⟩ _
      have fits : ENCAPSULATION_HEADER_LENGTH + (replyOnConnection slot executed).1.length ≤
          PC_OPENER_ETHERNET_BUFFER_SIZE := connectedReply_fits address data status
        (room.2 sends (items, slot) addressed (sequenceCount, request) sequenced fresh) routed
      exact encapsulated_replies context whole fits

theorem Serves.mono {weaker stronger : Prop} (serves : Serves weaker receivedData answer)
    (implies : stronger → weaker) : Serves stronger receivedData answer :=
  ⟨serves.answering, fun holds => serves.replies (implies holds)⟩

theorem unconnectedRequest_eq_some {items : CipCommonPacketFormatData} :
    stack.unconnectedRequest surroundings receivedData = some items ↔
      ¬ receivedData.dataLength < 6 ∧ stack.checkRegisteredSessions receivedData.sessionHandle = true ∧
        createCommonPacketFormatStructure surroundings.leftOver (receivedData.data.drop 6)
          (receivedData.dataLength.toNat - 6) = some items ∧
        items.addressItem.typeId = kCipItemIdNullAddress ∧
        items.dataItem.typeId = kCipItemIdUnconnectedDataItem := by
  unfold unconnectedRequest
  by_cases short : receivedData.dataLength < 6
  · simp [short]
  · cases registered : stack.checkRegisteredSessions receivedData.sessionHandle with
    | false => simp
    | true => simp [short, Option.filter_eq_some_iff]

theorem sendRequestResponseData_serves (answering : Answering stack)
    (sends : EncapsulationCommand.ofCode receivedData.commandCode = some .sendRequestReplyData)
    (context : receivedData.senderContext.length = kSenderContextSize)
    (done : stack.handleReceivedSendRequestResponseDataCommand surroundings receivedData .initialized = .ok answer) :
    Serves (stack.ReplyFits surroundings receivedData) receivedData answer := by
  unfold handleReceivedSendRequestResponseDataCommand at done
  split at done
  · cases done
    exact .silent answering (by decide)
  · rename_i long
    split at done
    · rename_i registered
      refine (notifyCommonPacketFormat_serves answering context done).mono ?_
      exact fun room items parsed types =>
        room.1 sends items (unconnectedRequest_eq_some.mpr ⟨long, registered, parsed, types⟩)
    · cases done
      exact .written answering (.header context receivedData.sessionHandle .invalidSessionHandle)

theorem sendUnitData_serves (answering : Answering stack)
    (sends : EncapsulationCommand.ofCode receivedData.commandCode = some .sendUnitData)
    (context : receivedData.senderContext.length = kSenderContextSize)
    (done : stack.answerSendUnitDataCommand surroundings receivedData .initialized = .ok answer) :
    Serves (¬ stack.RepeatsUnanswered surroundings receivedData ∧ stack.ReplyFits surroundings receivedData)
      receivedData answer := by
  unfold answerSendUnitDataCommand at done
  split at done
  · cases done
    exact .silent answering (by decide)
  · split at done
    · exact answerConnectedMessage_serves answering sends context done
    · cases done
      exact .written answering (.header context receivedData.sessionHandle .invalidSessionHandle)

theorem listServices_replies (context : receivedData.senderContext.length = kSenderContextSize)
    (other : ¬ CarriesItems receivedData) :
    Replies receivedData (handleReceivedListServicesCommand receivedData .initialized) := by
  have length : (addIntToMessage 1 ++ serviceInformation).length = 26 := rfl
  exact .of_add context (by rw [length]; decide) (by rw [length]; rfl) 0 .success other

theorem listInterfaces_replies (context : receivedData.senderContext.length = kSenderContextSize)
    (other : ¬ CarriesItems receivedData) :
    Replies receivedData (handleReceivedListInterfacesCommand receivedData .initialized) := by
  have length : (addIntToMessage 0).length = 2 := rfl
  exact .of_add context (by rw [length]; decide) (by rw [length]; rfl) 0 .success other

theorem handleTcpCommand_serves {socket : Int} (answering : Answering stack)
    (context : receivedData.senderContext.length = kSenderContextSize)
    (done : stack.handleTcpCommand surroundings receivedData .initialized socket = .ok answer) :
    Serves (¬ stack.RepeatsUnanswered surroundings receivedData ∧ stack.ReplyFits surroundings receivedData)
      receivedData answer := by
  unfold handleTcpCommand at done
  cases command : EncapsulationCommand.ofCode receivedData.commandCode with
  | none =>
      rw [command] at done
      cases done
      exact .written answering (.header context receivedData.sessionHandle .invalidCommand)
  | some known =>
      rw [command] at done
      cases known with
      | noOperation =>
          cases done
          exact .silent answering (by decide)
      | listServices =>
          cases done
          exact .written answering (listServices_replies context (by simp [CarriesItems, command]))
      | listIdentity =>
          cases done
          exact .written answering
            (listIdentity_replies context surroundings.identity stack (by simp [CarriesItems, command]))
      | listInterfaces =>
          cases done
          exact .written answering (listInterfaces_replies context (by simp [CarriesItems, command]))
      | registerSession =>
          have serves := registerSession_serves answering (by simp [CarriesItems, command]) context done
          exact serves.mono fun _ => trivial
      | unregisterSession => exact (unregisterSession_serves answering context done).mono fun _ => trivial
      | sendRequestReplyData => exact (sendRequestResponseData_serves answering command context done).mono And.right
      | sendUnitData => exact sendUnitData_serves answering command context done

theorem handleUdpCommand_serves (answering : Answering stack)
    (context : receivedData.senderContext.length = kSenderContextSize) (socket : Int) (unicast : Bool) :
    Serves (ListsSomething receivedData) receivedData
      (stack.handleUdpCommand surroundings receivedData .initialized socket unicast) := by
  -- nothing is written for a command that is not to be sent over UDP
  have unwritten (other : ¬ ListsSomething receivedData) :
      Serves (ListsSomething receivedData) receivedData
        (⟨.okSend, some .initialized, stack⟩ : Answer config) :=
    ⟨fun _ _ => answering, fun lists => absurd lists other⟩
  unfold handleUdpCommand
  cases command : EncapsulationCommand.ofCode receivedData.commandCode with
  | none => exact unwritten (by simp [ListsSomething, command])
  | some known =>
      cases known with
      | listServices =>
          exact .written answering (listServices_replies context (by simp [CarriesItems, command]))
      | listIdentity =>
          dsimp only
          split
          · exact .written answering
              (listIdentity_replies context surroundings.identity stack (by simp [CarriesItems, command]))
          · refine .silent ?_ (by decide)
            unfold handleReceivedListIdentityCommandUdp
            dsimp only
            split
            · exact answering
            · exact answering.aside rfl rfl rfl
      | listInterfaces =>
          exact .written answering (listInterfaces_replies context (by simp [CarriesItems, command]))
      | _ => exact unwritten (by simp [ListsSomething, command])

end Commands

section Runs

variable {received : Received} {packet : EncapsulationPacket} {remainingBytes : Int}

theorem handlePacket_ok {serve : EncapsulationData → Except Fault (Answer config)}
    (done : stack.handlePacket received serve = .ok (remainingBytes, answer)) :
    (∃ receivedData, received.accepted = some receivedData ∧ serve receivedData = .ok answer) ∨
      answer.returnValue ≠ .okSend ∧ answer.stack = stack := by
  unfold handlePacket at done
  unfold Received.accepted
  obtain ⟨⟨encapsulationData, remaining⟩, structured, done⟩ := bind_eq_ok.mp done
  rw [structured]
  dsimp only at done ⊢
  split at done
  · cases done
    exact .inr ⟨fun sends => (by cases sends), rfl⟩
  · rename_i complete
    split at done
    · cases done
      exact .inr ⟨fun sends => (by cases sends), rfl⟩
    · rename_i noOptions
      obtain ⟨served, outcome, finish⟩ := bind_eq_ok.mp done
      cases finish
      rw [if_neg (by simp [complete, noOptions])]
      exact .inl ⟨_, rfl, outcome⟩

theorem handle_serves (answering : Answering stack) (done : stack.handle packet = .ok (remainingBytes, answer)) :
    (∃ receivedData, packet.received.accepted = some receivedData ∧
      Serves (stack.WritesAnswer packet.surroundings receivedData packet.transport) receivedData answer) ∨
      answer.returnValue ≠ .okSend ∧ answer.stack = stack := by
  unfold handle at done
  unfold WritesAnswer
  cases transport : packet.transport with
  | tcp socket =>
      rw [transport] at done
      refine (handlePacket_ok done).imp_left fun served => ?_
      obtain ⟨receivedData, accepted, outcome⟩ := served
      have context := (Received.accepted_spec accepted).2.2
      exact ⟨receivedData, accepted, handleTcpCommand_serves answering context outcome⟩
  | udp socket unicast =>
      rw [transport] at done
      refine (handlePacket_ok done).imp_left fun served => ?_
      obtain ⟨receivedData, accepted, outcome⟩ := served
      have context := (Received.accepted_spec accepted).2.2
      cases outcome
      exact ⟨receivedData, accepted, handleUdpCommand_serves answering context socket unicast⟩

theorem occur_answering (answering : Answering before) {occurrence : Occurrence}
    (done : before.occur occurrence = .ok after) : Answering after := by
  cases occurrence with
  | operation operation other => exact (step_advances answering.intact other done).answering answering
  | packet packet =>
      obtain ⟨⟨_, answer⟩, outcome, answered⟩ := bind_eq_ok.mp done
      obtain ⟨message, written, finish⟩ := bind_eq_ok.mp answered
      cases finish
      obtain ⟨receivedData, accepted, serves⟩ | ⟨_, same⟩ := handle_serves answering outcome
      · exact serves.answering message (answer.message_eq_ok.mp written)
      · rw [same]
        exact answering

theorem ReachedByPackets.answering (reached : ReachedByPackets stack) : Answering stack := by
  obtain ⟨assemblyData, timeout, reachable⟩ := reached
  have initially : Answering (Stack.initialized config assemblyData timeout) :=
    ⟨Intact.initialized assemblyData timeout, fun _ _ _ kept => by cases kept⟩
  exact reachable.holds initially fun before occurrence answering => .of_ok fun after done =>
    occur_answering answering done

theorem handlePacket_accepted (accepted : received.accepted = some receivedData)
    (serve : EncapsulationData → Except Fault (Answer config)) (stack : Stack config) :
    ∃ remainingBytes, stack.handlePacket received serve = (serve receivedData).map (remainingBytes, ·) := by
  unfold Received.accepted at accepted
  unfold handlePacket
  cases structured : createEncapsulationStructure received with
  | error fault =>
      rw [structured] at accepted
      cases accepted
  | ok header =>
      obtain ⟨encapsulationData, remainingBytes⟩ := header
      rw [structured] at accepted
      dsimp only at accepted
      split at accepted
      · cases accepted
      · rename_i complete
        cases accepted
        rw [not_or] at complete
        refine ⟨remainingBytes, ?_⟩
        rw [ok_bind]
        dsimp only
        rw [if_neg complete.1, if_neg complete.2]
        cases serve { encapsulationData with status := EncapsulationProtocolErrorCode.success.code } with
        | error fault => rfl
        | ok answer => rfl

section Unanswered

theorem regenerated_unanswered (context : receivedData.senderContext.length = kSenderContextSize) :
    ((EnipMessage.lastReplySent none).regenerateHeader receivedData).usedMessageLength = 0 := by
  have header := encapsulationHeader_length context (0 - 24) receivedData.sessionHandle .success
  change (0 - 24 : UInt64) + UInt64.ofNat (encapsulationHeader receivedData (0 - 24) receivedData.sessionHandle
    .success).length = 0
  rw [header]
  rfl

theorem addressed_answered {items : CipCommonPacketFormatData}
    (addressed : stack.addressed (surroundings.sendUnitData receivedData) = some (items, slot)) :
    stack.answerSendUnitDataCommand surroundings receivedData .initialized =
      stack.answerConnectedMessage surroundings receivedData .initialized := by
  unfold Stack.addressed at addressed
  split at addressed
  · rename_i registered
    obtain ⟨parsed, known, found⟩ := Option.bind_eq_some_iff.mp addressed
    unfold SendUnitData.items at known
    split at known
    · cases known
    · rename_i long
      have long : ¬ receivedData.dataLength < 6 := long
      have registered : stack.checkRegisteredSessions receivedData.sessionHandle = true := registered
      unfold answerSendUnitDataCommand
      rw [if_neg long, if_pos registered]
  · cases addressed

theorem RepeatsUnanswered.handled (repeats : stack.RepeatsUnanswered surroundings receivedData) (socket : Int) :
    ∃ after, stack.handleTcpCommand surroundings receivedData .initialized socket =
      .ok ⟨.okSend, some ((EnipMessage.lastReplySent none).regenerateHeader receivedData), after⟩ := by
  obtain ⟨command, ⟨items, slot⟩, addressed, same, unanswered⟩ := repeats
  obtain ⟨⟨number, request⟩, sequenced, rfl⟩ := Option.map_eq_some_iff.mp same
  have repeated : ∃ after, stack.handleReceivedSendUnitDataCommand (surroundings.sendUnitData receivedData) =
      .ok (.repeated slot (stack.object slot).sequenceCountConsuming none, after) := by
    unfold handleReceivedSendUnitDataCommand
    rw [addressed]
    dsimp only
    rw [sequenced]
    dsimp only
    rw [if_pos rfl, unanswered]
    exact ⟨_, rfl⟩
  obtain ⟨after, repeated⟩ := repeated
  unfold handleTcpCommand
  rw [command]
  dsimp only
  rw [addressed_answered addressed]
  unfold answerConnectedMessage
  rw [repeated]
  exact ⟨after, rfl⟩

theorem handleUdpCommand_unwritten (other : ¬ ListsSomething receivedData) (socket : Int) (unicast : Bool) :
    stack.handleUdpCommand surroundings receivedData .initialized socket unicast =
      ⟨.okSend, some .initialized, stack⟩ := by
  unfold handleUdpCommand
  cases command : EncapsulationCommand.ofCode receivedData.commandCode with
  | none => rfl
  | some known => cases known <;> first | rfl | exact absurd (by simp [ListsSomething, command]) other

theorem encapsulate_overflows {reply : List CipOctet} (more : ¬ ENCAPSULATION_HEADER_LENGTH + reply.length ≤
    PC_OPENER_ETHERNET_BUFFER_SIZE) : EnipMessage.initialized.encapsulate receivedData reply = none :=
  (initialized_encapsulate receivedData reply).trans (if_neg more)

theorem unconnectedRequest_overflows {items : CipCommonPacketFormatData}
    (sends : EncapsulationCommand.ofCode receivedData.commandCode = some .sendRequestReplyData)
    (request : stack.unconnectedRequest surroundings receivedData = some items)
    (asks : AsksOther items.dataItem.data items.dataItem.length.toInt16)
    (full : ¬ HasRoom surroundings 16 items.addressInfoItems) (socket : Int) :
    ∃ after, stack.handleTcpCommand surroundings receivedData .initialized socket = .ok ⟨.okSend, none, after⟩ := by
  obtain ⟨long, registered, parsed, address, data⟩ := unconnectedRequest_eq_some.mp request
  obtain ⟨executed, routed, reply, kept⟩ := notifyMessageRouter_other asks
    { stack with addressInfoItems := items.addressInfoItems } (surroundings.circumstances receivedData.sessionHandle)
    items
  have length := unconnectedMessage_length address data surroundings.statusFits
  have reply : executed.reply = surroundings.otherService.reply := reply
  have overflows : EnipMessage.initialized.encapsulate receivedData
      (assembleLinearMessage executed.reply executed.items) = none := by
    refine encapsulate_overflows fun fits => full ?_
    rw [kept, reply, length] at fits
    exact fits
  unfold handleTcpCommand
  rw [sends]
  dsimp only
  unfold handleReceivedSendRequestResponseDataCommand notifyCommonPacketFormat
  rw [if_neg long, if_pos registered, parsed]
  dsimp only
  rw [if_pos address, if_pos data, routed, ok_bind, overflows]
  exact ⟨_, rfl⟩

theorem connectedRequest_overflows {items : CipCommonPacketFormatData} {sequenceCount : UInt16}
    {request : List CipOctet}
    (sends : EncapsulationCommand.ofCode receivedData.commandCode = some .sendUnitData)
    (addressed : stack.addressed (surroundings.sendUnitData receivedData) = some (items, slot))
    (sequenced : items.sequenced = some (sequenceCount, request))
    (fresh : (stack.object slot).sequenceCountConsuming ≠ sequenceCount)
    (asks : AsksOther request (items.dataItem.length - 2).toInt16)
    (full : ¬ HasRoom surroundings 22 items.addressInfoItems) (socket : Int) :
    ∃ after, stack.handleTcpCommand surroundings receivedData .initialized socket = .ok ⟨.okSend, none, after⟩ := by
  obtain ⟨executed, routed, reply, kept⟩ := notifyMessageRouter_other asks
    (stack.receiveConnectedMessage items.addressInfoItems items.addressItem.data.connectionIdentifier
      (items.sequenced.map Prod.fst)) (surroundings.sendUnitData receivedData).circumstances
    (items.numbered sequenceCount)
  have length := @connectedMessage_length _ (replyItems executed.items (executed.stack.object slot))
    (by rw [kept]; exact (addressed_eq_some addressed).1) (by rw [kept]; exact sequenced_eq_some sequenced)
    surroundings.statusFits
  have reply : executed.reply = surroundings.otherService.reply := reply
  have overflows : EnipMessage.initialized.encapsulate receivedData (replyOnConnection slot executed).1 = none := by
    refine encapsulate_overflows fun fits => full ?_
    have fits : ENCAPSULATION_HEADER_LENGTH + (assembleLinearMessage executed.reply
        (replyItems executed.items (executed.stack.object slot))).length ≤ PC_OPENER_ETHERNET_BUFFER_SIZE := fits
    rw [reply, length, kept] at fits
    exact fits
  unfold handleTcpCommand
  rw [sends]
  dsimp only
  rw [addressed_answered addressed]
  unfold answerConnectedMessage handleReceivedSendUnitDataCommand
  rw [addressed]
  dsimp only
  rw [sequenced] at routed ⊢
  dsimp only
  rw [if_neg fresh, executeRequest, routed, ok_bind]
  dsimp only
  rw [pure_bind]
  dsimp only
  rw [overflows]
  exact ⟨_, rfl⟩

/-- When there is no room for the reply, the message is overwritten and is to be sent nevertheless. -/
theorem handleTcpCommand_overflows (overflows : ¬ stack.ReplyFits surroundings receivedData) (socket : Int) :
    ∃ after, stack.handleTcpCommand surroundings receivedData .initialized socket = .ok ⟨.okSend, none, after⟩ := by
  rw [ReplyFits, Classical.not_and_iff_not_or_not] at overflows
  obtain unconnected | connected := overflows
  · push Not at unconnected
    obtain ⟨sends, items, request, asks, full⟩ := unconnected
    exact unconnectedRequest_overflows sends request asks full socket
  · push Not at connected
    obtain ⟨sends, ⟨items, slot⟩, addressed, ⟨sequenceCount, request⟩, sequenced, fresh, asks, full⟩ := connected
    exact connectedRequest_overflows sends addressed sequenced fresh asks full socket

end Unanswered

/-- In every stack that packets and everything else lead to, what is sent back to a packet is a complete reply if and
only if the packet is answerable. -/
theorem answersCompletely_iff (reached : ReachedByPackets stack) (packet : EncapsulationPacket) :
    stack.AnswersCompletely packet ↔ stack.Answerable packet := by
  constructor
  · intro completely receivedData accepted
    have context := (Received.accepted_spec accepted).2.2
    unfold AnswersCompletely handle at completely
    cases transport : packet.transport with
    | tcp socket =>
        rw [transport] at completely
        obtain ⟨remainingBytes, handled⟩ := handlePacket_accepted accepted
          (fun encapsulationData => stack.handleTcpCommand packet.surroundings encapsulationData .initialized socket) stack
        constructor
        · intro repeats
          obtain ⟨after, served⟩ := repeats.handled socket
          rw [served] at handled
          obtain ⟨message, written, complete⟩ := completely _ _ handled rfl
          cases written
          exact complete.nonempty (regenerated_unanswered context)
        -- of a message written behind its buffer nothing is known, so no reply is complete
        · by_contra overflows
          obtain ⟨after, served⟩ := handleTcpCommand_overflows overflows socket
          rw [served] at handled
          obtain ⟨message, written, _⟩ := completely _ _ handled rfl
          cases written
    | udp socket unicast =>
        rw [transport] at completely
        by_contra other
        obtain ⟨remainingBytes, handled⟩ := handlePacket_accepted accepted (fun encapsulationData =>
          .ok (stack.handleUdpCommand packet.surroundings encapsulationData .initialized socket unicast)) stack
        rw [handleUdpCommand_unwritten other] at handled
        obtain ⟨message, written, complete⟩ := completely _ _ handled rfl
        cases written
        exact complete.nonempty rfl
  · intro answerable remainingBytes answer done sends
    obtain ⟨receivedData, accepted, serves⟩ | ⟨silent, _⟩ := handle_serves reached.answering done
    · obtain ⟨message, written, body, carries, whole⟩ := serves.replies (answerable receivedData accepted) sends
      refine ⟨message, written, carries.complete accepted fun command => whole ?_⟩
      unfold CarriesItems
      rw [(Received.accepted_spec accepted).1]
      obtain sendRequestReplyData | sendUnitData := command
      · rw [sendRequestReplyData]
        decide
      · rw [sendUnitData]
        decide
    · exact absurd sends silent

end Runs

section Samples

open SampleApplication

def sampleSurroundings : Surroundings where
  originatorAddress := ⟨AF_INET, kOpenerEipIoUdpPort, 0x0B01A8C0⟩
  randomNumbers := [1]
  network := ⟨.bound 7, true, 0x0B01A8C0⟩
  leftOver := ⟨0, ⟨0, 0, ⟨0, 0⟩⟩, ⟨0, 0, []⟩, ⟨.zero, .zero⟩⟩
  identity := ⟨7, [79, 112], by decide, 3⟩
  otherService := ⟨emptyResponse 0x0E kCipErrorSuccess, fun _ => [], 120⟩
  statusFits := by decide

def samplePacket (transport : Transport) (commandCode : UInt16) (sessionHandle : CipSessionHandle)
    (data : List CipOctet) : EncapsulationPacket where
  transport
  received :=
    { buffer := addIntToMessage commandCode ++ addIntToMessage (UInt16.ofNat data.length) ++
        addDintToMessage sessionHandle ++ addDintToMessage 0 ++ [1, 2, 3, 4, 5, 6, 7, 8] ++ addDintToMessage 0 ++ data
      length := 24 + data.length
      within := by
        simp only [List.length_append]
        exact Nat.le_refl _ }
  surroundings := sampleSurroundings

def registration : EncapsulationPacket := samplePacket (.tcp 5) 0x0065 0 [1, 0, 0, 0]

def unconnectedOpening : EncapsulationPacket :=
  let request := [kForwardOpen, 2, 0x20, 0x06, 0x24, 0x01] ++ (openExplicit 1).data
  samplePacket (.tcp 5) 0x006F 1
    (addDintToMessage 0 ++ addIntToMessage 0 ++ addIntToMessage 2 ++ encodeNullAddressItem ++
      addIntToMessage kCipItemIdUnconnectedDataItem ++ addIntToMessage (UInt16.ofNat request.length) ++ request)

def connectedPacket (sequenceCount : UInt16) : EncapsulationPacket :=
  samplePacket (.tcp 5) 0x0070 1
    (addDintToMessage 0 ++ addIntToMessage 0 ++ connectedRequest 0x12340013 sequenceCount getVendor)

def arrive (packets : List EncapsulationPacket) (test : Stack configuration → Bool) : Bool :=
  match (packets.map Occurrence.packet).foldlM occur (start configuration) with
  | .ok stack => test stack
  | .error _ => false

theorem exists_of_arrive {packets : List EncapsulationPacket} {test : Stack configuration → Bool}
    (passes : arrive packets test = true) : ∃ stack, ReachedByPackets stack ∧ test stack = true := by
  unfold arrive at passes
  split at passes
  · rename_i stack run
    exact ⟨stack, ⟨_, _, _, run⟩, passes⟩
  · cases passes

/-- Get_Attribute_List of the identity object, with its vendor asked for so many times, and the reply of the service. -/
def attributeListPacket (count : Nat) : EncapsulationPacket :=
  let asked := addIntToMessage (UInt16.ofNat count)
  let request := [0x03, 2, 0x20, 0x01, 0x24, 0x01] ++ asked ++ (List.replicate count (addIntToMessage 1)).flatten
  let entry := addIntToMessage 1 ++ addIntToMessage 0 ++ addIntToMessage configuration.identity.vendorId
  let packet := samplePacket (.tcp 5) 0x006F 1
    (addDintToMessage 0 ++ addIntToMessage 0 ++ addIntToMessage 2 ++ encodeNullAddressItem ++
      addIntToMessage kCipItemIdUnconnectedDataItem ++ addIntToMessage (UInt16.ofNat request.length) ++ request)
  { packet with
    surroundings := { sampleSurroundings with
      otherService := { sampleSurroundings.otherService with
        reply := { emptyResponse 0x03 kCipErrorSuccess with
          message := asked ++ (List.replicate count entry).flatten } } } }

def sendsBack (stack : Stack configuration) (packet : EncapsulationPacket) (octets : Option UInt64) : Bool :=
  match stack.handle packet with
  | .ok (_, answer) =>
      answer.returnValue == .okSend && answer.outgoingMessage.map (·.usedMessageLength) == octets
  | .error _ => false

theorem not_answersCompletely_of_sendsBack {stack : Stack configuration} {packet : EncapsulationPacket}
    {octets : Option UInt64} (sends : stack.sendsBack packet octets = true) (nothing : octets.getD 0 = 0) :
    ¬ stack.AnswersCompletely packet := by
  unfold sendsBack at sends
  split at sends
  · rename_i remainingBytes answer done
    rw [Bool.and_eq_true, beq_iff_eq, beq_iff_eq] at sends
    intro completely
    obtain ⟨message, written, complete⟩ := completely remainingBytes answer done sends.1
    have used : octets = some message.usedMessageLength := by
      rw [← sends.2, Option.mem_def.mp written]
      rfl
    rw [used] at nothing
    exact complete.nonempty nothing
  · cases sends

/-- A repeated request gets the whole reply again, and a list of attributes that fits is answered with all of it. -/
theorem repeated_request_answered_completely :
    ∃ stack : Stack configuration, ReachedByPackets stack ∧
      (stack.sendsBack (connectedPacket 1) (some 50) = true ∧ stack.AnswersCompletely (connectedPacket 1)) ∧
      stack.sendsBack (attributeListPacket 77) (some 508) = true ∧ stack.AnswersCompletely (attributeListPacket 77) := by
  have run : arrive [registration, unconnectedOpening, connectedPacket 1]
      (fun stack => (stack.sendsBack (connectedPacket 1) (some 50) && stack.Answerable (connectedPacket 1)) &&
        (stack.sendsBack (attributeListPacket 77) (some 508) && stack.Answerable (attributeListPacket 77))) = true := by
    decide +kernel
  obtain ⟨stack, reached, passes⟩ := exists_of_arrive run
  rw [Bool.and_eq_true, Bool.and_eq_true, Bool.and_eq_true, decide_eq_true_eq, decide_eq_true_eq] at passes
  exact ⟨stack, reached, ⟨passes.1.1, (answersCompletely_iff reached _).mpr passes.1.2⟩,
    passes.2.1, (answersCompletely_iff reached _).mpr passes.2.2⟩

/-- The first request on a connection has the sequence count zero and is answered with nothing, and so is a packet
that registers a session over UDP; a list of attributes asked for eighty times is written over the end of the
buffer. -/
theorem nothing_sent_back :
    (∃ stack : Stack configuration, ReachedByPackets stack ∧ ¬ stack.AnswersCompletely (connectedPacket 0)) ∧
      (∃ stack : Stack configuration, ReachedByPackets stack ∧
        ¬ stack.AnswersCompletely (samplePacket (.udp 6 true) 0x0065 0 [1, 0, 0, 0])) ∧
      ∃ stack : Stack configuration, ReachedByPackets stack ∧ ¬ stack.AnswersCompletely (attributeListPacket 80) := by
  have repeated : arrive [registration, unconnectedOpening] (sendsBack · (connectedPacket 0) (some 0)) = true := by
    decide +kernel
  have listed : arrive [] (sendsBack · (samplePacket (.udp 6 true) 0x0065 0 [1, 0, 0, 0]) (some 0)) = true := by
    decide +kernel
  have overflown : arrive [registration] (sendsBack · (attributeListPacket 80) none) = true := by
    decide +kernel
  obtain ⟨stack, reached, empty⟩ := exists_of_arrive repeated
  obtain ⟨start, initial, unwritten⟩ := exists_of_arrive listed
  obtain ⟨registered, later, overwritten⟩ := exists_of_arrive overflown
  exact ⟨⟨stack, reached, not_answersCompletely_of_sendsBack empty rfl⟩,
    ⟨start, initial, not_answersCompletely_of_sendsBack unwritten rfl⟩,
    ⟨registered, later, not_answersCompletely_of_sendsBack overwritten rfl⟩⟩

end Samples

end Stack

end EtherNetIP
