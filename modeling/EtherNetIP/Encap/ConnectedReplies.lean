import EtherNetIP.Encap.Conversation

/-! The replies to requests on a class 3 connection.

A reply is assembled from the packet structure and the connection object as the
service leaves them. A service that opens or closes a connection makes the
structure that of an unconnected message; a reset closes the connection itself,
and its identifier is then gone. All other requests get a connected message.
-/

set_option autoImplicit false

namespace EtherNetIP

open Library CipConnectionObject

variable {config : Configuration}

def connectedReply (itemCount : UInt16) (connectionIdentifier : UInt32) (sequenceCount : UInt16)
    (response : Response) (further : List CipOctet) : List CipOctet :=
  addDintToMessage 0 ++ addIntToMessage 0 ++ addIntToMessage itemCount ++
    (addIntToMessage kCipItemIdConnectionAddress ++ addIntToMessage 4 ++ addDintToMessage connectionIdentifier) ++
    (addIntToMessage kCipItemIdConnectedDataItem ++ addIntToMessage (UInt16.ofNat (responseLength response + 2)) ++
      addIntToMessage sequenceCount ++ encodeResponse response) ++ further

/-- The reply is a connected message of the connection that answers the request. -/
def IsConnectedReply (connectionIdentifier : UInt32) (sequenceCount : UInt16) (reply : List CipOctet) : Prop :=
  ∃ itemCount response further, reply = connectedReply itemCount connectionIdentifier sequenceCount response further

def addressOf (reply : List CipOctet) : UInt16 × UInt32 :=
  ((getUintFromMessage.run (reply.drop 8)).1, (getUdintFromMessage.run (reply.drop 12)).1)

theorem IsConnectedReply.address {connectionIdentifier : UInt32} {sequenceCount : UInt16} {reply : List CipOctet}
    (connected : IsConnectedReply connectionIdentifier sequenceCount reply) :
    addressOf reply = (kCipItemIdConnectionAddress, connectionIdentifier) := by
  obtain ⟨itemCount, response, further, rfl⟩ := connected
  have typeId (rest : List CipOctet) := congrArg Prod.fst (getUintFromMessage_add rest kCipItemIdConnectionAddress)
  have identifier (rest : List CipOctet) := congrArg Prod.fst (getUdintFromMessage_add rest connectionIdentifier)
  exact Prod.ext (typeId _) (identifier _)

section Assembling

variable {response : Response} {items : CipCommonPacketFormatData}

theorem assembleLinearMessage_connected (address : items.addressItem.typeId = kCipItemIdConnectionAddress)
    (data : items.dataItem.typeId = kCipItemIdConnectedDataItem) :
    IsConnectedReply items.addressItem.data.connectionIdentifier items.addressItem.data.sequenceNumber.toUInt16
      (assembleLinearMessage response items) := by
  have connection : kCipItemIdConnectionAddress ≠ kCipItemIdNullAddress := by decide
  refine ⟨items.itemCount, response,
    encodeItemOfType items.addressInfoItems kCipItemIdSocketAddressInfoOriginatorToTarget ++
      encodeItemOfType items.addressInfoItems kCipItemIdSocketAddressInfoTargetToOriginator, ?_⟩
  simp only [assembleLinearMessage, address, connection, if_true, if_false, encodeDataItem, data,
    encodeConnectedAddressItem, connectedReply, List.append_assoc]

/-- Behind a null address item there is no identifier. -/
theorem assembleLinearMessage_null (address : items.addressItem.typeId = kCipItemIdNullAddress) :
    (addressOf (assembleLinearMessage response items)).1 = kCipItemIdNullAddress := by
  have typeId (rest : List CipOctet) := congrArg Prod.fst (getUintFromMessage_add rest kCipItemIdNullAddress)
  unfold assembleLinearMessage
  dsimp only
  rw [if_pos address]
  exact typeId _

end Assembling

/-- The service does not leave the reply a connected message: it makes the packet structure that of an unconnected
one, or it closes all connections and the identifier of this one does not happen to be that of an empty object. -/
def Disconnects (object : CipConnectionObject) (request : CipMessageRouterRequest) : Prop :=
  match request.dispatch with
  | .forwardOpen | .largeForwardOpen | .forwardClose => True
  | .reset => (request.resetType = some 0 ∨ request.resetType = some 1) ∧ object.cipProducedConnectionId ≠ 0
  | .other => False

namespace Stack

variable {stack after opened : Stack config} {slot : Slot config} {packet : SendUnitData}

theorem cipResetService_object (coherent : Coherent stack) (listed : slot ∈ stack.connectionList.toList)
    {request : CipMessageRouterRequest} {answered : Response × Stack config}
    (done : stack.cipResetService request = .ok answered) :
    if request.resetType = some 0 ∨ request.resetType = some 1 then
      answered.2.object slot = initializeEmpty
    else answered.2.object slot = stack.object slot := by
  have closes {from_ closed : Stack config} (start : Coherent from_) (inList : slot ∈ from_.connectionList.toList)
      (done : from_.closeAllConnections = .ok closed) : closed.object slot = initializeEmpty :=
    ((closeAllConnections_empties start).returns done).2 slot inList
  unfold cipResetService at done
  split at done
  · rename_i none
    cases done
    simp [none]
  · rename_i resetType some
    rw [some]
    split at done
    · rename_i zero
      obtain ⟨closed, closing, finish⟩ := bind_eq_ok.mp done
      cases finish
      rw [if_pos (.inl (by rw [zero]))]
      exact closes coherent listed closing
    · rename_i notZero
      split at done
      · rename_i one
        obtain ⟨closed, closing, finish⟩ := bind_eq_ok.mp done
        cases finish
        rw [if_pos (.inr (by rw [one]))]
        have timed : Coherent { stack with encapsulationInactivityTimeout := 120 } := coherent.of_same_table rfl rfl
        exact closes timed listed closing
      · rename_i notOne
        cases done
        rw [if_neg (by simp [notZero, notOne])]

section Replying

variable {circumstances : Circumstances} {items : CipCommonPacketFormatData} {executed : Executed config}

theorem replyOnConnection_connected (address : items.addressItem.typeId = kCipItemIdConnectionAddress)
    (data : items.dataItem.typeId = kCipItemIdConnectedDataItem) (kept : executed.items = items) :
    IsConnectedReply (executed.stack.object slot).cipProducedConnectionId
      items.addressItem.data.sequenceNumber.toUInt16 (replyOnConnection slot executed).1 := by
  subst kept
  have sameAddress : (replyItems executed.items (executed.stack.object slot)).addressItem.typeId =
      kCipItemIdConnectionAddress := address
  exact assembleLinearMessage_connected sameAddress data

theorem replyOnConnection_unconnected {answered : Response × Stack config} {connectionIdentifier : UInt32}
    {sequenceCount : UInt16} :
    ¬ IsConnectedReply connectionIdentifier sequenceCount
      (replyOnConnection slot (unconnected items answered)).1 := by
  intro connected
  have address : (replyItems (unconnected items answered).items
      ((unconnected items answered).stack.object slot)).addressItem.typeId = kCipItemIdNullAddress := rfl
  have null := congrArg Prod.fst connected.address
  unfold replyOnConnection at null
  dsimp only at null
  rw [assembleLinearMessage_null address] at null
  exact absurd null (by decide)

theorem executeService_reply_iff (coherent : Coherent stack) (listed : slot ∈ stack.connectionList.toList)
    (address : items.addressItem.typeId = kCipItemIdConnectionAddress)
    (data : items.dataItem.typeId = kCipItemIdConnectedDataItem) {request : CipMessageRouterRequest}
    (done : stack.executeService circumstances items request = .ok executed) :
    IsConnectedReply (stack.object slot).cipProducedConnectionId items.addressItem.data.sequenceNumber.toUInt16
      (replyOnConnection slot executed).1 ↔ ¬ Disconnects (stack.object slot) request := by
  unfold executeService at done
  dsimp only at done
  unfold Disconnects
  cases dispatched : request.dispatch with
  | forwardOpen =>
      rw [dispatched] at done
      obtain ⟨answered, outcome, rfl⟩ := map_eq_ok.mp done
      simp only [not_true_eq_false, iff_false]
      exact replyOnConnection_unconnected
  | largeForwardOpen =>
      rw [dispatched] at done
      obtain ⟨answered, outcome, rfl⟩ := map_eq_ok.mp done
      simp only [not_true_eq_false, iff_false]
      exact replyOnConnection_unconnected
  | forwardClose =>
      rw [dispatched] at done
      obtain ⟨answered, outcome, rfl⟩ := map_eq_ok.mp done
      simp only [not_true_eq_false, iff_false]
      exact replyOnConnection_unconnected
  -- a reset of type 0 or 1 closes the connection the reply is for
  | reset =>
      rw [dispatched] at done
      obtain ⟨answered, outcome, rfl⟩ := map_eq_ok.mp done
      have behind := cipResetService_object coherent listed outcome
      have connected : IsConnectedReply (answered.2.object slot).cipProducedConnectionId
          items.addressItem.data.sequenceNumber.toUInt16
          (replyOnConnection slot ⟨answered.1, items, answered.2⟩).1 := replyOnConnection_connected address data rfl
      by_cases closes : request.resetType = some 0 ∨ request.resetType = some 1
      · rw [if_pos closes] at behind
        rw [behind] at connected
        constructor
        · rintro same ⟨_, differs⟩
          have identifiers := connected.address.symm.trans same.address
          exact differs (congrArg Prod.snd identifiers).symm
        · intro allowed
          have zero : (stack.object slot).cipProducedConnectionId = 0 := by
            by_contra differs
            exact allowed ⟨closes, differs⟩
          rw [zero]
          exact connected
      · rw [if_neg closes] at behind
        rw [behind] at connected
        exact ⟨fun _ disconnects => closes disconnects.1, fun _ => connected⟩
  | other =>
      rw [dispatched] at done
      cases done
      exact ⟨fun _ => id, fun _ => replyOnConnection_connected address data rfl⟩

end Replying

def Exchange.Executes (slot : Slot config) (exchange : Exchange config) (request : CipMessageRouterRequest) : Prop :=
  ∃ packet items sequenceCount data, exchange.event = .packet packet ∧
    exchange.before.addressed packet = some (items, slot) ∧ items.sequenced = some (sequenceCount, data) ∧
    (exchange.before.object slot).sequenceCountConsuming ≠ sequenceCount ∧
    (createMessageRouterRequestStructure data (items.dataItem.length - 2).toInt16).2 = .ok request

def Exchange.Sends (slot : Slot config) (exchange : Exchange config) (sequenceCount : UInt16)
    (reply : List CipOctet) : Prop :=
  ∃ delivery, exchange.handled.deliveryOn slot = some delivery ∧ delivery.number = sequenceCount ∧
    delivery.reply = some reply

def RemembersConnected (object : CipConnectionObject) : Prop :=
  ∀ reply, object.lastReplySent = some reply →
    IsConnectedReply object.cipProducedConnectionId object.sequenceCountConsuming reply

theorem executed_reply_iff (reached : Reached stack) {items : CipCommonPacketFormatData} {sequenceCount : UInt16}
    {data : List CipOctet} {executed : Executed config} (addressed : stack.addressed packet = some (items, slot))
    (sequenced : items.sequenced = some (sequenceCount, data))
    (done : (stack.received items slot).notifyMessageRouter packet.circumstances (items.numbered sequenceCount) data
      (items.dataItem.length - 2).toInt16 = .ok executed) :
    IsConnectedReply (stack.object slot).cipProducedConnectionId sequenceCount (replyOnConnection slot executed).1 ↔
      ∀ request, (createMessageRouterRequestStructure data (items.dataItem.length - 2).toInt16).2 = .ok request →
        ¬ Disconnects (stack.object slot) request := by
  have found := addressed_eq_some addressed
  have coherent := (received_reached reached addressed).intact.coherent
  have listed : slot ∈ (stack.received items slot).connectionList.toList :=
    (getConnectedObject_established found.2).1
  have own : (stack.received items slot).object slot =
      noteReception (items.sequenced.map Prod.fst) (stack.object slot) := by
    rw [received_object, Function.update_self]
  have identifier : ((stack.received items slot).object slot).cipProducedConnectionId =
      (stack.object slot).cipProducedConnectionId := by
    rw [own]
    exact ((sameConnection_noteReception _ _).eq (·.cipProducedConnectionId) fun _ => rfl).symm
  have address : (items.numbered sequenceCount).addressItem.typeId = kCipItemIdConnectionAddress := found.1
  have connectedData : (items.numbered sequenceCount).dataItem.typeId = kCipItemIdConnectedDataItem :=
    sequenced_eq_some sequenced
  have number : (items.numbered sequenceCount).addressItem.data.sequenceNumber.toUInt16 = sequenceCount := by
    simp [CipCommonPacketFormatData.numbered]
  -- a request that cannot be read is answered with its error, on the connection
  unfold notifyMessageRouter at done
  split at done
  · rename_i service status refused
    cases done
    rw [refused]
    let executed : Executed config :=
      ⟨emptyResponse service status, items.numbered sequenceCount, stack.received items slot⟩
    have connected : IsConnectedReply (executed.stack.object slot).cipProducedConnectionId
        (items.numbered sequenceCount).addressItem.data.sequenceNumber.toUInt16 (replyOnConnection slot executed).1 :=
      replyOnConnection_connected address connectedData rfl
    rw [number, identifier] at connected
    exact ⟨fun _ _ absurd => (by cases absurd), fun _ => connected⟩
  · rename_i service request readable
    have iff := executeService_reply_iff coherent listed address connectedData done
    rw [number, identifier] at iff
    rw [readable, iff]
    have same : Disconnects ((stack.received items slot).object slot) request ↔
        Disconnects (stack.object slot) request := by
      unfold Disconnects
      rw [identifier]
    rw [same]
    exact ⟨fun allowed other equal => Except.ok.inj equal ▸ allowed, fun allowed => allowed request rfl⟩

theorem exchange_replies_iff (reached : Reached stack) (remembers : RemembersConnected (stack.object slot))
    {event : Event} {handled : Handled config} (done : stack.perform event = .ok (handled, after)) :
    (∀ sequenceCount reply, Exchange.Sends slot ⟨stack, event, handled⟩ sequenceCount reply →
      IsConnectedReply (stack.object slot).cipProducedConnectionId sequenceCount reply) ↔
    ∀ request, Exchange.Executes slot ⟨stack, event, handled⟩ request → ¬ Disconnects (stack.object slot) request := by
  -- nothing is sent on the connection and nothing executed
  have idle (silent : handled.deliveryOn slot = none)
      (nothing : ∀ request, ¬ Exchange.Executes slot ⟨stack, event, handled⟩ request) :
      (∀ sequenceCount reply, Exchange.Sends slot ⟨stack, event, handled⟩ sequenceCount reply →
        IsConnectedReply (stack.object slot).cipProducedConnectionId sequenceCount reply) ↔
      ∀ request, Exchange.Executes slot ⟨stack, event, handled⟩ request → ¬ Disconnects (stack.object slot) request := by
    constructor
    · exact fun _ request executes => absurd executes (nothing request)
    · rintro _ sequenceCount reply ⟨delivery, delivered, _⟩
      rw [silent] at delivered
      cases delivered
  cases event with
  | operation operation other =>
      obtain ⟨next, outcome, same⟩ := map_eq_ok.mp done
      cases same
      refine idle rfl fun request => ?_
      rintro ⟨packet, items, sequenceCount, data, named, _⟩
      cases named
  | packet packet =>
      cases handleReceivedSendUnitDataCommand_handling done with
      | dropped unaddressed =>
          refine idle rfl fun request => ?_
          rintro ⟨_, items, sequenceCount, data, named, addressed, _⟩
          cases named
          cases unaddressed.symm.trans addressed
      | noData addressed absent =>
          refine idle rfl fun request => ?_
          rintro ⟨_, items, sequenceCount, data, named, again, sequenced, _⟩
          cases named
          cases addressed.symm.trans again
          cases absent.symm.trans sequenced
      -- the reply sent again was one of the connection when it was stored
      | @repeated items other data addressed sequenced =>
          by_cases same : other = slot
          · subst same
            constructor
            · rintro _ request ⟨_, items, sequenceCount, data, named, again, counted, fresh, _⟩
              cases named
              cases addressed.symm.trans again
              cases sequenced.symm.trans counted
              exact absurd rfl fresh
            · rintro _ sequenceCount reply ⟨delivery, delivered, rfl, sent⟩
              rw [Handled.deliveryOn, if_pos rfl, Option.some.injEq] at delivered
              subst delivered
              exact remembers reply sent
          · refine idle (if_neg same) fun request => ?_
            rintro ⟨_, items, sequenceCount, data, named, again, _⟩
            cases named
            cases addressed.symm.trans again
            exact same rfl
      | @executed items other sequenceCount data executed addressed sequenced fresh routed =>
          by_cases same : other = slot
          · subst same
            have iff := executed_reply_iff reached addressed sequenced routed
            constructor
            · rintro connected request ⟨_, items, sequenceCount, data, named, again, counted, _, readable⟩
              cases named
              cases addressed.symm.trans again
              cases sequenced.symm.trans counted
              refine iff.mp (connected _ _ ⟨_, if_pos rfl, rfl, rfl⟩) request readable
            · rintro allowed number reply ⟨delivery, delivered, rfl, sent⟩
              rw [Handled.deliveryOn, if_pos rfl, Option.some.injEq] at delivered
              subst delivered
              cases sent
              exact iff.mpr fun request readable =>
                allowed request ⟨packet, items, sequenceCount, data, rfl, addressed, sequenced, fresh, readable⟩
          · refine idle (if_neg same) fun request => ?_
            rintro ⟨_, items, sequenceCount, data, named, again, _⟩
            cases named
            cases addressed.symm.trans again
            exact same rfl

theorem Delivers.remembers {delivery : Option (Delivery UInt16 (List CipOctet))}
    (delivers : Delivers slot stack after delivery) (remembers : RemembersConnected (stack.object slot))
    (sent : ∀ delivered reply, delivery = some delivered → delivered.reply = some reply →
      IsConnectedReply (stack.object slot).cipProducedConnectionId delivered.number reply)
    (listed : slot ∈ after.connectionList.toList) : RemembersConnected (after.object slot) := by
  cases delivers with
  | nothing kept =>
      obtain ⟨same, requests⟩ := kept listed
      rw [newestRequest, newestRequest, Prod.mk.injEq] at requests
      rw [RemembersConnected, requests.1, requests.2, ← same.eq (·.cipProducedConnectionId) fun _ => rfl]
      exact remembers
  | @request delivered next answers kept =>
      obtain ⟨same, remembered⟩ := kept listed
      have number : (after.object slot).sequenceCountConsuming = next.number := congrArg (·.number) remembered
      have stored : (after.object slot).lastReplySent = next.reply := congrArg (·.reply) remembered
      rw [RemembersConnected, number, stored, ← same.eq (·.cipProducedConnectionId) fun _ => rfl]
      cases answers with
      | repeated => exact remembers
      | @executed sequenceCount fresh reply =>
          intro other same
          cases same
          exact sent ⟨sequenceCount, true, some reply⟩ reply rfl rfl

theorem Conversation.replies_iff {exchanges : List (Exchange config)} (conversation : Conversation slot stack exchanges)
    (reached : Reached stack) (explicit : slot.instanceType = .explicitMessaging)
    (notClass1 : (stack.object slot).getTransportClass ≠ .class1) (remembers : RemembersConnected (stack.object slot)) :
    (∀ exchange ∈ exchanges, ∀ sequenceCount reply, exchange.Sends slot sequenceCount reply →
      IsConnectedReply (stack.object slot).cipProducedConnectionId sequenceCount reply) ↔
    ∀ exchange ∈ exchanges, ∀ request, exchange.Executes slot request →
      ¬ Disconnects (stack.object slot) request := by
  induction conversation with
  | ended stack => simp
  | @goesOn stack after event handled later listed done rest ih =>
      have nextReached := perform_reached reached done
      have delivers := perform_delivers reached explicit notClass1 listed done
      have first := exchange_replies_iff reached remembers done
      rw [List.forall_mem_cons, List.forall_mem_cons, first]
      refine and_congr_right fun allowed => ?_
      cases rest with
      | ended => simp
      | goesOn stillListed stillDone rest =>
          have sends := first.mpr allowed
          have kept := delivers.same stillListed
          have remembersNext := delivers.remembers remembers
            (fun delivered reply equal sent => sends _ _ ⟨delivered, equal, rfl, sent⟩) stillListed
          have identifier : (stack.object slot).cipProducedConnectionId = (after.object slot).cipProducedConnectionId :=
            kept.eq (·.cipProducedConnectionId) fun _ => rfl
          have same (request : CipMessageRouterRequest) :
              Disconnects (stack.object slot) request ↔ Disconnects (after.object slot) request := by
            unfold Disconnects
            rw [identifier]
          simp only [identifier, same]
          exact ih nextReached (kept.eq getTransportClass (fun _ => rfl) ▸ notClass1) remembersNext

/-- In a conversation on a class 3 connection every reply is a connected message of that connection with the
sequence count of its request if and only if no request disconnects. -/
theorem replies_connected_iff {exchanges : List (Exchange config)} (opening : Class3Opened slot opened)
    (conversation : Conversation slot opened exchanges) :
    (∀ exchange ∈ exchanges, ∀ sequenceCount reply, exchange.Sends slot sequenceCount reply →
      IsConnectedReply (opened.object slot).cipProducedConnectionId sequenceCount reply) ↔
    ∀ exchange ∈ exchanges, ∀ request, exchange.Executes slot request →
      ¬ Disconnects (opened.object slot) request := by
  refine conversation.replies_iff opening.reached opening.explicit (by simp [opening.class3]) ?_
  intro reply stored
  have nothing : (opened.object slot).lastReplySent = none := congrArg (·.reply) opening.requestMemory
  rw [nothing] at stored
  cases stored

section Samples

open SampleApplication

/-- A request and its repetition on the connection of the sample. -/
theorem replies_connected_sample :
    ∃ (opened : Stack configuration) (exchanges : List (Exchange configuration)),
      (deliveriesOn firstExplicit exchanges).map (fun delivery => (delivery.number, delivery.reply.isSome)) =
        [(1, true), (1, true)] ∧
      ((∀ exchange ∈ exchanges, ∀ sequenceCount reply, exchange.Sends firstExplicit sequenceCount reply →
        IsConnectedReply (opened.object firstExplicit).cipProducedConnectionId sequenceCount reply) ↔
      ∀ exchange ∈ exchanges, ∀ request, exchange.Executes firstExplicit request →
        ¬ Disconnects (opened.object firstExplicit) request) := by
  have run : (openedOverSession [requestVendor 1, requestVendor 1]).map
      (·.map fun delivery => (delivery.number, delivery.reply.isSome)) = some [(1, true), (1, true)] := by
    decide +kernel
  obtain ⟨delivered, same, numbers⟩ := Option.map_eq_some_iff.mp run
  obtain ⟨opened, exchanges, opening, conversation, rfl⟩ := exists_of_deliverFromOpening same
  exact ⟨opened, exchanges, numbers, replies_connected_iff opening conversation⟩

def openOverConnection : Event :=
  .packet (sendUnitData 1 0x12340013 1 ([kForwardOpen, 2, 0x20, 0x06, 0x24, 0x01] ++ (openExplicit 2).data))

/-- The reply to a Forward Open sent over a connection has a null address item. -/
theorem forward_open_over_connection_unconnected :
    ∃ (opened : Stack configuration) (exchanges : List (Exchange configuration)),
      Class3Opened firstExplicit opened ∧ Conversation firstExplicit opened exchanges ∧
        ∃ exchange ∈ exchanges, ∃ sequenceCount reply, exchange.Sends firstExplicit sequenceCount reply ∧
          ¬ IsConnectedReply (opened.object firstExplicit).cipProducedConnectionId sequenceCount reply := by
  have run : (openedOverSession [openOverConnection]).map
      (·.map fun delivery => delivery.reply.map fun reply => (addressOf reply).1) = some [some 0] := by
    decide +kernel
  obtain ⟨delivered, same, addresses⟩ := Option.map_eq_some_iff.mp run
  obtain ⟨opened, exchanges, opening, conversation, rfl⟩ := exists_of_deliverFromOpening same
  obtain ⟨delivery, only⟩ := List.length_eq_one_iff.mp (by simpa using congrArg List.length addresses)
  have member : delivery ∈ deliveriesOn firstExplicit exchanges := by simp [only]
  obtain ⟨exchange, inExchanges, delivered⟩ := List.mem_filterMap.mp member
  rw [only, List.map_singleton, List.singleton_inj] at addresses
  obtain ⟨reply, sent, address⟩ := Option.map_eq_some_iff.mp addresses
  refine ⟨opened, exchanges, opening, conversation, exchange, inExchanges, delivery.number, reply,
    ⟨delivery, delivered, rfl, sent⟩, fun connected => ?_⟩
  rw [connected.address] at address
  have different : kCipItemIdConnectionAddress ≠ 0 := by decide
  exact different address

end Samples

end Stack

end EtherNetIP
