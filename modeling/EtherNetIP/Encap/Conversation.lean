import EtherNetIP.Cip.ExplicitFrame
import EtherNetIP.Library.RepeatedRequests
import EtherNetIP.SampleApplication

/-! Requests on one class 3 connection.

A conversation starts when the connection has been opened and goes on while it
is listed; in between anything else may happen. The connection object remembers
the sequence count of the newest request and the reply to it, like the server of
the library. It starts with the sequence count zero, so a first request with
this count is taken for a repetition of one that never came.
-/

set_option autoImplicit false

namespace EtherNetIP

open Library CipConnectionObject

variable {config : Configuration}

inductive Event where
  | operation (operation : Operation) (other : ¬ operation.notesRequest)
  | packet (packet : SendUnitData)

def Handled.deliveryOn (slot : Slot config) : Handled config → Option (Delivery UInt16 (List CipOctet))
  | .repeated other sequenceCount reply => if other = slot then some ⟨sequenceCount, false, reply⟩ else none
  | .executed other sequenceCount reply => if other = slot then some ⟨sequenceCount, true, some reply⟩ else none
  | _ => none

def requestMemory (object : CipConnectionObject) : RequestMemory UInt16 (List CipOctet) :=
  ⟨object.sequenceCountConsuming, object.lastReplySent⟩

theorem requestMemory_eq_of_newestRequest {object other : CipConnectionObject}
    (same : newestRequest object = newestRequest other) : requestMemory object = requestMemory other := by
  rw [newestRequest, newestRequest, Prod.mk.injEq] at same
  rw [requestMemory, requestMemory, same.1, same.2]

namespace Stack

variable {stack before after opened : Stack config} {slot : Slot config} {packet : SendUnitData}

def perform (stack : Stack config) : Event → Except Fault (Handled config × Stack config)
  | .operation operation _ => (stack.step operation).map fun after => (.dropped, after)
  | .packet packet => stack.handleReceivedSendUnitDataCommand packet

section Running

theorem cipResetService_reached (reached : Reached stack) {request : CipMessageRouterRequest}
    {answered : Response × Stack config} (done : stack.cipResetService request = .ok answered) :
    Reached answered.2 := by
  have closes {from_ closed : Stack config} (start : Reached from_) (done : from_.closeAllConnections = .ok closed) :
      Reached closed := by
    have operated : from_.step .resetDevice = .ok closed := done
    exact start.step operated
  unfold cipResetService at done
  split at done
  · cases done
    exact reached
  · split at done
    · obtain ⟨closed, closing, finish⟩ := bind_eq_ok.mp done
      cases finish
      exact closes reached closing
    · split at done
      · obtain ⟨closed, closing, finish⟩ := bind_eq_ok.mp done
        cases finish
        have operated : stack.step (.otherServiceExecuted stack.assemblyData 120) =
            .ok { stack with encapsulationInactivityTimeout := 120 } := rfl
        exact closes (reached.step operated) closing
      · cases done
        exact reached

theorem executeService_reached (reached : Reached stack) {circumstances : Circumstances}
    {items : CipCommonPacketFormatData} {request : CipMessageRouterRequest} {executed : Executed config}
    (done : stack.executeService circumstances items request = .ok executed) : Reached executed.stack := by
  have answers {operation : Operation} {computation : Except Fault (Response × Stack config)}
      (operated : stack.step operation = computation.map Prod.snd)
      (done : computation.map (unconnected items) = .ok executed) : Reached executed.stack := by
    obtain ⟨answered, outcome, rfl⟩ := map_eq_ok.mp done
    apply reached.step
    rw [operated, outcome]
    rfl
  unfold executeService at done
  dsimp only at done
  split at done
  · have operated (asked : Request) : stack.step (.forwardOpen asked) = (stack.forwardOpen asked).map Prod.snd := rfl
    exact answers (operated _) done
  · have operated (asked : Request) :
        stack.step (.largeForwardOpen asked) = (stack.largeForwardOpen asked).map Prod.snd := rfl
    exact answers (operated _) done
  · have operated (asked : Request) : stack.step (.forwardClose asked) = (stack.forwardClose asked).map Prod.snd := rfl
    exact answers (operated _) done
  · obtain ⟨answered, outcome, rfl⟩ := map_eq_ok.mp done
    exact cipResetService_reached reached outcome
  · cases done
    have operated : stack.step (.otherServiceExecuted circumstances.otherService.assemblyData
        circumstances.otherService.encapsulationInactivityTimeout) = .ok _ := rfl
    exact reached.step operated

theorem notifyMessageRouter_reached (reached : Reached stack) {circumstances : Circumstances}
    {items : CipCommonPacketFormatData} {data : List CipOctet} {dataLength : Int16} {executed : Executed config}
    (done : stack.notifyMessageRouter circumstances items data dataLength = .ok executed) : Reached executed.stack := by
  unfold notifyMessageRouter at done
  split at done
  · cases done
    exact reached
  · exact executeService_reached reached done

theorem received_reached (reached : Reached stack) {items : CipCommonPacketFormatData}
    (addressed : stack.addressed packet = some (items, slot)) : Reached (stack.received items slot) := by
  have operated : stack.step (.connectedMessageReceived items.addressInfoItems
      items.addressItem.data.connectionIdentifier (items.sequenced.map Prod.fst)) =
      .ok (stack.received items slot) :=
    congrArg Except.ok (receiveConnectedMessage_eq (addressed_eq_some addressed).2 _)
  exact reached.step operated

theorem Handling.reached {handled : Handled config} (reached : Reached stack)
    (handling : Handling packet stack handled after) : Reached after := by
  cases handling with
  | dropped unaddressed => exact reached
  | noData addressed absent => exact received_reached reached addressed
  | repeated addressed sequenced => exact received_reached reached addressed
  | @executed _ slot _ _ executed addressed sequenced fresh done =>
      have served := notifyMessageRouter_reached (received_reached reached addressed) done
      let reply := (replyOnConnection slot executed).1
      have operated : executed.stack.step (.connectedReplyStored slot.poolObject reply) =
          .ok (executed.stack.modifyObject slot (storeReply reply)) :=
        congrArg Except.ok (storeReplyAt_slot slot reply)
      exact served.step operated

theorem perform_reached (reached : Reached stack) {event : Event} {handled : Handled config}
    (done : stack.perform event = .ok (handled, after)) : Reached after := by
  cases event with
  | operation operation other =>
      obtain ⟨next, outcome, same⟩ := map_eq_ok.mp done
      cases same
      exact reached.step outcome
  | packet packet => exact (handleReceivedSendUnitDataCommand_handling done).reached reached

end Running

section Requests

/-- The second stack comes of the first by changes in which no request is answered, or by a Forward Open. -/
inductive Advances (before after : Stack config) : Prop
  | evolved (named : Int → Prop) (evolves : Evolves named (fun note _ => note ≠ .request) before after)
  | answered (isLfo : Bool) (request : Request) (response : Response)
      (answered : before.forwardOpenRoutine isLfo request = .ok (response, after))

theorem Advances.keepsRequests (intact : Intact before) (advances : Advances before after) :
    KeepsRequests before after := by
  cases advances with
  | evolved named evolves => exact evolves.keepsRequests intact.coherent fun _ request => request rfl
  | answered isLfo request response answered => exact forwardOpenRoutine_keepsRequests intact answered

theorem Advances.newestRequest (intact : Intact before) (advances : Advances before after)
    (explicit : slot.instanceType = .explicitMessaging) (absent : slot ∉ before.connectionList.toList)
    (listed : slot ∈ after.connectionList.toList) : newestRequest (after.object slot) = (0, none) := by
  cases advances with
  | evolved named evolves => exact absurd ((evolves.continues intact.coherent).sublist.subset listed) absent
  | answered isLfo request response answered =>
      exact forwardOpenRoutine_newestRequest intact answered explicit absent listed

theorem step_advances (intact : Intact stack) {operation : Operation} (other : ¬ operation.notesRequest)
    (done : stack.step operation = .ok after) : Advances stack after := by
  cases opens : operation.openRequest with
  | none =>
      have evolves := (step_proceeds intact.coherent opens).returns done
      refine .evolved operation.names (evolves.mono ?_)
      rintro _ _ notes rfl
      exact other notes
  | some asked =>
      rw [step_openRequest opens] at done
      obtain ⟨answered, outcome, rfl⟩ := map_eq_ok.mp done
      exact .answered asked.1 asked.2 answered.1 outcome

theorem cipResetService_evolves {named : Int → Prop} {noting : Note → Slot config → Prop} (coherent : Coherent stack)
    (request : CipMessageRouterRequest) :
    Settles (stack.cipResetService request) (fun answered => Evolves named noting stack answered.2)
      (· ≠ .nullNode) := by
  unfold cipResetService
  split
  · exact Relation.ReflTransGen.refl
  · split
    · apply Settles.bind (closeAllConnections_proceeds coherent)
      exact fun closed evolves => evolves
    · split
      · have timed : Aside named stack { stack with encapsulationInactivityTimeout := 120 } := .of_same rfl rfl rfl rfl rfl
        apply Settles.bind (closeAllConnections_proceeds (timed.coherent coherent))
        exact fun closed evolves => .head (.aside timed) evolves
      · exact Relation.ReflTransGen.refl

theorem notifyMessageRouter_advances (coherent : Coherent stack) {circumstances : Circumstances}
    {items : CipCommonPacketFormatData} {data : List CipOctet} {dataLength : Int16} {executed : Executed config}
    (done : stack.notifyMessageRouter circumstances items data dataLength = .ok executed) :
    Advances stack executed.stack := by
  have answers {isLfo : Bool} {asked : Request}
      (done : (stack.forwardOpenRoutine isLfo asked).map (unconnected items) = .ok executed) :
      Advances stack executed.stack := by
    obtain ⟨answered, outcome, rfl⟩ := map_eq_ok.mp done
    exact .answered isLfo asked answered.1 outcome
  unfold notifyMessageRouter at done
  split at done
  · cases done
    exact .evolved (fun _ => False) .refl
  · rename_i request _
    unfold executeService at done
    dsimp only at done
    split at done
    · exact answers done
    · exact answers done
    · obtain ⟨answered, outcome, rfl⟩ := map_eq_ok.mp done
      exact .evolved (fun _ => False) ((forwardClose_proceeds coherent _).returns outcome)
    · obtain ⟨answered, outcome, rfl⟩ := map_eq_ok.mp done
      exact .evolved (fun _ => False) ((cipResetService_evolves coherent request).returns outcome)
    · cases done
      exact .evolved (fun _ => False) (.single (.aside (.of_same rfl rfl rfl rfl rfl)))

/-- What one event does to an open explicit connection: it delivers no request on it, or one that is answered
from what the object remembers. The event may end the connection. -/
inductive Delivers (slot : Slot config) (before after : Stack config) :
    Option (Delivery UInt16 (List CipOctet)) → Prop
  | nothing (kept : slot ∈ after.connectionList.toList → SameRequests (before.object slot) (after.object slot)) :
      Delivers slot before after none
  | request {delivery : Delivery UInt16 (List CipOctet)} {next : RequestMemory UInt16 (List CipOctet)}
      (answers : Answers (requestMemory (before.object slot)) delivery next)
      (kept : slot ∈ after.connectionList.toList →
        SameConnection (before.object slot) (after.object slot) ∧ requestMemory (after.object slot) = next) :
      Delivers slot before after (some delivery)

theorem Delivers.same {delivery : Option (Delivery UInt16 (List CipOctet))} (delivers : Delivers slot before after delivery)
    (listed : slot ∈ after.connectionList.toList) : SameConnection (before.object slot) (after.object slot) := by
  cases delivers with
  | nothing kept => exact (kept listed).1
  | request answers kept => exact (kept listed).1

theorem received_object (stack : Stack config) (items : CipCommonPacketFormatData) (slot : Slot config) :
    (stack.received items slot).object =
      Function.update stack.object slot (noteReception (items.sequenced.map Prod.fst) (stack.object slot)) := rfl

theorem sameConnection_noteReception (sequenceCount : Option UInt16) (object : CipConnectionObject) :
    SameConnection object (noteReception sequenceCount object) := by
  unfold noteReception
  split
  · rfl
  · split <;> rfl

theorem sameRequests_noteReception {sequenceCount : Option UInt16} {object : CipConnectionObject}
    (old : ∀ number ∈ sequenceCount, object.sequenceCountConsuming = number) :
    SameRequests object (noteReception sequenceCount object) := by
  refine ⟨sameConnection_noteReception sequenceCount object, ?_⟩
  unfold noteReception
  split
  · rfl
  · rename_i number
    rw [if_pos (old number rfl)]
    rfl

theorem Handling.delivers {handled : Handled config} (reached : Reached stack)
    (explicit : slot.instanceType = .explicitMessaging) (notClass1 : (stack.object slot).getTransportClass ≠ .class1)
    (listed : slot ∈ stack.connectionList.toList) (handling : Handling packet stack handled after) :
    Delivers slot stack after (handled.deliveryOn slot) := by
  -- a packet for another connection does not touch this one when it is received
  have elsewhere (items : CipCommonPacketFormatData) {other : Slot config} (differs : slot ≠ other) :
      (stack.received items other).object slot = stack.object slot := by
    rw [received_object, Function.update_of_ne differs]
  have own (items : CipCommonPacketFormatData) : (stack.received items slot).object slot =
      noteReception (items.sequenced.map Prod.fst) (stack.object slot) := by
    rw [received_object, Function.update_self]
  cases handling with
  | dropped unaddressed => exact .nothing fun _ => .of_eq rfl
  | @noData items other addressed absent =>
      refine .nothing fun _ => ?_
      by_cases same : slot = other
      · subst same
        rw [own, absent]
        exact sameRequests_noteReception (by simp)
      · exact .of_eq (elsewhere items same)
  | @repeated items other request addressed sequenced =>
      by_cases same : other = slot
      · subst same
        have kept : SameRequests (stack.object other) ((stack.received items other).object other) := by
          rw [own, sequenced]
          exact sameRequests_noteReception (by simp)
        rw [Handled.deliveryOn, if_pos rfl]
        refine .request (.repeated (requestMemory (stack.object other))) fun _ => ⟨kept.1, ?_⟩
        exact requestMemory_eq_of_newestRequest kept.2
      · rw [Handled.deliveryOn, if_neg same]
        exact .nothing fun _ => .of_eq (elsewhere items (Ne.symm same))
  | @executed items other sequenceCount request executed addressed sequenced fresh done =>
      have intact := (received_reached reached addressed).intact
      have keeps := (notifyMessageRouter_advances intact.coherent done).keepsRequests intact
      by_cases same : other = slot
      · subst same
        have counted : (stack.received items other).object other = countRequest sequenceCount (stack.object other) := by
          rw [own, sequenced]
          exact if_neg fresh
        rw [Handled.deliveryOn, if_pos rfl]
        -- the service may close the connection; if it does not, it keeps what is remembered of requests
        refine .request (.executed fresh (replyOnConnection other executed).1) fun still => ?_
        have replied : (replyOnConnection other executed).2.object other =
            storeReply (replyOnConnection other executed).1 (executed.stack.object other) := Function.update_self _ _ _
        obtain ⟨connection, requests⟩ := keeps other explicit (by rw [counted]; exact notClass1) listed still
        rw [counted] at connection requests
        have number : (executed.stack.object other).sequenceCountConsuming = sequenceCount :=
          congrArg Prod.fst requests
        rw [replied]
        refine ⟨Eq.trans connection rfl, ?_⟩
        rw [requestMemory, ← number]
        rfl
      · have differs : slot ≠ other := Ne.symm same
        rw [Handled.deliveryOn, if_neg same]
        refine .nothing fun still => ?_
        have replied : (replyOnConnection other executed).2.object slot = executed.stack.object slot :=
          Function.update_of_ne differs _ _
        have kept := keeps slot explicit (by rw [elsewhere items differs]; exact notClass1) listed still
        rw [elsewhere items differs] at kept
        rw [replied]
        exact kept

theorem perform_delivers (reached : Reached stack) (explicit : slot.instanceType = .explicitMessaging)
    (notClass1 : (stack.object slot).getTransportClass ≠ .class1) (listed : slot ∈ stack.connectionList.toList)
    {event : Event} {handled : Handled config} (done : stack.perform event = .ok (handled, after)) :
    Delivers slot stack after (handled.deliveryOn slot) := by
  cases event with
  | operation operation other =>
      obtain ⟨next, outcome, same⟩ := map_eq_ok.mp done
      cases same
      have keeps := (step_advances reached.intact other outcome).keepsRequests reached.intact
      exact .nothing fun still => keeps slot explicit notClass1 listed still
  | packet packet =>
      exact (handleReceivedSendUnitDataCommand_handling done).delivers reached explicit notClass1 listed

end Requests

section Conversations

structure Exchange (config : Configuration) where
  before : Stack config
  event : Event
  handled : Handled config

/-- What happens while the connection in the slot is listed; the last event may end it. -/
inductive Conversation (slot : Slot config) : Stack config → List (Exchange config) → Prop
  | ended (stack : Stack config) : Conversation slot stack []
  | goesOn {stack after : Stack config} {event : Event} {handled : Handled config} {later : List (Exchange config)}
      (listed : slot ∈ stack.connectionList.toList) (done : stack.perform event = .ok (handled, after))
      (rest : Conversation slot after later) : Conversation slot stack (⟨stack, event, handled⟩ :: later)

def deliveriesOn (slot : Slot config) (exchanges : List (Exchange config)) :
    List (Delivery UInt16 (List CipOctet)) :=
  exchanges.filterMap fun exchange => exchange.handled.deliveryOn slot

structure Class3Opened (slot : Slot config) (opened : Stack config) : Prop where
  opening : ∃ before event handled, Reached before ∧ slot ∉ before.connectionList.toList ∧
    before.perform event = .ok (handled, opened)
  listed : slot ∈ opened.connectionList.toList
  class3 : (opened.object slot).getTransportClass = .class3

theorem Class3Opened.reached (opening : Class3Opened slot opened) : Reached opened := by
  obtain ⟨before, event, handled, reached, _, done⟩ := opening.opening
  exact perform_reached reached done

theorem Class3Opened.explicit (opening : Class3Opened slot opened) : slot.instanceType = .explicitMessaging := by
  have holds := opening.reached.intact.coherent.opened slot opening.listed
  rw [← holds.instanceType]
  exact (holds.of_class3 opening.class3).instanceType

theorem Class3Opened.requestMemory (opening : Class3Opened slot opened) :
    requestMemory (opened.object slot) = ⟨0, none⟩ := by
  have explicit := opening.explicit
  have listed := opening.listed
  obtain ⟨before, event, handled, reached, absent, done⟩ := opening.opening
  have new : newestRequest (opened.object slot) = (0, none) := by
    cases event with
    | operation operation other =>
        obtain ⟨next, outcome, same⟩ := map_eq_ok.mp done
        cases same
        exact (step_advances reached.intact other outcome).newestRequest reached.intact explicit absent listed
    | packet packet =>
        cases handleReceivedSendUnitDataCommand_handling done with
        | dropped unaddressed => exact absurd listed absent
        | noData addressed missing => exact absurd listed absent
        | repeated addressed sequenced => exact absurd listed absent
        | @executed items other _ _ executed addressed sequenced fresh routed =>
            have intact := (received_reached reached addressed).intact
            have inList := (getConnectedObject_established (addressed_eq_some addressed).2).1
            have differs : slot ≠ other := fun same => absent (same ▸ inList)
            have kept : (replyOnConnection other executed).2.object slot = executed.stack.object slot :=
              Function.update_of_ne differs _ _
            rw [kept]
            exact (notifyMessageRouter_advances intact.coherent routed).newestRequest intact explicit absent listed
  rw [newestRequest, Prod.mk.injEq] at new
  rw [EtherNetIP.requestMemory, new.1, new.2]

/-- The run lemma: the connection object answers like a server with its memory. -/
theorem Conversation.answers {exchanges : List (Exchange config)} (conversation : Conversation slot stack exchanges)
    (reached : Reached stack) (explicit : slot.instanceType = .explicitMessaging)
    (notClass1 : (stack.object slot).getTransportClass ≠ .class1) :
    AnswersFrom (requestMemory (stack.object slot)) (deliveriesOn slot exchanges) := by
  induction conversation with
  | ended stack => exact .nil _
  | @goesOn stack after event handled later listed done rest ih =>
      have nextReached := perform_reached reached done
      have delivers := perform_delivers reached explicit notClass1 listed done
      -- once the connection is gone nothing is delivered any more
      have goes (next : RequestMemory UInt16 (List CipOctet))
          (kept : slot ∈ after.connectionList.toList →
            SameConnection (stack.object slot) (after.object slot) ∧ requestMemory (after.object slot) = next) :
          AnswersFrom next (deliveriesOn slot later) := by
        cases rest with
        | ended => exact .nil next
        | goesOn stillListed stillDone rest =>
            obtain ⟨same, remembered⟩ := kept stillListed
            rw [← remembered]
            exact ih nextReached (same.eq getTransportClass (fun _ => rfl) ▸ notClass1)
      unfold deliveriesOn
      rw [List.filterMap_cons]
      dsimp only
      cases found : handled.deliveryOn slot with
      | none =>
          rw [found] at delivers
          cases delivers with
          | nothing kept =>
              refine goes _ fun still => ⟨(kept still).1, ?_⟩
              exact requestMemory_eq_of_newestRequest (kept still).2
      | some delivery =>
          rw [found] at delivers
          cases delivers with
          | request answers kept => exact .cons answers (goes _ kept)

/-- Over any conversation on a class 3 connection every request is executed exactly once and repetitions are
answered with the stored reply if and only if the first request does not have the sequence count zero. -/
theorem requests_executed_exactly_once_iff {exchanges : List (Exchange config)} (opening : Class3Opened slot opened)
    (conversation : Conversation slot opened exchanges) :
    ExactlyOnce none none (deliveriesOn slot exchanges) ↔
      ∀ first ∈ (deliveriesOn slot exchanges).head?, first.number ≠ 0 := by
  have answers := conversation.answers opening.reached opening.explicit (by simp [opening.class3])
  rw [opening.requestMemory] at answers
  exact answers.exactlyOnce_iff

def deliver (slot : Slot config) : Stack config → List Event → Option (List (Delivery UInt16 (List CipOctet)))
  | _, [] => some []
  | stack, event :: later =>
      if slot ∈ stack.connectionList.toList then
        match stack.perform event with
        | .ok (handled, after) => (deliver slot after later).map ((handled.deliveryOn slot).toList ++ ·)
        | .error _ => none
      else none

theorem exists_of_deliver {events : List Event} {deliveries : List (Delivery UInt16 (List CipOctet))}
    (delivered : deliver slot stack events = some deliveries) :
    ∃ exchanges, Conversation slot stack exchanges ∧ deliveriesOn slot exchanges = deliveries := by
  induction events generalizing stack deliveries with
  | nil =>
      cases delivered
      exact ⟨[], .ended stack, rfl⟩
  | cons event later ih =>
      unfold deliver at delivered
      split at delivered
      · rename_i listed
        split at delivered
        · rename_i handled after done
          obtain ⟨rest, deliveredLater, rfl⟩ := Option.map_eq_some_iff.mp delivered
          obtain ⟨exchanges, conversation, same⟩ := ih deliveredLater
          refine ⟨_, .goesOn listed done conversation, ?_⟩
          rw [deliveriesOn, List.filterMap_cons, ← same]
          dsimp only
          cases handled.deliveryOn slot <;> rfl
        · cases delivered
      · cases delivered

def deliverFromOpening (slot : Slot config) (operations : List Operation) (opening : Event) (events : List Event) :
    Option (List (Delivery UInt16 (List CipOctet))) :=
  match operations.foldlM step (SampleApplication.start config) with
  | .error _ => none
  | .ok before =>
      match before.perform opening with
      | .error _ => none
      | .ok (_, opened) =>
          if slot ∉ before.connectionList.toList ∧ slot ∈ opened.connectionList.toList ∧
              (opened.object slot).getTransportClass = .class3 then deliver slot opened events
          else none

theorem exists_of_deliverFromOpening {operations : List Operation} {opening : Event} {events : List Event}
    {deliveries : List (Delivery UInt16 (List CipOctet))}
    (delivered : deliverFromOpening slot operations opening events = some deliveries) :
    ∃ opened exchanges, Class3Opened slot opened ∧ Conversation slot opened exchanges ∧
      deliveriesOn slot exchanges = deliveries := by
  unfold deliverFromOpening at delivered
  split at delivered
  · cases delivered
  · rename_i before run
    split at delivered
    · cases delivered
    · rename_i handled opened done
      split at delivered
      · rename_i fresh
        obtain ⟨exchanges, conversation, same⟩ := exists_of_deliver delivered
        refine ⟨opened, exchanges, ⟨⟨before, opening, handled, ?_, fresh.1, done⟩, fresh.2.1, fresh.2.2⟩,
          conversation, same⟩
        exact ⟨_, _, operations, run⟩
      · cases delivered

end Conversations

section Samples

open SampleApplication

def firstExplicit : Slot configuration := .explicit ⟨0, by decide⟩

def openedOverSession (events : List Event) : Option (List (Delivery UInt16 (List CipOctet))) :=
  deliverFromOpening firstExplicit [.acceptTcpSocket 5, .registerSession 5 1 0]
    (.operation (.forwardOpen (openExplicit 1)) id) events

def requestVendor (sequenceCount : UInt16) : Event := .packet (sendUnitData 1 0x12340013 sequenceCount getVendor)

/-- Requests that start with the sequence count one, with a repetition between them. -/
theorem requests_from_one_executed_once :
    ∃ (opened : Stack configuration) (exchanges : List (Exchange configuration)),
      Class3Opened firstExplicit opened ∧ Conversation firstExplicit opened exchanges ∧
        (deliveriesOn firstExplicit exchanges).map (fun delivery => (delivery.number, delivery.executed)) =
          [(1, true), (1, false), (2, true)] ∧
        ExactlyOnce none none (deliveriesOn firstExplicit exchanges) := by
  let deliveries := openedOverSession [requestVendor 1, requestVendor 1, requestVendor 2]
  have run : deliveries.map (·.map fun delivery => (delivery.number, delivery.executed)) =
      some [(1, true), (1, false), (2, true)] := by decide +kernel
  obtain ⟨delivered, same, numbers⟩ := Option.map_eq_some_iff.mp run
  obtain ⟨opened, exchanges, opening, conversation, rfl⟩ := exists_of_deliverFromOpening same
  refine ⟨opened, exchanges, opening, conversation, numbers, ?_⟩
  apply (requests_executed_exactly_once_iff opening conversation).mpr
  intro first member
  have head := congrArg List.head? numbers
  rw [List.head?_map, Option.mem_def.mp member] at head
  have number : first.number = 1 := congrArg Prod.fst (Option.some.inj head)
  rw [number]
  decide

/-- The first request on a connection has the sequence count zero: it is not executed, and there is no reply. -/
theorem first_request_with_count_zero_lost :
    ∃ (opened : Stack configuration) (exchanges : List (Exchange configuration)),
      Class3Opened firstExplicit opened ∧ Conversation firstExplicit opened exchanges ∧
        deliveriesOn firstExplicit exchanges = [⟨0, false, none⟩] ∧
        ¬ ExactlyOnce none none (deliveriesOn firstExplicit exchanges) := by
  have run : openedOverSession [requestVendor 0] = some [⟨0, false, none⟩] := by decide +kernel
  obtain ⟨opened, exchanges, opening, conversation, same⟩ := exists_of_deliverFromOpening run
  refine ⟨opened, exchanges, opening, conversation, same, ?_⟩
  rw [same]
  simp [ExactlyOnce]

end Samples

end Stack

end EtherNetIP
