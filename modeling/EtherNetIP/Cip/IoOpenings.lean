import EtherNetIP.Cip.ConnectionIds
import EtherNetIP.Cip.Openings

/-! Accepted I/O requests as changes of the connection table.

Room has been made for the connection, and its object is fresh: it has the
parameters of the request, no producing socket and has counted nothing. Then
its channel for producing is opened, and it stands at the head of the list.
-/

set_option autoImplicit false

namespace EtherNetIP

open Library CipConnectionObject

variable {config : Configuration}

namespace Stack

variable {stack asked room before after : Stack config} {slot : Slot config} {network : Network}

/-- The object of a new connection before its channel for producing is opened. -/
structure Fresh (network : Network) (asked : Stack config) (slot : Slot config) (object : CipConnectionObject) : Prop where
  instanceType : object.instanceType = slot.instanceType
  connectionType : object.getTToOConnectionType = asked.dummy.getTToOConnectionType
  input : object.producedPath.instanceId = asked.dummy.producedPath.instanceId
  transportClass : object.getTransportClass = asked.dummy.getTransportClass
  closeFunction : object.connectionCloseFunction = some .closeIoConnection
  producedId : object.cipProducedConnectionId = asked.producedIdFor asked.dummy
  counted : object.eipLevelSequenceCountProducing = 0
  unread : newestNumber object = none
  uncounted : object.sequenceCountConsuming = 0
  sizes : SizesAgree config object
  silent : object.producingSocket = kEipInvalidSocket
  consuming : object.consumingSocket = kEipInvalidSocket ∨ object.consumingSocket = network.udpSocket.handle

theorem readied_eq {α : Type} (processed : CipConnectionObject) (read : CipConnectionObject → α)
    (consumer : ∀ object, read (setConsumer object) = read object)
    (producer : ∀ object, read (setProducer object) = read object) :
    read (room.readied processed) = read (room.identified processed) := by
  have consumes : read (withConsumer (room.identified processed)) = read (room.identified processed) := by
    unfold withConsumer
    split
    · exact consumer _
    · rfl
  rw [← consumes]
  unfold readied withProducer
  split
  · exact producer _
  · rfl

/-- An accepted I/O request: the connection stands in front of those left once room was made. -/
structure IoOpened (network : Network) (asked room : Stack config) (slot : Slot config) (object : CipConnectionObject)
    (after : Stack config) : Prop where
  made : RoomMade asked slot room
  absent : slot ∉ room.connectionList.toList
  io : slot.instanceType ≠ .explicitMessaging
  fresh : Fresh network asked slot object
  compatible : room.findProducerMismatch object = none
  list : after.connectionList.toList = slot :: room.connectionList.toList
  produced : ∃ opened,
    ProducingOpened network { room.setObject slot object with udpIoMessaging := network.udpSocket.handle } slot opened ∧
    after.object = Function.update opened.object slot ((opened.object slot).setState .established)
  traffic : after.traffic = network.udpSocket.traffic ++ room.traffic
  udpIoMessaging : after.udpIoMessaging = network.udpSocket.handle
  sessions : after.registeredSessions = room.registeredSessions

theorem ProducingOpened.congr {other opened : Stack config} (produced : ProducingOpened network before slot opened)
    (object : other.object = before.object) (list : other.connectionList = before.connectionList)
    (socket : other.udpIoMessaging = before.udpIoMessaging) : ProducingOpened network other slot opened := by
  have search (inputPoint : UInt32) :
      other.getExistingProducerIoConnection true inputPoint = before.getExistingProducerIoConnection true inputPoint := by
    simp only [getExistingProducerIoConnection, findConnection, object, list]
  cases produced with
  | silent notMulticast notPointToPoint same =>
      rw [← object] at notMulticast notPointToPoint same
      exact .silent notMulticast notPointToPoint same
  | pointToPoint port type same =>
      rw [← object] at type same
      rw [← socket] at same
      exact .pointToPoint port type same
  | started type nobody same =>
      rw [← search] at nobody
      rw [← object] at type nobody same
      rw [← socket] at same
      exact .started type nobody same
  | joined existing port type found guest same =>
      rw [← search] at found
      rw [← object] at type found guest same
      exact .joined existing port type found guest same
  | takenOver existing port type found owner same =>
      rw [← search] at found
      rw [← object] at type found owner same
      exact .takenOver existing port type found owner same

theorem ProducingOpened.read_eq {α : Type} {opened : Stack config} (produced : ProducingOpened network before slot opened)
    (read : CipConnectionObject → α)
    (silent : ∀ producedId socket address object,
      read (withProducing producedId socket address object) = read object) :
    read (opened.object slot) = read (before.object slot) := by
  cases produced with
  | silent notMulticast notPointToPoint same => rw [same]
  | pointToPoint port type same => rw [same, Function.update_self, silent]
  | started type nobody same => rw [same, Function.update_self, silent]
  | joined existing port type found guest same => rw [same, Function.update_self, silent]
  | takenOver existing port type found owner same => rw [same, Function.update_self, silent]

theorem IoOpened.read_eq {α : Type} {object : CipConnectionObject} (opened : IoOpened network asked room slot object after)
    (read : CipConnectionObject → α)
    (silent : ∀ producedId socket address object, read (withProducing producedId socket address object) = read object)
    (state : ∀ object, read (object.setState .established) = read object) : read (after.object slot) = read object := by
  obtain ⟨channels, produced, objects⟩ := opened.produced
  have fresh : Function.update room.object slot object slot = object := Function.update_self ..
  rw [objects, Function.update_self, state, produced.read_eq read silent]
  exact congrArg read fresh

/-- How the channel of an accepted request for producing was opened, with what is written for it. -/
inductive Channel (network : Network) (room : Stack config) (slot : Slot config) (object : CipConnectionObject)
    (after : Stack config) : Prop
  | silent (notMulticast : object.getTToOConnectionType ≠ .multicast)
      (notPointToPoint : object.getTToOConnectionType ≠ .pointToPoint)
      (own : after.object slot = object.setState .established)
      (others : ∀ other, other ≠ slot → after.object other = room.object other)
  | pointToPoint (port : UInt16) (type : object.getTToOConnectionType = .pointToPoint)
      (own : after.object slot = (withProducing object.cipProducedConnectionId network.udpSocket.handle
        ⟨AF_INET, port, network.peerAddress⟩ object).setState .established)
      (others : ∀ other, other ≠ slot → after.object other = room.object other)
  | started (type : object.getTToOConnectionType = .multicast)
      (nobody : room.getExistingProducerIoConnection true object.producedPath.instanceId.toUInt32 = none)
      (own : after.object slot = (withProducing object.cipProducedConnectionId network.udpSocket.handle
        ⟨AF_INET, kOpenerEipIoUdpPort, config.startingMulticastAddress⟩ object).setState .established)
      (others : ∀ other, other ≠ slot → after.object other = room.object other)
  | joined (existing : Slot config) (port : UInt16) (type : object.getTToOConnectionType = .multicast)
      (found : room.getExistingProducerIoConnection true object.producedPath.instanceId.toUInt32 = some existing)
      (guest : object.instanceType ≠ .ioExclusiveOwner)
      (own : after.object slot = (withProducing (room.object existing).cipProducedConnectionId kEipInvalidSocket
        ⟨AF_INET, port, config.startingMulticastAddress⟩ object).setState .established)
      (others : ∀ other, other ≠ slot → after.object other = room.object other)
  | takenOver (existing : Slot config) (port : UInt16) (type : object.getTToOConnectionType = .multicast)
      (found : room.getExistingProducerIoConnection true object.producedPath.instanceId.toUInt32 = some existing)
      (owner : object.instanceType = .ioExclusiveOwner) (differs : existing ≠ slot)
      (own : after.object slot = (withProducing (room.object existing).cipProducedConnectionId
        (room.object existing).producingSocket ⟨AF_INET, port, config.startingMulticastAddress⟩ object).setState
          .established)
      (released : after.object existing = releaseProducingSocket (room.object existing))
      (others : ∀ other, other ≠ slot → other ≠ existing → after.object other = room.object other)

theorem IoOpened.channel {object : CipConnectionObject} (opened : IoOpened network asked room slot object after) :
    Channel network room slot object after := by
  obtain ⟨middle, produced, objects⟩ := opened.produced
  let base : Stack config := { room.setObject slot object with udpIoMessaging := network.udpSocket.handle }
  have own : base.object slot = object := Function.update_self ..
  have elsewhere (other : Slot config) (differs : other ≠ slot) : base.object other = room.object other :=
    Function.update_of_ne differs ..
  have search (inputPoint : UInt32) :
      base.getExistingProducerIoConnection true inputPoint = room.getExistingProducerIoConnection true inputPoint :=
    findConnection_congr rfl fun other listed => elsewhere other fun same => opened.absent (same ▸ listed)
  have late (other : Slot config) (differs : other ≠ slot) : after.object other = middle.object other := by
    rw [objects, Function.update_of_ne differs]
  have newest : after.object slot = (middle.object slot).setState .established := by
    rw [objects, Function.update_self]
  cases produced with
  | silent notMulticast notPointToPoint same =>
      rw [own] at notMulticast notPointToPoint
      refine .silent notMulticast notPointToPoint ?_ fun other differs => ?_
      · rw [newest, same, own]
      · rw [late other differs, same, elsewhere other differs]
  | pointToPoint port type same =>
      rw [own] at type same
      refine .pointToPoint port type ?_ fun other differs => ?_
      · rw [newest, same, Function.update_self]
      · rw [late other differs, same, Function.update_of_ne differs, elsewhere other differs]
  | started type nobody same =>
      rw [own] at type nobody same
      rw [search] at nobody
      refine .started type nobody ?_ fun other differs => ?_
      · rw [newest, same, Function.update_self]
      · rw [late other differs, same, Function.update_of_ne differs, elsewhere other differs]
  | joined existing port type found guest same =>
      rw [own] at type found guest same
      rw [search] at found
      have differs : existing ≠ slot := fun same => opened.absent (same ▸ (findConnection_mem found).1)
      rw [elsewhere existing differs] at same
      refine .joined existing port type found guest ?_ fun other differs => ?_
      · rw [newest, same, Function.update_self]
      · rw [late other differs, same, Function.update_of_ne differs, elsewhere other differs]
  | takenOver existing port type found owner same =>
      rw [own] at type found owner same
      rw [search] at found
      have differs : existing ≠ slot := fun same => opened.absent (same ▸ (findConnection_mem found).1)
      rw [elsewhere existing differs] at same
      refine .takenOver existing port type found owner differs ?_ ?_ fun other notNew notExisting => ?_
      · rw [newest, same, Function.update_self]
      · rw [late existing differs, same, Function.update_of_ne differs, Function.update_self]
      · rw [late other notNew, same, Function.update_of_ne notNew, Function.update_of_ne notExisting,
          elsewhere other notNew]

theorem IoOpening.Ends.read_eq {α : Type} {opening : IoOpening config} (ends : opening.Ends asked network after)
    (read : CipConnectionObject → α) (consumer : ∀ object, read (setConsumer object) = read object)
    (producer : ∀ object, read (setProducer object) = read object)
    (listens : ∀ socket address object, read (setConsumingSocket socket address object) = read object)
    (channel : ∀ producedId socket address object, read (withProducing producedId socket address object) = read object)
    (state : ∀ object, read (object.setState .established) = read object) :
    read (after.object opening.choice.slot) = read (opening.room.identified opening.processed) := by
  obtain ⟨⟨consumingSocket, originatorAddress, items, which, produced⟩, _⟩ :=
    openCommunicationChannels_ok (show opening.choice.slot ∉ (opening.readied asked).connectionList.toList from
      ends.absent) ends.channels
  have own : (opening.readied asked).object opening.choice.slot = opening.room.readied opening.processed :=
    Function.update_self ..
  rw [ends.object, Function.update_self, state, produced.read_eq read channel]
  dsimp only [setObject_objects]
  rw [Function.update_self, own, listens]
  exact readied_eq opening.processed read consumer producer

theorem IoOpening.Ends.unanswered {opening : IoOpening config} (ends : opening.Ends asked network after)
    (pristine : Pristine asked.dummy) : (after.object opening.choice.slot).lastReplySent = none := by
  obtain ⟨inhibitTime, processed⟩ := ends.processed_eq
  have buffered : asked.dummy.lastReplySent = none := by
    rw [← pristine]
    rfl
  have identified := ends.read_eq (·.lastReplySent) (fun _ => rfl) (fun _ => rfl) (fun _ _ _ => rfl) (fun _ _ _ _ => rfl)
    fun _ => rfl
  rw [processed] at identified
  exact identified.trans buffered

theorem IoOpening.Ends.unheard {opening : IoOpening config} (ends : opening.Ends asked network after)
    (pristine : Pristine asked.dummy) : (after.object opening.choice.slot).lastPackageWatchdogTimer = 0 := by
  obtain ⟨inhibitTime, processed⟩ := ends.processed_eq
  have buffered : asked.dummy.lastPackageWatchdogTimer = 0 := by
    rw [← pristine]
    rfl
  have identified := ends.read_eq (·.lastPackageWatchdogTimer) (fun _ => rfl) (fun _ => rfl) (fun _ _ _ => rfl)
    (fun _ _ _ _ => rfl) fun _ => rfl
  rw [processed] at identified
  exact identified.trans buffered

theorem IoOpening.Ends.opened {opening : IoOpening config} (ends : opening.Ends asked network after) (coherent : Coherent asked)
    (pristine : Pristine asked.dummy) :
    ∃ fresh, IoOpened network asked opening.room opening.choice.slot fresh after := by
  obtain ⟨inhibitTime, processed⟩ := ends.processed_eq
  have type := chooseIoConnection_instanceType ends.chosen
  have counter : opening.room.connectionId = asked.connectionId := by
    rw [makeRoom_globals coherent ends.made]
  obtain ⟨⟨consumingSocket, originatorAddress, items, which, produced⟩, rest⟩ :=
    openCommunicationChannels_ok (show opening.choice.slot ∉ (opening.readied asked).connectionList.toList from
      ends.absent) ends.channels
  have own : (opening.readied asked).object opening.choice.slot = opening.room.readied opening.processed :=
    Function.update_self ..
  rw [own] at which produced
  let fresh := setConsumingSocket consumingSocket originatorAddress (opening.room.readied opening.processed)
  have read {α : Type} (read : CipConnectionObject → α) (consumer : ∀ object, read (setConsumer object) = read object)
      (producer : ∀ object, read (setProducer object) = read object)
      (listens : ∀ object, read (setConsumingSocket consumingSocket originatorAddress object) = read object) :
      read fresh = read (opening.room.identified opening.processed) :=
    (listens _).trans (readied_eq opening.processed read consumer producer)
  -- no step of the preparation writes what is read of the object here
  have isFresh : Fresh network asked opening.choice.slot fresh := by
    refine ⟨?_, ?_, ?_, ?_, ?_, ?_, ?_, ?_, ?_, ?_, ?_, ?_⟩
    · rw [read (·.instanceType) (fun _ => rfl) (fun _ => rfl) fun _ => rfl, type, processed]
      rfl
    · rw [read getTToOConnectionType (fun _ => rfl) (fun _ => rfl) fun _ => rfl, processed]
      rfl
    · rw [read (·.producedPath.instanceId) (fun _ => rfl) (fun _ => rfl) fun _ => rfl, processed]
      rfl
    · rw [read getTransportClass (fun _ => rfl) (fun _ => rfl) fun _ => rfl, processed]
      rfl
    · exact read (·.connectionCloseFunction) (fun _ => rfl) (fun _ => rfl) fun _ => rfl
    · have produced : fresh.cipProducedConnectionId = opening.room.producedIdFor opening.processed :=
        read (·.cipProducedConnectionId) (fun _ => rfl) (fun _ => rfl) fun _ => rfl
      rw [produced, processed, producedIdFor, producedIdFor, countedForConsumption, countedForConsumption, counter]
      rfl
    · exact read (·.eipLevelSequenceCountProducing) (fun _ => rfl) (fun _ => rfl) fun _ => rfl
    · exact read newestNumber (fun _ => rfl) (fun _ => rfl) fun _ => rfl
    · exact read (·.sequenceCountConsuming) (fun _ => rfl) (fun _ => rfl) fun _ => rfl
    · exact ends.sizes.congr (read sizeParameters (fun _ => rfl) (fun _ => rfl) fun _ => rfl).symm
    · exact read (·.producingSocket) (fun _ => rfl) (fun _ => rfl) fun _ => rfl
    · have silent : (opening.room.readied opening.processed).consumingSocket = kEipInvalidSocket :=
        readied_eq opening.processed (·.consumingSocket) (fun _ => rfl) fun _ => rfl
      rw [silent] at which
      exact which
  refine ⟨fresh, makeRoom_made coherent ends.chosen ends.made, ends.absent, ?_, isFresh, ?_, ends.list pristine,
    ⟨opening.opened, ?_, ends.object⟩, ?_, ?_, ?_⟩
  · exact chooseIoConnection_io ends.chosen
  · have settled : Settled { opening.processed with
        cipConsumedConnectionId := opening.room.consumedIdFor opening.processed } fresh :=
      opening.room.readied_settled opening.processed
    rw [← findProducerMismatch_settled settled]
    exact ends.compatible
  · refine produced.congr ?_ rfl rfl
    exact (Function.update_idem ..).symm
  · rw [ends.after]
    change opening.opened.traffic = _
    rw [rest]
    exact socketCreated_traffic (opening.readied asked) network.udpSocket
  · rw [ends.after]
    change opening.opened.udpIoMessaging = _
    rw [rest]
    rfl
  · rw [ends.after]
    change opening.opened.registeredSessions = _
    rw [rest]
    rfl

section Operations

variable {operation : Operation} {condition : Network → Stack config → Slot config → Prop}

def IoOpensWith (condition : Network → Stack config → Slot config → Prop) (stack : Stack config)
    (operation : Operation) : Prop :=
  ∀ isLfo request asked slot, operation.openRequest = some (isLfo, request) → stack.admitted isLfo request = some asked →
    asked.selects request.network = some slot → slot.instanceType ≠ .explicitMessaging →
    condition request.network asked slot

def ioOpensWith (condition : Network → Stack config → Slot config → Prop)
    [∀ network asked slot, Decidable (condition network asked slot)] (stack : Stack config) (operation : Operation) :
    Bool :=
  match operation.openRequest with
  | none => true
  | some (isLfo, request) =>
      match stack.admitted isLfo request with
      | none => true
      | some asked =>
          match asked.selects request.network with
          | none => true
          | some slot => slot.instanceType == .explicitMessaging || decide (condition request.network asked slot)

theorem ioOpensWith_of_test [∀ network asked slot, Decidable (condition network asked slot)] (stack : Stack config)
    (operation : Operation) (passes : stack.ioOpensWith condition operation = true) :
    IoOpensWith condition stack operation := by
  intro isLfo request asked slot opens admission selected io
  unfold ioOpensWith at passes
  simp only [opens, admission, selected, Bool.or_eq_true, beq_iff_eq, decide_eq_true_eq] at passes
  exact passes.resolve_left io

/-- All that an operation can do: the table goes on, or a Forward Open is refused or accepted. -/
inductive Performed (stack : Stack config) (operation : Operation) (after : Stack config) : Prop
  | evolves (evolves : Evolves operation.names (fun note _ => operation.notes note) stack after)
  | read (requested : Requested stack after)
  | refused (asked : Stack config) (udpSocket : UdpSocket) (requested : Requested stack asked)
      (refused : Refused asked udpSocket after)
  | explicit (asked : Stack config) (slot : Slot config)
      (connectionList : ConnectionList config.kNodesAmount (Slot config)) (requested : Requested stack asked)
      (opened : ExplicitOpened asked after slot connectionList)
  | io (isLfo : Bool) (request : Request) (asked : Stack config) (slot : Slot config) (object : CipConnectionObject)
      (opens : operation.openRequest = some (isLfo, request)) (admission : stack.admitted isLfo request = some asked)
      (selected : asked.selects request.network = some slot) (requested : Requested stack asked)
      (opened : IoOpened request.network asked asked.roomFor slot object after)

theorem step_performed (intact : Intact stack) (done : stack.step operation = .ok after) :
    Performed stack operation after := by
  cases opens : operation.openRequest with
  | none => exact .evolves ((step_proceeds intact.coherent opens).returns done)
  | some asking =>
      obtain ⟨isLfo, request⟩ := asking
      rw [step_openRequest opens] at done
      cases answered : stack.forwardOpenRoutine isLfo request with
      | error fault =>
          rw [answered] at done
          cases done
      | ok result =>
          obtain ⟨response, reached⟩ := result
          rw [answered] at done
          cases done
          cases forwardOpenRoutine_ok intact answered with
          | refused failure leaves =>
              obtain ⟨asked, requested, refused⟩ := forwardOpenRoutine_refused intact answered failure
              exact .refused asked _ requested refused
          | accepted asked admission accepted head first reply =>
              have requested : Requested stack asked := by rw [Requested, (admitted_admits admission).same]
              obtain ⟨⟨same, _, pristine⟩, _⟩ := admitted_spec intact.pristine admission
              have coherent : Coherent asked := intact.coherent.of_same_table same.1 same.2
              cases accepted with
              | nothing entry kept => exact .read (kept ▸ requested)
              | explicit entry slot connectionList opened => exact .explicit asked slot connectionList requested opened
              | io entry opening ends =>
                  have room : asked.roomFor = opening.room := by simp only [roomFor, entry, ends.chosen, ends.made]
                  have selected : asked.selects request.network = some opening.choice.slot := by
                    simp [selects, entry, ends.reached]
                  obtain ⟨object, opened⟩ := ends.opened coherent pristine
                  exact .io isLfo request asked opening.choice.slot object opens admission selected requested
                    (room ▸ opened)

/-- The run rule: a property that the set-up has and every operation keeps whose opening meets the condition. -/
theorem holds_along (property : Stack config → Prop) (assemblyData : CipInstanceNum → List CipOctet) (timeout : UInt16)
    (initially : property (Stack.initialized config assemblyData timeout))
    (kept : ∀ before operation after, Intact before → property before → IoOpensWith condition before operation →
      Performed before operation after → property after) {operations : List Operation}
    (along : Along step (IoOpensWith condition) (Stack.initialized config assemblyData timeout) operations)
    (run : operations.foldlM step (Stack.initialized config assemblyData timeout) = .ok stack) :
    Intact stack ∧ property stack := by
  have start : Intact (Stack.initialized config assemblyData timeout) ∧
      property (Stack.initialized config assemblyData timeout) :=
    ⟨Intact.initialized assemblyData timeout, initially⟩
  have all : Settles (operations.foldlM step (Stack.initialized config assemblyData timeout))
      (fun reached => Intact reached ∧ property reached) (fun _ => True) := by
    refine Along.settles ?_ start along
    rintro before operation ⟨intact, holds⟩ meets
    apply (step_spec intact operation).attach.imp
    · rintro after ⟨done, stepped⟩
      exact ⟨stepped.intact intact, kept before operation after intact holds meets (step_performed intact done)⟩
    · exact fun _ _ => trivial
  exact all.returns run

end Operations

end Stack

end EtherNetIP
