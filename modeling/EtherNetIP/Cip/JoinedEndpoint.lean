import EtherNetIP.Cip.OpenedChannels
import EtherNetIP.Cip.ProducerStreams
import EtherNetIP.Library.StreamAddresses

/-! Where a connection that joins a stream is told to listen.

All multicast streams have the address of the device. The port of a connection
that joins one is not read off the master but off the address item that was
allocated, unless the request brought a T→O item.
-/

set_option autoImplicit false

namespace EtherNetIP

open Library CipConnectionObject

variable {config : Configuration}

/-- The port that is announced to a connection that joins a stream. -/
def AddressInfoItems.announcedPort (items : AddressInfoItems) : Option UInt16 :=
  (items.allocateSocketAddressInfoItem kCipItemIdSocketAddressInfoTargetToOriginator).map fun position =>
    if kCipItemIdSocketAddressInfoTargetToOriginator ≠ (items.get position).typeId then (items.get position).sinPort
    else kOpenerEipIoUdpPort

def Response.tToOItem (response : Response) : Option SocketAddressInfoItem :=
  response.addressInfoItems.find? fun item => item.typeId == kCipItemIdSocketAddressInfoTargetToOriginator

structure NamesMaster (response : Response) (joined master : CipConnectionObject) : Prop where
  address : joined.remoteAddress.sAddr = master.remoteAddress.sAddr
  port : joined.remoteAddress.sinPort = master.remoteAddress.sinPort
  item : ∃ item, response.tToOItem = some item ∧ item.sinAddr = master.remoteAddress.sAddr ∧
    item.sinPort = master.remoteAddress.sinPort

namespace Stack

section Joining

variable {stack after : Stack config} {slot existing : Slot config} {network : Network}

structure JoinsWith (stack : Stack config) (slot : Slot config) (port : UInt16) (after : Stack config) : Prop where
  remote : (after.object slot).remoteAddress = ⟨AF_INET, port, config.startingMulticastAddress⟩
  items : ∃ position,
    stack.addressInfoItems.allocateSocketAddressInfoItem kCipItemIdSocketAddressInfoTargetToOriginator =
      some position ∧
    after.addressInfoItems = stack.addressInfoItems.set
      ⟨kCipItemIdSocketAddressInfoTargetToOriginator, 16, AF_INET, port, config.startingMulticastAddress⟩ position

theorem set_set (items : AddressInfoItems) (first second : SocketAddressInfoItem)
    (position : AddressInfoItems.Position) : (items.set first position).set second position = items.set second position := by
  cases position <;> rfl

theorem openProducing_joins (multicast : (stack.object slot).getTToOConnectionType = .multicast)
    (found : stack.getExistingProducerIoConnection true (stack.object slot).producedPath.instanceId.toUInt32 =
      some existing)
    (done : stack.openProducing network slot = (true, after)) :
    ∃ port, stack.addressInfoItems.announcedPort = some port ∧ JoinsWith stack slot port after := by
  unfold openProducing at done
  rw [multicast] at done
  dsimp only at done
  unfold openProducingMulticastConnection at done
  dsimp only at done
  rw [found] at done
  unfold AddressInfoItems.announcedPort
  cases allocated : stack.addressInfoItems.allocateSocketAddressInfoItem
      kCipItemIdSocketAddressInfoTargetToOriginator with
  | none =>
      rw [allocated] at done
      cases done
  | some position =>
      rw [allocated] at done
      cases done
      refine ⟨_, rfl, ?_, position, allocated, ?_⟩
      · dsimp only
        rw [modifyObject, setObject_objects, Function.update_self]
        rfl
      · dsimp only
        have items (target : Stack config) (change : CipConnectionObject → CipConnectionObject) :
            (target.modifyObject slot change).addressInfoItems = target.addressInfoItems := rfl
        have shared (target : Stack config) : (target.shareProducingSocket slot existing).addressInfoItems =
            target.addressInfoItems := by
          unfold shareProducingSocket
          split <;> rfl
        rw [items, shared, items, set_set]

theorem find_toSend {items : AddressInfoItems} {position : AddressInfoItems.Position}
    (allocated : items.allocateSocketAddressInfoItem kCipItemIdSocketAddressInfoTargetToOriginator = some position)
    {item : SocketAddressInfoItem} (typeId : item.typeId = kCipItemIdSocketAddressInfoTargetToOriginator) :
    (items.set item position).toSend.find? (fun item => item.typeId == kCipItemIdSocketAddressInfoTargetToOriginator) =
      some item := by
  have used : item.typeId ≠ 0 := by
    rw [typeId]
    decide
  unfold AddressInfoItems.allocateSocketAddressInfoItem at allocated
  split at allocated
  · cases allocated
    unfold AddressInfoItems.toSend AddressInfoItems.set
    dsimp only
    rw [if_pos used]
    split
    · simp [typeId]
    · simp [typeId]
  · rename_i taken
    split at allocated
    · cases allocated
      unfold AddressInfoItems.toSend AddressInfoItems.set
      dsimp only
      push Not at taken
      rw [if_pos taken.1, if_pos used]
      simp [typeId, taken.2]
    · cases allocated

end Joining

section Addresses

variable {stack : Stack config}

theorem joins_sentTo {network : Network} {asked after : Stack config} {slot : Slot config} {object : CipConnectionObject}
    (opened : IoOpened network asked asked.roomFor slot object after)
    (shared : (after.object slot).member.shared = true) :
    (after.object slot).member.address = config.startingMulticastAddress := by
  have type : (after.object slot).getTToOConnectionType = .multicast := beq_iff_eq.mp shared
  have same : (after.object slot).getTToOConnectionType = object.getTToOConnectionType :=
    opened.read_eq getTToOConnectionType (fun _ _ _ _ => rfl) fun _ => rfl
  rw [same] at type
  change (after.object slot).remoteAddress.sAddr = _
  cases opened.channel with
  | silent notMulticast => exact absurd type notMulticast
  | pointToPoint port pointToPoint =>
      rw [pointToPoint] at type
      cases type
  | started _ _ own | joined _ _ _ _ _ own | takenOver _ _ _ _ _ _ own =>
      rw [own]
      rfl

theorem members_addressed (reached : Reached stack) :
    Members.Addressed config.startingMulticastAddress (fun _ => True) stack.members := by
  obtain ⟨assemblyData, timeout, operations, run⟩ := reached
  have along : Along step (IoOpensWith fun _ _ _ => True) (Stack.initialized config assemblyData timeout) operations := by
    rw [along_iff_forall]
    intro _ _ _ _ _ _ _ _ _ _ _ _ _
    trivial
  refine (members_along (Members.Addressed config.startingMulticastAddress fun _ => True) Members.Addressed.empty ?_ ?_
    along run).2
  · exact fun before after addressed moves => addressed.moves moves
  · intro network asked slot object after coherent addressed _ opened
    exact addressed.joins ⟨joins_sentTo opened, fun _ _ => trivial⟩ (opened.joins coherent)

end Addresses

section Openings

variable {stack asked after : Stack config} {slot master : Slot config} {network : Network} {opening : IoOpening config}

theorem IoOpening.Ends.joinsStream (ends : opening.Ends asked network after) (coherent : Coherent asked)
    (multicast : asked.dummy.getTToOConnectionType = .multicast)
    (found : opening.room.getExistingProducerIoConnection true asked.dummy.producedPath.instanceId.toUInt32 =
      some master) :
    ∃ port, (asked.addressInfoItems.behindConsuming asked.dummy.getOToTConnectionType).announcedPort = some port ∧
      (after.object opening.choice.slot).remoteAddress = ⟨AF_INET, port, config.startingMulticastAddress⟩ ∧
      after.addressInfoItems.toSend.find?
        (fun item => item.typeId == kCipItemIdSocketAddressInfoTargetToOriginator) =
          some ⟨kCipItemIdSocketAddressInfoTargetToOriginator, 16, AF_INET, port, config.startingMulticastAddress⟩ := by
  obtain ⟨inhibitTime, processed⟩ := ends.processed_eq
  obtain ⟨listener, listens, produced⟩ := openCommunicationChannels_stages ends.channels
  have own : (opening.readied asked).object opening.choice.slot = opening.room.readied opening.processed :=
    Function.update_self ..
  have read {α : Type} (read : CipConnectionObject → α) (consumer : ∀ object, read (setConsumer object) = read object)
      (producer : ∀ object, read (setProducer object) = read object) :
      read ((opening.readied asked).object opening.choice.slot) = read (opening.room.identified opening.processed) := by
    rw [own]
    exact readied_eq opening.processed read consumer producer
  have oToT : ((opening.readied asked).object opening.choice.slot).getOToTConnectionType =
      asked.dummy.getOToTConnectionType := by
    rw [read getOToTConnectionType (fun _ => rfl) fun _ => rfl, processed]
    rfl
  have tToO : (listener.object opening.choice.slot).getTToOConnectionType = .multicast := by
    rw [listens.tToO, ← multicast]
    refine (read getTToOConnectionType (fun _ => rfl) fun _ => rfl).trans ?_
    rw [processed]
    rfl
  have input : (listener.object opening.choice.slot).producedPath.instanceId =
      asked.dummy.producedPath.instanceId := by
    have kept : (listener.object opening.choice.slot).producedPath.instanceId =
        ((opening.readied asked).object opening.choice.slot).producedPath.instanceId := by
      rw [listens.object, Function.update_self]
      split <;> rfl
    rw [kept, read (·.producedPath.instanceId) (fun _ => rfl) fun _ => rfl, processed]
    rfl
  -- the consuming side opened first does not change who produces
  have searched : listener.getExistingProducerIoConnection true
      (listener.object opening.choice.slot).producedPath.instanceId.toUInt32 = some master := by
    rw [input, ← found]
    refine findConnection_congr listens.list fun other listed => ?_
    have differs : other ≠ opening.choice.slot := fun same => ends.absent (same ▸ listed)
    rw [listens.object, Function.update_of_ne differs]
    exact Function.update_of_ne differs ..
  obtain ⟨port, announced, remote, position, allocated, items⟩ := openProducing_joins tToO searched produced
  have offered : listener.addressInfoItems = asked.addressInfoItems.behindConsuming asked.dummy.getOToTConnectionType := by
    have globals := makeRoom_globals coherent ends.made
    have kept : (opening.readied asked).addressInfoItems = asked.addressInfoItems := by
      change opening.room.addressInfoItems = _
      rw [globals]
    rw [listens.items, itemsForProducing, ← oToT, ← kept]
    rfl
  refine ⟨port, offered ▸ announced, ?_, ?_⟩
  · rw [ends.object, Function.update_self, ← remote]
    rfl
  · have same : after.addressInfoItems = opening.opened.addressInfoItems := by
      rw [ends.after]
      rfl
    rw [same, items]
    exact find_toSend allocated rfl

/-- A Forward Open that joins the stream of a master is told the master's endpoint exactly if the port it is
announced is the port of the master. -/
theorem joins_at_master_iff (reached : Reached stack) {isLfo : Bool} {request : Request} {response : Response}
    (answered : stack.forwardOpenRoutine isLfo request = .ok (response, after))
    (success : response.generalStatus = kCipErrorSuccess) (admission : stack.admitted isLfo request = some asked)
    (selected : asked.selects request.network = some slot) (io : slot.instanceType ≠ .explicitMessaging)
    (multicast : asked.dummy.getTToOConnectionType = .multicast)
    (found : asked.roomFor.getExistingProducerIoConnection true asked.dummy.producedPath.instanceId.toUInt32 =
      some master) :
    NamesMaster response (after.object slot) (asked.roomFor.object master) ↔
      (request.addressInfoItems.behindConsuming asked.dummy.getOToTConnectionType).announcedPort =
        some (asked.roomFor.object master).remoteAddress.sinPort := by
  have intact := reached.intact
  cases forwardOpenRoutine_ok intact answered with
  | refused failure leaves => exact absurd success failure
  | accepted other admitted opened head first reply =>
      obtain rfl : asked = other := Option.some.inj (admission.symm.trans admitted)
      have same := (admitted_admits admission).same
      have requested : Requested stack asked := by rw [Requested, same]
      have coherent : Coherent asked := by
        rw [requested]
        exact intact.coherent.of_same_table rfl rfl
      cases opened with
      | nothing entry kept =>
          simp [selects, entry] at selected
      | explicit entry explicitSlot connectionList opened =>
          simp only [selects, entry] at selected
          exact absurd (getFreeExplicitConnection_spec selected).1 io
      | io entry opening ends =>
          have room : asked.roomFor = opening.room := by simp only [roomFor, entry, ends.chosen, ends.made]
          obtain rfl : opening.choice.slot = slot := by
            simp only [selects, entry, ends.reached] at selected
            exact Option.some.inj selected
          rw [room] at found ⊢
          obtain ⟨port, announced, remote, item⟩ := ends.joinsStream coherent multicast found
          have items : asked.addressInfoItems = request.addressInfoItems := by rw [same]
          rw [items] at announced
          rw [announced, Option.some_inj]
          -- the stream of the master is sent to the address of the device
          have made := makeRoom_made coherent ends.chosen ends.made
          have addressed : Members.Addressed config.startingMulticastAddress (fun _ => True) opening.room.members :=
            (requested.members_eq ▸ members_addressed reached).moves (made.moves coherent)
          obtain ⟨listed, masters, _⟩ := getExistingProducer_masters (made.coherent coherent) found
          have address : (opening.room.object master).remoteAddress.sAddr = config.startingMulticastAddress :=
            (addressed master _ listed).1 masters.1
          have told : response.tToOItem = some
              ⟨kCipItemIdSocketAddressInfoTargetToOriginator, 16, AF_INET, port, config.startingMulticastAddress⟩ := by
            rw [reply]
            exact item
          constructor
          · intro names
            rw [← names.port, remote]
          · rintro rfl
            exact ⟨by rw [remote, address], by rw [remote], _, told, address.symm, rfl⟩

end Openings

section Runs

open SampleApplication

/-- An input-only connection to the input of the exclusive owner; the second address item is as given. -/
def joinRequest (item : SocketAddressInfoItem) : Request :=
  { openIo 2 (pointToPoint 0) (multicast 128) 152 102 with addressInfoItems := ⟨.zero, item⟩ }

def joiningSlot : Slot configuration := .inputOnly ⟨0, by decide⟩ ⟨0, by decide⟩

def masterSlot : Slot configuration := .exclusiveOwner ⟨0, exclusiveOwners_some⟩

/-- The request is accepted and joins the stream of the exclusive owner, which sends to the port. -/
def JoinsStream (item : SocketAddressInfoItem) (port : UInt16) (stack asked after : Stack configuration)
    (response : Response) : Prop :=
  stack.forwardOpenRoutine false (joinRequest item) = .ok (response, after) ∧
    stack.admitted false (joinRequest item) = some asked ∧
    response.generalStatus = kCipErrorSuccess ∧ asked.selects (joinRequest item).network = some joiningSlot ∧
    asked.dummy.getTToOConnectionType = .multicast ∧
    asked.roomFor.getExistingProducerIoConnection true asked.dummy.producedPath.instanceId.toUInt32 = some masterSlot ∧
    (asked.roomFor.object masterSlot).remoteAddress.sinPort = port ∧ asked.dummy.getOToTConnectionType = .pointToPoint

def joinsStream (item : SocketAddressInfoItem) (port told : UInt16) : Bool :=
  ends [.forwardOpen (openIo 1 (pointToPoint 128) (multicast 128) 101 102)] fun stack : Stack configuration =>
    match stack.admitted false (joinRequest item), stack.forwardOpenRoutine false (joinRequest item) with
    | some asked, .ok (response, after) =>
        decide (response.generalStatus = kCipErrorSuccess ∧
          asked.selects (joinRequest item).network = some joiningSlot ∧
          asked.dummy.getTToOConnectionType = .multicast ∧
          asked.roomFor.getExistingProducerIoConnection true asked.dummy.producedPath.instanceId.toUInt32 =
            some masterSlot ∧
          (asked.roomFor.object masterSlot).remoteAddress.sinPort = port ∧
          asked.dummy.getOToTConnectionType = .pointToPoint ∧ (after.object joiningSlot).remoteAddress.sinPort = told)
    | _, _ => false

theorem joinsStream_joins {item : SocketAddressInfoItem} {port told : UInt16} (passes : joinsStream item port told = true) :
    ∃ stack asked after : Stack configuration, ∃ response, Reached stack ∧
      JoinsStream item port stack asked after response ∧ (after.object joiningSlot).remoteAddress.sinPort = told := by
  obtain ⟨stack, reached, shown⟩ := exists_of_ends passes
  split at shown
  · rename_i asked response after admission answered
    obtain ⟨success, selected, multicast, found, port, oToT, told⟩ := of_decide_eq_true shown
    exact ⟨stack, asked, after, response, reached,
      ⟨answered, admission, success, selected, multicast, found, port, oToT⟩, told⟩
  · cases shown

/-- With a T→O item in the request the connection is told the endpoint of the master. -/
theorem joins_at_master_with_item : ∃ asked after : Stack configuration, ∃ response,
    NamesMaster response (after.object joiningSlot) (asked.roomFor.object masterSlot) := by
  have passes : joinsStream ⟨kCipItemIdSocketAddressInfoTargetToOriginator, 16, AF_INET, 5000, 0⟩ 2222 2222 = true := by
    decide +kernel
  obtain ⟨stack, asked, after, response, reached, joins, told⟩ := joinsStream_joins passes
  obtain ⟨answered, admission, success, selected, multicast, found, port, oToT⟩ := joins
  refine ⟨asked, after, response,
    (joins_at_master_iff reached answered success admission selected (by decide) multicast found).mpr ?_⟩
  rw [port, oToT]
  decide

/-- The port an earlier packet has left in the second item is announced instead of the port of the master. -/
theorem left_over_port_is_announced : ∃ stack asked after : Stack configuration, ∃ response, Reached stack ∧
    JoinsStream ⟨0, 16, AF_INET, 5000, 0⟩ 2222 stack asked after response ∧
    ¬NamesMaster response (after.object joiningSlot) (asked.roomFor.object masterSlot) := by
  have passes : joinsStream ⟨0, 16, AF_INET, 5000, 0⟩ 2222 5000 = true := by decide +kernel
  obtain ⟨stack, asked, after, response, reached, joins, told⟩ := joinsStream_joins passes
  refine ⟨stack, asked, after, response, reached, joins, fun names => ?_⟩
  have same := names.port
  rw [told, joins.2.2.2.2.2.2.1] at same
  exact absurd same (by decide)

end Runs

end Stack

end EtherNetIP
