import EtherNetIP.Cip.Openings
import EtherNetIP.SampleApplication

/-! When the channels of a connection are opened.

With a socket and the quality of service granted, whether a channel can be opened
depends on the address items alone. The request should succeed exactly if both
channels it asks for can be opened. It does except for consuming multicast
connections, whose status is tested the wrong way round.
-/

set_option autoImplicit false

namespace EtherNetIP

open Library CipConnectionObject

variable {config : Configuration}

def AddressInfoItems.ValidOriginatorToTarget (items : AddressInfoItems) : Prop :=
  ∃ position, items.find kCipItemIdSocketAddressInfoOriginatorToTarget = some position ∧
    (items.get position).sinFamily = AF_INET

/-- The items when the channel for producing is opened: a point-to-point channel for consuming has taken one. -/
def AddressInfoItems.behindConsuming (items : AddressInfoItems) (oToT : ConnectionObjectConnectionType) :
    AddressInfoItems :=
  if oToT = .pointToPoint then
    match items.allocateSocketAddressInfoItem kCipItemIdSocketAddressInfoOriginatorToTarget with
    | some position => items.set
        ⟨kCipItemIdSocketAddressInfoOriginatorToTarget, 16, AF_INET, kOpenerEipIoUdpPort, INADDR_ANY⟩ position
    | none => items
  else items

namespace Stack

section Openable

variable (stack : Stack config) (slot : Slot config)

def ConsumingOpenable : Prop :=
  ((stack.object slot).getOToTConnectionType = .multicast → stack.addressInfoItems.ValidOriginatorToTarget) ∧
    ((stack.object slot).getOToTConnectionType = .pointToPoint →
      (stack.addressInfoItems.allocateSocketAddressInfoItem kCipItemIdSocketAddressInfoOriginatorToTarget).isSome)

/-- What `OpenCommunicationChannels` asks of the items on the consuming side: the multicast status is inverted. -/
def ConsumingAccepted : Prop :=
  ((stack.object slot).getOToTConnectionType = .multicast → ¬stack.addressInfoItems.ValidOriginatorToTarget) ∧
    ((stack.object slot).getOToTConnectionType = .pointToPoint →
      (stack.addressInfoItems.allocateSocketAddressInfoItem kCipItemIdSocketAddressInfoOriginatorToTarget).isSome)

def itemsForProducing : AddressInfoItems :=
  stack.addressInfoItems.behindConsuming (stack.object slot).getOToTConnectionType

/-- A multicast channel for producing needs a free item or a T→O item. -/
def ProducingOpenable : Prop :=
  (stack.object slot).getTToOConnectionType = .multicast →
    ((stack.itemsForProducing slot).allocateSocketAddressInfoItem
      kCipItemIdSocketAddressInfoTargetToOriginator).isSome

/-- The T→O direction has a socket of its own, or there is a master of its stream. -/
def HasProducer (inputPoint : UInt32) : Prop :=
  (stack.object slot).producingSocket ≠ kEipInvalidSocket ∨
    ∃ master ∈ stack.connectionList.toList, (stack.object master).producingSocket ≠ kEipInvalidSocket ∧
      (stack.object master).producedPath.instanceId.toUInt32 = inputPoint

instance : Decidable (ProducingOpenable stack slot) := inferInstanceAs (Decidable (_ → _))

def granted (handle : Nat) (peerAddress : UInt32) : Network := ⟨.bound handle, true, peerAddress⟩

/-- `OpenCommunicationChannels` succeeds exactly if both channels can be opened, and then they are. -/
structure OpensWhatIsAsked (handle : Nat) (peerAddress : UInt32) : Prop where
  answers : (∃ after, stack.openCommunicationChannels (granted handle peerAddress) slot = .ok after) ↔
    ConsumingOpenable stack slot ∧ ProducingOpenable stack slot
  multicast : (stack.object slot).getOToTConnectionType = .multicast → ProducingOpenable stack slot →
    ((∃ after, stack.openCommunicationChannels (granted handle peerAddress) slot = .ok after) ↔
      stack.addressInfoItems.ValidOriginatorToTarget)
  consumes : ∀ after, stack.openCommunicationChannels (granted handle peerAddress) slot = .ok after →
    (stack.object slot).getOToTConnectionType = .multicast ∨ (stack.object slot).getOToTConnectionType = .pointToPoint →
      (after.object slot).consumingSocket = handle ∧ (after.object slot).originatorAddress.sAddr = peerAddress
  produces : ∀ after, stack.openCommunicationChannels (granted handle peerAddress) slot = .ok after →
    (stack.object slot).getTToOConnectionType = .multicast ∨ (stack.object slot).getTToOConnectionType = .pointToPoint →
      HasProducer after slot (stack.object slot).producedPath.instanceId.toUInt32

end Openable

section Channels

variable {stack after : Stack config} {slot : Slot config} {handle : Nat} {peerAddress : UInt32} {network : Network}

/-- An O→T item is used as it is. -/
theorem multicastItem_oToT {item : SocketAddressInfoItem}
    (typeId : item.typeId = kCipItemIdSocketAddressInfoOriginatorToTarget) : multicastItem config item = item := by
  unfold multicastItem
  rw [if_neg (by rw [typeId]; decide)]

theorem find_typeId {items : AddressInfoItems} {typeId : UInt16} {position : AddressInfoItems.Position}
    (found : items.find typeId = some position) : (items.get position).typeId = typeId := by
  unfold AddressInfoItems.find at found
  split at found
  · rename_i first
    cases found
    exact first
  · split at found
    · rename_i second
      cases found
      exact second
    · cases found

theorem set_get (items : AddressInfoItems) (position : AddressInfoItems.Position) :
    items.set (items.get position) position = items := by
  cases position <;> rfl

theorem multicastConsuming_opens :
    (stack.openMulticastConnection (granted handle peerAddress) .consuming slot).1 = true ↔
      stack.addressInfoItems.ValidOriginatorToTarget := by
  unfold openMulticastConnection AddressInfoItems.ValidOriginatorToTarget
  dsimp only
  cases found : stack.addressInfoItems.find kCipItemIdSocketAddressInfoOriginatorToTarget with
  | none => simp
  | some position =>
      dsimp only
      rw [multicastItem_oToT (find_typeId found), set_get]
      by_cases family : (stack.addressInfoItems.get position).sinFamily = AF_INET
      · rw [if_neg (not_not.mpr family), if_neg (by simp [granted])]
        simp [family]
      · rw [if_pos family]
        simp [family]

theorem multicastConsuming_refused
    (refused : stack.openMulticastConnection network .consuming slot = (false, after)) : after = stack := by
  unfold openMulticastConnection at refused
  dsimp only at refused
  split at refused
  · cases refused
    rfl
  · rename_i position found
    rw [multicastItem_oToT (find_typeId found), set_get] at refused
    split at refused
    · cases refused
      rfl
    · split at refused
      · cases refused
        rfl
      · cases refused

structure Listens (stack : Stack config) (slot : Slot config) (peerAddress : UInt32) (after : Stack config) :
    Prop where
  items : after.addressInfoItems = stack.itemsForProducing slot
  object : after.object = Function.update stack.object slot
    (if (stack.object slot).getOToTConnectionType = .pointToPoint then
      setConsumingSocket stack.udpIoMessaging ⟨AF_INET, kOpenerEipIoUdpPort, peerAddress⟩ (stack.object slot)
    else stack.object slot)
  list : after.connectionList = stack.connectionList
  socket : after.udpIoMessaging = stack.udpIoMessaging

theorem openConsuming_opens :
    (stack.openConsuming (granted handle peerAddress) slot).1 = true ↔ ConsumingAccepted stack slot := by
  unfold openConsuming ConsumingAccepted
  split
  · rename_i multicast
    have opens := @multicastConsuming_opens config stack slot handle peerAddress
    generalize stack.openMulticastConnection (granted handle peerAddress) .consuming slot = opened at opens ⊢
    obtain ⟨opened, left⟩ := opened
    rw [← opens, multicast]
    cases opened <;> simp
  · rename_i pointToPoint
    rw [pointToPoint]
    unfold openConsumingPointToPointConnection
    cases stack.addressInfoItems.allocateSocketAddressInfoItem kCipItemIdSocketAddressInfoOriginatorToTarget with
    | none => simp
    | some position => simp [granted]
  · rename_i notMulticast notPointToPoint
    exact iff_of_true rfl ⟨fun multicast => absurd multicast notMulticast, fun pointToPoint =>
      absurd pointToPoint notPointToPoint⟩

theorem openConsuming_listens (done : stack.openConsuming network slot = (true, after)) :
    Listens stack slot network.peerAddress after := by
  unfold openConsuming at done
  split at done
  · rename_i multicast
    cases answer : stack.openMulticastConnection network .consuming slot with
    | mk opened left =>
        rw [answer] at done
        cases opened with
        | true => cases done
        | false =>
            cases done
            obtain rfl := multicastConsuming_refused answer
            refine ⟨?_, ?_, rfl, rfl⟩
            · rw [itemsForProducing, AddressInfoItems.behindConsuming, if_neg (by simp [multicast])]
            · rw [if_neg (by simp [multicast]), Function.update_eq_self]
  · rename_i pointToPoint
    unfold openConsumingPointToPointConnection at done
    split at done
    · cases done
    · rename_i position allocated
      dsimp only at done
      split at done
      · cases done
      · cases done
        refine ⟨?_, ?_, rfl, rfl⟩
        · rw [itemsForProducing, AddressInfoItems.behindConsuming, if_pos pointToPoint, allocated]
          rfl
        · rw [if_pos pointToPoint]
          rfl
  · rename_i notMulticast notPointToPoint
    cases done
    refine ⟨?_, ?_, rfl, rfl⟩
    · rw [itemsForProducing, AddressInfoItems.behindConsuming, if_neg notPointToPoint]
    · rw [if_neg notPointToPoint, Function.update_eq_self]

theorem openProducing_opens : (stack.openProducing (granted handle peerAddress) slot).1 = true ↔
    ((stack.object slot).getTToOConnectionType = .multicast →
      (stack.addressInfoItems.allocateSocketAddressInfoItem kCipItemIdSocketAddressInfoTargetToOriginator).isSome) := by
  unfold openProducing
  split
  · rename_i multicast
    unfold openProducingMulticastConnection
    dsimp only
    cases allocated : stack.addressInfoItems.allocateSocketAddressInfoItem
        kCipItemIdSocketAddressInfoTargetToOriginator with
    | none => simp [multicast]
    | some position =>
        dsimp only
        split
        · -- the first of its stream finds the item it has just taken
          have typed : ({ stack.addressInfoItems.get position with
              typeId := kCipItemIdSocketAddressInfoTargetToOriginator } : SocketAddressInfoItem).typeId =
              kCipItemIdSocketAddressInfoTargetToOriginator := rfl
          obtain ⟨found, finds, typeId⟩ := find_set_allocated allocated typed
          unfold openMulticastConnection
          dsimp only
          rw [finds]
          simp [multicastItem, typeId, granted]
        · simp
  · rename_i pointToPoint
    unfold openProducingPointToPointConnection
    simp [pointToPoint, granted]
  · rename_i notMulticast notPointToPoint
    exact iff_of_true rfl fun multicast => absurd multicast notMulticast

theorem openCommunicationChannels_granted :
    stack.openCommunicationChannels (granted handle peerAddress) slot =
      orConnectionFailure ((stack.socketCreated (.bound handle)).openConsuming (granted handle peerAddress) slot) >>=
        fun middle => orConnectionFailure (middle.openProducing (granted handle peerAddress) slot) := rfl

theorem Listens.tToO (listens : Listens stack slot peerAddress after) :
    (after.object slot).getTToOConnectionType = (stack.object slot).getTToOConnectionType := by
  rw [listens.object, Function.update_self]
  split <;> rfl

theorem openCommunicationChannels_ok_iff :
    (∃ after, stack.openCommunicationChannels (granted handle peerAddress) slot = .ok after) ↔
      ConsumingAccepted stack slot ∧ ProducingOpenable stack slot := by
  rw [openCommunicationChannels_granted]
  have opens := @openConsuming_opens config (stack.socketCreated (.bound handle)) slot handle peerAddress
  cases consumed : (stack.socketCreated (.bound handle)).openConsuming (granted handle peerAddress) slot with
  | mk consumes middle =>
      rw [consumed] at opens
      cases consumes with
      | false => exact iff_of_false (by rintro ⟨after, done⟩; cases done) fun both => Bool.noConfusion (opens.mpr both.1)
      | true =>
          have listens := openConsuming_listens consumed
          have produces := @openProducing_opens config middle slot handle peerAddress
          rw [listens.items, listens.tToO] at produces
          have accepted : ConsumingAccepted stack slot := opens.mp rfl
          rw [and_iff_right accepted]
          refine Iff.trans ?_ produces
          simp only [orConnectionFailure, ok_bind]
          generalize middle.openProducing (granted handle peerAddress) slot = opened
          obtain ⟨opened, left⟩ := opened
          cases opened with
          | false => exact iff_of_false (by rintro ⟨after, done⟩; cases done) Bool.noConfusion
          | true => exact iff_of_true ⟨left, rfl⟩ rfl

theorem openProducing_list (stack : Stack config) (network : Network) (slot : Slot config) :
    (stack.openProducing network slot).2.connectionList = stack.connectionList := by
  rw [openProducing_rest]

theorem ProducingOpened.keepsConsumer {network : Network} (opened : ProducingOpened network stack slot after) :
    (after.object slot).consumingSocket = (stack.object slot).consumingSocket ∧
      (after.object slot).originatorAddress = (stack.object slot).originatorAddress := by
  cases opened with
  | silent _ _ object =>
      rw [object]
      exact ⟨rfl, rfl⟩
  | pointToPoint _ _ object | started _ _ object | joined _ _ _ _ _ object | takenOver _ _ _ _ _ object =>
      rw [object, Function.update_self]
      exact ⟨rfl, rfl⟩

theorem getExistingProducerIoConnection_found {inputPoint : UInt32} {existing : Slot config}
    (found : stack.getExistingProducerIoConnection true inputPoint = some existing) :
    existing ∈ stack.connectionList.toList ∧ (stack.object existing).producingSocket ≠ kEipInvalidSocket ∧
      (stack.object existing).producedPath.instanceId.toUInt32 = inputPoint := by
  obtain ⟨listed, produces⟩ := findConnection_mem found
  simp only [Bool.and_eq_true, bne_iff_ne, beq_iff_eq] at produces
  exact ⟨listed, produces.1.2, produces.1.1.2.symm⟩

theorem ProducingOpened.hasProducer {network : Network} (opened : ProducingOpened network stack slot after)
    (absent : slot ∉ stack.connectionList.toList) (list : after.connectionList = stack.connectionList)
    (valid : stack.udpIoMessaging ≠ kEipInvalidSocket)
    (produces : (stack.object slot).getTToOConnectionType = .multicast ∨
      (stack.object slot).getTToOConnectionType = .pointToPoint) :
    HasProducer after slot (stack.object slot).producedPath.instanceId.toUInt32 := by
  cases opened with
  | silent notMulticast notPointToPoint object =>
      rcases produces with multicast | pointToPoint
      · exact absurd multicast notMulticast
      · exact absurd pointToPoint notPointToPoint
  | pointToPoint _ _ object | started _ _ object =>
      refine .inl ?_
      rw [object, Function.update_self]
      exact valid
  | joined existing _ _ found guest object =>
      obtain ⟨listed, socket, path⟩ := getExistingProducerIoConnection_found found
      have differs : existing ≠ slot := fun same => absent (same ▸ listed)
      refine .inr ⟨existing, list ▸ listed, ?_⟩
      rw [object, Function.update_of_ne differs]
      exact ⟨socket, path⟩
  | takenOver existing _ _ found owner object =>
      refine .inl ?_
      rw [object, Function.update_self]
      exact (getExistingProducerIoConnection_found found).2.1

theorem openCommunicationChannels_stages (done : stack.openCommunicationChannels network slot = .ok after) :
    ∃ listener, Listens (stack.socketCreated network.udpSocket) slot network.peerAddress listener ∧
      listener.openProducing network slot = (true, after) := by
  unfold openCommunicationChannels at done
  cases created : stack.createUdpSocket network.udpSocket with
  | error fault =>
      rw [created] at done
      cases done
  | ok bound =>
      rw [created] at done
      obtain rfl := createUdpSocket_ok created
      simp only [orStop, ok_bind] at done
      cases consumed : (stack.socketCreated network.udpSocket).openConsuming network slot with
      | mk consumes listener =>
          rw [consumed] at done
          cases consumes with
          | false => cases done
          | true =>
              refine ⟨listener, openConsuming_listens consumed, ?_⟩
              simp only [orConnectionFailure, ok_bind] at done
              cases produced : listener.openProducing network slot with
              | mk produces last =>
                  rw [produced] at done
                  cases produces with
                  | false => cases done
                  | true =>
                      cases done
                      rfl

theorem openCommunicationChannels_sets (absent : slot ∉ stack.connectionList.toList)
    (done : stack.openCommunicationChannels (granted handle peerAddress) slot = .ok after) :
    ((stack.object slot).getOToTConnectionType = .pointToPoint →
      (after.object slot).consumingSocket = handle ∧ (after.object slot).originatorAddress.sAddr = peerAddress) ∧
    ((stack.object slot).getTToOConnectionType = .multicast ∨ (stack.object slot).getTToOConnectionType = .pointToPoint →
      HasProducer after slot (stack.object slot).producedPath.instanceId.toUInt32) := by
  obtain ⟨listener, listens, produced⟩ := openCommunicationChannels_stages done
  have list := listener.openProducing_list (granted handle peerAddress) slot
  rw [produced] at list
  have unlisted : slot ∉ listener.connectionList.toList := by
    rw [listens.list]
    exact absent
  have opened := openProducing_opened unlisted produced
  have own := congrFun listens.object slot
  rw [Function.update_self] at own
  constructor
  · intro pointToPoint
    have type : ((stack.socketCreated (.bound handle)).object slot).getOToTConnectionType = .pointToPoint :=
      pointToPoint
    have consumer : listener.object slot = _ := own.trans (if_pos type)
    rw [opened.keepsConsumer.1, opened.keepsConsumer.2, consumer]
    exact ⟨rfl, rfl⟩
  · intro produces
    have path : (listener.object slot).producedPath = (stack.object slot).producedPath := by
      rw [own]
      split <;> rfl
    have valid : listener.udpIoMessaging ≠ kEipInvalidSocket := by
      rw [listens.socket]
      change (handle : Int) ≠ kEipInvalidSocket
      unfold kEipInvalidSocket
      omega
    rw [← path]
    exact opened.hasProducer unlisted list valid (listens.tToO.symm ▸ produces)

/-- A valid item is refused and a missing one accepted. -/
theorem not_opensWhatIsAsked (multicast : (stack.object slot).getOToTConnectionType = .multicast)
    (openable : ProducingOpenable stack slot) : ¬OpensWhatIsAsked stack slot handle peerAddress := by
  intro opens
  have answers := opens.multicast multicast openable
  have accepted : ConsumingAccepted stack slot ↔ ¬stack.addressInfoItems.ValidOriginatorToTarget := by
    simp [ConsumingAccepted, multicast]
  rw [openCommunicationChannels_ok_iff, and_iff_left openable, accepted] at answers
  exact iff_not_self answers.symm

/-- `OpenCommunicationChannels` opens what is asked for exactly if consuming is not multicast, or the channel for
producing cannot be opened either. -/
theorem openCommunicationChannels_opens_iff (absent : slot ∉ stack.connectionList.toList) :
    OpensWhatIsAsked stack slot handle peerAddress ↔
      ((stack.object slot).getOToTConnectionType = .multicast → ¬ProducingOpenable stack slot) := by
  constructor
  · exact fun opens multicast openable => not_opensWhatIsAsked multicast openable opens
  · intro condition
    by_cases multicast : (stack.object slot).getOToTConnectionType = .multicast
    · have refused : ¬∃ after, stack.openCommunicationChannels (granted handle peerAddress) slot = .ok after := by
        rw [openCommunicationChannels_ok_iff]
        exact fun both => condition multicast both.2
      refine ⟨iff_of_false refused fun both => condition multicast both.2, fun _ openable =>
        absurd openable (condition multicast), fun after done => absurd ⟨after, done⟩ refused, fun after done =>
        absurd ⟨after, done⟩ refused⟩
    · refine ⟨?_, fun same => absurd same multicast, ?_, ?_⟩
      · rw [openCommunicationChannels_ok_iff]
        simp [ConsumingAccepted, ConsumingOpenable, multicast]
      · intro after done consumes
        exact (openCommunicationChannels_sets absent done).1 (consumes.resolve_left multicast)
      · exact fun after done => (openCommunicationChannels_sets absent done).2

end Channels

section Runs

open SampleApplication

def multicastConsumer (addressInfoItems : AddressInfoItems) : Stack configuration :=
  { (start configuration).setObject (.exclusiveOwner ⟨0, exclusiveOwners_some⟩)
      { initializeEmpty with
        oToTNetworkConnectionParameters := multicast 128
        tToONetworkConnectionParameters := pointToPoint 128 } with addressInfoItems }

def multicastProducer : Stack configuration :=
  { (start configuration).setObject (.exclusiveOwner ⟨0, exclusiveOwners_some⟩)
      { initializeEmpty with
        oToTNetworkConnectionParameters := pointToPoint 128
        tToONetworkConnectionParameters := multicast 128
        producedPath := { initializeEmpty.producedPath with instanceId := 102 } } with
    addressInfoItems := ⟨.zero, .zero⟩ }

/-- Both channels are opened. -/
theorem openCommunicationChannels_opens_iff_both :
    OpensWhatIsAsked multicastProducer (.exclusiveOwner ⟨0, by decide⟩) 7 0x0B01A8C0 ∧
    ∃ after, multicastProducer.openCommunicationChannels (granted 7 0x0B01A8C0) (.exclusiveOwner ⟨0, by decide⟩) =
        .ok after ∧
      (after.object (.exclusiveOwner ⟨0, by decide⟩)).consumingSocket = 7 ∧
      HasProducer after (.exclusiveOwner ⟨0, by decide⟩) 102 := by
  have opens : OpensWhatIsAsked multicastProducer (.exclusiveOwner ⟨0, by decide⟩) 7 0x0B01A8C0 :=
    (openCommunicationChannels_opens_iff (by decide)).mpr fun multicast => absurd multicast (by decide)
  obtain ⟨after, done⟩ := opens.answers.mpr ⟨⟨fun multicast => absurd multicast (by decide), fun _ => rfl⟩, by decide⟩
  exact ⟨opens, after, done, (opens.consumes after done (.inr (by decide))).1,
    opens.produces after done (.inl (by decide))⟩

/-- Without an item the request succeeds and nothing listens, in the function as in a run of the stack; with a
valid one it is refused. -/
theorem multicast_status_is_inverted :
    ¬OpensWhatIsAsked (multicastConsumer ⟨.zero, .zero⟩) (.exclusiveOwner ⟨0, by decide⟩) 7 0x0B01A8C0 ∧
    ¬OpensWhatIsAsked (multicastConsumer
        ⟨⟨kCipItemIdSocketAddressInfoOriginatorToTarget, 16, AF_INET, kOpenerEipIoUdpPort, 0x2000C0EF⟩, .zero⟩)
      (.exclusiveOwner ⟨0, by decide⟩) 7 0x0B01A8C0 ∧
    ∃ stack : Stack configuration, Reached stack ∧ ∃ slot ∈ stack.connectionList.toList,
      (stack.object slot).state = .established ∧ (stack.object slot).getOToTConnectionType = .multicast ∧
      (stack.object slot).consumingSocket = kEipInvalidSocket := by
  refine ⟨?_, ?_, ?_⟩
  · exact not_opensWhatIsAsked (by decide) (by decide)
  · exact not_opensWhatIsAsked (by decide) (by decide)
  · have run : ends [.forwardOpen (openIo 1 (multicast 128) (pointToPoint 128) 101 102)]
        (fun stack : Stack configuration => decide (∃ slot ∈ stack.connectionList.toList,
          (stack.object slot).state = .established ∧ (stack.object slot).getOToTConnectionType = .multicast ∧
          (stack.object slot).consumingSocket = kEipInvalidSocket)) = true := by decide +kernel
    obtain ⟨stack, reached, shown⟩ := exists_of_ends run
    exact ⟨stack, reached, of_decide_eq_true shown⟩

end Runs

end Stack

end EtherNetIP
