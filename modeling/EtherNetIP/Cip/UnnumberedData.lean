import EtherNetIP.Cip.DataReception

/-! Data without an encapsulation sequence number.

The packets of class 0 carry a connected address item, which has no sequence
number. The check reads one all the same: the number some earlier packet has
left in the common packet format structure.
-/

set_option autoImplicit false

namespace EtherNetIP

open Library CipConnectionObject

variable {config : Configuration}

def unnumberedDatagram (leftOver : CipCommonPacketFormatData) (object : CipConnectionObject) (itemCount : UInt16)
    (data : PacketItem) (rest trailing : List CipOctet) : Datagram :=
  let packet := encodePacket itemCount (.connectedAddress object.cipConsumedConnectionId) data rest
  ⟨leftOver, packet ++ trailing, packet.length, object.originatorAddress.sAddr⟩

namespace Stack

variable {stack : Stack config} {slot : Slot config}

structure DeliversData (stack : Stack config) (slot : Slot config) (datagram : Datagram) : Prop where
  handsOn : ∃ received, datagram.received = some received ∧ stack.HandsOn slot received
  resets : ∀ after, stack.handleReceivedDatagram datagram = .ok after → (after.object slot).inactivityWatchdogTimer =
    (stack.object slot).calculateRegularInactivityWatchdogTimerValue

theorem HandsOn.resets {received : ConnectedData} {after : Stack config} (hands : stack.HandsOn slot received)
    (done : stack.handleReceivedConnectedData received = .ok after) :
    (after.object slot).inactivityWatchdogTimer =
      (stack.object slot).calculateRegularInactivityWatchdogTimerValue := by
  rw [handleReceivedConnectedData_eq, hands.1] at done
  dsimp only at done
  rw [receiveFromOriginator_newer hands.2.1] at done
  obtain ⟨_, count, object⟩ := connectionReceiveData_counts done
  rw [object, Function.update_self, accepting, modifyObject, setObject_object, Function.update_self]
  rfl

theorem unnumberedDatagram_received (leftOver : CipCommonPacketFormatData) (object : CipConnectionObject)
    {itemCount : UInt16} (several : 2 ≤ itemCount) (data : PacketItem) {rest : List CipOctet}
    (all : itemCount = 2 → rest = []) (trailing : List CipOctet) :
    (unnumberedDatagram leftOver object itemCount data rest trailing).received =
      some ⟨kCipItemIdConnectionAddress, object.cipConsumedConnectionId, leftOver.addressItem.data.sequenceNumber,
        data.typeId, data.length, data.payload ++ (rest ++ trailing), object.originatorAddress.sAddr⟩ := by
  unfold Datagram.received unnumberedDatagram
  dsimp only
  rw [createCommonPacketFormatStructure_encodePacket leftOver several (.connectedAddress _) all,
    PacketItem.connectedAddress_addressItem]
  rfl

theorem Reached.receiveDataFunction (reached : Reached stack) (io : slot.instanceType ≠ .explicitMessaging)
    (established : (stack.object slot).state = .established) :
    (stack.object slot).connectionReceiveDataFunction = some .handleReceivedIoConnectionData := by
  have opened := reached.intact.coherent.opened slot ((reached.intact.coherent.mem_iff slot).mpr (.inl established))
  cases slot with
  | explicit i => exact absurd rfl io
  | exclusiveOwner i => exact OpenedIo.receiveDataFunction opened
  | inputOnly i j => exact OpenedIo.receiveDataFunction opened
  | listenOnly i j => exact OpenedIo.receiveDataFunction opened

/-- A well-formed packet without sequence number from the originator is delivered if and only if the connection is the first of
its identifier, and it is the first packet or an earlier packet of whatever connection has left a newer number. -/
theorem unnumbered_packet_delivered_iff (reached : Reached stack) (io : slot.instanceType ≠ .explicitMessaging)
    (established : (stack.object slot).state = .established)
    (leftOver : CipCommonPacketFormatData) {itemCount : UInt16} (several : 2 ≤ itemCount) {data : PacketItem}
    (connected : data.typeId = kCipItemIdConnectedDataItem) {rest : List CipOctet}
    (all : itemCount = 2 → rest = []) (trailing : List CipOctet) :
    stack.DeliversData slot (unnumberedDatagram leftOver (stack.object slot) itemCount data rest trailing) ↔
      stack.getConnectedObject (stack.object slot).cipConsumedConnectionId = some slot ∧
        (newestNumber (stack.object slot) = none ∨ seqGt32 leftOver.addressItem.data.sequenceNumber
          (stack.object slot).eipLevelSequenceCountConsuming = true) := by
  have received := unnumberedDatagram_received leftOver (stack.object slot) several data all trailing
  have function := reached.receiveDataFunction io established
  -- the address and data items, the identifier and the originator are those of the connection
  have addressed : stack.addressee ⟨kCipItemIdConnectionAddress, (stack.object slot).cipConsumedConnectionId,
      leftOver.addressItem.data.sequenceNumber, data.typeId, data.length, data.payload ++ (rest ++ trailing),
      (stack.object slot).originatorAddress.sAddr⟩ = some slot ↔
      stack.getConnectedObject (stack.object slot).cipConsumedConnectionId = some slot := by
    unfold addressee
    rw [if_pos ⟨.inl rfl, connected⟩]
    simp [Option.filter_eq_some_iff]
  have passes : passesSequenceCheck (stack.object slot) leftOver.addressItem.data.sequenceNumber = true ↔
      newestNumber (stack.object slot) = none ∨ seqGt32 leftOver.addressItem.data.sequenceNumber
        (stack.object slot).eipLevelSequenceCountConsuming = true := by
    unfold passesSequenceCheck newestNumber
    cases (stack.object slot).eipFirstLevelSequenceCountReceived <;> simp
  rw [← addressed, ← passes]
  constructor
  · rintro ⟨⟨message, parsed, hands⟩, _⟩
    rw [received] at parsed
    cases parsed
    exact ⟨hands.1, hands.2.1⟩
  · rintro ⟨addresses, newer⟩
    have hands : stack.HandsOn slot _ := ⟨addresses, newer, by simp [function]⟩
    refine ⟨⟨_, received, hands⟩, fun after done => ?_⟩
    unfold handleReceivedDatagram at done
    rw [received] at done
    exact hands.resets done

open SampleApplication in
def openClass0 (connectionSerialNumber : UInt16) : Request :=
  openRequest connectionSerialNumber 0x4880 0x4880 0x00 [0x20, 0x04, 0x24, 103, 0x2C, 101, 0x2C, 102]

/-- A packet of the sample's class 0 connection, behind a packet that has left these items. -/
def class0Datagram (leftOver : CipCommonPacketFormatData) (stack : Stack SampleApplication.configuration) : Datagram :=
  unnumberedDatagram leftOver (stack.object SampleApplication.firstOwner) 2
    ⟨kCipItemIdConnectedDataItem, List.replicate 128 7, by simp⟩ [] []

open SampleApplication in
/-- The first packet of the connection is delivered. -/
theorem first_class0_packet_delivered :
    ∃ stack : Stack configuration, Reached stack ∧ (stack.object firstOwner).getTransportClass = .class0 ∧
      stack.DeliversData firstOwner (class0Datagram noItems stack) := by
  let test (stack : Stack configuration) : Bool :=
    (stack.object firstOwner).state == .established && (stack.object firstOwner).getTransportClass == .class0 &&
      stack.getConnectedObject (stack.object firstOwner).cipConsumedConnectionId == some firstOwner &&
      newestNumber (stack.object firstOwner) == none
  have run : ends [.forwardOpen (openClass0 1)] test = true := by decide +kernel
  obtain ⟨stack, reached, passes⟩ := exists_of_ends run
  simp only [test, Bool.and_eq_true, beq_iff_eq] at passes
  obtain ⟨⟨⟨established, class0⟩, found⟩, first⟩ := passes
  refine ⟨stack, reached, class0, ?_⟩
  exact (unnumbered_packet_delivered_iff reached (by decide) established noItems (by decide) rfl (fun _ => rfl) []).mpr
    ⟨found, .inl first⟩

open SampleApplication in
/-- Two packets of class 0 one after the other: both read the same number, and the second is dropped. -/
theorem second_class0_packet_dropped :
    ∃ (before stack : Stack configuration) (items : CipCommonPacketFormatData),
      Reached before ∧ before.handleReceivedDatagram (class0Datagram noItems before) = .ok stack ∧
        createCommonPacketFormatStructure noItems (class0Datagram noItems before).data
          (class0Datagram noItems before).dataLength = some items ∧
        Reached stack ∧ (stack.object firstOwner).state = .established ∧
        (stack.object firstOwner).getTransportClass = .class0 ∧
        (stack.object firstOwner).getOToTConnectionType ≠ .null ∧
        ¬ stack.DeliversData firstOwner (class0Datagram items stack) := by
  let test (before : Stack configuration) : Bool :=
    (before.handleReceivedDatagram (class0Datagram noItems before)).toOption.any fun stack =>
      (createCommonPacketFormatStructure noItems (class0Datagram noItems before).data
        (class0Datagram noItems before).dataLength).any fun items =>
          (stack.object firstOwner).state == .established && (stack.object firstOwner).getTransportClass == .class0 &&
            (stack.object firstOwner).getOToTConnectionType != .null &&
            (class0Datagram items stack).received.all fun received => !decide (stack.HandsOn firstOwner received)
  have run : ends [.forwardOpen (openClass0 1)] test = true := by decide +kernel
  obtain ⟨before, reached, passes⟩ := exists_of_ends run
  cases handled : before.handleReceivedDatagram (class0Datagram noItems before) with
  | error fault => simp [test, handled, Except.toOption] at passes
  | ok stack =>
      cases parsed : createCommonPacketFormatStructure noItems (class0Datagram noItems before).data
          (class0Datagram noItems before).dataLength with
      | none => simp [test, handled, parsed, Except.toOption] at passes
      | some items =>
          simp only [test, handled, parsed, Except.toOption, Option.any_some, Bool.and_eq_true, beq_iff_eq, bne_iff_ne,
            ne_eq] at passes
          obtain ⟨⟨⟨established, class0⟩, consumes⟩, dropped⟩ := passes
          refine ⟨before, stack, items, reached, handled, parsed, handleReceivedDatagram_reached reached handled,
            established, class0, consumes, ?_⟩
          rintro ⟨⟨received, message, hands⟩, _⟩
          rw [message] at dropped
          simp [hands] at dropped

end Stack

end EtherNetIP
