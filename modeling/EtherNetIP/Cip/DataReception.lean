import EtherNetIP.Cip.Negotiation
import EtherNetIP.Encap.PacketGrammar
import EtherNetIP.Library.SequenceWindow

/-! Datagrams with the data of I/O connections.

A datagram is parsed into the common packet format structure, where earlier
packets have left their items. The connection it is for hands the data on if
their encapsulation sequence number is newer than the newest before it. A
connection object that has counted nothing yet takes any number.
-/

set_option autoImplicit false

namespace EtherNetIP

open Library CipConnectionObject

variable {config : Configuration}

/-- A datagram from the UDP socket, and what the structure holds that it is parsed into. The data are the
octets from its first on to the end of the receive buffer. -/
structure Datagram where
  leftOver : CipCommonPacketFormatData
  data : List CipOctet
  dataLength : Nat
  fromAddress : UInt32

def CipCommonPacketFormatData.connectedData (items : CipCommonPacketFormatData) (fromAddress : UInt32) :
    Stack.ConnectedData where
  addressItemTypeId := items.addressItem.typeId
  connectionIdentifier := items.addressItem.data.connectionIdentifier
  sequenceNumber := items.addressItem.data.sequenceNumber
  dataItemTypeId := items.dataItem.typeId
  dataItemLength := items.dataItem.length
  data := items.dataItem.data
  fromAddress := fromAddress

def Datagram.received (datagram : Datagram) : Option Stack.ConnectedData :=
  (createCommonPacketFormatStructure datagram.leftOver datagram.data datagram.dataLength).map
    (·.connectedData datagram.fromAddress)

/-- What may happen: a datagram arrives, or anything else. A datagram has its place in the stream of its producer. -/
inductive DataEvent where
  | operation (operation : Operation) (other : ¬ operation.receivesData)
  | datagram (position : Nat) (datagram : Datagram)

def DataEvent.isDatagram : DataEvent → Bool
  | .operation _ _ => false
  | .datagram _ _ => true

theorem seqGt32_iff (a b : UInt32) : seqGt32 a b = true ↔ IsNewer a.toBitVec b.toBitVec := by
  rw [seqGt32, decide_eq_true_iff, Int32.lt_iff_toInt_lt]
  rfl

namespace Stack

variable {stack before after opened : Stack config} {slot : Slot config} {received : ConnectedData}

def handleReceivedDatagram (stack : Stack config) (datagram : Datagram) : Except Fault (Stack config) :=
  match datagram.received with
  | none => .ok stack
  | some received => stack.handleReceivedConnectedData received

def handleDataEvent (stack : Stack config) : DataEvent → Except Fault (Stack config)
  | .operation operation _ => stack.step operation
  | .datagram _ datagram => stack.handleReceivedDatagram datagram

theorem handleReceivedDatagram_reached {datagram : Datagram} (reached : Reached stack)
    (done : stack.handleReceivedDatagram datagram = .ok after) : Reached after := by
  unfold handleReceivedDatagram at done
  split at done
  · cases done
    exact reached
  · rename_i received _
    have operated : stack.step (.receiveConnectedData received) = .ok after := done
    exact reached.step operated

theorem handleDataEvent_reached {event : DataEvent} (reached : Reached stack)
    (done : stack.handleDataEvent event = .ok after) : Reached after := by
  cases event with
  | operation operation other => exact reached.step done
  | datagram position datagram => exact handleReceivedDatagram_reached reached done

section Reception

def addressee (stack : Stack config) (received : ConnectedData) : Option (Slot config) :=
  if (received.addressItemTypeId = kCipItemIdConnectionAddress ∨
      received.addressItemTypeId = kCipItemIdSequencedAddressItem) ∧
      received.dataItemTypeId = kCipItemIdConnectedDataItem then
    (stack.getConnectedObject received.connectionIdentifier).filter fun slot =>
      (stack.object slot).originatorAddress.sAddr == received.fromAddress
  else none

def passesSequenceCheck (object : CipConnectionObject) (sequenceNumber : UInt32) : Bool :=
  seqGt32 sequenceNumber object.eipLevelSequenceCountConsuming || !object.eipFirstLevelSequenceCountReceived

def HandsOn (stack : Stack config) (slot : Slot config) (received : ConnectedData) : Prop :=
  stack.addressee received = some slot ∧ passesSequenceCheck (stack.object slot) received.sequenceNumber = true ∧
    (stack.object slot).connectionReceiveDataFunction ≠ none

instance (stack : Stack config) (slot : Slot config) (received : ConnectedData) :
    Decidable (stack.HandsOn slot received) := inferInstanceAs (Decidable (_ ∧ _ ∧ _))

def connectionReceiveData (stack : Stack config) (slot : Slot config) (received : ConnectedData) :
    Except Fault (Stack config) :=
  match (stack.object slot).connectionReceiveDataFunction with
  | none => .ok stack
  | some .handleReceivedIoConnectionData =>
      stack.handleReceivedIoConnectionData slot received.data received.dataItemLength

def accepting (stack : Stack config) (slot : Slot config) (sequenceNumber : UInt32) : Stack config :=
  stack.modifyObject slot fun object =>
    acceptSequenceNumber sequenceNumber (resetLastPackageInactivityTimer object)

theorem passesSequenceCheck_iff (object : CipConnectionObject) (sequenceNumber : UInt32) :
    passesSequenceCheck object sequenceNumber = true ↔
      ∀ newest ∈ newestNumber object, IsNewer sequenceNumber.toBitVec newest.toBitVec := by
  unfold passesSequenceCheck newestNumber
  cases object.eipFirstLevelSequenceCountReceived <;> simp [seqGt32_iff]

theorem handleReceivedConnectedData_eq (stack : Stack config) (received : ConnectedData) :
    stack.handleReceivedConnectedData received =
      match stack.addressee received with
      | none => .ok stack
      | some slot => stack.receiveFromOriginator slot received := by
  unfold handleReceivedConnectedData addressee
  by_cases address : received.addressItemTypeId = kCipItemIdConnectionAddress ∨
      received.addressItemTypeId = kCipItemIdSequencedAddressItem
  · by_cases data : received.dataItemTypeId = kCipItemIdConnectedDataItem
    · rw [if_pos address, if_pos data, if_pos ⟨address, data⟩]
      cases stack.getConnectedObject received.connectionIdentifier with
      | none => rfl
      | some slot =>
          by_cases originator : (stack.object slot).originatorAddress.sAddr = received.fromAddress
          · simp [originator, Option.filter]
          · simp [originator, Option.filter]
    · rw [if_pos address, if_neg data, if_neg fun both => data both.2]
  · rw [if_neg address, if_neg fun both => address both.1]

theorem receiveFromOriginator_stale
    (stale : passesSequenceCheck (stack.object slot) received.sequenceNumber = false) :
    stack.receiveFromOriginator slot received = .ok (stack.modifyObject slot resetLastPackageInactivityTimer) := by
  rw [passesSequenceCheck, Bool.or_eq_false_iff] at stale
  unfold receiveFromOriginator
  dsimp only
  have own : (stack.modifyObject slot resetLastPackageInactivityTimer).object slot =
      resetLastPackageInactivityTimer (stack.object slot) := Function.update_self ..
  rw [own]
  refine if_neg ?_
  rintro (newer | first)
  · exact absurd newer (by simpa [resetLastPackageInactivityTimer] using stale.1)
  · have seen : (stack.object slot).eipFirstLevelSequenceCountReceived = false := first
    simp [seen] at stale

theorem receiveFromOriginator_newer
    (newer : passesSequenceCheck (stack.object slot) received.sequenceNumber = true) :
    stack.receiveFromOriginator slot received =
      (stack.accepting slot received.sequenceNumber).connectionReceiveData slot received := by
  have own : (stack.modifyObject slot resetLastPackageInactivityTimer).object slot =
      resetLastPackageInactivityTimer (stack.object slot) := Function.update_self ..
  have written : (stack.modifyObject slot resetLastPackageInactivityTimer).modifyObject slot
      (acceptSequenceNumber received.sequenceNumber) = stack.accepting slot received.sequenceNumber := by
    simp [modifyObject, accepting, setObject, Function.update_idem]
  have function : ((stack.accepting slot received.sequenceNumber).object slot).connectionReceiveDataFunction =
      (stack.object slot).connectionReceiveDataFunction := by
    simp only [accepting, modifyObject, setObject_object, Function.update_self]
    rfl
  unfold receiveFromOriginator connectionReceiveData
  dsimp only
  rw [own, written, function]
  refine if_pos ?_
  simpa [passesSequenceCheck, resetLastPackageInactivityTimer] using newer

/-- Receiving data writes in the object of its connection only, and there nothing but the 16-bit count. -/
structure CountsOnly (slot : Slot config) (before after : Stack config) : Prop where
  list : after.connectionList = before.connectionList
  object : ∃ count, after.object = Function.update before.object slot
    { before.object slot with sequenceCountConsuming := count }

theorem CountsOnly.of_same (list : after.connectionList = before.connectionList) (object : after.object = before.object) :
    CountsOnly slot before after :=
  ⟨list, _, object.trans (Function.update_eq_self slot before.object).symm⟩

theorem receiveAssemblyData_table {consuming : Option CipInstanceNum} {noNewData : Bool} {data : List CipOctet}
    {dataLength : UInt16} (done : stack.receiveAssemblyData consuming noNewData data dataLength = .ok after) :
    after.connectionList = stack.connectionList ∧ after.object = stack.object := by
  unfold receiveAssemblyData at done
  split at done
  · cases done
    exact ⟨rfl, rfl⟩
  · split at done
    · cases done
    · obtain ⟨⟨accepted, written⟩, notified, same⟩ := bind_eq_ok.mp done
      cases same
      unfold notifyAssemblyConnectedDataReceived at notified
      split at notified
      · cases notified
      · split at notified <;> cases notified <;> exact ⟨rfl, rfl⟩

theorem receiveRunIdle_table (stack : Stack config) (header : UInt32) :
    (stack.receiveRunIdle header).connectionList = stack.connectionList ∧
      (stack.receiveRunIdle header).object = stack.object := by
  unfold receiveRunIdle
  dsimp only
  split <;> exact ⟨rfl, rfl⟩

theorem receiveBehindSequenceCount_table {consuming : Option CipInstanceNum} {noNewData : Bool} {data : List CipOctet}
    {dataLength : UInt16} (done : stack.receiveBehindSequenceCount consuming noNewData data dataLength = .ok after) :
    after.connectionList = stack.connectionList ∧ after.object = stack.object := by
  unfold receiveBehindSequenceCount at done
  split at done
  · split at done
    · have header := receiveRunIdle_table stack (getUdintFromMessage.run data).1
      have written := receiveAssemblyData_table done
      exact ⟨written.1.trans header.1, written.2.trans header.2⟩
    · exact receiveAssemblyData_table done
  · cases done
    exact ⟨rfl, rfl⟩

/-- The count a message leaves in the object; only class 1 counts. -/
def countBehind (object : CipConnectionObject) (data : List CipOctet) : UInt16 :=
  if object.getTransportClass = .class1 then uintOf data else object.sequenceCountConsuming

theorem handleReceivedIoConnectionData_table {data : List CipOctet} {dataLength : UInt16}
    (done : stack.handleReceivedIoConnectionData slot data dataLength = .ok after) :
    after.connectionList = stack.connectionList ∧ after.object = Function.update stack.object slot
      { stack.object slot with sequenceCountConsuming := countBehind (stack.object slot) data } := by
  unfold handleReceivedIoConnectionData at done
  unfold countBehind
  rw [getUintFromMessage_run] at done
  dsimp only at done
  split at done
  · rename_i class1
    rw [if_pos class1]
    exact receiveBehindSequenceCount_table done
  · rename_i other
    have written := receiveBehindSequenceCount_table done
    rw [if_neg other]
    exact ⟨written.1, written.2.trans (Function.update_eq_self slot stack.object).symm⟩

theorem connectionReceiveData_counts (done : stack.connectionReceiveData slot received = .ok after) :
    CountsOnly slot stack after := by
  unfold connectionReceiveData at done
  split at done
  · cases done
    exact .of_same rfl rfl
  · have written := handleReceivedIoConnectionData_table done
    exact ⟨written.1, _, written.2⟩

theorem getConnectedObject_mem {connectionId : UInt32} (found : stack.getConnectedObject connectionId = some slot) :
    slot ∈ stack.connectionList.toList := (findConnection_mem found).1

theorem addressee_connected (addressed : stack.addressee received = some slot) :
    stack.getConnectedObject received.connectionIdentifier = some slot := by
  unfold addressee at addressed
  split at addressed
  · exact (Option.filter_eq_some_iff.mp addressed).1
  · cases addressed

theorem receiveFromOriginator_object (done : stack.receiveFromOriginator slot received = .ok after) :
    after.connectionList = stack.connectionList ∧
      ∃ object, after.object = Function.update stack.object slot object ∧
        newestNumber object =
          if passesSequenceCheck (stack.object slot) received.sequenceNumber then some received.sequenceNumber
          else newestNumber (stack.object slot) := by
  cases passes : passesSequenceCheck (stack.object slot) received.sequenceNumber with
  | false =>
      rw [receiveFromOriginator_stale passes] at done
      cases done
      exact ⟨rfl, _, rfl, rfl⟩
  | true =>
      rw [receiveFromOriginator_newer passes] at done
      obtain ⟨list, count, object⟩ := connectionReceiveData_counts done
      refine ⟨list, { (stack.accepting slot received.sequenceNumber).object slot with sequenceCountConsuming := count },
        ?_, ?_⟩
      · rw [object]
        exact Function.update_idem ..
      · rw [accepting, modifyObject, setObject_object, Function.update_self]
        rfl

theorem handleReceivedConnectedData_newestNumber (done : stack.handleReceivedConnectedData received = .ok after) :
    after.connectionList = stack.connectionList ∧
      newestNumber (after.object slot) =
        if stack.addressee received = some slot ∧
            passesSequenceCheck (stack.object slot) received.sequenceNumber = true then some received.sequenceNumber
        else newestNumber (stack.object slot) := by
  rw [handleReceivedConnectedData_eq] at done
  cases addressed : stack.addressee received with
  | none =>
      rw [addressed] at done
      cases done
      simp
  | some other =>
      rw [addressed] at done
      obtain ⟨list, object, written, number⟩ := receiveFromOriginator_object done
      refine ⟨list, ?_⟩
      by_cases same : other = slot
      · subst same
        rw [written, Function.update_self, number]
        simp
      · rw [written, Function.update_of_ne (Ne.symm same)]
        simp [same]

end Reception

section Lifetimes

structure Moment (config : Configuration) where
  before : Stack config
  event : DataEvent

/-- What happens while a connection is listed in the slot; the last event may end it or fault. -/
inductive Lifetime (slot : Slot config) : Stack config → List (Moment config) → Prop
  | ended (stack : Stack config) : Lifetime slot stack []
  | faulted {stack : Stack config} {event : DataEvent} {fault : Fault} (listed : slot ∈ stack.connectionList.toList)
      (failed : stack.handleDataEvent event = .error fault) : Lifetime slot stack [⟨stack, event⟩]
  | goesOn {stack after : Stack config} {event : DataEvent} {later : List (Moment config)}
      (listed : slot ∈ stack.connectionList.toList)
      (kept : ∀ operation other, event = .operation operation other → ¬ OpensIn slot stack operation)
      (done : stack.handleDataEvent event = .ok after) (rest : Lifetime slot after later) :
      Lifetime slot stack (⟨stack, event⟩ :: later)

/-- A message for the connection, with the stack it is received in and its place in the producer's stream. -/
structure Reception (config : Configuration) where
  before : Stack config
  position : Nat
  received : ConnectedData

def Moment.reception (slot : Slot config) (moment : Moment config) : Option (Reception config) :=
  match moment.event with
  | .operation _ _ => none
  | .datagram position datagram =>
      (datagram.received.filter fun received => moment.before.addressee received = some slot).map
        (⟨moment.before, position, ·⟩)

def receptions (slot : Slot config) (moments : List (Moment config)) : List (Reception config) :=
  moments.filterMap (·.reception slot)

structure DataOpened (slot : Slot config) (opened : Stack config) : Prop where
  opening : ∃ before operation, Reached before ∧ OpensIn slot before operation ∧ before.step operation = .ok opened
  io : slot.instanceType ≠ .explicitMessaging

theorem DataOpened.reached (opening : DataOpened slot opened) : Reached opened := by
  obtain ⟨before, operation, reached, opens, done⟩ := opening.opening
  exact reached.step done

/-- The events one after the other, as long as the connection is listed and nothing else is opened. -/
def undergo (slot : Slot config) : Stack config → List DataEvent → Option (List (Moment config))
  | _, [] => some []
  | stack, event :: later =>
      match event with
      | .operation operation _ =>
          if slot ∈ stack.connectionList.toList ∧ operation.openRequest = none then
            match stack.step operation with
            | .ok after => (undergo slot after later).map (⟨stack, event⟩ :: ·)
            | .error _ => none
          else none
      | .datagram _ datagram =>
          if slot ∈ stack.connectionList.toList then
            match stack.handleReceivedDatagram datagram with
            | .ok after => (undergo slot after later).map (⟨stack, event⟩ :: ·)
            | .error _ => none
          else none

theorem lifetime_of_undergo {events : List DataEvent} {moments : List (Moment config)}
    (undergone : undergo slot stack events = some moments) : Lifetime slot stack moments := by
  induction events generalizing stack moments with
  | nil =>
      cases undergone
      exact .ended stack
  | cons event later ih =>
      unfold undergo at undergone
      cases event with
      | operation operation other =>
          dsimp only at undergone
          split at undergone
          · rename_i fine
            split at undergone
            · rename_i after done
              obtain ⟨rest, undergoneLater, rfl⟩ := Option.map_eq_some_iff.mp undergone
              refine .goesOn fine.1 ?_ done (ih undergoneLater)
              intro same _ sameEvent
              cases sameEvent
              rintro ⟨isLfo, request, opens, _⟩
              exact absurd opens (by simp [fine.2])
            · cases undergone
          · cases undergone
      | datagram position datagram =>
          dsimp only at undergone
          split at undergone
          · rename_i listed
            split at undergone
            · rename_i after done
              obtain ⟨rest, undergoneLater, rfl⟩ := Option.map_eq_some_iff.mp undergone
              exact .goesOn listed (fun _ _ same => by cases same) done (ih undergoneLater)
            · cases undergone
          · cases undergone

def undergoFromOpening (slot : Slot config) (operations : List Operation) (opening : Request)
    (events : List DataEvent) : Option (Stack config × List (Moment config)) :=
  match operations.foldlM step (SampleApplication.start config) with
  | .error _ => none
  | .ok before =>
      match before.step (.forwardOpen opening) with
      | .error _ => none
      | .ok opened =>
          if before.selectedObject false opening = some slot ∧ slot.instanceType ≠ .explicitMessaging then
            (undergo slot opened events).map (opened, ·)
          else none

theorem lifetime_of_undergoFromOpening {operations : List Operation} {opening : Request} {events : List DataEvent}
    {moments : List (Moment config)}
    (undergone : undergoFromOpening slot operations opening events = some (opened, moments)) :
    DataOpened slot opened ∧ Lifetime slot opened moments := by
  unfold undergoFromOpening at undergone
  split at undergone
  · cases undergone
  · rename_i before run
    split at undergone
    · cases undergone
    · rename_i after done
      split at undergone
      · rename_i selected
        obtain ⟨rest, undergoneLater, same⟩ := Option.map_eq_some_iff.mp undergone
        cases same
        refine ⟨⟨⟨before, _, ⟨_, _, operations, run⟩, ⟨false, opening, rfl, selected.1⟩, done⟩, selected.2⟩, ?_⟩
        exact lifetime_of_undergo undergoneLater
      · cases undergone

end Lifetimes

end Stack

namespace SampleApplication

def firstOwner : Slot configuration := .exclusiveOwner ⟨0, exclusiveOwners_some⟩

def dataDatagram (leftOver : CipCommonPacketFormatData) (address : PacketItem) (item : List CipOctet)
    (fits : item.length < 2 ^ 16) : Datagram :=
  let packet := encodePacket 2 address ⟨kCipItemIdConnectedDataItem, item, fits⟩ []
  ⟨leftOver, packet, packet.length, 0x0B01A8C0⟩

def runIdleConfiguration : Configuration := { configuration with consumeRunIdle := true }

def firstRunIdleOwner : Slot runIdleConfiguration := .exclusiveOwner ⟨0, by decide⟩

def noItems : CipCommonPacketFormatData := ⟨0, ⟨0, 0, ⟨0, 0⟩⟩, ⟨0, 0, []⟩, ⟨.zero, .zero⟩⟩

end SampleApplication

end EtherNetIP
