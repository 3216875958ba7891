import EtherNetIP.Cip.DataItems
import EtherNetIP.Cip.DataStream

/-! Fresh data and the sequence count of class 1.

Behind the encapsulation sequence number the data of class 1 have a count of
their own. Its newest value starts with zero instead of a mark that there is
none, and an explicit request with the identifier of the connection writes it as
well. Packets in between compare with the packet before them.
-/

set_option autoImplicit false

namespace EtherNetIP

open Library CipConnectionObject

variable {config : Configuration}

namespace Stack

variable {stack after opened : Stack config} {slot : Slot config} {moments : List (Moment config)} {length : Nat}

section Counts

def NotesRequestIn (slot : Slot config) (stack : Stack config) : Operation → Prop
  | .connectedMessageReceived _ connectionIdentifier _ => stack.getConnectedObject connectionIdentifier = some slot
  | _ => False

def KeepsCount (_ : Slot config) (before after : CipConnectionObject) : Prop :=
  after.sequenceCountConsuming = before.sequenceCountConsuming

theorem keepsCount_tolerant : Tolerant (@KeepsCount config) where
  refl := fun _ _ => rfl
  trans := fun _ _ _ _ one two => Eq.trans two one
  takenOver := fun _ _ _ _ => rfl
  released := fun _ _ => rfl
  timedOut := fun _ _ _ => rfl

theorem step_count (reached : Reached stack) {operation : Operation} (other : ¬ operation.receivesData)
    (silent : ¬ NotesRequestIn slot stack operation) (listed : slot ∈ stack.connectionList.toList)
    (stillListed : slot ∈ after.connectionList.toList) (kept : ¬ OpensIn slot stack operation)
    (done : stack.step operation = .ok after) :
    (after.object slot).sequenceCountConsuming = (stack.object slot).sequenceCountConsuming := by
  by_cases notes : operation.notesRequest
  · cases operation with
    | connectedMessageReceived items connectionIdentifier sequenceCount =>
        have same : stack.receiveConnectedMessage items connectionIdentifier sequenceCount = after := Except.ok.inj done
        cases found : stack.getConnectedObject connectionIdentifier with
        | none =>
            have unknown : Stack.getConnectedObject { stack with addressInfoItems := items } connectionIdentifier = none :=
              found
            rw [← same]
            unfold receiveConnectedMessage
            dsimp only
            rw [unknown]
        | some noted =>
            have differs : slot ≠ noted := by
              rintro rfl
              exact silent found
            rw [← same, receiveConnectedMessage_eq found]
            change ((stack.modifyObject noted (noteReception sequenceCount)).object slot).sequenceCountConsuming = _
            rw [modifyObject, setObject_object, Function.update_of_ne differs]
    | connectedReplyStored place reply =>
        have same : stack.storeReplyAt place reply = after := Except.ok.inj done
        by_cases somewhere : ∃ stored : Slot config, stored.poolObject = place
        · obtain ⟨stored, rfl⟩ := somewhere
          rw [← same, storeReplyAt_slot, modifyObject, setObject_object]
          by_cases here : slot = stored
          · subst here
            rw [Function.update_self]
            rfl
          · rw [Function.update_of_ne here]
        · rw [← same, storeReplyAt_nowhere fun stored here => somewhere ⟨stored, here⟩]
    | _ => exact absurd notes id
  · refine step_sparesOthers keepsCount_tolerant reached.intact ?_ ?_ done slot listed stillListed kept
    · exact fun slot object later counted => counted.count notes fun data => absurd data other
    · exact fun _ _ _ => rfl

theorem HandsOn.count {received : ConnectedData} (hands : stack.HandsOn slot received)
    (class1 : (stack.object slot).getTransportClass = .class1)
    (done : stack.handleReceivedConnectedData received = .ok after) :
    (after.object slot).sequenceCountConsuming = uintOf received.data := by
  have own : (stack.accepting slot received.sequenceNumber).object slot =
      acceptSequenceNumber received.sequenceNumber (resetLastPackageInactivityTimer (stack.object slot)) :=
    Function.update_self ..
  rw [handleReceivedConnectedData_eq, hands.1] at done
  dsimp only at done
  rw [receiveFromOriginator_newer hands.2.1] at done
  unfold connectionReceiveData at done
  split at done
  · rename_i nothing
    rw [own] at nothing
    exact absurd nothing hands.2.2
  · have written := (handleReceivedIoConnectionData_table done).2
    have counts : ((stack.accepting slot received.sequenceNumber).object slot).getTransportClass = .class1 := by
      rw [own]
      exact class1
    rw [written, Function.update_self, countBehind, if_pos counts]

theorem handleReceivedConnectedData_count {received : ConnectedData} (dropped : ¬ stack.HandsOn slot received)
    (done : stack.handleReceivedConnectedData received = .ok after) :
    (after.object slot).sequenceCountConsuming = (stack.object slot).sequenceCountConsuming := by
  rw [handleReceivedConnectedData_eq] at done
  cases addressed : stack.addressee received with
  | none =>
      rw [addressed] at done
      cases done
      rfl
  | some other =>
      rw [addressed] at done
      dsimp only at done
      cases passes : passesSequenceCheck (stack.object other) received.sequenceNumber with
      | false =>
          rw [receiveFromOriginator_stale passes] at done
          cases done
          rw [modifyObject, setObject_object]
          by_cases same : slot = other
          · subst same
            rw [Function.update_self]
            rfl
          · rw [Function.update_of_ne same]
      | true =>
          rw [receiveFromOriginator_newer passes] at done
          by_cases same : slot = other
          · subst same
            have own : (stack.accepting slot received.sequenceNumber).object slot =
                acceptSequenceNumber received.sequenceNumber (resetLastPackageInactivityTimer (stack.object slot)) :=
              Function.update_self ..
            unfold connectionReceiveData at done
            split at done
            · cases done
              rw [own]
              rfl
            -- data that reach the assembly have been handed on
            · rename_i called
              rw [own] at called
              refine absurd ⟨addressed, passes, fun nothing => ?_⟩ dropped
              have function : (stack.object slot).connectionReceiveDataFunction =
                  some .handleReceivedIoConnectionData := called
              rw [nothing] at function
              cases function
          · obtain ⟨_, count, object⟩ := connectionReceiveData_counts done
            rw [object, Function.update_of_ne same, accepting, modifyObject, setObject_object,
              Function.update_of_ne same]

def Moment.silent (slot : Slot config) (moment : Moment config) : Prop :=
  ∀ operation other, moment.event = .operation operation other → ¬ NotesRequestIn slot moment.before operation

/-- The step lemma: the count changes with the messages that are handed on only. -/
theorem handleDataEvent_count (reached : Reached stack) {event : DataEvent}
    (silent : (⟨stack, event⟩ : Moment config).silent slot) (class1 : (stack.object slot).getTransportClass = .class1)
    (listed : slot ∈ stack.connectionList.toList) (stillListed : slot ∈ after.connectionList.toList)
    (kept : ∀ operation other, event = .operation operation other → ¬ OpensIn slot stack operation)
    (done : stack.handleDataEvent event = .ok after) :
    (after.object slot).sequenceCountConsuming =
      match (⟨stack, event⟩ : Moment config).reception slot with
      | none => (stack.object slot).sequenceCountConsuming
      | some reception =>
          if stack.HandsOn slot reception.received then uintOf reception.received.data
          else (stack.object slot).sequenceCountConsuming := by
  cases event with
  | operation operation other =>
      exact step_count reached other (silent operation other rfl) listed stillListed (kept operation other rfl) done
  | datagram position datagram =>
      have handled : stack.handleReceivedDatagram datagram = .ok after := done
      unfold handleReceivedDatagram at handled
      unfold Moment.reception
      dsimp only
      cases parsed : datagram.received with
      | none =>
          rw [parsed] at handled
          cases handled
          rfl
      | some received =>
          rw [parsed] at handled
          by_cases addressed : stack.addressee received = some slot
          · simp only [addressed, decide_true, Option.filter_some, if_true, Option.map_some]
            by_cases hands : stack.HandsOn slot received
            · rw [if_pos hands]
              exact hands.count class1 handled
            · rw [if_neg hands]
              exact handleReceivedConnectedData_count hands handled
          · simp only [addressed, decide_false, Option.filter_some, Bool.false_eq_true, if_false, Option.map_none]
            exact handleReceivedConnectedData_count (fun hands => addressed hands.1) handled

theorem handleDataEvent_sameConnection (reached : Reached stack) {event : DataEvent}
    (listed : slot ∈ stack.connectionList.toList) (stillListed : slot ∈ after.connectionList.toList)
    (kept : ∀ operation other, event = .operation operation other → ¬ OpensIn slot stack operation)
    (done : stack.handleDataEvent event = .ok after) : SameConnection (stack.object slot) (after.object slot) := by
  cases event with
  | operation operation other =>
      exact step_sameConnection reached.intact listed stillListed (kept operation other rfl) done
  | datagram position datagram =>
      have handled : stack.handleReceivedDatagram datagram = .ok after := done
      unfold handleReceivedDatagram at handled
      split at handled
      · cases handled
        rfl
      · rename_i received _
        have operated : stack.step (.receiveConnectedData received) = .ok after := handled
        refine step_sameConnection reached.intact listed stillListed ?_ operated
        rintro ⟨isLfo, request, opens, _⟩
        cases opens

theorem Lifetime.sameConnection (lifetime : Lifetime slot stack moments) (reached : Reached stack) :
    ∀ moment ∈ moments, Reached moment.before ∧ SameConnection (stack.object slot) (moment.before.object slot) := by
  induction lifetime with
  | ended stack => simp
  | faulted listed failed =>
      intro moment member
      rw [List.mem_singleton] at member
      subst member
      exact ⟨reached, rfl⟩
  | goesOn listed kept done rest ih =>
      intro moment member
      rcases List.mem_cons.mp member with rfl | later
      · exact ⟨reached, rfl⟩
      · have stillListed := rest.nil_or_listed.resolve_left fun nothing => by simp [nothing] at later
        have same := handleDataEvent_sameConnection reached listed stillListed kept done
        obtain ⟨nextReached, onwards⟩ := ih (handleDataEvent_reached reached done) moment later
        exact ⟨nextReached, same.trans onwards⟩

def handedOn (slot : Slot config) (receptions : List (Reception config)) : List (Reception config) :=
  receptions.filter fun reception => reception.before.HandsOn slot reception.received

def Reception.count (reception : Reception config) : UInt16 := uintOf reception.received.data

def lastCount (receptions : List (Reception config)) : UInt16 := receptions.getLast?.elim 0 (·.count)

/-- Each message finds the count of the one before it. -/
def CountsFrom (slot : Slot config) : UInt16 → List (Reception config) → Prop
  | _, [] => True
  | count, reception :: later =>
      (reception.before.object slot).sequenceCountConsuming = count ∧ CountsFrom slot reception.count later

theorem CountsFrom.before {earlier later : List (Reception config)} {reception : Reception config} {start : UInt16}
    (counts : CountsFrom slot start (earlier ++ reception :: later)) :
    (reception.before.object slot).sequenceCountConsuming = earlier.getLast?.elim start (·.count) := by
  induction earlier generalizing start with
  | nil => exact counts.1
  | cons first rest ih =>
      rw [ih counts.2]
      cases rest with
      | nil => rfl
      | cons second others => simp [List.getLast?_cons]

/-- The run lemma: the count in the object is that of the last message handed on. -/
theorem Lifetime.counts (lifetime : Lifetime slot stack moments) (reached : Reached stack)
    (class1 : (stack.object slot).getTransportClass = .class1) (silent : ∀ moment ∈ moments, moment.silent slot) :
    CountsFrom slot (stack.object slot).sequenceCountConsuming (handedOn slot (receptions slot moments)) := by
  induction lifetime with
  | ended stack => trivial
  | @faulted stack event fault listed failed =>
      cases received : (⟨stack, event⟩ : Moment config).reception slot with
      | none => simp [receptions, handedOn, received, CountsFrom]
      | some reception =>
          have here : reception.before = stack := (Reception.addressed received).1
          have same : receptions slot [⟨stack, event⟩] = [reception] := by simp [receptions, received]
          rw [same, handedOn, List.filter_singleton, Bool.cond_decide]
          split
          · exact ⟨by rw [here], trivial⟩
          · trivial
  | @goesOn stack after event later listed kept done rest ih =>
      have nextReached := handleDataEvent_reached reached done
      have silentHere := silent _ List.mem_cons_self
      have silentLater (moment : Moment config) (member : moment ∈ later) : moment.silent slot :=
        silent moment (List.mem_cons_of_mem _ member)
      -- once the connection is gone nothing is received any more
      have goes (count : UInt16)
          (left : slot ∈ after.connectionList.toList → (after.object slot).sequenceCountConsuming = count) :
          CountsFrom slot count (handedOn slot (receptions slot later)) := by
        rcases rest.nil_or_listed with rfl | stillListed
        · trivial
        · rw [← left stillListed]
          refine ih nextReached ?_ silentLater
          have same := handleDataEvent_sameConnection reached listed stillListed kept done
          rw [← same.eq getTransportClass fun _ => rfl]
          exact class1
      have count (stillListed : slot ∈ after.connectionList.toList) :=
        handleDataEvent_count reached silentHere class1 listed stillListed kept done
      cases received : (⟨stack, event⟩ : Moment config).reception slot with
      | none =>
          have same : receptions slot (⟨stack, event⟩ :: later) = receptions slot later := by
            simp [receptions, received]
          rw [same]
          refine goes _ fun stillListed => ?_
          rw [count stillListed, received]
      | some reception =>
          have same : receptions slot (⟨stack, event⟩ :: later) = reception :: receptions slot later := by
            simp [receptions, received]
          have here : reception.before = stack := (Reception.addressed received).1
          rw [same, handedOn, List.filter_cons]
          -- a message that is not handed on leaves the count as it was
          by_cases hands : stack.HandsOn slot reception.received
          · rw [here, decide_eq_true hands, if_pos rfl]
            refine ⟨by rw [here], goes _ fun stillListed => ?_⟩
            rw [count stillListed, received]
            exact if_pos hands
          · rw [here, decide_eq_false hands, if_neg (by simp)]
            refine goes _ fun stillListed => ?_
            rw [count stillListed, received]
            exact if_neg hands

end Counts

section Freshness

namespace Reception

variable {reception : Reception config}

/-- The data item has the size the connection was opened with. -/
def RightLength (slot : Slot config) (reception : Reception config) : Prop :=
  reception.received.dataItemLength.toNat = (reception.before.object slot).getOToTConnectionSize

instance (slot : Slot config) (reception : Reception config) : Decidable (reception.RightLength slot) :=
  inferInstanceAs (Decidable (_ = _))

def Updates (slot : Slot config) (reception : Reception config) : Prop :=
  let outputAssembly := (reception.before.object slot).consumedPath.instanceId
  ∃ length after, config.assemblyLength outputAssembly = some length ∧
    reception.before.handleReceivedConnectedData reception.received = .ok after ∧
    octetsOf (after.assemblyData outputAssembly) length =
      octetsOf (reception.before.payloadOf slot reception.received) length

end Reception

theorem seqLeq16_iff (a b : UInt16) : seqLeq16 a b = false ↔ IsNewer a.toBitVec b.toBitVec := by
  rw [seqLeq16, decide_eq_false_iff_not, Int16.le_iff_toInt_le, IsNewer]
  exact Int.not_le

theorem Reception.updates {reception : Reception config} (reached : Reached reception.before)
    (io : slot.instanceType ≠ .explicitMessaging)
    (hands : reception.before.HandsOn slot reception.received)
    (consumes : (reception.before.object slot).getOToTConnectionType ≠ .null) (right : reception.RightLength slot)
    (newer : IsNewer reception.count.toBitVec (reception.before.object slot).sequenceCountConsuming.toBitVec) :
    reception.Updates slot := by
  have established := (getConnectedObject_established (addressee_connected hands.1)).2
  have listed := getConnectedObject_mem (addressee_connected hands.1)
  obtain ⟨length, known, _⟩ := (reached.sizesAgree slot listed io).consumer consumes
  have consumer := reached.consumingInstance io established consumes
  obtain ⟨after, done, _, assemblies⟩ := hands.item consumer known
  refine ⟨length, after, known, done, ?_⟩
  by_cases nonempty : length = 0
  · subst nonempty
    simp [octetsOf]
  · have size := (reached.consumer io established consumes known nonempty).2
    have agreed : reception.received.dataItemLength.toNat = _ := right.trans size
    have fresh : repeatsCount (reception.before.object slot) reception.received.data = false := by
      have notOld : seqLeq16 (uintOf reception.received.data) _ = false := (seqLeq16_iff _ _).mpr newer
      rw [repeatsCount, notOld, Bool.and_false]
    rw [assemblies, assembliesBehind_eq nonempty (UInt16.le_iff_toNat_le.mpr (by omega)) (.inr (by omega)),
      if_pos ⟨fresh, agreed⟩, Function.update_self]

/-- The data of the first message of the right length are written, and then those of each one that is newer than the
message before it. -/
structure DataFresh (slot : Slot config) (handed : List (Reception config)) : Prop where
  first : ∀ earlier reception later, handed = earlier ++ reception :: later → reception.RightLength slot →
    (∀ other ∈ earlier, ¬ other.RightLength slot) → reception.Updates slot
  afterwards : ∀ earlier previous reception later, handed = earlier ++ previous :: reception :: later →
    (∃ other ∈ earlier ++ [previous], other.RightLength slot) → reception.RightLength slot →
    IsNewer reception.count.toBitVec previous.count.toBitVec → reception.Updates slot

/-- The first message of the right length is newer than the one before it, or than zero. -/
def StartsNewer (slot : Slot config) (handed : List (Reception config)) : Prop :=
  ∀ earlier reception later, handed = earlier ++ reception :: later → reception.RightLength slot →
    (∀ other ∈ earlier, ¬ other.RightLength slot) → IsNewer reception.count.toBitVec (lastCount earlier).toBitVec

theorem DataOpened.sequenceCountConsuming (opening : DataOpened slot opened) :
    (opened.object slot).sequenceCountConsuming = 0 := by
  obtain ⟨network, asked, room, object, ioOpened⟩ := opening.ioOpened
  rw [ioOpened.read_eq (·.sequenceCountConsuming) (fun _ _ _ _ => rfl) fun _ => rfl]
  exact ioOpened.fresh.uncounted

/-- From the opening of a class 1 connection on, new data are written as promised if no explicit request is noted in
the connection's object, and the first message of the right length has a count that is newer than the one before. -/
theorem fresh_data_written (opening : DataOpened slot opened)
    (class1 : (opened.object slot).getTransportClass = .class1)
    (consumes : (opened.object slot).getOToTConnectionType ≠ .null) (lifetime : Lifetime slot opened moments)
    (silent : ∀ moment ∈ moments, moment.silent slot)
    (starts : StartsNewer slot (handedOn slot (receptions slot moments))) :
    DataFresh slot (handedOn slot (receptions slot moments)) := by
  have counts := lifetime.counts opening.reached class1 silent
  rw [opening.sequenceCountConsuming] at counts
  generalize listed : handedOn slot (receptions slot moments) = handed at starts counts ⊢
  have updates (reception : Reception config) (member : reception ∈ handed) (right : reception.RightLength slot)
      (newer : IsNewer reception.count.toBitVec (reception.before.object slot).sequenceCountConsuming.toBitVec) :
      reception.Updates slot := by
    rw [← listed] at member
    obtain ⟨inReceptions, hands⟩ := List.mem_filter.mp member
    obtain ⟨moment, inMoments, received⟩ := List.mem_filterMap.mp inReceptions
    obtain ⟨reached, same⟩ := lifetime.sameConnection opening.reached moment inMoments
    rw [← (Reception.addressed received).1] at reached same
    refine Reception.updates reached opening.io (decide_eq_true_iff.mp hands) ?_ right newer
    rw [← same.eq getOToTConnectionType fun _ => rfl]
    exact consumes
  refine ⟨?_, ?_⟩
  · intro earlier reception later split right before
    refine updates reception (by simp [split]) right ?_
    rw [split] at counts
    rw [counts.before]
    exact starts earlier reception later split right before
  · intro earlier previous reception later split _ right newer
    have here : handed = (earlier ++ [previous]) ++ reception :: later := by simp [split]
    refine updates reception (by simp [split]) right ?_
    rw [here] at counts
    rw [counts.before]
    simpa using newer

def countedDatagram (sequenceNumber : UInt32) (count : UInt16) : Datagram :=
  SampleApplication.dataDatagram SampleApplication.noItems (.sequencedAddress 0x12340013 sequenceNumber)
    (addIntToMessage count ++ List.replicate 128 7) (by simp [addIntToMessage])

def Reception.seen (slot : Slot config) (reception : Reception config) : UInt16 × Bool :=
  (reception.count, decide (reception.RightLength slot))

open SampleApplication in
/-- Counts that wrap around behind the first packet. -/
theorem fresh_data_written_across_wrap :
    ∃ (opened : Stack configuration) (moments : List (Moment configuration)),
      DataOpened firstOwner opened ∧ Lifetime firstOwner opened moments ∧
        (handedOn firstOwner (receptions firstOwner moments)).map (·.count) = [1, 0x7FFF, 0xFFFE, 3] ∧
        DataFresh firstOwner (handedOn firstOwner (receptions firstOwner moments)) := by
  let undergone := undergoFromOpening firstOwner [] (openIo 1 (pointToPoint 128) (pointToPoint 128) 101 102)
    [.datagram 0 (countedDatagram 1 1), .datagram 1 (countedDatagram 2 0x7FFF), .datagram 2 (countedDatagram 3 0xFFFE),
      .datagram 3 (countedDatagram 4 3)]
  have run : undergone.map (fun result =>
      ((handedOn firstOwner (receptions firstOwner result.2)).map (·.seen firstOwner),
        (result.1.object firstOwner).getTransportClass, (result.1.object firstOwner).getOToTConnectionType,
        result.2.all fun moment => moment.event.isDatagram)) =
      some ([(1, true), (0x7FFF, true), (0xFFFE, true), (3, true)], .class1, .pointToPoint, true) := by
    decide +kernel
  obtain ⟨⟨opened, moments⟩, same, projected⟩ := Option.map_eq_some_iff.mp run
  obtain ⟨opening, lifetime⟩ := lifetime_of_undergoFromOpening same
  simp only [Prod.mk.injEq] at projected
  obtain ⟨seen, class1, consumes, datagrams⟩ := projected
  have counts : (handedOn firstOwner (receptions firstOwner moments)).map (·.count) = [1, 0x7FFF, 0xFFFE, 3] := by
    have first := congrArg (List.map Prod.fst) seen
    rwa [List.map_map] at first
  refine ⟨opened, moments, opening, lifetime, counts, ?_⟩
  refine fresh_data_written opening class1 (by simp [consumes]) lifetime ?_ ?_
  · intro moment member operation other event
    have datagram := List.all_eq_true.mp datagrams moment member
    simp [event, DataEvent.isDatagram] at datagram
  · -- the first message has the right length, so it is the one the condition is about
    intro earlier reception later split right before
    rw [split] at seen counts
    cases earlier with
    | nil =>
        have count : reception.count = 1 := (List.cons.inj counts).1
        rw [count]
        decide
    | cons first rest =>
        have firstSeen : first.seen firstOwner = (1, true) := (List.cons.inj seen).1
        have firstRight : decide (first.RightLength firstOwner) = true := congrArg Prod.snd firstSeen
        exact absurd (of_decide_eq_true firstRight) (before first List.mem_cons_self)

open SampleApplication in
/-- The first packet has the count zero, and its data are not written. -/
theorem first_count_zero_not_written :
    ∃ (opened : Stack configuration) (moments : List (Moment configuration)),
      DataOpened firstOwner opened ∧ (opened.object firstOwner).getTransportClass = .class1 ∧
        (opened.object firstOwner).getOToTConnectionType ≠ .null ∧ Lifetime firstOwner opened moments ∧
        ¬ DataFresh firstOwner (handedOn firstOwner (receptions firstOwner moments)) := by
  let undergone := undergoFromOpening firstOwner [] (openIo 1 (pointToPoint 128) (pointToPoint 128) 101 102)
    [.datagram 0 (countedDatagram 1 0)]
  let missed (reception : Reception configuration) : Bool :=
    match reception.before.handleReceivedConnectedData reception.received with
    | .error _ => false
    | .ok after => octetsOf (after.assemblyData 101) 128 != octetsOf (reception.before.payloadOf firstOwner reception.received) 128
  have run : undergone.map (fun result =>
      ((handedOn firstOwner (receptions firstOwner result.2)).map fun reception =>
          (reception.seen firstOwner, (reception.before.object firstOwner).consumedPath.instanceId, missed reception),
        (result.1.object firstOwner).getTransportClass, (result.1.object firstOwner).getOToTConnectionType)) =
      some ([((0, true), 101, true)], .class1, .pointToPoint) := by
    decide +kernel
  obtain ⟨⟨opened, moments⟩, same, projected⟩ := Option.map_eq_some_iff.mp run
  obtain ⟨opening, lifetime⟩ := lifetime_of_undergoFromOpening same
  simp only [Prod.mk.injEq] at projected
  obtain ⟨seen, class1, consumes⟩ := projected
  refine ⟨opened, moments, opening, class1, by simp [consumes], lifetime, fun fresh => ?_⟩
  generalize listed : handedOn firstOwner (receptions firstOwner moments) = handed at fresh seen
  cases handed with
  | nil => simp at seen
  | cons reception rest =>
      have here := (List.cons.inj seen).1
      simp only [Prod.mk.injEq] at here
      obtain ⟨right, output, differs⟩ := here
      have rightLength : decide (reception.RightLength firstOwner) = true := congrArg Prod.snd right
      obtain ⟨length, after, known, done, written⟩ :=
        fresh.first [] reception rest rfl (of_decide_eq_true rightLength) (by simp)
      rw [output] at known written
      have octets : length = 128 := (Option.some.inj known).symm
      subst octets
      simp only [missed, done, bne_iff_ne] at differs
      exact differs written

end Freshness

end Stack

end EtherNetIP
