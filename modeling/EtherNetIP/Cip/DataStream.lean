import EtherNetIP.Cip.DataReception

/-! The stream of data a connection receives.

From its opening on the connection object remembers the newest encapsulation
sequence number, like the receiver of the library, whatever else the stack does.
What it hands on therefore stands in the order of the producer, each packet once.
-/

set_option autoImplicit false

namespace EtherNetIP

open Library CipConnectionObject

variable {config : Configuration}

namespace Stack

variable {stack after opened : Stack config} {slot : Slot config} {moments : List (Moment config)}

section Numbers

def KeepsNewestNumber (_ : Slot config) (before after : CipConnectionObject) : Prop :=
  newestNumber after = newestNumber before

theorem keepsNewestNumber_tolerant : Tolerant (@KeepsNewestNumber config) where
  refl := fun _ _ => rfl
  trans := fun _ _ _ _ one two => Eq.trans two one
  takenOver := fun _ _ _ _ => rfl
  released := fun _ _ => rfl
  timedOut := fun _ _ _ => rfl

theorem step_newestNumber (reached : Reached stack) {operation : Operation} (other : ¬ operation.receivesData)
    (listed : slot ∈ stack.connectionList.toList) (stillListed : slot ∈ after.connectionList.toList)
    (kept : ¬ OpensIn slot stack operation) (done : stack.step operation = .ok after) :
    newestNumber (after.object slot) = newestNumber (stack.object slot) := by
  refine step_sparesOthers keepsNewestNumber_tolerant reached.intact ?_ ?_ done slot listed stillListed kept
  · exact fun slot object later counted => counted.number other
  · exact fun _ _ _ => rfl

def numberBehind (object : CipConnectionObject) (sequenceNumber : UInt32) : Option UInt32 :=
  if passesSequenceCheck object sequenceNumber then some sequenceNumber else newestNumber object

/-- The step lemma: the newest number changes with the messages for the connection only. -/
theorem handleDataEvent_newestNumber (reached : Reached stack) {event : DataEvent}
    (listed : slot ∈ stack.connectionList.toList) (stillListed : slot ∈ after.connectionList.toList)
    (kept : ∀ operation other, event = .operation operation other → ¬ OpensIn slot stack operation)
    (done : stack.handleDataEvent event = .ok after) :
    newestNumber (after.object slot) =
      match (⟨stack, event⟩ : Moment config).reception slot with
      | none => newestNumber (stack.object slot)
      | some reception => numberBehind (stack.object slot) reception.received.sequenceNumber := by
  cases event with
  | operation operation other =>
      exact step_newestNumber reached other listed stillListed (kept operation other rfl) done
  | datagram position datagram =>
      have handled : stack.handleReceivedDatagram datagram = .ok after := done
      unfold handleReceivedDatagram at handled
      unfold Moment.reception
      dsimp only
      cases parsed : datagram.received with
      | none =>
          rw [parsed] at handled
          cases handled
          rfl
      | some received =>
          rw [parsed] at handled
          have number : newestNumber (after.object slot) = _ := (handleReceivedConnectedData_newestNumber handled).2
          by_cases addressed : stack.addressee received = some slot
          · simp [number, addressed, Option.filter, numberBehind]
          · simp [number, addressed, Option.filter]

end Numbers

section Streams

namespace Reception

variable {reception : Reception config}

def arrival (slot : Slot config) (reception : Reception config) : Arrival :=
  ⟨reception.position, passesSequenceCheck (reception.before.object slot) reception.received.sequenceNumber⟩

/-- Its producer has numbered its packets consecutively from the base on. -/
def NumberedFrom (base : UInt32) (reception : Reception config) : Prop :=
  reception.received.sequenceNumber = base + UInt32.ofNat reception.position

theorem NumberedFrom.toBitVec {base : UInt32} (numbered : reception.NumberedFrom base) :
    reception.received.sequenceNumber.toBitVec = numberAt base.toBitVec reception.position := by
  rw [numbered]
  rfl

theorem addressed {moment : Moment config} (received : moment.reception slot = some reception) :
    reception.before = moment.before ∧ reception.before.addressee reception.received = some slot := by
  unfold Moment.reception at received
  split at received
  · cases received
  · obtain ⟨message, filtered, rfl⟩ := Option.map_eq_some_iff.mp received
    exact ⟨rfl, by simpa using (Option.filter_eq_some_iff.mp filtered).2⟩

theorem addressed_of_mem (member : reception ∈ receptions slot moments) :
    reception.before.addressee reception.received = some slot := by
  obtain ⟨moment, _, received⟩ := List.mem_filterMap.mp member
  exact (addressed received).2

end Reception

def positionsHandedOn (slot : Slot config) (receptions : List (Reception config)) : List Nat :=
  (receptions.filter fun reception => reception.before.HandsOn slot reception.received).map (·.position)

theorem positionsHandedOn_sublist (slot : Slot config) (receptions : List (Reception config)) :
    (positionsHandedOn slot receptions).Sublist (acceptedPositions (receptions.map (·.arrival slot))) := by
  have same : acceptedPositions (receptions.map (·.arrival slot)) =
      (receptions.filter fun reception => (reception.arrival slot).accepted).map (·.position) := by
    rw [acceptedPositions, List.filter_map, List.map_map]
    rfl
  rw [same, positionsHandedOn]
  apply List.Sublist.map
  apply List.monotone_filter_right
  intro reception hands
  exact (decide_eq_true_iff.mp hands).2.1

theorem receivesFrom_cons {base : UInt32} {reception : Reception config} {rest : List Arrival}
    (numbered : reception.NumberedFrom base)
    (later : ReceivesFrom base.toBitVec
      ((numberBehind (reception.before.object slot) reception.received.sequenceNumber).map UInt32.toBitVec) rest) :
    ReceivesFrom base.toBitVec ((newestNumber (reception.before.object slot)).map UInt32.toBitVec)
      (reception.arrival slot :: rest) := by
  unfold Reception.arrival
  have number := numbered.toBitVec
  cases passes : passesSequenceCheck (reception.before.object slot) reception.received.sequenceNumber with
  | true =>
      rw [numberBehind, passes, if_pos rfl, Option.map_some, number] at later
      refine .accepted (fun newest member => ?_) later
      obtain ⟨newestNumber, known, rfl⟩ := Option.map_eq_some_iff.mp member
      rw [← number]
      exact (passesSequenceCheck_iff _ _).mp passes newestNumber known
  | false =>
      rw [numberBehind, passes, if_neg (by simp)] at later
      have stale : ¬ ∀ newest ∈ newestNumber (reception.before.object slot),
          IsNewer reception.received.sequenceNumber.toBitVec newest.toBitVec := by
        rw [← passesSequenceCheck_iff, passes]
        simp
      push Not at stale
      obtain ⟨newest, known, old⟩ := stale
      rw [Option.mem_def.mp known] at later ⊢
      rw [number] at old
      exact .dropped old later

theorem Lifetime.nil_or_listed (lifetime : Lifetime slot stack moments) :
    moments = [] ∨ slot ∈ stack.connectionList.toList := by
  cases lifetime with
  | ended => exact .inl rfl
  | faulted listed failed => exact .inr listed
  | goesOn listed kept done rest => exact .inr listed

/-- The run lemma: the connection object receives like a receiver with its newest number. -/
theorem Lifetime.receives {base : UInt32} (lifetime : Lifetime slot stack moments) (reached : Reached stack)
    (numbered : ∀ reception ∈ receptions slot moments, reception.NumberedFrom base) :
    ReceivesFrom base.toBitVec ((newestNumber (stack.object slot)).map UInt32.toBitVec)
      ((receptions slot moments).map (·.arrival slot)) := by
  induction lifetime with
  | ended stack => exact .nothing _
  | @faulted stack event fault listed failed =>
      cases received : (⟨stack, event⟩ : Moment config).reception slot with
      | none => simpa [receptions, received] using .nothing _
      | some reception =>
          have same : receptions slot [⟨stack, event⟩] = [reception] := by simp [receptions, received]
          rw [same] at numbered ⊢
          have here : reception.before = stack := (Reception.addressed received).1
          rw [← here]
          exact receivesFrom_cons (numbered reception List.mem_cons_self) (.nothing _)
  | @goesOn stack after event later listed kept done rest ih =>
      have nextReached := handleDataEvent_reached reached done
      -- once the connection is gone nothing is received any more
      have goes (newest : Option UInt32)
          (remembered : slot ∈ after.connectionList.toList → newestNumber (after.object slot) = newest)
          (numberedLater : ∀ reception ∈ receptions slot later, reception.NumberedFrom base) :
          ReceivesFrom base.toBitVec (newest.map UInt32.toBitVec) ((receptions slot later).map (·.arrival slot)) := by
        rcases rest.nil_or_listed with rfl | stillListed
        · exact .nothing _
        · rw [← remembered stillListed]
          exact ih nextReached numberedLater
      cases received : (⟨stack, event⟩ : Moment config).reception slot with
      | none =>
          have same : receptions slot (⟨stack, event⟩ :: later) = receptions slot later := by
            simp [receptions, received]
          rw [same] at numbered ⊢
          refine goes _ (fun stillListed => ?_) numbered
          rw [handleDataEvent_newestNumber reached listed stillListed kept done, received]
      | some reception =>
          have same : receptions slot (⟨stack, event⟩ :: later) = reception :: receptions slot later := by
            simp [receptions, received]
          rw [same] at numbered ⊢
          have here : reception.before = stack := (Reception.addressed received).1
          rw [← here]
          refine receivesFrom_cons (numbered reception List.mem_cons_self) (goes _ (fun stillListed => ?_) ?_)
          · rw [handleDataEvent_newestNumber reached listed stillListed kept done, received, here]
          · exact fun next member => numbered next (List.mem_cons_of_mem _ member)

theorem DataOpened.ioOpened (opening : DataOpened slot opened) :
    ∃ network asked room object, IoOpened network asked room slot object opened := by
  obtain ⟨before, operation, reached, opens, done⟩ := opening.opening
  exact opens.ioOpened reached.intact opening.io done

theorem DataOpened.newestNumber (opening : DataOpened slot opened) : newestNumber (opened.object slot) = none := by
  obtain ⟨network, asked, room, object, ioOpened⟩ := opening.ioOpened
  rw [ioOpened.read_eq EtherNetIP.newestNumber (fun _ _ _ _ => rfl) fun _ => rfl]
  exact ioOpened.fresh.unread

theorem handleReceivedConnectedData_stale {received : ConnectedData} (addressed : stack.addressee received = some slot)
    (stale : passesSequenceCheck (stack.object slot) received.sequenceNumber = false) :
    ∃ after, stack.handleReceivedConnectedData received = .ok after ∧ after.assemblyData = stack.assemblyData ∧
      (after.object slot).inactivityWatchdogTimer = (stack.object slot).inactivityWatchdogTimer := by
  refine ⟨stack.modifyObject slot resetLastPackageInactivityTimer, ?_, rfl, ?_⟩
  · rw [handleReceivedConnectedData_eq, addressed]
    exact receiveFromOriginator_stale stale
  · rw [modifyObject, setObject_object, Function.update_self]
    rfl

/-- From the opening of a connection on, packets that its producer numbers consecutively are handed on once and in
the producer's order as long as none arrives behind one that is 2^31 positions ahead of it. A packet at or behind
one that was handed on changes neither an assembly nor the inactivity watchdog. -/
theorem data_handed_on_once_in_order {base : UInt32} (opening : DataOpened slot opened)
    (lifetime : Lifetime slot opened moments)
    (numbered : ∀ reception ∈ receptions slot moments, reception.NumberedFrom base)
    (window : ((receptions slot moments).map (·.position)).Pairwise fun earlier later => earlier < later + 2 ^ 31) :
    (positionsHandedOn slot (receptions slot moments)).Pairwise (· < ·) ∧
      ∀ earlier reception later, receptions slot moments = earlier ++ reception :: later →
        (∃ newer ∈ positionsHandedOn slot earlier, reception.position ≤ newer) →
        ∃ after, reception.before.handleReceivedConnectedData reception.received = .ok after ∧
          after.assemblyData = reception.before.assemblyData ∧
          (after.object slot).inactivityWatchdogTimer = (reception.before.object slot).inactivityWatchdogTimer := by
  have receives := lifetime.receives opening.reached numbered
  rw [opening.newestNumber, Option.map_none] at receives
  have inWindow : InWindow 32 ((receptions slot moments).map (·.arrival slot)) := by
    unfold InWindow
    rw [List.pairwise_map] at window ⊢
    exact window
  refine ⟨(receives.increasing inWindow).sublist (positionsHandedOn_sublist slot _), ?_⟩
  rintro earlier reception later split ⟨newer, handed, behind⟩
  have addressed := Reception.addressed_of_mem (show reception ∈ receptions slot moments by simp [split])
  rw [split, List.map_append, List.map_cons] at receives inWindow
  have accepted := (positionsHandedOn_sublist slot earlier).subset handed
  exact handleReceivedConnectedData_stale addressed (receives.stale_dropped inWindow ⟨newer, accepted, behind⟩)

open SampleApplication in
/-- Numbers that wrap around from the base 2^32 - 2, with a loss, a packet that comes late and a duplicate. -/
theorem wrapped_stream_handed_on_in_order :
    ∃ (opened : Stack configuration) (moments : List (Moment configuration)),
      DataOpened firstOwner opened ∧ Lifetime firstOwner opened moments ∧
        (receptions firstOwner moments).map (·.position) = [0, 3, 1, 3, 4] ∧
        positionsHandedOn firstOwner (receptions firstOwner moments) = [0, 3, 4] ∧
        (positionsHandedOn firstOwner (receptions firstOwner moments)).Pairwise (· < ·) := by
  let base : UInt32 := 0xFFFFFFFE
  let packet (position : Nat) : DataEvent := .datagram position
    (dataDatagram noItems (.sequencedAddress 0x12340013 (base + UInt32.ofNat position))
      (addIntToMessage 1 ++ List.replicate 128 7) (by simp [addIntToMessage]))
  let undergone := undergoFromOpening firstOwner [] (openIo 1 (pointToPoint 128) (pointToPoint 128) 101 102)
    [packet 0, packet 3, packet 1, packet 3, packet 4]
  have run : undergone.map (fun result =>
      ((receptions firstOwner result.2).map fun reception => (reception.position, reception.received.sequenceNumber),
        positionsHandedOn firstOwner (receptions firstOwner result.2))) =
      some ([(0, base), (3, 1), (1, base + 1), (3, 1), (4, 2)], [0, 3, 4]) := by decide +kernel
  obtain ⟨⟨opened, moments⟩, same, projected⟩ := Option.map_eq_some_iff.mp run
  obtain ⟨opening, lifetime⟩ := lifetime_of_undergoFromOpening same
  obtain ⟨numbers, handed⟩ := Prod.mk.inj projected
  have positions : (receptions firstOwner moments).map (·.position) = [0, 3, 1, 3, 4] := by
    have first := congrArg (List.map Prod.fst) numbers
    rwa [List.map_map] at first
  refine ⟨opened, moments, opening, lifetime, positions, handed, ?_⟩
  have numbered : ∀ reception ∈ receptions firstOwner moments, reception.NumberedFrom base := by
    intro reception member
    have listed : (reception.position, reception.received.sequenceNumber) ∈
        [(0, base), (3, 1), (1, base + 1), (3, 1), (4, 2)] := by
      rw [← numbers]
      exact List.mem_map_of_mem member
    have consecutive : ∀ pair ∈ [(0, base), (3, 1), (1, base + 1), (3, 1), (4, 2)],
        pair.2 = base + UInt32.ofNat pair.1 := by simp [base]
    exact consecutive _ listed
  refine (data_handed_on_once_in_order opening lifetime numbered ?_).1
  rw [positions]
  decide

end Streams

end Stack

end EtherNetIP
