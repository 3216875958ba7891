import EtherNetIP.Cip.DataStream
import EtherNetIP.Cip.TickVisits

/-! The two watchdog timers of an I/O connection.

Each packet of the originator sets the timer of the last packet, and one that
passes the sequence check sets the inactivity watchdog as well. A tick takes the
elapsed time from both. When the connection times out the sessions are looked at
if the timers are equal: then no packet has come since the last one that passed.
An explicit message with the connection's identifier sets the watchdog only, and
before the first packet the timer of the last packet has not been set at all.
-/

set_option autoImplicit false

namespace EtherNetIP

open Library CipConnectionObject

variable {config : Configuration}

def Operation.setsTimers : Operation → Prop
  | .receiveConnectedData _ | .connectedMessageReceived _ _ _ | .manageConnections _ _ => True
  | _ => False

namespace Stack

/-- What was last heard of the originator of a connection. -/
inductive Hearing where
  | nothing
  | accepted
  /-- A packet that did not pass, later than the watchdog was set. -/
  | late
  /-- A packet that did not pass, when the watchdog had just been set. -/
  | repeated
  /-- An explicit message set the watchdog later than the last packet, which had passed or not. -/
  | overtaken (passed : Bool)
  deriving DecidableEq

namespace Hearing

/-- No packet has come since the last one that passed. -/
def isSilent : Hearing → Bool
  | .nothing | .accepted => true
  | .late | .repeated => false
  | .overtaken passed => passed

def ofPacket (object : CipConnectionObject) (sequenceNumber : UInt32) : Hearing :=
  if passesSequenceCheck object sequenceNumber then .accepted
  else if object.inactivityWatchdogTimer = object.calculateRegularInactivityWatchdogTimerValue then .repeated
  else .late

def ofMessage (object : CipConnectionObject) (hearing : Hearing) : Hearing :=
  if hearing = .nothing then .nothing
  else if object.lastPackageWatchdogTimer = object.calculateRegularInactivityWatchdogTimerValue then
    if hearing.isSilent then .accepted else .repeated
  else .overtaken hearing.isSilent

end Hearing

def Hears (object : CipConnectionObject) : Hearing → Prop
  | .nothing => object.lastPackageWatchdogTimer = 0 ∧ newestNumber object = none
  | .accepted | .repeated =>
      object.lastPackageWatchdogTimer = object.inactivityWatchdogTimer ∧
        object.inactivityWatchdogTimer ≤ object.calculateRegularInactivityWatchdogTimerValue
  | .late =>
      object.inactivityWatchdogTimer < object.lastPackageWatchdogTimer ∧
        object.lastPackageWatchdogTimer ≤ object.calculateRegularInactivityWatchdogTimerValue
  | .overtaken _ =>
      object.lastPackageWatchdogTimer < object.inactivityWatchdogTimer ∧
        object.inactivityWatchdogTimer ≤ object.calculateRegularInactivityWatchdogTimerValue

variable {stack before after opened : Stack config} {slot : Slot config} {operation : Operation}
  {object met : CipConnectionObject} {elapsedTime : MilliSeconds} {peers : Peers} {hearing : Hearing}

section Decisions

/-- The test a time-out makes before it runs the session clean-up. -/
def runsCleanUp (object : CipConnectionObject) : Bool :=
  object.lastPackageWatchdogTimer == object.inactivityWatchdogTimer

theorem closeSessionsOnTimeOut_eq (peers : Peers) (stack : Stack config) (slot : Slot config) :
    (stack.timingOut slot).closeSessionsOnTimeOut peers slot =
      if runsCleanUp (stack.object slot) then
        (stack.timingOut slot).checkForTimedOutConnectionsAndCloseTCPConnections
          (closeEncapsulationSessionBySockAddr peers) slot
      else .ok (stack.timingOut slot) := by
  have own : (stack.timingOut slot).object slot = (stack.object slot).setState .timedOut := Function.update_self ..
  unfold closeSessionsOnTimeOut runsCleanUp
  rw [own]
  simp only [beq_iff_eq]
  rfl

/-- A visit to a connection takes the elapsed time from its timer without wrapping it below zero, or times the
connection out with the clean-up exactly if no packet has come since the last one that passed. -/
def TimersRight (hearing : Hearing) (elapsedTime : MilliSeconds) (met : CipConnectionObject) : Prop :=
  met.state = .established → isWatched met = true →
    if elapsedTime ≥ met.inactivityWatchdogTimer then runsCleanUp met = hearing.isSilent
    else (decrementWatchdogTimers elapsedTime met).lastPackageWatchdogTimer.toNat + elapsedTime.toNat =
      met.lastPackageWatchdogTimer.toNat

/-- No time has elapsed before the first packet, a time-out does not follow a packet that did not pass when the watchdog
had just been set, and where an explicit message came later than the last packet there is enough left of its time. -/
def TimelyHeard (hearing : Hearing) (elapsedTime : MilliSeconds) (met : CipConnectionObject) : Prop :=
  met.state = .established → isWatched met = true →
    match hearing with
    | .nothing => elapsedTime = 0 ∨ met.inactivityWatchdogTimer = 0
    | .accepted | .late => True
    | .repeated => elapsedTime < met.inactivityWatchdogTimer
    | .overtaken passed =>
        elapsedTime ≤ met.lastPackageWatchdogTimer ∨ passed = false ∧ elapsedTime ≥ met.inactivityWatchdogTimer

theorem sub_exact_iff {timer elapsedTime : UInt64} :
    (timer - elapsedTime).toNat + elapsedTime.toNat = timer.toNat ↔ elapsedTime ≤ timer := by
  constructor
  · intro exact
    rw [UInt64.le_iff_toNat_le]
    omega
  · intro le
    rw [UInt64.toNat_sub_of_le _ _ le]
    rw [UInt64.le_iff_toNat_le] at le
    omega

theorem timersRight_iff (hears : Hears met hearing) :
    TimersRight hearing elapsedTime met ↔ TimelyHeard hearing elapsedTime met := by
  unfold TimersRight TimelyHeard
  refine imp_congr_right fun _ => imp_congr_right fun _ => ?_
  have exact : (decrementWatchdogTimers elapsedTime met).lastPackageWatchdogTimer.toNat + elapsedTime.toNat =
      met.lastPackageWatchdogTimer.toNat ↔ elapsedTime ≤ met.lastPackageWatchdogTimer := sub_exact_iff
  rw [exact]
  have equal (silent : Bool) : runsCleanUp met = silent ↔
      (met.lastPackageWatchdogTimer.toNat = met.inactivityWatchdogTimer.toNat ↔ silent = true) := by
    unfold runsCleanUp
    rw [UInt64.toNat_inj, Bool.eq_iff_iff, beq_iff_eq]
  rw [equal]
  simp only [ge_iff_le, UInt64.le_iff_toNat_le, UInt64.lt_iff_toNat_lt, ← UInt64.toNat_inj]
  cases hearing with
  | nothing =>
    obtain ⟨unset, _⟩ := hears
    rw [unset]
    simp only [Hearing.isSilent, UInt64.toNat_zero, iff_true]
    split <;> omega
  | accepted =>
    have same := congrArg UInt64.toNat hears.1
    simp only [Hearing.isSilent, iff_true]
    split <;> omega
  | late =>
    have ahead := UInt64.lt_iff_toNat_lt.mp hears.1
    simp only [Hearing.isSilent, iff_true, Bool.false_eq_true, iff_false]
    split <;> omega
  | repeated =>
    have same := congrArg UInt64.toNat hears.1
    simp only [Hearing.isSilent, Bool.false_eq_true, iff_false]
    split <;> omega
  | overtaken passed =>
    have behind := UInt64.lt_iff_toNat_lt.mp hears.1
    cases passed
    · simp only [Hearing.isSilent, Bool.false_eq_true, iff_false, true_and]
      split <;> omega
    · simp only [Hearing.isSilent, iff_true, Bool.true_eq_false, false_and, or_false]
      split <;> omega

end Decisions

section Writes

def watchOf (object : CipConnectionObject) : UInt64 × UInt64 × Option UInt32 × UInt64 :=
  (object.lastPackageWatchdogTimer, object.inactivityWatchdogTimer, newestNumber object,
    object.calculateRegularInactivityWatchdogTimerValue)

theorem Hears.of_same (hears : Hears object hearing) (same : watchOf met = watchOf object) : Hears met hearing := by
  simp only [watchOf, Prod.mk.injEq] at same
  obtain ⟨last, watchdog, newest, calculated⟩ := same
  cases hearing <;> simpa only [Hears, last, watchdog, newest, calculated] using hears

theorem Hears.within (hears : Hears object hearing) (heard : hearing ≠ .nothing) :
    object.lastPackageWatchdogTimer ≤ object.calculateRegularInactivityWatchdogTimerValue ∧
      object.inactivityWatchdogTimer ≤ object.calculateRegularInactivityWatchdogTimerValue := by
  cases hearing with
  | nothing => exact absurd rfl heard
  | accepted => exact ⟨hears.1 ▸ hears.2, hears.2⟩
  | repeated => exact ⟨hears.1 ▸ hears.2, hears.2⟩
  | late => exact ⟨hears.2, UInt64.le_trans (UInt64.le_of_lt hears.1) hears.2⟩
  | overtaken passed => exact ⟨UInt64.le_trans (UInt64.le_of_lt hears.1) hears.2, hears.2⟩

theorem hears_of_newer {sequenceNumber : UInt32} (passes : passesSequenceCheck object sequenceNumber = true)
    (last : met.lastPackageWatchdogTimer = met.calculateRegularInactivityWatchdogTimerValue)
    (watchdog : met.inactivityWatchdogTimer = met.calculateRegularInactivityWatchdogTimerValue) :
    Hears met (.ofPacket object sequenceNumber) := by
  rw [Hearing.ofPacket, if_pos passes]
  exact ⟨last.trans watchdog.symm, watchdog ▸ UInt64.le_refl _⟩

theorem Hears.heard {sequenceNumber : UInt32} (hears : Hears object hearing)
    (stale : passesSequenceCheck object sequenceNumber = false) : hearing ≠ .nothing := by
  rintro rfl
  have passes : passesSequenceCheck object sequenceNumber = true := by
    rw [passesSequenceCheck_iff, hears.2]
    exact fun _ member => nomatch member
  rw [stale] at passes
  cases passes

theorem Hears.stale {sequenceNumber : UInt32} (hears : Hears object hearing)
    (stale : passesSequenceCheck object sequenceNumber = false) :
    Hears (resetLastPackageInactivityTimer object) (.ofPacket object sequenceNumber) := by
  have within := (hears.within (hears.heard stale)).2
  rw [Hearing.ofPacket, if_neg (by simp [stale])]
  split
  next set => exact ⟨set.symm, within⟩
  next counted => exact ⟨UInt64.lt_of_le_of_ne within counted, UInt64.le_refl _⟩

theorem Hears.message (hears : Hears object hearing) (sequenceCount : Option UInt16) :
    Hears (noteReception sequenceCount object) (hearing.ofMessage object) := by
  have noted : watchOf (noteReception sequenceCount object) =
      watchOf (resetInactivityWatchdogTimerValue object) := by
    unfold noteReception
    split
    · rfl
    · split <;> rfl
  refine Hears.of_same ?_ noted
  unfold Hearing.ofMessage
  by_cases unheard : hearing = .nothing
  · subst unheard
    exact hears
  · rw [if_neg unheard]
    split
    next set =>
      have both : (resetInactivityWatchdogTimerValue object).lastPackageWatchdogTimer =
          (resetInactivityWatchdogTimerValue object).inactivityWatchdogTimer := set
      split <;> exact ⟨both, UInt64.le_refl _⟩
    next counted => exact ⟨UInt64.lt_of_le_of_ne (hears.within unheard).1 counted, UInt64.le_refl _⟩

theorem Hears.counted (hears : Hears object hearing) (timely : TimelyHeard hearing elapsedTime object)
    (established : object.state = .established) (watched : isWatched object = true)
    (inTime : elapsedTime < object.inactivityWatchdogTimer) :
    Hears (decrementWatchdogTimers elapsedTime object) hearing := by
  have right := (timersRight_iff hears).mpr timely established watched
  rw [if_neg (UInt64.not_le.mpr inTime)] at right
  have last := UInt64.toNat_sub_of_le _ _ (sub_exact_iff.mp right)
  have watchdog := UInt64.toNat_sub_of_le _ _ (UInt64.le_of_lt inTime)
  have reads : watchOf (decrementWatchdogTimers elapsedTime object) =
      (object.lastPackageWatchdogTimer - elapsedTime, object.inactivityWatchdogTimer - elapsedTime, newestNumber object,
        object.calculateRegularInactivityWatchdogTimerValue) := rfl
  simp only [watchOf, Prod.mk.injEq] at reads
  obtain ⟨lastLeft, watchdogLeft, newest, calculated⟩ := reads
  have enough := UInt64.le_iff_toNat_le.mp (sub_exact_iff.mp right)
  have more := UInt64.lt_iff_toNat_lt.mp inTime
  cases hearing with
  | nothing =>
    refine ⟨?_, newest.trans hears.2⟩
    rw [lastLeft, ← UInt64.toNat_inj, last, hears.1]
    simp
  | accepted | repeated =>
    obtain ⟨same, within⟩ := hears
    rw [Hears, lastLeft, watchdogLeft, calculated, same]
    rw [UInt64.le_iff_toNat_le] at within ⊢
    exact ⟨rfl, by omega⟩
  | late | overtaken passed =>
    obtain ⟨order, within⟩ := hears
    rw [Hears, lastLeft, watchdogLeft, calculated]
    rw [UInt64.lt_iff_toNat_lt] at order ⊢
    rw [UInt64.le_iff_toNat_le] at within ⊢
    omega

end Writes

section Steps

def KeepsWatch (_ : Slot config) (before after : CipConnectionObject) : Prop :=
  (after.state = .established → before.state = .established) ∧ watchOf after = watchOf before

theorem keepsWatch_tolerant : Tolerant (@KeepsWatch config) where
  refl := fun _ _ => ⟨id, rfl⟩
  trans := fun _ _ _ _ one two => ⟨fun established => one.1 (two.1 established), two.2.trans one.2⟩
  takenOver := fun _ _ _ _ => ⟨id, rfl⟩
  released := fun _ _ => ⟨id, rfl⟩
  timedOut := fun _ _ _ => ⟨nofun, rfl⟩

theorem closeAllConnections_spares {related : Slot config → CipConnectionObject → CipConnectionObject → Prop}
    (coherent : Coherent stack) : Settles stack.closeAllConnections (Spares related stack) (fun _ => True) := by
  apply (closeAllConnections_empties coherent).mono
  rintro after ⟨empty, _⟩ slot listed
  rw [empty] at listed
  cases listed

theorem forwardClose_spares {related : Slot config → CipConnectionObject → CipConnectionObject → Prop}
    (tolerant : Tolerant related) (coherent : Coherent stack) (request : Request) :
    Settles (stack.forwardClose request) (fun answered => Spares related stack answered.2) (fun _ => True) := by
  have asked (addressInfoItems : AddressInfoItems) :
      Settles (closeRequestedConnection request { stack with addressInfoItems })
        (fun answered => Spares related stack answered.2) (fun _ => True) := by
    have cleared : Coherent { stack with addressInfoItems } := coherent.of_same_table rfl rfl
    have same : Spares related stack { stack with addressInfoItems } := .of_same tolerant rfl rfl
    apply (closeRequestedConnection_closes cleared request).imp
    · rintro answered (kept | ⟨slot, listed, closed⟩)
      · exact kept ▸ same
      · exact same.trans tolerant (.of_closed tolerant cleared closed)
    · exact fun _ _ => trivial
  exact asked _

/-- What an operation that does not write timers leaves of a connection that stays. -/
theorem step_keepsWatch (intact : Intact stack) (io : slot.instanceType ≠ .explicitMessaging)
    (untimed : ¬operation.setsTimers) (kept : ¬OpensIn slot stack operation) (done : stack.step operation = .ok after)
    (listed : slot ∈ after.connectionList.toList) :
    slot ∈ stack.connectionList.toList ∧ KeepsWatch slot (stack.object slot) (after.object slot) := by
  have coherent := intact.coherent
  have aside {computation : Except Fault (Stack config)} (aside : StandsAside operation.names stack computation)
      (ends : computation = .ok after) :
      slot ∈ stack.connectionList.toList ∧ KeepsWatch slot (stack.object slot) (after.object slot) :=
    Spares.of_aside keepsWatch_tolerant (aside.returns ends) slot listed
  have same (ends : Aside operation.names stack after) :
      slot ∈ stack.connectionList.toList ∧ KeepsWatch slot (stack.object slot) (after.object slot) :=
    Spares.of_aside keepsWatch_tolerant ends slot listed
  -- one case an operation; those that write timers are excluded and come last
  cases operation with
  | acceptTcpSocket socket => exact aside (acceptTcpSocket_aside socket) done
  | receiveOnTcpSocket socket => exact aside (StandsAside.of_ok (updateSocketTimer_aside socket)) done
  | tcpSocketClosed socket => exact aside (handleDataOnClosedTcpSocket_aside coherent socket) done
  | tcpSocketFailed socket => exact aside (closeFailedTcpSocket_aside coherent rfl) done
  | registerSession socket protocolVersion optionFlag =>
    have names : (Operation.registerSession socket protocolVersion optionFlag).names socket := rfl
    exact aside (settles_map_snd (registerSession_aside names protocolVersion optionFlag)) done
  | unregisterSession handle => exact aside (settles_map_snd (unregisterSession_aside coherent handle)) done
  | forwardOpen request | largeForwardOpen request =>
    have before := (step_listed intact done io listed).resolve_right kept
    obtain ⟨answered, outcome, rfl⟩ := map_eq_ok.mp done
    refine ⟨before, forwardOpenRoutine_sparesOthers keepsWatch_tolerant intact outcome slot before listed fun taken => ?_⟩
    exact kept ⟨_, request, rfl, taken⟩
  | forwardClose request =>
    exact (settles_map_snd (forwardClose_spares keepsWatch_tolerant coherent request)).returns done slot listed
  | connectedReplyStored place reply =>
    obtain rfl : stack.storeReplyAt place reply = after := Except.ok.inj done
    by_cases somewhere : ∃ stored : Slot config, stored.poolObject = place
    · obtain ⟨stored, rfl⟩ := somewhere
      have written : KeepsWatch stored (stack.object stored) (storeReply reply (stack.object stored)) := ⟨id, rfl⟩
      rw [storeReplyAt_slot] at listed ⊢
      exact Spares.setObject keepsWatch_tolerant written slot listed
    · rw [storeReplyAt_nowhere fun stored here => somewhere ⟨stored, here⟩] at listed ⊢
      exact Spares.refl keepsWatch_tolerant stack slot listed
  | resetDevice => exact (closeAllConnections_spares coherent).returns done slot listed
  | otherServiceExecuted assemblyData encapsulationInactivityTimeout =>
    cases done
    exact same (.of_same rfl rfl rfl rfl rfl)
  | setDeviceStatus status =>
    cases done
    exact same (.of_same rfl rfl rfl rfl rfl)
  | checkEncapsulationInactivity socket => exact aside (checkEncapsulationInactivity_aside coherent rfl) done
  | passTime actualTime =>
    cases done
    exact same (.of_same rfl rfl rfl rfl rfl)
  | receiveConnectedData received => exact absurd trivial untimed
  | connectedMessageReceived items connectionIdentifier sequenceCount => exact absurd trivial untimed
  | manageConnections peers elapsedTime => exact absurd trivial untimed

def ConnectionRun (slot : Slot config) : Stack config → List Operation → Prop :=
  Along step fun stack operation => ¬OpensIn slot stack operation

def heardAfter (slot : Slot config) (stack : Stack config) (hearing : Hearing) : Operation → Hearing
  | .receiveConnectedData received =>
      if stack.addressee received = some slot then .ofPacket (stack.object slot) received.sequenceNumber else hearing
  | .connectedMessageReceived _ connectionIdentifier _ =>
      if stack.getConnectedObject connectionIdentifier = some slot then hearing.ofMessage (stack.object slot) else hearing
  | _ => hearing

def stepHearing (slot : Slot config) (state : Stack config × Hearing) (operation : Operation) :
    Except Fault (Stack config × Hearing) :=
  (state.1.step operation).map (·, heardAfter slot state.1 state.2 operation)

def visitsOf (slot : Slot config) (stack : Stack config) : Operation → List (MilliSeconds × CipConnectionObject)
  | .manageConnections peers elapsedTime =>
      match observedTick slot (fun before _ => before.object slot) stack (peers, elapsedTime) with
      | .ok (_, met) => met.map (elapsedTime, ·)
      | .error _ => []
  | _ => []

/-- The stack is intact, and the timers stand for what has been heard as long as the connection lasts. -/
structure Attended (slot : Slot config) (stack : Stack config) (hearing : Hearing) : Prop where
  intact : Intact stack
  hears : (stack.object slot).state = .established → Hears (stack.object slot) hearing

theorem Hears.of_kept (hears : (stack.object slot).state = .established → Hears (stack.object slot) hearing)
    (kept : (after.object slot).state = .established → KeepsWatch slot (stack.object slot) (after.object slot)) :
    (after.object slot).state = .established → Hears (after.object slot) hearing := by
  intro established
  have keeps := kept established
  exact (hears (keeps.1 established)).of_same keeps.2

theorem receiveConnectedMessage_hears (items : AddressInfoItems) (connectionIdentifier : UInt32)
    (sequenceCount : Option UInt16)
    (hears : (stack.object slot).state = .established → Hears (stack.object slot) hearing)
    (established : ((stack.receiveConnectedMessage items connectionIdentifier sequenceCount).object slot).state = .established) :
    Hears ((stack.receiveConnectedMessage items connectionIdentifier sequenceCount).object slot)
      (heardAfter slot stack hearing (.connectedMessageReceived items connectionIdentifier sequenceCount)) := by
  unfold heardAfter
  dsimp only
  cases found : stack.getConnectedObject connectionIdentifier with
  | none =>
    have unknown : Stack.getConnectedObject { stack with addressInfoItems := items } connectionIdentifier = none := found
    have same : (stack.receiveConnectedMessage items connectionIdentifier sequenceCount).object = stack.object := by
      unfold receiveConnectedMessage
      dsimp only
      rw [unknown]
    rw [same] at established ⊢
    rw [if_neg nofun]
    exact hears established
  | some noted =>
    rw [receiveConnectedMessage_eq found] at established ⊢
    dsimp only at established ⊢
    rw [modifyObject, setObject_object] at established ⊢
    by_cases here : noted = slot
    · subst here
      rw [Function.update_self, if_pos rfl]
      exact (hears (getConnectedObject_established found).2).message sequenceCount
    · have differs : some noted ≠ some slot := fun same => here (Option.some.inj same)
      rw [Function.update_of_ne (Ne.symm here)] at established ⊢
      rw [if_neg differs]
      exact hears established

theorem receiveFromOriginator_hears {received : ConnectedData} (done : stack.receiveFromOriginator slot received = .ok after)
    (hears : Hears (stack.object slot) hearing) :
    Hears (after.object slot) (.ofPacket (stack.object slot) received.sequenceNumber) := by
  cases passes : passesSequenceCheck (stack.object slot) received.sequenceNumber with
  | false =>
    rw [receiveFromOriginator_stale passes] at done
    cases done
    rw [modifyObject, setObject_object, Function.update_self]
    exact hears.stale passes
  | true =>
    rw [receiveFromOriginator_newer passes] at done
    obtain ⟨list, count, written⟩ := connectionReceiveData_counts done
    rw [written, Function.update_self]
    have own : (stack.accepting slot received.sequenceNumber).object slot =
        acceptSequenceNumber received.sequenceNumber (resetLastPackageInactivityTimer (stack.object slot)) :=
      Function.update_self ..
    rw [own]
    exact hears_of_newer passes rfl rfl

theorem handleReceivedConnectedData_hears {received : ConnectedData}
    (hears : (stack.object slot).state = .established → Hears (stack.object slot) hearing)
    (done : stack.handleReceivedConnectedData received = .ok after)
    (established : (after.object slot).state = .established) :
    Hears (after.object slot) (heardAfter slot stack hearing (.receiveConnectedData received)) := by
  unfold heardAfter
  dsimp only
  rw [handleReceivedConnectedData_eq] at done
  cases addressed : stack.addressee received with
  | none =>
    rw [addressed] at done
    cases done
    rw [if_neg nofun]
    exact hears established
  | some other =>
    rw [addressed] at done
    dsimp only at done
    by_cases here : other = slot
    · subst here
      rw [if_pos rfl]
      have alive := (getConnectedObject_established (addressee_connected addressed)).2
      exact receiveFromOriginator_hears done (hears alive)
    · obtain ⟨list, object, written, _⟩ := receiveFromOriginator_object done
      have differs : some other ≠ some slot := fun same => here (Option.some.inj same)
      rw [written, Function.update_of_ne (Ne.symm here)] at established ⊢
      rw [if_neg differs]
      exact hears established

theorem Served.watchOf {left : CipConnectionObject} {frames : Nat} (served : Served elapsedTime met left frames) :
    watchOf left = watchOf (if isWatched met then decrementWatchdogTimers elapsedTime met else met) := by
  generalize counted : (if isWatched met then decrementWatchdogTimers elapsedTime met else met) = object at served
  have inhibited : Stack.watchOf (countProductionInhibit elapsedTime object) = Stack.watchOf object := by
    unfold countProductionInhibit
    split <;> rfl
  cases served with
  | silent idle => rw [counted]
  | waiting producing later =>
    rw [counted, ← inhibited]
    rfl
  | sent producing due hasChanged =>
    rw [counted, ← inhibited]
    rfl

theorem serve_hears (coherent : Coherent before) (listed : slot ∈ before.connectionList.toList)
    (serves : serve peers elapsedTime before slot = .ok after)
    (timely : TimelyHeard hearing elapsedTime (before.object slot))
    (hears : (before.object slot).state = .established → Hears (before.object slot) hearing)
    (established : (after.object slot).state = .established) : Hears (after.object slot) hearing := by
  obtain ⟨alive, inTime, frames, served, _⟩ := ((serve_visited coherent listed).returns serves).2.own established
  refine Hears.of_same ?_ served.watchOf
  split
  next watched => exact (hears alive).counted timely alive watched (inTime watched)
  next unwatched => exact hears alive

theorem tick_hears (coherent : Coherent stack) {met : List CipConnectionObject}
    (done : observedTick slot (fun before _ => before.object slot) stack (peers, elapsedTime) = .ok (after, met))
    (timely : ∀ object ∈ met, TimelyHeard hearing elapsedTime object)
    (hears : (stack.object slot).state = .established → Hears (stack.object slot) hearing) :
    (after.object slot).state = .established → Hears (after.object slot) hearing := by
  intro established
  obtain ⟨ended, toured⟩ := observedTick_toured coherent done
  have listed := (ended.mem_iff slot).mpr (.inl established)
  cases toured with
  | passedBy others =>
    obtain ⟨_, alive, same⟩ := others.spares keepsWatch_tolerant listed
    exact (hears (alive established)).of_same same
  | visited early middle met serves late =>
    obtain ⟨stillListed, alive, same⟩ := late.spares keepsWatch_tolerant listed
    refine Hears.of_same ?_ same
    refine serve_hears middle met serves (timely _ (List.mem_singleton_self _)) (fun lives => ?_) (alive established)
    obtain ⟨_, lived, kept⟩ := early.spares keepsWatch_tolerant met
    exact (hears (lived lives)).of_same kept

theorem stepHearing_attended (io : slot.instanceType ≠ .explicitMessaging) {next : Stack config × Hearing}
    (attended : Attended slot stack hearing) (kept : ¬OpensIn slot stack operation)
    (timely : ∀ visit ∈ visitsOf slot stack operation, TimelyHeard hearing visit.1 visit.2)
    (done : stepHearing slot (stack, hearing) operation = .ok next) : Attended slot next.1 next.2 := by
  obtain ⟨after, stepped, rfl⟩ := map_eq_ok.mp done
  have intact := ((step_spec attended.intact operation).returns stepped).intact attended.intact
  refine ⟨intact, ?_⟩
  dsimp only at stepped ⊢
  by_cases timed : operation.setsTimers
  · cases operation with
    | receiveConnectedData received => exact handleReceivedConnectedData_hears attended.hears stepped
    | connectedMessageReceived items connectionIdentifier sequenceCount =>
      cases stepped
      exact receiveConnectedMessage_hears items connectionIdentifier sequenceCount attended.hears
    | manageConnections peers elapsedTime =>
      have ticked : (observedTick slot (fun before _ => before.object slot) stack (peers, elapsedTime)).map Prod.fst =
          .ok after := (observedTick_fst stack (peers, elapsedTime)).trans stepped
      obtain ⟨⟨final, met⟩, observed, rfl⟩ := map_eq_ok.mp ticked
      refine tick_hears attended.intact.coherent observed (fun object inside => ?_) attended.hears
      refine timely (elapsedTime, object) ?_
      unfold visitsOf
      dsimp only
      rw [observed]
      exact List.mem_map_of_mem inside
    | _ => exact absurd timed id
  · have same : heardAfter slot stack hearing operation = hearing := by
      cases operation with
      | receiveConnectedData received => exact absurd trivial timed
      | connectedMessageReceived items connectionIdentifier sequenceCount => exact absurd trivial timed
      | _ => rfl
    rw [same]
    refine Hears.of_kept attended.hears fun established => ?_
    exact (step_keepsWatch attended.intact io timed kept stepped ((intact.coherent.mem_iff slot).mpr (.inl established))).2

theorem Attended.visit (attended : Attended slot stack hearing) {visit : MilliSeconds × CipConnectionObject}
    (inside : visit ∈ visitsOf slot stack operation) (established : visit.2.state = .established) :
    Hears visit.2 hearing := by
  unfold visitsOf at inside
  split at inside
  · split at inside
    next final met observed =>
      obtain ⟨_, toured⟩ := observedTick_toured attended.intact.coherent observed
      cases toured with
      | passedBy others => cases inside
      | visited early middle listed serves late =>
        obtain rfl := List.mem_singleton.mp inside
        obtain ⟨_, alive, same⟩ := early.spares keepsWatch_tolerant listed
        exact (attended.hears (alive established)).of_same same
    next => cases inside
  · cases inside

theorem Attended.visits_iff (attended : Attended slot stack hearing) (operation : Operation) :
    (∀ visit ∈ visitsOf slot stack operation, TimersRight hearing visit.1 visit.2) ↔
      ∀ visit ∈ visitsOf slot stack operation, TimelyHeard hearing visit.1 visit.2 := by
  refine forall₂_congr fun visit inside => ?_
  by_cases established : visit.2.state = .established
  · exact timersRight_iff (attended.visit inside established)
  · exact iff_of_true (fun alive => absurd alive established) fun alive => absurd alive established

theorem DataOpened.attended (opening : DataOpened slot opened) : Attended slot opened .nothing := by
  refine ⟨opening.reached.intact, fun _ => ⟨?_, opening.newestNumber⟩⟩
  obtain ⟨before, operation, reached, opens, done⟩ := opening.opening
  obtain ⟨network, asked, choice, _, pristine, rfl, ends⟩ := opens.ends reached.intact opening.io done
  exact ends.unheard pristine

end Steps

section Runs

def TimersKept (slot : Slot config) (opened : Stack config) (operations : List Operation) : Prop :=
  Along (stepHearing slot)
    (fun state operation => ∀ visit ∈ visitsOf slot state.1 operation, TimersRight state.2 visit.1 visit.2)
    (opened, .nothing) operations

def TimelyThroughout (slot : Slot config) (opened : Stack config) (operations : List Operation) : Prop :=
  Along (stepHearing slot)
    (fun state operation => ∀ visit ∈ visitsOf slot state.1 operation, TimelyHeard state.2 visit.1 visit.2)
    (opened, .nothing) operations

/-- The timer of the last packet does not wrap and the clean-up is run as claimed exactly in the runs of a connection
whose visits are timely. -/
theorem timersKept_iff (opening : DataOpened slot opened) {operations : List Operation}
    (run : ConnectionRun slot opened operations) :
    TimersKept slot opened operations ↔ TimelyThroughout slot opened operations := by
  refine along_iff_along (fun state => Attended slot state.1 state.2) ?_ ?_ opening.attended
    (Along.lift Prod.fst ?_ run)
  · intro state operation next attended kept right done
    exact stepHearing_attended opening.io attended kept ((attended.visits_iff operation).mp right) done
  · exact fun state operation attended _ => attended.visits_iff operation
  · intro state operation next done
    obtain ⟨after, stepped, rfl⟩ := map_eq_ok.mp done
    exact stepped

theorem connectionRun_of_no_openings {operations : List Operation}
    (none : ∀ operation ∈ operations, operation.openRequest = none) : ConnectionRun slot stack operations := by
  induction operations generalizing stack with
  | nil => trivial
  | cons operation rest ih =>
    have here := none operation List.mem_cons_self
    refine ⟨?_, fun next _ => ih fun other member => none other (List.mem_cons_of_mem _ member)⟩
    rintro ⟨isLfo, request, opens, _⟩
    rw [here] at opens
    cases opens

instance (hearing : Hearing) (elapsedTime : MilliSeconds) (met : CipConnectionObject) :
    Decidable (TimersRight hearing elapsedTime met) := inferInstanceAs (Decidable (_ → _ → ite _ _ _))

instance (hearing : Hearing) (elapsedTime : MilliSeconds) (met : CipConnectionObject) :
    Decidable (TimelyHeard hearing elapsedTime met) :=
  match hearing with
  | .nothing => inferInstanceAs (Decidable (_ → _ → _ ∨ _))
  | .accepted | .late => inferInstanceAs (Decidable (_ → _ → True))
  | .repeated => inferInstanceAs (Decidable (_ → _ → _ < _))
  | .overtaken _ => inferInstanceAs (Decidable (_ → _ → _ ∨ _ ∧ _))

open SampleApplication

def packetNumbered (sequenceNumber : UInt32) : Operation :=
  .receiveConnectedData ⟨kCipItemIdSequencedAddressItem, 0x12340013, sequenceNumber, kCipItemIdConnectedDataItem, 130,
    List.replicate 130 0, 0x0B01A8C0⟩

def passMilliseconds (elapsedTime : MilliSeconds) : Operation := .manageConnections ⟨fun _ => 0⟩ elapsedTime

def openedOwner : Option (Stack configuration) :=
  (undergoFromOpening firstOwner [] (openIo 1 (pointToPoint 128) (pointToPoint 128) 101 102) []).map Prod.fst

theorem dataOpened_of_openedOwner {opened : Stack configuration} (same : openedOwner = some opened) :
    DataOpened firstOwner opened := by
  obtain ⟨undergone, run, rfl⟩ := Option.map_eq_some_iff.mp same
  exact (lifetime_of_undergoFromOpening run).1

def everyVisit (test : Hearing → MilliSeconds → CipConnectionObject → Bool) (opened : Stack configuration)
    (operations : List Operation) : Bool :=
  testAlong (stepHearing firstOwner)
    (fun state operation => (visitsOf firstOwner state.1 operation).all fun visit => test state.2 visit.1 visit.2)
    (opened, .nothing) operations

theorem not_timersKept_of_test {opened : Stack configuration} {operations : List Operation}
    (fails : everyVisit (fun hearing elapsedTime met => decide (TimersRight hearing elapsedTime met)) opened operations =
      false) : ¬TimersKept firstOwner opened operations := by
  intro kept
  have passes := Along.test (fun state operation right => List.all_eq_true.mpr fun visit inside =>
    decide_eq_true (right visit inside)) kept
  exact Bool.false_ne_true (fails.symm.trans passes)

def heardTwice : List Operation :=
  [packetNumbered 5, passMilliseconds 10, packetNumbered 6, passMilliseconds 10, packetNumbered 6, passMilliseconds 30]

theorem timersKept_heardTwice : ∃ opened : Stack configuration, DataOpened firstOwner opened ∧
    TimersKept firstOwner opened heardTwice := by
  have timely : openedOwner.map (everyVisit (fun hearing elapsedTime met =>
      decide (TimelyHeard hearing elapsedTime met)) · heardTwice) = some true := by decide +kernel
  obtain ⟨opened, same, passes⟩ := Option.map_eq_some_iff.mp timely
  have opening := dataOpened_of_openedOwner same
  have run : ConnectionRun firstOwner opened heardTwice := connectionRun_of_no_openings <| by
    simp [heardTwice, packetNumbered, passMilliseconds, Operation.openRequest]
  refine ⟨opened, opening, (timersKept_iff opening run).mpr (Along.of_test (fun state operation all visit inside => ?_) passes)⟩
  exact of_decide_eq_true (List.all_eq_true.mp all visit inside)

/-- The first tick of a connection that has heard nothing wraps the timer, and if it is long enough times the connection
out without the clean-up. A packet that comes twice at once has the clean-up run though it came later. -/
theorem timers_not_kept_in_short_runs : ∃ opened : Stack configuration, DataOpened firstOwner opened ∧
    ¬TimersKept firstOwner opened [passMilliseconds 10] ∧ ¬TimersKept firstOwner opened [passMilliseconds 10000] ∧
      ¬TimersKept firstOwner opened [packetNumbered 5, packetNumbered 5, passMilliseconds 40] := by
  have wrong : openedOwner.map (fun opened =>
      [[passMilliseconds 10], [passMilliseconds 10000], [packetNumbered 5, packetNumbered 5, passMilliseconds 40]].map
        (everyVisit (fun hearing elapsedTime met => decide (TimersRight hearing elapsedTime met)) opened)) =
      some [false, false, false] := by decide +kernel
  obtain ⟨opened, same, fails⟩ := Option.map_eq_some_iff.mp wrong
  simp only [List.map_cons, List.map_nil, List.cons.injEq, and_true] at fails
  obtain ⟨wraps, unclean, repeated⟩ := fails
  exact ⟨opened, dataOpened_of_openedOwner same, not_timersKept_of_test wraps, not_timersKept_of_test unclean,
    not_timersKept_of_test repeated⟩

end Runs

end Stack

end EtherNetIP
