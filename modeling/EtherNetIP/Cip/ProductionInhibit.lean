import EtherNetIP.Cip.TickServices
import EtherNetIP.Cip.TickVisits
import EtherNetIP.Cip.Triggering
import EtherNetIP.Cip.PacketInterval

/-! The time between two frames of a connection.

A connection that is not cyclic should keep its production inhibit time between
two frames. No timer holds a frame back for that, so the time is kept where the
transmission timer is long enough and no tick comes too late.
-/

set_option autoImplicit false

namespace EtherNetIP

open Library CipConnectionObject

variable {config : Configuration}

/-- Milliseconds; 256 stands for a path without a segment, whose value is an octet. -/
def CipConnectionObject.claimedInhibitTime (object : CipConnectionObject) : Nat :=
  if object.productionInhibitTime = 256 then object.tToORequestedPacketInterval.toNat / 4000
  else object.productionInhibitTime.toNat

inductive ProductionEvent where
  | tick (peers : Peers) (elapsedTime : MilliSeconds)
  | trigger (output input : UInt32)

/-- What is seen of one connection in an event: as what a tick meets it and how many frames it sends then, or as what
it is scheduled. -/
inductive Sight where
  | tick (elapsedTime : MilliSeconds) (visits : List (CipConnectionObject × Nat))
  | trigger (scheduled : Option CipConnectionObject)

/-- From the time since the last frame on, if there was one, each frame comes the interval after the one before. -/
def Spaced (interval : Nat) : Option Nat → List Sight → Prop
  | _, [] => True
  | since, .trigger _ :: later => Spaced interval since later
  | since, .tick elapsedTime visits :: later =>
    match (visits.map Prod.snd).sum with
    | 0 => Spaced interval (since.map (· + elapsedTime.toNat)) later
    | 1 => (∀ passed ∈ since, interval ≤ passed + elapsedTime.toNat) ∧ Spaced interval (some 0) later
    | _ + 2 => False

namespace Stack

variable {stack after : Stack config} {slot : Slot config} {peers : Peers} {elapsedTime : MilliSeconds}

def observeFrames (slot : Slot config) (before after : Stack config) : CipConnectionObject × Nat :=
  (before.object slot, framesIn after.effects - framesIn before.effects)

def see (slot : Slot config) (stack : Stack config) : ProductionEvent → Except Fault (Stack config × Sight)
  | .tick peers elapsedTime =>
    (observedTick slot (observeFrames slot) stack (peers, elapsedTime)).map fun (after, visits) =>
      (after, .tick elapsedTime visits)
  | .trigger output input =>
    .ok ((triggerConnections output input stack).2,
      .trigger (if triggered output input stack = some slot then some (stack.object slot) else none))

def sights (slot : Slot config) : List ProductionEvent → Stack config → Except Fault (List Sight)
  | [], _ => .ok []
  | event :: later, stack => do
    let (after, sight) ← see slot stack event
    return sight :: (← sights slot later after)

/-- A due connection has so much interval left that the tick may be late, and one that is scheduled keeps the interval
itself. -/
def Punctual (interval : Nat) : Sight → Prop
  | .tick elapsedTime visits => ∀ visit ∈ visits, visit.1.state = .established → ¬TimesOut elapsedTime visit.1 →
      isProducing visit.1 = true → visit.1.transmissionTriggerTimer ≤ elapsedTime →
        elapsedTime.toNat + interval ≤
          (visit.1.transmissionTriggerTimer + visit.1.getRequestedPacketInterval.toUInt64).toNat
  | .trigger scheduled => ∀ object ∈ scheduled, interval ≤ object.productionInhibitTime.toNat

/-- The transmission timer and the time since the last frame make up the interval. -/
structure Paced (interval : Nat) (slot : Slot config) (since : Option Nat) (stack : Stack config) : Prop where
  coherent : Coherent stack
  due : (stack.object slot).state = .established → ∀ passed ∈ since, isProducing (stack.object slot) = true ∧
    interval ≤ (stack.object slot).transmissionTriggerTimer.toNat + passed

section Timers

variable {met left : CipConnectionObject} {frames : Nat}

theorem Served.transmission (served : Served elapsedTime met left frames) (producing : isProducing met = true) :
    (frames = 0 ∧ ¬met.transmissionTriggerTimer ≤ elapsedTime ∧
        left.transmissionTriggerTimer = met.transmissionTriggerTimer - elapsedTime) ∨
      frames = 1 ∧ met.transmissionTriggerTimer ≤ elapsedTime ∧ left.transmissionTriggerTimer =
        let due := met.transmissionTriggerTimer + met.getRequestedPacketInterval.toUInt64
        if due > elapsedTime then due - elapsedTime else 0 := by
  have counted (object : CipConnectionObject) :
      (countProductionInhibit elapsedTime object).transmissionTriggerTimer = object.transmissionTriggerTimer ∧
        (countProductionInhibit elapsedTime object).getRequestedPacketInterval = object.getRequestedPacketInterval := by
    unfold countProductionInhibit
    split <;> exact ⟨rfl, rfl⟩
  have watched : (if isWatched met then decrementWatchdogTimers elapsedTime met else met).transmissionTriggerTimer =
        met.transmissionTriggerTimer ∧
      (if isWatched met then decrementWatchdogTimers elapsedTime met else met).getRequestedPacketInterval =
        met.getRequestedPacketInterval := by
    split <;> exact ⟨rfl, rfl⟩
  have timer := (counted (if isWatched met then decrementWatchdogTimers elapsedTime met else met)).1.trans watched.1
  have interval := (counted (if isWatched met then decrementWatchdogTimers elapsedTime met else met)).2.trans watched.2
  cases served with
  | silent idle =>
    rw [producing] at idle
    cases idle
  | waiting _ later => exact .inl ⟨rfl, later, congrArg (· - elapsedTime) timer⟩
  | sent _ due hasChanged =>
    refine .inr ⟨rfl, due, ?_⟩
    rw [← timer, ← interval]
    rfl

theorem Served.frames_of_idle (served : Served elapsedTime met left frames) (idle : isProducing met = false) :
    frames = 0 := by
  cases served with
  | silent _ => rfl
  | waiting producing _ => exact absurd (producing.symm.trans idle) Bool.true_eq_false.mp
  | sent producing _ _ => exact absurd (producing.symm.trans idle) Bool.true_eq_false.mp

end Timers

section Steps

variable {interval : Nat} {since : Option Nat} {before final : Stack config}

theorem Paced.wait (paced : Paced interval slot since stack) (elapsed : Nat) :
    Paced interval slot (since.map (· + elapsed)) stack where
  coherent := paced.coherent
  due := by
    intro established passed member
    obtain ⟨earlier, inside, rfl⟩ := Option.map_eq_some_iff.mp member
    obtain ⟨producing, bound⟩ := paced.due established earlier inside
    exact ⟨producing, by omega⟩

theorem Paced.others (paced : Paced interval slot since before) (coherent : Coherent after)
    (served : OthersServed slot peers elapsedTime before after) : Paced interval slot since after where
  coherent := coherent
  due := by
    intro established passed member
    obtain ⟨first, untouched⟩ := served.untouched established
    obtain ⟨producing, bound⟩ := paced.due first passed member
    rw [untouched.same (takesNothingOver_of_producing producing)]
    exact ⟨producing, bound⟩

theorem Paced.of_ended (coherent : Coherent stack) (ended : (stack.object slot).state ≠ .established) :
    Paced interval slot since stack := ⟨coherent, fun established => absurd established ended⟩

theorem spaced_quiet {visits : List (CipConnectionObject × Nat)} (quiet : (visits.map Prod.snd).sum = 0)
    {later : List Sight} (spaced : Spaced interval (since.map (· + elapsedTime.toNat)) later) :
    Spaced interval since (.tick elapsedTime visits :: later) := by
  unfold Spaced
  rw [quiet]
  exact spaced

theorem serve_paced (paced : Paced interval slot since before) (listed : slot ∈ before.connectionList.toList)
    (serves : serve peers elapsedTime before slot = .ok after)
    (punctual : Punctual interval (.tick elapsedTime [observeFrames slot before after])) :
    ∃ since', Paced interval slot since' after ∧ ∀ later, Spaced interval since' later →
      Spaced interval since (.tick elapsedTime [observeFrames slot before after] :: later) := by
  have coherent := ((serve_visited paced.coherent listed).returns serves).1
  have quiet (same : framesIn after.effects = framesIn before.effects) :
      ([observeFrames slot before after].map Prod.snd).sum = 0 := by
    change framesIn after.effects - framesIn before.effects + 0 = 0
    omega
  by_cases established : (before.object slot).state = .established
  · by_cases expired : TimesOut elapsedTime (before.object slot)
    -- a time-out sends nothing, and what has ended sends nothing any more
    · obtain ⟨ended, past⟩ := serve_of_timesOut paced.coherent expired serves
      have same : framesIn after.effects = framesIn before.effects := by
        rcases (@connectionTimeoutFunction_expires _ _ _ (fun _ => False) _ paced.coherent established).returns ended with
          aside | timedOut
        · exact aside.frames
        · exact timedOut.frames
      exact ⟨since.map (· + elapsedTime.toNat), .of_ended coherent past, fun later => spaced_quiet (quiet same)⟩
    · obtain ⟨⟨frames, served, logged⟩, _, _⟩ := (serve_served established expired).returns serves
      cases idle : isProducing (before.object slot) with
      | false =>
        rw [served.frames_of_idle idle] at logged
        refine ⟨since.map (· + elapsedTime.toNat), ⟨coherent, fun _ passed member => ?_⟩, fun later =>
          spaced_quiet (quiet logged)⟩
        obtain ⟨earlier, inside, _⟩ := Option.map_eq_some_iff.mp member
        have producing := (paced.due established earlier inside).1
        rw [idle] at producing
        cases producing
      | true =>
        have producing := served.producing idle
        -- not due: the timer goes down; due: a whole interval is added to it
        rcases served.transmission idle with ⟨rfl, later, timer⟩ | ⟨rfl, due, timer⟩
        · refine ⟨since.map (· + elapsedTime.toNat), ⟨coherent, fun _ passed member => ⟨producing, ?_⟩⟩, fun later =>
            spaced_quiet (quiet logged)⟩
          obtain ⟨earlier, inside, rfl⟩ := Option.map_eq_some_iff.mp member
          have bound := (paced.due established earlier inside).2
          have left := UInt64.toNat_sub_of_le _ _ (UInt64.le_of_lt (UInt64.not_le.mp later))
          rw [timer, left]
          rw [UInt64.le_iff_toNat_le] at later
          omega
        · have one : ([observeFrames slot before after].map Prod.snd).sum = 1 := by
            change framesIn after.effects - framesIn before.effects + 0 = 1
            omega
          have room := punctual _ (List.mem_singleton_self _) established expired idle due
          refine ⟨some 0, ⟨coherent, fun _ passed member => ⟨producing, ?_⟩⟩, fun later spaced => ?_⟩
          · cases member
            rw [timer]
            dsimp only
            change elapsedTime.toNat + interval ≤ ((before.object slot).transmissionTriggerTimer +
              (before.object slot).getRequestedPacketInterval.toUInt64).toNat at room
            split
            next late =>
              rw [UInt64.toNat_sub_of_le _ _ (UInt64.le_of_lt late)]
              omega
            next early =>
              have reached : _ ≤ elapsedTime.toNat := UInt64.le_iff_toNat_le.mp (UInt64.not_lt.mp early)
              omega
          · unfold Spaced
            rw [one]
            refine ⟨fun passed member => ?_, spaced⟩
            have bound := (paced.due established passed member).2
            rw [UInt64.le_iff_toNat_le] at due
            omega
  · unfold serve at serves
    rw [if_neg established] at serves
    cases serves
    exact ⟨since.map (· + elapsedTime.toNat), .of_ended coherent established, fun later => spaced_quiet (quiet rfl)⟩

theorem trigger_paced (paced : Paced interval slot since stack) (output input : UInt32)
    (punctual : Punctual interval
      (.trigger (if triggered output input stack = some slot then some (stack.object slot) else none))) :
    Paced interval slot since (triggerConnections output input stack).2 := by
  cases chosen : triggered output input stack with
  | none =>
    rw [triggerConnections_of_none chosen]
    exact paced
  | some other =>
    rw [triggerConnections_of_triggered chosen]
    have listed : other ∈ stack.connectionList.toList := (findConnection_mem (Option.filter_eq_some_iff.mp chosen).1).1
    have continues : Continues (fun _ => False) stack (stack.modifyObject other schedule) :=
      .of_modifyObject paced.coherent listed rfl rfl rfl
    refine ⟨continues.coherent, fun established passed member => ?_⟩
    change ((stack.modifyObject other schedule).object slot).state = .established at established
    change isProducing ((stack.modifyObject other schedule).object slot) = true ∧
      interval ≤ ((stack.modifyObject other schedule).object slot).transmissionTriggerTimer.toNat + passed
    rw [modifyObject, setObject_objects] at established ⊢
    by_cases same : slot = other
    · subst same
      rw [Function.update_self] at established ⊢
      rw [chosen, if_pos rfl] at punctual
      have long : interval ≤ (stack.object slot).productionInhibitTime.toNat := punctual _ rfl
      refine ⟨(paced.due established passed member).1, ?_⟩
      change interval ≤ (stack.object slot).productionInhibitTime.toUInt64.toNat + passed
      rw [UInt16.toNat_toUInt64]
      omega
    · rw [Function.update_of_ne same] at established ⊢
      exact paced.due established passed member

theorem see_paced (paced : Paced interval slot since stack) {event : ProductionEvent} {sight : Sight}
    (done : see slot stack event = .ok (after, sight)) (punctual : Punctual interval sight) :
    ∃ since', Paced interval slot since' after ∧ ∀ later, Spaced interval since' later →
      Spaced interval since (sight :: later) := by
  cases event with
  | trigger output input =>
    cases done
    exact ⟨since, trigger_paced paced output input punctual, fun _ spaced => spaced⟩
  | tick peers elapsedTime =>
    obtain ⟨⟨final, visits⟩, ticked, same⟩ := map_eq_ok.mp done
    cases same
    obtain ⟨coherent, toured⟩ := observedTick_toured paced.coherent ticked
    have managed : Paced interval slot since (stack.manageEncapsulationMessages elapsedTime) :=
      ⟨paced.coherent.of_same_table rfl rfl, paced.due⟩
    cases toured with
    | passedBy others =>
      exact ⟨since.map (· + elapsedTime.toNat), (managed.others coherent others).wait _, fun later => spaced_quiet rfl⟩
    | visited early middle listed serves late =>
      obtain ⟨since', served, spaced⟩ := serve_paced (managed.others middle early) listed serves punctual
      exact ⟨since', served.others coherent late, spaced⟩

theorem sights_spaced {events : List ProductionEvent} {seen : List Sight} (paced : Paced interval slot since stack)
    (run : sights slot events stack = .ok seen) (punctual : ∀ sight ∈ seen, Punctual interval sight) :
    Spaced interval since seen := by
  induction events generalizing stack since seen with
  | nil =>
    cases run
    trivial
  | cons event events ih =>
    obtain ⟨⟨middle, sight⟩, done, rest⟩ := bind_eq_ok.mp run
    obtain ⟨later, further, same⟩ := bind_eq_ok.mp rest
    cases same
    obtain ⟨since', paced, spaced⟩ := see_paced paced done (punctual sight List.mem_cons_self)
    exact spaced later (ih paced further fun other inside => punctual other (List.mem_cons_of_mem _ inside))

end Steps

/-- The segment of the path is not longer than the interval the connection was opened with, and the frames keep the
time apart that it or a quarter of the interval claims. -/
structure InhibitKept (slot : Slot config) (start : Stack config) (seen : List Sight) : Prop where
  within : (start.object slot).productionInhibitTime ≠ 256 →
    1000 * (start.object slot).productionInhibitTime.toNat ≤ (start.object slot).tToORequestedPacketInterval.toNat
  spaced : Spaced (start.object slot).claimedInhibitTime none seen

/-- The production inhibit time is kept in every run of ticks and triggers when the segment is not longer than the
interval in ticks, each sending visit comes early enough, and who is triggered has the time in its object. -/
theorem production_inhibit_kept {start : Stack config} (reached : Reached start) {slot : Slot config}
    (segment : (start.object slot).productionInhibitTime ≠ 256 →
      (start.object slot).productionInhibitTime ≤ (start.object slot).getRequestedPacketInterval)
    {events : List ProductionEvent} {seen : List Sight} (run : sights slot events start = .ok seen)
    (punctual : ∀ sight ∈ seen, Punctual (start.object slot).claimedInhibitTime sight) :
    InhibitKept slot start seen where
  within := by
    intro given
    have short := UInt16.le_iff_toNat_le.mp (segment given)
    rw [getRequestedPacketInterval_toNat] at short
    omega
  spaced := sights_spaced ⟨reached.intact.coherent, nofun⟩ run punctual

section Runs

open SampleApplication

def openOnChange (interval : UInt32) (milliseconds : CipOctet) : Request :=
  let path := [0x43, milliseconds, 0x20, 0x04, 0x24, 103, 0x2C, 101, 0x2C, 102]
  { openRequest 1 (pointToPoint 128) (multicast 128) 0x11 path with
    data :=
      addForwardOpenHeader false
        { oToTConnectionId := 0
          tToOConnectionId := 0x100
          connectionSerialNumber := 1
          originatorVendorId := 1
          originatorSerialNumber := 7
          connectionTimeoutMultiplier := 0
          oToTRequestedPacketInterval := 10000
          oToTNetworkConnectionParameters := pointToPoint 128
          tToORequestedPacketInterval := interval
          tToONetworkConnectionParameters := multicast 128
          transportClassTrigger := 0x11 } ++
        5 :: path }

def tenMilliseconds : ProductionEvent := .tick ⟨fun _ => 0⟩ 10

def twoFrames : List Sight → Bool
  | [.tick _ [(_, 1)], .tick later [(_, 1)]] => later == 10
  | _ => false

theorem not_spaced_of_twoFrames {seen : List Sight} (frames : twoFrames seen = true) : ¬Spaced 255 none seen := by
  unfold twoFrames at frames
  split at frames
  · intro spaced
    have apart := spaced.2.1 0 rfl
    rw [eq_of_beq frames] at apart
    exact absurd apart (by decide)
  · cases frames

def punctualTicks (interval : Nat) (seen : List Sight) : Bool :=
  seen.all fun
    | .tick elapsedTime visits => visits.all fun visit => elapsedTime.toNat + interval ≤
        (visit.1.transmissionTriggerTimer + visit.1.getRequestedPacketInterval.toUInt64).toNat
    | .trigger _ => false

theorem punctual_of_ticks {interval : Nat} {seen : List Sight} (ticks : punctualTicks interval seen = true) :
    ∀ sight ∈ seen, Punctual interval sight := by
  intro sight inside
  have here := List.all_eq_true.mp ticks sight inside
  cases sight with
  | trigger scheduled => cases here
  | tick elapsedTime visits =>
    intro visit listed _ _ _ _
    exact of_decide_eq_true (List.all_eq_true.mp here visit listed)

/-- A segment of 10 milliseconds and an interval of 20. -/
theorem production_inhibit_kept_in_ticks : ∃ (start : Stack configuration) (seen : List Sight), Reached start ∧
    sights cyclicSlot [tenMilliseconds, tenMilliseconds] start = .ok seen ∧ twoFrames seen = true ∧
      InhibitKept cyclicSlot start seen := by
  have opened : ends [.forwardOpen (openOnChange 20000 10)] (fun stack : Stack configuration =>
      decide ((stack.object cyclicSlot).productionInhibitTime = 10 ∧
        (stack.object cyclicSlot).getRequestedPacketInterval = 20 ∧
        (stack.object cyclicSlot).claimedInhibitTime = 10) &&
      match sights cyclicSlot [tenMilliseconds, tenMilliseconds] stack with
      | .ok seen => twoFrames seen && punctualTicks 10 seen
      | .error _ => false) = true := by decide +kernel
  obtain ⟨start, reached, shown⟩ := exists_of_ends opened
  rw [Bool.and_eq_true] at shown
  obtain ⟨times, ticked⟩ := shown
  obtain ⟨segment, interval, claimed⟩ := of_decide_eq_true times
  cases run : sights cyclicSlot [tenMilliseconds, tenMilliseconds] start with
  | error fault =>
    rw [run] at ticked
    cases ticked
  | ok seen =>
    rw [run] at ticked
    obtain ⟨frames, ticks⟩ := (Bool.and_eq_true _ _).mp ticked
    refine ⟨start, seen, reached, run, frames, production_inhibit_kept reached (fun _ => ?_) run ?_⟩
    · rw [segment, interval]
      decide
    · rw [claimed]
      exact punctual_of_ticks ticks

/-- A segment of 255 milliseconds is accepted for an interval of 10, and the frames come every 10. -/
theorem production_inhibit_ignored : ∃ (start : Stack configuration) (events : List ProductionEvent) (seen : List Sight),
    Reached start ∧ (start.object cyclicSlot).state = .established ∧
      (start.object cyclicSlot).getProductionTrigger = .changeOfState ∧ sights cyclicSlot events start = .ok seen ∧
        ¬InhibitKept cyclicSlot start seen ∧ ¬Spaced (start.object cyclicSlot).claimedInhibitTime none seen := by
  have opened : ends [.forwardOpen (openOnChange 10000 255)] (fun stack : Stack configuration =>
      decide ((stack.object cyclicSlot).state = .established ∧
        (stack.object cyclicSlot).getProductionTrigger = .changeOfState ∧
        (stack.object cyclicSlot).claimedInhibitTime = 255) &&
      match sights cyclicSlot [tenMilliseconds, tenMilliseconds] stack with
      | .ok seen => twoFrames seen
      | .error _ => false) = true := by decide +kernel
  obtain ⟨start, reached, shown⟩ := exists_of_ends opened
  rw [Bool.and_eq_true] at shown
  obtain ⟨times, ticked⟩ := shown
  obtain ⟨established, trigger, claimed⟩ := of_decide_eq_true times
  cases run : sights cyclicSlot [tenMilliseconds, tenMilliseconds] start with
  | error fault =>
    rw [run] at ticked
    cases ticked
  | ok seen =>
    rw [run] at ticked
    have close : ¬Spaced (start.object cyclicSlot).claimedInhibitTime none seen := by
      rw [claimed]
      exact not_spaced_of_twoFrames ticked
    exact ⟨start, _, seen, reached, established, trigger, run, fun kept => close kept.spaced, close⟩

end Runs

end Stack

end EtherNetIP
