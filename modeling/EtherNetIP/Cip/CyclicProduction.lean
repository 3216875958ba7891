import EtherNetIP.Cip.TickWalk
import EtherNetIP.SampleApplication

/-! Cyclic production over many ticks.

Each tick either sends a frame and adds the interval to the transmission timer or
leaves the frame for later; the elapsed time is taken off in both cases. So
frames, elapsed time and timer always balance, as long as the walk comes to the
connection.
-/

set_option autoImplicit false

namespace EtherNetIP

open Library CipConnectionObject

variable {config : Configuration}

namespace Stack

structure ProducesEvery (interval : UInt16) (object : CipConnectionObject) : Prop where
  cyclic : object.getProductionTrigger = .cyclic
  producing : isProducing object = true
  interval : object.getRequestedPacketInterval = interval

section Accounting

variable {interval : UInt16} {elapsedTime : MilliSeconds} {before after : CipConnectionObject} {frames : Nat}

theorem ProducesEvery.takesNothingOver (produces : ProducesEvery interval before) : TakesNothingOver before :=
  takesNothingOver_of_producing produces.producing

theorem reload_balances {timer : UInt64} (due : timer ≤ elapsedTime) (short : elapsedTime ≤ interval.toUInt64) :
    let left := timer + interval.toUInt64
    let reloaded := if left > elapsedTime then left - elapsedTime else 0
    reloaded ≤ interval.toUInt64 ∧ interval.toNat + timer.toNat = elapsedTime.toNat + reloaded.toNat := by
  have bound := interval.toNat_lt
  have width : interval.toUInt64.toNat = interval.toNat := UInt16.toNat_toUInt64 _
  rw [UInt64.le_iff_toNat_le] at due short
  rw [width] at short
  have left : (timer + interval.toUInt64).toNat = timer.toNat + interval.toNat := by
    rw [UInt64.toNat_add, width]
    omega
  dsimp only
  split
  · rename_i later
    rw [gt_iff_lt, UInt64.lt_iff_toNat_lt, left] at later
    have rest : (timer + interval.toUInt64 - elapsedTime).toNat = timer.toNat + interval.toNat - elapsedTime.toNat := by
      rw [UInt64.toNat_sub_of_le, left]
      rw [UInt64.le_iff_toNat_le, left]
      omega
    rw [UInt64.le_iff_toNat_le, rest, width]
    omega
  · rename_i exact_
    rw [gt_iff_lt, UInt64.lt_iff_toNat_lt, left] at exact_
    rw [UInt64.le_iff_toNat_le, width, UInt64.toNat_zero]
    omega

theorem countProductionInhibit_cyclic (cyclic : before.getProductionTrigger = .cyclic) :
    countProductionInhibit elapsedTime before = before := by
  unfold countProductionInhibit
  rw [if_neg fun both => both.1 cyclic]

/-- The connection still produces with the interval, and frames, elapsed time and timer balance. -/
structure Balances (interval : UInt16) (elapsedTime : MilliSeconds) (before after : CipConnectionObject)
    (frames : Nat) : Prop where
  produces : ProducesEvery interval after
  timer : after.transmissionTriggerTimer ≤ interval.toUInt64
  balance : frames * interval.toNat + before.transmissionTriggerTimer.toNat =
    elapsedTime.toNat + after.transmissionTriggerTimer.toNat

theorem decrementTransmissionTimer_balances (produces : ProducesEvery interval before)
    (started : before.transmissionTriggerTimer ≤ interval.toUInt64)
    (later : ¬before.transmissionTriggerTimer ≤ elapsedTime) :
    Balances interval elapsedTime before (decrementTransmissionTimer elapsedTime before) 0 := by
  have left : (before.transmissionTriggerTimer - elapsedTime).toNat =
      before.transmissionTriggerTimer.toNat - elapsedTime.toNat :=
    UInt64.toNat_sub_of_le _ _ (UInt64.le_of_lt (UInt64.not_le.mp later))
  rw [UInt64.le_iff_toNat_le] at started later
  refine ⟨⟨produces.cyclic, produces.producing, produces.interval⟩, ?_, ?_⟩
  · change before.transmissionTriggerTimer - elapsedTime ≤ _
    rw [UInt64.le_iff_toNat_le, left]
    omega
  · change _ = _ + (before.transmissionTriggerTimer - elapsedTime).toNat
    rw [left]
    omega

theorem reloadTransmissionTimers_balances (produces : ProducesEvery interval before)
    (due : before.transmissionTriggerTimer ≤ elapsedTime) (short : elapsedTime ≤ interval.toUInt64)
    (hasChanged : Bool) :
    Balances interval elapsedTime before (reloadTransmissionTimers elapsedTime (countFrame hasChanged before)) 1 := by
  have balance := reload_balances due short
  have same : (countFrame hasChanged before).getRequestedPacketInterval = interval := produces.interval
  refine ⟨⟨produces.cyclic, produces.producing, produces.interval⟩, ?_, ?_⟩
  · unfold reloadTransmissionTimers
    rw [same]
    exact balance.1
  · unfold reloadTransmissionTimers
    rw [same, Nat.one_mul]
    exact balance.2

theorem Served.balances (produces : ProducesEvery interval before)
    (started : before.transmissionTriggerTimer ≤ interval.toUInt64) (short : elapsedTime ≤ interval.toUInt64)
    (served : Served elapsedTime before after frames) : Balances interval elapsedTime before after frames := by
  -- the watchdog does not concern the production
  obtain ⟨counted, same, watched, timer⟩ : ∃ counted : CipConnectionObject,
      (if isWatched before then decrementWatchdogTimers elapsedTime before else before) = counted ∧
      ProducesEvery interval counted ∧ counted.transmissionTriggerTimer = before.transmissionTriggerTimer := by
    refine ⟨_, rfl, ?_⟩
    split
    · exact ⟨⟨produces.cyclic, produces.producing, produces.interval⟩, rfl⟩
    · exact ⟨produces, rfl⟩
  have moved {left : CipConnectionObject} {count : Nat} (balances : Balances interval elapsedTime counted left count) :
      Balances interval elapsedTime before left count := ⟨balances.1, balances.2, timer ▸ balances.3⟩
  rw [← timer] at started
  cases served with
  | silent idle =>
      rw [produces.producing] at idle
      cases idle
  | waiting producing later =>
      rw [same, countProductionInhibit_cyclic watched.cyclic]
      exact moved (decrementTransmissionTimer_balances watched started (timer ▸ later))
  | sent producing due hasChanged =>
      rw [same, countProductionInhibit_cyclic watched.cyclic]
      exact moved (reloadTransmissionTimers_balances watched (timer ▸ due) short hasChanged)

end Accounting

section Ticks

variable {stack : Stack config} {slot : Slot config} {interval : UInt16}

def tick (stack : Stack config) (tick : Peers × MilliSeconds) : Except Fault (Stack config) :=
  manageConnections tick.1 tick.2 stack

theorem countedTick_balances (coherent : Coherent stack) (established : (stack.object slot).state = .established)
    (produces : ProducesEvery interval (stack.object slot))
    (started : (stack.object slot).transmissionTriggerTimer ≤ interval.toUInt64) {peers : Peers}
    {elapsedTime : MilliSeconds} (short : elapsedTime ≤ interval.toUInt64)
    (undisturbed : Undisturbed slot elapsedTime stack) (counted : Nat) :
    Settles (countedTick slot (stack, counted) (peers, elapsedTime))
      (fun after => Coherent after.1 ∧ ((after.1.object slot).state = .established → ∃ frames,
        after.2 = counted + frames ∧ Balances interval elapsedTime (stack.object slot) (after.1.object slot) frames))
      (fun _ => True) := by
  refine (countedTick_serves coherent established undisturbed counted).mono ?_
  rintro ⟨after, total⟩ ⟨afterCoherent, serves⟩
  refine ⟨afterCoherent, fun still => ?_⟩
  obtain ⟨frames, counts, met, left, untouched, _, served, kept⟩ := serves still
  have first := untouched.same produces.takesNothingOver
  subst first
  have balances := served.balances produces started short
  rw [← kept.same balances.produces.takesNothingOver] at balances
  exact ⟨frames, counts, balances⟩

theorem tick_continues (coherent : Coherent stack) {timed : Peers × MilliSeconds} {after : Stack config}
    (done : stack.tick timed = .ok after) : Continues (fun _ => False) stack after := by
  have proceeds : Proceeds (fun _ => False) (fun _ _ => False) stack (manageConnections timed.1 timed.2 stack) :=
    manageConnections_proceeds coherent
  exact (proceeds.returns done).continues coherent

theorem established_before {ticks : List (Peers × MilliSeconds)} {after : Stack config} (coherent : Coherent stack)
    (run : ticks.foldlM tick stack = .ok after) (established : (after.object slot).state = .established) :
    (stack.object slot).state = .established := by
  induction ticks generalizing stack with
  | nil =>
      cases run
      exact established
  | cons first rest ih =>
      obtain ⟨middle, done, run⟩ := bind_eq_ok.mp run
      have continues := tick_continues coherent done
      have later := ih continues.coherent run
      exact continues.aged slot ((continues.coherent.mem_iff slot).mpr (.inl later)) later

theorem ticks_balance {ticks : List (Peers × MilliSeconds)} {after : Stack config} (coherent : Coherent stack)
    (produces : ProducesEvery interval (stack.object slot))
    (started : (stack.object slot).transmissionTriggerTimer ≤ interval.toUInt64)
    (short : ∀ timed ∈ ticks, timed.2 ≤ interval.toUInt64)
    (undisturbed : Along tick (fun reached timed => Undisturbed slot timed.2 reached) stack ticks)
    (run : ticks.foldlM tick stack = .ok after) (established : (after.object slot).state = .established)
    (counted : Nat) :
    ∃ frames, ticks.foldlM (countedTick slot) (stack, counted) = .ok (after, counted + frames) ∧
      (after.object slot).transmissionTriggerTimer ≤ interval.toUInt64 ∧
      frames * interval.toNat + (stack.object slot).transmissionTriggerTimer.toNat =
        (ticks.map fun timed => timed.2.toNat).sum + (after.object slot).transmissionTriggerTimer.toNat := by
  induction ticks generalizing stack counted with
  | nil =>
      cases run
      exact ⟨0, rfl, started, by simp⟩
  | cons first rest ih =>
      have before := established_before coherent run established
      obtain ⟨middle, done, later⟩ := bind_eq_ok.mp run
      have middleCoherent := (tick_continues coherent done).coherent
      obtain ⟨meets, along⟩ := undisturbed
      have balances : Settles (countedTick slot (stack, counted) first) _ _ :=
        countedTick_balances coherent before produces started (short first List.mem_cons_self) meets counted
      -- the counted tick ends in the same stack
      obtain ⟨⟨same, total⟩, countedDone, rfl⟩ := map_eq_ok.mp ((countedTick_fst (stack, counted) first).trans done)
      obtain ⟨_, balance⟩ := balances.returns countedDone
      obtain ⟨frames, counts, balance⟩ := balance (established_before middleCoherent later established)
      obtain ⟨more, run, timer, sum⟩ := ih middleCoherent balance.produces balance.timer
        (fun timed inside => short timed (List.mem_cons_of_mem _ inside)) (along _ done) later total
      refine ⟨frames + more, ?_, timer, ?_⟩
      · rw [List.foldlM_cons, countedDone, ok_bind, run]
        have total_eq : total = counted + frames := counts
        rw [total_eq, Nat.add_assoc]
      · have here := balance.balance
        rw [List.map_cons, List.sum_cons, Nat.add_mul]
        omega

/-- A cyclic producer never drifts while no class 3 connection in front of it times out: after any ticks of at most
its interval the timer is within the interval, and the frames sent are those the elapsed time pays for. -/
theorem cyclicProduction_balances {start after : Stack config} (reached : Reached start)
    (produces : ProducesEvery interval (start.object slot))
    (started : (start.object slot).transmissionTriggerTimer ≤ interval.toUInt64)
    {ticks : List (Peers × MilliSeconds)} (short : ∀ timed ∈ ticks, timed.2 ≤ interval.toUInt64)
    (undisturbed : Along tick (fun stack timed => Undisturbed slot timed.2 stack) start ticks)
    (run : ticks.foldlM tick start = .ok after) (established : (after.object slot).state = .established) :
    ∃ frames, ticks.foldlM (countedTick slot) (start, 0) = .ok (after, frames) ∧
      (after.object slot).transmissionTriggerTimer ≤ interval.toUInt64 ∧
      frames * interval.toNat + (start.object slot).transmissionTriggerTimer.toNat =
        (ticks.map fun timed => timed.2.toNat).sum + (after.object slot).transmissionTriggerTimer.toNat := by
  obtain ⟨frames, counted, balance⟩ :=
    ticks_balance reached.intact.coherent produces started short undisturbed run established 0
  exact ⟨frames, (Nat.zero_add frames) ▸ counted, balance⟩

end Ticks

section Runs

open SampleApplication

def openEvery : Request :=
  { openIo 1 (pointToPoint 128) (multicast 128) 101 102 with
    data :=
      addForwardOpenHeader false
        { oToTConnectionId := 0
          tToOConnectionId := 0x100
          connectionSerialNumber := 1
          originatorVendorId := 1
          originatorSerialNumber := 7
          connectionTimeoutMultiplier := 0
          oToTRequestedPacketInterval := 20000000
          oToTNetworkConnectionParameters := pointToPoint 128
          tToORequestedPacketInterval := 20000000
          tToONetworkConnectionParameters := multicast 128
          transportClassTrigger := 0x01 } ++
        [4, 0x20, 0x04, 0x24, 103, 0x2C, 101, 0x2C, 102] }

def cyclicSlot : Slot configuration := .exclusiveOwner ⟨0, exclusiveOwners_some⟩

instance (interval : UInt16) (object : CipConnectionObject) : Decidable (ProducesEvery interval object) :=
  decidable_of_iff (object.getProductionTrigger = .cyclic ∧ isProducing object = true ∧
      object.getRequestedPacketInterval = interval)
    ⟨fun ⟨cyclic, producing, interval⟩ => ⟨cyclic, producing, interval⟩,
      fun produces => ⟨produces.cyclic, produces.producing, produces.interval⟩⟩

def tenSeconds : Peers × MilliSeconds := (⟨fun _ => 0⟩, 10000)

theorem cyclicProduction_balances_tick : ∃ start after : Stack configuration, ∃ frames,
    [tenSeconds].foldlM (countedTick cyclicSlot) (start, 0) = .ok (after, frames) ∧
      (after.object cyclicSlot).transmissionTriggerTimer ≤ UInt16.toUInt64 20000 ∧
      frames * UInt16.toNat 20000 + (start.object cyclicSlot).transmissionTriggerTimer.toNat =
        10000 + (after.object cyclicSlot).transmissionTriggerTimer.toNat := by
  have run : ends [.forwardOpen openEvery] (fun stack : Stack configuration =>
      decide (ProducesEvery 20000 (stack.object cyclicSlot) ∧ (stack.object cyclicSlot).transmissionTriggerTimer ≤ 20000 ∧
        Undisturbed cyclicSlot 10000 stack) &&
      match stack.tick tenSeconds with
      | .ok after => decide ((after.object cyclicSlot).state = .established)
      | .error _ => false) = true := by decide +kernel
  obtain ⟨start, reached, shown⟩ := exists_of_ends run
  rw [Bool.and_eq_true] at shown
  obtain ⟨met, ticked⟩ := shown
  obtain ⟨produces, started, undisturbed⟩ := of_decide_eq_true met
  cases done : start.tick tenSeconds with
  | error fault =>
      rw [done] at ticked
      cases ticked
  | ok after =>
      rw [done] at ticked
      have once : [tenSeconds].foldlM tick start = .ok after := by
        rw [List.foldlM_cons, done]
        rfl
      have short : ∀ timed ∈ [tenSeconds], timed.2 ≤ UInt16.toUInt64 20000 := by
        intro timed inside
        rw [List.mem_singleton.mp inside]
        decide
      have along : Along tick (fun stack timed => Undisturbed cyclicSlot timed.2 stack) start [tenSeconds] :=
        ⟨undisturbed, fun _ _ => trivial⟩
      obtain ⟨frames, balance⟩ :=
        cyclicProduction_balances reached produces started short along once (of_decide_eq_true ticked)
      exact ⟨start, after, frames, balance⟩

/-- A class 3 connection in front of it times out: the tick is over and the cyclic producer has missed it. -/
theorem missed_tick_does_not_balance : ∃ start after : Stack configuration, ∃ frames, Reached start ∧
    (start.object cyclicSlot).state = .established ∧ ProducesEvery 20000 (start.object cyclicSlot) ∧
    (start.object cyclicSlot).transmissionTriggerTimer ≤ 20000 ∧ tenSeconds.2 ≤ 20000 ∧
    countedTick cyclicSlot (start, 0) tenSeconds = .ok (after, frames) ∧
    (after.object cyclicSlot).state = .established ∧
    frames * 20000 + (start.object cyclicSlot).transmissionTriggerTimer.toNat ≠
      tenSeconds.2.toNat + (after.object cyclicSlot).transmissionTriggerTimer.toNat := by
  have run : ends [.forwardOpen openEvery, .forwardOpen (openExplicit 2)] (fun stack : Stack configuration =>
      decide ((stack.object cyclicSlot).state = .established ∧ ProducesEvery 20000 (stack.object cyclicSlot) ∧
        (stack.object cyclicSlot).transmissionTriggerTimer ≤ 20000 ∧ tenSeconds.2 ≤ 20000) &&
      match countedTick cyclicSlot (stack, 0) tenSeconds with
      | .ok (after, frames) => decide ((after.object cyclicSlot).state = .established ∧
          frames * 20000 + (stack.object cyclicSlot).transmissionTriggerTimer.toNat ≠
            tenSeconds.2.toNat + (after.object cyclicSlot).transmissionTriggerTimer.toNat)
      | .error _ => false) = true := by decide +kernel
  obtain ⟨start, reached, shown⟩ := exists_of_ends run
  rw [Bool.and_eq_true] at shown
  obtain ⟨met, ticked⟩ := shown
  obtain ⟨established, produces, started, short⟩ := of_decide_eq_true met
  cases done : countedTick cyclicSlot (start, 0) tenSeconds with
  | error fault =>
      rw [done] at ticked
      cases ticked
  | ok result =>
      obtain ⟨after, frames⟩ := result
      rw [done] at ticked
      obtain ⟨still, differs⟩ := of_decide_eq_true ticked
      exact ⟨start, after, frames, reached, established, produces, started, short, done, still, differs⟩

end Runs

end Stack

end EtherNetIP
