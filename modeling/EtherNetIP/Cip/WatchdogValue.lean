import EtherNetIP.Cip.PacketInterval

/-! The watchdog of a connection in milliseconds.

The time a connection may hear nothing is a multiple of its O→T interval, four
times a power of two. The exponent is an octet of the request and the interval
any number of 32 bits, so the shift may lose what the timer should count.
-/

set_option autoImplicit false

namespace EtherNetIP

open Library CipConnectionObject

variable {config : Configuration}

/-- The watchdog is four times the power of two of the O→T interval, and not shorter than one interval. -/
structure WatchesExactly (object : CipConnectionObject) : Prop where
  shift : 2 + object.connectionTimeoutMultiplier.toNat < 64
  value : object.calculateRegularInactivityWatchdogTimerValue.toNat =
    object.oToTRequestedPacketInterval.toNat / 1000 * 4 * 2 ^ object.connectionTimeoutMultiplier.toNat
  interval : object.oToTRequestedPacketInterval.toNat ≤ 1000 * object.calculateRegularInactivityWatchdogTimerValue.toNat

/-- The product fits 64 bits, and an interval is a millisecond at least. -/
structure FitsWatchdog (oToTRequestedPacketInterval : UInt32) (connectionTimeoutMultiplier : UInt8) : Prop where
  shift : connectionTimeoutMultiplier.toNat ≤ 61
  product : oToTRequestedPacketInterval.toNat / 1000 * 2 ^ (2 + connectionTimeoutMultiplier.toNat) < 2 ^ 64
  interval : oToTRequestedPacketInterval = 0 ∨ 1000 ≤ oToTRequestedPacketInterval.toNat

section Value

variable {interval : UInt32} {multiplier : UInt8}

/-- A shift of less than 64 places loses what does not fit. -/
theorem regularInactivityWatchdogTimerValueOf_toNat (small : multiplier.toNat ≤ 61) :
    (regularInactivityWatchdogTimerValueOf interval multiplier).toNat =
      interval.toNat / 1000 * 2 ^ (2 + multiplier.toNat) % 2 ^ 64 := by
  have count : (2 + multiplier.toUInt64).toNat % 64 = 2 + multiplier.toNat := by
    rw [UInt64.toNat_add, UInt8.toNat_toUInt64]
    change (2 + _) % 18446744073709551616 % 64 = _
    omega
  unfold regularInactivityWatchdogTimerValueOf
  rw [UInt64.toNat_shiftLeft, count, Nat.shiftLeft_eq, UInt64.toNat_div, UInt32.toNat_toUInt64]
  rfl

theorem four_times_power (milliseconds : Nat) (multiplier : UInt8) :
    milliseconds * 2 ^ (2 + multiplier.toNat) = milliseconds * 4 * 2 ^ multiplier.toNat := by
  rw [Nat.pow_add, ← Nat.mul_assoc]

theorem interval_le_fourfold (microseconds power : Nat) (positive : 0 < power) (longer : 1000 ≤ microseconds) :
    microseconds ≤ 1000 * (microseconds / 1000 * 4 * power) := by
  have fourfold : microseconds ≤ 1000 * (microseconds / 1000 * 4) := by omega
  have more : microseconds / 1000 * 4 ≤ microseconds / 1000 * 4 * power := Nat.le_mul_of_pos_right _ positive
  omega

theorem watchesExactly_iff (object : CipConnectionObject) : WatchesExactly object ↔
    FitsWatchdog object.oToTRequestedPacketInterval object.connectionTimeoutMultiplier := by
  generalize interval : object.oToTRequestedPacketInterval = microseconds
  generalize multiplier : object.connectionTimeoutMultiplier = exponent
  have positive : 0 < 2 ^ exponent.toNat := Nat.two_pow_pos _
  constructor
  · intro watches
    have shift := watches.shift
    have value := watches.value
    have covers := watches.interval
    rw [multiplier] at shift
    have small : exponent.toNat ≤ 61 := by omega
    have calculated : object.calculateRegularInactivityWatchdogTimerValue.toNat =
        microseconds.toNat / 1000 * 2 ^ (2 + exponent.toNat) % 2 ^ 64 := by
      unfold calculateRegularInactivityWatchdogTimerValue
      rw [interval, multiplier]
      exact regularInactivityWatchdogTimerValueOf_toNat small
    rw [interval, multiplier, ← four_times_power] at value
    rw [value, interval] at covers
    refine ⟨small, ?_, ?_⟩
    · rw [← value, calculated]
      exact Nat.mod_lt _ (by decide)
    · rcases Nat.lt_or_ge microseconds.toNat 1000 with short | longer
      · rw [Nat.div_eq_of_lt short, Nat.zero_mul] at covers
        exact .inl (UInt32.toNat_inj.mp (Nat.le_zero.mp covers))
      · exact .inr longer
  · intro fits
    have shift := fits.shift
    have calculated : object.calculateRegularInactivityWatchdogTimerValue.toNat =
        microseconds.toNat / 1000 * 4 * 2 ^ exponent.toNat := by
      unfold calculateRegularInactivityWatchdogTimerValue
      rw [interval, multiplier, regularInactivityWatchdogTimerValueOf_toNat shift, Nat.mod_eq_of_lt fits.product,
        four_times_power]
    refine ⟨?_, ?_, ?_⟩
    · rw [multiplier]
      omega
    · rw [calculated, interval, multiplier]
    · rw [calculated, interval]
      rcases fits.interval with none | longer
      · rw [none]
        exact Nat.zero_le _
      · exact interval_le_fourfold _ _ positive longer

end Value

def Request.FitsWatchdog (isLfo : Bool) (request : Request) : Prop :=
  request.pathClass isLfo ≠ 0 → EtherNetIP.FitsWatchdog (request.header isLfo).oToTRequestedPacketInterval
    (request.header isLfo).connectionTimeoutMultiplier

namespace Stack

theorem watchesExactly_decided :
    DecidedByRequest (fun _ : Slot config => WatchesExactly) fun isLfo request => request.FitsWatchdog isLfo where
  lasts := by
    intro slot before after watches same
    rw [watchesExactly_iff] at watches ⊢
    rw [← same.eq (·.oToTRequestedPacketInterval) fun _ => rfl,
      ← same.eq (·.connectionTimeoutMultiplier) fun _ => rfl]
    exact watches
  opens := by
    intro stack asked isLfo request slot object admission opened
    have interval : object.oToTRequestedPacketInterval = (request.header isLfo).oToTRequestedPacketInterval :=
      (opened.serves.eq (·.oToTRequestedPacketInterval) fun _ => rfl).symm.trans
        (admitted_reads admission (·.oToTRequestedPacketInterval) (fun _ => rfl) fun _ _ => rfl)
    have multiplier : object.connectionTimeoutMultiplier = (request.header isLfo).connectionTimeoutMultiplier :=
      (opened.serves.eq (·.connectionTimeoutMultiplier) fun _ => rfl).symm.trans
        (admitted_reads admission (·.connectionTimeoutMultiplier) (fun _ => rfl) fun _ _ => rfl)
    have some_ : request.pathClass isLfo ≠ 0 := by
      rw [← (admitted_names admission).2.configuration]
      rcases opened.entry with ⟨_, router⟩ | ⟨_, assembly⟩
      · exact router ▸ by decide
      · exact assembly ▸ by decide
    rw [watchesExactly_iff, interval, multiplier]
    exact ⟨fun fits _ => fits, fun fits => fits some_⟩
  nothing := by
    intro stack asked isLfo request admission zero some_
    rw [← (admitted_names admission).2.configuration] at some_
    exact absurd zero some_

/-- The watchdog of an object is exact exactly if its interval and multiplier fit the timer, and that of every
connection is all through a run exactly if those of every accepted request do. -/
theorem all_watchesExactly_iff (object : CipConnectionObject) (assemblyData : CipInstanceNum → List CipOctet)
    (timeout : UInt16) (operations : List Operation) :
    (WatchesExactly object ↔ FitsWatchdog object.oToTRequestedPacketInterval object.connectionTimeoutMultiplier) ∧
    ((∀ count reached,
        (operations.take count).foldlM step (Stack.initialized config assemblyData timeout) = .ok reached →
          HoldsOfListed (fun _ => WatchesExactly) reached) ↔
      Along step (AcceptedMeets fun isLfo request => request.FitsWatchdog isLfo)
        (Stack.initialized config assemblyData timeout) operations) :=
  ⟨watchesExactly_iff object, watchesExactly_decided.throughout_iff assemblyData timeout operations⟩

open SampleApplication in
def openShifted : Request :=
  { openIo 1 (pointToPoint 128) (multicast 128) 101 102 with
    data :=
      addForwardOpenHeader false
        { oToTConnectionId := 0
          tToOConnectionId := 0x100
          connectionSerialNumber := 1
          originatorVendorId := 1
          originatorSerialNumber := 7
          connectionTimeoutMultiplier := 62
          oToTRequestedPacketInterval := 10000
          oToTNetworkConnectionParameters := pointToPoint 128
          tToORequestedPacketInterval := 10000
          tToONetworkConnectionParameters := multicast 128
          transportClassTrigger := 0x01 } ++
        [4, 0x20, 0x04, 0x24, 103, 0x2C, 101, 0x2C, 102] }

open SampleApplication in
/-- The shift by 64 places is accepted. -/
theorem shifted_watchdog_is_accepted : ∃ stack : Stack configuration, Reached stack ∧
    ∃ slot ∈ stack.connectionList.toList, (stack.object slot).state = .established ∧
      (stack.object slot).connectionTimeoutMultiplier = 62 ∧ ¬WatchesExactly (stack.object slot) := by
  have run : ends [.forwardOpen openShifted] (fun stack : Stack configuration =>
      decide (∃ slot ∈ stack.connectionList.toList, (stack.object slot).state = .established ∧
        (stack.object slot).connectionTimeoutMultiplier = 62)) = true := by decide +kernel
  obtain ⟨stack, reached, shown⟩ := exists_of_ends run
  obtain ⟨slot, listed, established, multiplier⟩ := of_decide_eq_true shown
  refine ⟨stack, reached, slot, listed, established, multiplier, fun watches => ?_⟩
  have shift := watches.shift
  rw [multiplier] at shift
  exact absurd shift (by decide)

end Stack

end EtherNetIP
