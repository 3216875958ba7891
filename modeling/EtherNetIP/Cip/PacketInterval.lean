import EtherNetIP.Cip.TransportRouting
import Mathlib.Order.Bounds.Basic

/-! Requested packet intervals in ticks of the timer.

An originator asks for a T→O interval in microseconds. The expected packet rate
is this interval rounded up to a tick, the requested packet interval the same
rounded down; both are milliseconds in a field of 16 bits.
-/

set_option autoImplicit false

namespace EtherNetIP

open Library CipConnectionObject

variable {config : Configuration}

def serviceable : Set Nat := {milliseconds | kOpenerTimerTickInMilliSeconds.toNat ∣ milliseconds}

/-- Both rates of a connection are its T→O interval rounded to a tick, and with an interval it produces. -/
structure RoundsInterval (object : CipConnectionObject) : Prop where
  rate : IsLeast {milliseconds ∈ serviceable | object.tToORequestedPacketInterval.toNat ≤ 1000 * milliseconds}
    object.expectedPacketRate.toNat
  interval : IsGreatest {milliseconds ∈ serviceable | 1000 * milliseconds ≤ object.tToORequestedPacketInterval.toNat}
    object.getRequestedPacketInterval.toNat
  produces : object.tToORequestedPacketInterval ≠ 0 → object.expectedPacketRate ≠ 0

def connectionObjectSetExpectedPacketRate (object : CipConnectionObject) : CipConnectionObject :=
  { object with expectedPacketRate := expectedPacketRateOf object.tToORequestedPacketInterval }

def longestInterval : UInt32 := 65530000

section Rounding

variable {object : CipConnectionObject}

theorem floor_isGreatest (microseconds : Nat) :
    IsGreatest {milliseconds ∈ serviceable | 1000 * milliseconds ≤ microseconds} (10 * (microseconds / 10000)) := by
  refine ⟨⟨⟨microseconds / 10000, rfl⟩, by omega⟩, ?_⟩
  rintro milliseconds ⟨⟨ticks, rfl⟩, below⟩
  change 10 * ticks ≤ _
  change 1000 * (10 * ticks) ≤ _ at below
  omega

theorem ceil_isLeast (microseconds : Nat) :
    IsLeast {milliseconds ∈ serviceable | microseconds ≤ 1000 * milliseconds}
      (10 * ((microseconds + 9999) / 10000)) := by
  refine ⟨⟨⟨(microseconds + 9999) / 10000, rfl⟩, by omega⟩, ?_⟩
  rintro milliseconds ⟨⟨ticks, rfl⟩, above⟩
  change _ ≤ 10 * ticks
  change _ ≤ 1000 * (10 * ticks) at above
  omega

theorem expectedPacketRateOf_toNat (interval : UInt32) :
    (expectedPacketRateOf interval).toNat = 10 * ((interval.toNat + 9999) / 10000) % 65536 := by
  have bound := interval.toNat_lt
  have tick : (kOpenerTimerTickInMilliSeconds * 1000).toNat = 10000 := rfl
  have ten : kOpenerTimerTickInMilliSeconds.toNat = 10 := rfl
  have thousand : (1000 : UInt32).toNat = 1000 := rfl
  unfold expectedPacketRateOf
  dsimp only
  split
  · rename_i whole
    have rest := congrArg UInt32.toNat whole
    rw [UInt32.toNat_mod, tick] at rest
    change interval.toNat % 10000 = 0 at rest
    rw [UInt32.toNat_toUInt16, UInt32.toNat_div, thousand]
    omega
  · rename_i part
    have rest : interval.toNat % 10000 ≠ 0 := by
      intro whole
      refine part (UInt32.toNat_inj.mp ?_)
      rw [UInt32.toNat_mod, tick]
      exact whole
    have below : ((interval % (kOpenerTimerTickInMilliSeconds * 1000)) / 1000).toNat = interval.toNat % 10000 / 1000 := by
      rw [UInt32.toNat_div, UInt32.toNat_mod, tick, thousand]
    rw [UInt32.toNat_toUInt16, UInt32.toNat_add, UInt32.toNat_sub_of_le, below, UInt32.toNat_div, thousand, ten]
    · omega
    · rw [UInt32.le_iff_toNat_le, below, ten]
      omega

theorem getRequestedPacketInterval_toNat (object : CipConnectionObject) :
    object.getRequestedPacketInterval.toNat = 10 * (object.tToORequestedPacketInterval.toNat / 10000) % 65536 := by
  have tick : (kOpenerTimerTickInMilliSeconds * 1000).toNat = 10000 := rfl
  have thousand : (1000 : UInt32).toNat = 1000 := rfl
  unfold getRequestedPacketInterval
  dsimp only
  generalize object.tToORequestedPacketInterval = interval
  have bound := interval.toNat_lt
  split
  · rename_i whole
    have rest := congrArg UInt32.toNat whole
    rw [UInt32.toNat_mod, tick] at rest
    change interval.toNat % 10000 = 0 at rest
    rw [UInt32.toNat_toUInt16, UInt32.toNat_div, thousand]
    omega
  · have below : ((interval % (kOpenerTimerTickInMilliSeconds * 1000)) / 1000).toNat = interval.toNat % 10000 / 1000 := by
      rw [UInt32.toNat_div, UInt32.toNat_mod, tick, thousand]
    rw [UInt32.toNat_toUInt16, UInt32.toNat_sub_of_le, below, UInt32.toNat_div, thousand]
    · omega
    · rw [UInt32.le_iff_toNat_le, below, UInt32.toNat_div, thousand]
      omega

theorem roundsInterval_iff (rate : object.expectedPacketRate = expectedPacketRateOf object.tToORequestedPacketInterval) :
    RoundsInterval object ↔ object.tToORequestedPacketInterval ≤ longestInterval := by
  have longest : longestInterval.toNat = 65530000 := rfl
  have above := ceil_isLeast object.tToORequestedPacketInterval.toNat
  have below := floor_isGreatest object.tToORequestedPacketInterval.toNat
  have rateValue : object.expectedPacketRate.toNat = _ :=
    (congrArg UInt16.toNat rate).trans (expectedPacketRateOf_toNat _)
  have intervalValue := getRequestedPacketInterval_toNat object
  rw [UInt32.le_iff_toNat_le, longest]
  constructor
  · intro rounds
    have same := rounds.rate.unique above
    rw [rateValue] at same
    omega
  · intro short
    rw [Nat.mod_eq_of_lt (by omega)] at rateValue intervalValue
    refine ⟨rateValue ▸ above, intervalValue ▸ below, fun some_ zero => some_ ?_⟩
    rw [zero] at rateValue
    change 0 = _ at rateValue
    exact UInt32.toNat_inj.mp (by change _ = 0; omega)

end Rounding

def Request.FitsInterval (isLfo : Bool) (request : Request) : Prop :=
  request.pathClass isLfo ≠ 0 → (request.header isLfo).tToORequestedPacketInterval ≤ longestInterval

namespace Stack

theorem roundsInterval_decided :
    DecidedByRequest (fun _ : Slot config => RoundsInterval) fun isLfo request => request.FitsInterval isLfo where
  lasts := by
    intro slot before after rounds same
    refine ⟨?_, ?_, ?_⟩
    · rw [← same.eq (·.expectedPacketRate) fun _ => rfl, ← same.eq (·.tToORequestedPacketInterval) fun _ => rfl]
      exact rounds.rate
    · rw [← same.eq getRequestedPacketInterval fun _ => rfl, ← same.eq (·.tToORequestedPacketInterval) fun _ => rfl]
      exact rounds.interval
    · rw [← same.eq (·.expectedPacketRate) fun _ => rfl, ← same.eq (·.tToORequestedPacketInterval) fun _ => rfl]
      exact rounds.produces
  opens := by
    intro stack asked isLfo request slot object admission opened
    have interval : object.tToORequestedPacketInterval = (request.header isLfo).tToORequestedPacketInterval :=
      (opened.serves.eq (·.tToORequestedPacketInterval) fun _ => rfl).symm.trans
        (admitted_reads admission (·.tToORequestedPacketInterval) (fun _ => rfl) fun _ _ => rfl)
    have asked : asked.dummy.expectedPacketRate =
        expectedPacketRateOf (request.header isLfo).tToORequestedPacketInterval :=
      admitted_reads admission (·.expectedPacketRate) (fun _ => rfl) fun _ _ => rfl
    have rate : object.expectedPacketRate = expectedPacketRateOf object.tToORequestedPacketInterval := by
      rw [interval, ← asked]
      exact (opened.serves.eq (·.expectedPacketRate) fun _ => rfl).symm
    have some_ : request.pathClass isLfo ≠ 0 := by
      rw [← (admitted_names admission).2.configuration]
      rcases opened.entry with ⟨_, router⟩ | ⟨_, assembly⟩
      · exact router ▸ by decide
      · exact assembly ▸ by decide
    rw [roundsInterval_iff rate, interval]
    exact ⟨fun short _ => short, fun fits => fits some_⟩
  nothing := by
    intro stack asked isLfo request admission zero some_
    rw [← (admitted_names admission).2.configuration] at some_
    exact absurd zero some_

/-- Setting the expected packet rate rounds right exactly up to the longest interval, and connections are rounded
right all through a run exactly if it accepts no longer one. -/
theorem all_roundsInterval_iff (object : CipConnectionObject) (assemblyData : CipInstanceNum → List CipOctet)
    (timeout : UInt16) (operations : List Operation) :
    (RoundsInterval (connectionObjectSetExpectedPacketRate object) ↔
      object.tToORequestedPacketInterval ≤ longestInterval) ∧
    ((∀ count reached,
        (operations.take count).foldlM step (Stack.initialized config assemblyData timeout) = .ok reached →
          HoldsOfListed (fun _ => RoundsInterval) reached) ↔
      Along step (AcceptedMeets fun isLfo request => request.FitsInterval isLfo)
        (Stack.initialized config assemblyData timeout) operations) :=
  ⟨roundsInterval_iff rfl, roundsInterval_decided.throughout_iff assemblyData timeout operations⟩

open SampleApplication in
def openSlow : Request :=
  { openIo 1 (pointToPoint 128) (multicast 128) 101 102 with
    data :=
      addForwardOpenHeader false
        { oToTConnectionId := 0
          tToOConnectionId := 0x100
          connectionSerialNumber := 1
          originatorVendorId := 1
          originatorSerialNumber := 7
          connectionTimeoutMultiplier := 0
          oToTRequestedPacketInterval := 10000
          oToTNetworkConnectionParameters := pointToPoint 128
          tToORequestedPacketInterval := 327680000
          tToONetworkConnectionParameters := multicast 128
          transportClassTrigger := 0x01 } ++
        [4, 0x20, 0x04, 0x24, 103, 0x2C, 101, 0x2C, 102] }

open SampleApplication in
/-- The rate of the connection is 327680 milliseconds, of which 16 bits are none: it never produces. -/
theorem slow_connection_is_silent : ∃ stack : Stack configuration, Reached stack ∧
    ∃ slot ∈ stack.connectionList.toList, (stack.object slot).state = .established ∧
      (stack.object slot).tToORequestedPacketInterval = 327680000 ∧ ¬RoundsInterval (stack.object slot) := by
  have run : ends [.forwardOpen openSlow] (fun stack : Stack configuration =>
      decide (∃ slot ∈ stack.connectionList.toList, (stack.object slot).state = .established ∧
        (stack.object slot).tToORequestedPacketInterval = 327680000 ∧
        (stack.object slot).expectedPacketRate = 0)) = true := by decide +kernel
  obtain ⟨stack, reached, shown⟩ := exists_of_ends run
  obtain ⟨slot, listed, established, interval, silent⟩ := of_decide_eq_true shown
  refine ⟨stack, reached, slot, listed, established, interval, fun rounds => rounds.produces ?_ silent⟩
  rw [interval]
  decide

end Stack

end EtherNetIP
