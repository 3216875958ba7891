import Mathlib.Algebra.Order.Ring.Int
import Mathlib.Data.List.Basic

/-! Packets with consecutive numbers that wrap around.

A producer numbers its packets from some base on, in words of a fixed width. A
receiver that remembers the newest number accepts a packet whose number is
ahead of it by less than half the range. As long as no packet falls behind by
half the range, what it accepts stands in the order of the stream, however often
the numbers have wrapped around.
-/

set_option autoImplicit false

namespace EtherNetIP.Library

variable {w : Nat}

def IsNewer (number other : BitVec w) : Prop := 0 < (number - other).toInt

instance (number other : BitVec w) : Decidable (IsNewer number other) :=
  inferInstanceAs (Decidable (0 < (number - other).toInt))

def numberAt (base : BitVec w) (position : Nat) : BitVec w := base + BitVec.ofNat w position

section Window

variable {base : BitVec w} {position other : Nat}

theorem numberAt_sub_toInt (base : BitVec w) (position other : Nat) :
    (numberAt base position - numberAt base other).toInt = ((position : Int) - other).bmod (2 ^ w) := by
  have shifted : numberAt base position - numberAt base other = BitVec.ofNat w position - BitVec.ofNat w other := by
    unfold numberAt
    rw [BitVec.add_comm base, BitVec.add_comm base, BitVec.sub_eq_add_neg, BitVec.sub_eq_add_neg]
    grind
  rw [shifted, BitVec.toInt_sub, BitVec.toInt_ofNat', BitVec.toInt_ofNat', Int.bmod_sub_bmod, Int.sub_bmod_bmod]

theorem bmod_pow_of_window {distance : Int} (behind : -(2 ^ (w - 1) : Nat) < distance)
    (ahead : distance < (2 ^ (w - 1) : Nat)) : distance.bmod (2 ^ w) = distance := by
  cases w with
  | zero =>
      have here : distance = 0 := by simp at behind ahead; omega
      rw [here, Int.zero_bmod]
  | succ n =>
      have half : 2 ^ (n + 1) = 2 * 2 ^ n := Nat.pow_succ'
      apply Int.bmod_eq_of_le <;> simp only [Nat.add_sub_cancel] at behind ahead <;> omega

theorem not_isNewer_of_le (behind : position ≤ other) (window : other < position + 2 ^ (w - 1)) :
    ¬ IsNewer (numberAt base position) (numberAt base other) := by
  unfold IsNewer
  rw [numberAt_sub_toInt, bmod_pow_of_window (by omega) (by omega)]
  omega

end Window

/-- A packet that has arrived: where it stands in the stream, and whether it was accepted. -/
structure Arrival where
  position : Nat
  accepted : Bool
  deriving DecidableEq, Repr

/-- No packet arrives after one that is half the range or more ahead of it. -/
def InWindow (w : Nat) (arrivals : List Arrival) : Prop :=
  arrivals.Pairwise fun earlier later => earlier.position < later.position + 2 ^ (w - 1)

def acceptedPositions (arrivals : List Arrival) : List Nat :=
  (arrivals.filter (·.accepted)).map (·.position)

/-- A receiver that remembers the newest number, once there is one, takes packets in turn. -/
inductive ReceivesFrom (base : BitVec w) : Option (BitVec w) → List Arrival → Prop
  | nothing (newest : Option (BitVec w)) : ReceivesFrom base newest []
  | accepted {newest : Option (BitVec w)} {position : Nat} {rest : List Arrival}
      (newer : ∀ number ∈ newest, IsNewer (numberAt base position) number)
      (later : ReceivesFrom base (some (numberAt base position)) rest) :
      ReceivesFrom base newest (⟨position, true⟩ :: rest)
  | dropped {newest : BitVec w} {position : Nat} {rest : List Arrival}
      (stale : ¬ IsNewer (numberAt base position) newest) (later : ReceivesFrom base (some newest) rest) :
      ReceivesFrom base (some newest) (⟨position, false⟩ :: rest)

/-- Behind an accepted packet everything accepted stands later in the stream. -/
theorem ReceivesFrom.increasing_from {base : BitVec w} {newest : Nat} {arrivals : List Arrival}
    (receives : ReceivesFrom base (some (numberAt base newest)) arrivals)
    (near : ∀ arrival ∈ arrivals, newest < arrival.position + 2 ^ (w - 1)) (window : InWindow w arrivals) :
    (newest :: acceptedPositions arrivals).Pairwise (· < ·) := by
  induction arrivals generalizing newest with
  | nil => exact List.pairwise_singleton _ _
  | cons arrival rest ih =>
      have later := List.pairwise_cons.mp window
      cases receives with
      | @accepted _ position _ newer receives =>
          have ahead : newest < position := by
            by_contra behind
            have inReach : newest < position + 2 ^ (w - 1) := near _ List.mem_cons_self
            exact not_isNewer_of_le (by omega) inReach (newer _ rfl)
          have increasing := ih receives (fun next member => later.1 next member) later.2
          change (newest :: position :: acceptedPositions rest).Pairwise (· < ·)
          refine List.pairwise_cons.mpr ⟨fun next member => ?_, increasing⟩
          rcases List.mem_cons.mp member with rfl | inRest
          · exact ahead
          · exact Nat.lt_trans ahead ((List.pairwise_cons.mp increasing).1 next inRest)
      | dropped stale receives =>
          exact ih receives (fun next member => near next (List.mem_cons_of_mem _ member)) later.2

/-- What a receiver without any number yet accepts, it accepts once and in the order of the stream. -/
theorem ReceivesFrom.increasing {base : BitVec w} {arrivals : List Arrival}
    (receives : ReceivesFrom base none arrivals) (window : InWindow w arrivals) :
    (acceptedPositions arrivals).Pairwise (· < ·) := by
  cases receives with
  | nothing => exact List.Pairwise.nil
  | accepted newer receives =>
      have later := List.pairwise_cons.mp window
      exact receives.increasing_from later.1 later.2

theorem ReceivesFrom.stale_dropped {base : BitVec w} {earlier later : List Arrival} {arrival : Arrival}
    (receives : ReceivesFrom base none (earlier ++ arrival :: later)) (window : InWindow w (earlier ++ arrival :: later))
    (stale : ∃ newer ∈ acceptedPositions earlier, arrival.position ≤ newer) : arrival.accepted = false := by
  obtain ⟨newer, member, behind⟩ := stale
  have increasing := receives.increasing window
  rw [acceptedPositions, List.filter_append, List.map_append, List.pairwise_append] at increasing
  cases taken : arrival.accepted with
  | false => rfl
  | true =>
      have ahead := increasing.2.2 newer member arrival.position (by simp [taken])
      omega

end EtherNetIP.Library
