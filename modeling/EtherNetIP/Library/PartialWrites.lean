import Mathlib.Algebra.Order.Ring.Int

/-! Writing through a port that accepts less than it is given.

Each call passes some items on, of which the port accepts a first part, and the
loop goes on until as many are accepted as there are to be written. What comes out
is right just if each accepted part is the one that stands at its place.
-/

set_option autoImplicit false

namespace EtherNetIP.Library

/-- How many items a port accepts at each call: some of those it is given, and at least one. -/
structure ShortWrites where
  accepted : Nat → Nat → Nat
  positive : ∀ call given, 0 < given → 0 < accepted call given
  within : ∀ call given, accepted call given ≤ given

namespace ShortWrites

variable {Item : Type} (writes : ShortWrites)

def full : ShortWrites where
  accepted _ given := given
  positive _ _ some := some
  within _ _ := Nat.le_refl _

def sent (total : Nat) : Nat → Nat
  | 0 => 0
  | call + 1 => sent total call + writes.accepted call (total - sent total call)

/-- The loop. What each call passes on may depend on the offset. -/
def writeLoop (passed : Nat → List Item) (total : Nat) : Nat → Nat → List Item → Option (List Item)
  | fuel, call, wire =>
    if writes.sent total call < total then
      match fuel with
      | 0 => none
      | fuel + 1 =>
        let accepted := writes.accepted call (total - writes.sent total call)
        writeLoop passed total fuel (call + 1) (wire ++ (passed (writes.sent total call)).take accepted)
    else some wire

/-- The parts accepted at a call are those at its offset. -/
def InPlace (passed : Nat → List Item) (items : List Item) (call : Nat) : Prop :=
  let accepted := writes.accepted call (items.length - writes.sent items.length call)
  (passed (writes.sent items.length call)).take accepted = (items.drop (writes.sent items.length call)).take accepted

section Law

variable {writes} {passed : Nat → List Item} {items : List Item}

theorem sent_le (writes : ShortWrites) (total call : Nat) : writes.sent total call ≤ total := by
  induction call with
  | zero => exact Nat.zero_le _
  | succ call ih =>
    have within := writes.within call (total - writes.sent total call)
    rw [sent]
    omega

theorem sent_of_done {total call : Nat} (done : writes.sent total call = total) {later : Nat} (after : call ≤ later) :
    writes.sent total later = total := by
  induction later with
  | zero =>
    obtain rfl := Nat.le_zero.mp after
    exact done
  | succ later ih =>
    rcases Nat.lt_or_ge later call with before | behind
    · obtain rfl : call = later + 1 := by omega
      exact done
    · have within := writes.within later (total - writes.sent total later)
      rw [sent, ih behind] at *
      omega

theorem writeLoop_unique {total fuel other call : Nat} {wire first second : List Item}
    (ended : writes.writeLoop passed total fuel call wire = some first)
    (also : writes.writeLoop passed total other call wire = some second) : first = second := by
  induction fuel generalizing other call wire with
  | zero =>
    unfold writeLoop at ended also
    split at ended
    · cases ended
    · rename_i done
      rw [if_neg done] at also
      exact Option.some.inj (ended.symm.trans also)
  | succ fuel ih =>
    unfold writeLoop at ended also
    split at ended
    · rename_i more
      rw [if_pos more] at also
      cases other with
      | zero => cases also
      | succ other => exact ih ended also
    · rename_i done
      rw [if_neg done] at also
      exact Option.some.inj (ended.symm.trans also)

theorem inPlace_of_done {call : Nat} (done : writes.sent items.length call = items.length) :
    writes.InPlace passed items call := by
  have none : writes.accepted call (items.length - writes.sent items.length call) = 0 := by
    have within := writes.within call (items.length - writes.sent items.length call)
    omega
  unfold InPlace
  dsimp only
  rw [none]
  rfl

/-- Each turn accepts something, so there are no more turns than items; and what the turns from one call on write is
what stands there just if every part is in its place. -/
theorem writeLoop_from (long : ∀ offset, offset ≤ items.length → items.length - offset ≤ (passed offset).length)
    (fuel call : Nat) (wire : List Item) (enough : items.length - writes.sent items.length call ≤ fuel) :
    ∃ tail, writes.writeLoop passed items.length fuel call wire = some (wire ++ tail) ∧
      (tail = items.drop (writes.sent items.length call) ↔ ∀ later, call ≤ later → writes.InPlace passed items later) := by
  -- on the fuel, which covers the items that have not been accepted
  induction fuel generalizing call wire with
  | zero =>
    have done : writes.sent items.length call = items.length := by
      have bounded := sent_le writes items.length call
      omega
    refine ⟨[], ?_, iff_of_true ?_ fun later after => inPlace_of_done (sent_of_done done after)⟩
    · unfold writeLoop
      rw [if_neg (by omega), List.append_nil]
    · rw [done, List.drop_length]
  | succ fuel ih =>
    have bounded := sent_le writes items.length call
    by_cases more : writes.sent items.length call < items.length
    · have positive := writes.positive call (items.length - writes.sent items.length call) (by omega)
      have within := writes.within call (items.length - writes.sent items.length call)
      have next : writes.sent items.length (call + 1) =
          writes.sent items.length call + writes.accepted call (items.length - writes.sent items.length call) := rfl
      obtain ⟨tail, run, right⟩ := ih (call + 1) (wire ++ (passed (writes.sent items.length call)).take
        (writes.accepted call (items.length - writes.sent items.length call))) (by omega)
      refine ⟨(passed (writes.sent items.length call)).take
        (writes.accepted call (items.length - writes.sent items.length call)) ++ tail, ?_, ?_⟩
      · unfold writeLoop
        rw [if_pos more]
        dsimp only
        rw [run, List.append_assoc]
      · have cut := List.take_append_drop (writes.accepted call (items.length - writes.sent items.length call))
          (items.drop (writes.sent items.length call))
        rw [List.drop_drop, ← next] at cut
        have size := long _ bounded
        constructor
        · intro same
          rw [← cut] at same
          -- the part of this call and the tail of the later ones have their lengths, so they agree apart
          obtain ⟨first, others⟩ := List.append_inj same (by
            rw [List.length_take, List.length_take, List.length_drop]
            omega)
          intro later after
          rcases Nat.eq_or_lt_of_le after with rfl | behind
          · exact first
          · exact right.mp others later behind
        · intro all
          have first : writes.InPlace passed items call := all call (Nat.le_refl _)
          unfold InPlace at first
          dsimp only at first
          rw [first, right.mpr fun later after => all later (by omega)]
          exact cut
    · have done : writes.sent items.length call = items.length := by omega
      refine ⟨[], ?_, iff_of_true ?_ fun later after => inPlace_of_done (sent_of_done done after)⟩
      · unfold writeLoop
        rw [if_neg more, List.append_nil]
      · rw [done, List.drop_length]

theorem writeLoop_iff (long : ∀ offset, offset ≤ items.length → items.length - offset ≤ (passed offset).length) :
    ∃ wire, writes.writeLoop passed items.length items.length 0 [] = some wire ∧
      (wire = items ↔ ∀ call, writes.InPlace passed items call) := by
  obtain ⟨tail, run, right⟩ := @writeLoop_from Item writes passed items long items.length 0 [] (Nat.sub_le _ _)
  exact ⟨tail, run, right.trans ⟨fun all call => all call (Nat.zero_le _), fun all call _ => all call⟩⟩

theorem inPlace_full (first : passed 0 = items) (call : Nat) : full.InPlace passed items call := by
  cases call with
  | zero =>
    unfold InPlace
    change (passed 0).take _ = (items.drop 0).take _
    rw [first, List.drop_zero]
  | succ call =>
    refine inPlace_of_done ?_
    have whole : full.sent items.length 1 = items.length := Nat.zero_add _
    exact sent_of_done whole (by omega)

end Law

end ShortWrites

end EtherNetIP.Library
