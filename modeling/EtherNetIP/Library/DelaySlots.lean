import Mathlib.Algebra.Order.Ring.Int
import Mathlib.Data.List.Basic

/-! Answers that wait in slots until a delay has passed.

A request takes the first free slot, if there is one, with its answer and the
time it is to wait. When time passes every slot counts it down, sends its answer
once nothing is left, and is free again. An answer is sent from its slot by the
first passing of time with which its delay is reached.
-/

set_option autoImplicit false

namespace EtherNetIP.Library

variable {Answer : Type}

abbrev DelaySlot (Answer : Type) := Option (Nat × Answer)

inductive DelayEvent (Answer : Type) where
  | arrive (delay : Nat) (answer : Answer)
  | pass (elapsed : Nat)

def occupy (entry : Nat × Answer) : List (DelaySlot Answer) → List (DelaySlot Answer)
  | [] => []
  | none :: rest => some entry :: rest
  | some other :: rest => some other :: occupy entry rest

def countSlot (elapsed : Nat) : DelaySlot Answer → DelaySlot Answer × Option Answer
  | none => (none, none)
  | some (left, answer) => if left ≤ elapsed then (none, some answer) else (some (left - elapsed, answer), none)

def delayStep (slots : List (DelaySlot Answer)) : DelayEvent Answer → List (DelaySlot Answer) × List (Option Answer)
  | .arrive delay answer => (occupy (delay, answer) slots, slots.map fun _ => none)
  | .pass elapsed => (slots.map fun slot => (countSlot elapsed slot).1, slots.map fun slot => (countSlot elapsed slot).2)

def delayRun : List (DelaySlot Answer) → List (DelayEvent Answer) →
    List (DelaySlot Answer) × List (List (Option Answer))
  | slots, [] => (slots, [])
  | slots, event :: events =>
    let after := delayStep slots event
    let rest := delayRun after.1 events
    (rest.1, after.2 :: rest.2)

def waiting (slots : List (DelaySlot Answer)) : List Answer := slots.filterMap (·.map Prod.snd)

def admitted (slots : List (DelaySlot Answer)) (answer : Answer) : List Answer :=
  if slots.any Option.isNone then [answer] else []

def passes : List (DelayEvent Answer) → List Nat
  | [] => []
  | .arrive _ _ :: events => passes events
  | .pass elapsed :: events => elapsed :: passes events

section Slots

variable {slots : List (DelaySlot Answer)} {events : List (DelayEvent Answer)} {slot left elapsed : Nat} {answer : Answer}

theorem occupy_busy {entry busy : Nat × Answer} (there : slots[slot]? = some (some busy)) :
    (occupy entry slots)[slot]? = some (some busy) := by
  induction slots generalizing slot with
  | nil => simp at there
  | cons first rest ih =>
      cases slot with
      | zero =>
          obtain rfl : first = some busy := by simpa using there
          rfl
      | succ slot =>
          cases first with
          | none => exact there
          | some other => exact ih there

theorem waits (there : slots[slot]? = some (some (left, answer)))
    (early : passes events = [] ∨ (passes events).sum < left) :
    (delayRun slots events).1[slot]? = some (some (left - (passes events).sum, answer)) ∧
      ∀ sent ∈ (delayRun slots events).2, sent[slot]? = some none := by
  induction events generalizing slots left with
  | nil => exact ⟨by simpa [delayRun, passes] using there, by simp [delayRun]⟩
  | cons event events ih =>
      cases event with
      | arrive delay other =>
          obtain ⟨held, quiet⟩ := ih (occupy_busy there) early
          refine ⟨held, ?_⟩
          intro sent inside
          rcases List.mem_cons.mp inside with rfl | behind
          · rw [delayStep, List.getElem?_map, there]
            rfl
          · exact quiet sent behind
      | pass elapsed =>
          have sum : elapsed + (passes events).sum < left := by
            rcases early with none | some
            · cases none
            · simpa [passes] using some
          have counted : countSlot elapsed (some (left, answer)) = (some (left - elapsed, answer), none) :=
            if_neg (by omega)
          have next : (slots.map fun slot => (countSlot elapsed slot).1)[slot]? = some (some (left - elapsed, answer)) := by
            rw [List.getElem?_map, there, Option.map_some, counted]
          obtain ⟨held, quiet⟩ := ih next (.inr (by omega))
          constructor
          · rw [passes, List.sum_cons, Nat.sub_add_eq]
            exact held
          · intro sent inside
            rcases List.mem_cons.mp inside with rfl | behind
            · rw [delayStep, List.getElem?_map, there, Option.map_some, counted]
            · exact quiet sent behind

theorem sends (there : slots[slot]? = some (some (left, answer))) (reached : left ≤ elapsed) :
    (delayStep slots (.pass elapsed)).1[slot]? = some none ∧
      (delayStep slots (.pass elapsed)).2[slot]? = some (some answer) := by
  have counted : countSlot elapsed (some (left, answer)) = (none, some answer) := if_pos reached
  constructor
  · rw [delayStep, List.getElem?_map, there, Option.map_some, counted]
  · rw [delayStep, List.getElem?_map, there, Option.map_some, counted]

theorem waiting_occupy (delay : Nat) (answer : Answer) (slots : List (DelaySlot Answer)) :
    (waiting (occupy (delay, answer) slots)).Perm (admitted slots answer ++ waiting slots) := by
  induction slots with
  | nil => exact .refl _
  | cons first rest ih =>
      cases first with
      | none => exact .refl _
      | some other =>
          have same : admitted (some other :: rest) answer = admitted rest answer := rfl
          rw [same]
          exact (ih.cons other.2).trans List.perm_middle.symm

end Slots

end EtherNetIP.Library
