import Mathlib.Algebra.Order.Ring.Int
import Mathlib.Logic.Function.Basic

/-! Updates of a store that are made in parts.

Each part assigns a value to a key, or fails. The first that fails ends the
update, and what the parts before it have assigned stays.
-/

set_option autoImplicit false

namespace EtherNetIP.Library

variable {ε κ ν : Type} [DecidableEq κ]

def updateInParts : List (Except ε (κ × ν)) → (κ → ν) → Except ε Unit × (κ → ν)
  | [], store => (.ok (), store)
  | .error fault :: _, store => (.error fault, store)
  | .ok (key, value) :: parts, store => updateInParts parts (Function.update store key value)

def assigned : List (Except ε (κ × ν)) → List (κ × ν)
  | .ok assignment :: parts => assignment :: assigned parts
  | _ => []

def firstFault : List (Except ε (κ × ν)) → Option ε
  | [] => none
  | .error fault :: _ => some fault
  | .ok _ :: parts => firstFault parts

def lastAssigned (key : κ) : List (κ × ν) → Option ν
  | [] => none
  | (other, value) :: assignments =>
    (lastAssigned key assignments).or (if other = key then some value else none)

/-- An update that fails has assigned to each key, at last, the value that the key has. -/
def FailsUnchanged (parts : List (Except ε (κ × ν))) (store : κ → ν) : Prop :=
  (firstFault parts).isSome = true → ∀ key value, lastAssigned key (assigned parts) = some value → store key = value

section Law

variable {parts : List (Except ε (κ × ν))} {store : κ → ν}

theorem updateInParts_fst (parts : List (Except ε (κ × ν))) (store : κ → ν) :
    (updateInParts parts store).1 = match firstFault parts with
      | some fault => .error fault
      | none => .ok () := by
  induction parts generalizing store with
  | nil => rfl
  | cons part parts ih =>
    cases part with
    | error fault => rfl
    | ok assignment => exact ih _

theorem updateInParts_apply (parts : List (Except ε (κ × ν))) (store : κ → ν) (key : κ) :
    (updateInParts parts store).2 key = (lastAssigned key (assigned parts)).getD (store key) := by
  induction parts generalizing store with
  | nil => rfl
  | cons part parts ih =>
    cases part with
    | error fault => rfl
    | ok assignment =>
      obtain ⟨other, value⟩ := assignment
      rw [updateInParts, ih, assigned, lastAssigned]
      cases lastAssigned key (assigned parts) with
      | some later => rfl
      | none =>
        by_cases same : other = key
        · subst same
          rw [if_pos rfl, Function.update_self]
          rfl
        · rw [if_neg same, Function.update_of_ne (Ne.symm same)]
          rfl

theorem updateInParts_snd_eq_iff : (updateInParts parts store).2 = store ↔
    ∀ key value, lastAssigned key (assigned parts) = some value → store key = value := by
  constructor
  · intro same key value last
    have there := updateInParts_apply parts store key
    rw [same, last] at there
    exact there
  · intro held
    funext key
    rw [updateInParts_apply]
    cases last : lastAssigned key (assigned parts) with
    | none => rfl
    | some value => exact (held key value last).symm

theorem failsUnchanged_iff : FailsUnchanged parts store ↔
    ((firstFault parts).isSome = true → (updateInParts parts store).2 = store) := by
  unfold FailsUnchanged
  rw [updateInParts_snd_eq_iff]

theorem updateInParts_append (first second : List (Except ε (κ × ν))) (store : κ → ν) :
    updateInParts (first ++ second) store = match updateInParts first store with
      | (.ok (), after) => updateInParts second after
      | (.error fault, after) => (.error fault, after) := by
  induction first generalizing store with
  | nil => rfl
  | cons part first ih =>
    cases part with
    | error fault => rfl
    | ok assignment => exact ih _

theorem failsUnchanged_of_complete (complete : firstFault parts = none) : FailsUnchanged parts store := by
  intro fails
  rw [complete] at fails
  cases fails

end Law

end EtherNetIP.Library
