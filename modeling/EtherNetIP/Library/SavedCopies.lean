import Mathlib.Algebra.Order.Ring.Int
import Mathlib.Data.List.DropRight

/-! A value with a copy that is in use and a copy that is saved.

A change reaches the value and the saved copy, but not the copy in use; that
follows when the value is activated. The value can also be set back to a default,
which is put in use at once and is not saved; what is ignored changes nothing.
After a restart the value and the copy in use are the saved copy, or the default
if nothing has been saved.
-/

set_option autoImplicit false

namespace EtherNetIP.Library

variable {Value : Type}

@[ext]
structure Copies (Value : Type) where
  current : Value
  active : Value
  saved : Option Value

inductive CopyEvent (Value : Type) where
  | ignore
  | change (changed : Value → Value)
  | activate
  | setBack
  | restart

namespace CopyEvent

def changes : CopyEvent Value → Bool
  | .change _ => true
  | _ => false

def activates : CopyEvent Value → Bool
  | .ignore | .change _ => false
  | _ => true

/-- Neither the saved copy is another afterwards nor the value the saved one. -/
def leavesSaved : CopyEvent Value → Bool
  | .change _ | .restart => false
  | _ => true

end CopyEvent

namespace Copies

def start (default : Value) (saved : Option Value) : Copies Value where
  current := saved.getD default
  active := saved.getD default
  saved

def step (default : Value) (copies : Copies Value) : CopyEvent Value → Copies Value
  | .ignore => copies
  | .change changed =>
      { copies with current := changed copies.current, saved := some (changed copies.current) }
  | .activate => { copies with active := copies.current }
  | .setBack => { copies with current := default, active := default }
  | .restart => start default copies.saved

def run (default : Value) (copies : Copies Value) (events : List (CopyEvent Value)) : Copies Value :=
  events.foldl (step default) copies

variable (default : Value) (saved : Option Value) (events : List (CopyEvent Value))

theorem run_concat (copies : Copies Value) (event : CopyEvent Value) :
    copies.run default (events ++ [event]) = (copies.run default events).step default event := by
  simp [run]

theorem saved_run :
    ((start default saved).run default events).saved.getD default =
      ((start default saved).run default (events.rdropWhile (!·.changes))).current := by
  induction events using List.reverseRecOn with
  | nil => rfl
  | append_singleton events event hyp =>
      rw [List.rdropWhile_concat]
      cases event with
      | ignore => simpa [CopyEvent.changes, run_concat, step] using hyp
      | change changed => simp [CopyEvent.changes, run_concat, step]
      | activate => simpa [CopyEvent.changes, run_concat, step] using hyp
      | setBack => simpa [CopyEvent.changes, run_concat, step] using hyp
      | restart => simpa [CopyEvent.changes, run_concat, step, start] using hyp

theorem active_run :
    ((start default saved).run default events).active =
      ((start default saved).run default (events.rdropWhile (!·.activates))).current := by
  induction events using List.reverseRecOn with
  | nil => rfl
  | append_singleton events event hyp =>
      rw [List.rdropWhile_concat]
      cases event with
      | ignore => simpa [CopyEvent.activates, run_concat, step] using hyp
      | change changed => simpa [CopyEvent.activates, run_concat, step] using hyp
      | activate => simp [CopyEvent.activates, run_concat, step]
      | setBack => simp [CopyEvent.activates, run_concat, step]
      | restart => simp [CopyEvent.activates, run_concat, step, start]

section InStep

variable {default} {copies : Copies Value} {events front back : List (CopyEvent Value)}

/-- A restart would bring back the value there is. -/
def InStep (default : Value) (copies : Copies Value) : Prop := copies.saved.getD default = copies.current

theorem run_append (copies : Copies Value) (front back : List (CopyEvent Value)) :
    copies.run default (front ++ back) = (copies.run default front).run default back :=
  List.foldl_append

/-- Only setting back brings the value out of step, so it is the default then. -/
theorem inStep_or_default (inStep : copies.InStep default) (events : List (CopyEvent Value)) :
    (copies.run default events).InStep default ∨ (copies.run default events).current = default := by
  induction events using List.reverseRecOn with
  | nil => exact .inl inStep
  | append_singleton events event hyp =>
      rw [run_concat]
      cases event with
      | ignore => exact hyp
      | change changed => exact .inl rfl
      | activate => exact hyp
      | setBack => exact .inr rfl
      | restart => exact .inl rfl

theorem run_leavesSaved (leaves : ∀ event ∈ events, event.leavesSaved = true) (copies : Copies Value) :
    (copies.run default events).saved = copies.saved ∧
      (copies.current = default → (copies.run default events).current = default) := by
  induction events generalizing copies with
  | nil => exact ⟨rfl, id⟩
  | cons event events hyp =>
      rw [List.forall_mem_cons] at leaves
      obtain ⟨saved, current⟩ := hyp leaves.2 (copies.step default event)
      cases event with
      | ignore => exact ⟨saved, current⟩
      | activate => exact ⟨saved, current⟩
      | setBack => exact ⟨saved, fun _ => current rfl⟩
      | change changed => cases leaves.1
      | restart => cases leaves.1

theorem not_inStep_of_setBack (inStep : copies.InStep default) (other : (copies.run default front).current ≠ default)
    (leaves : ∀ event ∈ back, event.leavesSaved = true) :
    ¬ (copies.run default (front ++ .setBack :: back)).InStep default := by
  have before := (inStep_or_default inStep front).resolve_right other
  obtain ⟨saved, current⟩ := run_leavesSaved leaves ((copies.run default front).step default .setBack)
  rw [run_append]
  intro inStep
  apply other
  calc
    _ = (copies.run default front).saved.getD default := before.symm
    _ = (((copies.run default front).step default .setBack).run default back).saved.getD default := by rw [saved]; rfl
    _ = (((copies.run default front).step default .setBack).run default back).current := inStep
    _ = default := current rfl

/-- A value is out of step just if it has been set back from another one, and nothing has brought the two together since. -/
theorem inStep_run_iff (inStep : copies.InStep default) :
    (copies.run default events).InStep default ↔ ∀ front back, events = front ++ .setBack :: back →
      (∀ event ∈ back, event.leavesSaved = true) → (copies.run default front).current = default := by
  constructor
  · rintro ends front back rfl leaves
    by_contra other
    exact not_inStep_of_setBack inStep other leaves ends
  · intro never
    induction events using List.reverseRecOn with
    | nil => exact inStep
    | append_singleton events event hyp =>
        -- The last event decides: one that leaves the saved copy adds to what is behind the setting back.
        have earlier (leaves : event.leavesSaved = true) : (copies.run default events).InStep default := by
          apply hyp
          rintro front back rfl others
          apply never front (back ++ [event])
          · rw [List.append_assoc, List.cons_append]
          · intro other inside
            rcases List.mem_append.mp inside with before | last
            · exact others other before
            · rw [List.mem_singleton.mp last]
              exact leaves
        rw [run_concat]
        cases event with
        | ignore => exact earlier rfl
        | change changed => rfl
        | activate => exact earlier rfl
        | setBack =>
            have same := never events [] rfl fun _ inside => absurd inside List.not_mem_nil
            exact (earlier rfl).trans same
        | restart => rfl

end InStep

end Copies

end EtherNetIP.Library
