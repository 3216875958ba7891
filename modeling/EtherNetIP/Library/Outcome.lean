import Mathlib.Algebra.Order.Ring.Int

/-! Computations that may fault.

A computation of type `Except ε α` either returns or stops with a fault. These
rules take sequenced computations apart, so that a proof about a long function
names the intermediate states instead of unfolding the monad.
-/

set_option autoImplicit false

namespace EtherNetIP.Library

variable {ε α β : Type}

theorem bind_eq_ok {first : Except ε α} {next : α → Except ε β} {result : β} :
    first >>= next = .ok result ↔ ∃ middle, first = .ok middle ∧ next middle = .ok result := by
  cases first with
  | error fault => simp [bind, Except.bind]
  | ok middle => simp [bind, Except.bind]

theorem bind_eq_error {first : Except ε α} {next : α → Except ε β} {fault : ε} :
    first >>= next = .error fault ↔
      first = .error fault ∨ ∃ middle, first = .ok middle ∧ next middle = .error fault := by
  cases first with
  | error other => simp [bind, Except.bind]
  | ok middle => simp [bind, Except.bind]

@[simp] theorem ok_bind (value : α) (next : α → Except ε β) : Except.ok value >>= next = next value := rfl

@[simp] theorem error_bind (fault : ε) (next : α → Except ε β) :
    Except.error fault >>= next = .error fault := rfl

theorem map_eq_ok {computation : Except ε α} {change : α → β} {result : β} :
    computation.map change = .ok result ↔ ∃ value, computation = .ok value ∧ change value = result := by
  cases computation with
  | error fault => simp [Except.map]
  | ok value => simp [Except.map]

theorem map_eq_error {computation : Except ε α} {change : α → β} {fault : ε} :
    computation.map change = .error fault ↔ computation = .error fault := by
  cases computation with
  | error other => simp [Except.map]
  | ok value => simp [Except.map]

/-- What a computation returns satisfies the postcondition, and a fault it raises is among the admitted ones. -/
def Settles (computation : Except ε α) (post : α → Prop) (raised : ε → Prop) : Prop :=
  match computation with
  | .ok value => post value
  | .error fault => raised fault

section Rules

variable {post : α → Prop} {raised : ε → Prop}

@[simp] theorem settles_ok {value : α} : Settles (.ok value) post raised ↔ post value := Iff.rfl

@[simp] theorem settles_error {fault : ε} : Settles (.error fault : Except ε α) post raised ↔ raised fault :=
  Iff.rfl

theorem Settles.returns {computation : Except ε α} {value : α} (settles : Settles computation post raised)
    (returned : computation = .ok value) : post value := by
  rw [returned] at settles
  exact settles

theorem Settles.raises {computation : Except ε α} {fault : ε} (settles : Settles computation post raised)
    (failed : computation = .error fault) : raised fault := by
  rw [failed] at settles
  exact settles

theorem Settles.of_ok {computation : Except ε α} (returns : ∀ value, computation = .ok value → post value) :
    Settles computation post (fun _ => True) := by
  cases computation with
  | error fault => trivial
  | ok value => exact returns value rfl

theorem Settles.bind {first : Except ε α} {next : α → Except ε β} {after : β → Prop}
    (head : Settles first post raised) (tail : ∀ value, post value → Settles (next value) after raised) :
    Settles (first >>= next) after raised := by
  cases first with
  | error fault => exact head
  | ok value => exact tail value head

theorem Settles.mono {computation : Except ε α} {weak : α → Prop} (settles : Settles computation post raised)
    (implies : ∀ value, post value → weak value) : Settles computation weak raised := by
  cases computation with
  | error fault => exact settles
  | ok value => exact implies value settles

theorem Settles.imp {computation : Except ε α} {weak : α → Prop} {weaklyRaised : ε → Prop}
    (settles : Settles computation post raised) (implies : ∀ value, post value → weak value)
    (admits : ∀ fault, raised fault → weaklyRaised fault) : Settles computation weak weaklyRaised := by
  cases computation with
  | error fault => exact admits fault settles
  | ok value => exact implies value settles

theorem Settles.both {computation : Except ε α} {also : α → Prop} {admitted : ε → Prop}
    (settles : Settles computation post raised) (more : Settles computation also admitted) :
    Settles computation (fun value => post value ∧ also value) raised := by
  cases computation with
  | error fault => exact settles
  | ok value => exact ⟨settles, more⟩

theorem Settles.attach {computation : Except ε α} (settles : Settles computation post raised) :
    Settles computation (fun value => computation = .ok value ∧ post value)
      (fun fault => computation = .error fault ∧ raised fault) := by
  cases computation with
  | error fault => exact ⟨rfl, settles⟩
  | ok value => exact ⟨rfl, settles⟩

end Rules

end EtherNetIP.Library
