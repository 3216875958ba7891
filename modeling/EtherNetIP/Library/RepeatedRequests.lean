import Mathlib.Algebra.Order.Ring.Int

/-! Requests that a client may repeat.

Requests are numbered. A server that remembers the number of the newest request
and the newest reply executes a request with another number, and answers one
with that number out of its memory. How it starts matters: a memory that holds
a number before any request has come takes a first request with this number for
a repetition.
-/

set_option autoImplicit false

namespace EtherNetIP.Library

variable {Number Reply : Type}

structure Delivery (Number Reply : Type) where
  number : Number
  executed : Bool
  reply : Option Reply
  deriving DecidableEq, Repr

structure RequestMemory (Number Reply : Type) where
  number : Number
  reply : Option Reply
  deriving DecidableEq, Repr

/-- How a server with this memory answers one request, and what it remembers then. -/
inductive Answers : RequestMemory Number Reply → Delivery Number Reply → RequestMemory Number Reply → Prop
  | repeated (memory : RequestMemory Number Reply) : Answers memory ⟨memory.number, false, memory.reply⟩ memory
  | executed {memory : RequestMemory Number Reply} {number : Number} (fresh : memory.number ≠ number) (reply : Reply) :
      Answers memory ⟨number, true, some reply⟩ ⟨number, some reply⟩

inductive AnswersFrom : RequestMemory Number Reply → List (Delivery Number Reply) → Prop
  | nil (memory : RequestMemory Number Reply) : AnswersFrom memory []
  | cons {memory next : RequestMemory Number Reply} {delivery : Delivery Number Reply}
      {rest : List (Delivery Number Reply)} (answers : Answers memory delivery next)
      (later : AnswersFrom next rest) : AnswersFrom memory (delivery :: rest)

/-- A request is executed unless it repeats the number of the one before; then the newest reply is given again. -/
def ExactlyOnce : Option Number → Option Reply → List (Delivery Number Reply) → Prop
  | _, _, [] => True
  | previous, newest, delivery :: rest =>
      (delivery.executed = true ↔ previous ≠ some delivery.number) ∧
        (previous = some delivery.number → delivery.reply = newest) ∧
        ExactlyOnce (some delivery.number) (delivery.reply.or newest) rest

/-- A server that remembers a request which has really come executes each request exactly once. -/
theorem AnswersFrom.exactlyOnce {memory : RequestMemory Number Reply} {deliveries : List (Delivery Number Reply)}
    (answers : AnswersFrom memory deliveries) : ExactlyOnce (some memory.number) memory.reply deliveries := by
  induction answers with
  | nil memory => trivial
  | cons answers later ih =>
      cases answers with
      | repeated =>
          refine ⟨by simp, fun _ => rfl, ?_⟩
          rw [Option.or_self]
          exact ih
      | executed fresh reply =>
          refine ⟨by simp [fresh], fun same => absurd (Option.some.inj same) fresh, ?_⟩
          exact ih

/-- A server that starts with a number no request has brought executes each request exactly once if and only
if the first request has another number. -/
theorem AnswersFrom.exactlyOnce_iff {initial : Number} {deliveries : List (Delivery Number Reply)}
    (answers : AnswersFrom ⟨initial, none⟩ deliveries) :
    ExactlyOnce none none deliveries ↔ ∀ first ∈ deliveries.head?, first.number ≠ initial := by
  cases answers with
  | nil memory => simp [ExactlyOnce]
  | cons answers later =>
      cases answers with
      | repeated => simp [ExactlyOnce]
      | executed fresh reply =>
          have rest := later.exactlyOnce
          simpa [ExactlyOnce, fresh.symm] using rest

end EtherNetIP.Library
