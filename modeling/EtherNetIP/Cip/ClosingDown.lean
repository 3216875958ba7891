import EtherNetIP.SampleApplication

/-! Closing all connections.

A reset and the end of the stack close connection after connection, always the
one at the head of the list as it is then. A close may hand a stream on and
take listeners along, but it always takes its own connection off the list; so
the list gets shorter until it is empty.
-/

set_option autoImplicit false

namespace EtherNetIP

open Library CipConnectionObject

variable {config : Configuration}

namespace Stack

variable {stack before after : Stack config}

def ClosesHead (before after : Stack config) : Prop :=
  ∃ slot rest, before.connectionList.toList = slot :: rest ∧
    (before.object slot).connectionCloseFunction ≠ none ∧ before.connectionCloseFunction slot = .ok after ∧
    after.connectionList.toList.length < before.connectionList.toList.length

theorem closed_shortens {slot : Slot config} (coherent : Coherent before) (listed : slot ∈ before.connectionList.toList)
    (closed : Closed before slot after) :
    Coherent after ∧ after.connectionList.toList.length < before.connectionList.toList.length := by
  obtain ⟨continues, ended⟩ := Continues.of_closed coherent (coherent.opened slot listed).callable closed
  refine ⟨continues.coherent, lt_of_le_of_ne continues.sublist.length_le fun same => ended ?_⟩
  rw [continues.sublist.eq_of_length same]
  exact listed

theorem data_of_first {node : Nat} (first : stack.connectionList.first = some node) :
    ∃ slot rest, stack.connectionList.toList = slot :: rest ∧ stack.connectionList.data node = some slot := by
  rw [ConnectionList.first_eq] at first
  cases entries : stack.connectionList.entries with
  | nil => simp [entries] at first
  | cons entry rest =>
      rw [entries] at first
      cases first
      refine ⟨entry.2, rest.map Prod.snd, by simp [ConnectionList.toList, entries], ?_⟩
      exact ConnectionList.data_of_mem (by simp [entries])

theorem closeAllConnectionsVisit_head (coherent : Coherent before) {node : Nat}
    (first : before.connectionList.first = some node) :
    ∃ after, closeAllConnectionsVisit node before = .ok (after, after.connectionList.first) ∧
      ClosesHead before after ∧ Coherent after := by
  obtain ⟨slot, rest, list, data⟩ := data_of_first first
  have listed : slot ∈ before.connectionList.toList := by simp [list]
  have callable := (coherent.opened slot listed).callable
  obtain ⟨after, done, closed⟩ := coherent.connectionCloseFunction_closed callable
  obtain ⟨afterCoherent, shorter⟩ := closed_shortens coherent listed closed
  refine ⟨after, ?_, ⟨slot, rest, list, callable, done, shorter⟩, afterCoherent⟩
  unfold closeAllConnectionsVisit
  rw [data]
  dsimp only
  rw [if_neg callable, done]
  rfl

theorem closeAllConnections_ends (coherent : Coherent stack) :
    ∃ after, stack.closeAllConnections = .ok after ∧ Relation.ReflTransGen ClosesHead stack after ∧ Coherent after ∧
      after.connectionList.toList = [] := by
  have walked : ∃ after, stack.closeAllConnections = .ok after ∧ none = after.connectionList.first ∧ Coherent after ∧
      Relation.ReflTransGen ClosesHead stack after := by
    apply walk_total
      (fun next reached => next = reached.connectionList.first ∧ Coherent reached ∧
        Relation.ReflTransGen ClosesHead stack reached)
      fun _ reached => reached.connectionList.toList.length
    · rintro node reached ⟨first, reachedCoherent, rounds⟩
      obtain ⟨after, done, closes, afterCoherent⟩ := closeAllConnectionsVisit_head reachedCoherent first.symm
      obtain ⟨_, _, _, _, _, shorter⟩ := id closes
      exact ⟨(after, after.connectionList.first), done, ⟨rfl, afterCoherent, rounds.tail closes⟩, shorter⟩
    · exact ⟨rfl, coherent, .refl⟩
    · exact stack.connectionList.length_le
  obtain ⟨after, done, first, afterCoherent, rounds⟩ := walked
  exact ⟨after, done, rounds, afterCoherent, toList_eq_nil_of_first first.symm⟩

/-- In every run all connections can be closed: round after round calls the call-back of a connection and leaves a
shorter list, until no connection is left and every object is free. -/
theorem all_connections_closed (reached : Reached stack) :
    ∃ after, stack.closeAllConnections = .ok after ∧ Relation.ReflTransGen ClosesHead stack after ∧
      after.connectionList.toList = [] ∧ ∀ slot, (after.object slot).state = .nonExistent := by
  obtain ⟨after, done, rounds, coherent, empty⟩ := closeAllConnections_ends reached.intact.coherent
  refine ⟨after, done, rounds, empty, fun slot => coherent.unlisted slot ?_⟩
  simp [empty]

open SampleApplication in
/-- The exclusive owner at the head hands its stream on, and the last source takes the listener along. -/
theorem all_connections_closed_sample : ∃ stack : Stack configuration,
    stack.connectionList.toList.map Slot.instanceType = [.ioListenOnly, .ioExclusiveOwner, .explicitMessaging, .ioInputOnly] ∧
    ∃ after, stack.closeAllConnections = .ok after ∧ Relation.ReflTransGen ClosesHead stack after ∧
      after.connectionList.toList = [] ∧ ∀ slot, (after.object slot).state = .nonExistent := by
  have run : ends [.forwardOpen (openIo 1 (pointToPoint 0) (multicast 128) 152 102), .forwardOpen (openExplicit 2),
      .forwardOpen (openIo 3 (pointToPoint 128) (multicast 128) 101 102),
      .forwardOpen (openIo 4 (pointToPoint 0) (multicast 128) 153 102)] (fun stack : Stack configuration =>
        decide (stack.connectionList.toList.map Slot.instanceType =
          [.ioListenOnly, .ioExclusiveOwner, .explicitMessaging, .ioInputOnly])) = true := by decide +kernel
  obtain ⟨stack, reached, listed⟩ := exists_of_ends run
  exact ⟨stack, of_decide_eq_true listed, all_connections_closed reached⟩

end Stack

end EtherNetIP
