import EtherNetIP.Encap.Sessions
import EtherNetIP.Cip.Coherent

/-! What ending a session does to its explicit connections.

Closing a connection frees the node the loop stands on, and a freed node has no
successor. The loop of `CloseClass3ConnectionBasedOnSession` therefore ends with
the first connection it closes.
-/

set_option autoImplicit false

namespace EtherNetIP

open Library CipConnectionObject

variable {config : Configuration}

namespace Stack

def class3OfSession (stack : Stack config) (handle : CipSessionHandle) : List (Slot config) :=
  stack.connectionList.toList.filter fun slot => isClass3OfSession handle (stack.object slot)

section Visit

variable {stack : Stack config} {handle : CipSessionHandle} {front back : List (Nat × Slot config)} {id : Nat}
  {slot : Slot config}

theorem closeClass3Visit_skip (split : stack.connectionList.entries = front ++ (id, slot) :: back)
    (other : isClass3OfSession handle (stack.object slot) = false) :
    closeClass3Visit handle id stack = .ok (stack, headId back) := by
  have member : (id, slot) ∈ stack.connectionList.entries := by simp [split]
  have data := ConnectionList.data_of_mem member
  have next := ConnectionList.next_of_split split
  simp [closeClass3Visit, data, next, other]

theorem closeFunction_of_class3 (coherent : Coherent stack) (listed : slot ∈ stack.connectionList.toList)
    (same : isClass3OfSession handle (stack.object slot) = true) :
    (stack.object slot).connectionCloseFunction = some .closeConnection := by
  simp only [isClass3OfSession, Bool.and_eq_true, beq_iff_eq] at same
  exact ((coherent.opened slot listed).of_class3 same.1).closeFunction

theorem closeClass3Visit_close (coherent : Coherent stack)
    (split : stack.connectionList.entries = front ++ (id, slot) :: back)
    (same : isClass3OfSession handle (stack.object slot) = true) :
    closeClass3Visit handle id stack = .ok (stack.closeConnection slot, none) := by
  have entry : (id, slot) ∈ stack.connectionList.entries := by simp [split]
  have member : slot ∈ stack.connectionList.toList := List.mem_map.mpr ⟨_, entry, rfl⟩
  have closes := closeFunction_of_class3 coherent member same
  have removes := closeConnection_removes coherent.distinct closes
  have freed : id ∉ (stack.closeConnection slot).connectionList.entries.map Prod.fst := by
    have ids := stack.connectionList.ids_nodup
    rw [removes.split_after coherent.distinct split, List.map_append]
    rw [split, List.map_append, List.map_cons, List.nodup_middle, List.nodup_cons] at ids
    exact fun still => ids.1 (by simpa using still)
  have data := ConnectionList.data_of_mem entry
  have next := ConnectionList.next_of_absent freed
  simp [closeClass3Visit, data, same, connectionCloseFunction, callCloseFunction, closes, next]

end Visit

/-- The induction is on the entries still ahead of the loop. -/
theorem closeClass3_from {stack : Stack config} {handle : CipSessionHandle} (coherent : Coherent stack)
    {front back : List (Nat × Slot config)} {fuel : Nat} (split : stack.connectionList.entries = front ++ back)
    (enough : back.length ≤ fuel) :
    ∃ after, walk (closeClass3Visit handle) .outOfFuel fuel (headId back) stack = .ok after ∧
      Removes stack after
        (((back.map Prod.snd).filter fun slot => isClass3OfSession handle (stack.object slot)).take 1) := by
  induction back generalizing front fuel with
  | nil => exact ⟨stack, by simp, Removes.nothing⟩
  | cons entry back ih =>
      obtain ⟨id, slot⟩ := entry
      obtain ⟨fuel, rfl⟩ : ∃ less, fuel = less + 1 := ⟨fuel - 1, by simp at enough; omega⟩
      have shorter : back.length ≤ fuel := by simpa using enough
      cases same : isClass3OfSession handle (stack.object slot) with
      | false =>
          have split' : stack.connectionList.entries = (front ++ [(id, slot)]) ++ back := by simp [split]
          obtain ⟨after, done, removes⟩ := ih split' shorter
          refine ⟨after, ?_, ?_⟩
          · rw [headId_cons, walk_of_visit (closeClass3Visit_skip split same)]
            exact done
          · simpa [same] using removes
      | true =>
          refine ⟨stack.closeConnection slot, ?_, ?_⟩
          · rw [headId_cons, walk_of_visit (closeClass3Visit_close coherent split same), walk_none]
          · have listed : slot ∈ stack.connectionList.toList :=
              List.mem_map.mpr ⟨(id, slot), by simp [split], rfl⟩
            simpa [same] using closeConnection_removes coherent.distinct (closeFunction_of_class3 coherent listed same)

/-- Exactly the first connection of the session is closed. -/
theorem closeClass3ConnectionBasedOnSession_spec {stack : Stack config} (coherent : Coherent stack)
    (handle : CipSessionHandle) :
    ∃ after, stack.closeClass3ConnectionBasedOnSession handle = .ok after ∧
      Removes stack after ((stack.class3OfSession handle).take 1) := by
  have enough : stack.connectionList.entries.length ≤ config.kNodesAmount := by
    simpa [ConnectionList.toList] using stack.connectionList.length_le
  rw [closeClass3ConnectionBasedOnSession, ConnectionList.first_eq]
  exact closeClass3_from coherent (List.nil_append _).symm enough

theorem class3OfSession_explicit {stack : Stack config} (coherent : Coherent stack) {handle : CipSessionHandle}
    {slot : Slot config} (member : slot ∈ stack.class3OfSession handle) :
    slot.instanceType = .explicitMessaging := by
  obtain ⟨listed, same⟩ := List.mem_filter.mp member
  simp only [isClass3OfSession, Bool.and_eq_true, beq_iff_eq] at same
  have opened := coherent.opened slot listed
  exact opened.instanceType.symm.trans (opened.of_class3 same.1).instanceType

theorem opened_explicit {stack : Stack config} (coherent : Coherent stack) {slot : Slot config}
    (listed : slot ∈ stack.connectionList.toList) (explicit : slot.instanceType = .explicitMessaging) :
    OpenedClass3 (stack.object slot) := by
  have opened := coherent.opened slot listed
  cases slot with
  | explicit i => exact opened
  | exclusiveOwner i => cases explicit
  | inputOnly i j => cases explicit
  | listenOnly i j => cases explicit

theorem closedSockets_explicit {stack : Stack config} (coherent : Coherent stack) {slot : Slot config}
    (listed : slot ∈ stack.connectionList.toList) (explicit : slot.instanceType = .explicitMessaging) :
    closedSockets (stack.object slot) = [] := by
  have opened := opened_explicit coherent listed explicit
  simp [closedSockets, opened.consumingSocket, opened.producingSocket]

end Stack

end EtherNetIP
