import EtherNetIP.SampleApplication

/-! Slots and list agree in every run.

The pools know a connection by the state of its object, the rest of the stack
by the list it is in. The two agree after every operation, and a request is
never copied onto an object that is still listed.
-/

set_option autoImplicit false

namespace EtherNetIP

open Library CipConnectionObject

variable {config : Configuration}

namespace Stack

variable {stack : Stack config}

def SlotsAgree (stack : Stack config) : Prop :=
  ∀ slot, (slot ∈ stack.connectionList.toList ↔
      (stack.object slot).state = .established ∨ (stack.object slot).state = .timedOut) ∧
    (slot ∈ stack.connectionList.toList → stack.connectionList.toList.count slot = 1)

def CopiesOntoUnlisted (asked : Stack config) : Prop :=
  (∀ slot copied, asked.getIoConnectionForConnectionData = .ok (slot, copied) →
      slot ∉ copied.connectionList.toList) ∧
    ∀ slot, asked.getFreeExplicitConnection = some slot → slot ∉ asked.connectionList.toList

theorem slotsAgree (coherent : Coherent stack) : SlotsAgree stack := by
  intro slot
  refine ⟨coherent.mem_iff slot, fun member => ?_⟩
  exact List.count_eq_one_of_mem coherent.distinct member

theorem copiesOntoUnlisted (coherent : Coherent stack) : CopiesOntoUnlisted stack := by
  constructor
  · intro slot copied selected
    rw [getIoConnectionForConnectionData_eq] at selected
    cases chosen : stack.chooseIoConnection stack.dummy with
    | error refused =>
        rw [chosen] at selected
        cases selected
    | ok result =>
        obtain ⟨choice, instanceType⟩ := result
        rw [chosen] at selected
        obtain ⟨room, made, copy⟩ := bind_eq_ok.mp selected
        cases copy
        have roomMade : stack.makeRoom choice = .ok room := by
          cases done : stack.makeRoom choice with
          | error fault =>
              rw [done] at made
              cases made
          | ok result =>
              rw [done] at made
              cases made
              rfl
        exact ((makeRoom_spec coherent chosen).returns roomMade).2
  · intro slot free
    obtain ⟨_, nonExistent⟩ := getFreeExplicitConnection_spec free
    rw [coherent.mem_iff, nonExistent]
    simp

/-- In every run slots and list agree after every operation, and a Forward Open that is admitted finds
them so. -/
theorem slots_and_list_agree (reached : Reached stack) :
    SlotsAgree stack ∧ ∀ isLfo request asked, stack.admitted isLfo request = some asked →
      CopiesOntoUnlisted asked := by
  have intact := reached.intact
  refine ⟨slotsAgree intact.coherent, fun isLfo request asked admission => ?_⟩
  obtain ⟨reads, _⟩ := admitted_spec intact.pristine admission
  exact copiesOntoUnlisted (intact.coherent.of_same_table reads.table.1 reads.table.2)

open SampleApplication in
/-- An owner has timed out and another connection has been refused for its size. -/
theorem slots_and_list_agree_sample : ∃ stack : Stack configuration,
    stack.connectionList.toList = [.exclusiveOwner ⟨0, by decide⟩] ∧ SlotsAgree stack ∧
    ∀ isLfo request asked, stack.admitted isLfo request = some asked → CopiesOntoUnlisted asked := by
  have run : ends [.forwardOpen (openIo 1 (pointToPoint 128) (multicast 128) 101 102), timeOut,
      .forwardOpen (openIo 2 (pointToPoint 0) (multicast 100) 152 102)] (fun stack : Stack configuration =>
        decide (stack.connectionList.toList = [.exclusiveOwner ⟨0, by decide⟩])) = true := by decide +kernel
  obtain ⟨stack, reached, listed⟩ := exists_of_ends run
  exact ⟨stack, of_decide_eq_true listed, slots_and_list_agree reached⟩

end Stack

end EtherNetIP
