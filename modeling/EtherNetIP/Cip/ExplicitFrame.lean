import EtherNetIP.Cip.Bystanders

/-! What happens to explicit connections while others are served.

Data, frames, time-outs, closes and openings concern I/O connections; an
explicit connection that stays listed keeps its object, apart from the timers
and from the newest request, which only a request on the connection itself
writes.
-/

set_option autoImplicit false

namespace EtherNetIP

open Library CipConnectionObject

variable {config : Configuration}

namespace Stack

variable {before middle after asked : Stack config} {slot : Slot config} {named : Int → Prop}
  {noting : Note → Slot config → Prop}

def SameRequests (before after : CipConnectionObject) : Prop :=
  SameConnection before after ∧ newestRequest after = newestRequest before

theorem SameRequests.of_eq {object other : CipConnectionObject} (same : other = object) :
    SameRequests object other := by
  rw [same]
  exact ⟨rfl, rfl⟩

/-- An explicit connection has no other newest request. Class 1 data are counted where the sequence count of a
request is kept. -/
def KeepsNewestRequest (slot : Slot config) (before after : CipConnectionObject) : Prop :=
  slot.instanceType = .explicitMessaging → before.getTransportClass ≠ .class1 → SameRequests before after

theorem keepsNewestRequest_tolerant : Tolerant (@KeepsNewestRequest config) where
  refl := fun _ _ _ _ => .of_eq rfl
  trans := by
    intro slot first second third one two explicit notClass1
    obtain ⟨same, requests⟩ := one explicit notClass1
    have sameClass := same.eq getTransportClass fun _ => rfl
    obtain ⟨sameLater, later⟩ := two explicit (sameClass ▸ notClass1)
    exact ⟨same.trans sameLater, later.trans requests⟩
  takenOver := fun _ _ _ io explicit => absurd explicit io
  released := fun _ _ _ _ => ⟨rfl, rfl⟩
  timedOut := fun _ _ io explicit => absurd explicit io

def KeepsRequests (before after : Stack config) : Prop :=
  ∀ slot, slot.instanceType = .explicitMessaging → (before.object slot).getTransportClass ≠ .class1 →
    slot ∈ before.connectionList.toList → slot ∈ after.connectionList.toList →
    SameRequests (before.object slot) (after.object slot)

theorem Evolves.keepsRequests (coherent : Coherent before) (silent : ∀ slot, ¬ noting .request slot)
    (evolves : Evolves named noting before after) : KeepsRequests before after := by
  have counts (slot : Slot config) (object other : CipConnectionObject) (counted : Counted noting slot object other) :
      KeepsNewestRequest slot object other := by
    have constant (object : CipConnectionObject) : constantPart object = constantPart (steadyPart object) := rfl
    intro _ notClass1
    refine ⟨?_, counted.requests (silent slot) notClass1⟩
    rw [SameConnection, constant, counted.steady, ← constant]
  have spares := Spares.of_evolves keepsNewestRequest_tolerant coherent counts (fun _ _ _ _ _ => ⟨rfl, rfl⟩) evolves
  exact fun slot explicit notClass1 _ listed => (spares slot listed).2 explicit notClass1

theorem Accepted.opened_newestRequest {network : Network} (pristine : Pristine asked.dummy)
    (accepted : Accepted asked network after) (explicit : slot.instanceType = .explicitMessaging)
    (absent : slot ∉ asked.connectionList.toList) (listed : slot ∈ after.connectionList.toList) :
    newestRequest (after.object slot) = (0, none) := by
  cases accepted with
  | nothing entry same => exact absurd (same ▸ listed) absent
  | explicit entry new connectionList opened =>
      have list : after.connectionList.toList = new :: asked.connectionList.toList := by
        rw [opened.after]
        exact ConnectionList.toList_insertAtHead opened.inserted
      rw [list, List.mem_cons] at listed
      have same := listed.resolve_right absent
      subst same
      have own : after.object slot = (explicitObject asked).setState .established := by
        rw [opened.after]
        exact Function.update_self slot _ asked.object
      have unanswered : asked.dummy.lastReplySent = none := by
        rw [← pristine]
        rfl
      rw [own]
      exact congrArg (Prod.mk 0) unanswered
  | io entry opening ends =>
      rw [ends.list pristine, List.mem_cons] at listed
      rcases listed with same | inRoom
      · exact absurd (same ▸ explicit) (chooseIoConnection_io ends.chosen)
      · exact absurd (ends.continues.sublist.subset inRoom) absent

theorem forwardOpenRoutine_keepsRequests (intact : Intact before) {isLfo : Bool} {request : Request}
    {response : Response} (answered : before.forwardOpenRoutine isLfo request = .ok (response, after)) :
    KeepsRequests before after := by
  intro slot explicit notClass1 listed stillListed
  have notTaken : before.selectedObject isLfo request ≠ some slot := fun taken =>
    selectedObject_explicit intact taken explicit listed
  exact forwardOpenRoutine_sparesOthers keepsNewestRequest_tolerant intact answered slot listed stillListed notTaken
    explicit notClass1

theorem forwardOpenRoutine_newestRequest (intact : Intact before) {isLfo : Bool} {request : Request}
    {response : Response} (answered : before.forwardOpenRoutine isLfo request = .ok (response, after))
    (explicit : slot.instanceType = .explicitMessaging) (absent : slot ∉ before.connectionList.toList)
    (listed : slot ∈ after.connectionList.toList) : newestRequest (after.object slot) = (0, none) := by
  cases forwardOpenRoutine_ok intact answered with
  | refused failure leaves => exact absurd (leaves.continues.sublist.subset listed) absent
  | accepted asked admission accepted head first reply =>
      obtain ⟨⟨same, _, pristine⟩, _⟩ := admitted_spec intact.pristine admission
      exact accepted.opened_newestRequest pristine explicit (same.1.symm ▸ absent) listed

end Stack

end EtherNetIP
