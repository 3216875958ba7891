import EtherNetIP.Cip.NodeSupply
import EtherNetIP.Cip.Openings

/-! What becomes of a connection while others are served.

Closing, timing out and opening connections touches the connections that stay
listed in few ways: a stream is handed over to one, its producing socket is
taken, it has timed out. A relation of connection objects that tolerates these
holds between what a listed connection was and what it is.
-/

set_option autoImplicit false

namespace EtherNetIP

open Library CipConnectionObject

variable {config : Configuration}

namespace Stack

/-- The relation does not mind what other connections do to an I/O connection. -/
structure Tolerant (related : Slot config → CipConnectionObject → CipConnectionObject → Prop) : Prop where
  refl : ∀ slot object, related slot object object
  trans : ∀ slot first second third, related slot first second → related slot second third → related slot first third
  takenOver : ∀ slot closing object, slot.instanceType ≠ .explicitMessaging →
    related slot object (takeOver closing object)
  released : ∀ slot object, related slot object (releaseProducingSocket object)
  timedOut : ∀ slot object, slot.instanceType ≠ .explicitMessaging → related slot object (object.setState .timedOut)

/-- Connections may have ended; those still listed are related to what they were. -/
def Spares (related : Slot config → CipConnectionObject → CipConnectionObject → Prop) (before after : Stack config) :
    Prop :=
  ∀ slot ∈ after.connectionList.toList,
    slot ∈ before.connectionList.toList ∧ related slot (before.object slot) (after.object slot)

variable {related : Slot config → CipConnectionObject → CipConnectionObject → Prop}
  {before middle after : Stack config} {slot other : Slot config} {named : Int → Prop}
  {noting : Note → Slot config → Prop}

namespace Spares

theorem refl (tolerant : Tolerant related) (stack : Stack config) : Spares related stack stack :=
  fun slot listed => ⟨listed, tolerant.refl slot _⟩

theorem trans (tolerant : Tolerant related) (first : Spares related before middle)
    (second : Spares related middle after) : Spares related before after := by
  intro slot listed
  obtain ⟨inMiddle, later⟩ := second slot listed
  obtain ⟨inBefore, earlier⟩ := first slot inMiddle
  exact ⟨inBefore, tolerant.trans slot _ _ _ earlier later⟩

theorem of_same (tolerant : Tolerant related) (list : after.connectionList = before.connectionList)
    (object : after.object = before.object) : Spares related before after := by
  intro slot listed
  rw [object]
  exact ⟨list ▸ listed, tolerant.refl slot _⟩

theorem of_unlists (tolerant : Tolerant related) {gone : List (Slot config)} (unlists : Unlists before after gone) :
    Spares related before after := by
  intro slot listed
  obtain ⟨inBefore, kept⟩ := unlists.mem_iff.mp listed
  rw [unlists.others slot kept]
  exact ⟨inBefore, tolerant.refl slot _⟩

theorem setObject (tolerant : Tolerant related) {object : CipConnectionObject}
    (allowed : related slot (before.object slot) object) : Spares related before (before.setObject slot object) := by
  intro other listed
  refine ⟨listed, ?_⟩
  rw [setObject_objects]
  by_cases same : other = slot
  · subst same
    rwa [Function.update_self]
  · rw [Function.update_of_ne same]
    exact tolerant.refl other _

theorem handedOver (tolerant : Tolerant related) {next : Slot config} (coherent : Coherent before)
    {inputPoint : UInt32} (successor : before.getNextNonControlMasterConnection inputPoint = some next) :
    Spares related before (before.handedOver slot next) := by
  obtain ⟨inList, candidate⟩ := findConnection_mem successor
  have nextIo : next.instanceType ≠ .explicitMessaging := by
    rw [← (coherent.opened next inList).instanceType]
    intro explicit
    simp [isNonControlMaster, isTypeNonLOIOConnection, explicit] at candidate
  have taken : Spares related before (before.setObject next (takeOver (before.object slot) (before.object next))) :=
    setObject tolerant (tolerant.takenOver next _ _ nextIo)
  exact taken.trans tolerant (setObject tolerant (tolerant.released slot _))

theorem of_closed (tolerant : Tolerant related) (coherent : Coherent before) (closed : Closed before slot after) :
    Spares related before after := by
  cases closed with
  | alone passive removes => exact of_unlists tolerant removes.toUnlists
  | succeeded next controls successor removes =>
      exact (handedOver tolerant coherent successor).trans tolerant
        (of_unlists tolerant removes.toUnlists)
  | last controls nobody removes => exact of_unlists tolerant removes.toUnlists

theorem of_closesAll (tolerant : Tolerant related) {instanceType : ConnectionObjectInstanceType}
    (coherent : Coherent before) (closes : Relation.ReflTransGen (ClosesOneOf instanceType) before after) :
    Spares related before after := by
  induction closes with
  | refl => exact refl tolerant before
  | tail earlier last ih =>
      obtain ⟨slot, _, _, closed⟩ := last
      exact ih.trans tolerant (of_closed tolerant (ClosesOneOf.continues_all coherent earlier).coherent closed)

theorem of_handedOn (tolerant : Tolerant related) {handover : Bool} (coherent : Coherent before)
    (handedOn : HandedOn before slot after handover) : Spares related before after := by
  cases handedOn with
  | passive passive => exact refl tolerant before
  | succeeded controls successor => exact handedOver tolerant coherent successor
  | last controls nobody removes => exact of_unlists tolerant removes.toUnlists

theorem of_dependents (tolerant : Tolerant related) {inputPoint : UInt32} {handover : Bool}
    (coherent : Coherent before) (dependents : DependentsClosed slot inputPoint handover before after) :
    Spares related before after := by
  cases dependents with
  | kept independent => exact refl tolerant before
  | closed owner remained inputOnly listeners =>
      exact (of_closesAll tolerant coherent inputOnly).trans tolerant (of_unlists tolerant listeners.toUnlists)

theorem of_aside (tolerant : Tolerant related) (aside : Aside named before after) : Spares related before after := by
  obtain ⟨gone, _, unlists⟩ := aside.unlists
  exact of_unlists tolerant unlists

theorem of_timedOut (tolerant : Tolerant related) (coherent : Coherent before)
    (timedOut : TimedOut named before slot after) : Spares related before after := by
  obtain ⟨established, io, aside, handedOn, dependents⟩ := timedOut
  have listed := (coherent.mem_iff slot).mpr (.inl established)
  have timing : Continues (· = slot) before (before.timingOut slot) := timingOut_continues coherent listed io
  have ended := aside.coherent timing.coherent
  have endedListed := (aside.mem_iff io).mpr (timing.spares slot listed rfl)
  have handed := (handedOn.continues ended endedListed).coherent
  have timingOut : Spares related before (before.timingOut slot) := setObject tolerant (tolerant.timedOut slot _ io)
  have ending := timingOut.trans tolerant (of_aside tolerant aside)
  have handing := ending.trans tolerant (of_handedOn tolerant ended handedOn)
  have closing := handing.trans tolerant (of_dependents tolerant handed dependents)
  exact closing.trans tolerant (setObject tolerant (tolerant.timedOut slot _ io))

theorem of_change (tolerant : Tolerant related) (coherent : Coherent before)
    (counts : ∀ slot object other, Counted noting slot object other → related slot object other)
    (sends : ∀ slot hasChanged object, related slot object (countFrame hasChanged object))
    (change : Change named noting before after) : Spares related before after := by
  cases change with
  | aside aside => exact of_aside tolerant aside
  | counted counted => exact setObject tolerant (counts _ _ _ counted)
  | @sent sender after sent =>
      obtain ⟨hasChanged, _, _, object, _⟩ := sent.frame
      have counted : Spares related before (before.setObject sender (countFrame hasChanged (before.object sender))) :=
        setObject tolerant (sends sender hasChanged _)
      intro other listed
      rw [sent.list] at listed
      have spared := counted other listed
      rw [setObject_objects, ← object] at spared
      exact spared
  | closed listed closed => exact of_closed tolerant coherent closed
  | timedOut timedOut => exact of_timedOut tolerant coherent timedOut

theorem of_evolves (tolerant : Tolerant related) (coherent : Coherent before)
    (counts : ∀ slot object other, Counted noting slot object other → related slot object other)
    (sends : ∀ slot hasChanged object, related slot object (countFrame hasChanged object))
    (evolves : Evolves named noting before after) : Spares related before after := by
  induction evolves with
  | refl => exact refl tolerant before
  | tail earlier change ih =>
      have middle := (Evolves.continues coherent earlier).coherent
      exact ih.trans tolerant (of_change tolerant middle counts sends change)

end Spares

section Openings

variable {asked room : Stack config} {network : Network}

theorem RoomMade.sparesOthers (tolerant : Tolerant related) (coherent : Coherent asked) (made : RoomMade asked slot room) :
    Spares related asked room := by
  cases made with
  | free absent => exact .refl tolerant asked
  | closed listed closed => exact .of_closed tolerant coherent closed
  | emptied absent removes => exact .of_unlists tolerant removes.toUnlists

theorem Drafts.sparesOthers (tolerant : Tolerant related) (absent : slot ∉ before.connectionList.toList)
    (drafts : Drafts slot before after) : Spares related before after := by
  have list : after.connectionList = before.connectionList := by rw [drafts]
  have object : after.object = Function.update before.object slot (after.object slot) := congrArg (·.object) drafts
  intro other listed
  rw [list] at listed
  have differs : other ≠ slot := fun same => absent (same ▸ listed)
  refine ⟨listed, ?_⟩
  rw [object, Function.update_of_ne differs]
  exact tolerant.refl other _

theorem Refused.sparesOthers (tolerant : Tolerant related) {udpSocket : UdpSocket} (coherent : Coherent asked)
    (refused : Refused asked udpSocket after) : Spares related asked after := by
  cases refused with
  | untouched same =>
      rw [same]
      exact .refl tolerant asked
  | drafted slot room made absent drafts =>
      apply (made.sparesOthers tolerant coherent).trans tolerant
      obtain drafts | drafts := drafts
      · exact drafts.sparesOthers tolerant absent
      · have spares : Spares related (room.socketCreated udpSocket) after := drafts.sparesOthers tolerant absent
        exact spares

theorem Requested.sparesOthers (tolerant : Tolerant related) (requested : Requested before asked) :
    Spares related before asked := by
  rw [requested]
  exact .of_same tolerant rfl rfl

theorem Accepted.sparesOthers (tolerant : Tolerant related) (coherent : Coherent asked) (pristine : Pristine asked.dummy)
    (accepted : Accepted asked network after) :
    ∀ slot ∈ asked.connectionList.toList, slot ∈ after.connectionList.toList → asked.selects network ≠ some slot →
      related slot (asked.object slot) (after.object slot) := by
  intro slot listed stillListed notTaken
  cases accepted with
  | nothing entry same =>
      rw [same]
      exact tolerant.refl slot _
  | explicit entry new connectionList opened =>
      have free := (getFreeExplicitConnection_spec opened.free).2
      have differs : slot ≠ new := by
        rintro rfl
        have active := coherent.listed slot listed
        simp [free] at active
      have kept : after.object slot = asked.object slot := by
        rw [opened.after]
        exact Function.update_of_ne differs _ asked.object
      rw [kept]
      exact tolerant.refl slot _
  | io entry opening ends =>
      have differs : slot ≠ opening.choice.slot := by
        rintro rfl
        exact notTaken (by simp [selects, entry, ends.reached])
      have inRoom : slot ∈ opening.room.connectionList.toList := by
        rw [ends.list pristine, List.mem_cons] at stillListed
        exact stillListed.resolve_left differs
      have early := ((makeRoom_made coherent ends.chosen ends.made).sparesOthers tolerant coherent slot inRoom).2
      rw [ends.object, Function.update_of_ne differs]
      obtain kept | released := ends.others pristine differs
      · rw [kept]
        exact early
      · rw [released]
        exact tolerant.trans slot _ _ _ early (tolerant.released slot _)

theorem forwardOpenRoutine_sparesOthers (tolerant : Tolerant related) (intact : Intact before) {isLfo : Bool}
    {request : Request} {response : Response}
    (answered : before.forwardOpenRoutine isLfo request = .ok (response, after)) :
    ∀ slot ∈ before.connectionList.toList, slot ∈ after.connectionList.toList →
      before.selectedObject isLfo request ≠ some slot → related slot (before.object slot) (after.object slot) := by
  intro slot listed stillListed notTaken
  cases forwardOpenRoutine_ok intact answered with
  | refused failure leaves =>
      obtain ⟨asked, requested, refused⟩ := forwardOpenRoutine_refused intact answered failure
      have coherent : Coherent asked := by
        rw [requested]
        exact intact.coherent.of_same_table rfl rfl
      have spares := (requested.sparesOthers tolerant).trans tolerant (refused.sparesOthers tolerant coherent)
      exact (spares slot stillListed).2
  | accepted asked admission accepted head first reply =>
      obtain ⟨⟨same, _, pristine⟩, _⟩ := admitted_spec intact.pristine admission
      have coherent : Coherent asked := intact.coherent.of_same_table same.1 same.2
      rw [selectedObject, admission] at notTaken
      rw [← same.2]
      exact accepted.sparesOthers tolerant coherent pristine slot (same.1 ▸ listed) stillListed notTaken

theorem selectedObject_explicit (intact : Intact before) {isLfo : Bool} {request : Request}
    (taken : before.selectedObject isLfo request = some slot) (explicit : slot.instanceType = .explicitMessaging) :
    slot ∉ before.connectionList.toList := by
  obtain ⟨asked, admission, selected⟩ := Option.bind_eq_some_iff.mp taken
  obtain ⟨⟨same, _⟩, _⟩ := admitted_spec intact.pristine admission
  have coherent : Coherent asked := intact.coherent.of_same_table same.1 same.2
  rw [← same.1]
  unfold selects at selected
  split at selected
  · have free := (getFreeExplicitConnection_spec selected).2
    rw [coherent.mem_iff, free]
    simp
  · split at selected
    · rename_i opened done
      cases selected
      obtain ⟨opening, rfl, _, reaches⟩ := openIoConnection_ok coherent done
      exact absurd explicit (chooseIoConnection_io reaches.chosen)
    · cases selected
  · cases selected

end Openings

section Operations

variable {stack : Stack config} {operation : Operation}

def OpensIn (slot : Slot config) (stack : Stack config) (operation : Operation) : Prop :=
  ∃ isLfo request, operation.openRequest = some (isLfo, request) ∧ stack.selectedObject isLfo request = some slot

theorem step_sparesOthers (tolerant : Tolerant related) (intact : Intact stack)
    (counts : ∀ slot object other, Counted (fun note _ => operation.notes note) slot object other →
      related slot object other)
    (sends : ∀ slot hasChanged object, related slot object (countFrame hasChanged object))
    (done : stack.step operation = .ok after) :
    ∀ slot ∈ stack.connectionList.toList, slot ∈ after.connectionList.toList → ¬ OpensIn slot stack operation →
      related slot (stack.object slot) (after.object slot) := by
  intro slot listed stillListed notTaken
  cases opens : operation.openRequest with
  | none =>
      have evolves := (step_proceeds intact.coherent opens).returns done
      exact (Spares.of_evolves tolerant intact.coherent counts sends evolves slot stillListed).2
  | some asked =>
      rw [step_openRequest opens] at done
      obtain ⟨answered, outcome, rfl⟩ := map_eq_ok.mp done
      exact forwardOpenRoutine_sparesOthers tolerant intact outcome slot listed stillListed
        fun taken => notTaken ⟨asked.1, asked.2, opens, taken⟩

end Operations

end Stack

end EtherNetIP
