import EtherNetIP.Cip.ProducerStreams
import EtherNetIP.Cip.StreamAgreement

/-! The master of a multicast stream.

The connections that send one input by multicast share one stream, which only
the master sends: the connection with the producing socket. A timed-out master
without successor keeps its socket, and a listen-only connection that has been
the first of a stream never hands it on. An input keeps exactly one master while
no connection joins the stream of such a connection.
-/

set_option autoImplicit false

namespace EtherNetIP

open Library CipConnectionObject

variable {config : Configuration}

/-- The object is that of a multicast producer with a producing socket. -/
def IsMulticastMaster (object : CipConnectionObject) : Prop :=
  IsMulticastProducer object ∧ object.producingSocket ≠ kEipInvalidSocket

instance (object : CipConnectionObject) : Decidable (IsMulticastMaster object) :=
  inferInstanceAs (Decidable (_ ∧ _))

namespace Stack

variable {stack : Stack config}

/-- Each input that an established connection sends by multicast has exactly one master. It is established: no
connection of the input that has timed out is one. -/
def OneMaster (stack : Stack config) : Prop :=
  ∀ slot ∈ stack.connectionList.toList, (stack.object slot).state = .established →
    IsMulticastProducer (stack.object slot) →
    ∃ master ∈ stack.connectionList.toList, (stack.object master).state = .established ∧
      ∀ other ∈ stack.connectionList.toList,
        (IsMulticastMaster (stack.object other) ∧
          (stack.object other).producedPath.instanceId = (stack.object slot).producedPath.instanceId) ↔ other = master

/-- A connection that is to be the first of a stream can be its master and has a socket; no other connection than
an exclusive owner joins the stream of a master that is not established any more. -/
def JoinsLiveStream (network : Network) (asked : Stack config) (slot : Slot config) : Prop :=
  let sender := asked.roomFor.getExistingProducerIoConnection true asked.dummy.producedPath.instanceId.toUInt32
  asked.dummy.getTToOConnectionType = .multicast →
    (sender = none → slot.instanceType ≠ .ioListenOnly ∧ network.udpSocket.handle ≠ kEipInvalidSocket) ∧
    ∀ existing ∈ sender, slot.instanceType = .ioExclusiveOwner ∨ (asked.roomFor.object existing).state = .established

instance (network : Network) (asked : Stack config) (slot : Slot config) : Decidable (JoinsLiveStream network asked slot) :=
  inferInstanceAs (Decidable (_ → _ ∧ _))

def LiveMember (member : Member UInt32 UInt32 UInt32) : Prop := member.live = true ∧ member.shared = true

theorem liveMember_coverage : Members.Coverage LiveMember where
  only := fun _ covering => .inr covering
  earlier := fun _ _ _ shared live covering => ⟨live covering.1, shared ▸ covering.2⟩

theorem IoOpened.controls_or_led {asked after : Stack config} {slot : Slot config} {network : Network}
    {object : CipConnectionObject} (coherent : Coherent asked.roomFor)
    (covered : Members.Covered LiveMember asked.roomFor.members) (joins : JoinsLiveStream network asked slot)
    (opened : IoOpened network asked asked.roomFor slot object after) (covering : LiveMember (after.object slot).member) :
    (after.object slot).member.Controls ∨ asked.roomFor.members.Led (fun _ leader => leader.live = true)
      (after.object slot).member.input := by
  obtain ⟨type, connectionType, input, _⟩ := opened.requested
  have shared : (after.object slot).getTToOConnectionType = .multicast := beq_iff_eq.mp covering.2
  have multicast := connectionType.symm.trans shared
  have socket := opened.producingSocket multicast
  obtain ⟨starts, continues⟩ := joins multicast
  have controls (notListening : slot.instanceType ≠ .ioListenOnly)
      (valid : (after.object slot).producingSocket ≠ kEipInvalidSocket) : (after.object slot).member.Controls := by
    refine ⟨?_, covering.2, bne_iff_ne.mpr valid⟩
    change (after.object slot).instanceType.role ≠ .listener
    rw [type]
    have io := opened.io
    cases slot with
    | explicit i => exact absurd rfl io
    | exclusiveOwner i => simp [Slot.instanceType, ConnectionObjectInstanceType.role]
    | inputOnly i j => simp [Slot.instanceType, ConnectionObjectInstanceType.role]
    | listenOnly i j => exact absurd rfl notListening
  cases found : asked.roomFor.getExistingProducerIoConnection true asked.dummy.producedPath.instanceId.toUInt32 with
  | none =>
      rw [found] at socket
      obtain ⟨notListening, valid⟩ := starts found
      exact .inl (controls notListening (socket ▸ valid))
  | some existing =>
      rw [found] at socket
      dsimp only at socket
      obtain ⟨listed, masters, sameInput⟩ := getExistingProducer_masters coherent found
      rcases continues existing found with owner | established
      · refine .inl (controls (by simp [owner]) ?_)
        rw [socket, if_pos owner]
        exact bne_iff_ne.mp masters.2
      · have led := covered existing _ listed ⟨beq_iff_eq.mpr established, masters.1⟩
        have equal : (asked.roomFor.object existing).member.input = (after.object slot).member.input :=
          sameInput.trans (congrArg UInt16.toUInt32 input.symm)
        exact .inr (equal ▸ led)

theorem members_oneMaster {assemblyData : CipInstanceNum → List CipOctet} {timeout : UInt16} {operations : List Operation}
    (along : Along step (IoOpensWith JoinsLiveStream) (Stack.initialized config assemblyData timeout) operations)
    (run : operations.foldlM step (Stack.initialized config assemblyData timeout) = .ok stack) :
    Intact stack ∧ Members.Single stack.members ∧ Members.Covered LiveMember stack.members := by
  refine members_along (fun members => Members.Single members ∧ Members.Covered LiveMember members)
    ⟨Members.Single.empty, Members.Covered.empty LiveMember⟩ ?_ ?_ along run
  · rintro before after ⟨single, covered⟩ moves
    exact ⟨single.moves moves, covered.moves liveMember_coverage moves⟩
  · rintro network asked slot object after coherent ⟨single, covered⟩ live opened
    have joins := opened.joins coherent
    exact ⟨single.joins joins, covered.joins liveMember_coverage (members_eq_none opened.absent) opened.live
      (opened.controls_or_led coherent covered live) joins⟩

theorem oneMaster_of_members (coherent : Coherent stack) (single : Members.Single stack.members)
    (covered : Members.Covered LiveMember stack.members) : OneMaster stack := by
  intro slot listed established producer
  have type (other : Slot config) (listed : other ∈ stack.connectionList.toList) :=
    isTypeIOConnection_iff (coherent.opened other listed).instanceType
  have found := members_of_listed listed ((type slot listed).mp producer.1)
  obtain ⟨master, leader, lead, controls, input, live⟩ :=
    covered slot _ found ⟨beq_iff_eq.mpr established, beq_iff_eq.mpr producer.2⟩
  obtain ⟨masterListed, masterIo, rfl⟩ := members_eq_some.mp lead
  refine ⟨master, masterListed, beq_iff_eq.mp live, fun other otherListed => ⟨?_, ?_⟩⟩
  · rintro ⟨⟨⟨io, multicast⟩, socket⟩, sameInput⟩
    have candidate := members_of_listed otherListed ((type other otherListed).mp io)
    refine single other master _ _ candidate lead ⟨beq_iff_eq.mpr multicast, bne_iff_ne.mpr socket⟩ controls.2 ?_
    exact (congrArg UInt16.toUInt32 sameInput).trans input.symm
  · rintro rfl
    exact ⟨⟨⟨(type other otherListed).mpr masterIo, beq_iff_eq.mp controls.2.1⟩, bne_iff_ne.mp controls.2.2⟩,
      UInt16.toUInt32_inj.mp input⟩

/-- While connections join live streams only, every stream has exactly one master. -/
theorem one_master_along (assemblyData : CipInstanceNum → List CipOctet) (timeout : UInt16) {operations : List Operation}
    (along : Along step (IoOpensWith JoinsLiveStream) (Stack.initialized config assemblyData timeout) operations)
    (run : operations.foldlM step (Stack.initialized config assemblyData timeout) = .ok stack) : OneMaster stack := by
  obtain ⟨intact, single, covered⟩ := members_oneMaster along run
  exact oneMaster_of_members intact.coherent single covered

section Masters

open SampleApplication

/-- The exclusive owner takes the stream of an input-only connection over and hands it back when it closes. -/
theorem one_master_sample : ∃ stack : Stack configuration,
    (∃ slot ∈ stack.connectionList.toList, (stack.object slot).state = .established ∧
      IsMulticastMaster (stack.object slot)) ∧ OneMaster stack := by
  let operations : List Operation := [.forwardOpen (openIo 1 (pointToPoint 0) (multicast 128) 152 102),
    .forwardOpen (openIo 2 (pointToPoint 128) (multicast 128) 101 102), .forwardClose (closeRequest 2)]
  have meets : Along step (IoOpensWith JoinsLiveStream) (start configuration) operations :=
    Along.of_test ioOpensWith_of_test (by decide +kernel)
  have produces : (operations.foldlM step (start configuration)).toOption.any
      (fun stack => decide (∃ slot ∈ stack.connectionList.toList, (stack.object slot).state = .established ∧
        IsMulticastMaster (stack.object slot))) = true := by decide +kernel
  cases run : operations.foldlM step (start configuration) with
  | error fault =>
      rw [run] at produces
      cases produces
  | ok stack =>
      rw [run] at produces
      exact ⟨stack, of_decide_eq_true produces, one_master_along _ _ meets run⟩

/-- The exclusive owner has timed out with its producing socket; who joins its stream then waits for it. -/
theorem timed_out_connection_stays_master : ∃ stack : Stack configuration, Reached stack ∧ ¬ OneMaster stack := by
  have run : ends [.forwardOpen (openIo 1 (pointToPoint 128) (multicast 128) 101 102), timeOut,
      .forwardOpen (openIo 2 (pointToPoint 0) (multicast 128) 152 102)]
      (fun stack : Stack configuration => decide (∃ slot ∈ stack.connectionList.toList,
        (stack.object slot).state = .established ∧ IsMulticastProducer (stack.object slot) ∧
          ∀ master ∈ stack.connectionList.toList, (stack.object master).state = .established →
            ¬ IsMulticastMaster (stack.object master))) = true := by
    decide +kernel
  obtain ⟨stack, reached, silent⟩ := exists_of_ends run
  obtain ⟨slot, listed, established, producer, nobody⟩ := of_decide_eq_true silent
  refine ⟨stack, reached, fun one => ?_⟩
  obtain ⟨master, masterListed, masterEstablished, only⟩ := one slot listed established producer
  exact nobody master masterListed masterEstablished ((only master masterListed).mpr rfl).1

end Masters

end Stack

end EtherNetIP
