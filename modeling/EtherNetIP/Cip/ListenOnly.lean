import EtherNetIP.Cip.ProducerStreams

/-! Listen-only connections and the producers they depend on.

A close or a time-out takes the listen-only connections of an input along when
it leaves a multicast stream without a successor. Nothing of the kind is done
for a point-to-point producer, nor for the stream of a listen-only connection,
though the request of a listen-only connection is accepted on such a producer.
Whoever finds an established master of a multicast stream is closed with its
last producer.
-/

set_option autoImplicit false

namespace EtherNetIP

open Library CipConnectionObject

variable {config : Configuration}

namespace Stack

variable {stack : Stack config}

def Supplies (stack : Stack config) (input : CipInstanceNum) (slot : Slot config) : Prop :=
  (slot.instanceType = .ioExclusiveOwner ∨ slot.instanceType = .ioInputOnly) ∧
    (stack.object slot).state = .established ∧ (stack.object slot).getTToOConnectionType ≠ .null ∧
    (stack.object slot).producedPath.instanceId = input

instance (stack : Stack config) (input : CipInstanceNum) (slot : Slot config) : Decidable (Supplies stack input slot) :=
  inferInstanceAs (Decidable (_ ∧ _ ∧ _ ∧ _))

/-- Whatever listens to an input has a connection that produces it. So a listen-only connection is not established
without a producer, and none is left once the last producer has gone. -/
def ListenersSupplied (stack : Stack config) : Prop :=
  ∀ listener ∈ stack.connectionList.toList, listener.instanceType = .ioListenOnly →
    ∃ producer ∈ stack.connectionList.toList, stack.Supplies (stack.object listener).producedPath.instanceId producer

/-- The slot has the established master of the multicast stream of the input, which is no listener itself. -/
def LeadsStream (stack : Stack config) (input : CipInstanceNum) (slot : Slot config) : Prop :=
  (stack.object slot).state = .established ∧ controlsMulticast (stack.object slot) = true ∧
    (stack.object slot).producedPath.instanceId = input

instance (stack : Stack config) (input : CipInstanceNum) (slot : Slot config) : Decidable (LeadsStream stack input slot) :=
  inferInstanceAs (Decidable (_ ∧ _ ∧ _))

def ListensToStream (_network : Network) (asked : Stack config) (slot : Slot config) : Prop :=
  slot.instanceType = .ioListenOnly → ∃ master ∈ asked.roomFor.connectionList.toList,
    asked.roomFor.LeadsStream asked.dummy.producedPath.instanceId master

instance (network : Network) (asked : Stack config) (slot : Slot config) : Decidable (ListensToStream network asked slot) :=
  inferInstanceAs (Decidable (_ → _))

def IsListener (member : Member UInt32 UInt32 UInt32) : Prop := member.role = .listener

theorem isListener_coverage : Members.Coverage IsListener where
  only := fun _ listens => .inl listens
  earlier := fun _ _ role _ _ listens => role.symm.trans listens

theorem members_listenersLed {assemblyData : CipInstanceNum → List CipOctet} {timeout : UInt16}
    {operations : List Operation}
    (along : Along step (IoOpensWith ListensToStream) (Stack.initialized config assemblyData timeout) operations)
    (run : operations.foldlM step (Stack.initialized config assemblyData timeout) = .ok stack) :
    Intact stack ∧ Members.Covered IsListener stack.members := by
  refine members_along (Members.Covered IsListener) (Members.Covered.empty IsListener) (fun _ _ covered => covered.moves isListener_coverage) ?_ along run
  intro network asked slot object after coherent covered found opened
  refine covered.joins isListener_coverage (members_eq_none opened.absent) opened.live (fun listens => .inr ?_)
    (opened.joins coherent)
  obtain ⟨type, _, input, _⟩ := opened.requested
  have listenOnly : slot.instanceType = .ioListenOnly := by
    have io := opened.io
    change (after.object slot).instanceType.role = .listener at listens
    rw [type] at listens
    cases slot with
    | explicit i => exact absurd rfl io
    | exclusiveOwner i => cases listens
    | inputOnly i j => cases listens
    | listenOnly i j => rfl
  obtain ⟨master, listed, established, controls, sameInput⟩ := found listenOnly
  refine ⟨master, _, members_of_listed listed (io_of_controls coherent listed controls), controls_iff.mpr controls, ?_,
    beq_iff_eq.mpr established⟩
  exact congrArg UInt16.toUInt32 (sameInput.trans input.symm)

/-- While listen-only connections are opened on established multicast streams only, each has a producer. -/
theorem listeners_supplied_along (assemblyData : CipInstanceNum → List CipOctet) (timeout : UInt16)
    {operations : List Operation}
    (along : Along step (IoOpensWith ListensToStream) (Stack.initialized config assemblyData timeout) operations)
    (run : operations.foldlM step (Stack.initialized config assemblyData timeout) = .ok stack) :
    ListenersSupplied stack := by
  obtain ⟨intact, covered⟩ := members_listenersLed along run
  intro listener listed listens
  have type := (intact.coherent.opened listener listed).instanceType
  have io : listener.instanceType ≠ .explicitMessaging := by simp [listens]
  have role : IsListener (stack.object listener).member := by
    change (stack.object listener).instanceType.role = .listener
    rw [type, listens]
    rfl
  obtain ⟨producer, leader, lead, controls, input, live⟩ := covered listener _ (members_of_listed listed io) role
  obtain ⟨producerListed, _, rfl⟩ := members_eq_some.mp lead
  refine ⟨producer, producerListed, ?_, beq_iff_eq.mp live, ?_, UInt16.toUInt32_inj.mp input⟩
  · exact intact.coherent.master_of_controls producerListed (controls_iff.mp controls)
  · rw [beq_iff_eq.mp controls.2.1]
    simp

section Listeners

open SampleApplication

/-- A listen-only connection on the stream of an input-only connection, which an exclusive owner takes over. -/
theorem listeners_supplied_sample : ∃ stack : Stack configuration,
    (∃ listener ∈ stack.connectionList.toList, listener.instanceType = .ioListenOnly ∧
      (stack.object listener).state = .established) ∧ ListenersSupplied stack := by
  let operations : List Operation := [.forwardOpen (openIo 1 (pointToPoint 0) (multicast 128) 152 102),
    .forwardOpen (openIo 2 (pointToPoint 0) (multicast 128) 153 102),
    .forwardOpen (openIo 3 (pointToPoint 128) (multicast 128) 101 102), .forwardClose (closeRequest 1)]
  have meets : Along step (IoOpensWith ListensToStream) (start configuration) operations :=
    Along.of_test ioOpensWith_of_test (by decide +kernel)
  have listens : (operations.foldlM step (start configuration)).toOption.any
      (fun stack => decide (∃ listener ∈ stack.connectionList.toList, listener.instanceType = .ioListenOnly ∧
        (stack.object listener).state = .established)) = true := by decide +kernel
  cases run : operations.foldlM step (start configuration) with
  | error fault =>
      rw [run] at listens
      cases listens
  | ok stack =>
      rw [run] at listens
      exact ⟨stack, of_decide_eq_true listens, listeners_supplied_along _ _ meets run⟩

/-- The exclusive owner that closes produced on its own; the listen-only connection stays. -/
theorem listener_outlives_point_to_point : ∃ stack : Stack configuration, Reached stack ∧ ¬ ListenersSupplied stack := by
  have run : ends [.forwardOpen (openIo 1 (pointToPoint 128) (pointToPoint 128) 101 102),
      .forwardOpen (openIo 2 (pointToPoint 0) (pointToPoint 128) 153 102), .forwardClose (closeRequest 1)]
      (fun stack : Stack configuration => decide (∃ listener ∈ stack.connectionList.toList,
        listener.instanceType = .ioListenOnly ∧ ∀ producer ∈ stack.connectionList.toList,
          ¬ stack.Supplies (stack.object listener).producedPath.instanceId producer)) = true := by
    decide +kernel
  obtain ⟨stack, reached, orphan⟩ := exists_of_ends run
  obtain ⟨listener, listed, listens, nobody⟩ := of_decide_eq_true orphan
  refine ⟨stack, reached, fun supplied => ?_⟩
  obtain ⟨producer, producerListed, supplies⟩ := supplied listener listed listens
  exact nobody producer producerListed supplies

end Listeners

end Stack

end EtherNetIP
