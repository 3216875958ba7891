import EtherNetIP.Cip.Identification

/-! Agreement on the parameters of a multicast stream.

A connection that joins a stream is compared with every listed connection that
produces the same input, and what is compared stays as it is while a connection
is listed. So the members of a stream agree pairwise, whichever of them joined
first and whichever of them is the master.
-/

set_option autoImplicit false

namespace EtherNetIP

open Library CipConnectionObject

variable {config : Configuration}

/-- What the consumers of one stream must not see change. -/
structure StreamParameters where
  requestedPacketInterval : UInt32
  connectionSizeType : ConnectionObjectConnectionSizeType
  priority : ConnectionObjectPriority
  transportClass : TransportClass
  productionTrigger : ProductionTrigger
  productionInhibitTime : UInt16
  deriving DecidableEq, Repr

def CipConnectionObject.streamParameters (object : CipConnectionObject) : StreamParameters where
  requestedPacketInterval := object.tToORequestedPacketInterval
  connectionSizeType := object.getTToOConnectionSizeType
  priority := object.getTToOPriority
  transportClass := object.getTransportClass
  productionTrigger := object.getProductionTrigger
  productionInhibitTime := object.productionInhibitTime

theorem streamParameters_of_producerMismatch {object other : CipConnectionObject}
    (agrees : producerMismatch object other = none) : object.streamParameters = other.streamParameters := by
  unfold producerMismatch at agrees
  split at agrees
  · cases agrees
  · rename_i interval
    split at agrees
    · cases agrees
    · rename_i sizeType
      split at agrees
      · cases agrees
      · rename_i priority
        split at agrees
        · cases agrees
        · rename_i transportClass
          split at agrees
          · cases agrees
          · rename_i trigger
            split at agrees
            · cases agrees
            · rename_i inhibitTime
              simp only [ne_eq, not_not] at interval sizeType priority transportClass trigger inhibitTime
              simp only [streamParameters, interval, sizeType, priority, transportClass, trigger, inhibitTime]

def IsMulticastProducer (object : CipConnectionObject) : Prop :=
  object.isTypeIOConnection = true ∧ object.getTToOConnectionType = .multicast

instance (object : CipConnectionObject) : Decidable (IsMulticastProducer object) :=
  inferInstanceAs (Decidable (_ ∧ _))

def AgreesOnStream (first second : CipConnectionObject) : Prop :=
  IsMulticastProducer first → IsMulticastProducer second →
    first.producedPath.instanceId = second.producedPath.instanceId → first.streamParameters = second.streamParameters

theorem agreesOnStream_lasting : Lasting AgreesOnStream := by
  rintro first second first' second' ⟨same, _⟩ ⟨same', _⟩ agrees
  have rewritten : AgreesOnStream first' second' = AgreesOnStream first second := by
    rw [same.eq (AgreesOnStream · second) fun _ => rfl, same'.eq (AgreesOnStream first') fun _ => rfl]
  rw [rewritten]
  exact agrees

namespace Stack

variable {stack asked after : Stack config} {isLfo : Bool} {request : Request} {slot : Slot config}

theorem entered_agreesOnStream (entered : Entered asked after slot) : RelatesNew AgreesOnStream after slot := by
  intro other listed differs producer _ input
  have type : slot.instanceType = (after.object slot).instanceType :=
    entered.serves.eq (·.instanceType) fun _ => rfl
  have io : slot.instanceType ≠ .explicitMessaging := by
    intro explicit
    have notIo := producer.1
    rw [isTypeIOConnection, ← type, explicit] at notIo
    cases notIo
  exact streamParameters_of_producerMismatch (entered.compatible io producer.2 other listed differs input)

/-- Any two listed connections that send one input by multicast have the same parameters. -/
def StreamsAgree (stack : Stack config) : Prop :=
  ∀ first ∈ stack.connectionList.toList, ∀ second ∈ stack.connectionList.toList,
    IsMulticastProducer (stack.object first) → IsMulticastProducer (stack.object second) →
    (stack.object first).producedPath.instanceId = (stack.object second).producedPath.instanceId →
    (stack.object first).streamParameters = (stack.object second).streamParameters

theorem streams_agree (reached : Reached stack) : StreamsAgree stack := by
  have related : AllRelated AgreesOnStream stack := by
    refine (reached.holds_of_step allRelated_initialized ?_).2
    intro before operation after intact related done
    refine allRelated_step agreesOnStream_lasting ?_ intact related done
      fun _ _ _ _ _ _ _ entered => entered_agreesOnStream entered
    exact fun agrees producer producer' input => (agrees producer' producer input.symm).symm
  intro first firstListed second secondListed producer producer' input
  by_cases same : first = second
  · subst same
    rfl
  · exact related first firstListed second secondListed same producer producer' input

open SampleApplication in
/-- The exclusive owner and an input-only connection send the input of the application by multicast. -/
theorem streams_agree_sample : ∃ stack : Stack configuration,
    (∃ first ∈ stack.connectionList.toList, ∃ second ∈ stack.connectionList.toList, first ≠ second ∧
      IsMulticastProducer (stack.object first) ∧ IsMulticastProducer (stack.object second) ∧
      (stack.object first).producedPath.instanceId = (stack.object second).producedPath.instanceId) ∧
    StreamsAgree stack := by
  have run : ends [.forwardOpen (openIo 1 (pointToPoint 0) (multicast 128) 152 102),
      .forwardOpen (openIo 2 (pointToPoint 128) (multicast 128) 101 102)]
      (fun stack : Stack configuration => decide (∃ first ∈ stack.connectionList.toList,
        ∃ second ∈ stack.connectionList.toList, first ≠ second ∧
          IsMulticastProducer (stack.object first) ∧ IsMulticastProducer (stack.object second) ∧
          (stack.object first).producedPath.instanceId = (stack.object second).producedPath.instanceId)) = true := by
    decide +kernel
  obtain ⟨stack, reached, two⟩ := exists_of_ends run
  exact ⟨stack, of_decide_eq_true two, streams_agree reached⟩

end Stack

end EtherNetIP
