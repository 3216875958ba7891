import EtherNetIP.Cip.RequestedProperties
import EtherNetIP.SampleApplication

/-! The pool a Forward Open is routed to.

The path parser goes by the transport class of the request, the open function
is chosen by the class in its path. A request of transport class 3 is checked
to end at the message router; the others are not checked to end anywhere else,
and transport class 2 is nowhere refused.
-/

set_option autoImplicit false

namespace EtherNetIP

open Library CipConnectionObject

variable {config : Configuration}

namespace Request

def header (isLfo : Bool) (request : Request) : CipConnectionObject :=
  { CipConnectionObject.zeroed with isLargeForwardOpen := isLfo }.initializeFromMessage
    ((readForwardOpenHeader isLfo).run request.data).1 0

def transportClass (isLfo : Bool) (request : Request) : TransportClass := (request.header isLfo).getTransportClass

def pathClass (isLfo : Bool) (request : Request) : UInt32 :=
  EtherNetIP.pathClass (request.header isLfo) (((readForwardOpenHeader isLfo).run request.data).2.drop 1)

/-- A path to the message router goes with transport class 3, a path to the assembly class with class 0 or 1. -/
def KeepsToPool (isLfo : Bool) (request : Request) : Prop :=
  (request.pathClass isLfo = kCipMessageRouterClassCode → request.transportClass isLfo = .class3) ∧
    (request.pathClass isLfo = kCipAssemblyClassCode →
      request.transportClass isLfo = .class0 ∨ request.transportClass isLfo = .class1)

instance (isLfo : Bool) (request : Request) : Decidable (request.KeepsToPool isLfo) :=
  inferInstanceAs (Decidable ((_ → _) ∧ (_ → _)))

end Request

/-- An explicit connection has transport class 3, an I/O connection class 0 or 1 and a connection point of the
assembly class. -/
def Routed (slot : Slot config) (object : CipConnectionObject) : Prop :=
  if slot.instanceType = .explicitMessaging then object.getTransportClass = .class3
  else (object.getTransportClass = .class0 ∨ object.getTransportClass = .class1) ∧
    NamesClass kCipAssemblyClassCode object

theorem NamesClass.of_eq {classId : UInt32} {before after : CipConnectionObject} (names : NamesClass classId before)
    (transportClass : before.getTransportClass = after.getTransportClass)
    (oToT : before.getOToTConnectionType = after.getOToTConnectionType)
    (tToO : before.getTToOConnectionType = after.getTToOConnectionType)
    (configuration : before.configurationPath.classId = after.configurationPath.classId)
    (consumed : before.consumedPath.classId = after.consumedPath.classId)
    (produced : before.producedPath.classId = after.producedPath.classId) : NamesClass classId after where
  configuration := configuration ▸ names.configuration
  consumed := fun io consumes => consumed ▸ names.consumed (transportClass ▸ io) (oToT ▸ consumes)
  produced := fun io produces => produced ▸ names.produced (transportClass ▸ io) (tToO ▸ produces)

theorem Routed.of_same {slot : Slot config} {before after : CipConnectionObject} (routed : Routed slot before)
    (same : SameConnection before after) : Routed slot after := by
  have transportClass := same.eq getTransportClass fun _ => rfl
  unfold Routed at routed ⊢
  split at routed
  · rename_i explicit
    rw [if_pos explicit, ← transportClass]
    exact routed
  · rename_i io
    rw [if_neg io, ← transportClass]
    exact ⟨routed.1, routed.2.of_eq transportClass (same.eq getOToTConnectionType fun _ => rfl)
      (same.eq getTToOConnectionType fun _ => rfl) (same.eq (·.configurationPath.classId) fun _ => rfl)
      (same.eq (·.consumedPath.classId) fun _ => rfl) (same.eq (·.producedPath.classId) fun _ => rfl)⟩

namespace Stack

variable {stack asked : Stack config} {isLfo : Bool} {request : Request} {slot : Slot config}

theorem admitted_names (admission : stack.admitted isLfo request = some asked) :
    asked.dummy.getTransportClass = request.transportClass isLfo ∧
      NamesClass (request.pathClass isLfo) asked.dummy := by
  refine ⟨admitted_reads admission getTransportClass (fun _ => rfl) fun _ _ => rfl, ?_⟩
  obtain ⟨data, reading, read, _, parsed⟩ := admitted_eq_some admission
  have trigger : reading.dummy.getProductionTrigger = (request.header isLfo).getProductionTrigger ∧
      data = ((readForwardOpenHeader isLfo).run request.data).2 := by
    unfold readForwardOpen at read
    obtain ⟨connectionNumber, _, finish⟩ := bind_eq_ok.mp read
    cases finish
    exact ⟨rfl, rfl⟩
  have names := parseConnectionPath_names config reading.dummy reading.configData data request.requestDataSize
  unfold parseConnectionPath at parsed
  split at parsed
  · cases parsed
  · rename_i reader done
    cases parsed
    have code : EtherNetIP.pathClass reading.dummy (data.drop 1) = request.pathClass isLfo := by
      rw [EtherNetIP.pathClass, behindProductionInhibitTime, trigger.1, trigger.2]
      rfl
    exact code ▸ names.returns done

theorem routed_iff_of_opened (admission : stack.admitted isLfo request = some asked) {object : CipConnectionObject}
    (opened : OpenedFor asked slot object) : Routed slot object ↔ request.KeepsToPool isLfo := by
  obtain ⟨transportClass, names⟩ := admitted_names admission
  have serves := opened.serves
  have sameClass : object.getTransportClass = request.transportClass isLfo :=
    (serves.eq getTransportClass fun _ => rfl).symm.trans transportClass
  have code := names.configuration
  unfold Routed Request.KeepsToPool
  rw [sameClass, ← code]
  rcases opened.entry with ⟨explicit, router⟩ | ⟨io, assembly⟩
  · rw [if_pos explicit, router]
    simp [kCipMessageRouterClassCode, kCipAssemblyClassCode]
  · rw [if_neg io, assembly]
    have named : NamesClass kCipAssemblyClassCode object := by
      rw [← code, assembly] at names
      exact names.of_eq (serves.eq getTransportClass fun _ => rfl) (serves.eq getOToTConnectionType fun _ => rfl)
        (serves.eq getTToOConnectionType fun _ => rfl) (serves.eq (·.configurationPath.classId) fun _ => rfl)
        (serves.eq (·.consumedPath.classId) fun _ => rfl) (serves.eq (·.producedPath.classId) fun _ => rfl)
    refine ⟨fun routed => ⟨fun same => absurd same (by decide), fun _ => routed.1⟩, fun keeps => ⟨keeps.2 rfl, ?_⟩⟩
    exact assembly ▸ named

theorem routed_decided : DecidedByRequest (@Routed config) fun isLfo request => request.KeepsToPool isLfo where
  lasts := fun _ _ _ routed same => routed.of_same same
  opens := fun _ _ _ _ _ _ admission opened => routed_iff_of_opened admission opened
  nothing := by
    intro stack asked isLfo request admission zero
    rw [Request.KeepsToPool, ← (admitted_names admission).2.configuration, zero]
    simp [kCipMessageRouterClassCode, kCipAssemblyClassCode]

/-- In all states of a run the connections are in the pools of their transport classes, exactly if every request
it accepts keeps to its pool. -/
theorem all_routed_iff (assemblyData : CipInstanceNum → List CipOctet) (timeout : UInt16) (operations : List Operation) :
    (∀ count reached, (operations.take count).foldlM step (Stack.initialized config assemblyData timeout) = .ok reached →
      HoldsOfListed Routed reached) ↔
    Along step (AcceptedMeets fun isLfo request => request.KeepsToPool isLfo)
      (Stack.initialized config assemblyData timeout) operations :=
  routed_decided.throughout_iff assemblyData timeout operations

section Routes

open SampleApplication

def openRouter (transportClassTrigger : UInt8) : Request :=
  openRequest 1 (pointToPoint 0) (pointToPoint 0) transportClassTrigger [0x20, 0x02, 0x24, 0x01, 0x2C, 1, 0x2C, 1]

/-- A cyclic class 1 request lands in the explicit pool, and transport class 2 is accepted for an I/O connection. -/
theorem requests_leave_their_pools :
    (∃ stack : Stack configuration, Reached stack ∧ ∃ slot ∈ stack.connectionList.toList,
      slot.instanceType = .explicitMessaging ∧ (stack.object slot).getTransportClass = .class1) ∧
    ∃ stack : Stack configuration, Reached stack ∧ ∃ slot ∈ stack.connectionList.toList,
      slot.instanceType = .ioExclusiveOwner ∧ (stack.object slot).getTransportClass = .class2 := by
  have explicit : ends [.forwardOpen (openRouter 0x01)] (fun stack : Stack configuration =>
      decide (∃ slot ∈ stack.connectionList.toList, slot.instanceType = .explicitMessaging ∧
        (stack.object slot).getTransportClass = .class1)) = true := by decide +kernel
  have class2 : ends [.forwardOpen (openRequest 1 (pointToPoint 126) (multicast 126) 0x02
        [0x20, 0x04, 0x24, 103, 0x2C, 101, 0x2C, 102])] (fun stack : Stack configuration =>
      decide (∃ slot ∈ stack.connectionList.toList, slot.instanceType = .ioExclusiveOwner ∧
        (stack.object slot).getTransportClass = .class2)) = true := by decide +kernel
  obtain ⟨stack, reached, shown⟩ := exists_of_ends explicit
  obtain ⟨other, otherReached, otherShown⟩ := exists_of_ends class2
  exact ⟨⟨stack, reached, of_decide_eq_true shown⟩, ⟨other, otherReached, of_decide_eq_true otherShown⟩⟩

end Routes

end Stack

end EtherNetIP
