import EtherNetIP.Encap.Encap
import EtherNetIP.SampleApplication

/-! Productions triggered by the application.

The application names the connection points, and the first connection with these
points decides whether a production is scheduled.
-/

set_option autoImplicit false

namespace EtherNetIP

open CipConnectionObject

namespace CipConnectionObject

def joins (output input : UInt32) (object : CipConnectionObject) : Bool :=
  output == object.consumedPath.instanceId.toUInt32 && input == object.producedPath.instanceId.toUInt32

def schedule (object : CipConnectionObject) : CipConnectionObject :=
  { object with transmissionTriggerTimer := object.productionInhibitTime.toUInt64 }

structure Triggerable (output input : UInt32) (object : CipConnectionObject) : Prop where
  joins : object.joins output input = true
  trigger : object.getProductionTrigger = .applicationObject
  established : object.state = .established

end CipConnectionObject

namespace Stack

variable {config : Configuration} {stack : Stack config} {output input : UInt32} {slot : Slot config}

def triggered (output input : UInt32) (stack : Stack config) : Option (Slot config) :=
  (stack.findConnection (joins output input)).filter fun slot =>
    (stack.object slot).getProductionTrigger = .applicationObject

def triggerConnections (output input : UInt32) (stack : Stack config) : EipStatus × Stack config :=
  match triggered output input stack with
  | some slot => (.ok, stack.modifyObject slot schedule)
  | none => (.error, stack)

def AnyTriggerable (output input : UInt32) (stack : Stack config) : Prop :=
  ∃ slot ∈ stack.connectionList.toList, Triggerable output input (stack.object slot)

/-- The status tells whether a connection may be triggered, and one that may is scheduled. -/
structure TriggersEstablished (output input : UInt32) (stack : Stack config) : Prop where
  status : (triggerConnections output input stack).1 = .ok ↔ AnyTriggerable output input stack
  schedules (any : AnyTriggerable output input stack) : ∃ slot ∈ stack.connectionList.toList,
    Triggerable output input (stack.object slot) ∧ triggered output input stack = some slot ∧
      triggerConnections output input stack = (.ok, stack.modifyObject slot schedule)

theorem triggerConnections_of_triggered (found : triggered output input stack = some slot) :
    triggerConnections output input stack = (.ok, stack.modifyObject slot schedule) := by
  unfold triggerConnections
  rw [found]

theorem triggerConnections_of_none (none : triggered output input stack = none) :
    triggerConnections output input stack = (.error, stack) := by
  unfold triggerConnections
  rw [none]

theorem triggerConnections_ok : (triggerConnections output input stack).1 = .ok ↔
    ∃ slot, triggered output input stack = some slot := by
  cases found : triggered output input stack with
  | none =>
    rw [triggerConnections_of_none found]
    exact iff_of_false nofun nofun
  | some slot =>
    rw [triggerConnections_of_triggered found]
    exact iff_of_true rfl ⟨slot, rfl⟩

/-- The first connection with the points may be triggered, or none may and the first one is of another trigger. -/
def FirstDecides (output input : UInt32) (stack : Stack config) : Prop :=
  match stack.findConnection (joins output input) with
  | none => True
  | some slot =>
    if (stack.object slot).getProductionTrigger = .applicationObject then (stack.object slot).state = .established
    else ¬ AnyTriggerable output input stack

theorem triggersEstablished_iff (output input : UInt32) (stack : Stack config) :
    TriggersEstablished output input stack ↔ FirstDecides output input stack := by
  unfold FirstDecides
  -- only the first connection of the two assemblies is looked at
  cases found : stack.findConnection (joins output input) with
  | none =>
    have none : triggered output input stack = none := by
      unfold triggered
      rw [found]
      rfl
    have nothing : ¬ AnyTriggerable output input stack := by
      rintro ⟨slot, listed, triggerable⟩
      have other := findConnection_eq_none_iff.mp found slot listed
      rw [triggerable.joins] at other
      cases other
    refine iff_of_true ⟨?_, fun any => absurd any nothing⟩ trivial
    rw [triggerConnections_of_none none]
    exact iff_of_false nofun nothing
  | some slot =>
    have first := findConnection_mem found
    dsimp only
    split
    next application =>
      have chosen : triggered output input stack = some slot := by
        unfold triggered
        rw [found]
        exact if_pos (decide_eq_true application)
      constructor
      · intro triggers
        obtain ⟨other, _, triggerable, same, _⟩ :=
          triggers.schedules (triggers.status.mp (triggerConnections_ok.mpr ⟨slot, chosen⟩))
        cases chosen.symm.trans same
        exact triggerable.established
      · intro established
        have triggerable : Triggerable output input (stack.object slot) := ⟨first.2, application, established⟩
        refine ⟨iff_of_true (triggerConnections_ok.mpr ⟨slot, chosen⟩) ⟨slot, first.1, triggerable⟩, fun _ => ?_⟩
        exact ⟨slot, first.1, triggerable, chosen, triggerConnections_of_triggered chosen⟩
    next other =>
      have none : triggered output input stack = none := by
        unfold triggered
        rw [found]
        exact if_neg (by simpa using other)
      have error : (triggerConnections output input stack).1 ≠ .ok := by
        rw [triggerConnections_of_none none]
        nofun
      constructor
      · exact fun triggers any => error (triggers.status.mpr any)
      · exact fun nothing => ⟨iff_of_false error nothing, fun any => absurd any nothing⟩

open SampleApplication

def openInputOnly (connectionSerialNumber : UInt16) (transportClassTrigger : UInt8) : Request :=
  openRequest connectionSerialNumber (pointToPoint 0) (pointToPoint 128) transportClassTrigger
    [0x20, 0x04, 0x24, 103, 0x2C, 152, 0x2C, 102]

/-- A cyclic connection to the same points, opened later, keeps an established one from being triggered. -/
theorem later_cyclic_prevents_triggering : ∃ stack : Stack configuration, Reached stack ∧
    ¬ TriggersEstablished 152 102 stack := by
  let slot : Slot configuration := .inputOnly ⟨0, by decide⟩ ⟨0, by decide⟩
  have run : ends [.forwardOpen (openInputOnly 1 0x21), .forwardOpen (openInputOnly 2 0x01)]
      (fun stack : Stack configuration => decide (slot ∈ stack.connectionList.toList ∧
        joins 152 102 (stack.object slot) = true ∧ (stack.object slot).getProductionTrigger = .applicationObject ∧
        (stack.object slot).state = .established ∧ (triggerConnections 152 102 stack).1 = .error)) = true := by
    decide +kernel
  obtain ⟨stack, reached, shown⟩ := exists_of_ends run
  obtain ⟨listed, points, application, established, error⟩ := of_decide_eq_true shown
  refine ⟨stack, reached, fun triggers => ?_⟩
  have ok := triggers.status.mpr ⟨slot, listed, points, application, established⟩
  rw [error] at ok
  cases ok

end Stack

end EtherNetIP
