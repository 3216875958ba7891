import EtherNetIP.SampleApplication
import Mathlib.Order.Fin.Basic

/-! Conflicts between exclusive owners.

A second owner of an output is looked for by its input. The search is right as
long as the configured points can be told apart by the assembly in question:
the output for the conflict check itself, the input for the timed-out
connection that makes room for a new one.
-/

set_option autoImplicit false

namespace EtherNetIP

open Library CipConnectionObject

variable {config : Configuration}

namespace Stack

variable {stack : Stack config}

def OwnsOutput (stack : Stack config) (slot : Slot config) (output : CipInstanceNum) : Prop :=
  (stack.object slot).instanceType = .ioExclusiveOwner ∧
    ((stack.object slot).state = .established ∨ (stack.object slot).state = .timedOut) ∧
    (stack.object slot).getOToTConnectionType ≠ .null ∧ (stack.object slot).consumedPath.instanceId = output

def OneOwnerPerOutput (stack : Stack config) : Prop :=
  ∀ output first second, OwnsOutput stack first output → OwnsOutput stack second output → first = second

def OwnersAtFirstPoint (stack : Stack config) : Prop :=
  ∀ i, Slot.exclusiveOwner i ∈ stack.connectionList.toList → ∀ j < i,
    config.exclusiveOwnerConnections.get j ≠ config.exclusiveOwnerConnections.get i

theorem getExclusiveOwnerConnection_first {object : CipConnectionObject}
    {i j : Fin config.exclusiveOwnerConnections.length}
    (found : config.exclusiveOwnerConnections.findFinIdx? (matchesPoint object) = some i) (before : j < i) :
    config.exclusiveOwnerConnections.get j ≠ config.exclusiveOwnerConnections.get i := by
  obtain ⟨matching, earliest⟩ := List.findFinIdx?_eq_some_iff.mp found
  intro same
  have missed : ¬ matchesPoint object (config.exclusiveOwnerConnections.get j) = true := earliest j before
  rw [same] at missed
  exact missed matching

theorem ownersAtFirstPoint_of_sublist {before after : Stack config} (first : OwnersAtFirstPoint before)
    (sublist : after.connectionList.toList.Sublist before.connectionList.toList) : OwnersAtFirstPoint after :=
  fun i listed => first i (sublist.subset listed)

theorem ownersAtFirstPoint_step {before after : Stack config} {operation : Operation}
    (first : OwnersAtFirstPoint before) (stepped : Stepped before operation after) : OwnersAtFirstPoint after := by
  obtain ⟨_, continues⟩ | ⟨_, opened⟩ := stepped
  · exact ownersAtFirstPoint_of_sublist first continues.sublist
  · cases opened with
    | refused leaves => exact ownersAtFirstPoint_of_sublist first leaves.continues.sublist
    | explicit slot type _ enlarges =>
        obtain ⟨rest, list, sublist⟩ := enlarges.list
        intro i listed
        rw [list, List.mem_cons] at listed
        obtain rfl | listed := listed
        · cases type
        · exact first i (sublist.subset listed)
    | io object choice instanceType chosen enlarges _ =>
        obtain ⟨rest, list, sublist⟩ := enlarges.list
        intro i listed
        rw [list, List.mem_cons] at listed
        obtain selected | listed := listed
        · obtain ⟨_, owner⟩ | ⟨_, input⟩ | ⟨_, listen⟩ := chooseIoConnection_ok chosen
          · obtain ⟨k, same, point, _⟩ := getExclusiveOwnerConnection_ok owner
            cases selected.trans same
            exact fun j => getExclusiveOwnerConnection_first point
          · obtain ⟨_, _, same, _⟩ := getInputOnlyConnection_ok input
            cases selected.trans same
          · obtain ⟨_, _, same, _⟩ := getListenOnlyConnection_ok listen
            cases selected.trans same
        · exact first i (sublist.subset listed)

theorem Reached.ownersAtFirstPoint (reached : Reached stack) : OwnersAtFirstPoint stack := by
  apply (reached.holds _ _).2
  · intro assemblyData timeout i listed
    simp [Stack.initialized] at listed
  · exact fun before operation after _ first stepped => ownersAtFirstPoint_step first stepped

theorem OwnersAtFirstPoint.unique (first : OwnersAtFirstPoint stack)
    {i j : Fin config.exclusiveOwnerConnections.length} (left : Slot.exclusiveOwner i ∈ stack.connectionList.toList)
    (right : Slot.exclusiveOwner j ∈ stack.connectionList.toList)
    (same : config.exclusiveOwnerConnections.get i = config.exclusiveOwnerConnections.get j) : i = j := by
  obtain less | equal | greater := lt_trichotomy i j
  · exact absurd same (first j right i less)
  · exact equal
  · exact absurd same.symm (first i left j greater)

theorem OwnsOutput.point (coherent : Coherent stack) {slot : Slot config} {output : CipInstanceNum}
    (owns : OwnsOutput stack slot output) :
    ∃ i, slot = .exclusiveOwner i ∧ slot ∈ stack.connectionList.toList ∧
      (config.exclusiveOwnerConnections.get i).outputAssembly = output.toUInt32 := by
  obtain ⟨type, active, _, consumes⟩ := owns
  have listed := (coherent.mem_iff slot).mpr active
  have opened := coherent.opened slot listed
  have sameType := opened.instanceType.symm.trans type
  cases slot with
  | exclusiveOwner i => exact ⟨i, rfl, listed, by rw [← OpenedIo.output opened, consumes]⟩
  | explicit i => cases sameType
  | inputOnly i j => cases sameType
  | listenOnly i j => cases sameType

end Stack

def Configuration.SeparateOutputs (config : Configuration) : Prop :=
  ∀ first ∈ config.exclusiveOwnerConnections, ∀ second ∈ config.exclusiveOwnerConnections,
    first.outputAssembly = second.outputAssembly → first = second

def Configuration.SeparateInputs (config : Configuration) : Prop :=
  ∀ first ∈ config.exclusiveOwnerConnections, ∀ second ∈ config.exclusiveOwnerConnections,
    first.inputAssembly = second.inputAssembly → first = second

namespace Stack

variable {stack : Stack config}

/-- With separate outputs the search by input finds every conflict. -/
theorem one_owner_per_output (separate : config.SeparateOutputs) (reached : Reached stack) :
    OneOwnerPerOutput stack := by
  intro output first second left right
  have coherent := reached.intact.coherent
  obtain ⟨i, rfl, leftListed, leftOutput⟩ := left.point coherent
  obtain ⟨j, rfl, rightListed, rightOutput⟩ := right.point coherent
  have same := separate _ (List.get_mem _ i) _ (List.get_mem _ j) (leftOutput.trans rightOutput.symm)
  rw [reached.ownersAtFirstPoint.unique leftListed rightListed same]

section TwoInputs

open SampleApplication

def twoInputs : Configuration := withExclusiveOwners [⟨101, 102, 103⟩, ⟨101, 112, 103⟩]

def openBothOwners : List Operation :=
  [.forwardOpen (openIo 1 (pointToPoint 128) (pointToPoint 128) 101 102),
    .forwardOpen (openIo 2 (pointToPoint 128) (pointToPoint 128) 101 112)]

instance (stack : Stack config) (slot : Slot config) (output : CipInstanceNum) :
    Decidable (stack.OwnsOutput slot output) :=
  inferInstanceAs (Decidable (_ ∧ _ ∧ _ ∧ _))

/-- The second owner asks for another input, and the search by input does not find the first. -/
theorem two_owners_of_one_output : ∃ stack : Stack twoInputs, Reached stack ∧ ¬ OneOwnerPerOutput stack := by
  have run : ends openBothOwners (fun stack : Stack twoInputs => decide
      (stack.OwnsOutput (.exclusiveOwner ⟨0, by decide⟩) 101 ∧
        stack.OwnsOutput (.exclusiveOwner ⟨1, by decide⟩) 101)) = true := by decide +kernel
  obtain ⟨stack, reached, owned⟩ := exists_of_ends run
  obtain ⟨first, second⟩ := of_decide_eq_true owned
  refine ⟨stack, reached, fun unique => ?_⟩
  have same := unique 101 _ _ first second
  simp at same

end TwoInputs

section OwnersOfTwoOutputs

open SampleApplication

def twoOwners : Configuration := withExclusiveOwners [⟨101, 102, 103⟩, ⟨111, 112, 103⟩]

theorem twoOwners_separateOutputs : twoOwners.SeparateOutputs := by
  unfold Configuration.SeparateOutputs
  decide

/-- Both outputs have their owner. -/
theorem one_owner_per_output_opened : ∃ stack : Stack twoOwners, Reached stack ∧
    stack.OwnsOutput (.exclusiveOwner ⟨0, by decide⟩) 101 ∧
    stack.OwnsOutput (.exclusiveOwner ⟨1, by decide⟩) 111 ∧ OneOwnerPerOutput stack := by
  have run : ends [.forwardOpen (openIo 1 (pointToPoint 128) (pointToPoint 128) 101 102),
      .forwardOpen (openIo 2 (pointToPoint 128) (pointToPoint 128) 111 112)]
      (fun stack : Stack twoOwners => decide
        (stack.OwnsOutput (.exclusiveOwner ⟨0, by decide⟩) 101 ∧
          stack.OwnsOutput (.exclusiveOwner ⟨1, by decide⟩) 111)) = true := by
    decide +kernel
  obtain ⟨stack, reached, owned⟩ := exists_of_ends run
  obtain ⟨first, second⟩ := of_decide_eq_true owned
  exact ⟨stack, reached, first, second, one_owner_per_output twoOwners_separateOutputs reached⟩

end OwnersOfTwoOutputs

/-- A timed-out connection that was found in order to make room is the one that is closed. -/
structure ClosesFound (asked : Stack config) (choice : SlotChoice config) (found : Slot config) : Prop where
  same : choice.slot = found
  timedOut : (asked.object found).state = .timedOut
  originator : equalOriginator asked.dummy (asked.object found) = true
  callable : (asked.object choice.slot).connectionCloseFunction ≠ none

def MakesRoomByFound (stack : Stack config) : Prop :=
  ∀ isLfo request asked choice instanceType found, stack.admitted isLfo request = some asked →
    asked.chooseIoConnection asked.dummy = .ok (choice, instanceType) → choice.found = some found →
    ClosesFound asked choice found

theorem closesFound_of_chosen {asked : Stack config} {choice : SlotChoice config} {found : Slot config}
    (coherent : Coherent asked) (same : choice.slot = found)
    (timedOut : (asked.object choice.slot).state = .timedOut)
    (originator : equalOriginator asked.dummy (asked.object choice.slot) = true) :
    ClosesFound asked choice found := by
  subst same
  have listed := (coherent.mem_iff choice.slot).mpr (.inr timedOut)
  exact ⟨rfl, timedOut, originator, (coherent.opened choice.slot listed).callable⟩

theorem owner_found_selected {asked : Stack config} {choice : SlotChoice config} {found : Slot config}
    (separate : config.SeparateInputs) (coherent : Coherent asked) (first : OwnersAtFirstPoint asked)
    (chosen : asked.getExclusiveOwnerConnection asked.dummy = .ok choice) (isFound : choice.found = some found) :
    choice.slot = found := by
  obtain ⟨i, same, point, connected, _⟩ := getExclusiveOwnerConnection_ok chosen
  rw [isFound, getConnectedOutputAssembly] at connected
  obtain ⟨listed, passes⟩ := findConnection_mem connected
  simp only [Bool.and_eq_true, beq_iff_eq] at passes
  have opened := coherent.opened found listed
  have sameType := opened.instanceType.symm.trans passes.1.1
  cases found with
  | exclusiveOwner k =>
      have wanted := (matchesPoint_iff.mp (List.findFinIdx?_eq_some_iff.mp point).1).2.1
      have sameInput : (config.exclusiveOwnerConnections.get i).inputAssembly =
          (config.exclusiveOwnerConnections.get k).inputAssembly := by
        rw [← OpenedIo.input opened, ← passes.2]
        exact wanted
      have equal := separate _ (List.get_mem _ i) _ (List.get_mem _ k) sameInput
      rw [same]
      obtain less | rfl | greater := lt_trichotomy i k
      · exact absurd equal (first k listed i less)
      · rfl
      · exact absurd equal.symm (getExclusiveOwnerConnection_first point greater)
  | explicit k => cases sameType
  | inputOnly k j => cases sameType
  | listenOnly k j => cases sameType

/-- With separate inputs the connection found by its input stands at the selected point. -/
theorem room_is_made_by_found (separate : config.SeparateInputs) (reached : Reached stack) :
    MakesRoomByFound stack := by
  intro isLfo request asked choice instanceType found admission chosen isFound
  obtain ⟨⟨table, _, _⟩, _⟩ := admitted_spec reached.intact.pristine admission
  have coherent : Coherent asked := reached.intact.coherent.of_same_table table.1 table.2
  have first : OwnersAtFirstPoint asked := by
    intro i listed
    rw [table.1] at listed
    exact reached.ownersAtFirstPoint i listed
  obtain ⟨_, owner⟩ | ⟨_, input⟩ | ⟨_, listen⟩ := chooseIoConnection_ok chosen
  · have same := owner_found_selected separate coherent first owner isFound
    obtain ⟨_, _, _, _, facts⟩ := getExclusiveOwnerConnection_ok owner
    obtain ⟨timedOut, originator⟩ := facts found isFound
    rw [← same] at timedOut originator
    exact closesFound_of_chosen coherent same timedOut originator
  · obtain ⟨_, _, _, _, ⟨same, timedOut, originator⟩ | ⟨nothing, _⟩⟩ := getInputOnlyConnection_ok input
    · exact closesFound_of_chosen coherent (Option.some.inj (same.symm.trans isFound)) timedOut originator
    · cases nothing.symm.trans isFound
  · obtain ⟨_, _, _, _, ⟨same, timedOut, originator⟩ | ⟨nothing, _⟩⟩ := getListenOnlyConnection_ok listen
    · exact closesFound_of_chosen coherent (Option.some.inj (same.symm.trans isFound)) timedOut originator
    · cases nothing.symm.trans isFound

section TwoOutputs

open SampleApplication

def twoOutputs : Configuration := withExclusiveOwners [⟨101, 102, 103⟩, ⟨111, 102, 103⟩]

def timedOutOwner : List Operation :=
  [.forwardOpen (openIo 1 (pointToPoint 128) (pointToPoint 128) 101 102), timeOut]

def otherOutput : Request := openIo 2 (pointToPoint 128) (pointToPoint 128) 111 102

def closesEmpty (request : Request) (stack : Stack config) : Bool :=
  match stack.admitted false request with
  | none => false
  | some asked =>
      match asked.chooseIoConnection asked.dummy with
      | .error _ => false
      | .ok (choice, _) =>
          choice.found.isSome && decide ((asked.object choice.slot).connectionCloseFunction = none)

theorem not_makesRoomByFound_of_closesEmpty {request : Request} (closes : closesEmpty request stack = true) :
    ¬ MakesRoomByFound stack := by
  unfold closesEmpty at closes
  split at closes
  · cases closes
  · rename_i asked admission
    split at closes
    · cases closes
    · rename_i choice instanceType chosen
      simp only [Bool.and_eq_true, decide_eq_true_eq] at closes
      obtain ⟨found, isFound⟩ := Option.isSome_iff_exists.mp closes.1
      intro makes
      exact (makes false request asked choice instanceType found admission chosen isFound).callable closes.2

theorem room_is_made_by_another : ∃ stack : Stack twoOutputs, Reached stack ∧ ¬ MakesRoomByFound stack ∧
    stack.step (.forwardOpen otherOutput) = .error .nullFunction := by
  have run : ends timedOutOwner (fun stack : Stack twoOutputs => closesEmpty otherOutput stack &&
      decide ((stack.step (.forwardOpen otherOutput)).map (fun _ => ()) = .error .nullFunction)) = true := by
    decide +kernel
  obtain ⟨stack, reached, tested⟩ := exists_of_ends run
  rw [Bool.and_eq_true, decide_eq_true_eq] at tested
  exact ⟨stack, reached, not_makesRoomByFound_of_closesEmpty tested.1, map_eq_error.mp tested.2⟩

/-- The owner of the sample application times out and is opened again. -/
theorem room_is_made_by_found_sample : ∃ stack : Stack configuration, Reached stack ∧
    (stack.object (.exclusiveOwner ⟨0, by decide⟩)).state = .timedOut ∧ MakesRoomByFound stack := by
  have separate : configuration.SeparateInputs := by
    unfold Configuration.SeparateInputs
    decide
  have run : ends timedOutOwner (fun stack : Stack configuration => decide
      ((stack.object (.exclusiveOwner ⟨0, by decide⟩)).state = .timedOut)) = true := by decide +kernel
  obtain ⟨stack, reached, tested⟩ := exists_of_ends run
  exact ⟨stack, reached, of_decide_eq_true tested, room_is_made_by_found separate reached⟩

end TwoOutputs

end Stack

end EtherNetIP
