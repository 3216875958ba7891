import EtherNetIP.SampleApplication

/-! The supply of list nodes.

The pools hold more connections than the list has nodes: an input-only or
listen-only path counts once for the nodes but several times for the objects.
A run meets the null node exactly when a Forward Open that passes every check
selects an object beside the listed ones while all nodes are taken.
-/

set_option autoImplicit false

namespace EtherNetIP

open Library CipConnectionObject

variable {config : Configuration}

namespace Stack

variable {stack : Stack config} {network : Network} {slot : Slot config}

def selects (network : Network) (asked : Stack config) : Option (Slot config) :=
  match config.connectionManagementList.lookup asked.dummy.configurationPath.classId with
  | some (some .establishClass3Connection) => asked.getFreeExplicitConnection
  | some (some .establishIoConnection) =>
      match asked.openIoConnection network with
      | .ok (slot, _) => some slot
      | .error _ => none
  | _ => none

def selectedObject (isLfo : Bool) (request : Request) (stack : Stack config) : Option (Slot config) :=
  (stack.admitted isLfo request).bind (selects request.network)

/-- A Forward Open takes the place of a listed connection, or a node is free for it. -/
def NodeLeft (stack : Stack config) (operation : Operation) : Prop :=
  ∀ isLfo request slot, operation.openRequest = some (isLfo, request) →
    stack.selectedObject isLfo request = some slot →
    slot ∈ stack.connectionList.toList ∨ stack.connectionList.toList.length < config.kNodesAmount

theorem orStop_fault_iff {α : Type} {computation : Except Fault α} {fault : Fault} :
    (orStop computation : Except (Stop config) α) = .error (.fault fault) ↔ computation = .error fault := by
  cases computation with
  | error other => simp [orStop]
  | ok value => simp [orStop]

theorem addNewActiveConnection_nullNode_iff (stack : Stack config) (slot : Slot config) :
    stack.addNewActiveConnection slot = .error .nullNode ↔
      stack.connectionList.toList.length = config.kNodesAmount := by
  rw [← ConnectionList.insertAtHead_eq_none_iff stack.connectionList slot]
  unfold addNewActiveConnection
  split
  · rename_i full
    simp [full]
  · rename_i inserted done
    simp [done]

theorem establishClass3Connection_nullNode_iff (coherent : Coherent stack) :
    stack.establishClass3Connection = .error (.fault .nullNode) ↔
      ∃ slot, stack.getFreeExplicitConnection = some slot ∧ slot ∉ stack.connectionList.toList ∧
        stack.connectionList.toList.length = config.kNodesAmount := by
  unfold establishClass3Connection
  split
  · rename_i nothing
    simp [connectionFailure, refuse, nothing]
  · rename_i slot free
    obtain ⟨_, nonExistent⟩ := getFreeExplicitConnection_spec free
    have absent : slot ∉ stack.connectionList.toList := by
      rw [coherent.mem_iff, nonExistent]
      simp
    obtain ⟨consumedId, producedId, connectionId, general⟩ :=
      (stack.connectionObjectDeepCopy slot).connectionObjectGeneralConfiguration_eq slot
    dsimp only
    rw [general, orStop_fault_iff, addNewActiveConnection_nullNode_iff]
    constructor
    · intro full
      exact ⟨slot, free, absent, full⟩
    · rintro ⟨_, _, _, full⟩
      exact full

/-- The list is full when room has been made exactly if it was full before and nothing listed was closed. -/
theorem makeRoom_full_iff {choice : SlotChoice config} {room : Stack config} (coherent : Coherent stack)
    (made : stack.makeRoom choice = .ok room) (continues : Continues (fun _ => False) stack room)
    (absent : choice.slot ∉ room.connectionList.toList) :
    room.connectionList.toList.length = config.kNodesAmount ↔
      choice.slot ∉ stack.connectionList.toList ∧ stack.connectionList.toList.length = config.kNodesAmount := by
  constructor
  · intro full
    have bound := stack.connectionList.length_le
    have same : room.connectionList.toList = stack.connectionList.toList :=
      continues.sublist.eq_of_length_le (by omega)
    rw [← same]
    exact ⟨absent, full⟩
  · rintro ⟨unlisted, full⟩
    rw [(makeRoom_unlisted coherent unlisted made).1]
    exact full

theorem establishIoConnection_nullNode_iff (coherent : Coherent stack) (pristine : Pristine stack.dummy) :
    stack.establishIoConnection network = .error (.fault .nullNode) ↔
      ∃ slot reached, stack.openIoConnection network = .ok (slot, reached) ∧
        slot ∉ stack.connectionList.toList ∧ stack.connectionList.toList.length = config.kNodesAmount := by
  have spec : Settles (stack.openIoConnection network) _ _ := openIoConnection_spec coherent pristine
  have listing (slot : Slot config) (reached : Stack config)
      (opened : stack.openIoConnection network = .ok (slot, reached)) :
      reached.connectionList.toList.length = config.kNodesAmount ↔
        slot ∉ stack.connectionList.toList ∧ stack.connectionList.toList.length = config.kNodesAmount := by
    obtain ⟨choice, instanceType, rfl, negotiated⟩ := spec.returns opened
    obtain ⟨room, made, continues, absent, sameList, _⟩ := negotiated.room
    rw [sameList]
    exact makeRoom_full_iff coherent made continues absent
  unfold establishIoConnection
  rw [bind_eq_error]
  constructor
  · rintro (failed | ⟨⟨slot, reached⟩, opened, failed⟩)
    · exact absurd rfl (spec.raises failed)
    · obtain failed | ⟨after, _, done⟩ := bind_eq_error.mp failed
      · rw [orStop_fault_iff, addNewActiveConnection_nullNode_iff, listing slot reached opened] at failed
        exact ⟨slot, reached, opened, failed⟩
      · cases done
  · rintro ⟨slot, reached, opened, full⟩
    refine .inr ⟨(slot, reached), opened, bind_eq_error.mpr (.inl ?_)⟩
    rw [orStop_fault_iff, addNewActiveConnection_nullNode_iff, listing slot reached opened]
    exact full

theorem openConnection_nullNode_iff (coherent : Coherent stack) (pristine : Pristine stack.dummy) :
    stack.openConnection network = .error (.fault .nullNode) ↔
      ∃ slot, stack.selects network = some slot ∧ slot ∉ stack.connectionList.toList ∧
        stack.connectionList.toList.length = config.kNodesAmount := by
  unfold openConnection selects
  generalize config.connectionManagementList.lookup stack.dummy.configurationPath.classId = entry
  obtain _ | _ | _ | _ := entry
  · simp [refuse]
  · simp
  · exact establishClass3Connection_nullNode_iff coherent
  · dsimp only
    rw [establishIoConnection_nullNode_iff coherent pristine]
    cases opened : stack.openIoConnection network with
    | error stop => simp
    | ok result =>
        obtain ⟨selected, reached⟩ := result
        simp

theorem answerForwardOpen_nullNode_iff (outcome : Except (Stop config) (Stack config)) :
    answerForwardOpen outcome = .error .nullNode ↔ outcome = .error (.fault .nullNode) := by
  unfold answerForwardOpen
  split
  · simp
  · simp
  · split <;> simp

theorem forwardOpenRoutine_nullNode_iff (intact : Intact stack) (isLfo : Bool) (request : Request) :
    stack.forwardOpenRoutine isLfo request = .error .nullNode ↔
      ∃ slot, stack.selectedObject isLfo request = some slot ∧ slot ∉ stack.connectionList.toList ∧
        stack.connectionList.toList.length = config.kNodesAmount := by
  cases admission : stack.admitted isLfo request with
  | none =>
      have spec := forwardOpenRoutine_turnedAway intact.pristine admission
      constructor
      · intro failed
        exact absurd rfl (spec.raises failed)
      · simp [selectedObject, admission]
  | some asked =>
      obtain ⟨⟨table, _, pristine⟩, _⟩ := admitted_spec intact.pristine admission
      have opening : asked.openConnection request.network = .error (.fault .nullNode) ↔ _ :=
        openConnection_nullNode_iff (intact.coherent.of_same_table table.1 table.2) pristine
      rw [table.1] at opening
      rw [forwardOpenRoutine_admitted admission, answerForwardOpen_nullNode_iff, opening]
      simp only [selectedObject, admission, Option.bind_some]

theorem step_nullNode_iff (intact : Intact stack) (operation : Operation) :
    stack.step operation = .error .nullNode ↔ ¬ NodeLeft stack operation := by
  have bound := stack.connectionList.length_le
  cases opens : operation.openRequest with
  | none =>
      have proceeds := step_proceeds intact.coherent opens
      constructor
      · intro failed
        exact absurd rfl (proceeds.raises failed)
      · intro want
        exact absurd (fun _ _ _ opened => by rw [opens] at opened; cases opened) want
  | some asked =>
      obtain ⟨isLfo, request⟩ := asked
      have dropped : stack.step operation = .error .nullNode ↔
          stack.forwardOpenRoutine isLfo request = .error .nullNode := by
        rw [step_openRequest opens]
        cases stack.forwardOpenRoutine isLfo request with
        | error fault => simp [Except.map]
        | ok answered => simp [Except.map]
      rw [dropped, forwardOpenRoutine_nullNode_iff intact]
      constructor
      · rintro ⟨slot, selected, absent, full⟩ left
        obtain listed | room := left isLfo request slot opens selected
        · exact absent listed
        · omega
      · intro want
        by_contra nobody
        refine want fun _ _ slot opened selected => ?_
        cases opens.symm.trans opened
        by_contra neither
        rw [not_or] at neither
        exact nobody ⟨slot, selected, neither.1, by omega⟩

def poolObjects (config : Configuration) : List (Slot config) :=
  (List.finRange _).map .explicit ++ (List.finRange _).map .exclusiveOwner ++
    (List.finRange _).flatMap (fun i => (List.finRange _).map (.inputOnly i)) ++
    (List.finRange _).flatMap (fun i => (List.finRange _).map (.listenOnly i))

theorem mem_poolObjects (slot : Slot config) : slot ∈ poolObjects config := by
  cases slot with
  | explicit i => simp [poolObjects]
  | exclusiveOwner i => simp [poolObjects]
  | inputOnly i j => simp [poolObjects]
  | listenOnly i j => simp [poolObjects]

theorem nodeLeft_of_poolObjects (enough : (poolObjects config).length ≤ config.kNodesAmount) (intact : Intact stack)
    (operation : Operation) : NodeLeft stack operation := by
  intro isLfo request slot _ _
  by_cases listed : slot ∈ stack.connectionList.toList
  · exact .inl listed
  · have distinct : (slot :: stack.connectionList.toList).Nodup := List.nodup_cons.mpr ⟨listed, intact.coherent.distinct⟩
    have within : (slot :: stack.connectionList.toList).length ≤ (poolObjects config).length :=
      (distinct.subperm fun other _ => mem_poolObjects other).length_le
    rw [List.length_cons] at within
    exact .inr (by omega)

/-- A run from the set-up meets the null node exactly if a Forward Open of it finds no node left. -/
theorem run_nullNode_iff (assemblyData : CipInstanceNum → List CipOctet) (timeout : UInt16)
    (operations : List Operation) :
    operations.foldlM step (Stack.initialized config assemblyData timeout) = .error .nullNode ↔
      ¬ Along step NodeLeft (Stack.initialized config assemblyData timeout) operations := by
  apply foldlM_eq_error_iff Intact ?_ ?_ operations (Intact.initialized assemblyData timeout)
  · intro before operation after intact done
    exact ((step_spec intact operation).returns done).intact intact
  · intro before operation intact
    exact step_nullNode_iff intact operation

open SampleApplication in
/-- Six explicit connections, the exclusive owner and three input-only connections are one too many. -/
def tooManyConnections : List Operation :=
  (List.range 6).map (fun n => .forwardOpen (openExplicit (UInt16.ofNat n))) ++
    [.forwardOpen (openIo 7 (pointToPoint 128) (multicast 128) 101 102),
      .forwardOpen (openIo 8 (pointToPoint 0) (multicast 128) 152 102),
      .forwardOpen (openIo 9 (pointToPoint 0) (multicast 128) 152 102),
      .forwardOpen (openIo 10 (pointToPoint 0) (multicast 128) 152 102)]

theorem pools_exceed_nodes :
    tooManyConnections.foldlM step (SampleApplication.start SampleApplication.configuration) = .error .nullNode := by
  have run : (tooManyConnections.foldlM step (SampleApplication.start SampleApplication.configuration)).map
      (fun _ => ()) = .error .nullNode := by decide +kernel
  exact map_eq_error.mp run

end Stack

end EtherNetIP
