import EtherNetIP.Cip.Identification
import EtherNetIP.Cip.NodeSupply
import EtherNetIP.Cip.Refusals

/-! Identifiers for consumption.

Received packets find their connection by the identifier alone. The target
counts the identifiers it chooses in 16 bits and never looks whether one is
still in use, and the identifier of a connection without consumption is left to
the originator. Identifiers stay unique exactly while no connection is opened
with one that an established connection has.
-/

set_option autoImplicit false

namespace EtherNetIP

open Library CipConnectionObject

variable {config : Configuration}

namespace Stack

variable {stack asked before after : Stack config} {isLfo : Bool} {request : Request} {response : Response}
  {operation : Operation}

/-- No two established connections have the same identifier for consumption. -/
def UniqueConsumedIds (stack : Stack config) : Prop :=
  ∀ first second, (stack.object first).state = .established → (stack.object second).state = .established →
    (stack.object first).cipConsumedConnectionId = (stack.object second).cipConsumedConnectionId → first = second

/-- With unique identifiers a packet reaches the connection it is addressed to. -/
theorem getConnectedObject_iff (coherent : Coherent stack) (unique : UniqueConsumedIds stack) {connectionId : UInt32}
    {slot : Slot config} :
    stack.getConnectedObject connectionId = some slot ↔
      (stack.object slot).state = .established ∧ connectionId = (stack.object slot).cipConsumedConnectionId := by
  constructor
  · intro found
    simpa using (findConnection_mem found).2
  · rintro ⟨established, addressed⟩
    have listed := (coherent.mem_iff slot).mpr (.inl established)
    cases found : stack.getConnectedObject connectionId with
    | none =>
        have missed := findConnection_eq_none_iff.mp found slot listed
        simp [established, addressed] at missed
    | some other =>
        have passes := (findConnection_mem found).2
        simp only [Bool.and_eq_true, beq_iff_eq] at passes
        rw [unique other slot passes.1 established (passes.2.symm.trans addressed)]

def roomFor (asked : Stack config) : Stack config :=
  match config.connectionManagementList.lookup asked.dummy.configurationPath.classId with
  | some (some .establishIoConnection) =>
      match asked.chooseIoConnection asked.dummy with
      | .error _ => asked
      | .ok (choice, _) =>
          match asked.makeRoom choice with
          | .error _ => asked
          | .ok room => room
  | _ => asked

/-- A request that is accepted does not get the identifier of a connection that stays established. -/
def IdentifierLeft (stack : Stack config) (operation : Operation) : Prop :=
  ∀ isLfo request asked, operation.openRequest = some (isLfo, request) → stack.admitted isLfo request = some asked →
    asked.selects request.network ≠ none → ∀ other, (asked.roomFor.object other).state = .established →
      (asked.roomFor.object other).cipConsumedConnectionId ≠ asked.consumedIdFor asked.dummy

structure Joins (asked after : Stack config) (slot : Slot config) : Prop where
  established : (after.object slot).state = .established
  consumedId : (after.object slot).cipConsumedConnectionId = asked.consumedIdFor asked.dummy
  absent : (asked.roomFor.object slot).state ≠ .established
  state : ∀ other, other ≠ slot → (after.object other).state = (asked.roomFor.object other).state
  others : ∀ other, other ≠ slot →
    (after.object other).cipConsumedConnectionId = (asked.roomFor.object other).cipConsumedConnectionId
  aged : ∀ other, (asked.roomFor.object other).state = .established → (asked.object other).state = .established ∧
    (asked.roomFor.object other).cipConsumedConnectionId = (asked.object other).cipConsumedConnectionId

theorem ExplicitOpened.joins {slot : Slot config} {connectionList : ConnectionList config.kNodesAmount (Slot config)}
    (coherent : Coherent asked)
    (entry : config.connectionManagementList.lookup asked.dummy.configurationPath.classId =
      some (some .establishClass3Connection))
    (opened : ExplicitOpened asked after slot connectionList) : Joins asked after slot := by
  have room : asked.roomFor = asked := by rw [roomFor, entry]
  have entered := opened.entered coherent
  have others (other : Slot config) (differs : other ≠ slot) : after.object other = asked.object other := by
    rw [opened.after]
    exact Function.update_of_ne differs _ asked.object
  refine ⟨entered.established, entered.consumedId, ?_, fun other differs => ?_, fun other differs => ?_, ?_⟩
  · rw [room, (getFreeExplicitConnection_spec opened.free).2]
    simp
  · rw [room, others other differs]
  · rw [room, others other differs]
  · rw [room]
    exact fun other established => ⟨established, rfl⟩

theorem IoOpening.Ends.joins {opening : IoOpening config} {network : Network} (coherent : Coherent asked)
    (pristine : Pristine asked.dummy)
    (entry : config.connectionManagementList.lookup asked.dummy.configurationPath.classId =
      some (some .establishIoConnection))
    (ends : opening.Ends asked network after) : Joins asked after opening.choice.slot := by
  have room : asked.roomFor = opening.room := by
    simp only [roomFor, entry, ends.chosen, ends.made]
  have entered := ends.entered coherent pristine
  have kept (other : Slot config) (differs : other ≠ opening.choice.slot) :
      after.object other = opening.room.object other ∨
        after.object other = releaseProducingSocket (opening.room.object other) := by
    rw [ends.object, Function.update_of_ne differs]
    exact ends.others pristine differs
  refine ⟨entered.established, entered.consumedId, ?_, fun other differs => ?_, fun other differs => ?_,
    fun other established => ?_⟩
  · rw [room, ends.continues.coherent.unlisted _ ends.absent]
    simp
  · rw [room]
    rcases kept other differs with same | released
    · rw [same]
    · rw [released]
      rfl
  · rw [room]
    rcases kept other differs with same | released
    · rw [same]
    · rw [released]
      rfl
  · rw [room] at established ⊢
    have listed := (ends.continues.coherent.mem_iff other).mpr (.inl established)
    exact ⟨ends.continues.aged other listed established,
      ((ends.continues.same other listed).eq (·.cipConsumedConnectionId) fun _ => rfl).symm⟩

/-- Opening a connection keeps identifiers unique exactly if its own is not in use. -/
theorem Joins.unique_iff {slot : Slot config} (joins : Joins asked after slot) (unique : UniqueConsumedIds asked) :
    UniqueConsumedIds after ↔ ∀ other, (asked.roomFor.object other).state = .established →
      (asked.roomFor.object other).cipConsumedConnectionId ≠ asked.consumedIdFor asked.dummy := by
  constructor
  · intro stillUnique other established same
    by_cases isNew : other = slot
    · subst isNew
      exact joins.absent established
    · rw [← joins.state other isNew] at established
      rw [← joins.others other isNew, ← joins.consumedId] at same
      exact isNew (stillUnique other slot established joins.established same)
  · intro left first second established established' same
    by_cases isFirst : first = slot
    · subst isFirst
      by_contra differs
      rw [joins.state second (Ne.symm differs)] at established'
      rw [joins.consumedId, joins.others second (Ne.symm differs)] at same
      exact left second established' same.symm
    · rw [joins.state first isFirst] at established
      rw [joins.others first isFirst] at same
      by_cases isSecond : second = slot
      · subst isSecond
        rw [joins.consumedId] at same
        exact absurd same (left first established)
      · rw [joins.state second isSecond] at established'
        rw [joins.others second isSecond] at same
        obtain ⟨was, sameId⟩ := joins.aged first established
        obtain ⟨was', sameId'⟩ := joins.aged second established'
        exact unique first second was was' (sameId.symm.trans (same.trans sameId'))

theorem uniqueConsumedIds_continues {spared : Slot config → Prop} (continues : Continues spared before after)
    (unique : UniqueConsumedIds before) : UniqueConsumedIds after := by
  have kept (slot : Slot config) (established : (after.object slot).state = .established) :
      (before.object slot).state = .established ∧
        (before.object slot).cipConsumedConnectionId = (after.object slot).cipConsumedConnectionId := by
    have listed := (continues.coherent.mem_iff slot).mpr (.inl established)
    exact ⟨continues.aged slot listed established, (continues.same slot listed).eq (·.cipConsumedConnectionId) fun _ => rfl⟩
  intro first second established established' same
  obtain ⟨was, sameId⟩ := kept first established
  obtain ⟨was', sameId'⟩ := kept second established'
  exact unique first second was was' (sameId.trans (same.trans sameId'.symm))

theorem not_refused_of_selects {network : Network} (selected : asked.selects network ≠ none) {refusal : Refusal}
    {left : Stack config} : asked.openConnection network ≠ .error (.refused refusal left) := by
  intro refused
  unfold selects at selected
  unfold openConnection at refused
  generalize config.connectionManagementList.lookup asked.dummy.configurationPath.classId = entry at selected refused
  obtain _ | _ | _ | _ := entry
  · exact selected rfl
  · exact selected rfl
  · dsimp only at selected refused
    unfold establishClass3Connection at refused
    cases free : asked.getFreeExplicitConnection with
    | none => exact selected free
    | some slot =>
        rw [free] at refused
        dsimp only at refused
        generalize addNewActiveConnection _ _ = listing at refused
        cases listing with
        | error fault => cases refused
        | ok listed => cases refused
  · dsimp only at selected refused
    unfold establishIoConnection at refused
    cases opened : asked.openIoConnection network with
    | error stop =>
        rw [opened] at selected
        exact selected rfl
    | ok result =>
        rw [opened, ok_bind] at refused
        dsimp only at refused
        rcases bind_eq_error.mp refused with failed | ⟨listed, _, failed⟩
        · generalize addNewActiveConnection _ _ = listing at failed
          cases listing with
          | error fault => cases failed
          | ok listed => cases failed
        · cases failed

theorem uniqueConsumedIds_step_iff (intact : Intact before) (unique : UniqueConsumedIds before)
    (done : before.step operation = .ok after) : UniqueConsumedIds after ↔ IdentifierLeft before operation := by
  -- only a Forward Open gives a connection an identifier
  cases opens : operation.openRequest with
  | none =>
      have continues := ((step_proceeds intact.coherent opens).returns done).continues intact.coherent
      have kept := uniqueConsumedIds_continues continues unique
      refine ⟨fun _ => ?_, fun _ => kept⟩
      intro isLfo request asked opened
      rw [opens] at opened
      cases opened
  | some asking =>
      obtain ⟨isLfo, request⟩ := asking
      rw [step_openRequest opens] at done
      cases answered : before.forwardOpenRoutine isLfo request with
      | error fault =>
          rw [answered] at done
          cases done
      | ok result =>
          obtain ⟨response, reached⟩ := result
          rw [answered] at done
          cases done
          have left_iff : IdentifierLeft before operation ↔ ∀ asked, before.admitted isLfo request = some asked →
              asked.selects request.network ≠ none → ∀ other, (asked.roomFor.object other).state = .established →
                (asked.roomFor.object other).cipConsumedConnectionId ≠ asked.consumedIdFor asked.dummy := by
            simp only [IdentifierLeft, opens, Option.some.injEq, Prod.mk.injEq]
            constructor
            · exact fun left asked admission => left isLfo request asked ⟨rfl, rfl⟩ admission
            · rintro left _ _ asked ⟨rfl, rfl⟩ admission
              exact left asked admission
          rw [left_iff]
          cases forwardOpenRoutine_ok intact answered with
          | refused failure leaves =>
              have kept : UniqueConsumedIds ({ reached with dummy := before.dummy } : Stack config) :=
                uniqueConsumedIds_continues leaves.continues unique
              refine ⟨fun _ asked admission selected => ?_, fun _ => kept⟩
              rw [forwardOpenRoutine_admitted admission] at answered
              obtain ⟨refusal, left, refused, _⟩ := refused_of_answer answered failure
              exact absurd refused (not_refused_of_selects selected)
          | accepted asked admission opened head first reply =>
              obtain ⟨⟨same, _, pristine⟩, _⟩ := admitted_spec intact.pristine admission
              have coherent : Coherent asked := intact.coherent.of_same_table same.1 same.2
              have uniqueAsked : UniqueConsumedIds asked := by
                unfold UniqueConsumedIds
                rw [same.2]
                exact unique
              -- there is one stack the request can be admitted to
              have only : (∀ other, before.admitted isLfo request = some other → other.selects request.network ≠ none →
                  ∀ slot, (other.roomFor.object slot).state = .established →
                    (other.roomFor.object slot).cipConsumedConnectionId ≠ other.consumedIdFor other.dummy) ↔
                  (asked.selects request.network ≠ none → ∀ slot, (asked.roomFor.object slot).state = .established →
                    (asked.roomFor.object slot).cipConsumedConnectionId ≠ asked.consumedIdFor asked.dummy) := by
                simp [admission]
              rw [only]
              cases opened with
              | nothing entry kept =>
                  have none_ : asked.selects request.network = none := by rw [selects, entry]
                  rw [kept]
                  exact ⟨fun _ selected => absurd none_ selected, fun _ => uniqueAsked⟩
              | explicit entry slot connectionList explicit =>
                  have selected : asked.selects request.network ≠ none := by
                    rw [selects, entry, explicit.free]
                    simp
                  rw [(explicit.joins coherent entry).unique_iff uniqueAsked]
                  exact ⟨fun left _ => left, fun left => left selected⟩
              | io entry opening ends =>
                  have selected : asked.selects request.network ≠ none := by
                    simp [selects, entry, ends.reached]
                  rw [(ends.joins coherent pristine entry).unique_iff uniqueAsked]
                  exact ⟨fun left _ => left, fun left => left selected⟩

theorem uniqueConsumedIds_initialized (assemblyData : CipInstanceNum → List CipOctet) (timeout : UInt16) :
    UniqueConsumedIds (Stack.initialized config assemblyData timeout) := by
  intro first second established
  cases established

/-- The run rule: while no request is accepted with an identifier in use, identifiers are unique. -/
theorem uniqueConsumedIds_along (assemblyData : CipInstanceNum → List CipOctet) (timeout : UInt16)
    {operations : List Operation}
    (along : Along step IdentifierLeft (Stack.initialized config assemblyData timeout) operations)
    (run : operations.foldlM step (Stack.initialized config assemblyData timeout) = .ok stack) :
    UniqueConsumedIds stack := by
  have start : Intact (Stack.initialized config assemblyData timeout) ∧
      UniqueConsumedIds (Stack.initialized config assemblyData timeout) :=
    ⟨Intact.initialized assemblyData timeout, uniqueConsumedIds_initialized assemblyData timeout⟩
  have kept : Settles (operations.foldlM step (Stack.initialized config assemblyData timeout))
      (fun reached => Intact reached ∧ UniqueConsumedIds reached) (fun _ => True) := by
    refine Along.settles ?_ start along
    rintro before operation ⟨intact, unique⟩ left
    apply (step_spec intact operation).attach.imp
    · rintro after ⟨done, stepped⟩
      exact ⟨stepped.intact intact, (uniqueConsumedIds_step_iff intact unique done).mpr left⟩
    · exact fun _ _ => trivial
  exact (kept.returns run).2

def leavesIdentifier (stack : Stack config) (operation : Operation) : Bool :=
  match operation.openRequest with
  | none => true
  | some (isLfo, request) =>
      match stack.admitted isLfo request with
      | none => true
      | some asked =>
          (asked.selects request.network).isNone || (poolObjects config).all fun other =>
            (asked.roomFor.object other).state != .established ||
              (asked.roomFor.object other).cipConsumedConnectionId != asked.consumedIdFor asked.dummy

theorem identifierLeft_of_test (stack : Stack config) (operation : Operation)
    (leaves : stack.leavesIdentifier operation = true) : IdentifierLeft stack operation := by
  intro isLfo request asked opens admission selected other established
  unfold leavesIdentifier at leaves
  simp only [opens, admission, Bool.or_eq_true, Option.isNone_iff_eq_none, List.all_eq_true, bne_iff_ne] at leaves
  rcases leaves with nothing | apart
  · exact absurd nothing selected
  · exact (apart other (mem_poolObjects other)).resolve_left (not_not.mpr established)

section Originator

open SampleApplication

/-- Three connections whose identifiers the target chooses. -/
theorem uniqueConsumedIds_sample : ∃ stack : Stack configuration,
    stack.connectionList.toList.length = 3 ∧ UniqueConsumedIds stack := by
  let operations : List Operation := [.forwardOpen (openExplicit 1), .forwardOpen (openExplicit 2),
    .forwardOpen (openIo 3 (pointToPoint 128) (pointToPoint 128) 101 102)]
  have meets : Along step IdentifierLeft (start configuration) operations :=
    Along.of_test identifierLeft_of_test (by decide +kernel)
  have three : (operations.foldlM step (start configuration)).toOption.any
      (fun stack => decide (stack.connectionList.toList.length = 3)) = true := by decide +kernel
  cases run : operations.foldlM step (start configuration) with
  | error fault =>
      rw [run] at three
      cases three
  | ok stack =>
      rw [run] at three
      exact ⟨stack, of_decide_eq_true three, uniqueConsumedIds_along _ _ meets run⟩

/-- An explicit connection without consumption; its identifier is the one the originator sends, zero. -/
def openProducingExplicit (connectionSerialNumber : UInt16) : Request :=
  openRequest connectionSerialNumber 0x03F8 0x43F8 0xA3 [0x20, 0x02, 0x24, 0x01]

/-- Two established connections answer to the identifier zero. -/
theorem originator_repeats_id : ∃ stack : Stack configuration, Reached stack ∧ ¬ UniqueConsumedIds stack := by
  have run : ends [.forwardOpen (openProducingExplicit 1), .forwardOpen (openProducingExplicit 2)]
      (fun stack : Stack configuration => decide (∃ first ∈ stack.connectionList.toList,
        ∃ second ∈ stack.connectionList.toList, first ≠ second ∧ (stack.object first).state = .established ∧
          (stack.object second).state = .established ∧
          (stack.object first).cipConsumedConnectionId = (stack.object second).cipConsumedConnectionId)) = true := by
    decide +kernel
  obtain ⟨stack, reached, two⟩ := exists_of_ends run
  obtain ⟨first, _, second, _, differs, established, established', same⟩ := of_decide_eq_true two
  exact ⟨stack, reached, fun unique => differs (unique first second established established' same)⟩

end Originator

end Stack

end EtherNetIP
