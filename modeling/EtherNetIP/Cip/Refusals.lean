import EtherNetIP.SampleApplication

/-! What a refused Forward Open leaves.

Two steps act before the last check: room is made by closing a timed-out
connection, and configuration data are written. A refusal leaves everything as
it was exactly if the request has come to neither.
-/

set_option autoImplicit false

namespace EtherNetIP

open Library CipConnectionObject

variable {config : Configuration}

section Fits

def carries (config : Configuration) (runIdle : Bool) (object : CipConnectionObject) (instanceId : CipInstanceNum)
    (connectionSize : Nat) : Bool :=
  config.assemblyClass.hasInstance instanceId &&
    (config.assemblyLength instanceId).any fun (length : Nat) =>
      decide ((length : Int) = (dataAndHeaderSize object.getTransportClass runIdle length connectionSize).1)

def consumerFits (config : Configuration) (object : CipConnectionObject) : Bool :=
  object.getOToTConnectionType == .null ||
    carries config config.consumeRunIdle object object.consumedPath.instanceId object.getOToTConnectionSize

end Fits

namespace Stack

variable {stack after : Stack config} {slot : Slot config}

def producerFits (stack : Stack config) (object : CipConnectionObject) : Bool :=
  object.getTToOConnectionType == .null ||
    ((stack.findProducerMismatch object).isNone &&
      carries config config.produceRunIdle object object.producedPath.instanceId object.getTToOConnectionSize)

def passesChecks (stack : Stack config) (request : CipConnectionObject) : Bool :=
  match processProductionInhibitTime request with
  | .error _ => false
  | .ok object => consumerFits config object && stack.producerFits object

section Checks

theorem producerFits_congr (list : after.connectionList.toList = stack.connectionList.toList)
    (same : ∀ other ∈ stack.connectionList.toList, after.object other = stack.object other)
    (object : CipConnectionObject) : after.producerFits object = stack.producerFits object := by
  unfold producerFits
  rw [findProducerMismatch_congr list same]

theorem passesChecks_congr (list : after.connectionList.toList = stack.connectionList.toList)
    (same : ∀ other ∈ stack.connectionList.toList, after.object other = stack.object other)
    (request : CipConnectionObject) : after.passesChecks request = stack.passesChecks request := by
  unfold passesChecks
  cases processProductionInhibitTime request with
  | error extendedStatus => rfl
  | ok object => simp only [producerFits_congr list same]

theorem setupConsumerSide_fits :
    Settles (stack.setupConsumerSide slot)
      (fun after => consumerFits config (stack.object slot) = true ∧
        (after = stack ∨ after = stack.setObject slot (setConsumer (stack.object slot))))
      (fun _ => consumerFits config (stack.object slot) = false) := by
  unfold setupConsumerSide consumerFits
  split
  · rename_i active
    unfold setupIoConnectionOriginatorToTargetConnectionPoint carries
    dsimp only
    split
    · rename_i missing
      simp [connectionFailure, refuse, active, missing]
    · rename_i found
      split
      · rename_i noData
        simp [active, noData]
      · rename_i length data
        split
        · rename_i differs
          simp [connectionFailure, refuse, active, data, differs]
        · rename_i same
          simp only [Bool.not_eq_false] at found
          simp only [not_not] at same
          simp [data, found, ← same]
  · rename_i null
    simp only [not_not] at null
    simp [null]

theorem setupProducerSide_fits :
    Settles (stack.setupProducerSide slot) (fun _ => stack.producerFits (stack.object slot) = true)
      (fun _ => stack.producerFits (stack.object slot) = false) := by
  unfold setupProducerSide producerFits
  split
  · rename_i active
    unfold setupIoConnectionTargetToOriginatorConnectionPoint carries
    dsimp only
    split
    · rename_i mismatch
      simp [connectionFailure, refuse, active, mismatch]
    · rename_i agrees
      split
      · rename_i missing
        simp [connectionFailure, refuse, active, missing]
      · rename_i found
        split
        · rename_i noData
          simp [active, noData]
        · rename_i length data
          split
          · rename_i differs
            simp [connectionFailure, refuse, active, data, differs]
          · rename_i same
            simp only [Bool.not_eq_false] at found
            simp only [not_not] at same
            simp [data, found, agrees, ← same]
  · rename_i null
    simp only [not_not] at null
    simp [null]

theorem prepareIoConnection_fits :
    Settles (stack.prepareIoConnection slot)
      (fun after => ∃ object, processProductionInhibitTime (stack.object slot) = .ok object ∧
        after.connectionList = stack.connectionList ∧ (∀ other, other ≠ slot → after.object other = stack.object other) ∧
        ∃ consumedId producedId, after.object slot =
          clearInstances ((setIoConnectionCallbacks object).generalConfiguration consumedId producedId))
      (fun _ => ∃ extendedStatus, processProductionInhibitTime (stack.object slot) = .error extendedStatus) := by
  unfold prepareIoConnection
  split
  · rename_i extendedStatus failed
    exact ⟨extendedStatus, failed⟩
  · rename_i object done
    obtain ⟨consumedId, producedId, connectionId, general⟩ :=
      (stack.setObject slot (setIoConnectionCallbacks object)).connectionObjectGeneralConfiguration_eq slot
    dsimp only
    rw [general]
    refine ⟨object, done, rfl, fun other differs => ?_, consumedId, producedId, ?_⟩
    · simp [modifyObject, Function.update_of_ne differs]
    · simp [modifyObject]

theorem setupIoConnection_passes (absent : slot ∉ stack.connectionList.toList) :
    Settles (stack.setupIoConnection slot) (fun _ => stack.passesChecks (stack.object slot) = true)
      (fun _ => stack.passesChecks (stack.object slot) = false) := by
  apply Settles.bind (prepareIoConnection_fits.imp (fun _ => id) ?_)
  · rintro prepared ⟨object, processed, list, others, consumedId, producedId, own⟩
    -- nothing that is checked depends on what the earlier steps write
    have checks : stack.passesChecks (stack.object slot) =
        (consumerFits config (prepared.object slot) && prepared.producerFits (prepared.object slot)) := by
      rw [own, producerFits_congr (congrArg ConnectionList.toList list) fun other listed =>
        others other fun same => absent (same ▸ listed)]
      simp only [passesChecks, processed]
      rfl
    rw [checks]
    apply Settles.bind (setupConsumerSide_fits.imp (fun _ => id) fun _ failed => by simp [failed])
    rintro consuming ⟨fits, written⟩
    have sameChecks : consuming.producerFits (consuming.object slot) = prepared.producerFits (prepared.object slot) := by
      obtain rfl | rfl := written
      · rfl
      · have written : ∀ other ∈ prepared.connectionList.toList,
            (prepared.setObject slot (setConsumer (prepared.object slot))).object other = prepared.object other := by
          intro other listed
          rw [list] at listed
          exact Function.update_of_ne (fun same : other = slot => absent (same ▸ listed)) _ _
        have sameList : (prepared.setObject slot (setConsumer (prepared.object slot))).connectionList.toList =
            prepared.connectionList.toList := rfl
        rw [producerFits_congr sameList written, setObject_object, Function.update_self]
        rfl
    rw [fits, ← sameChecks, Bool.true_and]
    exact setupProducerSide_fits
  · rintro stop ⟨extendedStatus, failed⟩
    simp [passesChecks, failed]

end Checks

def overwrites (stack : Stack config) (request : CipConnectionObject) : Prop :=
  stack.passesChecks request = true ∧ ∃ configData, stack.configData = some configData ∧ configData ≠ [] ∧
    stack.connectionWithSameConfigPointExists request.configurationPath.instanceId.toUInt32 = false ∧
    config.assemblyLength request.configurationPath.instanceId = some configData.length ∧
    stack.assemblyData request.configurationPath.instanceId ≠ configData

def Meddles (stack : Stack config) : Prop :=
  ∃ choice instanceType, stack.chooseIoConnection stack.dummy = .ok (choice, instanceType) ∧
    (choice.slot ∈ stack.connectionList.toList ∨ stack.overwrites (stack.dummy.setInstanceType instanceType))

section Assemblies

variable {choice : SlotChoice config} {instanceType : ConnectionObjectInstanceType} {room : Stack config}

/-- With an object that is not listed the refusal changes the assemblies exactly if the data are overwritten. -/
theorem assembliesOfRefusal_eq_iff (coherent : Coherent stack) (pristine : Pristine stack.dummy)
    (chosen : stack.chooseIoConnection stack.dummy = .ok (choice, instanceType))
    (absent : choice.slot ∉ stack.connectionList.toList) (made : stack.makeRoom choice = .ok room) :
    stack.assembliesOfRefusal = stack.assemblyData ↔
      ¬ stack.overwrites (stack.dummy.setInstanceType instanceType) := by
  let request := stack.dummy.setInstanceType instanceType
  let copied := room.copied choice.slot request
  change stack.assembliesOfRefusal = stack.assemblyData ↔ ¬ stack.overwrites request
  have roomDummy : room.dummy = stack.dummy := ((makeRoom_spec coherent chosen).returns made).1.dummy
  obtain ⟨sameList, others⟩ := makeRoom_unlisted coherent absent made
  obtain ⟨assemblyData, configData⟩ := makeRoom_data coherent made
  have setUp : stack.setUpIoConnection =
      copied.setupIoConnection choice.slot >>= fun stack => .ok (choice.slot, stack) := by
    unfold setUpIoConnection
    rw [getIoConnectionForConnectionData_eq, chosen]
    simp only [made, orStop, ok_bind, roomDummy]
    rfl
  have copy : copied.object choice.slot = request := by
    simp [copied, Stack.copied, connectionObjectDeepCopy]
  have sameList : copied.connectionList.toList = stack.connectionList.toList := sameList
  have sameObjects : ∀ other ∈ stack.connectionList.toList, copied.object other = stack.object other := by
    intro other listed
    have differs : other ≠ choice.slot := fun same => absent (same ▸ listed)
    rw [← others other differs]
    simp [copied, Stack.copied, connectionObjectDeepCopy, Function.update_of_ne differs]
  have checks : copied.passesChecks (copied.object choice.slot) = stack.passesChecks request := by
    rw [copy]
    exact passesChecks_congr sameList sameObjects request
  have unlisted : choice.slot ∉ copied.connectionList.toList := by
    rw [sameList]
    exact absent
  have passes := setupIoConnection_passes unlisted
  have requestState : (copied.object choice.slot).state = .nonExistent := by
    rw [copy]
    exact (pristine.of_write (·.setInstanceType instanceType) rfl).state
  unfold assembliesOfRefusal
  rw [setUp]
  cases done : copied.setupIoConnection choice.slot with
  | error stop =>
      have fails := passes.raises done
      rw [checks] at fails
      simp [overwrites, fails]
  | ok reached =>
      obtain ⟨stage, _⟩ := (setupIoConnection_spec requestState).returns done
      have passed : stack.passesChecks request = true := by
        rw [← checks]
        exact passes.returns done
      have path : (reached.object choice.slot).configurationPath = request.configurationPath := by
        rw [← copy]
        exact (stage.serves.eq (·.configurationPath) fun _ => rfl).symm
      have reachedAssemblies : reached.assemblyData = stack.assemblyData := stage.assemblyData.trans assemblyData
      have reachedConfigData : reached.configData = stack.configData := stage.configData.trans configData
      -- the object that is set up is not listed, so nobody new uses the configuration point
      have used (configPoint : UInt32) : reached.connectionWithSameConfigPointExists configPoint =
          stack.connectionWithSameConfigPointExists configPoint := by
        unfold connectionWithSameConfigPointExists
        rw [stage.list, sameList, Bool.eq_iff_iff, List.any_eq_true, List.any_eq_true]
        refine exists_congr fun other => and_congr_right fun listed => ?_
        have differs : other ≠ choice.slot := fun same => absent (same ▸ listed)
        rw [stage.others other differs, sameObjects other listed]
      simp only [ok_bind, configuredAssemblies, reachedConfigData, reachedAssemblies, writesConfigData, path, used]
      simp only [overwrites, passed, true_and]
      cases stack.configData with
      | none => simp
      | some configData =>
          simp only [Option.some.injEq, exists_eq_left']
          split
          · rename_i writes
            rw [Function.update_eq_self_iff]
            obtain ⟨nonempty, unused, fits⟩ := writes
            simp [nonempty, unused, fits, eq_comm]
          · rename_i kept
            tauto

end Assemblies

structure Unchanged (before after : Stack config) : Prop where
  list : after.connectionList.toList = before.connectionList.toList
  objects : ∀ slot ∈ before.connectionList.toList, after.object slot = before.object slot
  assemblies : after.assemblyData = before.assemblyData

theorem Unchanged.of_table (list : after.connectionList = stack.connectionList) (object : after.object = stack.object)
    (assemblies : after.assemblyData = stack.assemblyData) : Unchanged stack after :=
  ⟨by rw [list], fun slot _ => by rw [object], assemblies⟩

theorem unchanged_congr {before beforeToo afterToo : Stack config} (list : beforeToo.connectionList = before.connectionList)
    (object : beforeToo.object = before.object) (assemblies : beforeToo.assemblyData = before.assemblyData)
    (listAfter : afterToo.connectionList = after.connectionList) (objectAfter : afterToo.object = after.object)
    (assembliesAfter : afterToo.assemblyData = after.assemblyData) :
    Unchanged beforeToo afterToo ↔ Unchanged before after := by
  constructor
  · rintro ⟨sameList, sameObjects, sameAssemblies⟩
    rw [list, listAfter] at sameList
    rw [list, object, objectAfter] at sameObjects
    rw [assemblies, assembliesAfter] at sameAssemblies
    exact ⟨sameList, sameObjects, sameAssemblies⟩
  · rintro ⟨sameList, sameObjects, sameAssemblies⟩
    rw [← list, ← listAfter] at sameList
    rw [← list, ← object, ← objectAfter] at sameObjects
    rw [← assemblies, ← assembliesAfter] at sameAssemblies
    exact ⟨sameList, sameObjects, sameAssemblies⟩

section Refused

variable {asked : Stack config} {isLfo : Bool} {request : Request} {response : Response}

theorem unchanged_iff_of_turnedDown (coherent : Coherent asked) (pristine : Pristine asked.dummy)
    (turnedDown : TurnedDown asked after) (assemblies : after.assemblyData = asked.assembliesOfRefusal) :
    Unchanged asked after ↔ ¬ Meddles asked := by
  cases turnedDown with
  | unselected nothing list object =>
      have noSetUp : asked.assembliesOfRefusal = asked.assemblyData := by
        unfold assembliesOfRefusal setUpIoConnection
        rw [getIoConnectionForConnectionData_eq]
        cases chosen : asked.chooseIoConnection asked.dummy with
        | error refusal => rfl
        | ok selected => exact absurd chosen (nothing selected)
      constructor
      · rintro _ ⟨choice, instanceType, chosen, _⟩
        exact nothing _ chosen
      · exact fun _ => Unchanged.of_table list object (assemblies.trans noSetUp)
  | selected choice instanceType room chosen made list others =>
      have only {otherChoice : SlotChoice config} {otherType : ConnectionObjectInstanceType}
          (alsoChosen : asked.chooseIoConnection asked.dummy = .ok (otherChoice, otherType)) :
          otherChoice = choice ∧ otherType = instanceType := by
        rw [chosen] at alsoChosen
        cases alsoChosen
        exact ⟨rfl, rfl⟩
      by_cases listed : choice.slot ∈ asked.connectionList.toList
      · have gone := ((makeRoom_spec coherent chosen).returns made).2
        constructor
        · intro unchanged
          rw [← unchanged.list, list] at listed
          exact absurd listed gone
        · exact fun spares => absurd ⟨choice, instanceType, chosen, .inl listed⟩ spares
      · obtain ⟨sameList, sameObjects⟩ := makeRoom_unlisted coherent listed made
        have configured := assembliesOfRefusal_eq_iff coherent pristine chosen listed made
        constructor
        · rintro unchanged ⟨otherChoice, otherType, alsoChosen, meddles⟩
          obtain ⟨rfl, rfl⟩ := only alsoChosen
          obtain taken | overwritten := meddles
          · exact listed taken
          · exact configured.mp (assemblies.symm.trans unchanged.assemblies) overwritten
        · intro spares
          have kept := configured.mpr fun overwritten => spares ⟨choice, instanceType, chosen, .inr overwritten⟩
          refine ⟨by rw [list, sameList], fun other member => ?_, assemblies.trans kept⟩
          have differs : other ≠ choice.slot := fun same => listed (same ▸ member)
          rw [others other differs, sameObjects other differs]

theorem refused_of_answer {opened : Except (Stop config) (Stack config)}
    (answered : answerForwardOpen opened = .ok (response, after)) (refused : response.generalStatus ≠ kCipErrorSuccess) :
    ∃ refusal left, opened = .error (.refused refusal left) ∧
      after = { left with dummy := left.dummy.setState .nonExistent } := by
  unfold answerForwardOpen at answered
  split at answered
  · cases answered
  · rename_i refusal left
    cases answered
    exact ⟨refusal, left, rfl, rfl⟩
  · split at answered
    · cases answered
    · cases answered
      exact absurd rfl refused

theorem establishClass3Connection_refused {refusal : Refusal} {left : Stack config}
    (refused : asked.establishClass3Connection = .error (.refused refusal left)) : left = asked := by
  unfold establishClass3Connection at refused
  split at refused
  · cases refused
    rfl
  · dsimp only at refused
    generalize addNewActiveConnection _ _ = listing at refused
    cases listing with
    | error fault => cases refused
    | ok listed => cases refused

def RequestMeddles (isLfo : Bool) (request : Request) (stack : Stack config) : Prop :=
  ∃ asked, stack.admitted isLfo request = some asked ∧
    config.connectionManagementList.lookup asked.dummy.configurationPath.classId = some (some .establishIoConnection) ∧
    Meddles asked

/-- A refused request has changed nothing exactly if it does not meddle. -/
theorem refusal_changes_nothing_iff (intact : Intact stack)
    (answered : stack.forwardOpenRoutine isLfo request = .ok (response, after))
    (refused : response.generalStatus ≠ kCipErrorSuccess) :
    Unchanged stack after ↔ ¬ RequestMeddles isLfo request stack := by
  cases admission : stack.admitted isLfo request with
  | none =>
      have reads : Reads stack after := (forwardOpenRoutine_turnedAway intact.pristine admission).returns answered
      constructor
      · rintro _ ⟨asked, admitted, _⟩
        rw [admission] at admitted
        cases admitted
      · exact fun _ => Unchanged.of_table reads.table.1 reads.table.2 reads.assemblyData
  | some asked =>
      obtain ⟨⟨same, sameAssemblies, pristine⟩, router⟩ := admitted_spec intact.pristine admission
      have coherent : Coherent asked := intact.coherent.of_same_table same.1 same.2
      rw [forwardOpenRoutine_admitted admission] at answered
      obtain ⟨refusal, left, opened, rfl⟩ := refused_of_answer answered refused
      have onAsked : Unchanged stack { left with dummy := left.dummy.setState .nonExistent } ↔ Unchanged asked left :=
        unchanged_congr same.1.symm same.2.symm sameAssemblies.symm rfl rfl rfl
      have meddles : RequestMeddles isLfo request stack ↔
          config.connectionManagementList.lookup asked.dummy.configurationPath.classId =
            some (some .establishIoConnection) ∧ Meddles asked := by
        simp [RequestMeddles, admission]
      rw [onAsked, meddles]
      unfold openConnection at opened
      split at opened
      · rename_i unknown
        cases opened
        simp [unknown, Unchanged.of_table]
      · cases opened
      · rename_i explicit
        obtain rfl := establishClass3Connection_refused opened
        simp [explicit, Unchanged.of_table]
      · rename_i io
        have notClass3 : asked.dummy.getTransportClass ≠ .class3 := by
          intro class3
          have both := (router class3).symm.trans (connectionManagementList_io io)
          simp [kCipMessageRouterClassCode, kCipAssemblyClassCode] at both
        obtain ⟨_, turnedDown, assemblies⟩ :=
          (establishIoConnection_spec coherent pristine notClass3).raises opened
        rw [unchanged_iff_of_turnedDown coherent pristine turnedDown assemblies]
        simp [io]

end Refused

section WrongSize

open SampleApplication

def wrongSize : Request := openIo 2 (pointToPoint 128) (pointToPoint 64) 101 102

def refusedWith (request : Request) (stack : Stack config) (test : Stack config → Bool) : Bool :=
  match stack.forwardOpenRoutine false request with
  | .error _ => false
  | .ok (response, after) => decide (response.generalStatus ≠ kCipErrorSuccess) && test after

theorem exists_of_refusedWith {request : Request} {test : Stack config → Bool}
    (passes : refusedWith request stack test = true) : ∃ response after,
      stack.forwardOpenRoutine false request = .ok (response, after) ∧
      response.generalStatus ≠ kCipErrorSuccess ∧ test after = true := by
  unfold refusedWith at passes
  split at passes
  · cases passes
  · rename_i response after answered
    rw [Bool.and_eq_true, decide_eq_true_eq] at passes
    exact ⟨response, after, answered, passes⟩

/-- The owner timed out; a request that is refused for its size closes its connection. -/
theorem refusal_closes_timed_out : ∃ stack : Stack configuration, Reached stack ∧ ∃ response after,
    stack.forwardOpenRoutine false wrongSize = .ok (response, after) ∧
    response.generalStatus ≠ kCipErrorSuccess ∧ ¬ Unchanged stack after := by
  have run : ends [.forwardOpen (openIo 1 (pointToPoint 128) (pointToPoint 128) 101 102), timeOut]
      (fun stack : Stack configuration => refusedWith wrongSize stack fun after =>
        decide (after.connectionList.toList ≠ stack.connectionList.toList)) = true := by decide +kernel
  obtain ⟨stack, reached, tested⟩ := exists_of_ends run
  obtain ⟨response, after, answered, refused, changed⟩ := exists_of_refusedWith tested
  exact ⟨stack, reached, response, after, answered, refused, fun unchanged =>
    of_decide_eq_true changed unchanged.list⟩

def failsCheck (request : Request) (stack : Stack config) : Bool :=
  match stack.admitted false request with
  | none => false
  | some asked =>
      match asked.chooseIoConnection asked.dummy with
      | .error _ => false
      | .ok (choice, instanceType) =>
          decide (choice.slot ∉ asked.connectionList.toList) &&
            !asked.passesChecks (asked.dummy.setInstanceType instanceType)

theorem not_meddles_of_failsCheck {request : Request} (fails : failsCheck request stack = true) :
    ¬ RequestMeddles false request stack := by
  unfold failsCheck at fails
  split at fails
  · cases fails
  · rename_i asked admission
    split at fails
    · cases fails
    · rename_i choice instanceType chosen
      rw [Bool.and_eq_true, decide_eq_true_eq, Bool.not_eq_true'] at fails
      rintro ⟨other, admitted, _, otherChoice, otherType, alsoChosen, meddles⟩
      cases admission.symm.trans admitted
      cases chosen.symm.trans alsoChosen
      obtain listed | ⟨passes, _⟩ := meddles
      · exact fails.1 listed
      · rw [passes] at fails
        cases fails.2

/-- The same request leaves a table alone in which nothing has timed out. -/
theorem refusal_changes_nothing_sample : ∃ stack : Stack configuration, Reached stack ∧ ∃ response after,
    stack.forwardOpenRoutine false wrongSize = .ok (response, after) ∧
    response.generalStatus ≠ kCipErrorSuccess ∧ Unchanged stack after := by
  have run : ends [.forwardOpen (openExplicit 1)] (fun stack : Stack configuration =>
      failsCheck wrongSize stack && refusedWith wrongSize stack fun _ => true) = true := by decide +kernel
  obtain ⟨stack, reached, tested⟩ := exists_of_ends run
  rw [Bool.and_eq_true] at tested
  obtain ⟨response, after, answered, refused, _⟩ := exists_of_refusedWith tested.2
  exact ⟨stack, reached, response, after, answered, refused,
    (refusal_changes_nothing_iff reached.intact answered refused).mpr (not_meddles_of_failsCheck tested.1)⟩

end WrongSize

end Stack

end EtherNetIP
