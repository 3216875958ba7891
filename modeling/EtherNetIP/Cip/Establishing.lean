import EtherNetIP.Cip.Opening

/-! What establishing a connection does to a coherent table.

The selected object is never listed once room has been made. A refused attempt
leaves a table that goes on from the one before, at most without timed-out
connections; an accepted one puts a single opened connection in front of it.
-/

set_option autoImplicit false

namespace EtherNetIP

open Library CipConnectionObject

variable {config : Configuration}

section Results

variable {slot : Slot config} {before after : Stack config}

/-- The buffer object is pristine in what a refusal leaves, and the table goes on from the one before. -/
structure Leaves (before after : Stack config) : Prop where
  continues : Continues (fun _ => False) before { after with dummy := before.dummy }
  pristine : Pristine after.dummy

structure Enlarges (before after : Stack config) (slot : Slot config) : Prop where
  coherent : Coherent after
  list : ∃ rest, after.connectionList.toList = slot :: rest ∧ rest.Sublist before.connectionList.toList
  same : ∀ other ∈ after.connectionList.toList, other ≠ slot →
    SameConnection (before.object other) (after.object other)
  pristine : Pristine after.dummy

theorem Leaves.of_table (coherent : Coherent before) (unlisted : slot ∉ before.connectionList.toList)
    (list : after.connectionList = before.connectionList)
    (others : ∀ other, other ≠ slot → after.object other = before.object other)
    (state : (after.object slot).state = .nonExistent)
    (quiet : (after.object slot).connectionCloseFunction ≠ none →
      (after.object slot).producingSocket = kEipInvalidSocket) (pristine : Pristine after.dummy) :
    Leaves before after := by
  have written : after.object = Function.update before.object slot (after.object slot) := by
    funext other
    by_cases same : other = slot
    · subst same
      rw [Function.update_self]
    · rw [Function.update_of_ne same, others other same]
  have table : ({ after with dummy := before.dummy } : Stack config).connectionList = before.connectionList := list
  refine ⟨⟨?_, ?_, fun other member => ?_, fun other member _ => ?_, fun other member established => ?_, rfl⟩,
    pristine⟩
  · exact (coherent.setObject_unlisted unlisted state quiet).of_same_table list written
  · rw [table]
  · have differs : other ≠ slot := by
      rintro rfl
      exact unlisted (table ▸ member)
    change SameConnection (before.object other) (after.object other)
    rw [others other differs]
    rfl
  · rw [table]
    exact member
  · have differs : other ≠ slot := by
      rintro rfl
      exact unlisted (table ▸ member)
    rwa [show ({ after with dummy := before.dummy } : Stack config).object other = before.object other from
      others other differs] at established

theorem Leaves.of_dummy (coherent : Coherent before) {dummy : CipConnectionObject} (pristine : Pristine dummy) :
    Leaves before { before with dummy } :=
  ⟨Continues.refl coherent, pristine⟩

theorem Leaves.after_continues {room : Stack config} (continues : Continues (fun _ => False) before room)
    (leaves : Leaves room after) : Leaves before after where
  continues :=
    { continues.trans leaves.continues with
      coherent := leaves.continues.coherent.of_same_table rfl rfl
      dummy := rfl }
  pristine := leaves.pristine

end Results

namespace Stack

variable {stack : Stack config} {slot : Slot config}

section Selection

variable {choice : SlotChoice config} {instanceType : ConnectionObjectInstanceType}
  {object : CipConnectionObject}

/-- A selected object for which nothing was closed is not listed. For an exclusive owner the search for
a connection with the same input would have found it. -/
theorem chooseIoConnection_free (coherent : Coherent stack)
    (chosen : stack.chooseIoConnection object = .ok (choice, instanceType)) (free : choice.found = none) :
    choice.slot ∉ stack.connectionList.toList := by
  have of_nonExistent (nonExistent : (stack.object choice.slot).state = .nonExistent) :
      choice.slot ∉ stack.connectionList.toList := by
    rw [coherent.mem_iff, nonExistent]
    simp
  obtain ⟨rfl, owner⟩ | ⟨rfl, input⟩ | ⟨rfl, listen⟩ := chooseIoConnection_ok chosen
  · obtain ⟨i, slot, point, nobody, _⟩ := getExclusiveOwnerConnection_ok owner
    rw [free, getConnectedOutputAssembly, findConnection_eq_none_iff] at nobody
    intro listed
    have none_here := nobody choice.slot listed
    have active := coherent.listed choice.slot listed
    have opened := coherent.opened choice.slot listed
    rw [slot] at opened active none_here
    have matching := matchesPoint_iff.mp (List.findFinIdx?_eq_some_iff.mp point).1
    have input : (stack.object (.exclusiveOwner i)).producedPath.instanceId.toUInt32 =
        object.producedPath.instanceId.toUInt32 := (OpenedIo.input opened).trans matching.2.1
    simp [OpenedIo.instanceType opened, input] at none_here
    exact active.elim none_here.1 none_here.2
  · obtain ⟨i, j, _, _, ⟨found, _⟩ | ⟨_, nonExistent⟩⟩ := getInputOnlyConnection_ok input
    · rw [free] at found
      cases found
    · exact of_nonExistent nonExistent
  · obtain ⟨i, j, _, _, ⟨found, _⟩ | ⟨_, nonExistent⟩⟩ := getListenOnlyConnection_ok listen
    · rw [free] at found
      cases found
    · exact of_nonExistent nonExistent

theorem connectionCloseFunction_unlisted (coherent : Coherent stack) (absent : slot ∉ stack.connectionList.toList)
    (callable : (stack.object slot).connectionCloseFunction ≠ none) :
    ∃ after, stack.connectionCloseFunction slot = .ok after ∧ Removes stack after [slot] := by
  apply callCloseFunction_leaf 1 coherent.distinct _ callable
  cases controls : controlsMulticast (stack.object slot) with
  | false => rfl
  | true => exact absurd (coherent.listed_of_controls controls callable) absent

theorem makeRoom_unlisted {room : Stack config} (coherent : Coherent stack)
    (absent : choice.slot ∉ stack.connectionList.toList) (made : stack.makeRoom choice = .ok room) :
    room.connectionList.toList = stack.connectionList.toList ∧
      ∀ other, other ≠ choice.slot → room.object other = stack.object other := by
  unfold makeRoom at made
  split at made
  · by_cases callable : (stack.object choice.slot).connectionCloseFunction = none
    · simp [connectionCloseFunction, callCloseFunction, callable] at made
    · obtain ⟨after, done, removes⟩ := connectionCloseFunction_unlisted coherent absent callable
      cases done.symm.trans made
      refine ⟨?_, fun other differs => removes.others other (by simpa using differs)⟩
      rw [removes.toList, List.filter_eq_self]
      rintro other listed
      simpa using fun same : other = choice.slot => absent (same ▸ listed)
  · cases made
    exact ⟨rfl, fun _ _ => rfl⟩

theorem makeRoom_spec (coherent : Coherent stack)
    (chosen : stack.chooseIoConnection object = .ok (choice, instanceType)) :
    Settles (stack.makeRoom choice)
      (fun room => Continues (fun _ => False) stack room ∧ choice.slot ∉ room.connectionList.toList)
      (· ≠ .nullNode) := by
  unfold makeRoom
  split
  · apply (Continues.of_connectionCloseFunction coherent).mono
    rintro room ⟨continues, gone⟩
    exact ⟨continues.mono fun _ => False.elim, gone⟩
  · rename_i nothing
    have free : choice.found = none := by simpa using nothing
    exact ⟨Continues.refl coherent, chooseIoConnection_free coherent chosen free⟩

end Selection

def copied (room : Stack config) (slot : Slot config) (request : CipConnectionObject) : Stack config :=
  { room with dummy := request }.connectionObjectDeepCopy slot

theorem getIoConnectionForConnectionData_eq (stack : Stack config) :
    stack.getIoConnectionForConnectionData =
      match stack.chooseIoConnection stack.dummy with
      | .error (extendedStatus, instanceType) =>
          { stack with dummy := stack.dummy.setInstanceType instanceType }.connectionFailure extendedStatus
      | .ok (choice, instanceType) =>
          orStop (stack.makeRoom choice) >>= fun room =>
            .ok (choice.slot, room.copied choice.slot (room.dummy.setInstanceType instanceType)) := rfl

section Negotiation

variable {network : Network} {choice : SlotChoice config} {instanceType : ConnectionObjectInstanceType}

def setUpIoConnection (stack : Stack config) : Except (Stop config) (Slot config × Stack config) :=
  stack.getIoConnectionForConnectionData >>= fun (slot, stack) =>
    stack.setupIoConnection slot >>= fun stack => .ok (slot, stack)

theorem openIoConnection_eq (stack : Stack config) (network : Network) :
    stack.openIoConnection network =
      stack.setUpIoConnection >>= fun (slot, stack) =>
        stack.handleSentConfigData slot >>= fun stack =>
          stack.openCommunicationChannels network slot >>= fun stack => .ok (slot, stack) := by
  unfold openIoConnection setUpIoConnection
  cases stack.getIoConnectionForConnectionData with
  | error stop => rfl
  | ok result =>
      obtain ⟨slot, copied⟩ := result
      simp only [ok_bind]
      cases copied.setupIoConnection slot with
      | error stop => rfl
      | ok prepared => rfl

/-- A request that was set up: room was made for it, and the object it was copied onto is ready. -/
structure SetUp (before after : Stack config) (choice : SlotChoice config)
    (instanceType : ConnectionObjectInstanceType) (room : Stack config) : Prop where
  chosen : before.chooseIoConnection before.dummy = .ok (choice, instanceType)
  made : before.makeRoom choice = .ok room
  continues : Continues (fun _ => False) before room
  absent : choice.slot ∉ room.connectionList.toList
  stage : Stage choice.slot (room.copied choice.slot (before.dummy.setInstanceType instanceType)) after
  ready : Ready (after.object choice.slot)

/-- What a refusal has done to list and objects: nothing, or what making room did, apart from the selected
object. -/
inductive TurnedDown (before after : Stack config) : Prop where
  | unselected (nothing : ∀ selected, before.chooseIoConnection before.dummy ≠ .ok selected)
      (list : after.connectionList = before.connectionList) (object : after.object = before.object)
  | selected (choice : SlotChoice config) (instanceType : ConnectionObjectInstanceType) (room : Stack config)
      (chosen : before.chooseIoConnection before.dummy = .ok (choice, instanceType))
      (made : before.makeRoom choice = .ok room) (list : after.connectionList = room.connectionList)
      (others : ∀ other, other ≠ choice.slot → after.object other = room.object other)

theorem leaves_of_stage {room after : Stack config} {request : CipConnectionObject}
    (continues : Continues (fun _ => False) stack room) (absent : slot ∉ room.connectionList.toList)
    (pristine : Pristine request) (stage : Stage slot (room.copied slot request) after)
    (prepared : after = room.copied slot request ∨ Prepared (after.object slot)) : Leaves stack after := by
  have copy : (room.copied slot request).object slot = request := by
    simp [copied, connectionObjectDeepCopy]
  have others : ∀ other, other ≠ slot → after.object other = room.object other := by
    intro other differs
    rw [stage.others other differs]
    simp [copied, connectionObjectDeepCopy, Function.update_of_ne differs]
  refine Leaves.after_continues continues (Leaves.of_table continues.coherent absent stage.list others ?_ ?_
    (stage.pristine pristine))
  · obtain rfl | ready := prepared
    · rw [copy]
      exact pristine.state
    · exact ready.state
  · obtain rfl | ready := prepared
    · rw [copy]
      exact fun callable => absurd pristine.closeFunction callable
    · exact fun _ => ready.producingSocket

theorem turnedDown_of_stage {room after : Stack config} {request : CipConnectionObject}
    (chosen : stack.chooseIoConnection stack.dummy = .ok (choice, instanceType))
    (made : stack.makeRoom choice = .ok room) (stage : Stage choice.slot (room.copied choice.slot request) after) :
    TurnedDown stack after := by
  refine .selected choice instanceType room chosen made stage.list fun other differs => ?_
  rw [stage.others other differs]
  simp [copied, connectionObjectDeepCopy, Function.update_of_ne differs]

theorem makeRoom_globals {room : Stack config} (coherent : Coherent stack) (made : stack.makeRoom choice = .ok room) :
    room = { stack with connectionList := room.connectionList, object := room.object, effects := room.effects } := by
  unfold makeRoom at made
  split at made
  · by_cases callable : (stack.object choice.slot).connectionCloseFunction = none
    · simp [connectionCloseFunction, callCloseFunction, callable] at made
    · obtain ⟨after, done, closed⟩ := coherent.connectionCloseFunction_closed callable
      cases done.symm.trans made
      exact closed.globals
  · cases made
    rfl

theorem makeRoom_data {room : Stack config} (coherent : Coherent stack)
    (made : stack.makeRoom choice = .ok room) :
    room.assemblyData = stack.assemblyData ∧ room.configData = stack.configData := by
  rw [makeRoom_globals coherent made]
  exact ⟨rfl, rfl⟩

theorem setUpIoConnection_spec (coherent : Coherent stack) (pristine : Pristine stack.dummy) :
    Settles stack.setUpIoConnection
      (fun result => ∃ choice instanceType room, result.1 = choice.slot ∧ SetUp stack result.2 choice instanceType room)
      (Refuses (· ≠ .nullNode) fun _ after =>
        Leaves stack after ∧ TurnedDown stack after ∧ after.assemblyData = stack.assemblyData) := by
  unfold setUpIoConnection
  rw [getIoConnectionForConnectionData_eq]
  split
  · rename_i failed
    refine ⟨Leaves.of_dummy coherent (pristine.of_write (·.setInstanceType _) rfl), .unselected ?_ rfl rfl, rfl⟩
    simp [failed]
  · rename_i choice instanceType chosen
    have request : Pristine (stack.dummy.setInstanceType instanceType) := pristine.of_write (·.setInstanceType _) rfl
    cases made : stack.makeRoom choice with
    | error fault =>
        have spec := makeRoom_spec coherent chosen
        exact spec.raises made
    | ok room =>
        obtain ⟨continues, absent⟩ := (makeRoom_spec coherent chosen).returns made
        have assemblyData := (makeRoom_data coherent made).1
        simp only [orStop, ok_bind]
        rw [continues.dummy]
        have copy : (room.copied choice.slot (stack.dummy.setInstanceType instanceType)).object choice.slot =
            stack.dummy.setInstanceType instanceType := by
          simp [copied, connectionObjectDeepCopy]
        apply Settles.bind ((setupIoConnection_spec (by rw [copy]; exact request.state)).imp (fun _ => id)
          (Refuses.mono fun _ after refused => ⟨leaves_of_stage continues absent request refused.1 refused.2,
            turnedDown_of_stage chosen made refused.1, refused.1.assemblyData.trans assemblyData⟩))
        rintro after ⟨stage, ready⟩
        exact ⟨choice, instanceType, room, rfl, chosen, made, continues, absent, stage, ready⟩

/-- All that precedes the listing of a new connection: the table goes on without the selected object,
which serves the request and has its channels. -/
structure Negotiated (before after : Stack config) (choice : SlotChoice config)
    (instanceType : ConnectionObjectInstanceType) : Prop where
  chosen : before.chooseIoConnection before.dummy = .ok (choice, instanceType)
  room : ∃ room, before.makeRoom choice = .ok room ∧ Continues (fun _ => False) before room ∧
    choice.slot ∉ room.connectionList.toList ∧ after.connectionList = room.connectionList ∧
    ∀ other, other ≠ choice.slot → after.object other = room.object other ∨
      after.object other = releaseProducingSocket (room.object other)
  serves : Serves (before.dummy.setInstanceType instanceType) (after.object choice.slot)
  equipped : Equipped (after.object choice.slot)
  pristine : Pristine after.dummy

/-- The assemblies a refusal leaves: the configuration data are written when the request gets that far. -/
def assembliesOfRefusal (stack : Stack config) : CipInstanceNum → List CipOctet :=
  match stack.setUpIoConnection with
  | .error _ => stack.assemblyData
  | .ok (slot, reached) => reached.configuredAssemblies slot

theorem openIoConnection_spec (coherent : Coherent stack) (pristine : Pristine stack.dummy) :
    Settles (stack.openIoConnection network)
      (fun opened => ∃ choice instanceType, opened.1 = choice.slot ∧ Negotiated stack opened.2 choice instanceType)
      (Refuses (· ≠ .nullNode) fun _ after =>
        Leaves stack after ∧ TurnedDown stack after ∧ after.assemblyData = stack.assembliesOfRefusal) := by
  rw [openIoConnection_eq]
  have assemblies : ∀ stop, stack.setUpIoConnection = .error stop → stack.assembliesOfRefusal = stack.assemblyData := by
    intro stop failed
    rw [assembliesOfRefusal, failed]
  apply Settles.bind ((setUpIoConnection_spec coherent pristine).attach.imp (fun _ => id) ?_)
  · rintro ⟨slot, reached⟩ ⟨done, choice, instanceType, room, rfl, setUp⟩
    have reachedAssemblies : stack.assembliesOfRefusal = reached.configuredAssemblies choice.slot := by
      rw [assembliesOfRefusal, done]
    have request : Pristine (stack.dummy.setInstanceType instanceType) := pristine.of_write (·.setInstanceType _) rfl
    have copy : (room.copied choice.slot (stack.dummy.setInstanceType instanceType)).object choice.slot =
        stack.dummy.setInstanceType instanceType := by
      simp [copied, connectionObjectDeepCopy]
    -- from here on the data of the configuration assembly may differ as well
    have moved (written : Stack config) (configures : Configures choice.slot reached written) :
        Continues (fun _ => False) stack { room with assemblyData := written.assemblyData } ∧
          Stage choice.slot (({ room with assemblyData := written.assemblyData } : Stack config).copied choice.slot
            (stack.dummy.setInstanceType instanceType)) written ∧ Ready (written.object choice.slot) ∧
          written.assemblyData = stack.assembliesOfRefusal := by
      refine ⟨setUp.continues.trans (Continues.of_same_table setUp.continues.coherent rfl rfl rfl), ?_, ?_, ?_⟩
      · rw [configures]
        exact { setUp.stage with assemblyData := rfl }
      · rw [configures]
        exact setUp.ready
      · rw [configures, reachedAssemblies]
    have refusedBehind {written after : Stack config} (configures : Configures choice.slot reached written)
        (stage : Stage choice.slot written after) (prepared : Prepared (after.object choice.slot)) :
        Leaves stack after ∧ TurnedDown stack after ∧ after.assemblyData = stack.assembliesOfRefusal := by
      obtain ⟨continues, first, _, sameAssemblies⟩ := moved written configures
      have whole := first.trans stage
      refine ⟨leaves_of_stage continues setUp.absent request whole (.inr prepared), ?_,
        stage.assemblyData.trans sameAssemblies⟩
      refine .selected choice instanceType room setUp.chosen setUp.made whole.list fun other differs => ?_
      rw [whole.others other differs]
      simp [copied, connectionObjectDeepCopy, Function.update_of_ne differs]
    apply Settles.bind (handleSentConfigData_spec.imp (fun _ => id) (Refuses.mono fun _ after configures =>
      refusedBehind configures Stage.refl (moved after configures).2.2.1.toPrepared))
    intro written configures
    obtain ⟨continues, stage, ready, _⟩ := moved written configures
    apply Settles.bind ((openCommunicationChannels_spec ready).imp (fun _ => id)
      (Refuses.mono fun _ after refused => refusedBehind configures refused.1 refused.2))
    rintro after ⟨opens, equipped⟩
    refine ⟨choice, instanceType, rfl, setUp.chosen, ⟨room, setUp.made, setUp.continues, setUp.absent,
      opens.list.trans stage.list, ?_⟩, ?_, equipped, ?_⟩
    · intro other differs
      have same : written.object other = room.object other := by
        rw [stage.others other differs]
        simp [copied, connectionObjectDeepCopy, Function.update_of_ne differs]
      rw [← same]
      exact opens.others other differs
    · exact (copy ▸ stage.serves.trans opens.settled.serves :)
    · rw [opens.dummy]
      exact stage.pristine request
  · rintro stop ⟨failed, spec⟩
    cases stop with
    | fault fault => exact spec
    | refused refusal after => exact ⟨spec.1, spec.2.1, by rw [spec.2.2, assemblies _ failed]⟩

/-- What an accepted I/O request goes through: the object selected for it, the stack once room is made, the
object behind the checks of the object alone, the assemblies once the configuration data are written, the stack
with open channels and the list with the new connection. -/
structure IoOpening (config : Configuration) where
  choice : SlotChoice config
  instanceType : ConnectionObjectInstanceType
  room : Stack config
  processed : CipConnectionObject
  assemblyData : CipInstanceNum → List CipOctet
  opened : Stack config
  connectionList : ConnectionList config.kNodesAmount (Slot config)

namespace IoOpening

variable {asked after : Stack config} {network : Network}

def readied (opening : IoOpening config) (asked : Stack config) : Stack config :=
  { opening.room.setObject opening.choice.slot (opening.room.readied opening.processed) with
    dummy := asked.dummy.setInstanceType opening.instanceType
    connectionId := opening.room.connectionIdBehind opening.processed
    assemblyData := opening.assemblyData }

structure Reaches (opening : IoOpening config) (asked : Stack config) (network : Network) : Prop where
  chosen : asked.chooseIoConnection asked.dummy = .ok (opening.choice, opening.instanceType)
  made : asked.makeRoom opening.choice = .ok opening.room
  continues : Continues (fun _ => False) asked opening.room
  absent : opening.choice.slot ∉ opening.room.connectionList.toList
  processed : processProductionInhibitTime (asked.dummy.setInstanceType opening.instanceType) = .ok opening.processed
  compatible : opening.room.findProducerMismatch opening.processed = none
  sizes : SizesAgree config opening.processed
  channels : (opening.readied asked).openCommunicationChannels network opening.choice.slot = .ok opening.opened
  reached : asked.openIoConnection network = .ok (opening.choice.slot, opening.opened)

structure Ends (opening : IoOpening config) (asked : Stack config) (network : Network) (after : Stack config) :
    Prop extends opening.Reaches asked network where
  inserted : opening.opened.connectionList.insertAtHead opening.choice.slot = some opening.connectionList
  after : after =
    ({ opening.opened with connectionList := opening.connectionList }.modifyObject opening.choice.slot
      (·.setState .established)).checkIoConnectionEvent
        (opening.opened.object opening.choice.slot).consumedPath.instanceId
        (opening.opened.object opening.choice.slot).producedPath.instanceId .opened

end IoOpening

theorem handleSentConfigData_ok {reached written : Stack config} (done : reached.handleSentConfigData slot = .ok written) :
    written = { reached with assemblyData := written.assemblyData } := by
  have configures : Configures slot reached written := handleSentConfigData_spec.returns done
  rw [configures]

theorem openIoConnection_ok {opened : Stack config} (coherent : Coherent stack)
    (done : stack.openIoConnection network = .ok (slot, opened)) :
    ∃ opening : IoOpening config, opening.choice.slot = slot ∧ opening.opened = opened ∧
      opening.Reaches stack network := by
  have reached := done
  rw [openIoConnection_eq] at done
  obtain ⟨⟨selected, reached⟩, setUp, done⟩ := bind_eq_ok.mp done
  obtain ⟨written, configured, done⟩ := bind_eq_ok.mp done
  obtain ⟨open_, channels, done⟩ := bind_eq_ok.mp done
  cases done
  have kept := handleSentConfigData_ok configured
  unfold setUpIoConnection at setUp
  rw [getIoConnectionForConnectionData_eq] at setUp
  split at setUp
  · cases setUp
  · rename_i choice instanceType chosen
    cases made : stack.makeRoom choice with
    | error fault =>
        rw [made] at setUp
        cases setUp
    | ok room =>
        obtain ⟨continues, absent⟩ := (makeRoom_spec coherent chosen).returns made
        rw [made] at setUp
        simp only [orStop, ok_bind, continues.dummy] at setUp
        obtain ⟨_, checked, setUp⟩ := bind_eq_ok.mp setUp
        cases setUp
        let request := stack.dummy.setInstanceType instanceType
        have copy : (room.copied choice.slot request).object choice.slot = request := by
          simp [copied, connectionObjectDeepCopy]
        have unlisted : choice.slot ∉ (room.copied choice.slot request).connectionList.toList := absent
        obtain ⟨processed, process, compatible, sizes, readied⟩ := setupIoConnection_ok unlisted checked
        rw [copy] at process
        -- the copied object is not listed, so the check of the producers does not see it
        have sameCheck : (room.copied choice.slot request).findProducerMismatch processed =
            room.findProducerMismatch processed := by
          have sameList : (room.copied choice.slot request).connectionList.toList = room.connectionList.toList := rfl
          refine findProducerMismatch_congr sameList (fun other listed => ?_) processed
          have differs : other ≠ choice.slot := fun same : other = choice.slot => absent (same ▸ listed)
          simp [copied, connectionObjectDeepCopy, Function.update_of_ne differs]
        refine ⟨⟨choice, instanceType, room, processed, written.assemblyData, opened, room.connectionList⟩, rfl, rfl,
          chosen, made, continues, absent, process, sameCheck.symm.trans compatible, sizes, ?_, reached⟩
        have same : written = IoOpening.readied
            ⟨choice, instanceType, room, processed, written.assemblyData, opened, room.connectionList⟩ stack := by
          rw [kept, readied]
          simp only [IoOpening.readied, copied, connectionObjectDeepCopy, setObject, Function.update_idem]
          rfl
        rw [← same]
        exact channels

theorem establishIoConnection_ok {after : Stack config} (coherent : Coherent stack)
    (done : stack.establishIoConnection network = .ok after) :
    ∃ opening : IoOpening config, opening.Ends stack network after := by
  obtain ⟨⟨selected, opened⟩, open_, done⟩ := bind_eq_ok.mp done
  obtain ⟨opening, rfl, rfl, reaches⟩ := openIoConnection_ok coherent open_
  obtain ⟨listed, listing, finish⟩ := bind_eq_ok.mp done
  have same := Except.ok.inj finish
  cases inserted : opening.opened.connectionList.insertAtHead opening.choice.slot with
  | none =>
      rw [addNewActiveConnection, inserted] at listing
      cases listing
  | some connectionList =>
      rw [addNewActiveConnection, inserted] at listing
      have sameListed := Except.ok.inj (show Except.ok _ = Except.ok listed from listing)
      refine ⟨{ opening with connectionList }, { reaches with inserted, after := ?_ }⟩
      rw [← same, ← sameListed]
      simp only [modifyObject, setObject, Function.update_self]
      rfl

end Negotiation

section Listing

variable {network : Network} {choice : SlotChoice config} {instanceType : ConnectionObjectInstanceType}

theorem addNewActiveConnection_spec (stack : Stack config) (slot : Slot config) :
    Settles (stack.addNewActiveConnection slot)
      (fun after => after.connectionList.toList = slot :: stack.connectionList.toList ∧
        after.object = Function.update stack.object slot ((stack.object slot).setState .established) ∧
        after.dummy = stack.dummy)
      (fun fault => fault = .nullNode ∧ stack.connectionList.toList.length = config.kNodesAmount) := by
  unfold addNewActiveConnection
  split
  · rename_i full
    exact ⟨rfl, (ConnectionList.insertAtHead_eq_none_iff _ _).mp full⟩
  · rename_i inserted done
    exact ⟨ConnectionList.toList_insertAtHead done, rfl, rfl⟩

theorem Negotiated.opened {after : Stack config} (negotiated : Negotiated stack after choice instanceType)
    (io : stack.dummy.getTransportClass ≠ .class3) :
    Opened choice.slot ((after.object choice.slot).setState .established) := by
  have serves := negotiated.serves
  have equipped := negotiated.equipped
  have type : (after.object choice.slot).instanceType = instanceType :=
    (serves.eq (·.instanceType) fun _ => rfl).symm
  have class_ : (after.object choice.slot).getTransportClass ≠ .class3 := by
    rw [← serves.eq getTransportClass fun _ => rfl]
    exact io
  have opened {point : ConnectionPoint} (matching : matchesPoint stack.dummy point = true) :
      OpenedIo instanceType point ((after.object choice.slot).setState .established) := by
    obtain ⟨output, input, configuration⟩ := matchesPoint_iff.mp matching
    exact {
      instanceType := type
      transportClass := class_
      closeFunction := equipped.closeFunction
      timeoutFunction := equipped.timeoutFunction
      sendDataFunction := equipped.sendDataFunction
      receiveDataFunction := equipped.receiveDataFunction
      output := (serves.eq (·.consumedPath.instanceId.toUInt32) fun _ => rfl).symm.trans output.symm
      input := (serves.eq (·.producedPath.instanceId.toUInt32) fun _ => rfl).symm.trans input.symm
      configuration :=
        (serves.eq (·.configurationPath.instanceId.toUInt32) fun _ => rfl).symm.trans configuration.symm
      consumes := equipped.consumes
      produces := equipped.produces
      silent := equipped.silent }
  obtain ⟨rfl, owner⟩ | ⟨rfl, input⟩ | ⟨rfl, listen⟩ := chooseIoConnection_ok negotiated.chosen
  · obtain ⟨i, same, point, _⟩ := getExclusiveOwnerConnection_ok owner
    have result := opened (List.findFinIdx?_eq_some_iff.mp point).1
    rw [same] at result ⊢
    exact result
  · obtain ⟨i, j, same, point, _⟩ := getInputOnlyConnection_ok input
    have result := opened point
    rw [same] at result ⊢
    exact result
  · obtain ⟨i, j, same, point, _⟩ := getListenOnlyConnection_ok listen
    have result := opened point
    rw [same] at result ⊢
    exact result

theorem enlarges_of_listing {room after : Stack config} (continues : Continues (fun _ => False) stack room)
    (absent : slot ∉ room.connectionList.toList)
    (list : after.connectionList.toList = slot :: room.connectionList.toList)
    (opened : Opened slot (after.object slot)) (state : (after.object slot).state = .established)
    (others : ∀ other, other ≠ slot → after.object other = room.object other ∨
      after.object other = releaseProducingSocket (room.object other))
    (pristine : Pristine after.dummy) : Enlarges stack after slot := by
  have same (other : Slot config) (differs : other ≠ slot) : SameConnection (room.object other) (after.object other) := by
    obtain same | released := others other differs
    · rw [same]
      rfl
    · rw [released]
      rfl
  have sameState (other : Slot config) (differs : other ≠ slot) :
      (after.object other).state = (room.object other).state := by
    obtain same | released := others other differs
    · rw [same]
    · rw [released]
      rfl
  have sameSocket (other : Slot config) (differs : other ≠ slot) :
      (after.object other).producingSocket = (room.object other).producingSocket ∨
        (after.object other).producingSocket = kEipInvalidSocket := by
    obtain same | released := others other differs
    · rw [same]
      exact .inl rfl
    · rw [released]
      exact .inr rfl
  have differs_of_mem {other : Slot config} (member : other ∈ room.connectionList.toList) : other ≠ slot := by
    rintro rfl
    exact absent member
  refine ⟨?_, ⟨_, list, continues.sublist⟩, fun other member differs => ?_, pristine⟩
  -- the coherence of the table, clause by clause; the new entry is the only one that differs
  · refine ⟨?_, ?_, ?_, ?_, ?_⟩
    · rw [list]
      exact List.nodup_cons.mpr ⟨absent, continues.coherent.distinct⟩
    · intro other member
      rw [list, List.mem_cons] at member
      obtain rfl | member := member
      · exact .inl state
      · rw [sameState other (differs_of_mem member)]
        exact continues.coherent.listed other member
    · intro other missing
      rw [list, List.mem_cons, not_or] at missing
      rw [sameState other missing.1]
      exact continues.coherent.unlisted other missing.2
    · intro other member
      rw [list, List.mem_cons] at member
      obtain rfl | member := member
      · exact opened
      · have differs := differs_of_mem member
        have before := continues.coherent.opened other member
        refine before.of_same (same other differs) (sameSocket other differs) fun explicit => ?_
        rw [sameState other differs]
        cases other with
        | explicit i => exact OpenedClass3.established before
        | exclusiveOwner i => cases explicit
        | inputOnly i j => cases explicit
        | listenOnly i j => cases explicit
    · intro other missing callable
      rw [list, List.mem_cons, not_or] at missing
      rw [← (same other missing.1).eq (·.connectionCloseFunction) fun _ => rfl] at callable
      obtain kept | released := sameSocket other missing.1
      · rw [kept]
        exact continues.coherent.idle other missing.2 callable
      · exact released
  · rw [list, List.mem_cons] at member
    exact (continues.same other (member.resolve_left differs)).trans (same other differs)

theorem establishIoConnection_spec (coherent : Coherent stack) (pristine : Pristine stack.dummy)
    (io : stack.dummy.getTransportClass ≠ .class3) :
    Settles (stack.establishIoConnection network)
      (fun after => ∃ choice instanceType,
        stack.chooseIoConnection stack.dummy = .ok (choice, instanceType) ∧ Enlarges stack after choice.slot ∧
        Serves (stack.dummy.setInstanceType instanceType) (after.object choice.slot))
      (Refuses (fun _ => True) fun _ after =>
        Leaves stack after ∧ TurnedDown stack after ∧ after.assemblyData = stack.assembliesOfRefusal) := by
  unfold establishIoConnection
  apply Settles.bind ((openIoConnection_spec coherent pristine).imp (fun _ => id) Refuses.any)
  rintro ⟨slot, reached⟩ ⟨choice, instanceType, rfl, negotiated⟩
  have listing : Settles (orStop (reached.addNewActiveConnection choice.slot))
      (fun after => after.connectionList.toList = choice.slot :: reached.connectionList.toList ∧
        after.object =
          Function.update reached.object choice.slot ((reached.object choice.slot).setState .established) ∧
        after.dummy = reached.dummy)
      (Refuses (fun _ => True) fun _ after =>
        Leaves stack after ∧ TurnedDown stack after ∧ after.assemblyData = stack.assembliesOfRefusal) := by
    have spec := addNewActiveConnection_spec reached choice.slot
    cases done : reached.addNewActiveConnection choice.slot with
    | error fault => exact trivial
    | ok after => exact spec.returns done
  apply Settles.bind listing
  rintro after ⟨list, object, dummy⟩
  obtain ⟨room, _, continues, absent, sameList, others⟩ := negotiated.room
  have own : after.object choice.slot = (reached.object choice.slot).setState .established := by
    rw [object, Function.update_self]
  refine ⟨choice, instanceType, negotiated.chosen, enlarges_of_listing continues absent ?_ ?_ ?_ ?_ ?_, ?_⟩
  · rw [← sameList]
    exact list
  · change Opened choice.slot (after.object choice.slot)
    rw [own]
    exact negotiated.opened io
  · change (after.object choice.slot).state = _
    rw [own]
    rfl
  · intro other differs
    change after.object other = _ ∨ after.object other = _
    rw [object, Function.update_of_ne differs]
    exact others other differs
  · change Pristine after.dummy
    rw [dummy]
    exact negotiated.pristine
  · change Serves _ (after.object choice.slot)
    rw [own]
    exact negotiated.serves

theorem getFreeExplicitConnection_spec (free : stack.getFreeExplicitConnection = some slot) :
    slot.instanceType = .explicitMessaging ∧ (stack.object slot).state = .nonExistent := by
  obtain ⟨i, _, rfl⟩ := List.mem_map.mp (List.mem_of_find?_eq_some free)
  exact ⟨rfl, by simpa using List.find?_some free⟩

theorem establishClass3Connection_spec (coherent : Coherent stack) (pristine : Pristine stack.dummy) :
    Settles stack.establishClass3Connection
      (fun after => ∃ slot, stack.getFreeExplicitConnection = some slot ∧ Enlarges stack after slot)
      (Refuses (fun _ => True) fun _ after => Leaves stack after) := by
  unfold establishClass3Connection
  split
  · exact Leaves.of_dummy coherent pristine
  · rename_i slot free
    obtain ⟨explicit, nonExistent⟩ := getFreeExplicitConnection_spec free
    have absent : slot ∉ stack.connectionList.toList := by
      rw [coherent.mem_iff, nonExistent]
      simp
    obtain ⟨consumedId, producedId, connectionId, general⟩ :=
      (stack.connectionObjectDeepCopy slot).connectionObjectGeneralConfiguration_eq slot
    dsimp only
    rw [general]
    generalize reached_eq : (({ (stack.connectionObjectDeepCopy slot).setObject slot
      (((stack.connectionObjectDeepCopy slot).object slot).generalConfiguration consumedId producedId) with
        connectionId } : Stack config).modifyObject slot fun object =>
          setClass3ConnectionCallbacks (object.setInstanceType .explicitMessaging)) = reached
    have list : reached.connectionList = stack.connectionList := by rw [← reached_eq]; rfl
    have dummy : reached.dummy = stack.dummy := by rw [← reached_eq]; rfl
    have own : reached.object slot = setClass3ConnectionCallbacks
        ((stack.dummy.generalConfiguration consumedId producedId).setInstanceType .explicitMessaging) := by
      rw [← reached_eq]
      simp [modifyObject, connectionObjectDeepCopy]
    have others : ∀ other, other ≠ slot → reached.object other = stack.object other := by
      intro other differs
      rw [← reached_eq]
      simp [modifyObject, connectionObjectDeepCopy, Function.update_of_ne differs]
    have spec := addNewActiveConnection_spec reached slot
    cases done : reached.addNewActiveConnection slot with
    | error fault => exact trivial
    | ok after =>
        obtain ⟨listed, object, sameDummy⟩ := spec.returns done
        have opened : after.object slot = (reached.object slot).setState .established := by
          rw [object, Function.update_self]
        refine ⟨slot, free, enlarges_of_listing (Continues.refl coherent) absent ?_ ?_ ?_ ?_ ?_⟩
        · rw [← list]
          exact listed
        · rw [opened, own]
          -- a slot of another kind is never chosen
          cases slot with
          | explicit i => exact ⟨rfl, rfl, rfl, rfl, rfl, rfl⟩
          | exclusiveOwner i => cases explicit
          | inputOnly i j => cases explicit
          | listenOnly i j => cases explicit
        · rw [opened]
          rfl
        · intro other differs
          rw [object, Function.update_of_ne differs]
          exact .inl (others other differs)
        · rw [sameDummy, dummy]
          exact pristine

def explicitObject (asked : Stack config) : CipConnectionObject :=
  setClass3ConnectionCallbacks ((asked.dummy.generalConfiguration (asked.consumedIdFor asked.dummy)
    (asked.producedIdFor asked.dummy)).setInstanceType .explicitMessaging)

structure ExplicitOpened (asked after : Stack config) (slot : Slot config)
    (connectionList : ConnectionList config.kNodesAmount (Slot config)) : Prop where
  free : asked.getFreeExplicitConnection = some slot
  inserted : asked.connectionList.insertAtHead slot = some connectionList
  after : after = { asked.setObject slot ((explicitObject asked).setState .established) with
    connectionList, connectionId := asked.connectionIdBehind asked.dummy }

theorem establishClass3Connection_ok {after : Stack config} (done : stack.establishClass3Connection = .ok after) :
    ∃ slot connectionList, ExplicitOpened stack after slot connectionList := by
  unfold establishClass3Connection at done
  split at done
  · cases done
  · rename_i slot free
    rw [connectionObjectGeneralConfiguration_exact] at done
    simp only [connectionObjectDeepCopy, modifyObject, setObject, Function.update_self, Function.update_idem] at done
    unfold addNewActiveConnection at done
    cases inserted : stack.connectionList.insertAtHead slot with
    | none =>
        rw [inserted] at done
        cases done
    | some connectionList =>
        rw [inserted] at done
        simp only [modifyObject, setObject, Function.update_self, Function.update_idem] at done
        exact ⟨slot, connectionList, free, inserted, (Except.ok.inj (show Except.ok _ = Except.ok after from done)).symm⟩

end Listing

end Stack

end EtherNetIP