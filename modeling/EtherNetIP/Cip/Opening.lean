import EtherNetIP.Cip.IoConnection
import EtherNetIP.Cip.Preservation

/-! What the steps of opening a connection leave behind.

Between the copy of the request and the open channels only the selected object
is written, which is not listed. A refusal therefore leaves the table as it
was, and the object without a producing socket; a success lists the object with
everything an opened connection has.
-/

set_option autoImplicit false

namespace EtherNetIP

open Library CipConnectionObject

variable {config : Configuration}

/-- What the steps behind the copy leave as the request had it. -/
def requestPart (object : CipConnectionObject) : CipConnectionObject :=
  { object with
    state := .nonExistent
    cipProducedConnectionId := 0
    cipConsumedConnectionId := 0
    producedPath := { object.producedPath with attributeIdOrConnectionPoint := 0 }
    consumedPath := { object.consumedPath with attributeIdOrConnectionPoint := 0 }
    productionInhibitTime := 0
    producingInstance := none
    consumingInstance := none
    transmissionTriggerTimer := 0
    productionInhibitTimer := 0
    sequenceCountProducing := 0
    sequenceCountConsuming := 0
    eipLevelSequenceCountProducing := 0
    eipLevelSequenceCountConsuming := 0
    eipFirstLevelSequenceCountReceived := false
    consumingSocket := kEipInvalidSocket
    producingSocket := kEipInvalidSocket
    remoteAddress := .zero
    originatorAddress := .zero
    lastReplySent := none
    connectionCloseFunction := none
    connectionTimeoutFunction := none
    connectionSendDataFunction := none
    connectionReceiveDataFunction := none }

def Serves (request object : CipConnectionObject) : Prop := requestPart request = requestPart object

theorem Serves.eq {α : Type} {request object : CipConnectionObject} (serves : Serves request object)
    (read : CipConnectionObject → α) (requested : ∀ object, read (requestPart object) = read object) :
    read request = read object := by
  rw [← requested request, serves, requested]

/-- What the steps behind the checks of the object alone leave: the request with the production inhibit time
and the consumed identifier these have settled. -/
def settledPart (object : CipConnectionObject) : CipConnectionObject :=
  { requestPart object with
    cipConsumedConnectionId := object.cipConsumedConnectionId
    productionInhibitTime := object.productionInhibitTime }

def Settled (before after : CipConnectionObject) : Prop := settledPart before = settledPart after

theorem Settled.eq {α : Type} {before after : CipConnectionObject} (settled : Settled before after)
    (read : CipConnectionObject → α) (kept : ∀ object, read (settledPart object) = read object) :
    read before = read after := by
  rw [← kept before, settled, kept]

theorem Settled.serves {before after : CipConnectionObject} (settled : Settled before after) : Serves before after :=
  settled.eq requestPart fun _ => rfl

/-- The object with the fields no request writes as the set-up left them. -/
def withoutTraces (object : CipConnectionObject) : CipConnectionObject :=
  { object with
    state := .nonExistent
    producingInstance := none
    consumingInstance := none
    transmissionTriggerTimer := 0
    lastPackageWatchdogTimer := 0
    productionInhibitTimer := 0
    sequenceCountProducing := 0
    sequenceCountConsuming := 0
    eipLevelSequenceCountProducing := 0
    eipLevelSequenceCountConsuming := 0
    eipFirstLevelSequenceCountReceived := false
    consumingSocket := 0
    producingSocket := 0
    remoteAddress := .zero
    lastReplySent := none
    connectionCloseFunction := none
    connectionTimeoutFunction := none
    connectionSendDataFunction := none
    connectionReceiveDataFunction := none }

/-- The buffer object carries nothing that an opened connection would have. -/
def Pristine (object : CipConnectionObject) : Prop := withoutTraces object = object

theorem Pristine.state {object : CipConnectionObject} (pristine : Pristine object) :
    object.state = .nonExistent := by
  rw [← pristine]
  rfl

theorem Pristine.closeFunction {object : CipConnectionObject} (pristine : Pristine object) :
    object.connectionCloseFunction = none := by
  rw [← pristine]
  rfl

theorem Pristine.of_write {object : CipConnectionObject} (pristine : Pristine object)
    (write : CipConnectionObject → CipConnectionObject)
    (commutes : withoutTraces (write (withoutTraces object)) = write (withoutTraces object)) :
    Pristine (write object) := by
  rw [← pristine]
  exact commutes

/-- A step that writes nothing of the table but the selected object, and nothing of the buffer object
but the sizes for the reply. -/
structure Stage (slot : Slot config) (before after : Stack config) : Prop where
  list : after.connectionList = before.connectionList
  others : ∀ other, other ≠ slot → after.object other = before.object other
  serves : Serves (before.object slot) (after.object slot)
  dummy : ∃ oToTSize tToOSize, after.dummy = { before.dummy with
    correctOriginatorToTargetSize := oToTSize, correctTargetToOriginatorSize := tToOSize }
  assemblyData : after.assemblyData = before.assemblyData
  configData : after.configData = before.configData

namespace Stage

variable {slot : Slot config} {before middle after : Stack config}

theorem refl : Stage slot before before :=
  ⟨rfl, fun _ _ => rfl, rfl, ⟨_, _, rfl⟩, rfl, rfl⟩

theorem trans (first : Stage slot before middle) (second : Stage slot middle after) :
    Stage slot before after where
  list := second.list.trans first.list
  others := fun other differs => (second.others other differs).trans (first.others other differs)
  serves := Eq.trans first.serves second.serves
  dummy := by
    obtain ⟨_, _, early⟩ := first.dummy
    obtain ⟨oToTSize, tToOSize, late⟩ := second.dummy
    exact ⟨oToTSize, tToOSize, by rw [late, early]⟩
  assemblyData := second.assemblyData.trans first.assemblyData
  configData := second.configData.trans first.configData

theorem of_setObject (object : CipConnectionObject) (serves : Serves (before.object slot) object)
    (same : after = { before.setObject slot object with
      connectionId := after.connectionId, addressInfoItems := after.addressInfoItems
      udpIoMessaging := after.udpIoMessaging, effects := after.effects }) :
    Stage slot before after where
  list := by rw [same]; rfl
  others := by
    intro other differs
    rw [same]
    simp [Function.update_of_ne differs]
  serves := by
    rw [same]
    simpa using serves
  dummy := ⟨_, _, by rw [same]; rfl⟩
  assemblyData := by rw [same]; rfl
  configData := by rw [same]; rfl

theorem pristine (stage : Stage slot before after)
    (pristine : Pristine before.dummy) : Pristine after.dummy := by
  obtain ⟨oToTSize, tToOSize, same⟩ := stage.dummy
  rw [same]
  exact pristine.of_write ({ · with
    correctOriginatorToTargetSize := oToTSize, correctTargetToOriginatorSize := tToOSize }) rfl

end Stage

def Refuses (faults : Fault → Prop) (post : Refusal → Stack config → Prop) : Stop config → Prop
  | .fault fault => faults fault
  | .refused refusal after => post refusal after

theorem Refuses.mono {faults : Fault → Prop} {strong weak : Refusal → Stack config → Prop}
    (implies : ∀ refusal after, strong refusal after → weak refusal after) (stop : Stop config)
    (refuses : Refuses faults strong stop) : Refuses faults weak stop := by
  cases stop with
  | fault fault => exact refuses
  | refused refusal after => exact implies refusal after refuses

theorem Refuses.any {faults : Fault → Prop} {post : Refusal → Stack config → Prop} (stop : Stop config)
    (refuses : Refuses faults post stop) : Refuses (fun _ => True) post stop := by
  cases stop with
  | fault fault => exact trivial
  | refused refusal after => exact refuses

/-- The call-backs are set, and no producing socket is owned yet. -/
structure Prepared (object : CipConnectionObject) : Prop where
  closeFunction : object.connectionCloseFunction = some .closeIoConnection
  timeoutFunction : object.connectionTimeoutFunction = some .handleIoConnectionTimeOut
  sendDataFunction : object.connectionSendDataFunction = some .sendConnectedData
  receiveDataFunction : object.connectionReceiveDataFunction = some .handleReceivedIoConnectionData
  producingSocket : object.producingSocket = kEipInvalidSocket
  state : object.state = .nonExistent

def Consumes (object : CipConnectionObject) : Prop :=
  object.getOToTConnectionType ≠ .null → object.consumingInstance = some object.consumedPath.instanceId

def Produces (object : CipConnectionObject) : Prop :=
  object.getTToOConnectionType ≠ .null → object.producingInstance = some object.producedPath.instanceId

structure Ready (object : CipConnectionObject) : Prop extends Prepared object where
  consumes : Consumes object
  produces : Produces object

structure Equipped (object : CipConnectionObject) : Prop where
  closeFunction : object.connectionCloseFunction = some .closeIoConnection
  timeoutFunction : object.connectionTimeoutFunction = some .handleIoConnectionTimeOut
  sendDataFunction : object.connectionSendDataFunction = some .sendConnectedData
  receiveDataFunction : object.connectionReceiveDataFunction = some .handleReceivedIoConnectionData
  state : object.state = .nonExistent
  consumes : Consumes object
  produces : Produces object
  silent : object.getTToOConnectionType = .null → object.producingSocket = kEipInvalidSocket

/-- What the opening of channels may write in the table: the selected object, and the producing socket
of a connection it is taken from. -/
structure Opens (slot : Slot config) (before after : Stack config) : Prop where
  list : after.connectionList = before.connectionList
  others : ∀ other, other ≠ slot → after.object other = before.object other ∨
    after.object other = Stack.releaseProducingSocket (before.object other)
  settled : Settled (before.object slot) (after.object slot)
  dummy : after.dummy = before.dummy
  assemblyData : after.assemblyData = before.assemblyData

namespace Stack

variable {stack : Stack config} {slot : Slot config}

section Setup

theorem connectionObjectGeneralConfiguration_eq (stack : Stack config) (slot : Slot config) :
    ∃ consumedId producedId connectionId, stack.connectionObjectGeneralConfiguration slot =
      { stack.setObject slot ((stack.object slot).generalConfiguration consumedId producedId) with connectionId } := by
  unfold connectionObjectGeneralConfiguration
  dsimp only
  split <;> split <;> exact ⟨_, _, _, rfl⟩

theorem processProductionInhibitTime_serves {object processed : CipConnectionObject}
    (done : processProductionInhibitTime object = .ok processed) :
    ∃ productionInhibitTime, processed = { object with productionInhibitTime } := by
  unfold processProductionInhibitTime at done
  split at done
  · split at done
    · cases done
      exact ⟨_, rfl⟩
    · split at done
      · cases done
      · cases done
        exact ⟨_, rfl⟩
  · cases done
    exact ⟨_, rfl⟩

theorem prepareIoConnection_spec (state : (stack.object slot).state = .nonExistent) :
    Settles (stack.prepareIoConnection slot)
      (fun after => Stage slot stack after ∧ Prepared (after.object slot))
      (Refuses (· ≠ .nullNode) fun _ after => after = stack) := by
  unfold prepareIoConnection
  split
  · rfl
  · rename_i object done
    obtain ⟨inhibitTime, rfl⟩ := processProductionInhibitTime_serves done
    dsimp only
    obtain ⟨consumedId, producedId, connectionId, general⟩ :=
      (stack.setObject slot (setIoConnectionCallbacks
        { stack.object slot with productionInhibitTime := inhibitTime })).connectionObjectGeneralConfiguration_eq
          slot
    rw [general]
    constructor
    · refine Stage.of_setObject (clearInstances ((setIoConnectionCallbacks
        { stack.object slot with productionInhibitTime := inhibitTime }).generalConfiguration consumedId
          producedId)) rfl ?_
      simp [modifyObject, Function.update_idem, setObject]
    · simp only [modifyObject, setObject_object, Function.update_self]
      exact ⟨rfl, rfl, rfl, rfl, rfl, state⟩

/-- What the setup of a connection point writes: the object, and on a wrong size the buffer object. -/
theorem setupConsumerSide_spec (prepared : Prepared (stack.object slot)) :
    Settles (stack.setupConsumerSide slot)
      (fun after => Stage slot stack after ∧ Prepared (after.object slot) ∧ Consumes (after.object slot))
      (Refuses (· ≠ .nullNode) fun _ after => Stage slot stack after ∧ Prepared (after.object slot)) := by
  have written : Stage slot stack (stack.setObject slot (setConsumer (stack.object slot))) :=
    Stage.of_setObject (setConsumer (stack.object slot)) rfl rfl
  have kept : Prepared ((stack.setObject slot (setConsumer (stack.object slot))).object slot) := by
    rw [setObject_object, Function.update_self]
    exact { prepared with }
  unfold setupConsumerSide
  split
  · unfold setupIoConnectionOriginatorToTargetConnectionPoint
    dsimp only
    split
    · exact ⟨Stage.refl, prepared⟩
    · split
      · simp [Refuses]
      · split
        · exact ⟨{ written with dummy := ⟨_, _, rfl⟩ }, kept⟩
        · refine ⟨written, kept, fun _ => ?_⟩
          rw [setObject_object, Function.update_self]
          rfl
  · rename_i null
    exact ⟨Stage.refl, prepared, fun active => absurd active null⟩

theorem setupProducerSide_spec (prepared : Prepared (stack.object slot)) (consumes : Consumes (stack.object slot)) :
    Settles (stack.setupProducerSide slot)
      (fun after => Stage slot stack after ∧ Ready (after.object slot))
      (Refuses (· ≠ .nullNode) fun _ after => Stage slot stack after ∧ Prepared (after.object slot)) := by
  have written : Stage slot stack (stack.setObject slot (setProducer (stack.object slot))) :=
    Stage.of_setObject (setProducer (stack.object slot)) rfl rfl
  have kept : Prepared ((stack.setObject slot (setProducer (stack.object slot))).object slot) := by
    rw [setObject_object, Function.update_self]
    exact { prepared with }
  unfold setupProducerSide
  split
  · unfold setupIoConnectionTargetToOriginatorConnectionPoint
    dsimp only
    split
    · exact ⟨Stage.refl, prepared⟩
    · split
      · exact ⟨Stage.refl, prepared⟩
      · split
        · simp [Refuses]
        · split
          · exact ⟨{ written with dummy := ⟨_, _, rfl⟩ }, kept⟩
          · refine ⟨written, { kept with consumes := ?_, produces := fun _ => ?_ }⟩
            · rw [setObject_object, Function.update_self]
              exact consumes
            · rw [setObject_object, Function.update_self]
              rfl
  · rename_i null
    exact ⟨Stage.refl, { prepared with consumes, produces := fun active => absurd active null }⟩

theorem setupIoConnection_spec (state : (stack.object slot).state = .nonExistent) :
    Settles (stack.setupIoConnection slot)
      (fun after => Stage slot stack after ∧ Ready (after.object slot))
      (Refuses (· ≠ .nullNode) fun _ after => Stage slot stack after ∧ (after = stack ∨ Prepared (after.object slot))) := by
  apply Settles.bind ((prepareIoConnection_spec state).imp (fun _ => id) (Refuses.mono _))
  · rintro prepared ⟨first, ready⟩
    apply Settles.bind ((setupConsumerSide_spec ready).imp (fun _ => id) (Refuses.mono _))
    · rintro consuming ⟨second, ready, consumes⟩
      apply (setupProducerSide_spec ready consumes).imp
      · rintro after ⟨third, ready⟩
        exact ⟨(first.trans second).trans third, ready⟩
      · apply Refuses.mono
        rintro refusal after ⟨third, ready⟩
        exact ⟨(first.trans second).trans third, .inr ready⟩
    · rintro refusal after ⟨second, ready⟩
      exact ⟨first.trans second, .inr ready⟩
  · rintro refusal after rfl
    exact ⟨Stage.refl, .inl rfl⟩

section Identifiers

variable (stack) (object : CipConnectionObject)

def connectionIdOf (config : Configuration) (connectionId : UInt16) : UInt32 :=
  config.incarnationId ||| connectionId.toUInt32

def consumedIdFor : UInt32 :=
  if object.getOToTConnectionType = .pointToPoint then connectionIdOf config (stack.connectionId + 1)
  else object.cipConsumedConnectionId

def countedForConsumption : UInt16 :=
  if object.getOToTConnectionType = .pointToPoint then stack.connectionId + 1 else stack.connectionId

def producedIdFor : UInt32 :=
  if object.getTToOConnectionType = .multicast then connectionIdOf config (stack.countedForConsumption object + 1)
  else object.cipProducedConnectionId

def connectionIdBehind : UInt16 :=
  if object.getTToOConnectionType = .multicast then stack.countedForConsumption object + 1
  else stack.countedForConsumption object

theorem connectionObjectGeneralConfiguration_exact (slot : Slot config) :
    stack.connectionObjectGeneralConfiguration slot =
      { stack.setObject slot ((stack.object slot).generalConfiguration (stack.consumedIdFor (stack.object slot))
          (stack.producedIdFor (stack.object slot))) with
        connectionId := stack.connectionIdBehind (stack.object slot) } := by
  unfold connectionObjectGeneralConfiguration consumedIdFor producedIdFor connectionIdBehind countedForConsumption
  dsimp only
  split <;> split <;> rfl

end Identifiers

theorem findProducerMismatch_eq_none_iff {object : CipConnectionObject} :
    stack.findProducerMismatch object = none ↔
      (object.getTToOConnectionType = .multicast → ∀ other ∈ stack.connectionList.toList,
        object.producedPath.instanceId = (stack.object other).producedPath.instanceId →
        producerMismatch object (stack.object other) = none) := by
  unfold findProducerMismatch
  split
  · rename_i multicast
    simp [List.findSome?_eq_none_iff, multicast]
  · rename_i other
    simp [other]

theorem findProducerMismatch_congr {after : Stack config}
    (list : after.connectionList.toList = stack.connectionList.toList)
    (same : ∀ other ∈ stack.connectionList.toList, after.object other = stack.object other)
    (object : CipConnectionObject) : after.findProducerMismatch object = stack.findProducerMismatch object := by
  unfold findProducerMismatch
  rw [list]
  split
  · generalize stack.connectionList.toList = slots at same
    induction slots with
    | nil => rfl
    | cons first rest ih =>
        rw [List.findSome?_cons, List.findSome?_cons, same first (by simp),
          ih fun other member => same other (List.mem_cons_of_mem _ member)]
  · rfl

def withConsumer (object : CipConnectionObject) : CipConnectionObject :=
  if object.getOToTConnectionType ≠ .null then setConsumer object else object

def withProducer (object : CipConnectionObject) : CipConnectionObject :=
  if object.getTToOConnectionType ≠ .null then setProducer object else object

def identified (stack : Stack config) (processed : CipConnectionObject) : CipConnectionObject :=
  clearInstances ((setIoConnectionCallbacks processed).generalConfiguration (stack.consumedIdFor processed)
    (stack.producedIdFor processed))

def readied (stack : Stack config) (processed : CipConnectionObject) : CipConnectionObject :=
  withProducer (withConsumer (stack.identified processed))

theorem withConsumer_settled (object : CipConnectionObject) : Settled object (withConsumer object) := by
  unfold withConsumer
  split <;> rfl

theorem withProducer_settled (object : CipConnectionObject) : Settled object (withProducer object) := by
  unfold withProducer
  split <;> rfl

theorem identified_settled (stack : Stack config) (processed : CipConnectionObject) :
    Settled { processed with cipConsumedConnectionId := stack.consumedIdFor processed }
      (stack.identified processed) := rfl

theorem readied_settled (stack : Stack config) (processed : CipConnectionObject) :
    Settled { processed with cipConsumedConnectionId := stack.consumedIdFor processed } (stack.readied processed) :=
  ((stack.identified_settled processed).trans (withConsumer_settled _)).trans (withProducer_settled _)

theorem readied_ready (stack : Stack config) {processed : CipConnectionObject} (state : processed.state = .nonExistent) :
    Ready (stack.readied processed) := by
  have prepared : Prepared (stack.identified processed) := ⟨rfl, rfl, rfl, rfl, rfl, state⟩
  have consumer : Prepared (withConsumer (stack.identified processed)) ∧
      Consumes (withConsumer (stack.identified processed)) := by
    unfold withConsumer
    split
    · exact ⟨{ prepared with }, fun _ => rfl⟩
    · rename_i null
      exact ⟨prepared, fun active => absurd active null⟩
  unfold readied withProducer
  split
  · exact { consumer.1 with consumes := consumer.2, produces := fun _ => rfl }
  · rename_i null
    exact { consumer.1 with consumes := consumer.2, produces := fun active => absurd active null }

theorem setupConsumerSide_ok {after : Stack config} (done : stack.setupConsumerSide slot = .ok after) :
    ((stack.object slot).getOToTConnectionType ≠ .null →
      SizeAgrees config config.consumeRunIdle (stack.object slot).consumedPath.instanceId
        (stack.object slot).getTransportClass (stack.object slot).getOToTConnectionSize) ∧
      after = stack.setObject slot (withConsumer (stack.object slot)) := by
  unfold setupConsumerSide at done
  unfold withConsumer
  split at done
  · rename_i active
    rw [if_pos active]
    unfold setupIoConnectionOriginatorToTargetConnectionPoint at done
    dsimp only at done
    split at done
    · cases done
    · split at done
      · cases done
      · rename_i length known
        split at done
        · cases done
        · rename_i agrees
          cases done
          exact ⟨fun _ => ⟨length, known, not_not.mp agrees⟩, rfl⟩
  · rename_i null
    cases done
    refine ⟨fun active => absurd active null, ?_⟩
    rw [if_neg null, setObject, Function.update_eq_self]

theorem setupProducerSide_ok {after : Stack config} (done : stack.setupProducerSide slot = .ok after) :
    stack.findProducerMismatch (stack.object slot) = none ∧
      ((stack.object slot).getTToOConnectionType ≠ .null →
        SizeAgrees config config.produceRunIdle (stack.object slot).producedPath.instanceId
          (stack.object slot).getTransportClass (stack.object slot).getTToOConnectionSize) ∧
      after = stack.setObject slot (withProducer (stack.object slot)) := by
  unfold setupProducerSide at done
  unfold withProducer
  split at done
  · rename_i active
    rw [if_pos active]
    unfold setupIoConnectionTargetToOriginatorConnectionPoint at done
    dsimp only at done
    split at done
    · cases done
    · rename_i compatible
      split at done
      · cases done
      · split at done
        · cases done
        · rename_i length known
          split at done
          · cases done
          · rename_i agrees
            cases done
            exact ⟨compatible, fun _ => ⟨length, known, not_not.mp agrees⟩, rfl⟩
  · rename_i null
    cases done
    refine ⟨?_, fun active => absurd active null, by rw [if_neg null, setObject, Function.update_eq_self]⟩
    rw [findProducerMismatch, if_neg]
    simp [not_not.mp null]

theorem findProducerMismatch_settled {object written : CipConnectionObject} (settled : Settled object written) :
    stack.findProducerMismatch object = stack.findProducerMismatch written :=
  settled.eq stack.findProducerMismatch fun _ => rfl

theorem prepareIoConnection_ok {after : Stack config} (done : stack.prepareIoConnection slot = .ok after) :
    ∃ processed, processProductionInhibitTime (stack.object slot) = .ok processed ∧
      after = { stack.setObject slot (stack.identified processed) with
        connectionId := stack.connectionIdBehind processed } := by
  unfold prepareIoConnection at done
  split at done
  · cases done
  · rename_i processed checked
    refine ⟨processed, checked, ?_⟩
    have same := Except.ok.inj done
    rw [← same, connectionObjectGeneralConfiguration_exact, modifyObject, setObject_object, Function.update_self]
    simp only [setObject, Function.update_self, Function.update_idem]
    rfl

theorem setupIoConnection_ok {after : Stack config} (absent : slot ∉ stack.connectionList.toList)
    (done : stack.setupIoConnection slot = .ok after) :
    ∃ processed, processProductionInhibitTime (stack.object slot) = .ok processed ∧
      stack.findProducerMismatch processed = none ∧ SizesAgree config processed ∧
      after = { stack.setObject slot (stack.readied processed) with
        connectionId := stack.connectionIdBehind processed } := by
  obtain ⟨prepared, first, done⟩ := bind_eq_ok.mp done
  obtain ⟨consuming, second, third⟩ := bind_eq_ok.mp done
  obtain ⟨processed, checked, same⟩ := prepareIoConnection_ok first
  have own : prepared.object slot = stack.identified processed := by
    rw [same]
    exact Function.update_self slot _ stack.object
  obtain ⟨consumer, written⟩ := setupConsumerSide_ok second
  have ownToo : consuming.object slot = withConsumer (stack.identified processed) := by
    rw [written, setObject_object, Function.update_self, own]
  obtain ⟨compatible, producer, last⟩ := setupProducerSide_ok third
  rw [own] at consumer
  rw [ownToo] at producer
  refine ⟨processed, checked, ?_, ?_, ?_⟩
  · have others : ∀ other ∈ stack.connectionList.toList, consuming.object other = stack.object other := by
      intro other listed
      have differs : other ≠ slot := fun same : other = slot => absent (same ▸ listed)
      rw [written, same]
      simp only [setObject_object, Function.update_of_ne differs]
    have list : consuming.connectionList.toList = stack.connectionList.toList := by
      rw [written, same]
      rfl
    rw [findProducerMismatch_congr list others, ownToo,
      ← findProducerMismatch_settled (withConsumer_settled (stack.identified processed))] at compatible
    exact (findProducerMismatch_settled (stack.identified_settled processed)).trans compatible
  · have settled := withConsumer_settled (stack.identified processed)
    refine ⟨consumer, ?_⟩
    rw [← settled.eq getTToOConnectionType fun _ => rfl, ← settled.eq (·.producedPath.instanceId) fun _ => rfl,
      ← settled.eq getTransportClass fun _ => rfl, ← settled.eq getTToOConnectionSize fun _ => rfl] at producer
    exact producer
  · rw [last, ownToo, written, same]
    simp only [setObject, Function.update_idem]
    rfl

end Setup

section ConfigData

def writesConfigData (stack : Stack config) (slot : Slot config) (configData : List CipOctet) : Prop :=
  configData ≠ [] ∧
    stack.connectionWithSameConfigPointExists (stack.object slot).configurationPath.instanceId.toUInt32 = false ∧
    config.assemblyLength (stack.object slot).configurationPath.instanceId = some configData.length

instance (stack : Stack config) (slot : Slot config) (configData : List CipOctet) :
    Decidable (stack.writesConfigData slot configData) :=
  inferInstanceAs (Decidable (_ ∧ _ ∧ _))

def configuredAssemblies (stack : Stack config) (slot : Slot config) : CipInstanceNum → List CipOctet :=
  match stack.configData with
  | none => stack.assemblyData
  | some configData =>
      if stack.writesConfigData slot configData then
        Function.update stack.assemblyData (stack.object slot).configurationPath.instanceId configData
      else stack.assemblyData

def Configures (slot : Slot config) (before after : Stack config) : Prop :=
  after = { before with assemblyData := before.configuredAssemblies slot }

theorem Configures.of_kept (kept : stack.configuredAssemblies slot = stack.assemblyData) :
    Configures slot stack stack := by
  rw [Configures, kept]

theorem handleSentConfigData_spec :
    Settles (stack.handleSentConfigData slot) (Configures slot stack)
      (Refuses (· ≠ .nullNode) fun _ after => Configures slot stack after) := by
  -- the branches of the source in their order; only the last one writes the assembly
  unfold handleSentConfigData
  split
  · rename_i absent
    exact Configures.of_kept (by simp [configuredAssemblies, absent])
  · rename_i configData present
    unfold handleConfigData
    dsimp only
    split
    · rename_i empty
      exact Configures.of_kept (by simp [configuredAssemblies, present, writesConfigData, empty])
    · rename_i nonempty
      split
      · simp [Refuses]
      · split
        · rename_i shared
          have kept : stack.configuredAssemblies slot = stack.assemblyData := by
            simp [configuredAssemblies, present, writesConfigData, shared]
          split
          · simp [Refuses]
          · split
            · exact Configures.of_kept kept
            · split
              · exact Configures.of_kept kept
              · exact Configures.of_kept kept
        · rename_i unused
          unfold notifyAssemblyConnectedDataReceived
          split
          · simp [orStop, Refuses]
          · rename_i length found
            split
            · rename_i differs
              refine Configures.of_kept ?_
              have notWritten : ¬ stack.writesConfigData slot configData := by
                rintro ⟨_, _, same⟩
                rw [found] at same
                exact differs (Option.some.inj same)
              simp [configuredAssemblies, present, notWritten]
            · rename_i same
              have written : stack.writesConfigData slot configData :=
                ⟨nonempty, by simpa using unused, by rw [found, not_not.mp same]⟩
              have configured : Configures slot stack { stack with
                  assemblyData := Function.update stack.assemblyData
                    (stack.object slot).configurationPath.instanceId configData } := by
                simp [Configures, configuredAssemblies, present, written]
              simp only [orStop, ok_bind, List.take_left]
              split
              · exact configured
              · exact configured

end ConfigData

section Channels

variable {network : Network}

def WritesObject (slot : Slot config) (object : CipConnectionObject) (before after : Stack config) : Prop :=
  after = { before.setObject slot object with
    addressInfoItems := after.addressInfoItems, udpIoMessaging := after.udpIoMessaging, effects := after.effects }

theorem WritesObject.refl : WritesObject slot (stack.object slot) stack stack := by
  simp [WritesObject, setObject]

theorem WritesObject.object {object : CipConnectionObject} {after : Stack config}
    (writes : WritesObject slot object stack after) : after.object slot = object := by
  rw [writes]
  exact Function.update_self slot object stack.object

theorem WritesObject.trans {first second : CipConnectionObject} {middle after : Stack config}
    (early : WritesObject slot first stack middle) (late : WritesObject slot second middle after) :
    WritesObject slot second stack after := by
  rw [WritesObject, late, early]
  simp [setObject]

theorem WritesObject.stage {object : CipConnectionObject} {after : Stack config}
    (writes : WritesObject slot object stack after) (serves : Serves (stack.object slot) object) :
    Stage slot stack after := by
  refine Stage.of_setObject object serves ?_
  rw [writes]

theorem WritesObject.dummy {object : CipConnectionObject} {after : Stack config}
    (writes : WritesObject slot object stack after) : after.dummy = stack.dummy := by
  rw [writes]
  rfl

theorem createUdpSocket_spec (slot : Slot config) (udpSocket : UdpSocket) :
    Settles (stack.createUdpSocket udpSocket) (WritesObject slot (stack.object slot) stack) (· ≠ .nullNode) := by
  cases udpSocket with
  | notCreated => simp [createUdpSocket, WritesObject, setObject]
  | blocking handle => simp [createUdpSocket]
  | notBound handle =>
      simp only [createUdpSocket, settles_ok, WritesObject, setObject, Function.update_eq_self]
      rw [closeUdpSocket, closeSocket_globals]
      rfl
  | bound handle =>
      simp only [createUdpSocket, settles_ok, WritesObject, setObject, Function.update_eq_self]
      rfl

theorem openMulticastConnection_consuming :
    ∃ consumingSocket originatorAddress, WritesObject slot
      (setConsumingSocket consumingSocket originatorAddress (stack.object slot)) stack
      (stack.openMulticastConnection network .consuming slot).2 := by
  unfold openMulticastConnection
  dsimp only
  split
  · exact ⟨_, _, WritesObject.refl⟩
  · split
    · exact ⟨_, _, by simp [WritesObject, setObject]; rfl⟩
    · split
      · exact ⟨_, _, by simp [WritesObject, setObject]; rfl⟩
      · exact ⟨_, _, rfl⟩

theorem openConsuming_spec (stack : Stack config) (slot : Slot config) (network : Network) :
    ∃ consumingSocket originatorAddress, WritesObject slot
      (setConsumingSocket consumingSocket originatorAddress (stack.object slot)) stack
      (stack.openConsuming network slot).2 := by
  unfold openConsuming
  split
  · exact openMulticastConnection_consuming
  · unfold openConsumingPointToPointConnection
    split
    · exact ⟨_, _, WritesObject.refl⟩
    · dsimp only
      split
      · exact ⟨_, _, WritesObject.refl⟩
      · exact ⟨_, _, rfl⟩
  · exact ⟨_, _, WritesObject.refl⟩

def withProducing (cipProducedConnectionId : UInt32) (producingSocket : Int) (remoteAddress : SocketAddress)
    (object : CipConnectionObject) : CipConnectionObject :=
  { object with cipProducedConnectionId, producingSocket, remoteAddress }

/-- A channel for producing may take its socket from another connection. -/
structure OpensProducing (slot : Slot config) (before after : Stack config) : Prop where
  list : after.connectionList = before.connectionList
  object : ∃ cipProducedConnectionId producingSocket remoteAddress, after.object slot =
    withProducing cipProducedConnectionId producingSocket remoteAddress (before.object slot)
  others : ∀ other, other ≠ slot → after.object other = before.object other ∨
    after.object other = releaseProducingSocket (before.object other)
  dummy : after.dummy = before.dummy
  assemblyData : after.assemblyData = before.assemblyData

theorem OpensProducing.of_writesObject {before after : Stack config} (cipProducedConnectionId : UInt32)
    (producingSocket : Int) (remoteAddress : SocketAddress)
    (writes : WritesObject slot
      (withProducing cipProducedConnectionId producingSocket remoteAddress (before.object slot)) before after) :
    OpensProducing slot before after where
  list := by rw [writes]; rfl
  object := ⟨cipProducedConnectionId, producingSocket, remoteAddress, by
    rw [writes]
    simp only [setObject_object, Function.update_self]⟩
  others := fun other differs => .inl (by rw [writes]; simp [Function.update_of_ne differs])
  dummy := by rw [writes]; rfl
  assemblyData := by rw [writes]; rfl

theorem openMulticastConnection_producing {opened : Bool} {after : Stack config}
    (done : stack.openMulticastConnection network .producing slot = (opened, after)) :
    if opened then OpensProducing slot stack after else WritesObject slot (stack.object slot) stack after := by
  unfold openMulticastConnection at done
  dsimp only at done
  split at done
  · cases done
    exact WritesObject.refl
  · split at done
    · cases done
      simp [WritesObject, setObject]
    · split at done
      · cases done
        simp [WritesObject, setObject]
      · cases done
        exact OpensProducing.of_writesObject (stack.object slot).cipProducedConnectionId _ _ rfl

theorem openProducingPointToPointConnection_spec {opened : Bool} {after : Stack config}
    (done : stack.openProducingPointToPointConnection network slot = (opened, after)) :
    if opened then OpensProducing slot stack after
    else ∃ remoteAddress, WritesObject slot (setRemoteAddress remoteAddress (stack.object slot)) stack after := by
  unfold openProducingPointToPointConnection at done
  dsimp only at done
  split at done
  · cases done
    exact ⟨_, rfl⟩
  · cases done
    apply OpensProducing.of_writesObject (stack.object slot).cipProducedConnectionId stack.udpIoMessaging
    simp only [WritesObject, modifyObject, setObject, Function.update_idem, Function.update_self]
    rfl

theorem shareProducingSocket_spec (stack : Stack config) (slot existing : Slot config) :
    ∃ producingSocket, (stack.shareProducingSocket slot existing).object slot =
        setProducingSocket producingSocket (stack.object slot) ∧
      (∀ other, other ≠ slot → (stack.shareProducingSocket slot existing).object other = stack.object other ∨
        (stack.shareProducingSocket slot existing).object other = releaseProducingSocket (stack.object other)) ∧
      stack.shareProducingSocket slot existing =
        { stack with object := (stack.shareProducingSocket slot existing).object } := by
  unfold shareProducingSocket
  split
  · by_cases same : slot = existing
    · subst same
      refine ⟨kEipInvalidSocket, ?_, fun other differs => .inl ?_, rfl⟩
      · simp [modifyObject, releaseProducingSocket, setProducingSocket]
      · simp [modifyObject, Function.update_of_ne differs]
    · refine ⟨(stack.object existing).producingSocket, ?_, fun other differs => ?_, rfl⟩
      · simp [modifyObject, Function.update_of_ne same]
      · by_cases taken : other = existing
        · subst taken
          right
          simp [modifyObject, Function.update_of_ne differs]
        · left
          simp [modifyObject, Function.update_of_ne differs, Function.update_of_ne taken]
  · refine ⟨kEipInvalidSocket, ?_, fun other differs => .inl ?_, rfl⟩
    · simp [modifyObject, releaseProducingSocket, setProducingSocket]
    · simp [modifyObject, Function.update_of_ne differs]

/-- Joining a stream: its identifier is taken over before the socket is shared, the address after that. -/
theorem joinStream_spec (existing : Slot config) (producedId : UInt32) (remoteAddress : SocketAddress)
    (items : AddressInfoItems) :
    OpensProducing slot stack
      { ((stack.modifyObject slot (connectionObjectSetCipProducedConnectionID producedId)).shareProducingSocket
          slot existing).modifyObject slot (setRemoteAddress remoteAddress) with addressInfoItems := items } := by
  let named := stack.modifyObject slot (connectionObjectSetCipProducedConnectionID producedId)
  obtain ⟨producingSocket, own, others, rest⟩ := named.shareProducingSocket_spec slot existing
  have list : (named.shareProducingSocket slot existing).connectionList = stack.connectionList := by rw [rest]; rfl
  have dummy : (named.shareProducingSocket slot existing).dummy = stack.dummy := by rw [rest]; rfl
  have assemblyData : (named.shareProducingSocket slot existing).assemblyData = stack.assemblyData := by
    rw [rest]; rfl
  refine ⟨list, ⟨producedId, producingSocket, remoteAddress, ?_⟩, fun other differs => ?_, dummy, assemblyData⟩
  · change Function.update (named.shareProducingSocket slot existing).object slot
        (setRemoteAddress remoteAddress ((named.shareProducingSocket slot existing).object slot)) slot = _
    rw [Function.update_self, own]
    simp [named, modifyObject, withProducing, setRemoteAddress, setProducingSocket,
      connectionObjectSetCipProducedConnectionID]
  · simp only [modifyObject, setObject_object, Function.update_of_ne differs]
    have same : named.object other = stack.object other := by
      simp [named, modifyObject, Function.update_of_ne differs]
    rw [← same]
    exact others other differs

theorem openProducingMulticastConnection_spec {opened : Bool} {after : Stack config}
    (done : stack.openProducingMulticastConnection network slot = (opened, after)) :
    if opened then OpensProducing slot stack after else WritesObject slot (stack.object slot) stack after := by
  unfold openProducingMulticastConnection at done
  dsimp only at done
  split at done
  · cases done
    exact WritesObject.refl
  · split at done
    · have multicast := openMulticastConnection_producing done
      cases opened with
      | true => exact { multicast with }
      | false =>
          simp only [Bool.false_eq_true, if_false] at multicast ⊢
          rw [multicast]
          rfl
    · cases done
      exact { joinStream_spec _ _ _ _ with }

theorem openProducing_spec {opened : Bool} {after : Stack config}
    (done : stack.openProducing network slot = (opened, after)) :
    if opened then OpensProducing slot stack after ∧
      ((stack.object slot).getTToOConnectionType = .null → after = stack)
    else ∃ remoteAddress, WritesObject slot (setRemoteAddress remoteAddress (stack.object slot)) stack after := by
  unfold openProducing at done
  split at done
  · rename_i multicast
    have spec := openProducingMulticastConnection_spec done
    cases opened with
    | true => exact ⟨spec, fun null => by rw [multicast] at null; cases null⟩
    | false => exact ⟨(stack.object slot).remoteAddress, spec⟩
  · rename_i pointToPoint
    have spec := openProducingPointToPointConnection_spec done
    cases opened with
    | true => exact ⟨spec, fun null => by rw [pointToPoint] at null; cases null⟩
    | false => exact spec
  · cases done
    refine ⟨⟨rfl, ⟨_, _, _, rfl⟩, fun _ _ => .inl rfl, rfl, rfl⟩, fun _ => rfl⟩

theorem orStop_settles {α : Type} {computation : Except Fault α} {post : α → Prop}
    {refused : Refusal → Stack config → Prop} (settles : Settles computation post (· ≠ .nullNode)) :
    Settles (orStop computation) post (Refuses (· ≠ .nullNode) refused) := by
  cases computation with
  | error fault => exact settles
  | ok value => exact settles

theorem openCommunicationChannels_spec (ready : Ready (stack.object slot)) :
    Settles (stack.openCommunicationChannels network slot)
      (fun after => Opens slot stack after ∧ Equipped (after.object slot))
      (Refuses (· ≠ .nullNode) fun _ after => Stage slot stack after ∧ Prepared (after.object slot)) := by
  unfold openCommunicationChannels
  -- socket, consuming side, producing side; after a failure the object stays as prepared
  apply Settles.bind (orStop_settles (createUdpSocket_spec slot network.udpSocket))
  intro bound created
  obtain ⟨consumingSocket, originatorAddress, consuming⟩ := bound.openConsuming_spec slot network
  rw [created.object] at consuming
  have listening := created.trans consuming
  have serves : Serves (stack.object slot)
      (setConsumingSocket consumingSocket originatorAddress (stack.object slot)) := rfl
  have stillReady : Ready ((bound.openConsuming network slot).2.object slot) := by
    rw [consuming.object]
    exact { ready with }
  generalize bound.openConsuming network slot = opened at listening stillReady ⊢
  obtain ⟨opened, middle⟩ := opened
  cases opened with
  | false => exact ⟨listening.stage serves, stillReady.toPrepared⟩
  | true =>
      simp only [orConnectionFailure, ok_bind]
      cases produced : middle.openProducing network slot with
      | mk producing after =>
          have spec := openProducing_spec produced
          cases producing with
          | false =>
              obtain ⟨remoteAddress, writes⟩ := spec
              refine ⟨(listening.trans writes).stage ?_, ?_⟩
              · rw [listening.object]
                rfl
              · rw [writes.object]
                exact { stillReady with }
          | true =>
              obtain ⟨opens, silent⟩ := spec
              obtain ⟨producedId, producingSocket, remoteAddress, own⟩ := opens.object
              have stage := listening.stage serves
              refine ⟨⟨opens.list.trans stage.list, fun other differs => ?_, ?_, ?_, ?_⟩, ?_⟩
              · rw [← stage.others other differs]
                exact opens.others other differs
              · rw [own, listening.object]
                rfl
              · exact opens.dummy.trans listening.dummy
              · exact opens.assemblyData.trans stage.assemblyData
              · rw [own]
                refine { stillReady with silent := fun null => ?_ }
                rw [← own, silent null]
                exact stillReady.producingSocket

end Channels

end Stack

end EtherNetIP
