import EtherNetIP.Cip.Closing

/-! Coherence of the connection table.

Slots and list agree: a connection object is listed exactly while it is
established or timed out, once, and then carries the type, the call-backs and
the paths its slot is opened with. This is what every function that walks the
list or picks a slot relies on. A refused request leaves call-backs behind in
an object that is not listed; such an object at least owns no producing socket.
-/

set_option autoImplicit false

namespace EtherNetIP

open Library CipConnectionObject

variable {config : Configuration}

/-- An object opened as explicit connection. Its transport class is the request's and need not be 3. -/
structure OpenedClass3 (object : CipConnectionObject) : Prop where
  instanceType : object.instanceType = .explicitMessaging
  closeFunction : object.connectionCloseFunction = some .closeConnection
  timeoutFunction : object.connectionTimeoutFunction = some .class3ConnectionTimeoutHandler
  consumingSocket : object.consumingSocket = kEipInvalidSocket
  producingSocket : object.producingSocket = kEipInvalidSocket
  established : object.state = .established

structure OpenedIo (instanceType : ConnectionObjectInstanceType) (point : ConnectionPoint)
    (object : CipConnectionObject) : Prop where
  instanceType : object.instanceType = instanceType
  transportClass : object.getTransportClass ≠ .class3
  closeFunction : object.connectionCloseFunction = some .closeIoConnection
  timeoutFunction : object.connectionTimeoutFunction = some .handleIoConnectionTimeOut
  sendDataFunction : object.connectionSendDataFunction = some .sendConnectedData
  receiveDataFunction : object.connectionReceiveDataFunction = some .handleReceivedIoConnectionData
  output : object.consumedPath.instanceId.toUInt32 = point.outputAssembly
  input : object.producedPath.instanceId.toUInt32 = point.inputAssembly
  configuration : object.configurationPath.instanceId.toUInt32 = point.configAssembly
  consumes : object.getOToTConnectionType ≠ .null →
    object.consumingInstance = some object.consumedPath.instanceId
  produces : object.getTToOConnectionType ≠ .null →
    object.producingInstance = some object.producedPath.instanceId
  silent : object.getTToOConnectionType = .null → object.producingSocket = kEipInvalidSocket

def Opened : Slot config → CipConnectionObject → Prop
  | .explicit _, object => OpenedClass3 object
  | .exclusiveOwner i, object =>
      OpenedIo .ioExclusiveOwner (config.exclusiveOwnerConnections.get i) object
  | .inputOnly i _, object => OpenedIo .ioInputOnly (config.inputOnlyConnections.get i) object
  | .listenOnly i _, object => OpenedIo .ioListenOnly (config.listenOnlyConnections.get i) object

structure Coherent (stack : Stack config) : Prop where
  distinct : stack.connectionList.toList.Nodup
  listed : ∀ slot ∈ stack.connectionList.toList,
    (stack.object slot).state = .established ∨ (stack.object slot).state = .timedOut
  unlisted : ∀ slot, slot ∉ stack.connectionList.toList → (stack.object slot).state = .nonExistent
  opened : ∀ slot ∈ stack.connectionList.toList, Opened slot (stack.object slot)
  idle : ∀ slot, slot ∉ stack.connectionList.toList →
    (stack.object slot).connectionCloseFunction ≠ none → (stack.object slot).producingSocket = kEipInvalidSocket

theorem Opened.instanceType {slot : Slot config} {object : CipConnectionObject}
    (opened : Opened slot object) : object.instanceType = slot.instanceType := by
  cases slot with
  | explicit i => exact OpenedClass3.instanceType opened
  | exclusiveOwner i => exact OpenedIo.instanceType opened
  | inputOnly i j => exact OpenedIo.instanceType opened
  | listenOnly i j => exact OpenedIo.instanceType opened

theorem Opened.callable {slot : Slot config} {object : CipConnectionObject}
    (opened : Opened slot object) : object.connectionCloseFunction ≠ none := by
  cases slot with
  | explicit i => simp [OpenedClass3.closeFunction opened]
  | exclusiveOwner i => simp [OpenedIo.closeFunction opened]
  | inputOnly i j => simp [OpenedIo.closeFunction opened]
  | listenOnly i j => simp [OpenedIo.closeFunction opened]

theorem Opened.of_class3 {slot : Slot config} {object : CipConnectionObject}
    (opened : Opened slot object) (class3 : object.getTransportClass = .class3) : OpenedClass3 object := by
  cases slot with
  | explicit i => exact opened
  | exclusiveOwner i => exact absurd class3 (OpenedIo.transportClass opened)
  | inputOnly i j => exact absurd class3 (OpenedIo.transportClass opened)
  | listenOnly i j => exact absurd class3 (OpenedIo.transportClass opened)

theorem Opened.takeOver {slot : Slot config} {object closing : CipConnectionObject} {inputPoint : UInt32}
    (opened : Opened slot object) (candidate : Stack.isNonControlMaster inputPoint object = true) :
    Opened slot (Stack.takeOver closing object) := by
  simp only [Stack.isNonControlMaster, Bool.and_eq_true, beq_iff_eq] at candidate
  have producing : object.getTToOConnectionType ≠ .null := by simp [candidate.1.2]
  cases slot with
  | explicit i =>
      have type := OpenedClass3.instanceType opened
      simp [isTypeNonLOIOConnection, type] at candidate
  | exclusiveOwner i => exact { opened with silent := fun null => absurd null producing }
  | inputOnly i j => exact { opened with silent := fun null => absurd null producing }
  | listenOnly i j => exact { opened with silent := fun null => absurd null producing }

namespace Coherent

variable {stack after : Stack config} {slot : Slot config}

theorem mem_iff (coherent : Coherent stack) (slot : Slot config) :
    slot ∈ stack.connectionList.toList ↔
      (stack.object slot).state = .established ∨ (stack.object slot).state = .timedOut := by
  refine ⟨coherent.listed slot, fun active => ?_⟩
  by_contra absent
  rw [coherent.unlisted slot absent] at active
  simp at active

theorem initialized (assemblyData : CipInstanceNum → List CipOctet) (timeout : UInt16) :
    Coherent (Stack.initialized config assemblyData timeout) where
  distinct := by simp [Stack.initialized]
  listed := by simp [Stack.initialized]
  unlisted := fun _ _ => rfl
  opened := by simp [Stack.initialized]
  idle := fun _ _ callable => absurd rfl callable

theorem of_same_table (coherent : Coherent stack) (list : after.connectionList = stack.connectionList)
    (object : after.object = stack.object) : Coherent after where
  distinct := list ▸ coherent.distinct
  listed := by rw [list, object]; exact coherent.listed
  unlisted := by rw [list, object]; exact coherent.unlisted
  opened := by rw [list, object]; exact coherent.opened
  idle := by rw [list, object]; exact coherent.idle

theorem unlists {gone : List (Slot config)} (coherent : Coherent stack)
    (removes : stack.Unlists after gone) : Coherent after where
  distinct := removes.distinct coherent.distinct
  listed := by
    intro slot member
    rw [removes.toList, List.mem_filter] at member
    rw [removes.others slot (by simpa using member.2)]
    exact coherent.listed slot member.1
  unlisted := by
    intro slot absent
    by_cases inGone : slot ∈ gone
    · rw [removes.emptied slot inGone]
      rfl
    · rw [removes.others slot inGone]
      refine coherent.unlisted slot fun member => absent ?_
      rw [removes.toList]
      exact List.mem_filter.mpr ⟨member, by simpa using inGone⟩
  opened := by
    intro slot member
    rw [removes.toList, List.mem_filter] at member
    rw [removes.others slot (by simpa using member.2)]
    exact coherent.opened slot member.1
  idle := by
    intro slot absent callable
    by_cases inGone : slot ∈ gone
    · rw [removes.emptied slot inGone]
      rfl
    · rw [removes.others slot inGone] at callable ⊢
      refine coherent.idle slot (fun member => absent ?_) callable
      rw [removes.toList]
      exact List.mem_filter.mpr ⟨member, by simpa using inGone⟩

theorem removes {gone : List (Slot config)} (coherent : Coherent stack) (removes : stack.Removes after gone) :
    Coherent after :=
  coherent.unlists removes.toUnlists

theorem setObject (coherent : Coherent stack) {object : CipConnectionObject}
    (member : slot ∈ stack.connectionList.toList) (opened : Opened slot object)
    (active : object.state = .established ∨ object.state = .timedOut) :
    Coherent (stack.setObject slot object) where
  distinct := coherent.distinct
  listed := by
    intro other listed
    by_cases same : other = slot
    · subst same
      simpa using active
    · simpa [Function.update_of_ne same] using coherent.listed other listed
  unlisted := by
    intro other absent
    have differs : other ≠ slot := fun same => absent (same ▸ member)
    simpa [Function.update_of_ne differs] using coherent.unlisted other absent
  opened := by
    intro other listed
    by_cases same : other = slot
    · subst same
      simpa using opened
    · simpa [Function.update_of_ne same] using coherent.opened other listed
  idle := by
    intro other absent
    have differs : other ≠ slot := fun same => absent (same ▸ member)
    simpa [Function.update_of_ne differs] using coherent.idle other absent

theorem setObject_unlisted (coherent : Coherent stack) {object : CipConnectionObject}
    (absent : slot ∉ stack.connectionList.toList) (state : object.state = .nonExistent)
    (quiet : object.connectionCloseFunction ≠ none → object.producingSocket = kEipInvalidSocket) :
    Coherent (stack.setObject slot object) where
  distinct := coherent.distinct
  listed := by
    intro other listed
    have differs : other ≠ slot := by rintro rfl; exact absent listed
    simpa [Function.update_of_ne differs] using coherent.listed other listed
  unlisted := by
    intro other unlisted
    by_cases same : other = slot
    · subst same
      simpa using state
    · simpa [Function.update_of_ne same] using coherent.unlisted other unlisted
  opened := by
    intro other listed
    have differs : other ≠ slot := by rintro rfl; exact absent listed
    simpa [Function.update_of_ne differs] using coherent.opened other listed
  idle := by
    intro other unlisted
    by_cases same : other = slot
    · subst same
      simpa using quiet
    · simpa [Function.update_of_ne same] using coherent.idle other unlisted

theorem listed_of_controls (coherent : Coherent stack)
    (controls : Stack.controlsMulticast (stack.object slot) = true)
    (callable : (stack.object slot).connectionCloseFunction ≠ none) : slot ∈ stack.connectionList.toList := by
  by_contra absent
  simp [Stack.controlsMulticast, Stack.isMulticastMaster, coherent.idle slot absent callable] at controls

/-- A close of `slot` may end `other`: the connection itself, or a listener of the stream it controls. -/
def EndsWith (slot other : Slot config) : Prop :=
  other = slot ∨ other.instanceType = .ioListenOnly ∧
    (slot.instanceType = .ioExclusiveOwner ∨ slot.instanceType = .ioInputOnly)

theorem master_of_controls (coherent : Coherent stack) (listed : slot ∈ stack.connectionList.toList)
    (controls : Stack.controlsMulticast (stack.object slot) = true) :
    slot.instanceType = .ioExclusiveOwner ∨ slot.instanceType = .ioInputOnly := by
  rw [← (coherent.opened slot listed).instanceType]
  simp only [Stack.controlsMulticast, Stack.isMulticastMaster, Bool.and_eq_true, Bool.or_eq_true,
    beq_iff_eq] at controls
  exact controls.1.1

theorem closeFunction_of_controls (coherent : Coherent stack) (listed : slot ∈ stack.connectionList.toList)
    (controls : Stack.controlsMulticast (stack.object slot) = true) :
    (stack.object slot).connectionCloseFunction = some .closeIoConnection := by
  have opened := coherent.opened slot listed
  have master := coherent.master_of_controls listed controls
  cases slot with
  | explicit i => simp [Slot.instanceType] at master
  | exclusiveOwner i => exact OpenedIo.closeFunction opened
  | inputOnly i j => exact OpenedIo.closeFunction opened
  | listenOnly i j => exact OpenedIo.closeFunction opened

theorem connectionCloseFunction_of_controls (coherent : Coherent stack)
    (listed : slot ∈ stack.connectionList.toList) (controls : Stack.controlsMulticast (stack.object slot) = true) :
    stack.connectionCloseFunction slot = Stack.closeIoConnection (Stack.callCloseFunction 1) stack slot := by
  have closes := coherent.closeFunction_of_controls listed controls
  simp only [Stack.connectionCloseFunction, Stack.callCloseFunction, closes]

theorem connectionCloseFunction_closed (coherent : Coherent stack)
    (callable : (stack.object slot).connectionCloseFunction ≠ none) :
    ∃ after, stack.connectionCloseFunction slot = .ok after ∧ Stack.Closed stack slot after := by
  have nodup := coherent.distinct
  cases controls : Stack.controlsMulticast (stack.object slot) with
  | false =>
      obtain ⟨after, done, removes⟩ := Stack.callCloseFunction_leaf 1 nodup controls callable
      exact ⟨after, done, .alone controls removes⟩
  | true =>
      have listed := coherent.listed_of_controls controls callable
      have closes := coherent.closeFunction_of_controls listed controls
      rw [coherent.connectionCloseFunction_of_controls listed controls]
      cases successor : stack.getNextNonControlMasterConnection
          (stack.object slot).producedPath.instanceId.toUInt32 with
      | some next =>
          obtain ⟨after, done, removes⟩ := Stack.closeIoConnection_transfers nodup controls closes successor
          exact ⟨after, done, .succeeded next controls successor removes⟩
      | none =>
          obtain ⟨after, done, removes⟩ := Stack.closeIoConnection_ends nodup controls closes successor
            fun listener member => (coherent.opened listener (List.mem_filter.mp member).1).callable
          exact ⟨after, done, .last controls successor removes⟩

end Coherent

/-- What stays as it is in a connection object while the connection is listed. -/
def constantPart (object : CipConnectionObject) : CipConnectionObject :=
  { object with
    state := .nonExistent
    transmissionTriggerTimer := 0
    inactivityWatchdogTimer := 0
    lastPackageWatchdogTimer := 0
    productionInhibitTimer := 0
    sequenceCountProducing := 0
    sequenceCountConsuming := 0
    eipLevelSequenceCountProducing := 0
    eipLevelSequenceCountConsuming := 0
    eipFirstLevelSequenceCountReceived := false
    producingSocket := kEipInvalidSocket
    remoteAddress := .zero
    lastReplySent := none }

def SameConnection (before after : CipConnectionObject) : Prop := constantPart before = constantPart after

theorem SameConnection.eq {α : Type} {before after : CipConnectionObject} (same : SameConnection before after)
    (read : CipConnectionObject → α) (constant : ∀ object, read (constantPart object) = read object) :
    read before = read after := by
  rw [← constant before, same, constant]

/-- An opened connection stays opened under changes of what may change, unless it is given a producing
socket; an explicit connection has to stay established. -/
theorem Opened.of_same {slot : Slot config} {before after : CipConnectionObject} (opened : Opened slot before)
    (same : SameConnection before after)
    (socket : after.producingSocket = before.producingSocket ∨ after.producingSocket = kEipInvalidSocket)
    (state : slot.instanceType = .explicitMessaging → after.state = .established) : Opened slot after := by
  have oToT := same.eq getOToTConnectionType fun _ => rfl
  have tToO := same.eq getTToOConnectionType fun _ => rfl
  have ioCase : ∀ (type : ConnectionObjectInstanceType) (point : ConnectionPoint),
      OpenedIo type point before → OpenedIo type point after := by
    intro type point io
    exact {
      instanceType := same.eq (·.instanceType) (fun _ => rfl) ▸ io.instanceType
      transportClass := same.eq getTransportClass (fun _ => rfl) ▸ io.transportClass
      closeFunction := same.eq (·.connectionCloseFunction) (fun _ => rfl) ▸ io.closeFunction
      timeoutFunction := same.eq (·.connectionTimeoutFunction) (fun _ => rfl) ▸ io.timeoutFunction
      sendDataFunction := same.eq (·.connectionSendDataFunction) (fun _ => rfl) ▸ io.sendDataFunction
      receiveDataFunction := same.eq (·.connectionReceiveDataFunction) (fun _ => rfl) ▸ io.receiveDataFunction
      output := same.eq (·.consumedPath) (fun _ => rfl) ▸ io.output
      input := same.eq (·.producedPath) (fun _ => rfl) ▸ io.input
      configuration := same.eq (·.configurationPath) (fun _ => rfl) ▸ io.configuration
      consumes := fun active => by
        rw [← oToT] at active
        rw [← same.eq (·.consumingInstance) (fun _ => rfl), ← same.eq (·.consumedPath) (fun _ => rfl)]
        exact io.consumes active
      produces := fun active => by
        rw [← tToO] at active
        rw [← same.eq (·.producingInstance) (fun _ => rfl), ← same.eq (·.producedPath) (fun _ => rfl)]
        exact io.produces active
      silent := fun null => by
        rw [← tToO] at null
        exact socket.elim (fun kept => kept.trans (io.silent null)) id }
  cases slot with
  | explicit i =>
      have class3 : OpenedClass3 before := opened
      exact ({
        instanceType := same.eq (·.instanceType) (fun _ => rfl) ▸ class3.instanceType
        closeFunction := same.eq (·.connectionCloseFunction) (fun _ => rfl) ▸ class3.closeFunction
        timeoutFunction := same.eq (·.connectionTimeoutFunction) (fun _ => rfl) ▸ class3.timeoutFunction
        consumingSocket := same.eq (·.consumingSocket) (fun _ => rfl) ▸ class3.consumingSocket
        producingSocket := socket.elim (fun kept => kept.trans class3.producingSocket) id
        established := state rfl } : OpenedClass3 after)
  | exclusiveOwner i => exact ioCase _ _ opened
  | inputOnly i j => exact ioCase _ _ opened
  | listenOnly i j => exact ioCase _ _ opened

theorem Coherent.handedOver {stack : Stack config} {slot next : Slot config} (coherent : Coherent stack)
    (listed : slot ∈ stack.connectionList.toList) (controls : Stack.controlsMulticast (stack.object slot) = true)
    {inputPoint : UInt32} (successor : stack.getNextNonControlMasterConnection inputPoint = some next) :
    Coherent (stack.handedOver slot next) := by
  have differs := Stack.successor_ne controls successor
  obtain ⟨member, candidate⟩ := Stack.findConnection_mem successor
  have taken : Coherent (stack.setObject next (Stack.takeOver (stack.object slot) (stack.object next))) :=
    coherent.setObject member ((coherent.opened next member).takeOver candidate) (coherent.listed next member)
  have master := coherent.master_of_controls listed controls
  refine taken.setObject listed ?_ (taken.listed slot listed)
  exact (taken.opened slot listed).of_same rfl (.inr rfl) fun explicit => by simp [explicit] at master

/-- The second stack goes on from the first without a new connection: connections may have ended, but
none of the spared ones, and those still listed are the connections they were. None is established anew. -/
structure Continues (spared : Slot config → Prop) (before after : Stack config) : Prop where
  coherent : Coherent after
  sublist : after.connectionList.toList.Sublist before.connectionList.toList
  same : ∀ slot ∈ after.connectionList.toList, SameConnection (before.object slot) (after.object slot)
  spares : ∀ slot ∈ before.connectionList.toList, spared slot → slot ∈ after.connectionList.toList
  aged : ∀ slot ∈ after.connectionList.toList, (after.object slot).state = .established →
    (before.object slot).state = .established
  dummy : after.dummy = before.dummy

namespace Continues

variable {before middle after : Stack config} {spared : Slot config → Prop} {slot : Slot config}

theorem refl (coherent : Coherent before) : Continues spared before before :=
  ⟨coherent, List.Sublist.refl _, fun _ _ => rfl, fun _ member _ => member, fun _ _ => id, rfl⟩

theorem trans (first : Continues spared before middle) (second : Continues spared middle after) :
    Continues spared before after where
  coherent := second.coherent
  sublist := second.sublist.trans first.sublist
  same := fun slot member =>
    (first.same slot (second.sublist.subset member)).trans (second.same slot member)
  spares := fun slot member keep => second.spares slot (first.spares slot member keep) keep
  aged := fun slot member established =>
    first.aged slot (second.sublist.subset member) (second.aged slot member established)
  dummy := second.dummy.trans first.dummy

theorem mono {fewer : Slot config → Prop} (continues : Continues spared before after)
    (implies : ∀ slot, fewer slot → spared slot) : Continues fewer before after :=
  { continues with spares := fun slot member keep => continues.spares slot member (implies slot keep) }

theorem of_same_table (coherent : Coherent before) (list : after.connectionList = before.connectionList)
    (object : after.object = before.object) (dummy : after.dummy = before.dummy) :
    Continues spared before after where
  coherent := coherent.of_same_table list object
  sublist := by rw [list]
  same := fun slot _ => by rw [object]; rfl
  spares := fun slot member _ => by rw [list]; exact member
  aged := fun slot _ established => by rwa [object] at established
  dummy := dummy

theorem of_setObject (coherent : Coherent before) {object : CipConnectionObject}
    (member : slot ∈ before.connectionList.toList) (opened : Opened slot object)
    (active : object.state = .established ∨ object.state = .timedOut)
    (same : SameConnection (before.object slot) object)
    (aged : object.state = .established → (before.object slot).state = .established) :
    Continues spared before (before.setObject slot object) where
  coherent := coherent.setObject member opened active
  sublist := List.Sublist.refl _
  same := by
    intro other _
    by_cases at_slot : other = slot
    · subst at_slot
      simpa using same
    · rw [Stack.setObject_object, Function.update_of_ne at_slot]
      rfl
  spares := fun _ listed _ => listed
  aged := by
    intro other _ established
    by_cases at_slot : other = slot
    · subst at_slot
      exact aged (by simpa using established)
    · rwa [Stack.setObject_object, Function.update_of_ne at_slot] at established
  dummy := rfl

theorem of_modifyObject (coherent : Coherent before) (member : slot ∈ before.connectionList.toList)
    {change : CipConnectionObject → CipConnectionObject}
    (same : SameConnection (before.object slot) (change (before.object slot)))
    (state : (change (before.object slot)).state = (before.object slot).state)
    (socket : (change (before.object slot)).producingSocket = (before.object slot).producingSocket) :
    Continues spared before (before.modifyObject slot change) := by
  have opened := coherent.opened slot member
  refine of_setObject coherent member (opened.of_same same (.inl socket) fun explicit => ?_) ?_ same (state ▸ ·)
  · cases slot with
    | explicit i => exact state.trans (OpenedClass3.established opened)
    | exclusiveOwner i => cases explicit
    | inputOnly i j => cases explicit
    | listenOnly i j => cases explicit
  · rw [state]
    exact coherent.listed slot member

theorem of_unlists {gone : List (Slot config)} (coherent : Coherent before)
    (removes : Stack.Unlists before after gone) (keeps : ∀ other ∈ gone, ¬ spared other)
    (dummy : after.dummy = before.dummy) : Continues spared before after where
  coherent := coherent.unlists removes
  sublist := by
    rw [removes.toList]
    exact List.filter_sublist
  same := by
    intro other member
    rw [removes.toList, List.mem_filter] at member
    rw [removes.others other (by simpa using member.2)]
    rfl
  spares := by
    intro other member keep
    rw [removes.toList, List.mem_filter]
    exact ⟨member, by simpa using fun inGone => keeps other inGone keep⟩
  aged := by
    intro other member established
    rw [removes.toList, List.mem_filter] at member
    rwa [removes.others other (by simpa using member.2)] at established
  dummy := dummy

theorem of_removes {gone : List (Slot config)} (coherent : Coherent before)
    (removes : Stack.Removes before after gone) (keeps : ∀ other ∈ gone, ¬ spared other) :
    Continues spared before after :=
  of_unlists coherent removes.toUnlists keeps (by rw [removes.globals])

theorem of_handedOver {next : Slot config} (coherent : Coherent before)
    (listed : slot ∈ before.connectionList.toList) (controls : Stack.controlsMulticast (before.object slot) = true)
    {inputPoint : UInt32} (successor : before.getNextNonControlMasterConnection inputPoint = some next) :
    Continues spared before (before.handedOver slot next) := by
  obtain ⟨member, candidate⟩ := Stack.findConnection_mem successor
  have master := coherent.master_of_controls listed controls
  have taken : Continues spared before
      (before.setObject next (Stack.takeOver (before.object slot) (before.object next))) :=
    of_setObject coherent member ((coherent.opened next member).takeOver candidate)
      (coherent.listed next member) rfl id
  refine taken.trans (of_setObject taken.coherent listed ?_ (taken.coherent.listed slot listed) rfl id)
  exact (taken.coherent.opened slot listed).of_same rfl (.inr rfl) fun explicit => by simp [explicit] at master

theorem of_closed (coherent : Coherent before)
    (callable : (before.object slot).connectionCloseFunction ≠ none) (closed : Stack.Closed before slot after) :
    Continues (fun other => ¬ Coherent.EndsWith slot other) before after ∧
      slot ∉ after.connectionList.toList := by
  have ended {from_ : Stack config} {gone : List (Slot config)} (removes : Stack.Removes from_ after gone)
      (member : slot ∈ gone) : slot ∉ after.connectionList.toList := by
    rw [removes.toList, List.mem_filter]
    simp [member]
  cases closed with
  | alone passive removes =>
      refine ⟨of_removes coherent removes ?_, ended removes (by simp)⟩
      simp [Coherent.EndsWith]
  | succeeded next controls successor removes =>
      have listed := coherent.listed_of_controls controls callable
      have handed : Continues (fun other => ¬ Coherent.EndsWith slot other) before (before.handedOver slot next) :=
        of_handedOver coherent listed controls successor
      refine ⟨handed.trans (of_removes handed.coherent removes ?_), ended removes (by simp)⟩
      simp [Coherent.EndsWith]
  | last controls nobody removes =>
      have listed := coherent.listed_of_controls controls callable
      refine ⟨of_removes coherent removes fun other member keep => keep ?_, ended removes (by simp)⟩
      obtain listener | self := List.mem_append.mp member
      · obtain ⟨listedToo, listens⟩ := List.mem_filter.mp listener
        simp only [Stack.hasTypeAndInput, Bool.and_eq_true, beq_iff_eq] at listens
        exact .inr ⟨(coherent.opened other listedToo).instanceType.symm.trans listens.1,
          coherent.master_of_controls listed controls⟩
      · exact .inl (List.mem_singleton.mp self)

theorem of_connectionCloseFunction (coherent : Coherent before) :
    Settles (before.connectionCloseFunction slot)
      (fun after => Continues (fun other => ¬ Coherent.EndsWith slot other) before after ∧
        slot ∉ after.connectionList.toList) (· ≠ .nullNode) := by
  by_cases callable : (before.object slot).connectionCloseFunction = none
  · simp [Stack.connectionCloseFunction, Stack.callCloseFunction, callable]
  · obtain ⟨after, done, closed⟩ := coherent.connectionCloseFunction_closed callable
    rw [done]
    exact of_closed coherent callable closed

end Continues

end EtherNetIP
