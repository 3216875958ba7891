import EtherNetIP.Application.NonVolatile
import EtherNetIP.Cip.SetAttribute
import EtherNetIP.Library.SavedCopies

/-! The values of the QoS object over requests, resets and restarts.

A request to set an attribute stores all values, even if it has been refused. A
reset puts the values in use; one to the initial configuration sets them back
before that, and does not store them, so the values from before come back with
the next restart.
-/

set_option autoImplicit false

namespace EtherNetIP

open Library

section Device

def qosClassWithStorage : Except Fault AttributeClass :=
  (·.insertGetSetCallback .nvQosSetCallback kNvDataFunc) <$> cipQoSInit

structure QosDevice where
  cipClass : AttributeClass
  inst : CipInstance
  created : qosClassWithStorage = .ok cipClass
  found : cipClass.getCipInstance 1 = some inst
  device : CipDevice
  activeDscp : CipQosDscpValues
  file : StoredText

inductive QosOperation where
  | setAttributeSingle (environment : ServiceEnvironment) (request : CipMessageRouterRequest) (write : FileWrite)
  | resetDevice
  | resetDeviceToInitialConfiguration
  | restart (read : FileRead) (write : FileWrite)

namespace QosDevice

def gQos (qos : QosDevice) : CipQosObject := qos.device.memory.gQos

/-- The values are stored when the service has called for it. -/
def setAttributeSingle (qos : QosDevice) (environment : ServiceEnvironment) (request : CipMessageRouterRequest)
    (write : FileWrite) : Option QosDevice :=
  (EtherNetIP.setAttributeSingle environment qos.cipClass qos.inst request { qos.device with calls := [] }).map
    fun (_, device) =>
      { qos with
        device
        file := if .nvQosStore ∈ device.calls then (nvQosStore write device.memory qos.file).2 else qos.file }

def cipQosUpdateUsedSetQosValues (qos : QosDevice) : QosDevice := { qos with activeDscp := qos.gQos.dscp }

/-- The connections are closed as well. -/
def resetDevice (qos : QosDevice) : QosDevice := qos.cipQosUpdateUsedSetQosValues

def resetDeviceToInitialConfiguration (qos : QosDevice) : QosDevice :=
  let timeout : CipPointer .word := ⟨.tcpipEncapsulationInactivityTimeout⟩
  let memory := qos.device.memory.write timeout (120 : UInt16)
  resetDevice { qos with device.memory := memory.cipQosResetAttributesToDefaultValues }

/-- The object as it is loaded, the values from the file, and `NetworkHandlerInitialize`, which puts them in use. -/
def restart (qos : QosDevice) (read : FileRead) (write : FileWrite) : QosDevice :=
  let (_, memory, file) := nvdataLoad read write qos.file qos.device.memory.cipQosResetAttributesToDefaultValues
  cipQosUpdateUsedSetQosValues { qos with device := ⟨memory, []⟩, activeDscp := .defaults, file }

/-- None is a call through a null pointer. -/
def step (qos : QosDevice) : QosOperation → Option QosDevice
  | .setAttributeSingle environment request write => qos.setAttributeSingle environment request write
  | .resetDevice => some qos.resetDevice
  | .resetDeviceToInitialConfiguration => some qos.resetDeviceToInitialConfiguration
  | .restart read write => some (qos.restart read write)

def run (qos : QosDevice) (operations : List QosOperation) : Option QosDevice := operations.foldlM step qos

theorem run_cons {qos next : QosDevice} {operation : QosOperation} (stepped : qos.step operation = some next)
    (operations : List QosOperation) : qos.run (operation :: operations) = next.run operations := by
  rw [run, List.foldlM_cons, stepped]
  rfl

theorem resetDeviceToInitialConfiguration_gQos (qos : QosDevice) :
    qos.resetDeviceToInitialConfiguration.gQos = ⟨0, .defaults⟩ :=
  CipMemory.gQos_reset _

end QosDevice

end Device

section Service

variable {cipClass : AttributeClass} {inst : CipInstance} {request : CipMessageRouterRequest} {device : CipDevice}
  {environment : ServiceEnvironment} {attributeNumber : UInt16} {name : Variable}

def qosVariables : List (UInt16 × Variable) :=
  [(4, .qosDscpUrgent), (5, .qosDscpScheduled), (6, .qosDscpHigh), (7, .qosDscpLow), (8, .qosDscpExplicitMsg)]

def qosVariable (attributeNumber : UInt16) : Option Variable := qosVariables.lookup attributeNumber

def CipMemory.qosSet (memory : CipMemory) (name : Variable) (value : UInt8) : CipMemory :=
  if value < 64 then memory.assign name value else memory

theorem qosVariable_cases (known : qosVariable attributeNumber = some name) :
    (attributeNumber, name) ∈ qosVariables := by
  obtain ⟨front, behind, split, -⟩ := List.lookup_eq_some_iff.mp known
  rw [split]
  exact List.mem_append_right front List.mem_cons_self

theorem qosClass_setable (created : qosClassWithStorage = .ok cipClass) (found : cipClass.getCipInstance 1 = some inst)
    (known : qosVariable attributeNumber = some name) :
    ∃ numbered, cipClass.Setable inst attributeNumber
      (qosAttribute attributeNumber numbered name (some .cipQoSAttribute) (kGetableSingle ||| kSetable ||| kNvDataFunc))
      .cipQoSAttribute := by
  cases created
  cases found
  have listed := qosVariable_cases known
  simp only [qosVariables, List.mem_cons, List.not_mem_nil, or_false] at listed
  obtain pair | pair | pair | pair | pair := listed <;> cases pair <;> exact ⟨_, rfl, by decide, by decide, rfl⟩

theorem qosInstance_numbers (created : qosClassWithStorage = .ok cipClass)
    (found : cipClass.getCipInstance 1 = some inst) :
    inst.attributes.map AttributeEntry.attributeNumber = [1, 2, 3, 4, 5, 6, 7, 8] := by
  cases created
  cases found
  rfl

theorem qosInstance_fixed (created : qosClassWithStorage = .ok cipClass)
    (found : cipClass.getCipInstance 1 = some inst) (fixed : attributeNumber ∈ [(1 : UInt16), 2, 3]) :
    ∃ attr, inst.getCipAttribute attributeNumber = some (some attr) ∧ attr.attributeFlags = kNotSetOrGetable := by
  cases created
  cases found
  simp only [List.mem_cons, List.not_mem_nil, or_false] at fixed
  obtain rfl | rfl | rfl := fixed <;> exact ⟨_, rfl, rfl⟩

theorem qosVariable_isSome : ∀ attributeNumber ∈ [(1 : UInt16), 2, 3, 4, 5, 6, 7, 8],
    attributeNumber ∈ [(1 : UInt16), 2, 3] ∨ (qosVariable attributeNumber).isSome := by
  intro attributeNumber listed
  simp only [List.mem_cons, List.not_mem_nil, or_false] at listed ⊢
  obtain fixed | fixed | fixed | rest := listed
  · exact .inl (.inl fixed)
  · exact .inl (.inr (.inl fixed))
  · exact .inl (.inr (.inr fixed))
  · obtain rfl | rfl | rfl | rfl | rfl := rest <;> exact .inr rfl

theorem setAttributeSingle_other (created : qosClassWithStorage = .ok cipClass)
    (found : cipClass.getCipInstance 1 = some inst) (unknown : qosVariable request.requestPath.attributeNumber = none) :
    setAttributeSingle environment cipClass inst request device =
      some (emptyReply request kCipErrorAttributeNotSupported, device) := by
  unfold setAttributeSingle
  dsimp only
  by_cases fixed : request.requestPath.attributeNumber ∈ [(1 : UInt16), 2, 3]
  · obtain ⟨attr, looked, flags⟩ := qosInstance_fixed created found fixed
    rw [looked]
    dsimp only
    rw [if_pos (.inr (.inl flags))]
  -- The numbers of the attributes are those of the list, so none of them is the number asked for.
  · have free : inst.getCipAttribute request.requestPath.attributeNumber = none := by
      rw [CipInstance.getCipAttribute, List.find?_eq_none]
      intro entry listed same
      have number : entry.attributeNumber ∈ inst.attributes.map AttributeEntry.attributeNumber :=
        List.mem_map_of_mem listed
      rw [qosInstance_numbers created found, eq_of_beq same] at number
      obtain among | known := qosVariable_isSome _ number
      · exact fixed among
      · rw [unknown] at known
        cases known
    rw [free]

theorem decodeCipQoSAttribute_received (generalStatus : UInt8) (environment : ServiceEnvironment)
    (request : CipMessageRouterRequest) (device : CipDevice) (name : Variable) :
    ∃ numberOfDecodedBytes received,
      decodeCipQoSAttribute ⟨name⟩ ⟨device, .ofRequest environment request, generalStatus⟩ =
        (numberOfDecodedBytes, ⟨{ device with memory := device.memory.qosSet name (octetAt request.data 0) }, received,
          if octetAt request.data 0 < 64 then kCipErrorSuccess else kCipErrorInvalidAttributeValue⟩) := by
  unfold decodeCipQoSAttribute decodeChecked CipMemory.qosSet
  have value : (Decoding.get ⟨device, .ofRequest environment request, generalStatus⟩ getUsintFromMessage 1).1 =
      octetAt request.data 0 := rfl
  dsimp only
  rw [value]
  by_cases admitted : octetAt request.data 0 < 64
  · rw [if_pos (decide_eq_true admitted), if_pos admitted, if_pos admitted]
    exact ⟨_, _, rfl⟩
  · rw [if_neg (ne_true_of_eq_false (decide_eq_false admitted)), if_neg admitted, if_neg admitted]
    exact ⟨_, _, rfl⟩

theorem setAttributeSingle_qos (created : qosClassWithStorage = .ok cipClass)
    (found : cipClass.getCipInstance 1 = some inst)
    (known : qosVariable request.requestPath.attributeNumber = some name) :
    setAttributeSingle environment cipClass inst request device =
      some (emptyReply request
          (if octetAt request.data 0 < 64 then kCipErrorSuccess else kCipErrorInvalidAttributeValue),
        ⟨device.memory.qosSet name (octetAt request.data 0), .nvQosStore :: device.calls⟩) := by
  obtain ⟨numbered, setable⟩ := qosClass_setable created found known
  have callbacks : cipClass.preSetCallback = none ∧ cipClass.postSetCallback = some .nvQosSetCallback := by
    cases created
    exact ⟨rfl, rfl⟩
  have stores (device : CipDevice) : inst.callBack (some .nvQosSetCallback) (kPostSetFunc ||| kNvDataFunc)
      (qosAttribute request.requestPath.attributeNumber numbered name (some .cipQoSAttribute)
        (kGetableSingle ||| kSetable ||| kNvDataFunc)) request.service device = device.call .nvQosStore := by
    unfold CipInstance.callBack CipGetSetCallback.run qosAttribute
    dsimp only
    rw [if_pos (by decide), if_pos (by decide)]
  obtain ⟨_, received, decoded⟩ :=
    decodeCipQoSAttribute_received kCipErrorAttributeNotSupported environment request device name
  unfold setAttributeSingle
  dsimp only
  rw [setable.found]
  dsimp only
  rw [if_neg setable.supported, if_pos setable.masked, callbacks.1, callbacks.2]
  simp only [stores]
  change Option.map _ (some (decodeCipQoSAttribute ⟨name⟩ ⟨device, .ofRequest environment request,
    kCipErrorAttributeNotSupported⟩)) = _
  rw [decoded]
  rfl

end Service

section Refinement

variable {environment : ServiceEnvironment} {request : CipMessageRouterRequest} {name : Variable}
  {attributeNumber : UInt16} {value : UInt8}

namespace CipQosDscpValues

def assign (dscp : CipQosDscpValues) (value : UInt8) : Variable → CipQosDscpValues
  | .qosDscpUrgent => { dscp with urgent := value }
  | .qosDscpScheduled => { dscp with scheduled := value }
  | .qosDscpHigh => { dscp with high := value }
  | .qosDscpLow => { dscp with low := value }
  | .qosDscpExplicitMsg => { dscp with explicitMsg := value }
  | _ => dscp

def qosSet (dscp : CipQosDscpValues) (name : Variable) (value : UInt8) : CipQosDscpValues :=
  if value < 64 then dscp.assign value name else dscp

theorem qosSet_fixed (dscp : CipQosDscpValues) (name : Variable) (value : UInt8) :
    (dscp.qosSet name value).event = dscp.event ∧ (dscp.qosSet name value).general = dscp.general := by
  unfold qosSet
  split
  · cases name <;> exact ⟨rfl, rfl⟩
  · exact ⟨rfl, rfl⟩

end CipQosDscpValues

namespace QosOperation

def Complete : QosOperation → Prop
  | .setAttributeSingle _ _ write => write = .complete
  | .restart read write => read = .complete ∧ write = .complete
  | .resetDevice | .resetDeviceToInitialConfiguration => True

def stores : QosOperation → Bool
  | .setAttributeSingle _ request _ => (qosVariable request.requestPath.attributeNumber).isSome
  | _ => false

def activates : QosOperation → Bool
  | .setAttributeSingle _ _ _ => false
  | _ => true

def event : QosOperation → CopyEvent CipQosDscpValues
  | .setAttributeSingle _ request _ =>
      match qosVariable request.requestPath.attributeNumber with
      | none => .ignore
      | some name => .change fun dscp => dscp.qosSet name (octetAt request.data 0)
  | .resetDevice => .activate
  | .resetDeviceToInitialConfiguration => .setBack
  | .restart _ _ => .restart

theorem event_changes (operation : QosOperation) : operation.event.changes = operation.stores := by
  cases operation with
  | setAttributeSingle environment request write =>
      dsimp only [event, stores]
      cases qosVariable request.requestPath.attributeNumber with
      | none => rfl
      | some name => rfl
  | resetDevice | resetDeviceToInitialConfiguration | restart => rfl

theorem event_activates (operation : QosOperation) : operation.event.activates = operation.activates := by
  cases operation with
  | setAttributeSingle environment request write =>
      dsimp only [event, activates]
      cases qosVariable request.requestPath.attributeNumber with
      | none => rfl
      | some name => rfl
  | resetDevice | resetDeviceToInitialConfiguration | restart => rfl

end QosOperation

theorem CipMemory.gQos_qosSet (memory : CipMemory) (known : qosVariable attributeNumber = some name) :
    (memory.qosSet name value).gQos = { memory.gQos with dscp := memory.gQos.dscp.qosSet name value } := by
  have listed := qosVariable_cases known
  simp only [qosVariables, List.mem_cons, List.not_mem_nil, or_false] at listed
  unfold qosSet CipQosDscpValues.qosSet
  split
  · obtain pair | pair | pair | pair | pair := listed <;> cases pair <;>
      simp [gQos, assign_octet, CipQosDscpValues.assign]
  · rfl

namespace QosDevice

structure Regular (qos : QosDevice) : Prop where
  qFramesEnable : qos.gQos.qFramesEnable = 0
  event : qos.gQos.dscp.event = CipQosDscpValues.defaults.event
  general : qos.gQos.dscp.general = CipQosDscpValues.defaults.general

def copies (qos : QosDevice) : Copies CipQosDscpValues where
  current := qos.gQos.dscp
  active := qos.activeDscp
  saved := qos.file.bind fun text => storedValues .defaults (fscanf text)

theorem setAttributeSingle_eq (qos : QosDevice) (environment : ServiceEnvironment) (request : CipMessageRouterRequest)
    (write : FileWrite) :
    qos.setAttributeSingle environment request write =
      some (match qosVariable request.requestPath.attributeNumber with
        | none => { qos with device.calls := [] }
        | some name =>
            { qos with
              device := ⟨qos.device.memory.qosSet name (octetAt request.data 0), [.nvQosStore]⟩
              file := (nvQosStore write (qos.device.memory.qosSet name (octetAt request.data 0)) qos.file).2 }) := by
  unfold setAttributeSingle
  cases known : qosVariable request.requestPath.attributeNumber with
  | none =>
      rw [setAttributeSingle_other qos.created qos.found known]
      rfl
  | some name =>
      rw [setAttributeSingle_qos qos.created qos.found known]
      rfl

theorem set_copies {qos : QosDevice} (regular : qos.Regular) (known : qosVariable attributeNumber = some name)
    (calls : List DeviceCall) :
    let memory := qos.device.memory.qosSet name value
    let next : QosDevice := { qos with device := ⟨memory, calls⟩, file := (nvQosStore .complete memory qos.file).2 }
    next.Regular ∧
      next.copies = qos.copies.step .defaults (.change fun dscp => dscp.qosSet name value) := by
  intro memory next
  have object : next.gQos = { qos.gQos with dscp := qos.gQos.dscp.qosSet name value } :=
    qos.device.memory.gQos_qosSet known
  have fixed := qos.gQos.dscp.qosSet_fixed name value
  have kept : next.Regular := by
    constructor
    · rw [object, regular.qFramesEnable]
    · rw [object, fixed.1, regular.event]
    · rw [object, fixed.2, regular.general]
  -- The file has no place for the two values that cannot be set; loading leaves the defaults.
  have saved : next.copies.saved = some next.gQos.dscp := by
    change storedValues .defaults (fscanf (fprintf next.gQos.dscp)) = some next.gQos.dscp
    rw [storedValues_fprintf, ← kept.event, ← kept.general]
  refine ⟨kept, ?_⟩
  rw [object] at saved
  exact Copies.ext (congrArg CipQosObject.dscp object) rfl saved

theorem nvQosLoad_complete (text : List Char) (memory : CipMemory) :
    nvQosLoad .complete (some text) memory =
      match storedValues memory.gQos.dscp (fscanf text) with
      | none => (.error, memory)
      | some dscp => (.ok, memory.assignStored dscp) := by
  unfold nvQosLoad
  exact if_pos ⟨rfl, rfl⟩

theorem nvdataLoad_complete (file : StoredText) (memory : CipMemory) :
    nvdataLoad .complete .complete file memory =
      match file.bind fun text => storedValues memory.gQos.dscp (fscanf text) with
      | none => (.error, memory, file)
      | some dscp => (.ok, memory.assignStored dscp, some (fprintf (memory.assignStored dscp).gQos.dscp)) := by
  cases file with
  | none => rfl
  | some text =>
      unfold nvdataLoad
      rw [nvQosLoad_complete, Option.bind_some]
      cases storedValues memory.gQos.dscp (fscanf text) with
      | none => rfl
      | some dscp => rfl

theorem restart_copies (qos : QosDevice) :
    (qos.restart .complete .complete).Regular ∧
      (qos.restart .complete .complete).copies = qos.copies.step .defaults .restart := by
  unfold restart
  rw [nvdataLoad_complete]
  have reset : qos.device.memory.cipQosResetAttributesToDefaultValues.gQos = ⟨0, .defaults⟩ := CipMemory.gQos_reset _
  rw [reset]
  dsimp only
  cases loaded : qos.file.bind fun text => storedValues .defaults (fscanf text) with
  | none =>
      constructor
      · constructor <;> simp [cipQosUpdateUsedSetQosValues, gQos]
      · simp [cipQosUpdateUsedSetQosValues, gQos, copies, Copies.step, Copies.start, loaded]
  | some dscp =>
      obtain ⟨text, -, taken⟩ := Option.bind_eq_some_iff.mp loaded
      obtain ⟨-, event, general⟩ := storedValues_eq_some_iff.mp taken
      have object : (qos.device.memory.cipQosResetAttributesToDefaultValues.assignStored dscp).gQos = ⟨0, dscp⟩ := by
        rw [CipMemory.gQos_assignStored, reset, ← event, ← general]
      constructor
      · constructor <;> simp [cipQosUpdateUsedSetQosValues, gQos, object, event, general]
      · simp [cipQosUpdateUsedSetQosValues, gQos, copies, Copies.step, Copies.start, loaded, object,
          storedValues_fprintf, ← event, ← general]

theorem step_copies {qos : QosDevice} {operation : QosOperation} (regular : qos.Regular)
    (complete : operation.Complete) :
    ∃ next, qos.step operation = some next ∧ next.Regular ∧
      next.copies = qos.copies.step .defaults operation.event := by
  cases operation with
  | setAttributeSingle environment request write =>
      cases complete
      dsimp only [step, QosOperation.event]
      rw [setAttributeSingle_eq]
      cases known : qosVariable request.requestPath.attributeNumber with
      | none => exact ⟨_, rfl, ⟨regular.qFramesEnable, regular.event, regular.general⟩, rfl⟩
      | some name => exact ⟨_, rfl, set_copies regular known _⟩
  | resetDevice => exact ⟨_, rfl, ⟨regular.qFramesEnable, regular.event, regular.general⟩, rfl⟩
  | resetDeviceToInitialConfiguration =>
      have object := qos.resetDeviceToInitialConfiguration_gQos
      refine ⟨_, rfl, ?_, ?_⟩
      · constructor <;> rw [object]
      · have active : qos.resetDeviceToInitialConfiguration.activeDscp = .defaults := congrArg CipQosObject.dscp object
        exact Copies.ext (congrArg CipQosObject.dscp object) active rfl
  | restart read write =>
      obtain ⟨rfl, rfl⟩ := complete
      exact ⟨_, rfl, qos.restart_copies⟩

theorem run_copies {qos : QosDevice} {operations : List QosOperation} (regular : qos.Regular)
    (complete : ∀ operation ∈ operations, operation.Complete) :
    ∃ final, qos.run operations = some final ∧ final.Regular ∧
      final.copies = qos.copies.run .defaults (operations.map QosOperation.event) := by
  induction operations generalizing qos with
  | nil => exact ⟨qos, rfl, regular, rfl⟩
  | cons operation operations hyp =>
      rw [List.forall_mem_cons] at complete
      obtain ⟨next, stepped, kept, copied⟩ := step_copies regular complete.1
      obtain ⟨final, done, ends, same⟩ := hyp kept complete.2
      refine ⟨final, (run_cons stepped operations).trans done, ends, ?_⟩
      rw [same, copied]
      rfl

theorem rdropWhile_map (event : QosOperation → CopyEvent CipQosDscpValues) (test : CopyEvent CipQosDscpValues → Bool)
    (operations : List QosOperation) :
    (operations.map event).rdropWhile test =
      (operations.rdropWhile fun operation => test (event operation)).map event := by
  rw [List.rdropWhile, List.rdropWhile, ← List.map_reverse, List.dropWhile_map, ← List.map_reverse]
  rfl

/-- After a restart the values are those behind the last request that stored them, and those in use are the values
behind the last reset or restart. -/
theorem values_restored (qos : QosDevice) (operations : List QosOperation)
    (complete : ∀ operation ∈ operations, operation.Complete) :
    ∃ final stored activated,
      (qos.restart .complete .complete).run operations = some final ∧
      (qos.restart .complete .complete).run (operations.rdropWhile (!·.stores)) = some stored ∧
      (qos.restart .complete .complete).run (operations.rdropWhile (!·.activates)) = some activated ∧
      (final.restart .complete .complete).gQos = stored.gQos ∧ final.activeDscp = activated.gQos.dscp := by
  obtain ⟨regular, started⟩ := qos.restart_copies
  have front (test : QosOperation → Bool) : ∀ operation ∈ operations.rdropWhile test, operation.Complete :=
    fun operation listed => complete operation ((List.rdropWhile_prefix test operations).subset listed)
  obtain ⟨final, done, -, ends⟩ := run_copies regular complete
  obtain ⟨stored, storedBy, kept, stands⟩ := run_copies regular (front fun operation => !operation.stores)
  obtain ⟨activated, activatedBy, -, used⟩ :=
    run_copies regular (front fun operation => !operation.activates)
  have start : (qos.restart .complete .complete).copies = Copies.start .defaults qos.copies.saved := started
  refine ⟨final, stored, activated, done, storedBy, activatedBy, ?_, ?_⟩
  · obtain ⟨again, restarted⟩ := final.restart_copies
    have dscp : (final.restart .complete .complete).gQos.dscp = stored.gQos.dscp := calc
      (final.restart .complete .complete).copies.current
      _ = final.copies.saved.getD .defaults := congrArg Copies.current restarted
      _ = stored.copies.current := by
        rw [ends, stands, start, Copies.saved_run, rdropWhile_map]
        simp only [QosOperation.event_changes]
    have frames := again.qFramesEnable.trans kept.qFramesEnable.symm
    exact CipQosObject.ext frames dscp
  · change final.copies.active = activated.copies.current
    rw [ends, used, start, Copies.active_run, rdropWhile_map]
    simp only [QosOperation.event_activates]

/-- A value that has been set is there again after a reset to the initial configuration and a restart. -/
theorem values_restored_after_reset :
    ∃ qos final stored : QosDevice,
      (qos.restart .complete .complete).run
        [.setAttributeSingle quietEnvironment (setRequest kCipQoSClassCode 1 4 [27]) .complete,
          .resetDeviceToInitialConfiguration] = some final ∧
      (qos.restart .complete .complete).run
        [.setAttributeSingle quietEnvironment (setRequest kCipQoSClassCode 1 4 [27]) .complete] = some stored ∧
      (final.restart .complete .complete).gQos = stored.gQos ∧
      final.activeDscp = final.gQos.dscp := by
  let qos : QosDevice := ⟨_, _, rfl, rfl, clearedDevice, .defaults, none⟩
  have complete : ∀ operation ∈ [.setAttributeSingle quietEnvironment (setRequest kCipQoSClassCode 1 4 [27]) .complete,
      .resetDeviceToInitialConfiguration], QosOperation.Complete operation := by
    rw [List.forall_mem_cons, List.forall_mem_singleton]
    exact ⟨rfl, trivial⟩
  obtain ⟨final, stored, activated, done, storedBy, activatedBy, restored, used⟩ := qos.values_restored _ complete
  have same : activated = final := Option.some.inj (activatedBy.symm.trans done)
  exact ⟨qos, final, stored, done, storedBy, restored, same ▸ used⟩

end QosDevice

end Refinement

section Bounds

variable {memory : CipMemory} {file : StoredText}

namespace CipQosDscpValues

structure Fits (dscp : CipQosDscpValues) : Prop where
  event : dscp.event < 64
  general : dscp.general < 64
  stored : ∀ value ∈ dscp.stored, value < 64

/-- The octet that `SetQosOnSocket` makes of the value for a priority. -/
def typeOfService (activeDscp : CipQosDscpValues) (priority : Option ConnectionObjectPriority) : Nat :=
  (activeDscp.cipQosGetDscpPriority priority).toNat <<< 2

theorem defaults_fits : defaults.Fits := by
  refine ⟨by decide, by decide, ?_⟩
  simp only [CipQosDscpValues.stored, List.forall_mem_cons]
  exact ⟨by decide, by decide, by decide, by decide, by decide, List.forall_mem_nil _⟩

theorem Fits.qosSet {dscp : CipQosDscpValues} (fits : dscp.Fits) (name : Variable) (value : UInt8) :
    (dscp.qosSet name value).Fits := by
  obtain ⟨event, general, stored⟩ := fits
  obtain ⟨sameEvent, sameGeneral⟩ := dscp.qosSet_fixed name value
  refine ⟨sameEvent ▸ event, sameGeneral ▸ general, ?_⟩
  unfold CipQosDscpValues.qosSet
  split
  · next admitted =>
      simp only [CipQosDscpValues.stored, List.forall_mem_cons] at stored ⊢
      unfold assign
      split <;> simp_all
  · exact stored

theorem Fits.typeOfService_lt {dscp : CipQosDscpValues} (fits : dscp.Fits)
    (priority : Option ConnectionObjectPriority) : dscp.typeOfService priority < 256 := by
  have stored := fits.stored
  simp only [CipQosDscpValues.stored, List.forall_mem_cons] at stored
  have small : dscp.cipQosGetDscpPriority priority < 64 := by
    unfold cipQosGetDscpPriority
    split
    · exact stored.2.2.2.1
    · exact stored.2.2.1
    · exact stored.2.1
    · exact stored.1
    · exact stored.2.2.2.2.1
  rw [UInt8.lt_iff_toNat_lt] at small
  rw [typeOfService, Nat.shiftLeft_eq]
  change _ < 64 at small
  omega

end CipQosDscpValues

/-- The file holds a front of what has been printed for values of at most six bits. -/
def StoredText.Sound (file : StoredText) : Prop :=
  ∀ text ∈ file, ∃ dscp length, (∀ value ∈ CipQosDscpValues.stored dscp, value < 64) ∧ text = (fprintf dscp).take length

theorem nvQosStore_sound (fits : memory.gQos.dscp.Fits) (sound : file.Sound) (write : FileWrite) :
    StoredText.Sound (nvQosStore write memory file).2 := by
  change StoredText.Sound (write.leaves _ file)
  unfold FileWrite.leaves
  split
  · intro text left
    cases left
    cases cut : write.cutOff with
    | none => exact ⟨_, (fprintf memory.gQos.dscp).length, fits.stored, (List.take_length).symm⟩
    | some length => exact ⟨_, length, fits.stored, rfl⟩
  · exact sound

theorem lt_of_forall₂ {values limits : List UInt8} {bound : UInt8} (least : List.Forall₂ (· ≤ ·) values limits)
    (small : ∀ limit ∈ limits, limit < bound) : ∀ value ∈ values, value < bound := by
  induction least with
  | nil => simp
  | cons most rest hyp =>
      rw [List.forall_mem_cons] at small ⊢
      exact ⟨UInt8.lt_of_le_of_lt most small.1, hyp small.2⟩

theorem nvQosLoad_fits (fits : memory.gQos.dscp.Fits) (sound : file.Sound) (read : FileRead) :
    (nvQosLoad read file memory).2.gQos.dscp.Fits := by
  unfold nvQosLoad
  cases file with
  | none => exact fits
  | some text =>
      dsimp only
      split
      · cases taken : storedValues memory.gQos.dscp (fscanf text) with
        | none => exact fits
        | some dscp =>
            dsimp only
            rw [CipMemory.gQos_assignStored]
            refine ⟨fits.event, fits.general, ?_⟩
            obtain ⟨printed, length, small, rfl⟩ := sound text rfl
            have least := storedValues_front taken
            exact lt_of_forall₂ least small
      · exact fits

theorem nvdataLoad_bounded (fits : memory.gQos.dscp.Fits) (sound : file.Sound) (read : FileRead) (write : FileWrite) :
    (nvdataLoad read write file memory).2.1.gQos.dscp.Fits ∧
      StoredText.Sound (nvdataLoad read write file memory).2.2 := by
  have loaded := nvQosLoad_fits fits sound read
  unfold nvdataLoad
  dsimp only
  split
  · exact ⟨loaded, nvQosStore_sound loaded sound write⟩
  · exact ⟨loaded, sound⟩

namespace QosDevice

structure Bounded (qos : QosDevice) : Prop where
  object : qos.gQos.dscp.Fits
  active : qos.activeDscp.Fits
  file : qos.file.Sound

theorem restart_bounded {qos : QosDevice} (sound : qos.file.Sound) (read : FileRead) (write : FileWrite) :
    (qos.restart read write).Bounded := by
  have fits : qos.device.memory.cipQosResetAttributesToDefaultValues.gQos.dscp.Fits := by
    rw [CipMemory.gQos_reset]
    exact CipQosDscpValues.defaults_fits
  obtain ⟨object, file⟩ := nvdataLoad_bounded fits sound read write
  exact ⟨object, object, file⟩

theorem step_bounded {qos : QosDevice} (bounded : qos.Bounded) (operation : QosOperation) :
    ∃ next, qos.step operation = some next ∧ next.Bounded := by
  cases operation with
  | setAttributeSingle environment request write =>
      dsimp only [step]
      rw [setAttributeSingle_eq]
      cases known : qosVariable request.requestPath.attributeNumber with
      | none => exact ⟨_, rfl, bounded.object, bounded.active, bounded.file⟩
      | some name =>
          have fits : (qos.device.memory.qosSet name (octetAt request.data 0)).gQos.dscp.Fits := by
            rw [CipMemory.gQos_qosSet _ known]
            exact bounded.object.qosSet name _
          exact ⟨_, rfl, fits, bounded.active, nvQosStore_sound fits bounded.file write⟩
  | resetDevice => exact ⟨_, rfl, bounded.object, bounded.object, bounded.file⟩
  | resetDeviceToInitialConfiguration =>
      have fits : qos.resetDeviceToInitialConfiguration.gQos.dscp.Fits := by
        rw [resetDeviceToInitialConfiguration_gQos]
        exact CipQosDscpValues.defaults_fits
      exact ⟨_, rfl, fits, fits, bounded.file⟩
  | restart read write => exact ⟨_, rfl, restart_bounded bounded.file read write⟩

theorem run_bounded {qos : QosDevice} (bounded : qos.Bounded) (operations : List QosOperation) :
    ∃ final, qos.run operations = some final ∧ final.Bounded := by
  induction operations generalizing qos with
  | nil => exact ⟨qos, rfl, bounded⟩
  | cons operation operations hyp =>
      obtain ⟨next, stepped, kept⟩ := step_bounded bounded operation
      obtain ⟨final, done, ends⟩ := hyp kept
      exact ⟨final, (run_cons stepped operations).trans done, ends⟩

/-- From the first start on no value ever has more than six bits, and that in the octet of the type of service none is
lost, whatever becomes of the accesses to the file and wherever the text in it has been cut off. What the file holds
is a front of a text that was printed, and is refused or read as values none of which is greater. -/
theorem values_fit (qos : QosDevice) (read : FileRead) (write : FileWrite) (operations : List QosOperation) :
    ∃ final, (restart { qos with file := none } read write).run operations = some final ∧ final.gQos.dscp.Fits ∧
      final.activeDscp.Fits ∧ (∀ priority, final.activeDscp.typeOfService priority < 256) ∧
      ∀ text ∈ final.file, ∃ printed length, text = (fprintf printed).take length ∧
        ∀ loaded, storedValues .defaults (fscanf text) = some loaded →
          List.Forall₂ (· ≤ ·) loaded.stored printed.stored := by
  have sound : StoredText.Sound none := by
    intro text left
    cases left
  have bounded : (restart { qos with file := none } read write).Bounded := restart_bounded sound read write
  obtain ⟨final, done, ends⟩ := run_bounded bounded operations
  refine ⟨final, done, ends.object, ends.active, ends.active.typeOfService_lt, ?_⟩
  intro text held
  obtain ⟨printed, length, -, rfl⟩ := ends.file text held
  exact ⟨printed, length, rfl, fun loaded taken => storedValues_front taken⟩

end QosDevice

end Bounds

end EtherNetIP
