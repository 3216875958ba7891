import EtherNetIP.Application.QosPersistence

/-! What becomes of the values of the QoS object when the device is started again.

They are to be there as they were before, or the defaults if there is no file to
load them from; then the file is to be written anew. A file that cannot be loaded
is left as it is, one that cannot be opened for writing passes as written, and
the values from before a reset to the initial configuration come back.
-/

set_option autoImplicit false

namespace EtherNetIP

open Library

section Starts

variable {operation : QosOperation} {operations earlier middle later : List QosOperation} {read : FileRead}
  {write : FileWrite} {file : StoredText}

namespace QosOperation

def start : QosOperation := .restart .complete .complete

/-- No request that stores the values, and no restart. -/
def leavesFile : QosOperation → Bool
  | .setAttributeSingle _ request _ => (qosVariable request.requestPath.attributeNumber).isNone
  | .resetDevice | .resetDeviceToInitialConfiguration => true
  | .restart _ _ => false

theorem event_leavesSaved (operation : QosOperation) : operation.event.leavesSaved = operation.leavesFile := by
  cases operation with
  | setAttributeSingle environment request write =>
      dsimp only [event, leavesFile]
      cases qosVariable request.requestPath.attributeNumber with
      | none => rfl
      | some name => rfl
  | resetDevice | resetDeviceToInitialConfiguration | restart => rfl

theorem event_eq_setBack (setBack : operation.event = .setBack) : operation = .resetDeviceToInitialConfiguration := by
  cases operation with
  | setAttributeSingle environment request write =>
      dsimp only [event] at setBack
      cases known : qosVariable request.requestPath.attributeNumber with
      | none =>
          rw [known] at setBack
          cases setBack
      | some name =>
          rw [known] at setBack
          cases setBack
  | resetDeviceToInitialConfiguration => rfl
  | resetDevice | restart => cases setBack

end QosOperation

/-- Five numbers that are octets stand in the file, and it can be read. -/
def Loadable (read : FileRead) (file : StoredText) : Prop :=
  read = .complete ∧ ∃ text ∈ file, (storedValues .defaults (fscanf text)).isSome = true

def FileWrite.Succeeds (write : FileWrite) : Prop := write.opened = true ∧ write.printed = true ∧ write.closed = true

namespace QosDevice

/-- What is returned where the values are stored, if the operation stores them. -/
def storing (qos : QosDevice) : QosOperation → Option (FileWrite × EipStatus)
  | .setAttributeSingle environment request write =>
      (qos.setAttributeSingle environment request write).bind fun next =>
        if .nvQosStore ∈ next.device.calls then some (write, (nvQosStore write next.device.memory qos.file).1) else none
  | .restart read write =>
      let memory := qos.device.memory.cipQosResetAttributesToDefaultValues
      if (nvQosLoad read qos.file memory).1 ≠ .error then
        some (write, (nvdataLoad read write qos.file memory).1)
      else none
  | .resetDevice | .resetDeviceToInitialConfiguration => none

/-- The values persist over a run, whichever of the accesses to the file fail. -/
structure ValuesPersist (qos : QosDevice) (operations : List QosOperation) : Prop where
  restored : ∀ earlier middle later, operations = earlier ++ .start :: (middle ++ .start :: later) →
    (∀ operation ∈ middle, operation.Complete) →
    ∃ before, qos.run (earlier ++ .start :: middle) = some before ∧
      (before.restart .complete .complete).gQos = before.gQos
  replaced : ∀ earlier later read write, operations = earlier ++ .restart read write :: later →
    ∃ before, qos.run earlier = some before ∧
      (¬ Loadable read before.file → (before.restart read write).gQos = ⟨0, .defaults⟩ ∧
        (write = .complete → (before.restart read write).file = some (fprintf .defaults)))
  reported : ∀ earlier operation later, operations = earlier ++ operation :: later →
    ∃ before, qos.run earlier = some before ∧
      ∀ write status, before.storing operation = some (write, status) → ¬ write.Succeeds → status = .error
  activated : ∀ earlier operation later, operations = earlier ++ operation :: later → operation.activates = false →
    ∃ before after, qos.run earlier = some before ∧ before.step operation = some after ∧
      after.activeDscp = before.activeDscp

/-- Between two starts the accesses to the file have succeeded, and the values have been set back without being stored
since. -/
structure SetBack (operations earlier front back : List QosOperation) : Prop where
  order : ∃ later, operations =
    earlier ++ .start :: ((front ++ .resetDeviceToInitialConfiguration :: back) ++ .start :: later)
  front : ∀ operation ∈ front, operation.Complete
  back : ∀ operation ∈ back, operation.Complete ∧ operation.leavesFile = true

/-- Only defaults are set back before a start, every start finds a file it can load, and the file can be opened whenever
the values are to be stored. -/
structure FileServes (qos : QosDevice) (operations : List QosOperation) : Prop where
  setBack : ∀ earlier front back before, SetBack operations earlier front back →
    qos.run (earlier ++ .start :: front) = some before → before.gQos.dscp = .defaults
  loaded : ∀ earlier later read before, operations = earlier ++ .restart read .complete :: later →
    qos.run earlier = some before → Loadable read before.file ∨ before.file = some (fprintf .defaults)
  requests : ∀ environment request write, .setAttributeSingle environment request write ∈ operations →
    (qosVariable request.requestPath.attributeNumber).isSome = true → write.opened = true
  starts : ∀ earlier later read write before, operations = earlier ++ .restart read write :: later →
    qos.run earlier = some before → Loadable read before.file → write.opened = true

theorem run_append (qos : QosDevice) (front back : List QosOperation) :
    qos.run (front ++ back) = (qos.run front).bind fun next => next.run back :=
  List.foldlM_append

theorem step_total (qos : QosDevice) (operation : QosOperation) : ∃ next, qos.step operation = some next := by
  cases operation with
  | setAttributeSingle environment request write => exact ⟨_, setAttributeSingle_eq ..⟩
  | resetDevice | resetDeviceToInitialConfiguration | restart => exact ⟨_, rfl⟩

theorem run_total (qos : QosDevice) (operations : List QosOperation) : ∃ final, qos.run operations = some final := by
  induction operations generalizing qos with
  | nil => exact ⟨qos, rfl⟩
  | cons operation operations hyp =>
      obtain ⟨next, stepped⟩ := qos.step_total operation
      obtain ⟨final, done⟩ := hyp next
      exact ⟨final, (run_cons stepped operations).trans done⟩

theorem run_start {qos reached : QosDevice} (done : qos.run earlier = some reached) (middle : List QosOperation) :
    qos.run (earlier ++ .start :: middle) = (reached.restart .complete .complete).run middle := by
  rw [run_append, done]
  exact run_cons rfl middle

theorem restart_gQos_iff {before : QosDevice} (regular : before.Regular) :
    (before.restart .complete .complete).gQos = before.gQos ↔ before.copies.InStep .defaults := by
  obtain ⟨again, restarted⟩ := before.restart_copies
  have loaded : (before.restart .complete .complete).gQos.dscp = before.copies.saved.getD .defaults :=
    congrArg Copies.current restarted
  unfold Copies.InStep
  rw [← loaded]
  constructor
  · exact congrArg CipQosObject.dscp
  · exact CipQosObject.ext (again.qFramesEnable.trans regular.qFramesEnable.symm)

theorem restart_inStep (qos : QosDevice) : (qos.restart .complete .complete).copies.InStep .defaults := by
  rw [qos.restart_copies.2]
  exact (rfl : (Copies.start .defaults qos.copies.saved).InStep .defaults)

theorem restored_iff {started before : QosDevice} (regular : started.Regular)
    (inStep : started.copies.InStep .defaults) (complete : ∀ operation ∈ middle, operation.Complete)
    (done : started.run middle = some before) :
    (before.restart .complete .complete).gQos = before.gQos ↔
      ∀ front back, middle = front ++ .resetDeviceToInitialConfiguration :: back →
        (∀ operation ∈ back, operation.leavesFile = true) →
        ∀ reached, started.run front = some reached → reached.gQos.dscp = .defaults := by
  have value {front : List QosOperation} {reached : QosDevice} (run : started.run front = some reached)
      (complete : ∀ operation ∈ front, operation.Complete) :
      reached.Regular ∧ reached.copies = started.copies.run .defaults (front.map QosOperation.event) := by
    obtain ⟨final, there, kept, copied⟩ := run_copies regular complete
    cases run.symm.trans there
    exact ⟨kept, copied⟩
  obtain ⟨kept, copied⟩ := value done complete
  rw [restart_gQos_iff kept, copied, Copies.inStep_run_iff inStep]
  constructor
  · rintro never front back rfl leaves reached run
    obtain ⟨completeFront, -⟩ := List.forall_mem_append.mp complete
    have same := never (front.map QosOperation.event) (back.map QosOperation.event) (by rw [List.map_append]; rfl) (by
      rw [List.forall_mem_map]
      intro operation inside
      rw [operation.event_leavesSaved]
      exact leaves operation inside)
    rw [← (value run completeFront).2] at same
    exact same
  -- A split of the events comes from one of the operations.
  · intro never front' back' split leaves
    obtain ⟨front, rest, rfl, rfl, behind⟩ := List.map_eq_append_iff.mp split
    obtain ⟨operation, back, rfl, setBack, rfl⟩ := List.map_eq_cons_iff.mp behind
    cases QosOperation.event_eq_setBack setBack
    obtain ⟨completeFront, -⟩ := List.forall_mem_append.mp complete
    obtain ⟨reached, run⟩ := started.run_total front
    rw [← (value run completeFront).2]
    refine never front back rfl (fun operation inside => ?_) reached run
    rw [← operation.event_leavesSaved]
    exact leaves _ (List.mem_map_of_mem inside)

theorem nvQosLoad_ok_iff (qos : QosDevice) (read : FileRead) :
    (nvQosLoad read qos.file qos.device.memory.cipQosResetAttributesToDefaultValues).1 ≠ .error ↔
      Loadable read qos.file := by
  unfold nvQosLoad Loadable
  rw [CipMemory.gQos_reset]
  cases qos.file with
  | none => simp
  | some text =>
      obtain ⟨opened, closed⟩ := read
      cases taken : storedValues .defaults (fscanf text) with
      | none => cases opened <;> cases closed <;> simp [FileRead.complete, taken]
      | some dscp => cases opened <;> cases closed <;> simp [FileRead.complete, taken]

theorem nvQosStore_reported_iff (write : FileWrite) (memory : CipMemory) (file : StoredText) :
    (¬ write.Succeeds → (nvQosStore write memory file).1 = .error) ↔ write.opened = true := by
  obtain ⟨opened, printed, closed, cutOff⟩ := write
  cases opened <;> cases printed <;> cases closed <;> simp [FileWrite.Succeeds, nvQosStore]

theorem nvQosLoad_failed {memory : CipMemory} (failed : (nvQosLoad read file memory).1 = .error) :
    (nvQosLoad read file memory).2 = memory := by
  unfold nvQosLoad at failed ⊢
  cases file with
  | none => rfl
  | some text =>
      dsimp only at failed ⊢
      by_cases opened : read.opened ∧ read.closed
      · rw [if_pos opened] at failed ⊢
        cases taken : storedValues memory.gQos.dscp (fscanf text) with
        | none => rfl
        | some dscp =>
            rw [taken] at failed
            cases failed
      · rw [if_neg opened]

theorem restart_of_not_loadable {qos : QosDevice} (missing : ¬ Loadable read qos.file) (write : FileWrite) :
    (qos.restart read write).gQos = ⟨0, .defaults⟩ ∧ (qos.restart read write).file = qos.file := by
  have failed := not_not.mp (mt (qos.nvQosLoad_ok_iff read).mp missing)
  have kept := nvQosLoad_failed failed
  unfold restart nvdataLoad
  dsimp only
  rw [if_neg (not_not_intro failed), kept]
  exact ⟨CipMemory.gQos_reset _, rfl⟩

theorem replaced_iff (before : QosDevice) (read : FileRead) (write : FileWrite) :
    (¬ Loadable read before.file → (before.restart read write).gQos = ⟨0, .defaults⟩ ∧
      (write = .complete → (before.restart read write).file = some (fprintf .defaults))) ↔
      (write = .complete → Loadable read before.file ∨ before.file = some (fprintf .defaults)) := by
  by_cases loadable : Loadable read before.file
  · exact iff_of_true (fun missing => absurd loadable missing) fun _ => .inl loadable
  · obtain ⟨values, file⟩ := restart_of_not_loadable loadable write
    rw [file, values, forall_prop_of_true loadable]
    simp only [true_and, or_iff_right loadable]

theorem storing_request (qos : QosDevice) (environment : ServiceEnvironment) (request : CipMessageRouterRequest)
    (write : FileWrite) :
    (∀ made status, qos.storing (.setAttributeSingle environment request write) = some (made, status) →
        ¬ made.Succeeds → status = .error) ↔
      ((qosVariable request.requestPath.attributeNumber).isSome = true → write.opened = true) := by
  unfold storing
  dsimp only
  rw [setAttributeSingle_eq, Option.bind_some]
  cases qosVariable request.requestPath.attributeNumber with
  | none => exact iff_of_true (fun _ _ stored => absurd stored (by simp)) fun known => absurd known (by simp)
  | some name =>
      simp only [List.mem_cons, true_or, if_true, Option.some.injEq, Prod.mk.injEq]
      rw [← nvQosStore_reported_iff write (qos.device.memory.qosSet name (octetAt request.data 0)) qos.file]
      constructor
      · intro reported _
        exact reported _ _ ⟨rfl, rfl⟩
      · rintro reported _ _ ⟨rfl, rfl⟩
        exact reported rfl

theorem storing_restart (qos : QosDevice) (read : FileRead) (write : FileWrite) :
    (∀ made status, qos.storing (.restart read write) = some (made, status) → ¬ made.Succeeds → status = .error) ↔
      (Loadable read qos.file → write.opened = true) := by
  unfold storing
  dsimp only
  by_cases loadable : Loadable read qos.file
  · have loaded := (qos.nvQosLoad_ok_iff read).mpr loadable
    -- The status of the store is that of the whole, since the load has succeeded.
    have status : (nvdataLoad read write qos.file qos.device.memory.cipQosResetAttributesToDefaultValues).1 = .error ↔
        (nvQosStore write (nvQosLoad read qos.file qos.device.memory.cipQosResetAttributesToDefaultValues).2
          qos.file).1 = .error := by
      unfold nvdataLoad
      dsimp only
      rw [if_pos loaded]
      dsimp only
      split
      · next failed => exact iff_of_true rfl failed
      · next kept => exact iff_of_false loaded kept
    rw [if_pos loaded, forall_prop_of_true loadable]
    rw [← nvQosStore_reported_iff write _ qos.file, ← status]
    constructor
    · intro reported
      exact reported _ _ rfl
    · rintro reported _ _ stored
      cases stored
      exact reported
  · have missing := mt (qos.nvQosLoad_ok_iff read).mp loadable
    rw [if_neg missing]
    exact iff_of_true (fun _ _ stored => by cases stored) fun loaded => absurd loaded loadable

variable {qos : QosDevice}

theorem restored_of_serves (serves : qos.FileServes operations)
    (split : operations = earlier ++ .start :: (middle ++ .start :: later))
    (complete : ∀ operation ∈ middle, operation.Complete) :
    ∃ before, qos.run (earlier ++ .start :: middle) = some before ∧
      (before.restart .complete .complete).gQos = before.gQos := by
  obtain ⟨reached, there⟩ := qos.run_total earlier
  have regular := reached.restart_copies.1
  obtain ⟨before, done⟩ := (reached.restart .complete .complete).run_total middle
  refine ⟨before, (run_start there middle).trans done, ?_⟩
  rw [restored_iff regular reached.restart_inStep complete done]
  rintro front back rfl leaves final run
  rw [List.forall_mem_append, List.forall_mem_cons] at complete
  exact serves.setBack earlier front back final
    ⟨⟨later, split⟩, complete.1, fun operation inside => ⟨complete.2.2 operation inside, leaves operation inside⟩⟩
    ((run_start there front).trans run)

theorem setBack_of_persists (persists : qos.ValuesPersist operations) {front back : List QosOperation}
    {before : QosDevice} (setBack : SetBack operations earlier front back)
    (run : qos.run (earlier ++ .start :: front) = some before) : before.gQos.dscp = .defaults := by
  obtain ⟨⟨later, split⟩, completeFront, completeBack⟩ := setBack
  obtain ⟨reached, there⟩ := qos.run_total earlier
  have regular := reached.restart_copies.1
  have complete : ∀ operation ∈ front ++ .resetDeviceToInitialConfiguration :: back, operation.Complete := by
    rw [List.forall_mem_append, List.forall_mem_cons]
    exact ⟨completeFront, trivial, fun operation inside => (completeBack operation inside).1⟩
  obtain ⟨last, done, same⟩ := persists.restored earlier _ later split complete
  rw [run_start there] at done run
  rw [restored_iff regular reached.restart_inStep complete done] at same
  exact same front back rfl (fun operation inside => (completeBack operation inside).2) before run

/-- Over every run the values persist just if the file serves. -/
theorem valuesPersist_iff (qos : QosDevice) (operations : List QosOperation) :
    qos.ValuesPersist operations ↔ qos.FileServes operations := by
  constructor
  · intro persists
    refine ⟨?_, ?_, ?_, ?_⟩
    · intro earlier front back before setBack run
      exact setBack_of_persists persists setBack run
    · intro earlier later read before split run
      obtain ⟨reached, there, replaced⟩ := persists.replaced earlier later read .complete split
      cases run.symm.trans there
      exact (replaced_iff before read .complete).mp replaced rfl
    · intro environment request write listed
      obtain ⟨earlier, later, split⟩ := List.append_of_mem listed
      obtain ⟨before, -, reported⟩ := persists.reported earlier _ later split
      exact (before.storing_request environment request write).mp reported
    · intro earlier later read write before split run
      obtain ⟨reached, there, reported⟩ := persists.reported earlier _ later split
      cases run.symm.trans there
      exact (before.storing_restart read write).mp reported
  · intro serves
    refine ⟨?_, ?_, ?_, ?_⟩
    · intro earlier middle later split complete
      exact restored_of_serves serves split complete
    · intro earlier later read write split
      obtain ⟨before, run⟩ := qos.run_total earlier
      refine ⟨before, run, (replaced_iff before read write).mpr ?_⟩
      rintro rfl
      exact serves.loaded earlier later read before split run
    · intro earlier operation later split
      obtain ⟨before, run⟩ := qos.run_total earlier
      refine ⟨before, run, ?_⟩
      cases operation with
      | setAttributeSingle environment request write =>
          apply (before.storing_request environment request write).mpr
          apply serves.requests environment request write
          rw [split]
          exact List.mem_append_right _ (.head _)
      | restart read write =>
          apply (before.storing_restart read write).mpr
          exact serves.starts earlier later read write before split run
      -- Neither reset stores anything.
      | resetDevice | resetDeviceToInitialConfiguration =>
          intro made status stored
          cases stored
    · intro earlier operation later split other
      obtain ⟨before, run⟩ := qos.run_total earlier
      cases operation with
      | setAttributeSingle environment request write =>
          refine ⟨before, _, run, setAttributeSingle_eq .., ?_⟩
          cases qosVariable request.requestPath.attributeNumber with
          | none => rfl
          | some name => rfl
      | resetDevice | resetDeviceToInitialConfiguration | restart => cases other

def sampleDevice (file : StoredText) : QosDevice := ⟨_, _, rfl, rfl, clearedDevice, .defaults, file⟩

def sampleRequest (write : FileWrite) : QosOperation :=
  .setAttributeSingle quietEnvironment (setRequest kCipQoSClassCode 1 4 [27]) write

def sampleUnwritable : FileWrite := ⟨false, true, true, none⟩

/-- A missing file is not written at the start, a value comes back after a reset to the initial configuration, and a
value that is not written because the file cannot be opened passes as stored. -/
theorem values_lost :
    ¬ (sampleDevice none).ValuesPersist [.start] ∧
      ¬ (sampleDevice (some (fprintf .defaults))).ValuesPersist
        [.start, sampleRequest .complete, .resetDeviceToInitialConfiguration, .start] ∧
      ¬ (sampleDevice (some (fprintf .defaults))).ValuesPersist [.start, sampleRequest sampleUnwritable] := by
  refine ⟨fun persists => ?_, fun persists => ?_, fun persists => ?_⟩
  · obtain ⟨before, there, replaced⟩ := persists.replaced [] [] .complete .complete rfl
    cases there
    have missing : ¬ Loadable .complete (sampleDevice none).file := by
      rintro ⟨-, text, left, -⟩
      cases left
    have written := (replaced missing).2 rfl
    rw [(restart_of_not_loadable missing .complete).2] at written
    cases written
  · obtain ⟨before, there⟩ := (sampleDevice (some (fprintf .defaults))).run_total [.start, sampleRequest .complete]
    have complete : ∀ operation ∈ [sampleRequest .complete], operation.Complete := List.forall_mem_singleton.mpr rfl
    have order : SetBack [.start, sampleRequest .complete, .resetDeviceToInitialConfiguration, .start] []
        [sampleRequest .complete] [] :=
      ⟨⟨[], rfl⟩, complete, fun _ inside => absurd inside List.not_mem_nil⟩
    have setBack := setBack_of_persists persists order there
    have urgent : ((sampleDevice (some (fprintf .defaults))).run [.start, sampleRequest .complete]).map
        (·.gQos.dscp.urgent) = some 27 := by rfl
    rw [there, Option.map_some, setBack] at urgent
    cases urgent
  · obtain ⟨before, there, reported⟩ := persists.reported [.start] (sampleRequest sampleUnwritable) [] rfl
    have silent := (before.storing_request quietEnvironment (setRequest kCipQoSClassCode 1 4 [27])
      sampleUnwritable).mp reported rfl
    cases silent

end QosDevice

end Starts

end EtherNetIP
