import EtherNetIP.Application.AssemblyStorage
import EtherNetIP.Cip.IoData

/-! What the application sets and gets to see.

The input assembly's buffer and the array `setInputValues` fills are different
memory: a frame carries what the network has written to the buffer, or zeros.
The application is shown every assembly that is about to be sent or read, not
the output assembly when data have arrived for it.
-/

set_option autoImplicit false

namespace EtherNetIP.Application

open Library

variable {app before after : Application}

section Contents

def afterAccess (instanceNumber : CipInstanceNum) (length : Nat) (octets : List CipOctet) (access : Access) :
    List CipOctet :=
  if access.restarts then List.replicate length 0
  else
    match access.received with
    | some (number, data) => if number = instanceNumber ∧ data.length = length then data else octets
    | none => octets

def lastReceived (instanceNumber : CipInstanceNum) (length : Nat) (accesses : List Access) : List CipOctet :=
  accesses.foldl (afterAccess instanceNumber length) (List.replicate length 0)

def Contains (app : Application) (expected : Assembly → List CipOctet) : Prop :=
  ∀ assembly ∈ app.assemblies, assembly.data ≠ .assemblyData09A → app.content assembly = expected assembly

def zeros (assembly : Assembly) : List CipOctet := List.replicate assembly.length.toNat 0

variable {instanceId : CipInstanceNum} {data : DataPointer} {dataLength : UInt16}

theorem Contains.createAssemblyObject {expected : Assembly → List CipOctet} (contains : Contains app expected)
    (own : data ≠ .assemblyData09A → app.content ⟨instanceId, dataLength, data⟩ = expected ⟨instanceId, dataLength, data⟩)
    (done : app.createAssemblyObject instanceId data dataLength = .ok after) : Contains after expected := by
  obtain ⟨_, _, rfl⟩ := createAssemblyObject_ok done
  intro assembly listed buffered
  rcases List.mem_append.mp listed with listed | added
  · exact contains assembly listed buffered
  · cases List.mem_singleton.mp added
    exact own buffered

theorem Contains.createDynamicAssembly (sound : Sound app) (contains : Contains app zeros) {allocates : UInt64 → Bool}
    {inst : CipInstanceNum} {size : UInt64} (done : app.createDynamicAssembly allocates inst size = .ok after) :
    Contains after zeros := by
  unfold Application.createDynamicAssembly at done
  split at done
  · refine Contains.createAssemblyObject ?_ ?_ done
    · intro assembly listed buffered
      rw [content, memory_allocate _ (sound.blocks assembly listed)]
      exact contains assembly listed buffered
    · intro _
      have block : memory { app with heap := app.heap ++ [List.replicate size.toNat 0] } (.block app.heap.length) =
          List.replicate size.toNat 0 := by simp [memory]
      rw [content, block, zeros, List.take_replicate, UInt64.toNat_toUInt16, min_eq_left (Nat.mod_le _ _)]
  · cases done
    exact contains

theorem createDynamicAssembly_keeps {allocates : UInt64 → Bool} {inst : CipInstanceNum} {size : UInt64}
    (done : app.createDynamicAssembly allocates inst size = .ok after) : app.assemblies ⊆ after.assemblies := by
  unfold Application.createDynamicAssembly at done
  split at done
  · obtain ⟨_, _, rfl⟩ := createAssemblyObject_ok done
    exact List.subset_append_left ..
  · cases done
    exact List.Subset.refl _

/-- A stack that is up has the heart-beat assembly, and so cannot be started again. -/
def UpWithHeartbeat (app : Application) : Prop :=
  app.assemblies ≠ [] → ∃ assembly ∈ app.assemblies, assembly.instanceNumber = DEMO_APP_HEARTBEAT_INPUT_ONLY_ASSEMBLY_NUM

theorem applicationInitialization_ok (sound : Sound app) (up : UpWithHeartbeat app) {malloc : Fin 3 → UInt64 → Bool}
    (done : app.applicationInitialization malloc = .ok after) : UpWithHeartbeat after ∧ Contains after zeros := by
  unfold Application.applicationInitialization at done
  obtain ⟨withInput, input, done⟩ := bind_eq_ok.mp done
  obtain ⟨withOutput, output, done⟩ := bind_eq_ok.mp done
  obtain ⟨withConfig, config, done⟩ := bind_eq_ok.mp done
  obtain ⟨withInputOnly, inputOnly, done⟩ := bind_eq_ok.mp done
  obtain ⟨withListenOnly, listenOnly, done⟩ := bind_eq_ok.mp done
  obtain ⟨withExplicit, explicit, finish⟩ := bind_eq_ok.mp done
  have kept : app.assemblies ⊆ withConfig.assemblies := fun assembly listed =>
    createDynamicAssembly_keeps config (createDynamicAssembly_keeps output (createDynamicAssembly_keeps input listed))
  obtain ⟨_, new, rfl⟩ := createAssemblyObject_ok inputOnly
  obtain ⟨_, _, rfl⟩ := createAssemblyObject_ok listenOnly
  obtain ⟨_, _, rfl⟩ := createAssemblyObject_ok explicit
  cases finish
  have down : app.assemblies = [] := by
    by_contra running
    obtain ⟨heartbeat, listed, number⟩ := up running
    exact new heartbeat (kept listed) number
  have empty : Contains app zeros := fun assembly listed => absurd (down ▸ listed) List.not_mem_nil
  have soundInput := sound.createDynamicAssembly input
  have dynamic := Contains.createDynamicAssembly (soundInput.createDynamicAssembly output)
    (.createDynamicAssembly soundInput (.createDynamicAssembly sound empty input) output) config
  have heartbeats := Contains.createAssemblyObject
    (Contains.createAssemblyObject dynamic (fun _ => rfl) inputOnly) (fun _ => rfl) listenOnly
  have all := Contains.createAssemblyObject heartbeats (fun buffered => absurd rfl buffered) explicit
  refine ⟨fun _ => ⟨⟨DEMO_APP_HEARTBEAT_INPUT_ONLY_ASSEMBLY_NUM, 0, .null⟩, by simp, rfl⟩, ?_⟩
  exact fun assembly listed buffered => all assembly listed buffered

structure Followed (accesses : List Access) (app : Application) : Prop where
  sound : Sound app
  up : UpWithHeartbeat app
  contains : Contains app fun assembly => lastReceived assembly.instanceNumber assembly.length.toNat accesses

theorem lastReceived_append (instanceNumber : CipInstanceNum) (length : Nat) (accesses : List Access) (access : Access) :
    lastReceived instanceNumber length (accesses ++ [access]) =
      afterAccess instanceNumber length (lastReceived instanceNumber length accesses) access := List.foldl_append ..

theorem Followed.step {accesses : List Access} (followed : Followed accesses before) {access : Access}
    (done : before.step access = .ok after) : Followed (accesses ++ [access]) after := by
  have sound := followed.sound
  have expected (assembly : Assembly) : lastReceived assembly.instanceNumber assembly.length.toNat (accesses ++ [access]) =
      afterAccess assembly.instanceNumber assembly.length.toNat
        (lastReceived assembly.instanceNumber assembly.length.toNat accesses) access := lastReceived_append ..
  -- what one access does to the assemblies, of which there are four kinds
  cases sound.stepped done with
  | started malloc asked done' =>
      obtain ⟨up, contains⟩ := applicationInitialization_ok sound followed.up done'
      refine ⟨sound.step done, up, fun assembly listed buffered => ?_⟩
      beta_reduce
      rw [expected, asked]
      exact contains assembly listed buffered
  | shutdown _ same =>
      subst same
      exact ⟨sound.step done, fun up => absurd rfl up, fun _ listed => absurd listed List.not_mem_nil⟩
  | written assembly data listed received length same =>
      have assemblies : after.assemblies = before.assemblies := same ▸ copyTo_assemblies ..
      have running : access.restarts = false := by
        cases access with
        | start _ | shutdown => cases received
        | _ => rfl
      refine ⟨sound.step done, ?_, fun other member buffered => ?_⟩
      · rw [UpWithHeartbeat, assemblies]
        exact followed.up
      · rw [assemblies] at member
        beta_reduce
        rw [expected, afterAccess, running, received, same]
        -- the blocks of two assemblies lie apart
        by_cases own : other = assembly
        · rw [own, sound.content_copyTo listed length]
          simp [length]
        · have numbers : assembly.instanceNumber ≠ other.instanceNumber := fun number =>
            own (sound.numbers other member assembly listed number.symm)
          rw [sound.content_copyTo_other listed member own]
          simpa [numbers] using followed.contains other member buffered
  | aside running unreceived assemblies heap explicit =>
      have kept (assembly : Assembly) : after.content assembly = before.content assembly := by
        unfold content memory
        cases assembly.data with
        | null => rfl
        | assemblyData09A => exact congrArg (List.take _) explicit
        | block index => rw [heap]
      refine ⟨sound.step done, ?_, fun assembly listed buffered => ?_⟩
      · rw [UpWithHeartbeat, assemblies]
        exact followed.up
      · rw [assemblies] at listed
        beta_reduce
        rw [expected, kept, followed.contains assembly listed buffered, afterAccess, running]
        cases received : access.received with
        | none => rfl
        | some brought =>
            obtain ⟨number, data⟩ := brought
            have other : ¬ (number = assembly.instanceNumber ∧ data.length = assembly.length.toNat) := by
              rintro ⟨rfl, length⟩
              exact unreceived assembly listed data received length
            simp [other]

theorem followed (accesses : List Access) {app : Application} (run : accesses.foldlM Application.step loaded = .ok app) :
    Followed accesses app := by
  induction accesses using List.reverseRecOn generalizing app with
  | nil =>
      cases run
      exact ⟨.loaded, fun up => absurd rfl up, fun _ listed => absurd listed List.not_mem_nil⟩
  | append_singleton accesses access ih =>
      rw [List.foldlM_append] at run
      obtain ⟨reached, earlier, last⟩ := bind_eq_ok.mp run
      have done : reached.step access = .ok app := by simpa using last
      exact (ih earlier).step done

end Contents

section ApplicationSide

def applicationSide (app : Application) : List CipOctet × List (CipInstanceNum × List CipOctet) :=
  (app.assemblyData064, app.handedToJava)

def shown (app : Application) (access : Access) : Option Assembly :=
  let instanceNumber :=
    match access with
    | .sendConnectedData producingInstance => some producingInstance
    | .getAttributeSingle instanceNumber attributeNumber => if attributeNumber = 3 then some instanceNumber else none
    | _ => none
  (instanceNumber.bind app.getCipInstance).filter (·.data ≠ .null)

inductive Faces (app : Application) (access : Access) (after : Application) : Prop where
  | sets (values : List CipOctet) (asked : access = .setInputValues values) (same : after = app.setInputValues values)
  | isShown (assembly : Assembly) (shows : app.shown access = some assembly)
      (found : app.getCipInstance assembly.instanceNumber = some assembly)
      (same : after = { app with
        handedToJava := (assembly.instanceNumber, app.content assembly) :: app.handedToJava })
  | nothing (other : ∀ values, access ≠ .setInputValues values) (unshown : app.shown access = none)
      (side : after.applicationSide = app.applicationSide)

theorem createDynamicAssembly_side {allocates : UInt64 → Bool} {inst : CipInstanceNum} {size : UInt64}
    (done : app.createDynamicAssembly allocates inst size = .ok after) : after.applicationSide = app.applicationSide := by
  unfold Application.createDynamicAssembly at done
  split at done
  · obtain ⟨_, _, rfl⟩ := createAssemblyObject_ok done
    rfl
  · cases done
    rfl

theorem applicationInitialization_side {malloc : Fin 3 → UInt64 → Bool}
    (done : app.applicationInitialization malloc = .ok after) : after.applicationSide = app.applicationSide := by
  unfold Application.applicationInitialization at done
  obtain ⟨withInput, input, done⟩ := bind_eq_ok.mp done
  obtain ⟨withOutput, output, done⟩ := bind_eq_ok.mp done
  obtain ⟨withConfig, config, done⟩ := bind_eq_ok.mp done
  obtain ⟨_, inputOnly, done⟩ := bind_eq_ok.mp done
  obtain ⟨_, listenOnly, done⟩ := bind_eq_ok.mp done
  obtain ⟨_, explicit, finish⟩ := bind_eq_ok.mp done
  obtain ⟨_, _, rfl⟩ := createAssemblyObject_ok inputOnly
  obtain ⟨_, _, rfl⟩ := createAssemblyObject_ok listenOnly
  obtain ⟨_, _, rfl⟩ := createAssemblyObject_ok explicit
  cases finish
  exact (createDynamicAssembly_side config).trans
    ((createDynamicAssembly_side output).trans (createDynamicAssembly_side input))

theorem copyTo_side (app : Application) (octets : List CipOctet) (pointer : DataPointer) :
    (app.copyTo octets pointer).applicationSide = app.applicationSide := by
  cases pointer <;> rfl

theorem Faces.of_beforeAssemblyDataSend {access : Access} {instanceNumber : CipInstanceNum} {assembly : Assembly}
    (found : app.getCipInstance instanceNumber = some assembly) (other : ∀ values, access ≠ .setInputValues values)
    (shows : app.shown access = (app.getCipInstance instanceNumber).filter (·.data ≠ .null)) :
    Faces app access (app.beforeAssemblyDataSend assembly) := by
  unfold beforeAssemblyDataSend
  by_cases memory : assembly.data ≠ .null
  · rw [if_pos memory]
    have number := (getCipInstance_mem found).2
    exact .isShown assembly (by rw [shows, found]; simp [memory]) (number ▸ found) rfl
  · rw [if_neg memory]
    exact .nothing other (by rw [shows, found]; simpa using memory) rfl

theorem step_faces {access : Access} (done : before.step access = .ok after) : Faces before access after := by
  -- the input value is set by one call and shown by two
  cases access with
  | setAssemblyData settings =>
      cases done
      exact .nothing (fun _ same => by cases same) rfl rfl
  | setInputValues values =>
      cases done
      exact .sets values rfl rfl
  | start malloc => exact .nothing (fun _ same => by cases same) rfl (applicationInitialization_side done)
  | shutdown =>
      cases done
      exact .nothing (fun _ same => by cases same) rfl rfl
  | sendConnectedData producingInstance =>
      obtain ⟨⟨data, sent⟩, sends, rfl⟩ := map_eq_ok.mp done
      unfold Application.sendConnectedData at sends
      split at sends
      · cases sends
      · rename_i assembly found
        cases sends
        exact .of_beforeAssemblyDataSend found (fun _ same => by cases same) rfl
  | receiveConnectedData consumingInstance data =>
      change before.notifyAssemblyConnectedDataReceived consumingInstance data = .ok after at done
      refine .nothing (fun _ same => by cases same) rfl ?_
      unfold notifyAssemblyConnectedDataReceived at done
      split at done
      · cases done
      · split at done <;> cases done
        · rfl
        · exact copyTo_side ..
  | getAttributeSingle instanceNumber attributeNumber =>
      unfold Application.step at done
      dsimp only at done
      split at done <;> cases done
      · rename_i absent
        refine .nothing (fun _ same => by cases same) ?_ rfl
        by_cases three : attributeNumber = 3 <;> simp [shown, three, absent]
      · rename_i assembly found
        unfold Application.getAttributeSingle
        split
        · rename_i three
          exact .of_beforeAssemblyDataSend found (fun _ same => by cases same) (by simp [shown, three])
        · rename_i other
          have unshown : before.shown (.getAttributeSingle instanceNumber attributeNumber) = none := by
            simp [shown, other]
          split <;> exact .nothing (fun _ same => by cases same) unshown rfl
  | setAttributeSingle instanceNumber attributeNumber data =>
      unfold Application.step at done
      dsimp only at done
      refine .nothing (fun _ same => by cases same) rfl ?_
      split at done <;> cases done
      · rfl
      · unfold Application.setAttributeSingle
        split
        · split
          · rfl
          · split
            · rfl
            · exact copyTo_side ..
        · split <;> rfl

end ApplicationSide

section Inputs

theorem step_assemblyData064 {access : Access} (other : ∀ values, access ≠ .setInputValues values)
    (done : before.step access = .ok after) : after.assemblyData064 = before.assemblyData064 := by
  cases step_faces done with
  | sets values asked _ => exact absurd asked (other values)
  | isShown assembly _ _ same => rw [same]
  | nothing _ _ side => exact congrArg Prod.fst side

theorem run_assemblyData064 {accesses : List Access} (others : ∀ access ∈ accesses, ∀ values, access ≠ .setInputValues values)
    (run : accesses.foldlM Application.step before = .ok after) : after.assemblyData064 = before.assemblyData064 := by
  induction accesses generalizing before with
  | nil =>
      cases run
      rfl
  | cons access rest ih =>
      rw [List.foldlM_cons] at run
      obtain ⟨middle, done, run⟩ := bind_eq_ok.mp run
      have first := step_assemblyData064 (others access List.mem_cons_self) done
      exact (ih (fun later listed => others later (List.mem_cons_of_mem _ listed)) run).trans first

/-- The first octets of the values are in a frame of the input assembly exactly if they have been received for it.
The number is that of the explicit assembly only if the input assembly could not be allocated. -/
theorem inputs_sent_iff {earlier later : List Access} {values frame : List CipOctet} {input : Assembly}
    (run : (earlier ++ .setInputValues values :: later).foldlM Application.step loaded = .ok app)
    (length : values.length = ASSEMBLY_SIZE) (last : ∀ access ∈ later, ∀ others, access ≠ .setInputValues others)
    (configured : app.getCipInstance (instanceNum app.started.inputAssemblyNum) = some input)
    (allocated : input.data ≠ .assemblyData09A)
    (sends : app.sendConnectedData (instanceNum app.started.inputAssemblyNum) = .ok (frame, after)) :
    app.assemblyData064 = values ∧
      (frame = values.take app.started.inputSize.toInt.toNat ↔
        lastReceived (instanceNum app.started.inputAssemblyNum) input.length.toNat
            (earlier ++ .setInputValues values :: later) = values.take app.started.inputSize.toInt.toNat) := by
  obtain ⟨listed, number⟩ := getCipInstance_mem configured
  have content := (followed _ run).contains input listed allocated
  beta_reduce at content
  rw [number] at content
  constructor
  · rw [List.foldlM_append] at run
    obtain ⟨set, _, run⟩ := bind_eq_ok.mp run
    rw [List.foldlM_cons] at run
    obtain ⟨given, done, run⟩ := bind_eq_ok.mp run
    cases done
    rw [run_assemblyData064 last run, Application.setInputValues, if_pos length]
  · unfold Application.sendConnectedData at sends
    rw [configured] at sends
    cases sends
    have same : (app.beforeAssemblyDataSend input).content input = app.content input := by
      unfold beforeAssemblyDataSend
      split <;> rfl
    rw [same, content]

def fourOctets : AssemblySettings := ⟨102, 101, 103, 4, 4, 4⟩

def upWithFourOctets : List Access := [.setAssemblyData fourOctets, .start fun _ size => size < 1024]

def withInputs (values octets : List CipOctet) : Application :=
  { loaded with
    settings := fourOctets
    started := fourOctets
    assemblyData064 := values
    heap := [octets, [0, 0, 0, 0], [0, 0, 0, 0]]
    assemblies := [⟨102, 4, .block 0⟩, ⟨101, 4, .block 1⟩, ⟨103, 4, .block 2⟩, ⟨152, 0, .null⟩, ⟨153, 0, .null⟩,
      ⟨154, 32, .assemblyData09A⟩] }

/-- The values are set and the same octets received for the input assembly: its next frame carries them. -/
theorem received_inputs_sent :
    (withInputs (List.replicate 128 7) [7, 7, 7, 7]).assemblyData064 = List.replicate 128 7 ∧
      ([7, 7, 7, 7] = (List.replicate 128 7 : List CipOctet).take 4 ↔
        lastReceived 102 4 (upWithFourOctets ++ Access.setInputValues (List.replicate 128 7) ::
          [Access.setAttributeSingle 102 3 [7, 7, 7, 7]]) = (List.replicate 128 7 : List CipOctet).take 4) := by
  have run : (upWithFourOctets ++ Access.setInputValues (List.replicate 128 7) ::
      [Access.setAttributeSingle 102 3 [7, 7, 7, 7]]).foldlM Application.step loaded =
        .ok (withInputs (List.replicate 128 7) [7, 7, 7, 7]) := by decide +kernel
  have last : ∀ access ∈ [Access.setAttributeSingle 102 3 [7, 7, 7, 7]], ∀ others, access ≠ .setInputValues others := by
    intro access listed others same
    rw [List.mem_singleton.mp listed] at same
    cases same
  have sends : (withInputs (List.replicate 128 7) [7, 7, 7, 7]).sendConnectedData 102 =
      .ok ([7, 7, 7, 7], { withInputs (List.replicate 128 7) [7, 7, 7, 7] with handedToJava := [(102, [7, 7, 7, 7])] }) := by
    decide +kernel
  have configured : (withInputs (List.replicate 128 7) [7, 7, 7, 7]).getCipInstance 102 = some ⟨102, 4, .block 0⟩ := by
    decide +kernel
  exact inputs_sent_iff run List.length_replicate last configured (by decide) sends

/-- The values are set and nothing is received: the next frame carries zeros. -/
theorem set_inputs_not_sent :
    (upWithFourOctets ++ [Access.setInputValues (List.replicate 128 7)]).foldlM Application.step loaded =
        .ok (withInputs (List.replicate 128 7) [0, 0, 0, 0]) ∧
      ∃ frame after, (withInputs (List.replicate 128 7) [0, 0, 0, 0]).sendConnectedData 102 = .ok (frame, after) ∧
        frame ≠ (List.replicate 128 7 : List CipOctet).take 4 := by
  refine ⟨by decide +kernel, [0, 0, 0, 0],
    { withInputs (List.replicate 128 7) [0, 0, 0, 0] with handedToJava := [(102, [0, 0, 0, 0])] }, ?_, ?_⟩
  · decide +kernel
  · decide

end Inputs

section Outputs

/-- What an access hands over is the content of the output assembly. -/
def HandsOverOutput (app after : Application) : Prop :=
  ∀ handed, after.handedToJava = handed :: app.handedToJava →
    handed.1 = instanceNum after.started.outputAssemblyNum ∧
      ∃ output, after.getCipInstance (instanceNum after.started.outputAssemblyNum) = some output ∧
        handed.2 = after.content output

def ShowsOutput (app : Application) (access : Access) : Prop :=
  ∀ assembly, app.shown access = some assembly → assembly.instanceNumber = instanceNum app.started.outputAssemblyNum

instance (app : Application) (access : Access) : Decidable (app.ShowsOutput access) :=
  match shown : app.shown access with
  | none => isTrue fun assembly same => by rw [shown] at same; cases same
  | some assembly =>
      if output : assembly.instanceNumber = instanceNum app.started.outputAssemblyNum then
        isTrue fun other same => by rw [shown] at same; cases same; exact output
      else isFalse fun shows => output (shows assembly shown)

theorem not_handed (same : after.handedToJava = before.handedToJava) : HandsOverOutput before after :=
  fun handed hands => absurd (hands.symm.trans same) (List.cons_ne_self handed before.handedToJava)

theorem handsOverOutput_iff {access : Access} (done : before.step access = .ok after) :
    HandsOverOutput before after ↔ ShowsOutput before access := by
  cases step_faces done with
  | sets values asked same =>
      have kept : after.handedToJava = before.handedToJava := by
        rw [same, Application.setInputValues]
        split <;> rfl
      refine ⟨fun _ assembly shows => ?_, fun _ => not_handed kept⟩
      rw [asked] at shows
      cases shows
  | isShown assembly shows found same =>
      subst same
      constructor
      · intro hands other otherShown
        rw [shows] at otherShown
        cases otherShown
        exact (hands _ rfl).1
      · intro showsOutput handed hands
        cases hands
        have output := showsOutput assembly shows
        exact ⟨output, assembly, output ▸ found, rfl⟩
  | nothing other unshown side =>
      refine ⟨fun _ assembly shows => ?_, fun _ => not_handed (congrArg Prod.snd side)⟩
      rw [unshown] at shows
      cases shows

theorem showsOutput_of_error {access : Access} {fault : Fault} (failed : app.step access = .error fault) :
    ShowsOutput app access := by
  intro assembly shows
  cases access with
  | sendConnectedData producingInstance =>
      have absent : app.getCipInstance producingInstance = none := by
        change (app.sendConnectedData producingInstance).map Prod.snd = _ at failed
        unfold Application.sendConnectedData at failed
        split at failed
        · assumption
        · cases failed
      change (app.getCipInstance producingInstance).filter _ = some assembly at shows
      rw [absent] at shows
      cases shows
  | getAttributeSingle instanceNumber attributeNumber =>
      unfold Application.step at failed
      dsimp only at failed
      split at failed <;> cases failed
  | setAssemblyData _ | setInputValues _ | start _ | shutdown | receiveConnectedData _ _ | setAttributeSingle _ _ _ =>
      cases shows

/-- In a run every array handed to Java is the output assembly's content exactly if no other assembly with memory is
ever sent or read. -/
theorem outputs_handed_iff (accesses : List Access) :
    (∀ count access before after, accesses[count]? = some access →
      (accesses.take count).foldlM Application.step loaded = .ok before → before.step access = .ok after →
      HandsOverOutput before after) ↔ Along Application.step ShowsOutput loaded accesses := by
  rw [along_iff_forall]
  refine forall_congr' fun count => forall_congr' fun access => forall_congr' fun before => ?_
  constructor
  · intro hands performed run
    cases done : before.step access with
    | error fault => exact showsOutput_of_error done
    | ok after => exact (handsOverOutput_iff done).mp (hands after performed run done)
  · intro shows after performed run done
    exact (handsOverOutput_iff done).mpr (shows performed run)

/-- Output data are received and the inputs sent: the application is handed the inputs. -/
theorem inputs_handed_to_java :
    ∃ app, (upWithFourOctets ++ [Access.receiveConnectedData 101 [1, 2, 3, 4], Access.sendConnectedData 102]).foldlM
        Application.step loaded = .ok app ∧ app.handedToJava = [(102, [0, 0, 0, 0])] ∧
      app.getCipInstance 101 = some ⟨101, 4, .block 1⟩ ∧ app.content ⟨101, 4, .block 1⟩ = [1, 2, 3, 4] := by
  refine ⟨{ withInputs (List.replicate 128 0) [0, 0, 0, 0] with
    heap := [[0, 0, 0, 0], [1, 2, 3, 4], [0, 0, 0, 0]], handedToJava := [(102, [0, 0, 0, 0])] }, ?_, ?_⟩
  · decide +kernel
  · decide +kernel

end Outputs

section Connections

variable {config : Configuration} {stack left : Stack config}

structure Represents (base : Configuration) (app : Application) (stack : Stack config) : Prop where
  configured : config = app.configure base
  contents : ∀ assembly ∈ app.assemblies, stack.assemblyData assembly.instanceNumber = app.content assembly

theorem Represents.assemblyLength {base : Configuration} (represents : Represents base app stack) (sound : Sound app)
    (instanceNumber : CipInstanceNum) :
    config.assemblyLength instanceNumber = (app.getCipInstance instanceNumber).map (·.length.toNat) := by
  have assemblies : config.assemblies = app.assemblies.map fun assembly =>
      (assembly.instanceNumber, assembly.length.toNat) := represents.configured ▸ rfl
  unfold Configuration.assemblyLength
  by_cases zero : instanceNumber = 0
  · have absent : app.getCipInstance 0 = none := by
      cases found : app.getCipInstance 0 with
      | none => rfl
      | some assembly => exact absurd (getCipInstance_mem found).2 (sound.nonzero assembly (getCipInstance_mem found).1)
    rw [if_pos zero, zero, absent]
    rfl
  · rw [if_neg zero, assemblies, Application.getCipInstance]
    induction app.assemblies with
    | nil => rfl
    | cons first rest ih =>
        rw [List.map_cons, List.lookup_cons, List.find?_cons]
        by_cases own : first.instanceNumber = instanceNumber
        · simp [own]
        · have missed : (first.instanceNumber == instanceNumber) = false := beq_eq_false_iff_ne.mpr own
          have passed : (instanceNumber == first.instanceNumber) = false := beq_eq_false_iff_ne.mpr (Ne.symm own)
          rw [missed, passed]
          exact ih

theorem Represents.sendConnectedData {base : Configuration} (represents : Represents base app stack) (sound : Sound app)
    {slot : Slot config} (done : stack.sendConnectedData slot = .ok left) :
    ∃ instanceNumber frame after, (stack.object slot).producingInstance = some instanceNumber ∧
      left.effects = .sendUdpData frame :: stack.effects ∧
      app.sendConnectedData instanceNumber = .ok (frame.data, after) ∧ Represents base after left := by
  unfold Stack.sendConnectedData at done
  obtain ⟨⟨length, data⟩, produced, finish⟩ := bind_eq_ok.mp done
  cases producing : (stack.object slot).producingInstance with
  | none =>
      rw [producing] at produced
      cases produced
  | some instanceNumber =>
      rw [producing, Stack.producedData, represents.assemblyLength sound] at produced
      cases found : app.getCipInstance instanceNumber with
      | none =>
          rw [found] at produced
          cases produced
      | some assembly =>
          rw [found] at produced
          cases produced
          obtain ⟨listed, number⟩ := getCipInstance_mem found
          have same : (app.beforeAssemblyDataSend assembly).assemblies = app.assemblies :=
            (beforeAssemblyDataSend_aside app assembly).1
          have content (other : Assembly) : (app.beforeAssemblyDataSend assembly).content other = app.content other := by
            unfold beforeAssemblyDataSend
            split <;> rfl
          have data : (stack.assemblyData instanceNumber).take assembly.length.toNat = app.content assembly := by
            rw [← number, represents.contents assembly listed]
            exact List.take_of_length_le (sound.content_length listed).le
          cases finish
          refine ⟨instanceNumber, _, app.beforeAssemblyDataSend assembly, rfl, rfl, ?_, ?_, ?_⟩
          · unfold Application.sendConnectedData
            rw [found]
            dsimp only
            rw [content]
            exact congrArg (fun octets => Except.ok (octets, _)) data.symm
          · rw [represents.configured]
            unfold beforeAssemblyDataSend
            split <;> rfl
          · intro other member
            rw [content]
            exact represents.contents other (same ▸ member)

theorem Represents.notifyAssemblyConnectedDataReceived {base : Configuration} (represents : Represents base app stack)
    (sound : Sound app) {instanceNumber : CipInstanceNum} {data : List CipOctet} {dataLength : Nat} {accepted : Bool}
    (done : stack.notifyAssemblyConnectedDataReceived instanceNumber data dataLength = .ok (accepted, left)) :
    ∃ after, app.notifyAssemblyConnectedDataReceived instanceNumber
        ((data ++ List.replicate dataLength 0).take dataLength) = .ok after ∧ Represents base after left := by
  have octets : ((data ++ List.replicate dataLength 0).take dataLength).length = dataLength := by simp
  unfold Stack.notifyAssemblyConnectedDataReceived at done
  rw [represents.assemblyLength sound] at done
  unfold Application.notifyAssemblyConnectedDataReceived
  cases found : app.getCipInstance instanceNumber with
  | none =>
      rw [found] at done
      cases done
  | some assembly =>
      obtain ⟨listed, number⟩ := getCipInstance_mem found
      rw [found] at done
      simp only [Option.map_some] at done ⊢
      rw [octets]
      by_cases other : assembly.length.toNat ≠ dataLength
      · rw [if_pos other] at done ⊢
        cases done
        exact ⟨app, rfl, represents⟩
      · rw [if_neg other] at done ⊢
        cases done
        refine ⟨_, rfl, ?_, fun another member => ?_⟩
        · rw [represents.configured]
          cases assembly.data <;> rfl
        · rw [copyTo_assemblies] at member
          by_cases own : another = assembly
          · change Function.update stack.assemblyData instanceNumber _ _ = _
            rw [own, number, Function.update_self, sound.content_copyTo listed (octets.trans (not_not.mp other).symm)]
          · have numbers : another.instanceNumber ≠ instanceNumber := fun same =>
              own (sound.numbers another member assembly listed (same.trans number.symm))
            change Function.update stack.assemblyData instanceNumber _ _ = _
            rw [Function.update_of_ne numbers, sound.content_copyTo_other listed member own]
            exact represents.contents another member

end Connections

end EtherNetIP.Application
