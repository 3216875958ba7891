import EtherNetIP.Application.Assemblies

/-! The memory of the assemblies.

Every instance has memory for the octets of its byte array, and no other
instance has the same. So what is written to one assembly is read back from it
and leaves the others alone.
-/

set_option autoImplicit false

namespace EtherNetIP.Application

open Library

variable {app before after : Application}

structure Sound (app : Application) : Prop where
  nonzero : ∀ assembly ∈ app.assemblies, assembly.instanceNumber ≠ 0
  numbers : ∀ first ∈ app.assemblies, ∀ second ∈ app.assemblies, first.instanceNumber = second.instanceNumber →
    first = second
  lengths : ∀ assembly ∈ app.assemblies, assembly.length.toNat ≤ (app.memory assembly.data).length
  separate : ∀ first ∈ app.assemblies, ∀ second ∈ app.assemblies, first.data = second.data → first.data ≠ .null →
    first = second
  blocks : ∀ assembly ∈ app.assemblies, ∀ index, assembly.data = .block index → index < app.heap.length
  explicit : ∀ assembly ∈ app.assemblies, assembly.data = .assemblyData09A →
    assembly.instanceNumber = DEMO_APP_EXPLICT_ASSEMBLY_NUM
  explicitSize : app.assemblyData09A.length = 32

theorem Sound.of_down (down : app.assemblies = []) (explicitSize : app.assemblyData09A.length = 32) : Sound app := by
  have none (assembly : Assembly) : assembly ∉ app.assemblies := down ▸ List.not_mem_nil
  constructor
  · exact fun assembly listed => absurd listed (none assembly)
  · exact fun assembly listed => absurd listed (none assembly)
  · exact fun assembly listed => absurd listed (none assembly)
  · exact fun assembly listed => absurd listed (none assembly)
  · exact fun assembly listed => absurd listed (none assembly)
  · exact fun assembly listed => absurd listed (none assembly)
  · exact explicitSize

theorem Sound.loaded : Sound loaded := .of_down rfl rfl

theorem Sound.aside (sound : Sound before) (assemblies : after.assemblies = before.assemblies)
    (heap : after.heap = before.heap) (explicit : after.assemblyData09A = before.assemblyData09A) : Sound after := by
  have memory (pointer : DataPointer) : after.memory pointer = before.memory pointer := by
    cases pointer with
    | null => rfl
    | assemblyData09A => exact explicit
    | block index => exact congrArg (·.getD index []) heap
  constructor
  · exact assemblies ▸ sound.nonzero
  · exact assemblies ▸ sound.numbers
  · intro assembly listed
    rw [memory]
    exact sound.lengths assembly (assemblies ▸ listed)
  · exact assemblies ▸ sound.separate
  · exact fun assembly listed => heap ▸ sound.blocks assembly (assemblies ▸ listed)
  · exact fun assembly listed => sound.explicit assembly (assemblies ▸ listed)
  · exact explicit ▸ sound.explicitSize

section Lookup

variable {instanceNumber : CipInstanceNum} {assembly : Assembly}

theorem getCipInstance_mem (found : app.getCipInstance instanceNumber = some assembly) :
    assembly ∈ app.assemblies ∧ assembly.instanceNumber = instanceNumber :=
  ⟨List.mem_of_find?_eq_some found, by simpa using List.find?_some found⟩

theorem getCipInstance_isSome :
    (app.getCipInstance instanceNumber).isSome ↔ ∃ assembly ∈ app.assemblies, assembly.instanceNumber = instanceNumber := by
  simp [getCipInstance]

end Lookup

section Creating

variable {instanceId : CipInstanceNum} {data : DataPointer} {dataLength : UInt16}

structure Usable (app : Application) (instanceId : CipInstanceNum) (data : DataPointer) (dataLength : UInt16) : Prop where
  length : dataLength.toNat ≤ (app.memory data).length
  unused : ∀ assembly ∈ app.assemblies, assembly.data = data → data = .null
  block : ∀ index, data = .block index → index < app.heap.length
  explicit : data = .assemblyData09A → instanceId = DEMO_APP_EXPLICT_ASSEMBLY_NUM

theorem createAssemblyObject_ok (done : app.createAssemblyObject instanceId data dataLength = .ok after) :
    instanceId ≠ 0 ∧ (∀ assembly ∈ app.assemblies, assembly.instanceNumber ≠ instanceId) ∧
      after = { app with assemblies := app.assemblies ++ [⟨instanceId, dataLength, data⟩] } := by
  unfold createAssemblyObject at done
  split at done
  · cases done
  · rename_i free
    cases done
    obtain ⟨nonzero, new⟩ := not_or.mp free
    refine ⟨nonzero, fun assembly listed same => ?_, rfl⟩
    exact new (getCipInstance_isSome.mpr ⟨assembly, listed, same⟩)

theorem Sound.createAssemblyObject (sound : Sound app) (usable : Usable app instanceId data dataLength)
    (done : app.createAssemblyObject instanceId data dataLength = .ok after) : Sound after := by
  obtain ⟨nonzero, new, rfl⟩ := createAssemblyObject_ok done
  have listed {property : Assembly → Prop} (old : ∀ assembly ∈ app.assemblies, property assembly)
      (own : property ⟨instanceId, dataLength, data⟩) :
      ∀ assembly ∈ app.assemblies ++ [⟨instanceId, dataLength, data⟩], property assembly := by
    intro assembly member
    rcases List.mem_append.mp member with member | added
    · exact old assembly member
    · exact List.mem_singleton.mp added ▸ own
  constructor
  · exact listed sound.nonzero nonzero
  · refine listed (fun first member => listed (sound.numbers first member) fun same => ?_) (listed ?_ fun _ => rfl)
    · exact absurd same (new first member)
    · exact fun second member same => absurd same.symm (new second member)
  · exact listed sound.lengths usable.length
  · refine listed (fun first member => listed (sound.separate first member) fun same used => ?_)
      (listed ?_ fun _ _ => rfl)
    · exact absurd (same.trans (usable.unused first member same)) used
    · exact fun second member same used => absurd (usable.unused second member same.symm) used
  · exact listed sound.blocks usable.block
  · exact listed sound.explicit usable.explicit
  · exact sound.explicitSize

theorem memory_allocate (block : List CipOctet) {pointer : DataPointer}
    (used : ∀ index, pointer = .block index → index < app.heap.length) :
    memory { app with heap := app.heap ++ [block] } pointer = app.memory pointer := by
  cases pointer with
  | null | assemblyData09A => rfl
  | block index =>
      change (app.heap ++ [block]).getD index [] = app.heap.getD index []
      rw [List.getD_eq_getElem?_getD, List.getD_eq_getElem?_getD, List.getElem?_append_left (used index rfl)]

theorem Sound.allocate (sound : Sound app) (block : List CipOctet) :
    Sound { app with heap := app.heap ++ [block] } where
  nonzero := sound.nonzero
  numbers := sound.numbers
  lengths := by
    intro assembly listed
    rw [memory_allocate block (sound.blocks assembly listed)]
    exact sound.lengths assembly listed
  separate := sound.separate
  blocks := by
    intro assembly listed index points
    have within := sound.blocks assembly listed index points
    rw [List.length_append]
    exact Nat.lt_add_right _ within
  explicit := sound.explicit
  explicitSize := sound.explicitSize

theorem Sound.createDynamicAssembly (sound : Sound app) {allocates : UInt64 → Bool} {inst : CipInstanceNum}
    {size : UInt64} (done : app.createDynamicAssembly allocates inst size = .ok after) : Sound after := by
  unfold Application.createDynamicAssembly at done
  split at done
  · refine (sound.allocate (List.replicate size.toNat 0)).createAssemblyObject ⟨?_, ?_, ?_, ?_⟩ done
    · have block : memory { app with heap := app.heap ++ [List.replicate size.toNat 0] } (.block app.heap.length) =
          List.replicate size.toNat 0 := by simp [memory]
      rw [block, List.length_replicate, UInt64.toNat_toUInt16]
      exact Nat.mod_le _ _
    · intro assembly listed points
      exact absurd (sound.blocks assembly listed _ points) (lt_irrefl _)
    · intro index points
      cases points
      simp
    · exact fun explicit => by cases explicit
  · cases done
    exact sound

theorem Usable.null (app : Application) (instanceId : CipInstanceNum) : Usable app instanceId .null 0 where
  length := Nat.zero_le _
  unused := fun _ _ _ => rfl
  block := fun _ points => by cases points
  explicit := fun points => by cases points

theorem Sound.applicationInitialization (sound : Sound app) {malloc : Fin 3 → UInt64 → Bool}
    (done : app.applicationInitialization malloc = .ok after) : Sound after := by
  unfold Application.applicationInitialization at done
  obtain ⟨withInput, input, done⟩ := bind_eq_ok.mp done
  obtain ⟨withOutput, output, done⟩ := bind_eq_ok.mp done
  obtain ⟨withConfig, config, done⟩ := bind_eq_ok.mp done
  obtain ⟨withInputOnly, inputOnly, done⟩ := bind_eq_ok.mp done
  obtain ⟨withListenOnly, listenOnly, done⟩ := bind_eq_ok.mp done
  obtain ⟨withExplicit, explicit, finish⟩ := bind_eq_ok.mp done
  have dynamic := ((sound.createDynamicAssembly input).createDynamicAssembly output).createDynamicAssembly config
  have heartbeats := (dynamic.createAssemblyObject (.null _ _) inputOnly).createAssemblyObject (.null _ _) listenOnly
  have last : Sound withExplicit := by
    refine heartbeats.createAssemblyObject ⟨?_, ?_, ?_, fun _ => rfl⟩ explicit
    · exact heartbeats.explicitSize.ge
    · intro assembly listed points
      exact absurd (heartbeats.explicit assembly listed points) ((createAssemblyObject_ok explicit).2.1 assembly listed)
    · exact fun _ points => by cases points
  cases finish
  exact last.aside rfl rfl rfl

end Creating

section Copying

variable {octets : List CipOctet} {pointer other : DataPointer}

theorem copyTo_assemblies (app : Application) (octets : List CipOctet) (pointer : DataPointer) :
    (app.copyTo octets pointer).assemblies = app.assemblies := by
  cases pointer <;> rfl

theorem memory_copyTo (fits : octets.length ≤ (app.memory pointer).length)
    (within : ∀ index, pointer = .block index → index < app.heap.length) :
    (app.copyTo octets pointer).memory pointer = octets ++ (app.memory pointer).drop octets.length := by
  cases pointer with
  | null =>
      have empty : octets = [] := List.length_eq_zero_iff.mp (Nat.le_zero.mp fits)
      rw [empty]
      rfl
  | assemblyData09A => rfl
  | block index =>
      change (app.heap.modify index _).getD index [] = octets ++ (app.heap.getD index []).drop octets.length
      simp [within index rfl]

theorem memory_copyTo_other (app : Application) (octets : List CipOctet) (different : other ≠ pointer) :
    (app.copyTo octets pointer).memory other = app.memory other := by
  cases pointer with
  | null => rfl
  | assemblyData09A =>
      cases other with
      | null | block _ => rfl
      | assemblyData09A => exact absurd rfl different
  | block index =>
      cases other with
      | null | assemblyData09A => rfl
      | block place =>
          have places : index ≠ place := fun same => different (same ▸ rfl)
          change (app.heap.modify index _).getD place [] = app.heap.getD place []
          simp [places]

variable {assembly : Assembly}

theorem Sound.content_length (sound : Sound app) (listed : assembly ∈ app.assemblies) :
    (app.content assembly).length = assembly.length.toNat := by
  rw [content, List.length_take]
  exact min_eq_left (sound.lengths assembly listed)

theorem Sound.content_copyTo (sound : Sound app) (listed : assembly ∈ app.assemblies)
    (length : octets.length = assembly.length.toNat) : (app.copyTo octets assembly.data).content assembly = octets := by
  have fits : octets.length ≤ (app.memory assembly.data).length := length ▸ sound.lengths assembly listed
  rw [content, memory_copyTo fits (sound.blocks assembly listed), ← length, List.take_left' rfl]

theorem Sound.content_copyTo_other (sound : Sound app) {other : Assembly} (listed : assembly ∈ app.assemblies)
    (otherListed : other ∈ app.assemblies) (different : other ≠ assembly) (octets : List CipOctet) :
    (app.copyTo octets assembly.data).content other = app.content other := by
  by_cases unused : other.data = .null
  · rw [content, content, unused]
    rfl
  · have pointers : other.data ≠ assembly.data := fun same =>
      different (sound.separate other otherListed assembly listed same unused)
    rw [content, content, memory_copyTo_other app octets pointers]

theorem Sound.copyTo (sound : Sound app) (listed : assembly ∈ app.assemblies)
    (length : octets.length = assembly.length.toNat) : Sound (app.copyTo octets assembly.data) := by
  have fits : octets.length ≤ (app.memory assembly.data).length := length ▸ sound.lengths assembly listed
  have sizes (pointer : DataPointer) :
      ((app.copyTo octets assembly.data).memory pointer).length = (app.memory pointer).length := by
    by_cases same : pointer = assembly.data
    · rw [same, memory_copyTo fits (sound.blocks assembly listed), List.length_append, List.length_drop]
      omega
    · rw [memory_copyTo_other app octets same]
  have blocks : (app.copyTo octets assembly.data).heap.length = app.heap.length := by
    cases assembly.data with
    | null | assemblyData09A => rfl
    | block index => exact List.length_modify ..
  have assemblies := copyTo_assemblies app octets assembly.data
  constructor
  · exact assemblies ▸ sound.nonzero
  · exact assemblies ▸ sound.numbers
  · intro other member
    rw [sizes]
    exact sound.lengths other (assemblies ▸ member)
  · exact assemblies ▸ sound.separate
  · exact fun other member => blocks ▸ sound.blocks other (assemblies ▸ member)
  · exact fun other member => sound.explicit other (assemblies ▸ member)
  · exact (sizes .assemblyData09A).trans sound.explicitSize

end Copying

def Access.received : Access → Option (CipInstanceNum × List CipOctet)
  | .receiveConnectedData consumingInstance data => some (consumingInstance, data)
  | .setAttributeSingle instanceNumber attributeNumber data =>
      if attributeNumber = 3 then some (instanceNumber, data) else none
  | _ => none

def Access.restarts : Access → Bool
  | .start _ | .shutdown => true
  | _ => false

inductive Stepped (app : Application) (access : Access) (after : Application) : Prop where
  | started (malloc : Fin 3 → UInt64 → Bool) (asked : access = .start malloc)
      (done : app.applicationInitialization malloc = .ok after)
  | shutdown (asked : access = .shutdown) (same : after = app.shutdownAssemblies)
  | written (assembly : Assembly) (data : List CipOctet) (listed : assembly ∈ app.assemblies)
      (received : access.received = some (assembly.instanceNumber, data))
      (length : data.length = assembly.length.toNat) (same : after = app.copyTo data assembly.data)
  | aside (running : access.restarts = false)
      (unreceived : ∀ assembly ∈ app.assemblies, ∀ data, access.received = some (assembly.instanceNumber, data) →
        data.length ≠ assembly.length.toNat)
      (assemblies : after.assemblies = app.assemblies) (heap : after.heap = app.heap)
      (explicit : after.assemblyData09A = app.assemblyData09A)

theorem beforeAssemblyDataSend_aside (app : Application) (assembly : Assembly) :
    (app.beforeAssemblyDataSend assembly).assemblies = app.assemblies ∧
      (app.beforeAssemblyDataSend assembly).heap = app.heap ∧
      (app.beforeAssemblyDataSend assembly).assemblyData09A = app.assemblyData09A := by
  unfold beforeAssemblyDataSend
  split <;> exact ⟨rfl, rfl, rfl⟩

section Steps

variable {access : Access} {instanceNumber : CipInstanceNum} {data : List CipOctet} {assembly : Assembly}

theorem Stepped.of_none (running : access.restarts = false) (none : access.received = none)
    (same : after.assemblies = app.assemblies ∧ after.heap = app.heap ∧
      after.assemblyData09A = app.assemblyData09A) : Stepped app access after :=
  .aside running (fun _ _ data received => by rw [none] at received; cases received) same.1 same.2.1 same.2.2

theorem Stepped.of_absent (running : access.restarts = false)
    (received : ∀ number octets, access.received = some (number, octets) → number = instanceNumber)
    (absent : app.getCipInstance instanceNumber = none) : Stepped app access app := by
  refine .aside running (fun other listed octets names => ?_) rfl rfl rfl
  have found := getCipInstance_isSome.mpr ⟨other, listed, received _ _ names⟩
  rw [absent] at found
  cases found

theorem Sound.stepped_received (sound : Sound app) (running : access.restarts = false)
    (received : access.received = some (instanceNumber, data)) (found : app.getCipInstance instanceNumber = some assembly)
    (same : after = if data.length = assembly.length.toNat then app.copyTo data assembly.data else app) :
    Stepped app access after := by
  obtain ⟨listed, number⟩ := getCipInstance_mem found
  by_cases length : data.length = assembly.length.toNat
  · rw [if_pos length] at same
    exact .written assembly data listed (number ▸ received) length same
  · rw [if_neg length] at same
    refine .aside running (fun other otherListed octets names => ?_) (same ▸ rfl) (same ▸ rfl) (same ▸ rfl)
    obtain ⟨sameNumber, rfl⟩ := Prod.mk.inj (Option.some.inj (received.symm.trans names))
    exact sound.numbers assembly listed other otherListed (number.trans sameNumber) ▸ length

theorem Sound.stepped (sound : Sound app) (done : app.step access = .ok after) : Stepped app access after := by
  cases access with
  | setAssemblyData settings =>
      cases done
      exact .of_none rfl rfl ⟨rfl, rfl, rfl⟩
  | setInputValues values =>
      cases done
      refine .of_none rfl rfl ?_
      unfold Application.setInputValues
      split <;> exact ⟨rfl, rfl, rfl⟩
  | start malloc => exact .started malloc rfl done
  | shutdown =>
      cases done
      exact .shutdown rfl rfl
  | sendConnectedData producingInstance =>
      obtain ⟨⟨data, sent⟩, sends, rfl⟩ := map_eq_ok.mp done
      unfold Application.sendConnectedData at sends
      split at sends
      · cases sends
      · cases sends
        exact .of_none rfl rfl (beforeAssemblyDataSend_aside _ _)
  -- only data of the length of the assembly are stored
  | receiveConnectedData consumingInstance data =>
      change app.notifyAssemblyConnectedDataReceived consumingInstance data = .ok after at done
      unfold notifyAssemblyConnectedDataReceived at done
      cases found : app.getCipInstance consumingInstance with
      | none =>
          rw [found] at done
          cases done
      | some assembly =>
          rw [found] at done
          dsimp only at done
          refine sound.stepped_received rfl rfl found ?_
          split at done
          · rename_i other
            cases done
            rw [if_neg fun same => other same.symm]
          · rename_i length
            cases done
            rw [if_pos (not_not.mp length).symm]
  | getAttributeSingle instanceNumber attributeNumber =>
      cases found : app.getCipInstance instanceNumber with
      | none =>
          simp only [Application.step, found] at done
          cases done
          exact .of_none rfl rfl ⟨rfl, rfl, rfl⟩
      | some assembly =>
          simp only [Application.step, found] at done
          cases done
          refine .of_none rfl rfl ?_
          unfold Application.getAttributeSingle
          split
          · exact beforeAssemblyDataSend_aside _ _
          · split <;> exact ⟨rfl, rfl, rfl⟩
  | setAttributeSingle instanceNumber attributeNumber data =>
      cases found : app.getCipInstance instanceNumber with
      | none =>
          simp only [Application.step, found] at done
          cases done
          refine .of_absent rfl (fun number octets names => ?_) found
          change (if attributeNumber = 3 then some (instanceNumber, data) else none) = some (number, octets) at names
          split at names
          · exact (Prod.mk.inj (Option.some.inj names)).1.symm
          · cases names
      | some assembly =>
          simp only [Application.step, found] at done
          cases done
          -- the data attribute is the only one that can be set
          by_cases three : attributeNumber = 3
          · refine sound.stepped_received rfl (if_pos three) found ?_
            rw [Application.setAttributeSingle, if_pos three]
            rcases lt_trichotomy data.length assembly.length.toNat with shorter | length | longer
            · rw [if_pos shorter, if_neg shorter.ne]
            · rw [if_neg length.not_lt, if_neg length.not_gt, if_pos length]
            · rw [if_neg longer.not_gt, if_pos longer, if_neg longer.ne']
          · refine .of_none rfl (if_neg three) ?_
            rw [Application.setAttributeSingle, if_neg three]
            split <;> exact ⟨rfl, rfl, rfl⟩

theorem Sound.step (sound : Sound app) (done : app.step access = .ok after) : Sound after := by
  cases sound.stepped done with
  | started malloc _ done => exact sound.applicationInitialization done
  | shutdown _ same =>
      rw [same]
      exact .of_down rfl sound.explicitSize
  | written assembly data listed _ length same => exact same ▸ sound.copyTo listed length
  | aside _ _ assemblies heap explicit => exact sound.aside assemblies heap explicit

end Steps

def Reached (app : Application) : Prop := Reachable Application.step loaded app

theorem Reached.sound (reached : Reached app) : Sound app :=
  Reachable.holds reached Sound.loaded fun _ _ sound => Settles.of_ok fun _ done => sound.step done

end EtherNetIP.Application
