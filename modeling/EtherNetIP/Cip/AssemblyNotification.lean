import EtherNetIP.Cip.SetAttribute

/-! How often the application is told of data that are set.

The decode function of an assembly tells the application when it has written the
data, to learn whether they are accepted. The function that is installed behind
it tells the application once more, whatever has become of the request.
-/

set_option autoImplicit false

namespace EtherNetIP

open Library

variable {environment : ServiceEnvironment} {assemblyClass after : AttributeClass} {inst : CipInstance}
  {request : CipMessageRouterRequest} {device : CipDevice}

def createAssemblyObjects (objects : List (CipInstanceNum × UInt16)) (assemblyClass : AttributeClass) :
    Except Fault AttributeClass :=
  objects.foldlM (fun assemblyClass object => assemblyClass.createAssemblyObject object.1 object.2) assemblyClass

/-- The instances have the attributes that are created with them, and the class what attribute 3 needs to be set. -/
structure WellMade (assemblyClass : AttributeClass) : Prop where
  size : assemblyClass.numberOfAttributes = 2
  attributes : ∀ inst ∈ assemblyClass.instances, ∃ length,
    inst.attributes = [some (assemblyAttribute3 inst.instanceNumber length),
      some (assemblyAttribute4 inst.instanceNumber)]
  masked : assemblyClass.instances ≠ [] → 3 ∈ assemblyClass.setBitMask
  preSet : assemblyClass.preSetCallback = none
  postSet : assemblyClass.postSetCallback = some .assemblyPostSetCallback

theorem createAssemblyClass_wellMade : WellMade createAssemblyClass where
  size := rfl
  attributes := nofun
  masked := fun some_ => absurd rfl some_
  preSet := rfl
  postSet := rfl

theorem insertAttribute_last {older : List CipInstance} {instanceId : CipInstanceNum}
    {entries placed : List AttributeEntry} {attr : CipAttributeStruct} (fresh : ∀ inst ∈ older, inst.instanceNumber ≠ instanceId)
    (instances : assemblyClass.instances = older ++ [⟨instanceId, entries⟩])
    (place : AttributeClass.place attr entries = some placed)
    (inserted : assemblyClass.insertAttribute instanceId attr = .ok after) :
    after = { assemblyClass with
      instances := older ++ [⟨instanceId, placed⟩]
      getSingleBitMask := AttributeClass.flagged attr kGetableSingle assemblyClass.getSingleBitMask
      getAllBitMask := AttributeClass.flagged attr (kGetableAll ||| kGetableAllDummy) assemblyClass.getAllBitMask
      setBitMask := AttributeClass.flagged attr kSetable assemblyClass.setBitMask } := by
  have found : assemblyClass.getCipInstance instanceId = some ⟨instanceId, entries⟩ := by
    have none_ : older.find? (·.instanceNumber == instanceId) = none :=
      List.find?_eq_none.mpr fun inst listed => by simpa using fresh inst listed
    rw [AttributeClass.getCipInstance, instances, List.find?_append, none_]
    simp
  have kept : (older ++ [(⟨instanceId, entries⟩ : CipInstance)]).map (fun other =>
      if other.instanceNumber = instanceId then { other with attributes := placed } else other) =
      older ++ [⟨instanceId, placed⟩] := by
    have same : older.map (fun other =>
        if other.instanceNumber = instanceId then { other with attributes := placed } else other) = older :=
      (List.map_congr_left fun inst listed => if_neg (fresh inst listed)).trans (List.map_id' older)
    rw [List.map_append, same]
    simp
  unfold AttributeClass.insertAttribute at inserted
  rw [found] at inserted
  dsimp only at inserted
  rw [place] at inserted
  dsimp only at inserted
  split at inserted
  · cases inserted
  · cases inserted
    rw [instances, kept]

section Flags

variable {attr : CipAttributeStruct} {flags : UInt8} {mask : AttributeMask}

theorem flagged_of_flags (has : attr.attributeFlags &&& flags ≠ 0) :
    AttributeClass.flagged attr flags mask = mask.insert attr :=
  if_pos has

theorem flagged_of_no_flags (lacks : attr.attributeFlags &&& flags = 0) :
    AttributeClass.flagged attr flags mask = mask :=
  if_neg (not_not_intro lacks)

end Flags

theorem createAssemblyObject_eq {instanceId : CipInstanceNum} {dataLength : UInt16} (made : WellMade assemblyClass)
    (created : assemblyClass.createAssemblyObject instanceId dataLength = .ok after) :
    after = { assemblyClass with
      instances := assemblyClass.instances ++ [⟨instanceId, [some (assemblyAttribute3 instanceId dataLength),
        some (assemblyAttribute4 instanceId)]⟩]
      getSingleBitMask := (assemblyClass.getSingleBitMask.insert (assemblyAttribute3 instanceId dataLength)).insert
        (assemblyAttribute4 instanceId)
      getAllBitMask := assemblyClass.getAllBitMask.insert (assemblyAttribute3 instanceId dataLength)
      setBitMask := assemblyClass.setBitMask.insert (assemblyAttribute3 instanceId dataLength) } := by
  unfold AttributeClass.createAssemblyObject at created
  split at created
  · cases created
  · obtain ⟨middle, first, second⟩ := bind_eq_ok.mp created
    unfold AttributeClass.addCipInstance at first
    split at first
    next taken =>
      obtain ⟨inst, found⟩ := Option.isSome_iff_exists.mp taken
      obtain ⟨length, full⟩ := made.attributes inst (List.mem_of_find?_eq_some found)
      unfold AttributeClass.insertAttribute at first
      rw [found] at first
      dsimp only at first
      rw [full] at first
      cases first
    next free =>
      have fresh : ∀ inst ∈ assemblyClass.instances, inst.instanceNumber ≠ instanceId := by
        intro inst listed same
        have found := List.find?_eq_none.mp (Option.not_isSome_iff_eq_none.mp free) inst listed
        rw [same, BEq.rfl] at found
        exact found rfl
      have unused : (List.replicate assemblyClass.numberOfAttributes none : List AttributeEntry) = [none, none] := by
        rw [made.size]
        rfl
      have inserted := insertAttribute_last fresh rfl (by rw [unused]; rfl) first
      rw [flagged_of_flags (show (0x97 : UInt8) &&& kGetableSingle ≠ 0 by decide),
        flagged_of_flags (show (0x97 : UInt8) &&& kSetable ≠ 0 by decide),
        flagged_of_flags (show (0x97 : UInt8) &&& (kGetableAll ||| kGetableAllDummy) ≠ 0 by decide)] at inserted
      subst inserted
      have last := insertAttribute_last fresh rfl rfl second
      rw [flagged_of_flags (show kGetableSingle &&& kGetableSingle ≠ 0 by decide),
        flagged_of_no_flags (show kGetableSingle &&& kSetable = 0 by decide),
        flagged_of_no_flags (show kGetableSingle &&& (kGetableAll ||| kGetableAllDummy) = 0 by decide)] at last
      exact last

theorem WellMade.created {instanceId : CipInstanceNum} {dataLength : UInt16} (made : WellMade assemblyClass)
    (created : assemblyClass.createAssemblyObject instanceId dataLength = .ok after) : WellMade after := by
  rw [createAssemblyObject_eq made created]
  refine ⟨made.size, ?_, fun _ => List.mem_cons_self .., made.preSet, made.postSet⟩
  intro inst listed
  rcases List.mem_append.mp listed with old | new
  · exact made.attributes inst old
  · cases List.mem_singleton.mp new
    exact ⟨dataLength, rfl⟩

theorem createAssemblyObjects_wellMade {objects : List (CipInstanceNum × UInt16)} (made : WellMade assemblyClass)
    (created : createAssemblyObjects objects assemblyClass = .ok after) : WellMade after := by
  induction objects generalizing assemblyClass with
  | nil =>
      cases created
      exact made
  | cons object objects ih =>
      obtain ⟨middle, first, rest⟩ := bind_eq_ok.mp created
      exact ih (made.created first) rest

def CipInstance.assemblyDataLength (inst : CipInstance) : Option UInt16 :=
  match inst.getCipAttribute 3 with
  | some (some { kind := .byteArray length, .. }) => some length
  | _ => none

def Overwrites (inst : CipInstance) (request : CipMessageRouterRequest) : Prop :=
  inst.assemblyDataLength.map UInt16.toUInt64 = some request.requestDataSize

instance (inst : CipInstance) (request : CipMessageRouterRequest) : Decidable (Overwrites inst request) :=
  inferInstanceAs (Decidable (_ = _))

def CipDevice.notifications (device : CipDevice) (instanceNumber : CipInstanceNum) : Nat :=
  device.calls.count (.afterAssemblyDataReceived instanceNumber)

/-- The application is told once of data that are written and not at all of those that are refused. -/
def NotifiedOnce (environment : ServiceEnvironment) (assemblyClass : AttributeClass) (inst : CipInstance)
    (request : CipMessageRouterRequest) (device : CipDevice) : Prop :=
  ∃ reply after, setAttributeSingle environment assemblyClass inst request device = some (reply, after) ∧
    after.notifications inst.instanceNumber =
      device.notifications inst.instanceNumber + if Overwrites inst request then 1 else 0

@[simp] theorem notifications_call (made : DeviceCall) (instanceNumber : CipInstanceNum) :
    (device.call made).notifications instanceNumber =
      device.notifications instanceNumber + if made = .afterAssemblyDataReceived instanceNumber then 1 else 0 := by
  unfold CipDevice.notifications CipDevice.call
  rw [List.count_cons]
  simp only [beq_iff_eq]

theorem decode_notifications {length : UInt16} {instanceNumber : CipInstanceNum} (data : CipPointer (.byteArray length))
    (decoding : Decoding) :
    (decodeCipAssemblyAttribute3 environment request.requestDataSize instanceNumber data
        decoding).2.device.notifications instanceNumber =
      decoding.device.notifications instanceNumber + if length.toUInt64 = request.requestDataSize then 1 else 0 := by
  unfold decodeCipAssemblyAttribute3
  split
  next less =>
    rw [if_neg fun same => (UInt64.ne_of_lt less) same.symm]
    rfl
  next notLess =>
    split
    next more =>
      rw [if_neg fun same => (UInt64.ne_of_lt more) same]
      rfl
    next notMore =>
      have same : length.toUInt64 = request.requestDataSize :=
        UInt64.le_antisymm (UInt64.not_lt.mp notLess) (UInt64.not_lt.mp notMore)
      rw [if_pos same]
      exact (notifications_call ..).trans (by rw [if_pos rfl]; rfl)

theorem callBack_assemblyAttribute3 (instanceId : CipInstanceNum) (length : UInt16) (service : UInt8) :
    inst.callBack (some .assemblyPostSetCallback) (kPostSetFunc ||| kNvDataFunc) (assemblyAttribute3 instanceId length)
      service device = device.call (.afterAssemblyDataReceived inst.instanceNumber) :=
  if_pos (by decide : (0x97 : UInt8) &&& (kPostSetFunc ||| kNvDataFunc) ≠ 0)

/-- Whatever the decode function has done, the function behind it tells the application once more. -/
theorem setAttributeSingle_notifies (made : WellMade assemblyClass)
    (found : assemblyClass.getCipInstance request.requestPath.instanceNumber = some inst)
    (third : request.requestPath.attributeNumber = 3) :
    ∃ reply after, setAttributeSingle environment assemblyClass inst request device = some (reply, after) ∧
      after.notifications inst.instanceNumber =
        device.notifications inst.instanceNumber + (if Overwrites inst request then 1 else 0) + 1 := by
  have listed : inst ∈ assemblyClass.instances := List.mem_of_find?_eq_some found
  have number : inst.instanceNumber = request.requestPath.instanceNumber := by
    simpa only [beq_iff_eq] using List.find?_some found
  obtain ⟨length, attributes⟩ := made.attributes inst listed
  have attribute3 : inst.getCipAttribute 3 = some (some (assemblyAttribute3 inst.instanceNumber length)) := by
    rw [CipInstance.getCipAttribute, attributes]
    rfl
  have supported : ¬((assemblyAttribute3 inst.instanceNumber length).attributeFlags = kGetableAllDummy ∨
      (assemblyAttribute3 inst.instanceNumber length).attributeFlags = kNotSetOrGetable ∨
      (assemblyAttribute3 inst.instanceNumber length).attributeFlags = kGetableAll) :=
    (by decide : ¬((0x97 : UInt8) = kGetableAllDummy ∨ (0x97 : UInt8) = kNotSetOrGetable ∨
      (0x97 : UInt8) = kGetableAll))
  have masked : (3 : UInt16) ∈ assemblyClass.setBitMask := made.masked (List.ne_nil_of_mem listed)
  have overwrites : Overwrites inst request ↔ length.toUInt64 = request.requestDataSize := by
    unfold Overwrites CipInstance.assemblyDataLength
    rw [attribute3]
    exact Option.some_inj
  unfold setAttributeSingle
  dsimp only
  rw [third, attribute3]
  dsimp only
  rw [if_neg supported, if_pos masked, made.preSet, made.postSet]
  refine ⟨_, _, rfl, ?_⟩
  rw [callBack_assemblyAttribute3, notifications_call, if_pos rfl, number, if_congr overwrites rfl rfl]
  exact congrArg (· + 1) (decode_notifications ..)

/-- The application is told of every request that is meant for the data of an assembly, once too often. -/
theorem not_notifiedOnce {objects : List (CipInstanceNum × UInt16)}
    (created : createAssemblyObjects objects createAssemblyClass = .ok assemblyClass)
    (found : assemblyClass.getCipInstance request.requestPath.instanceNumber = some inst)
    (third : request.requestPath.attributeNumber = 3) :
    ¬ NotifiedOnce environment assemblyClass inst request device := by
  rintro ⟨reply, after, returned, once⟩
  have made := createAssemblyObjects_wellMade createAssemblyClass_wellMade created
  obtain ⟨reply', after', returned', twice⟩ :=
    @setAttributeSingle_notifies environment assemblyClass inst request device made found third
  cases returned.symm.trans returned'
  omega

/-- Two octets for an assembly of two are told of twice. -/
theorem assembly_written_notified_twice : ∃ assemblyClass inst reply after,
    createAssemblyObjects [(100, 2)] createAssemblyClass = .ok assemblyClass ∧
      assemblyClass.getCipInstance 100 = some inst ∧
      setAttributeSingle quietEnvironment assemblyClass inst (setRequest kCipAssemblyClassCode.toUInt16 100 3 [1, 2])
        clearedDevice = some (reply, after) ∧
      after.calls = [.afterAssemblyDataReceived 100, .afterAssemblyDataReceived 100] ∧
      ¬ NotifiedOnce quietEnvironment assemblyClass inst (setRequest kCipAssemblyClassCode.toUInt16 100 3 [1, 2])
        clearedDevice := by
  refine ⟨_, _, _, _, rfl, rfl, rfl, rfl, fun ⟨reply, after, returned, once⟩ => ?_⟩
  cases returned
  exact absurd once (by decide)

/-- Three octets for an assembly of two are refused, and told of once. -/
theorem assembly_refused_notified : ∃ assemblyClass inst,
    createAssemblyObjects [(100, 2)] createAssemblyClass = .ok assemblyClass ∧
      assemblyClass.getCipInstance 100 = some inst ∧
      ¬ NotifiedOnce quietEnvironment assemblyClass inst (setRequest kCipAssemblyClassCode.toUInt16 100 3 [1, 2, 3])
        clearedDevice :=
  ⟨_, _, rfl, rfl,
    @not_notifiedOnce _ _ _ (setRequest kCipAssemblyClassCode.toUInt16 100 3 [1, 2, 3]) _ [(100, 2)] rfl rfl rfl⟩

end EtherNetIP
