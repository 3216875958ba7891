import EtherNetIP.Cip.AttributeServices
import EtherNetIP.Cip.DecodeOutcomes
import EtherNetIP.Cip.RealNumbers

/-! What a request to set an attribute leaves behind.

Of what a decode function reads it makes a value, which it may refuse by a check
of its own. Most functions do not look at the size of the request, so they read
behind its end and ignore what is left over.
-/

set_option autoImplicit false

namespace EtherNetIP

variable {kind : DataKind} {environment : ServiceEnvironment} {request : CipMessageRouterRequest} {device : CipDevice}

section Law

def CipMessageRouterRequest.ownData (request : CipMessageRouterRequest) : List CipOctet :=
  octets request.requestDataSize.toNat request.data

/-- The requests differ at most in what stands behind their data. -/
structure CipMessageRouterRequest.SameWithin (request other : CipMessageRouterRequest) : Prop where
  service : other.service = request.service
  requestPath : other.requestPath = request.requestPath
  requestDataSize : other.requestDataSize = request.requestDataSize
  ownData : other.ownData = request.ownData

/-- A value that has passed the check is written and answered with success, unless the application does not accept it;
then it must be the one that has been there before. An empty host name is no value to go on with. -/
def DecodeFunction.Completes (environment : ServiceEnvironment) (request : CipMessageRouterRequest)
    (device : CipDevice) : {kind : DataKind} → DecodeFunction kind → CipPointer kind → kind.Value → Prop
  | _, .cipAssemblyAttribute3, data, value =>
      applicationAccepts environment request device data value ∨ value = device.memory.read data
  | _, .cipTcpIpInterfaceHostName, _, value => CipString.length value ≠ 0
  | _, _, _, _ => True

def DecodeFunction.Kept : {kind : DataKind} → DecodeFunction kind → List CipOctet → Prop
  | _, .cipReal, data => udintAt data ∈ keptReals
  | _, .cipLreal, data => ∃ number ∈ keptLreals, octets 8 data = addLintToMessage number
  | kind, _, data => kind.OrderKept data

def DecodeFunction.Fits (environment : ServiceEnvironment) (request : CipMessageRouterRequest) (device : CipDevice)
    (decode : DecodeFunction kind) (data : CipPointer kind) : Prop :=
  (decode.check environment request device (decode.valueOf request.data)).isSome ∨
    request.requestDataSize.toNat = kind.encodedSize (decode.valueOf request.data) ∧ decode.Kept request.data ∧
      decode.Completes environment request device data (decode.valueOf request.data)

/-- The value stays as it was unless the status is success; then it is encoded by the octets of the request, and those
behind them have no part in it. -/
def DecodeFunction.Lawful (environment : ServiceEnvironment) (request : CipMessageRouterRequest) (device : CipDevice)
    (decode : DecodeFunction kind) (data : CipPointer kind) : Prop :=
  ∃ status value, decode.result environment request device data = some (status, value) ∧
    (status ≠ kCipErrorSuccess → value = device.memory.read data) ∧
    (status = kCipErrorSuccess → kind.Encodes value request.ownData ∧ ∀ other, request.SameWithin other →
      decode.result environment other device data = some (kCipErrorSuccess, value))

variable {decode : DecodeFunction kind} {data : CipPointer kind} {value : kind.Value} {error : UInt8}

theorem refusal_ne_success {condition : Prop} [Decidable condition] {refusal : UInt8} {others : Option UInt8}
    (refused : (if condition then some refusal else others) = some error) (first : refusal ≠ kCipErrorSuccess)
    (rest : others = some error → error ≠ kCipErrorSuccess) : error ≠ kCipErrorSuccess := by
  split at refused
  · cases refused
    exact first
  · exact rest refused

theorem sizeCheck_ne_success {requestDataSize : UInt64} {length : UInt16}
    (refused : sizeCheck requestDataSize length = some error) : error ≠ kCipErrorSuccess :=
  refusal_ne_success refused (by decide) fun refused => refusal_ne_success refused (by decide) nofun

theorem size_of_sizeCheck {requestDataSize : UInt64} {length : UInt16}
    (passed : sizeCheck requestDataSize length = none) : requestDataSize.toNat = length.toNat := by
  unfold sizeCheck at passed
  split at passed
  · cases passed
  · split at passed
    · cases passed
    · rename_i least most
      have size : length.toUInt64.toNat = length.toNat := UInt16.toNat_toUInt64 length
      rw [UInt64.lt_iff_toNat_lt] at least
      rw [gt_iff_lt, UInt64.lt_iff_toNat_lt] at most
      omega

theorem none_ne_success (refused : none = some error) : error ≠ kCipErrorSuccess := by cases refused

theorem check_ne_success (refused : decode.check environment request device value = some error) :
    error ≠ kCipErrorSuccess := by
  cases decode with
  | cipByteArray | cipAssemblyAttribute3 => exact sizeCheck_ne_success refused
  | tcpIpInterfaceConfigurationControl | cipTcpIpInterfaceEncapsulationInactivityTimeout | cipQoSAttribute =>
      simp only [DecodeFunction.check] at refused
      rw [← ite_not] at refused
      exact refusal_ne_success refused (by decide) none_ne_success
  | cipTcpIpInterfaceConfiguration =>
      exact refusal_ne_success refused (by decide) fun refused => refusal_ne_success refused (by decide) fun refused =>
        refusal_ne_success refused (by decide) fun refused => refusal_ne_success refused (by decide) none_ne_success
  | cipTcpIpInterfaceHostName =>
      exact refusal_ne_success refused (by decide) fun refused => refusal_ne_success refused (by decide) none_ne_success
  | cipEthernetLinkInterfaceControl =>
      exact refusal_ne_success refused (by decide) fun refused => refusal_ne_success refused (by decide) fun refused =>
        refusal_ne_success refused (by decide) none_ne_success
  | _ => cases refused

theorem encodes_real_iff (size : Nat) (data : List CipOctet) :
    octets size data = addDintToMessage (realOfDint (udintAt data)) ↔ size = 4 ∧ udintAt data ∈ keptReals := by
  rw [← realOfDint_eq_self_iff]
  constructor
  · intro same
    have four : size = 4 := by
      have lengths := congrArg List.length same
      rwa [octets_length] at lengths
    rw [four, ← encode_udint] at same
    have read := congrArg (fun message => (getUdintFromMessage.run message).1) same
    exact ⟨four, (joinOctets32 _).symm.trans (read.symm.trans (joinOctets32 _))⟩
  · rintro ⟨rfl, kept⟩
    rw [kept, encode_udint]

theorem encodes_lreal_iff (size : Nat) (data : List CipOctet) :
    octets size data = addLintToMessage (lrealOfLint (getLintFromMessage.run (octets 8 data)).1) ↔
      size = 8 ∧ ∃ number ∈ keptLreals, octets 8 data = addLintToMessage number := by
  obtain ⟨number, written⟩ := exists_lint data
  have read : (getLintFromMessage.run (octets 8 data)).1 = turned number := by rw [written, turned]
  rw [read]
  constructor
  · intro same
    have eight : size = 8 := by
      have lengths := congrArg List.length same
      rwa [octets_length] at lengths
    rw [eight, written] at same
    exact ⟨eight, number, lrealOfLint_turned_eq_self_iff.mp (addLintToMessage_injective same).symm, written⟩
  · rintro ⟨rfl, other, kept, same⟩
    have equal : number = other := addLintToMessage_injective (written.symm.trans same)
    rw [written, lrealOfLint_turned_eq_self_iff.mpr (equal ▸ kept)]

theorem encodes_valueOf_iff (decode : DecodeFunction kind) (data : List CipOctet) (size : Nat) :
    kind.Encodes (decode.valueOf data) (octets size data) ↔
      size = kind.encodedSize (decode.valueOf data) ∧ decode.Kept data := by
  cases decode with
  | cipReal => exact encodes_real_iff size data
  | cipLreal => exact encodes_lreal_iff size data
  | _ => exact encodes_decode_iff _ data size

theorem valueOf_congr (decode : DecodeFunction kind) {data other : List CipOctet}
    (same : octets (kind.encodedSize (decode.valueOf data)) other = octets (kind.encodedSize (decode.valueOf data)) data) :
    decode.valueOf other = decode.valueOf data := by
  cases decode with
  | cipReal => exact congrArg realOfDint (@decode_congr .dword data other same)
  | cipLreal => exact congrArg lrealOfLint (@decode_congr .lword data other same)
  | _ => exact decode_congr _ same

/-- The check and the end of a call look at the size and the path of the request, and at what has been read. -/
theorem result_congr {other : CipMessageRouterRequest} (same : request.SameWithin other)
    (read : decode.valueOf other.data = decode.valueOf request.data) :
    decode.result environment other device data = decode.result environment request device data := by
  rw [result_eq, result_eq, read]
  obtain ⟨service, requestPath, requestDataSize, own⟩ := other
  obtain ⟨-, rfl, rfl, -⟩ := same
  cases decode <;> rfl

theorem read_sameWithin {other : CipMessageRouterRequest} (same : request.SameWithin other)
    (size : request.requestDataSize.toNat = kind.encodedSize (decode.valueOf request.data)) :
    decode.valueOf other.data = decode.valueOf request.data := by
  have own := same.ownData
  rw [CipMessageRouterRequest.ownData, CipMessageRouterRequest.ownData, same.requestDataSize, size] at own
  exact valueOf_congr decode own

theorem lawful_of_success
    (succeeds : decode.result environment request device data = some (kCipErrorSuccess, decode.valueOf request.data)) :
    decode.Lawful environment request device data ↔
      request.requestDataSize.toNat = kind.encodedSize (decode.valueOf request.data) ∧ decode.Kept request.data := by
  rw [← encodes_valueOf_iff]
  constructor
  · rintro ⟨status, value, result, -, success⟩
    rw [succeeds] at result
    cases result
    exact (success rfl).1
  · intro encodes
    have size := ((encodes_valueOf_iff ..).mp encodes).1
    refine ⟨_, _, succeeds, fun refused => absurd rfl refused, fun _ => ⟨encodes, fun other same => ?_⟩⟩
    rw [result_congr same (read_sameWithin same size), succeeds]

/-- Data that the application refuses have been written all the same. -/
theorem lawful_of_refusal (refused : decode.result environment request device data = some (error, value))
    (error_ : error ≠ kCipErrorSuccess) :
    decode.Lawful environment request device data ↔ value = device.memory.read data := by
  constructor
  · rintro ⟨status, new, result, unchanged, -⟩
    rw [refused] at result
    cases result
    exact unchanged error_
  · intro unchanged
    exact ⟨_, _, refused, fun _ => unchanged, fun success => absurd success error_⟩

theorem lawful_iff_fits :
    decode.Lawful environment request device data ↔ decode.Fits environment request device data := by
  have result := @result_eq kind environment request device decode data
  unfold DecodeFunction.Fits
  cases check : decode.check environment request device (decode.valueOf request.data) with
  | some error =>
      rw [check] at result
      exact iff_of_true ((lawful_of_refusal result (check_ne_success check)).mpr rfl) (.inl rfl)
  | none =>
      rw [check] at result
      rw [Option.isSome_none, Bool.false_eq_true, false_or]
      have plain (succeeds : decode.finish environment request device data (decode.valueOf request.data) =
          some (kCipErrorSuccess, decode.valueOf request.data))
          (completes : decode.Completes environment request device data (decode.valueOf request.data)) :
          decode.Lawful environment request device data ↔ _ :=
        (lawful_of_success (result.trans succeeds)).trans
          (and_congr_right fun _ => (and_iff_left completes).symm)
      cases decode with
      | cipAssemblyAttribute3 =>
          by_cases accepted : applicationAccepts environment request device data
              (DecodeFunction.valueOf .cipAssemblyAttribute3 request.data)
          · exact plain (congrArg (fun status => some (status, _)) (if_pos accepted)) (.inl accepted)
          · have refused := result.trans (congrArg (fun status => some (status, _)) (if_neg accepted))
            refine (lawful_of_refusal refused (by decide)).trans ⟨fun same => ?_, fun fits => ?_⟩
            · exact ⟨size_of_sizeCheck check, trivial, .inr same⟩
            · exact fits.2.2.resolve_left accepted
      | cipTcpIpInterfaceHostName =>
          by_cases empty : CipString.length (DecodeFunction.valueOf .cipTcpIpInterfaceHostName request.data) = 0
          · refine iff_of_false ?_ fun fits => fits.2.2 empty
            rintro ⟨_, _, returned, -⟩
            rw [result.trans (if_pos empty)] at returned
            cases returned
          · exact plain (if_neg empty) empty
      | _ => exact plain rfl trivial

end Law

section Service

variable {cipClass : AttributeClass} {inst : CipInstance} {attr : CipAttributeStruct}

structure AttributeClass.Setable (cipClass : AttributeClass) (inst : CipInstance) (attributeNumber : UInt16)
    (attr : CipAttributeStruct) (decode : DecodeFunction attr.kind) : Prop where
  found : inst.getCipAttribute attributeNumber = some (some attr)
  supported : ¬(attr.attributeFlags = kGetableAllDummy ∨ attr.attributeFlags = kNotSetOrGetable ∨
    attr.attributeFlags = kGetableAll)
  masked : attributeNumber ∈ cipClass.setBitMask
  decodes : attr.decode = some decode

/-- The value stays as it was unless the general status is success; then it is encoded by the octets of the request, and
another request with the same octets sets it alike. -/
def SetsLawfully (environment : ServiceEnvironment) (cipClass : AttributeClass) (inst : CipInstance)
    (request : CipMessageRouterRequest) (device : CipDevice) (attr : CipAttributeStruct) : Prop :=
  ∃ reply after, setAttributeSingle environment cipClass inst request device = some (reply, after) ∧
    (reply.generalStatus ≠ kCipErrorSuccess → after.memory.read attr.data = device.memory.read attr.data) ∧
    (reply.generalStatus = kCipErrorSuccess → attr.kind.Encodes (after.memory.read attr.data) request.ownData ∧
      ∀ other, request.SameWithin other → ∃ otherReply otherAfter,
        setAttributeSingle environment cipClass inst other device = some (otherReply, otherAfter) ∧
        otherReply.generalStatus = kCipErrorSuccess ∧
        otherAfter.memory.read attr.data = after.memory.read attr.data)

theorem memory_callBack (callback : Option CipGetSetCallback) (flags service : UInt8) :
    (inst.callBack callback flags attr service device).memory = device.memory := by
  cases callback with
  | none => rfl
  | some callback =>
      unfold CipInstance.callBack
      dsimp only
      split
      · cases callback with
        | assemblyPreGetCallback | assemblyPostSetCallback => rfl
        | nvQosSetCallback | nvTcpipSetCallback =>
            unfold CipGetSetCallback.run
            dsimp only
            split <;> rfl
      · rfl

theorem setAttributeSingle_result {decode : DecodeFunction attr.kind}
    (setable : cipClass.Setable inst request.requestPath.attributeNumber attr decode) :
    (setAttributeSingle environment cipClass inst request device).map
        (fun answer => (answer.1.generalStatus, answer.2.memory.read attr.data)) =
      decode.result environment request
        (inst.callBack cipClass.preSetCallback kPreSetFunc attr request.service device) attr.data := by
  unfold setAttributeSingle DecodeFunction.result
  dsimp only
  rw [setable.found]
  dsimp only
  rw [if_neg setable.supported, if_pos setable.masked, setable.decodes]
  dsimp only
  rw [Option.map_map]
  refine congrArg (Option.map · _) (funext fun (_, decoding) => ?_)
  change (_, CipMemory.read _ _) = _
  rw [memory_callBack]
  rfl

theorem setsLawfully_iff_lawful {decode : DecodeFunction attr.kind}
    (setable : cipClass.Setable inst request.requestPath.attributeNumber attr decode) :
    SetsLawfully environment cipClass inst request device attr ↔
      decode.Lawful environment request
        (inst.callBack cipClass.preSetCallback kPreSetFunc attr request.service device) attr.data := by
  have own := @setAttributeSingle_result environment request device cipClass inst attr decode setable
  have others {other : CipMessageRouterRequest} (same : request.SameWithin other) :
      (setAttributeSingle environment cipClass inst other device).map
          (fun answer => (answer.1.generalStatus, answer.2.memory.read attr.data)) =
        decode.result environment other
          (inst.callBack cipClass.preSetCallback kPreSetFunc attr request.service device) attr.data := by
    rw [← same.requestPath] at setable
    rw [setAttributeSingle_result setable, same.service]
  unfold SetsLawfully DecodeFunction.Lawful
  rw [memory_callBack]
  constructor
  · rintro ⟨reply, after, returned, unchanged, success⟩
    rw [returned, Option.map_some] at own
    refine ⟨_, _, own.symm, unchanged, fun succeeded => ⟨(success succeeded).1, fun other same => ?_⟩⟩
    obtain ⟨otherReply, otherAfter, otherReturned, otherStatus, otherValue⟩ := (success succeeded).2 other same
    rw [← others same, otherReturned, Option.map_some]
    exact congrArg some (Prod.ext otherStatus otherValue)
  · rintro ⟨status, value, result, unchanged, success⟩
    obtain ⟨⟨reply, after⟩, returned, pair⟩ := Option.map_eq_some_iff.mp (own.trans result)
    cases pair
    refine ⟨reply, after, returned, unchanged, fun succeeded => ⟨(success succeeded).1, fun other same => ?_⟩⟩
    have otherResult := (others same).trans ((success succeeded).2 other same)
    obtain ⟨⟨otherReply, otherAfter⟩, otherReturned, otherPair⟩ := Option.map_eq_some_iff.mp otherResult
    injection otherPair with otherStatus otherValue
    exact ⟨otherReply, otherAfter, otherReturned, otherStatus, otherValue⟩

/-- Whether a request to set an attribute does what it should is a matter of what it holds: the decode function has to
refuse it, or to find just as many octets as it takes. -/
theorem setsLawfully_iff {decode : DecodeFunction attr.kind}
    (setable : cipClass.Setable inst request.requestPath.attributeNumber attr decode) :
    SetsLawfully environment cipClass inst request device attr ↔
      decode.Fits environment request
        (inst.callBack cipClass.preSetCallback kPreSetFunc attr request.service device) attr.data :=
  (setsLawfully_iff_lawful setable).trans lawful_iff_fits

end Service

section QualityOfService

def kSetAttributeSingle : UInt8 := 0x10
def kCipQoSClassCode : UInt16 := 0x48

def setRequest (classId : UInt16) (instanceNumber : CipInstanceNum) (attributeNumber : UInt16)
    (data : List CipOctet) : CipMessageRouterRequest :=
  ⟨kSetAttributeSingle, ⟨3, classId, instanceNumber, attributeNumber⟩, UInt64.ofNat data.length, data⟩

def quietEnvironment : ServiceEnvironment := ⟨[], fun _ _ => .ok, [], []⟩

def clearedDevice : CipDevice := ⟨fun kind _ => kind.decode [], []⟩

def qosUrgent : CipAttributeStruct :=
  qosAttribute 4 four_numbered .qosDscpUrgent (some .cipQoSAttribute) (kGetableSingle ||| kSetable ||| kNvDataFunc)

/-- One octet is what the value takes. -/
theorem qosUrgent_set : ∃ qosClass inst, cipQoSInit = .ok qosClass ∧ qosClass.getCipInstance 1 = some inst ∧
    qosClass.Setable inst 4 qosUrgent .cipQoSAttribute ∧
    SetsLawfully quietEnvironment qosClass inst (setRequest kCipQoSClassCode 1 4 [27]) clearedDevice qosUrgent := by
  refine ⟨_, _, rfl, rfl, ⟨rfl, by decide, by decide, rfl⟩, ?_⟩
  exact (@setsLawfully_iff _ (setRequest kCipQoSClassCode 1 4 [27]) _ _ _ qosUrgent .cipQoSAttribute
    ⟨rfl, by decide, by decide, rfl⟩).mpr (.inr ⟨rfl, trivial, trivial⟩)

/-- A second octet is not noticed. -/
theorem qosUrgent_set_with_two_octets :
    ∃ qosClass inst, cipQoSInit = .ok qosClass ∧ qosClass.getCipInstance 1 = some inst ∧
      qosClass.Setable inst 4 qosUrgent .cipQoSAttribute ∧
      ¬ SetsLawfully quietEnvironment qosClass inst (setRequest kCipQoSClassCode 1 4 [27, 99]) clearedDevice
        qosUrgent := by
  refine ⟨_, _, rfl, rfl, ⟨rfl, by decide, by decide, rfl⟩, fun lawful => ?_⟩
  rw [@setsLawfully_iff_lawful _ (setRequest kCipQoSClassCode 1 4 [27, 99]) _ _ _ qosUrgent .cipQoSAttribute
    ⟨rfl, by decide, by decide, rfl⟩] at lawful
  have size := ((lawful_of_success rfl).mp lawful).1
  exact absurd size (by decide)

end QualityOfService

end EtherNetIP
