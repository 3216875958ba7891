import EtherNetIP.Cip.AttributeDecoders
import EtherNetIP.Cip.AttributeEncoding

/-! What the decode functions do.

Each makes a value of the octets at the read position, which it may refuse by a
check of its own. The value tells how many octets are looked at and how far the
position moves, and with the check what becomes of the device.
-/

set_option autoImplicit false

namespace EtherNetIP

variable {kind : DataKind} {environment : ServiceEnvironment} {request : CipMessageRouterRequest} {device : CipDevice}

section Outcomes

def sizeCheck (requestDataSize : UInt64) (length : UInt16) : Option UInt8 :=
  if requestDataSize < length.toUInt64 then some kCipErrorNotEnoughData
  else if requestDataSize > length.toUInt64 then some kCipErrorTooMuchData
  else none

def configurationCheck (environment : ServiceEnvironment) (device : CipDevice)
    (value : CipTcpIpInterfaceConfiguration) : Option UInt8 :=
  let configControl : UInt32 := device.memory.read gTcpipConfigControl
  let aligned : UInt16 := (value.domainName.length + 1) &&& ~~~ 1
  if isIOConnectionActive environment.connectionList then some kCipErrorDeviceStateConflict
  else if kTcpipCfgCtrlStaticIp ≠ configControl &&& kTcpipCfgCtrlMethodMask then some kCipErrorObjectStateConflict
  else if value.domainName.length > 48 then some kCipErrorTooMuchData
  else if !isValidNetworkConfig value ||
      (decide (aligned > 0) && !isValidDomain (cString (value.domainName.string ++ environment.octetsBehind))) then
    some kCipErrorInvalidAttributeValue
  else none

def hostNameCheck (environment : ServiceEnvironment) (value : CipString) : Option UInt8 :=
  if value.length > 64 then some kCipErrorTooMuchData
  else if value.length ≠ 0 ∧ !isValidNameLabel (cString (value.string ++ environment.octetsBehind)) then
    some kCipErrorInvalidAttributeValue
  else none

def interfaceControlCheck (device : CipDevice) (instanceNumber : CipInstanceNum)
    (value : CipEthernetLinkInterfaceControl) : Option UInt8 :=
  let selector : CipPointer .word := ⟨.ethernetLinkSpeedDuplexSelector (instanceNumber.toNat - 1)⟩
  if value.controlBits > kEthLinkIfCntrlMaxValid then some kCipErrorInvalidAttributeValue
  else if value.controlBits &&& kEthLinkIfCntrlAutonegotiate ≠ 0 ∧
      (value.controlBits &&& kEthLinkIfCntrlForceDuplexFD ≠ 0 ∨ value.forcedInterfaceSpeed ≠ 0) then
    some kCipErrorObjectStateConflict
  else if value.controlBits &&& kEthLinkIfCntrlAutonegotiate = 0 ∧
      !isIfaceControlAllowed (device.memory.read selector) value then
    some kCipErrorInvalidAttributeValue
  else none

/-- The value a decode function makes of the octets: the number as it stands there, or a floating point number in its
place. -/
def DecodeFunction.valueOf : {kind : DataKind} → DecodeFunction kind → List CipOctet → kind.Value
  | _, .cipReal, own => realOfDint (udintAt own)
  | _, .cipLreal, own => lrealOfLint (getLintFromMessage.run (octets 8 own)).1
  | kind, _, own => kind.decode own

def DecodeFunction.check (environment : ServiceEnvironment) (request : CipMessageRouterRequest) (device : CipDevice) :
    {kind : DataKind} → DecodeFunction kind → kind.Value → Option UInt8
  | .byteArray length, .cipByteArray, _ => sizeCheck request.requestDataSize length
  | .byteArray length, .cipAssemblyAttribute3, _ => sizeCheck request.requestDataSize length
  | _, .tcpIpInterfaceConfigurationControl, (value : UInt32) =>
      if admitsConfigurationControl value then none else some kCipErrorInvalidAttributeValue
  | _, .cipTcpIpInterfaceConfiguration, value => configurationCheck environment device value
  | _, .cipTcpIpInterfaceHostName, value => hostNameCheck environment value
  | _, .cipTcpIpInterfaceEncapsulationInactivityTimeout, (value : UInt16) =>
      if value ≤ 3600 then none else some kCipErrorInvalidAttributeValue
  | _, .cipQoSAttribute, (value : UInt8) => if value < 64 then none else some kCipErrorInvalidAttributeValue
  | _, .cipEthernetLinkInterfaceControl, value =>
      interfaceControlCheck device request.requestPath.instanceNumber value
  | _, _, _ => none

def applicationAccepts (environment : ServiceEnvironment) (request : CipMessageRouterRequest) (device : CipDevice)
    (data : CipPointer kind) (value : kind.Value) : Prop :=
  environment.afterAssemblyDataReceived { device with memory := device.memory.write data value }
    request.requestPath.instanceNumber = .ok

instance (data : CipPointer kind) (value : kind.Value) :
    Decidable (applicationAccepts environment request device data value) :=
  inferInstanceAs (Decidable (_ = _))

def DecodeFunction.finish (environment : ServiceEnvironment) (request : CipMessageRouterRequest) (device : CipDevice) :
    {kind : DataKind} → DecodeFunction kind → CipPointer kind → kind.Value → Option (UInt8 × kind.Value)
  | _, .cipAssemblyAttribute3, data, value =>
      some (if applicationAccepts environment request device data value then kCipErrorSuccess
        else kCipErrorInvalidAttributeValue, value)
  | _, .cipTcpIpInterfaceHostName, _, value =>
      if CipString.length value = 0 then none else some (kCipErrorSuccess, value)
  | _, _, _, value => some (kCipErrorSuccess, value)

def CipDevice.configurationPends (device : CipDevice) : CipDevice :=
  let status : UInt32 := device.memory.read gTcpipStatus
  { device with memory := device.memory.write gTcpipStatus (status ||| kTcpipStatusIfaceCfgPend) }

def DecodeFunction.leaves (request : CipMessageRouterRequest) (device : CipDevice) :
    {kind : DataKind} → DecodeFunction kind → CipPointer kind → kind.Value → CipDevice
  | _, .cipAssemblyAttribute3, data, value =>
      ⟨device.memory.write data value,
        .afterAssemblyDataReceived request.requestPath.instanceNumber :: device.calls⟩
  | _, .cipTcpIpInterfaceConfiguration, data, value =>
      CipDevice.configurationPends { device with memory := device.memory.write data value }
  | _, .cipTcpIpInterfaceHostName, data, value =>
      CipDevice.configurationPends { device with memory := device.memory.write data value }
  | _, _, data, value => { device with memory := device.memory.write data value }

def Configurable (environment : ServiceEnvironment) (device : CipDevice) : Prop :=
  ¬ isIOConnectionActive environment.connectionList ∧
    kTcpipCfgCtrlStaticIp = (device.memory.read gTcpipConfigControl : UInt32) &&& kTcpipCfgCtrlMethodMask

instance : Decidable (Configurable environment device) := inferInstanceAs (Decidable (_ ∧ _))

/-- The number of octets a function looks at, from the read position on. -/
def DecodeFunction.looksAt (environment : ServiceEnvironment) (request : CipMessageRouterRequest) (device : CipDevice) :
    {kind : DataKind} → DecodeFunction kind → kind.Value → Nat
  | .byteArray length, .cipByteArray, _ =>
      if (sizeCheck request.requestDataSize length).isNone then length.toNat else 0
  | .byteArray length, .cipAssemblyAttribute3, _ =>
      if (sizeCheck request.requestDataSize length).isNone then length.toNat else 0
  | _, .cipString, value => 2 + value.string.length
  | _, .cipTcpIpInterfaceConfiguration, value =>
      if Configurable environment device then
        22 + if value.domainName.length > 48 then 0 else value.domainName.string.length
      else 0
  | _, .cipTcpIpInterfaceHostName, value => 2 + if value.length > 64 then 0 else value.string.length
  | kind, _, value => kind.encodedSize value

def DecodeFunction.takes (environment : ServiceEnvironment) (device : CipDevice) :
    {kind : DataKind} → DecodeFunction kind → kind.Value → Nat
  | _, .cipByteArray, _ => 0
  | _, .cipAssemblyAttribute3, _ => 0
  | _, .cipTcpIpInterfaceConfiguration, _ => if Configurable environment device then 22 else 0
  | _, .cipTcpIpInterfaceHostName, _ => 2
  | kind, _, value => kind.encodedSize value

def DecodeFunction.ends (environment : ServiceEnvironment) (request : CipMessageRouterRequest)
    (decode : DecodeFunction kind) (data : CipPointer kind) (decoding : Decoding) (value : kind.Value) :
    Option Decoding :=
  let behind := (decoding.request.look (decode.looksAt environment request decoding.device value)).skip
    (decode.takes environment decoding.device value)
  match decode.check environment request decoding.device value with
  | some error => some ⟨decoding.device, behind, error⟩
  | none => (decode.finish environment request decoding.device data value).map fun (status, _) =>
      ⟨decode.leaves request decoding.device data value, behind, status⟩

def DecodeFunction.result (environment : ServiceEnvironment) (request : CipMessageRouterRequest) (device : CipDevice)
    (decode : DecodeFunction kind) (data : CipPointer kind) : Option (UInt8 × kind.Value) :=
  (decode.run environment request data ⟨device, .ofRequest environment request, kCipErrorAttributeNotSupported⟩).map
    fun (_, decoding) => (decoding.generalStatus, decoding.device.memory.read data)

end Outcomes

section Reading

namespace RequestData

variable (request : RequestData)

theorem look_zero : request.look 0 = request := if_pos rfl

theorem skip_zero : request.skip (0 : Nat) = request := congrArg (RequestData.mk _ · _) (Int.add_zero _)

theorem look_octets (count : Nat) : (request.look count).octets = request.octets := by
  unfold look
  split <;> rfl

theorem look_position (count : Nat) : (request.look count).position = request.position := by
  unfold look
  split <;> rfl

theorem skip_skip (first second : Nat) : (request.skip first).skip second = request.skip ((first + second : Nat) : Int) := by
  unfold skip
  rw [Int.add_assoc, Int.natCast_add]

theorem look_behind (first second : Nat) :
    ((request.look first).skip first).look second = (request.look (first + second)).skip first := by
  unfold look skip
  by_cases none_ : second = 0
  · simp only [none_, if_true, Nat.add_zero]
  · have some_ : first + second ≠ 0 := by omega
    simp only [none_, some_, if_false]
    by_cases front : first = 0
    · simp only [front, if_true, Nat.zero_add, Int.natCast_zero, Int.add_zero]
    · simp only [front, if_false]
      congr 1
      omega

end RequestData

variable {decoding : Decoding} {own : List CipOctet}

def RequestData.Finds (own : List CipOctet) (request : RequestData) : Prop :=
  ∀ i : Nat, request.octets (request.position + i) = octetAt own i

def Decoding.taken (decoding : Decoding) (count : Nat) : Decoding :=
  { decoding with request := (decoding.request.look count).skip count }

theorem taken_device (count : Nat) : (decoding.taken count).device = decoding.device := rfl

theorem taken_taken (first second : Nat) : (decoding.taken first).taken second = decoding.taken (first + second) := by
  unfold Decoding.taken
  dsimp only
  rw [RequestData.look_behind, RequestData.skip_skip]

namespace RequestData.Finds

theorem next {request : RequestData} (finds : request.Finds own) (count : Nat) :
    request.next count = EtherNetIP.octets count own :=
  List.map_congr_left fun i _ => finds i

theorem skip {request : RequestData} (finds : request.Finds own) (count : Nat) :
    (request.skip count).Finds (own.drop count) := by
  intro i
  change request.octets (request.position + count + i) = _
  rw [octetAt_drop, ← finds, Int.natCast_add, Int.add_assoc]

theorem look {request : RequestData} (finds : request.Finds own) (count : Nat) : (request.look count).Finds own := by
  intro i
  rw [look_octets, look_position]
  exact finds i

theorem get {α : Type} (finds : decoding.request.Finds own) (read : FromMessage α) (count : Nat) :
    decoding.get read count = ((read.run (EtherNetIP.octets count own)).1, decoding.taken count) := by
  rw [← finds.next]
  rfl

theorem next_taken (finds : decoding.request.Finds own) (first count : Nat) :
    (decoding.taken first).request.next count = EtherNetIP.octets count (own.drop first) :=
  ((finds.look first).skip first).next count

theorem get_taken {α : Type} (finds : decoding.request.Finds own) (read : FromMessage α) (first count : Nat) :
    (decoding.taken first).get read count =
      ((read.run (EtherNetIP.octets count (own.drop first))).1, decoding.taken (first + count)) := by
  rw [← taken_taken, ← finds.next_taken]
  rfl

end RequestData.Finds

end Reading

section Functions

variable {decoding : Decoding} {own : List CipOctet}

def Decoding.answered (decoding : Decoding) (device : CipDevice) (looked moved : Nat) (generalStatus : UInt8) : Decoding :=
  ⟨device, (decoding.request.look looked).skip moved, generalStatus⟩

theorem decodeNumber_ends (finds : decoding.request.Finds own) (read : FromMessage kind.Value) (count : Nat) (number : Int)
    (data : CipPointer kind) : (decodeNumber read count number data decoding).2 =
      decoding.answered { decoding.device with
        memory := decoding.device.memory.write data (read.run (octets count own)).1 } count count kCipErrorSuccess := by
  unfold decodeNumber
  rw [finds.get]
  rfl

theorem decodeChecked_ends (finds : decoding.request.Finds own) (read : FromMessage kind.Value) (count : Nat)
    (admits : kind.Value → Bool) (data : CipPointer kind) : (decodeChecked read count admits data decoding).2 =
      if admits (read.run (octets count own)).1 then
        decoding.answered { decoding.device with
          memory := decoding.device.memory.write data (read.run (octets count own)).1 } count count kCipErrorSuccess
      else decoding.answered decoding.device count count kCipErrorInvalidAttributeValue := by
  unfold decodeChecked
  rw [finds.get]
  dsimp only
  split <;> rfl

theorem kept_of_admitted {received : UInt32} (admitted : admitsConfigurationControl received = true) :
    received &&& (kTcpipCfgCtrlMethodMask ||| kTcpipCfgCtrlDnsEnable) = received := by
  simp only [admitsConfigurationControl, Bool.not_eq_true', Bool.or_eq_false_iff, bne_eq_false_iff_eq] at admitted
  have outside (i : Nat) : (received.toBitVec &&& ~~~ 0x0F#32).getLsbD i = false := by
    have none_ := congrArg (fun bits : UInt32 => bits.toBitVec.getLsbD i) admitted.2
    exact none_.trans BitVec.getLsbD_zero
  apply UInt32.eq_of_toBitVec_eq
  apply BitVec.eq_of_getLsbD_eq
  intro i within
  change (received.toBitVec &&& (0x0F#32 ||| 0x10#32)).getLsbD i = _
  have bit := outside i
  simp only [BitVec.getLsbD_and, BitVec.getLsbD_not, BitVec.getLsbD_or, within, decide_true, Bool.true_and] at bit ⊢
  generalize (0x0F#32).getLsbD i = method at bit ⊢
  cases method with
  | false => rw [Bool.not_false, Bool.and_true] at bit; rw [bit, Bool.false_and]
  | true => rw [Bool.true_or, Bool.and_true]

theorem decodeTcpIpInterfaceConfigurationControl_ends (finds : decoding.request.Finds own) (data : CipPointer .dword) :
    (decodeTcpIpInterfaceConfigurationControl data decoding).2 =
      if admitsConfigurationControl (udintAt own) then
        decoding.answered { decoding.device with memory := decoding.device.memory.write data (udintAt own) } 4 4
          kCipErrorSuccess
      else decoding.answered decoding.device 4 4 kCipErrorInvalidAttributeValue := by
  unfold decodeTcpIpInterfaceConfigurationControl
  rw [finds.get]
  change (if admitsConfigurationControl (udintAt own) then _ else _ : Int × Decoding).2 = _
  split
  next admitted =>
    rw [← kept_of_admitted admitted]
    rfl
  next => rfl

theorem copyTo_eq (finds : decoding.request.Finds own) {length : UInt16} (data : CipPointer (.byteArray length)) :
    decoding.copyTo data =
      ⟨{ decoding.device with memory := decoding.device.memory.write data (DataKind.decode (.byteArray length) own) },
        decoding.request.look length.toNat, decoding.generalStatus⟩ := by
  have value : (⟨_, RequestData.length_next _ _⟩ : DataKind.Value (.byteArray length)) =
      DataKind.decode (.byteArray length) own := Subtype.ext (finds.next length.toNat)
  rw [← value]
  rfl

theorem decodeCipByteArray_ends (finds : decoding.request.Finds own) {length : UInt16} (data : CipPointer (.byteArray length)) :
    some (decodeCipByteArray request.requestDataSize data decoding).2 =
      DecodeFunction.cipByteArray.ends environment request data decoding (DataKind.decode (.byteArray length) own) := by
  unfold decodeCipByteArray DecodeFunction.ends
  simp only [DecodeFunction.check, DecodeFunction.looksAt, DecodeFunction.takes, sizeCheck]
  split
  · simp only [Option.isNone_some, Bool.false_eq_true, if_false, RequestData.look_zero, RequestData.skip_zero]
    rfl
  · split
    · simp only [Option.isNone_some, Bool.false_eq_true, if_false, RequestData.look_zero, RequestData.skip_zero]
      rfl
    · rw [copyTo_eq finds]
      exact congrArg some (congrArg (Decoding.mk _ · _) (RequestData.skip_zero _).symm)

theorem decodeCipAssemblyAttribute3_ends (finds : decoding.request.Finds own) {length : UInt16}
    (data : CipPointer (.byteArray length)) :
    some (decodeCipAssemblyAttribute3 environment request.requestDataSize request.requestPath.instanceNumber data
        decoding).2 =
      DecodeFunction.cipAssemblyAttribute3.ends environment request data decoding
        (DataKind.decode (.byteArray length) own) := by
  unfold decodeCipAssemblyAttribute3 DecodeFunction.ends
  simp only [DecodeFunction.check, DecodeFunction.looksAt, DecodeFunction.takes, sizeCheck]
  split
  · simp only [Option.isNone_some, Bool.false_eq_true, if_false, RequestData.look_zero, RequestData.skip_zero]
    rfl
  · split
    · simp only [Option.isNone_some, Bool.false_eq_true, if_false, RequestData.look_zero, RequestData.skip_zero]
      rfl
    · rw [copyTo_eq finds, ite_not]
      exact congrArg some (congrArg (Decoding.mk _ · _) (RequestData.skip_zero _).symm)

theorem decodeCipString_ends (finds : decoding.request.Finds own) (data : CipPointer .string) :
    some (decodeCipString data decoding).2 =
      DecodeFunction.cipString.ends environment request data decoding (cipStringAt own) := by
  have read : (decoding.taken 2).cipString (getUintFromMessage.run (octets 2 own)).1 = cipStringAt own := by
    simp only [Decoding.cipString, finds.next_taken]
    rfl
  unfold decodeCipString
  rw [finds.get]
  dsimp only
  rw [read]
  have length : (getUintFromMessage.run (octets 2 own)).1.toNat = (cipStringAt own).string.length :=
    (octets_length ..).symm
  have passed : ((decoding.taken 2).request.look (cipStringAt own).string.length).skip (cipStringAt own).string.length =
      (decoding.request.look (2 + (cipStringAt own).string.length)).skip
        ((2 + (cipStringAt own).string.length : Nat) : Int) :=
    (congrArg (RequestData.skip · _) (RequestData.look_behind ..)).trans (RequestData.skip_skip ..)
  rw [length]
  split
  next odd =>
    have padded : 2 + (cipStringAt own).string.length + 1 = (cipStringAt own).paddedSize :=
      congrArg (2 + (cipStringAt own).string.length + ·) odd.symm
    refine congrArg some (congrArg (Decoding.mk _ · _) ?_)
    refine ((congrArg (RequestData.skip · (1 : Nat)) passed).trans (RequestData.skip_skip ..)).trans ?_
    exact congrArg (fun count : Nat => RequestData.skip (RequestData.look _ _) count) padded
  next even =>
    have padded : 2 + (cipStringAt own).string.length = (cipStringAt own).paddedSize := by
      rw [CipString.paddedSize]
      omega
    refine congrArg some (congrArg (Decoding.mk _ · _) (passed.trans ?_))
    exact congrArg (fun count : Nat => RequestData.skip (RequestData.look _ _) count) padded

theorem decodeCipShortString_ends (finds : decoding.request.Finds own) (data : CipPointer .shortString) :
    some (decodeCipShortString data decoding).2 =
      DecodeFunction.cipShortString.ends environment request data decoding (cipShortStringAt own) := by
  have read : (decoding.taken 1).cipShortString (getUsintFromMessage.run (octets 1 own)).1 = cipShortStringAt own := by
    simp only [Decoding.cipShortString, finds.next_taken]
    rfl
  have length : (getUsintFromMessage.run (octets 1 own)).1.toNat = (cipShortStringAt own).string.length :=
    (octets_length ..).symm
  unfold decodeCipShortString
  rw [finds.get]
  dsimp only
  rw [read, length]
  refine congrArg some (congrArg (Decoding.mk _ · _) ?_)
  exact (congrArg (RequestData.skip · _) (RequestData.look_behind ..)).trans (RequestData.skip_skip ..)

theorem decodeCipTcpIpInterfaceHostName_ends (finds : decoding.request.Finds own) (data : CipPointer .string) :
    (decodeCipTcpIpInterfaceHostName environment data decoding).map Prod.snd =
      DecodeFunction.cipTcpIpInterfaceHostName.ends environment request data decoding (cipStringAt own) := by
  have read : (decoding.taken 2).cipString (cipStringAt own).length = cipStringAt own := by
    simp only [Decoding.cipString, finds.next_taken, cipStringAt_length]
    rfl
  have behind : (decoding.taken 2).request.look (cipStringAt own).string.length =
      (decoding.request.look (2 + (cipStringAt own).string.length)).skip (2 : Nat) := RequestData.look_behind ..
  unfold decodeCipTcpIpInterfaceHostName DecodeFunction.ends
  rw [finds.get, ← cipStringAt_length]
  simp only [DecodeFunction.check, DecodeFunction.looksAt, DecodeFunction.takes, DecodeFunction.finish, hostNameCheck,
    read, CipString.toNat_length]
  by_cases long : (cipStringAt own).length > 64
  · simp only [long, ↓reduceIte, Option.map_some]
    rfl
  · by_cases empty : (cipStringAt own).length = 0
    · simp only [empty, ↓reduceIte, ne_eq, not_true, false_and]
      rfl
    · simp only [long, empty, ↓reduceIte, ne_eq, not_false_eq_true, true_and]
      split
      · exact congrArg (fun request => some (Decoding.mk _ request _)) behind
      · exact congrArg (fun request => some (Decoding.mk _ request _)) behind

theorem decodeCipTcpIpInterfaceConfiguration_ends (finds : decoding.request.Finds own)
    (data : CipPointer .interfaceConfiguration) :
    some (decodeCipTcpIpInterfaceConfiguration environment data decoding).2 =
      DecodeFunction.cipTcpIpInterfaceConfiguration.ends environment request data decoding
        (DataKind.decode .interfaceConfiguration own) := by
  have read : (decoding.taken 22).cipString (cipStringAt (own.drop 20)).length = cipStringAt (own.drop 20) := by
    simp only [Decoding.cipString, finds.next_taken, cipStringAt_length]
    simp only [cipStringAt, List.drop_drop]
  have length : (getUintFromMessage.run (octets 2 (own.drop 20))).1 = (cipStringAt (own.drop 20)).length :=
    (cipStringAt_length _).symm
  have configured : (⟨htonl (getUdintFromMessage.run (octets 4 own)).1,
      htonl (getUdintFromMessage.run (octets 4 (own.drop 4))).1,
      htonl (getUdintFromMessage.run (octets 4 (own.drop (4 + 4)))).1,
      htonl (getUdintFromMessage.run (octets 4 (own.drop (4 + 4 + 4)))).1,
      htonl (getUdintFromMessage.run (octets 4 (own.drop (4 + 4 + 4 + 4)))).1,
      cipStringAt (own.drop 20)⟩ : CipTcpIpInterfaceConfiguration) = DataKind.decode .interfaceConfiguration own := rfl
  have domain : (DataKind.decode .interfaceConfiguration own : CipTcpIpInterfaceConfiguration).domainName =
      cipStringAt (own.drop 20) := rfl
  have behind : (decoding.taken 22).request.look (cipStringAt (own.drop 20)).string.length =
      (decoding.request.look (22 + (cipStringAt (own.drop 20)).string.length)).skip (22 : Nat) :=
    RequestData.look_behind ..
  unfold decodeCipTcpIpInterfaceConfiguration DecodeFunction.ends
  simp only [finds.get, finds.get_taken, length, read, configured, domain, DecodeFunction.check, configurationCheck,
    DecodeFunction.looksAt, DecodeFunction.takes, CipString.toNat_length]
  by_cases active : isIOConnectionActive environment.connectionList = true
  · have not_ : ¬ Configurable environment decoding.device := fun configurable => configurable.1 active
    rw [if_pos active, if_pos active, if_neg not_, if_neg not_, RequestData.look_zero, RequestData.skip_zero]
    rfl
  · by_cases dynamic : kTcpipCfgCtrlStaticIp ≠
        (decoding.device.memory.read gTcpipConfigControl : UInt32) &&& kTcpipCfgCtrlMethodMask
    · have not_ : ¬ Configurable environment decoding.device := fun configurable => dynamic configurable.2
      rw [if_neg active, if_neg active, if_pos dynamic, if_pos dynamic, if_neg not_, if_neg not_, RequestData.look_zero,
        RequestData.skip_zero]
      rfl
    · have configurable : Configurable environment decoding.device := ⟨active, not_not.mp dynamic⟩
      rw [if_neg active, if_neg active, if_neg dynamic, if_neg dynamic, if_pos configurable, if_pos configurable]
      by_cases long : (cipStringAt (own.drop 20)).length > 48
      · simp only [long, ↓reduceIte]
        rfl
      · simp only [long, ↓reduceIte]
        split
        · exact congrArg (fun request => some (Decoding.mk _ request _)) behind
        · exact congrArg (fun request => some (Decoding.mk _ request _)) behind

theorem decodeCipEthernetLinkInterfaceControl_ends (finds : decoding.request.Finds own) (data : CipPointer .interfaceControl) :
    some (decodeCipEthernetLinkInterfaceControl request.requestPath.instanceNumber data decoding).2 =
      DecodeFunction.cipEthernetLinkInterfaceControl.ends environment request data decoding
        (DataKind.decode .interfaceControl own) := by
  have bits : (getWordFromMessage.run (octets 2 own)).1 =
      (DataKind.decode .interfaceControl own : CipEthernetLinkInterfaceControl).controlBits := rfl
  have speed : (getUintFromMessage.run (octets 2 (own.drop 2))).1 =
      (DataKind.decode .interfaceControl own : CipEthernetLinkInterfaceControl).forcedInterfaceSpeed := rfl
  unfold decodeCipEthernetLinkInterfaceControl DecodeFunction.ends
  rw [finds.get]
  dsimp only
  rw [finds.get_taken, bits, speed]
  generalize (DataKind.decode .interfaceControl own : CipEthernetLinkInterfaceControl) = value
  obtain ⟨controlBits, forcedInterfaceSpeed⟩ := value
  simp only [DecodeFunction.check, interfaceControlCheck, Decoding.answer, taken_device]
  split
  · rfl
  · split
    · rfl
    · split
      next forbidden => exact congrArg (fun ended : Int × Decoding => some ended.2) (if_pos forbidden)
      next allowed => exact congrArg (fun ended : Int × Decoding => some ended.2) (if_neg allowed)

theorem some_ite {Ended : Type} (accepts : Prop) [Decidable accepts] (error : UInt8) (refused : UInt8 → Ended)
    (accepted : Ended) : some (if accepts then accepted else refused error) =
      match if accepts then none else some error with
      | some error => some (refused error)
      | none => some accepted := by
  split <;> rfl

/-- What a decode function does follows from the value of the octets it finds. -/
theorem run_eq (finds : decoding.request.Finds own) (decode : DecodeFunction kind) (data : CipPointer kind) :
    (decode.run environment request data decoding).map Prod.snd =
      decode.ends environment request data decoding (decode.valueOf own) := by
  cases decode with
  | cipBool | cipByte | cipUsint | cipSint => exact congrArg some (decodeNumber_ends finds _ 1 1 data)
  | cipWord | cipUint | cipInt => exact congrArg some (decodeNumber_ends finds _ 2 2 data)
  | cipDword | cipUdint | cipDint | cipReal => exact congrArg some (decodeNumber_ends finds _ 4 4 data)
  | cipLword => exact congrArg some (decodeNumber_ends finds _ 8 4 data)
  | cipUlint | cipLint | cipLreal => exact congrArg some (decodeNumber_ends finds _ 8 8 data)
  | cipByteArray => exact decodeCipByteArray_ends finds data
  | cipAssemblyAttribute3 => exact decodeCipAssemblyAttribute3_ends finds data
  | cipString => exact decodeCipString_ends finds data
  | cipShortString => exact decodeCipShortString_ends finds data
  | tcpIpInterfaceConfigurationControl =>
      exact (congrArg some (decodeTcpIpInterfaceConfigurationControl_ends finds data)).trans
        (some_ite _ _ (decoding.answered decoding.device 4 4) _)
  | cipTcpIpInterfaceConfiguration => exact decodeCipTcpIpInterfaceConfiguration_ends finds data
  | cipTcpIpInterfaceHostName => exact decodeCipTcpIpInterfaceHostName_ends finds data
  | cipTcpIpInterfaceEncapsulationInactivityTimeout =>
      have ended := @decodeChecked_ends .word decoding own finds getUintFromMessage 2
        (fun (value : UInt16) => decide (value ≤ 3600)) data
      refine (congrArg some ended).trans ?_
      simp only [decide_eq_true_eq]
      exact some_ite _ _ (decoding.answered decoding.device 2 2) _
  | cipQoSAttribute =>
      have ended := @decodeChecked_ends .octet decoding own finds getUsintFromMessage 1
        (fun (value : UInt8) => decide (value < 64)) data
      refine (congrArg some ended).trans ?_
      simp only [decide_eq_true_eq]
      exact some_ite _ _ (decoding.answered decoding.device 1 1) _
  | cipEthernetLinkInterfaceControl => exact decodeCipEthernetLinkInterfaceControl_ends finds data

end Functions

section Results

def Decoding.start (environment : ServiceEnvironment) (request : CipMessageRouterRequest) (device : CipDevice) :
    Decoding :=
  ⟨device, .ofRequest environment request, kCipErrorAttributeNotSupported⟩

theorem ofRequest_finds : (RequestData.ofRequest environment request).Finds request.data := by
  intro i
  change (RequestData.ofRequest environment request).octets (0 + (i : Int)) = _
  rw [Int.zero_add]
  rfl

theorem read_configurationPends (other : kind ≠ .dword) (data : CipPointer kind) :
    device.configurationPends.memory.read data = device.memory.read data :=
  CipMemory.read_write_of_kind _ _ _ _ other

theorem read_leaves (decode : DecodeFunction kind) (data : CipPointer kind) (value : kind.Value) :
    (decode.leaves request device data value).memory.read data = value := by
  cases decode with
  | cipTcpIpInterfaceConfiguration | cipTcpIpInterfaceHostName =>
      exact (read_configurationPends (by decide) _).trans (CipMemory.read_write_self ..)
  | _ => exact CipMemory.read_write_self ..

theorem finish_leaves (decode : DecodeFunction kind) (data : CipPointer kind) (value : kind.Value) :
    (decode.finish environment request device data value).map
        (fun (status, _) => (status, (decode.leaves request device data value).memory.read data)) =
      decode.finish environment request device data value := by
  rw [read_leaves]
  cases decode with
  | cipTcpIpInterfaceHostName =>
      unfold DecodeFunction.finish
      dsimp only
      split <;> rfl
  | _ => rfl

theorem result_eq (decode : DecodeFunction kind) (data : CipPointer kind) :
    decode.result environment request device data =
      match decode.check environment request device (decode.valueOf request.data) with
      | some error => some (error, device.memory.read data)
      | none => decode.finish environment request device data (decode.valueOf request.data) := by
  have ends := congrArg (Option.map fun decoding : Decoding =>
    (decoding.generalStatus, decoding.device.memory.read data))
    (@run_eq kind environment request (.start environment request device) _ ofRequest_finds decode data)
  rw [Option.map_map] at ends
  refine ends.trans ?_
  unfold DecodeFunction.ends
  change Option.map _ (match decode.check environment request device (decode.valueOf request.data) with
    | some error => _
    | none => _) = _
  cases decode.check environment request device (decode.valueOf request.data) with
  | some error => rfl
  | none =>
      dsimp only
      rw [Option.map_map]
      exact finish_leaves ..

end Results

end EtherNetIP
