import EtherNetIP.Cip.AttributeDecoders

/-! Classes, their instances and the service that sets an attribute.

An instance has an array of attributes, which is filled from the front; the
entries that are not set yet have the number zero. Which attributes may be read
and written is recorded for the class as a whole, by their numbers. Functions may
be installed that are called before and after an attribute is read or written.
-/

set_option autoImplicit false

namespace EtherNetIP

section Flags

def kNotSetOrGetable : UInt8 := 0x00
def kGetableAll : UInt8 := 0x01
def kGetableSingle : UInt8 := 0x02
def kSetable : UInt8 := 0x04
def kSetAndGetAble : UInt8 := 0x07
def kGetableSingleAndAll : UInt8 := 0x03
def kGetableAllDummy : UInt8 := 0x08
def kPreGetFunc : UInt8 := 0x10
def kPostGetFunc : UInt8 := 0x20
def kPreSetFunc : UInt8 := 0x40
def kPostSetFunc : UInt8 := 0x80
def kNvDataFunc : UInt8 := 0x80

end Flags

section Encoding

abbrev EncodeFunction (kind : DataKind) := kind.Value → UInt64 → List CipOctet

def encodeCipBool : EncodeFunction .octet := fun value _ => addSintToMessage value
def encodeCipByte : EncodeFunction .octet := fun value _ => addSintToMessage value
def encodeCipWord : EncodeFunction .word := fun value _ => addIntToMessage value
def encodeCipDword : EncodeFunction .dword := fun value _ => addDintToMessage value
def encodeCipLword : EncodeFunction .lword := fun value _ => addLintToMessage value
def encodeCipUsint : EncodeFunction .octet := fun value _ => addSintToMessage value
def encodeCipUint : EncodeFunction .word := fun value _ => addIntToMessage value
def encodeCipUdint : EncodeFunction .dword := fun value _ => addDintToMessage value
def encodeCipUlint : EncodeFunction .lword := fun value _ => addLintToMessage value
def encodeCipSint : EncodeFunction .octet := fun value _ => addSintToMessage value
def encodeCipInt : EncodeFunction .word := fun value _ => addIntToMessage value
def encodeCipDint : EncodeFunction .dword := fun value _ => addDintToMessage value
def encodeCipLint : EncodeFunction .lword := fun value _ => addLintToMessage value
def encodeCipReal : EncodeFunction .dword := fun value _ => addDintToMessage value
def encodeCipLreal : EncodeFunction .lword := fun value _ => addLintToMessage value

def encodeRevision : EncodeFunction .revision := fun value _ =>
  addSintToMessage value.majorRevision ++ addSintToMessage value.minorRevision

def encodeCipShortString : EncodeFunction .shortString := fun value _ => addSintToMessage value.length ++ value.string

/-- There is a pad octet behind a string that is not empty, if the message would have an odd number of octets. -/
def encodeCipString : EncodeFunction .string := fun value used =>
  addIntToMessage value.length ++
    if value.length ≠ 0 then
      value.string ++
        if (used + 2 + value.length.toUInt64) &&& 1 ≠ 0 then addSintToMessage 0 else []
    else []

def encodeCipByteArray {length : UInt16} : EncodeFunction (.byteArray length) := fun value _ => value.val

end Encoding

/-- An attribute that has been inserted; its number is not that of the unused entries. -/
structure CipAttributeStruct where
  attributeNumber : UInt16
  type : CipDataType
  kind : DataKind
  encode : EncodeFunction kind
  decode : Option (DecodeFunction kind)
  data : CipPointer kind
  attributeFlags : UInt8
  numbered : attributeNumber ≠ 0 := by decide

/-- An entry of the array of attributes; none is one that is not set. -/
abbrev AttributeEntry := Option CipAttributeStruct

def AttributeEntry.attributeNumber : AttributeEntry → UInt16
  | none => 0
  | some attr => attr.attributeNumber

structure CipInstance where
  instanceNumber : CipInstanceNum
  attributes : List AttributeEntry

inductive CipGetSetCallback where
  | assemblyPreGetCallback
  | assemblyPostSetCallback
  | nvQosSetCallback
  | nvTcpipSetCallback
  deriving DecidableEq, Repr

/-- The attribute numbers whose bits are set in a bit mask; the number of the unused entries is not among them. -/
structure AttributeMask where
  numbers : List UInt16
  numbered : 0 ∉ numbers

namespace AttributeMask

instance : Membership UInt16 AttributeMask := ⟨fun mask attributeNumber => attributeNumber ∈ mask.numbers⟩

instance (mask : AttributeMask) (attributeNumber : UInt16) : Decidable (attributeNumber ∈ mask) :=
  inferInstanceAs (Decidable (attributeNumber ∈ mask.numbers))

def empty : AttributeMask := ⟨[], List.not_mem_nil⟩

def insert (mask : AttributeMask) (attr : CipAttributeStruct) : AttributeMask where
  numbers := attr.attributeNumber :: mask.numbers
  numbered listed := (List.mem_cons.mp listed).elim (fun zero => attr.numbered zero.symm) mask.numbered

end AttributeMask

structure AttributeClass where
  instances : List CipInstance
  numberOfAttributes : Nat
  highestAttributeNumber : UInt16
  getSingleBitMask : AttributeMask
  setBitMask : AttributeMask
  getAllBitMask : AttributeMask
  preGetCallback : Option CipGetSetCallback
  postGetCallback : Option CipGetSetCallback
  preSetCallback : Option CipGetSetCallback
  postSetCallback : Option CipGetSetCallback

namespace CipInstance

def getCipAttribute (inst : CipInstance) (attributeNumber : UInt16) : Option AttributeEntry :=
  inst.attributes.find? (·.attributeNumber == attributeNumber)

end CipInstance

namespace AttributeClass

def create (numberOfInstanceAttributes : Nat) (highestInstanceAttributeNumber : UInt16) : AttributeClass where
  instances := []
  numberOfAttributes := numberOfInstanceAttributes
  highestAttributeNumber := highestInstanceAttributeNumber
  getSingleBitMask := .empty
  setBitMask := .empty
  getAllBitMask := .empty
  preGetCallback := none
  postGetCallback := none
  preSetCallback := none
  postSetCallback := none

/-- The instance with the number; number zero is the class itself, which is not among them. -/
def getCipInstance (cipClass : AttributeClass) (instanceNumber : CipInstanceNum) : Option CipInstance :=
  cipClass.instances.find? (·.instanceNumber == instanceNumber)

/-- An instance is added behind the others unless there is one with the number. -/
def addCipInstance (cipClass : AttributeClass) (instanceId : CipInstanceNum) : AttributeClass :=
  if (cipClass.getCipInstance instanceId).isSome then cipClass
  else
    { cipClass with
      instances := cipClass.instances ++ [⟨instanceId, List.replicate cipClass.numberOfAttributes none⟩] }

def place (attr : CipAttributeStruct) : List AttributeEntry → Option (List AttributeEntry)
  | [] => none
  | none :: rest => some (some attr :: rest)
  | some other :: rest => (place attr rest).map (some other :: ·)

def flagged (attr : CipAttributeStruct) (flags : UInt8) (mask : AttributeMask) : AttributeMask :=
  if attr.attributeFlags &&& flags ≠ 0 then mask.insert attr else mask

/-- It is asserted that there is an unused entry and that the number has a place in the masks. -/
def insertAttribute (cipClass : AttributeClass) (instanceNumber : CipInstanceNum) (attr : CipAttributeStruct) :
    Except Fault AttributeClass :=
  match cipClass.getCipInstance instanceNumber with
  | none => .error .nullInstance
  | some inst =>
      match place attr inst.attributes with
      | none => .error .assertion
      | some attributes =>
          if attr.attributeNumber > cipClass.highestAttributeNumber then .error .assertion
          else
            .ok { cipClass with
              instances := cipClass.instances.map fun other =>
                if other.instanceNumber = instanceNumber then { other with attributes } else other
              getSingleBitMask := flagged attr kGetableSingle cipClass.getSingleBitMask
              getAllBitMask := flagged attr (kGetableAll ||| kGetableAllDummy) cipClass.getAllBitMask
              setBitMask := flagged attr kSetable cipClass.setBitMask }

def insertGetSetCallback (cipClass : AttributeClass) (callback : CipGetSetCallback) (callbacksToInstall : UInt8) : AttributeClass :=
  let installed (flags : UInt8) (current : Option CipGetSetCallback) : Option CipGetSetCallback :=
    if flags &&& callbacksToInstall ≠ 0 then some callback else current
  { cipClass with
    preGetCallback := installed kPreGetFunc cipClass.preGetCallback
    postGetCallback := installed kPostGetFunc cipClass.postGetCallback
    preSetCallback := installed kPreSetFunc cipClass.preSetCallback
    postSetCallback := installed (kPostSetFunc ||| kNvDataFunc) cipClass.postSetCallback }

end AttributeClass

section Setting

def CipDevice.call (device : CipDevice) (made : DeviceCall) : CipDevice := { device with calls := made :: device.calls }

/-- A call of an installed function; nobody looks at its status. -/
def CipGetSetCallback.run (instanceNumber : CipInstanceNum) (attr : CipAttributeStruct) (service : UInt8)
    (device : CipDevice) : CipGetSetCallback → CipDevice
  | .assemblyPreGetCallback => device.call (.beforeAssemblyDataSend instanceNumber)
  | .assemblyPostSetCallback => device.call (.afterAssemblyDataReceived instanceNumber)
  | .nvQosSetCallback => if attr.attributeFlags &&& kNvDataFunc ≠ 0 then device.call .nvQosStore else device
  | .nvTcpipSetCallback =>
      if attr.attributeFlags &&& kNvDataFunc ≠ 0 ∧ service &&& 0x80 = 0 then device.call .nvTcpipStore
      else device

def CipInstance.callBack (inst : CipInstance) (callback : Option CipGetSetCallback) (flags : UInt8)
    (attr : CipAttributeStruct) (service : UInt8) (device : CipDevice) : CipDevice :=
  match callback with
  | none => device
  | some callback =>
      if attr.attributeFlags &&& flags ≠ 0 then callback.run inst.instanceNumber attr service device
      else device

def emptyReply (request : CipMessageRouterRequest) (generalStatus : UInt8) : Response where
  replyService := 0x80 ||| request.service
  generalStatus
  additionalStatus := []
  message := []
  addressInfoItems := []

/-- None is a call or a read through a null pointer. -/
def setAttributeSingle (environment : ServiceEnvironment) (cipClass : AttributeClass) (inst : CipInstance)
    (request : CipMessageRouterRequest) (device : CipDevice) : Option (Response × CipDevice) :=
  let attributeNumber := request.requestPath.attributeNumber
  match inst.getCipAttribute attributeNumber with
  | some (some attr) =>
      if attr.attributeFlags = kGetableAllDummy ∨ attr.attributeFlags = kNotSetOrGetable ∨
          attr.attributeFlags = kGetableAll then
        some (emptyReply request kCipErrorAttributeNotSupported, device)
      else if attributeNumber ∈ cipClass.setBitMask then
        let device := inst.callBack cipClass.preSetCallback kPreSetFunc attr request.service device
        match attr.decode with
        | none => none
        | some decode =>
            (decode.run environment request attr.data
              ⟨device, .ofRequest environment request, kCipErrorAttributeNotSupported⟩).map fun (_, decoding) =>
                (emptyReply request decoding.generalStatus,
                  inst.callBack cipClass.postSetCallback (kPostSetFunc ||| kNvDataFunc) attr request.service
                    decoding.device)
      else some (emptyReply request kCipErrorAttributeNotSetable, device)
  | _ => some (emptyReply request kCipErrorAttributeNotSupported, device)

end Setting

section Assemblies

def createAssemblyClass : AttributeClass :=
  ((AttributeClass.create 2 4).insertGetSetCallback .assemblyPreGetCallback kPreGetFunc).insertGetSetCallback
    .assemblyPostSetCallback kPostSetFunc

def assemblyAttribute3 (instanceId : CipInstanceNum) (dataLength : UInt16) : CipAttributeStruct where
  attributeNumber := 3
  type := .byteArray
  kind := .byteArray dataLength
  encode := encodeCipByteArray
  decode := some .cipAssemblyAttribute3
  data := ⟨.assemblyData instanceId⟩
  attributeFlags := kSetAndGetAble ||| kPreGetFunc ||| kPostSetFunc

def assemblyAttribute4 (instanceId : CipInstanceNum) : CipAttributeStruct where
  attributeNumber := 4
  type := .uint
  kind := .word
  encode := encodeCipUint
  decode := none
  data := ⟨.assemblyLength instanceId⟩
  attributeFlags := kGetableSingle

/-- Number zero is the class itself, whose attributes are all set. -/
def AttributeClass.createAssemblyObject (assemblyClass : AttributeClass) (instanceId : CipInstanceNum) (dataLength : UInt16) :
    Except Fault AttributeClass :=
  if instanceId = 0 then .error .assertion
  else do
    let assemblyClass := assemblyClass.addCipInstance instanceId
    let assemblyClass ← assemblyClass.insertAttribute instanceId (assemblyAttribute3 instanceId dataLength)
    assemblyClass.insertAttribute instanceId (assemblyAttribute4 instanceId)

end Assemblies

theorem one_numbered : (1 : UInt16) ≠ 0 := by decide

theorem four_numbered : (4 : UInt16) ≠ 0 := by decide

section Identity

def identityAttribute (attributeNumber : UInt16) (numbered : attributeNumber ≠ 0) (type : CipDataType) {kind : DataKind}
    (encode : EncodeFunction kind) (name : Variable) : CipAttributeStruct where
  attributeNumber
  type
  kind
  encode
  decode := none
  data := ⟨name⟩
  attributeFlags := kGetableSingleAndAll
  numbered

def cipIdentityInit : Except Fault AttributeClass := do
  let identityClass := (AttributeClass.create 7 7).addCipInstance 1
  let identityClass ← identityClass.insertAttribute 1
    (identityAttribute 1 (by decide) .uint encodeCipUint .identityVendorId)
  let identityClass ← identityClass.insertAttribute 1
    (identityAttribute 2 (by decide) .uint encodeCipUint .identityDeviceType)
  let identityClass ← identityClass.insertAttribute 1
    (identityAttribute 3 (by decide) .uint encodeCipUint .identityProductCode)
  let identityClass ← identityClass.insertAttribute 1
    (identityAttribute 4 (by decide) .usintUsint encodeRevision .identityRevision)
  let identityClass ← identityClass.insertAttribute 1
    (identityAttribute 5 (by decide) .word encodeCipWord .identityStatus)
  let identityClass ← identityClass.insertAttribute 1
    (identityAttribute 6 (by decide) .udint encodeCipUdint .identitySerialNumber)
  identityClass.insertAttribute 1
    (identityAttribute 7 (by decide) .shortString encodeCipShortString .identityProductName)

end Identity

section QualityOfService

def qosAttribute (attributeNumber : UInt16) (numbered : attributeNumber ≠ 0) (name : Variable)
    (decode : Option (DecodeFunction .octet)) (attributeFlags : UInt8) : CipAttributeStruct where
  attributeNumber
  type := .usint
  kind := .octet
  encode := encodeCipUsint
  decode
  data := ⟨name⟩
  attributeFlags
  numbered

def cipQoSInit : Except Fault AttributeClass := do
  let setable : UInt8 := kGetableSingle ||| kSetable ||| kNvDataFunc
  let qosClass := (AttributeClass.create 8 8).addCipInstance 1
  let qosClass ← qosClass.insertAttribute 1 (qosAttribute 1 (by decide) .qosQFramesEnable none kNotSetOrGetable)
  let qosClass ← qosClass.insertAttribute 1 (qosAttribute 2 (by decide) .qosDscpEvent none kNotSetOrGetable)
  let qosClass ← qosClass.insertAttribute 1 (qosAttribute 3 (by decide) .qosDscpGeneral none kNotSetOrGetable)
  let qosClass ← qosClass.insertAttribute 1 (qosAttribute 4 (by decide) .qosDscpUrgent (some .cipQoSAttribute) setable)
  let qosClass ← qosClass.insertAttribute 1
    (qosAttribute 5 (by decide) .qosDscpScheduled (some .cipQoSAttribute) setable)
  let qosClass ← qosClass.insertAttribute 1 (qosAttribute 6 (by decide) .qosDscpHigh (some .cipQoSAttribute) setable)
  let qosClass ← qosClass.insertAttribute 1 (qosAttribute 7 (by decide) .qosDscpLow (some .cipQoSAttribute) setable)
  qosClass.insertAttribute 1 (qosAttribute 8 (by decide) .qosDscpExplicitMsg (some .cipQoSAttribute) setable)

end QualityOfService

end EtherNetIP
