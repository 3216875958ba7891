import EtherNetIP.Stack

/-! The connection path of a Forward Open request.

`ParseConnectionPath` reads the path octet by octet into the connection object
it is given. A refused path leaves behind what was written up to the refusal,
so a refusal carries the reader's state as well. The number of words left is
unsigned: taking off more than is left wraps around, and the loop over the
remaining segments then goes on behind the path.
-/

set_option autoImplicit false

namespace EtherNetIP

open CipConnectionObject

def kCipErrorSuccess : UInt8 := 0x00
def kCipErrorConnectionFailure : UInt8 := 0x01
def kCipErrorPathSegmentError : UInt8 := 0x04
def kCipErrorPrivilegeViolation : UInt8 := 0x0F
def kCipErrorNotEnoughData : UInt8 := 0x13
def kCipErrorTooMuchData : UInt8 := 0x15

/-- `kEipStatusError` stored in an octet. -/
def kEipStatusErrorOctet : UInt8 := 0xFF

def kConnectionManagerGeneralStatusPathSegmentErrorInUnconnectedSend : UInt8 := 0x04

/- The extended status codes of the connection manager that the model uses. -/
namespace ExtendedStatus

def success : UInt16 := 0x0000
def errorConnectionInUseOrDuplicateForwardOpen : UInt16 := 0x0100
def errorTransportClassAndTriggerCombinationNotSupported : UInt16 := 0x0103
def errorOwnershipConflict : UInt16 := 0x0106
def errorConnectionTargetConnectionNotFound : UInt16 := 0x0107
def errorRpiValuesNotAcceptable : UInt16 := 0x0112
def errorNoMoreConnectionsAvailable : UInt16 := 0x0113
def errorVendorIdOrProductcodeError : UInt16 := 0x0114
def errorDeviceTypeError : UInt16 := 0x0115
def errorRevisionMismatch : UInt16 := 0x0116
def nonListenOnlyConnectionNotOpened : UInt16 := 0x0119
def targetObjectOutOfConnections : UInt16 := 0x011A
def productionInhibitTimerGreaterThanRpi : UInt16 := 0x011B
def errorInvalidOToTConnectionType : UInt16 := 0x0123
def errorInvalidTToOConnectionType : UInt16 := 0x0124
def errorInvalidOToTConnectionSize : UInt16 := 0x0127
def errorInvalidTToOConnectionSize : UInt16 := 0x0128
def invalidConfigurationApplicationPath : UInt16 := 0x0129
def invalidConsumingApplicationPath : UInt16 := 0x012A
def invalidProducingApplicationPath : UInt16 := 0x012B
def inconsistentApplicationPathCombo : UInt16 := 0x012F
def nullForwardOpenNotSupported : UInt16 := 0x0132
def mismatchedTToONetworkConnectionFixVar : UInt16 := 0x0135
def mismatchedTToONetworkConnectionPriority : UInt16 := 0x0136
def mismatchedTransportClass : UInt16 := 0x0137
def mismatchedTToOProductionTrigger : UInt16 := 0x0138
def mismatchedTToOProductionInhibitTimeSegment : UInt16 := 0x0139
def errorInvalidSegmentTypeInPath : UInt16 := 0x0315
def notConfiguredForOffSubnetMulticast : UInt16 := 0x0813
def wrongCloser : UInt16 := 0xFFFF

end ExtendedStatus

inductive SegmentType where
  | port
  | logical
  | network
  | symbolic
  | data
  | dataTypeConstructed
  | dataTypeElementary
  | reserved
  deriving DecidableEq, Repr

inductive LogicalSegmentLogicalType where
  | classId
  | instanceId
  | memberId
  | connectionPoint
  | attributeId
  | special
  | serviceId
  | extendedLogical
  deriving DecidableEq, Repr

def octetAt (message : List CipOctet) (position : Nat) : CipOctet := message.getD position 0

def getPathSegmentType (message : List CipOctet) : SegmentType :=
  let segmentType := octetAt message 0 &&& 0xE0
  if segmentType = 0x00 then .port
  else if segmentType = 0x20 then .logical
  else if segmentType = 0x40 then .network
  else if segmentType = 0x60 then .symbolic
  else if segmentType = 0x80 then .data
  else if segmentType = 0xA0 then .dataTypeConstructed
  else if segmentType = 0xC0 then .dataTypeElementary
  else .reserved

def getPathLogicalSegmentLogicalType (message : List CipOctet) : LogicalSegmentLogicalType :=
  let logicalType := octetAt message 0 &&& 0x1C
  if logicalType = 0x00 then .classId
  else if logicalType = 0x04 then .instanceId
  else if logicalType = 0x08 then .memberId
  else if logicalType = 0x0C then .connectionPoint
  else if logicalType = 0x10 then .attributeId
  else if logicalType = 0x14 then .special
  else if logicalType = 0x18 then .serviceId
  else .extendedLogical

def startsLogicalSegment (message : List CipOctet) (logicalType : LogicalSegmentLogicalType) : Bool :=
  getPathSegmentType message == .logical && getPathLogicalSegmentLogicalType message == logicalType

def startsElectronicKeyFormat4 (message : List CipOctet) : Bool :=
  startsLogicalSegment message .special && octetAt message 0 &&& 0x03 == 0x00 && octetAt message 1 == 0x04

def startsProductionInhibitTimeInMilliseconds (message : List CipOctet) : Bool :=
  getPathSegmentType message == .network && octetAt message 0 &&& 0x1F == 0x03

def startsSimpleData (message : List CipOctet) : Bool := octetAt message 0 &&& 0x1F == 0x00

/-- A logical value of the reserved format reads as the number of that format, without reading an octet. -/
def cipEpathGetLogicalValue (message : List CipOctet) : UInt32 × List CipOctet :=
  let logicalFormat := octetAt message 0 &&& 0x03
  if logicalFormat = 0x00 then
    let (data, message) := getByteFromMessage.run (message.drop 1)
    (data.toUInt32, message)
  else if logicalFormat = 0x01 then
    let (data, message) := getWordFromMessage.run (message.drop 2)
    (data.toUInt32, message)
  else if logicalFormat = 0x02 then getDwordFromMessage.run (message.drop 2)
  else (3, message.drop 1)

structure ElectronicKeyFormat4 where
  vendorId : UInt16
  deviceType : UInt16
  productCode : UInt16
  majorRevisionCompatibility : UInt8
  minorRevision : UInt8
  deriving DecidableEq, Repr

def getElectronicKeyFormat4FromMessage : FromMessage ElectronicKeyFormat4 := do
  skipOctets 2
  let vendorId ← getUintFromMessage
  let deviceType ← getUintFromMessage
  let productCode ← getUintFromMessage
  let majorRevisionCompatibility ← getByteFromMessage
  let minorRevision ← getUsintFromMessage
  return ⟨vendorId, deviceType, productCode, majorRevisionCompatibility, minorRevision⟩

/-- The extended status of the key check, zero when the key fits. The key format is always 4 here. -/
def checkElectronicKeyData (identity : Identity) (key : ElectronicKeyFormat4) : UInt16 :=
  let majorRevision := key.majorRevisionCompatibility &&& 0x7F
  if (key.vendorId ≠ identity.vendorId ∧ key.vendorId ≠ 0) ∨
      (key.productCode ≠ identity.productCode ∧ key.productCode ≠ 0) then
    ExtendedStatus.errorVendorIdOrProductcodeError
  else if key.deviceType ≠ identity.deviceType ∧ key.deviceType ≠ 0 then
    ExtendedStatus.errorDeviceTypeError
  else if key.majorRevisionCompatibility &&& 0x80 ≠ 0x80 then
    -- a revision of zero stands for any
    if majorRevision = 0 then ExtendedStatus.success
    else if majorRevision ≠ identity.majorRevision ∨
        (key.minorRevision ≠ identity.minorRevision ∧ key.minorRevision ≠ 0) then
      ExtendedStatus.errorRevisionMismatch
    else ExtendedStatus.success
  else if majorRevision = identity.majorRevision ∧ key.minorRevision > 0 ∧
      key.minorRevision ≤ identity.minorRevision then
    ExtendedStatus.success
  else ExtendedStatus.errorRevisionMismatch

def kCipMessageRouterClassCode : UInt32 := 0x02
def kCipAssemblyClassCode : UInt32 := 0x04

def Configuration.assemblyClass (config : Configuration) : CipClass :=
  ⟨kCipAssemblyClassCode, config.assemblies.map Prod.fst⟩

def Configuration.getCipClass (config : Configuration) (classCode : UInt32) : Option CipClass :=
  (config.assemblyClass :: config.classes).find? (·.classId == classCode)

/-- Whether `GetCipInstance` finds something; number zero designates the class object itself. -/
def CipClass.hasInstance (cipClass : CipClass) (instanceNumber : CipInstanceNum) : Bool :=
  instanceNumber == 0 || cipClass.instances.contains instanceNumber

structure Refusal where
  generalStatus : UInt8
  extendedStatus : UInt16
  deriving DecidableEq, Repr

/-- The state of the parser: the object and the configuration data buffer it writes, the read position,
the words left, and what it has found so far. -/
structure PathReader where
  object : CipConnectionObject
  configData : Option (List CipOctet)
  message : List CipOctet
  remainingPath : UInt64
  cipClass : CipClass
  instanceId : CipInstanceNum

/-- A part of the parser; a refusal carries the state reached. -/
abbrev PathPart := PathReader → Except (Refusal × PathReader) PathReader

namespace PathReader

def refuse (reader : PathReader) (generalStatus : UInt8) (extendedStatus : UInt16) :
    Except (Refusal × PathReader) PathReader :=
  .error (⟨generalStatus, extendedStatus⟩, reader)

def invalidSegmentType (reader : PathReader) : Except (Refusal × PathReader) PathReader :=
  reader.refuse kCipErrorConnectionFailure ExtendedStatus.errorInvalidSegmentTypeInPath

def wordsOf (instanceId : CipInstanceNum) : UInt64 := if instanceId > 0xFF then 2 else 1

def checkLength (requestDataSize : Nat) : PathPart := fun reader =>
  let headerLength := if reader.object.isLargeForwardOpen then 40 else 36
  if headerLength + reader.remainingPath.toNat * 2 < requestDataSize then
    reader.refuse kCipErrorTooMuchData ExtendedStatus.success
  else if headerLength + reader.remainingPath.toNat * 2 > requestDataSize then
    reader.refuse kCipErrorNotEnoughData ExtendedStatus.success
  else .ok reader

def parseElectronicKey (identity : Identity) : PathPart := fun reader =>
  if startsElectronicKeyFormat4 reader.message then
    if reader.remainingPath < 5 then reader.refuse kCipErrorNotEnoughData ExtendedStatus.success
    else
      let (key, message) := getElectronicKeyFormat4FromMessage.run reader.message
      let reader := { reader with
        object := { reader.object with electronicKeyFormat := 4 }
        message
        remainingPath := reader.remainingPath - 5 }
      let extendedStatus := checkElectronicKeyData identity key
      if extendedStatus ≠ ExtendedStatus.success then
        reader.refuse kCipErrorConnectionFailure extendedStatus
      else .ok reader
  else .ok reader

def setProductionInhibitTime (reader : PathReader) (words : UInt64) : PathReader :=
  { reader with
    object := { reader.object with productionInhibitTime := (octetAt reader.message 1).toUInt16 }
    message := reader.message.drop 2
    remainingPath := reader.remainingPath - words }

/-- A production inhibit time in front of the class; only non-cyclic connections may have one. -/
def parseProductionInhibitTime : PathPart := fun reader =>
  if reader.object.getProductionTrigger ≠ .cyclic ∧ startsProductionInhibitTimeInMilliseconds reader.message then
    .ok (reader.setProductionInhibitTime 1)
  else .ok reader

/-- One word is taken off for the class, whatever its format. -/
def parseClass (config : Configuration) : PathPart := fun reader =>
  if startsLogicalSegment reader.message .classId then
    let (classId, message) := cipEpathGetLogicalValue reader.message
    let reader := { reader with message }
    match config.getCipClass classId with
    | none =>
        reader.refuse kCipErrorConnectionFailure
          (if classId ≥ 0xC8 then ExtendedStatus.errorInvalidSegmentTypeInPath
          else ExtendedStatus.inconsistentApplicationPathCombo)
    | some cipClass =>
        .ok { reader with cipClass, remainingPath := reader.remainingPath - 1 }
  else reader.invalidSegmentType

def parseConfigurationInstance : PathPart := fun reader =>
  if startsLogicalSegment reader.message .instanceId then
    let (value, message) := cipEpathGetLogicalValue reader.message
    let reader := { reader with message }
    if value > 0xFFFF ∨ reader.cipClass.hasInstance value.toUInt16 = false then reader.invalidSegmentType
    else
      .ok { reader with
        instanceId := value.toUInt16
        remainingPath := reader.remainingPath - wordsOf value.toUInt16 }
  else .ok reader

def epath (reader : PathReader) : CipConnectionPathEpath := ⟨reader.cipClass.classId, reader.instanceId, 0⟩

/-- A class 3 connection ends at instance 1 of the message router; its consumed path is not written. -/
def finishClass3 : PathPart := fun reader =>
  if reader.remainingPath > 0 then reader.invalidSegmentType
  else if reader.cipClass.classId ≠ kCipMessageRouterClassCode ∨ reader.instanceId ≠ 1 then
    reader.refuse kCipErrorConnectionFailure ExtendedStatus.inconsistentApplicationPathCombo
  else
    .ok { reader with
      object := { reader.object with configurationPath := reader.epath, producedPath := reader.epath } }

inductive EncodedPath where
  | consumed
  | produced
  deriving DecidableEq, Repr

def setPath (path : EncodedPath) (object : CipConnectionObject) (epath : CipConnectionPathEpath) :
    CipConnectionObject :=
  match path with
  | .consumed => { object with consumedPath := epath }
  | .produced => { object with producedPath := epath }

/-- The paths the request encodes; the path of a null direction is not among them. -/
def pathsToEncode (object : CipConnectionObject) : List EncodedPath :=
  (if object.getOToTConnectionType = .null then [] else [.consumed]) ++
    (if object.getTToOConnectionType = .null then [] else [.produced])

/-- The path is stored before the instance is looked up. -/
def parseConnectionPoint (path : EncodedPath) : PathPart := fun reader =>
  if startsLogicalSegment reader.message .instanceId ∨ startsLogicalSegment reader.message .connectionPoint then
    let (value, message) := cipEpathGetLogicalValue reader.message
    let reader := { reader with message }
    if value > 0xFFFF then reader.invalidSegmentType
    else
      let reader := { reader with instanceId := value.toUInt16 }
      let reader := { reader with object := setPath path reader.object reader.epath }
      if reader.cipClass.hasInstance reader.instanceId = false then
        reader.refuse kCipErrorConnectionFailure ExtendedStatus.inconsistentApplicationPathCombo
      else .ok { reader with remainingPath := reader.remainingPath - wordsOf reader.instanceId }
  else reader.invalidSegmentType

def parseConnectionPoints : List EncodedPath → PathPart
  | [], reader => .ok reader
  | path :: rest, reader => parseConnectionPoint path reader >>= parseConnectionPoints rest

def segmentData (message : List CipOctet) : List CipOctet :=
  let length := (octetAt message 1).toNat * 2
  ((message.drop 2) ++ List.replicate length 0).take length

/-- A data or network segment behind the connection points; the production inhibit time takes two words off
here and one in front of the class. -/
def parseSegment (connectionPathSize : UInt64) : PathPart := fun reader =>
  match getPathSegmentType reader.message with
  | .data =>
      if startsSimpleData reader.message then
        .ok { reader with
          configData := some (segmentData reader.message)
          message := reader.message.drop ((octetAt reader.message 1).toNat * 2 + 2)
          remainingPath := reader.remainingPath - ((octetAt reader.message 1).toUInt64 + 1) }
      else reader.refuse kCipErrorPathSegmentError ExtendedStatus.success
  | .network =>
      if startsProductionInhibitTimeInMilliseconds reader.message then
        if reader.object.getProductionTrigger ≠ .cyclic then .ok (reader.setProductionInhibitTime 2)
        else
          reader.refuse kCipErrorPathSegmentError (connectionPathSize - reader.remainingPath).toUInt16
      else reader.refuse kCipErrorPathSegmentError ExtendedStatus.success
  | _ =>
      -- any other segment; the extended status is the place of the segment in the path
      reader.refuse kConnectionManagerGeneralStatusPathSegmentErrorInUnconnectedSend
        (connectionPathSize - reader.remainingPath).toUInt16

/-- The loop over the segments left. Each one takes octets off the message, and behind the message a zero
reads as a port segment, which is refused; so the fuel only has to cover the message. -/
def parseSegments (connectionPathSize : UInt64) : Nat → PathPart
  | 0, reader =>
      if reader.remainingPath > 0 then
        reader.refuse kConnectionManagerGeneralStatusPathSegmentErrorInUnconnectedSend
          (connectionPathSize - reader.remainingPath).toUInt16
      else .ok reader
  | fuel + 1, reader =>
      if reader.remainingPath > 0 then
        parseSegment connectionPathSize reader >>= parseSegments connectionPathSize fuel
      else .ok reader

def finishIo (connectionPathSize : UInt64) : PathPart := fun reader =>
  let reader := { reader with object := { reader.object with configurationPath := reader.epath } }
  parseConnectionPoints (pathsToEncode reader.object) reader >>= fun reader =>
    parseSegments connectionPathSize reader.message.length { reader with configData := none }

def finish (connectionPathSize : UInt64) : PathPart := fun reader =>
  if reader.object.getTransportClass = .class3 then finishClass3 reader
  else finishIo connectionPathSize reader

end PathReader

/-- The parser writes the object and, for I/O connections, the configuration data buffer. -/
def parseConnectionPath (config : Configuration) (object : CipConnectionObject)
    (configData : Option (List CipOctet)) (data : List CipOctet) (requestDataSize : Nat) :
    Except (Refusal × PathReader) PathReader :=
  let (connectionPathSize, message) := getUsintFromMessage.run data
  let reader : PathReader :=
    { object, configData, message, remainingPath := connectionPathSize.toUInt64, cipClass := ⟨0, []⟩, instanceId := 0 }
  if connectionPathSize = 0 then reader.refuse kEipStatusErrorOctet ExtendedStatus.success
  else
    PathReader.checkLength requestDataSize
        { reader with object := { object with productionInhibitTime := 256 } } >>= fun reader =>
      PathReader.parseElectronicKey config.identity reader >>= fun reader =>
      PathReader.parseProductionInhibitTime reader >>= fun reader =>
      PathReader.parseClass config reader >>= fun reader =>
      PathReader.parseConfigurationInstance reader >>=
      PathReader.finish connectionPathSize.toUInt64

end EtherNetIP
