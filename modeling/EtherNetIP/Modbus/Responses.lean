import EtherNetIP.Modbus.Requests

/-! The Modbus responses: their fields, and the three views of their format.

ReadCommEventLogResponse.byteCount is left out: both methods that use it set it
first. A text is its UTF-16 units, and an array slot that was never set is none.
-/

set_option autoImplicit false

namespace EtherNetIP.Modbus

open EtherNetIP.Library

abbrev Text := List UInt16

structure RecordResponse where
  data : List Register
  deriving DecidableEq, Repr

inductive ModbusResponse where
  | readCoils (coils : Option BitVector)
  | readInputDiscretes (bitCount : Int) (discretes : Option BitVector)
  | readMultipleRegisters (byteCount : Int) (registers : Option (List Register))
  | readInputRegisters (byteCount : Int) (registers : Option (List Register))
  | writeCoil (reference : Int) (coil : Bool)
  | writeSingleRegister (reference registerValue : Int)
  | writeMultipleCoils (reference bitCount : Int)
  | writeMultipleRegisters (reference wordCount : Int)
  | readExceptionStatus (status : Int)
  | readSerialDiagnostics (function data : Int)
  | readCommEventCounter (status events : Int)
  | readCommEventLog (status eventCount messageCount : Int) (events : Option (List UInt8))
  | reportSlaveID (length : Int) (data : Option (List UInt8)) (status slaveId : Int)
  | readFileRecord (records : Option (List RecordResponse))
  | writeFileRecord (records : Option (List WrittenRecord))
  | maskWriteRegister (reference andMask orMask : Int)
  | readWriteMultiple (byteCount : Int) (registers : Option (List Register))
  | readFIFOQueue (count : Int) (registers : Option (List Register))
  | readMEI (fieldLevel conformity fieldCount : Int) (fields : List (Option Text)) (fieldIds : List Int)
      (moreFollows : Bool) (nextFieldId : Int)
  | exception (exceptionCode : Int)
  deriving DecidableEq, Repr

/-- The octets of a vector after their number: ReadCoilsResponse and ReadInputDiscretesResponse. -/
def coilsMessage (coils : Option BitVector) : Except Throwable (List UInt8) := do
  let coils ← deref coils
  return octet coils.byteSize :: coils.data

def readCoilsData : DataInput (BitVector × Option Int) := do
  let count ← readUnsignedByte
  let data ← readFully count.toNat
  let length ← attempt (setDataLength (count + 1))
  return (.createBitVector data, some length)

def registersMessage (byteCount : Int) (registers : Option (List Register)) : Except Throwable (List UInt8) := do
  let registers ← deref registers
  if byteCount.tdiv 2 < registers.length then throw .indexOutOfBoundsException else
    return octet byteCount :: (registers.flatMap Register.toBytes ++
      List.replicate (2 * (byteCount.tdiv 2 - registers.length)).toNat 0)

def writeRegisters (byteCount : Int) (registers : Option (List Register)) : Except Throwable (List UInt8) := do
  let written ← firstRegisters (byteCount.tdiv 2) registers
  return octet byteCount :: written.flatMap Register.toBytes

/-- The registers read, with the data length recorded for so many octets beside them. -/
def readRegisters (make : Int → Option (List Register) → ModbusResponse) (beside : Int) :
    DataInput (ModbusResponse × Option Int) := do
  let byteCount ← readUnsignedByte
  let registers ← times readRegister (byteCount / 2).toNat
  let length ← attempt (setDataLength (byteCount + beside))
  return (make byteCount (some registers), some length)

namespace ReadCommEventLogResponse

def getMessage (status eventCount messageCount : Int) (events : Option (List UInt8)) :
    Except Throwable (List UInt8) := do
  let events ← deref events
  return octet (events.length + 6) :: (threeWords status eventCount messageCount ++ events)

/-- The count is read as a signed octet. -/
def readData : DataInput ModbusResponse := do
  let byteCount ← readByte
  let status ← readUnsignedShort
  let eventCount ← readUnsignedShort
  let messageCount ← readUnsignedShort
  if byteCount - 6 < 0 then throw .negativeArraySizeException else do
    let events ← readFully (byteCount - 6).toNat
    return .readCommEventLog status eventCount messageCount (some events)

end ReadCommEventLogResponse

namespace ReportSlaveIDResponse

/-- The array is two octets longer than what is copied into it. -/
def getMessage (length : Int) (data : Option (List UInt8)) (status slaveId : Int) :
    Except Throwable (List UInt8) := do
  if length < 0 then throw .indexOutOfBoundsException
  else if length = 0 then return [octet (length + 2), octet slaveId, octet status]
  else do
    let data ← deref data
    if length < 2 ∨ data.length < length - 2 then throw .indexOutOfBoundsException
    else return [octet (length + 2), octet slaveId, octet status] ++ (data.take (length - 2).toNat ++ [0, 0])

def readData (data : Option (List UInt8)) (status slaveId : Int) : DataInput ModbusResponse := do
  let length ← readUnsignedByte
  if length < 2 ∨ length > 255 then return .reportSlaveID length data status slaveId
  else do
    let slaveId ← readUnsignedByte
    let status ← readUnsignedByte
    let data ← readFully (length - 2).toNat
    return .reportSlaveID length (some data) status slaveId

end ReportSlaveIDResponse

namespace RecordResponse

def getResponseSize (record : RecordResponse) : Int := 2 + record.data.length * 2

def getResponse (record : RecordResponse) : List UInt8 :=
  octet (1 + record.data.length * 2) :: 6 :: record.data.flatMap Register.toBytes

def read (remainder : Int) : DataInput RecordResponse := do
  let length ← readUnsignedByte
  let function ← readByte
  if function ≠ 6 ∨ length - 1 > remainder - 2 then throw .ioException else do
    let data ← times readRegister ((length - 1).tdiv 2).toNat
    return ⟨data⟩

/-- The loop in readData. Every turn takes from the remainder, so as many turns as it counts are never used up. -/
def readAll : Nat → Int → DataInput (List RecordResponse)
  | 0, _ => return []
  | turns + 1, remainder =>
    if remainder > 0 then do
      let record ← read remainder
      let others ← readAll turns (remainder - record.getResponseSize)
      return record :: others
    else return []

end RecordResponse

namespace ReadFileRecordResponse

def getByteCount : Option (List RecordResponse) → Int
  | none => 1
  | some records => records.foldl (fun size record => size + record.getResponseSize) 1

def overlay (result : List UInt8) (offset : Nat) (octets : List UInt8) : List UInt8 :=
  result.take offset ++ (octets ++ result.drop (offset + octets.length))

/-- The offset moves on by the words of a record, not by its two octets of header. -/
def store (result : List UInt8) (offset : Nat) : List RecordResponse → List UInt8
  | [] => result
  | record :: records => store (overlay result offset record.getResponse) (offset + record.data.length * 2) records

def getMessage (records : Option (List RecordResponse)) : Except Throwable (List UInt8) := do
  let written ← deref records
  let size := getByteCount records
  return store (octet (size - 1) :: List.replicate (size - 1).toNat 0) 1 written

def writeData (records : Option (List RecordResponse)) : List UInt8 :=
  octet (getByteCount records - 1) :: (records.getD []).flatMap RecordResponse.getResponse

/-- The records read are added to those there are. -/
def readData (records : Option (List RecordResponse)) : DataInput (ModbusResponse × Option Int) := do
  let byteCount ← readUnsignedByte
  let read ← RecordResponse.readAll byteCount.toNat byteCount
  let length ← attempt (setDataLength (byteCount + 1))
  return (.readFileRecord (if read = [] then records else some (records.getD [] ++ read)), some length)

end ReadFileRecordResponse

namespace ReadFIFOQueueResponse

def getMessage (count : Int) (registers : Option (List Register)) : Except Throwable (List UInt8) := do
  let written ← firstRegisters count registers
  return twoWords (count * 2 + 2) count ++ written.flatMap Register.toBytes

def readData : DataInput ModbusResponse := do
  let _ ← readShort
  let count ← readUnsignedShort
  let registers ← times readRegister count.toNat
  return .readFIFOQueue count (some registers)

end ReadFIFOQueueResponse

namespace ReadMEIResponse

def isHighSurrogate (unit : UInt16) : Bool := 0xD800 ≤ unit && unit < 0xDC00

def isLowSurrogate (unit : UInt16) : Bool := 0xDC00 ≤ unit && unit < 0xE000

/-- String.getBytes for US-ASCII: a character outside it, of one unit or of two, becomes a question mark. -/
def usAscii : Text → List UInt8
  | [] => []
  | high :: low :: rest =>
    if isHighSurrogate high && isLowSurrogate low then 63 :: usAscii rest
    else (if high < 128 then high.toUInt8 else 63) :: usAscii (low :: rest)
  | [unit] => [if unit < 128 then unit.toUInt8 else 63]

/-- What getMessage stores of a text. A copy that fails is only logged, and the array keeps its zeros. -/
def storedText (text : Text) : List UInt8 :=
  let octets := usAscii text
  if octets.length < text.length then List.replicate text.length 0 else octets.take text.length

def isContinuation (read : UInt8) : Bool := 0x80 ≤ read && read < 0xC0

def continuation (read : UInt8) : UInt32 := read.toUInt32 &&& 0x3F

def surrogates (character : UInt32) : Text :=
  [((character - 0x10000) >>> 10 + 0xD800).toUInt16, ((character - 0x10000) &&& 0x3FF).toUInt16 + 0xDC00]

/-- new String for UTF-8: each longest malformed part is replaced by U+FFFD. -/
def utf8 : List UInt8 → Text
  | [] => []
  | first :: rest =>
    if first < 0x80 then first.toUInt16 :: utf8 rest
    else if 0xC2 ≤ first && first < 0xE0 then
      match rest with
      | second :: tail =>
        if isContinuation second then
          ((first.toUInt32 &&& 0x1F) <<< 6 ||| continuation second).toUInt16 :: utf8 tail
        else 0xFFFD :: utf8 (second :: tail)
      | [] => [0xFFFD]
    else if 0xE0 ≤ first && first < 0xF0 then
      match rest with
      | second :: tail =>
        if isContinuation second && (first ≠ 0xE0 || 0xA0 ≤ second) && (first ≠ 0xED || second < 0xA0) then
          match tail with
          | third :: tail =>
            if isContinuation third then
              ((first.toUInt32 &&& 0x0F) <<< 12 ||| continuation second <<< 6 ||| continuation third).toUInt16 ::
                utf8 tail
            else 0xFFFD :: utf8 (third :: tail)
          | [] => [0xFFFD]
        else 0xFFFD :: utf8 (second :: tail)
      | [] => [0xFFFD]
    else if 0xF0 ≤ first && first < 0xF5 then
      match rest with
      | second :: tail =>
        if isContinuation second && (first ≠ 0xF0 || 0x90 ≤ second) && (first ≠ 0xF4 || second < 0x90) then
          match tail with
          | third :: tail =>
            if isContinuation third then
              match tail with
              | fourth :: tail =>
                if isContinuation fourth then
                  surrogates ((first.toUInt32 &&& 0x07) <<< 18 ||| continuation second <<< 12 |||
                    continuation third <<< 6 ||| continuation fourth) ++ utf8 tail
                else 0xFFFD :: utf8 (fourth :: tail)
              | [] => [0xFFFD]
            else 0xFFFD :: utf8 (third :: tail)
          | [] => [0xFFFD]
        else 0xFFFD :: utf8 (second :: tail)
      | [] => [0xFFFD]
    else 0xFFFD :: utf8 rest

def storedFields : Nat → List (Option Text) → List Int → Except Throwable (List UInt8)
  | 0, _, _ => .ok []
  | count + 1, field :: fields, fieldId :: fieldIds => do
    let text ← deref field
    let others ← storedFields count fields fieldIds
    return octet fieldId :: octet text.length :: (storedText text ++ others)
  | _ + 1, _, _ => .error .indexOutOfBoundsException

def getMessage (fieldLevel conformity fieldCount : Int) (fields : List (Option Text)) (fieldIds : List Int)
    (moreFollows : Bool) (nextFieldId : Int) : Except Throwable (List UInt8) := do
  let stored ← storedFields fieldCount.toNat fields fieldIds
  return [14, octet fieldLevel, octet conformity, if moreFollows then 255 else 0, octet nextFieldId,
    octet fieldCount] ++ stored

def readField : DataInput (Int × List UInt8) := do
  let fieldId ← readUnsignedByte
  let length ← readUnsignedByte
  let data ← readFully length.toNat
  return (fieldId, data)

/-- The arrays are made anew only where there are fields. -/
def readData (fields : List (Option Text)) (fieldIds : List Int) : DataInput (ModbusResponse × Option Int) := do
  let subCode ← readUnsignedByte
  if subCode ≠ 14 then throw .ioException else do
    let fieldLevel ← readUnsignedByte
    let conformity ← readUnsignedByte
    let moreFollows ← readUnsignedByte
    let nextFieldId ← readUnsignedByte
    let fieldCount ← readUnsignedByte
    let entries ← times readField fieldCount.toNat
    let length ← attempt (setDataLength (entries.foldl (fun size entry => size + (2 + entry.2.length)) (6 : Int)))
    let (fields, fieldIds) :=
      if fieldCount > 0 then (entries.map fun entry => some (utf8 entry.2), entries.map Prod.fst)
      else (fields, fieldIds)
    return (.readMEI fieldLevel conformity fieldCount fields fieldIds (moreFollows = 255) nextFieldId, some length)

end ReadMEIResponse

namespace ModbusResponse

def getMessage : ModbusResponse → Except Throwable (List UInt8)
  | readCoils coils => coilsMessage coils
  | readInputDiscretes _ discretes => coilsMessage discretes
  | readMultipleRegisters byteCount registers => registersMessage byteCount registers
  | readInputRegisters _ registers => do
    let registers ← deref registers
    return octet (registers.length * 2) :: registers.flatMap Register.toBytes
  | writeCoil reference coil => return writeShort reference ++ coilBytes coil
  | writeSingleRegister reference registerValue => return twoWords reference registerValue
  | writeMultipleCoils reference bitCount => return twoWords reference bitCount
  | writeMultipleRegisters reference wordCount => return twoWords reference wordCount
  | readExceptionStatus status => return [octet status]
  | readSerialDiagnostics function data => return twoWords function data
  | readCommEventCounter status events => return twoWords status events
  | readCommEventLog status eventCount messageCount events =>
    ReadCommEventLogResponse.getMessage status eventCount messageCount events
  | reportSlaveID length data status slaveId => ReportSlaveIDResponse.getMessage length data status slaveId
  | readFileRecord records => ReadFileRecordResponse.getMessage records
  | writeFileRecord records => WriteFileRecord.getMessage records
  | maskWriteRegister reference andMask orMask => return threeWords reference andMask orMask
  | readWriteMultiple byteCount registers => registersMessage byteCount registers
  | readFIFOQueue count registers => ReadFIFOQueueResponse.getMessage count registers
  | readMEI fieldLevel conformity fieldCount fields fieldIds moreFollows nextFieldId =>
    ReadMEIResponse.getMessage fieldLevel conformity fieldCount fields fieldIds moreFollows nextFieldId
  | exception exceptionCode => return [octet exceptionCode]

/-- The octets written to the stream. Most classes write the array of getMessage. -/
def writeData : ModbusResponse → Except Throwable (List UInt8)
  | readInputDiscretes _ discretes => do
    let discretes ← deref discretes
    return octet discretes.byteSize :: discretes.data
  | readMultipleRegisters byteCount registers => writeRegisters byteCount registers
  | readInputRegisters byteCount registers => writeRegisters byteCount registers
  | writeMultipleCoils reference bitCount => return twoWords reference bitCount
  | readFileRecord records => return ReadFileRecordResponse.writeData records
  | readWriteMultiple byteCount registers => writeRegisters byteCount registers
  | exception exceptionCode => return [octet exceptionCode]
  | response => response.getMessage

/-- What an object reads into itself, and the data length where the method records one. -/
def readData : ModbusResponse → DataInput (ModbusResponse × Option Int)
  | readCoils _ => do
    let (coils, length) ← readCoilsData
    return (readCoils (some coils), length)
  | readInputDiscretes _ _ => do
    let (discretes, length) ← readCoilsData
    return (readInputDiscretes discretes.size (some discretes), length)
  | readMultipleRegisters _ _ => readRegisters readMultipleRegisters 1
  | readInputRegisters _ _ => readRegisters readInputRegisters 0
  | writeCoil _ _ => do
    let reference ← readShort
    let coil ← readByte
    let _ ← readByte
    return (writeCoil reference (coil = -1), some 6)
  | writeSingleRegister _ _ =>
    readTwoWords fun reference registerValue => (writeSingleRegister reference registerValue, some 6)
  | writeMultipleCoils _ _ => readTwoWords fun reference bitCount => (writeMultipleCoils reference bitCount, none)
  | writeMultipleRegisters _ _ =>
    readTwoWords fun reference wordCount => (writeMultipleRegisters reference wordCount, some 6)
  | readExceptionStatus _ => do
    let status ← readUnsignedByte
    return (readExceptionStatus status, none)
  | readSerialDiagnostics _ _ => do
    let function ← readUnsignedShort
    let data ← readShort
    return (readSerialDiagnostics function data, none)
  | readCommEventCounter _ _ => readTwoWords fun status events => (readCommEventCounter status events, none)
  | readCommEventLog _ _ _ _ => return (← ReadCommEventLogResponse.readData, none)
  | reportSlaveID _ data status slaveId => return (← ReportSlaveIDResponse.readData data status slaveId, none)
  | readFileRecord records => ReadFileRecordResponse.readData records
  | writeFileRecord _ => return (writeFileRecord (some (← WriteFileRecord.readData)), none)
  | maskWriteRegister _ _ _ =>
    readThreeWords fun reference andMask orMask => (maskWriteRegister reference andMask orMask, none)
  | readWriteMultiple _ _ => readRegisters readWriteMultiple 1
  | readFIFOQueue _ _ => return (← ReadFIFOQueueResponse.readData, none)
  | readMEI _ _ _ fields fieldIds _ _ => ReadMEIResponse.readData fields fieldIds
  | exception _ => do
    let exceptionCode ← readUnsignedByte
    return (exception exceptionCode, none)

end ModbusResponse

def createModbusResponse (functionCode : Int) : ModbusMessage ModbusResponse :=
  match functionCode with
  | FunctionCode.readCoils => { functionCode, dataLength := 3, body := .readCoils none }
  | FunctionCode.readInputDiscretes => { functionCode, body := .readInputDiscretes 0 none }
  | FunctionCode.readMultipleRegisters => { functionCode, body := .readMultipleRegisters 0 none }
  | FunctionCode.readInputRegisters => { functionCode, body := .readInputRegisters 0 none }
  | FunctionCode.writeCoil => { functionCode, dataLength := 6, body := .writeCoil 0 false }
  | FunctionCode.writeSingleRegister => { functionCode, dataLength := 6, body := .writeSingleRegister 0 0 }
  | FunctionCode.writeMultipleCoils =>
    -- the constructor sets no function code
    { functionCode := 0, dataLength := 6, body := .writeMultipleCoils 0 0 }
  | FunctionCode.writeMultipleRegisters => { functionCode, dataLength := 6, body := .writeMultipleRegisters 0 0 }
  | FunctionCode.readExceptionStatus => { functionCode, dataLength := 3, body := .readExceptionStatus 0 }
  | FunctionCode.readSerialDiagnostics => { functionCode, dataLength := 6, body := .readSerialDiagnostics 0 0 }
  | FunctionCode.readCommEventCounter => { functionCode, dataLength := 6, body := .readCommEventCounter 0 0 }
  | FunctionCode.readCommEventLog => { functionCode, dataLength := 9, body := .readCommEventLog 0 0 0 none }
  | FunctionCode.reportSlaveID => { functionCode, body := .reportSlaveID 0 none 0 0 }
  | FunctionCode.readFileRecord => { functionCode, body := .readFileRecord none }
  | FunctionCode.writeFileRecord => { functionCode, dataLength := 9, body := .writeFileRecord none }
  | FunctionCode.maskWriteRegister => { functionCode, dataLength := 8, body := .maskWriteRegister 0 0 0 }
  | FunctionCode.readWriteMultiple => { functionCode, body := .readWriteMultiple 0 none }
  | FunctionCode.readFIFOQueue => { functionCode, dataLength := 9, body := .readFIFOQueue 0 (some []) }
  | FunctionCode.readMEI =>
    { functionCode, body := .readMEI 0 1 0 (List.replicate 64 none) (List.replicate 64 0) false 0 }
  | functionCode =>
    { functionCode := if 128 ≤ functionCode % 256 then functionCode else 0, dataLength := 3, body := .exception (-1) }

end EtherNetIP.Modbus
