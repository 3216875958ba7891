import EtherNetIP.Modbus.DataStreams

/-! The Modbus requests: their fields, and the three views of their format.

Each class writes its data to a stream, lays it out as an array and reads it
back, by code of its own. An array that a constructor leaves null is an option.
The handler for data that is not made of words is null, as the library leaves it.
-/

set_option autoImplicit false

namespace EtherNetIP.Modbus

open EtherNetIP.Library

namespace FunctionCode

@[match_pattern] abbrev readCoils : Int := 1
@[match_pattern] abbrev readInputDiscretes : Int := 2
@[match_pattern] abbrev readMultipleRegisters : Int := 3
@[match_pattern] abbrev readInputRegisters : Int := 4
@[match_pattern] abbrev writeCoil : Int := 5
@[match_pattern] abbrev writeSingleRegister : Int := 6
@[match_pattern] abbrev readExceptionStatus : Int := 7
@[match_pattern] abbrev readSerialDiagnostics : Int := 8
@[match_pattern] abbrev readCommEventCounter : Int := 11
@[match_pattern] abbrev readCommEventLog : Int := 12
@[match_pattern] abbrev writeMultipleCoils : Int := 15
@[match_pattern] abbrev writeMultipleRegisters : Int := 16
@[match_pattern] abbrev reportSlaveID : Int := 17
@[match_pattern] abbrev readFileRecord : Int := 20
@[match_pattern] abbrev writeFileRecord : Int := 21
@[match_pattern] abbrev maskWriteRegister : Int := 22
@[match_pattern] abbrev readWriteMultiple : Int := 23
@[match_pattern] abbrev readFIFOQueue : Int := 24
@[match_pattern] abbrev readMEI : Int := 43

end FunctionCode

structure RecordRequest where
  fileNumber : Int
  recordNumber : Int
  wordCount : Int
  deriving DecidableEq, Repr

/-- WriteFileRecordRequest.RecordRequest and WriteFileRecordResponse.RecordResponse, which are alike. -/
structure WrittenRecord where
  fileNumber : Int
  recordNumber : Int
  data : List Register
  deriving DecidableEq, Repr

inductive ModbusRequest where
  | readCoils (reference bitCount : Int)
  | readInputDiscretes (reference bitCount : Int)
  | readMultipleRegisters (reference wordCount : Int)
  | readInputRegisters (reference wordCount : Int)
  | writeCoil (reference : Int) (coil : Bool)
  | writeSingleRegister (reference : Int) (register : Option Register)
  | writeMultipleCoils (reference : Int) (coils : BitVector)
  | writeMultipleRegisters (reference : Int) (registers : Option (List Register))
  | readExceptionStatus
  | readSerialDiagnostics (function data : Int)
  | readCommEventCounter
  | readCommEventLog
  | reportSlaveID
  | readFileRecord (records : Option (List RecordRequest))
  | writeFileRecord (records : Option (List WrittenRecord))
  | maskWriteRegister (reference andMask orMask : Int)
  | readWriteMultiple (readReference readCount writeReference writeCount : Int) (registers : Option (List Register))
  | readFIFOQueue (reference : Int)
  | readMEI (subCode fieldLevel fieldId : Int)
  | illegalFunction
  deriving DecidableEq, Repr

def twoWords (first second : Int) : List UInt8 := writeShort first ++ writeShort second

def readTwoWords {Message : Type} (make : Int → Int → Message) : DataInput Message := do
  let first ← readUnsignedShort
  let second ← readUnsignedShort
  return make first second

def threeWords (first second third : Int) : List UInt8 := writeShort first ++ (writeShort second ++ writeShort third)

def readThreeWords {Message : Type} (make : Int → Int → Int → Message) : DataInput Message := do
  let first ← readUnsignedShort
  let second ← readUnsignedShort
  let third ← readUnsignedShort
  return make first second third

def coilBytes (coil : Bool) : List UInt8 := if coil then [255, 0] else [0, 0]

/-- So many registers from the start of an array; the index runs past one that holds fewer. -/
def firstRegisters (count : Int) (registers : Option (List Register)) : Except Throwable (List Register) :=
  if count ≤ 0 then .ok []
  else do
    let registers ← deref registers
    if count ≤ registers.length then return registers.take count.toNat
    else throw .indexOutOfBoundsException

namespace RecordRequest

def getRequestSize (record : RecordRequest) : Int := 7 + record.wordCount * 2

def getRequest (record : RecordRequest) : List UInt8 :=
  6 :: threeWords record.fileNumber record.recordNumber record.wordCount

def read : DataInput RecordRequest := do
  let function ← readByte
  if function ≠ 6 then throw .ioException else do
    let file ← readUnsignedShort
    let record ← readUnsignedShort
    if record < 0 ∨ record ≥ 10000 then throw .ioException else do
      let count ← readUnsignedShort
      return ⟨file, record, count⟩

end RecordRequest

namespace ReadFileRecordRequest

def getRequestSize : Option (List RecordRequest) → Int
  | none => 1
  | some records => records.foldl (fun size record => size + record.getRequestSize) 1

def getMessage (records : Option (List RecordRequest)) : Except Throwable (List UInt8) := do
  let records ← deref records
  return octet (7 * records.length) :: records.flatMap RecordRequest.getRequest

def readData : DataInput (List RecordRequest) := do
  let byteCount ← readUnsignedByte
  times RecordRequest.read (byteCount / 7).toNat

end ReadFileRecordRequest

namespace WrittenRecord

def getRequestSize (record : WrittenRecord) : Int := 7 + record.data.length * 2

def getRequest (record : WrittenRecord) : List UInt8 :=
  6 :: (threeWords record.fileNumber record.recordNumber record.data.length ++
    record.data.flatMap Register.toBytes)

def read : DataInput WrittenRecord := do
  let function ← readUnsignedByte
  let file ← readUnsignedShort
  let record ← readUnsignedShort
  let count ← readUnsignedShort
  if function ≠ 6 then throw .ioException
  else if record < 0 ∨ record ≥ 10000 then throw .ioException
  else if count < 0 ∨ count ≥ 126 then throw .ioException
  else do
    let data ← times readRegister count.toNat
    return ⟨file, record, data⟩

/-- The loop in readData. Every turn moves the offset, so as many turns as the byte count are never used up. -/
def readAll (byteCount : Int) : Nat → Int → DataInput (List WrittenRecord)
  | 0, _ => return []
  | turns + 1, offset =>
    if offset + 7 < byteCount then do
      let record ← read
      let others ← readAll byteCount turns (offset + record.getRequestSize)
      return record :: others
    else return []

end WrittenRecord

-- The format WriteFileRecordRequest and WriteFileRecordResponse share.
namespace WriteFileRecord

def getSize : Option (List WrittenRecord) → Int
  | none => 1
  | some records => records.foldl (fun size record => size + record.getRequestSize) 1

def getMessage (records : Option (List WrittenRecord)) : Except Throwable (List UInt8) := do
  let written ← deref records
  return octet (getSize records - 1) :: written.flatMap WrittenRecord.getRequest

def readData : DataInput (List WrittenRecord) := do
  let byteCount ← readUnsignedByte
  WrittenRecord.readAll byteCount byteCount.toNat 1

end WriteFileRecord

namespace WriteMultipleRegistersRequest

def getMessage (reference : Int) (registers : Option (List Register)) : List UInt8 :=
  let written := registers.getD []
  twoWords reference written.length ++ (octet (written.length * 2) :: written.flatMap Register.toBytes)

def readData : DataInput ModbusRequest := do
  let reference ← readUnsignedShort
  let registerCount ← readUnsignedShort
  let byteCount ← readUnsignedByte
  let buffer ← readFully byteCount.toNat
  let registers ← attempt (registersFrom registerCount.toNat buffer)
  return .writeMultipleRegisters reference (some registers)

end WriteMultipleRegistersRequest

namespace WriteMultipleCoilsRequest

def getMessage (reference : Int) (coils : BitVector) : List UInt8 :=
  twoWords reference coils.size ++ (octet coils.byteSize :: coils.data)

def readData : DataInput (ModbusRequest × Option Int) := do
  let reference ← readUnsignedShort
  let bitcount ← readUnsignedShort
  let coilBytes ← readUnsignedByte
  let data ← readFully coilBytes.toNat
  let length ← attempt (setDataLength (coilBytes + 5))
  return (.writeMultipleCoils reference (.createBitVectorOfSize data bitcount), some length)

end WriteMultipleCoilsRequest

namespace ReadWriteMultipleRequest

/-- The array has no room for the fixed fields where the count is negative. -/
def getMessage (readReference readCount writeReference writeCount : Int) (registers : Option (List Register)) :
    Except Throwable (List UInt8) := do
  if 9 + 2 * writeCount < 0 then throw .negativeArraySizeException
  else if writeCount < 0 then throw .indexOutOfBoundsException
  else do
    let written ← firstRegisters writeCount registers
    return twoWords readReference readCount ++ (twoWords writeReference writeCount ++
      (octet (writeCount * 2) :: written.flatMap Register.toBytes))

def readData : DataInput ModbusRequest := do
  let readReference ← readUnsignedShort
  let readCount ← readUnsignedShort
  let writeReference ← readUnsignedShort
  let writeCount ← readUnsignedShort
  let byteCount ← readUnsignedByte
  let buffer ← readFully byteCount.toNat
  let registers ← attempt (registersFrom writeCount.toNat buffer)
  return .readWriteMultiple readReference readCount writeReference writeCount (some registers)

end ReadWriteMultipleRequest

namespace ReadMEIRequest

def getMessage (subCode fieldLevel fieldId : Int) : List UInt8 := [octet subCode, octet fieldLevel, octet fieldId]

/-- Octets up to a negative one or the end of the stream. -/
def skipOctets : DataInput Unit := fun items => .ok ((), (items.dropWhile (· < 128)).tail)

/-- A sub code the library does not know is kept and the other fields stay as they were. -/
def readData (fieldLevel fieldId : Int) : DataInput ModbusRequest := do
  let subCode ← readUnsignedByte
  if subCode ≠ 14 then do
    skipOctets
    return .readMEI subCode fieldLevel fieldId
  else do
    let fieldLevel ← readUnsignedByte
    let fieldId ← readUnsignedByte
    return .readMEI subCode fieldLevel fieldId

end ReadMEIRequest

namespace ModbusRequest

def getMessage : ModbusRequest → Except Throwable (Option (List UInt8))
  | readCoils reference bitCount => return twoWords reference bitCount
  | readInputDiscretes reference bitCount => return twoWords reference bitCount
  | readMultipleRegisters reference wordCount => return twoWords reference wordCount
  | readInputRegisters reference wordCount => return twoWords reference wordCount
  | writeCoil reference coil => return writeShort reference ++ coilBytes coil
  | writeSingleRegister reference register => do
    let register ← deref register
    return twoWords reference register.getValue
  | writeMultipleCoils reference coils => return WriteMultipleCoilsRequest.getMessage reference coils
  | writeMultipleRegisters reference registers => return WriteMultipleRegistersRequest.getMessage reference registers
  | readExceptionStatus => return some []
  | readSerialDiagnostics function data => return twoWords function data
  | readCommEventCounter => return some []
  | readCommEventLog => return some []
  | reportSlaveID => return some []
  | readFileRecord records => return some (← ReadFileRecordRequest.getMessage records)
  | writeFileRecord records => return some (← WriteFileRecord.getMessage records)
  | maskWriteRegister reference andMask orMask => return threeWords reference andMask orMask
  | readWriteMultiple readReference readCount writeReference writeCount registers =>
    return some (← ReadWriteMultipleRequest.getMessage readReference readCount writeReference writeCount registers)
  | readFIFOQueue reference => return writeShort reference
  | readMEI subCode fieldLevel fieldId => return ReadMEIRequest.getMessage subCode fieldLevel fieldId
  | illegalFunction => return none

/-- The octets written to the stream. Most classes write the array of getMessage. -/
def writeData : ModbusRequest → Except Throwable (List UInt8)
  | readInputDiscretes reference bitCount => return twoWords reference bitCount
  | readMultipleRegisters reference wordCount => return twoWords reference wordCount
  | readInputRegisters reference wordCount => return twoWords reference wordCount
  | writeCoil reference coil => return writeShort reference ++ coilBytes coil
  | writeSingleRegister reference register => do
    let register ← deref register
    return writeShort reference ++ register.toBytes
  | writeMultipleCoils reference coils =>
    return twoWords reference coils.size ++ (octet coils.byteSize :: coils.data)
  | readMEI subCode fieldLevel fieldId => return [octet subCode, octet fieldLevel, octet fieldId]
  | illegalFunction => throw .runtimeException
  | request => do
    let message ← request.getMessage
    deref message

/-- What an object reads into itself, and the data length where the method records one. -/
def readData (dataLength : Int) : ModbusRequest → DataInput (ModbusRequest × Option Int)
  | readCoils _ _ => readTwoWords fun reference bitCount => (readCoils reference bitCount, none)
  | readInputDiscretes _ _ => readTwoWords fun reference bitCount => (readInputDiscretes reference bitCount, none)
  | readMultipleRegisters _ _ => readTwoWords fun reference count => (readMultipleRegisters reference count, none)
  | readInputRegisters _ _ => readTwoWords fun reference wordCount => (readInputRegisters reference wordCount, none)
  | writeCoil _ _ => do
    let reference ← readUnsignedShort
    let coil ← readByte
    let _ ← readByte
    return (writeCoil reference (coil = -1), none)
  | writeSingleRegister _ _ => do
    let reference ← readUnsignedShort
    let register ← readRegister
    return (writeSingleRegister reference (some register), none)
  | writeMultipleCoils _ _ => WriteMultipleCoilsRequest.readData
  | writeMultipleRegisters _ _ => return (← WriteMultipleRegistersRequest.readData, none)
  | readExceptionStatus => return (readExceptionStatus, none)
  | readSerialDiagnostics _ _ => do
    let function ← readUnsignedShort
    let data ← readShort
    return (readSerialDiagnostics function data, none)
  | readCommEventCounter => return (readCommEventCounter, none)
  | readCommEventLog => return (readCommEventLog, none)
  | reportSlaveID => return (reportSlaveID, none)
  | readFileRecord _ => return (readFileRecord (some (← ReadFileRecordRequest.readData)), none)
  | writeFileRecord _ => return (writeFileRecord (some (← WriteFileRecord.readData)), none)
  | maskWriteRegister _ _ _ =>
    readThreeWords fun reference andMask orMask => (maskWriteRegister reference andMask orMask, none)
  | readWriteMultiple _ _ _ _ _ => return (← ReadWriteMultipleRequest.readData, none)
  | readFIFOQueue _ => return (readFIFOQueue (← readUnsignedShort), none)
  | readMEI _ fieldLevel fieldId => return (← ReadMEIRequest.readData fieldLevel fieldId, none)
  | illegalFunction => do
    let _ ← times readByte dataLength.toNat
    return (illegalFunction, none)

/-- The function code the constructors set; a request for an unknown function carries that function. -/
def functionCode (unknown : Int) : ModbusRequest → Int
  | readCoils _ _ => FunctionCode.readCoils
  | readInputDiscretes _ _ => FunctionCode.readInputDiscretes
  | readMultipleRegisters _ _ => FunctionCode.readMultipleRegisters
  | readInputRegisters _ _ => FunctionCode.readInputRegisters
  | writeCoil _ _ => FunctionCode.writeCoil
  | writeSingleRegister _ _ => FunctionCode.writeSingleRegister
  | writeMultipleCoils _ _ => FunctionCode.writeMultipleCoils
  | writeMultipleRegisters _ _ => FunctionCode.writeMultipleRegisters
  | readExceptionStatus => FunctionCode.readExceptionStatus
  | readSerialDiagnostics _ _ => FunctionCode.readSerialDiagnostics
  | readCommEventCounter => FunctionCode.readCommEventCounter
  | readCommEventLog => FunctionCode.readCommEventLog
  | reportSlaveID => FunctionCode.reportSlaveID
  | readFileRecord _ => FunctionCode.readFileRecord
  | writeFileRecord _ => FunctionCode.writeFileRecord
  | maskWriteRegister _ _ _ => FunctionCode.maskWriteRegister
  | readWriteMultiple _ _ _ _ _ => FunctionCode.readWriteMultiple
  | readFIFOQueue _ => FunctionCode.readFIFOQueue
  | readMEI _ _ _ => FunctionCode.readMEI
  | illegalFunction => unknown

end ModbusRequest

structure ModbusMessage (Body : Type) where
  transactionID : Int := 0
  protocolID : Int := 0
  dataLength : Int := 0
  unitID : Int := 0
  functionCode : Int
  headless : Bool := false
  body : Body
  deriving DecidableEq, Repr

def createModbusRequest (functionCode : Int) : ModbusMessage ModbusRequest :=
  match functionCode with
  | FunctionCode.readCoils => { functionCode, dataLength := 6, body := .readCoils 0 0 }
  | FunctionCode.readInputDiscretes => { functionCode, dataLength := 6, body := .readInputDiscretes 0 0 }
  | FunctionCode.readMultipleRegisters => { functionCode, dataLength := 6, body := .readMultipleRegisters 0 0 }
  | FunctionCode.readInputRegisters => { functionCode, dataLength := 6, body := .readInputRegisters 0 0 }
  | FunctionCode.writeCoil => { functionCode, dataLength := 6, body := .writeCoil 0 false }
  | FunctionCode.writeSingleRegister => { functionCode, dataLength := 6, body := .writeSingleRegister 0 none }
  | FunctionCode.writeMultipleCoils =>
    { functionCode, dataLength := 7, body := .writeMultipleCoils 0 ⟨1, [0], false⟩ }
  | FunctionCode.writeMultipleRegisters => { functionCode, dataLength := 7, body := .writeMultipleRegisters 0 none }
  | FunctionCode.readExceptionStatus => { functionCode, dataLength := 2, body := .readExceptionStatus }
  | FunctionCode.readSerialDiagnostics => { functionCode, dataLength := 6, body := .readSerialDiagnostics 0 0 }
  | FunctionCode.readCommEventCounter => { functionCode, dataLength := 2, body := .readCommEventCounter }
  | FunctionCode.readCommEventLog => { functionCode, dataLength := 2, body := .readCommEventLog }
  | FunctionCode.reportSlaveID => { functionCode, dataLength := 2, body := .reportSlaveID }
  | FunctionCode.readFileRecord => { functionCode, dataLength := 3, body := .readFileRecord none }
  | FunctionCode.writeFileRecord => { functionCode, dataLength := 3, body := .writeFileRecord none }
  | FunctionCode.maskWriteRegister => { functionCode, dataLength := 8, body := .maskWriteRegister 0 0 0 }
  | FunctionCode.readWriteMultiple =>
    { functionCode, dataLength := 11, body := .readWriteMultiple 0 0 0 0 none }
  | FunctionCode.readFIFOQueue => { functionCode, dataLength := 4, body := .readFIFOQueue 0 }
  | FunctionCode.readMEI => { functionCode, dataLength := 5, body := .readMEI 14 0 0 }
  | functionCode => { functionCode, body := .illegalFunction }

end EtherNetIP.Modbus
