import EtherNetIP.Modbus.BitVectors
import EtherNetIP.Modbus.ProcessImages

/-! The answers of the requests from a process image.

A request is answered with its own response, with an exception response or not
at all, where something is thrown that is not caught. Three responses keep the
registers of the image and not their values. The header of the answer, which is
that of the request, is left out.
-/

set_option autoImplicit false

namespace EtherNetIP.Modbus

open EtherNetIP.Library

namespace ExceptionCode

abbrev illegalFunction : Int := 1
abbrev illegalAddress : Int := 2
abbrev illegalValue : Int := 3

end ExceptionCode

inductive Answer where
  | response (response : ModbusResponse)
  | readMultipleRegisters (byteCount : Int) (registers : List Nat)
  | readInputRegisters (byteCount : Int) (registers : List Nat)
  | readFIFOQueue (count : Int) (registers : List Nat)

def createExceptionResponse (code : Int) : Answer := .response (.exception code)

def Answer.isException : Answer → Bool
  | .response (.exception _) => true
  | _ => false

def catchingIllegalAddress {Value : Type} (tried : Access Value) (following : Value → Access Answer) : Access Answer :=
  fun memory =>
    match tried memory with
    | (.ok value, after) => following value after
    | (.error .illegalAddressException, after) => (.ok (createExceptionResponse ExceptionCode.illegalAddress), after)
    | (.error fault, after) => (.error fault, after)

def setCoilStatus (coils : BitVector) (index : Int) (set : Bool) : Except Throwable BitVector :=
  if index < 0 then throw .illegalArgumentException
  else if index > coils.size then throw .indexOutOfBoundsException
  else coils.setBit index set

namespace ReadCoilsRequest

def createResponse (reference bitCount : Int) (image : ProcessImage) : Access Answer :=
  catchingIllegalAddress (.ofExcept (image.getDigitalOutRange reference bitCount)) fun douts => do
    let blank ← Access.ofExcept (BitVector.ofSize bitCount)
    let _ ← Access.ofExcept (setDataLength (blank.byteSize + 1))
    let coils ← douts.zipIdx.foldlM (fun coils (dout, i) => do
      let set ← isSet dout
      Access.ofExcept (setCoilStatus coils (i : Nat) set)) blank
    return .response (.readCoils (some coils))

end ReadCoilsRequest

namespace ReadInputDiscretesRequest

def createResponse (reference bitCount : Int) (image : ProcessImage) : Access Answer :=
  catchingIllegalAddress (.ofExcept (image.getDigitalInRange reference bitCount)) fun dins => do
    let blank ← Access.ofExcept (BitVector.ofSize bitCount)
    let _ ← Access.ofExcept (setDataLength (blank.byteSize + 1))
    let discretes ← Access.ofExcept
      (dins.zipIdx.foldlM (fun discretes (set, i) => discretes.setBit (i : Nat) set) blank)
    return .response (.readInputDiscretes bitCount (some discretes))

end ReadInputDiscretesRequest

namespace ReadMultipleRegistersRequest

def createResponse (reference wordCount : Int) (image : ProcessImage) : Access Answer :=
  catchingIllegalAddress (.ofExcept (image.getRegisterRange reference wordCount)) fun regs => do
    let byteCount : Int := regs.length * 2
    let _ ← Access.ofExcept (setDataLength (byteCount + 1))
    return .readMultipleRegisters byteCount regs

end ReadMultipleRegistersRequest

namespace ReadInputRegistersRequest

def createResponse (reference wordCount : Int) (image : ProcessImage) : Access Answer :=
  catchingIllegalAddress (.ofExcept (image.getInputRegisterRange reference wordCount)) fun inpregs => do
    let _ ← Access.ofExcept (setDataLength (inpregs.length * 2 + 1))
    return .readInputRegisters (inpregs.length * 2) inpregs

end ReadInputRegistersRequest

namespace WriteCoilRequest

def createResponse (reference : Int) (coil : Bool) (image : ProcessImage) : Access Answer :=
  catchingIllegalAddress (do
    let dout ← Access.ofExcept (image.getDigitalOut reference)
    setCoil dout coil) fun _ => return .response (.writeCoil reference coil)

end WriteCoilRequest

namespace WriteSingleRegisterRequest

/-- The register takes the octets of the request; that is its value. -/
def createResponse (reference : Int) (register : Option Register) (image : ProcessImage) : Access Answer :=
  catchingIllegalAddress (do
    let reg ← Access.ofExcept (image.getRegister reference)
    let register ← Access.ofExcept (deref register)
    setValue reg register.getValue
    return reg) fun reg => do
      let value ← getValue reg
      return .response (.writeSingleRegister reference value)

end WriteSingleRegisterRequest

namespace WriteMultipleCoilsRequest

def createResponse (reference : Int) (coils : BitVector) (image : ProcessImage) : Access Answer :=
  catchingIllegalAddress (do
    let douts ← Access.ofExcept (image.getDigitalOutRange reference coils.size)
    douts.zipIdx.forM fun (dout, i) => do
      let set ← Access.ofExcept (coils.getBit (i : Nat))
      setCoil dout set) fun _ => return .response (.writeMultipleCoils reference coils.size)

end WriteMultipleCoilsRequest

def requestRegister (registers : Option (List Register)) (wordCount index : Int) : Except Throwable Register :=
  if index < 0 ∨ index ≥ wordCount then throw .indexOutOfBoundsException
  else do
    let registers ← deref registers
    (registers[index.toNat]?).elim (throw .indexOutOfBoundsException) pure

def setRegisters (registers : Option (List Register)) (wordCount : Int) (regs : List Nat) : Access Unit :=
  regs.zipIdx.forM fun (reg, i) => do
    let register ← Access.ofExcept (requestRegister registers wordCount (i : Nat))
    setValue reg register.getValue

namespace WriteMultipleRegistersRequest

def getWordCount (registers : Option (List Register)) : Int := (registers.getD []).length

def createResponse (reference : Int) (registers : Option (List Register)) (image : ProcessImage) : Access Answer :=
  catchingIllegalAddress (do
    let regs ← Access.ofExcept (image.getRegisterRange reference (getWordCount registers))
    setRegisters registers (getWordCount registers) regs) fun _ =>
      return .response (.writeMultipleRegisters reference (getWordCount registers))

end WriteMultipleRegistersRequest

namespace ReadWriteMultipleRequest

/-- First the write, and then the read. -/
def createResponse (readReference readCount writeReference writeCount : Int) (registers : Option (List Register))
    (image : ProcessImage) : Access Answer :=
  catchingIllegalAddress (do
    let writeRegs ← Access.ofExcept (image.getRegisterRange writeReference writeCount)
    setRegisters registers writeCount writeRegs
    let readRegs ← Access.ofExcept (image.getRegisterRange readReference readCount)
    readRegs.mapM getValue) fun values => do
      let _ ← Access.ofExcept (setDataLength (values.length * 2 + 1))
      return .response (.readWriteMultiple (values.length * 2) (some (values.map Register.ofValue)))

end ReadWriteMultipleRequest

/-- The record that a record request names. One that is not there will do for a request of no words. -/
def requestedRecord (image : ProcessImage) (fileNumber recordNumber wordCount : Int) :
    Except Throwable (File × Option Record) := do
  if fileNumber < 0 ∨ fileNumber ≥ image.getFileCount then throw .illegalAddressException
  else do
    let file ← image.getFileByNumber fileNumber
    if recordNumber < 0 ∨ recordNumber ≥ file.getRecordCount then throw .illegalAddressException
    else do
      let record ← file.getRecord recordNumber
      if record.isNone ∧ wordCount ≠ 0 then throw .illegalAddressException else return (file, record)

def recordRegister (record : Option Record) (index : Int) : Except Throwable Nat := do
  let record ← deref record
  let register ← record.getRegister index
  register.elim (throw .illegalAddressException) pure

namespace ReadFileRecordRequest

/-- One turn of the loop. The answers that leave it early are the same as that to an IllegalAddressException. -/
def readRecord (image : ProcessImage) (request : RecordRequest) : Access RecordResponse := do
  let (_, record) ← Access.ofExcept
    (requestedRecord image request.fileNumber request.recordNumber request.wordCount)
  if request.wordCount < 0 then throw .negativeArraySizeException
  else do
    let data ← (List.range request.wordCount.toNat).mapM fun (j : Nat) => do
      let register ← Access.ofExcept (recordRegister record j)
      getValue register
    return ⟨data.map Register.ofValue⟩

def createResponse (records : Option (List RecordRequest)) (image : ProcessImage) : Access Answer :=
  catchingIllegalAddress ((records.getD []).mapM (readRecord image)) fun responses =>
    return .response (.readFileRecord (if responses = [] then none else some responses))

end ReadFileRecordRequest

namespace WriteFileRecordRequest

/-- A response that has grown too long is not extended. -/
def addResponse (responses : List WrittenRecord) (response : WrittenRecord) : Except Throwable (List WrittenRecord) :=
  if response.getRequestSize + WriteFileRecord.getSize (some responses) > 248 then throw .illegalArgumentException
  else return responses ++ [response]

def writeRecord (image : ProcessImage) (responses : List WrittenRecord) (request : WrittenRecord) :
    Access (List WrittenRecord) := do
  let (file, record) ← Access.ofExcept
    (requestedRecord image request.fileNumber request.recordNumber request.data.length)
  request.data.zipIdx.forM fun (word, j) => do
    let register ← Access.ofExcept (recordRegister record (j : Nat))
    setValue register word.getValue
  Access.ofExcept (addResponse responses
    ⟨file.fileNumber, record.elim 0 Record.recordNumber, request.data⟩)

def createResponse (records : Option (List WrittenRecord)) (image : ProcessImage) : Access Answer :=
  catchingIllegalAddress ((records.getD []).foldlM (writeRecord image) []) fun responses =>
    return .response (.writeFileRecord (if responses = [] then none else some responses))

end WriteFileRecordRequest

namespace MaskWriteRegisterRequest

/-- The masks are ints of 32 bits. -/
def masked (value andMask orMask : Int) : Int :=
  let mask := Int32.ofInt andMask
  (Int32.ofInt value &&& mask ||| Int32.ofInt orMask &&& ~~~mask).toInt

def createResponse (reference andMask orMask : Int) (image : ProcessImage) : Access Answer :=
  catchingIllegalAddress (do
    let register ← Access.ofExcept (image.getRegister reference)
    let value ← getValue register
    setValue register (masked value andMask orMask)) fun _ =>
      return .response (.maskWriteRegister reference andMask orMask)

end MaskWriteRegisterRequest

namespace ReadFIFOQueueRequest

/-- The registers behind the one that counts them, or none where it counts too many. -/
def createResponse (reference : Int) (image : ProcessImage) : Access Answer :=
  catchingIllegalAddress (do
    let queue ← Access.ofExcept (image.getRegister reference)
    let count ← getValue queue
    if count < 0 ∨ count > 31 then return none
    else do
      let registers ← Access.ofExcept (image.getRegisterRange (reference + 1) count)
      return some registers) fun
    | none => return createExceptionResponse ExceptionCode.illegalValue
    | some registers => return .readFIFOQueue registers.length registers

end ReadFIFOQueueRequest

namespace ModbusRequest

/-- The requests that the library does not serve are answered without a look at the image. -/
def createResponse (image : ProcessImage) : ModbusRequest → Access Answer
  | readCoils reference bitCount => ReadCoilsRequest.createResponse reference bitCount image
  | readInputDiscretes reference bitCount => ReadInputDiscretesRequest.createResponse reference bitCount image
  | readMultipleRegisters reference wordCount => ReadMultipleRegistersRequest.createResponse reference wordCount image
  | readInputRegisters reference wordCount => ReadInputRegistersRequest.createResponse reference wordCount image
  | writeCoil reference coil => WriteCoilRequest.createResponse reference coil image
  | writeSingleRegister reference register => WriteSingleRegisterRequest.createResponse reference register image
  | writeMultipleCoils reference coils => WriteMultipleCoilsRequest.createResponse reference coils image
  | writeMultipleRegisters reference registers =>
    WriteMultipleRegistersRequest.createResponse reference registers image
  | readFileRecord records => ReadFileRecordRequest.createResponse records image
  | writeFileRecord records => WriteFileRecordRequest.createResponse records image
  | maskWriteRegister reference andMask orMask =>
    MaskWriteRegisterRequest.createResponse reference andMask orMask image
  | readWriteMultiple readReference readCount writeReference writeCount registers =>
    ReadWriteMultipleRequest.createResponse readReference readCount writeReference writeCount registers image
  | readFIFOQueue reference => ReadFIFOQueueRequest.createResponse reference image
  | _ => return createExceptionResponse ExceptionCode.illegalFunction

end ModbusRequest

end EtherNetIP.Modbus
