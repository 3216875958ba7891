import EtherNetIP.Library.PartialUpdates
import EtherNetIP.Modbus.Responses

/-! The process image of a slave.

The image holds references: an index may have no object, and one object may stand
at several indices and in several records. The state is in the objects, which are
numbered. A register made without its octets is invalid.

A reference and a count may add up to more than the largest int. The sum passes
for a small one then, but the first of the addresses is past the end all the same.
-/

set_option autoImplicit false

namespace EtherNetIP.Modbus

open EtherNetIP.Library

structure Memory where
  coils : Nat → Bool
  registers : Nat → Option Register

structure Record where
  recordNumber : Int
  registers : List (Option Nat)

structure File where
  fileNumber : Int
  records : List (Option Record)

/-- SimpleProcessImage. The FIFO queues are left out, as no request reads them. -/
structure ProcessImage where
  digitalIns : List (Option Bool) := []
  digitalOuts : List (Option Nat) := []
  inputRegisters : List (Option Nat) := []
  registers : List (Option Nat) := []
  files : List (Option File) := []

/-- What is done with the objects; their state outlives an exception. -/
abbrev Access (Value : Type) := ExceptT Throwable (StateM Memory) Value

def Access.ofExcept {Value : Type} (outcome : Except Throwable Value) : Access Value := fun memory => (outcome, memory)

def elementAt {Object : Type} (objects : List (Option Object)) (index : Int) : Except Throwable Object :=
  if index < 0 ∨ index ≥ objects.length then throw .illegalAddressException
  else (objects.getD index.toNat none).elim (throw .illegalAddressException) pure

def elementRange {Object : Type} (objects : List (Option Object)) (ref count : Int) :
    Except Throwable (List Object) :=
  if ref < 0 ∨ ref + count > objects.length then throw .illegalAddressException
  else if count < 0 then throw .negativeArraySizeException
  else (List.range count.toNat).mapM fun (i : Nat) => elementAt objects (ref + i)

namespace Record

def getRegister (record : Record) (register : Int) : Except Throwable (Option Nat) :=
  if register < 0 ∨ register ≥ record.registers.length then throw .illegalAddressException
  else return record.registers.getD register.toNat none

end Record

namespace File

def getRecordCount (file : File) : Int := file.records.length

def getRecord (file : File) (i : Int) : Except Throwable (Option Record) :=
  if i < 0 ∨ i ≥ file.getRecordCount then throw .illegalAddressException
  else return file.records.getD i.toNat none

end File

namespace ProcessImage

variable (image : ProcessImage)

def getDigitalInRange (ref count : Int) : Except Throwable (List Bool) := elementRange image.digitalIns ref count

def getDigitalOut (ref : Int) : Except Throwable Nat := elementAt image.digitalOuts ref

def getDigitalOutRange (ref count : Int) : Except Throwable (List Nat) := elementRange image.digitalOuts ref count

def getInputRegisterRange (ref count : Int) : Except Throwable (List Nat) :=
  elementRange image.inputRegisters ref count

def getRegister (ref : Int) : Except Throwable Nat := elementAt image.registers ref

def getRegisterRange (ref count : Int) : Except Throwable (List Nat) := elementRange image.registers ref count

def getFileCount : Int := image.files.length

/-- The first file of that number; the search stops at an index without a file. -/
def fileNumbered (ref : Int) : List (Option File) → Except Throwable File
  | [] => throw .illegalAddressException
  | none :: _ => throw .nullPointerException
  | some file :: files => if file.fileNumber = ref then return file else fileNumbered ref files

def getFileByNumber (ref : Int) : Except Throwable File :=
  if ref < 0 ∨ ref ≥ 10000 then throw .illegalAddressException else fileNumbered ref image.files

end ProcessImage

def isSet (dout : Nat) : Access Bool := fun memory => (.ok (memory.coils dout), memory)

def setCoil (dout : Nat) (set : Bool) : Access Unit := fun memory =>
  (.ok (), { memory with coils := Function.update memory.coils dout set })

def octetsOf (registers : Nat → Option Register) (register : Nat) : Except Throwable Register :=
  (registers register).elim (throw .illegalAddressException) pure

def getValue (register : Nat) : Access Int := fun memory =>
  ((octetsOf memory.registers register).map Register.getValue, memory)

def setValue (register : Nat) (value : Int) : Access Unit := fun memory =>
  match octetsOf memory.registers register with
  | .ok _ =>
    (.ok (), { memory with registers := Function.update memory.registers register (some (Register.ofValue value)) })
  | .error fault => (.error fault, memory)

end EtherNetIP.Modbus
