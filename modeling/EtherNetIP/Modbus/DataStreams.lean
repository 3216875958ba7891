import EtherNetIP.Library.Decoders

/-! The big-endian data streams of the Modbus messages.

An octet written from an int keeps its low eight bits, a short its low sixteen;
what is read is signed or unsigned as the method says. A register is its two
octets, a bit vector its octets with the number of bits in use.
-/

set_option autoImplicit false

namespace EtherNetIP.Modbus

open EtherNetIP.Library

inductive Throwable where
  | modbusIOException
  | ioException
  | eofException
  | illegalArgumentException
  | indexOutOfBoundsException
  | negativeArraySizeException
  | nullPointerException
  | illegalAddressException
  | runtimeException
  deriving DecidableEq, Repr

def Throwable.isIO : Throwable → Bool
  | ioException | eofException => true
  | _ => false

abbrev DataInput (Value : Type) := Decoder Throwable UInt8 Value

def octet (value : Int) : UInt8 := UInt8.ofInt value

def writeShort (value : Int) : List UInt8 := [octet (value >>> (8 : Nat)), octet value]

def readOctet : DataInput UInt8
  | [] => .error .eofException
  | first :: rest => .ok (first, rest)

def readUnsignedByte : DataInput Int := do
  let read ← readOctet
  return read.toNat

def readByte : DataInput Int := do
  let read ← readOctet
  return read.toInt8.toInt

def readUnsignedShort : DataInput Int := do
  let high ← readOctet
  let low ← readOctet
  return high.toNat * 256 + low.toNat

def readShort : DataInput Int := do
  let high ← readOctet
  let low ← readOctet
  return high.toInt8.toInt * 256 + low.toNat

def readFully (count : Nat) : DataInput (List UInt8) := takeItems .eofException count

def deref {Value : Type} : Option Value → Except Throwable Value
  | some value => .ok value
  | none => .error .nullPointerException

/-- The length ModbusMessageImpl.setDataLength records for its argument. -/
def setDataLength (length : Int) : Except Throwable Int :=
  if length < 0 ∨ length + 2 > 255 then .error .illegalArgumentException else .ok (length + 2)

/-- The values that fit an octet, and those that fit two, unsigned or signed. -/
def FitsOctet (value : Int) : Prop := 0 ≤ value ∧ value < 256

def FitsWord (value : Int) : Prop := 0 ≤ value ∧ value < 65536

def FitsShort (value : Int) : Prop := -32768 ≤ value ∧ value < 32768

instance (value : Int) : Decidable (FitsShort value) := inferInstanceAs (Decidable (_ ∧ _))

instance (value : Int) : Decidable (FitsOctet value) := inferInstanceAs (Decidable (_ ∧ _))

instance (value : Int) : Decidable (FitsWord value) := inferInstanceAs (Decidable (_ ∧ _))

section Octets

variable {value : Int}

theorem toNat_octet (value : Int) : ((octet value).toNat : Int) = value % 256 := by
  have bounded := Int.emod_lt_of_pos value (show (0 : Int) < 256 by decide)
  have positive := Int.emod_nonneg value (show (256 : Int) ≠ 0 by decide)
  change ((UInt8.ofNat (value % 2 ^ 8).toNat).toNat : Int) = _
  rw [UInt8.toNat_ofNat']
  change (((value % 256).toNat % 256 : Nat) : Int) = _
  omega

theorem shiftRight_eight (value : Int) : value >>> (8 : Nat) = value / 256 := by
  rw [Int.shiftRight_eq_div_pow]
  rfl

theorem toNat_octet_of_fits (fits : FitsOctet value) : ((octet value).toNat : Int) = value := by
  have whole := toNat_octet value
  unfold FitsOctet at fits
  omega

@[simp] theorem octet_toNat (read : UInt8) : octet (read.toNat : Int) = read := by
  have whole := toNat_octet (read.toNat : Int)
  have bounded := read.toNat_lt
  apply UInt8.toNat_inj.mp
  omega

@[simp] theorem length_writeShort (value : Int) : (writeShort value).length = 2 := rfl

theorem decodes_octet (read : UInt8) : Decodes readOctet [read] read := fun _ => rfl

theorem decodes_unsignedByte (fits : FitsOctet value) : Decodes readUnsignedByte [octet value] value := by
  have decodes := (decodes_octet (octet value)).andReturn fun read => (read.toNat : Int)
  rw [toNat_octet_of_fits fits] at decodes
  exact decodes

theorem decodes_unsignedShort (fits : FitsWord value) : Decodes readUnsignedShort (writeShort value) value := by
  have low := toNat_octet value
  have high := toNat_octet (value >>> (8 : Nat))
  rw [shiftRight_eight] at high
  have whole : ((octet (value >>> (8 : Nat))).toNat : Int) * 256 + (octet value).toNat = value := by
    rw [shiftRight_eight]
    unfold FitsWord at fits
    omega
  intro rest
  change Except.ok (((octet (value >>> (8 : Nat))).toNat : Int) * 256 + (octet value).toNat, rest) = _
  rw [whole]

theorem toInt_toInt8 (read : UInt8) :
    read.toInt8.toInt = if read.toNat < 128 then (read.toNat : Int) else read.toNat - 256 := by
  have signed : read.toInt8.toInt = if 2 * read.toNat < 2 ^ 8 then (read.toNat : Int) else read.toNat - 2 ^ 8 := rfl
  rw [signed]
  split <;> split <;> omega

theorem decodes_byte (positive : 0 ≤ value) (low : value < 128) : Decodes readByte [octet value] value := by
  have whole := toNat_octet value
  have signed := toInt_toInt8 (octet value)
  intro rest
  change Except.ok ((octet value).toInt8.toInt, rest) = _
  rw [signed, if_pos (by omega)]
  congr 2
  omega

theorem readByte_yields : Yields readByte (· < 128) := by
  refine Yields.last fun read => Yields.pure ?_
  have bounded := read.toNat_lt
  rw [toInt_toInt8]
  split <;> omega

theorem readShort_yields : Yields readShort (· < 32768) := by
  refine Yields.last fun high => Yields.last fun low => Yields.pure ?_
  have bounded := high.toNat_lt
  have bounded' := low.toNat_lt
  rw [toInt_toInt8]
  split <;> omega

theorem decodes_short (fits : FitsShort value) : Decodes readShort (writeShort value) value := by
  have low := toNat_octet value
  have high := toNat_octet (value >>> (8 : Nat))
  have signed := toInt_toInt8 (octet (value >>> (8 : Nat)))
  have whole : (octet (value >>> (8 : Nat))).toInt8.toInt * 256 + (octet value).toNat = value := by
    rw [signed]
    rw [shiftRight_eight] at high ⊢
    unfold FitsShort at fits
    split <;> omega
  intro rest
  change Except.ok ((octet (value >>> (8 : Nat))).toInt8.toInt * 256 + (octet value).toNat, rest) = _
  rw [whole]

theorem decodes_fully (octets : List UInt8) : Decodes (readFully octets.length) octets octets :=
  decodes_takeItems _ octets

end Octets

structure Register where
  high : UInt8
  low : UInt8
  deriving DecidableEq, Repr

namespace Register

def toBytes (register : Register) : List UInt8 := [register.high, register.low]

def getValue (register : Register) : Int := register.high.toNat * 256 + register.low.toNat

def ofValue (value : Int) : Register := ⟨octet (value >>> (8 : Nat)), octet value⟩

@[simp] theorem length_toBytes (register : Register) : register.toBytes.length = 2 := rfl

theorem writeShort_getValue (register : Register) : writeShort register.getValue = register.toBytes := by
  have high := register.high.toNat_lt
  have low := register.low.toNat_lt
  have top : register.getValue / 256 = register.high.toNat := by
    unfold getValue
    omega
  have bottom : register.getValue % 256 = (register.low.toNat : Int) % 256 := by
    unfold getValue
    omega
  unfold writeShort toBytes
  rw [shiftRight_eight, top, octet_toNat]
  have same : octet register.getValue = register.low := by
    apply UInt8.toNat_inj.mp
    have left := toNat_octet register.getValue
    omega
  rw [same]

end Register

def readRegister : DataInput Register := do
  let high ← readOctet
  let low ← readOctet
  return ⟨high, low⟩

theorem decodes_register (register : Register) : Decodes readRegister register.toBytes register :=
  fun _ => rfl

theorem readOctet_inverts : Inverts readOctet fun read => [read] := by
  intro octets read rest taken
  cases octets with
  | nil => cases taken
  | cons first others =>
    cases taken
    rfl

theorem readUnsignedByte_eq_ok {octets rest : List UInt8} {value : Int}
    (read : readUnsignedByte.run octets = .ok (value, rest)) :
    ∃ first : UInt8, octets = first :: rest ∧ value = first.toNat := by
  obtain ⟨middle, taken, read⟩ := bind_eq_ok.mp read
  cases read
  exact ⟨middle.1, readOctet_inverts _ _ _ taken, rfl⟩

theorem readByte_eq_ok {octets rest : List UInt8} {value : Int} (read : readByte.run octets = .ok (value, rest)) :
    ∃ first : UInt8, octets = first :: rest ∧ value = first.toInt8.toInt := by
  obtain ⟨middle, taken, read⟩ := bind_eq_ok.mp read
  cases read
  exact ⟨middle.1, readOctet_inverts _ _ _ taken, rfl⟩

theorem readRegister_inverts : Inverts readRegister Register.toBytes := by
  intro octets register rest read
  obtain ⟨high, taken, read⟩ := bind_eq_ok.mp read
  obtain ⟨low, takenLow, read⟩ := bind_eq_ok.mp read
  cases read
  rw [readOctet_inverts _ _ _ taken, readOctet_inverts _ _ _ takenLow]
  rfl

theorem decodes_registers (registers : List Register) :
    Decodes (times readRegister registers.length) (registers.flatMap Register.toBytes) registers :=
  Decodes.times fun register _ => decodes_register register

@[simp] theorem length_flatMap_toBytes (registers : List Register) :
    (registers.flatMap Register.toBytes).length = 2 * registers.length := by
  induction registers with
  | nil => rfl
  | cons first others ih =>
    rw [List.flatMap_cons, List.length_append, ih, List.length_cons, Register.length_toBytes]
    omega

/-- The registers in a buffer read two octets at a time; the index runs past a buffer that is too short. -/
def registersFrom : Nat → List UInt8 → Except Throwable (List Register)
  | 0, _ => .ok []
  | count + 1, high :: low :: rest => (registersFrom count rest).map (⟨high, low⟩ :: ·)
  | _ + 1, _ => .error .indexOutOfBoundsException

theorem registersFrom_toBytes (registers : List Register) (rest : List UInt8) :
    registersFrom registers.length (registers.flatMap Register.toBytes ++ rest) = .ok registers := by
  induction registers with
  | nil => rfl
  | cons first others ih =>
    change (registersFrom others.length (others.flatMap Register.toBytes ++ rest)).map _ = _
    rw [ih]
    rfl

theorem registersFrom_isOk {count : Nat} {buffer : List UInt8} :
    (∃ registers, registersFrom count buffer = .ok registers) ↔ 2 * count ≤ buffer.length := by
  induction count generalizing buffer with
  | zero => exact ⟨fun _ => Nat.zero_le _, fun _ => ⟨[], rfl⟩⟩
  | succ count ih =>
    match buffer with
    | [] => exact ⟨fun ⟨_, read⟩ => (nomatch read), fun enough => absurd enough (by simp)⟩
    | [_] => exact ⟨fun ⟨_, read⟩ => (nomatch read), fun enough => absurd enough (by simp; omega)⟩
    | high :: low :: rest =>
      have shorter : 2 * (count + 1) ≤ (high :: low :: rest).length ↔ 2 * count ≤ rest.length := by
        rw [List.length_cons, List.length_cons]
        omega
      rw [shorter, ← ih]
      constructor
      · rintro ⟨registers, read⟩
        obtain ⟨others, read, -⟩ := map_eq_ok.mp read
        exact ⟨others, read⟩
      · rintro ⟨others, read⟩
        exact ⟨⟨high, low⟩ :: others, map_eq_ok.mpr ⟨others, read, rfl⟩⟩

theorem registersFrom_error {count : Nat} {buffer : List UInt8} {fault : Throwable}
    (failed : registersFrom count buffer = .error fault) : fault = .indexOutOfBoundsException := by
  induction count generalizing buffer with
  | zero => cases failed
  | succ count ih =>
    match buffer, failed with
    | [], failed => cases failed; rfl
    | [_], failed => cases failed; rfl
    | _ :: _ :: rest, failed => exact ih (map_eq_error.mp failed)

structure BitVector where
  size : Int
  data : List UInt8
  msbAccess : Bool
  deriving DecidableEq, Repr

namespace BitVector

/-- The constructor: as many octets as the bits need, all clear. -/
def ofSize (size : Int) : Except Throwable BitVector :=
  let octets := if size.tmod 8 > 0 then size.tdiv 8 + 1 else size.tdiv 8
  if octets < 0 then .error .negativeArraySizeException
  else .ok ⟨size, List.replicate octets.toNat 0, false⟩

def createBitVector (data : List UInt8) : BitVector := ⟨data.length * 8, data, false⟩

def createBitVectorOfSize (data : List UInt8) (size : Int) : BitVector := { createBitVector data with size }

def byteSize (vector : BitVector) : Nat := vector.data.length

end BitVector

end EtherNetIP.Modbus
