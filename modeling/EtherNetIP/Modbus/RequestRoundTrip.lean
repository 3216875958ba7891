import EtherNetIP.Modbus.Requests

/-! What the Modbus requests read back from their own octets.

Most classes read back what they were given. A file record numbered 10000 or
more is refused, and a last record without words is not reached by the loop.
-/

set_option autoImplicit false

namespace EtherNetIP.Modbus

open EtherNetIP.Library

section Words

variable {Message : Type} {first second third : Int}

theorem decodes_twoWords (make : Int → Int → Message) (fits : FitsWord first) (fits' : FitsWord second) :
    Decodes (readTwoWords make) (twoWords first second) (make first second) :=
  (decodes_unsignedShort fits).bind ((decodes_unsignedShort fits').andReturn (make first))

theorem decodes_threeWords (make : Int → Int → Int → Message) (fits : FitsWord first) (fits' : FitsWord second)
    (fits'' : FitsWord third) :
    Decodes (readThreeWords make) (threeWords first second third) (make first second third) :=
  (decodes_unsignedShort fits).bind
    ((decodes_unsignedShort fits').bind ((decodes_unsignedShort fits'').andReturn (make first second)))

theorem decodes_coilBytes (make : Bool → Message) (coil : Bool) :
    Decodes (do
      let read ← readByte
      let _ ← readByte
      return make (read = -1)) (coilBytes coil) (make coil) := by
  intro rest
  cases coil <;> rfl

@[simp] theorem length_twoWords (first second : Int) : (twoWords first second).length = 4 := rfl

@[simp] theorem length_threeWords (first second third : Int) : (threeWords first second third).length = 6 := rfl

end Words

theorem firstRegisters_eq_ok {count : Int} {registers : Option (List Register)} {written : List Register}
    (first : firstRegisters count registers = .ok written) (positive : 0 ≤ count) :
    written.length = count.toNat ∧ ∀ all, registers = some all → written = all.take count.toNat := by
  unfold firstRegisters at first
  split at first
  next none =>
    cases first
    have zero : count.toNat = 0 := by omega
    rw [zero]
    exact ⟨rfl, fun all _ => rfl⟩
  next some =>
    obtain ⟨all, found, taken⟩ := bind_eq_ok.mp first
    split at taken
    next enough =>
      cases taken
      refine ⟨by rw [List.length_take]; omega, fun other same => ?_⟩
      subst same
      cases found
      rfl
    next => cases taken

theorem firstRegisters_all (registers : List Register) :
    firstRegisters registers.length (some registers) = .ok registers := by
  unfold firstRegisters
  split
  next empty =>
    have none : registers = [] := List.length_eq_zero_iff.mp (by omega)
    rw [none]
  next =>
    change (if _ then _ else _) = _
    rw [if_pos (Int.le_refl _), Int.toNat_natCast, List.take_length]
    rfl

namespace RecordRequest

structure Fits (record : RecordRequest) : Prop where
  file : FitsWord record.fileNumber
  number : FitsWord record.recordNumber
  count : FitsWord record.wordCount

theorem decodes {record : RecordRequest} (fits : record.Fits) (low : record.recordNumber < 10000) :
    Decodes read record.getRequest record := by
  have six : Decodes readByte [6] 6 := fun _ => rfl
  refine six.bind ?_
  rw [if_neg (by decide)]
  refine (decodes_unsignedShort fits.file).bind ((decodes_unsignedShort fits.number).bind ?_)
  have positive := fits.number.1
  rw [if_neg (by omega)]
  exact (decodes_unsignedShort fits.count).andReturn (RecordRequest.mk _ _)

theorem read_yields : Yields read fun record => record.recordNumber < 10000 := by
  refine Yields.last fun function => ?_
  split
  · exact Yields.throw _
  · refine Yields.last fun file => Yields.last fun record => ?_
    split
    · exact Yields.throw _
    next low => exact Yields.last fun count => Yields.pure (by change record < 10000; omega)

@[simp] theorem length_getRequest (record : RecordRequest) : record.getRequest.length = 7 := rfl

theorem length_flatMap_getRequest (records : List RecordRequest) :
    (records.flatMap getRequest).length = 7 * records.length := by
  induction records with
  | nil => rfl
  | cons first others ih =>
    rw [List.flatMap_cons, List.length_append, ih, List.length_cons, length_getRequest]
    omega

end RecordRequest

namespace ReadFileRecordRequest

variable {records : List RecordRequest}

theorem count_eq (size : 7 * records.length < 256) :
    (7 * records.length : Int) / 7 = records.length ∧ FitsOctet (7 * records.length) := by
  unfold FitsOctet
  omega

theorem decodes (fits : ∀ record ∈ records, record.Fits) (low : ∀ record ∈ records, record.recordNumber < 10000)
    (size : 7 * records.length < 256) :
    Decodes readData (octet (7 * records.length) :: records.flatMap RecordRequest.getRequest) records := by
  obtain ⟨count, announced⟩ := count_eq size
  refine (decodes_unsignedByte announced).bind ?_
  rw [count, Int.toNat_natCast]
  exact Decodes.times fun record member => RecordRequest.decodes (fits record member) (low record member)

theorem readData_yields : Yields readData fun records => ∀ record ∈ records, record.recordNumber < 10000 :=
  Yields.last fun _ => Yields.times RecordRequest.read_yields _

end ReadFileRecordRequest

namespace WrittenRecord

variable {record : WrittenRecord} {records : List WrittenRecord}

structure Fits (record : WrittenRecord) : Prop where
  file : FitsWord record.fileNumber
  number : FitsWord record.recordNumber
  count : FitsWord record.data.length

structure Accepted (record : WrittenRecord) : Prop where
  number : record.recordNumber < 10000
  count : record.data.length < 126

theorem decodes (fits : record.Fits) (accepted : record.Accepted) : Decodes read record.getRequest record := by
  have six : Decodes readUnsignedByte [6] 6 := fun _ => rfl
  have positive := fits.number.1
  have low := accepted.number
  have short := accepted.count
  change Decodes read ([6] ++ (writeShort record.fileNumber ++ (writeShort record.recordNumber ++
    (writeShort record.data.length ++ record.data.flatMap Register.toBytes)))) record
  refine six.bind ((decodes_unsignedShort fits.file).bind ((decodes_unsignedShort fits.number).bind
    ((decodes_unsignedShort fits.count).bind ?_)))
  rw [if_neg (by decide), if_neg (by omega), if_neg (by omega), Int.toNat_natCast]
  exact (decodes_registers record.data).andReturn (WrittenRecord.mk _ _)

theorem read_yields : Yields read Accepted := by
  refine Yields.last fun function => Yields.last fun file => Yields.last fun number => Yields.last fun count => ?_
  split
  · exact Yields.throw _
  split
  · exact Yields.throw _
  split
  · exact Yields.throw _
  next low short =>
    refine (times_yields_length _ _).bind fun data length => Yields.pure ⟨?_, ?_⟩
    · change number < 10000
      omega
    · change data.length < 126
      omega

theorem length_getRequest (record : WrittenRecord) : (record.getRequest.length : Int) = record.getRequestSize := by
  unfold getRequest getRequestSize
  rw [List.length_cons, List.length_append, length_threeWords, length_flatMap_toBytes]
  omega

/-- The records the loop reaches: not a last one without words. -/
def reached : List WrittenRecord → List WrittenRecord
  | [] => []
  | [record] => if record.data = [] then [] else [record]
  | record :: next :: records => record :: reached (next :: records)

theorem reached_eq_self {records : List WrittenRecord} :
    reached records = records ↔ ∀ record ∈ records.getLast?, record.data ≠ [] := by
  induction records with
  | nil => exact ⟨fun _ record member => (nomatch member), fun _ => rfl⟩
  | cons record records ih =>
    cases records with
    | nil =>
      unfold reached
      constructor
      · intro same last member empty
        have last_eq : record = last := Option.some.inj member
        rw [last_eq, if_pos empty] at same
        cases same
      · intro words
        rw [if_neg (words record rfl)]
    | cons next records =>
      rw [List.getLast?_cons_cons, ← ih]
      exact ⟨fun same => (List.cons.inj same).2, congrArg (record :: ·)⟩

theorem length_le_octets (records : List WrittenRecord) :
    7 * records.length ≤ (records.flatMap getRequest).length := by
  induction records with
  | nil => exact Nat.zero_le _
  | cons record records ih =>
    have size := length_getRequest record
    unfold getRequestSize at size
    rw [List.flatMap_cons, List.length_append, List.length_cons]
    omega

/-- By induction on the records: before each of them what is left of the byte count is what is left to read. -/
theorem run_readAll (fits : ∀ record ∈ records, record.Fits) (accepted : ∀ record ∈ records, record.Accepted)
    (rest : List UInt8) {byteCount offset : Int} {turns : Nat} (enough : records.length ≤ turns)
    (sum : byteCount = offset - 1 + (records.flatMap getRequest).length) :
    ∃ left, (readAll byteCount turns offset).run (records.flatMap getRequest ++ rest) = .ok (reached records, left) ∧
      (reached records = records → left = rest) := by
  induction records generalizing offset turns with
  | nil =>
    refine ⟨rest, ?_, fun _ => rfl⟩
    have done : ¬ offset + 7 < byteCount := by
      have none : ((([] : List WrittenRecord).flatMap getRequest).length : Int) = 0 := rfl
      omega
    cases turns with
    | zero => rfl
    | succ turns =>
      unfold readAll
      rw [if_neg done]
      rfl
  | cons record records ih =>
    obtain ⟨turns, rfl⟩ : ∃ more, turns = more + 1 := ⟨turns - 1, by rw [List.length_cons] at enough; omega⟩
    have size := length_getRequest record
    have later := length_le_octets records
    rw [List.flatMap_cons, List.length_append] at sum
    have more : offset + 7 < byteCount ↔ (record.data ≠ [] ∨ records ≠ []) := by
      rw [← List.length_pos_iff, ← List.length_pos_iff]
      unfold getRequestSize at size
      constructor
      · intro inside
        rcases Nat.eq_zero_or_pos records.length with none | some
        · left
          rw [List.length_eq_zero_iff.mp none, List.flatMap_nil, List.length_nil] at sum
          omega
        · exact .inr some
      · intro words
        omega
    unfold readAll
    rw [List.flatMap_cons, List.append_assoc]
    by_cases inside : offset + 7 < byteCount
    · rw [if_pos inside]
      have first := decodes (fits record List.mem_cons_self) (accepted record List.mem_cons_self)
      obtain ⟨left, read, whole⟩ := @ih (fun other member => fits other (List.mem_cons_of_mem _ member))
        (fun other member => accepted other (List.mem_cons_of_mem _ member)) (offset + record.getRequestSize) turns
        (by rw [List.length_cons] at enough; omega) (by omega)
      have step : reached (record :: records) = record :: reached records := by
        cases records with
        | nil =>
          have words : record.data ≠ [] := (more.mp inside).resolve_right (fun none => none rfl)
          unfold reached
          rw [if_neg words]
        | cons next records => rfl
      refine ⟨left, ?_, ?_⟩
      · rw [run_then_of_ok (first _), run_then_of_ok read, step]
        rfl
      · rw [step]
        exact fun same => whole (List.cons.inj same).2
    · rw [if_neg inside]
      have empty : record.data = [] := Decidable.of_not_not fun words => inside (more.mpr (.inl words))
      have none : records = [] := Decidable.of_not_not fun some => inside (more.mpr (.inr some))
      have unread : reached (record :: records) = [] := by
        rw [none]
        exact if_pos empty
      rw [unread]
      exact ⟨_, rfl, fun same => nomatch same⟩

theorem readAll_yields (byteCount : Int) (turns : Nat) (offset : Int) :
    Yields (readAll byteCount turns offset) fun records => ∀ record ∈ records, record.Accepted := by
  have nothing : Yields (pure [] : DataInput (List WrittenRecord)) fun records => ∀ record ∈ records, record.Accepted :=
    Yields.pure fun record member => nomatch member
  induction turns generalizing offset with
  | zero => exact nothing
  | succ turns ih =>
    unfold readAll
    split
    · refine read_yields.bind fun first accepted => (ih _).bind fun others all => Yields.pure ?_
      intro record member
      rcases List.mem_cons.mp member with rfl | member
      · exact accepted
      · exact all record member
    · exact nothing

end WrittenRecord

namespace WriteFileRecord

variable {records : List WrittenRecord}

theorem getSize_some (records : List WrittenRecord) :
    getSize (some records) = 1 + (records.flatMap WrittenRecord.getRequest).length := by
  have from_ : ∀ start : Int, records.foldl (fun size record => size + record.getRequestSize) start =
      start + (records.flatMap WrittenRecord.getRequest).length := by
    induction records with
    | nil => exact fun start => (Int.add_zero start).symm
    | cons record records ih =>
      intro start
      have size := record.length_getRequest
      rw [List.foldl_cons, ih, List.flatMap_cons, List.length_append]
      omega
  exact from_ 1

theorem getMessage_some (records : List WrittenRecord) :
    getMessage (some records) = .ok (octet (records.flatMap WrittenRecord.getRequest).length ::
      records.flatMap WrittenRecord.getRequest) := by
  have size : getSize (some records) - 1 = (records.flatMap WrittenRecord.getRequest).length := by
    rw [getSize_some]
    omega
  unfold getMessage
  rw [size]
  rfl

theorem run_readData (fits : ∀ record ∈ records, record.Fits) (accepted : ∀ record ∈ records, record.Accepted)
    (size : (records.flatMap WrittenRecord.getRequest).length < 256) (rest : List UInt8) :
    ∃ left, readData.run (octet (records.flatMap WrittenRecord.getRequest).length ::
      (records.flatMap WrittenRecord.getRequest ++ rest)) = .ok (WrittenRecord.reached records, left) ∧
      (WrittenRecord.reached records = records → left = rest) := by
  have announced : FitsOctet (records.flatMap WrittenRecord.getRequest).length := by
    unfold FitsOctet
    omega
  have enough := WrittenRecord.length_le_octets records
  obtain ⟨left, read, whole⟩ := @WrittenRecord.run_readAll records fits accepted rest
    (records.flatMap WrittenRecord.getRequest).length 1 (records.flatMap WrittenRecord.getRequest).length
    (by omega) (by omega)
  refine ⟨left, ?_, whole⟩
  refine (run_then_of_ok (decodes_unsignedByte announced _)).trans ?_
  rw [Int.toNat_natCast]
  exact read

theorem readData_yields : Yields readData fun records => ∀ record ∈ records, record.Accepted :=
  Yields.last fun _ => WrittenRecord.readAll_yields _ _ _

theorem decodes (fits : ∀ record ∈ records, record.Fits) (accepted : ∀ record ∈ records, record.Accepted)
    (words : ∀ record ∈ records.getLast?, record.data ≠ [])
    (size : (records.flatMap WrittenRecord.getRequest).length < 256) :
    Decodes readData (octet (records.flatMap WrittenRecord.getRequest).length ::
      records.flatMap WrittenRecord.getRequest) records := by
  intro rest
  obtain ⟨left, read, whole⟩ := run_readData fits accepted size rest
  rw [WrittenRecord.reached_eq_self.mpr words] at read whole
  rw [whole rfl] at read
  exact read

theorem regular_of_read (fits : ∀ record ∈ records, record.Fits) {message left : List UInt8}
    (laid : getMessage (some records) = .ok message) (size : message.length ≤ 252)
    (read : readData.run message = .ok (records, left)) :
    (∀ record ∈ records, record.Accepted) ∧ ∀ record ∈ records.getLast?, record.data ≠ [] := by
  have accepted := readData_yields _ _ _ read
  rw [getMessage_some] at laid
  cases laid
  rw [List.length_cons] at size
  obtain ⟨left, again, -⟩ := run_readData fits accepted (by omega) []
  rw [List.append_nil] at again
  have same := Except.ok.inj (again.symm.trans read)
  exact ⟨accepted, WrittenRecord.reached_eq_self.mp (congrArg Prod.fst same)⟩

end WriteFileRecord

theorem decodes_counted {Value : Type} {octets : List UInt8} {next : Int → List UInt8 → DataInput Value} {value : Value}
    (announced : FitsOctet octets.length) (later : Decodes (next octets.length octets) [] value) :
    Decodes (do
      let count ← readUnsignedByte
      let read ← readFully count.toNat
      next count read) (octet octets.length :: octets) value := by
  intro rest
  refine (run_then_of_ok (decodes_unsignedByte announced _)).trans ?_
  rw [Int.toNat_natCast]
  exact (run_then_of_ok (decodes_fully octets rest)).trans (later rest)

theorem length_octets {registers : List Register} (size : 2 * registers.length < 256) :
    octet (registers.length * 2) = octet (registers.flatMap Register.toBytes).length ∧
      FitsOctet (registers.flatMap Register.toBytes).length := by
  rw [length_flatMap_toBytes]
  constructor
  · congr 1
    omega
  · unfold FitsOctet
    omega

theorem attempt_registersFrom (registers : List Register) :
    registersFrom registers.length (registers.flatMap Register.toBytes) = .ok registers := by
  simpa only [List.append_nil] using registersFrom_toBytes registers []

theorem WriteMultipleRegistersRequest.decodes {reference : Int} {registers : List Register}
    (fits : FitsWord reference) (size : 2 * registers.length < 256) :
    Decodes readData (getMessage reference (some registers)) (.writeMultipleRegisters reference (some registers)) := by
  obtain ⟨announced, octets⟩ := length_octets size
  have count : FitsWord registers.length := by
    unfold FitsWord
    omega
  change Decodes readData (writeShort reference ++ (writeShort registers.length ++
    (octet (registers.length * 2) :: registers.flatMap Register.toBytes))) _
  rw [announced]
  refine (decodes_unsignedShort fits).bind ((decodes_unsignedShort count).bind (decodes_counted octets ?_))
  rw [Int.toNat_natCast]
  exact (Decodes.attempt (attempt_registersFrom registers)).andReturn fun registers =>
    ModbusRequest.writeMultipleRegisters reference (some registers)

theorem WriteMultipleRegistersRequest.length_getMessage (reference : Int) (registers : List Register) :
    (getMessage reference (some registers)).length = 5 + 2 * registers.length := by
  unfold getMessage
  rw [List.length_append, List.length_cons, length_twoWords, Option.getD_some, length_flatMap_toBytes]
  omega

theorem WriteMultipleCoilsRequest.decodes {reference : Int} {coils : BitVector} (fits : FitsWord reference)
    (count : FitsWord coils.size) (size : coils.byteSize ≤ 247) :
    Decodes readData (getMessage reference coils)
      (.writeMultipleCoils reference { coils with msbAccess := false }, some (coils.byteSize + 7)) := by
  unfold BitVector.byteSize at size
  have octets : FitsOctet coils.data.length := by
    unfold FitsOctet
    omega
  have length : setDataLength (coils.data.length + 5) = .ok (coils.data.length + 7) := by
    unfold setDataLength
    rw [if_neg (by omega), Int.add_assoc]
    rfl
  change Decodes readData (writeShort reference ++ (writeShort coils.size ++
    (octet coils.data.length :: coils.data))) _
  refine (decodes_unsignedShort fits).bind ((decodes_unsignedShort count).bind (decodes_counted octets ?_))
  exact (Decodes.attempt length).andReturn fun length =>
    (ModbusRequest.writeMultipleCoils reference (.createBitVectorOfSize coils.data coils.size), some length)

theorem WriteMultipleCoilsRequest.length_getMessage (reference : Int) (coils : BitVector) :
    (getMessage reference coils).length = 5 + coils.byteSize := by
  unfold getMessage BitVector.byteSize
  rw [List.length_append, List.length_cons, length_twoWords]
  omega

def ReadWriteMultipleRequest.message (readReference readCount writeReference : Int) (registers : List Register) :
    List UInt8 :=
  twoWords readReference readCount ++ (twoWords writeReference registers.length ++
    (octet (registers.length * 2) :: registers.flatMap Register.toBytes))

theorem ReadWriteMultipleRequest.length_message (readReference readCount writeReference : Int)
    (registers : List Register) :
    (message readReference readCount writeReference registers).length = 9 + 2 * registers.length := by
  unfold message
  rw [List.length_append, List.length_append, List.length_cons, length_twoWords, length_twoWords,
    length_flatMap_toBytes]
  omega

theorem ReadWriteMultipleRequest.getMessage_all (readReference readCount writeReference : Int)
    (registers : List Register) :
    getMessage readReference readCount writeReference registers.length (some registers) =
      .ok (message readReference readCount writeReference registers) := by
  unfold getMessage
  rw [if_neg (by omega), if_neg (by omega), firstRegisters_all]
  rfl

theorem ReadWriteMultipleRequest.getMessage_eq_ok {readReference readCount writeReference writeCount : Int}
    {registers : Option (List Register)} {octets : List UInt8}
    (laid : getMessage readReference readCount writeReference writeCount registers = .ok octets) :
    ∃ written : List Register, writeCount = written.length ∧
      octets = message readReference readCount writeReference written := by
  unfold getMessage at laid
  split at laid
  · cases laid
  split at laid
  · cases laid
  next positive =>
    obtain ⟨written, first, laid⟩ := bind_eq_ok.mp laid
    have length := (firstRegisters_eq_ok first (by omega)).1
    have count : writeCount = written.length := by omega
    cases laid
    rw [count]
    exact ⟨written, rfl, rfl⟩

theorem ReadWriteMultipleRequest.decodes {readReference readCount writeReference : Int} {registers : List Register}
    (fits : FitsWord readReference) (fits' : FitsWord readCount) (fits'' : FitsWord writeReference)
    (size : 2 * registers.length < 256) :
    Decodes readData (message readReference readCount writeReference registers)
      (.readWriteMultiple readReference readCount writeReference registers.length (some registers)) := by
  obtain ⟨announced, octets⟩ := length_octets size
  have count : FitsWord registers.length := by
    unfold FitsWord
    omega
  change Decodes readData (writeShort readReference ++ (writeShort readCount ++ (writeShort writeReference ++
    (writeShort registers.length ++ (octet (registers.length * 2) :: registers.flatMap Register.toBytes))))) _
  rw [announced]
  refine (decodes_unsignedShort fits).bind ((decodes_unsignedShort fits').bind ((decodes_unsignedShort fits'').bind
    ((decodes_unsignedShort count).bind (decodes_counted octets ?_))))
  rw [Int.toNat_natCast]
  exact (Decodes.attempt (attempt_registersFrom registers)).andReturn fun registers' =>
    ModbusRequest.readWriteMultiple readReference readCount writeReference registers.length (some registers')

theorem ReadMEIRequest.decodes {level identifier fieldLevel fieldId : Int} (fits : FitsOctet level)
    (fits' : FitsOctet identifier) :
    Decodes (readData fieldLevel fieldId) (getMessage 14 level identifier) (.readMEI 14 level identifier) := by
  have known : Decodes readUnsignedByte [octet 14] 14 := decodes_unsignedByte (by decide)
  refine known.bind ?_
  rw [if_neg (by decide)]
  exact (decodes_unsignedByte fits).bind ((decodes_unsignedByte fits').andReturn (ModbusRequest.readMEI 14 level))

namespace ModbusRequest

def FieldsFit : ModbusRequest → Prop
  | readCoils reference bitCount => FitsWord reference ∧ FitsWord bitCount
  | readInputDiscretes reference bitCount => FitsWord reference ∧ FitsWord bitCount
  | readMultipleRegisters reference wordCount => FitsWord reference ∧ FitsWord wordCount
  | readInputRegisters reference wordCount => FitsWord reference ∧ FitsWord wordCount
  | writeCoil reference _ => FitsWord reference
  | writeSingleRegister reference _ => FitsWord reference
  | writeMultipleCoils reference coils => FitsWord reference ∧ FitsWord coils.size
  | writeMultipleRegisters reference _ => FitsWord reference
  | readSerialDiagnostics function data => FitsWord function ∧ FitsShort data
  | readFileRecord records => ∀ record ∈ records.getD [], record.Fits
  | writeFileRecord records => ∀ record ∈ records.getD [], record.Fits
  | maskWriteRegister reference andMask orMask => FitsWord reference ∧ FitsWord andMask ∧ FitsWord orMask
  | readWriteMultiple readReference readCount writeReference writeCount _ =>
    FitsWord readReference ∧ FitsWord readCount ∧ FitsWord writeReference ∧ FitsWord writeCount
  | readFIFOQueue reference => FitsWord reference
  | readMEI subCode fieldLevel fieldId => FitsOctet subCode ∧ FitsOctet fieldLevel ∧ FitsOctet fieldId
  | _ => True

structure FitsPdu (request : ModbusRequest) : Prop where
  fields : request.FieldsFit
  size : ∀ message, request.getMessage = .ok (some message) → message.length ≤ 252

def blank (request : ModbusRequest) : ModbusRequest := (createModbusRequest (request.functionCode (-1))).body

/-- The arrays are there, and each class gets back what its octets can tell. -/
def Regular : ModbusRequest → Prop
  | writeSingleRegister _ register => register ≠ none
  | writeMultipleCoils _ coils => coils.msbAccess = false
  | writeMultipleRegisters _ registers => registers ≠ none
  | readFileRecord records => ∃ all, records = some all ∧ ∀ record ∈ all, record.recordNumber < 10000
  | writeFileRecord records => ∃ all, records = some all ∧ (∀ record ∈ all, record.Accepted) ∧
      ∀ record ∈ all.getLast?, record.data ≠ []
  | readWriteMultiple _ _ _ writeCount registers => ∃ all, registers = some all ∧ writeCount = all.length
  | readMEI subCode fieldLevel fieldId => subCode = 14 ∨ fieldLevel = 0 ∧ fieldId = 0
  | illegalFunction => False
  | _ => True

def KnownSubCode : ModbusRequest → Prop
  | readMEI subCode _ _ => subCode = 14
  | _ => True

/-- The data length readData records for a message of so many octets, where it records one. -/
def recordedLength (length : Nat) : ModbusRequest → Option Int
  | writeMultipleCoils _ _ => some (length + 2)
  | _ => none

def ReadsBack (request : ModbusRequest) (dataLength : Int) : Prop :=
  ∃ message, request.getMessage = .ok (some message) ∧
    Decodes (request.blank.readData dataLength) message (request, request.recordedLength message.length)

section

variable {request : ModbusRequest} {dataLength : Int}

theorem readsBack_writeSingleRegister {reference : Int} {register : Option Register} (fits : FitsWord reference)
    (regular : (writeSingleRegister reference register).Regular) :
    (writeSingleRegister reference register).ReadsBack dataLength := by
  cases register with
  | none => exact absurd rfl regular
  | some register =>
    refine ⟨_, rfl, ?_⟩
    change Decodes _ (writeShort reference ++ writeShort register.getValue) _
    rw [register.writeShort_getValue]
    exact (decodes_unsignedShort fits).bind ((decodes_register register).andReturn fun read =>
      (writeSingleRegister reference (some read), none))

theorem readsBack_writeMultipleCoils {reference : Int} {coils : BitVector} (fits : (writeMultipleCoils reference coils).FitsPdu)
    (regular : (writeMultipleCoils reference coils).Regular) :
    (writeMultipleCoils reference coils).ReadsBack dataLength := by
  have size := fits.size _ rfl
  rw [WriteMultipleCoilsRequest.length_getMessage] at size
  have decodes := WriteMultipleCoilsRequest.decodes fits.fields.1 fits.fields.2 (by omega)
  have same : { coils with msbAccess := false } = coils := by
    rw [← show coils.msbAccess = false from regular]
  have length : (coils.byteSize + 7 : Int) =
      (WriteMultipleCoilsRequest.getMessage reference coils).length + 2 := by
    rw [WriteMultipleCoilsRequest.length_getMessage]
    omega
  rw [same, length] at decodes
  exact ⟨_, rfl, decodes⟩

theorem readsBack_writeMultipleRegisters {reference : Int} {registers : Option (List Register)}
    (fits : (writeMultipleRegisters reference registers).FitsPdu)
    (regular : (writeMultipleRegisters reference registers).Regular) :
    (writeMultipleRegisters reference registers).ReadsBack dataLength := by
  cases registers with
  | none => exact absurd rfl regular
  | some registers =>
    have size := fits.size _ rfl
    rw [WriteMultipleRegistersRequest.length_getMessage] at size
    exact ⟨_, rfl, (WriteMultipleRegistersRequest.decodes fits.fields (by omega)).andReturn (·, none)⟩

theorem readsBack_readFileRecord {records : Option (List RecordRequest)} (fits : (readFileRecord records).FitsPdu)
    (regular : (readFileRecord records).Regular) : (readFileRecord records).ReadsBack dataLength := by
  obtain ⟨all, rfl, low⟩ := regular
  have size := fits.size _ rfl
  rw [List.length_cons, RecordRequest.length_flatMap_getRequest] at size
  have short : 7 * all.length < 256 := by omega
  exact ⟨_, rfl, (ReadFileRecordRequest.decodes fits.fields low short).andReturn fun records =>
    (readFileRecord (some records), none)⟩

theorem readsBack_writeFileRecord {records : Option (List WrittenRecord)} (fits : (writeFileRecord records).FitsPdu)
    (regular : (writeFileRecord records).Regular) : (writeFileRecord records).ReadsBack dataLength := by
  obtain ⟨all, rfl, accepted, words⟩ := regular
  have message : (writeFileRecord (some all)).getMessage =
      .ok (some (octet (all.flatMap WrittenRecord.getRequest).length :: all.flatMap WrittenRecord.getRequest)) :=
    bind_eq_ok.mpr ⟨_, WriteFileRecord.getMessage_some all, rfl⟩
  have size := fits.size _ message
  rw [List.length_cons] at size
  have short : (all.flatMap WrittenRecord.getRequest).length < 256 := by omega
  exact ⟨_, message, (WriteFileRecord.decodes fits.fields accepted words short).andReturn fun records =>
    (writeFileRecord (some records), none)⟩

theorem readsBack_readWriteMultiple {readReference readCount writeReference writeCount : Int}
    {registers : Option (List Register)}
    (fits : (readWriteMultiple readReference readCount writeReference writeCount registers).FitsPdu)
    (regular : (readWriteMultiple readReference readCount writeReference writeCount registers).Regular) :
    (readWriteMultiple readReference readCount writeReference writeCount registers).ReadsBack dataLength := by
  obtain ⟨all, rfl, rfl⟩ := regular
  have message : (readWriteMultiple readReference readCount writeReference all.length (some all)).getMessage =
      .ok (some (ReadWriteMultipleRequest.message readReference readCount writeReference all)) :=
    bind_eq_ok.mpr ⟨_, ReadWriteMultipleRequest.getMessage_all readReference readCount writeReference all, rfl⟩
  have size := fits.size _ message
  rw [ReadWriteMultipleRequest.length_message] at size
  obtain ⟨read, count, write, -⟩ := fits.fields
  exact ⟨_, message, (ReadWriteMultipleRequest.decodes read count write (by omega)).andReturn (·, none)⟩

theorem readsBack_of_regular (fits : request.FitsPdu) (regular : request.Regular) (known : request.KnownSubCode) :
    request.ReadsBack dataLength := by
  cases request with
  | readCoils reference bitCount => exact ⟨_, rfl, decodes_twoWords _ fits.fields.1 fits.fields.2⟩
  | readInputDiscretes reference bitCount => exact ⟨_, rfl, decodes_twoWords _ fits.fields.1 fits.fields.2⟩
  | readMultipleRegisters reference wordCount => exact ⟨_, rfl, decodes_twoWords _ fits.fields.1 fits.fields.2⟩
  | readInputRegisters reference wordCount => exact ⟨_, rfl, decodes_twoWords _ fits.fields.1 fits.fields.2⟩
  | writeCoil reference coil =>
    exact ⟨_, rfl, (decodes_unsignedShort fits.fields).bind
      (decodes_coilBytes (fun coil => (writeCoil reference coil, none)) coil)⟩
  | writeSingleRegister reference register => exact readsBack_writeSingleRegister fits.fields regular
  | writeMultipleCoils reference coils => exact readsBack_writeMultipleCoils fits regular
  | writeMultipleRegisters reference registers => exact readsBack_writeMultipleRegisters fits regular
  | readExceptionStatus => exact ⟨_, rfl, Decodes.pure _⟩
  | readSerialDiagnostics function data =>
    exact ⟨_, rfl, (decodes_unsignedShort fits.fields.1).bind
      ((decodes_short fits.fields.2).andReturn fun data => (readSerialDiagnostics function data, none))⟩
  | readCommEventCounter => exact ⟨_, rfl, Decodes.pure _⟩
  | readCommEventLog => exact ⟨_, rfl, Decodes.pure _⟩
  | reportSlaveID => exact ⟨_, rfl, Decodes.pure _⟩
  | readFileRecord records => exact readsBack_readFileRecord fits regular
  | writeFileRecord records => exact readsBack_writeFileRecord fits regular
  | maskWriteRegister reference andMask orMask =>
    exact ⟨_, rfl, decodes_threeWords _ fits.fields.1 fits.fields.2.1 fits.fields.2.2⟩
  | readWriteMultiple readReference readCount writeReference writeCount registers =>
    exact readsBack_readWriteMultiple fits regular
  | readFIFOQueue reference =>
    exact ⟨_, rfl, (decodes_unsignedShort fits.fields).andReturn fun reference => (readFIFOQueue reference, none)⟩
  | readMEI subCode fieldLevel fieldId =>
    obtain rfl : subCode = 14 := known
    exact ⟨_, rfl, (ReadMEIRequest.decodes fits.fields.2.1 fits.fields.2.2).andReturn (·, none)⟩
  | illegalFunction => exact regular.elim

def ReadsSelf (request : ModbusRequest) (dataLength : Int) : Prop :=
  ∃ message recorded left, request.getMessage = .ok (some message) ∧
    (request.blank.readData dataLength).run message = .ok ((request, recorded), left)

theorem readsSelf_of_unknownSubCode {subCode : Int} (fits : FitsOctet subCode) (unknown : subCode ≠ 14) :
    (readMEI subCode 0 0).ReadsSelf dataLength := by
  refine ⟨_, none, [], rfl, ?_⟩
  change (ReadMEIRequest.readData 0 0 >>= fun request => pure (request, none)).run _ = _
  refine run_then_of_ok ((run_then_of_ok (decodes_unsignedByte fits [octet 0, octet 0])).trans ?_)
  rw [if_pos unknown]
  rfl

theorem readsSelf_of_regular (fits : request.FitsPdu) (regular : request.Regular) : request.ReadsSelf dataLength := by
  by_cases known : request.KnownSubCode
  · obtain ⟨message, written, decodes⟩ := readsBack_of_regular fits regular known
    exact ⟨message, _, [], written, decodes.run⟩
  · cases request with
    | readMEI subCode fieldLevel fieldId =>
      obtain ⟨rfl, rfl⟩ := regular.resolve_left known
      exact readsSelf_of_unknownSubCode fits.fields.1 known
    | _ => exact absurd trivial known

section Itself

variable {octets left : List UInt8} {recorded : Option Int}

theorem regular_of_writeMultipleCoils {reference : Int} {coils : BitVector}
    (fits : (writeMultipleCoils reference coils).FitsPdu)
    (written : (writeMultipleCoils reference coils).getMessage = .ok (some octets))
    (read : ((writeMultipleCoils reference coils).blank.readData dataLength).run octets =
      .ok ((writeMultipleCoils reference coils, recorded), left)) :
    (writeMultipleCoils reference coils).Regular := by
  have size := fits.size _ written
  cases written
  rw [WriteMultipleCoilsRequest.length_getMessage] at size
  have decodes := WriteMultipleCoilsRequest.decodes fits.fields.1 fits.fields.2 (by omega)
  have same := congrArg Prod.fst (decodes.unique_run read).1
  exact congrArg BitVector.msbAccess (writeMultipleCoils.inj same).2

theorem regular_of_writeMultipleRegisters {reference : Int} {registers : Option (List Register)}
    (fits : (writeMultipleRegisters reference registers).FieldsFit)
    (written : (writeMultipleRegisters reference registers).getMessage = .ok (some octets))
    (read : ((writeMultipleRegisters reference registers).blank.readData dataLength).run octets =
      .ok ((writeMultipleRegisters reference registers, recorded), left)) :
    (writeMultipleRegisters reference registers).Regular := by
  intro none
  rw [none] at written read
  cases written
  have decodes : Decodes _ (WriteMultipleRegistersRequest.getMessage reference (some [])) _ :=
    (WriteMultipleRegistersRequest.decodes fits (by decide)).andReturn (·, (Option.none : Option Int))
  have same := congrArg Prod.fst (decodes.unique_run read).1
  nomatch same

theorem regular_of_writeFileRecord {records : Option (List WrittenRecord)} (fits : (writeFileRecord records).FitsPdu)
    (written : (writeFileRecord records).getMessage = .ok (some octets))
    (read : ((writeFileRecord records).blank.readData dataLength).run octets =
      .ok ((writeFileRecord records, recorded), left)) :
    (writeFileRecord records).Regular := by
  cases records with
  | none => nomatch written
  | some all =>
    have size := fits.size _ written
    obtain ⟨laid, first, last⟩ := bind_eq_ok.mp written
    cases last
    obtain ⟨middle, taken, last⟩ := bind_eq_ok.mp read
    cases last
    exact ⟨_, rfl, WriteFileRecord.regular_of_read fits.fields first size taken⟩

theorem regular_of_readWriteMultiple {readReference readCount writeReference writeCount : Int}
    {registers : Option (List Register)}
    (fits : (readWriteMultiple readReference readCount writeReference writeCount registers).FitsPdu)
    (written : (readWriteMultiple readReference readCount writeReference writeCount registers).getMessage =
      .ok (some octets))
    (read : ((readWriteMultiple readReference readCount writeReference writeCount registers).blank.readData
      dataLength).run octets =
        .ok ((readWriteMultiple readReference readCount writeReference writeCount registers, recorded), left)) :
    (readWriteMultiple readReference readCount writeReference writeCount registers).Regular := by
  have size := fits.size _ written
  obtain ⟨laid, first, last⟩ := bind_eq_ok.mp written
  cases last
  obtain ⟨all, rfl, rfl⟩ := ReadWriteMultipleRequest.getMessage_eq_ok first
  rw [ReadWriteMultipleRequest.length_message] at size
  obtain ⟨readFits, countFits, writeFits, -⟩ := fits.fields
  have decodes := @ReadWriteMultipleRequest.decodes _ _ _ all readFits countFits writeFits (by omega)
  have decodes := decodes.andReturn fun request => (request, (none : Option Int))
  have same := congrArg Prod.fst (decodes.unique_run read).1
  exact ⟨all, (readWriteMultiple.inj same).2.2.2.2, rfl⟩

theorem regular_of_readMEI {subCode fieldLevel fieldId : Int} (fits : FitsOctet subCode)
    (written : (readMEI subCode fieldLevel fieldId).getMessage = .ok (some octets))
    (read : ((readMEI subCode fieldLevel fieldId).blank.readData dataLength).run octets =
      .ok ((readMEI subCode fieldLevel fieldId, recorded), left)) :
    (readMEI subCode fieldLevel fieldId).Regular := by
  by_cases known : subCode = 14
  · exact .inl known
  -- readData returns behind an unknown sub code, with level and identifier of a new object
  right
  cases written
  obtain ⟨middle, first, last⟩ := bind_eq_ok.mp read
  have kept : middle.1 = readMEI subCode fieldLevel fieldId :=
    congrArg (fun (result : (ModbusRequest × Option Int) × List UInt8) => result.1.1) (Except.ok.inj last)
  have read := (run_then_of_ok (decodes_unsignedByte fits [octet fieldLevel, octet fieldId])).symm.trans first
  rw [if_pos known] at read
  have same := (congrArg Prod.fst (Except.ok.inj read)).trans kept
  exact ⟨(readMEI.inj same).2.1.symm, (readMEI.inj same).2.2.symm⟩

end Itself

theorem regular_of_readsSelf (fits : request.FitsPdu) (self : request.ReadsSelf dataLength) : request.Regular := by
  obtain ⟨message, recorded, left, written, read⟩ := self
  cases request with
  | writeSingleRegister reference register =>
    intro none
    rw [none] at written
    nomatch written
  | writeMultipleCoils reference coils => exact regular_of_writeMultipleCoils fits written read
  | writeMultipleRegisters reference registers => exact regular_of_writeMultipleRegisters fits.fields written read
  | readFileRecord records =>
    cases records with
    | none => nomatch written
    | some all =>
      obtain ⟨middle, first, last⟩ := bind_eq_ok.mp read
      cases last
      exact ⟨_, rfl, ReadFileRecordRequest.readData_yields _ _ _ first⟩
  | writeFileRecord records => exact regular_of_writeFileRecord fits written read
  | readWriteMultiple readReference readCount writeReference writeCount registers =>
    exact regular_of_readWriteMultiple fits written read
  | readMEI subCode fieldLevel fieldId => exact regular_of_readMEI fits.fields.1 written read
  | illegalFunction => nomatch written
  | _ => trivial

theorem readsSelf_iff (fits : request.FitsPdu) : request.ReadsSelf dataLength ↔ request.Regular :=
  ⟨regular_of_readsSelf fits, readsSelf_of_regular fits⟩

end

end ModbusRequest

end EtherNetIP.Modbus
