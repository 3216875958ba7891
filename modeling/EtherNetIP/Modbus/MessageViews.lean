import EtherNetIP.Modbus.ResponseRoundTrip

/-! The three views of every Modbus request.

A message has its fields and a data length, which a constructor, the methods that
give the message its fields and readData record. The views agree where the octets
tell the fields and their number is the length; then it is asked which calls
record that length.
-/

set_option autoImplicit false

namespace EtherNetIP.Modbus

open EtherNetIP.Library

section Fields

/-- What is written, what is laid out and the length recorded agree, and the class reads the message back, its
length included. -/
def ModbusMessage.RequestViewsAgree (request : ModbusMessage ModbusRequest) : Prop :=
  ∃ octets read, request.body.getMessage = .ok (some octets) ∧ request.body.writeData = .ok octets ∧
    request.dataLength = octets.length + 2 ∧ read.getD request.dataLength = request.dataLength ∧
    Decodes (request.body.blank.readData request.dataLength) octets (request.body, read)

namespace ModbusRequest

variable {request : ModbusRequest} {dataLength : Int} {octets : List UInt8}

def octetCount : ModbusRequest → Int
  | writeMultipleCoils _ coils => 5 + coils.byteSize
  | writeMultipleRegisters _ registers => 5 + 2 * (registers.getD []).length
  | readExceptionStatus | readCommEventCounter | readCommEventLog | reportSlaveID | illegalFunction => 0
  | readFileRecord records => 1 + 7 * (records.getD []).length
  | writeFileRecord records => WriteFileRecord.getSize records
  | maskWriteRegister _ _ _ => 6
  | readWriteMultiple _ _ _ writeCount _ => 9 + 2 * writeCount
  | readFIFOQueue _ => 2
  | readMEI _ _ _ => 3
  | _ => 4

structure Consistent (request : ModbusRequest) (dataLength : Int) : Prop where
  regular : request.Regular
  known : request.KnownSubCode
  length : dataLength = request.octetCount + 2

theorem length_getMessage (laid : request.getMessage = .ok (some octets)) : octets.length = request.octetCount := by
  cases request with
  | writeCoil reference coil =>
    cases laid
    cases coil <;> rfl
  | writeSingleRegister reference register =>
    cases register with
    | none => nomatch laid
    | some register =>
      cases laid
      rfl
  | writeMultipleCoils reference coils =>
    cases laid
    rw [WriteMultipleCoilsRequest.length_getMessage]
    exact Int.natCast_add 5 coils.byteSize
  | writeMultipleRegisters reference registers =>
    cases laid
    have size := WriteMultipleRegistersRequest.length_getMessage reference (registers.getD [])
    have same : WriteMultipleRegistersRequest.getMessage reference (some (registers.getD [])) =
        WriteMultipleRegistersRequest.getMessage reference registers := by cases registers <;> rfl
    rw [same] at size
    simp only [octetCount]
    omega
  | readFileRecord records =>
    cases records with
    | none => nomatch laid
    | some records =>
      cases laid
      have size := RecordRequest.length_flatMap_getRequest records
      rw [List.length_cons, size]
      simp only [octetCount, Option.getD_some]
      omega
  | writeFileRecord records =>
    cases records with
    | none => nomatch laid
    | some records =>
      obtain ⟨message, first, last⟩ := bind_eq_ok.mp laid
      rw [WriteFileRecord.getMessage_some] at first
      cases first
      cases last
      rw [List.length_cons]
      exact (Nat.cast_succ _).trans ((Int.add_comm _ 1).trans (WriteFileRecord.getSize_some records).symm)
  | readWriteMultiple readReference readCount writeReference writeCount registers =>
    obtain ⟨message, first, last⟩ := bind_eq_ok.mp laid
    cases last
    obtain ⟨written, rfl, rfl⟩ := ReadWriteMultipleRequest.getMessage_eq_ok first
    rw [ReadWriteMultipleRequest.length_message]
    simp only [octetCount]
    omega
  | illegalFunction => nomatch laid
  | _ =>
    cases laid
    rfl

theorem writeData_of_getMessage (laid : request.getMessage = .ok (some octets)) : request.writeData = .ok octets := by
  cases request with
  | writeSingleRegister reference register =>
    cases register with
    | none => nomatch laid
    | some register =>
      cases laid
      change Except.ok (writeShort reference ++ register.toBytes) = .ok (writeShort reference ++ writeShort _)
      rw [register.writeShort_getValue]
  | illegalFunction => nomatch laid
  | _ =>
    first
    | exact bind_eq_ok.mpr ⟨_, laid, rfl⟩
    | cases laid; rfl

/-- With an unknown sub code the octets of the next message are skipped as well. -/
theorem knownSubCode_of_decodes {read : Option Int} (fits : request.FitsPdu) (regular : request.Regular)
    (laid : request.getMessage = .ok (some octets))
    (decodes : Decodes (request.blank.readData dataLength) octets (request, read)) : request.KnownSubCode := by
  cases request with
  | readMEI subCode fieldLevel fieldId =>
    by_contra other
    have unknown : subCode ≠ 14 := other
    obtain ⟨rfl, rfl⟩ := regular.resolve_left unknown
    cases laid
    have skipped : (ReadMEIRequest.readData 0 0).run (ReadMEIRequest.getMessage subCode 0 0 ++ [0]) =
        .ok (readMEI subCode 0 0, []) := by
      refine (run_then_of_ok (decodes_unsignedByte fits.fields.1 [octet 0, octet 0, 0])).trans ?_
      rw [if_pos unknown]
      rfl
    obtain ⟨⟨middle, left⟩, taken, last⟩ := bind_eq_ok.mp (decodes [0])
    cases skipped.symm.trans taken
    cases last
  | _ => trivial

end ModbusRequest

theorem ModbusMessage.requestViewsAgree_iff {request : ModbusMessage ModbusRequest} (fits : request.body.FitsPdu) :
    request.RequestViewsAgree ↔ request.body.Consistent request.dataLength := by
  constructor
  · rintro ⟨octets, read, laid, -, length, -, decodes⟩
    have regular := ModbusRequest.regular_of_readsSelf fits ⟨octets, read, [], laid, decodes.run⟩
    exact ⟨regular, ModbusRequest.knownSubCode_of_decodes fits regular laid decodes,
      ModbusRequest.length_getMessage laid ▸ length⟩
  · rintro ⟨regular, known, length⟩
    obtain ⟨octets, laid, decodes⟩ := @ModbusRequest.readsBack_of_regular _ request.dataLength fits regular known
    rw [← ModbusRequest.length_getMessage laid] at length
    have kept : (request.body.recordedLength octets.length).getD request.dataLength = request.dataLength := by
      cases request.body with
      | writeMultipleCoils reference coils => exact length.symm
      | _ => rfl
    exact ⟨octets, _, laid, ModbusRequest.writeData_of_getMessage laid, length, kept, decodes⟩

end Fields

/-- The records of a message with its recorded length, after addRequest or addResponse has added one. -/
def addRecord {Record : Type} (sizeOf : Option (List Record) → Int) (size : Record → Int)
    (built : Option (List Record) × Int) (record : Record) : Except Throwable (Option (List Record) × Int) :=
  if size record + sizeOf built.1 > 248 then .error .illegalArgumentException
  else do
    let records := some (built.1.getD [] ++ [record])
    let length ← setDataLength (sizeOf records)
    return (records, length)

namespace ReadFileRecordRequest

def addRequest := addRecord getRequestSize RecordRequest.getRequestSize

end ReadFileRecordRequest

namespace WriteFileRecord

def addOne := addRecord getSize WrittenRecord.getRequestSize

end WriteFileRecord

/-- The calls that make a request. A vector of coils keeps the number of its octets, whatever is set in it; what
setCoils, setRegisters or setWriteWordCount put in place afterwards is an option. -/
inductive RequestCalls where
  | readCoils (reference bitCount : Int)
  | readInputDiscretes (reference bitCount : Int)
  | readMultipleRegisters (reference wordCount : Int)
  | readInputRegisters (reference wordCount : Int)
  | writeCoil (reference : Int) (coil : Bool)
  | writeSingleRegister (reference : Int) (register : Option Register)
  | writeMultipleCoils (reference : Int) (coils : BitVector) (setCoils : Option BitVector)
  | emptyWriteMultipleCoils (reference : Int) (setCoils : Option BitVector)
  | writeMultipleRegisters (reference : Int) (registers : Option (List Register))
  | readExceptionStatus
  | readSerialDiagnostics (function data : Int)
  | readCommEventCounter
  | readCommEventLog
  | reportSlaveID
  | readFileRecord (records : List RecordRequest)
  | writeFileRecord (records : List WrittenRecord)
  | maskWriteRegister (reference andMask orMask : Int)
  | readWriteMultiple (readReference readCount writeReference writeCount : Int)
      (setRegisters : Option (List Register)) (setWriteWordCount : Option Int)
  | emptyReadWriteMultiple (readReference readCount writeReference : Int) (setRegisters : Option (List Register))
      (setWriteWordCount : Option Int)
  | readFIFOQueue (reference : Int)
  | readMEI (fieldLevel fieldId : Int)
  | illegalFunction (function : Int)

namespace RequestCalls

def recorded (length : Int) (body : ModbusRequest) (function : Int) : Except Throwable (ModbusMessage ModbusRequest) := do
  let dataLength ← setDataLength length
  return { dataLength, functionCode := body.functionCode function, body }

def build : RequestCalls → Except Throwable (ModbusMessage ModbusRequest)
  | readCoils reference bitCount =>
    if bitCount > 2000 then .error .illegalArgumentException else recorded 4 (.readCoils reference bitCount) 0
  | readInputDiscretes reference bitCount => recorded 4 (.readInputDiscretes reference bitCount) 0
  | readMultipleRegisters reference wordCount => recorded 4 (.readMultipleRegisters reference wordCount) 0
  | readInputRegisters reference wordCount => recorded 4 (.readInputRegisters reference wordCount) 0
  | writeCoil reference coil => recorded 4 (.writeCoil reference coil) 0
  | writeSingleRegister reference register => recorded 4 (.writeSingleRegister reference register) 0
  | writeMultipleCoils reference coils setCoils =>
    recorded (coils.byteSize + 5) (.writeMultipleCoils reference (setCoils.getD coils)) 0
  | emptyWriteMultipleCoils reference setCoils =>
    recorded 5 (.writeMultipleCoils reference (setCoils.getD ⟨1, [0], false⟩)) 0
  | writeMultipleRegisters reference registers =>
    recorded (5 + (registers.getD []).length * 2) (.writeMultipleRegisters reference registers) 0
  | readExceptionStatus => recorded 0 .readExceptionStatus 0
  | readSerialDiagnostics function data => recorded 4 (.readSerialDiagnostics function data) 0
  | readCommEventCounter => recorded 0 .readCommEventCounter 0
  | readCommEventLog => recorded 0 .readCommEventLog 0
  | reportSlaveID => recorded 0 .reportSlaveID 0
  | readFileRecord records => do
    let (built, dataLength) ← records.foldlM ReadFileRecordRequest.addRequest (none, 3)
    return { dataLength, functionCode := FunctionCode.readFileRecord, body := .readFileRecord built }
  | writeFileRecord records => do
    let (built, dataLength) ← records.foldlM WriteFileRecord.addOne (none, 3)
    return { dataLength, functionCode := FunctionCode.writeFileRecord, body := .writeFileRecord built }
  | maskWriteRegister reference andMask orMask => recorded 6 (.maskWriteRegister reference andMask orMask) 0
  | readWriteMultiple readReference readCount writeReference writeCount setRegisters setWriteWordCount =>
    let registers := setRegisters.getD (List.replicate writeCount.toNat ⟨0, 0⟩)
    let counted := if setRegisters.isSome then (registers.length : Int) else writeCount
    if writeCount < 0 then .error .negativeArraySizeException else
      recorded (9 + writeCount * 2) (.readWriteMultiple readReference readCount writeReference
        (setWriteWordCount.getD counted) (some registers)) 0
  | emptyReadWriteMultiple readReference readCount writeReference setRegisters setWriteWordCount =>
    recorded 9 (.readWriteMultiple readReference readCount writeReference
      (setWriteWordCount.getD (setRegisters.getD []).length) setRegisters) 0
  | readFIFOQueue reference => recorded 2 (.readFIFOQueue reference) 0
  | readMEI fieldLevel fieldId => recorded 3 (.readMEI 14 fieldLevel fieldId) 0
  | illegalFunction function => .ok { functionCode := function, body := .illegalFunction }

/-- The calls that make a request whose three views agree. -/
def Consistent : RequestCalls → Prop
  | writeSingleRegister _ register => register ≠ none
  | writeMultipleCoils _ coils setCoils =>
    (setCoils.getD coils).byteSize = coils.byteSize ∧ (setCoils.getD coils).msbAccess = false
  | emptyWriteMultipleCoils _ setCoils => ∃ coils, setCoils = some coils ∧ coils.byteSize = 0 ∧ coils.msbAccess = false
  | writeMultipleRegisters _ registers => registers ≠ none
  | readFileRecord records => records ≠ [] ∧ ∀ record ∈ records, record.wordCount = 0 ∧ record.recordNumber < 10000
  | writeFileRecord records => records ≠ [] ∧ (∀ record ∈ records, record.recordNumber < 10000) ∧
      ∀ record ∈ records.getLast?, record.data ≠ []
  | readWriteMultiple _ _ _ writeCount setRegisters setWriteWordCount =>
    (∀ registers ∈ setRegisters, writeCount = registers.length) ∧ ∀ count ∈ setWriteWordCount, count = writeCount
  | emptyReadWriteMultiple _ _ _ setRegisters setWriteWordCount =>
    setRegisters = some [] ∧ ∀ count ∈ setWriteWordCount, count = 0
  | illegalFunction _ => False
  | _ => True

end RequestCalls

theorem setDataLength_eq_ok {length recorded : Int} (set : setDataLength length = .ok recorded) :
    recorded = length + 2 := by
  unfold setDataLength at set
  split at set
  · cases set
  · cases set
    rfl

section Records

variable {Record : Type} {sizeOf : Option (List Record) → Int} {size : Record → Int} {records front : List Record}
  {built : Option (List Record)} {length start dataLength : Int}

theorem foldlM_addRecord (recorded : length = sizeOf (some front) + 2)
    (added : records.foldlM (addRecord sizeOf size) (some front, length) = .ok (built, dataLength)) :
    built = some (front ++ records) ∧ dataLength = sizeOf (some (front ++ records)) + 2 := by
  induction records generalizing front length with
  | nil =>
    cases added
    rw [List.append_nil]
    exact ⟨rfl, recorded⟩
  | cons record records ih =>
    rw [List.foldlM_cons] at added
    obtain ⟨⟨middle, middleLength⟩, first, added⟩ := bind_eq_ok.mp added
    unfold addRecord at first
    split at first
    · cases first
    · obtain ⟨recorded, set, last⟩ := bind_eq_ok.mp first
      cases last
      obtain ⟨rfl, rfl⟩ := ih (setDataLength_eq_ok set) added
      simp only [Option.getD_some, List.append_assoc, List.singleton_append, and_self]

theorem built_of_added
    (added : records.foldlM (addRecord sizeOf size) (none, start) = .ok (built, dataLength)) :
    records = [] ∧ built = none ∨ records ≠ [] ∧ built = some records ∧ dataLength = sizeOf (some records) + 2 := by
  cases records with
  | nil =>
    cases added
    exact .inl ⟨rfl, rfl⟩
  | cons record records =>
    rw [List.foldlM_cons] at added
    obtain ⟨⟨middle, middleLength⟩, first, added⟩ := bind_eq_ok.mp added
    unfold addRecord at first
    split at first
    · cases first
    · obtain ⟨recorded, set, last⟩ := bind_eq_ok.mp first
      cases last
      obtain ⟨rfl, rfl⟩ := foldlM_addRecord (setDataLength_eq_ok set) added
      exact .inr ⟨List.cons_ne_nil _ _, rfl, rfl⟩

theorem size_of_added (positive : ∀ records, 1 ≤ sizeOf records) {start : Option (List Record) × Int}
    {result : Option (List Record) × Int} (added : records.foldlM (addRecord sizeOf size) start = .ok result) :
    ∀ record ∈ records, size record ≤ 247 := by
  induction records generalizing start with
  | nil => exact fun record member => nomatch member
  | cons record records ih =>
    rw [List.foldlM_cons] at added
    obtain ⟨middle, first, added⟩ := bind_eq_ok.mp added
    intro other member
    rcases List.mem_cons.mp member with rfl | member
    · unfold addRecord at first
      split at first
      · cases first
      next small =>
        have least := positive start.1
        omega
    · exact ih added other member

end Records

theorem WriteFileRecord.one_le_getSize (records : Option (List WrittenRecord)) : 1 ≤ getSize records := by
  cases records with
  | none => exact Int.le_refl 1
  | some records =>
    rw [getSize_some]
    omega

theorem ReadFileRecordRequest.getRequestSize_some (records : List RecordRequest) :
    getRequestSize (some records) = 1 + 7 * records.length + 2 * (records.map RecordRequest.wordCount).sum := by
  have from_ : ∀ start : Int, records.foldl (fun size record => size + record.getRequestSize) start =
      start + 7 * records.length + 2 * (records.map RecordRequest.wordCount).sum := by
    induction records with
    | nil => exact fun start => (by simp)
    | cons record records ih =>
      intro start
      rw [List.foldl_cons, ih, List.map_cons, List.sum_cons, List.length_cons]
      unfold RecordRequest.getRequestSize
      omega
  exact from_ 1

theorem sum_eq_zero_iff {counts : List Int} (positive : ∀ count ∈ counts, 0 ≤ count) :
    0 ≤ counts.sum ∧ (counts.sum = 0 ↔ ∀ count ∈ counts, count = 0) := by
  induction counts with
  | nil => exact ⟨Int.le_refl 0, iff_of_true rfl fun count member => nomatch member⟩
  | cons count counts ih =>
    obtain ⟨least, rest⟩ := ih fun other member => positive other (List.mem_cons_of_mem _ member)
    have first := positive count List.mem_cons_self
    rw [List.sum_cons, List.forall_mem_cons, ← rest]
    omega

namespace RequestCalls

variable {calls : RequestCalls} {request : ModbusMessage ModbusRequest}

theorem recorded_eq_ok {length : Int} {body : ModbusRequest} {function : Int}
    (built : recorded length body function = .ok request) :
    request = { dataLength := length + 2, functionCode := body.functionCode function, body } := by
  obtain ⟨dataLength, set, built⟩ := bind_eq_ok.mp built
  cases built
  rw [setDataLength_eq_ok set]

theorem recorded_consistent_iff {length : Int} {body : ModbusRequest} {function : Int}
    (built : recorded length body function = .ok request) :
    request.body.Consistent request.dataLength ↔ body.Regular ∧ body.KnownSubCode ∧ length = body.octetCount := by
  cases recorded_eq_ok built
  constructor
  · rintro ⟨regular, known, same⟩
    have same : length + 2 = body.octetCount + 2 := same
    exact ⟨regular, known, by omega⟩
  · rintro ⟨regular, known, rfl⟩
    exact ⟨regular, known, rfl⟩

/-- A class whose octets tell everything and are of a constant number. -/
theorem recorded_consistent {length : Int} {body : ModbusRequest} {function : Int}
    (built : recorded length body function = .ok request) (regular : body.Regular) (known : body.KnownSubCode)
    (same : length = body.octetCount) : request.body.Consistent request.dataLength :=
  (recorded_consistent_iff built).mpr ⟨regular, known, same⟩

theorem readCoils_consistent {reference bitCount : Int} (built : (readCoils reference bitCount).build = .ok request) :
    request.body.Consistent request.dataLength := by
  change (if _ then _ else _) = _ at built
  split at built
  · cases built
  · exact recorded_consistent built trivial trivial rfl

theorem writeMultipleCoils_consistent_iff {reference : Int} {coils : BitVector} {setCoils : Option BitVector}
    (built : (writeMultipleCoils reference coils setCoils).build = .ok request) :
    request.body.Consistent request.dataLength ↔ (writeMultipleCoils reference coils setCoils).Consistent := by
  rw [recorded_consistent_iff built]
  simp only [ModbusRequest.octetCount]
  unfold Consistent
  constructor
  · rintro ⟨lsb, -, length⟩
    exact ⟨by omega, lsb⟩
  · rintro ⟨same, lsb⟩
    exact ⟨lsb, trivial, by omega⟩

/-- The vector made before any is set has one octet, which is not recorded. -/
theorem emptyWriteMultipleCoils_consistent_iff {reference : Int} {setCoils : Option BitVector}
    (built : (emptyWriteMultipleCoils reference setCoils).build = .ok request) :
    request.body.Consistent request.dataLength ↔ (emptyWriteMultipleCoils reference setCoils).Consistent := by
  rw [recorded_consistent_iff built]
  simp only [ModbusRequest.octetCount]
  unfold Consistent
  cases setCoils with
  | none =>
    refine iff_of_false (fun agree => ?_) fun consistent => ?_
    · have one : (Option.getD (none : Option BitVector) ⟨1, [0], false⟩).byteSize = 1 := rfl
      have length := agree.2.2
      omega
    · obtain ⟨coils, none, -⟩ := consistent
      cases none
  | some coils =>
    constructor
    · rintro ⟨lsb, -, length⟩
      dsimp only [Option.getD_some] at length
      exact ⟨coils, rfl, by omega, lsb⟩
    · rintro ⟨found, same, empty, lsb⟩
      cases same
      refine ⟨lsb, trivial, ?_⟩
      dsimp only [Option.getD_some]
      omega

theorem writeMultipleRegisters_consistent_iff {reference : Int} {registers : Option (List Register)}
    (built : (writeMultipleRegisters reference registers).build = .ok request) :
    request.body.Consistent request.dataLength ↔ (writeMultipleRegisters reference registers).Consistent := by
  rw [recorded_consistent_iff built]
  have size : (5 + (registers.getD []).length * 2 : Int) = 5 + 2 * (registers.getD []).length := by omega
  exact and_iff_left ⟨trivial, size⟩

/-- The size recorded counts the words that are to be read. -/
theorem readFileRecord_consistent_iff {records : List RecordRequest}
    (built : (readFileRecord records).build = .ok request) (fits : request.body.FitsPdu) :
    request.body.Consistent request.dataLength ↔ (readFileRecord records).Consistent := by
  obtain ⟨⟨found, dataLength⟩, added, built⟩ := bind_eq_ok.mp built
  cases built
  rcases built_of_added added with ⟨rfl, rfl⟩ | ⟨some_, rfl, rfl⟩
  · exact iff_of_false (fun agree => nomatch agree.regular) fun consistent => consistent.1 rfl
  have words : ∀ count ∈ records.map RecordRequest.wordCount, 0 ≤ count := by
    intro count member
    obtain ⟨record, original, rfl⟩ := List.mem_map.mp member
    exact (fits.fields record original).count.1
  have sum := (sum_eq_zero_iff words).2
  rw [List.forall_mem_map] at sum
  have size := ReadFileRecordRequest.getRequestSize_some records
  have octets : (ModbusRequest.readFileRecord (some records)).octetCount = 1 + 7 * records.length := rfl
  constructor
  · rintro ⟨⟨all, same, low⟩, -, length⟩
    cases same
    rw [octets] at length
    dsimp only at length
    exact ⟨some_, fun record member => ⟨sum.mp (by omega) record member, low record member⟩⟩
  · rintro ⟨-, consistent⟩
    have none := sum.mpr fun record member => (consistent record member).1
    refine ⟨⟨records, rfl, fun record member => (consistent record member).2⟩, trivial, ?_⟩
    rw [octets]
    dsimp only
    omega

theorem writeFileRecord_consistent_iff {records : List WrittenRecord}
    (built : (writeFileRecord records).build = .ok request) :
    request.body.Consistent request.dataLength ↔ (writeFileRecord records).Consistent := by
  obtain ⟨⟨found, dataLength⟩, added, built⟩ := bind_eq_ok.mp built
  cases built
  have small := size_of_added (fun records => WriteFileRecord.one_le_getSize records) added
  rcases built_of_added added with ⟨rfl, rfl⟩ | ⟨some_, rfl, rfl⟩
  · exact iff_of_false (fun agree => nomatch agree.regular) fun consistent => consistent.1 rfl
  constructor
  · rintro ⟨⟨all, same, accepted, last⟩, -⟩
    cases same
    exact ⟨some_, fun record member => (accepted record member).number, last⟩
  · rintro ⟨-, low, last⟩
    have accepted : ∀ record ∈ records, record.Accepted := by
      intro record member
      have fitting := small record member
      unfold WrittenRecord.getRequestSize at fitting
      exact ⟨low record member, by omega⟩
    exact ⟨⟨records, rfl, accepted, last⟩, trivial, rfl⟩

theorem counted_consistent_iff {readReference readCount writeReference count length : Int}
    {registers : Option (List Register)}
    (built : recorded (9 + length * 2) (.readWriteMultiple readReference readCount writeReference count registers) 0 =
      .ok request) :
    request.body.Consistent request.dataLength ↔
      ∃ all, registers = some all ∧ count = all.length ∧ length = all.length := by
  rw [recorded_consistent_iff built]
  simp only [ModbusRequest.octetCount]
  constructor
  · rintro ⟨⟨all, rfl, rfl⟩, -, same⟩
    exact ⟨all, rfl, rfl, by omega⟩
  · rintro ⟨all, rfl, rfl, rfl⟩
    exact ⟨⟨all, rfl, rfl⟩, trivial, by omega⟩

theorem readWriteMultiple_consistent_iff {readReference readCount writeReference writeCount : Int}
    {setRegisters : Option (List Register)} {setWriteWordCount : Option Int}
    (built : (readWriteMultiple readReference readCount writeReference writeCount setRegisters
      setWriteWordCount).build = .ok request) :
    request.body.Consistent request.dataLength ↔ (readWriteMultiple readReference readCount writeReference writeCount
      setRegisters setWriteWordCount).Consistent := by
  change (if _ then _ else _) = _ at built
  split at built
  · cases built
  next positive =>
    rw [counted_consistent_iff built]
    unfold Consistent
    cases setRegisters with
    | none =>
      have zeros : (List.replicate writeCount.toNat (⟨0, 0⟩ : Register)).length = writeCount := by
        rw [List.length_replicate]
        omega
      cases setWriteWordCount with
      | none =>
        exact iff_of_true ⟨_, rfl, zeros.symm, zeros.symm⟩ ⟨fun registers none => (nomatch none),
          fun count none => (nomatch none)⟩
      | some count =>
        constructor
        · rintro ⟨all, same, counted, length⟩
          refine ⟨fun registers none => (nomatch none), fun other found => ?_⟩
          cases found
          exact counted.trans length.symm
        · rintro ⟨-, counted⟩
          exact ⟨_, rfl, (counted count rfl).trans zeros.symm, zeros.symm⟩
    | some registers =>
      cases setWriteWordCount with
      | none =>
        constructor
        · rintro ⟨all, same, counted, length⟩
          cases same
          refine ⟨fun registers found => ?_, fun count none => nomatch none⟩
          cases found
          exact length
        · rintro ⟨length, -⟩
          exact ⟨_, rfl, rfl, length registers rfl⟩
      | some count =>
        constructor
        · rintro ⟨all, same, counted, length⟩
          cases same
          refine ⟨fun registers found => ?_, fun other found => ?_⟩
          · cases found
            exact length
          · cases found
            exact counted.trans length.symm
        · rintro ⟨length, counted⟩
          exact ⟨_, rfl, (counted count rfl).trans (length registers rfl), length registers rfl⟩

theorem emptyReadWriteMultiple_consistent_iff {readReference readCount writeReference : Int}
    {setRegisters : Option (List Register)} {setWriteWordCount : Option Int}
    (built : (emptyReadWriteMultiple readReference readCount writeReference setRegisters setWriteWordCount).build =
      .ok request) :
    request.body.Consistent request.dataLength ↔
      (emptyReadWriteMultiple readReference readCount writeReference setRegisters setWriteWordCount).Consistent := by
  have built : recorded (9 + 0 * 2) _ 0 = .ok request := built
  rw [counted_consistent_iff built]
  unfold Consistent
  constructor
  · rintro ⟨all, rfl, counted, length⟩
    have none : all = [] := List.length_eq_zero_iff.mp (by omega)
    subst none
    refine ⟨rfl, fun count found => ?_⟩
    cases found
    exact counted
  · rintro ⟨rfl, counted⟩
    refine ⟨[], rfl, ?_, rfl⟩
    cases setWriteWordCount with
    | none => rfl
    | some count => exact counted count rfl

/-- Which calls record the length of what they make, class by class. -/
theorem build_consistent_iff (built : calls.build = .ok request) (fits : request.body.FitsPdu) :
    request.body.Consistent request.dataLength ↔ calls.Consistent := by
  cases calls with
  | readCoils reference bitCount => exact iff_of_true (readCoils_consistent built) trivial
  | writeSingleRegister reference register =>
    exact (recorded_consistent_iff built).trans (and_iff_left ⟨trivial, rfl⟩)
  | writeMultipleCoils reference coils setCoils => exact writeMultipleCoils_consistent_iff built
  | emptyWriteMultipleCoils reference setCoils => exact emptyWriteMultipleCoils_consistent_iff built
  | writeMultipleRegisters reference registers => exact writeMultipleRegisters_consistent_iff built
  | readFileRecord records => exact readFileRecord_consistent_iff built fits
  | writeFileRecord records => exact writeFileRecord_consistent_iff built
  | readWriteMultiple readReference readCount writeReference writeCount setRegisters setWriteWordCount =>
    exact readWriteMultiple_consistent_iff built
  | emptyReadWriteMultiple readReference readCount writeReference setRegisters setWriteWordCount =>
    exact emptyReadWriteMultiple_consistent_iff built
  | readMEI fieldLevel fieldId => exact iff_of_true (recorded_consistent built (.inl rfl) rfl rfl) trivial
  | illegalFunction function =>
    cases built
    exact iff_of_false (fun agree => agree.regular) id
  | _ => exact iff_of_true (recorded_consistent built trivial trivial rfl) trivial

end RequestCalls

end EtherNetIP.Modbus
