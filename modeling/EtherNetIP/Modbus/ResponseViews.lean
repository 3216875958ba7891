import EtherNetIP.Modbus.MessageViews

/-! The three views of every Modbus response, and of the messages as a whole.

A response that records another length than that of its octets, or reads one
back, is never seen whole; which calls record the right one is asked afterwards.
-/

set_option autoImplicit false

namespace EtherNetIP.Modbus

open EtherNetIP.Library

section Fields

/-- What is written, what is laid out and the length recorded agree, and the class reads the message back, its
length included. -/
def ModbusMessage.ResponseViewsAgree (response : ModbusMessage ModbusResponse) : Prop :=
  ∃ octets read, response.body.getMessage = .ok octets ∧ response.body.writeData = .ok octets ∧
    response.dataLength = octets.length + 2 ∧ read.getD response.dataLength = response.dataLength ∧
    Decodes response.body.blank.readData octets (response.body, read)

theorem writeRegisters_of_count (registers : List Register) :
    writeRegisters (registers.length * 2) (some registers) =
      .ok (octet (registers.length * 2) :: registers.flatMap Register.toBytes) := by
  have half : ((registers.length : Int) * 2).tdiv 2 = registers.length := Int.mul_tdiv_cancel _ (by decide)
  unfold writeRegisters
  rw [half, firstRegisters_all]
  rfl

def ReadMEIResponse.fieldsLength (fields : List (Option Text)) : Nat :=
  (fields.map fun field => 2 + (field.getD []).length).sum

theorem ReadMEIResponse.length_flatMap_encode (entries : List (Int × Text)) :
    ((entries.map storedEntry).flatMap encode).length = fieldsLength (entries.map (some ·.2)) := by
  induction entries with
  | nil => rfl
  | cons entry entries ih =>
    have size : (encode (storedEntry entry)).length = 2 + entry.2.length := by
      rw [← length_storedText entry.2, Nat.add_comm]
      rfl
    rw [List.map_cons, List.flatMap_cons, List.length_append, size, ih]
    rfl

namespace ModbusResponse

variable {response : ModbusResponse} {dataLength : Int} {octets : List UInt8}

def octetCount : ModbusResponse → Int
  | readCoils coils => 1 + coils.elim 0 BitVector.byteSize
  | readInputDiscretes _ discretes => 1 + discretes.elim 0 BitVector.byteSize
  | readMultipleRegisters byteCount _ | readInputRegisters byteCount _ | readWriteMultiple byteCount _ => 1 + byteCount
  | readExceptionStatus _ | exception _ => 1
  | readCommEventLog _ _ _ events => 7 + (events.getD []).length
  | reportSlaveID length _ _ _ => 3 + length
  | readFileRecord records => ReadFileRecordResponse.getByteCount records
  | writeFileRecord records => WriteFileRecord.getSize records
  | maskWriteRegister _ _ _ => 6
  | readFIFOQueue count _ => 4 + 2 * count
  | readMEI _ _ fieldCount fields _ _ _ =>
    6 + ReadMEIResponse.fieldsLength (fields.take fieldCount.toNat)
  | _ => 4

/-- What readData records of the octets is their number; ReadInputRegistersResponse leaves out that of the octets
themselves. -/
def RecordsLength : ModbusResponse → Prop
  | readMultipleRegisters byteCount _ | readWriteMultiple byteCount _ => byteCount % 2 = 0
  | readInputRegisters _ _ => False
  | _ => True

structure Consistent (response : ModbusResponse) (dataLength : Int) : Prop where
  regular : response.Regular
  records : response.RecordsLength
  length : dataLength = response.octetCount + 2

theorem registersMessage_of_even {byteCount : Int} {registers : List Register} (fits : FitsOctet byteCount)
    (half : byteCount / 2 = registers.length) (even : byteCount % 2 = 0)
    (laid : registersMessage byteCount (some registers) = .ok octets) :
    octets.length = 1 + byteCount ∧ writeRegisters byteCount (some registers) = .ok octets := by
  obtain rfl : byteCount = registers.length * 2 := by omega
  cases (registersMessage_of_count half fits).symm.trans laid
  refine ⟨?_, writeRegisters_of_count registers⟩
  rw [List.length_cons, length_flatMap_toBytes]
  omega

theorem length_getMessage (fits : response.FitsPdu) (regular : response.Regular) (records : response.RecordsLength)
    (laid : response.getMessage = .ok octets) : octets.length = response.octetCount := by
  cases response with
  | readCoils coils =>
    obtain ⟨vector, rfl, -⟩ := regular
    cases laid
    exact (Nat.cast_succ _).trans (Int.add_comm _ 1)
  | readInputDiscretes bitCount discretes =>
    obtain ⟨vector, rfl, -⟩ := regular
    cases laid
    exact (Nat.cast_succ _).trans (Int.add_comm _ 1)
  | readMultipleRegisters byteCount registers =>
    obtain ⟨all, rfl, half⟩ := regular
    exact (registersMessage_of_even fits.fields half records laid).1
  | readInputRegisters byteCount registers => exact records.elim
  | writeCoil reference coil =>
    cases laid
    cases coil <;> rfl
  | readCommEventLog status eventCount messageCount events =>
    obtain ⟨all, rfl, -⟩ := regular
    cases laid
    rw [List.length_cons, List.length_append, length_threeWords]
    simp only [octetCount, Option.getD_some]
    omega
  | reportSlaveID length data status slaveId => exact regular.elim
  | readFileRecord found =>
    obtain ⟨record, rfl⟩ := regular
    cases (ReadFileRecordResponse.getMessage_single record).symm.trans laid
    have one : RecordResponse.octetsOf [record] = record.getResponse := List.flatMap_singleton _ _
    have size := ReadFileRecordResponse.getByteCount_some [record]
    rw [one] at size
    rw [List.length_cons]
    simp only [octetCount]
    omega
  | writeFileRecord found =>
    obtain ⟨all, rfl, -⟩ := regular
    cases (WriteFileRecord.getMessage_some all).symm.trans laid
    have size := WriteFileRecord.getSize_some all
    rw [List.length_cons]
    simp only [octetCount]
    omega
  | readWriteMultiple byteCount registers =>
    obtain ⟨all, rfl, half⟩ := regular
    exact (registersMessage_of_even fits.fields half records laid).1
  | readFIFOQueue count registers =>
    obtain ⟨written, rfl, rfl⟩ := ReadFIFOQueueResponse.getMessage_eq_ok fits.fields.1 laid
    rw [ReadFIFOQueueResponse.length_message]
    simp only [octetCount]
    omega
  | readMEI fieldLevel conformity fieldCount fields fieldIds moreFollows nextFieldId =>
    obtain ⟨entries, rfl, rfl, texts, -⟩ := ReadMEIResponse.getMessage_eq_ok fits.fields.2.2.1.1 laid
    have size := @ReadMEIResponse.length_message fieldLevel conformity nextFieldId moreFollows entries
    rw [ReadMEIResponse.length_flatMap_encode] at size
    simp only [octetCount, Int.toNat_natCast, texts]
    omega
  | _ =>
    cases laid
    rfl

theorem writeData_of_getMessage (fits : response.FitsPdu) (regular : response.Regular)
    (records : response.RecordsLength) (laid : response.getMessage = .ok octets) : response.writeData = .ok octets := by
  cases response with
  | readMultipleRegisters byteCount registers =>
    obtain ⟨all, rfl, half⟩ := regular
    exact (registersMessage_of_even fits.fields half records laid).2
  | readInputRegisters byteCount registers => exact records.elim
  | readFileRecord found =>
    obtain ⟨record, rfl⟩ := regular
    have one : RecordResponse.octetsOf [record] = record.getResponse := List.flatMap_singleton _ _
    rw [← laid]
    change Except.ok (ReadFileRecordResponse.writeData (some [record])) = _
    rw [ReadFileRecordResponse.writeData_some, one]
    exact (ReadFileRecordResponse.getMessage_single record).symm
  | readWriteMultiple byteCount registers =>
    obtain ⟨all, rfl, half⟩ := regular
    exact (registersMessage_of_even fits.fields half records laid).2
  | _ => exact laid

theorem recordedLength_of_consistent (consistent : response.Consistent dataLength)
    (length : octets.length = response.octetCount) :
    (response.recordedLength octets.length).getD dataLength = dataLength := by
  have same := consistent.length
  cases response with
  | readMultipleRegisters byteCount registers | readWriteMultiple byteCount registers =>
    simp only [octetCount] at same
    change byteCount + 3 = dataLength
    omega
  | readInputRegisters byteCount registers => exact consistent.records.elim
  | readCoils _ | readInputDiscretes _ _ | readFileRecord _ | readMEI _ _ _ _ _ _ _ =>
    rw [← length] at same
    exact same.symm
  | writeCoil _ _ | writeSingleRegister _ _ | writeMultipleRegisters _ _ => exact same.symm
  | _ => rfl

theorem recordsLength_of_read (fits : response.FitsPdu) (regular : response.Regular)
    (laid : response.getMessage = .ok octets) (length : dataLength = octets.length + 2)
    (kept : (response.recordedLength octets.length).getD dataLength = dataLength) : response.RecordsLength := by
  have registers {byteCount : Int} {found : Option (List Register)} {all : List Register} (some_ : found = some all)
      (half : byteCount / 2 = all.length) (announced : FitsOctet byteCount)
      (laid : registersMessage byteCount found = .ok octets) (kept : byteCount + 3 = dataLength) :
      byteCount % 2 = 0 := by
    rw [some_] at laid
    cases (registersMessage_of_count half announced).symm.trans laid
    rw [List.length_cons, length_flatMap_toBytes] at length
    omega
  cases response with
  | readMultipleRegisters byteCount found =>
    obtain ⟨all, some_, half⟩ := regular
    exact registers some_ half fits.fields laid kept
  | readWriteMultiple byteCount found =>
    obtain ⟨all, some_, half⟩ := regular
    exact registers some_ half fits.fields laid kept
  | readInputRegisters byteCount found =>
    obtain ⟨all, rfl, rfl⟩ := regular
    cases laid
    rw [List.length_cons, length_flatMap_toBytes] at length
    have kept : (all.length * 2 + 2 : Int) = dataLength := kept
    omega
  | _ => trivial

end ModbusResponse

theorem ModbusMessage.responseViewsAgree_iff {response : ModbusMessage ModbusResponse}
    (fits : response.body.FitsPdu) :
    response.ResponseViewsAgree ↔ response.body.Consistent response.dataLength := by
  constructor
  · rintro ⟨octets, read, laid, -, length, kept, decodes⟩
    have regular := ModbusResponse.regular_of_readsSelf fits ⟨octets, read, [], laid, decodes.run⟩
    obtain ⟨message, laid', back⟩ := ModbusResponse.readsBack_of_regular fits regular
    obtain rfl : octets = message := Except.ok.inj (laid.symm.trans laid')
    have same := congrArg Prod.snd (back.unique_run decodes.run).1
    rw [show read = _ from same] at kept
    have records := ModbusResponse.recordsLength_of_read fits regular laid length kept
    exact ⟨regular, records, ModbusResponse.length_getMessage fits regular records laid ▸ length⟩
  · intro consistent
    obtain ⟨octets, laid, back⟩ := ModbusResponse.readsBack_of_regular fits consistent.regular
    have size := ModbusResponse.length_getMessage fits consistent.regular consistent.records laid
    refine ⟨octets, _, laid, ModbusResponse.writeData_of_getMessage fits consistent.regular consistent.records laid,
      ?_, ModbusResponse.recordedLength_of_consistent consistent size, back⟩
    rw [size]
    exact consistent.length

end Fields

/-- The calls that make a response. A vector of coils keeps the number of its octets, whatever is set in it; an array
that is null and slots of one that were never set are alike. The array setEvents is given does not reach the events,
which setEvents of a number and setEvent put in place. -/
inductive ResponseCalls where
  | readCoils (coils : BitVector)
  | emptyReadCoils
  | readInputDiscretes (setBitCount : Int) (discretes : BitVector)
  | emptyReadInputDiscretes
  | readMultipleRegisters (registers : Option (List Register))
  | readInputRegisters (registers : Option (List Register)) (setWordCount : Option Int)
  | writeCoil (reference : Int) (coil : Bool)
  | writeSingleRegister (reference registerValue : Int)
  | writeMultipleCoils (reference bitCount : Int)
  | writeMultipleRegisters (reference wordCount : Int)
  | readExceptionStatus (status : Int)
  | readSerialDiagnostics (function data : Int)
  | readCommEventCounter (status events : Int)
  | readCommEventLog (status eventCount messageCount : Int) (events : Option (List UInt8))
      (setEvents : Option (List UInt8))
  | reportSlaveID (setData : Option (Option (List UInt8))) (status : Bool) (slaveId : Int)
  | readFileRecord (records : List RecordResponse)
  | writeFileRecord (records : List WrittenRecord)
  | maskWriteRegister (reference andMask orMask : Int)
  | readWriteMultiple (registers : List Register)
  | emptyReadWriteMultiple (count : Int)
  | readFIFOQueue (count : Int) (registers : Option (List Register))
  | readMEI (fieldLevel : Int) (fields : List (Int × Option Text))
  | exception (function exceptionCode : Int)

namespace ResponseCalls

def recorded (length : Int) (body : ModbusResponse) : Except Throwable (ModbusMessage ModbusResponse) := do
  let dataLength ← setDataLength length
  return { dataLength, functionCode := body.functionCode, body }

def registersLength (registers : Option (List Register)) : Int := registers.elim 0 fun all => all.length * 2 + 1

def build : ResponseCalls → Except Throwable (ModbusMessage ModbusResponse)
  | readCoils coils => recorded (coils.byteSize + 1) (.readCoils (some coils))
  | emptyReadCoils => recorded 1 (.readCoils none)
  | readInputDiscretes setBitCount discretes =>
    recorded (discretes.byteSize + 1) (.readInputDiscretes setBitCount (some discretes))
  | emptyReadInputDiscretes => .ok (createModbusResponse FunctionCode.readInputDiscretes)
  | readMultipleRegisters registers =>
    recorded (registersLength registers) (.readMultipleRegisters ((registers.getD []).length * 2) registers)
  | readInputRegisters registers setWordCount =>
    recorded (registersLength registers)
      (.readInputRegisters (setWordCount.getD (registers.getD []).length * 2) registers)
  | writeCoil reference coil => recorded 4 (.writeCoil reference coil)
  | writeSingleRegister reference registerValue => recorded 4 (.writeSingleRegister reference registerValue)
  | writeMultipleCoils reference bitCount => do
    let response ← recorded 4 (.writeMultipleCoils reference bitCount)
    return { response with functionCode := 0 }
  | writeMultipleRegisters reference wordCount => recorded 4 (.writeMultipleRegisters reference wordCount)
  | readExceptionStatus status => recorded 1 (.readExceptionStatus status)
  | readSerialDiagnostics function data => recorded 4 (.readSerialDiagnostics function data)
  | readCommEventCounter status events =>
    if status ≠ 0 ∧ status ≠ 65535 then .error .illegalArgumentException
    else recorded 4 (.readCommEventCounter status events)
  | readCommEventLog status eventCount messageCount events setEvents =>
    if (events.getD []).length > 64 ∨ (setEvents.getD []).length > 64 then .error .illegalArgumentException
    else recorded 7 (.readCommEventLog status eventCount messageCount events)
  | reportSlaveID setData status slaveId =>
    let code := if status then 255 else 0
    let body := match setData with
      | none => .reportSlaveID 0 none code slaveId
      | some none => .reportSlaveID 2 (some []) code slaveId
      | some (some data) => .reportSlaveID (data.length + 2) (some data) code slaveId
    if ((setData.getD none).getD []).length > 249 then .error .illegalArgumentException
    else .ok { functionCode := FunctionCode.reportSlaveID, body }
  | readFileRecord records =>
    .ok { functionCode := FunctionCode.readFileRecord, body := .readFileRecord (if records = [] then none else records) }
  | writeFileRecord records => do
    let (built, dataLength) ← records.foldlM WriteFileRecord.addOne (none, 9)
    return { dataLength, functionCode := FunctionCode.writeFileRecord, body := .writeFileRecord built }
  | maskWriteRegister reference andMask orMask => recorded 6 (.maskWriteRegister reference andMask orMask)
  | readWriteMultiple registers =>
    recorded (registers.length * 2 + 1) (.readWriteMultiple (registers.length * 2) (some registers))
  | emptyReadWriteMultiple count =>
    recorded (count * 2 + 1) (.readWriteMultiple (count * 2) (if count = 0 then some [] else none))
  | readFIFOQueue count registers =>
    if count < 0 ∨ count > 31 then .error .illegalArgumentException else recorded 7 (.readFIFOQueue count registers)
  | readMEI fieldLevel fields =>
    let unset := 64 - fields.length
    if fields.length > 64 then .error .indexOutOfBoundsException
    else .ok {
      functionCode := FunctionCode.readMEI
      body := .readMEI fieldLevel 1 fields.length (fields.map Prod.snd ++ List.replicate unset none)
        (fields.map Prod.fst ++ List.replicate unset 0) false 0 }
  | exception function exceptionCode => do
    let response ← recorded 1 (.exception exceptionCode)
    return { response with functionCode := if 128 ≤ function % 256 then function else function + 128 }

/-- The calls that make a response whose three views agree. -/
def Consistent : ResponseCalls → Prop
  | readCoils coils => ModbusResponse.WholeOctets coils
  | emptyReadCoils => False
  | readInputDiscretes setBitCount discretes => ModbusResponse.WholeOctets discretes ∧ setBitCount = discretes.size
  | emptyReadInputDiscretes => False
  | readMultipleRegisters registers => registers ≠ none
  | readInputRegisters _ _ => False
  | writeCoil reference _ => reference < 32768
  | readCommEventLog _ _ _ events _ => events = some []
  | reportSlaveID _ _ _ => False
  | readFileRecord _ => False
  | writeFileRecord records => records ≠ [] ∧ (∀ record ∈ records, record.recordNumber < 10000) ∧
      ∀ record ∈ records.getLast?, record.data ≠ []
  | emptyReadWriteMultiple count => count = 0
  | readFIFOQueue _ _ => False
  | readMEI _ _ => False
  | _ => True

end ResponseCalls


namespace ResponseCalls

variable {calls : ResponseCalls} {response : ModbusMessage ModbusResponse}

theorem recorded_eq_ok {length : Int} {body : ModbusResponse} (built : recorded length body = .ok response) :
    response = { dataLength := length + 2, functionCode := body.functionCode, body } := by
  obtain ⟨dataLength, set, built⟩ := bind_eq_ok.mp built
  cases built
  rw [setDataLength_eq_ok set]

theorem recorded_consistent_iff {length : Int} {body : ModbusResponse}
    (built : recorded length body = .ok response) :
    response.body.Consistent response.dataLength ↔ body.Regular ∧ body.RecordsLength ∧ length = body.octetCount := by
  cases recorded_eq_ok built
  constructor
  · rintro ⟨regular, records, same⟩
    have same : length + 2 = body.octetCount + 2 := same
    exact ⟨regular, records, by omega⟩
  · rintro ⟨regular, records, rfl⟩
    exact ⟨regular, records, rfl⟩

theorem recorded_consistent {length : Int} {body : ModbusResponse} (built : recorded length body = .ok response)
    (regular : body.Regular) (records : body.RecordsLength) (same : length = body.octetCount) :
    response.body.Consistent response.dataLength :=
  (recorded_consistent_iff built).mpr ⟨regular, records, same⟩

theorem not_consistent_of_unrecorded (none : response.dataLength = 0) (fits : response.body.FitsPdu) :
    ¬ response.body.Consistent response.dataLength := by
  intro consistent
  obtain ⟨octets, laid, -⟩ := ModbusResponse.readsBack_of_regular fits consistent.regular
  have size := ModbusResponse.length_getMessage fits consistent.regular consistent.records laid
  have length := consistent.length
  omega

theorem readCoils_consistent_iff {coils : BitVector} (built : (readCoils coils).build = .ok response) :
    response.body.Consistent response.dataLength ↔ (readCoils coils).Consistent := by
  rw [recorded_consistent_iff built]
  constructor
  · rintro ⟨⟨vector, same, whole⟩, -⟩
    cases same
    exact whole
  · intro whole
    exact ⟨⟨coils, rfl, whole⟩, trivial, Int.add_comm _ 1⟩

theorem emptyReadCoils_not_consistent (built : emptyReadCoils.build = .ok response) :
    ¬ response.body.Consistent response.dataLength := by
  rw [recorded_consistent_iff built]
  rintro ⟨⟨vector, none, -⟩, -⟩
  cases none

theorem readInputDiscretes_consistent_iff {setBitCount : Int} {discretes : BitVector}
    (built : (readInputDiscretes setBitCount discretes).build = .ok response) :
    response.body.Consistent response.dataLength ↔ (readInputDiscretes setBitCount discretes).Consistent := by
  rw [recorded_consistent_iff built]
  constructor
  · rintro ⟨⟨vector, same, whole, count⟩, -⟩
    cases same
    exact ⟨whole, count⟩
  · rintro ⟨whole, count⟩
    exact ⟨⟨discretes, rfl, whole, count⟩, trivial, Int.add_comm _ 1⟩

theorem registers_consistent {registers : List Register} {body : ModbusResponse}
    (built : recorded (registers.length * 2 + 1) body = .ok response)
    (class_ : body = .readMultipleRegisters (registers.length * 2) (some registers) ∨
      body = .readWriteMultiple (registers.length * 2) (some registers)) :
    response.body.Consistent response.dataLength := by
  have half : (registers.length : Int) * 2 / 2 = registers.length := Int.mul_ediv_cancel _ (by decide)
  have even : (registers.length : Int) * 2 % 2 = 0 := Int.mul_emod_left _ 2
  rcases class_ with rfl | rfl
  · exact recorded_consistent built ⟨registers, rfl, half⟩ even (Int.add_comm _ 1)
  · exact recorded_consistent built ⟨registers, rfl, half⟩ even (Int.add_comm _ 1)

theorem readMultipleRegisters_consistent_iff {registers : Option (List Register)}
    (built : (readMultipleRegisters registers).build = .ok response) :
    response.body.Consistent response.dataLength ↔ (readMultipleRegisters registers).Consistent := by
  cases registers with
  | none =>
    rw [recorded_consistent_iff built]
    refine iff_of_false ?_ (fun some_ => some_ rfl)
    rintro ⟨⟨all, none, -⟩, -⟩
    cases none
  | some registers => exact iff_of_true (registers_consistent built (.inl rfl)) (fun none => nomatch none)

theorem readInputRegisters_not_consistent {registers : Option (List Register)} {setWordCount : Option Int}
    (built : (readInputRegisters registers setWordCount).build = .ok response) :
    ¬ response.body.Consistent response.dataLength := by
  rw [recorded_consistent_iff built]
  exact fun agree => agree.2.1

theorem emptyReadWriteMultiple_consistent_iff {count : Int}
    (built : (emptyReadWriteMultiple count).build = .ok response) :
    response.body.Consistent response.dataLength ↔ (emptyReadWriteMultiple count).Consistent := by
  by_cases zero : count = 0
  · subst zero
    exact iff_of_true (@registers_consistent response [] _ built (.inr rfl)) rfl
  · rw [recorded_consistent_iff built]
    refine iff_of_false ?_ zero
    rintro ⟨⟨all, none, -⟩, -⟩
    rw [if_neg zero] at none
    cases none

theorem readCommEventCounter_consistent {status events : Int}
    (built : (readCommEventCounter status events).build = .ok response) :
    response.body.Consistent response.dataLength := by
  change (if _ then _ else _) = _ at built
  split at built
  · cases built
  · exact recorded_consistent built trivial trivial rfl

theorem readCommEventLog_consistent_iff {status eventCount messageCount : Int} {events setEvents : Option (List UInt8)}
    (built : (readCommEventLog status eventCount messageCount events setEvents).build = .ok response) :
    response.body.Consistent response.dataLength ↔
      (readCommEventLog status eventCount messageCount events setEvents).Consistent := by
  change (if _ then _ else _) = _ at built
  split at built
  · cases built
  · rw [recorded_consistent_iff built]
    constructor
    · rintro ⟨⟨all, rfl, -⟩, -, length⟩
      simp only [ModbusResponse.octetCount, Option.getD_some] at length
      have none : all = [] := List.length_eq_zero_iff.mp (by omega)
      rw [none]
      rfl
    · rintro rfl
      exact ⟨⟨[], rfl, by decide⟩, trivial, rfl⟩

theorem reportSlaveID_not_consistent {setData : Option (Option (List UInt8))} {status : Bool} {slaveId : Int}
    (built : (reportSlaveID setData status slaveId).build = .ok response) (fits : response.body.FitsPdu) :
    ¬ response.body.Consistent response.dataLength := by
  change (if _ then _ else _) = _ at built
  split at built
  · cases built
  · cases built
    exact not_consistent_of_unrecorded rfl fits

theorem writeFileRecord_consistent_iff {records : List WrittenRecord}
    (built : (writeFileRecord records).build = .ok response) :
    response.body.Consistent response.dataLength ↔ (writeFileRecord records).Consistent := by
  obtain ⟨⟨found, dataLength⟩, added, built⟩ := bind_eq_ok.mp built
  cases built
  have small := size_of_added (fun records => WriteFileRecord.one_le_getSize records) added
  rcases built_of_added added with ⟨rfl, rfl⟩ | ⟨some_, rfl, rfl⟩
  · refine iff_of_false (fun agree => ?_) fun consistent => consistent.1 rfl
    obtain ⟨all, none, -⟩ := agree.regular
    cases none
  constructor
  · rintro ⟨⟨all, same, accepted, last⟩, -⟩
    cases same
    exact ⟨some_, fun record member => (accepted record member).number, last⟩
  · rintro ⟨-, low, last⟩
    have accepted : ∀ record ∈ records, record.Accepted := by
      intro record member
      have fitting := small record member
      unfold WrittenRecord.getRequestSize at fitting
      exact ⟨low record member, by omega⟩
    exact ⟨⟨records, rfl, accepted, last⟩, trivial, rfl⟩

/-- The length recorded is that of no queue: it would have five octets of registers. -/
theorem readFIFOQueue_not_consistent {count : Int} {registers : Option (List Register)}
    (built : (readFIFOQueue count registers).build = .ok response) :
    ¬ response.body.Consistent response.dataLength := by
  change (if _ then _ else _) = _ at built
  split at built
  · cases built
  · rw [recorded_consistent_iff built]
    rintro ⟨-, -, length⟩
    simp only [ModbusResponse.octetCount] at length
    omega

theorem readMEI_not_consistent {fieldLevel : Int} {fields : List (Int × Option Text)}
    (built : (readMEI fieldLevel fields).build = .ok response) (fits : response.body.FitsPdu) :
    ¬ response.body.Consistent response.dataLength := by
  change (if _ then _ else _) = _ at built
  split at built
  · cases built
  · cases built
    exact not_consistent_of_unrecorded rfl fits

/-- The function code is written anew after the length is recorded. -/
theorem renumbered_consistent {length functionCode : Int} {body : ModbusResponse}
    (built : (do
      let response ← recorded length body
      return { response with functionCode }) = .ok response)
    (regular : body.Regular) (records : body.RecordsLength) (same : length = body.octetCount) :
    response.body.Consistent response.dataLength := by
  obtain ⟨first, recorded_, built⟩ := bind_eq_ok.mp built
  cases built
  have consistent : first.body.Consistent first.dataLength := recorded_consistent recorded_ regular records same
  exact consistent

/-- Which calls record the length of what they make, class by class. -/
theorem build_consistent_iff (built : calls.build = .ok response) (fits : response.body.FitsPdu) :
    response.body.Consistent response.dataLength ↔ calls.Consistent := by
  cases calls with
  | readCoils coils => exact readCoils_consistent_iff built
  | emptyReadCoils => exact iff_of_false (emptyReadCoils_not_consistent built) id
  | readInputDiscretes setBitCount discretes => exact readInputDiscretes_consistent_iff built
  | emptyReadInputDiscretes =>
    cases built
    exact iff_of_false (not_consistent_of_unrecorded rfl fits) id
  | readMultipleRegisters registers => exact readMultipleRegisters_consistent_iff built
  | readInputRegisters registers setWordCount => exact iff_of_false (readInputRegisters_not_consistent built) id
  | writeCoil reference coil => exact (recorded_consistent_iff built).trans (and_iff_left ⟨trivial, rfl⟩)
  | readCommEventCounter status events => exact iff_of_true (readCommEventCounter_consistent built) trivial
  | readCommEventLog status eventCount messageCount events setEvents => exact readCommEventLog_consistent_iff built
  | reportSlaveID setData status slaveId => exact iff_of_false (reportSlaveID_not_consistent built fits) id
  | readFileRecord records =>
    cases built
    exact iff_of_false (not_consistent_of_unrecorded rfl fits) id
  | writeFileRecord records => exact writeFileRecord_consistent_iff built
  | readWriteMultiple registers => exact iff_of_true (registers_consistent built (.inr rfl)) trivial
  | emptyReadWriteMultiple count => exact emptyReadWriteMultiple_consistent_iff built
  | readFIFOQueue count registers => exact iff_of_false (readFIFOQueue_not_consistent built) id
  | readMEI fieldLevel fields => exact iff_of_false (readMEI_not_consistent built fits) id
  | writeMultipleCoils reference bitCount =>
    exact iff_of_true (renumbered_consistent built trivial trivial rfl) trivial
  | exception function exceptionCode =>
    exact iff_of_true (renumbered_consistent built trivial trivial rfl) trivial
  | _ => exact iff_of_true (recorded_consistent built trivial trivial rfl) trivial

end ResponseCalls

/-- Of the messages that fit a PDU, with the length recorded beside their fields: which have views that agree, and
which calls make one of these. -/
theorem messageViewsAgree_iff (request : ModbusMessage ModbusRequest) (response : ModbusMessage ModbusResponse) :
    (request.body.FitsPdu →
      (request.RequestViewsAgree ↔ request.body.Consistent request.dataLength) ∧
        ∀ calls : RequestCalls, calls.build = .ok request → (request.RequestViewsAgree ↔ calls.Consistent)) ∧
    (response.body.FitsPdu →
      (response.ResponseViewsAgree ↔ response.body.Consistent response.dataLength) ∧
        ∀ calls : ResponseCalls, calls.build = .ok response → (response.ResponseViewsAgree ↔ calls.Consistent)) := by
  constructor
  · intro fits
    have agree := ModbusMessage.requestViewsAgree_iff fits
    exact ⟨agree, fun calls built => agree.trans (RequestCalls.build_consistent_iff built fits)⟩
  · intro fits
    have agree := ModbusMessage.responseViewsAgree_iff fits
    exact ⟨agree, fun calls built => agree.trans (ResponseCalls.build_consistent_iff built fits)⟩

theorem fitsPdu_writeCoil {reference : Int} (fits : FitsWord reference) (coil : Bool) :
    (ModbusRequest.writeCoil reference coil).FitsPdu ∧ (ModbusResponse.writeCoil reference coil).FitsPdu := by
  refine ⟨⟨fits, fun message laid => ?_⟩, ⟨fits, fun message laid => ?_⟩⟩ <;>
  · cases laid
    cases coil <;> exact Nat.le_of_ble_eq_true rfl

def ModbusMessage.afterRead (functionCode : Int) (octets : List UInt8) : Option (ModbusMessage ModbusResponse) :=
  let response := createModbusResponse functionCode
  match response.body.readData.run octets with
  | .ok ((body, length), _) => some { response with body, dataLength := length.getD response.dataLength }
  | .error _ => none

/-- The coil 0x1234 is written and confirmed, and a response with one file record agrees once it has been read. -/
theorem messageViewsAgree_writeCoil :
    (∃ request, (RequestCalls.writeCoil 0x1234 true).build = .ok request ∧ request.RequestViewsAgree) ∧
    (∃ response, (ResponseCalls.writeCoil 0x1234 true).build = .ok response ∧ response.ResponseViewsAgree) ∧
    ∃ response, ModbusMessage.afterRead FunctionCode.readFileRecord [4, 3, 6, 0, 7] = some response ∧
      response.dataLength = 7 ∧ response.ResponseViewsAgree := by
  have fits := @fitsPdu_writeCoil 0x1234 (by decide) true
  have low : (0x1234 : Int) < 32768 := by decide
  have one : (ModbusResponse.readFileRecord (some [⟨[⟨0, 7⟩]⟩])).FitsPdu := by
    refine ⟨trivial, fun message laid => ?_⟩
    cases laid
    decide
  have consistent : (ModbusResponse.readFileRecord (some [⟨[⟨0, 7⟩]⟩])).Consistent 7 := ⟨⟨_, rfl⟩, trivial, rfl⟩
  let asked : ModbusMessage ModbusRequest := createModbusRequest FunctionCode.writeCoil
  let answered : ModbusMessage ModbusResponse := createModbusResponse FunctionCode.writeCoil
  refine ⟨⟨_, rfl, ?_⟩, ⟨_, rfl, ?_⟩, ⟨_, rfl, rfl, ?_⟩⟩
  · exact ((messageViewsAgree_iff _ answered).1 fits.1).1.mpr ⟨trivial, trivial, rfl⟩
  · exact (((messageViewsAgree_iff asked _).2 fits.2).2 (.writeCoil 0x1234 true) rfl).mpr low
  · exact ((messageViewsAgree_iff asked _).2 one).1.mpr consistent

/-- The coil 0x8000 fits a PDU, and its confirmation is read back as the coil -0x8000. -/
theorem not_messageViewsAgree :
    ∃ response, (ResponseCalls.writeCoil 0x8000 true).build = .ok response ∧ response.body.FitsPdu ∧
      ¬ response.ResponseViewsAgree ∧
      response.body.blank.readData.run [0x80, 0, 0xFF, 0] = .ok ((.writeCoil (-0x8000) true, some 6), []) := by
  have fits := (@fitsPdu_writeCoil 0x8000 (by decide) true).2
  refine ⟨_, rfl, fits, fun agree => ?_, rfl⟩
  have low : (0x8000 : Int) < 32768 := ((ModbusMessage.responseViewsAgree_iff fits).mp agree).regular
  exact absurd low (by decide)

end EtherNetIP.Modbus
