import EtherNetIP.Modbus.FileRecordResponse
import EtherNetIP.Modbus.IdentificationFields

/-! What the Modbus responses read back from their own octets.

The number of bits in use is not sent, a reference is read back signed, the slave
identification grows by two octets, and a count kept apart from its array is lost.
-/

set_option autoImplicit false

namespace EtherNetIP.Modbus

open EtherNetIP.Library

section Parts

variable {byteCount beside : Int} {registers : List Register}

theorem setDataLength_of_fits {length : Int} (positive : 0 ≤ length) (short : length ≤ 253) :
    setDataLength length = .ok (length + 2) := by
  unfold setDataLength
  rw [if_neg (by omega)]

theorem decodes_readCoilsData {data : List UInt8} (size : data.length ≤ 251) :
    Decodes readCoilsData (octet data.length :: data) (.createBitVector data, some (data.length + 3)) := by
  have announced : FitsOctet data.length := by
    unfold FitsOctet
    omega
  have length := @setDataLength_of_fits (data.length + 1) (by omega) (by omega)
  rw [Int.add_assoc] at length
  exact decodes_counted announced ((Decodes.attempt length).andReturn fun length =>
    (BitVector.createBitVector data, some length))

theorem decodes_readRegisters (make : Int → Option (List Register) → ModbusResponse) (announced : FitsOctet byteCount)
    (count : byteCount / 2 = registers.length) (positive : 0 ≤ beside) (size : byteCount + beside ≤ 253) :
    Decodes (readRegisters make beside) (octet byteCount :: registers.flatMap Register.toBytes)
      (make byteCount (some registers), some (byteCount + beside + 2)) := by
  have length := @setDataLength_of_fits (byteCount + beside) (by unfold FitsOctet at announced; omega) size
  refine (decodes_unsignedByte announced).bind ?_
  rw [count, Int.toNat_natCast]
  intro rest
  refine (run_then_of_ok (decodes_registers registers rest)).trans ?_
  exact run_then_of_ok (Decodes.attempt length rest)

theorem registersMessage_eq_ok {found : Option (List Register)} {octets : List UInt8} (announced : FitsOctet byteCount)
    (laid : registersMessage byteCount found = .ok octets) :
    ∃ (registers : List Register) (more : Nat), found = some registers ∧ byteCount / 2 = registers.length + more ∧
      octets = octet byteCount :: (registers ++ List.replicate more (⟨0, 0⟩ : Register)).flatMap Register.toBytes := by
  have half : byteCount.tdiv 2 = byteCount / 2 := Int.tdiv_eq_ediv_of_nonneg announced.1
  cases found with
  | none => cases laid
  | some all =>
    change (if _ then _ else _) = _ at laid
    split at laid
    · cases laid
    next enough =>
      cases laid
      rw [half] at enough ⊢
      have zeros : ∀ more : Nat, (List.replicate more (⟨0, 0⟩ : Register)).flatMap Register.toBytes =
          List.replicate (2 * more) 0 := by
        intro more
        induction more with
        | zero => rfl
        | succ more ih =>
          rw [List.replicate_succ, List.flatMap_cons, ih]
          rfl
      refine ⟨all, (byteCount / 2 - all.length).toNat, rfl, by omega, ?_⟩
      rw [List.flatMap_append, zeros]
      congr 4
      omega

theorem registersMessage_of_count (half : byteCount / 2 = registers.length) (announced : FitsOctet byteCount) :
    registersMessage byteCount (some registers) = .ok (octet byteCount :: registers.flatMap Register.toBytes) := by
  have half : byteCount.tdiv 2 = registers.length := (Int.tdiv_eq_ediv_of_nonneg announced.1).trans half
  change (if _ then _ else _) = _
  rw [half, if_neg (by omega), Int.sub_self]
  exact congrArg (fun tail => Except.ok (octet byteCount :: tail)) (List.append_nil _)

theorem decodes_registersMessage (make : Int → Option (List Register) → ModbusResponse)
    (half : byteCount / 2 = registers.length) (announced : FitsOctet byteCount)
    (size : ∀ octets, registersMessage byteCount (some registers) = .ok octets → octets.length ≤ 252) :
    ∃ octets, registersMessage byteCount (some registers) = .ok octets ∧
      Decodes (readRegisters make 1) octets (make byteCount (some registers), some (byteCount + 3)) := by
  have laid := registersMessage_of_count half announced
  have short := size _ laid
  rw [List.length_cons, length_flatMap_toBytes] at short
  have decodes := @decodes_readRegisters byteCount 1 registers make announced half (by decide) (by omega)
  rw [Int.add_assoc] at decodes
  exact ⟨_, laid, decodes⟩

theorem counted_of_readsSelf (make : Int → Option (List Register) → ModbusResponse)
    (inj : ∀ byteCount registers byteCount' registers', make byteCount registers = make byteCount' registers' →
      byteCount = byteCount' ∧ registers = registers')
    {found : Option (List Register)} {octets left : List UInt8} {recorded : Option Int} (announced : FitsOctet byteCount)
    (laid : registersMessage byteCount found = .ok octets) (size : octets.length ≤ 252)
    (read : (readRegisters make 1).run octets = .ok ((make byteCount found, recorded), left)) :
    ∃ all, found = some all ∧ byteCount / 2 = all.length := by
  obtain ⟨registers, more, rfl, half, rfl⟩ := registersMessage_eq_ok announced laid
  rw [List.length_cons, length_flatMap_toBytes, List.length_append, List.length_replicate] at size
  have count : byteCount / 2 = (registers ++ List.replicate more (⟨0, 0⟩ : Register)).length := by
    rw [List.length_append, List.length_replicate]
    omega
  have decodes := decodes_readRegisters make announced count (show (0 : Int) ≤ 1 by decide) (by omega)
  have same := (inj _ _ _ _ (congrArg Prod.fst (decodes.unique_run read).1)).2
  have lengths := congrArg List.length (Option.some.inj same)
  rw [List.length_append, List.length_replicate] at lengths
  exact ⟨registers, rfl, by omega⟩

end Parts

theorem ReadCommEventLogResponse.decodes {status eventCount messageCount : Int} {events : List UInt8}
    (fits : FitsWord status) (fits' : FitsWord eventCount) (fits'' : FitsWord messageCount)
    (short : events.length ≤ 121) :
    Decodes readData (octet (events.length + 6) :: (threeWords status eventCount messageCount ++ events))
      (.readCommEventLog status eventCount messageCount (some events)) := by
  have left : ((events.length + 6 : Int) - 6).toNat = events.length := by omega
  change Decodes readData ([octet (events.length + 6)] ++ (writeShort status ++ (writeShort eventCount ++
    (writeShort messageCount ++ events)))) _
  refine (decodes_byte (by omega) (by omega)).bind ((decodes_unsignedShort fits).bind
    ((decodes_unsignedShort fits').bind ((decodes_unsignedShort fits'').bind ?_)))
  rw [if_neg (by omega), left]
  exact (decodes_fully events).andReturn fun events =>
    ModbusResponse.readCommEventLog status eventCount messageCount (some events)

/-- The count is signed, so more than 121 events are never read. -/
theorem ReadCommEventLogResponse.readData_yields : Yields readData fun response =>
    ∀ status eventCount messageCount events,
      response = .readCommEventLog status eventCount messageCount events → ∃ all, events = some all ∧ all.length ≤ 121 := by
  refine readByte_yields.bind fun byteCount low => Yields.last fun _ => Yields.last fun _ => Yields.last fun _ => ?_
  split
  · exact Yields.throw _
  · refine (takeItems_yields_length _ _).bind fun events length => Yields.pure ?_
    intro status eventCount messageCount found same
    cases same
    exact ⟨events, rfl, by omega⟩

/-- What is read back of an identification is one octet count, and it is two more than the one held. -/
theorem ReportSlaveIDResponse.not_readsSelf {length status slaveId : Int} {data : Option (List UInt8)}
    {octets left : List UInt8} {response : ModbusResponse} (laid : getMessage length data status slaveId = .ok octets)
    (size : octets.length ≤ 252) (taken : (readData none 0 0).run octets = .ok (response, left)) :
    response ≠ .reportSlaveID length data status slaveId := by
  have front : 0 ≤ length ∧ length ≤ 250 ∧ ∃ rest, octets = octet (length + 2) :: rest := by
    unfold getMessage at laid
    split at laid
    · cases laid
    split at laid
    next => cases laid; exact ⟨by omega, by omega, _, rfl⟩
    next negative zero =>
      obtain ⟨found, -, laid⟩ := bind_eq_ok.mp laid
      split at laid
      · cases laid
      next enough =>
        cases laid
        refine ⟨by omega, ?_, _, rfl⟩
        rw [List.length_append, List.length_append, List.length_take] at size
        simp only [List.length_cons, List.length_nil] at size
        omega
  obtain ⟨positive, short, rest, rfl⟩ := front
  have announced : FitsOctet (length + 2) := by
    unfold FitsOctet
    omega
  have taken := (run_then_of_ok (decodes_unsignedByte announced rest)).symm.trans taken
  intro same
  rw [if_neg (by omega)] at taken
  obtain ⟨slave, -, taken⟩ := bind_eq_ok.mp taken
  obtain ⟨code, -, taken⟩ := bind_eq_ok.mp taken
  obtain ⟨found, -, taken⟩ := bind_eq_ok.mp taken
  cases taken
  have longer := (ModbusResponse.reportSlaveID.inj same).1
  omega

namespace ReadFIFOQueueResponse

def message (registers : List Register) : List UInt8 :=
  twoWords (registers.length * 2 + 2) registers.length ++ registers.flatMap Register.toBytes

theorem length_message (registers : List Register) : (message registers).length = 4 + 2 * registers.length := by
  unfold message
  rw [List.length_append, length_twoWords, length_flatMap_toBytes]

theorem getMessage_all (registers : List Register) :
    getMessage registers.length (some registers) = .ok (message registers) := by
  unfold getMessage
  rw [firstRegisters_all]
  rfl

theorem getMessage_eq_ok {count : Int} {registers : Option (List Register)} {octets : List UInt8} (positive : 0 ≤ count)
    (laid : getMessage count registers = .ok octets) :
    ∃ written : List Register, count = written.length ∧ octets = message written := by
  obtain ⟨written, first, laid⟩ := bind_eq_ok.mp laid
  have length := (firstRegisters_eq_ok first positive).1
  have same : count = written.length := by omega
  cases laid
  rw [same]
  exact ⟨written, rfl, rfl⟩

theorem decodes {registers : List Register} (size : registers.length ≤ 1000) :
    Decodes readData (message registers) (.readFIFOQueue registers.length (some registers)) := by
  have length : FitsShort (registers.length * 2 + 2) := by
    unfold FitsShort
    omega
  have count : FitsWord registers.length := by
    unfold FitsWord
    omega
  change Decodes readData (writeShort (registers.length * 2 + 2) ++ (writeShort registers.length ++
    registers.flatMap Register.toBytes)) _
  refine (decodes_short length).bind ((decodes_unsignedShort count).bind ?_)
  rw [Int.toNat_natCast]
  exact (decodes_registers registers).andReturn fun all =>
    ModbusResponse.readFIFOQueue registers.length (some all)

end ReadFIFOQueueResponse

namespace ModbusResponse

/-- The function code the constructors set; an exception response is made for every code that is not one of these. -/
def functionCode : ModbusResponse → Int
  | readCoils _ => FunctionCode.readCoils
  | readInputDiscretes _ _ => FunctionCode.readInputDiscretes
  | readMultipleRegisters _ _ => FunctionCode.readMultipleRegisters
  | readInputRegisters _ _ => FunctionCode.readInputRegisters
  | writeCoil _ _ => FunctionCode.writeCoil
  | writeSingleRegister _ _ => FunctionCode.writeSingleRegister
  | writeMultipleCoils _ _ => FunctionCode.writeMultipleCoils
  | writeMultipleRegisters _ _ => FunctionCode.writeMultipleRegisters
  | readExceptionStatus _ => FunctionCode.readExceptionStatus
  | readSerialDiagnostics _ _ => FunctionCode.readSerialDiagnostics
  | readCommEventCounter _ _ => FunctionCode.readCommEventCounter
  | readCommEventLog _ _ _ _ => FunctionCode.readCommEventLog
  | reportSlaveID _ _ _ _ => FunctionCode.reportSlaveID
  | readFileRecord _ => FunctionCode.readFileRecord
  | writeFileRecord _ => FunctionCode.writeFileRecord
  | maskWriteRegister _ _ _ => FunctionCode.maskWriteRegister
  | readWriteMultiple _ _ => FunctionCode.readWriteMultiple
  | readFIFOQueue _ _ => FunctionCode.readFIFOQueue
  | readMEI _ _ _ _ _ _ _ => FunctionCode.readMEI
  | exception _ => 128

def FieldsFit : ModbusResponse → Prop
  | readMultipleRegisters byteCount _ => FitsOctet byteCount
  | readInputRegisters byteCount _ => FitsOctet byteCount
  | writeCoil reference _ => FitsWord reference
  | writeSingleRegister reference registerValue => FitsWord reference ∧ FitsWord registerValue
  | writeMultipleCoils reference bitCount => FitsWord reference ∧ FitsWord bitCount
  | writeMultipleRegisters reference wordCount => FitsWord reference ∧ FitsWord wordCount
  | readExceptionStatus status => FitsOctet status
  | readSerialDiagnostics function data => FitsWord function ∧ FitsShort data
  | readCommEventCounter status events => FitsWord status ∧ FitsWord events
  | readCommEventLog status eventCount messageCount _ => FitsWord status ∧ FitsWord eventCount ∧ FitsWord messageCount
  | reportSlaveID _ _ status slaveId => FitsOctet status ∧ FitsOctet slaveId
  | writeFileRecord records => ∀ record ∈ records.getD [], record.Fits
  | maskWriteRegister reference andMask orMask => FitsWord reference ∧ FitsWord andMask ∧ FitsWord orMask
  | readWriteMultiple byteCount _ => FitsOctet byteCount
  | readFIFOQueue count _ => FitsWord count
  | readMEI fieldLevel conformity fieldCount _ fieldIds _ nextFieldId => FitsOctet fieldLevel ∧ FitsOctet conformity ∧
      FitsOctet fieldCount ∧ FitsOctet nextFieldId ∧ ∀ fieldId ∈ fieldIds, FitsOctet fieldId
  | exception exceptionCode => FitsOctet exceptionCode
  | _ => True

structure FitsPdu (response : ModbusResponse) : Prop where
  fields : response.FieldsFit
  size : ∀ message, response.getMessage = .ok message → message.length ≤ 252

def blank (response : ModbusResponse) : ModbusResponse := (createModbusResponse response.functionCode).body

/-- The bits of a vector that fill its octets, in the access mode of a new vector. -/
def WholeOctets (coils : BitVector) : Prop := coils.size = coils.data.length * 8 ∧ coils.msbAccess = false

/-- The arrays are there, the counts are theirs, and each class gets back what its octets can tell. -/
def Regular : ModbusResponse → Prop
  | readCoils coils => ∃ vector, coils = some vector ∧ WholeOctets vector
  | readInputDiscretes bitCount discretes =>
    ∃ vector, discretes = some vector ∧ WholeOctets vector ∧ bitCount = vector.size
  | readMultipleRegisters byteCount registers => ∃ all, registers = some all ∧ byteCount / 2 = all.length
  | readInputRegisters byteCount registers => ∃ all, registers = some all ∧ byteCount = all.length * 2
  | writeCoil reference _ => reference < 32768
  | readCommEventLog _ _ _ events => ∃ all, events = some all ∧ all.length ≤ 121
  | reportSlaveID _ _ _ _ => False
  | readFileRecord records => ∃ record, records = some [record]
  | writeFileRecord records => ∃ all, records = some all ∧ (∀ record ∈ all, record.Accepted) ∧
      ∀ record ∈ all.getLast?, record.data ≠ []
  | readWriteMultiple byteCount registers => ∃ all, registers = some all ∧ byteCount / 2 = all.length
  | readFIFOQueue count registers => ∃ all, registers = some all ∧ count = all.length
  | readMEI _ _ fieldCount fields fieldIds _ _ =>
    (fieldCount = 0 ∧ fields = List.replicate 64 none ∧ fieldIds = List.replicate 64 0) ∨
      (fieldCount > 0 ∧ fields.length = fieldCount ∧ fieldIds.length = fieldCount ∧
        ∀ field ∈ fields, ∃ text, field = some text ∧ ReadMEIResponse.IsAscii text)
  | _ => True

/-- The data length readData records for a message of so many octets, where it records one. -/
def recordedLength (length : Nat) : ModbusResponse → Option Int
  | readCoils _ => some (length + 2)
  | readInputDiscretes _ _ => some (length + 2)
  | readMultipleRegisters byteCount _ => some (byteCount + 3)
  | readInputRegisters byteCount _ => some (byteCount + 2)
  | writeCoil _ _ => some 6
  | writeSingleRegister _ _ => some 6
  | writeMultipleRegisters _ _ => some 6
  | readFileRecord _ => some (length + 2)
  | readWriteMultiple byteCount _ => some (byteCount + 3)
  | readMEI _ _ _ _ _ _ _ => some (length + 2)
  | _ => none

def ReadsBack (response : ModbusResponse) : Prop :=
  ∃ message, response.getMessage = .ok message ∧
    Decodes response.blank.readData message (response, response.recordedLength message.length)

def ReadsSelf (response : ModbusResponse) : Prop :=
  ∃ message recorded left, response.getMessage = .ok message ∧
    response.blank.readData.run message = .ok ((response, recorded), left)

section

variable {response : ModbusResponse}

theorem ReadsBack.readsSelf (reads : response.ReadsBack) : response.ReadsSelf := by
  obtain ⟨message, laid, decodes⟩ := reads
  exact ⟨message, _, [], laid, decodes.run⟩

theorem readsBack_readCoils {coils : Option BitVector} (fits : (readCoils coils).FitsPdu)
    (regular : (readCoils coils).Regular) : (readCoils coils).ReadsBack := by
  obtain ⟨⟨size, data, msbAccess⟩, rfl, whole⟩ := regular
  obtain ⟨rfl, rfl⟩ : size = data.length * 8 ∧ msbAccess = false := whole
  have short := fits.size _ rfl
  rw [List.length_cons] at short
  exact ⟨_, rfl, (decodes_readCoilsData (by omega)).andReturn fun read => (readCoils (some read.1), read.2)⟩

theorem readsBack_readInputDiscretes {bitCount : Int} {discretes : Option BitVector}
    (fits : (readInputDiscretes bitCount discretes).FitsPdu) (regular : (readInputDiscretes bitCount discretes).Regular) :
    (readInputDiscretes bitCount discretes).ReadsBack := by
  obtain ⟨⟨size, data, msbAccess⟩, rfl, whole, rfl⟩ := regular
  obtain ⟨rfl, rfl⟩ : bitCount = data.length * 8 ∧ msbAccess = false := whole
  have short := fits.size _ rfl
  rw [List.length_cons] at short
  exact ⟨_, rfl, (decodes_readCoilsData (by omega)).andReturn fun read =>
    (readInputDiscretes read.1.size (some read.1), read.2)⟩

theorem readsBack_readInputRegisters {byteCount : Int} {registers : Option (List Register)}
    (fits : (readInputRegisters byteCount registers).FitsPdu) (regular : (readInputRegisters byteCount registers).Regular) :
    (readInputRegisters byteCount registers).ReadsBack := by
  obtain ⟨all, rfl, rfl⟩ := regular
  have short := fits.size _ rfl
  rw [List.length_cons, length_flatMap_toBytes] at short
  exact ⟨_, rfl, decodes_readRegisters readInputRegisters fits.fields (by omega) (Int.le_refl 0) (by omega)⟩

theorem readsBack_writeCoil {reference : Int} {coil : Bool} (fits : FitsWord reference) (low : reference < 32768) :
    (writeCoil reference coil).ReadsBack :=
  ⟨_, rfl, (decodes_short ⟨by have := fits.1; omega, low⟩).bind
    (decodes_coilBytes (fun coil => (writeCoil reference coil, some 6)) coil)⟩

theorem readsBack_readFileRecord {records : Option (List RecordResponse)} (fits : (readFileRecord records).FitsPdu)
    (regular : (readFileRecord records).Regular) : (readFileRecord records).ReadsBack := by
  obtain ⟨record, rfl⟩ := regular
  have laid := ReadFileRecordResponse.getMessage_single record
  have short := fits.size _ laid
  rw [List.length_cons] at short
  exact ⟨_, laid, ReadFileRecordResponse.decodes_single (by omega)⟩

theorem readsBack_writeFileRecord {records : Option (List WrittenRecord)} (fits : (writeFileRecord records).FitsPdu)
    (regular : (writeFileRecord records).Regular) : (writeFileRecord records).ReadsBack := by
  obtain ⟨all, rfl, accepted, words⟩ := regular
  have laid := WriteFileRecord.getMessage_some all
  have size := fits.size _ laid
  rw [List.length_cons] at size
  have short : (all.flatMap WrittenRecord.getRequest).length < 256 := by omega
  exact ⟨_, laid, (WriteFileRecord.decodes fits.fields accepted words short).andReturn fun records =>
    (writeFileRecord (some records), none)⟩

theorem readsBack_readFIFOQueue {count : Int} {registers : Option (List Register)}
    (fits : (readFIFOQueue count registers).FitsPdu) (regular : (readFIFOQueue count registers).Regular) :
    (readFIFOQueue count registers).ReadsBack := by
  obtain ⟨all, rfl, rfl⟩ := regular
  have laid := ReadFIFOQueueResponse.getMessage_all all
  have short := fits.size _ laid
  rw [ReadFIFOQueueResponse.length_message] at short
  exact ⟨_, laid, (ReadFIFOQueueResponse.decodes (by omega)).andReturn (·, none)⟩

section Identification

variable {fieldLevel conformity fieldCount nextFieldId : Int} {fields : List (Option Text)} {fieldIds : List Int}
  {moreFollows : Bool}

theorem readsBack_readMEI_empty
    (fits : (readMEI fieldLevel conformity 0 (List.replicate 64 none) (List.replicate 64 0) moreFollows nextFieldId).FitsPdu) :
    (readMEI fieldLevel conformity 0 (List.replicate 64 none) (List.replicate 64 0) moreFollows nextFieldId).ReadsBack := by
  obtain ⟨level, conforms, -, next, -⟩ := fits.fields
  have laid := @ReadMEIResponse.getMessage_of_entries fieldLevel conformity nextFieldId moreFollows []
    (List.replicate 64 none) (List.replicate 64 0)
  exact ⟨_, laid, ReadMEIResponse.decodes_message level conforms next (fun entry member => nomatch member)
    (fits.size _ laid)⟩

theorem readsBack_readMEI_fields
    (fits : (readMEI fieldLevel conformity fieldCount fields fieldIds moreFollows nextFieldId).FitsPdu)
    (positive : fieldCount > 0) (texts : fields.length = fieldCount) (identified : fieldIds.length = fieldCount)
    (ascii : ∀ field ∈ fields, ∃ text, field = some text ∧ ReadMEIResponse.IsAscii text) :
    (readMEI fieldLevel conformity fieldCount fields fieldIds moreFollows nextFieldId).ReadsBack := by
  obtain ⟨level, conforms, -, next, identifiers⟩ := fits.fields
  have set : ∀ field ∈ fields, field ≠ none := by
    intro field member none
    obtain ⟨text, set, -⟩ := ascii field member
    rw [none] at set
    cases set
  obtain ⟨entries, rfl, rfl⟩ := @ReadMEIResponse.exists_entries fields fieldIds (by omega) set
  rw [List.length_map] at texts
  subst texts
  have laid := @ReadMEIResponse.getMessage_of_entries fieldLevel conformity nextFieldId moreFollows entries [] []
  rw [List.append_nil, List.append_nil] at laid
  have fit : ∀ entry ∈ entries, FitsOctet entry.1 := fun entry member =>
    identifiers entry.1 (List.mem_map_of_mem member)
  have decodes := @ReadMEIResponse.decodes_message _ _ _ moreFollows (List.replicate 64 none) (List.replicate 64 0)
    entries level conforms next fit (fits.size _ laid)
  have some_ : entries.length > 0 := by omega
  -- a text comes back from its octets as it is where every character is one octet
  have same : (entries.map fun entry => some (ReadMEIResponse.utf8 (ReadMEIResponse.storedText entry.2))) =
      entries.map (some ·.2) := by
    refine List.map_congr_left fun entry member => congrArg some (ReadMEIResponse.read_of_ascii ?_)
    obtain ⟨text, set, plain⟩ := ascii (some entry.2) (List.mem_map.mpr ⟨entry, member, rfl⟩)
    cases set
    exact plain
  rw [if_pos some_, if_pos some_, same, ReadMEIResponse.length_message] at decodes
  exact ⟨_, laid, decodes⟩

theorem readsBack_readMEI
    (fits : (readMEI fieldLevel conformity fieldCount fields fieldIds moreFollows nextFieldId).FitsPdu)
    (regular : (readMEI fieldLevel conformity fieldCount fields fieldIds moreFollows nextFieldId).Regular) :
    (readMEI fieldLevel conformity fieldCount fields fieldIds moreFollows nextFieldId).ReadsBack := by
  rcases regular with ⟨rfl, rfl, rfl⟩ | ⟨positive, texts, identified, ascii⟩
  · exact readsBack_readMEI_empty fits
  · exact readsBack_readMEI_fields fits positive texts identified ascii

theorem regular_of_readMEI {octets left : List UInt8} {recorded : Option Int}
    (fits : (readMEI fieldLevel conformity fieldCount fields fieldIds moreFollows nextFieldId).FieldsFit)
    (laid : (readMEI fieldLevel conformity fieldCount fields fieldIds moreFollows nextFieldId).getMessage = .ok octets)
    (size : octets.length ≤ 252)
    (read : (readMEI fieldLevel conformity fieldCount fields fieldIds moreFollows nextFieldId).blank.readData.run octets =
      .ok ((readMEI fieldLevel conformity fieldCount fields fieldIds moreFollows nextFieldId, recorded), left)) :
    (readMEI fieldLevel conformity fieldCount fields fieldIds moreFollows nextFieldId).Regular := by
  obtain ⟨level, conforms, count, next, identifiers⟩ := fits
  obtain ⟨entries, rfl, rfl, texts, identified⟩ := ReadMEIResponse.getMessage_eq_ok count.1 laid
  have fit : ∀ entry ∈ entries, FitsOctet entry.1 := by
    intro entry member
    apply identifiers
    refine @List.mem_of_mem_take _ entries.length _ _ ?_
    rw [identified]
    exact List.mem_map_of_mem member
  have decodes := @ReadMEIResponse.decodes_message _ _ _ moreFollows (List.replicate 64 none) (List.replicate 64 0)
    entries level conforms next fit size
  obtain ⟨-, -, -, fields_eq, fieldIds_eq, -, -⟩ := readMEI.inj (congrArg Prod.fst (decodes.unique_run read).1)
  by_cases some_ : entries.length > 0
  · rw [if_pos some_] at fields_eq fieldIds_eq
    refine .inr ⟨by omega, ?_, ?_, ?_⟩
    · rw [fields_eq, List.length_map]
    · rw [fieldIds_eq, List.length_map]
    · intro field member
      rw [fields_eq] at member
      obtain ⟨entry, -, rfl⟩ := List.mem_map.mp member
      exact ⟨_, rfl, ReadMEIResponse.isAscii_read entry.2⟩
  · rw [if_neg some_] at fields_eq fieldIds_eq
    exact .inl ⟨by omega, fields_eq, fieldIds_eq⟩

end Identification

theorem readsBack_of_regular (fits : response.FitsPdu) (regular : response.Regular) : response.ReadsBack := by
  cases response with
  | readCoils coils => exact readsBack_readCoils fits regular
  | readInputDiscretes bitCount discretes => exact readsBack_readInputDiscretes fits regular
  | readMultipleRegisters byteCount registers =>
    obtain ⟨all, rfl, half⟩ := regular
    exact decodes_registersMessage readMultipleRegisters half fits.fields fits.size
  | readInputRegisters byteCount registers => exact readsBack_readInputRegisters fits regular
  | writeCoil reference coil => exact readsBack_writeCoil fits.fields regular
  | writeSingleRegister reference registerValue => exact ⟨_, rfl, decodes_twoWords _ fits.fields.1 fits.fields.2⟩
  | writeMultipleCoils reference bitCount => exact ⟨_, rfl, decodes_twoWords _ fits.fields.1 fits.fields.2⟩
  | writeMultipleRegisters reference wordCount => exact ⟨_, rfl, decodes_twoWords _ fits.fields.1 fits.fields.2⟩
  | readExceptionStatus status =>
    exact ⟨_, rfl, (decodes_unsignedByte fits.fields).andReturn fun status => (readExceptionStatus status, none)⟩
  | readSerialDiagnostics function data =>
    exact ⟨_, rfl, (decodes_unsignedShort fits.fields.1).bind
      ((decodes_short fits.fields.2).andReturn fun data => (readSerialDiagnostics function data, none))⟩
  | readCommEventCounter status events => exact ⟨_, rfl, decodes_twoWords _ fits.fields.1 fits.fields.2⟩
  | readCommEventLog status eventCount messageCount events =>
    obtain ⟨all, rfl, short⟩ := regular
    exact ⟨_, rfl, (ReadCommEventLogResponse.decodes fits.fields.1 fits.fields.2.1 fits.fields.2.2 short).andReturn
      (·, none)⟩
  | reportSlaveID length data status slaveId => exact regular.elim
  | readFileRecord records => exact readsBack_readFileRecord fits regular
  | writeFileRecord records => exact readsBack_writeFileRecord fits regular
  | maskWriteRegister reference andMask orMask =>
    exact ⟨_, rfl, decodes_threeWords _ fits.fields.1 fits.fields.2.1 fits.fields.2.2⟩
  | readWriteMultiple byteCount registers =>
    obtain ⟨all, rfl, half⟩ := regular
    exact decodes_registersMessage readWriteMultiple half fits.fields fits.size
  | readFIFOQueue count registers => exact readsBack_readFIFOQueue fits regular
  | readMEI fieldLevel conformity fieldCount fields fieldIds moreFollows nextFieldId => exact readsBack_readMEI fits regular
  | exception exceptionCode =>
    exact ⟨_, rfl, (decodes_unsignedByte fits.fields).andReturn fun code => (exception code, none)⟩

section Itself

variable {octets left : List UInt8} {recorded : Option Int}

theorem regular_of_readCoils {coils : Option BitVector} (laid : (readCoils coils).getMessage = .ok octets)
    (size : octets.length ≤ 252)
    (read : (readCoils coils).blank.readData.run octets = .ok ((readCoils coils, recorded), left)) :
    (readCoils coils).Regular := by
  cases coils with
  | none => nomatch laid
  | some vector =>
    cases laid
    rw [List.length_cons] at size
    have decodes := (@decodes_readCoilsData vector.data (by omega)).andReturn fun read =>
      (readCoils (some read.1), read.2)
    have same := Option.some.inj (readCoils.inj (congrArg Prod.fst (decodes.unique_run read).1))
    exact ⟨vector, rfl, by rw [same]; exact ⟨rfl, rfl⟩⟩

theorem regular_of_readInputDiscretes {bitCount : Int} {discretes : Option BitVector}
    (laid : (readInputDiscretes bitCount discretes).getMessage = .ok octets) (size : octets.length ≤ 252)
    (read : (readInputDiscretes bitCount discretes).blank.readData.run octets =
      .ok ((readInputDiscretes bitCount discretes, recorded), left)) :
    (readInputDiscretes bitCount discretes).Regular := by
  cases discretes with
  | none => nomatch laid
  | some vector =>
    cases laid
    rw [List.length_cons] at size
    have decodes := (@decodes_readCoilsData vector.data (by omega)).andReturn fun read =>
      (readInputDiscretes read.1.size (some read.1), read.2)
    obtain ⟨count, same⟩ := readInputDiscretes.inj (congrArg Prod.fst (decodes.unique_run read).1)
    have same := Option.some.inj same
    exact ⟨vector, rfl, by rw [same]; exact ⟨rfl, rfl⟩, by rw [count, ← same]⟩

theorem regular_of_readInputRegisters {byteCount : Int} {registers : Option (List Register)}
    (laid : (readInputRegisters byteCount registers).getMessage = .ok octets) (size : octets.length ≤ 252)
    (read : (readInputRegisters byteCount registers).blank.readData.run octets =
      .ok ((readInputRegisters byteCount registers, recorded), left)) :
    (readInputRegisters byteCount registers).Regular := by
  cases registers with
  | none => nomatch laid
  | some all =>
    cases laid
    rw [List.length_cons, length_flatMap_toBytes] at size
    have count : FitsOctet (all.length * 2) := by
      unfold FitsOctet
      omega
    have decodes := @decodes_readRegisters (all.length * 2) 0 all readInputRegisters count (by omega)
      (Int.le_refl 0) (by omega)
    exact ⟨all, rfl, (readInputRegisters.inj (congrArg Prod.fst (decodes.unique_run read).1)).1⟩

theorem regular_of_readFileRecord {records : Option (List RecordResponse)}
    (laid : (readFileRecord records).getMessage = .ok octets) (size : octets.length ≤ 252)
    (read : (readFileRecord records).blank.readData.run octets = .ok ((readFileRecord records, recorded), left)) :
    (readFileRecord records).Regular := by
  match records, laid, read with
  | some [record], laid, read => exact ⟨record, rfl⟩
  | some [], laid, read =>
    cases laid
    nomatch read
  | some (first :: second :: others), laid, read =>
    -- getMessage lays the second record over the end of the first
    have several : 2 ≤ (first :: second :: others).length := by
      rw [List.length_cons, List.length_cons]
      omega
    exact absurd rfl (ReadFileRecordResponse.not_readsSelf several laid size read)

theorem regular_of_readFIFOQueue {count : Int} {registers : Option (List Register)} (positive : 0 ≤ count)
    (laid : (readFIFOQueue count registers).getMessage = .ok octets) (size : octets.length ≤ 252)
    (read : (readFIFOQueue count registers).blank.readData.run octets =
      .ok ((readFIFOQueue count registers, recorded), left)) :
    (readFIFOQueue count registers).Regular := by
  obtain ⟨written, rfl, rfl⟩ := ReadFIFOQueueResponse.getMessage_eq_ok positive laid
  rw [ReadFIFOQueueResponse.length_message] at size
  have decodes := (@ReadFIFOQueueResponse.decodes written (by omega)).andReturn fun response =>
    (response, (none : Option Int))
  have same := congrArg Prod.fst (decodes.unique_run read).1
  exact ⟨written, (readFIFOQueue.inj same).2, rfl⟩

end Itself

theorem regular_of_readsSelf (fits : response.FitsPdu) (self : response.ReadsSelf) : response.Regular := by
  obtain ⟨message, recorded, left, laid, read⟩ := self
  have size := fits.size _ laid
  cases response with
  | readCoils coils => exact regular_of_readCoils laid size read
  | readInputDiscretes bitCount discretes => exact regular_of_readInputDiscretes laid size read
  | readMultipleRegisters byteCount registers =>
    obtain ⟨all, rfl, half⟩ := counted_of_readsSelf readMultipleRegisters (fun _ _ _ _ same => readMultipleRegisters.inj same)
      fits.fields laid size read
    exact ⟨all, rfl, half⟩
  | readInputRegisters byteCount registers => exact regular_of_readInputRegisters laid size read
  | writeCoil reference coil =>
    obtain ⟨⟨value, rest⟩, first, last⟩ := bind_eq_ok.mp read
    obtain ⟨flag, -, last⟩ := bind_eq_ok.mp last
    obtain ⟨zero, -, last⟩ := bind_eq_ok.mp last
    cases last
    exact readShort_yields _ _ _ first
  | readCommEventLog status eventCount messageCount events =>
    obtain ⟨middle, first, last⟩ := bind_eq_ok.mp read
    have kept : middle.1 = readCommEventLog status eventCount messageCount events :=
      congrArg (fun (result : (ModbusResponse × Option Int) × List UInt8) => result.1.1) (Except.ok.inj last)
    exact ReadCommEventLogResponse.readData_yields _ _ _ first _ _ _ _ kept
  | reportSlaveID length data status slaveId =>
    obtain ⟨middle, first, last⟩ := bind_eq_ok.mp read
    have kept : middle.1 = reportSlaveID length data status slaveId :=
      congrArg (fun (result : (ModbusResponse × Option Int) × List UInt8) => result.1.1) (Except.ok.inj last)
    exact ReportSlaveIDResponse.not_readsSelf laid size first kept
  | readFileRecord records => exact regular_of_readFileRecord laid size read
  | writeFileRecord records =>
    cases records with
    | none => nomatch laid
    | some all =>
      obtain ⟨middle, taken, last⟩ := bind_eq_ok.mp read
      cases last
      exact ⟨_, rfl, WriteFileRecord.regular_of_read fits.fields laid size taken⟩
  | readWriteMultiple byteCount registers =>
    obtain ⟨all, rfl, half⟩ := counted_of_readsSelf readWriteMultiple (fun _ _ _ _ same => readWriteMultiple.inj same)
      fits.fields laid size read
    exact ⟨all, rfl, half⟩
  | readFIFOQueue count registers => exact regular_of_readFIFOQueue fits.fields.1 laid size read
  | readMEI fieldLevel conformity fieldCount fields fieldIds moreFollows nextFieldId =>
    exact regular_of_readMEI fits.fields laid size read
  | _ => trivial

theorem readsSelf_iff (fits : response.FitsPdu) : response.ReadsSelf ↔ response.Regular :=
  ⟨regular_of_readsSelf fits, fun regular => (readsBack_of_regular fits regular).readsSelf⟩

end

end ModbusResponse

end EtherNetIP.Modbus
