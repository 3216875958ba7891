import EtherNetIP.Modbus.FrameWrites
import EtherNetIP.Modbus.ResponseRoundTrip
import EtherNetIP.Modbus.RtuCalls

/-! The responses that the RTU transport reads from its line.

The octets of a response are counted by its function code or by a count in it, as
those of a request are. A byte count that is odd counts an octet that no response
carries, and behind an identification without objects one more is waited for.
-/

set_option autoImplicit false

namespace EtherNetIP.Modbus

open EtherNetIP.Library

/-- ModbusMessageImpl.readFrom of a headless response that has been created. -/
def ModbusResponse.readFrom (response : ModbusMessage ModbusResponse) : DataInput (ModbusMessage ModbusResponse) := do
  let unitID ← readUnsignedByte
  let functionCode ← readUnsignedByte
  let (body, length) ← response.body.readData
  return { response with
    headless := true, unitID, functionCode, body, dataLength := length.getD response.dataLength }

/-- The frame of the response is as long as the transport takes it to be. -/
def ModbusResponse.Framed : ModbusResponse → Prop
  | readMultipleRegisters byteCount _ | readWriteMultiple byteCount _ => byteCount % 2 = 0
  | readMEI _ _ fieldCount _ _ _ _ => fieldCount ≠ 0
  | _ => True

namespace ModbusRTUTransport

def copyFields : Nat → Receiving Unit
  | 0 => return ()
  | count + 1 => do
    let id ← readByte
    write [id]
    let len ← readByte
    write [len]
    let inpBuf ← readBytes len.toNat
    write inpBuf
    copyFields count

/-- The fields behind the head of an identification and the CRC. Their number is a signed octet. -/
def readFields (fieldCount : UInt8) : Receiving Unit := do
  copyFields (if fieldCount < 128 then fieldCount.toNat else 0)
  if fieldCount = 0 then do
    let err ← readByte
    write [err]
    readRequestData 0
  else readRequestData 0

def getResponse (function : UInt8) : Receiving Unit :=
  if function &&& 0x80 = 0 then
    match (function.toNat : Int) with
    | FunctionCode.readCoils | FunctionCode.readInputDiscretes | FunctionCode.readMultipleRegisters
    | FunctionCode.readInputRegisters | FunctionCode.readCommEventLog | FunctionCode.reportSlaveID
    | FunctionCode.readFileRecord | FunctionCode.writeFileRecord | FunctionCode.readWriteMultiple => do
      let cnt ← readByte
      write [cnt]
      readRequestData cnt.toNat
    | FunctionCode.writeCoil | FunctionCode.writeSingleRegister | FunctionCode.readCommEventCounter
    | FunctionCode.writeMultipleCoils | FunctionCode.writeMultipleRegisters | FunctionCode.readSerialDiagnostics =>
      readRequestData 4
    | FunctionCode.readExceptionStatus => readRequestData 1
    | FunctionCode.maskWriteRegister => readRequestData 6
    | FunctionCode.readFIFOQueue => do
      let b1 ← readByte
      write [b1]
      let b2 ← readByte
      write [b2]
      readRequestData (b1.toNat * 256 + b2.toNat)
    | FunctionCode.readMEI => do
      let sc ← readByte
      if sc ≠ 0x0e then throw .ioException else do
        write [sc]
        let inpBuf ← readBytes 5
        write inpBuf
        readFields (inpBuf.getD 4 0)
    | _ => throw .ioException
  else readRequestData 1

def reset : Receiving Unit := fun receiver => (.ok (), receiver.reset)

def readResponseChecked (response : ModbusMessage ModbusResponse) : Receiving (ModbusMessage ModbusResponse) := do
  let receiver ← get
  let dlength := receiver.count - 2
  if ← receiver.checkCRC dlength then do
    let (response, _) ← (ModbusResponse.readFrom response).run (receiver.inBuffer.take dlength)
    return response
  else throw .ioException

def readResponseFrame : Receiving (ModbusMessage ModbusResponse) := do
  let uid ← readByte
  let fc ← readByte
  reset
  write [uid]
  write [fc]
  getResponse fc
  readResponseChecked (createModbusResponse fc.toNat)

/-- The text of the exception is made of lastRequest, which is never set. -/
def readResponseIn (receiver : Receiver) : Except Throwable (ModbusMessage ModbusResponse) × Receiver :=
  match readResponseFrame.run receiver with
  | (.ok response, after) => (.ok response, after)
  | (.error fault, after) => (.error (if fault.isIO then .nullPointerException else fault), after)

section Lengths

variable {first later octets crc : List UInt8} {receiver after : Receiver}

theorem takes_value {value : UInt8} {next : UInt8 → Receiving Unit} (further : Takes (next value) later) :
    Takes (readByte >>= fun value => write [value] >>= fun _ => next value) (value :: later) := by
  intro receiver content rest collected arriving fits
  have held : Collected content { receiver with line := receiver.line.behind 1 } :=
    ⟨collected.attached, collected.size, collected.count, collected.octets⟩
  rw [List.length_cons] at fits
  obtain ⟨written, line⟩ := held.write [value] (by rw [List.length_singleton]; omega)
  have behind : (Receiver.write [value] { receiver with line := receiver.line.behind 1 }).line.flatten =
      later ++ rest := by
    rw [line, flatten_behind, arriving]
    rfl
  obtain ⟨after, ran, heldOn, left⟩ := further _ _ rest written behind
    (by rw [List.length_append, List.length_singleton]; omega)
  refine ⟨after, ?_, ?_, ?_⟩
  · rw [run_bind_of_ok (run_readByte arriving)]
    exact ran
  · rw [List.append_assoc] at heldOn
    exact heldOn
  · rw [left, line]
    dsimp only
    rw [behind_behind, List.length_cons, Nat.add_comm]

theorem takes_values {next : List UInt8 → Receiving Unit} (further : Takes (next first) later) :
    Takes (readBytes first.length >>= fun inpBuf => write inpBuf >>= fun _ => next inpBuf) (first ++ later) := by
  intro receiver content rest collected arriving fits
  rw [List.length_append] at fits
  rw [List.append_assoc] at arriving
  have held : Collected content { receiver with line := receiver.line.behind first.length } :=
    ⟨collected.attached, collected.size, collected.count, collected.octets⟩
  obtain ⟨written, line⟩ := held.write first (by omega)
  have behind : (Receiver.write first { receiver with line := receiver.line.behind first.length }).line.flatten =
      later ++ rest := by
    rw [line, flatten_behind, arriving]
    exact List.drop_left' rfl
  obtain ⟨after, ran, heldOn, left⟩ := further _ _ rest written behind (by rw [List.length_append]; omega)
  refine ⟨after, ?_, ?_, ?_⟩
  · rw [run_bind_of_ok (run_readBytes arriving)]
    exact ran
  · rw [List.append_assoc] at heldOn
    exact heldOn
  · rw [left, line]
    dsimp only
    rw [behind_behind, List.length_append]

theorem takes_copyFields {entries : List (Int × List UInt8)} {next : Receiving Unit}
    (small : ∀ entry ∈ entries, entry.2.length < 256) (further : Takes next later) :
    Takes (copyFields entries.length >>= fun _ => next) (entries.flatMap ReadMEIResponse.encode ++ later) := by
  induction entries with
  | nil =>
      change Takes (pure () >>= fun _ => next) later
      rw [pure_bind]
      exact further
  | cons entry entries ih =>
      have others := ih fun other inside => small other (.tail _ inside)
      have size : (octet entry.2.length).toNat = entry.2.length := by
        have short := small entry (.head _)
        have fits : ((octet entry.2.length).toNat : Int) = entry.2.length :=
          toNat_octet_of_fits ⟨by omega, by omega⟩
        omega
      -- the text, behind its own length
      have text : Takes (readBytes (octet entry.2.length).toNat >>= fun inpBuf => write inpBuf >>= fun _ =>
          copyFields entries.length >>= fun _ => next)
            (entry.2 ++ (entries.flatMap ReadMEIResponse.encode ++ later)) := by
        rw [size]
        exact takes_front others
      have field := @takes_value _ (octet entry.1) (fun _ => readByte >>= fun len => write [len] >>= fun _ =>
        readBytes len.toNat >>= fun inpBuf => write inpBuf >>= fun _ => copyFields entries.length >>= fun _ => next)
          (takes_value text)
      rw [List.length_cons, List.flatMap_cons, List.append_assoc]
      simp only [copyFields, bind_assoc]
      exact field

end Lengths

section Frames

variable {response : ModbusResponse} {message crc : List UInt8}

def responseCode (response : ModbusResponse) : UInt8 := UInt8.ofNat response.functionCode.toNat

theorem takes_counted_octets {octets : List UInt8} {count : Int} (announced : count = octets.length)
    (size : octets.length < 256) (check : crc.length = 2) :
    Takes (readByte >>= fun cnt => write [cnt] >>= fun _ => readRequestData cnt.toNat)
      (octet count :: octets ++ crc) := by
  rw [announced]
  exact takes_octets size check

theorem takes_registers {byteCount : Int} {registers : List Register}
    (laid : registersMessage byteCount (some registers) = .ok message) (half : byteCount / 2 = registers.length)
    (even : byteCount % 2 = 0) (announced : FitsOctet byteCount) (size : message.length ≤ 252)
    (check : crc.length = 2) :
    Takes (readByte >>= fun cnt => write [cnt] >>= fun _ => readRequestData cnt.toNat) (message ++ crc) := by
  rw [registersMessage_of_count half announced] at laid
  cases laid
  rw [List.length_cons, length_flatMap_toBytes] at size
  refine takes_counted_octets ?_ ?_ check
  · rw [length_flatMap_toBytes]
    omega
  · rw [length_flatMap_toBytes]
    omega

theorem takes_readFIFOQueue {registers : List Register} (size : (ReadFIFOQueueResponse.message registers).length ≤ 252)
    (check : crc.length = 2) :
    Takes (getResponse 24) (ReadFIFOQueueResponse.message registers ++ crc) := by
  rw [ReadFIFOQueueResponse.length_message] at size
  let count : Int := registers.length * 2 + 2
  have word : (octet (count >>> (8 : Nat))).toNat * 256 + (octet count).toNat = 2 + 2 * registers.length := by
    have low := toNat_octet count
    have high := toNat_octet (count >>> (8 : Nat))
    rw [shiftRight_eight] at high ⊢
    omega
  have data : Takes (readRequestData ((octet (count >>> (8 : Nat))).toNat * 256 + (octet count).toNat))
      (writeShort registers.length ++ registers.flatMap Register.toBytes ++ crc) := by
    rw [word]
    apply takes_requestData
    rw [List.length_append, List.length_append, length_flatMap_toBytes, length_writeShort, check]
  exact takes_value (takes_value data)

theorem takes_readMEI {fieldLevel conformity nextFieldId : Int} {moreFollows : Bool} {entries : List (Int × Text)}
    (size : (ReadMEIResponse.message fieldLevel conformity moreFollows nextFieldId entries).length ≤ 252)
    (some : entries ≠ []) (check : crc.length = 2) :
    Takes (getResponse 43)
      (ReadMEIResponse.message fieldLevel conformity moreFollows nextFieldId entries ++ crc) := by
  let stored := entries.map ReadMEIResponse.storedEntry
  let head : List UInt8 := [octet fieldLevel, octet conformity, if moreFollows then 255 else 0, octet nextFieldId,
    octet entries.length]
  have whole : ReadMEIResponse.message fieldLevel conformity moreFollows nextFieldId entries =
      14 :: (head ++ stored.flatMap ReadMEIResponse.encode) := rfl
  have length : stored.length = entries.length := List.length_map _
  rw [whole, List.length_cons, List.length_append] at size
  have several := ReadMEIResponse.length_le_octets stored
  have five : head.length = 5 := rfl
  have positive := List.length_pos_of_ne_nil some
  have count : (octet entries.length).toNat = entries.length := by
    have fits : ((octet entries.length).toNat : Int) = entries.length := toNat_octet_of_fits ⟨by omega, by omega⟩
    omega
  have small : ∀ entry ∈ stored, entry.2.length < 256 := by
    intro entry inside
    have part := ReadMEIResponse.length_le_of_mem inside
    omega
  have last : Takes (readRequestData 0) crc := takes_requestData check
  have fields := takes_copyFields small last
  -- the count of fields is below 128 and not zero
  have below : octet entries.length < 128 := by
    apply UInt8.lt_iff_toNat_lt.mpr
    change _ < 128
    omega
  have nonzero : octet entries.length ≠ 0 := by
    intro zero
    rw [zero] at count
    change 0 = _ at count
    omega
  have counted : Takes (readFields (octet entries.length)) (stored.flatMap ReadMEIResponse.encode ++ crc) := by
    unfold readFields
    rw [if_pos below, count, if_neg nonzero, ← length]
    exact fields
  have front := @takes_values head _ (fun inpBuf => readFields (inpBuf.getD 4 0)) counted
  -- the sub code is the one that is known
  have known := @takes_value _ 14 (fun _ => readBytes 5 >>= fun inpBuf => write inpBuf >>= fun _ =>
    readFields (inpBuf.getD 4 0)) front
  rw [whole, List.cons_append, List.append_assoc]
  intro receiver content rest collected arriving fits
  obtain ⟨after, ran, held, left⟩ := known receiver content rest collected arriving fits
  refine ⟨after, ?_, held, left⟩
  rw [run_bind_of_ok (run_readByte arriving)] at ran
  exact (run_bind_of_ok (run_readByte arriving)).trans ran

theorem takes_exception {function : UInt8} (high : function &&& 0x80 ≠ 0) (length : message.length = 1)
    (check : crc.length = 2) : Takes (getResponse function) (message ++ crc) := by
  unfold getResponse
  rw [if_neg high]
  exact takes_fixed length check

/-- The function code is that of the class; an exception response has any that is marked as one. -/
def Coded (function : UInt8) : ModbusResponse → Prop
  | .exception _ => function &&& 0x80 ≠ 0
  | response => function = responseCode response

/-- What is read behind the function code is the message and its CRC, class by class. -/
theorem takes_getResponse {function : UInt8} (coded : Coded function response) (fits : response.FitsPdu)
    (regular : response.Regular) (framed : response.Framed) (laid : response.getMessage = .ok message)
    (check : crc.length = 2) : Takes (getResponse function) (message ++ crc) := by
  have size := fits.size message laid
  cases response with
  | readCoils coils =>
    obtain rfl : function = 1 := coded
    obtain ⟨vector, rfl, -⟩ := regular
    cases laid
    rw [List.length_cons] at size
    exact takes_octets (show vector.data.length < 256 by omega) check
  | readInputDiscretes bitCount discretes =>
    obtain rfl : function = 2 := coded
    obtain ⟨vector, rfl, -⟩ := regular
    cases laid
    rw [List.length_cons] at size
    exact takes_octets (show vector.data.length < 256 by omega) check
  | readMultipleRegisters byteCount registers =>
    obtain rfl : function = 3 := coded
    obtain ⟨all, rfl, half⟩ := regular
    exact takes_registers laid half framed fits.fields size check
  | readInputRegisters byteCount registers =>
    obtain rfl : function = 4 := coded
    obtain ⟨all, rfl, -⟩ := regular
    cases laid
    rw [List.length_cons] at size
    refine takes_counted_octets ?_ (show (all.flatMap Register.toBytes).length < 256 by omega) check
    rw [length_flatMap_toBytes]
    omega
  | writeCoil reference coil =>
    obtain rfl : function = 5 := coded
    cases laid
    have length : (writeShort reference ++ coilBytes coil).length = 4 := by
      cases coil <;> rfl
    exact takes_fixed length check
  | writeSingleRegister reference registerValue =>
    obtain rfl : function = 6 := coded
    cases laid
    exact takes_fixed (length_twoWords ..) check
  | writeMultipleCoils reference bitCount =>
    obtain rfl : function = 15 := coded
    cases laid
    exact takes_fixed (length_twoWords ..) check
  | writeMultipleRegisters reference wordCount =>
    obtain rfl : function = 16 := coded
    cases laid
    exact takes_fixed (length_twoWords ..) check
  | readExceptionStatus status =>
    obtain rfl : function = 7 := coded
    cases laid
    exact takes_fixed rfl check
  | readSerialDiagnostics diagnostic data =>
    obtain rfl : function = 8 := coded
    cases laid
    exact takes_fixed (length_twoWords ..) check
  | readCommEventCounter status events =>
    obtain rfl : function = 11 := coded
    cases laid
    exact takes_fixed (length_twoWords ..) check
  | readCommEventLog status eventCount messageCount events =>
    obtain rfl : function = 12 := coded
    obtain ⟨all, rfl, -⟩ := regular
    cases laid
    rw [List.length_cons] at size
    refine takes_counted_octets ?_ (show (threeWords status eventCount messageCount ++ all).length < 256 by omega) check
    rw [List.length_append, length_threeWords]
    omega
  | reportSlaveID length data status slaveId => exact regular.elim
  | readFileRecord records =>
    obtain rfl : function = 20 := coded
    obtain ⟨record, rfl⟩ := regular
    rw [ModbusResponse.getMessage, ReadFileRecordResponse.getMessage_single] at laid
    cases laid
    rw [List.length_cons] at size
    exact takes_octets (by omega) check
  | writeFileRecord records =>
    obtain rfl : function = 21 := coded
    obtain ⟨all, rfl, -⟩ := regular
    rw [ModbusResponse.getMessage, WriteFileRecord.getMessage_some] at laid
    cases laid
    rw [List.length_cons] at size
    exact takes_octets (by omega) check
  | maskWriteRegister reference andMask orMask =>
    obtain rfl : function = 22 := coded
    cases laid
    exact takes_fixed (length_threeWords ..) check
  | readWriteMultiple byteCount registers =>
    obtain rfl : function = 23 := coded
    obtain ⟨all, rfl, half⟩ := regular
    exact takes_registers laid half framed fits.fields size check
  | readFIFOQueue count registers =>
    obtain rfl : function = 24 := coded
    obtain ⟨written, -, rfl⟩ := ReadFIFOQueueResponse.getMessage_eq_ok fits.fields.1 laid
    exact takes_readFIFOQueue size check
  | readMEI fieldLevel conformity fieldCount fields fieldIds moreFollows nextFieldId =>
    obtain rfl : function = 43 := coded
    obtain ⟨entries, rfl, rfl, -⟩ := ReadMEIResponse.getMessage_eq_ok fits.fields.2.2.1.1 laid
    refine takes_readMEI size ?_ check
    rintro rfl
    exact framed rfl
  | exception exceptionCode =>
    cases laid
    exact takes_exception coded rfl check

end Frames

section Reading

variable {receiver after : Receiver} {uid function : UInt8} {octets rest : List UInt8}
  {created read : ModbusMessage ModbusResponse} {response : ModbusResponse}

theorem run_readResponseChecked {left : List UInt8} (checked : receiver.checkCRC (receiver.count - 2) = .ok true)
    (taken : (ModbusResponse.readFrom created).run (receiver.inBuffer.take (receiver.count - 2)) = .ok (read, left)) :
    (readResponseChecked created).run receiver = (.ok read, receiver) := by
  have got : (get : Receiving Receiver).run receiver = (.ok receiver, receiver) := rfl
  unfold readResponseChecked
  rw [run_bind_of_ok got]
  dsimp only
  rw [checked, taken, run_bind_of_ok (run_lift _ receiver), if_pos rfl, run_bind_of_ok (run_lift _ receiver)]
  rfl

theorem readResponseChecked_eq_ok (ran : (readResponseChecked created).run receiver = (.ok read, after)) :
    after = receiver ∧ receiver.checkCRC (receiver.count - 2) = .ok true ∧ ∃ left,
      (ModbusResponse.readFrom created).run (receiver.inBuffer.take (receiver.count - 2)) = .ok (read, left) := by
  obtain ⟨_, middle, got, ran⟩ := run_bind_eq_ok ran
  cases got
  obtain ⟨same, middle, test, ran⟩ := run_bind_eq_ok ran
  rw [run_lift] at test
  cases same with
  | false =>
      rw [if_neg Bool.false_ne_true] at ran
      cases ran
  | true =>
      obtain ⟨checked, rfl⟩ := Prod.mk.inj test
      rw [if_pos rfl] at ran
      obtain ⟨⟨response, left⟩, middle, fields, last⟩ := run_bind_eq_ok ran
      rw [run_lift] at fields
      obtain ⟨taken, rfl⟩ := Prod.mk.inj fields
      cases last
      exact ⟨rfl, checked, left, taken⟩

theorem readResponseFrame_front (ready : Ready receiver) (arriving : receiver.line.flatten = uid :: function :: octets) :
    ∃ middle, readResponseFrame.run receiver =
        (getResponse function >>= fun _ => readResponseChecked (createModbusResponse function.toNat)).run middle ∧
      Collected [uid, function] middle ∧ middle.line.flatten = octets := by
  have second : (receiver.line.behind 1).flatten = function :: octets := by
    rw [flatten_behind, arriving]
    rfl
  have held : Collected [] (Receiver.reset { receiver with line := (receiver.line.behind 1).behind 1 }) :=
    ⟨ready.attached, ready.size, rfl, rfl⟩
  obtain ⟨first, line⟩ := held.write [uid] (by change 1 ≤ 256; decide)
  obtain ⟨both, line'⟩ := first.write [function] (by change 2 ≤ 256; decide)
  refine ⟨_, ?_, both, ?_⟩
  · unfold readResponseFrame
    have reads : readByte.run { receiver with line := receiver.line.behind 1 } = _ := run_readByte second
    rw [run_bind_of_ok (run_readByte arriving), run_bind_of_ok reads]
    rfl
  · rw [line', line]
    change ((receiver.line.behind 1).behind 1).flatten = octets
    rw [flatten_behind, second]
    rfl

theorem run_responseFrom (created : ModbusMessage ModbusResponse) (uid function : UInt8) (body : List UInt8) :
    (ModbusResponse.readFrom created).run (uid :: function :: body) =
      created.body.readData.run body >>= fun read => .ok ({ created with
        headless := true, unitID := uid.toNat, functionCode := function.toNat, body := read.1.1,
        dataLength := read.1.2.getD created.dataLength }, read.2) := rfl

theorem high_bit {function : UInt8} (high : function &&& 0x80 ≠ 0) : 128 ≤ function.toNat := by
  by_contra low
  apply high
  apply UInt8.toNat_inj.mp
  have bit : (function &&& 0x80).toNat = function.toNat &&& 2 ^ 7 := UInt8.toNat_and ..
  rw [bit]
  apply Nat.eq_of_testBit_eq
  intro place
  rw [Nat.testBit_and, Nat.testBit_two_pow]
  by_cases seventh : 7 = place
  · rw [← seventh, Nat.testBit_lt_two_pow (by omega), Bool.false_and]
    rfl
  · rw [decide_eq_false seventh, Bool.and_false]
    exact (Nat.zero_testBit place).symm

theorem blank_of_coded (coded : Coded function response) :
    (createModbusResponse function.toNat).body = response.blank := by
  cases response with
  | exception exceptionCode =>
      have high := high_bit coded
      have whole : function.toNat < 256 := function.toNat_lt
      unfold createModbusResponse
      split
      -- the numbers of the other classes are not marked
      all_goals first
        | rfl
        | (rename_i same; exact absurd (Int.ofNat.inj same) (by omega))
  | _ =>
      cases coded
      rfl

/-- A response that is sent as it is taken is read back from its frame, whatever stands behind it. -/
theorem readResponseFrame_sent {message : List UInt8} (coded : Coded function response) (fits : response.FitsPdu)
    (regular : response.Regular) (framed : response.Framed) (laid : response.getMessage = .ok message)
    (ready : Ready receiver)
    (arriving : receiver.line.flatten = (uid :: function :: message) ++
      [(calculateCRC (uid :: function :: message) 0 (uid :: function :: message).length).1,
        (calculateCRC (uid :: function :: message) 0 (uid :: function :: message).length).2] ++ rest) :
    ∃ read after, readResponseFrame.run receiver = (.ok read, after) ∧ after.line.flatten = rest ∧
      read.unitID = uid.toNat ∧ read.functionCode = function.toNat ∧ read.body = response := by
  let low := (calculateCRC (uid :: function :: message) 0 (uid :: function :: message).length).1
  let high := (calculateCRC (uid :: function :: message) 0 (uid :: function :: message).length).2
  have size := fits.size message laid
  have arriving : receiver.line.flatten = uid :: function :: (message ++ [low, high] ++ rest) := arriving
  obtain ⟨middle, ran, held, behind⟩ := readResponseFrame_front ready arriving
  obtain ⟨after, got, whole, left⟩ := takes_getResponse coded fits regular framed laid
    (show [low, high].length = 2 from rfl) middle _ rest held behind (by
      rw [List.length_append]
      change 2 + (message.length + 2) ≤ 256
      omega)
  have whole : Collected (uid :: function :: (message ++ [low, high])) after := whole
  -- the check, and what is read from the array
  have zero : bitwiseCrc (uid :: function :: (message ++ [low, high])) = 0#16 :=
    bitwiseCrc_with_own (uid :: function :: message)
  have checked := whole.checkCRC_frame
  rw [decide_eq_true zero] at checked
  have front : after.inBuffer.take (after.count - 2) = uid :: function :: message := by
    rw [whole.pdu_frame, List.length_append]
    exact congrArg (uid :: function :: ·) (List.take_left' rfl)
  obtain ⟨message', laid', decodes⟩ := ModbusResponse.readsBack_of_regular fits regular
  rw [laid] at laid'
  cases laid'
  let read : ModbusMessage ModbusResponse := { createModbusResponse function.toNat with
    headless := true
    unitID := uid.toNat
    functionCode := function.toNat
    body := response
    dataLength := (response.recordedLength message.length).getD (createModbusResponse function.toNat).dataLength }
  have taken : (ModbusResponse.readFrom (createModbusResponse function.toNat)).run (uid :: function :: message) =
      .ok (read, []) := by
    rw [run_responseFrom, blank_of_coded coded, decodes.run]
    rfl
  refine ⟨read, after, ?_, ?_, rfl, rfl, rfl⟩
  · rw [ran, run_bind_of_ok got]
    exact run_readResponseChecked checked (by rw [front]; exact taken)
  · rw [left, flatten_behind, behind]
    exact List.drop_left' rfl

theorem copies_values {count : Nat} {next : List UInt8 → Receiving Unit} (further : ∀ octets, Copies (next octets)) :
    Copies (readBytes count >>= fun inpBuf => write inpBuf >>= fun _ => next inpBuf) := by
  intro whole receiver after mirrors ran
  obtain ⟨octets, middle, read, ran⟩ := run_bind_eq_ok ran
  obtain ⟨_, taken, same⟩ := readBytes_eq_ok read
  obtain ⟨_, written, last, ran⟩ := run_bind_eq_ok ran
  cases last
  rw [same] at ran
  obtain ⟨held, more⟩ := mirrors.write taken
  obtain ⟨still, most⟩ := further octets whole _ after held ran
  exact ⟨still, Nat.le_trans more most⟩

theorem copies_known {known : UInt8} {fault : Throwable} {next : Receiving Unit} (further : Copies next) :
    Copies (readByte >>= fun value => if value ≠ known then throw fault else write [value] >>= fun _ => next) := by
  intro whole receiver after mirrors ran
  apply copies_octet (fun _ => further) whole receiver after mirrors
  -- a sub code that is not known throws, and nothing is to be shown
  obtain ⟨value, middle, read, ran⟩ := run_bind_eq_ok ran
  rw [run_bind_of_ok read]
  split at ran
  · cases ran
  · exact ran

theorem copies_copyFields (count : Nat) : Copies (copyFields count) := by
  induction count with
  | zero =>
      intro whole receiver after mirrors ran
      cases ran
      exact ⟨mirrors, Nat.le_refl _⟩
  | succ count ih => exact copies_octet fun _ => copies_octet fun _ => copies_values fun _ => ih

theorem copies_getResponse (function : UInt8) : Copies (getResponse function) := by
  have counted : Copies (readByte >>= fun cnt => write [cnt] >>= fun _ => readRequestData cnt.toNat) :=
    copies_octet fun _ => copies_bytes
  have fields (fieldCount : UInt8) : Copies (readFields fieldCount) := by
    refine (copies_copyFields _).andThen ?_
    split
    · exact copies_octet fun _ => copies_bytes
    · exact copies_bytes
  have words : Copies (readByte >>= fun b1 => write [b1] >>= fun _ => readByte >>= fun b2 => write [b2] >>= fun _ =>
      readRequestData (b1.toNat * 256 + b2.toNat)) := copies_octet fun _ => copies_octet fun _ => copies_bytes
  unfold getResponse
  split
  · split
    all_goals first
      | exact copies_bytes
      | exact counted
      | exact words
      | exact copies_known (copies_values fun _ => fields _)
      | exact copies_throw _
  · exact copies_bytes

/-- What is read from a frame, if all of it is taken, is what its message reads as. -/
theorem readsSelf_of_readResponseFrame {message : List UInt8} {low high : UInt8}
    (blank : (createModbusResponse function.toNat).body = response.blank) (laid : response.getMessage = .ok message)
    (ready : Ready receiver) (arriving : receiver.line.flatten = uid :: function :: (message ++ [low, high]))
    (ran : readResponseFrame.run receiver = (.ok read, after)) (empty : after.line.flatten = [])
    (same : read.body = response) : response.ReadsSelf := by
  obtain ⟨middle, front, held, behind⟩ := readResponseFrame_front ready arriving
  rw [front] at ran
  obtain ⟨_, final, got, ran⟩ := run_bind_eq_ok ran
  have mirrors : Mirrors (uid :: function :: (message ++ [low, high])) middle :=
    ⟨held.size, .inl ⟨[uid, function], held, by rw [behind]; rfl⟩⟩
  obtain ⟨⟨size, content⟩, -⟩ := copies_getResponse function _ _ _ mirrors got
  obtain ⟨rfl, checked, left, taken⟩ := readResponseChecked_eq_ok ran
  -- all octets are in the array, or they were too many for the check
  rcases content with ⟨octets, collected, whole⟩ | long
  · rw [empty, List.append_nil] at whole
    rw [whole] at collected
    have pdu : after.inBuffer.take (after.count - 2) = uid :: function :: message := by
      rw [collected.pdu_frame, List.length_append]
      exact congrArg (uid :: function :: ·) (List.take_left' rfl)
    rw [pdu, run_responseFrom, blank] at taken
    obtain ⟨⟨fields, rest⟩, first, last⟩ := bind_eq_ok.mp taken
    cases last
    obtain ⟨body, recorded⟩ := fields
    cases same
    exact ⟨message, recorded, _, laid, first⟩
  · have short := (checkCRC_eq_true checked).1
    rw [size] at short
    omega

theorem run_value {value : UInt8} {next : UInt8 → Receiving Unit} (arriving : receiver.line.flatten = value :: rest) :
    ∃ after, (readByte >>= fun value => write [value] >>= fun _ => next value).run receiver = (next value).run after ∧
      after.line.flatten = rest := by
  refine ⟨_, (run_bind_of_ok (run_readByte arriving)).trans (run_bind_of_ok (run_write [value])), ?_⟩
  rw [(write_size [value] _).2.2, flatten_behind, arriving]
  rfl

theorem run_values {next : List UInt8 → Receiving Unit} (arriving : receiver.line.flatten = octets ++ rest) :
    ∃ after, (readBytes octets.length >>= fun inpBuf => write inpBuf >>= fun _ => next inpBuf).run receiver =
        (next octets).run after ∧ after.line.flatten = rest := by
  refine ⟨_, (run_bind_of_ok (run_readBytes arriving)).trans (run_bind_of_ok (run_write octets)), ?_⟩
  rw [(write_size octets _).2.2, flatten_behind, arriving]
  exact List.drop_left' rfl

theorem run_requestData_short {byteCount : Nat} (short : receiver.line.flatten.length < byteCount + 2) :
    (readRequestData byteCount).run receiver = (.error .ioException, { receiver with line := [] }) :=
  run_bind_of_error (run_readBytes_short (Nat.not_le_of_lt short))

theorem counted_short {cnt : UInt8} (arriving : receiver.line.flatten = cnt :: octets)
    (short : octets.length < cnt.toNat + 2) :
    ∃ after, (readByte >>= fun cnt => write [cnt] >>= fun _ => readRequestData cnt.toNat).run receiver =
      (.error .ioException, after) := by
  obtain ⟨after, ran, left⟩ := @run_value _ _ _ (fun cnt => readRequestData cnt.toNat) arriving
  exact ⟨_, ran.trans (run_requestData_short (by rw [left]; exact short))⟩

/-- Behind the head without fields the low octet of the CRC is taken for an error, and the CRC waited for. -/
theorem identification_short {level conforms more nextId low high : UInt8}
    (arriving : receiver.line.flatten = [14, level, conforms, more, nextId, 0, low, high]) :
    ∃ after, (getResponse 43).run receiver = (.error .ioException, after) := by
  obtain ⟨first, ran, left⟩ := @run_value _ _ 14 (fun _ => readBytes 5 >>= fun inpBuf => write inpBuf >>= fun _ =>
    readFields (inpBuf.getD 4 0)) arriving
  obtain ⟨second, ran', left'⟩ := @run_values first [level, conforms, more, nextId, 0] [low, high]
    (fun inpBuf => readFields (inpBuf.getD 4 0)) left
  obtain ⟨third, ran'', left''⟩ := @run_value second _ low (fun _ => readRequestData 0) left'
  have known : (getResponse 43).run receiver = _ := run_bind_of_ok (run_readByte arriving)
  rw [run_bind_of_ok (run_readByte arriving)] at ran
  refine ⟨{ third with line := [] }, known.trans (ran.trans (ran'.trans (ran''.trans ?_)))⟩
  exact run_requestData_short (by rw [left'']; exact Nat.lt_add_one 1)

theorem registers_short {byteCount : Int} {registers : List Register} {message : List UInt8} {low high : UInt8}
    (laid : registersMessage byteCount (some registers) = .ok message) (half : byteCount / 2 = registers.length)
    (odd : byteCount % 2 ≠ 0) (announced : FitsOctet byteCount)
    (arriving : receiver.line.flatten = message ++ [low, high]) :
    ∃ after, (readByte >>= fun cnt => write [cnt] >>= fun _ => readRequestData cnt.toNat).run receiver =
      (.error .ioException, after) := by
  rw [registersMessage_of_count half announced] at laid
  cases laid
  refine counted_short arriving ?_
  -- an odd count announces one octet more than the registers have
  have count := toNat_octet_of_fits announced
  change (registers.flatMap Register.toBytes ++ [low, high]).length < _
  rw [List.length_append, length_flatMap_toBytes]
  change _ + 2 < _
  omega

theorem readResponseFrame_unframed {message : List UInt8} {low high : UInt8} (coded : Coded function response)
    (fits : response.FitsPdu) (regular : response.Regular) (unframed : ¬ response.Framed)
    (laid : response.getMessage = .ok message) (ready : Ready receiver)
    (arriving : receiver.line.flatten = uid :: function :: (message ++ [low, high])) :
    ∃ after, readResponseFrame.run receiver = (.error .ioException, after) := by
  obtain ⟨middle, front, -, behind⟩ := readResponseFrame_front ready arriving
  have fails : ∃ after, (getResponse function).run middle = (.error .ioException, after) := by
    cases response with
    | readMultipleRegisters byteCount registers =>
      obtain rfl : function = 3 := coded
      obtain ⟨all, rfl, half⟩ := regular
      exact registers_short laid half unframed fits.fields behind
    | readWriteMultiple byteCount registers =>
      obtain rfl : function = 23 := coded
      obtain ⟨all, rfl, half⟩ := regular
      exact registers_short laid half unframed fits.fields behind
    | readMEI fieldLevel conformity fieldCount fields fieldIds moreFollows nextFieldId =>
      obtain rfl : function = 43 := coded
      obtain rfl : fieldCount = 0 := of_not_not unframed
      cases laid
      exact identification_short behind
    | _ => exact absurd trivial unframed
  obtain ⟨after, raised⟩ := fails
  exact ⟨after, front.trans (run_bind_of_error raised)⟩

end Reading

end ModbusRTUTransport

end EtherNetIP.Modbus
