import EtherNetIP.Modbus.RequestRoundTrip
import EtherNetIP.Modbus.RtuTransport

/-! Requests on a line that is shared with other units.

The octets that are read for a request are those of its frame, except that the
byte count of one function is looked for two octets too late. A line of such
frames, with frames for other units between them, is read back as the requests
that were sent, one for each call.
-/

set_option autoImplicit false

namespace EtherNetIP.Modbus

open EtherNetIP.Library

/-- The frame of the request is as long as the transport takes it to be. Where the byte count is looked for too late,
the low octet of the first register stands there. -/
def ModbusRequest.Framed : ModbusRequest → Prop
  | readSerialDiagnostics _ _ => False
  | readWriteMultiple _ _ _ writeCount registers =>
    ∃ first others, registers = some (first :: others) ∧ (first.low.toNat : Int) = 2 * writeCount - 2
  | illegalFunction => False
  | _ => True

namespace ModbusRTUTransport

section Frames

variable {request : ModbusRequest} {message crc : List UInt8}

def code (request : ModbusRequest) : UInt8 := UInt8.ofNat (request.functionCode 0).toNat

theorem code_toNat (request : ModbusRequest) : ((code request).toNat : Int) = request.functionCode 0 := by
  cases request with
  | _ => rfl

theorem octet_functionCode (request : ModbusRequest) : octet (request.functionCode 0) = code request := by
  rw [← code_toNat, octet_toNat]

theorem takes_fixed {byteCount : Nat} (length : message.length = byteCount) (check : crc.length = 2) :
    Takes (readRequestData byteCount) (message ++ crc) :=
  takes_requestData (by rw [List.length_append, length, check])

theorem takes_octets {octets : List UInt8} (size : octets.length < 256) (check : crc.length = 2) :
    Takes (readByte >>= fun byteCount => write [byteCount] >>= fun _ => readRequestData byteCount.toNat)
      (octet octets.length :: (octets ++ crc)) := by
  have count : ((octet octets.length).toNat : Int) = octets.length := toNat_octet_of_fits ⟨by omega, by omega⟩
  exact takes_counted (by rw [List.length_append, check]; omega)

theorem takes_words {reference count : Int} {octets : List UInt8} (size : octets.length < 256) (check : crc.length = 2) :
    Takes (readBytes 4 >>= fun inpBuf => write inpBuf >>= fun _ => readByte >>= fun byteCount =>
        write [byteCount] >>= fun _ => readRequestData byteCount.toNat)
      (twoWords reference count ++ (octet octets.length :: octets) ++ crc) := by
  rw [List.append_assoc]
  exact takes_front (takes_octets size check)

theorem takes_writeCoil {reference : Int} {coil : Bool} (laid : (ModbusRequest.writeCoil reference coil).getMessage =
    .ok (some message)) (check : crc.length = 2) : Takes (getRequest 5) (message ++ crc) := by
  cases laid
  have length : (writeShort reference ++ coilBytes coil).length = 4 := by
    cases coil <;> rfl
  exact takes_fixed length check

theorem takes_writeSingleRegister {reference : Int} {register : Option Register}
    (laid : (ModbusRequest.writeSingleRegister reference register).getMessage = .ok (some message))
    (check : crc.length = 2) : Takes (getRequest 6) (message ++ crc) := by
  cases register with
  | none => nomatch laid
  | some register =>
    cases laid
    exact takes_fixed (length_twoWords ..) check

theorem takes_writeMultipleCoils {reference : Int} {coils : BitVector}
    (laid : (ModbusRequest.writeMultipleCoils reference coils).getMessage = .ok (some message))
    (size : message.length ≤ 252) (check : crc.length = 2) : Takes (getRequest 15) (message ++ crc) := by
  cases laid
  rw [WriteMultipleCoilsRequest.length_getMessage] at size
  have short : coils.data.length < 256 := by
    unfold BitVector.byteSize at size
    omega
  exact takes_words short check

theorem takes_writeMultipleRegisters {reference : Int} {registers : List Register}
    (laid : (ModbusRequest.writeMultipleRegisters reference (some registers)).getMessage = .ok (some message))
    (size : message.length ≤ 252) (check : crc.length = 2) : Takes (getRequest 16) (message ++ crc) := by
  cases laid
  rw [WriteMultipleRegistersRequest.length_getMessage] at size
  obtain ⟨announced, octets⟩ : _ ∧ FitsOctet (registers.flatMap Register.toBytes).length := length_octets (by omega)
  have short : (registers.flatMap Register.toBytes).length < 256 := by
    rw [length_flatMap_toBytes]
    omega
  have words := @takes_words crc reference registers.length _ short check
  rw [← announced] at words
  exact words

theorem takes_readFileRecord {records : List RecordRequest}
    (laid : (ModbusRequest.readFileRecord (some records)).getMessage = .ok (some message))
    (size : message.length ≤ 252) (check : crc.length = 2) : Takes (getRequest 20) (message ++ crc) := by
  cases laid
  rw [List.length_cons, RecordRequest.length_flatMap_getRequest] at size
  have short : (records.flatMap RecordRequest.getRequest).length < 256 := by
    rw [RecordRequest.length_flatMap_getRequest]
    omega
  have octets := takes_octets short check
  rw [RecordRequest.length_flatMap_getRequest] at octets
  exact octets

theorem takes_writeFileRecord {records : List WrittenRecord}
    (laid : (ModbusRequest.writeFileRecord (some records)).getMessage = .ok (some message))
    (size : message.length ≤ 252) (check : crc.length = 2) : Takes (getRequest 21) (message ++ crc) := by
  obtain ⟨laidOut, first, last⟩ := bind_eq_ok.mp laid
  rw [WriteFileRecord.getMessage_some] at first
  cases first
  cases last
  rw [List.length_cons] at size
  exact takes_octets (by omega) check

/-- The byte count and the high octet of the first register are read with the four words, and the low octet is taken
for the byte count. -/
theorem takes_readWriteMultiple {readReference readCount writeReference : Int} {first : Register}
    {others : List Register} (laid : (ModbusRequest.readWriteMultiple readReference readCount writeReference
      (first :: others).length (some (first :: others))).getMessage = .ok (some message))
    (low : (first.low.toNat : Int) = 2 * (first :: others).length - 2) (check : crc.length = 2) :
    Takes (getRequest 23) (message ++ crc) := by
  obtain ⟨laidOut, done, last⟩ := bind_eq_ok.mp laid
  rw [ReadWriteMultipleRequest.getMessage_all] at done
  cases done
  cases last
  have front : (twoWords readReference readCount ++ (twoWords writeReference (first :: others).length ++
      [octet ((first :: others).length * 2), first.high])).length = 8 + 2 := rfl
  have counted : ((others.flatMap Register.toBytes) ++ crc).length = first.low.toNat + 2 := by
    rw [List.length_append, length_flatMap_toBytes, check]
    rw [List.length_cons] at low
    omega
  have both := (takes_requestData front).andThen (takes_counted counted)
  have same : ReadWriteMultipleRequest.message readReference readCount writeReference (first :: others) ++ crc =
      twoWords readReference readCount ++ (twoWords writeReference (first :: others).length ++
        [octet ((first :: others).length * 2), first.high]) ++
          (first.low :: (others.flatMap Register.toBytes ++ crc)) := by
    simp [ReadWriteMultipleRequest.message, Register.toBytes]
  rw [same]
  exact both

/-- What is read behind the function code is the message and its CRC, class by class. -/
theorem takes_getRequest (fits : request.FitsPdu) (regular : request.Regular) (framed : request.Framed)
    (laid : request.getMessage = .ok (some message)) (check : crc.length = 2) :
    Takes (getRequest (code request)) (message ++ crc) := by
  have size := fits.size message laid
  cases request with
  | readCoils reference bitCount =>
    change Takes (getRequest 1) _
    cases laid
    exact takes_fixed (length_twoWords ..) check
  | readInputDiscretes reference bitCount =>
    change Takes (getRequest 2) _
    cases laid
    exact takes_fixed (length_twoWords ..) check
  | readMultipleRegisters reference wordCount =>
    change Takes (getRequest 3) _
    cases laid
    exact takes_fixed (length_twoWords ..) check
  | readInputRegisters reference wordCount =>
    change Takes (getRequest 4) _
    cases laid
    exact takes_fixed (length_twoWords ..) check
  | writeCoil reference coil => exact takes_writeCoil laid check
  | writeSingleRegister reference register => exact takes_writeSingleRegister laid check
  | writeMultipleCoils reference coils => exact takes_writeMultipleCoils laid size check
  | writeMultipleRegisters reference registers =>
    obtain ⟨all, rfl⟩ := Option.ne_none_iff_exists'.mp regular
    exact takes_writeMultipleRegisters laid size check
  | readSerialDiagnostics function data => exact framed.elim
  | readExceptionStatus | readCommEventCounter | readCommEventLog | reportSlaveID =>
    cases laid
    exact takes_fixed rfl check
  | readMEI subCode fieldLevel fieldId =>
    change Takes (getRequest 43) _
    cases laid
    exact takes_fixed rfl check
  | readFileRecord records =>
    obtain ⟨all, rfl, -⟩ := regular
    exact takes_readFileRecord laid size check
  | writeFileRecord records =>
    obtain ⟨all, rfl, -⟩ := regular
    exact takes_writeFileRecord laid size check
  | maskWriteRegister reference andMask orMask =>
    change Takes (getRequest 22) _
    cases laid
    exact takes_fixed (length_threeWords ..) check
  | readWriteMultiple readReference readCount writeReference writeCount registers =>
    obtain ⟨all, rfl, rfl⟩ := regular
    obtain ⟨first, others, same, low⟩ := framed
    cases same
    exact takes_readWriteMultiple laid low check
  | readFIFOQueue reference =>
    change Takes (getRequest 24) _
    cases laid
    exact takes_fixed (length_writeShort ..) check
  | illegalFunction => exact framed.elim

end Frames

structure Sent where
  unitID : UInt8
  request : ModbusRequest
  fits : request.FitsPdu
  regular : request.Regular
  framed : request.Framed
  message : List UInt8
  laid : request.getMessage = .ok (some message)

namespace Sent

def pdu (sent : Sent) : List UInt8 := sent.unitID :: code sent.request :: sent.message

def frame (sent : Sent) : List UInt8 :=
  sent.pdu ++ [(calculateCRC sent.pdu 0 sent.pdu.length).1, (calculateCRC sent.pdu 0 sent.pdu.length).2]

def received (sent : Sent) : ModbusMessage ModbusRequest :=
  let created := createModbusRequest (sent.request.functionCode 0)
  { created with
    headless := true
    unitID := sent.unitID.toNat
    functionCode := sent.request.functionCode 0
    body := sent.request
    dataLength := (sent.request.recordedLength sent.message.length).getD created.dataLength }

theorem frame_eq (sent : Sent) : sent.frame = ModbusRTUTransport.frame (.request
    { functionCode := sent.request.functionCode 0, unitID := sent.unitID.toNat, body := sent.request })
      (some sent.message) := by
  unfold frame pdu ModbusRTUTransport.frame
  dsimp only [Outgoing.getUnitID, Outgoing.getFunctionCode]
  rw [octet_toNat, octet_functionCode]
  rfl

theorem length_frame (sent : Sent) : sent.frame.length = sent.message.length + 4 := by
  simp [frame, pdu]

theorem frame_fits (sent : Sent) : sent.frame.length ≤ 256 := by
  have size := sent.fits.size sent.message sent.laid
  rw [length_frame]
  omega

theorem blank_eq (sent : Sent) : (createModbusRequest (sent.request.functionCode 0)).body = sent.request.blank := by
  have framed := sent.framed
  cases same : sent.request with
  | illegalFunction =>
      rw [same] at framed
      exact framed.elim
  | _ => rfl

theorem readData (sent : Sent) (dataLength : Int) : ∃ left, (sent.request.blank.readData dataLength).run sent.message =
    .ok ((sent.request, sent.request.recordedLength sent.message.length), left) := by
  by_cases known : sent.request.KnownSubCode
  · obtain ⟨message, laid, decodes⟩ := ModbusRequest.readsBack_of_regular sent.fits sent.regular known
    rw [sent.laid] at laid
    cases laid
    exact ⟨[], decodes.run⟩
  · have self : sent.request.ReadsSelf dataLength := ModbusRequest.readsSelf_of_regular sent.fits sent.regular
    obtain ⟨message, recorded, left, laid, read⟩ := self
    rw [sent.laid] at laid
    cases laid
    cases same : sent.request with
    | readMEI subCode fieldLevel fieldId =>
        rw [same] at read
        obtain ⟨middle, _, last⟩ := bind_eq_ok.mp read
        have unrecorded : none = recorded :=
          congrArg (fun (result : (ModbusRequest × Option Int) × List UInt8) => result.1.2) (Except.ok.inj last)
        rw [← unrecorded] at read
        exact ⟨left, read⟩
    | _ =>
        rw [same] at known
        exact absurd trivial known

theorem readFrom (sent : Sent) : ∃ left,
    (createModbusRequest (code sent.request).toNat).readFrom.run sent.pdu = .ok (sent.received, left) := by
  have octet (value : UInt8) (rest : List UInt8) : readUnsignedByte.run (value :: rest) = .ok (value.toNat, rest) := rfl
  obtain ⟨left, read⟩ := sent.readData (createModbusRequest (sent.request.functionCode 0)).dataLength
  refine ⟨left, ?_⟩
  unfold ModbusMessage.readFrom pdu
  rw [code_toNat, run_then_of_ok (octet _ _), run_then_of_ok (octet _ _), code_toNat]
  rw [sent.blank_eq, run_then_of_ok read]
  rfl

end Sent

section Receiving

variable {addressed : UInt8 → Bool} {available : Line → Nat} {receiver : Receiver} {rest : List UInt8}

theorem readFrame_sent (available : Line → Nat) (sent : Sent) (collected : Collected [sent.unitID] receiver)
    (arriving : receiver.line.flatten = sent.frame.tail ++ rest) :
    ∃ after, (readFrame available).run receiver = (.ok sent.received, after) ∧ Collected sent.frame after ∧
      after.line = receiver.line.behind sent.frame.tail.length := by
  let low := (calculateCRC sent.pdu 0 sent.pdu.length).1
  let high := (calculateCRC sent.pdu 0 sent.pdu.length).2
  have tail : sent.frame.tail = [code sent.request] ++ (sent.message ++ [low, high]) := rfl
  have whole : sent.frame = [sent.unitID] ++ sent.frame.tail := rfl
  have fits := sent.frame_fits
  have size : sent.message.length + 2 = (sent.message ++ [low, high]).length := by rw [List.length_append]; rfl
  rw [sent.length_frame] at fits
  rw [tail, List.append_assoc] at arriving
  -- the function code
  have held : Collected [sent.unitID] { receiver with line := receiver.line.behind 1 } :=
    ⟨collected.attached, collected.size, collected.count, collected.octets⟩
  obtain ⟨written, line⟩ := held.write [code sent.request] (by change 2 ≤ 256; decide)
  have behind : (Receiver.write [code sent.request] { receiver with line := receiver.line.behind 1 }).line.flatten =
      sent.message ++ [low, high] ++ rest := by
    rw [line, flatten_behind, arriving]
    rfl
  -- the message and its CRC
  obtain ⟨after, ran, heldOn, left⟩ := takes_getRequest sent.fits sent.regular sent.framed sent.laid
    (show [low, high].length = 2 from rfl) _ _ rest written behind
    (by rw [← size, List.length_append, List.length_singleton, List.length_singleton]; omega)
  have content : [sent.unitID] ++ [code sent.request] ++ (sent.message ++ [low, high]) = sent.frame := by
    rw [whole, tail, List.append_assoc]
  rw [content] at heldOn
  -- the check, and what is read from the array
  have pdu : after.inBuffer.take (after.count - 2) = sent.pdu := by
    have count : after.count - 2 = sent.pdu.length := by
      rw [heldOn.count, Sent.frame, List.length_append]
      rfl
    rw [count, heldOn.front (by rw [Sent.frame, List.length_append]; omega), Sent.frame]
    exact List.take_left' rfl
  have checked : after.checkCRC (after.count - 2) = .ok true := by
    have zero : bitwiseCrc (sent.pdu ++ [low, high]) = 0#16 := bitwiseCrc_with_own sent.pdu
    have framed : Collected (sent.pdu ++ [low, high]) after := heldOn
    rw [framed.checkCRC (by rw [Sent.pdu, List.length_cons, List.length_cons]; omega), decide_eq_true zero]
  obtain ⟨unread, taken⟩ := sent.readFrom
  refine ⟨after, ?_, heldOn, ?_⟩
  · unfold readFrame
    rw [run_bind_of_ok (run_readByte arriving), run_bind_of_ok (run_write _), run_bind_of_ok ran]
    exact run_readChecked checked (by rw [pdu]; exact taken)
  · have sum : 1 + (sent.message ++ [low, high]).length =
        ([code sent.request] ++ (sent.message ++ [low, high])).length := Nat.add_comm ..
    rw [left, line, tail]
    dsimp only
    rw [behind_behind, sum]

structure Ready (receiver : Receiver) : Prop where
  attached : receiver.attached = true
  size : receiver.inBuffer.length = 256

theorem Ready.reset (ready : Ready receiver) : Collected [] receiver.reset :=
  ⟨ready.attached, ready.size, rfl, rfl⟩

theorem Collected.ready {content : List UInt8} (collected : Collected content receiver) : Ready receiver :=
  ⟨collected.attached, collected.size⟩

theorem Collected.writes {content : List UInt8} (collected : Collected content receiver) (octets : List UInt8)
    (fits : content.length + octets.length ≤ 256) :
    Collected (content ++ octets) (octets.foldl (fun receiver octet => receiver.write [octet]) receiver) := by
  induction octets generalizing content receiver with
  | nil =>
      rw [List.append_nil]
      exact collected
  | cons octet octets ih =>
      rw [List.length_cons] at fits
      have first := (collected.write [octet] (by rw [List.length_singleton]; omega)).1
      have all := ih first (by rw [List.length_append, List.length_singleton]; omega)
      rw [List.append_assoc] at all
      exact all

theorem receive_sent (available : Line → Nat) (sent : Sent) (here : addressed sent.unitID = true) (ready : Ready receiver) {bursts : Line}
    (octets : bursts.flatten = sent.frame) (line : Line) :
    ∃ after, receive addressed available receiver (bursts ++ line) = (.ok (some sent.received), after) ∧
      Ready after ∧ after.line = line.behind 0 := by
  induction bursts with
  | nil =>
      have none := congrArg List.length octets
      rw [sent.length_frame] at none
      exact absurd none (Nat.succ_ne_zero _).symm
  | cons burst bursts ih =>
      cases burst with
      | nil => exact ih octets
      | cons uid burst =>
          have whole : sent.frame = sent.unitID :: sent.frame.tail := rfl
          rw [whole, List.flatten_cons, List.cons_append, List.cons.injEq] at octets
          obtain ⟨rfl, others⟩ := octets
          have held := (ready.reset.write [sent.unitID] (by change 1 ≤ 256; decide)).1
          have placed : Collected [sent.unitID]
              { receiver.reset.write [sent.unitID] with line := burst :: (bursts ++ line) } :=
            ⟨held.attached, held.size, held.count, held.octets⟩
          have arriving : (burst :: (bursts ++ line)).flatten = sent.frame.tail ++ line.flatten := by
            rw [List.flatten_cons, List.flatten_append, ← List.append_assoc, others]
          obtain ⟨after, ran, collected, left⟩ := readFrame_sent available sent placed arriving
          refine ⟨after, ?_, collected.ready, ?_⟩
          · rw [List.cons_append, receive, if_pos here, ran]
            rfl
          · rw [left, ← others]
            exact behind_bursts (burst :: bursts) line

theorem receive_foreign (available : Line → Nat) {uid : UInt8} (there : addressed uid = false) (others : List UInt8)
    (short : others.length < 256) (ready : Ready receiver) (line : Line) :
    ∃ after, receive addressed available receiver ([uid :: others] ++ line) = receive addressed available after line ∧
      Ready after := by
  refine ⟨(uid :: others).foldl (fun receiver octet => receiver.write [octet]) receiver.reset, ?_, ?_⟩
  · rw [List.cons_append, receive, if_neg (Bool.not_eq_true _ ▸ there)]
    rfl
  · exact (ready.reset.writes (uid :: others) (by rw [List.length_nil, List.length_cons]; omega)).ready

inductive Transmission (addressed : UInt8 → Bool) where
  | own (sent : Sent) (here : addressed sent.unitID = true) (bursts : Line) (octets : bursts.flatten = sent.frame)
  | foreign (uid : UInt8) (there : addressed uid = false) (others : List UInt8) (short : others.length < 256)

namespace Transmission

def line : Transmission addressed → Line
  | own _ _ bursts _ => bursts
  | foreign uid _ others _ => [uid :: others]

def requests : Transmission addressed → List (ModbusMessage ModbusRequest)
  | own sent _ _ _ => [sent.received]
  | foreign _ _ _ _ => []

end Transmission

theorem readRequests_idle (line : receiver.line = []) (calls : Nat) :
    readRequests addressed available calls receiver = List.replicate calls (.ok none) := by
  induction calls generalizing receiver with
  | zero => rfl
  | succ calls ih =>
      have read : readRequestIn addressed available receiver = (.ok none, { receiver with line := [] }) := by
        rw [readRequestIn, line, receive]
      rw [readRequests, read, List.replicate_succ]
      exact congrArg (_ :: ·) (ih rfl)

theorem write_withLine (octets : List UInt8) (receiver : Receiver) (line : Line) :
    Receiver.write octets { receiver with line } = { receiver.write octets with line } := by
  unfold Receiver.write
  split
  · rfl
  · rfl

theorem receive_withLine (receiver : Receiver) (kept line : Line) :
    receive addressed available { receiver with line := kept } line = receive addressed available receiver line := by
  have writes (octets : List UInt8) (receiver : Receiver) :
      octets.foldl (fun receiver octet => receiver.write [octet]) { receiver with line := kept } =
        { octets.foldl (fun receiver octet => receiver.write [octet]) receiver with line := kept } := by
    induction octets generalizing receiver with
    | nil => rfl
    | cons octet octets ih => rw [List.foldl_cons, write_withLine, ih, List.foldl_cons]
  induction line generalizing receiver with
  | nil => rfl
  | cons burst line ih =>
      cases burst with
      | nil => exact ih receiver
      | cons uid burst =>
          have first : Receiver.write [uid] (Receiver.reset { receiver with line := kept }) =
              { receiver.reset.write [uid] with line := kept } := write_withLine [uid] receiver.reset kept
          have collected := writes (uid :: burst) receiver.reset
          by_cases here : addressed uid = true
          · rw [receive, if_pos here, first, receive, if_pos here]
          · rw [receive, if_neg here, receive, if_neg here]
            exact (congrArg (receive addressed available · line) collected).trans (ih _)

def Receiver.on (receiver : Receiver) (line : Line) : Receiver := { receiver with line }

theorem readRequestIn_on (receiver : Receiver) (line : Line) :
    readRequestIn addressed available (receiver.on line) = receive addressed available receiver line :=
  receive_withLine receiver line line

theorem readRequests_congr {other : Receiver}
    (same : readRequestIn addressed available receiver = readRequestIn addressed available other) (calls : Nat) :
    readRequests addressed available calls receiver = readRequests addressed available calls other := by
  cases calls with
  | zero => rfl
  | succ calls => rw [readRequests, readRequests, same]

theorem readRequests_behind (calls : Nat) {line : Line} (left : receiver.line = line.behind 0) :
    readRequests addressed available calls receiver = readRequests addressed available calls (receiver.on line) := by
  apply readRequests_congr
  rw [readRequestIn_on, readRequestIn, left, receive_behind_zero]

/-- On a line that units share, every call hands on the next request that was sent to an addressed unit, and nothing
else; when there is none left, null. -/
theorem requests_read_back (addressed : UInt8 → Bool) (available : Line → Nat) {receiver : Receiver}
    (ready : Ready receiver) (transmissions : List (Transmission addressed)) (further : Nat) :
    readRequests addressed available ((transmissions.flatMap Transmission.requests).length + further)
        (receiver.on (transmissions.flatMap Transmission.line)) =
      (transmissions.flatMap Transmission.requests).map (fun request => .ok (some request)) ++
        List.replicate further (.ok none) := by
  induction transmissions generalizing receiver with
  | nil =>
      rw [List.flatMap_nil, List.length_nil, Nat.zero_add]
      exact readRequests_idle rfl further
  | cons transmission transmissions ih =>
      cases transmission with
      | own sent here bursts octets =>
          obtain ⟨after, received, still, left⟩ :=
            receive_sent available sent here ready octets (transmissions.flatMap Transmission.line)
          have one : ((Transmission.own sent here bursts octets :: transmissions).flatMap Transmission.requests).length +
              further = (transmissions.flatMap Transmission.requests).length + further + 1 := by
            rw [List.flatMap_cons, List.length_append]
            change 1 + _ + further = _
            omega
          have call := (readRequestIn_on receiver _).trans received
          rw [one, readRequests, List.flatMap_cons, Transmission.line, call]
          dsimp only
          rw [readRequests_behind _ left, ih still]
          rfl
      | foreign uid there others short =>
          obtain ⟨after, skipped, still⟩ :=
            receive_foreign available there others short ready (transmissions.flatMap Transmission.line)
          have call := (readRequestIn_on receiver _).trans (skipped.trans (readRequestIn_on after _).symm)
          exact (readRequests_congr call _).trans (ih still)

end Receiving

section Samples

theorem ready_fresh (line : Line) : Ready (Receiver.fresh line) := ⟨rfl, List.length_replicate⟩

theorem readTwoRegisters_fits : (ModbusRequest.readMultipleRegisters 16 2).FitsPdu := by
  constructor
  · exact ⟨⟨by decide, by decide⟩, ⟨by decide, by decide⟩⟩
  · intro message laid
    cases laid
    decide

def readTwoRegisters : Sent where
  unitID := 1
  request := .readMultipleRegisters 16 2
  fits := readTwoRegisters_fits
  regular := trivial
  framed := trivial
  message := twoWords 16 2
  laid := rfl

theorem readTwoRegisters_bursts :
    List.flatten [readTwoRegisters.frame.take 3, readTwoRegisters.frame.drop 3] = readTwoRegisters.frame := by
  rw [List.flatten_cons, List.flatten_cons, List.flatten_nil, List.append_nil, List.take_append_drop]

theorem otherUnit_short : ([3, 2] : List UInt8).length < 256 := by decide

def sharedLine : List (Transmission (· == 1)) :=
  [.foreign 9 rfl [3, 2] otherUnit_short, .own readTwoRegisters rfl _ readTwoRegisters_bursts]

theorem requests_read_back_shared :
    readRequests (· == 1) (fun _ => 0) ((sharedLine.flatMap Transmission.requests).length + 1)
        ((Receiver.fresh []).on (sharedLine.flatMap Transmission.line)) =
      (sharedLine.flatMap Transmission.requests).map (fun request => .ok (some request)) ++
        List.replicate 1 (.ok none) :=
  requests_read_back (· == 1) (fun _ => 0) (ready_fresh []) sharedLine 1

end Samples

end ModbusRTUTransport

end EtherNetIP.Modbus
