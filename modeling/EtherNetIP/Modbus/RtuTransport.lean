import EtherNetIP.Modbus.CrcTables

/-! The requests that the RTU transport reads from its line.

A frame has no end of its own. Of the function code it is known how many octets
follow, or where their number stands, and everything that is read is collected by
a stream into the array of the transport, from which it is checked and read again.
Octets for other units are passed over up to a pause of the line.
-/

set_option autoImplicit false

namespace EtherNetIP.Modbus

open EtherNetIP.Library

namespace ModbusRTUTransport

/-- The octets that arrive. Between two bursts the line is silent for 1.5 characters at least, within one it is not. -/
abbrev Line := List (List UInt8)

def Line.behind (count : Nat) : Line → Line
  | [] => []
  | burst :: line => if burst.length ≤ count then behind (count - burst.length) line else burst.drop count :: line

/-- The array of the transport and the stream into it. A stream that has outgrown the array goes on with an array of
its own; the transport keeps on reading the old one. -/
structure Receiver where
  inBuffer : List UInt8
  attached : Bool
  count : Nat
  line : Line

namespace Receiver

def fresh (line : Line) : Receiver := ⟨List.replicate 256 0, true, 0, line⟩

def reset (receiver : Receiver) : Receiver := { receiver with count := 0 }

/-- Octets that are written at once go to the grown array, all of them, if they do not fit. -/
def write (octets : List UInt8) (receiver : Receiver) : Receiver :=
  if receiver.attached ∧ receiver.count + octets.length ≤ receiver.inBuffer.length then
    { receiver with
      inBuffer := receiver.inBuffer.take receiver.count ++ octets ++
        receiver.inBuffer.drop (receiver.count + octets.length)
      count := receiver.count + octets.length }
  else { receiver with attached := false, count := receiver.count + octets.length }

def checkCRC (dlength : Nat) (receiver : Receiver) : Except Throwable Bool :=
  if dlength ≥ receiver.inBuffer.length then throw .indexOutOfBoundsException
  else
    let crc := calculateCRC receiver.inBuffer 0 dlength
    if receiver.inBuffer.getD dlength 0 ≠ crc.1 then return false
    else if dlength + 1 ≥ receiver.inBuffer.length then throw .indexOutOfBoundsException
    else return receiver.inBuffer.getD (dlength + 1) 0 = crc.2

end Receiver

abbrev Receiving (Value : Type) := ExceptT Throwable (StateM Receiver) Value

/-- Octets that do not arrive are a timeout; those that have arrived are gone. -/
def readBytes (bytesToRead : Nat) : Receiving (List UInt8) := fun receiver =>
  let arriving := receiver.line.flatten
  if bytesToRead ≤ arriving.length then
    (.ok (arriving.take bytesToRead), { receiver with line := receiver.line.behind bytesToRead })
  else (.error .ioException, { receiver with line := [] })

def readByte : Receiving UInt8 := do
  let buffer ← readBytes 1
  return buffer.headD 0

def write (octets : List UInt8) : Receiving Unit := fun receiver => (.ok (), receiver.write octets)

def readRequestData (byteCount : Nat) : Receiving Unit := do
  let inpBuf ← readBytes (byteCount + 2)
  write inpBuf

def getRequest (function : UInt8) : Receiving Unit :=
  if function &&& 0x80 = 0 then
    match (function.toNat : Int) with
    | FunctionCode.readExceptionStatus | FunctionCode.readCommEventCounter | FunctionCode.readCommEventLog
    | FunctionCode.reportSlaveID => readRequestData 0
    | FunctionCode.readFIFOQueue => readRequestData 2
    | FunctionCode.readMEI => readRequestData 3
    | FunctionCode.readCoils | FunctionCode.readInputDiscretes | FunctionCode.readMultipleRegisters
    | FunctionCode.readInputRegisters | FunctionCode.writeCoil | FunctionCode.writeSingleRegister => readRequestData 4
    | FunctionCode.maskWriteRegister => readRequestData 6
    | FunctionCode.readFileRecord | FunctionCode.writeFileRecord => do
      let byteCount ← readByte
      write [byteCount]
      readRequestData byteCount.toNat
    | FunctionCode.writeMultipleCoils | FunctionCode.writeMultipleRegisters => do
      let inpBuf ← readBytes 4
      write inpBuf
      let byteCount ← readByte
      write [byteCount]
      readRequestData byteCount.toNat
    | FunctionCode.readWriteMultiple => do
      -- two octets more are read here than stand before the byte count
      readRequestData 8
      let byteCount ← readByte
      write [byteCount]
      readRequestData byteCount.toNat
    | _ => throw .ioException
  else return ()

def clearInput (available : Line → Nat) : Receiving Unit := fun receiver =>
  (.ok (), { receiver with line := receiver.line.behind (available receiver.line) })

end ModbusRTUTransport

/-- ModbusMessageImpl.readFrom of a headless request that has been created. -/
def ModbusMessage.readFrom (request : ModbusMessage ModbusRequest) : DataInput (ModbusMessage ModbusRequest) := do
  let unitID ← readUnsignedByte
  let functionCode ← readUnsignedByte
  let (body, length) ← request.body.readData request.dataLength
  return { request with
    headless := true, unitID, functionCode, body, dataLength := length.getD request.dataLength }

namespace ModbusRTUTransport

def readChecked (available : Line → Nat) (request : ModbusMessage ModbusRequest) :
    Receiving (ModbusMessage ModbusRequest) := do
  let receiver ← get
  let dlength := receiver.count - 2
  if ← receiver.checkCRC dlength then do
    let (request, _) ← request.readFrom.run (receiver.inBuffer.take dlength)
    return request
  else do
    clearInput available
    throw .ioException

def readFrame (available : Line → Nat) : Receiving (ModbusMessage ModbusRequest) := do
  let fc ← readByte
  write [fc]
  getRequest fc
  readChecked available (createModbusRequest fc.toNat)

def caught {Value : Type} : Except Throwable Value × Receiver → Except Throwable (Option Value) × Receiver
  | (.ok value, after) => (.ok (some value), after)
  | (.error fault, after) => (if fault.isIO then .ok none else .error fault, after)

/-- The loop over what arrives: octets for other units are collected up to a pause, and forgotten. -/
def receive (addressed : UInt8 → Bool) (available : Line → Nat) (receiver : Receiver) :
    Line → Except Throwable (Option (ModbusMessage ModbusRequest)) × Receiver
  | [] => (.ok none, { receiver with line := [] })
  | [] :: line => receive addressed available receiver line
  | (uid :: burst) :: line =>
    if addressed uid then
      caught ((readFrame available).run { receiver.reset.write [uid] with line := burst :: line })
    else receive addressed available ((uid :: burst).foldl (fun receiver octet => receiver.write [octet]) receiver.reset) line

/-- The units for which the listener has a process image are addressed. -/
def readRequestIn (addressed : UInt8 → Bool) (available : Line → Nat) (receiver : Receiver) :
    Except Throwable (Option (ModbusMessage ModbusRequest)) × Receiver :=
  receive addressed available receiver receiver.line

def readRequests (addressed : UInt8 → Bool) (available : Line → Nat) :
    Nat → Receiver → List (Except Throwable (Option (ModbusMessage ModbusRequest)))
  | 0, _ => []
  | calls + 1, receiver =>
    let read := readRequestIn addressed available receiver
    read.1 :: readRequests addressed available calls read.2

section Lines

variable {line : Line}

theorem flatten_behind (count : Nat) (line : Line) : (line.behind count).flatten = line.flatten.drop count := by
  induction line generalizing count with
  | nil => simp [Line.behind]
  | cons burst line ih =>
      unfold Line.behind
      split
      · rename_i whole
        rw [ih, List.flatten_cons, List.drop_append, List.drop_eq_nil_of_le whole, List.nil_append]
      · rename_i part
        have none : count - burst.length = 0 := by omega
        rw [List.flatten_cons, List.flatten_cons, List.drop_append, none, List.drop_zero]

theorem behind_behind (first second : Nat) (line : Line) :
    (line.behind first).behind second = line.behind (first + second) := by
  induction line generalizing first with
  | nil => rfl
  | cons burst line ih =>
      by_cases whole : burst.length ≤ first
      · have further : burst.length ≤ first + second := by omega
        have rest : first + second - burst.length = first - burst.length + second := by omega
        simp only [Line.behind, if_pos whole, if_pos further, ih, rest]
      · by_cases further : burst.length ≤ first + second
        · have left : burst.length - first ≤ second := by omega
          have rest : second - (burst.length - first) = first + second - burst.length := by omega
          simp only [Line.behind, if_neg whole, if_pos further, List.length_drop, if_pos left, rest]
        · have left : ¬ burst.length - first ≤ second := by omega
          simp only [Line.behind, if_neg whole, if_neg further, List.length_drop, if_neg left, List.drop_drop]

theorem behind_bursts (bursts line : Line) : Line.behind bursts.flatten.length (bursts ++ line) = line.behind 0 := by
  induction bursts with
  | nil => rfl
  | cons burst bursts ih =>
      have inside : burst.length ≤ (burst :: bursts).flatten.length := by
        rw [List.flatten_cons, List.length_append]
        exact Nat.le_add_right ..
      have rest : (burst :: bursts).flatten.length - burst.length = bursts.flatten.length := by
        rw [List.flatten_cons, List.length_append, Nat.add_sub_cancel_left]
      rw [List.cons_append, Line.behind, if_pos inside, rest, ih]

theorem receive_behind_zero (addressed : UInt8 → Bool) (available : Line → Nat) (receiver : Receiver) (line : Line) :
    receive addressed available receiver (line.behind 0) = receive addressed available receiver line := by
  induction line with
  | nil => rfl
  | cons burst line ih =>
      cases burst with
      | nil => exact ih
      | cons uid burst => rfl

end Lines

section Reading

variable {Value Next : Type} {program : Receiving Value} {next : Value → Receiving Next} {receiver after : Receiver}
  {octets first later rest content : List UInt8}

theorem run_bind_of_ok {value : Value} (ran : program.run receiver = (.ok value, after)) :
    (program >>= next).run receiver = (next value).run after := by
  change ExceptT.bindCont next (program.run receiver).1 (program.run receiver).2 = _
  rw [ran]
  rfl

theorem run_bind_of_error {fault : Throwable} (ran : program.run receiver = (.error fault, after)) :
    (program >>= next).run receiver = (.error fault, after) := by
  change ExceptT.bindCont next (program.run receiver).1 (program.run receiver).2 = _
  rw [ran]
  rfl

theorem run_readBytes (arriving : receiver.line.flatten = octets ++ rest) : (readBytes octets.length).run receiver =
    (.ok octets, { receiver with line := receiver.line.behind octets.length }) := by
  change readBytes octets.length receiver = _
  unfold readBytes
  rw [arriving]
  dsimp only
  rw [if_pos (by rw [List.length_append]; exact Nat.le_add_right ..), List.take_left' rfl]

theorem run_readByte {value : UInt8} (arriving : receiver.line.flatten = value :: rest) : readByte.run receiver =
    (.ok value, { receiver with line := receiver.line.behind 1 }) :=
  run_bind_of_ok (run_readBytes (show receiver.line.flatten = [value] ++ rest from arriving))

/-- The array holds what has been collected, and the stream is still at it. -/
structure Collected (content : List UInt8) (receiver : Receiver) : Prop where
  attached : receiver.attached = true
  size : receiver.inBuffer.length = 256
  count : receiver.count = content.length
  octets : receiver.inBuffer.take content.length = content

theorem Collected.write (collected : Collected content receiver) (octets : List UInt8)
    (fits : content.length + octets.length ≤ 256) :
    Collected (content ++ octets) (receiver.write octets) ∧ (receiver.write octets).line = receiver.line := by
  have inside : receiver.attached ∧ receiver.count + octets.length ≤ receiver.inBuffer.length := by
    rw [collected.count, collected.size]
    exact ⟨collected.attached, fits⟩
  unfold Receiver.write
  rw [if_pos inside, collected.count, collected.octets]
  refine ⟨⟨collected.attached, ?_, ?_, ?_⟩, rfl⟩
  · simp only [List.length_append, List.length_drop, collected.size]
    omega
  · rw [List.length_append]
  · exact List.take_left' rfl

def Takes (program : Receiving Unit) (octets : List UInt8) : Prop :=
  ∀ receiver content rest, Collected content receiver → receiver.line.flatten = octets ++ rest →
    content.length + octets.length ≤ 256 →
    ∃ after, program.run receiver = (.ok (), after) ∧ Collected (content ++ octets) after ∧
      after.line = receiver.line.behind octets.length

theorem Takes.andThen {program next : Receiving Unit} (takes : Takes program first) (further : Takes next later) :
    Takes (program >>= fun _ => next) (first ++ later) := by
  intro receiver content rest collected arriving fits
  rw [List.append_assoc] at arriving
  rw [List.length_append] at fits
  obtain ⟨middle, ran, held, left⟩ := takes receiver content _ collected arriving (by omega)
  have behind : middle.line.flatten = later ++ rest := by
    rw [left, flatten_behind, arriving]
    exact List.drop_left' rfl
  obtain ⟨after, ranOn, heldOn, leftOn⟩ :=
    further middle _ rest held behind (by rw [List.length_append]; omega)
  refine ⟨after, (run_bind_of_ok ran).trans ranOn, ?_, ?_⟩
  · rw [← List.append_assoc]
    exact heldOn
  · rw [leftOn, left, behind_behind, List.length_append]

theorem takes_bytes : Takes (readBytes octets.length >>= write) octets := by
  intro receiver content rest collected arriving fits
  have held : Collected content { receiver with line := receiver.line.behind octets.length } :=
    ⟨collected.attached, collected.size, collected.count, collected.octets⟩
  exact ⟨_, run_bind_of_ok (run_readBytes arriving), held.write octets fits⟩

theorem takes_requestData {byteCount : Nat} (length : octets.length = byteCount + 2) :
    Takes (readRequestData byteCount) octets := by
  rw [readRequestData, ← length]
  exact takes_bytes

theorem takes_front {next : Receiving Unit} (further : Takes next later) :
    Takes (readBytes first.length >>= fun inpBuf => write inpBuf >>= fun _ => next) (first ++ later) := by
  have same : (readBytes first.length >>= fun inpBuf => write inpBuf >>= fun _ => next) =
      ((readBytes first.length >>= write) >>= fun _ => next) := (bind_assoc ..).symm
  rw [same]
  exact takes_bytes.andThen further

theorem takes_counted {byteCount : UInt8} (length : octets.length = byteCount.toNat + 2) :
    Takes (readByte >>= fun byteCount => write [byteCount] >>= fun _ => readRequestData byteCount.toNat)
      (byteCount :: octets) := by
  intro receiver content rest collected arriving fits
  have held : Collected content { receiver with line := receiver.line.behind 1 } :=
    ⟨collected.attached, collected.size, collected.count, collected.octets⟩
  rw [List.length_cons] at fits
  obtain ⟨written, line⟩ := held.write [byteCount] (by rw [List.length_singleton]; omega)
  have behind : (Receiver.write [byteCount] { receiver with line := receiver.line.behind 1 }).line.flatten =
      octets ++ rest := by
    rw [line, flatten_behind, arriving]
    rfl
  obtain ⟨after, ran, heldOn, left⟩ := takes_requestData length _ _ rest written behind
    (by rw [List.length_append, List.length_singleton]; omega)
  refine ⟨after, ?_, ?_, ?_⟩
  · rw [run_bind_of_ok (run_readByte arriving)]
    exact ran
  · rw [List.append_assoc] at heldOn
    exact heldOn
  · rw [left, line]
    dsimp only
    rw [behind_behind, List.length_cons, Nat.add_comm]

theorem Collected.front (collected : Collected content receiver) {count : Nat} (inside : count ≤ content.length) :
    receiver.inBuffer.take count = content.take count := by
  rw [← collected.octets, List.take_take, Nat.min_eq_left inside]

theorem Collected.getD (collected : Collected content receiver) {place : Nat} (inside : place < content.length) :
    receiver.inBuffer.getD place 0 = content.getD place 0 := by
  rw [List.getD_eq_getElem?_getD, List.getD_eq_getElem?_getD, ← collected.octets, List.getElem?_take_of_lt inside]

theorem Collected.checkCRC {pdu : List UInt8} {low high : UInt8} (collected : Collected (pdu ++ [low, high]) receiver)
    (fits : pdu.length + 2 ≤ 256) :
    receiver.checkCRC (receiver.count - 2) = .ok (decide (bitwiseCrc (pdu ++ [low, high]) = 0#16)) := by
  have length : (pdu ++ [low, high]).length = pdu.length + 2 := List.length_append
  have dlength : receiver.count - 2 = pdu.length := by
    rw [collected.count, length, Nat.add_sub_cancel]
  have first : receiver.inBuffer.getD pdu.length 0 = low := by
    rw [collected.getD (by omega)]
    simp
  have second : receiver.inBuffer.getD (pdu.length + 1) 0 = high := by
    rw [collected.getD (by omega)]
    simp
  have message : calculateCRC receiver.inBuffer 0 pdu.length = calculateCRC pdu 0 pdu.length := by
    unfold calculateCRC
    rw [collected.front (by omega), List.take_left' rfl, List.take_length]
  have own : decide (bitwiseCrc (pdu ++ [low, high]) = 0#16) = decide ((low, high) = calculateCRC pdu 0 pdu.length) :=
    decide_eq_decide.mpr (bitwiseCrc_eq_zero_iff pdu low high)
  unfold Receiver.checkCRC
  rw [dlength, collected.size, if_neg (by omega), message, first, second]
  dsimp only
  rw [if_neg (show ¬ pdu.length + 1 ≥ 256 by omega), own]
  by_cases lower : low = (calculateCRC pdu 0 pdu.length).1
  · rw [if_neg (not_not_intro lower)]
    congr 1
    apply decide_eq_decide.mpr
    constructor
    · exact fun upper => Prod.ext lower upper
    · exact fun both => congrArg Prod.snd both
  · rw [if_pos lower]
    congr 1
    exact (decide_eq_false fun both => lower (congrArg Prod.fst both)).symm

theorem run_write (octets : List UInt8) : (write octets).run receiver = (.ok (), receiver.write octets) := rfl

theorem run_lift (outcome : Except Throwable Value) (receiver : Receiver) :
    (liftM outcome : Receiving Value).run receiver = (outcome, receiver) := by
  cases outcome with
  | ok value => rfl
  | error fault => rfl

theorem run_readChecked {available : Line → Nat} {request read : ModbusMessage ModbusRequest} {left : List UInt8}
    (checked : receiver.checkCRC (receiver.count - 2) = .ok true)
    (taken : request.readFrom.run (receiver.inBuffer.take (receiver.count - 2)) = .ok (read, left)) :
    (readChecked available request).run receiver = (.ok read, receiver) := by
  have got : (get : Receiving Receiver).run receiver = (.ok receiver, receiver) := rfl
  unfold readChecked
  rw [run_bind_of_ok got]
  dsimp only
  rw [checked, taken, run_bind_of_ok (run_lift _ receiver), if_pos rfl, run_bind_of_ok (run_lift _ receiver)]
  rfl

end Reading

end ModbusRTUTransport

end EtherNetIP.Modbus
