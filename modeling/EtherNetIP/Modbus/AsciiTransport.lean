import EtherNetIP.Modbus.FrameWrites

/-! The ASCII transport: each octet is two hexadecimal digits, between a colon and a line end.

A line end is read as one character, and any other character together with the one
behind it. What is read is an int; the two marks have numbers past every octet, and
a pair that is not hexadecimal may come out as minus one, which stands for a timeout.
The port has no more to read at the end of the input.
-/

set_option autoImplicit false

namespace EtherNetIP.Modbus

open EtherNetIP.Library

namespace ModbusASCIITransport

abbrev FRAME_START : Int := 1000
abbrev FRAME_END : Int := 2000

/-- Character.digit to the base 16 of a character in an octet; the octets from 128 on are negative there. -/
def digit (character : UInt8) : Int :=
  if 48 ≤ character ∧ character ≤ 57 then character.toNat - 48
  else if 65 ≤ character ∧ character ≤ 70 then character.toNat - 55
  else if 97 ≤ character ∧ character ≤ 102 then character.toNat - 87
  else -1

def combined (first second : UInt8) : Int := digit first * 16 + digit second

def isLineEnd (character : UInt8) : Bool := character = 13 || character = 10

def readAsciiByte : DataInput Int
  | [] => .error .ioException
  | first :: rest =>
    if first = 58 then .ok (FRAME_START, rest)
    else if isLineEnd first then .ok (FRAME_END, rest)
    else match rest with
      | [] => .error .ioException
      | second :: rest => .ok (combined first second, rest)

def hexDigit (value : Nat) : UInt8 := if value < 10 then (48 + value).toUInt8 else (55 + value).toUInt8

def toHex (value : UInt8) : List UInt8 := [hexDigit (value.toNat / 16), hexDigit (value.toNat % 16)]

def writeAsciiByte (value : Int) : List UInt8 :=
  if value = FRAME_START then [58]
  else if value = FRAME_END then [13, 10]
  else toHex (octet value)

/-- The octets of the buffer are ints with a sign, none of which is a mark. -/
def writeAsciiBytes (buffer : List UInt8) : List UInt8 := buffer.flatMap fun value => writeAsciiByte value.toInt8.toInt

def writeFrame (buf : List UInt8) : List UInt8 :=
  writeAsciiByte FRAME_START ++ (writeAsciiBytes buf ++
    (writeAsciiByte (calculateLRC buf 0 buf.length 0).toInt8.toInt ++ writeAsciiByte FRAME_END))

end ModbusASCIITransport

namespace Outgoing

def writeData : Outgoing → Except Throwable (List UInt8)
  | request message => message.body.writeData
  | response message => message.body.writeData

def writeTo (message : Outgoing) : Except Throwable (List UInt8) := do
  let data ← message.writeData
  return octet message.getUnitID :: octet message.getFunctionCode :: data

end Outgoing

namespace ModbusASCIITransport

/-- To a port that writes fully. What is thrown is thrown before anything is written. -/
def writeMessageOut (message : Outgoing) : Except Throwable (List UInt8) := do
  let buf ← message.writeTo
  return writeFrame buf

/-- The array of the transport, and the stream into it. A stream that has outgrown the array writes to one of its own,
and the transport goes on with the old one. -/
structure InBuffer where
  inBuffer : List UInt8
  moved : Option (List UInt8)
  count : Nat

namespace InBuffer

def fresh : InBuffer := ⟨List.replicate 256 0, none, 0⟩

def reset (buffer : InBuffer) : InBuffer := { buffer with count := 0 }

def bump (buf : List UInt8) (count : Nat) : List UInt8 :=
  buf.take count ++ List.replicate (buf.length + 1 + 100 - count) 0

def writeByte (buffer : InBuffer) (value : Int) : InBuffer :=
  let buf := buffer.moved.getD buffer.inBuffer
  if buffer.count + 1 > buf.length then
    { buffer with moved := some ((bump buf buffer.count).set buffer.count (octet value)), count := buffer.count + 1 }
  else if buffer.moved.isSome then
    { buffer with moved := some (buf.set buffer.count (octet value)), count := buffer.count + 1 }
  else { buffer with inBuffer := buf.set buffer.count (octet value), count := buffer.count + 1 }

def checkLRC (buffer : InBuffer) : Except Throwable Bool :=
  if buffer.count = 0 ∨ buffer.count > buffer.inBuffer.length then throw .indexOutOfBoundsException
  else return buffer.inBuffer.getD (buffer.count - 1) 0 = calculateLRC buffer.inBuffer 0 buffer.count 1

def received (buffer : InBuffer) : List UInt8 := buffer.inBuffer.take buffer.count

end InBuffer

theorem readAsciiByte_shorter {input rest : List UInt8} {value : Int} (read : readAsciiByte input = .ok (value, rest)) :
    rest.length < input.length := by
  unfold readAsciiByte at read
  split at read
  · cases read
  · split at read
    · cases read
      exact Nat.lt_succ_self _
    · split at read
      · cases read
        exact Nat.lt_succ_self _
      · split at read
        · cases read
        · cases read
          rw [List.length_cons, List.length_cons]
          omega

inductive Reader where
  | readRequestIn
  | readResponseIn
  deriving DecidableEq, Repr

/-- Only one of the methods looks for a timeout before the frame. -/
def Reader.timedOut : Reader → Int → Bool
  | readRequestIn, _ => false
  | readResponseIn, value => value = -1

def skipToStart (reader : Reader) (input : List UInt8) : Except Throwable (List UInt8) :=
  match _read : readAsciiByte input with
  | .error fault => .error fault
  | .ok (value, rest) =>
    if value = FRAME_START then .ok rest
    else if reader.timedOut value then .error .ioException
    else skipToStart reader rest
termination_by input.length
decreasing_by exact readAsciiByte_shorter _read

def readToEnd (buffer : InBuffer) (input : List UInt8) : Except Throwable (InBuffer × List UInt8) :=
  match _read : readAsciiByte input with
  | .error fault => .error fault
  | .ok (value, rest) =>
    if value = FRAME_END then .ok (buffer, rest)
    else if value = -1 then .error .ioException
    else readToEnd (buffer.writeByte value) rest
termination_by input.length
decreasing_by exact readAsciiByte_shorter _read

theorem skipToStart_of_read {reader : Reader} {input rest : List UInt8} {value : Int}
    (read : readAsciiByte input = .ok (value, rest)) : skipToStart reader input =
      if value = FRAME_START then .ok rest
      else if reader.timedOut value then .error .ioException
      else skipToStart reader rest := by
  rw [skipToStart]
  split
  · rename_i failed
    rw [read] at failed
    cases failed
  · rename_i other left found
    rw [read] at found
    cases found
    rfl

theorem readToEnd_of_read {buffer : InBuffer} {input rest : List UInt8} {value : Int}
    (read : readAsciiByte input = .ok (value, rest)) : readToEnd buffer input =
      if value = FRAME_END then .ok (buffer, rest)
      else if value = -1 then .error .ioException
      else readToEnd (buffer.writeByte value) rest := by
  rw [readToEnd]
  split
  · rename_i failed
    rw [read] at failed
    cases failed
  · rename_i other left found
    rw [read] at found
    cases found
    rfl

theorem skipToStart_of_error {reader : Reader} {input : List UInt8} {fault : Throwable}
    (failed : readAsciiByte input = .error fault) : skipToStart reader input = .error fault := by
  rw [skipToStart]
  split
  · rename_i other found
    rw [failed] at found
    cases found
    rfl
  · rename_i found
    rw [failed] at found
    cases found

theorem readToEnd_of_error {buffer : InBuffer} {input : List UInt8} {fault : Throwable}
    (failed : readAsciiByte input = .error fault) : readToEnd buffer input = .error fault := by
  rw [readToEnd]
  split
  · rename_i other found
    rw [failed] at found
    cases found
    rfl
  · rename_i found
    rw [failed] at found
    cases found

theorem skipToStart_shorter {reader : Reader} {input rest : List UInt8}
    (skipped : skipToStart reader input = .ok rest) : rest.length < input.length := by
  induction input using skipToStart.induct reader with
  | case1 input fault failed =>
    rw [skipToStart_of_error failed] at skipped
    cases skipped
  | case2 input left read =>
    rw [skipToStart_of_read read, if_pos rfl] at skipped
    cases skipped
    exact readAsciiByte_shorter read
  | case3 input value left read start timedOut =>
    rw [skipToStart_of_read read, if_neg start, if_pos timedOut] at skipped
    cases skipped
  | case4 input value left read start timedOut ih =>
    rw [skipToStart_of_read read, if_neg start, if_neg timedOut] at skipped
    exact Nat.lt_trans (ih skipped) (readAsciiByte_shorter read)

theorem readToEnd_shorter {buffer filled : InBuffer} {input rest : List UInt8}
    (read : readToEnd buffer input = .ok (filled, rest)) : rest.length < input.length := by
  induction buffer, input using readToEnd.induct with
  | case1 buffer input fault failed =>
    rw [readToEnd_of_error failed] at read
    cases read
  | case2 buffer input left ended =>
    rw [readToEnd_of_read ended, if_pos rfl] at read
    cases read
    exact readAsciiByte_shorter ended
  | case3 buffer input left ended stop =>
    rw [readToEnd_of_read ended, if_neg stop, if_pos rfl] at read
    cases read
  | case4 buffer input value left ended stop timedOut ih =>
    rw [readToEnd_of_read ended, if_neg stop, if_neg timedOut] at read
    exact Nat.lt_trans (ih read) (readAsciiByte_shorter ended)

def receive (reader : Reader) (buffer : InBuffer) (input : List UInt8) : Except Throwable (InBuffer × List UInt8) :=
  match _skipped : skipToStart reader input with
  | .error fault => .error fault
  | .ok started =>
    match _read : readToEnd buffer.reset started with
    | .error fault => .error fault
    | .ok (filled, rest) =>
      match filled.checkLRC with
      | .error fault => .error fault
      | .ok true => .ok (filled, rest)
      | .ok false => receive reader filled rest
termination_by input.length
decreasing_by exact Nat.lt_trans (readToEnd_shorter _read) (skipToStart_shorter _skipped)

def readRequest : DataInput (ModbusMessage ModbusRequest) := do
  let unitID ← readUnsignedByte
  let functionCode ← readUnsignedByte
  let request := createModbusRequest functionCode
  let (body, length) ← request.body.readData request.dataLength
  return { request with
    headless := true, unitID, functionCode, body, dataLength := length.getD request.dataLength }

def readResponse : DataInput (ModbusMessage ModbusResponse) := do
  let unitID ← readUnsignedByte
  let functionCode ← readUnsignedByte
  let response := createModbusResponse functionCode
  let (body, length) ← response.body.readData
  return { response with
    headless := true, unitID, functionCode, body, dataLength := length.getD response.dataLength }

/-- What readFrom makes of the received octets. Whatever is thrown, the reader throws a ModbusIOException. -/
def readIn {Message : Type} (reader : Reader) (readFrom : DataInput Message) (buffer : InBuffer) (input : List UInt8) :
    Except Throwable (Message × InBuffer × List UInt8) :=
  match receive reader buffer input with
  | .error _ => .error .modbusIOException
  | .ok (filled, rest) =>
    match readFrom.run filled.received with
    | .error _ => .error .modbusIOException
    | .ok (message, _) => .ok (message, filled, rest)

def readRequestIn :
    InBuffer → List UInt8 → Except Throwable (ModbusMessage ModbusRequest × InBuffer × List UInt8) :=
  readIn .readRequestIn readRequest

def readResponseIn :
    InBuffer → List UInt8 → Except Throwable (ModbusMessage ModbusResponse × InBuffer × List UInt8) :=
  readIn .readResponseIn readResponse

end ModbusASCIITransport

end EtherNetIP.Modbus
