import EtherNetIP.Modbus.RtuRoundTrips

/-! The messages of the TCP transport, with their heads.

The head announces how many octets are behind it, as a signed word, and they are
read into an array of fixed size before the message is decoded from there.
-/

set_option autoImplicit false

namespace EtherNetIP.Modbus

open EtherNetIP.Library

namespace ModbusTCPTransport

def maxMessageLength : Int := 256

def registerToShort (octets : List UInt8) (index : Nat) : Int :=
  (octets.getD index 0).toInt8.toInt * 256 + (octets.getD (index + 1) 0).toNat

/-- ModbusMessageImpl.readFrom of a message with a head. A request is told the announced length for its fields. -/
def readFrom {Body : Type} (message : ModbusMessage Body) (readData : Int → DataInput (Body × Option Int)) :
    DataInput (ModbusMessage Body) := do
  let transactionID ← readUnsignedShort
  let protocolID ← readUnsignedShort
  let dataLength ← readUnsignedShort
  let unitID ← readUnsignedByte
  let functionCode ← readUnsignedByte
  let (body, length) ← readData dataLength
  return { message with
    transactionID, protocolID, dataLength := length.getD dataLength, unitID, functionCode, body }

/-- The request is made of the array after the length has been stored in it. -/
def requestOf (count : Int) (buffer : List UInt8) : Except Throwable (ModbusMessage ModbusRequest) := do
  let (unit, behind) ← readByte.run (buffer.drop 6)
  let (functionCode, _) ← readUnsignedByte.run behind
  let created := createModbusRequest functionCode
  let dataLength ← setDataLength count
  let (request, _) ← (readFrom { created with unitID := unit, dataLength } created.body.readData).run buffer
  return request

/-- The words of the head are stored once more at the end, the protocol with its sign. -/
def responseOf (_count : Int) (buffer : List UInt8) : Except Throwable (ModbusMessage ModbusResponse) := do
  let (function, _) ← readUnsignedByte.run (buffer.drop 7)
  let created := createModbusResponse function
  let (response, _) ← (readFrom created fun _ => created.body.readData).run buffer
  return { response with
    transactionID := registerToShort buffer 0 % 65536
    protocolID := registerToShort buffer 2 }

section Frames

variable {Message : Type}

def readFrame (messageOf : Int → List UInt8 → Except Throwable Message) : DataInput Message := do
  let header ← readFully 6
  let count := registerToShort header 4
  if count < 0 ∨ maxMessageLength < count then throw .indexOutOfBoundsException
  else do
    let behind ← readFully count.toNat
    attempt (messageOf count (header ++ behind))

end Frames

def readRequest : DataInput (ModbusMessage ModbusRequest) := fun stream =>
  match (readFrame requestOf).run stream with
  | .ok read => .ok read
  | .error fault => .error (if fault.isIO then .modbusIOException else fault)

def readResponse : DataInput (ModbusMessage ModbusResponse) := fun stream =>
  match (readFrame responseOf).run stream with
  | .ok read => .ok read
  | .error _ => .error .modbusIOException

def header (transactionID protocolID : Int) (length : Nat) : List UInt8 :=
  writeShort transactionID ++ writeShort protocolID ++ writeShort (length + 2)

/-- The octets written for a message whose getMessage gives these, or null. -/
def writeMessage {Body : Type} (message : ModbusMessage Body) (data : Option (List UInt8)) : List UInt8 :=
  header message.transactionID message.protocolID (data.getD []).length ++
    (octet message.unitID :: octet message.functionCode :: data.getD [])

section Streams

variable {Message : Type} {messageOf : Int → List UInt8 → Except Throwable Message} {a b c d e f : UInt8}
  {tail : List UInt8}

theorem run_readFrame_short {stream : List UInt8} (short : stream.length < 6) :
    (readFrame messageOf).run stream = .error .eofException := by
  unfold readFrame
  change (readFully 6).run stream >>= _ = _
  rw [run_readFully, if_neg (Nat.not_le_of_lt short)]
  rfl

theorem run_readFrame : (readFrame messageOf).run (a :: b :: c :: d :: e :: f :: tail) =
    if e.toInt8.toInt * 256 + f.toNat < 0 ∨ maxMessageLength < e.toInt8.toInt * 256 + f.toNat then
      .error .indexOutOfBoundsException
    else if (e.toInt8.toInt * 256 + f.toNat).toNat ≤ tail.length then
      (messageOf (e.toInt8.toInt * 256 + f.toNat)
        (a :: b :: c :: d :: e :: f :: tail.take (e.toInt8.toInt * 256 + f.toNat).toNat)).map
          (·, tail.drop (e.toInt8.toInt * 256 + f.toNat).toNat)
    else .error .eofException := by
  have six : (readFully 6).run (a :: b :: c :: d :: e :: f :: tail) = .ok ([a, b, c, d, e, f], tail) := by
    rw [run_readFully, if_pos (by simp)]
    rfl
  have head : registerToShort [a, b, c, d, e, f] 4 = e.toInt8.toInt * 256 + f.toNat := rfl
  rw [readFrame, run_then_of_ok six]
  dsimp only
  rw [head]
  split
  · rfl
  · change (readFully _).run tail >>= _ = _
    rw [run_readFully]
    split
    · rfl
    · rfl

end Streams

section Requests

variable {a b c d e f unit function : UInt8} {body tail : List UInt8}

/-- What the head says of itself is kept, and the fields are read from what stands behind it. -/
theorem requestOf_eq (count : Int) : requestOf count (a :: b :: c :: d :: e :: f :: unit :: function :: body) =
    setDataLength count >>= fun _ =>
      ((createModbusRequest function.toNat).body.readData (e.toNat * 256 + f.toNat)).run body >>= fun read =>
        .ok { createModbusRequest function.toNat with
          transactionID := a.toNat * 256 + b.toNat
          protocolID := c.toNat * 256 + d.toNat
          dataLength := read.1.2.getD (e.toNat * 256 + f.toNat)
          unitID := unit.toNat
          functionCode := function.toNat
          body := read.1.1 } := by
  unfold requestOf
  change (setDataLength count >>= fun dataLength => _) = _
  congr 1
  funext dataLength
  change ((((createModbusRequest function.toNat).body.readData (e.toNat * 256 + f.toNat)).run body >>= _) >>= _) = _
  cases ((createModbusRequest function.toNat).body.readData (e.toNat * 256 + f.toNat)).run body with
  | ok read => rfl
  | error fault => rfl

def announcedLength (stream : List UInt8) : Int := registerToShort stream 4

/-- What has been read is the head's and the first two octets', and all octets of the frame are gone, no others. -/
structure Carried (stream : List UInt8) (request : ModbusMessage ModbusRequest) (rest : List UInt8) : Prop where
  transaction : request.transactionID = wordAt stream 0
  protocol : request.protocolID = wordAt stream 2
  unit : request.unitID = (stream.getD 6 0).toNat
  function : request.functionCode = (stream.getD 7 0).toNat
  whole : 0 ≤ announcedLength stream ∧ 6 + announcedLength stream ≤ stream.length
  rest : rest = stream.drop (6 + (announcedLength stream).toNat)

/-- A request is read that is the frame's, or the exception thrown that is declared for it. -/
def HandsOn (stream : List UInt8) : Prop :=
  match readRequest.run stream with
  | .error fault => fault = .modbusIOException
  | .ok (request, rest) => Carried stream request rest

/-- The length is one that the array and the setter admit, and the fields do not make their reader run past what they
announce, or the frame is not all there. -/
def Admissible (stream : List UInt8) : Prop :=
  stream.length < 6 ∨ (0 ≤ announcedLength stream ∧ announcedLength stream ≤ maxMessageLength ∧
    (stream.length < 6 + announcedLength stream ∨ announcedLength stream < 2 ∨
      (announcedLength stream ≤ 253 ∧ ¬ ModbusRTUTransport.RunsPastBody (stream.getD 7 0)
        ((stream.drop 8).take ((announcedLength stream).toNat - 2)))))

theorem readRequest_of_error {stream : List UInt8} {fault : Throwable}
    (raised : (readFrame requestOf).run stream = .error fault) :
    readRequest.run stream = .error (if fault.isIO then .modbusIOException else fault) := by
  change readRequest stream = _
  unfold readRequest
  rw [raised]

theorem handsOn_of_error {stream : List UInt8} {fault : Throwable}
    (raised : (readFrame requestOf).run stream = .error fault) : HandsOn stream ↔ ¬ fault.Escapes := by
  unfold HandsOn
  rw [readRequest_of_error raised]
  cases io : fault.isIO with
  | true =>
      rw [if_pos rfl]
      refine iff_of_true rfl ?_
      intro out
      rw [out.1] at io
      cases io
  | false =>
      rw [if_neg Bool.false_ne_true]
      exact ⟨fun same out => out.2 same, fun inside => of_not_not fun other => inside ⟨io, other⟩⟩

theorem handsOn_of_io {stream : List UInt8} {fault : Throwable}
    (raised : (readFrame requestOf).run stream = .error fault) (io : fault.isIO = true) : HandsOn stream := by
  apply (handsOn_of_error raised).mpr
  intro out
  rw [out.1] at io
  cases io

theorem requestOf_short (count : Int) (few : body.length < 2) :
    requestOf count (a :: b :: c :: d :: e :: f :: body) = .error .eofException := by
  cases body with
  | nil => rfl
  | cons unit body =>
      cases body with
      | nil => rfl
      | cons function body =>
          simp only [List.length_cons] at few
          omega

theorem two_octets {octets : List UInt8} (long : 2 ≤ octets.length) :
    ∃ first second rest, octets = first :: second :: rest := by
  cases octets with
  | nil => cases long
  | cons first octets =>
      cases octets with
      | nil => exact absurd long (Nat.not_succ_le_self 1)
      | cons second rest => exact ⟨first, second, rest, rfl⟩

theorem six_octets {octets : List UInt8} (long : 6 ≤ octets.length) :
    ∃ a b c d e f tail, octets = a :: b :: c :: d :: e :: f :: tail := by
  obtain ⟨a, b, c, d, e, behind, rfl⟩ := five_octets (show 5 ≤ octets.length by omega)
  cases behind with
  | nil => exact absurd long (Nat.not_succ_le_self 5)
  | cons f tail => exact ⟨a, b, c, d, e, f, tail, rfl⟩

/-- What becomes of a frame that is all there and whose length is admitted by the setter. -/
theorem handsOn_fields {stream : List UInt8} {count : Int} (setter : setDataLength count = .ok (count + 2))
    (small : body.length ≤ 252) {rest : List UInt8}
    (ran : (readFrame requestOf).run stream =
      (requestOf count (a :: b :: c :: d :: e :: f :: unit :: function :: body)).map (·, rest))
    (carried : ∀ request : ModbusMessage ModbusRequest, request.transactionID = a.toNat * 256 + b.toNat →
      request.protocolID = c.toNat * 256 + d.toNat → request.unitID = unit.toNat →
      request.functionCode = function.toNat → Carried stream request rest) :
    HandsOn stream ↔ ¬ ModbusRTUTransport.RunsPastBody function body := by
  have faults := ModbusRTUTransport.faults_readData function (e.toNat * 256 + f.toNat) small
  rw [requestOf_eq, setter] at ran
  cases fields : ((createModbusRequest function.toNat).body.readData (e.toNat * 256 + f.toNat)).run body with
  | ok read =>
      rw [fields] at ran faults
      refine iff_of_true ?_ ?_
      · have handed : readRequest.run stream = (readFrame requestOf).run stream := by
          change readRequest stream = _
          unfold readRequest
          rw [ran]
          rfl
        unfold HandsOn
        rw [handed, ran]
        exact carried _ rfl rfl rfl rfl
      · intro past
        obtain ⟨fault, raised, -⟩ := faults.mpr past
        cases raised
  | error fault =>
      rw [fields] at ran faults
      -- the call throws what the fields throw
      have raised : (readFrame requestOf).run stream = .error fault := ran
      rw [handsOn_of_error raised]
      apply not_congr
      constructor
      · exact fun out => faults.mp ⟨fault, rfl, out⟩
      · intro past
        obtain ⟨other, same, out⟩ := faults.mpr past
        cases same
        exact out

/-- A frame that is all there and has a unit and a function code. -/
theorem handsOn_whole {count : Int} {others : List UInt8}
    (same : announcedLength (a :: b :: c :: d :: e :: f :: unit :: function :: others) = count) (two : 2 ≤ count)
    (inside : count ≤ maxMessageLength) (enough : count.toNat ≤ (unit :: function :: others).length) :
    HandsOn (a :: b :: c :: d :: e :: f :: unit :: function :: others) ↔
      count ≤ 253 ∧ ¬ ModbusRTUTransport.RunsPastBody function (others.take (count.toNat - 2)) := by
  have ran := @run_readFrame _ requestOf a b c d e f (unit :: function :: others)
  have announced : e.toInt8.toInt * 256 + f.toNat = count := same
  obtain ⟨size, whole⟩ := Nat.exists_eq_add_of_le' (show 2 ≤ count.toNat by omega)
  have fields : (unit :: function :: others).take count.toNat = unit :: function :: others.take size := by
    rw [whole]
    rfl
  rw [announced, if_neg (by omega), if_pos enough, fields] at ran
  rw [whole, Nat.add_sub_cancel]
  by_cases long : 253 < count
  · -- the array has room for it but the setter has not
    have setter : setDataLength count = .error .illegalArgumentException := if_pos (.inr (by omega))
    rw [requestOf_eq, setter] at ran
    refine iff_of_false ((handsOn_of_error ran).not.mpr (not_not_intro ⟨rfl, by decide⟩)) ?_
    rintro ⟨short, -⟩
    omega
  · have setter : setDataLength count = .ok (count + 2) := if_neg (by omega)
    have taken := List.length_take_of_le enough
    have small : (others.take size).length ≤ 252 := by
      rw [fields, List.length_cons, List.length_cons] at taken
      omega
    rw [handsOn_fields setter small ran, and_iff_right (by omega)]
    intro request transaction protocol unitID functionCode
    refine ⟨transaction, protocol, unitID, functionCode, ?_, ?_⟩
    · rw [same]
      simp only [List.length_cons] at enough ⊢
      omega
    · rw [same, Nat.add_comm]
      rfl

theorem handsOn_iff (stream : List UInt8) : HandsOn stream ↔ Admissible stream := by
  by_cases short : stream.length < 6
  · exact iff_of_true (handsOn_of_io (run_readFrame_short short) rfl) (.inl short)
  · obtain ⟨a, b, c, d, e, f, tail, rfl⟩ := six_octets (Nat.le_of_not_lt short)
    have length : (a :: b :: c :: d :: e :: f :: tail).length = tail.length + 6 := rfl
    have ran := @run_readFrame _ requestOf a b c d e f tail
    obtain ⟨count, same⟩ : ∃ count, announcedLength (a :: b :: c :: d :: e :: f :: tail) = count := ⟨_, rfl⟩
    have announced : e.toInt8.toInt * 256 + f.toNat = count := same
    rw [announced] at ran
    unfold Admissible
    rw [length, same, or_iff_right (by omega)]
    by_cases outside : count < 0 ∨ maxMessageLength < count
    · -- the array has no room for it, and nobody catches that
      rw [if_pos outside] at ran
      refine iff_of_false ((handsOn_of_error ran).not.mpr (not_not_intro ⟨rfl, by decide⟩)) ?_
      rintro ⟨positive, inside, -⟩
      omega
    · rw [if_neg outside] at ran
      rw [and_iff_right (by omega), and_iff_right (by omega)]
      by_cases enough : count.toNat ≤ tail.length
      · by_cases few : count < 2
        · have taken := List.length_take_of_le enough
          rw [if_pos enough, requestOf_short _ (by omega)] at ran
          exact iff_of_true (handsOn_of_io ran rfl) (.inr (.inl few))
        · obtain ⟨unit, function, others, rfl⟩ := two_octets (show 2 ≤ tail.length by omega)
          rw [or_iff_right (by omega), or_iff_right few]
          exact handsOn_whole same (by omega) (by omega) enough
      · rw [if_neg enough] at ran
        exact iff_of_true (handsOn_of_io ran rfl) (.inl (by omega))

theorem six_le_length {stream : List UInt8} (whole : (stream.length : Int) = 6 + announcedLength stream) :
    6 ≤ stream.length := by
  by_contra short
  have last : stream.getD 5 0 = 0 := List.getD_eq_default _ _ (by omega)
  have announced : announcedLength stream = (stream.getD 4 0).toInt8.toInt * 256 + (stream.getD 5 0).toNat := rfl
  rw [last, UInt8.toNat_zero] at announced
  omega

theorem run_readFrame_append {stream : List UInt8} (rest : List UInt8)
    (whole : (stream.length : Int) = 6 + announcedLength stream) : (readFrame requestOf).run (stream ++ rest) =
      ((readFrame requestOf).run stream).map fun read => (read.1, read.2 ++ rest) := by
  obtain ⟨a, b, c, d, e, f, tail, rfl⟩ := six_octets (six_le_length whole)
  have announced : e.toInt8.toInt * 256 + f.toNat = tail.length := by
    change ((tail.length + 6 : Nat) : Int) = 6 + (e.toInt8.toInt * 256 + f.toNat) at whole
    omega
  have more : tail.length ≤ (tail ++ rest).length := by
    rw [List.length_append]
    omega
  change (readFrame requestOf).run (a :: b :: c :: d :: e :: f :: (tail ++ rest)) = _
  rw [run_readFrame, run_readFrame, announced, Int.toNat_natCast, List.take_left' rfl, List.drop_left' rfl,
    List.take_length, List.drop_length, if_pos (Nat.le_refl tail.length), if_pos more]
  split
  · rfl
  · cases requestOf tail.length (a :: b :: c :: d :: e :: f :: tail) with
    | ok request => rfl
    | error fault => rfl

/-- What stands behind the frame is neither read nor heeded. -/
theorem readRequest_append {stream : List UInt8} (rest : List UInt8)
    (whole : (stream.length : Int) = 6 + announcedLength stream) :
    readRequest.run (stream ++ rest) = (readRequest.run stream).map fun read => (read.1, read.2 ++ rest) := by
  have same := run_readFrame_append rest whole
  change readRequest (stream ++ rest) = (readRequest stream).map _
  unfold readRequest
  rw [same]
  cases (readFrame requestOf).run stream with
  | ok read => rfl
  | error fault => rfl

end Requests

section RoundTrips

variable {Body Message : Type} {value : Int} {data rest : List UInt8}

def signed (value : Int) : Int := (octet (value >>> (8 : Nat))).toInt8.toInt * 256 + (octet value).toNat

theorem signed_eq (fits : FitsWord value) : signed value = if value < 32768 then value else value - 65536 := by
  have low := toNat_octet value
  have high := toNat_octet (value >>> (8 : Nat))
  rw [shiftRight_eight] at high
  unfold FitsWord at fits
  rw [signed, toInt_toInt8, shiftRight_eight]
  split <;> split <;> omega

theorem word_of_fits (fits : FitsWord value) :
    ((octet (value >>> (8 : Nat))).toNat : Int) * 256 + (octet value).toNat = value :=
  congrArg Prod.fst (Except.ok.inj (decodes_unsignedShort fits).run)

theorem signed_of_small (fits : FitsWord value) (small : value < 32768) : signed value = value := by
  rw [signed_eq fits, if_pos small]

/-- From any stream that begins with it the message is taken whole, and what stands behind it is left. -/
theorem run_readFrame_written {messageOf : Int → List UInt8 → Except Throwable Message}
    (message : ModbusMessage Body) (size : data.length ≤ 252) :
    (readFrame messageOf).run (writeMessage message (some data) ++ rest) =
      (messageOf (data.length + 2) (writeMessage message (some data))).map (·, rest) := by
  have announced := signed_of_small (show FitsWord ((data.length : Int) + 2) from ⟨by omega, by omega⟩) (by omega)
  unfold signed at announced
  have octets : writeMessage message (some data) ++ rest =
      octet (message.transactionID >>> (8 : Nat)) :: octet message.transactionID ::
        octet (message.protocolID >>> (8 : Nat)) :: octet message.protocolID ::
        octet (((data.length : Int) + 2) >>> (8 : Nat)) :: octet ((data.length : Int) + 2) ::
        (octet message.unitID :: octet message.functionCode :: data ++ rest) := rfl
  have length : (octet message.unitID :: octet message.functionCode :: data).length =
      ((data.length : Int) + 2).toNat := by
    simp only [List.length_cons]
    omega
  rw [octets, run_readFrame, announced, if_neg (by unfold maxMessageLength; omega), ← length,
    if_pos (by rw [List.length_append]; omega), List.take_left' rfl, List.drop_left' rfl]
  rfl

structure SendableRequest (message : ModbusMessage ModbusRequest) : Prop where
  transaction : FitsWord message.transactionID
  protocol : FitsWord message.protocolID
  unit : FitsOctet message.unitID
  code : message.functionCode = message.body.functionCode message.functionCode
  fits : message.body.FitsPdu

structure SendableResponse (message : ModbusMessage ModbusResponse) : Prop where
  transaction : FitsWord message.transactionID
  protocol : FitsWord message.protocolID
  unit : FitsOctet message.unitID
  code : FitsOctet message.functionCode
  coded : ModbusRTUTransport.Coded (octet message.functionCode) message.body
  fits : message.body.FitsPdu

structure SameMessage (read message : ModbusMessage Body) : Prop where
  transaction : read.transactionID = message.transactionID
  protocol : read.protocolID = message.protocolID
  unit : read.unitID = message.unitID
  function : read.functionCode = message.functionCode
  body : read.body = message.body

def RequestRoundTrips (message : ModbusMessage ModbusRequest) : Prop :=
  ∃ data, message.body.getMessage = .ok data ∧ ∀ rest, ∃ read,
    readRequest.run (writeMessage message data ++ rest) = .ok (read, rest) ∧ SameMessage read message

def ResponseRoundTrips (message : ModbusMessage ModbusResponse) : Prop :=
  ∃ data, message.body.getMessage = .ok data ∧ ∀ rest, ∃ read,
    readResponse.run (writeMessage message (some data) ++ rest) = .ok (read, rest) ∧ SameMessage read message

theorem requestOf_written (message : ModbusMessage ModbusRequest) (count : Int) (size : data.length ≤ 252) :
    requestOf count (writeMessage message (some data)) = setDataLength count >>= fun _ =>
      ((createModbusRequest (octet message.functionCode).toNat).body.readData (data.length + 2)).run data >>= fun read =>
        .ok { createModbusRequest (octet message.functionCode).toNat with
          transactionID := (octet (message.transactionID >>> (8 : Nat))).toNat * 256 + (octet message.transactionID).toNat
          protocolID := (octet (message.protocolID >>> (8 : Nat))).toNat * 256 + (octet message.protocolID).toNat
          dataLength := read.1.2.getD (data.length + 2)
          unitID := (octet message.unitID).toNat
          functionCode := (octet message.functionCode).toNat
          body := read.1.1 } := by
  have announced := word_of_fits (show FitsWord ((data.length : Int) + 2) from ⟨by omega, by omega⟩)
  have parts := @requestOf_eq (octet (message.transactionID >>> (8 : Nat))) (octet message.transactionID)
    (octet (message.protocolID >>> (8 : Nat))) (octet message.protocolID)
    (octet (((data.length : Int) + 2) >>> (8 : Nat))) (octet ((data.length : Int) + 2))
    (octet message.unitID) (octet message.functionCode) data count
  rw [announced] at parts
  exact parts

theorem readRequest_eq_ok {stream : List UInt8} {read : ModbusMessage ModbusRequest} :
    readRequest.run stream = .ok (read, rest) ↔ (readFrame requestOf).run stream = .ok (read, rest) := by
  change readRequest stream = _ ↔ _
  unfold readRequest
  cases (readFrame requestOf).run stream with
  | ok handed => exact Iff.rfl
  | error fault => exact iff_of_false (fun same => by cases same) (fun same => by cases same)

theorem readResponse_eq_ok {stream : List UInt8} {read : ModbusMessage ModbusResponse} :
    readResponse.run stream = .ok (read, rest) ↔ (readFrame responseOf).run stream = .ok (read, rest) := by
  change readResponse stream = _ ↔ _
  unfold readResponse
  cases (readFrame responseOf).run stream with
  | ok handed => exact Iff.rfl
  | error fault => exact iff_of_false (fun same => by cases same) (fun same => by cases same)

theorem functionCode_of_laid {request : ModbusRequest} {unknown : Int} (laid : request.getMessage = .ok (some data)) :
    request.functionCode unknown = request.functionCode 0 := by
  cases request with
  | illegalFunction => cases laid
  | _ => rfl

theorem illegalFunction_of_laid {request : ModbusRequest} (laid : request.getMessage = .ok none) :
    request = .illegalFunction := by
  cases request with
  | illegalFunction => rfl
  | writeSingleRegister reference register =>
      obtain ⟨_, -, other⟩ := bind_eq_ok.mp laid
      cases other
  | readFileRecord records =>
      obtain ⟨_, -, other⟩ := bind_eq_ok.mp laid
      cases other
  | writeFileRecord records =>
      obtain ⟨_, -, other⟩ := bind_eq_ok.mp laid
      cases other
  | readWriteMultiple readReference readCount writeReference writeCount registers =>
      obtain ⟨_, -, other⟩ := bind_eq_ok.mp laid
      cases other
  | _ => cases laid

/-- A request for an unknown function has no octets, and as many as its head announces are skipped for it. -/
theorem not_reads_illegalFunction (request : ModbusRequest) {recorded : Option Int} {left : List UInt8} :
    (request.readData 2).run [] ≠ .ok ((.illegalFunction, recorded), left) := by
  intro read
  cases request with
  | _ => cases read

theorem not_requestRoundTrips_illegalFunction {message : ModbusMessage ModbusRequest}
    (laid : message.body.getMessage = .ok none) {read : ModbusMessage ModbusRequest}
    (handed : readRequest.run (writeMessage message none ++ []) = .ok (read, [])) : read.body ≠ message.body := by
  intro same
  have few : ([] : List UInt8).length ≤ 252 := Nat.zero_le 252
  -- no octets and none at all are written alike
  change readRequest.run (writeMessage message (some []) ++ []) = _ at handed
  rw [readRequest_eq_ok, run_readFrame_written message few, requestOf_written message _ few] at handed
  change (((createModbusRequest (octet message.functionCode).toNat).body.readData 2).run [] >>= _).map _ = _ at handed
  cases fields : ((createModbusRequest (octet message.functionCode).toNat).body.readData 2).run [] with
  | error fault =>
      rw [fields] at handed
      cases handed
  | ok taken =>
      rw [fields] at handed
      cases handed
      have body : taken.1.1 = .illegalFunction := same.trans (illegalFunction_of_laid laid)
      apply not_reads_illegalFunction (createModbusRequest (octet message.functionCode).toNat).body
      rw [fields, ← body]

section Requests

variable {message read : ModbusMessage ModbusRequest}

theorem SendableRequest.functionCode_eq (sendable : SendableRequest message)
    (laid : message.body.getMessage = .ok (some data)) : message.functionCode = message.body.functionCode 0 :=
  sendable.code.trans (functionCode_of_laid laid)

theorem created_of_sendable (sendable : SendableRequest message) (laid : message.body.getMessage = .ok (some data)) :
    (createModbusRequest (octet message.functionCode).toNat).body = message.body.blank := by
  rw [sendable.functionCode_eq laid, ModbusRTUTransport.octet_functionCode]
  exact ModbusRTUTransport.blank_of_laid laid

/-- What is read back has passed the setter, and the class has read itself from what is behind the head. -/
theorem regular_of_read (sendable : SendableRequest message) (laid : message.body.getMessage = .ok (some data))
    (handed : readRequest.run (writeMessage message (some data) ++ []) = .ok (read, []))
    (same : read.body = message.body) : message.body.Regular ∧ data.length ≤ 251 := by
  have size := sendable.fits.size data laid
  rw [readRequest_eq_ok, run_readFrame_written message size, requestOf_written message _ size,
    created_of_sendable sendable laid] at handed
  cases setter : setDataLength ((data.length : Int) + 2) with
  | error fault =>
      rw [setter] at handed
      cases handed
  | ok recorded =>
      rw [setter] at handed
      constructor
      · cases fields : (message.body.blank.readData (data.length + 2)).run data with
        | error fault =>
            have failed := handed
            simp only [fields] at failed
            cases failed
        | ok taken =>
            have made := handed
            simp only [fields] at made
            cases made
            apply ModbusRequest.regular_of_readsSelf sendable.fits
            refine ⟨data, taken.1.2, taken.2, laid, fields.trans ?_⟩
            rw [← same]
      · unfold setDataLength at setter
        split at setter
        · cases setter
        · omega

theorem readRequest_written (sendable : SendableRequest message) (regular : message.body.Regular)
    (laid : message.body.getMessage = .ok (some data)) (few : data.length ≤ 251) (rest : List UInt8) : ∃ read,
      readRequest.run (writeMessage message (some data) ++ rest) = .ok (read, rest) ∧ SameMessage read message := by
  have size := sendable.fits.size data laid
  have parts := requestOf_written message (data.length + 2) size
  obtain ⟨other, recorded, left, laid', fields⟩ :=
    @ModbusRequest.readsSelf_of_regular message.body (data.length + 2) sendable.fits regular
  rw [laid] at laid'
  cases laid'
  -- the setter adds two to a length that has the two already
  have setter : setDataLength ((data.length : Int) + 2) = .ok ((data.length : Int) + 2 + 2) := if_neg (by omega)
  rw [created_of_sendable sendable laid, setter] at parts
  have made := parts
  simp only [fields] at made
  have number : ((octet message.functionCode).toNat : Int) = message.functionCode := by
    rw [sendable.functionCode_eq laid, ModbusRTUTransport.octet_functionCode, ModbusRTUTransport.code_toNat]
  obtain ⟨read, handed, same⟩ : ∃ read, requestOf (data.length + 2) (writeMessage message (some data)) = .ok read ∧
      SameMessage read message :=
    ⟨_, made, word_of_fits sendable.transaction, word_of_fits sendable.protocol, toNat_octet_of_fits sendable.unit,
      number, rfl⟩
  refine ⟨read, readRequest_eq_ok.mpr ?_, same⟩
  rw [run_readFrame_written message size, handed]
  rfl

theorem requestRoundTrips_iff (sendable : SendableRequest message) : RequestRoundTrips message ↔
    message.body.Regular ∧ ∀ data, message.body.getMessage = .ok (some data) → data.length ≤ 251 := by
  constructor
  · rintro ⟨octets, laid, reads⟩
    obtain ⟨read, handed, same⟩ := reads []
    cases octets with
    | none => exact absurd same.body (not_requestRoundTrips_illegalFunction laid handed)
    | some data =>
        obtain ⟨regular, few⟩ := regular_of_read sendable laid handed same.body
        refine ⟨regular, ?_⟩
        intro other laid'
        rw [laid] at laid'
        cases laid'
        exact few
  · rintro ⟨regular, short⟩
    obtain ⟨data, -, -, laid, -⟩ := @ModbusRequest.readsSelf_of_regular message.body 0 sendable.fits regular
    exact ⟨some data, laid, readRequest_written sendable regular laid (short data laid)⟩

end Requests

theorem responseOf_written (message : ModbusMessage ModbusResponse) (count : Int) (data : List UInt8) :
    ∃ dataLength : Int, responseOf count (writeMessage message (some data)) =
      (createModbusResponse (octet message.functionCode).toNat).body.readData.run data >>= fun read =>
        .ok { createModbusResponse (octet message.functionCode).toNat with
          transactionID := signed message.transactionID % 65536
          protocolID := signed message.protocolID
          dataLength := read.1.2.getD dataLength
          unitID := (octet message.unitID).toNat
          functionCode := (octet message.functionCode).toNat
          body := read.1.1 } := by
  refine ⟨(octet (((data.length : Int) + 2) >>> (8 : Nat))).toNat * 256 + (octet ((data.length : Int) + 2)).toNat, ?_⟩
  change (((createModbusResponse (octet message.functionCode).toNat).body.readData.run data >>= _) >>= _) = _
  cases (createModbusResponse (octet message.functionCode).toNat).body.readData.run data with
  | ok read => rfl
  | error fault => rfl

theorem responseRoundTrips_iff {message : ModbusMessage ModbusResponse} (sendable : SendableResponse message) :
    ResponseRoundTrips message ↔ message.body.Regular ∧ message.protocolID < 32768 := by
  have blank := ModbusRTUTransport.blank_of_coded sendable.coded
  constructor
  · rintro ⟨data, laid, reads⟩
    obtain ⟨read, handed, same⟩ := reads []
    rw [readResponse_eq_ok, run_readFrame_written message (sendable.fits.size data laid)] at handed
    obtain ⟨dataLength, parts⟩ := responseOf_written message (data.length + 2) data
    rw [parts, blank] at handed
    cases fields : message.body.blank.readData.run data with
    | error fault =>
        simp only [fields] at handed
        cases handed
    | ok taken =>
        simp only [fields] at handed
        cases handed
        have body : taken.1.1 = message.body := same.body
        constructor
        · apply ModbusResponse.regular_of_readsSelf sendable.fits
          refine ⟨data, taken.1.2, taken.2, laid, fields.trans ?_⟩
          rw [← body]
        · -- the protocol is stored with its sign
          have protocol : signed message.protocolID = message.protocolID := same.protocol
          rw [signed_eq sendable.protocol] at protocol
          split at protocol
          · assumption
          · omega
  · rintro ⟨regular, small⟩
    -- only the transaction is masked
    have transaction : signed message.transactionID % 65536 = message.transactionID := by
      have fits := sendable.transaction
      rw [signed_eq fits]
      unfold FitsWord at fits
      split <;> omega
    obtain ⟨data, recorded, left, laid, fields⟩ := (ModbusResponse.readsSelf_iff sendable.fits).mpr regular
    refine ⟨data, laid, ?_⟩
    intro rest
    obtain ⟨dataLength, parts⟩ := responseOf_written message (data.length + 2) data
    rw [blank] at parts
    simp only [fields] at parts
    obtain ⟨read, handed, same⟩ : ∃ read, responseOf (data.length + 2) (writeMessage message (some data)) = .ok read ∧
        SameMessage read message :=
      ⟨_, parts, transaction, signed_of_small sendable.protocol small, toNat_octet_of_fits sendable.unit,
        toNat_octet_of_fits sendable.code, rfl⟩
    refine ⟨read, readResponse_eq_ok.mpr ?_, same⟩
    rw [run_readFrame_written message (sendable.fits.size data laid), handed]
    rfl

end RoundTrips

/-- What is read of any stream, of a written request and of a written response. -/
theorem tcpFrames_iff (stream : List UInt8) (request : ModbusMessage ModbusRequest)
    (response : ModbusMessage ModbusResponse) :
    (HandsOn stream ↔ Admissible stream) ∧
      (∀ rest, (stream.length : Int) = 6 + announcedLength stream →
        readRequest.run (stream ++ rest) = (readRequest.run stream).map fun read => (read.1, read.2 ++ rest)) ∧
      (SendableRequest request → (RequestRoundTrips request ↔
        request.body.Regular ∧ ∀ data, request.body.getMessage = .ok (some data) → data.length ≤ 251)) ∧
      (SendableResponse response →
        (ResponseRoundTrips response ↔ response.body.Regular ∧ response.protocolID < 32768)) :=
  ⟨handsOn_iff stream, readRequest_append, requestRoundTrips_iff, responseRoundTrips_iff⟩

section Samples

def sampleStream : List UInt8 := [0, 1, 0, 0, 0, 6, 1, 3, 0, 16, 0, 2]

theorem sampleStream_admissible : Admissible sampleStream := by
  refine .inr ⟨by decide, by decide, .inr (.inr ⟨by decide, ?_⟩)⟩
  rintro (⟨other, -⟩ | ⟨other, -⟩)
  · cases other
  · cases other

def sampleRequest : ModbusMessage ModbusRequest :=
  { transactionID := 1, unitID := 1, functionCode := FunctionCode.readMultipleRegisters
    body := .readMultipleRegisters 16 2 }

theorem sampleRequest_sendable : SendableRequest sampleRequest :=
  ⟨⟨by decide, by decide⟩, ⟨by decide, by decide⟩, ⟨by decide, by decide⟩, rfl,
    ModbusRTUTransport.readTwoRegisters_fits⟩

theorem sampleRequest_short : ∀ data, sampleRequest.body.getMessage = .ok (some data) → data.length ≤ 251 := by
  intro data laid
  cases laid
  decide

def sampleResponse : ModbusMessage ModbusResponse :=
  { transactionID := 1, unitID := 1, functionCode := FunctionCode.readExceptionStatus, body := .readExceptionStatus 5 }

theorem sampleResponse_sendable : SendableResponse sampleResponse :=
  ⟨⟨by decide, by decide⟩, ⟨by decide, by decide⟩, ⟨by decide, by decide⟩, ⟨by decide, by decide⟩, rfl,
    ModbusRTUTransport.sampleStatus_fits⟩

theorem tcpFrames_samples : HandsOn sampleStream ∧
    (∃ read, readRequest.run (sampleStream ++ [7]) = .ok (read, [7])) ∧ RequestRoundTrips sampleRequest ∧
      ResponseRoundTrips sampleResponse := by
  obtain ⟨stream, behind, request, response⟩ := tcpFrames_iff sampleStream sampleRequest sampleResponse
  refine ⟨stream.mpr sampleStream_admissible, ⟨_, behind [7] rfl⟩, ?_, ?_⟩
  · exact (request sampleRequest_sendable).mpr ⟨trivial, sampleRequest_short⟩
  · exact (response sampleResponse_sendable).mpr ⟨trivial, by decide⟩

/-- A length whose sign is set, and two registers with two octets for them. -/
theorem not_tcpFrames : ¬ HandsOn [0, 1, 0, 0, 0xFF, 0xFF] ∧
    ¬ HandsOn [0, 1, 0, 0, 0, 9, 1, 16, 0, 0, 0, 2, 2, 0, 7] := by
  constructor
  · rw [handsOn_iff]
    rintro (few | ⟨positive, -⟩)
    · exact absurd few (by decide)
    · exact absurd positive (by decide)
  · rw [handsOn_iff]
    rintro (few | ⟨-, -, early | few | ⟨-, sound⟩⟩)
    · exact absurd few (by decide)
    · exact absurd early (by decide)
    · exact absurd few (by decide)
    · exact sound (.inl ⟨rfl, ModbusRTUTransport.manyRegisters_past⟩)

end Samples

end ModbusTCPTransport

end EtherNetIP.Modbus
