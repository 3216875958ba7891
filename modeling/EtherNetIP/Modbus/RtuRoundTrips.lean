import EtherNetIP.Modbus.RtuResponses
import EtherNetIP.Modbus.SharedTraffic

/-! Requests and responses that are read back from their RTU frames.

What a class makes of its own octets is one half of it. The other half is whether
the transport, which counts the octets of a frame by itself, comes to its end.
-/

set_option autoImplicit false

namespace EtherNetIP.Modbus

open EtherNetIP.Library

namespace ModbusRTUTransport

section Requests

variable {addressed : UInt8 → Bool} {available : Line → Nat} {receiver after : Receiver} {uid function : UInt8}
  {octets rest : List UInt8} {request : ModbusRequest}

/-- A request of a known class, with fields that fit their octets. -/
structure SendableRequest (message : ModbusMessage ModbusRequest) : Prop where
  unit : FitsOctet message.unitID
  code : message.functionCode = message.body.functionCode 0
  fits : message.body.FitsPdu

/-- From any line that begins with its frame the request is read, and what stands behind the frame is left. -/
def RequestRoundTrips (message : ModbusMessage ModbusRequest) : Prop :=
  ∃ data, message.body.getMessage = .ok (some data) ∧
    ∀ addressed available receiver rest, addressed (octet message.unitID) = true → Ready receiver →
      receiver.line.flatten = frame (.request message) (some data) ++ rest →
      ∃ read after, readRequestIn addressed available receiver = (.ok (some read), after) ∧
        after.line.flatten = rest ∧ read.unitID = message.unitID ∧ read.functionCode = message.functionCode ∧
        read.body = message.body

/-- The first octet decides, whatever bursts it comes in. -/
theorem receive_uid (available : Line → Nat) (here : addressed uid = true) (ready : Ready receiver) {line : Line}
    (arriving : line.flatten = uid :: octets) :
    ∃ placed, receive addressed available receiver line = caught ((readFrame available).run placed) ∧
      Collected [uid] placed ∧ placed.line.flatten = octets := by
  induction line with
  | nil => cases arriving
  | cons burst line ih =>
      cases burst with
      | nil => exact ih arriving
      | cons first burst =>
          rw [List.flatten_cons, List.cons_append, List.cons.injEq] at arriving
          obtain ⟨rfl, others⟩ := arriving
          refine ⟨_, ?_, ready.first first (burst :: line), others⟩
          rw [receive, if_pos here]

/-- What is read from a frame, if all of it is taken, is what its message reads as. -/
theorem readsSelf_of_readFrame {message : List UInt8} {low high : UInt8} {read : ModbusMessage ModbusRequest}
    (blank : (createModbusRequest function.toNat).body = request.blank) (laid : request.getMessage = .ok (some message))
    (collected : Collected [uid] receiver) (arriving : receiver.line.flatten = function :: (message ++ [low, high]))
    (ran : (readFrame available).run receiver = (.ok read, after)) (empty : after.line.flatten = [])
    (same : read.body = request) : request.ReadsSelf (createModbusRequest function.toNat).dataLength := by
  obtain ⟨middle, front, held, behind⟩ := readFrame_function available collected arriving
  rw [front] at ran
  obtain ⟨_, final, got, ran⟩ := run_bind_eq_ok ran
  have mirrors : Mirrors (uid :: function :: (message ++ [low, high])) middle :=
    ⟨held.size, .inl ⟨[uid, function], held, by rw [behind]; rfl⟩⟩
  obtain ⟨⟨size, content⟩, -⟩ := copies_getRequest function _ _ _ mirrors got
  obtain ⟨rfl, checked, left, taken⟩ := readChecked_eq_ok ran
  rcases content with ⟨octets, collected, whole⟩ | long
  · rw [empty, List.append_nil] at whole
    rw [whole] at collected
    have pdu : after.inBuffer.take (after.count - 2) = uid :: function :: message := by
      rw [collected.pdu_frame, List.length_append]
      exact congrArg (uid :: function :: ·) (List.take_left' rfl)
    rw [pdu, run_readFrom, blank] at taken
    obtain ⟨⟨fields, rest⟩, first, last⟩ := bind_eq_ok.mp taken
    cases last
    obtain ⟨body, recorded⟩ := fields
    cases same
    exact ⟨message, recorded, _, laid, first⟩
  · have short := (checkCRC_eq_true checked).1
    rw [size] at short
    omega

theorem blank_of_laid {message : List UInt8} (laid : request.getMessage = .ok (some message)) :
    (createModbusRequest (code request).toNat).body = request.blank := by
  cases request with
  | illegalFunction => cases laid
  | _ => rfl

theorem frame_parts (message : Outgoing) (data : List UInt8) : ∃ low high, frame message (some data) =
    octet message.getUnitID :: octet message.getFunctionCode :: (data ++ [low, high]) := ⟨_, _, rfl⟩

theorem frame_request {message : ModbusMessage ModbusRequest} (sendable : SendableRequest message) (own : BusRequest)
    (unit : own.unitID = octet message.unitID) (body : own.request = message.body) :
    frame (.request message) (some own.message) = own.frame := by
  unfold BusRequest.frame BusRequest.pdu
  rw [unit, body, ← octet_functionCode, ← sendable.code]
  rfl

theorem requestRoundTrips_iff {message : ModbusMessage ModbusRequest} (sendable : SendableRequest message) :
    RequestRoundTrips message ↔ message.body.Regular ∧ message.body.Framed := by
  constructor
  · rintro ⟨data, laid, reads⟩
    let line : Line := [frame (.request message) (some data)]
    obtain ⟨read, after, handed, empty, -, -, same⟩ :=
      reads (fun _ => true) (fun _ => 0) (.fresh line) [] rfl (ready_fresh line) rfl
    obtain ⟨low, high, parts⟩ := frame_parts (.request message) data
    have arriving : line.flatten = octet message.unitID :: code message.body :: (data ++ [low, high]) := by
      rw [List.flatten_singleton, parts, ← octet_functionCode, ← sendable.code]
      rfl
    obtain ⟨placed, call, collected, behind⟩ := @receive_uid (fun _ => true) (.fresh line) _ _ (fun _ => 0) rfl
      (ready_fresh line) line arriving
    have ran := caught_eq_some (call.symm.trans handed)
    -- the class reads itself, since the whole frame has been taken
    have self := readsSelf_of_readFrame (blank_of_laid laid) laid collected behind ran empty same
    have regular := ModbusRequest.regular_of_readsSelf sendable.fits self
    refine ⟨regular, ?_⟩
    by_contra unframed
    let own : BusRequest := ⟨octet message.unitID, message.body, sendable.fits, regular, data, laid⟩
    have refused := @receive_unframed (fun _ => true) (.fresh line) (fun _ => 0) own unframed rfl (ready_fresh line)
    rw [← frame_request sendable own rfl rfl] at refused
    rw [readRequestIn] at handed
    have read := (congrArg Prod.fst handed).symm.trans refused
    cases read
  · rintro ⟨regular, framed⟩
    obtain ⟨data, -, -, laid, -⟩ := @ModbusRequest.readsSelf_of_regular message.body 0 sendable.fits regular
    refine ⟨data, laid, ?_⟩
    intro addressed available receiver rest here ready arriving
    let own : BusRequest := ⟨octet message.unitID, message.body, sendable.fits, regular, data, laid⟩
    rw [frame_request sendable own rfl rfl] at arriving
    obtain ⟨placed, call, collected, behind⟩ := receive_uid available here ready arriving
    obtain ⟨after, ran, -, left⟩ := readFrame_sent available (own.sent framed) collected behind
    refine ⟨(own.sent framed).received, after, ?_, ?_, ?_, sendable.code.symm, rfl⟩
    · rw [readRequestIn, call, ran]
      rfl
    · rw [left, flatten_behind, behind]
      exact List.drop_left' rfl
    · exact toNat_octet_of_fits sendable.unit

end Requests

section Responses

variable {writes : ShortWrites} {message : ModbusMessage ModbusResponse}

structure SendableResponse (message : ModbusMessage ModbusResponse) : Prop where
  unit : FitsOctet message.unitID
  code : FitsOctet message.functionCode
  coded : Coded (octet message.functionCode) message.body
  fits : message.body.FitsPdu

/-- From any line that begins with what comes out of the port the response is read, and what stands behind is left. -/
def ResponseRoundTrips (writes : ShortWrites) (message : ModbusMessage ModbusResponse) : Prop :=
  ∃ fuel wire, writeMessageOut writes fuel (.response message) = some (.ok wire) ∧
    ∀ receiver rest, Ready receiver → receiver.line.flatten = wire ++ rest →
      ∃ read after, readResponseIn receiver = (.ok read, after) ∧ after.line.flatten = rest ∧
        read.unitID = message.unitID ∧ read.functionCode = message.functionCode ∧ read.body = message.body

theorem wire_unique {fuel : Nat} {wire : List UInt8} (written : WritesFrame writes (.response message))
    (wrote : writeMessageOut writes fuel (.response message) = some (.ok wire)) :
    ∃ data, message.body.getMessage = .ok data ∧ wire = frame (.response message) (some data) := by
  cases laid : message.body.getMessage with
  | error fault =>
      have known : (Outgoing.response message).getMessage = .error fault := congrArg (Except.map some) laid
      unfold writeMessageOut at wrote
      rw [if_pos (show (Outgoing.response message).isResponse = true from rfl), known] at wrote
      cases wrote
  | ok data =>
      have known : (Outgoing.response message).getMessage = .ok (some data) := congrArg (Except.map some) laid
      refine ⟨data, rfl, ?_⟩
      obtain ⟨other, whole⟩ := written (some data) known
      rw [writeMessageOut_response rfl known] at wrote whole
      obtain ⟨first, ended, same⟩ := Option.map_eq_some_iff.mp wrote
      obtain ⟨second, also, full⟩ := Option.map_eq_some_iff.mp whole
      rw [← Except.ok.inj same, ← Except.ok.inj full]
      exact ShortWrites.writeLoop_unique ended also

theorem readResponseIn_ok {receiver after : Receiver} {read : ModbusMessage ModbusResponse}
    (handed : readResponseIn receiver = (.ok read, after)) : readResponseFrame.run receiver = (.ok read, after) := by
  unfold readResponseIn at handed
  split at handed
  · rename_i ran
    rw [ran]
    exact handed
  · cases handed

theorem responseRoundTrips_iff (sendable : SendableResponse message) (written : WritesFrame writes (.response message)) :
    ResponseRoundTrips writes message ↔ message.body.Regular ∧ message.body.Framed := by
  constructor
  · rintro ⟨fuel, wire, wrote, reads⟩
    obtain ⟨data, laid, rfl⟩ := wire_unique written wrote
    let line : Line := [frame (.response message) (some data)]
    obtain ⟨read, after, handed, empty, -, -, same⟩ := reads (.fresh line) [] (ready_fresh line) rfl
    obtain ⟨low, high, parts⟩ := frame_parts (.response message) data
    have arriving : line.flatten = octet message.unitID :: octet message.functionCode :: (data ++ [low, high]) := by
      rw [List.flatten_singleton, parts]
      rfl
    have ran := readResponseIn_ok handed
    have blank := blank_of_coded sendable.coded
    -- as for requests, from the frame alone
    have self := readsSelf_of_readResponseFrame blank laid (ready_fresh line) arriving ran empty same
    have regular := ModbusResponse.regular_of_readsSelf sendable.fits self
    refine ⟨regular, ?_⟩
    by_contra unframed
    obtain ⟨other, raised⟩ := readResponseFrame_unframed sendable.coded sendable.fits regular unframed laid
      (ready_fresh line) arriving
    rw [ran] at raised
    cases raised
  · rintro ⟨regular, framed⟩
    obtain ⟨data, -, -, laid, -⟩ := (ModbusResponse.readsSelf_iff sendable.fits).mpr regular
    have known : (Outgoing.response message).getMessage = .ok (some data) := congrArg (Except.map some) laid
    obtain ⟨fuel, wrote⟩ := written (some data) known
    refine ⟨fuel, _, wrote, ?_⟩
    intro receiver rest ready arriving
    obtain ⟨read, after, ran, left, unit, code, body⟩ :=
      readResponseFrame_sent sendable.coded sendable.fits regular framed laid ready arriving
    refine ⟨read, after, ?_, left, ?_, ?_, body⟩
    · rw [readResponseIn, ran]
    · exact unit.trans (toNat_octet_of_fits sendable.unit)
    · exact code.trans (toNat_octet_of_fits sendable.code)

end Responses

/-- A request is read back from its frame if and only if its class reads itself and the transport counts its octets
right, and a response, where the port puts out its frame, likewise. -/
theorem framesRoundTrip_iff (request : ModbusMessage ModbusRequest) (writes : ShortWrites)
    (response : ModbusMessage ModbusResponse) :
    (SendableRequest request → (RequestRoundTrips request ↔ request.body.Regular ∧ request.body.Framed)) ∧
      (SendableResponse response → WritesFrame writes (.response response) →
        (ResponseRoundTrips writes response ↔ response.body.Regular ∧ response.body.Framed)) :=
  ⟨requestRoundTrips_iff, responseRoundTrips_iff⟩

section Samples

def sampleRead : ModbusMessage ModbusRequest :=
  { functionCode := FunctionCode.readMultipleRegisters, unitID := 1, body := .readMultipleRegisters 16 2 }

theorem sampleRead_sendable : SendableRequest sampleRead := ⟨⟨by decide, by decide⟩, rfl, readTwoRegisters_fits⟩

def sampleStatus : ModbusMessage ModbusResponse :=
  { functionCode := FunctionCode.readExceptionStatus, unitID := 1, body := .readExceptionStatus 5 }

theorem sampleStatus_fits : (ModbusResponse.readExceptionStatus 5).FitsPdu := by
  refine ⟨⟨by decide, by decide⟩, ?_⟩
  intro message laid
  cases laid
  decide

theorem sampleStatus_sendable : SendableResponse sampleStatus :=
  ⟨⟨by decide, by decide⟩, ⟨by decide, by decide⟩, rfl, sampleStatus_fits⟩

theorem framesRoundTrip_samples : RequestRoundTrips sampleRead ∧ ResponseRoundTrips .full sampleStatus := by
  constructor
  · exact ((framesRoundTrip_iff sampleRead .full sampleStatus).1 sampleRead_sendable).mpr ⟨trivial, trivial⟩
  · exact ((framesRoundTrip_iff sampleRead .full sampleStatus).2 sampleStatus_sendable (writesFrame_full rfl)).mpr
      ⟨trivial, trivial⟩

def sampleDiagnostics : ModbusMessage ModbusRequest :=
  { functionCode := FunctionCode.readSerialDiagnostics, unitID := 1, body := .readSerialDiagnostics 0 5 }

theorem sampleDiagnostics_fits : (ModbusRequest.readSerialDiagnostics 0 5).FitsPdu := by
  refine ⟨⟨⟨by decide, by decide⟩, ⟨by decide, by decide⟩⟩, ?_⟩
  intro message laid
  cases laid
  decide

def sampleSlaveID : ModbusMessage ModbusResponse :=
  { functionCode := FunctionCode.reportSlaveID, unitID := 1, body := .reportSlaveID 2 (some []) 255 7 }

theorem sampleSlaveID_fits : (ModbusResponse.reportSlaveID 2 (some []) 255 7).FitsPdu := by
  refine ⟨⟨⟨by decide, by decide⟩, ⟨by decide, by decide⟩⟩, ?_⟩
  intro message laid
  cases laid
  decide

theorem sampleDiagnostics_sendable : SendableRequest sampleDiagnostics :=
  ⟨⟨by decide, by decide⟩, rfl, sampleDiagnostics_fits⟩

theorem sampleSlaveID_sendable : SendableResponse sampleSlaveID :=
  ⟨⟨by decide, by decide⟩, ⟨by decide, by decide⟩, rfl, sampleSlaveID_fits⟩

/-- The first is never read, and the second is read with two octets of data that were never set. -/
theorem not_framesRoundTrip : ¬ RequestRoundTrips sampleDiagnostics ∧ ¬ ResponseRoundTrips .full sampleSlaveID := by
  constructor
  · intro reads
    exact ((requestRoundTrips_iff sampleDiagnostics_sendable).mp reads).2
  · intro reads
    exact ((responseRoundTrips_iff sampleSlaveID_sendable (writesFrame_full rfl)).mp reads).1

end Samples

end ModbusRTUTransport

end EtherNetIP.Modbus
