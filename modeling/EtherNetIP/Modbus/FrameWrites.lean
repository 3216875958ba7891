import EtherNetIP.Library.PartialWrites
import EtherNetIP.Modbus.Checksums
import EtherNetIP.Modbus.Responses

/-! The frames that the RTU transport writes to its port.

The port accepts at least one octet at each call. One that accepts none, for which
the loop throws, is left out.
-/

set_option autoImplicit false

namespace EtherNetIP.Modbus

open EtherNetIP.Library

inductive Outgoing where
  | request (message : ModbusMessage ModbusRequest)
  | response (message : ModbusMessage ModbusResponse)

namespace Outgoing

def getMessage : Outgoing → Except Throwable (Option (List UInt8))
  | request message => message.body.getMessage
  | response message => message.body.getMessage.map some

def getUnitID : Outgoing → Int
  | request message => message.unitID
  | response message => message.unitID

def getFunctionCode : Outgoing → Int
  | request message => message.functionCode
  | response message => message.functionCode

def isResponse : Outgoing → Bool
  | request _ => false
  | response _ => true

end Outgoing

namespace ModbusRTUTransport

def frame (message : Outgoing) (data : Option (List UInt8)) : List UInt8 :=
  let pdu := octet message.getUnitID :: octet message.getFunctionCode :: data.getD []
  let crc := calculateCRC pdu 0 pdu.length
  pdu ++ [crc.1, crc.2]

/-- What has come out of the port. All that is thrown is thrown before the loop. The loop counts the offset, but every
call passes the frame from its start. -/
def writeMessageOut (writes : ShortWrites) (fuel : Nat) (message : Outgoing) :
    Option (Except Throwable (List UInt8)) :=
  if message.isResponse then
    match message.getMessage with
    | .error fault => some (.error fault)
    | .ok data =>
      (writes.writeLoop (fun _ => frame message data) (frame message data).length fuel 0 []).map Except.ok
  else some (.error .modbusIOException)

/-- The loop ends, and out of the port have come the unit, the function, the message and the CRC. -/
def WritesFrame (writes : ShortWrites) (message : Outgoing) : Prop :=
  ∀ data, message.getMessage = .ok data → ∃ fuel, writeMessageOut writes fuel message = some (.ok (frame message data))

section Law

variable {writes : ShortWrites} {message : Outgoing} {data : Option (List UInt8)}

theorem writeMessageOut_response (response : message.isResponse = true) (known : message.getMessage = .ok data)
    (fuel : Nat) : writeMessageOut writes fuel message =
      (writes.writeLoop (fun _ => frame message data) (frame message data).length fuel 0 []).map Except.ok := by
  unfold writeMessageOut
  rw [if_pos response, known]

theorem writes_response_iff (response : message.isResponse = true) (known : message.getMessage = .ok data) :
    (∃ fuel, writeMessageOut writes fuel message = some (.ok (frame message data))) ↔
      ∀ call, writes.InPlace (fun _ => frame message data) (frame message data) call := by
  obtain ⟨wire, ended, right⟩ := @ShortWrites.writeLoop_iff UInt8 writes (fun _ => frame message data)
    (frame message data) fun offset _ => Nat.sub_le _ _
  constructor
  · rintro ⟨fuel, written⟩
    rw [writeMessageOut_response response known] at written
    obtain ⟨other, loop, same⟩ := Option.map_eq_some_iff.mp written
    rw [ShortWrites.writeLoop_unique loop ended] at same
    exact right.mp (Except.ok.inj same)
  · intro all
    refine ⟨(frame message data).length, ?_⟩
    rw [writeMessageOut_response response known, ended, right.mpr all]
    rfl

theorem writesFrame_iff_of_response (response : message.isResponse = true) : WritesFrame writes message ↔
    ∀ data, message.getMessage = .ok data →
      ∀ call, writes.InPlace (fun _ => frame message data) (frame message data) call :=
  forall_congr' fun _ => forall_congr' fun known => writes_response_iff response known

/-- The frame comes out of the port just for a response whose every accepted part is the one that stands at its offset. -/
theorem writesFrame_iff (writes : ShortWrites) (message : Outgoing) : WritesFrame writes message ↔
    ∀ data, message.getMessage = .ok data → message.isResponse = true ∧
      ∀ call, writes.InPlace (fun _ => frame message data) (frame message data) call := by
  by_cases response : message.isResponse = true
  · simp only [response, true_and]
    exact writesFrame_iff_of_response response
  · refine forall_congr' fun data => forall_congr' fun known => iff_of_false ?_ fun right => response right.1
    rintro ⟨fuel, written⟩
    unfold writeMessageOut at written
    rw [if_neg response] at written
    cases written

theorem writesFrame_full (response : message.isResponse = true) : WritesFrame .full message :=
  (writesFrame_iff_of_response response).mpr fun _ _ => ShortWrites.inPlace_full rfl

def oneAtFirst : ShortWrites where
  accepted call given := if call = 0 then min 1 given else given
  positive call given some := by
    split <;> omega
  within call given := by
    split <;> omega

def exceptionStatus : Outgoing :=
  .response { functionCode := FunctionCode.readExceptionStatus, unitID := 1, body := .readExceptionStatus 5 }

/-- The unit is written twice, and the last octet of the CRC is not. -/
theorem not_writesFrame_exceptionStatus : ¬ WritesFrame oneAtFirst exceptionStatus := by
  intro written
  have second := (writes_response_iff rfl rfl).mp (written (some [5]) rfl) 1
  exact absurd (congrArg List.head? second) (by decide)

end Law

end ModbusRTUTransport

end EtherNetIP.Modbus
