import EtherNetIP.Modbus.RtuCalls

/-! Requests between the traffic of other slaves, as a USB port shows it.

The port always tells of one octet. The loop over the octets for other units then
never sees a pause, and goes on to the end of all that arrives before a read is
over its time. What was behind a frame for another unit is gone with it.
-/

set_option autoImplicit false

namespace EtherNetIP.Modbus

open EtherNetIP.Library

namespace AndroidUsbSerialConnection

end AndroidUsbSerialConnection

namespace ModbusRTUTransport

/-- A request that can be told from its octets, in the frame in which it is sent. -/
structure BusRequest where
  unitID : UInt8
  request : ModbusRequest
  fits : request.FitsPdu
  regular : request.Regular
  message : List UInt8
  laid : request.getMessage = .ok (some message)

namespace BusRequest

def pdu (own : BusRequest) : List UInt8 := own.unitID :: code own.request :: own.message

def frame (own : BusRequest) : List UInt8 :=
  own.pdu ++ [(calculateCRC own.pdu 0 own.pdu.length).1, (calculateCRC own.pdu 0 own.pdu.length).2]

def received (own : BusRequest) : ModbusMessage ModbusRequest :=
  let created := createModbusRequest (own.request.functionCode 0)
  { created with
    headless := true
    unitID := own.unitID.toNat
    functionCode := own.request.functionCode 0
    body := own.request
    dataLength := (own.request.recordedLength own.message.length).getD created.dataLength }

def sent (own : BusRequest) (framed : own.request.Framed) : Sent :=
  ⟨own.unitID, own.request, own.fits, own.regular, framed, own.message, own.laid⟩

end BusRequest

inductive BusFrame (addressed : UInt8 → Bool) where
  | own (request : BusRequest) (here : addressed request.unitID = true)
  | foreign (uid : UInt8) (there : addressed uid = false) (others : List UInt8)

namespace BusFrame

variable {addressed : UInt8 → Bool}

def octets : BusFrame addressed → List UInt8
  | own request _ => request.frame
  | foreign uid _ others => uid :: others

def requests : BusFrame addressed → List BusRequest
  | own request _ => [request]
  | foreign _ _ _ => []

end BusFrame

section Bus

variable {addressed : UInt8 → Bool} {available : Line → Nat} {receiver : Receiver}
  {frames earlier later : List (BusFrame addressed)}

end Bus

section Alone

variable {addressed : UInt8 → Bool} {receiver : Receiver} {uid function : UInt8} {octets : List UInt8}

theorem readFrame_waits (available : Line → Nat) (collected : Collected [uid] receiver)
    (arriving : receiver.line.flatten = function :: octets) (waits : followed function octets = none) :
    (caught ((readFrame available).run receiver)).1 = .ok none := by
  obtain ⟨middle, ran, held, rest⟩ := readFrame_function available collected arriving
  obtain ⟨after, raised, -⟩ := (follows_getRequest function).short middle _ held rfl (by rw [rest]; exact waits)
  rw [ran, run_bind_of_error raised]
  rfl

theorem readFrame_cut (available : Line → Nat) {count : Nat} (collected : Collected [uid] receiver)
    (arriving : receiver.line.flatten = function :: octets) (counted : followed function octets = some count)
    (fits : 2 + count ≤ 256) (two : 2 ≤ count)
    (cut : ((createModbusRequest function.toNat).body.readData (createModbusRequest function.toNat).dataLength).run
      (octets.take (count - 2)) = .error .eofException) :
    (caught ((readFrame available).run receiver)).1 = .ok none := by
  obtain ⟨after, ran, held, -⟩ := readFrame_follows available collected arriving counted fits
  have checked := held.checkCRC_frame
  have front : after.inBuffer.take (after.count - 2) = uid :: function :: octets.take (count - 2) := by
    obtain ⟨less, same⟩ := Nat.exists_eq_add_of_le' two
    rw [held.pdu_frame, List.length_take_of_le (followed_le counted), same, Nat.add_sub_cancel, List.take_succ_cons,
      List.take_succ_cons, List.take_take, Nat.min_eq_left (Nat.le_add_right _ _)]
  rw [ran]
  by_cases zero : bitwiseCrc (uid :: function :: octets.take count) = 0#16
  · rw [decide_eq_true zero] at checked
    have raised : (createModbusRequest function.toNat).readFrom.run (after.inBuffer.take (after.count - 2)) =
        .error .eofException := by
      rw [front, run_readFrom, cut]
      rfl
    rw [run_readChecked_fault checked raised]
    rfl
  · rw [decide_eq_false zero] at checked
    rw [run_readChecked_refused checked]
    rfl

/-- Where the low octet of the first register is not the number of octets behind it, too few octets are taken for the
frame, or more than arrive. -/
theorem readWrite_alone (available : Line → Nat) {readReference readCount writeReference : Int}
    {registers : List Register} {low high : UInt8} (collected : Collected [uid] receiver)
    (arriving : receiver.line.flatten = 23 ::
      (ReadWriteMultipleRequest.message readReference readCount writeReference registers ++ [low, high]))
    (size : (ReadWriteMultipleRequest.message readReference readCount writeReference registers).length ≤ 252)
    (unframed : ∀ first others, registers = first :: others → first.low.toNat ≠ 2 * others.length) :
    (caught ((readFrame available).run receiver)).1 = .ok none := by
  generalize same : ReadWriteMultipleRequest.message readReference readCount writeReference registers ++ [low, high] =
    octets at arriving
  have length : octets.length = 11 + 2 * registers.length := by
    rw [← same, List.length_append, ReadWriteMultipleRequest.length_message]
    change _ + 2 = _
    omega
  rw [ReadWriteMultipleRequest.length_message] at size
  have counts : followed 23 octets = (octets[10]?.map (·.toNat + 13)).filter (· ≤ octets.length) := rfl
  cases registers with
  | nil =>
      -- the high octet of the check word is taken for the byte count
      have tenth : octets[10]? = some high := by
        rw [← same]
        rfl
      apply readFrame_waits available collected arriving
      rw [counts, tenth, Option.map_some]
      apply Option.filter_eq_none_iff.mpr
      intro count announced
      cases announced
      rw [length]
      simp
  | cons first others =>
      have tenth : octets[10]? = some first.low := by
        rw [← same]
        rfl
      have other := unframed first others rfl
      rw [List.length_cons] at length size
      by_cases more : 2 * others.length < first.low.toNat
      · apply readFrame_waits available collected arriving
        rw [counts, tenth, Option.map_some]
        apply Option.filter_eq_none_iff.mpr
        intro count announced
        cases announced
        rw [length]
        simp only [decide_eq_true_eq]
        omega
      · have counted : followed 23 octets = some (first.low.toNat + 13) := by
          rw [counts, tenth, Option.map_some]
          exact Option.filter_eq_some_iff.mpr ⟨rfl, decide_eq_true (by rw [length]; omega)⟩
        refine readFrame_cut available collected arriving counted (by omega) (by omega) ?_
        change MultipleWrite.readWrite.readData.run _ = _
        let rest := (first :: others).flatMap Register.toBytes ++ [low, high]
        have split : first.low.toNat + 13 - 2 = first.low.toNat + 2 + 9 := by omega
        -- the byte count tells of more octets than have been taken
        have announced : (octet ((first :: others).length * 2)).toNat = 2 * (others.length + 1) := by
          have fits : ((octet ((first :: others).length * 2)).toNat : Int) = (first :: others).length * 2 :=
            toNat_octet_of_fits ⟨by omega, by rw [List.length_cons]; omega⟩
          rw [List.length_cons] at fits ⊢
          omega
        have front : octets.take (first.low.toNat + 13 - 2) =
            (ReadWriteMultipleRequest.message readReference readCount writeReference (first :: others)).take 9 ++
              rest.take (first.low.toNat + 2) := by
          rw [← same, split]
          rfl
        rw [front]
        refine run_readWrite.trans (if_neg ?_)
        change ¬ _ ≤ (rest.take (first.low.toNat + 2)).length
        rw [announced, List.length_take]
        omega

theorem receive_unframed (available : Line → Nat) (own : BusRequest) (unframed : ¬ own.request.Framed)
    (here : addressed own.unitID = true) (ready : Ready receiver) :
    (receive addressed available receiver [own.frame]).1 = .ok none := by
  have whole : own.frame = own.unitID :: own.frame.tail := rfl
  have collected := ready.first own.unitID [own.frame.tail]
  rw [whole, receive, if_pos here]
  obtain ⟨unitID, request, fits, regular, message, laid⟩ := own
  have size := fits.size message laid
  cases request with
  | readSerialDiagnostics function data =>
      have waits (octets : List UInt8) : followed 8 octets = none := rfl
      exact readFrame_waits available collected (List.flatten_singleton ..) (waits _)
  | readWriteMultiple readReference readCount writeReference writeCount registers =>
      obtain ⟨all, rfl, rfl⟩ := regular
      obtain ⟨_, first, last⟩ := bind_eq_ok.mp laid
      rw [ReadWriteMultipleRequest.getMessage_all] at first
      cases first
      cases last
      refine readWrite_alone available collected (List.flatten_singleton ..) size ?_
      intro first others same low
      refine unframed ⟨first, others, congrArg some same, ?_⟩
      rw [same, List.length_cons]
      omega
  | illegalFunction => exact regular.elim
  | _ => exact absurd trivial unframed

end Alone

section Samples

def sampleRequest : BusRequest where
  unitID := 1
  request := .readMultipleRegisters 16 2
  fits := readTwoRegisters_fits
  regular := trivial
  message := twoWords 16 2
  laid := readTwoRegisters.laid

end Samples

end ModbusRTUTransport

end EtherNetIP.Modbus
