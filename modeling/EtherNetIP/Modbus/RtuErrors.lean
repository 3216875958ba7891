import EtherNetIP.Modbus.RtuRequests

/-! What the RTU transport never accepts.

A frame is accepted from the array, so what it accepts has the check word zero as
long as the stream is at the array. Two such frames never differ within sixteen
bits only. Once the stream has moved, everything is read from an array that no
longer changes, whatever arrives.
-/

set_option autoImplicit false

namespace EtherNetIP.Modbus

open EtherNetIP.Library

namespace ModbusRTUTransport

section Checks

variable {receiver after : Receiver} {request read : ModbusMessage ModbusRequest} {available : Line → Nat}

theorem checkCRC_eq_true {dlength : Nat} (checked : receiver.checkCRC dlength = .ok true) :
    dlength + 1 < receiver.inBuffer.length ∧ bitwiseCrc (receiver.inBuffer.take (dlength + 2)) = 0#16 := by
  unfold Receiver.checkCRC at checked
  split at checked
  · cases checked
  · dsimp only at checked
    split at checked
    · cases checked
    · rename_i first
      split at checked
      · cases checked
      · rename_i inside
        have second := of_decide_eq_true (Except.ok.inj checked)
        have short : dlength + 1 < receiver.inBuffer.length := Nat.lt_of_not_le inside
        have low : dlength < receiver.inBuffer.length := Nat.lt_of_succ_lt short
        refine ⟨short, ?_⟩
        have split : receiver.inBuffer.take (dlength + 2) = receiver.inBuffer.take dlength ++
            [receiver.inBuffer.getD dlength 0, receiver.inBuffer.getD (dlength + 1) 0] := by
          rw [List.take_succ_eq_append_getElem short, List.take_succ_eq_append_getElem low,
            List.getD_eq_getElem _ _ low, List.getD_eq_getElem _ _ short, List.append_assoc]
          rfl
        have length : (receiver.inBuffer.take dlength).length = dlength := List.length_take_of_le (Nat.le_of_lt low)
        have same : calculateCRC (receiver.inBuffer.take dlength) 0 dlength =
            calculateCRC receiver.inBuffer 0 dlength := by
          unfold calculateCRC
          rw [List.take_take, Nat.min_self]
        rw [split, bitwiseCrc_eq_zero_iff, length, same]
        exact Prod.ext (of_not_not first) second

theorem run_bind_eq_ok {Value Next : Type} {program : Receiving Value} {next : Value → Receiving Next} {value : Next}
    (ran : (program >>= next).run receiver = (.ok value, after)) :
    ∃ value' middle, program.run receiver = (.ok value', middle) ∧ (next value').run middle = (.ok value, after) := by
  cases first : program.run receiver with
  | mk outcome middle =>
      cases outcome with
      | ok value' => exact ⟨value', middle, rfl, (run_bind_of_ok first).symm.trans ran⟩
      | error fault =>
          rw [run_bind_of_error first] at ran
          cases ran

theorem readChecked_eq_ok (ran : (readChecked available request).run receiver = (.ok read, after)) :
    after = receiver ∧ receiver.checkCRC (receiver.count - 2) = .ok true ∧
      ∃ left, request.readFrom.run (receiver.inBuffer.take (receiver.count - 2)) = .ok (read, left) := by
  obtain ⟨_, middle, got, ran⟩ := run_bind_eq_ok ran
  cases got
  obtain ⟨same, middle, test, ran⟩ := run_bind_eq_ok ran
  rw [run_lift] at test
  cases same with
  | false =>
      rw [if_neg Bool.false_ne_true] at ran
      obtain ⟨_, middle, cleared, thrown⟩ := run_bind_eq_ok ran
      cases thrown
  | true =>
      obtain ⟨checked, rfl⟩ := Prod.mk.inj test
      rw [if_pos rfl] at ran
      obtain ⟨⟨request, left⟩, middle, fields, last⟩ := run_bind_eq_ok ran
      rw [run_lift] at fields
      obtain ⟨taken, rfl⟩ := Prod.mk.inj fields
      cases last
      exact ⟨rfl, checked, left, taken⟩

end Checks

section Copies

variable {Value : Type} {receiver after : Receiver} {whole octets : List UInt8} {next : Receiving Unit}

/-- The array holds what has been taken from the whole, or too much has been taken for the array. -/
def Mirrors (whole : List UInt8) (receiver : Receiver) : Prop :=
  receiver.inBuffer.length = 256 ∧
    ((∃ content, Collected content receiver ∧ content ++ receiver.line.flatten = whole) ∨ 256 < receiver.count)

def Copies (program : Receiving Unit) : Prop :=
  ∀ whole receiver after, Mirrors whole receiver → program.run receiver = (.ok (), after) →
    Mirrors whole after ∧ receiver.count ≤ after.count

theorem Copies.andThen {program : Receiving Unit} (copies : Copies program) (further : Copies next) :
    Copies (program >>= fun _ => next) := by
  intro whole receiver after mirrors ran
  obtain ⟨_, middle, first, second⟩ := run_bind_eq_ok ran
  obtain ⟨still, more⟩ := copies whole receiver middle mirrors first
  obtain ⟨last, most⟩ := further whole middle after still second
  exact ⟨last, Nat.le_trans more most⟩

theorem write_size (octets : List UInt8) (receiver : Receiver) :
    (receiver.write octets).inBuffer.length = receiver.inBuffer.length ∧
      (receiver.write octets).count = receiver.count + octets.length ∧
      (receiver.write octets).line = receiver.line := by
  unfold Receiver.write
  split
  · rename_i fits
    refine ⟨?_, rfl, rfl⟩
    simp only [List.length_append, List.length_take, List.length_drop]
    omega
  · exact ⟨rfl, rfl, rfl⟩

theorem Mirrors.write (mirrors : Mirrors whole receiver) {line : Line}
    (read : octets ++ line.flatten = receiver.line.flatten) :
    Mirrors whole (Receiver.write octets { receiver with line }) ∧
      receiver.count ≤ (Receiver.write octets { receiver with line }).count := by
  obtain ⟨size, held⟩ := mirrors
  obtain ⟨length, count, left⟩ := write_size octets { receiver with line }
  dsimp only at length count left
  refine ⟨⟨length.trans size, ?_⟩, by omega⟩
  rcases held with ⟨content, collected, same⟩ | long
  · by_cases fits : content.length + octets.length ≤ 256
    · have placed : Collected content { receiver with line } :=
        ⟨collected.attached, collected.size, collected.count, collected.octets⟩
      left
      refine ⟨content ++ octets, (placed.write octets fits).1, ?_⟩
      rw [left, List.append_assoc, read, same]
    · right
      rw [count, collected.count]
      omega
  · right
    omega

theorem readBytes_eq_ok {count : Nat} (ran : (readBytes count).run receiver = (.ok octets, after)) :
    octets.length = count ∧ octets ++ after.line.flatten = receiver.line.flatten ∧
      after = { receiver with line := after.line } := by
  change readBytes count receiver = _ at ran
  unfold readBytes at ran
  dsimp only at ran
  split at ran
  · rename_i enough
    cases ran
    refine ⟨List.length_take_of_le enough, ?_, rfl⟩
    rw [flatten_behind]
    exact List.take_append_drop ..
  · cases ran

theorem readByte_eq_ok {value : UInt8} (ran : readByte.run receiver = (.ok value, after)) :
    [value] ++ after.line.flatten = receiver.line.flatten ∧ after = { receiver with line := after.line } := by
  obtain ⟨octets, middle, read, last⟩ := run_bind_eq_ok ran
  cases last
  obtain ⟨length, taken, same⟩ := readBytes_eq_ok read
  obtain ⟨value, rfl⟩ := List.length_eq_one_iff.mp length
  exact ⟨taken, same⟩

theorem copies_bytes {count : Nat} : Copies (readBytes count >>= write) := by
  intro whole receiver after mirrors ran
  obtain ⟨octets, middle, read, written⟩ := run_bind_eq_ok ran
  obtain ⟨_, taken, same⟩ := readBytes_eq_ok read
  cases written
  rw [same]
  exact mirrors.write taken

theorem copies_front {count : Nat} (further : Copies next) :
    Copies (readBytes count >>= fun inpBuf => write inpBuf >>= fun _ => next) := by
  have same : (readBytes count >>= fun inpBuf => write inpBuf >>= fun _ => next) =
      ((readBytes count >>= write) >>= fun _ => next) := (bind_assoc ..).symm
  rw [same]
  exact copies_bytes.andThen further

theorem copies_octet {next : UInt8 → Receiving Unit} (further : ∀ value, Copies (next value)) :
    Copies (readByte >>= fun value => write [value] >>= fun _ => next value) := by
  intro whole receiver after mirrors ran
  obtain ⟨value, middle, read, ran⟩ := run_bind_eq_ok ran
  obtain ⟨taken, same⟩ := readByte_eq_ok read
  obtain ⟨_, written, last, ran⟩ := run_bind_eq_ok ran
  cases last
  rw [same] at ran
  obtain ⟨held, more⟩ := mirrors.write taken
  obtain ⟨still, most⟩ := further value whole _ after held ran
  exact ⟨still, Nat.le_trans more most⟩

theorem copies_throw (fault : Throwable) : Copies (throw fault) := by
  intro whole receiver after _ ran
  cases ran

theorem copies_getRequest (function : UInt8) : Copies (getRequest function) := by
  have counted : Copies (readByte >>= fun byteCount => write [byteCount] >>= fun _ =>
      readRequestData byteCount.toNat) := copies_octet fun _ => copies_bytes
  unfold getRequest
  split
  · split
    all_goals first
      | exact copies_bytes
      | exact counted
      | exact copies_front counted
      | exact copies_bytes.andThen counted
      | exact copies_throw _
  · intro whole receiver after mirrors ran
    cases ran
    exact ⟨mirrors, Nat.le_refl _⟩

end Copies

section Acceptance

variable {addressed : UInt8 → Bool} {available : Line → Nat} {receiver other : Receiver} {frame changed : List UInt8}

def Accepts (addressed : UInt8 → Bool) (available : Line → Nat) (receiver : Receiver) (frame : List UInt8) : Prop :=
  ∃ request after, readRequestIn addressed available (receiver.on [frame]) = (.ok (some request), after) ∧
    after.line.flatten = []

theorem caught_eq_some {Value : Type} {outcome : Except Throwable Value × Receiver} {value : Value} {after : Receiver}
    (same : caught outcome = (.ok (some value), after)) : outcome = (.ok value, after) := by
  obtain ⟨result, left⟩ := outcome
  cases result with
  | ok read =>
      cases same
      rfl
  | error fault =>
      unfold caught at same
      dsimp only at same
      split at same
      · cases same
      · cases same

theorem bitwiseCrc_of_accepts (ready : Ready receiver) (accepts : Accepts addressed available receiver frame) :
    bitwiseCrc frame = 0#16 := by
  obtain ⟨request, after, read, empty⟩ := accepts
  rw [readRequestIn_on] at read
  cases frame with
  | nil => cases read
  | cons uid burst =>
      unfold receive at read
      split at read
      · have ran := caught_eq_some read
        have held := (ready.reset.write [uid] (by change 1 ≤ 256; decide)).1
        have mirrors : Mirrors (uid :: burst) { receiver.reset.write [uid] with line := [burst] } := by
          refine ⟨held.size, .inl ⟨[uid], ⟨held.attached, held.size, held.count, held.octets⟩, ?_⟩⟩
          simp
        -- the function code and what follows it are copied
        obtain ⟨function, middle, taken, ran⟩ := run_bind_eq_ok ran
        obtain ⟨front, same⟩ := readByte_eq_ok taken
        obtain ⟨_, written, last, ran⟩ := run_bind_eq_ok ran
        cases last
        rw [same] at ran
        obtain ⟨still, more⟩ := mirrors.write front
        obtain ⟨_, collected, got, ran⟩ := run_bind_eq_ok ran
        obtain ⟨⟨size, content⟩, most⟩ := copies_getRequest function _ _ _ still got
        -- and the check is made of it
        obtain ⟨rfl, checked, _⟩ := readChecked_eq_ok ran
        obtain ⟨short, zero⟩ := checkCRC_eq_true checked
        have two : 2 ≤ after.count := by
          rw [(write_size [function] _).2.1] at most
          dsimp only at most
          rw [(write_size [uid] receiver.reset).2.1] at most
          exact most
        have whole : after.count - 2 + 2 = after.count := Nat.sub_add_cancel two
        rcases content with ⟨octets, collected, same⟩ | long
        · rw [whole, collected.count, collected.octets] at zero
          rw [empty, List.append_nil] at same
          rw [← same]
          exact zero
        · omega
      · cases read

/-- If a frame is accepted, then none is that differs from it within sixteen bits of the line, be it by another
transport, for other units. -/
theorem damaged_frame_refused (ready : Ready receiver) (otherReady : Ready other)
    {otherAddressed : UInt8 → Bool} {otherAvailable : Line → Nat} {front burst damage behind : List Bool}
    (bits : (frame.map UInt8.toBitVec).flatMap octetBits = front ++ burst ++ behind)
    (changedBits : (changed.map UInt8.toBitVec).flatMap octetBits = front ++ damage ++ behind)
    (long : burst.length = damage.length) (short : burst.length ≤ 16) (damaged : burst ≠ damage)
    (accepts : Accepts addressed available receiver frame) :
    ¬ Accepts otherAddressed otherAvailable other changed := by
  intro alsoAccepts
  have words := (bitwiseCrc_of_accepts ready accepts).trans (bitwiseCrc_of_accepts otherReady alsoAccepts).symm
  have same := bitwiseCrc_burst bits changedBits long short words
  rw [same, changedBits] at bits
  have middle := List.append_cancel_left (List.append_cancel_right bits)
  exact damaged middle.symm

theorem accepts_sent (sent : Sent) (here : addressed sent.unitID = true) (ready : Ready receiver) :
    Accepts addressed available receiver sent.frame := by
  have whole : List.flatten [sent.frame] = sent.frame := by simp
  obtain ⟨after, received, _, left⟩ := receive_sent available sent here ready whole []
  refine ⟨sent.received, after, (readRequestIn_on receiver _).trans received, ?_⟩
  rw [left]
  rfl

theorem readTwoRegisters_frame : readTwoRegisters.frame = [1, 3, 0, 16, 0, 2, 0xC5, 0xCE] := by decide

/-- The reference has been changed from 16 to 1296. -/
theorem damaged_frame_refused_reference :
    ¬ Accepts (· == 1) (fun _ => 0) (.fresh []) [1, 3, 5, 16, 0, 2, 0xC5, 0xCE] := by
  have frame : (readTwoRegisters.frame.map UInt8.toBitVec).flatMap octetBits = [0x01#8, 0x03#8].flatMap octetBits ++
      octetBits 0 ++ [0x10#8, 0x00#8, 0x02#8, 0xC5#8, 0xCE#8].flatMap octetBits := by
    rw [readTwoRegisters_frame]
    rfl
  have accepts : Accepts (· == 1) (fun _ => 0) (.fresh []) readTwoRegisters.frame :=
    accepts_sent readTwoRegisters rfl (ready_fresh [])
  have damaged : octetBits 0 ≠ octetBits 5 := by decide
  exact damaged_frame_refused (ready_fresh []) (ready_fresh []) frame rfl rfl (by decide) damaged accepts

end Acceptance

section Floods

variable {addressed : UInt8 → Bool} {available : Line → Nat} {receiver : Receiver} {stale : List UInt8}

structure Stuck (stale : List UInt8) (receiver : Receiver) : Prop where
  moved : receiver.attached = false
  stale : receiver.inBuffer = stale

theorem Stuck.write (stuck : Stuck stale receiver) (octets : List UInt8) : Stuck stale (receiver.write octets) := by
  have moved : ¬ (receiver.attached = true ∧ receiver.count + octets.length ≤ receiver.inBuffer.length) :=
    fun both => absurd (stuck.moved.symm.trans both.1) Bool.false_ne_true
  unfold Receiver.write
  rw [if_neg moved]
  exact ⟨rfl, stuck.stale⟩

theorem Stuck.writes (stuck : Stuck stale receiver) (octets : List UInt8) :
    Stuck stale (octets.foldl (fun receiver octet => receiver.write [octet]) receiver) := by
  induction octets generalizing receiver with
  | nil => exact stuck
  | cons octet octets ih => exact ih (stuck.write [octet])

def StaysStuck {Value : Type} (program : Receiving Value) : Prop :=
  ∀ stale receiver, Stuck stale receiver → Stuck stale (program.run receiver).2

theorem StaysStuck.bind {Value Next : Type} {program : Receiving Value} {next : Value → Receiving Next}
    (first : StaysStuck program) (second : ∀ value, StaysStuck (next value)) : StaysStuck (program >>= next) := by
  intro stale receiver stuck
  have still := first stale receiver stuck
  cases ran : program.run receiver with
  | mk outcome after =>
      rw [ran] at still
      cases outcome with
      | ok value =>
          rw [run_bind_of_ok ran]
          exact second value stale after still
      | error fault =>
          rw [run_bind_of_error ran]
          exact still

theorem staysStuck_readBytes (count : Nat) : StaysStuck (readBytes count) := by
  intro stale receiver stuck
  change Stuck stale (readBytes count receiver).2
  unfold readBytes
  dsimp only
  split
  · exact ⟨stuck.moved, stuck.stale⟩
  · exact ⟨stuck.moved, stuck.stale⟩

theorem staysStuck_write (octets : List UInt8) : StaysStuck (write octets) :=
  fun _ _ stuck => stuck.write octets

theorem staysStuck_throw {Value : Type} (fault : Throwable) : StaysStuck (throw fault : Receiving Value) :=
  fun _ _ stuck => stuck

theorem staysStuck_pure {Value : Type} (value : Value) : StaysStuck (pure value : Receiving Value) :=
  fun _ _ stuck => stuck

theorem staysStuck_readByte : StaysStuck readByte :=
  (staysStuck_readBytes 1).bind fun _ => staysStuck_pure _

theorem staysStuck_requestData (byteCount : Nat) : StaysStuck (readRequestData byteCount) :=
  (staysStuck_readBytes _).bind fun _ => staysStuck_write _

theorem staysStuck_getRequest (function : UInt8) : StaysStuck (getRequest function) := by
  have counted : StaysStuck (readByte >>= fun byteCount => write [byteCount] >>= fun _ =>
      readRequestData byteCount.toNat) :=
    staysStuck_readByte.bind fun _ => (staysStuck_write _).bind fun _ => staysStuck_requestData _
  have words : StaysStuck (readBytes 4 >>= fun inpBuf => write inpBuf >>= fun _ => readByte >>= fun byteCount =>
      write [byteCount] >>= fun _ => readRequestData byteCount.toNat) :=
    (staysStuck_readBytes 4).bind fun _ => (staysStuck_write _).bind fun _ => counted
  unfold getRequest
  split
  · split
    all_goals first
      | exact staysStuck_requestData _
      | exact counted
      | exact words
      | exact (staysStuck_requestData 8).bind fun _ => counted
      | exact staysStuck_throw _
  · exact staysStuck_pure _

theorem staysStuck_lift {Value : Type} (outcome : Except Throwable Value) :
    StaysStuck (liftM outcome : Receiving Value) := by
  intro stale receiver stuck
  rw [run_lift]
  exact stuck

theorem staysStuck_readChecked (request : ModbusMessage ModbusRequest) :
    StaysStuck (readChecked available request) := by
  have got : StaysStuck (get : Receiving Receiver) := fun _ _ stuck => stuck
  have cleared : StaysStuck (clearInput available) := fun _ _ stuck => ⟨stuck.moved, stuck.stale⟩
  apply got.bind
  intro receiver
  apply (staysStuck_lift _).bind
  intro same
  cases same with
  | true => exact (staysStuck_lift _).bind fun _ => staysStuck_pure _
  | false => exact cleared.bind fun _ => staysStuck_throw _

theorem staysStuck_readFrame (available : Line → Nat) : StaysStuck (readFrame available) :=
  staysStuck_readByte.bind fun _ => (staysStuck_write _).bind fun _ =>
    (staysStuck_getRequest _).bind fun _ => staysStuck_readChecked _

/-- A request that is made of the front of an array, whatever has arrived. -/
def MadeOf (stale : List UInt8) (request : ModbusMessage ModbusRequest) : Prop :=
  ∃ count created left, count + 1 < stale.length ∧ bitwiseCrc (stale.take (count + 2)) = 0#16 ∧
    ModbusMessage.readFrom created (stale.take count) = .ok (request, left)

theorem readFrame_stuck (stuck : Stuck stale receiver) {request : ModbusMessage ModbusRequest} {after : Receiver}
    (ran : (readFrame available).run receiver = (.ok request, after)) : MadeOf stale request := by
  obtain ⟨function, first, read, ran⟩ := run_bind_eq_ok ran
  obtain ⟨_, second, written, ran⟩ := run_bind_eq_ok ran
  obtain ⟨_, third, got, ran⟩ := run_bind_eq_ok ran
  have still : Stuck stale first := by
    have kept := staysStuck_readByte stale receiver stuck
    rw [read] at kept
    exact kept
  have still : Stuck stale second := by
    have kept := staysStuck_write [function] stale first still
    rw [written] at kept
    exact kept
  have still : Stuck stale third := by
    have kept := staysStuck_getRequest function stale second still
    rw [got] at kept
    exact kept
  obtain ⟨_, checked, left, taken⟩ := readChecked_eq_ok ran
  obtain ⟨short, zero⟩ := checkCRC_eq_true checked
  rw [still.stale] at short zero taken
  exact ⟨_, _, left, short, zero, taken⟩

theorem receive_stuck (addressed : UInt8 → Bool) (available : Line → Nat) (stuck : Stuck stale receiver) (line : Line) :
    Stuck stale (receive addressed available receiver line).2 ∧
      ∀ request, (receive addressed available receiver line).1 = .ok (some request) → MadeOf stale request := by
  induction line generalizing receiver with
  | nil =>
      refine ⟨⟨stuck.moved, stuck.stale⟩, ?_⟩
      intro request same
      cases same
  | cons burst line ih =>
      have reset : Stuck stale receiver.reset := ⟨stuck.moved, stuck.stale⟩
      cases burst with
      | nil => exact ih stuck
      | cons uid burst =>
          unfold receive
          split
          · have placed : Stuck stale { receiver.reset.write [uid] with line := burst :: line } :=
              ⟨(reset.write [uid]).moved, (reset.write [uid]).stale⟩
            have still := staysStuck_readFrame available stale _ placed
            cases ran : (readFrame available).run { receiver.reset.write [uid] with line := burst :: line } with
            | mk outcome after =>
                rw [ran] at still
                cases outcome with
                | ok request =>
                    refine ⟨still, ?_⟩
                    intro other same
                    cases same
                    exact readFrame_stuck placed ran
                | error fault =>
                    refine ⟨still, ?_⟩
                    intro other same
                    unfold caught at same
                    dsimp only at same
                    split at same
                    · cases same
                    · cases same
          · exact ih (reset.writes (uid :: burst))

/-- Once the stream has moved, whatever is handed on is made of the old array. -/
theorem stuck_requests (stuck : Stuck stale receiver) (calls : Nat) {request : ModbusMessage ModbusRequest}
    (handed : .ok (some request) ∈ readRequests addressed available calls receiver) : MadeOf stale request := by
  induction calls generalizing receiver with
  | zero => cases handed
  | succ calls ih =>
      obtain ⟨still, made⟩ := receive_stuck addressed available stuck receiver.line
      rcases List.mem_cons.mp handed with first | later
      · exact made request first.symm
      · exact ih still later

/-- Octets beyond the array move the stream, and leave the first ones in the array. -/
theorem Collected.floods {content octets : List UInt8} (collected : Collected content receiver)
    (long : 256 < content.length + octets.length) :
    Stuck ((content ++ octets).take 256) (octets.foldl (fun receiver octet => receiver.write [octet]) receiver) := by
  have size : content.length ≤ 256 := by
    have taken := congrArg List.length collected.octets
    rw [List.length_take, collected.size] at taken
    omega
  induction octets generalizing content receiver with
  | nil =>
      rw [List.length_nil] at long
      omega
  | cons octet octets ih =>
      rw [List.length_cons] at long
      by_cases fits : content.length + 1 ≤ 256
      · have further := ih (collected.write [octet] fits).1
          (by rw [List.length_append, List.length_singleton]; omega)
          (by rw [List.length_append, List.length_singleton]; omega)
        rw [List.append_assoc] at further
        exact further
      · -- the array is full
        have full : content.length = 256 := by omega
        have array : receiver.inBuffer = content := by
          rw [← collected.octets, full, ← collected.size, List.take_length]
        have front : (content ++ octet :: octets).take 256 = content := List.take_left' full
        have beyond : ¬ (receiver.attached = true ∧ receiver.count + [octet].length ≤ receiver.inBuffer.length) := by
          rw [collected.count, collected.size]
          exact fun both => fits both.2
        have moved : Stuck content (receiver.write [octet]) := by
          unfold Receiver.write
          rw [if_neg beyond]
          exact ⟨rfl, array⟩
        rw [front]
        exact moved.writes octets

/-- After a burst for other units that is longer than the array, no request is ever handed on again, whatever arrives
and however often it is tried, unless the front of that burst happens to have the check word zero somewhere. -/
theorem flooded_forever_deaf (addressed : UInt8 → Bool) (available : Line → Nat) (ready : Ready receiver) {uid : UInt8}
    (there : addressed uid = false) {others : List UInt8} (long : 256 ≤ others.length)
    (unmarked : ∀ count, count + 2 ≤ 256 → bitwiseCrc ((uid :: others).take (count + 2)) ≠ 0#16)
    (line : Line) (calls : Nat) (request : ModbusMessage ModbusRequest) :
    .ok (some request) ∉ readRequests addressed available calls (receiver.on ((uid :: others) :: line)) := by
  intro handed
  have flood : 256 < ([] : List UInt8).length + (uid :: others).length := by
    rw [List.length_nil, List.length_cons]
    omega
  have stuck := ready.reset.floods flood
  have passed : receive addressed available receiver ((uid :: others) :: line) =
      receive addressed available ((uid :: others).foldl (fun receiver octet => receiver.write [octet]) receiver.reset)
        line := by
    rw [receive, if_neg (Bool.not_eq_true _ ▸ there)]
  have call := (readRequestIn_on receiver _).trans (passed.trans (readRequestIn_on _ line).symm)
  rw [readRequests_congr call] at handed
  have placed : Stuck (([] ++ uid :: others).take 256)
      (Receiver.on ((uid :: others).foldl (fun receiver octet => receiver.write [octet]) receiver.reset) line) :=
    ⟨stuck.moved, stuck.stale⟩
  obtain ⟨count, created, left, short, zero, _⟩ := stuck_requests placed calls handed
  rw [List.nil_append, List.length_take] at short
  rw [List.nil_append, List.take_take, Nat.min_eq_left (by omega)] at zero
  exact unmarked count (by omega) zero

theorem crcOctets_silence {crc : BitVec 16} (nonzero : crc ≠ 0#16) (count : Nat) :
    crcOctets crcPolynomial crc (List.replicate count 0#8) ≠ 0#16 := by
  induction count generalizing crc with
  | zero => exact nonzero
  | succ count ih =>
      apply ih
      intro zero
      have shifted : crcShifts crcPolynomial 8 crc = crcShifts crcPolynomial 8 0#16 := by
        rw [crcShifts_zero]
        simpa [crcOctet] using zero
      exact nonzero (crcShifts_injective (by decide) shifted)

/-- The request behind a burst of zeros for the ninth unit is not handed on. -/
theorem flooded_forever_deaf_zeros :
    .ok (some readTwoRegisters.received) ∉ readRequests (· == 1) (fun _ => 0) 3
      ((Receiver.fresh []).on [9 :: List.replicate 256 0, readTwoRegisters.frame]) := by
  have unmarked : ∀ count, count + 2 ≤ 256 →
      bitwiseCrc ((9 :: List.replicate 256 0 : List UInt8).take (count + 2)) ≠ 0#16 := by
    intro count inside
    have nine : crcOctet crcPolynomial 0xFFFF 9#8 ≠ 0#16 := by decide
    have silence := crcOctets_silence nine (count + 1)
    rw [List.take_succ_cons, List.take_replicate, Nat.min_eq_left (by omega)]
    unfold bitwiseCrc
    rw [List.map_cons, List.map_replicate]
    exact silence
  exact flooded_forever_deaf (· == 1) (fun _ => 0) (ready_fresh []) rfl (by rw [List.length_replicate]) unmarked
    [readTwoRegisters.frame] 3 readTwoRegisters.received

end Floods

end ModbusRTUTransport

end EtherNetIP.Modbus
