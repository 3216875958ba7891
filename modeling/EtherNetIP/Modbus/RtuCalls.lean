import Mathlib.Data.List.Basic
import EtherNetIP.Modbus.RtuFaults

/-! The calls of the RTU transport on any port.

A port is known by what it makes of the octets: how many have arrived when a read
comes up short, and where the loop over the octets for other units sees a pause.
The array that is read stays the one that is written as long as nothing that is
collected is longer, and the only fault that leaves a call is that of a reader
that runs past the octets announced to it.
-/

set_option autoImplicit false

namespace EtherNetIP.Modbus

open EtherNetIP.Library

namespace ModbusRTUTransport

section Lengths

variable {receiver : Receiver} {content rest : List UInt8} {limit : Nat} {next : Receiving Unit}

/-- How many octets the transport takes behind a function code, if all of them have arrived. -/
def followed (function : UInt8) (octets : List UInt8) : Option Nat :=
  let length :=
    if function &&& 0x80 = 0 then
      match (function.toNat : Int) with
      | FunctionCode.readExceptionStatus | FunctionCode.readCommEventCounter | FunctionCode.readCommEventLog
      | FunctionCode.reportSlaveID => some 2
      | FunctionCode.readMEI => some 5
      | FunctionCode.readFIFOQueue => some 4
      | FunctionCode.readCoils | FunctionCode.readInputDiscretes | FunctionCode.readMultipleRegisters
      | FunctionCode.readInputRegisters | FunctionCode.writeCoil | FunctionCode.writeSingleRegister => some 6
      | FunctionCode.maskWriteRegister => some 8
      | FunctionCode.readFileRecord | FunctionCode.writeFileRecord => octets[0]?.map (·.toNat + 3)
      | FunctionCode.writeMultipleCoils | FunctionCode.writeMultipleRegisters => octets[4]?.map (·.toNat + 7)
      | FunctionCode.readWriteMultiple => octets[10]?.map (·.toNat + 13)
      | _ => none
    else some 0
  length.filter (· ≤ octets.length)

/-- What a program does with the octets that have arrived, if it takes so many of them. -/
structure Follows (limit : Nat) (program : Receiving Unit) (length : List UInt8 → Option Nat) : Prop where
  short : ∀ receiver content, Collected content receiver → content.length = limit →
    length receiver.line.flatten = none →
    ∃ after, program.run receiver = (.error .ioException, after) ∧ Ready after
  fits : ∀ receiver content count, Collected content receiver → content.length = limit →
    length receiver.line.flatten = some count → limit + count ≤ 256 →
    ∃ after, program.run receiver = (.ok (), after) ∧
      Collected (content ++ receiver.line.flatten.take count) after ∧
      after.line.flatten = receiver.line.flatten.drop count
  long : ∀ receiver content count, Collected content receiver → content.length = limit →
    length receiver.line.flatten = some count → 256 < limit + count →
    ∃ after, program.run receiver = (.ok (), after) ∧ after.attached = false

theorem filter_le {count taken bound : Nat} : (some count).filter (· ≤ bound) = some taken ↔ count = taken ∧ count ≤ bound := by
  by_cases enough : count ≤ bound
  · simp [Option.filter, enough]
  · simp [Option.filter, enough]

theorem map_filter_le (part count bound : Nat) : ((some count).filter (· ≤ bound)).map (part + ·) =
    (some (part + count)).filter (· ≤ part + bound) := by
  by_cases enough : count ≤ bound
  · simp [Option.filter, enough]
  · simp [Option.filter, enough]

theorem run_readBytes_short {count : Nat} (short : ¬ count ≤ receiver.line.flatten.length) :
    (readBytes count).run receiver = (.error .ioException, { receiver with line := [] }) := by
  change readBytes count receiver = _
  unfold readBytes
  dsimp only
  rw [if_neg short]

theorem run_readBytes_take {count : Nat} (enough : count ≤ receiver.line.flatten.length) :
    (readBytes count).run receiver =
      (.ok (receiver.line.flatten.take count), { receiver with line := receiver.line.behind count }) := by
  change readBytes count receiver = _
  unfold readBytes
  dsimp only
  rw [if_pos enough]

theorem Collected.onLine (collected : Collected content receiver) (line : Line) :
    Collected content { receiver with line } :=
  ⟨collected.attached, collected.size, collected.count, collected.octets⟩

theorem Collected.write_long (collected : Collected content receiver) {octets : List UInt8}
    (long : 256 < content.length + octets.length) : (receiver.write octets).attached = false := by
  unfold Receiver.write
  rw [if_neg]
  rintro ⟨-, fits⟩
  rw [collected.count, collected.size] at fits
  omega

theorem follows_bytes (limit count : Nat) :
    Follows limit (readBytes count >>= write) fun octets => (some count).filter (· ≤ octets.length) where
  short := by
    intro receiver content collected _ none
    have short : ¬ count ≤ receiver.line.flatten.length := by
      intro enough
      rw [filter_le.mpr ⟨rfl, enough⟩] at none
      cases none
    exact ⟨_, run_bind_of_error (run_readBytes_short short), collected.attached, collected.size⟩
  fits := by
    intro receiver content taken collected size some room
    obtain ⟨rfl, enough⟩ := filter_le.mp some
    have length := List.length_take_of_le enough
    obtain ⟨held, line⟩ := (collected.onLine (receiver.line.behind count)).write (receiver.line.flatten.take count)
      (by omega)
    refine ⟨_, run_bind_of_ok (run_readBytes_take enough), held, ?_⟩
    rw [line, flatten_behind]
  long := by
    intro receiver content taken collected size some room
    obtain ⟨rfl, enough⟩ := filter_le.mp some
    have length := List.length_take_of_le enough
    exact ⟨_, run_bind_of_ok (run_readBytes_take enough),
      (collected.onLine (receiver.line.behind count)).write_long (by omega)⟩

theorem Follows.congr {program : Receiving Unit} {length other : List UInt8 → Option Nat}
    (follows : Follows limit program length) (same : ∀ octets, other octets = length octets) :
    Follows limit program other := by
  rw [funext same]
  exact follows

theorem Follows.front {count : Nat} {next : List UInt8 → Receiving Unit} {length : List UInt8 → List UInt8 → Option Nat}
    (small : limit + count ≤ 256) (further : ∀ inpBuf, Follows (limit + count) (next inpBuf) (length inpBuf)) :
    Follows limit (readBytes count >>= fun inpBuf => write inpBuf >>= fun _ => next inpBuf) fun octets =>
      if count ≤ octets.length then (length (octets.take count) (octets.drop count)).map (count + ·) else none := by
  -- the state behind the first part, if its octets have arrived
  have middle {receiver : Receiver} {content : List UInt8} (collected : Collected content receiver)
      (size : content.length = limit) (enough : count ≤ receiver.line.flatten.length) :
      ∃ after, (readBytes count >>= fun inpBuf => write inpBuf >>= fun _ => next inpBuf).run receiver =
          (next (receiver.line.flatten.take count)).run after ∧
        Collected (content ++ receiver.line.flatten.take count) after ∧
        (content ++ receiver.line.flatten.take count).length = limit + count ∧
        after.line.flatten = receiver.line.flatten.drop count := by
    have length := List.length_take_of_le enough
    obtain ⟨held, line⟩ := (collected.onLine (receiver.line.behind count)).write (receiver.line.flatten.take count)
      (by omega)
    refine ⟨_, (run_bind_of_ok (run_readBytes_take enough)).trans (run_bind_of_ok (run_write _)), held, ?_, ?_⟩
    · rw [List.length_append, size, length]
    · rw [line, flatten_behind]
  constructor
  · intro receiver content collected size none
    by_cases enough : count ≤ receiver.line.flatten.length
    · rw [if_pos enough, Option.map_eq_none_iff] at none
      obtain ⟨after, ran, held, length, rest⟩ := middle collected size enough
      obtain ⟨final, raised, ready⟩ := (further _).short after _ held length (by rw [rest]; exact none)
      exact ⟨final, ran.trans raised, ready⟩
    · exact ⟨_, run_bind_of_error (run_readBytes_short enough), collected.attached, collected.size⟩
  · intro receiver content taken collected size some room
    by_cases enough : count ≤ receiver.line.flatten.length
    · rw [if_pos enough, Option.map_eq_some_iff] at some
      obtain ⟨less, some, rfl⟩ := some
      obtain ⟨after, ran, held, length, rest⟩ := middle collected size enough
      obtain ⟨final, ranOn, heldOn, left⟩ := (further _).fits after _ less held length (by rw [rest]; exact some)
        (by omega)
      refine ⟨final, ran.trans ranOn, ?_, ?_⟩
      · rw [rest, List.append_assoc, ← List.take_add] at heldOn
        exact heldOn
      · rw [left, rest, List.drop_drop]
    · rw [if_neg enough] at some
      cases some
  · intro receiver content taken collected size some room
    by_cases enough : count ≤ receiver.line.flatten.length
    · rw [if_pos enough, Option.map_eq_some_iff] at some
      obtain ⟨less, some, rfl⟩ := some
      obtain ⟨after, ran, held, length, rest⟩ := middle collected size enough
      obtain ⟨final, ranOn, moved⟩ := (further _).long after _ less held length (by rw [rest]; exact some)
        (by omega)
      exact ⟨final, ran.trans ranOn, moved⟩
    · rw [if_neg enough] at some
      cases some

theorem Follows.of_run {program other : Receiving Unit} {length : List UInt8 → Option Nat}
    (follows : Follows limit program length) (same : ∀ receiver, other.run receiver = program.run receiver) :
    Follows limit other length where
  short receiver content := by
    rw [same]
    exact follows.short receiver content
  fits receiver content count := by
    rw [same]
    exact follows.fits receiver content count
  long receiver content count := by
    rw [same]
    exact follows.long receiver content count

theorem run_octet (next : UInt8 → Receiving Unit) (receiver : Receiver) :
    (readByte >>= fun value => write [value] >>= fun _ => next value).run receiver =
      (readBytes 1 >>= fun inpBuf => write inpBuf >>= fun _ => next (inpBuf.headD 0)).run receiver := by
  by_cases enough : 1 ≤ receiver.line.flatten.length
  · obtain ⟨value, rest, arriving⟩ := List.exists_cons_of_length_pos enough
    have taken := run_readBytes_take enough
    rw [arriving] at taken
    rw [run_bind_of_ok (run_readByte arriving), run_bind_of_ok taken]
    rfl
  · have short := run_readBytes_short enough
    rw [run_bind_of_error short]
    have byte : readByte.run receiver = _ := run_bind_of_error short
    exact run_bind_of_error byte

theorem follows_counted (small : limit + 1 ≤ 256) :
    Follows limit (readByte >>= fun byteCount => write [byteCount] >>= fun _ => readRequestData byteCount.toNat)
      fun octets => (octets[0]?.map (·.toNat + 3)).filter (· ≤ octets.length) := by
  have whole := Follows.front small fun inpBuf => follows_bytes (limit + 1) ((inpBuf.headD 0).toNat + 2)
  refine (whole.of_run (run_octet fun byteCount => readRequestData byteCount.toNat)).congr ?_
  intro octets
  cases octets with
  | nil => rfl
  | cons value rest =>
      have length : (value :: rest).length = 1 + rest.length := Nat.add_comm ..
      have count : value.toNat + 3 = 1 + (value.toNat + 2) := by omega
      rw [length, if_pos (Nat.le_add_right 1 _)]
      change Option.filter _ (some (value.toNat + 3)) = _
      rw [count]
      exact (map_filter_le 1 (value.toNat + 2) rest.length).symm

theorem follows_front_counted {count : Nat} (small : limit + count + 1 ≤ 256) :
    Follows limit (readBytes count >>= fun inpBuf => write inpBuf >>= fun _ =>
        readByte >>= fun byteCount => write [byteCount] >>= fun _ => readRequestData byteCount.toNat)
      fun octets => (octets[count]?.map (·.toNat + (count + 3))).filter (· ≤ octets.length) := by
  have counted : Follows (limit + count) _ _ := follows_counted small
  refine (Follows.front (by omega) fun _ => counted).congr ?_
  intro octets
  by_cases enough : count ≤ octets.length
  · rw [if_pos enough, List.getElem?_drop, Nat.add_zero, List.length_drop]
    cases octets[count]? with
    | none => rfl
    | some value =>
        have total : value.toNat + (count + 3) = count + (value.toNat + 3) := by omega
        have length : octets.length = count + (octets.length - count) := by omega
        change Option.filter _ (some (value.toNat + (count + 3))) =
          Option.map _ (Option.filter _ (some (value.toNat + 3)))
        rw [total, map_filter_le, ← length]
  · rw [if_neg enough, List.getElem?_eq_none (by omega)]
    rfl

theorem follows_throw : Follows limit (throw .ioException) fun octets => Option.filter (· ≤ octets.length) none where
  short receiver content collected _ _ := ⟨receiver, rfl, collected.attached, collected.size⟩
  fits receiver content count _ _ some := by cases some
  long receiver content count _ _ some := by cases some

theorem follows_nothing : Follows limit (return ()) fun octets => (some 0).filter (· ≤ octets.length) where
  short receiver content _ _ none := by
    rw [filter_le.mpr ⟨rfl, Nat.zero_le _⟩] at none
    cases none
  fits receiver content count collected _ some _ := by
    obtain ⟨rfl, -⟩ := filter_le.mp some
    refine ⟨receiver, rfl, ?_, List.drop_zero.symm⟩
    rw [List.take_zero, List.append_nil]
    exact collected
  long receiver content count collected size some long := by
    obtain ⟨rfl, -⟩ := filter_le.mp some
    have taken := congrArg List.length collected.octets
    rw [List.length_take, collected.size] at taken
    omega

theorem run_requestData {byteCount : Nat} (receiver : Receiver) :
    (readRequestData byteCount >>= fun _ => next).run receiver =
      (readBytes (byteCount + 2) >>= fun inpBuf => write inpBuf >>= fun _ => next).run receiver := by
  have same : (readRequestData byteCount >>= fun _ => next) =
      (readBytes (byteCount + 2) >>= fun inpBuf => write inpBuf >>= fun _ => next) := bind_assoc ..
  rw [same]

theorem follows_getRequest (function : UInt8) : Follows 2 (getRequest function) (followed function) := by
  unfold getRequest followed
  generalize (function.toNat : Int) = number
  by_cases plain : function &&& 0x80 = 0
  · simp only [if_pos plain]
    split
    case h_19 =>
      -- no octet is taken for a function it does not know
      refine follows_throw.congr fun octets => ?_
      split
      all_goals first
        | rfl
        | contradiction
    all_goals first
      | exact follows_bytes 2 _
      | exact follows_counted (by decide)
      | exact @follows_front_counted 2 4 (by decide)
      | exact (@follows_front_counted 2 10 (by decide)).of_run run_requestData
  · simp only [if_neg plain]
    exact follows_nothing

end Lengths

section Calls

variable {addressed : UInt8 → Bool} {available : Line → Nat} {receiver : Receiver} {uid function : UInt8}
  {octets : List UInt8} {line : Line}

/-- A frame for an addressed unit is no longer than the array, and if it is accepted its reader does not run past the
octets announced in it. -/
def FrameServes (uid : UInt8) : List UInt8 → Prop
  | [] => True
  | function :: octets => ∀ count ∈ followed function octets, 2 + count ≤ 256 ∧
      ¬ (bitwiseCrc (uid :: function :: octets.take count) = 0#16 ∧ RunsPastBody function (octets.take (count - 2)))

/-- What is collected for other units up to a pause is no longer than the array either. -/
def LineServes (addressed : UInt8 → Bool) : Line → Prop
  | [] => True
  | [] :: line => LineServes addressed line
  | (uid :: burst) :: line =>
    if addressed uid then FrameServes uid (burst :: line).flatten
    else burst.length < 256 ∧ LineServes addressed line

/-- A call returns a request or null or throws the exception declared for it, the array that is read is still the one
that is written, and a request is decoded from octets of its own. -/
structure Served (octets : List UInt8) (outcome : Except Throwable (Option (ModbusMessage ModbusRequest)) × Receiver) :
    Prop where
  handed : (∃ handed, outcome.1 = .ok handed) ∨ outcome.1 = .error .modbusIOException
  attached : outcome.2.attached = true
  own : ∀ request, outcome.1 = .ok (some request) → ∃ passed frame left,
    octets = passed ++ frame ++ outcome.2.line.flatten ∧
      (createModbusRequest (frame.getD 1 0).toNat).readFrom.run (frame.take (frame.length - 2)) = .ok (request, left)

theorem followed_two {octets : List UInt8} {count : Nat} (some : followed function octets = some count) :
    count = 0 ∨ 2 ≤ count := by
  unfold followed at some
  obtain ⟨length, -⟩ := Option.filter_eq_some_iff.mp some
  split at length
  · split at length
    all_goals first
      | exact .inr (Option.some.inj length ▸ by decide)
      | (obtain ⟨value, -, rfl⟩ := Option.map_eq_some_iff.mp length; exact .inr (by omega))
      | cases length
  · exact .inl (Option.some.inj length).symm

theorem served_null {octets : List UInt8} (ready : Ready receiver) :
    Served octets (.ok none, receiver) ∧ Ready receiver :=
  ⟨⟨.inl ⟨none, rfl⟩, ready.attached, fun request same => by cases same⟩, ready⟩

theorem run_readChecked_refused {request : ModbusMessage ModbusRequest}
    (checked : receiver.checkCRC (receiver.count - 2) = .ok false) :
    (readChecked available request).run receiver =
      (.error .ioException, { receiver with line := receiver.line.behind (available receiver.line) }) := by
  have got : (get : Receiving Receiver).run receiver = (.ok receiver, receiver) := rfl
  unfold readChecked
  rw [run_bind_of_ok got]
  dsimp only
  rw [checked, run_bind_of_ok (run_lift _ receiver), if_neg Bool.false_ne_true]
  rfl

theorem run_readChecked_fault {request : ModbusMessage ModbusRequest} {fault : Throwable}
    (checked : receiver.checkCRC (receiver.count - 2) = .ok true)
    (raised : request.readFrom.run (receiver.inBuffer.take (receiver.count - 2)) = .error fault) :
    (readChecked available request).run receiver = (.error fault, receiver) := by
  have got : (get : Receiving Receiver).run receiver = (.ok receiver, receiver) := rfl
  unfold readChecked
  rw [run_bind_of_ok got]
  dsimp only
  rw [checked, raised, run_bind_of_ok (run_lift _ receiver), if_pos rfl]
  exact run_bind_of_error (run_lift _ receiver)

section Frames

variable (collected : Collected (uid :: function :: octets) receiver)

include collected

theorem Collected.length_frame : octets.length + 2 ≤ 256 := by
  have taken := congrArg List.length collected.octets
  rw [List.length_take, collected.size] at taken
  simp only [List.length_cons] at taken
  omega

theorem Collected.count_frame : receiver.count - 2 = octets.length := by
  rw [collected.count]
  rfl

theorem Collected.checkCRC_frame : receiver.checkCRC (receiver.count - 2) =
    .ok (decide (bitwiseCrc (uid :: function :: octets) = 0#16)) := by
  have size := collected.length_frame
  generalize same : uid :: function :: octets = whole at collected
  have length : whole.length = octets.length + 2 := by rw [← same]; rfl
  obtain ⟨low, high, last⟩ : ∃ low high, whole.drop octets.length = [low, high] := by
    apply List.length_eq_two.mp
    rw [List.length_drop, length, Nat.add_sub_cancel_left]
  have split : whole = whole.take octets.length ++ [low, high] := by rw [← last, List.take_append_drop]
  have front : (whole.take octets.length).length = octets.length := List.length_take_of_le (by omega)
  rw [split] at collected
  rw [collected.checkCRC (by rw [front]; exact size), ← split]

theorem Collected.pdu_frame : receiver.inBuffer.take (receiver.count - 2) =
    (uid :: function :: octets).take octets.length := by
  rw [collected.count_frame]
  exact collected.front (by simp only [List.length_cons]; omega)

/-- Of the frames that check, those whose reader runs past the octets announced to it raise what nobody catches. -/
theorem Collected.readChecked_frame (available : Line → Nat) (enough : octets = [] ∨ 2 ≤ octets.length) :
    (bitwiseCrc (uid :: function :: octets) = 0#16 ∧ RunsPastBody function (octets.take (octets.length - 2)) →
      ∃ fault, (readChecked available (createModbusRequest function.toNat)).run receiver = (.error fault, receiver) ∧
        fault.Escapes) ∧
    (¬ (bitwiseCrc (uid :: function :: octets) = 0#16 ∧ RunsPastBody function (octets.take (octets.length - 2))) →
      (∃ request left, (readChecked available (createModbusRequest function.toNat)).run receiver =
          (.ok request, receiver) ∧ (createModbusRequest function.toNat).readFrom.run
            ((uid :: function :: octets).take octets.length) = .ok (request, left)) ∨
      ∃ fault after, (readChecked available (createModbusRequest function.toNat)).run receiver = (.error fault, after) ∧
        ¬ fault.Escapes ∧ Ready after) := by
  have checked := collected.checkCRC_frame
  have size := collected.length_frame
  by_cases zero : bitwiseCrc (uid :: function :: octets) = 0#16
  · rw [decide_eq_true zero] at checked
    -- the fault of the fields, if there is one
    have escapes : (∃ fault, (createModbusRequest function.toNat).readFrom.run
        (receiver.inBuffer.take (receiver.count - 2)) = .error fault ∧ fault.Escapes) ↔
          RunsPastBody function (octets.take (octets.length - 2)) := by
      rw [collected.pdu_frame]
      rcases enough with rfl | two
      · refine iff_of_false (not_faults_eof rfl) ?_
        rintro (⟨-, past, -⟩ | ⟨-, past, -⟩)
        · cases past
        · cases past
      · have front : (uid :: function :: octets).take octets.length =
            uid :: function :: octets.take (octets.length - 2) := by
          obtain ⟨count, length⟩ := Nat.exists_eq_add_of_le' two
          rw [length, Nat.add_sub_cancel]
          rfl
        rw [front]
        exact faults_readFrom uid function (by rw [List.length_take]; omega)
    constructor
    · rintro ⟨-, past⟩
      obtain ⟨fault, raised, out⟩ := escapes.mpr past
      exact ⟨fault, run_readChecked_fault checked raised, out⟩
    · intro serves
      cases taken : (createModbusRequest function.toNat).readFrom.run
          (receiver.inBuffer.take (receiver.count - 2)) with
      | ok read =>
          refine .inl ⟨read.1, read.2, run_readChecked checked taken, ?_⟩
          rw [← collected.pdu_frame]
          exact taken
      | error fault =>
          refine .inr ⟨fault, receiver, run_readChecked_fault checked taken, ?_, collected.ready⟩
          intro out
          exact serves ⟨zero, escapes.mp ⟨fault, taken, out⟩⟩
  · rw [decide_eq_false zero] at checked
    constructor
    · rintro ⟨same, -⟩
      exact absurd same zero
    · intro _
      exact .inr ⟨_, _, run_readChecked_refused checked, fun out => Bool.noConfusion out.1,
        collected.attached, collected.size⟩

end Frames

theorem readFrame_function (available : Line → Nat) (collected : Collected [uid] receiver)
    (arriving : receiver.line.flatten = function :: octets) :
    ∃ after, (readFrame available).run receiver =
        (getRequest function >>= fun _ => readChecked available (createModbusRequest function.toNat)).run after ∧
      Collected [uid, function] after ∧ after.line.flatten = octets := by
  obtain ⟨held, line⟩ := (collected.onLine (receiver.line.behind 1)).write [function] (by change 2 ≤ 256; decide)
  refine ⟨_, (run_bind_of_ok (run_readByte arriving)).trans (run_bind_of_ok (run_write [function])), held, ?_⟩
  rw [line, flatten_behind, arriving]
  rfl

theorem caught_of_not_escapes {Value : Type} {fault : Throwable} (inside : ¬ fault.Escapes) (after : Receiver) :
    caught ((.error fault, after) : Except Throwable Value × Receiver) = (.ok none, after) ∨
      caught ((.error fault, after) : Except Throwable Value × Receiver) = (.error .modbusIOException, after) := by
  cases io : fault.isIO with
  | true =>
      left
      unfold caught
      dsimp only
      rw [io, if_pos rfl]
  | false =>
      right
      have same : fault = .modbusIOException := of_not_not fun other => inside ⟨io, other⟩
      rw [same]
      rfl

theorem served_of_not_escapes {fault : Throwable} (inside : ¬ fault.Escapes) {after : Receiver} (ready : Ready after)
    (octets : List UInt8) :
    Served octets (caught ((.error fault, after) : Except Throwable (ModbusMessage ModbusRequest) × Receiver)) ∧
      Ready (caught ((.error fault, after) : Except Throwable (ModbusMessage ModbusRequest) × Receiver)).2 := by
  rcases caught_of_not_escapes inside after with same | same
  · rw [same]
    exact served_null ready
  · rw [same]
    refine ⟨⟨.inr rfl, ready.attached, ?_⟩, ready⟩
    intro request handed
    cases handed

theorem not_served_of_escapes {fault : Throwable} (out : fault.Escapes) (after : Receiver) (octets : List UInt8) :
    ¬ Served octets (caught ((.error fault, after) : Except Throwable (ModbusMessage ModbusRequest) × Receiver)) := by
  have same : caught ((.error fault, after) : Except Throwable (ModbusMessage ModbusRequest) × Receiver) =
      (.error fault, after) := by
    unfold caught
    dsimp only
    rw [out.1, if_neg Bool.false_ne_true]
  rw [same]
  intro served
  rcases served.handed with ⟨handed, other⟩ | other
  · cases other
  · exact out.2 (Except.error.inj other)

theorem caught_snd {Value : Type} (outcome : Except Throwable Value × Receiver) : (caught outcome).2 = outcome.2 := by
  obtain ⟨result, after⟩ := outcome
  cases result with
  | ok value => rfl
  | error fault => rfl

theorem not_escapes_io : ¬ Throwable.Escapes .ioException := fun out => Bool.noConfusion out.1

theorem followed_le {count : Nat} (some : followed function octets = some count) : count ≤ octets.length := by
  unfold followed at some
  exact of_decide_eq_true (Option.filter_eq_some_iff.mp some).2

theorem taken_followed {count : Nat} (some : followed function octets = some count) :
    (octets.take count = [] ∨ 2 ≤ (octets.take count).length) ∧
      (octets.take count).take ((octets.take count).length - 2) = octets.take (count - 2) := by
  have length := List.length_take_of_le (followed_le some)
  rw [length]
  constructor
  · rcases followed_two some with rfl | two
    · exact .inl List.take_zero
    · exact .inr two
  · rw [List.take_take, Nat.min_eq_left (Nat.sub_le _ _)]

/-- The octets of one frame for an addressed unit, up to its check. -/
theorem readFrame_follows (available : Line → Nat) {count : Nat} (collected : Collected [uid] receiver)
    (arriving : receiver.line.flatten = function :: octets) (some : followed function octets = some count)
    (fits : 2 + count ≤ 256) :
    ∃ after, (readFrame available).run receiver =
        (readChecked available (createModbusRequest function.toNat)).run after ∧
      Collected (uid :: function :: octets.take count) after ∧ after.line.flatten = octets.drop count := by
  obtain ⟨middle, ran, held, rest⟩ := readFrame_function available collected arriving
  obtain ⟨after, got, whole, left⟩ :=
    (follows_getRequest function).fits middle _ count held rfl (by rw [rest]; exact some) fits
  rw [rest] at whole left
  exact ⟨after, ran.trans (run_bind_of_ok got), whole, left⟩

theorem served_readFrame (available : Line → Nat) (collected : Collected [uid] receiver)
    (serves : FrameServes uid receiver.line.flatten) :
    Served (uid :: receiver.line.flatten) (caught ((readFrame available).run receiver)) ∧
      Ready (caught ((readFrame available).run receiver)).2 := by
  cases arriving : receiver.line.flatten with
  | nil =>
      have short : ¬ 1 ≤ receiver.line.flatten.length := by
        rw [arriving]
        decide
      have byte : readByte.run receiver = _ := run_bind_of_error (run_readBytes_short short)
      have ran : (readFrame available).run receiver = _ := run_bind_of_error byte
      rw [ran]
      exact served_of_not_escapes not_escapes_io (collected.onLine []).ready _
  | cons function octets =>
      cases some : followed function octets with
      | none =>
          obtain ⟨middle, ran, held, rest⟩ := readFrame_function available collected arriving
          obtain ⟨after, raised, ready⟩ :=
            (follows_getRequest function).short middle _ held rfl (by rw [rest]; exact some)
          rw [ran, run_bind_of_error raised]
          exact served_of_not_escapes not_escapes_io ready _
      | some count =>
          rw [arriving] at serves
          obtain ⟨fits, sound⟩ := serves count some
          obtain ⟨enough, body⟩ := taken_followed some
          obtain ⟨after, ran, held, rest⟩ := readFrame_follows available collected arriving some fits
          rw [ran]
          rcases (held.readChecked_frame available enough).2 (by rw [body]; exact sound) with
            ⟨request, left, read, taken⟩ | ⟨fault, final, raised, inside, ready⟩
          · rw [read]
            refine ⟨⟨.inl ⟨_, rfl⟩, held.attached, ?_⟩, held.ready⟩
            intro other handed
            obtain rfl : request = other := Option.some.inj (Except.ok.inj handed)
            refine ⟨[], uid :: function :: octets.take count, left, ?_, ?_⟩
            · change _ = [] ++ _ ++ after.line.flatten
              rw [rest, List.nil_append, List.cons_append, List.cons_append, List.take_append_drop]
            · exact taken
          · rw [raised]
            exact served_of_not_escapes inside ready _

theorem not_served_readFrame (available : Line → Nat) (collected : Collected [uid] receiver)
    (fails : ¬ FrameServes uid receiver.line.flatten) (passed : List UInt8) :
    ¬ Served passed (caught ((readFrame available).run receiver)) := by
  cases arriving : receiver.line.flatten with
  | nil =>
      rw [arriving] at fails
      exact absurd trivial fails
  | cons function octets =>
      rw [arriving] at fails
      obtain ⟨count, fails⟩ := not_forall.mp fails
      obtain ⟨some, fails⟩ := Classical.not_imp.mp fails
      by_cases fits : 2 + count ≤ 256
      -- its reader runs past what is announced
      · have past := of_not_not (not_and.mp fails fits)
        obtain ⟨enough, body⟩ := taken_followed some
        obtain ⟨after, ran, held, rest⟩ := readFrame_follows available collected arriving some fits
        obtain ⟨fault, raised, out⟩ := (held.readChecked_frame available enough).1 (by rw [body]; exact past)
        rw [ran, raised]
        exact not_served_of_escapes out after passed
      · obtain ⟨middle, ran, held, rest⟩ := readFrame_function available collected arriving
        -- the stream outgrows the array before the check
        obtain ⟨after, got, moved⟩ :=
          (follows_getRequest function).long middle _ count held rfl (by rw [rest]; exact some) (by omega)
        have still := @staysStuck_readChecked available (createModbusRequest function.toNat) _ after
          ⟨moved, rfl⟩
        rw [ran, run_bind_of_ok got]
        intro served
        have attached := served.attached
        rw [caught_snd] at attached
        rw [still.moved] at attached
        cases attached

theorem Served.behind {outcome : Except Throwable (Option (ModbusMessage ModbusRequest)) × Receiver}
    (served : Served octets outcome) (front : List UInt8) : Served (front ++ octets) outcome := by
  refine ⟨served.handed, served.attached, ?_⟩
  intro request handed
  obtain ⟨passed, frame, left, split, read⟩ := served.own request handed
  refine ⟨front ++ passed, frame, left, ?_, read⟩
  rw [split, List.append_assoc, List.append_assoc, List.append_assoc]

theorem Ready.first (ready : Ready receiver) (uid : UInt8) (line : Line) :
    Collected [uid] { receiver.reset.write [uid] with line } :=
  (ready.reset.write [uid] (by change 1 ≤ 256; decide)).1.onLine line

/-- The step: what a call does with the octets of a line, and what it leaves for the next call. -/
theorem served_receive (addressed : UInt8 → Bool) (available : Line → Nat) (ready : Ready receiver)
    (serves : LineServes addressed line) :
    Served line.flatten (receive addressed available receiver line) ∧
      Ready (receive addressed available receiver line).2 := by
  induction line generalizing receiver with
  | nil => exact served_null ⟨ready.attached, ready.size⟩
  | cons burst line ih =>
      cases burst with
      | nil => exact ih ready serves
      | cons uid burst =>
          rw [LineServes] at serves
          rw [receive]
          split
          · rename_i here
            rw [if_pos here] at serves
            exact served_readFrame available (ready.first uid (burst :: line)) serves
          · rename_i there
            rw [if_neg there] at serves
            have still := (ready.reset.writes (uid :: burst)
              (by rw [List.length_nil, List.length_cons]; omega)).ready
            obtain ⟨served, after⟩ := ih still serves.2
            refine ⟨?_, after⟩
            rw [List.flatten_cons]
            exact served.behind (uid :: burst)

theorem not_served_receive (addressed : UInt8 → Bool) (available : Line → Nat) (ready : Ready receiver)
    (fails : ¬ LineServes addressed line) (octets : List UInt8) :
    ¬ Served octets (receive addressed available receiver line) := by
  induction line generalizing receiver with
  | nil => exact absurd trivial fails
  | cons burst line ih =>
      cases burst with
      | nil => exact ih ready fails
      | cons uid burst =>
          rw [LineServes] at fails
          rw [receive]
          split
          · rename_i here
            rw [if_pos here] at fails
            exact not_served_readFrame available (ready.first uid (burst :: line)) fails octets
          · rename_i there
            rw [if_neg there] at fails
            by_cases short : burst.length < 256
            · have still := (ready.reset.writes (uid :: burst)
                (by rw [List.length_nil, List.length_cons]; omega)).ready
              exact ih still fun serves => fails ⟨short, serves⟩
            · -- the stream has outgrown the array
              have long : 256 < ([] : List UInt8).length + (uid :: burst).length := by
                rw [List.length_nil, List.length_cons]
                omega
              have stuck := ready.reset.floods long
              intro served
              have moved := (receive_stuck addressed available stuck line).1.moved
              rw [served.attached] at moved
              cases moved

end Calls

section Ports

/-- What a port makes of one call: the octets that arrive before a read comes up short, after how many of them the loop
over the octets for other units sees a pause, and how many it throws away when the transport clears its input. -/
structure PortCall where
  arrived : List UInt8
  pauses : List Nat
  available : Line → Nat

def cut : List Nat → List UInt8 → Line
  | [], octets => [octets]
  | count :: pauses, octets => octets.take count :: cut pauses (octets.drop count)

namespace PortCall

variable (addressed : UInt8 → Bool)

/-- Behind what was left by the call before it. -/
def octets (call : PortCall) (receiver : Receiver) : List UInt8 := receiver.line.flatten ++ call.arrived

def line (call : PortCall) (receiver : Receiver) : Line := cut call.pauses (call.octets receiver)

def read (call : PortCall) (receiver : Receiver) :
    Except Throwable (Option (ModbusMessage ModbusRequest)) × Receiver :=
  readRequestIn addressed call.available (receiver.on (call.line receiver))

end PortCall

variable {addressed : UInt8 → Bool} {receiver : Receiver}

def session (addressed : UInt8 → Bool) (receiver : Receiver) (calls : List PortCall) : Receiver :=
  calls.foldl (fun receiver call => (call.read addressed receiver).2) receiver

/-- No call of a run is stopped by its octets. -/
def ServesAll (addressed : UInt8 → Bool) (receiver : Receiver) (calls : List PortCall) : Prop :=
  ∀ earlier call later, calls = earlier ++ call :: later →
    Served (call.octets (session addressed receiver earlier)) (call.read addressed (session addressed receiver earlier))

/-- No call of a run comes upon octets that are too many for the array, or fewer than they announce. -/
def CallsServe (addressed : UInt8 → Bool) (receiver : Receiver) (calls : List PortCall) : Prop :=
  ∀ earlier call later, calls = earlier ++ call :: later →
    LineServes addressed (call.line (session addressed receiver earlier))

theorem flatten_cut (pauses : List Nat) (octets : List UInt8) : (cut pauses octets).flatten = octets := by
  induction pauses generalizing octets with
  | nil => exact List.flatten_singleton ..
  | cons count pauses ih => rw [cut, List.flatten_cons, ih, List.take_append_drop]

theorem served_read (call : PortCall) (ready : Ready receiver) (serves : LineServes addressed (call.line receiver)) :
    Served (call.octets receiver) (call.read addressed receiver) ∧ Ready (call.read addressed receiver).2 := by
  have served := served_receive addressed call.available ready serves
  rw [PortCall.line, flatten_cut] at served
  rw [PortCall.read, readRequestIn_on]
  exact served

theorem not_served_read (call : PortCall) (ready : Ready receiver)
    (fails : ¬ LineServes addressed (call.line receiver)) :
    ¬ Served (call.octets receiver) (call.read addressed receiver) := by
  rw [PortCall.read, readRequestIn_on]
  exact not_served_receive addressed call.available ready fails _

theorem forall_splits_cons {each : List PortCall → PortCall → Prop} {call : PortCall} {calls : List PortCall} :
    (∀ earlier other later, call :: calls = earlier ++ other :: later → each earlier other) ↔
      each [] call ∧ ∀ earlier other later, calls = earlier ++ other :: later → each (call :: earlier) other := by
  constructor
  · intro all
    exact ⟨all [] call calls rfl, fun earlier other later split => all (call :: earlier) other later (by rw [split]; rfl)⟩
  · rintro ⟨first, others⟩ earlier other later split
    cases earlier with
    | nil =>
        cases split
        exact first
    | cons _ earlier =>
        cases split
        exact others earlier other later rfl

/-- The run lemma, from any receiver that is still at its array. -/
theorem servesAll_iff_of_ready (ready : Ready receiver) (calls : List PortCall) :
    ServesAll addressed receiver calls ↔ CallsServe addressed receiver calls := by
  induction calls generalizing receiver with
  | nil =>
      refine iff_of_true ?_ ?_
      · intro earlier call later split
        simp at split
      · intro earlier call later split
        simp at split
  | cons call calls ih =>
      unfold ServesAll CallsServe
      rw [forall_splits_cons, forall_splits_cons]
      -- behind a call that serves the receiver is at its array again
      by_cases serves : LineServes addressed (call.line receiver)
      · obtain ⟨served, still⟩ := served_read call ready serves
        exact and_congr (iff_of_true served serves) (ih still)
      · refine iff_of_false ?_ ?_
        · exact fun all => not_served_read call ready serves all.1
        · exact fun all => serves all.1

/-- In no run is a call stopped, or the array lost, if and only if the octets of every call keep to the array and to
what they announce. -/
theorem servesAll_iff (addressed : UInt8 → Bool) (calls : List PortCall) :
    ServesAll addressed (.fresh []) calls ↔ CallsServe addressed (.fresh []) calls :=
  servesAll_iff_of_ready (ready_fresh []) calls

section Samples

def manyRegisters : List UInt8 := [1, 16, 0, 0, 0, 2, 2, 0, 7, 0xE7, 0xD6]

theorem manyRegisters_crc : bitwiseCrc manyRegisters = 0#16 :=
  (bitwiseCrc_eq_zero_iff [1, 16, 0, 0, 0, 2, 2, 0, 7] 0xE7 0xD6).mpr (by decide)

theorem manyRegisters_past : RunsPast .registers [0, 0, 0, 2, 2, 0, 7] := by
  constructor
  · decide
  · decide

theorem not_servesAll_manyRegisters : ¬ ServesAll (· == 1) (.fresh []) [⟨manyRegisters, [], fun _ => 0⟩] := by
  have fails : ¬ LineServes (· == 1) [manyRegisters] := by
    intro serves
    have frame : FrameServes 1 (manyRegisters.drop 1) := serves
    exact (frame 9 rfl).2 ⟨manyRegisters_crc, .inl ⟨rfl, manyRegisters_past⟩⟩
  intro all
  exact not_served_read _ (ready_fresh []) fails (all [] _ [] rfl)

theorem not_servesAll_longBurst :
    ¬ ServesAll (· == 1) (.fresh []) [⟨9 :: List.replicate 256 0, [], fun _ => 0⟩] := by
  have fails : ¬ LineServes (· == 1) [9 :: List.replicate 256 0] := by
    intro serves
    have short : (List.replicate 256 (0 : UInt8)).length < 256 := serves.1
    rw [List.length_replicate] at short
    omega
  intro all
  exact not_served_read _ (ready_fresh []) fails (all [] _ [] rfl)

/-- The first ends the listener, behind the second the array is another one. -/
theorem not_servesAll : ¬ ServesAll (· == 1) (.fresh []) [⟨manyRegisters, [], fun _ => 0⟩] ∧
    ¬ ServesAll (· == 1) (.fresh []) [⟨9 :: List.replicate 256 0, [], fun _ => 0⟩] :=
  ⟨not_servesAll_manyRegisters, not_servesAll_longBurst⟩

end Samples

end Ports

end ModbusRTUTransport

end EtherNetIP.Modbus
