import EtherNetIP.Modbus.UsbReads
import EtherNetIP.Library.Machine

/-! The receive cache as a queue between the driver and the readers, over whole sessions.

What is read comes in the order of the deliveries. Closing the port leaves what is
cached, for the streams that are opened later, and a read whose bounds overflow may
take octets that it never hands on.
-/

set_option autoImplicit false

namespace EtherNetIP.Modbus

open EtherNetIP.Library

inductive Event where
  | opens
  | closes
  | setTimeouts (readMillis : Int)
  | read (b : Option (List UInt8)) (off len : Int32) (start : Int) (driver : Nat → Delivery)
  | readOne (one : UInt8) (start : Int) (driver : Nat → Delivery)

/-- The port with its history: the octets delivered and returned so far, the most octets that the cache had to hold,
and how many were delivered before the last close, and before the last close that the port was opened after. -/
structure Session where
  io : AndroidUsbSerialPortIo
  received : List UInt8
  returned : List UInt8
  high : Nat
  closedAt : Nat
  old : Nat

namespace Session

def new : Session := ⟨.new, [], [], 0, 0, 0⟩

def record (session : Session) (driver : Nat → Delivery) (ending : Ending) (octets : List UInt8) : Session :=
  { session with
    io := ending.reading.io
    received := session.received ++ delivered driver ending.reading.calls
    returned := session.returned ++ octets
    high := max session.high ending.reading.high }

def after (session : Session) : Event → Session
  | .opens => { session with io := session.io.open', old := session.closedAt }
  | .closes => { session with io := session.io.close, closedAt := session.received.length }
  | .setTimeouts readMillis => { session with io := session.io.setTimeouts readMillis }
  | .read b off len start driver =>
    let ending := session.io.read b off len start driver
    session.record driver ending (ending.octets off.toInt.toNat)
  | .readOne one start driver =>
    let ending := session.io.readOne one start driver
    session.record driver ending ending.value

def answer (session : Session) : Event → Option (Except Throwable Int)
  | .read b off len start driver => some (session.io.read b off len start driver).outcome
  | .readOne one start driver => some (session.io.readOne one start driver).outcome
  | _ => none

def step (session : Session) (event : Event) : Except Empty Session := .ok (session.after event)

structure Lossless (session : Session) : Prop where
  queue : session.returned ++ session.io.cached = session.received
  high : session.high ≤ 4096

/-- A read returns -1 only if nothing was delivered, and nothing is returned that was delivered before a close
with an open behind it. By the order of the queue, these are the octets before the old one. -/
structure Honest (session : Session) (event : Event) : Prop where
  none : session.answer event = some (.ok (-1)) →
    (session.after event).received = session.received ∧ (session.after event).returned = session.returned
  fresh : (session.after event).returned ≠ session.returned → session.old ≤ session.returned.length

/-- An open finds no more octets in the cache than the driver has delivered since the last close, and the bounds of
a read into an array do not overflow. -/
def Safe (session : Session) : Event → Prop
  | .opens => session.io.rxSize + session.closedAt ≤ session.received.length
  | .read (some _) off len _ _ => off.toInt + len.toInt < 2 ^ 31
  | _ => True

structure Sound (session : Session) : Prop extends Lossless session where
  closed : session.closedAt ≤ session.received.length
  fresh : session.old ≤ session.returned.length

variable {session : Session} {event : Event} {driver : Nat → Delivery} {ending : Ending} {octets : List UInt8}

theorem sound_new : new.Sound := ⟨⟨rfl, Nat.zero_le _⟩, Nat.zero_le _, Nat.zero_le _⟩

theorem Sound.record (sound : session.Sound) (conveys : Conveys session.io driver ending octets) :
    (session.record driver ending octets).Sound := by
  refine ⟨⟨?_, ?_⟩, ?_, ?_⟩
  · change (session.returned ++ octets) ++ ending.reading.io.cached = session.received ++ delivered driver _
    rw [List.append_assoc, conveys.queue, ← List.append_assoc, sound.queue]
  · have high := conveys.high
    have before := sound.high
    change max session.high ending.reading.high ≤ 4096
    omega
  · have closed := sound.closed
    change session.closedAt ≤ (session.received ++ delivered driver _).length
    rw [List.length_append]
    omega
  · have fresh := sound.fresh
    change session.old ≤ (session.returned ++ octets).length
    rw [List.length_append]
    omega

theorem record_none (conveys : Conveys session.io driver ending octets)
    (none : ending.outcome = .ok (-1)) : (session.record driver ending octets).received = session.received ∧
      (session.record driver ending octets).returned = session.returned := by
  obtain ⟨nothing, empty⟩ := conveys.none none
  have queue := conveys.queue
  rw [nothing, empty, List.nil_append] at queue
  have silent := (List.append_eq_nil_iff.mp queue.symm).2
  unfold Session.record
  rw [nothing, silent, List.append_nil, List.append_nil]
  exact ⟨rfl, rfl⟩

theorem read_conveys {b : Option (List UInt8)} {off len : Int32} {start : Int}
    (safe : session.Safe (.read b off len start driver)) :
    Conveys session.io driver (session.io.read b off len start driver)
      ((session.io.read b off len start driver).octets off.toInt.toNat) := by
  cases b with
  | none => exact AndroidUsbSerialPortIo.read_refused []
  | some b => exact session.io.read_conveys (.some b) start driver safe

theorem Sound.after (sound : session.Sound) (safe : session.Safe event) : (session.after event).Sound := by
  cases event with
  | opens =>
    refine ⟨⟨sound.queue, sound.high⟩, sound.closed, ?_⟩
    have lengths := congrArg List.length sound.queue
    rw [List.length_append, AndroidUsbSerialPortIo.length_cached] at lengths
    change session.io.rxSize + session.closedAt ≤ session.received.length at safe
    change session.closedAt ≤ session.returned.length
    omega
  | closes => exact ⟨⟨sound.queue, sound.high⟩, Nat.le_refl _, sound.fresh⟩
  | setTimeouts readMillis => exact ⟨⟨sound.queue, sound.high⟩, sound.closed, sound.fresh⟩
  | read b off len start driver => exact sound.record (read_conveys safe)
  | readOne one start driver => exact sound.record (session.io.readOne_conveys one start driver)

theorem Sound.honest (sound : session.Sound) (safe : session.Safe event) : session.Honest event := by
  refine ⟨fun none => ?_, fun _ => sound.fresh⟩
  cases event with
  | opens => cases none
  | closes => cases none
  | setTimeouts readMillis => cases none
  | read b off len start driver =>
    exact record_none (read_conveys safe) (Option.some.inj none)
  | readOne one start driver =>
    exact record_none (session.io.readOne_conveys one start driver) (Option.some.inj none)

/-- In every run of safe events, the cache is a queue in each state, and each event is honest. -/
theorem lossless_of_safe {events : List Event} (safe : Along step Safe new events) :
    (∀ count reached, (events.take count).foldlM step new = .ok reached → reached.Lossless) ∧
    Along step Honest new events := by
  have preserved (session : Session) (event : Event) (sound : session.Sound) (allowed : session.Safe event) :
      (session.after event).Sound := sound.after allowed
  constructor
  · intro count reached run
    have settles := @Along.settles Session Event Empty step Sound (fun _ => False) Safe preserved
      (events.take count) new sound_new (safe.take count)
    exact (settles.returns run).toLossless
  · refine safe.gives Sound (fun session event next sound allowed done => ?_)
      (fun session event sound allowed => sound.honest allowed) sound_new
    cases done
    exact sound.after allowed

theorem not_honest_of_stale (sound : session.Sound) (stale : ¬ session.Safe .opens) (one : UInt8) (start : Int)
    (driver : Nat → Delivery) : ¬ (session.after .opens).Honest (.readOne one start driver) := by
  intro honest
  have lengths := congrArg List.length sound.queue
  have closed := sound.closed
  rw [List.length_append, AndroidUsbSerialPortIo.length_cached] at lengths
  change ¬ session.io.rxSize + session.closedAt ≤ session.received.length at stale
  obtain ⟨value, rest, cached⟩ := List.exists_cons_of_length_pos
    (show 0 < session.io.cached.length by rw [AndroidUsbSerialPortIo.length_cached]; omega)
  obtain ⟨outcome, -, -⟩ := @AndroidUsbSerialPortIo.readOne_cached session.io one value rest start driver cached
  have returned : session.returned ++ (session.io.readOne one start driver).value ≠ session.returned := by
    rw [AndroidUsbSerialPortIo.value_of_outcome outcome]
    intro same
    have longer := congrArg List.length same
    rw [List.length_append, List.length_singleton] at longer
    omega
  have old := honest.fresh returned
  change session.closedAt ≤ session.returned.length at old
  omega

theorem not_lossless_of_overflow {value : UInt8} {b : List UInt8} {off len : Int32} {start : Int}
    (sound : session.Sound) (cached : session.io.cached = [value]) (first : 0 ≤ off.toInt)
    (overflow : 2 ^ 31 ≤ off.toInt + len.toInt) (last : b.length = off.toInt.toNat + 1) (long : 2 ≤ len.toInt)
    (some : 0 < (driver 0).tmp.length) : ¬ (session.after (.read (.some b) off len start driver)).Lossless := by
  intro lossless
  obtain ⟨reading, ended, left, calls⟩ :=
    @AndroidUsbSerialPortIo.read_overflows session.io value start driver b off len cached first overflow last long some
  have before := congrArg List.length sound.queue
  have queue := congrArg List.length lossless.queue
  unfold Session.after Session.record Ending.octets at queue
  dsimp only at queue
  rw [ended] at queue
  have once : delivered driver 1 = (driver 0).tmp := List.append_nil _
  rw [left, calls, once, List.append_nil, List.length_append, List.length_append] at queue
  rw [cached, List.length_append, List.length_singleton] at before
  omega

def oneTwo (call : Nat) : Delivery where
  tmp := if call = 0 then [1, 2] else []
  fits := by split <;> decide
  now := 0

/-- All that is delivered is read before the port is closed; then it is opened again. -/
def readTwice : List Event :=
  [.opens, .readOne 0 0 oneTwo, .read (some [0]) 0 1 0 oneTwo, .closes, .opens, .readOne 0 0 oneTwo]

theorem reading_lossless :
    (∀ count reached, (readTwice.take count).foldlM step new = .ok reached → reached.Lossless) ∧
    Along step Honest new readTwice := by
  let one := (new.after .opens).after (.readOne 0 0 oneTwo)
  let two := one.after (.read (some [0]) 0 1 0 oneTwo)
  have left : one.io.cached = [2] :=
    (@AndroidUsbSerialPortIo.readOne_refilled .new 0 1 [2] 0 oneTwo rfl rfl).2.1
  have empty : two.io.cached = [] := (@AndroidUsbSerialPortIo.readOne_cached one.io 0 2 [] 0 oneTwo left).2.1
  have size : two.io.rxSize = 0 := by
    rw [← AndroidUsbSerialPortIo.length_cached, empty]
    rfl
  have bounds : one.Safe (.read (some [0]) 0 1 0 oneTwo) := by
    change Int32.toInt 0 + Int32.toInt 1 < 2 ^ 31
    decide
  have again : (two.after .closes).Safe .opens := by
    change two.io.rxSize + two.received.length ≤ two.received.length
    omega
  apply lossless_of_safe
  refine ⟨Nat.le_refl 0, fun _ opened => ?_⟩
  cases opened
  refine ⟨trivial, fun _ first => ?_⟩
  cases first
  refine ⟨bounds, fun _ second => ?_⟩
  cases second
  refine ⟨trivial, fun _ closed => ?_⟩
  cases closed
  exact ⟨again, fun _ _ => ⟨trivial, fun _ _ => trivial⟩⟩

/-- The second octet is returned after the port is closed and opened again, and is lost by a read whose bounds
overflow. -/
theorem not_lossless_oneTwo :
    ¬ Along step Honest new [.opens, .readOne 0 0 oneTwo, .closes, .opens, .readOne 0 0 oneTwo] ∧
    ¬ (((new.after .opens).after (.readOne 0 0 oneTwo)).after
      (.read (some [0, 0]) 1 2147483647 0 oneTwo)).Lossless := by
  let first := new.after .opens
  let second := first.after (.readOne 0 0 oneTwo)
  have opened : first.Sound := sound_new.after (Nat.le_refl 0)
  have sound : second.Sound := @Sound.after first (.readOne 0 0 oneTwo) opened trivial
  have cached : second.io.cached = [2] :=
    (@AndroidUsbSerialPortIo.readOne_refilled .new 0 1 [2] 0 oneTwo rfl rfl).2.1
  constructor
  · intro honest
    have size : second.io.rxSize = 1 := by
      rw [← AndroidUsbSerialPortIo.length_cached, cached]
      rfl
    have stale : ¬ (second.after .closes).Safe .opens := by
      change ¬ second.io.rxSize + second.received.length ≤ second.received.length
      omega
    have behind := (((honest.2 _ rfl).2 _ rfl).2 _ rfl).2 _ rfl
    exact not_honest_of_stale (@Sound.after second .closes sound trivial) stale 0 0 oneTwo behind.1
  · exact not_lossless_of_overflow sound cached (by decide) (by decide) (by decide) (by decide) (by decide)

end Session

end EtherNetIP.Modbus
