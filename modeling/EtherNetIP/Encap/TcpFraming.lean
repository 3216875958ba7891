import Mathlib.Data.PNat.Basic
import EtherNetIP.Library.Machine
import EtherNetIP.Encap.Encap
import EtherNetIP.Encap.PacketAcceptance

/-! How packets are cut out of a TCP stream.

A call reads four octets, takes the length of the packet from them and reads
the rest; a packet that does not fit the buffer is read away in pieces. How
many octets each recv returns is up to the system: it may be fewer than those
asked for, and the first recv is not asked again when it was.
-/

set_option autoImplicit false

namespace EtherNetIP

open Library

variable {config : Configuration}

/-- What a call of recv comes to. The count is cut to the octets asked for and to those that are there. -/
inductive RecvResult where
  | received (count : ℕ+)
  | closed
  | wouldBlock
  | failed

inductive RecvFailure where
  | waiting
  | closed
  | wouldBlock
  | failed
  deriving DecidableEq

/-- The octets received and those behind them. A recv at the end of the stream waits. -/
def recv (size : Nat) (incoming : List CipOctet) : RecvResult → Except RecvFailure (List CipOctet × List CipOctet)
  | .received count =>
      if incoming = [] then .error .waiting
      else .ok (incoming.take (min size count), incoming.drop (min size count))
  | .closed => .error .closed
  | .wouldBlock => .error .wouldBlock
  | .failed => .error .failed

inductive TcpOutcome where
  | complete (received : Received)
  | dropped
  | fragmented
  | interrupted (dropping : Bool) (failure : RecvFailure)

structure TcpReading where
  outcome : TcpOutcome
  incoming : List CipOctet

def dropPacket : List RecvResult → UInt64 → Nat → List CipOctet → TcpReading
  | [], _, _, incoming => ⟨.interrupted true .waiting, incoming⟩
  | result :: results, dataSize, dataSent, incoming =>
      match recv dataSent incoming result with
      | .error failure => ⟨.interrupted true failure, incoming⟩
      | .ok (taken, incoming) =>
          let dataSize := dataSize - UInt64.ofNat taken.length
          let dataSent :=
            if dataSize < UInt64.ofNat PC_OPENER_ETHERNET_BUFFER_SIZE ∧ dataSize ≠ 0 then dataSize.toNat else dataSent
          if 0 < dataSize then dropPacket results dataSize dataSent incoming else ⟨.dropped, incoming⟩

/-- The cleared buffer with the octets of both reads in it. The second read goes behind the place of four octets. -/
def incomingMessage (head body : List CipOctet) : Received where
  buffer := head ++ List.replicate (4 - head.length) 0 ++ body ++
    List.replicate (PC_OPENER_ETHERNET_BUFFER_SIZE - 4 - body.length) 0
  length := body.length + 4
  within := by
    simp only [List.length_append, List.length_replicate]
    omega

def remainingSize (head : List CipOctet) : UInt64 :=
  (uintOf (head.drop 2)).toUInt64 + UInt64.ofNat ENCAPSULATION_HEADER_LENGTH - 4

def readTcpPacket (incoming : List CipOctet) : List RecvResult → TcpReading
  | [] => ⟨.interrupted false .waiting, incoming⟩
  | first :: results =>
      match recv 4 incoming first with
      | .error failure => ⟨.interrupted false failure, incoming⟩
      | .ok (head, incoming) =>
          let dataSize := remainingSize head
          if UInt64.ofNat (PC_OPENER_ETHERNET_BUFFER_SIZE - 4) < dataSize then
            dropPacket results dataSize PC_OPENER_ETHERNET_BUFFER_SIZE incoming
          else
            match results with
            | [] => ⟨.interrupted false .waiting, incoming⟩
            | second :: _ =>
                match recv dataSize.toNat incoming second with
                | .error failure => ⟨.interrupted false failure, incoming⟩
                | .ok (body, incoming) =>
                    if body.length = dataSize.toNat then ⟨.complete (incomingMessage head body), incoming⟩
                    else ⟨.fragmented, incoming⟩

/-- What the call returns; none while it waits for octets. -/
def TcpReading.status (reading : TcpReading) : Option EipStatus :=
  match reading.outcome with
  | .complete _ | .dropped | .interrupted _ .wouldBlock => some .ok
  | .fragmented | .interrupted _ .closed | .interrupted _ .failed => some .error
  | .interrupted _ .waiting => none

namespace Stack

/-- The timer is looked up before the packet is handled, which may have cleared it since. -/
def socketTimerSetLastUpdate (stack : Stack config) (timer : Option Nat) : Stack config :=
  { stack with
    timestamps := match timer with
      | none => stack.timestamps
      | some index => stack.timestamps.modify index fun timer => { timer with lastUpdate := stack.actualTime } }

def handleDataOnTcpSocket (surroundings : Surroundings) (socket : Int) (stack : Stack config) (reading : TcpReading) :
    Except Fault (Option EipStatus × Option EnipMessage × Stack config) :=
  let timer := stack.timestamps.findIdx? (·.socket == socket)
  match reading.outcome with
  | .interrupted dropping .closed => do
      let stack ←
        -- while a packet is dropped only the timer goes, and the session stays
        if dropping then stack.removeSocketTimerFromList socket else stack.handleDataOnClosedTcpSocket socket
      return (some .error, none, stack)
  | .interrupted _ .wouldBlock => .ok (some .ok, none, stack)
  | .interrupted _ .failed | .fragmented => .ok (some .error, none, stack)
  | .interrupted _ .waiting => .ok (none, none, stack)
  | .dropped => .ok (some .ok, none, stack.socketTimerSetLastUpdate timer)
  | .complete received => do
      let (_, answer) ← stack.handleReceivedExplictTcpData surroundings socket received
      let message ← answer.message
      let stack := answer.stack.socketTimerSetLastUpdate timer
      return (some .ok, if answer.returnValue = .okSend then some message else none, stack)

theorem handleDataOnTcpSocket_status {surroundings : Surroundings} {socket : Int} {stack after : Stack config}
    {reading : TcpReading} {status : Option EipStatus} {message : Option EnipMessage}
    (done : stack.handleDataOnTcpSocket surroundings socket reading = .ok (status, message, after)) :
    status = reading.status := by
  unfold handleDataOnTcpSocket at done
  unfold TcpReading.status
  rcases reading with ⟨outcome, incoming⟩
  cases outcome with
  | complete received =>
      obtain ⟨_, _, answered⟩ := bind_eq_ok.mp done
      obtain ⟨_, _, finish⟩ := bind_eq_ok.mp answered
      cases finish
      rfl
  | dropped | fragmented =>
      cases done
      rfl
  | interrupted dropping failure =>
      cases failure with
      | closed =>
          cases dropping with
          | true | false =>
              obtain ⟨_, _, finish⟩ := bind_eq_ok.mp done
              cases finish
              rfl
      | waiting | wouldBlock | failed =>
          cases done
          rfl

end Stack

structure TcpPacket where
  octets : List CipOctet
  whole : octets.length = ENCAPSULATION_HEADER_LENGTH + (uintOf (octets.drop 2)).toNat

def streamOf (packets : List TcpPacket) : List CipOctet := packets.flatMap (·.octets)

/-- What a call should make of the packet in front of it: no octet behind it is touched, a call that succeeds has
taken it whole and hands it on if it fits the buffer, and with enough octets the call returns. -/
structure Frames (packet : TcpPacket) (behind : List CipOctet) (calls : Nat) (reading : TcpReading) : Prop where
  within : ∃ left, reading.incoming = left ++ behind
  taken : reading.status = some .ok → reading.incoming = behind
  handed : ∀ received, reading.outcome = .complete received → packet.octets.length ≤ PC_OPENER_ETHERNET_BUFFER_SIZE ∧
    received.buffer.take received.length = packet.octets
  dropped : reading.outcome = .dropped → PC_OPENER_ETHERNET_BUFFER_SIZE < packet.octets.length
  returns : packet.octets.length ≤ calls → reading.status ≠ none

section Dropping

variable {counts : List ℕ+} {behind left incoming : List CipOctet} {count : ℕ+}

theorem recv_received (more : incoming ≠ []) (size : Nat) (count : ℕ+) :
    recv size incoming (.received count) =
      .ok (incoming.take (min size count), incoming.drop (min size count)) := by
  rw [recv, if_neg more]

theorem dropPacket_suffix (counts : List ℕ+) (dataSize : UInt64) (dataSent : Nat) (incoming : List CipOctet) :
    (dropPacket (counts.map .received) dataSize dataSent incoming).incoming.length ≤ incoming.length := by
  induction counts generalizing dataSize dataSent incoming with
  | nil => exact le_refl _
  | cons count counts ih =>
      rw [List.map_cons, dropPacket]
      by_cases ended : incoming = []
      · rw [recv, if_pos ended]
      · rw [recv_received ended]
        have shorter : (incoming.drop (min dataSent count)).length ≤ incoming.length := by
          rw [List.length_drop]
          omega
        dsimp only
        split
        · exact (ih _ _ _).trans shorter
        · exact shorter

theorem dropPacket_shortens (count : ℕ+) (counts : List ℕ+) (dataSize : UInt64) (dataSent : Nat)
    (more : incoming ≠ []) :
    (dropPacket ((count :: counts).map .received) dataSize dataSent incoming).incoming.length ≤
      incoming.length - min dataSent count := by
  rw [List.map_cons, dropPacket, recv_received more, ← List.length_drop]
  dsimp only
  split
  · exact dropPacket_suffix _ _ _ _
  · exact le_refl _

/-- What the loop comes to: all that was left of the packet is read away, or the octets to read run out before. -/
structure Drops (left behind : List CipOctet) (calls : Nat) (reading : TcpReading) : Prop where
  incoming : ∃ later, reading.incoming = later ++ behind
  outcome : reading.outcome = .dropped ∧ reading.incoming = behind ∨
    reading.outcome = .interrupted true .waiting ∧ calls < left.length

def StaysWithin (size : Nat) (left behind : List CipOctet) : Prop := size ≤ left.length ∨ behind = []

theorem StaysWithin.take {size : Nat} (stays : StaysWithin size left behind) :
    (left ++ behind).take size = left.take size := by
  rw [List.take_append]
  rcases stays with within | ended
  · rw [Nat.sub_eq_zero_of_le within, List.take_zero, List.append_nil]
  · rw [ended, List.take_nil, List.append_nil]

theorem StaysWithin.drop {size : Nat} (stays : StaysWithin size left behind) :
    (left ++ behind).drop size = left.drop size ++ behind := by
  rw [List.drop_append]
  rcases stays with within | ended
  · rw [Nat.sub_eq_zero_of_le within, List.drop_zero]
  · rw [ended, List.drop_nil]

/-- The request size follows what is left once that is less than the buffer. -/
structure Requests (dataSize : UInt64) (dataSent : Nat) (left : List CipOctet) : Prop where
  size : dataSize.toNat = left.length
  something : 0 < dataSent
  fits : dataSent ≤ left.length
  buffer : dataSent ≤ PC_OPENER_ETHERNET_BUFFER_SIZE

theorem sub_taken {dataSize : UInt64} (size : dataSize.toNat = left.length) {count : Nat} (within : count ≤ left.length) :
    (dataSize - UInt64.ofNat count).toNat = left.length - count := by
  have bound := dataSize.toNat_lt
  have counted : (UInt64.ofNat count).toNat = count := by
    rw [UInt64.toNat_ofNat']
    exact Nat.mod_eq_of_lt (by omega)
  rw [UInt64.toNat_sub_of_le _ _ (by rw [UInt64.le_iff_toNat_le, counted]; omega), counted, size]

/-- One round: the packet is read away, or the loop goes on with a request for no more than is left of it. -/
theorem Drops.round {dataSize : UInt64} {dataSent : Nat} (size : dataSize.toNat = left.length) (more : left ≠ [])
    (something : 0 < dataSent) (buffer : dataSent ≤ PC_OPENER_ETHERNET_BUFFER_SIZE)
    (stays : StaysWithin (min dataSent count) left behind)
    (later : ∀ lessened requested, Requests lessened requested (left.drop (min dataSent count)) →
      Drops (left.drop (min dataSent count)) behind counts.length
        (dropPacket (counts.map .received) lessened requested (left.drop (min dataSent count) ++ behind))) :
    Drops left behind (counts.length + 1)
      (dropPacket ((count :: counts).map .received) dataSize dataSent (left ++ behind)) := by
  have asked : 0 < min dataSent (count : Nat) := lt_min something count.pos
  have bounded : min dataSent (count : Nat) ≤ PC_OPENER_ETHERNET_BUFFER_SIZE := (min_le_left _ _).trans buffer
  rw [List.map_cons, dropPacket, recv_received (by simp [more])]
  dsimp only
  rw [stays.take, stays.drop]
  have remaining : (dataSize - UInt64.ofNat (left.take (min dataSent count)).length).toNat =
      (left.drop (min dataSent count)).length := by
    rw [sub_taken size (List.length_take_le' _ _), List.length_drop, List.length_take]
    omega
  have shorter : (left.drop (min dataSent count)).length < left.length := by
    have := List.length_pos_iff.mpr more
    rw [List.length_drop]
    omega
  generalize dataSize - UInt64.ofNat (left.take (min dataSent count)).length = lessened at remaining ⊢
  by_cases done : left.drop (min dataSent count) = []
  · rw [done, List.length_nil] at remaining
    have zero : lessened = 0 := UInt64.toNat_inj.mp remaining
    rw [if_neg (by rw [zero]; decide), done]
    exact ⟨⟨[], rfl⟩, .inl ⟨rfl, rfl⟩⟩
  · have positive := List.length_pos_iff.mpr done
    rw [if_pos (by rw [UInt64.lt_iff_toNat_lt, remaining]; exact positive)]
    have nonzero : lessened ≠ 0 := by
      intro zero
      rw [zero] at remaining
      exact absurd remaining positive.ne
    have small : lessened < UInt64.ofNat PC_OPENER_ETHERNET_BUFFER_SIZE ↔
        (left.drop (min dataSent count)).length < PC_OPENER_ETHERNET_BUFFER_SIZE := by
      rw [UInt64.lt_iff_toNat_lt, remaining]
      rfl
    have goesOn {requested : Nat} (requests : Requests lessened requested (left.drop (min dataSent count))) :
        Drops left behind (counts.length + 1)
          (dropPacket (counts.map .received) lessened requested (left.drop (min dataSent count) ++ behind)) := by
      obtain ⟨incoming, outcome⟩ := later lessened requested requests
      exact ⟨incoming, outcome.imp id fun waits => ⟨waits.1, by omega⟩⟩
    -- the last request is cut to what is left, so it takes nothing of the next packet
    by_cases last : (left.drop (min dataSent count)).length < PC_OPENER_ETHERNET_BUFFER_SIZE
    · rw [if_pos ⟨small.mpr last, nonzero⟩]
      exact goesOn ⟨remaining, remaining ▸ positive, remaining.le, remaining ▸ last.le⟩
    · rw [if_neg fun both => last (small.mp both.1)]
      exact goesOn ⟨remaining, something, buffer.trans (not_lt.mp last), buffer⟩

theorem dropPacket_drops {dataSize : UInt64} {dataSent : Nat} (requests : Requests dataSize dataSent left)
    (counts : List ℕ+) :
    Drops left behind counts.length (dropPacket (counts.map .received) dataSize dataSent (left ++ behind)) := by
  induction counts generalizing left dataSize dataSent with
  | nil =>
      exact ⟨⟨left, rfl⟩, .inr ⟨rfl, lt_of_lt_of_le requests.something requests.fits⟩⟩
  | cons count counts ih =>
      have more : left ≠ [] := by
        rintro rfl
        exact absurd requests.fits (not_le.mpr requests.something)
      exact Drops.round requests.size more requests.something requests.buffer
        (.inl ((min_le_left _ _).trans requests.fits)) fun _ _ following => ih following

end Dropping

section Calls

variable {packet : TcpPacket} {behind : List CipOctet}

/-- With a packet in front: the first recv returns the four octets it asks for, or the second fewer than are asked
for then; and the second does not go past the end of a packet that is too large for the buffer. -/
def ReadsEnough (incoming : List CipOctet) : List ℕ+ → Prop
  | first :: second :: _ =>
      let packetLength := ENCAPSULATION_HEADER_LENGTH + (uintOf (incoming.drop 2)).toNat
      packetLength ≤ incoming.length →
        ((first : Nat) < 4 → (second : Nat) < (remainingSize (incoming.take first)).toNat) ∧
          (4 ≤ (first : Nat) → PC_OPENER_ETHERNET_BUFFER_SIZE < packetLength → packetLength < incoming.length →
            min PC_OPENER_ETHERNET_BUFFER_SIZE (second : Nat) ≤ packetLength - 4)
  | _ => True

instance (incoming : List CipOctet) (counts : List ℕ+) : Decidable (ReadsEnough incoming counts) :=
  match counts with
  | _ :: _ :: _ => inferInstanceAs (Decidable (_ → (_ → _) ∧ (_ → _)))
  | [] | [_] => inferInstanceAs (Decidable True)

theorem remainingSize_toNat (head : List CipOctet) :
    (remainingSize head).toNat = 20 + (uintOf (head.drop 2)).toNat := by
  have small := (uintOf (head.drop 2)).toNat_lt
  have header : (4 : UInt64) ≤ (uintOf (head.drop 2)).toUInt64 + UInt64.ofNat ENCAPSULATION_HEADER_LENGTH := by
    rw [UInt64.le_iff_toNat_le, UInt64.toNat_add, UInt16.toNat_toUInt64]
    change 4 ≤ ((uintOf (head.drop 2)).toNat + 24) % 2 ^ 64
    omega
  rw [remainingSize, UInt64.toNat_sub_of_le _ _ header, UInt64.toNat_add, UInt16.toNat_toUInt64]
  change ((uintOf (head.drop 2)).toNat + 24) % 2 ^ 64 - 4 = _
  omega

theorem remainingSize_whole (packet : TcpPacket) :
    (remainingSize (packet.octets.take 4)).toNat = packet.octets.length - 4 := by
  have same : uintOf ((packet.octets.take 4).drop 2) = uintOf (packet.octets.drop 2) :=
    uintOf_drop_congr (by rw [List.take_take]; rfl : (packet.octets.take 4).take 4 = packet.octets.take 4) le_rfl
  rw [remainingSize_toNat, same, packet.whole]
  change _ = 24 + _ - 4
  omega

theorem uintOf_cut (octets : List CipOctet) {count : Nat} (cut : count ≤ 1) :
    (uintOf (octets.take count)).toNat ≤ (uintOf octets).toNat ∧ (uintOf (octets.take count)).toNat < 256 := by
  obtain _ | ⟨low, rest⟩ := octets
  · rw [List.take_nil]
    exact ⟨le_refl _, by decide⟩
  · have alone : (uintOf [low]).toNat = low.toNat := by
      change (low.toUInt16 ||| (0 : UInt8).toUInt16 <<< 8).toNat = _
      rw [UInt16.toNat_or, UInt8.toNat_toUInt16]
      exact Nat.or_zero _
    obtain rfl | rfl : count = 0 ∨ count = 1 := by omega
    · rw [List.take_zero]
      exact ⟨Nat.zero_le _, by decide⟩
    · rw [List.take_succ_cons, List.take_zero, alone]
      refine ⟨?_, low.toNat_lt⟩
      rw [uintOf, UInt16.toNat_or]
      exact Nat.left_le_or

/-- The length taken from fewer than four octets is the low octet of the length at most. -/
theorem remainingSize_short (packet : TcpPacket) {count : Nat} (short : count < 4) :
    count + (remainingSize (packet.octets.take count)).toNat < packet.octets.length ∧
      (remainingSize (packet.octets.take count)).toNat < 276 := by
  obtain ⟨below, octet⟩ := uintOf_cut (packet.octets.drop 2) (show count - 2 ≤ 1 by omega)
  rw [remainingSize_toNat, List.drop_take, packet.whole]
  change _ < 24 + _ ∧ _
  omega

theorem TcpPacket.header_le (packet : TcpPacket) : 24 ≤ packet.octets.length :=
  packet.whole.symm ▸ Nat.le_add_right _ _

theorem TcpPacket.behind_head (packet : TcpPacket) {count : Nat} (head : count ≤ 4) (behind : List CipOctet) :
    packet.octets.drop count ++ behind ≠ [] := by
  have header := packet.header_le
  have more : 0 < (packet.octets.drop count).length := by
    rw [List.length_drop]
    omega
  exact List.append_ne_nil_of_left_ne_nil (List.length_pos_iff.mp more) behind

theorem readTcpPacket_fits {head : Nat} {first second : ℕ+} (counts : List ℕ+) (read : min 4 (first : Nat) = head)
    {size : Nat} (asked : (remainingSize (packet.octets.take head)).toNat = size)
    (small : size ≤ PC_OPENER_ETHERNET_BUFFER_SIZE - 4) (room : head + size ≤ packet.octets.length) :
    readTcpPacket (packet.octets ++ behind) ((first :: second :: counts).map .received) =
      ⟨if size ≤ second then
          .complete (incomingMessage (packet.octets.take head) ((packet.octets.drop head).take (min size second)))
        else .fragmented,
        packet.octets.drop (head + min size second) ++ behind⟩ := by
  have four : head ≤ 4 := read ▸ min_le_left _ _
  have start : packet.octets ++ behind ≠ [] := packet.behind_head (Nat.zero_le 4) behind
  have fits : ¬ UInt64.ofNat (PC_OPENER_ETHERNET_BUFFER_SIZE - 4) < remainingSize (packet.octets.take head) := by
    rw [UInt64.lt_iff_toNat_lt, asked, not_lt]
    exact small
  have body : min size (second : Nat) ≤ (packet.octets.drop head).length := by
    rw [List.length_drop]
    omega
  rw [List.map_cons, List.map_cons, readTcpPacket, recv_received start]
  dsimp only
  rw [read, List.take_append_of_le_length (by omega), List.drop_append_of_le_length (by omega), if_neg fits, asked,
    recv_received (packet.behind_head four behind)]
  dsimp only
  rw [List.take_append_of_le_length body, List.drop_append_of_le_length body, List.drop_drop, List.length_take_of_le body]
  by_cases all : size ≤ second
  · rw [if_pos (min_eq_left all), if_pos all]
  · rw [if_neg (fun same => all (min_eq_left_iff.mp same)), if_neg all]

theorem incomingMessage_octets {head body : List CipOctet} (four : head.length = 4) :
    (incomingMessage head body).buffer.take (incomingMessage head body).length = head ++ body := by
  change (head ++ List.replicate (4 - head.length) 0 ++ body ++ _).take (body.length + 4) = _
  rw [four, Nat.sub_self, List.replicate_zero, List.append_nil]
  exact List.take_left' (by rw [List.length_append, four, Nat.add_comm])

theorem Frames.of_waiting {left : List CipOctet} {calls : Nat} {dropping : Bool} (few : calls < packet.octets.length) :
    Frames packet behind calls ⟨.interrupted dropping .waiting, left ++ behind⟩ where
  within := ⟨left, rfl⟩
  taken := fun returns => by cases returns
  handed := fun _ completes => by cases completes
  dropped := fun drops => by cases drops
  returns := fun enough => absurd enough (not_le.mpr few)

theorem Frames.of_fragmented {calls : Nat} (left : List CipOctet) :
    Frames packet behind calls ⟨.fragmented, left ++ behind⟩ where
  within := ⟨left, rfl⟩
  taken := fun returns => by cases returns
  handed := fun _ completes => by cases completes
  dropped := fun drops => by cases drops
  returns := fun _ waits => by cases waits

theorem Frames.of_drops {left : List CipOctet} {calls behindHead : Nat} {reading : TcpReading}
    (drops : Drops left behind behindHead reading) (large : PC_OPENER_ETHERNET_BUFFER_SIZE < packet.octets.length)
    (few : behindHead < left.length → calls < packet.octets.length) : Frames packet behind calls reading := by
  obtain ⟨incoming, outcome⟩ := drops
  obtain ⟨ends, now⟩ := reading
  dsimp only at incoming outcome
  rcases outcome with ⟨rfl, rfl⟩ | ⟨rfl, waits⟩
  · constructor
    · exact incoming
    · exact fun _ => rfl
    · exact fun _ completes => by cases completes
    · exact fun _ => large
    · exact fun _ waits => by cases waits
  · obtain ⟨later, rfl⟩ := incoming
    exact .of_waiting (few waits)

/-- A first read of fewer than four octets: the packet's end is not met when the second succeeds. -/
theorem frames_short {first second : ℕ+} (counts : List ℕ+) (short : (first : Nat) < 4) :
    Frames packet behind (counts.length + 2)
        (readTcpPacket (packet.octets ++ behind) ((first :: second :: counts).map .received)) ↔
      (second : Nat) < (remainingSize (packet.octets.take first)).toNat := by
  obtain ⟨room, small⟩ := remainingSize_short packet short
  rw [readTcpPacket_fits counts (min_eq_right short.le) rfl (by change _ ≤ 508; omega) room.le]
  constructor
  · intro frames
    by_contra enough
    have behindOnly := frames.taken (by rw [if_pos (not_lt.mp enough)]; rfl)
    have length := congrArg List.length behindOnly
    rw [List.length_append, List.length_drop, min_eq_left (not_lt.mp enough)] at length
    omega
  · intro fewer
    rw [if_neg (not_le.mpr fewer)]
    exact .of_fragmented _

theorem frames_fits {first second : ℕ+} (counts : List ℕ+) (four : 4 ≤ (first : Nat))
    (fits : packet.octets.length ≤ PC_OPENER_ETHERNET_BUFFER_SIZE) :
    Frames packet behind (counts.length + 2)
      (readTcpPacket (packet.octets ++ behind) ((first :: second :: counts).map .received)) := by
  have header := packet.header_le
  rw [readTcpPacket_fits counts (min_eq_left four) (remainingSize_whole packet)
    (Nat.sub_le_sub_right fits 4) (by omega)]
  by_cases all : packet.octets.length - 4 ≤ second
  · have body : ((packet.octets.drop 4).length) ≤ packet.octets.length - 4 := by rw [List.length_drop]
    have past : packet.octets.drop (4 + (packet.octets.length - 4)) = [] := List.drop_of_length_le (by omega)
    rw [if_pos all, min_eq_left all, List.take_of_length_le body, past]
    constructor
    · exact ⟨[], rfl⟩
    · exact fun _ => rfl
    · intro received completes
      cases completes
      rw [incomingMessage_octets (List.length_take_of_le (by omega)), List.take_append_drop]
      exact ⟨fits, rfl⟩
    · exact fun drops => by cases drops
    · exact fun _ waits => by cases waits
  · rw [if_neg all]
    exact .of_fragmented _

theorem frames_large {first second : ℕ+} (counts : List ℕ+) (four : 4 ≤ (first : Nat))
    (large : PC_OPENER_ETHERNET_BUFFER_SIZE < packet.octets.length) :
    Frames packet behind (counts.length + 2)
        (readTcpPacket (packet.octets ++ behind) ((first :: second :: counts).map .received)) ↔
      StaysWithin (min PC_OPENER_ETHERNET_BUFFER_SIZE second) (packet.octets.drop 4) behind := by
  have start : packet.octets ++ behind ≠ [] := packet.behind_head (Nat.zero_le 4) behind
  have size : (remainingSize (packet.octets.take 4)).toNat = (packet.octets.drop 4).length := by
    rw [remainingSize_whole, List.length_drop]
  have drops : UInt64.ofNat (PC_OPENER_ETHERNET_BUFFER_SIZE - 4) < remainingSize (packet.octets.take 4) := by
    rw [UInt64.lt_iff_toNat_lt, size, List.length_drop]
    change 508 < _
    change 512 < _ at large
    omega
  have header := packet.header_le
  rw [List.map_cons, readTcpPacket, recv_received start]
  dsimp only
  rw [min_eq_left four, List.take_append_of_le_length (by omega), List.drop_append_of_le_length (by omega), if_pos drops]
  have more : packet.octets.drop 4 ≠ [] := List.ne_nil_of_length_pos (by rw [List.length_drop]; omega)
  constructor
  · intro frames
    by_contra beyond
    obtain ⟨past, followed⟩ := not_or.mp beyond
    obtain ⟨left, incoming⟩ := frames.within
    have shortened := dropPacket_shortens second counts (remainingSize (packet.octets.take 4))
      PC_OPENER_ETHERNET_BUFFER_SIZE (List.append_ne_nil_of_left_ne_nil more behind)
    have another := List.length_pos_iff.mpr followed
    rw [incoming, List.length_append, List.length_append] at shortened
    omega
  · intro stays
    have ends := Drops.round size more (by decide) le_rfl stays fun _ _ requests => dropPacket_drops requests counts
    refine .of_drops ends large fun few => ?_
    rw [List.length_drop] at few
    omega

theorem readsEnough_iff {first second : ℕ+} (counts : List ℕ+) :
    ReadsEnough (packet.octets ++ behind) (first :: second :: counts) ↔
      ((first : Nat) < 4 → (second : Nat) < (remainingSize (packet.octets.take first)).toNat) ∧
        (4 ≤ (first : Nat) → PC_OPENER_ETHERNET_BUFFER_SIZE < packet.octets.length →
          StaysWithin (min PC_OPENER_ETHERNET_BUFFER_SIZE second) (packet.octets.drop 4) behind) := by
  have header := packet.header_le
  have length : ENCAPSULATION_HEADER_LENGTH + (uintOf ((packet.octets ++ behind).drop 2)).toNat = packet.octets.length := by
    rw [uintOf_drop_append (by omega), packet.whole]
  have stays : StaysWithin (min PC_OPENER_ETHERNET_BUFFER_SIZE second) (packet.octets.drop 4) behind ↔
      (packet.octets.length < (packet.octets ++ behind).length →
        min PC_OPENER_ETHERNET_BUFFER_SIZE (second : Nat) ≤ packet.octets.length - 4) := by
    rw [StaysWithin, List.length_drop, List.length_append, ← List.length_eq_zero_iff]
    omega
  have front : packet.octets.length ≤ (packet.octets ++ behind).length := by
    rw [List.length_append]
    omega
  unfold ReadsEnough
  dsimp only
  rw [length, stays, forall_prop_of_true front]
  apply and_congr_left'
  refine imp_congr_right fun short => ?_
  rw [List.take_append_of_le_length (by omega)]

/-- A call frames the packet in front of it exactly if its first two reads return enough and not too much. -/
theorem frames_iff (packet : TcpPacket) (behind : List CipOctet) (counts : List ℕ+) :
    Frames packet behind counts.length (readTcpPacket (packet.octets ++ behind) (counts.map .received)) ↔
      ReadsEnough (packet.octets ++ behind) counts := by
  have header := packet.header_le
  match counts with
  | [] => exact ⟨fun _ => trivial, fun _ => .of_waiting (lt_of_lt_of_le (by decide) header)⟩
  | [first] =>
      refine ⟨fun _ => trivial, fun _ => ?_⟩
      have start : packet.octets ++ behind ≠ [] := packet.behind_head (Nat.zero_le 4) behind
      have one : [first].length < packet.octets.length := lt_of_lt_of_le (Nat.lt_of_sub_eq_succ rfl) header
      rw [List.map_cons, readTcpPacket, recv_received start]
      dsimp only
      rw [List.drop_append_of_le_length (by omega)]
      split <;> exact .of_waiting one
  | first :: second :: counts =>
      rw [readsEnough_iff]
      by_cases short : (first : Nat) < 4
      · rw [List.length_cons, List.length_cons, frames_short counts short, forall_prop_of_true short]
        exact ⟨fun fewer => ⟨fewer, fun four => absurd short (not_lt.mpr four)⟩, fun both => both.1⟩
      · have four := not_lt.mp short
        by_cases large : PC_OPENER_ETHERNET_BUFFER_SIZE < packet.octets.length
        · rw [List.length_cons, List.length_cons, frames_large counts four large]
          exact ⟨fun stays => ⟨fun few => absurd few short, fun _ _ => stays⟩, fun both => both.2 four large⟩
        · refine ⟨fun _ => ⟨fun few => absurd few short, fun _ tooLarge => absurd tooLarge large⟩, fun _ => ?_⟩
          exact frames_fits counts four (not_lt.mp large)

end Calls

section Streams

def nextCall (incoming : List CipOctet) (counts : List ℕ+) : Except TcpReading (List CipOctet) :=
  let reading := readTcpPacket incoming (counts.map .received)
  if reading.status = some .ok then .ok reading.incoming else .error reading

/-- A call meets the packets no call has taken, and frames the first of them. -/
def FramesNext (packets : List TcpPacket) (incoming : List CipOctet) (counts : List ℕ+) : Prop :=
  incoming = streamOf packets ∧
    match packets with
    | [] => (readTcpPacket incoming (counts.map .received)).status = none
    | packet :: rest =>
        Frames packet (streamOf rest) counts.length (readTcpPacket incoming (counts.map .received))

theorem readTcpPacket_nil (counts : List ℕ+) : (readTcpPacket [] (counts.map .received)).status = none := by
  cases counts with
  | nil => rfl
  | cons count counts => rfl

theorem nextCall_eq_ok {incoming next : List CipOctet} {counts : List ℕ+} :
    nextCall incoming counts = .ok next ↔
      (readTcpPacket incoming (counts.map .received)).status = some .ok ∧
        (readTcpPacket incoming (counts.map .received)).incoming = next := by
  unfold nextCall
  dsimp only
  split
  · rename_i succeeds
    simp [succeeds]
  · rename_i fails
    simp [fails]

/-- Every call of a run meets the packets that are left and frames the first of them. -/
def FramesAll (packets : List TcpPacket) (incoming : List CipOctet) (calls : List (List ℕ+)) : Prop :=
  ∀ count counts left, calls[count]? = some counts → (calls.take count).foldlM nextCall incoming = .ok left →
    FramesNext (packets.drop count) left counts

theorem framesAll_cons {packets : List TcpPacket} {incoming : List CipOctet} {counts : List ℕ+}
    {calls : List (List ℕ+)} :
    FramesAll packets incoming (counts :: calls) ↔
      FramesNext packets incoming counts ∧
        ∀ next, nextCall incoming counts = .ok next → FramesAll (packets.drop 1) next calls := by
  constructor
  · intro all
    refine ⟨all 0 counts incoming rfl rfl, fun next done count later left call run => ?_⟩
    rw [List.drop_drop, Nat.add_comm]
    apply all (count + 1) later left call
    rw [List.take_succ_cons, List.foldlM_cons, done]
    exact run
  · rintro ⟨first, all⟩ count later left call run
    cases count with
    | zero =>
        cases call
        cases run
        exact first
    | succ count =>
        rw [List.take_succ_cons, List.foldlM_cons] at run
        obtain ⟨next, done, run⟩ := bind_eq_ok.mp run
        have framed := all next done count later left call run
        rw [List.drop_drop, Nat.add_comm] at framed
        exact framed

/-- The calls of a run frame the packets of the stream exactly if every call reads enough and not too much. -/
theorem packets_framed_iff (packets : List TcpPacket) (calls : List (List ℕ+)) :
    FramesAll packets (streamOf packets) calls ↔ Along nextCall ReadsEnough (streamOf packets) calls := by
  induction calls generalizing packets with
  | nil =>
      refine ⟨fun _ => trivial, fun _ count counts incoming call => ?_⟩
      rw [List.getElem?_nil] at call
      cases call
  | cons counts calls ih =>
      rw [framesAll_cons]
      cases packets with
      | nil =>
          have waits := readTcpPacket_nil counts
          have noCall (next : List CipOctet) : nextCall [] counts ≠ .ok next := by
            intro done
            cases waits.symm.trans (nextCall_eq_ok.mp done).1
          have enough : ReadsEnough [] counts := by
            unfold ReadsEnough
            split
            · exact fun front => absurd front (by decide)
            · trivial
          exact ⟨fun _ => ⟨enough, fun next done => absurd done (noCall next)⟩,
            fun _ => ⟨⟨rfl, waits⟩, fun next done => absurd done (noCall next)⟩⟩
      | cons packet packets =>
          have stream : streamOf (packet :: packets) = packet.octets ++ streamOf packets := rfl
          have frames : FramesNext (packet :: packets) (streamOf (packet :: packets)) counts ↔
              ReadsEnough (streamOf (packet :: packets)) counts := by
            rw [stream, ← frames_iff, FramesNext]
            exact and_iff_right stream.symm
          rw [Along, ← frames]
          refine and_congr_right fun framed => forall_congr' fun next => imp_congr_right fun done => ?_
          obtain ⟨succeeds, left⟩ := nextCall_eq_ok.mp done
          rw [← left, framed.2.taken succeeds]
          exact ih packets

def registerSessionPacket : TcpPacket where
  octets := [0x65, 0, 4, 0] ++ List.replicate 20 0 ++ [1, 0, 0, 0]
  whole := by decide

def packetOf513 : TcpPacket where
  octets := [0, 0, 0xE9, 1] ++ List.replicate 509 0
  whole := by decide +kernel

/-- After three octets of a packet the next 24 are taken for the rest of it, and one is left. A packet of 513 octets
is read away together with three octets of the next one. -/
theorem packets_misframed :
    ((readTcpPacket registerSessionPacket.octets [.received 3, .received 24]).status = some .ok ∧
      (readTcpPacket registerSessionPacket.octets [.received 3, .received 24]).incoming = [0] ∧
      ¬ FramesAll [registerSessionPacket] (streamOf [registerSessionPacket]) [[3, 24]]) ∧
    (readTcpPacket (streamOf [packetOf513, registerSessionPacket]) [.received 4, .received 512]).incoming =
        registerSessionPacket.octets.drop 3 ∧
      ¬ FramesAll [packetOf513, registerSessionPacket] (streamOf [packetOf513, registerSessionPacket]) [[4, 512]] := by
  refine ⟨⟨by decide +kernel, by decide +kernel, fun all => ?_⟩, by decide +kernel, fun all => ?_⟩
  · exact absurd ((frames_iff registerSessionPacket [] _).mp (all 0 _ _ rfl rfl).2) (by decide +kernel)
  · exact absurd ((frames_iff packetOf513 registerSessionPacket.octets _).mp (all 0 _ _ rfl rfl).2) (by decide +kernel)

end Streams

end EtherNetIP
