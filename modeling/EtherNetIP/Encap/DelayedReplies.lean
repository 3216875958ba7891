import EtherNetIP.Library.DelaySlots
import EtherNetIP.Encap.AnsweredPackets
import EtherNetIP.SampleApplication

/-! Answers to broadcast requests for the identity.

A request that was broadcast is answered after a delay, within the time the
sender allows. The answer waits in one of a few buffers together with the
address it goes to; requests that find no free buffer are not answered. The
buffers behave as slots in which answers wait, provided that the time between
two passes over them fits the type of the delay.
-/

set_option autoImplicit false

namespace EtherNetIP

open Library SampleApplication

variable {config : Configuration}

structure DelayedMessageBuffer where
  delayed : DelayedEncapsulationMessage
  receiver : SocketAddress

structure DelayedDatagram where
  socket : Int
  receiver : SocketAddress
  message : List CipOctet

structure ListIdentityRequest (config : Configuration) where
  socket : Int
  valid : socket ≠ kEipInvalidSocket
  receivedData : EncapsulationData
  context : receivedData.senderContext.length = kSenderContextSize
  surroundings : Surroundings
  stack : Stack config

namespace ListIdentityRequest

def message (request : ListIdentityRequest config) : List CipOctet :=
  let message := encapsulateListIdentityResponseMessage request.receivedData request.surroundings.identity
    request.stack .initialized
  message.messageBuffer.take message.usedMessageLength.toNat

def timeOut (request : ListIdentityRequest config) : Int32 :=
  determineDelayTime request.receivedData (request.surroundings.randomNumbers.headD 0)

def buffer (request : ListIdentityRequest config) : DelayedMessageBuffer where
  delayed := ⟨request.socket, request.timeOut, request.message⟩
  receiver := request.surroundings.originatorAddress

def answer (request : ListIdentityRequest config) : DelayedDatagram :=
  ⟨request.socket, request.surroundings.originatorAddress, request.message⟩

def delay (request : ListIdentityRequest config) : Nat := request.timeOut.toInt.toNat

/-- The time the sender allows is the first word of its context, if there is one, but not too short. -/
def allowedDelay (request : ListIdentityRequest config) : Nat :=
  let maximumDelayTime := (getUintFromMessage.run request.receivedData.senderContext).1.toNat
  if maximumDelayTime = 0 then 2000 else max 500 maximumDelayTime

theorem timeOut_toInt (request : ListIdentityRequest config) : request.timeOut.toInt =
    ((request.surroundings.randomNumbers.headD 0).toNat % request.allowedDelay : Nat) := by
  unfold timeOut determineDelayTime
  generalize request.surroundings.randomNumbers.headD 0 = random
  have small (value : UInt16) : value.toUInt32.toInt32.toInt = (value.toNat : Int) := by
    have bound := value.toNat_lt
    change (value.toUInt32.toBitVec).toInt = _
    rw [BitVec.toInt_eq_toNat_bmod]
    change Int.bmod (value.toUInt32.toNat : Int) _ = _
    rw [UInt16.toNat_toUInt32]
    exact Int.bmod_eq_of_le_mul_two (by omega) (by omega)
  dsimp only
  rw [small, UInt16.toNat_mod]
  congr 2
  unfold allowedDelay
  generalize (getUintFromMessage.run request.receivedData.senderContext).1 = maximum
  dsimp only
  by_cases none : maximum = 0
  · subst none
    rfl
  · have some : maximum.toNat ≠ 0 := fun zero => none (UInt16.toNat_inj.mp zero)
    rw [if_neg none, if_neg some]
    by_cases short : kListIdentityMinimumDelayTime > maximum
    · have order : maximum.toNat < 500 := UInt16.lt_iff_toNat_lt.mp short
      rw [if_pos short, Nat.max_eq_left (Nat.le_of_lt order)]
      rfl
    · have order : 500 ≤ maximum.toNat := Nat.le_of_not_lt fun less => short (UInt16.lt_iff_toNat_lt.mpr less)
      rw [if_neg short, Nat.max_eq_right order]

theorem delay_lt (request : ListIdentityRequest config) : request.delay < request.allowedDelay := by
  have positive : 0 < request.allowedDelay := by
    unfold allowedDelay
    dsimp only
    split
    · exact Nat.succ_pos _
    · exact Nat.lt_of_lt_of_le (Nat.succ_pos 499) (Nat.le_max_left ..)
  rw [delay, timeOut_toInt, Int.toNat_natCast]
  exact Nat.mod_lt _ positive

def body (request : ListIdentityRequest config) : List CipOctet :=
  addIntToMessage 1 ++ encodeListIdentityCipIdentityItem request.surroundings.identity request.stack

theorem length_body (request : ListIdentityRequest config) :
    request.body.length = 40 + request.surroundings.identity.productName.length := by
  simp only [body, encodeListIdentityCipIdentityItem, encapsulateIpAddress, addIntToMessage, addDintToMessage,
    addSintToMessage, List.length_append, List.length_cons, List.length_nil, List.length_replicate]
  omega

theorem told_length (request : ListIdentityRequest config) :
    (listIdentityGetCipIdentityItemLength request.surroundings.identity + 6).toUInt64 =
      UInt64.ofNat request.body.length := by
  have name := request.surroundings.identity.productNameFits
  have told : (listIdentityGetCipIdentityItemLength request.surroundings.identity + 6).toNat =
      request.body.length := by
    rw [listIdentityGetCipIdentityItemLength, UInt16.toNat_add, UInt16.toNat_ofNat', length_body]
    change ((34 + request.surroundings.identity.productName.length) % 65536 + 6) % 65536 = _
    omega
  rw [← told]
  exact UInt64.ofNat_toNat.symm

theorem message_eq (request : ListIdentityRequest config) : request.message =
    encapsulationHeader request.receivedData (UInt64.ofNat request.body.length) 0 .success ++ request.body := by
  have name := request.surroundings.identity.productNameFits
  have header := encapsulationHeader_length request.context (UInt64.ofNat request.body.length) 0 .success
  have whole : encapsulateListIdentityResponseMessage request.receivedData request.surroundings.identity
      request.stack .initialized = EnipMessage.initialized.add
        (encapsulationHeader request.receivedData (UInt64.ofNat request.body.length) 0 .success ++ request.body) := by
    rw [encapsulateListIdentityResponseMessage, told_length, EnipMessage.generateEncapsulationHeader]
    exact EnipMessage.add_add EnipMessage.initialized_within _ _
  have fits : (encapsulationHeader request.receivedData (UInt64.ofNat request.body.length) 0 .success ++
      request.body).length ≤ PC_OPENER_ETHERNET_BUFFER_SIZE := by
    rw [List.length_append, header, length_body, ENCAPSULATION_HEADER_LENGTH, PC_OPENER_ETHERNET_BUFFER_SIZE]
    omega
  unfold message
  dsimp only
  rw [whole, EnipMessage.initialized_add_used fits, EnipMessage.initialized_add]
  exact List.take_left' rfl

end ListIdentityRequest

inductive BufferEvent (config : Configuration) where
  | listIdentity (request : ListIdentityRequest config)
  | tick (elapsedTime : MilliSeconds)

/-- The time that is counted is never more than half the range of a delay. -/
def BufferEvent.Counts : BufferEvent config → Prop
  | .listIdentity _ => True
  | .tick elapsedTime => elapsedTime.toNat ≤ 2 ^ 31

def ticks : List (BufferEvent config) → List Nat
  | [] => []
  | .listIdentity _ :: events => ticks events
  | .tick elapsedTime :: events => elapsedTime.toNat :: ticks events

namespace DelayedMessageBuffer

def initialized : List DelayedMessageBuffer := List.replicate 2 ⟨⟨kEipInvalidSocket, 0, []⟩, .zero⟩

def receive (request : ListIdentityRequest config) (buffers : List DelayedMessageBuffer) : List DelayedMessageBuffer :=
  match buffers.findIdx? (·.delayed.socket == kEipInvalidSocket) with
  | none => buffers
  | some index => buffers.set index request.buffer

def manage (elapsedTime : MilliSeconds) (buffer : DelayedMessageBuffer) :
    DelayedMessageBuffer × Option DelayedDatagram :=
  if buffer.delayed.socket ≠ kEipInvalidSocket then
    let counted := Stack.countDelay elapsedTime buffer.delayed
    if 0 ≥ counted.timeOut then
      ({ buffer with delayed := { counted with socket := kEipInvalidSocket } },
        some ⟨counted.socket, buffer.receiver, counted.message⟩)
    else ({ buffer with delayed := counted }, none)
  else (buffer, none)

def step (buffers : List DelayedMessageBuffer) :
    BufferEvent config → List DelayedMessageBuffer × List (Option DelayedDatagram)
  | .listIdentity request => (receive request buffers, buffers.map fun _ => none)
  | .tick elapsedTime => (buffers.map fun buffer => (manage elapsedTime buffer).1,
      buffers.map fun buffer => (manage elapsedTime buffer).2)

def run : List DelayedMessageBuffer → List (BufferEvent config) →
    List DelayedMessageBuffer × List (List (Option DelayedDatagram))
  | buffers, [] => (buffers, [])
  | buffers, event :: events =>
    let after := step buffers event
    let rest := run after.1 events
    (rest.1, after.2 :: rest.2)

section Stack

variable {buffers : List DelayedMessageBuffer}

theorem findIdx?_delayed (buffers : List DelayedMessageBuffer) :
    (buffers.map (·.delayed)).findIdx? (·.socket == kEipInvalidSocket) =
      buffers.findIdx? (·.delayed.socket == kEipInvalidSocket) := by
  induction buffers with
  | nil => rfl
  | cons buffer buffers ih => simp only [List.map_cons, List.findIdx?_cons, ih]

theorem receive_delayed (request : ListIdentityRequest config)
    (held : request.stack.delayedEncapsulationMessages = buffers.map (·.delayed)) :
    (receive request buffers).map (·.delayed) =
      (handleReceivedListIdentityCommandUdp request.socket request.receivedData request.surroundings
        request.stack).delayedEncapsulationMessages := by
  unfold receive handleReceivedListIdentityCommandUdp
  rw [held, findIdx?_delayed]
  cases buffers.findIdx? (·.delayed.socket == kEipInvalidSocket) with
  | none => exact held.symm
  | some index =>
      dsimp only
      rw [List.map_set]
      rfl

theorem manage_delayed (elapsedTime : MilliSeconds) (buffer : DelayedMessageBuffer) :
    (manage elapsedTime buffer).1.delayed = (Stack.manageDelayedMessage elapsedTime buffer.delayed).1 ∧
      (manage elapsedTime buffer).2.toList.map (fun datagram => Effect.sendDelayedMessage datagram.socket datagram.message) =
        (Stack.manageDelayedMessage elapsedTime buffer.delayed).2 := by
  unfold manage Stack.manageDelayedMessage
  dsimp only
  split
  · split
    · exact ⟨rfl, rfl⟩
    · exact ⟨rfl, rfl⟩
  · exact ⟨rfl, rfl⟩

theorem sent_delayed (elapsedTime : MilliSeconds) (buffers : List DelayedMessageBuffer) :
    ((buffers.map (·.delayed)).map (Stack.manageDelayedMessage elapsedTime)).flatMap Prod.snd =
      ((buffers.map fun buffer => (manage elapsedTime buffer).2).filterMap id).map fun datagram =>
        Effect.sendDelayedMessage datagram.socket datagram.message := by
  induction buffers with
  | nil => rfl
  | cons buffer buffers ih =>
      rw [List.map_cons, List.map_cons, List.flatMap_cons, ih, ← (manage_delayed elapsedTime buffer).2, List.map_cons]
      cases (manage elapsedTime buffer).2 with
      | none => rfl
      | some datagram => rfl

/-- A tick of the stack sends what the buffers send, and leaves what they hold. -/
theorem tick_delayed (stack : Stack config) (elapsedTime : MilliSeconds)
    (held : stack.delayedEncapsulationMessages = buffers.map (·.delayed)) :
    let after := step buffers (.tick elapsedTime : BufferEvent config)
    let ticked := stack.manageEncapsulationMessages elapsedTime
    ticked.delayedEncapsulationMessages = after.1.map (·.delayed) ∧
      ticked.effects = ((after.2.filterMap id).map fun datagram =>
        Effect.sendDelayedMessage datagram.socket datagram.message).reverse ++ stack.effects := by
  dsimp only [Stack.manageEncapsulationMessages, step]
  rw [held, sent_delayed]
  constructor
  · simp only [List.map_map]
    apply List.map_congr_left
    intro buffer _
    exact (manage_delayed elapsedTime buffer).1.symm
  · rfl

end Stack

section Slots

variable {buffer : DelayedMessageBuffer} {buffers : List DelayedMessageBuffer} {elapsedTime : MilliSeconds}
  {event : BufferEvent config} {events : List (BufferEvent config)}

def slot (buffer : DelayedMessageBuffer) : DelaySlot DelayedDatagram :=
  if buffer.delayed.socket = kEipInvalidSocket then none
  else some (buffer.delayed.timeOut.toInt.toNat, ⟨buffer.delayed.socket, buffer.receiver, buffer.delayed.message⟩)

def Sound (buffer : DelayedMessageBuffer) : Prop :=
  buffer.delayed.socket ≠ kEipInvalidSocket → 0 ≤ buffer.delayed.timeOut.toInt

theorem countDelay_bmod (elapsedTime : MilliSeconds) (delayed : DelayedEncapsulationMessage) :
    (Stack.countDelay elapsedTime delayed).timeOut.toInt =
      (delayed.timeOut.toInt - elapsedTime.toNat).bmod (2 ^ 32) := by
  have cut : elapsedTime.toUInt32.toBitVec.toInt = Int.bmod elapsedTime.toNat (2 ^ 32) := by
    rw [BitVec.toInt_eq_toNat_bmod]
    have octets : elapsedTime.toUInt32.toBitVec.toNat = elapsedTime.toNat % 2 ^ 32 := rfl
    rw [octets, Int.natCast_mod]
    exact Int.emod_bmod _ (2 ^ 32)
  change (delayed.timeOut.toBitVec - elapsedTime.toUInt32.toBitVec).toInt = _
  rw [BitVec.toInt_sub, cut, Int.sub_bmod_bmod]
  rfl

/-- A delay that has been counted down, as long as the time that has passed fits its type. -/
theorem countDelay_toInt {delayed : DelayedEncapsulationMessage} (left : 0 ≤ delayed.timeOut.toInt)
    (fits : elapsedTime.toNat ≤ 2 ^ 31) :
    (Stack.countDelay elapsedTime delayed).timeOut.toInt = delayed.timeOut.toInt - elapsedTime.toNat := by
  have bound := delayed.timeOut.toInt_lt
  rw [countDelay_bmod]
  exact Int.bmod_eq_of_le_mul_two (by omega) (by omega)

theorem slot_free (free : buffer.delayed.socket = kEipInvalidSocket) : buffer.slot = none := if_pos free

theorem slot_taken (taken : buffer.delayed.socket ≠ kEipInvalidSocket) : buffer.slot =
    some (buffer.delayed.timeOut.toInt.toNat, ⟨buffer.delayed.socket, buffer.receiver, buffer.delayed.message⟩) :=
  if_neg taken

theorem manage_slot (sound : buffer.Sound) (fits : elapsedTime.toNat ≤ 2 ^ 31) :
    (manage elapsedTime buffer).1.Sound ∧
      ((manage elapsedTime buffer).1.slot, (manage elapsedTime buffer).2) = countSlot elapsedTime.toNat buffer.slot := by
  by_cases free : buffer.delayed.socket = kEipInvalidSocket
  · have kept : manage elapsedTime buffer = (buffer, none) := if_neg (not_not_intro free)
    rw [kept, slot_free free]
    exact ⟨sound, rfl⟩
  · have left := sound free
    have counted := countDelay_toInt left fits
    have due : 0 ≥ (Stack.countDelay elapsedTime buffer.delayed).timeOut ↔
        buffer.delayed.timeOut.toInt.toNat ≤ elapsedTime.toNat := by
      rw [ge_iff_le, Int32.le_iff_toInt_le, counted]
      change _ ≤ 0 ↔ _
      omega
    have passed : manage elapsedTime buffer = _ := if_pos free
    rw [passed, slot_taken free]
    dsimp only
    by_cases reached : buffer.delayed.timeOut.toInt.toNat ≤ elapsedTime.toNat
    · rw [if_pos (due.mpr reached), countSlot, if_pos reached, slot_free rfl]
      exact ⟨fun taken => absurd rfl taken, rfl⟩
    · have rest : (Stack.countDelay elapsedTime buffer.delayed).timeOut.toInt.toNat =
          buffer.delayed.timeOut.toInt.toNat - elapsedTime.toNat := by omega
      rw [if_neg (mt due.mp reached), countSlot, if_neg reached, slot_taken (by exact free)]
      constructor
      · intro _
        change 0 ≤ (Stack.countDelay elapsedTime buffer.delayed).timeOut.toInt
        omega
      · dsimp only
        rw [rest]
        rfl

theorem slot_buffer (request : ListIdentityRequest config) : request.buffer.slot = some (request.delay, request.answer) := by
  have taken : request.buffer.delayed.socket ≠ kEipInvalidSocket := request.valid
  rw [slot_taken taken]
  simp only [ListIdentityRequest.buffer, ListIdentityRequest.delay, ListIdentityRequest.answer]

theorem receive_slots (request : ListIdentityRequest config) (buffers : List DelayedMessageBuffer) :
    (receive request buffers).map slot = occupy (request.delay, request.answer) (buffers.map slot) := by
  induction buffers with
  | nil => rfl
  | cons buffer buffers ih =>
      by_cases free : buffer.delayed.socket = kEipInvalidSocket
      · have found : (buffer :: buffers).findIdx? (·.delayed.socket == kEipInvalidSocket) = some 0 := by
          rw [List.findIdx?_cons, beq_iff_eq.mpr free]
          rfl
        have placed : receive request (buffer :: buffers) = request.buffer :: buffers := by
          rw [receive, found]
          rfl
        rw [placed, List.map_cons, slot_buffer, List.map_cons, slot_free free, occupy]
      · have behind : receive request (buffer :: buffers) = buffer :: receive request buffers := by
          unfold receive
          rw [List.findIdx?_cons, beq_eq_false_iff_ne.mpr free]
          cases buffers.findIdx? (·.delayed.socket == kEipInvalidSocket) with
          | none => rfl
          | some index => rfl
        rw [behind, List.map_cons, ih, List.map_cons, slot_taken free, occupy]

theorem receive_sound (request : ListIdentityRequest config) (sound : ∀ buffer ∈ buffers, buffer.Sound) :
    ∀ buffer ∈ receive request buffers, buffer.Sound := by
  have own : request.buffer.Sound := by
    intro _
    change 0 ≤ request.timeOut.toInt
    rw [request.timeOut_toInt]
    exact Int.natCast_nonneg _
  unfold receive
  split
  · exact sound
  · intro buffer inside
    rcases List.mem_or_eq_of_mem_set inside with before | rfl
    · exact sound buffer before
    · exact own

def slotEvent : BufferEvent config → DelayEvent DelayedDatagram
  | .listIdentity request => .arrive request.delay request.answer
  | .tick elapsedTime => .pass elapsedTime.toNat

theorem passes_slotEvent (events : List (BufferEvent config)) : Library.passes (events.map slotEvent) = ticks events := by
  induction events with
  | nil => rfl
  | cons event events ih =>
      cases event with
      | listIdentity request => exact ih
      | tick elapsedTime => exact congrArg (elapsedTime.toNat :: ·) ih

theorem step_slots (sound : ∀ buffer ∈ buffers, buffer.Sound) (counts : event.Counts) :
    (∀ buffer ∈ (step buffers event).1, buffer.Sound) ∧
      ((step buffers event).1.map slot, (step buffers event).2) = delayStep (buffers.map slot) (slotEvent event) := by
  cases event with
  | listIdentity request =>
      constructor
      · exact receive_sound request sound
      · simp only [step, slotEvent, delayStep, receive_slots, List.map_map]
        rfl
  | tick elapsedTime =>
      have fits : elapsedTime.toNat ≤ 2 ^ 31 := counts
      have each (buffer : DelayedMessageBuffer) (inside : buffer ∈ buffers) := manage_slot (sound buffer inside) fits
      constructor
      · intro buffer inside
        obtain ⟨before, there, rfl⟩ := List.mem_map.mp inside
        exact (each before there).1
      · simp only [step, slotEvent, delayStep, List.map_map]
        congr 1
        · apply List.map_congr_left
          intro buffer inside
          exact congrArg Prod.fst (each buffer inside).2
        · apply List.map_congr_left
          intro buffer inside
          exact congrArg Prod.snd (each buffer inside).2

theorem run_slots (sound : ∀ buffer ∈ buffers, buffer.Sound) (counts : ∀ event ∈ events, event.Counts) :
    (∀ buffer ∈ (run buffers events).1, buffer.Sound) ∧
      ((run buffers events).1.map slot, (run buffers events).2) =
        delayRun (buffers.map slot) (events.map slotEvent) := by
  induction events generalizing buffers with
  | nil => exact ⟨sound, rfl⟩
  | cons event events ih =>
      obtain ⟨kept, same⟩ := step_slots sound (counts event (.head _))
      obtain ⟨later, rest⟩ := ih kept fun next inside => counts next (.tail _ inside)
      constructor
      · exact later
      · rw [List.map_cons, delayRun, ← same]
        dsimp only
        rw [← rest]
        rfl

end Slots

section Runs

variable {buffers : List DelayedMessageBuffer}

def freePlace (buffers : List DelayedMessageBuffer) : Option Nat :=
  buffers.findIdx? (·.delayed.socket == kEipInvalidSocket)

theorem receive_free {request : ListIdentityRequest config} {place : Nat} (free : freePlace buffers = some place) :
    (receive request buffers)[place]? = some request.buffer := by
  have found := free
  unfold freePlace at free
  have bound : place < buffers.length := (List.findIdx?_eq_some_iff_getElem.mp free).1
  unfold receive
  rw [free]
  exact List.getElem?_set_self bound

theorem initialized_sound : ∀ buffer ∈ initialized, buffer.Sound := by
  intro buffer inside taken
  rw [List.eq_of_mem_replicate inside] at taken
  exact absurd rfl taken

def accepted : List DelayedMessageBuffer → List (BufferEvent config) → List DelayedDatagram
  | _, [] => []
  | buffers, .listIdentity request :: events =>
    let later := accepted (receive request buffers) events
    if freePlace buffers = none then later else request.answer :: later
  | buffers, .tick elapsedTime :: events =>
    accepted (buffers.map fun buffer => (manage elapsedTime buffer).1) events

def pending (buffers : List DelayedMessageBuffer) : List DelayedDatagram :=
  buffers.filterMap fun buffer =>
    if buffer.delayed.socket = kEipInvalidSocket then none
    else some ⟨buffer.delayed.socket, buffer.receiver, buffer.delayed.message⟩

theorem waiting_slots (buffers : List DelayedMessageBuffer) : waiting (buffers.map slot) = pending buffers := by
  rw [waiting, pending, List.filterMap_map]
  congr 1
  funext buffer
  dsimp only [Function.comp_apply, slot]
  split
  · rfl
  · rfl

theorem admitted_slots (request : ListIdentityRequest config) (buffers : List DelayedMessageBuffer) :
    admitted (buffers.map slot) request.answer = if freePlace buffers = none then [] else [request.answer] := by
  have none_iff : freePlace buffers = none ↔ ¬ ((buffers.map slot).any Option.isNone = true) := by
    rw [freePlace, List.findIdx?_eq_none_iff, List.any_map, List.any_eq_true]
    constructor
    · intro busy ⟨buffer, inside, free⟩
      have taken : buffer.delayed.socket ≠ kEipInvalidSocket := beq_eq_false_iff_ne.mp (busy buffer inside)
      rw [Function.comp_apply, slot_taken taken] at free
      cases free
    · intro busy buffer inside
      apply beq_eq_false_iff_ne.mpr
      intro free
      exact busy ⟨buffer, inside, by rw [Function.comp_apply, slot_free free]; rfl⟩
  rw [admitted]
  by_cases none : freePlace buffers = none
  · rw [if_pos none, if_neg (none_iff.mp none)]
  · rw [if_neg none, if_pos (of_not_not (mt none_iff.mpr none))]

theorem pending_receive (request : ListIdentityRequest config) (buffers : List DelayedMessageBuffer) :
    (pending (receive request buffers)).Perm
      ((if freePlace buffers = none then [] else [request.answer]) ++ pending buffers) := by
  have taken := waiting_occupy request.delay request.answer (buffers.map slot)
  rw [← receive_slots, admitted_slots, waiting_slots, waiting_slots] at taken
  exact taken

/-- What waited either waits on or is sent, however the delays are counted. -/
theorem pending_tick (elapsedTime : MilliSeconds) (buffers : List DelayedMessageBuffer) :
    (pending buffers).Perm ((buffers.map fun buffer => (manage elapsedTime buffer).2).filterMap id ++
      pending (buffers.map fun buffer => (manage elapsedTime buffer).1)) := by
  induction buffers with
  | nil => exact .refl _
  | cons buffer buffers ih =>
      by_cases free : buffer.delayed.socket = kEipInvalidSocket
      · have kept : manage elapsedTime buffer = (buffer, none) := if_neg (not_not_intro free)
        have empty (others : List DelayedMessageBuffer) : pending (buffer :: others) = pending others :=
          List.filterMap_cons_none (if_pos free)
        rw [List.map_cons, List.map_cons, kept, empty, empty]
        exact ih
      · have passed : manage elapsedTime buffer = _ := if_pos free
        let answer : DelayedDatagram := ⟨buffer.delayed.socket, buffer.receiver, buffer.delayed.message⟩
        have waits : pending (buffer :: buffers) = answer :: pending buffers :=
          List.filterMap_cons_some (if_neg free)
        dsimp only at passed
        rw [List.map_cons, List.map_cons, waits]
        split at passed
        · have sent (others : List DelayedMessageBuffer) :
              pending ((manage elapsedTime buffer).1 :: others) = pending others := by
            rw [passed]
            exact List.filterMap_cons_none (if_pos rfl)
          rw [sent, passed]
          exact ih.cons answer
        · have still (others : List DelayedMessageBuffer) :
              pending ((manage elapsedTime buffer).1 :: others) = answer :: pending others := by
            rw [passed]
            exact List.filterMap_cons_some (if_neg free)
          rw [still, passed]
          exact (ih.cons answer).trans List.perm_middle.symm

/-- The run lemma of the answers; the step of a request takes one more, that of a tick sends some of them. -/
theorem run_conserves (buffers : List DelayedMessageBuffer) (events : List (BufferEvent config)) :
    (accepted buffers events ++ pending buffers).Perm
      (((run buffers events).2.flatMap fun sent => sent.filterMap id) ++ pending (run buffers events).1) := by
  induction events generalizing buffers with
  | nil => exact .refl _
  | cons event events ih =>
      cases event with
      | listIdentity request =>
          have rest := ih (receive request buffers)
          have silent : (buffers.map fun _ => (none : Option DelayedDatagram)).filterMap id = [] := by simp
          have now : (accepted buffers (.listIdentity request :: events) ++ pending buffers).Perm
              (accepted (receive request buffers) events ++
                ((if freePlace buffers = none then [] else [request.answer]) ++ pending buffers)) := by
            rw [accepted]
            split
            · exact .refl _
            · exact List.perm_middle.symm
          rw [run, List.flatMap_cons]
          dsimp only [step]
          rw [silent, List.nil_append]
          exact now.trans (((pending_receive request buffers).symm.append_left _).trans rest)
      | tick elapsedTime =>
          let after := buffers.map fun buffer => (manage elapsedTime buffer).1
          let sent := buffers.map fun buffer => (manage elapsedTime buffer).2
          have rest := ih after
          have now : (accepted after events ++ pending buffers).Perm
              (accepted after events ++ (sent.filterMap id ++ pending after)) :=
            (pending_tick elapsedTime buffers).append_left _
          have moved : (accepted after events ++ (sent.filterMap id ++ pending after)).Perm
              (sent.filterMap id ++ (accepted after events ++ pending after)) := List.perm_append_comm_assoc ..
          rw [run, List.flatMap_cons, List.append_assoc]
          exact now.trans (moved.trans (rest.append_left _))

/-- Whatever requests and ticks there have been, a request that finds a free buffer is answered from it, to its
sender and with the identity, by the first tick with which its delay has passed, and by none before; the delay is
below what the sender allows, and the buffer is free again. -/
theorem broadcast_answered_in_time (earlier later : List (BufferEvent config)) (request : ListIdentityRequest config)
    (last : MilliSeconds) (counts : ∀ event ∈ earlier ++ later, event.Counts) (lastCounts : last.toNat ≤ 2 ^ 31)
    {place : Nat} (free : freePlace (run initialized earlier).1 = some place)
    (early : ticks later = [] ∨ (ticks later).sum < request.delay)
    (reached : request.delay ≤ (ticks later).sum + last.toNat) :
    let received := receive request (run initialized earlier).1
    let ended := step (run received later).1 (.tick last : BufferEvent config)
    request.delay < request.allowedDelay ∧
      (∀ sent ∈ (run received later).2, sent[place]? = some none) ∧
      ended.2[place]? = some (some ⟨request.socket, request.surroundings.originatorAddress,
        encapsulationHeader request.receivedData (UInt64.ofNat request.body.length) 0 .success ++ request.body⟩) ∧
      ∃ buffer, ended.1[place]? = some buffer ∧ buffer.delayed.socket = kEipInvalidSocket := by
  intro received ended
  have before := (run_slots initialized_sound fun event inside => counts event (List.mem_append_left _ inside)).1
  have sound : ∀ buffer ∈ received, buffer.Sound := receive_sound request before
  have taken : (received.map slot)[place]? = some (some (request.delay, request.answer)) := by
    rw [List.getElem?_map, receive_free free, Option.map_some, slot_buffer]
  -- until the delay is reached the answer waits
  obtain ⟨soundLater, same⟩ := run_slots sound fun event inside => counts event (List.mem_append_right earlier inside)
  rw [← passes_slotEvent later] at early reached
  obtain ⟨waiting, silent⟩ := waits taken early
  rw [← congrArg Prod.fst same] at waiting
  rw [← congrArg Prod.snd same] at silent
  -- the last tick reaches it
  have tick : (BufferEvent.tick last : BufferEvent config).Counts := lastCounts
  obtain ⟨_, same⟩ := step_slots soundLater tick
  have due : request.delay - (Library.passes (later.map slotEvent)).sum ≤ last.toNat := by omega
  obtain ⟨freed, sent⟩ := sends waiting due
  have slots := congrArg Prod.fst same
  have datagrams := congrArg Prod.snd same
  dsimp only [slotEvent] at slots datagrams
  rw [← slots, List.getElem?_map] at freed
  obtain ⟨buffer, there, empty⟩ := Option.map_eq_some_iff.mp freed
  have invalid : buffer.delayed.socket = kEipInvalidSocket := by
    by_contra valid
    rw [slot_taken valid] at empty
    cases empty
  refine ⟨request.delay_lt, silent, ?_, buffer, there, invalid⟩
  rw [← request.message_eq]
  exact (congrArg (·[place]?) datagrams).trans sent

theorem descriptor_valid (socket : Nat) : (socket : Int) ≠ kEipInvalidSocket := by
  rw [kEipInvalidSocket]
  omega

def sampleBroadcast (socket : Nat) (random : UInt16) : ListIdentityRequest configuration where
  socket
  valid := descriptor_valid socket
  receivedData := ⟨0x63, 0, 0, 0, [0x88, 0x13, 0, 0, 0, 0, 0, 0], 0, []⟩
  context := rfl
  surroundings := { Stack.sampleSurroundings with randomNumbers := [random] }
  stack := start configuration

def sampleEarlier : List (BufferEvent configuration) := [.listIdentity (sampleBroadcast 5 3000), .tick 200]

def sampleLater : List (BufferEvent configuration) := [.tick 1000, .tick 699]

/-- The second request is answered before the first one. -/
theorem broadcast_answered_in_time_second :
    let request := sampleBroadcast 6 1700
    let received := receive request (run initialized sampleEarlier).1
    (step (run received sampleLater).1 (.tick 1 : BufferEvent configuration)).2[1]? =
      some (some ⟨6, Stack.sampleSurroundings.originatorAddress,
        encapsulationHeader request.receivedData (UInt64.ofNat request.body.length) 0 .success ++ request.body⟩) := by
  have counts : ∀ event ∈ sampleEarlier ++ sampleLater, event.Counts := by
    simp [sampleEarlier, sampleLater, BufferEvent.Counts]
  have free : freePlace (run initialized sampleEarlier).1 = some 1 := by rfl
  exact (broadcast_answered_in_time sampleEarlier sampleLater (sampleBroadcast 6 1700) 1 counts (by decide) free
    (.inr (by decide)) (by decide)).2.2.1

/-- In every run each request that finds a free buffer is answered exactly once or still waits for it, and nothing
else is sent. -/
theorem broadcasts_answered_once (events : List (BufferEvent config)) :
    (accepted initialized events).Perm
      (((run initialized events).2.flatMap fun sent => sent.filterMap id) ++ pending (run initialized events).1) := by
  have conserved := run_conserves initialized events
  have empty : pending initialized = [] := rfl
  rw [empty, List.append_nil] at conserved
  exact conserved

end Runs

end DelayedMessageBuffer

end EtherNetIP
