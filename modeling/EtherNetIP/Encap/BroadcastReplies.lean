import EtherNetIP.Encap.DelayedReplies

/-! Answers to broadcast requests, whatever time passes between two passes over the buffers.

The delay is counted down in a type that has not room for all times. An answer
is missed at its time if so much more time has passed that what is left of the
delay becomes a positive number again.
-/

set_option autoImplicit false

namespace EtherNetIP

open Library SampleApplication

variable {config : Configuration}

namespace ListIdentityRequest

variable (request : ListIdentityRequest config)

/-- The answer has the context of the request, and the lengths in it are those of what stands behind them. -/
structure Told : Prop where
  context : (request.message.drop 12).take 8 = request.receivedData.senderContext
  length : 24 + (getUintFromMessage.run (request.message.drop 2)).1.toNat = request.message.length
  itemLength : 30 + (getUintFromMessage.run (request.message.drop 28)).1.toNat = request.message.length

theorem length_message : request.message.length = 64 + request.surroundings.identity.productName.length := by
  rw [message_eq, List.length_append, length_body, encapsulationHeader_length request.context, ENCAPSULATION_HEADER_LENGTH]
  omega

theorem told : request.Told where
  context := by
    rw [message_eq, encapsulationHeader, List.append_assoc, List.append_assoc]
    change List.take 8 (request.receivedData.senderContext ++ _) = _
    exact List.take_left' request.context
  length := by
    have name := request.surroundings.identity.productNameFits
    rw [length_message, message_eq, encapsulationHeader]
    simp only [List.append_assoc]
    change 24 + (getUintFromMessage.run (addIntToMessage (UInt64.ofNat request.body.length).toUInt16 ++ _)).1.toNat = _
    rw [getUintFromMessage_add, length_body]
    change 24 + (40 + request.surroundings.identity.productName.length) % 2 ^ 64 % 2 ^ 16 = _
    omega
  itemLength := by
    have name := request.surroundings.identity.productNameFits
    have header := encapsulationHeader_length request.context (UInt64.ofNat request.body.length) 0 .success
    obtain ⟨rest, item⟩ : ∃ rest, request.body = addIntToMessage 1 ++ addIntToMessage 0x0C ++
        (addIntToMessage (listIdentityGetCipIdentityItemLength request.surroundings.identity) ++ rest) := by
      simp only [body, encodeListIdentityCipIdentityItem, List.append_assoc]
      exact ⟨_, rfl⟩
    have placed : request.message.drop 28 =
        addIntToMessage (listIdentityGetCipIdentityItemLength request.surroundings.identity) ++ rest := by
      rw [message_eq]
      generalize encapsulationHeader request.receivedData (UInt64.ofNat request.body.length) 0 .success = front at header
      rw [item, ← List.append_assoc]
      apply List.drop_left'
      rw [List.length_append, header]
      rfl
    rw [length_message, placed, getUintFromMessage_add]
    change 30 + (34 + request.surroundings.identity.productName.length) % 65536 = _
    omega

end ListIdentityRequest

namespace DelayedMessageBuffer

section Counting

variable {buffer : DelayedMessageBuffer} {buffers : List DelayedMessageBuffer} {place : Nat}
  {events : List (BufferEvent config)} {elapsedTime : MilliSeconds}

theorem receive_taken (request : ListIdentityRequest config) (there : buffers[place]? = some buffer)
    (taken : buffer.delayed.socket ≠ kEipInvalidSocket) : (receive request buffers)[place]? = some buffer := by
  unfold receive
  cases found : buffers.findIdx? (·.delayed.socket == kEipInvalidSocket) with
  | none => exact there
  | some index =>
      obtain ⟨bound, free, -⟩ := List.findIdx?_eq_some_iff_getElem.mp found
      have other : index ≠ place := by
        rintro rfl
        rw [List.getElem?_eq_getElem bound] at there
        rw [Option.some.inj there] at free
        exact taken (eq_of_beq free)
      exact (List.getElem?_set_ne other).trans there

/-- What is left of a delay that has been reached is not positive just if what has passed since has room in the type. -/
theorem countDelay_due (left : 0 ≤ buffer.delayed.timeOut.toInt)
    (reached : buffer.delayed.timeOut.toInt.toNat ≤ elapsedTime.toNat) :
    0 ≥ (Stack.countDelay elapsedTime buffer.delayed).timeOut ↔
      (elapsedTime.toNat - buffer.delayed.timeOut.toInt.toNat) % 2 ^ 32 ≤ 2 ^ 31 := by
  -- The counter is the difference in the range of its type, so it is positive in every other half of the range.
  rw [ge_iff_le, Int32.le_iff_toInt_le, countDelay_bmod, Int.bmod_def]
  change _ ≤ 0 ↔ _
  split <;> omega

/-- The run lemma of one buffer: as long as its delay is not reached, its answer waits in it. -/
theorem run_waits (there : buffers[place]? = some buffer) (taken : buffer.delayed.socket ≠ kEipInvalidSocket)
    (early : ticks events = [] ∨ (ticks events).sum < buffer.delayed.timeOut.toInt.toNat) :
    ∃ timeOut : Int32, timeOut.toInt = buffer.delayed.timeOut.toInt - (ticks events).sum ∧
      (run buffers events).1[place]? = some { buffer with delayed.timeOut := timeOut } ∧
      ∀ sent ∈ (run buffers events).2, sent[place]? = some none := by
  induction events generalizing buffers buffer with
  | nil => exact ⟨buffer.delayed.timeOut, (Int.sub_zero _).symm, there, fun _ inside => absurd inside List.not_mem_nil⟩
  | cons event events ih =>
      cases event with
      | listIdentity request =>
          obtain ⟨timeOut, left, waits, silent⟩ := ih (receive_taken request there taken) taken early
          refine ⟨timeOut, left, waits, List.forall_mem_cons.mpr ⟨?_, silent⟩⟩
          rw [step, List.getElem?_map, there]
          rfl
      | tick elapsedTime =>
          have sum : elapsedTime.toNat + (ticks events).sum < buffer.delayed.timeOut.toInt.toNat := by
            rcases early with none | some
            · cases none
            · simpa [ticks] using some
          have bound := buffer.delayed.timeOut.toInt_lt
          have counted : (Stack.countDelay elapsedTime buffer.delayed).timeOut.toInt =
              buffer.delayed.timeOut.toInt - elapsedTime.toNat := countDelay_toInt (by omega) (by omega)
          -- While the delay is not reached, what passes is less than what is left, and the counter is exact.
          have positive : ¬ 0 ≥ (Stack.countDelay elapsedTime buffer.delayed).timeOut := by
            rw [ge_iff_le, Int32.le_iff_toInt_le, counted]
            change ¬ _ ≤ 0
            omega
          have managed : manage elapsedTime buffer =
              ({ buffer with delayed := Stack.countDelay elapsedTime buffer.delayed }, none) := by
            unfold manage
            dsimp only
            rw [if_pos taken, if_neg positive]
          have next : (buffers.map fun buffer => (manage elapsedTime buffer).1)[place]? =
              some { buffer with delayed := Stack.countDelay elapsedTime buffer.delayed } := by
            rw [List.getElem?_map, there, Option.map_some, managed]
          obtain ⟨timeOut, left, waits, silent⟩ := ih next taken (.inr (by dsimp only; omega))
          refine ⟨timeOut, ?_, waits, List.forall_mem_cons.mpr ⟨?_, silent⟩⟩
          · rw [left, ticks, List.sum_cons]
            dsimp only
            omega
          · rw [step, List.getElem?_map, there, Option.map_some, managed]

end Counting

section Runs

variable {events earlier middle : List (BufferEvent config)} {request : ListIdentityRequest config} {place : Nat}

/-- A request has been accepted into a free buffer, and its delay has not been reached since. -/
structure Delayed (earlier middle : List (BufferEvent config)) (request : ListIdentityRequest config) (place : Nat) :
    Prop where
  free : freePlace (run initialized earlier).1 = some place
  early : ticks middle = [] ∨ (ticks middle).sum < request.delay

/-- Every request that finds a free buffer is answered once, from that buffer and at the first tick that reaches its
delay, and every answer is the one to its request. -/
structure AnswersAll (events : List (BufferEvent config)) : Prop where
  waits : ∀ earlier middle rest request place, events = earlier ++ .listIdentity request :: (middle ++ rest) →
    Delayed earlier middle request place →
    ∀ sent ∈ (run (receive request (run initialized earlier).1) middle).2, sent[place]? = some none
  due : ∀ earlier middle rest request last place,
    events = earlier ++ .listIdentity request :: (middle ++ .tick last :: rest) →
    Delayed earlier middle request place → request.delay ≤ (ticks middle).sum + last.toNat →
    let ended := step (run (receive request (run initialized earlier).1) middle).1 (.tick last : BufferEvent config)
    ended.2[place]? = some (some request.answer) ∧
      ∃ buffer, ended.1[place]? = some buffer ∧ buffer.delayed.socket = kEipInvalidSocket
  once : (accepted initialized events).Perm
    (((run initialized events).2.flatMap fun sent => sent.filterMap id) ++ pending (run initialized events).1)
  busy : ∀ earlier request rest, events = earlier ++ .listIdentity request :: rest →
    freePlace (run initialized earlier).1 = none →
    (step (run initialized earlier).1 (.listIdentity request)).1 = (run initialized earlier).1
  drawn : ∀ request, .listIdentity request ∈ events → request.delay < request.allowedDelay
  told : ∀ request, .listIdentity request ∈ events → request.Told

/-- At the tick that reaches a delay, what has passed beyond it has room in the type of the delay. -/
def CountsDown (events : List (BufferEvent config)) : Prop :=
  ∀ earlier middle rest request last place,
    events = earlier ++ .listIdentity request :: (middle ++ .tick last :: rest) →
    Delayed earlier middle request place → request.delay ≤ (ticks middle).sum + last.toNat →
    ((ticks middle).sum + last.toNat - request.delay) % 2 ^ 32 ≤ 2 ^ 31

theorem delayed_waits (delayed : Delayed earlier middle request place) :
    ∃ timeOut : Int32, timeOut.toInt = request.delay - (ticks middle).sum ∧
      (run (receive request (run initialized earlier).1) middle).1[place]? =
        some { request.buffer with delayed.timeOut := timeOut } ∧
      ∀ sent ∈ (run (receive request (run initialized earlier).1) middle).2, sent[place]? = some none := by
  obtain ⟨timeOut, left, there, silent⟩ := run_waits (receive_free delayed.free) request.valid delayed.early
  refine ⟨timeOut, ?_, there, silent⟩
  have whole : (request.delay : Int) = request.timeOut.toInt := by
    rw [ListIdentityRequest.delay, request.timeOut_toInt, Int.toNat_natCast]
  rw [whole]
  exact left

/-- The tick that reaches the delay sends the answer just if the counter has room for what it counts. -/
theorem due_iff (delayed : Delayed earlier middle request place) {last : MilliSeconds}
    (reached : request.delay ≤ (ticks middle).sum + last.toNat) :
    let ended := step (run (receive request (run initialized earlier).1) middle).1 (.tick last : BufferEvent config)
    (ended.2[place]? = some (some request.answer) ∧
      ∃ buffer, ended.1[place]? = some buffer ∧ buffer.delayed.socket = kEipInvalidSocket) ↔
      ((ticks middle).sum + last.toNat - request.delay) % 2 ^ 32 ≤ 2 ^ 31 := by
  intro ended
  obtain ⟨timeOut, left, there, -⟩ := delayed_waits delayed
  let buffer : DelayedMessageBuffer := { request.buffer with delayed.timeOut := timeOut }
  have positive : 0 ≤ timeOut.toInt := by
    have drawn := delayed.early
    rcases drawn with none | some
    · rw [left, none]
      exact Int.natCast_nonneg _
    · omega
  have counted : 0 ≥ (Stack.countDelay last buffer.delayed).timeOut ↔ _ :=
    @countDelay_due buffer last positive (by change timeOut.toInt.toNat ≤ _; omega)
  have passed : last.toNat - timeOut.toInt.toNat = (ticks middle).sum + last.toNat - request.delay := by omega
  change _ ↔ (last.toNat - timeOut.toInt.toNat) % 2 ^ 32 ≤ 2 ^ 31 at counted
  rw [passed] at counted
  have state : ended.1[place]? = some (manage last buffer).1 := by
    change (List.map _ _)[place]? = _
    rw [List.getElem?_map, there]
    rfl
  have sent : ended.2[place]? = some (manage last buffer).2 := by
    change (List.map _ _)[place]? = _
    rw [List.getElem?_map, there]
    rfl
  have taken : buffer.delayed.socket ≠ kEipInvalidSocket := request.valid
  have managed : manage last buffer = _ := if_pos taken
  dsimp only at managed
  rw [state, sent, ← counted, managed]
  -- Only here can the counter be wrong: the tick may be as long as it likes.
  by_cases due : 0 ≥ (Stack.countDelay last buffer.delayed).timeOut
  · rw [if_pos due]
    refine iff_of_true ⟨?_, _, rfl, ?_⟩ due
    · simp only [buffer, Stack.countDelay, ListIdentityRequest.buffer, ListIdentityRequest.answer]
    · simp only
  · rw [if_neg due]
    refine iff_of_false ?_ due
    rintro ⟨none, -⟩
    cases none

/-- Over every run the requests are answered as they should be just if the counters count down as far as they have to. -/
theorem answersAll_iff (events : List (BufferEvent config)) : AnswersAll events ↔ CountsDown events := by
  constructor
  · intro answers earlier middle rest request last place split delayed reached
    exact (due_iff delayed reached).mp (answers.due earlier middle rest request last place split delayed reached)
  · intro counts
    refine ⟨?_, ?_, ?_, ?_, ?_, ?_⟩
    · intro earlier middle rest request place split delayed
      obtain ⟨-, -, -, silent⟩ := delayed_waits delayed
      exact silent
    · intro earlier middle rest request last place split delayed reached
      exact (due_iff delayed reached).mpr (counts earlier middle rest request last place split delayed reached)
    · have conserved := run_conserves initialized events
      have empty : pending initialized = [] := rfl
      rwa [empty, List.append_nil] at conserved
    · intro earlier request rest split busy
      change receive request _ = _
      unfold receive
      unfold freePlace at busy
      rw [busy]
    · exact fun request _ => request.delay_lt
    · exact fun request _ => request.told

/-- A request to be answered at once, and more than half the range of the delay until the next pass. -/
theorem answer_missed :
    ¬ AnswersAll [.listIdentity (sampleBroadcast 5 0), .tick 3000000000] := by
  intro answers
  have delayed : Delayed [] [] (sampleBroadcast 5 0) 0 := ⟨rfl, .inl rfl⟩
  have due := answers.due [] [] [] (sampleBroadcast 5 0) 3000000000 0 rfl delayed (by decide)
  have missed := (due_iff delayed (by decide)).mp due
  revert missed
  decide

end Runs


end DelayedMessageBuffer

end EtherNetIP
