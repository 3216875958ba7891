import EtherNetIP.Modbus.AsciiTransport

/-! What the ASCII readers make of a frame behind noise and behind frames that are no good.

Noise is read in pairs but for its line ends, and a character left without a partner
takes the colon behind it. The frame of that colon is then passed over as noise.
-/

set_option autoImplicit false

namespace EtherNetIP.Modbus

open EtherNetIP.Library

namespace ModbusASCIITransport

structure Noise where
  characters : List UInt8
  noColon : 58 ∉ characters

/-- The values that the pairs of some characters combine to, and the character that is left at their end. -/
def readPairs : List UInt8 → List Int × Option UInt8
  | [] => ([], none)
  | [first] => if isLineEnd first then ([], none) else ([], some first)
  | first :: second :: rest =>
    if isLineEnd first then readPairs (second :: rest)
    else (combined first second :: (readPairs rest).1, (readPairs rest).2)

def charactersOf (body : List UInt8) : List UInt8 := 58 :: (writeAsciiBytes body ++ [13, 10])

/-- Noise and a frame that is empty, with an LRC or without, or has a wrong LRC. -/
structure Skipped where
  noise : Noise
  body : List UInt8
  bad : ∀ front lrc, body = front ++ [lrc] → front ≠ [] → lrc ≠ calculateLRC front 0 front.length 0

def arriving (skipped : List Skipped) (more : List UInt8) : List UInt8 :=
  skipped.foldr (fun frame more => frame.noise.characters ++ (charactersOf frame.body ++ more)) more

theorem arriving_nil (more : List UInt8) : arriving [] more = more := rfl

theorem arriving_cons (frame : Skipped) (skipped : List Skipped) (more : List UInt8) :
    arriving (frame :: skipped) more =
      frame.noise.characters ++ (charactersOf frame.body ++ arriving skipped more) := rfl

/-- The stream still writes to the array of the transport. -/
def InBuffer.Attached (buffer : InBuffer) : Prop := buffer.moved = none ∧ buffer.inBuffer.length = 256

/-- The reader hands the octets of the message with their LRC on, and leaves what is behind the carriage return. -/
def Survives (reader : Reader) (buffer : InBuffer) (skipped : List Skipped) (noise : Noise) (message : Outgoing)
    (rest : List UInt8) : Prop :=
  ∃ octets characters filled, message.writeTo = .ok octets ∧ writeMessageOut message = .ok characters ∧
    receive reader buffer (arriving skipped (noise.characters ++ (characters ++ rest))) = .ok (filled, 10 :: rest) ∧
    filled.received = octets ++ [calculateLRC octets 0 octets.length 0]

def Quiet (reader : Reader) (noise : Noise) : Prop := (readPairs noise.characters).1.any reader.timedOut = false

def Heard (reader : Reader) (noise : Noise) : Prop := Quiet reader noise ∧ (readPairs noise.characters).2 = none

/-- A frame that is no good must have octets, and no more than the array; the LRC of no octets must not stand alone.
It may also go unheard. -/
def PassedOver (reader : Reader) (frame : Skipped) : Prop :=
  Quiet reader frame.noise ∧ match (readPairs frame.noise.characters).2 with
    | none => 1 ≤ frame.body.length ∧ frame.body.length ≤ 256 ∧ frame.body ≠ [0]
    | some last => reader.timedOut (combined last 58) = false

section Characters

theorem ne_marks {value : Int} (small : value < 1000) : value ≠ FRAME_START ∧ value ≠ FRAME_END := by
  have start : FRAME_START = 1000 := rfl
  have stop : FRAME_END = 2000 := rfl
  omega

theorem digit_lt (character : UInt8) : digit character < 16 := by
  unfold digit
  split
  · rename_i inside
    have high : character.toNat ≤ 57 := inside.2
    omega
  · split
    · rename_i inside
      have high : character.toNat ≤ 70 := inside.2
      omega
    · split
      · rename_i inside
        have high : character.toNat ≤ 102 := inside.2
        omega
      · omega

theorem combined_lt (first second : UInt8) : combined first second < 1000 := by
  have high := digit_lt first
  have low := digit_lt second
  unfold combined
  omega

theorem octet_toInt8 (value : UInt8) : octet value.toInt8.toInt = value := by
  have whole := toNat_octet value.toInt8.toInt
  have signed := toInt_toInt8 value
  have bounded := value.toNat_lt
  apply UInt8.toNat_inj.mp
  split at signed <;> omega

theorem writeAsciiByte_octet (value : UInt8) : writeAsciiByte value.toInt8.toInt = toHex value := by
  have signed := toInt_toInt8 value
  have bounded := value.toNat_lt
  obtain ⟨start, stop⟩ := @ne_marks value.toInt8.toInt (by split at signed <;> omega)
  unfold writeAsciiByte
  rw [if_neg start, if_neg stop, octet_toInt8]

theorem hexDigit_spec : ∀ value < 16, digit (hexDigit value) = value ∧ hexDigit value ≠ 58 ∧
    isLineEnd (hexDigit value) = false := by
  decide

theorem writeAsciiBytes_cons (value : UInt8) (values : List UInt8) :
    writeAsciiBytes (value :: values) = toHex value ++ writeAsciiBytes values := by
  unfold writeAsciiBytes
  rw [List.flatMap_cons, writeAsciiByte_octet]

theorem readAsciiByte_toHex (value : UInt8) (rest : List UInt8) :
    readAsciiByte (toHex value ++ rest) = .ok ((value.toNat : Int), rest) := by
  have bounded := value.toNat_lt
  obtain ⟨high, noStart, noEnd⟩ := hexDigit_spec (value.toNat / 16) (by omega)
  obtain ⟨low, -, -⟩ := hexDigit_spec (value.toNat % 16) (by omega)
  have whole : combined (hexDigit (value.toNat / 16)) (hexDigit (value.toNat % 16)) = value.toNat := by
    unfold combined
    rw [high, low]
    omega
  change (if hexDigit (value.toNat / 16) = 58 then _ else _) = _
  rw [if_neg noStart, if_neg (by rw [noEnd]; decide), ← whole]
  rfl

theorem writeFrame_eq (buf : List UInt8) :
    writeFrame buf = charactersOf (buf ++ [calculateLRC buf 0 buf.length 0]) := by
  have bytes : writeAsciiBytes (buf ++ [calculateLRC buf 0 buf.length 0]) =
      writeAsciiBytes buf ++ writeAsciiByte (calculateLRC buf 0 buf.length 0).toInt8.toInt := by
    unfold writeAsciiBytes
    rw [List.flatMap_append, List.flatMap_singleton]
  unfold writeFrame charactersOf
  rw [bytes, List.append_assoc]
  rfl

end Characters

section Skipping

variable {reader : Reader} {more : List UInt8}

theorem timedOut_octet (reader : Reader) (value : UInt8) : reader.timedOut (value.toNat : Int) = false := by
  cases reader with
  | readRequestIn => rfl
  | readResponseIn =>
    have other : ¬ (value.toNat : Int) = -1 := by omega
    exact decide_eq_false other

theorem skipToStart_colon (more : List UInt8) : skipToStart reader (58 :: more) = .ok more := by
  rw [skipToStart_of_read (rfl : readAsciiByte (58 :: more) = .ok (FRAME_START, more)), if_pos rfl]

theorem skipToStart_lineEnd {first : UInt8} (ends : isLineEnd first = true) (more : List UInt8) :
    skipToStart reader (first :: more) = skipToStart reader more := by
  have read : readAsciiByte (first :: more) = .ok (FRAME_END, more) := by
    have other : first ≠ 58 := by
      rintro rfl
      cases ends
    change (if first = 58 then _ else _) = _
    rw [if_neg other, if_pos ends]
  have quiet : reader.timedOut FRAME_END = false := by cases reader <;> rfl
  rw [skipToStart_of_read read, if_neg (by decide), quiet]
  rfl

theorem skipToStart_pair {first second : UInt8} (start : first ≠ 58) (ends : isLineEnd first = false)
    (more : List UInt8) : skipToStart reader (first :: second :: more) =
      if reader.timedOut (combined first second) then .error .ioException else skipToStart reader more := by
  have read : readAsciiByte (first :: second :: more) = .ok (combined first second, more) := by
    change (if first = 58 then _ else _) = _
    rw [if_neg start, if_neg (by rw [ends]; decide)]
  rw [skipToStart_of_read read, if_neg (ne_marks (combined_lt first second)).1]

theorem skipToStart_bytes (body : List UInt8) (more : List UInt8) :
    skipToStart reader (writeAsciiBytes body ++ more) = skipToStart reader more := by
  induction body with
  | nil => rfl
  | cons value body ih =>
    have bounded := value.toNat_lt
    rw [writeAsciiBytes_cons, List.append_assoc, skipToStart_of_read (readAsciiByte_toHex value _),
      if_neg (ne_marks (by omega)).1, timedOut_octet, ← ih]
    rfl

theorem skipToStart_noise (noise : List UInt8) (noColon : 58 ∉ noise) (more : List UInt8) :
    skipToStart reader (noise ++ 58 :: more) =
      if (readPairs noise).1.any reader.timedOut then .error .ioException
      else match (readPairs noise).2 with
        | none => .ok more
        | some last => if reader.timedOut (combined last 58) then .error .ioException else skipToStart reader more := by
  induction noise using readPairs.induct with
  | case1 => exact skipToStart_colon more
  | case2 first ends =>
    unfold readPairs
    rw [if_pos ends]
    exact (skipToStart_lineEnd ends _).trans (skipToStart_colon more)
  | case3 first ends =>
    unfold readPairs
    rw [if_neg ends]
    have start : first ≠ 58 := fun same => noColon (same ▸ .head _)
    exact skipToStart_pair start (Bool.eq_false_iff.mpr ends) more
  | case4 first second rest ends ih =>
    unfold readPairs
    rw [if_pos ends, ← ih fun member => noColon (.tail _ member)]
    exact skipToStart_lineEnd ends _
  | case5 first second rest ends ih =>
    have start : first ≠ 58 := fun same => noColon (same ▸ .head _)
    have later := ih fun member => noColon (.tail _ (.tail _ member))
    unfold readPairs
    rw [if_neg ends, List.any_cons]
    refine (skipToStart_pair start (Bool.eq_false_iff.mpr ends) _).trans ?_
    cases reader.timedOut (combined first second) with
    | true => rfl
    | false => exact later

end Skipping

section Filling

variable {buffer : InBuffer}

namespace InBuffer

def writeAll (buffer : InBuffer) (body : List UInt8) : InBuffer :=
  body.foldl (fun buffer value => buffer.writeByte (value.toNat : Int)) buffer

theorem writeByte_count (buffer : InBuffer) (value : Int) : (buffer.writeByte value).count = buffer.count + 1 := by
  unfold writeByte
  dsimp only
  split
  · rfl
  · split <;> rfl

theorem writeByte_length (buffer : InBuffer) (value : Int) :
    (buffer.writeByte value).inBuffer.length = buffer.inBuffer.length := by
  unfold writeByte
  dsimp only
  split
  · rfl
  · split
    · rfl
    · rename_i here
      rw [List.length_set, Option.not_isSome_iff_eq_none.mp here]
      rfl

theorem writeAll_count (buffer : InBuffer) (body : List UInt8) :
    (buffer.writeAll body).count = buffer.count + body.length := by
  induction body generalizing buffer with
  | nil => rfl
  | cons value body ih =>
    have later := ih (buffer.writeByte value.toNat)
    rw [writeByte_count] at later
    rw [List.length_cons, Nat.add_comm body.length, ← Nat.add_assoc]
    exact later

theorem writeAll_length (buffer : InBuffer) (body : List UInt8) :
    (buffer.writeAll body).inBuffer.length = buffer.inBuffer.length := by
  induction body generalizing buffer with
  | nil => rfl
  | cons value body ih => exact (ih _).trans (writeByte_length buffer _)

theorem writeAll_attached {body : List UInt8} (attached : buffer.Attached) (fits : buffer.count + body.length ≤ 256) :
    (buffer.writeAll body).Attached ∧ (buffer.writeAll body).received = buffer.received ++ body := by
  induction body generalizing buffer with
  | nil => exact ⟨attached, (List.append_nil _).symm⟩
  | cons value body ih =>
    rw [List.length_cons] at fits
    have inside : buffer.count < buffer.inBuffer.length := by
      rw [attached.2]
      omega
    have room : ¬ buffer.count + 1 > (buffer.moved.getD buffer.inBuffer).length := by
      rw [attached.1]
      exact Nat.not_lt.mpr inside
    have written : buffer.writeByte value.toNat =
        { buffer with inBuffer := buffer.inBuffer.set buffer.count value, count := buffer.count + 1 } := by
      unfold writeByte
      dsimp only
      rw [if_neg room, attached.1, octet_toNat]
      rfl
    have still : (buffer.writeByte value.toNat).Attached := by
      rw [written]
      exact ⟨attached.1, List.length_set.trans attached.2⟩
    have taken : (buffer.writeByte value.toNat).received = buffer.received ++ [value] := by
      rw [written]
      unfold received
      dsimp only
      rw [List.take_add_one, List.take_set_of_le (Nat.le_refl _), List.getElem?_set_self inside]
      rfl
    obtain ⟨attachedAll, received⟩ := ih still (by rw [writeByte_count]; omega)
    rw [taken, List.append_assoc] at received
    exact ⟨attachedAll, received⟩

end InBuffer

theorem readToEnd_bytes (buffer : InBuffer) (body more : List UInt8) :
    readToEnd buffer (writeAsciiBytes body ++ 13 :: more) = .ok (buffer.writeAll body, more) := by
  induction body generalizing buffer with
  | nil =>
    have ended : readAsciiByte (13 :: more) = .ok (FRAME_END, more) := rfl
    exact (readToEnd_of_read ended).trans (if_pos rfl)
  | cons value body ih =>
    have bounded := value.toNat_lt
    rw [writeAsciiBytes_cons, List.append_assoc, readToEnd_of_read (readAsciiByte_toHex value _),
      if_neg (ne_marks (by omega)).2, if_neg (by omega)]
    exact ih _

def InBuffer.filled (buffer : InBuffer) (body : List UInt8) : InBuffer := buffer.reset.writeAll body

theorem count_filled (buffer : InBuffer) (body : List UInt8) : (buffer.filled body).count = body.length :=
  (InBuffer.writeAll_count _ body).trans (Nat.zero_add _)

theorem attached_filled {body : List UInt8} (attached : buffer.Attached) (fits : body.length ≤ 256) :
    (buffer.filled body).Attached ∧ (buffer.filled body).received = body := by
  have start : buffer.reset.Attached := attached
  exact @InBuffer.writeAll_attached buffer.reset body start (Nat.le_trans (Nat.le_of_eq (Nat.zero_add _)) fits)

theorem calculateLRC_front (front : List UInt8) (size : Nat) (data : List UInt8) (taken : data.take size = front) :
    calculateLRC data 0 (size + 1) 1 = calculateLRC front 0 front.length 0 := by
  unfold calculateLRC
  rw [Nat.add_sub_cancel, taken, Nat.sub_zero, List.take_length]

theorem checkLRC_filled {front : List UInt8} {lrc : UInt8} (attached : buffer.Attached)
    (fits : (front ++ [lrc]).length ≤ 256) : (buffer.filled (front ++ [lrc])).checkLRC =
      .ok (decide (lrc = calculateLRC front 0 front.length 0)) := by
  obtain ⟨still, received⟩ := attached_filled attached fits
  have count := count_filled buffer (front ++ [lrc])
  unfold InBuffer.received at received
  rw [List.length_append, List.length_singleton] at fits count
  have taken : (buffer.filled (front ++ [lrc])).inBuffer.take front.length = front := by
    have shorter := congrArg (List.take front.length) received
    rw [List.take_take, count, Nat.min_eq_left (Nat.le_succ _), List.take_left] at shorter
    exact shorter
  have last : (buffer.filled (front ++ [lrc])).inBuffer.getD front.length 0 = lrc := by
    have there := congrArg (fun octets => octets[front.length]?) received
    rw [count, List.getElem?_take_of_lt (Nat.lt_succ_self _), List.getElem?_concat_length] at there
    rw [List.getD_eq_getElem?_getD, there]
    rfl
  unfold InBuffer.checkLRC
  rw [count, still.2, if_neg (by omega), Nat.add_sub_cancel, last, calculateLRC_front _ _ _ taken]
  rfl

theorem checkLRC_refuses {body : List UInt8} (attached : buffer.Attached) (size : body = [] ∨ 256 < body.length) :
    (buffer.filled body).checkLRC = .error .indexOutOfBoundsException := by
  have count := count_filled buffer body
  have length : (buffer.filled body).inBuffer.length = 256 := (InBuffer.writeAll_length _ body).trans attached.2
  unfold InBuffer.checkLRC
  rw [count, length, if_pos (size.imp_left fun none => none ▸ rfl)]
  rfl

end Filling

section Receiving

variable {reader : Reader} {buffer : InBuffer}

theorem receive_of_skip {input : List UInt8} {fault : Throwable} (failed : skipToStart reader input = .error fault) :
    receive reader buffer input = .error fault := by
  rw [receive]
  split
  · rename_i other found
    rw [failed] at found
    cases found
    rfl
  · rename_i found
    rw [failed] at found
    cases found

theorem receive_of_read {input started : List UInt8} (skipped : skipToStart reader input = .ok started) :
    receive reader buffer input = match readToEnd buffer.reset started with
      | .error fault => .error fault
      | .ok (filled, rest) => match filled.checkLRC with
        | .error fault => .error fault
        | .ok true => .ok (filled, rest)
        | .ok false => receive reader filled rest := by
  rw [receive]
  split
  · rename_i found
    rw [skipped] at found
    cases found
  · rename_i other found
    rw [skipped] at found
    cases found
    split
    · rename_i read
      rw [read]
    · rename_i read
      rewrite [read]
      rfl

/-- What is read depends on the input only behind its next colon. -/
theorem receive_congr {input other : List UInt8} (same : skipToStart reader input = skipToStart reader other) :
    receive reader buffer input = receive reader buffer other := by
  cases skipped : skipToStart reader other with
  | error fault => rw [receive_of_skip skipped, receive_of_skip (same.trans skipped)]
  | ok started => rw [receive_of_read skipped, receive_of_read (same.trans skipped)]

theorem receive_shorter {filled : InBuffer} {input rest : List UInt8}
    (received : receive reader buffer input = .ok (filled, rest)) : rest.length < input.length := by
  induction buffer, input using receive.induct reader with
  | case1 buffer input fault skipped =>
    rw [receive_of_skip skipped] at received
    cases received
  | case2 buffer input started skipped fault read =>
    rw [receive_of_read skipped, read] at received
    cases received
  | case3 buffer input started skipped other left read fault checked =>
    rw [receive_of_read skipped, read] at received
    dsimp only at received
    rw [checked] at received
    cases received
  | case4 buffer input started skipped other left read checked =>
    rw [receive_of_read skipped, read] at received
    dsimp only at received
    rw [checked] at received
    cases received
    exact Nat.lt_trans (readToEnd_shorter read) (skipToStart_shorter skipped)
  | case5 buffer input started skipped other left read checked ih =>
    rw [receive_of_read skipped, read] at received
    dsimp only at received
    rw [checked] at received
    exact Nat.lt_trans (ih received) (Nat.lt_trans (readToEnd_shorter read) (skipToStart_shorter skipped))

/-- The stream leaves the array only for a frame that is larger than it. -/
def InBuffer.Kept (buffer : InBuffer) : Prop :=
  buffer.inBuffer.length = 256 ∧ (buffer.moved = none ∨ 256 < buffer.count)

theorem kept_writeByte (kept : buffer.Kept) (value : Int) : (buffer.writeByte value).Kept := by
  obtain ⟨length, place⟩ := kept
  refine ⟨(InBuffer.writeByte_length buffer value).trans length, ?_⟩
  rw [InBuffer.writeByte_count]
  rcases place with here | long
  · unfold InBuffer.writeByte
    dsimp only
    rw [here]
    split
    · rename_i full
      rw [Option.getD_none, length] at full
      exact .inr full
    · exact .inl rfl
  · exact .inr (Nat.lt_succ_of_lt long)

theorem kept_readToEnd {filled : InBuffer} {input rest : List UInt8} (kept : buffer.Kept)
    (read : readToEnd buffer input = .ok (filled, rest)) : filled.Kept := by
  induction buffer, input using readToEnd.induct with
  | case1 buffer input fault failed =>
    rw [readToEnd_of_error failed] at read
    cases read
  | case2 buffer input left ended =>
    rw [readToEnd_of_read ended, if_pos rfl] at read
    cases read
    exact kept
  | case3 buffer input left ended stop =>
    rw [readToEnd_of_read ended, if_neg stop, if_pos rfl] at read
    cases read
  | case4 buffer input value left ended stop timedOut ih =>
    rw [readToEnd_of_read ended, if_neg stop, if_neg timedOut] at read
    exact ih (kept_writeByte kept value) read

theorem attached_of_checkLRC {same : Bool} (kept : buffer.Kept) (checked : buffer.checkLRC = .ok same) :
    buffer.Attached := by
  obtain ⟨length, here | long⟩ := kept
  · exact ⟨here, length⟩
  · unfold InBuffer.checkLRC at checked
    rw [length, if_pos (.inr long)] at checked
    cases checked

theorem attached_fresh : InBuffer.fresh.Attached := ⟨rfl, List.length_replicate⟩

theorem receive_attached {filled : InBuffer} {input rest : List UInt8} (attached : buffer.Attached)
    (received : receive reader buffer input = .ok (filled, rest)) : filled.Attached := by
  have kept (buffer : InBuffer) (attached : buffer.Attached) : buffer.reset.Kept := ⟨attached.2, .inl attached.1⟩
  induction buffer, input using receive.induct reader with
  | case1 buffer input fault skipped =>
    rw [receive_of_skip skipped] at received
    cases received
  | case2 buffer input started skipped fault read =>
    rw [receive_of_read skipped, read] at received
    cases received
  | case3 buffer input started skipped other left read fault checked =>
    rw [receive_of_read skipped, read] at received
    dsimp only at received
    rw [checked] at received
    cases received
  | case4 buffer input started skipped other left read checked =>
    rw [receive_of_read skipped, read] at received
    dsimp only at received
    rw [checked] at received
    cases received
    exact attached_of_checkLRC (kept_readToEnd (kept buffer attached) read) checked
  | case5 buffer input started skipped other left read checked ih =>
    rw [receive_of_read skipped, read] at received
    dsimp only at received
    rw [checked] at received
    exact ih (attached_of_checkLRC (kept_readToEnd (kept buffer attached) read) checked) received

theorem receive_frame (reader : Reader) (buffer : InBuffer) (noise : Noise) (body more : List UInt8) :
    receive reader buffer (noise.characters ++ (charactersOf body ++ more)) =
      if (readPairs noise.characters).1.any reader.timedOut then .error .ioException
      else match (readPairs noise.characters).2 with
        | none => match (buffer.filled body).checkLRC with
          | .error fault => .error fault
          | .ok true => .ok (buffer.filled body, 10 :: more)
          | .ok false => receive reader (buffer.filled body) more
        | some last =>
          if reader.timedOut (combined last 58) then .error .ioException else receive reader buffer more := by
  have frame : charactersOf body ++ more = 58 :: (writeAsciiBytes body ++ 13 :: 10 :: more) := by
    unfold charactersOf
    rw [List.cons_append, List.append_assoc]
    rfl
  have skipped := @skipToStart_noise reader noise.characters noise.noColon (writeAsciiBytes body ++ 13 :: 10 :: more)
  rw [frame]
  cases quiet : (readPairs noise.characters).1.any reader.timedOut with
  | true =>
    rw [quiet] at skipped
    exact receive_of_skip skipped
  | false =>
    rw [quiet] at skipped
    cases left : (readPairs noise.characters).2 with
    | none =>
      rw [left] at skipped
      rw [receive_of_read skipped, readToEnd_bytes]
      change (match (buffer.filled body).checkLRC with | .error fault => _ | .ok true => _ | .ok false => _) = _
      cases checked : (buffer.filled body).checkLRC with
      | error fault => rfl
      | ok same =>
        cases same with
        | true => rfl
        | false => exact receive_congr (skipToStart_lineEnd rfl more)
    | some last =>
      rw [left] at skipped
      dsimp only at skipped ⊢
      cases late : reader.timedOut (combined last 58) with
      | true =>
        rw [late] at skipped
        exact receive_of_skip skipped
      | false =>
        rw [late] at skipped
        -- The frame is noise as well, up to the next colon.
        have unheard : skipToStart reader (writeAsciiBytes body ++ 13 :: 10 :: more) = skipToStart reader more :=
          (skipToStart_bytes body _).trans
            ((skipToStart_lineEnd rfl _).trans (skipToStart_lineEnd rfl more))
        exact receive_congr (skipped.trans unheard)

theorem Skipped.wrong_lrc {frame : Skipped} {front : List UInt8} {lrc : UInt8} (whole : frame.body = front ++ [lrc])
    (several : frame.body ≠ [0]) : lrc ≠ calculateLRC front 0 front.length 0 := by
  cases front with
  | nil =>
      intro same
      apply several
      rw [whole, same]
      rfl
  | cons first front => exact frame.bad _ lrc whole (List.cons_ne_nil first front)

/-- One frame that is no good. The reader ends at the ones it does not pass over, with a fault or with an empty frame;
what stands behind them is left. -/
theorem receive_skipped (attached : buffer.Attached) (frame : Skipped) (more : List UInt8) :
    (PassedOver reader frame → ∃ left : InBuffer, left.Attached ∧
      receive reader buffer (frame.noise.characters ++ (charactersOf frame.body ++ more)) =
        receive reader left more) ∧
    (¬ PassedOver reader frame → ∀ ended, receive reader buffer
        (frame.noise.characters ++ (charactersOf frame.body ++ more)) = .ok ended → ended.2 = 10 :: more) := by
  rw [receive_frame]
  unfold PassedOver Quiet
  cases quiet : (readPairs frame.noise.characters).1.any reader.timedOut with
  | true => exact ⟨fun passed => (nomatch passed.1), fun _ ended received => (nomatch received)⟩
  | false =>
    cases left : (readPairs frame.noise.characters).2 with
    | some last =>
      dsimp only
      cases late : reader.timedOut (combined last 58) with
      | true => exact ⟨fun passed => (nomatch passed.2), fun _ ended received => (nomatch received)⟩
      | false => exact ⟨fun _ => ⟨buffer, attached, rfl⟩, fun refused => absurd ⟨rfl, rfl⟩ refused⟩
    | none =>
      dsimp only
      constructor
      · rintro ⟨-, some, fits, several⟩
        obtain ⟨front, lrc, whole⟩ :=
          (List.eq_nil_or_concat frame.body).resolve_left (List.ne_nil_of_length_pos some)
        rw [List.concat_eq_append] at whole
        have wrong := frame.wrong_lrc whole several
        refine ⟨buffer.filled frame.body, (attached_filled attached fits).1, ?_⟩
        have checked : (buffer.filled frame.body).checkLRC = .ok false := by
          rw [whole] at fits ⊢
          rw [checkLRC_filled attached fits, decide_eq_false wrong]
        rw [checked]
        rfl
      · intro refused ended received
        by_cases size : frame.body = [] ∨ 256 < frame.body.length
        · rw [checkLRC_refuses attached size] at received
          cases received
        · rw [not_or, Nat.not_lt] at size
          have alone : frame.body = [] ++ [0] :=
            of_not_not fun several => refused ⟨rfl, List.length_pos_iff.mpr size.1, size.2, several⟩
          have checked : (buffer.filled frame.body).checkLRC = .ok true := by
            rw [alone] at size ⊢
            rw [checkLRC_filled attached size.2]
            rfl
          rw [checked] at received
          cases received
          rfl

theorem receive_message (attached : buffer.Attached) (noise : Noise) (octets rest : List UInt8)
    (fits : octets.length ≤ 254) : (∃ filled,
      receive reader buffer (noise.characters ++ (charactersOf (octets ++ [calculateLRC octets 0 octets.length 0]) ++
        rest)) = .ok (filled, 10 :: rest) ∧ filled.received = octets ++ [calculateLRC octets 0 octets.length 0]) ↔
      Heard reader noise := by
  have size : (octets ++ [calculateLRC octets 0 octets.length 0]).length ≤ 256 := by
    rw [List.length_append, List.length_singleton]
    omega
  rw [receive_frame]
  unfold Heard Quiet
  cases quiet : (readPairs noise.characters).1.any reader.timedOut with
  | true => exact ⟨fun ⟨_, received, _⟩ => (nomatch received), fun heard => (nomatch heard.1)⟩
  | false =>
    cases left : (readPairs noise.characters).2 with
    | none =>
      rw [checkLRC_filled attached size, decide_eq_true rfl]
      exact ⟨fun _ => ⟨rfl, rfl⟩, fun _ => ⟨_, rfl, (attached_filled attached size).2⟩⟩
    | some last =>
      refine ⟨fun ⟨filled, received, _⟩ => absurd received ?_, fun heard => (nomatch heard.2)⟩
      dsimp only
      cases reader.timedOut (combined last 58) with
      | true => exact fun received => (nomatch received)
      | false =>
        -- Only what is behind the frame could still be received.
        intro received
        have shorter := receive_shorter received
        rw [List.length_cons] at shorter
        omega

end Receiving

theorem length_arriving (skipped : List Skipped) (noise body rest : List UInt8) :
    rest.length < (arriving skipped (noise ++ (charactersOf body ++ rest))).length := by
  induction skipped with
  | nil =>
      rw [arriving_nil, charactersOf, List.length_append, List.length_append, List.length_cons]
      omega
  | cons frame skipped ih =>
      rw [arriving_cons, List.length_append, List.length_append]
      omega

section Runs

variable {reader : Reader} {buffer : InBuffer} {skipped : List Skipped} {noise : Noise} {message : Outgoing}
  {octets rest : List UInt8}

theorem survives_of_written (written : message.writeTo = .ok octets) :
    Survives reader buffer skipped noise message rest ↔ ∃ filled,
      receive reader buffer (arriving skipped (noise.characters ++
        (charactersOf (octets ++ [calculateLRC octets 0 octets.length 0]) ++ rest))) = .ok (filled, 10 :: rest) ∧
      filled.received = octets ++ [calculateLRC octets 0 octets.length 0] := by
  have out : writeMessageOut message = .ok (charactersOf (octets ++ [calculateLRC octets 0 octets.length 0])) := by
    unfold writeMessageOut
    rw [written, ← writeFrame_eq]
    rfl
  constructor
  · rintro ⟨same, characters, filled, wrote, framed, received, taken⟩
    cases written.symm.trans wrote
    cases out.symm.trans framed
    exact ⟨filled, received, taken⟩
  · rintro ⟨filled, received, taken⟩
    exact ⟨octets, _, filled, written, out, received, taken⟩

/-- A message is handed on exactly if the frames before it are passed over and the noise before it leaves its colon. -/
theorem survives_iff (attached : buffer.Attached) (written : message.writeTo = .ok octets)
    (fits : octets.length ≤ 254) : Survives reader buffer skipped noise message rest ↔
      (∀ frame ∈ skipped, PassedOver reader frame) ∧ Heard reader noise := by
  rw [survives_of_written written]
  induction skipped generalizing buffer with
  | nil =>
    rw [arriving_nil, receive_message attached noise octets rest fits]
    exact ⟨fun heard => ⟨fun frame member => (nomatch member), heard⟩, And.right⟩
  | cons frame skipped ih =>
    obtain ⟨passes, stops⟩ := @receive_skipped reader buffer attached frame (arriving skipped (noise.characters ++
      (charactersOf (octets ++ [calculateLRC octets 0 octets.length 0]) ++ rest)))
    rw [arriving_cons]
    by_cases passed : PassedOver reader frame
    · obtain ⟨left, still, same⟩ := passes passed
      rw [same, ih still, List.forall_mem_cons, and_assoc]
      exact ⟨fun later => ⟨passed, later⟩, And.right⟩
    · refine ⟨fun ⟨filled, received, _⟩ => ?_, fun all => absurd (all.1 frame (.head _)) passed⟩
      -- The frame of the message would still be there.
      have left := congrArg List.length (List.cons.inj (stops passed _ received)).2
      have behind := length_arriving skipped noise.characters (octets ++ [calculateLRC octets 0 octets.length 0]) rest
      omega

theorem readIn_of_survives {Message : Type} (readFrom : DataInput Message) (written : message.writeTo = .ok octets)
    (survives : Survives reader buffer skipped noise message rest) : ∃ filled,
      readIn reader readFrom buffer (arriving skipped (noise.characters ++ (writeFrame octets ++ rest))) =
        match readFrom.run (octets ++ [calculateLRC octets 0 octets.length 0]) with
        | .error _ => .error .modbusIOException
        | .ok (message, _) => .ok (message, filled, 10 :: rest) := by
  obtain ⟨filled, received, taken⟩ := (survives_of_written written).mp survives
  refine ⟨filled, ?_⟩
  unfold readIn
  rewrite [writeFrame_eq, received, ← taken]
  rfl

def exceptionStatus : Outgoing :=
  .request { functionCode := FunctionCode.readExceptionStatus, unitID := 1, body := .readExceptionStatus }

def wrongFrame : Skipped where
  noise := ⟨[13, 10], by decide⟩
  body := [1, 1]
  bad front lrc whole _ := by
    have parts : [1] ++ [1] = front ++ [lrc] := whole
    obtain ⟨rfl, last⟩ := List.append_inj' parts rfl
    cases last
    decide

def emptyFrame : Skipped where
  noise := ⟨[], by decide⟩
  body := []
  bad front lrc whole _ := (List.append_ne_nil_of_right_ne_nil front (List.cons_ne_nil lrc []) whole.symm).elim

def emptyFrameWithLrc : Skipped where
  noise := ⟨[], by decide⟩
  body := [0]
  bad front lrc whole several := by
    have parts : [] ++ [0] = front ++ [lrc] := whole
    exact absurd (List.append_inj' parts rfl).1.symm several

theorem exceptionStatus_survives :
    Survives .readResponseIn .fresh [wrongFrame] ⟨[48, 48], by decide⟩ exceptionStatus [] := by
  refine (survives_iff attached_fresh (show exceptionStatus.writeTo = .ok [1, 7] from rfl) (by decide)).mpr
    ⟨fun frame member => ?_, rfl, rfl⟩
  cases List.mem_singleton.mp member
  exact ⟨rfl, by decide, by decide, by decide⟩

theorem not_survives_of_ended (attached : buffer.Attached) (written : message.writeTo = .ok octets) {frame : Skipped}
    (ends : ¬ PassedOver reader frame) : ¬ Survives reader buffer [frame] noise message rest := by
  intro survives
  obtain ⟨filled, received, -⟩ := (survives_of_written written).mp survives
  have left := congrArg List.length (List.cons.inj ((receive_skipped attached frame _).2 ends _ received)).2
  have behind := length_arriving [] noise.characters (octets ++ [calculateLRC octets 0 octets.length 0]) rest
  exact absurd left (Nat.ne_of_lt behind)

/-- A single character before the colon, or a frame without octets, with an LRC or without, is enough. -/
theorem not_survives_exceptionStatus :
    ¬ Survives .readRequestIn .fresh [] ⟨[65], by decide⟩ exceptionStatus [] ∧
    ¬ Survives .readRequestIn .fresh [emptyFrame] ⟨[], by decide⟩ exceptionStatus [] ∧
    ¬ Survives .readRequestIn .fresh [emptyFrameWithLrc] ⟨[], by decide⟩ exceptionStatus [] := by
  have written : exceptionStatus.writeTo = .ok [1, 7] := rfl
  refine ⟨?_, ?_, ?_⟩
  · intro survives
    have heard := (receive_message attached_fresh ⟨[65], by decide⟩ [1, 7] [] (by decide)).mp
      ((survives_of_written written).mp survives)
    cases heard.2
  · exact not_survives_of_ended attached_fresh written fun passed => absurd passed.2.1 (by decide)
  · exact not_survives_of_ended attached_fresh written fun passed => absurd rfl passed.2.2.2

end Runs

end ModbusASCIITransport

end EtherNetIP.Modbus
