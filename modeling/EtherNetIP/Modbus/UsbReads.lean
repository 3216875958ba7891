import EtherNetIP.Modbus.UsbReceiveCache

/-! What a read takes from the cache and from the driver.

The cache is filled only when it is empty, so that it never holds more than one
delivery. The octets that a read hands on are the oldest of those cached before
and of those delivered meanwhile, and the others are cached when it ends.
-/

set_option autoImplicit false

namespace EtherNetIP.Modbus

open EtherNetIP.Library

def delivered (driver : Nat → Delivery) (calls : Nat) : List UInt8 :=
  (List.range calls).flatMap fun call => (driver call).tmp

namespace AndroidUsbSerialPortIo

variable {io : AndroidUsbSerialPortIo}

theorem length_cached (io : AndroidUsbSerialPortIo) : io.cached.length = io.rxSize := Ring.length_contents _

theorem getD_ring (io : AndroidUsbSerialPortIo) (i : Nat) :
    io.rxCache.getD ((io.rxHead + i) % io.rxCache.length) 0 = io.ring.cell i := by
  rw [List.getD_eq_getElem?_getD]
  exact congrArg (Option.getD · 0) (io.ring.getElem?_place i)

theorem cacheGet_eq {dst : List UInt8} {off len : Nat} (room : off + min len io.rxSize ≤ dst.length) :
    ∃ left : AndroidUsbSerialPortIo, left.cached = io.cached.drop len ∧ io.cacheGet dst off len =
      .ok (dst.take off ++ (io.cached.take len ++ dst.drop (off + min len io.rxSize)), left, min len io.rxSize) := by
  have values : ((List.range (min len io.rxSize)).map fun i =>
      io.rxCache.getD ((io.rxHead + i) % io.rxCache.length) 0) = io.cached.take len := by
    have cells : (fun i => io.rxCache.getD ((io.rxHead + i) % io.rxCache.length) 0) = io.ring.cell := by
      funext i
      exact io.getD_ring i
    rw [cells]
    exact io.ring.map_cell len
  have count : (io.cached.take len).length = min len io.rxSize := by
    rw [List.length_take, length_cached]
  let left : AndroidUsbSerialPortIo := { io with
    rxHead := (io.rxHead + min len io.rxSize) % io.rxCache.length
    rxSize := io.rxSize - min len io.rxSize
    inside := io.ring.place_lt _
    fits := Nat.le_trans (Nat.sub_le _ _) io.fits }
  refine ⟨left, ?_, ?_⟩
  · have dropped : left.cached = io.cached.drop (min len io.rxSize) := io.ring.contents_drop _
    rw [dropped, ← io.length_cached]
    rcases Nat.le_total len io.cached.length with short | long
    · rw [Nat.min_eq_left short]
    · rw [Nat.min_eq_right long, List.drop_length, List.drop_eq_nil_of_le long]
  · unfold cacheGet
    dsimp only
    rw [if_neg (by omega), values, storeFrom_row (by rw [count]; omega), count]
    rfl

theorem cacheGet_refused {dst : List UInt8} {off len : Nat} (some : 0 < min len io.rxSize)
    (short : dst.length < off + min len io.rxSize) : io.cacheGet dst off len = .error .indexOutOfBoundsException :=
  if_pos ⟨some, short⟩

theorem cached_cachePut {src : List UInt8} (empty : io.rxSize = 0) (fits : src.length ≤ 512) :
    (io.cachePut src).cached = src := by
  have whole := io.whole
  have none : io.cached = [] := (Ring.contents_eq_nil _).mpr empty
  have room : io.rxSize + src.length ≤ io.rxCache.length := by omega
  have put : (io.cachePut src).cached = io.cached ++ src := @Ring.contents_put UInt8 io.ring src room
  rw [put, none, List.nil_append]

end AndroidUsbSerialPortIo

section Reads

variable {off len : Nat} {start : Int} {driver : Nat → Delivery} {reading next : Reading}

theorem fill_served (more : reading.total < len) (cached : 0 < reading.io.rxSize)
    (served : reading.serve off len = .ok next) :
    fill off len start driver reading = fill off len start driver next := by
  rw [fill, dif_pos more, dif_pos cached]
  split
  · rename_i found
    rw [served] at found
    cases found
  · rename_i found
    rw [served] at found
    cases found
    rfl

theorem fill_refilled (more : reading.total < len) (empty : ¬ 0 < reading.io.rxSize)
    (some : 0 < (driver reading.calls).tmp.length)
    (served : (reading.refill (driver reading.calls).tmp).serve off len = .ok next) :
    fill off len start driver reading =
      if (driver reading.calls).now - start ≥ next.io.readTimeoutMs then ⟨.ok next.result, next⟩
      else fill off len start driver next := by
  rw [fill, dif_pos more, dif_neg empty, dif_pos some]
  split
  · rename_i found
    rw [served] at found
    cases found
  · rename_i found
    rw [served] at found
    cases found
    rfl

theorem fill_failed {fault : Throwable} (more : reading.total < len) (empty : ¬ 0 < reading.io.rxSize)
    (some : 0 < (driver reading.calls).tmp.length)
    (failed : (reading.refill (driver reading.calls).tmp).serve off len = .error fault) :
    fill off len start driver reading = ⟨.error fault, reading.refill (driver reading.calls).tmp⟩ := by
  rw [fill, dif_pos more, dif_neg empty, dif_pos some]
  split
  · rename_i found
    rw [failed] at found
    cases found
    rfl
  · rename_i found
    rw [failed] at found
    cases found

theorem fill_timedOut (more : reading.total < len) (empty : ¬ 0 < reading.io.rxSize)
    (none : ¬ 0 < (driver reading.calls).tmp.length) : fill off len start driver reading =
      ⟨.ok reading.result, { reading with calls := reading.calls + 1 }⟩ := by
  rw [fill, dif_pos more, dif_neg empty, dif_neg none]

theorem fill_done (done : ¬ reading.total < len) :
    fill off len start driver reading = ⟨.ok reading.result, reading⟩ := by
  rw [fill, dif_neg done]

end Reads

structure Filled (off : Nat) (before cached : List UInt8) (driver : Nat → Delivery) (reading : Reading)
    (taken : List UInt8) : Prop where
  array : reading.b = before.take off ++ (taken ++ before.drop (off + taken.length))
  total : reading.total = taken.length
  queue : taken ++ reading.io.cached = cached ++ delivered driver reading.calls
  high : reading.high ≤ 512

namespace Filled

variable {off len : Nat} {before cached taken : List UInt8} {driver : Nat → Delivery} {reading : Reading}

theorem start (io : AndroidUsbSerialPortIo) (before : List UInt8) :
    Filled off before io.cached driver (.start io before) [] where
  array := (List.take_append_drop off before).symm
  total := rfl
  queue := (List.append_nil _).symm
  high := Nat.zero_le _

theorem serve (filled : Filled off before cached driver reading taken) (room : off + len ≤ before.length)
    (within : taken.length ≤ len) : ∃ next, reading.serve off len = .ok next ∧
      ∃ all, Filled off before cached driver next all ∧ all.length ≤ len := by
  obtain ⟨array, total, queue, high⟩ := filled
  have front : (before.take off ++ taken).length = off + taken.length := by
    rw [List.length_append, List.length_take_of_le (by omega)]
  have length : reading.b.length = before.length := by
    rw [array, List.length_append, List.length_append, List.length_take, List.length_drop]
    omega
  rw [← List.append_assoc] at array
  obtain ⟨left, rest, got⟩ := @AndroidUsbSerialPortIo.cacheGet_eq reading.io reading.b (off + reading.total)
    (len - reading.total) (by rw [length, total]; omega)
  have count : (reading.io.cached.take (len - reading.total)).length = min (len - reading.total) reading.io.rxSize := by
    rw [List.length_take, AndroidUsbSerialPortIo.length_cached]
  have written : reading.b.take (off + reading.total) = before.take off ++ taken := by
    rw [array, total, List.take_left' front]
  have behind (count : Nat) :
      reading.b.drop (off + reading.total + count) = before.drop (off + taken.length + count) := by
    rw [array, total, ← List.drop_drop, List.drop_left' front, List.drop_drop]
  refine ⟨_, (congrArg (· >>= _) got).trans rfl, taken ++ reading.io.cached.take (len - reading.total),
    ⟨?_, ?_, ?_, high⟩, ?_⟩
  · dsimp only
    rw [written, behind, List.length_append, count, List.append_assoc, List.append_assoc, Nat.add_assoc]
  · dsimp only
    rw [List.length_append, count, total]
  · dsimp only
    rw [rest, List.append_assoc, List.take_append_drop, queue]
  · rw [List.length_append, count, total]
    omega

theorem refill (filled : Filled off before cached driver reading taken) (empty : reading.io.rxSize = 0) :
    Filled off before cached driver (reading.refill (driver reading.calls).tmp) taken := by
  have fits := (driver reading.calls).fits
  have none : reading.io.cached = [] := (Ring.contents_eq_nil _).mpr empty
  have queue := filled.queue
  rw [none, List.append_nil] at queue
  refine ⟨filled.array, filled.total, ?_, ?_⟩
  · change taken ++ (reading.io.cachePut _).cached = cached ++ delivered driver (reading.calls + 1)
    unfold delivered
    rw [AndroidUsbSerialPortIo.cached_cachePut empty fits, List.range_succ, List.flatMap_append, List.flatMap_singleton,
      ← List.append_assoc]
    exact congrArg (· ++ _) queue
  · have high := filled.high
    change max reading.high (reading.io.rxSize + _) ≤ 512
    omega

theorem call (filled : Filled off before cached driver reading taken)
    (none : ¬ 0 < (driver reading.calls).tmp.length) :
    Filled off before cached driver { reading with calls := reading.calls + 1 } taken := by
  refine ⟨filled.array, filled.total, ?_, filled.high⟩
  have nothing : (driver reading.calls).tmp = [] := List.eq_nil_of_length_eq_zero (by omega)
  dsimp only
  unfold delivered
  rw [List.range_succ, List.flatMap_append, List.flatMap_singleton, nothing, List.append_nil]
  exact filled.queue

/-- The loop ends with the result of its last state. If that is no octet at all, the cache is empty. -/
theorem fill {start : Int} (filled : Filled off before cached driver reading taken) (room : off + len ≤ before.length)
    (within : taken.length ≤ len) (positive : 0 < len) :
    (fill off len start driver reading).outcome = .ok (fill off len start driver reading).reading.result ∧
    ((fill off len start driver reading).reading.total = 0 →
      (fill off len start driver reading).reading.io.rxSize = 0) ∧
    ∃ all, Filled off before cached driver (fill off len start driver reading).reading all ∧
      all.length ≤ len := by
  induction reading using fill.induct off len start driver generalizing taken with
  | case1 reading more ready fault failed =>
    obtain ⟨next, served, -⟩ := filled.serve room within
    cases failed.symm.trans served
  | case2 reading more ready next served ih =>
    obtain ⟨other, same, all, later, inside⟩ := filled.serve room within
    cases served.symm.trans same
    rw [fill_served more ready served]
    exact ih later inside
  | case3 reading more empty some fault failed =>
    obtain ⟨next, served, -⟩ := (filled.refill (Nat.eq_zero_of_not_pos empty)).serve room within
    cases failed.symm.trans served
  | case4 reading more empty some next served late =>
    obtain ⟨other, same, all, later, inside⟩ := (filled.refill (Nat.eq_zero_of_not_pos empty)).serve room within
    cases served.symm.trans same
    rw [fill_refilled more empty some served, if_pos late]
    refine ⟨rfl, fun nothing => ?_, all, later, inside⟩
    have total := Reading.serve_total served
    have size := Reading.refill_size reading some
    change next.total = 0 at nothing
    change next.total =
      reading.total + min (len - reading.total) (reading.refill (driver reading.calls).tmp).io.rxSize at total
    omega
  | case5 reading more empty some next served early ih =>
    obtain ⟨other, same, all, later, inside⟩ := (filled.refill (Nat.eq_zero_of_not_pos empty)).serve room within
    cases served.symm.trans same
    rw [fill_refilled more empty some served, if_neg early]
    exact ih later inside
  | case6 reading more empty none =>
    rw [fill_timedOut more empty none]
    exact ⟨rfl, fun _ => Nat.eq_zero_of_not_pos empty, taken, filled.call none, within⟩
  | case7 reading done =>
    rw [fill_done done]
    refine ⟨rfl, fun nothing => ?_, taken, filled, within⟩
    change reading.total = 0 at nothing
    omega

end Filled

def Ending.octets (ending : Ending) (off : Nat) : List UInt8 :=
  match ending.outcome with
  | .ok n => (ending.reading.b.drop off).take n.toNat
  | .error _ => []

def Ending.value (ending : Ending) : List UInt8 :=
  match ending.outcome with
  | .ok value => if value = -1 then [] else [octet value]
  | .error _ => []

/-- The octets handed on are the oldest of those cached and delivered, and the others are cached. -/
structure Conveys (io : AndroidUsbSerialPortIo) (driver : Nat → Delivery) (ending : Ending) (octets : List UInt8) :
    Prop where
  queue : octets ++ ending.reading.io.cached = io.cached ++ delivered driver ending.reading.calls
  high : ending.reading.high ≤ 512
  none : ending.outcome = .ok (-1) → octets = [] ∧ ending.reading.io.cached = []

theorem Filled.conveys {off : Nat} {io : AndroidUsbSerialPortIo} {before all : List UInt8} {driver : Nat → Delivery}
    {ending : Ending} (filled : Filled off before io.cached driver ending.reading all) (room : off ≤ before.length)
    (outcome : ending.outcome = .ok ending.reading.result)
    (empty : ending.reading.total = 0 → ending.reading.io.rxSize = 0) :
    ending.octets off = all ∧ Conveys io driver ending all := by
  have taken : (ending.reading.b.drop off).take ending.reading.result.toNat = all := by
    rw [filled.array, List.drop_left' (List.length_take_of_le room)]
    unfold Reading.result
    rw [filled.total]
    split
    · rename_i none
      exact (List.eq_nil_of_length_eq_zero none).symm
    · exact List.take_left' (Int.toNat_natCast _).symm
  refine ⟨?_, filled.queue, filled.high, fun none => ?_⟩
  · unfold Ending.octets
    rw [outcome]
    exact taken
  · have nothing : ending.reading.total = 0 := by
      have result := Except.ok.inj (outcome.symm.trans none)
      unfold Reading.result at result
      split at result
      · assumption
      · omega
    have cached := empty nothing
    rw [← AndroidUsbSerialPortIo.length_cached] at cached
    exact ⟨List.eq_nil_of_length_eq_zero (filled.total.symm.trans nothing), List.eq_nil_of_length_eq_zero cached⟩

namespace AndroidUsbSerialPortIo

variable {io : AndroidUsbSerialPortIo} {off len : Int32} {start : Int} {driver : Nat → Delivery}

theorem read_refused {fault : Throwable} (b : List UInt8) : Conveys io driver ⟨.error fault, .start io b⟩ [] :=
  ⟨(List.append_nil _).symm, Nat.zero_le _, fun other => (nomatch other)⟩

theorem read_conveys (io : AndroidUsbSerialPortIo) (b : Option (List UInt8)) (start : Int) (driver : Nat → Delivery)
    (sum : off.toInt + len.toInt < 2 ^ 31) :
    Conveys io driver (io.read b off len start driver)
      ((io.read b off len start driver).octets off.toInt.toNat) := by
  unfold read
  cases b with
  | none => exact read_refused []
  | some b =>
    dsimp only
    by_cases outside : off.toInt < 0 ∨ len.toInt < 0 ∨ (off + len).toInt > b.length
    · rw [if_pos outside]
      exact read_refused b
    · rw [if_neg outside]
      by_cases none : len = 0
      · rw [if_pos none]
        exact ⟨(List.append_nil _).symm, Nat.zero_le _, fun other => (nomatch other)⟩
      · rw [if_neg none]
        rw [not_or, not_or, Int32.toInt_add, Int.bmod_eq_of_le (by omega) (by omega)] at outside
        have some : len.toInt ≠ 0 := fun zero => none (Int32.toInt_inj.mp zero)
        obtain ⟨outcome, empty, all, filled, -⟩ := @Filled.fill off.toInt.toNat len.toInt.toNat b io.cached []
          driver (.start io b) start (.start io b) (by omega) (Nat.zero_le _) (by omega)
        obtain ⟨octets, conveys⟩ := filled.conveys (by omega) outcome empty
        rw [octets]
        exact conveys

theorem read_one (io : AndroidUsbSerialPortIo) (one : UInt8) (start : Int) (driver : Nat → Delivery) :
    io.read (some [one]) 0 1 start driver = fill 0 1 start driver (.start io [one]) := by
  unfold read
  dsimp only
  rw [List.length_singleton, if_neg (by decide), if_neg (by decide)]
  rfl

theorem readOne_conveys (io : AndroidUsbSerialPortIo) (one : UInt8) (start : Int) (driver : Nat → Delivery) :
    Conveys io driver (io.readOne one start driver) (io.readOne one start driver).value := by
  obtain ⟨outcome, empty, all, filled, inside⟩ := @Filled.fill 0 1 [one] io.cached [] driver
    (.start io [one]) start (.start io [one]) (Nat.le_refl _) (Nat.zero_le _) Nat.one_pos
  have conveys := (filled.conveys (Nat.zero_le _) outcome empty).2
  unfold readOne Ending.value
  rw [read_one]
  dsimp only
  rw [outcome]
  match all, inside, filled.total, filled.array with
  | [], _, total, _ =>
    have result : (fill 0 1 start driver (.start io [one])).reading.result = -1 := if_pos total
    rw [result]
    exact ⟨conveys.queue, conveys.high, fun _ => conveys.none (result ▸ outcome)⟩
  | [value], _, total, array =>
    have result : (fill 0 1 start driver (.start io [one])).reading.result = 1 := by
      unfold Reading.result
      rw [total]
      rfl
    have first : (fill 0 1 start driver (.start io [one])).reading.b.getD 0 0 = value := by
      rw [array]
      rfl
    have other : ¬ ((value.toNat : Int) = -1) := by omega
    rw [result, first]
    change Conveys io driver ⟨.ok (value.toNat : Int), _⟩
      (if (value.toNat : Int) = -1 then [] else [octet value.toNat])
    rw [if_neg other, octet_toNat]
    exact ⟨conveys.queue, conveys.high, fun same => absurd (Except.ok.inj same) other⟩

end AndroidUsbSerialPortIo

theorem serve_one {reading : Reading} {value : UInt8} {rest : List UInt8} (cached : reading.io.cached = value :: rest)
    (none : reading.total = 0) (one : reading.b.length = 1) : ∃ next, reading.serve 0 1 = .ok next ∧
      next.total = 1 ∧ next.b = [value] ∧ next.io.cached = rest ∧ next.calls = reading.calls := by
  have size : min 1 reading.io.rxSize = 1 := by
    rw [← reading.io.length_cached, cached, List.length_cons]
    omega
  obtain ⟨left, others, got⟩ := @AndroidUsbSerialPortIo.cacheGet_eq reading.io reading.b 0 1 (by omega)
  rw [size, cached, List.drop_eq_nil_of_le (Nat.le_of_eq one)] at got
  refine ⟨{ reading with b := [value], io := left, total := 1 }, ?_, rfl, rfl, others.trans (cached ▸ rfl), rfl⟩
  unfold Reading.serve
  rw [none, Nat.zero_add, Nat.sub_zero, got]
  rfl

namespace AndroidUsbSerialPortIo

variable {io : AndroidUsbSerialPortIo} {one value : UInt8} {rest : List UInt8} {start : Int} {driver : Nat → Delivery}

theorem value_of_outcome {ending : Ending} (outcome : ending.outcome = .ok (value.toNat : Int)) :
    ending.value = [value] := by
  have other : ¬ ((value.toNat : Int) = -1) := by omega
  unfold Ending.value
  rw [outcome]
  dsimp only
  rw [if_neg other, octet_toNat]

theorem readOne_ended {next : Reading} (ended : io.read (some [one]) 0 1 start driver = ⟨.ok next.result, next⟩)
    (total : next.total = 1) (array : next.b = [value]) :
    io.readOne one start driver = ⟨.ok (value.toNat : Int), next⟩ := by
  have result : next.result = 1 := by
    unfold Reading.result
    rw [total]
    rfl
  unfold readOne
  rw [ended]
  dsimp only
  rw [result, array]
  rfl

theorem readOne_cached (cached : io.cached = value :: rest) :
    (io.readOne one start driver).outcome = .ok (value.toNat : Int) ∧
    (io.readOne one start driver).reading.io.cached = rest ∧ (io.readOne one start driver).reading.calls = 0 := by
  obtain ⟨next, served, total, array, others, calls⟩ := @serve_one (.start io [one]) value rest cached rfl rfl
  have size : 0 < io.rxSize := by
    rw [← io.length_cached, cached]
    exact Nat.succ_pos _
  have done : ¬ next.total < 1 := by
    rw [total]
    exact Nat.lt_irrefl 1
  have ended : io.read (some [one]) 0 1 start driver = ⟨.ok next.result, next⟩ := by
    rw [read_one, @fill_served 0 1 start driver (.start io [one]) next Nat.one_pos size served, fill_done done]
  rw [readOne_ended ended total array]
  exact ⟨rfl, others, calls⟩

theorem readOne_refilled (empty : io.rxSize = 0) (delivery : (driver 0).tmp = value :: rest) :
    (io.readOne one start driver).outcome = .ok (value.toNat : Int) ∧
    (io.readOne one start driver).reading.io.cached = rest ∧ (io.readOne one start driver).reading.calls = 1 := by
  have put : ((Reading.start io [one]).refill (driver 0).tmp).io.cached = value :: rest :=
    (cached_cachePut empty (driver 0).fits).trans delivery
  obtain ⟨next, served, total, array, others, calls⟩ := @serve_one _ value rest put rfl rfl
  have positive : 0 < (driver 0).tmp.length := by
    rw [delivery]
    exact Nat.succ_pos _
  have done : ¬ next.total < 1 := by
    rw [total]
    exact Nat.lt_irrefl 1
  have ended : io.read (some [one]) 0 1 start driver = ⟨.ok next.result, next⟩ := by
    rw [read_one, @fill_refilled 0 1 start driver (.start io [one]) next Nat.one_pos
      (Nat.not_lt.mpr (Nat.le_of_eq empty)) positive served, fill_done done, ite_self]
  rw [readOne_ended ended total array]
  exact ⟨rfl, others, calls⟩

/-- A read whose bounds overflow may take the last cached octet to the end of the array. What the driver delivers
then is cached, and the octet is lost with the exception. -/
theorem read_overflows {b : List UInt8} {off len : Int32} (cached : io.cached = [value]) (first : 0 ≤ off.toInt)
    (overflow : 2 ^ 31 ≤ off.toInt + len.toInt) (last : b.length = off.toInt.toNat + 1) (long : 2 ≤ len.toInt)
    (some : 0 < (driver 0).tmp.length) : ∃ reading,
      io.read (.some b) off len start driver = ⟨.error .indexOutOfBoundsException, reading⟩ ∧
      reading.io.cached = (driver 0).tmp ∧ reading.calls = 1 := by
  have fits := (driver 0).fits
  have upper := off.toInt_lt
  have upperLength := len.toInt_lt
  have size : io.rxSize = 1 := by
    rw [← io.length_cached, cached]
    rfl
  -- the sum of the bounds wraps around, and the check lets it pass
  have passes : ¬ (off.toInt < 0 ∨ len.toInt < 0 ∨ (off + len).toInt > b.length) := by
    have wraps : (off + len).toInt < 0 := by
      rw [Int32.toInt_add, Int.bmod_def]
      omega
    omega
  have positive : len ≠ 0 := by
    rintro rfl
    exact absurd long (by decide)
  obtain ⟨left, others, got⟩ := @cacheGet_eq io b off.toInt.toNat len.toInt.toNat (by omega)
  have one : min len.toInt.toNat io.rxSize = 1 := by omega
  rw [one] at got
  have empty : left.rxSize = 0 := by
    rw [← left.length_cached, others, cached, List.drop_eq_nil_of_le (by rw [List.length_singleton]; omega)]
    rfl
  let next : Reading := ⟨left, b.take off.toInt.toNat ++ (io.cached.take len.toInt.toNat ++
    b.drop (off.toInt.toNat + 1)), 1, 0, 0⟩
  have served : (Reading.start io b).serve off.toInt.toNat len.toInt.toNat = .ok next := by
    unfold Reading.serve
    dsimp only [Reading.start]
    rw [Nat.add_zero, Nat.sub_zero, got]
    rfl
  have length : next.b.length = off.toInt.toNat + 1 := by
    change (b.take off.toInt.toNat ++ (io.cached.take len.toInt.toNat ++ b.drop (off.toInt.toNat + 1))).length = _
    rw [List.length_append, List.length_append, List.length_take, List.length_take, List.length_drop, cached,
      List.length_singleton]
    omega
  have put : (next.refill (driver 0).tmp).io.cached = (driver 0).tmp := cached_cachePut empty fits
  -- the array is full, and the turn has something to store
  have failed : (next.refill (driver 0).tmp).serve off.toInt.toNat len.toInt.toNat =
      .error .indexOutOfBoundsException := by
    have filled : (next.refill (driver 0).tmp).io.rxSize = (driver 0).tmp.length := by
      rw [← length_cached, put]
    have refused := @cacheGet_refused (next.refill (driver 0).tmp).io next.b (off.toInt.toNat + 1)
      (len.toInt.toNat - 1) (by omega) (by omega)
    unfold Reading.serve
    exact (congrArg (· >>= _) refused).trans rfl
  refine ⟨next.refill (driver 0).tmp, ?_, put, rfl⟩
  unfold read
  dsimp only
  rw [if_neg passes, if_neg positive, @fill_served _ _ _ _ (.start io b) next (by change 0 < _; omega)
    (by change 0 < io.rxSize; omega) served]
  exact @fill_failed _ _ _ _ next _ (by change 1 < _; omega) (by change ¬ 0 < left.rxSize; omega) some failed

end AndroidUsbSerialPortIo

end EtherNetIP.Modbus
