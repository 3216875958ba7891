import EtherNetIP.Modbus.DataStreams
import EtherNetIP.Library.Rings

/-! The receive cache of the USB port, and the input stream that reads from it.

A read is served from the cache, and from the driver once the cache is empty. The
cache belongs to the port, and every stream that the port opens reads from it.
-/

set_option autoImplicit false

namespace EtherNetIP.Modbus

open EtherNetIP.Library

/-- What the driver leaves in the 512 octets it is given, none for a timeout, and the time after that. -/
structure Delivery where
  tmp : List UInt8
  fits : tmp.length ≤ 512
  now : Int

structure AndroidUsbSerialPortIo where
  readTimeoutMs : Int
  rxCache : List UInt8
  rxHead : Nat
  rxSize : Nat
  whole : rxCache.length = 4096
  inside : rxHead < rxCache.length
  fits : rxSize ≤ rxCache.length

namespace AndroidUsbSerialPortIo

def new : AndroidUsbSerialPortIo where
  readTimeoutMs := 1000
  rxCache := List.replicate 4096 0
  rxHead := 0
  rxSize := 0
  whole := List.length_replicate
  inside := by
    rw [List.length_replicate]
    decide
  fits := Nat.zero_le _

def ring (io : AndroidUsbSerialPortIo) : Library.Ring UInt8 := ⟨io.rxCache, io.rxHead, io.rxSize, io.inside, io.fits⟩

def cached (io : AndroidUsbSerialPortIo) : List UInt8 := io.ring.contents

/-- The array, the port and the count. Behind the end of the array, nothing is taken from the cache. -/
def cacheGet (io : AndroidUsbSerialPortIo) (dst : List UInt8) (off len : Nat) :
    Except Throwable (List UInt8 × AndroidUsbSerialPortIo × Nat) :=
  let n := min len io.rxSize
  let values := (List.range n).map fun i => io.rxCache.getD ((io.rxHead + i) % io.rxCache.length) 0
  if 0 < n ∧ dst.length < off + n then throw .indexOutOfBoundsException
  else return (storeFrom (off + ·) 0 values dst,
    { io with
      rxHead := (io.rxHead + n) % io.rxCache.length
      rxSize := io.rxSize - n
      inside := io.ring.place_lt n
      fits := Nat.le_trans (Nat.sub_le _ _) io.fits }, n)

def cachePut (io : AndroidUsbSerialPortIo) (src : List UInt8) : AndroidUsbSerialPortIo :=
  let tail := (io.rxHead + io.rxSize) % io.rxCache.length
  { io with
    rxCache := storeFrom (fun i => (tail + i) % io.rxCache.length) 0 src io.rxCache
    rxSize := min (io.rxSize + src.length) io.rxCache.length
    whole := (length_storeFrom _ _ _ _).trans io.whole
    inside := (io.ring.put src).inside
    fits := (io.ring.put src).fits }

/-- What opening and closing do to the cache: nothing. -/
def open' (io : AndroidUsbSerialPortIo) : AndroidUsbSerialPortIo := io

def close (io : AndroidUsbSerialPortIo) : AndroidUsbSerialPortIo := io

def setTimeouts (io : AndroidUsbSerialPortIo) (readMillis : Int) : AndroidUsbSerialPortIo :=
  { io with readTimeoutMs := readMillis }

end AndroidUsbSerialPortIo

/-- A read on its way: the port, the array and the total, how often the driver was read, and the most octets
that the cache had to hold. -/
structure Reading where
  io : AndroidUsbSerialPortIo
  b : List UInt8
  total : Nat
  calls : Nat
  high : Nat

namespace Reading

def start (io : AndroidUsbSerialPortIo) (b : List UInt8) : Reading := ⟨io, b, 0, 0, 0⟩

def serve (reading : Reading) (off len : Nat) : Except Throwable Reading := do
  let (b, io, n) ← reading.io.cacheGet reading.b (off + reading.total) (len - reading.total)
  return { reading with b, io, total := reading.total + n }

def refill (reading : Reading) (tmp : List UInt8) : Reading where
  io := reading.io.cachePut tmp
  b := reading.b
  total := reading.total
  calls := reading.calls + 1
  high := max reading.high (reading.io.rxSize + tmp.length)

def result (reading : Reading) : Int := if reading.total = 0 then -1 else reading.total

theorem serve_total {reading next : Reading} {off len : Nat} (served : reading.serve off len = .ok next) :
    next.total = reading.total + min (len - reading.total) reading.io.rxSize := by
  unfold serve AndroidUsbSerialPortIo.cacheGet at served
  dsimp only at served
  split at served
  · cases served
  · cases served
    rfl

theorem refill_size (reading : Reading) {tmp : List UInt8} (some : 0 < tmp.length) :
    0 < (reading.refill tmp).io.rxSize := by
  have whole := reading.io.whole
  change 0 < min (reading.io.rxSize + tmp.length) reading.io.rxCache.length
  omega

end Reading

structure Ending where
  outcome : Except Throwable Int
  reading : Reading

/-- The loop, for a read that the driver answers with the deliveries one after the other. -/
def fill (off len : Nat) (start : Int) (driver : Nat → Delivery) (reading : Reading) : Ending :=
  if _more : reading.total < len then
    -- serve from cache first
    if _cached : 0 < reading.io.rxSize then
      match _served : reading.serve off len with
      | .error fault => ⟨.error fault, reading⟩
      | .ok next => fill off len start driver next
    else if _some : 0 < (driver reading.calls).tmp.length then
      match _served : (reading.refill (driver reading.calls).tmp).serve off len with
      | .error fault => ⟨.error fault, reading.refill (driver reading.calls).tmp⟩
      | .ok next =>
        if (driver reading.calls).now - start ≥ next.io.readTimeoutMs then ⟨.ok next.result, next⟩
        else fill off len start driver next
    else ⟨.ok reading.result, { reading with calls := reading.calls + 1 }⟩
  else ⟨.ok reading.result, reading⟩
termination_by len - reading.total
decreasing_by
  · have total := Reading.serve_total _served
    omega
  · have total := Reading.serve_total _served
    have size := Reading.refill_size reading _some
    change _ = reading.total + min (len - reading.total) _ at total
    omega

namespace AndroidUsbSerialPortIo

/-- The read of several octets. The bound check adds ints, which may overflow. -/
def read (io : AndroidUsbSerialPortIo) (b : Option (List UInt8)) (off len : Int32) (start : Int)
    (driver : Nat → Delivery) : Ending :=
  match b with
  | none => ⟨.error .nullPointerException, .start io []⟩
  | some b =>
    if off.toInt < 0 ∨ len.toInt < 0 ∨ (off + len).toInt > b.length then
      ⟨.error .indexOutOfBoundsException, .start io b⟩
    else if len = 0 then ⟨.ok 0, .start io b⟩
    else fill off.toInt.toNat len.toInt.toNat start driver (.start io b)

def readOne (io : AndroidUsbSerialPortIo) (one : UInt8) (start : Int) (driver : Nat → Delivery) : Ending :=
  let ending := io.read (some [one]) 0 1 start driver
  { ending with
    outcome := do
      let n ← ending.outcome
      return if n = -1 then -1 else (ending.reading.b.getD 0 0).toNat }

end AndroidUsbSerialPortIo

end EtherNetIP.Modbus
