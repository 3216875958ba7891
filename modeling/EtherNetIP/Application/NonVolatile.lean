import EtherNetIP.Cip.AttributeServices
import EtherNetIP.Library.DecimalText

/-! The file that keeps the values of the QoS object.

Five values stand in it as decimal numbers. They are loaded only if there are
five numbers that are octets; otherwise the object keeps what it has. Nothing is
stored for a file that cannot be opened, and no error is returned.
-/

set_option autoImplicit false

namespace EtherNetIP

open Library

section Object

structure CipQosDscpValues where
  event : UInt8
  general : UInt8
  urgent : UInt8
  scheduled : UInt8
  high : UInt8
  low : UInt8
  explicitMsg : UInt8
  deriving DecidableEq, Repr

@[ext]
structure CipQosObject where
  qFramesEnable : UInt8
  dscp : CipQosDscpValues
  deriving DecidableEq, Repr

namespace CipQosDscpValues

def defaults : CipQosDscpValues where
  event := 59
  general := 47
  urgent := 55
  scheduled := 47
  high := 43
  low := 31
  explicitMsg := 27

def cipQosGetDscpPriority (activeDscp : CipQosDscpValues) : Option ConnectionObjectPriority → UInt8
  | some .low => activeDscp.low
  | some .high => activeDscp.high
  | some .scheduled => activeDscp.scheduled
  | some .urgent => activeDscp.urgent
  | none => activeDscp.explicitMsg

end CipQosDscpValues

namespace CipMemory

def gQos (memory : CipMemory) : CipQosObject where
  qFramesEnable := memory .octet .qosQFramesEnable
  dscp :=
    { event := memory .octet .qosDscpEvent
      general := memory .octet .qosDscpGeneral
      urgent := memory .octet .qosDscpUrgent
      scheduled := memory .octet .qosDscpScheduled
      high := memory .octet .qosDscpHigh
      low := memory .octet .qosDscpLow
      explicitMsg := memory .octet .qosDscpExplicitMsg }

def assign (memory : CipMemory) (name : Variable) (value : UInt8) : CipMemory :=
  memory.write (⟨name⟩ : CipPointer .octet) value

def assignStored (memory : CipMemory) (dscp : CipQosDscpValues) : CipMemory :=
  ((((memory.assign .qosDscpUrgent dscp.urgent).assign .qosDscpScheduled dscp.scheduled).assign .qosDscpHigh
    dscp.high).assign .qosDscpLow dscp.low).assign .qosDscpExplicitMsg dscp.explicitMsg

def cipQosResetAttributesToDefaultValues (memory : CipMemory) : CipMemory :=
  (((memory.assign .qosQFramesEnable 0).assign .qosDscpEvent CipQosDscpValues.defaults.event).assign .qosDscpGeneral
    CipQosDscpValues.defaults.general).assignStored .defaults

end CipMemory

end Object

section Files

abbrev StoredText := Option (List Char)

/-- How the file is read; one that is not there is not opened. -/
structure FileRead where
  opened : Bool
  closed : Bool
  deriving DecidableEq, Repr

structure FileWrite where
  opened : Bool
  printed : Bool
  closed : Bool
  cutOff : Option Nat
  deriving DecidableEq, Repr

def FileRead.complete : FileRead := ⟨true, true⟩

def FileWrite.complete : FileWrite := ⟨true, true, true, none⟩

/-- The file behind an attempt to write a text; opening it has taken away what it held. -/
def FileWrite.leaves (write : FileWrite) (text : List Char) (file : StoredText) : StoredText :=
  if write.opened then some ((write.cutOff.map text.take).getD text) else file

end Files

section Storage

open DecimalText

/-- The number `strtoul` makes of a numeral, in as many bits as an `unsigned int` has. One that is too large becomes the
largest, whatever its sign. -/
def strtoul (numeral : Numeral) : UInt32 :=
  -- A sign in front of a number that is not too large is arithmetic modulo `2 ^ 64`.
  let magnitude := UInt64.ofNat (min numeral.magnitude (2 ^ 64 - 1))
  if numeral.negative ∧ numeral.magnitude < 2 ^ 64 then (-magnitude).toUInt32 else magnitude.toUInt32

def fscanf (text : List Char) : List UInt32 := (readNumerals ',' 5 text).map strtoul

def fprintf (dscp : CipQosDscpValues) : List Char :=
  printed ',' ['\n'] [dscp.urgent.toNat, dscp.scheduled.toNat, dscp.high.toNat, dscp.low.toNat, dscp.explicitMsg.toNat]

def storedValues (dscp : CipQosDscpValues) : List UInt32 → Option CipQosDscpValues
  | [urgent, scheduled, high, low, explicitMsg] =>
      if urgent > 255 ∨ scheduled > 255 ∨ high > 255 ∨ low > 255 ∨ explicitMsg > 255 then none
      else
        some { dscp with
          urgent := urgent.toUInt8
          scheduled := scheduled.toUInt8
          high := high.toUInt8
          low := low.toUInt8
          explicitMsg := explicitMsg.toUInt8 }
  | _ => none

def nvQosLoad (read : FileRead) (file : StoredText) (memory : CipMemory) : EipStatus × CipMemory :=
  match file with
  | none => (.error, memory)
  | some text =>
      if read.opened ∧ read.closed then
        match storedValues memory.gQos.dscp (fscanf text) with
        | none => (.error, memory)
        | some dscp => (.ok, memory.assignStored dscp)
      else (.error, memory)

/-- A file that cannot be opened is no error. -/
def nvQosStore (write : FileWrite) (memory : CipMemory) (file : StoredText) : EipStatus × StoredText :=
  (if write.opened ∧ ¬(write.printed ∧ write.closed) then .error else .ok,
    write.leaves (fprintf memory.gQos.dscp) file)

/-- The values are stored again only if they have been loaded. -/
def nvdataLoad (read : FileRead) (write : FileWrite) (file : StoredText) (memory : CipMemory) :
    EipStatus × CipMemory × StoredText :=
  let (eipStatus, memory) := nvQosLoad read file memory
  if eipStatus ≠ .error then
    let (stored, file) := nvQosStore write memory file
    (if stored = .error then .error else eipStatus, memory, file)
  else (eipStatus, memory, file)

end Storage

section Memory

variable (memory : CipMemory) (name other : Variable) (value : UInt8) (dscp : CipQosDscpValues)

theorem CipMemory.assign_octet :
    memory.assign name value .octet other = if other = name then value else memory .octet other := by
  simp only [assign, write, Function.update_self, Function.update_apply]

@[simp] theorem CipMemory.gQos_assignStored :
    (memory.assignStored dscp).gQos =
      { memory.gQos with
        dscp := { dscp with event := memory.gQos.dscp.event, general := memory.gQos.dscp.general } } := by
  simp [gQos, assignStored, assign_octet]

@[simp] theorem CipMemory.gQos_reset : memory.cipQosResetAttributesToDefaultValues.gQos = ⟨0, .defaults⟩ := by
  simp [cipQosResetAttributesToDefaultValues, gQos, assignStored, assign_octet, CipQosDscpValues.defaults]

end Memory

section RoundTrip

open DecimalText

variable {dscp other read : CipQosDscpValues} {numbers : List UInt32}

def CipQosDscpValues.stored (dscp : CipQosDscpValues) : List UInt8 :=
  [dscp.urgent, dscp.scheduled, dscp.high, dscp.low, dscp.explicitMsg]

theorem toUInt32_toUInt8 {number : UInt32} (small : ¬number > 255) : number.toUInt8.toUInt32 = number := by
  have bound : number.toNat ≤ 255 := by
    rw [gt_iff_lt, UInt32.lt_iff_toNat_lt] at small
    exact Nat.le_of_not_lt small
  apply UInt32.toNat.inj
  simp
  omega

theorem storedValues_eq_some_iff :
    storedValues dscp numbers = some read ↔
      numbers = read.stored.map (·.toUInt32) ∧ read.event = dscp.event ∧ read.general = dscp.general := by
  constructor
  · intro taken
    unfold storedValues at taken
    split at taken
    · split at taken
      · cases taken
      · next small =>
          cases taken
          simp only [not_or] at small
          obtain ⟨urgent, scheduled, high, low, explicitMsg⟩ := small
          simp [CipQosDscpValues.stored, toUInt32_toUInt8 urgent, toUInt32_toUInt8 scheduled, toUInt32_toUInt8 high,
            toUInt32_toUInt8 low, toUInt32_toUInt8 explicitMsg]
    · cases taken
  · rintro ⟨rfl, event, general⟩
    have small (value : UInt8) : ¬value.toUInt32 > 255 := by
      rw [gt_iff_lt, UInt32.lt_iff_toNat_lt]
      have bound := value.toNat_lt
      simp
      omega
    cases read
    cases event
    cases general
    simp [storedValues, CipQosDscpValues.stored, small]

theorem strtoul_unsigned {magnitude : Nat} (small : magnitude < 2 ^ 64) :
    strtoul ⟨false, magnitude⟩ = UInt32.ofNat magnitude := by
  unfold strtoul
  dsimp only
  rw [if_neg]
  · apply UInt32.toNat.inj
    simp
    omega
  · intro negative
    cases negative.1

theorem newline_ends : ∀ character ∈ ['\n'].head?, character.isDigit = false ∧ character ≠ ',' := by
  intro character first
  rw [List.head?_cons, Option.mem_some] at first
  subst first
  exact ⟨rfl, by decide⟩

theorem strtoul_octet (value : UInt8) : strtoul ⟨false, value.toNat⟩ = value.toUInt32 := by
  have bound := value.toNat_lt
  rw [strtoul_unsigned (by omega)]
  apply UInt32.toNat.inj
  simp

theorem storedValues_fprintf :
    storedValues dscp (fscanf (fprintf other)) = some { other with event := dscp.event, general := dscp.general } := by
  rw [storedValues_eq_some_iff]
  refine ⟨?_, rfl, rfl⟩
  have back : readNumerals ',' 5 (fprintf other) = (other.stored.map UInt8.toNat).map (⟨false, ·⟩) :=
    readNumerals_printed (by decide) newline_ends (other.stored.map UInt8.toNat) (List.cons_ne_nil _ _)
  rw [fscanf, back, List.map_map, List.map_map]
  exact List.map_congr_left fun value _ => strtoul_octet value

theorem lt_of_forall₂_le {found : List Nat} {values : List UInt8}
    (bounded : List.Forall₂ (· ≤ ·) found (values.map UInt8.toNat)) : ∀ magnitude ∈ found, magnitude < 256 := by
  induction found generalizing values with
  | nil => simp
  | cons magnitude found hyp =>
      cases values with
      | nil => cases bounded
      | cons value values =>
          rw [List.map_cons, List.forall₂_cons] at bounded
          rw [List.forall_mem_cons]
          exact ⟨Nat.lt_of_le_of_lt bounded.1 value.toNat_lt, hyp bounded.2⟩

/-- Values that are loaded from a front of the text are at most those that have been stored. -/
theorem storedValues_front {length : Nat}
    (taken : storedValues dscp (fscanf ((fprintf other).take length)) = some read) :
    List.Forall₂ (· ≤ ·) read.stored other.stored := by
  obtain ⟨loaded, -, -⟩ := storedValues_eq_some_iff.mp taken
  obtain ⟨found, front, bounded⟩ : ∃ found : List Nat,
      readNumerals ',' 5 ((fprintf other).take length) = found.map (⟨false, ·⟩) ∧
        List.Forall₂ (· ≤ ·) found ((other.stored.map UInt8.toNat).take found.length) :=
    readNumerals_front (by decide) newline_ends (other.stored.map UInt8.toNat) (List.cons_ne_nil _ _) length
  rw [fscanf, front, List.map_map] at loaded
  have five : found.length = 5 := by
    have lengths := congrArg List.length loaded
    rwa [List.length_map, List.length_map] at lengths
  have within : List.Forall₂ (· ≤ ·) found (other.stored.map UInt8.toNat) := by
    rw [five] at bounded
    exact bounded
  have own : (found.map fun magnitude => (strtoul ⟨false, magnitude⟩).toNat) = found.map id := by
    apply List.map_congr_left
    intro magnitude listed
    have small := lt_of_forall₂_le within magnitude listed
    rw [strtoul_unsigned (by omega), UInt32.toNat_ofNat', Nat.mod_eq_of_lt (by omega), id]
  have same : found = read.stored.map UInt8.toNat := by
    have magnitudes := congrArg (List.map UInt32.toNat) loaded
    rw [List.map_map, List.map_map] at magnitudes
    exact (own.trans (List.map_id found)).symm.trans magnitudes
  rw [same, List.forall₂_map_left_iff, List.forall₂_map_right_iff] at within
  exact within

end RoundTrip

end EtherNetIP
