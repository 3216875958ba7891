import EtherNetIP.Modbus.AnnouncedCounts
import EtherNetIP.Modbus.RtuErrors

/-! The faults of the readers of a request.

Most readers fail by an exception that the transport catches. The three that write
several coils or registers decode what they are told to, and two of them run past
the octets announced to them, also in a frame that is no longer than the array.
-/

set_option autoImplicit false

namespace EtherNetIP.Modbus

open EtherNetIP.Library

/-- Neither caught by the transport nor declared by it. -/
def Throwable.Escapes (fault : Throwable) : Prop := fault.isIO = false ∧ fault ≠ .modbusIOException

namespace ModbusRTUTransport

section Faults

variable {Value Next : Type}

/-- Nothing but an exception that the transport catches. -/
def RaisesIO (decoder : DataInput Value) : Prop :=
  ∀ items fault, decoder.run items = .error fault → fault.isIO = true

theorem raisesIO_pure (value : Value) : RaisesIO (pure value) := by
  intro items fault raised
  cases raised

theorem raisesIO_throw {fault : Throwable} (io : fault.isIO = true) : RaisesIO (throw fault : DataInput Value) := by
  intro items other raised
  cases raised
  exact io

theorem RaisesIO.bind {decoder : DataInput Value} {next : Value → DataInput Next} (first : RaisesIO decoder)
    (second : ∀ value, RaisesIO (next value)) : RaisesIO (decoder >>= next) := by
  intro items fault raised
  cases ran : decoder.run items with
  | error other =>
      have same : (decoder >>= next).run items = .error other := by
        change (decoder.run items >>= fun read => (next read.1).run read.2) = _
        rw [ran]
        rfl
      rw [same] at raised
      cases raised
      exact first items fault ran
  | ok read =>
      have same : (decoder >>= next).run items = (next read.1).run read.2 := by
        change (decoder.run items >>= fun read => (next read.1).run read.2) = _
        rw [ran]
        rfl
      rw [same] at raised
      exact second read.1 read.2 fault raised

theorem raisesIO_octet : RaisesIO readOctet := by
  intro items fault raised
  cases items with
  | nil =>
      cases raised
      rfl
  | cons first rest => cases raised

theorem raisesIO_unsignedByte : RaisesIO readUnsignedByte := raisesIO_octet.bind fun _ => raisesIO_pure _

theorem raisesIO_byte : RaisesIO Modbus.readByte := raisesIO_octet.bind fun _ => raisesIO_pure _

theorem raisesIO_unsignedShort : RaisesIO readUnsignedShort :=
  raisesIO_octet.bind fun _ => raisesIO_octet.bind fun _ => raisesIO_pure _

theorem raisesIO_short : RaisesIO readShort :=
  raisesIO_octet.bind fun _ => raisesIO_octet.bind fun _ => raisesIO_pure _

theorem raisesIO_register : RaisesIO readRegister :=
  raisesIO_octet.bind fun _ => raisesIO_octet.bind fun _ => raisesIO_pure _

theorem RaisesIO.times {decoder : DataInput Value} (each : RaisesIO decoder) (count : Nat) :
    RaisesIO (times decoder count) := by
  induction count with
  | zero => exact raisesIO_pure []
  | succ count ih => exact each.bind fun _ => ih.bind fun _ => raisesIO_pure _

theorem raisesIO_record : RaisesIO RecordRequest.read := by
  apply raisesIO_byte.bind
  intro function
  split
  · exact raisesIO_throw rfl
  · apply raisesIO_unsignedShort.bind
    intro file
    apply raisesIO_unsignedShort.bind
    intro record
    split
    · exact raisesIO_throw rfl
    · exact raisesIO_unsignedShort.bind fun _ => raisesIO_pure _

theorem raisesIO_written : RaisesIO WrittenRecord.read := by
  apply raisesIO_unsignedByte.bind
  intro function
  apply raisesIO_unsignedShort.bind
  intro file
  apply raisesIO_unsignedShort.bind
  intro record
  apply raisesIO_unsignedShort.bind
  intro count
  split
  · exact raisesIO_throw rfl
  · split
    · exact raisesIO_throw rfl
    · split
      · exact raisesIO_throw rfl
      · exact (raisesIO_register.times _).bind fun _ => raisesIO_pure _

theorem raisesIO_readAll (byteCount : Int) (turns : Nat) (offset : Int) :
    RaisesIO (WrittenRecord.readAll byteCount turns offset) := by
  induction turns generalizing offset with
  | zero => exact raisesIO_pure []
  | succ turns ih =>
      unfold WrittenRecord.readAll
      split
      · exact raisesIO_written.bind fun _ => (ih _).bind fun _ => raisesIO_pure _
      · exact raisesIO_pure []

/-- The three readers that decode what they are told to, whether or not it is there. -/
def writesSeveral : ModbusRequest → Prop
  | .writeMultipleCoils _ _ | .writeMultipleRegisters _ _ | .readWriteMultiple _ _ _ _ _ => True
  | _ => False

theorem raisesIO_readData {request : ModbusRequest} (other : ¬ writesSeveral request) (dataLength : Int) :
    RaisesIO (request.readData dataLength) := by
  have words {Message : Type} (make : Int → Int → Message) : RaisesIO (readTwoWords make) :=
    raisesIO_unsignedShort.bind fun _ => raisesIO_unsignedShort.bind fun _ => raisesIO_pure _
  -- class by class, the fields one after the other
  cases request with
  | readCoils | readInputDiscretes | readMultipleRegisters | readInputRegisters => exact words _
  | writeCoil =>
      exact raisesIO_unsignedShort.bind fun _ => raisesIO_byte.bind fun _ => raisesIO_byte.bind fun _ => raisesIO_pure _
  | writeSingleRegister =>
      exact raisesIO_unsignedShort.bind fun _ => raisesIO_register.bind fun _ => raisesIO_pure _
  | writeMultipleCoils | writeMultipleRegisters | readWriteMultiple => exact absurd trivial other
  | readExceptionStatus | readCommEventCounter | readCommEventLog | reportSlaveID => exact raisesIO_pure _
  | readSerialDiagnostics =>
      exact raisesIO_unsignedShort.bind fun _ => raisesIO_short.bind fun _ => raisesIO_pure _
  | readFileRecord =>
      exact (raisesIO_unsignedByte.bind fun _ => raisesIO_record.times _).bind fun _ => raisesIO_pure _
  | writeFileRecord =>
      exact (raisesIO_unsignedByte.bind fun _ => raisesIO_readAll _ _ _).bind fun _ => raisesIO_pure _
  | maskWriteRegister =>
      exact raisesIO_unsignedShort.bind fun _ => raisesIO_unsignedShort.bind fun _ =>
        raisesIO_unsignedShort.bind fun _ => raisesIO_pure _
  | readFIFOQueue => exact raisesIO_unsignedShort.bind fun _ => raisesIO_pure _
  | readMEI subCode fieldLevel fieldId =>
      have skips : RaisesIO ReadMEIRequest.skipOctets := by
        intro items fault raised
        cases raised
      have fields : RaisesIO (ReadMEIRequest.readData fieldLevel fieldId) := by
        apply raisesIO_unsignedByte.bind
        intro subCode
        split
        · exact skips.bind fun _ => raisesIO_pure _
        · exact raisesIO_unsignedByte.bind fun _ => raisesIO_unsignedByte.bind fun _ => raisesIO_pure _
      exact fields.bind fun _ => raisesIO_pure _
  | illegalFunction => exact (raisesIO_byte.times _).bind fun _ => raisesIO_pure _

/-- All octets that are announced are there, and they are fewer than the registers announced take. -/
def RunsPast (kind : MultipleWrite) (body : List UInt8) : Prop :=
  kind.header + announcedOctets kind body ≤ body.length ∧ announcedOctets kind body < 2 * announcedElements kind body

theorem faults_registersFrom {count octets : Nat} {rest : List UInt8} (enough : octets ≤ rest.length)
    (after : List Register → Value) :
    (∃ fault, (registersFrom count (rest.take octets)).map after = .error fault ∧ fault.Escapes) ↔
      octets < 2 * count := by
  have length := List.length_take_of_le enough
  have isOk := @registersFrom_isOk count (rest.take octets)
  rw [length] at isOk
  cases stored : registersFrom count (rest.take octets) with
  | ok registers =>
      have fits := isOk.mp ⟨registers, stored⟩
      refine iff_of_false ?_ (by omega)
      rintro ⟨fault, raised, -⟩
      cases raised
  | error fault =>
      refine iff_of_true ⟨fault, rfl, ?_⟩ ?_
      · rw [registersFrom_error stored]
        exact ⟨rfl, by decide⟩
      · by_contra fits
        obtain ⟨registers, read⟩ := isOk.mpr (by omega)
        rw [stored] at read
        cases read

theorem not_faults_eof {outcome : Except Throwable Value} (same : outcome = .error .eofException) :
    ¬ ∃ fault, outcome = .error fault ∧ fault.Escapes := by
  rintro ⟨fault, raised, other⟩
  rw [same] at raised
  cases raised
  cases other.1

theorem faults_registers (body : List UInt8) :
    (∃ fault, MultipleWrite.registers.readData.run body = .error fault ∧ fault.Escapes) ↔
      RunsPast .registers body := by
  by_cases short : body.length < 5
  · refine iff_of_false (not_faults_eof (@run_short .registers body short)) ?_
    rintro ⟨all, -⟩
    have header : MultipleWrite.registers.header = 5 := rfl
    omega
  · obtain ⟨a, b, c, d, n, rest, rfl⟩ := five_octets (Nat.le_of_not_lt short)
    have past : RunsPast .registers (a :: b :: c :: d :: n :: rest) ↔
        5 + n.toNat ≤ rest.length + 5 ∧ n.toNat < 2 * (c.toNat * 256 + d.toNat) := Iff.rfl
    rw [past, run_registers]
    by_cases enough : n.toNat ≤ rest.length
    · rw [if_pos enough, faults_registersFrom enough]
      exact ⟨fun less => ⟨by omega, less⟩, And.right⟩
    · rw [if_neg enough]
      refine iff_of_false (not_faults_eof rfl) ?_
      rintro ⟨all, -⟩
      omega

theorem faults_readWrite (body : List UInt8) :
    (∃ fault, MultipleWrite.readWrite.readData.run body = .error fault ∧ fault.Escapes) ↔
      RunsPast .readWrite body := by
  by_cases short : body.length < 9
  · refine iff_of_false (not_faults_eof (@run_short .readWrite body short)) ?_
    rintro ⟨all, -⟩
    have header : MultipleWrite.readWrite.header = 9 := rfl
    omega
  -- the nine octets in front of the registers
  · obtain ⟨a, b, c, d, e, behind, rfl⟩ := five_octets (show 5 ≤ body.length by omega)
    obtain ⟨f, g, h, n, rest, rfl⟩ : ∃ f g h n rest, behind = f :: g :: h :: n :: rest := by
      simp only [List.length_cons] at short
      obtain _ | ⟨f, _ | ⟨g, _ | ⟨h, _ | ⟨n, rest⟩⟩⟩⟩ := behind
      · exact absurd short (by simp)
      · exact absurd short (by simp)
      · exact absurd short (by simp)
      · exact absurd short (by simp)
      · exact ⟨f, g, h, n, rest, rfl⟩
    have past : RunsPast .readWrite (a :: b :: c :: d :: e :: f :: g :: h :: n :: rest) ↔
        9 + n.toNat ≤ rest.length + 9 ∧ n.toNat < 2 * (g.toNat * 256 + h.toNat) := Iff.rfl
    rw [past, run_readWrite]
    by_cases enough : n.toNat ≤ rest.length
    · rw [if_pos enough, faults_registersFrom enough]
      exact ⟨fun less => ⟨by omega, less⟩, And.right⟩
    · rw [if_neg enough]
      refine iff_of_false (not_faults_eof rfl) ?_
      rintro ⟨all, -⟩
      omega

theorem not_faults_coils {body : List UInt8} (short : body.length ≤ 252) :
    ¬ ∃ fault, MultipleWrite.coils.readData.run body = .error fault ∧ fault.Escapes := by
  by_cases few : body.length < 5
  · exact not_faults_eof (@run_short .coils body few)
  · obtain ⟨a, b, c, d, n, rest, rfl⟩ := five_octets (Nat.le_of_not_lt few)
    simp only [List.length_cons] at short
    rw [run_coils]
    by_cases enough : n.toNat ≤ rest.length
    · rw [if_pos enough, setDataLength, if_neg (by omega)]
      rintro ⟨fault, raised, -⟩
      cases raised
    · rw [if_neg enough]
      exact not_faults_eof rfl

def RunsPastBody (function : UInt8) (body : List UInt8) : Prop :=
  (function = 16 ∧ RunsPast .registers body) ∨ (function = 23 ∧ RunsPast .readWrite body)

theorem not_writesSeveral {function : UInt8} (coils : function ≠ 15) (registers : function ≠ 16)
    (readWrite : function ≠ 23) : ¬ writesSeveral (createModbusRequest function.toNat).body := by
  have other {number : UInt8} (different : function ≠ number) : (function.toNat : Int) ≠ number.toNat :=
    fun same => different (UInt8.toNat_inj.mp (Int.ofNat.inj same))
  have coils := other coils
  have registers := other registers
  have readWrite := other readWrite
  revert coils registers readWrite
  generalize (function.toNat : Int) = number
  intro coils registers readWrite
  unfold createModbusRequest
  split
  all_goals first
    | exact id
    | exact absurd rfl coils
    | exact absurd rfl registers
    | exact absurd rfl readWrite

/-- The only fault of fields that the array of a transport holds is a reader that runs past the octets announced to
it. -/
theorem faults_readData (function : UInt8) (dataLength : Int) {body : List UInt8} (short : body.length ≤ 252) :
    (∃ fault, ((createModbusRequest function.toNat).body.readData dataLength).run body = .error fault ∧
        fault.Escapes) ↔ RunsPastBody function body := by
  by_cases coils : function = 15
  · subst coils
    refine iff_of_false (not_faults_coils short) ?_
    rintro (⟨other, -⟩ | ⟨other, -⟩)
    · cases other
    · cases other
  · by_cases registers : function = 16
    · subst registers
      refine (faults_registers body).trans ⟨fun past => .inl ⟨rfl, past⟩, ?_⟩
      rintro (⟨-, past⟩ | ⟨other, -⟩)
      · exact past
      · cases other
    · by_cases readWrite : function = 23
      · subst readWrite
        refine (faults_readWrite body).trans ⟨fun past => .inr ⟨rfl, past⟩, ?_⟩
        rintro (⟨other, -⟩ | ⟨-, past⟩)
        · cases other
        · exact past
      · refine iff_of_false ?_ ?_
        · rintro ⟨fault, raised, other⟩
          have io := raisesIO_readData (not_writesSeveral coils registers readWrite) _ body fault raised
          rw [other.1] at io
          cases io
        · rintro (⟨same, -⟩ | ⟨same, -⟩)
          · exact registers same
          · exact readWrite same

theorem escapes_map {outcome : Except Throwable Value} (after : Value → Next) :
    (∃ fault, (outcome >>= fun value => .ok (after value)) = .error fault ∧ fault.Escapes) ↔
      ∃ fault, outcome = .error fault ∧ fault.Escapes := by
  cases outcome with
  | ok value =>
      constructor
      · rintro ⟨fault, raised, -⟩
        cases raised
      · rintro ⟨fault, raised, -⟩
        cases raised
  | error fault =>
      constructor
      · rintro ⟨other, raised, io⟩
        cases raised
        exact ⟨_, rfl, io⟩
      · rintro ⟨other, raised, io⟩
        cases raised
        exact ⟨_, rfl, io⟩

theorem run_readFrom (created : ModbusMessage ModbusRequest) (uid function : UInt8) (body : List UInt8) :
    created.readFrom.run (uid :: function :: body) =
      (created.body.readData created.dataLength).run body >>= fun read => .ok ({ created with
        headless := true, unitID := uid.toNat, functionCode := function.toNat, body := read.1.1,
        dataLength := read.1.2.getD created.dataLength }, read.2) := rfl

theorem faults_readFrom (uid function : UInt8) {body : List UInt8} (short : body.length ≤ 252) :
    (∃ fault, (createModbusRequest function.toNat).readFrom.run (uid :: function :: body) = .error fault ∧
        fault.Escapes) ↔ RunsPastBody function body := by
  rw [run_readFrom, escapes_map]
  exact faults_readData function _ short

end Faults

end ModbusRTUTransport

end EtherNetIP.Modbus
