import EtherNetIP.Modbus.UnchangedImages

/-! The counts that the requests to write several coils or registers announce.

Such a request says how many elements it carries, and how many octets. The readers
take the octets that are announced and decode the elements that are announced, and
compare neither number with the other.
-/

set_option autoImplicit false

namespace EtherNetIP.Modbus

open EtherNetIP.Library

inductive MultipleWrite where
  | registers
  | coils
  | readWrite
  deriving DecidableEq, Repr

namespace MultipleWrite

def functionCode : MultipleWrite → Int
  | registers => FunctionCode.writeMultipleRegisters
  | coils => FunctionCode.writeMultipleCoils
  | readWrite => FunctionCode.readWriteMultiple

def readData (kind : MultipleWrite) : DataInput (ModbusRequest × Option Int) :=
  let request := createModbusRequest kind.functionCode
  request.body.readData request.dataLength

def header : MultipleWrite → Nat
  | registers | coils => 5
  | readWrite => 9

end MultipleWrite

def wordAt (body : List UInt8) (index : Nat) : Nat := (body.getD index 0).toNat * 256 + (body.getD (index + 1) 0).toNat

def announcedOctets (kind : MultipleWrite) (body : List UInt8) : Nat := (body.getD (kind.header - 1) 0).toNat

def announcedElements (kind : MultipleWrite) (body : List UInt8) : Nat := wordAt body (kind.header - 3)

/-- What the request stores is what the body announces, in elements and in octets. -/
def Agrees (kind : MultipleWrite) (body : List UInt8) : ModbusRequest → Prop
  | .writeMultipleRegisters _ registers =>
    ∃ stored, registers = some stored ∧ stored.length = announcedElements kind body ∧
      announcedOctets kind body = 2 * stored.length
  | .writeMultipleCoils _ coils =>
    coils.size = announcedElements kind body ∧ coils.byteSize = announcedOctets kind body ∧
      coils.byteSize = (announcedElements kind body + 7) / 8
  | .readWriteMultiple _ _ _ writeCount registers =>
    writeCount = announcedElements kind body ∧ ∃ stored, registers = some stored ∧
      stored.length = announcedElements kind body ∧ announcedOctets kind body = 2 * stored.length
  | _ => False

def Returns (access : Access Answer) : Prop := ∀ memory, ∃ answer, (access memory).1 = .ok answer

/-- The body is refused by an IOException, or it gives a request that agrees with it and is always answered. -/
def ReadsSoundly (kind : MultipleWrite) (body : List UInt8) : Prop :=
  match kind.readData.run body with
  | .error fault => fault.isIO = true
  | .ok (read, _) => Agrees kind body read.1 ∧ ∀ image, Returns (read.1.createResponse image)

/-- A body that ends before its last announced octet, or one whose numbers fit each other and the response. -/
def Consistent (kind : MultipleWrite) (body : List UInt8) : Prop :=
  body.length < kind.header + announcedOctets kind body ∨
    match kind with
    | .registers => announcedOctets kind body = 2 * announcedElements kind body
    | .coils => announcedOctets kind body = (announcedElements kind body + 7) / 8 ∧ announcedOctets kind body ≤ 248
    | .readWrite => announcedOctets kind body = 2 * announcedElements kind body ∧ wordAt body 2 ≤ 126

section Admitted

variable {Value Next : Type} {keeps : Memory → Prop} {raised : Throwable → Prop} {post : Value → Prop}

/-- From memories of a kind only such are reached, and only some exceptions thrown. -/
def Within (keeps : Memory → Prop) (raised : Throwable → Prop) (access : Access Value) (post : Value → Prop) : Prop :=
  ∀ memory, keeps memory → Settles (access memory).1 post raised ∧ keeps (access memory).2

/-- The memories whose registers can be used without other exceptions. -/
structure Admits (keeps : Memory → Prop) (raised : Throwable → Prop) : Prop where
  octets : ∀ memory, keeps memory → ∀ register, Settles (octetsOf memory.registers register) (fun _ => True) raised
  setCoil : ∀ memory dout set, keeps memory → keeps { memory with coils := Function.update memory.coils dout set }
  setValue : ∀ memory register value, keeps memory →
    keeps { memory with registers := Function.update memory.registers register (some value) }

theorem admits_any : Admits (fun _ => True) (· = .illegalAddressException) where
  octets := by
    intro memory _ register
    unfold octetsOf
    cases memory.registers register with
    | none => exact rfl
    | some octets => trivial
  setCoil _ _ _ _ := trivial
  setValue _ _ _ _ := trivial

def Valid (memory : Memory) : Prop := ∀ register, (memory.registers register).isSome = true

theorem admits_valid : Admits Valid fun _ => False where
  octets := by
    intro memory valid register
    obtain ⟨octets, there⟩ := Option.isSome_iff_exists.mp (valid register)
    unfold octetsOf
    rw [there]
    trivial
  setCoil _ _ _ valid := valid
  setValue := by
    intro memory register value valid other
    change (Function.update memory.registers register (some value) other).isSome = true
    by_cases same : other = register
    · rw [same, Function.update_self]
      rfl
    · rw [Function.update_of_ne same]
      exact valid other

theorem within_ofExcept {outcome : Except Throwable Value} (settles : Settles outcome post raised) :
    Within keeps raised (Access.ofExcept outcome) post := fun _ kept => ⟨settles, kept⟩

theorem Within.bind {access : Access Value} {next : Value → Access Next} {after : Next → Prop}
    (first : Within keeps raised access post) (second : ∀ value, post value → Within keeps raised (next value) after) :
    Within keeps raised (access >>= next) after := by
  intro memory kept
  have settles := first memory kept
  rw [bind_apply]
  cases run : access memory with
  | mk result left =>
    rw [run] at settles
    cases result with
    | ok value => exact second value settles.1 left settles.2
    | error fault => exact settles

theorem Within.forM {visit : Value → Access Unit} {values : List Value}
    (all : ∀ value ∈ values, Within keeps raised (visit value) fun _ => True) :
    Within keeps raised (values.forM visit) fun _ => True := by
  induction values with
  | nil => exact fun _ kept => ⟨trivial, kept⟩
  | cons value values ih =>
    exact (all value (.head _)).bind fun _ _ => ih fun other member => all other (.tail _ member)

theorem Within.mapM {visit : Value → Access Next} (all : ∀ value, Within keeps raised (visit value) fun _ => True)
    (values : List Value) : Within keeps raised (values.mapM visit) fun results => results.length = values.length := by
  induction values with
  | nil => exact fun _ kept => ⟨rfl, kept⟩
  | cons value values ih =>
    rw [List.mapM_cons]
    refine (all value).bind fun first _ => ih.bind fun others same => fun _ kept => ⟨?_, kept⟩
    exact (List.length_cons.trans (congrArg (· + 1) same)).trans List.length_cons.symm

theorem within_getValue (admits : Admits keeps raised) (register : Nat) :
    Within keeps raised (getValue register) fun _ => True := by
  intro memory kept
  have settles := admits.octets memory kept register
  refine ⟨?_, kept⟩
  unfold getValue
  cases octets : octetsOf memory.registers register with
  | ok _ => trivial
  | error fault => exact settles.raises octets

theorem within_setValue (admits : Admits keeps raised) (register : Nat) (value : Int) :
    Within keeps raised (setValue register value) fun _ => True := by
  intro memory kept
  have settles := admits.octets memory kept register
  unfold setValue
  cases octets : octetsOf memory.registers register with
  | ok _ => exact ⟨trivial, admits.setValue memory register _ kept⟩
  | error fault => exact ⟨settles.raises octets, kept⟩

theorem within_setRegisters (admits : Admits keeps raised) {registers : List Register} {regs : List Nat}
    (same : regs.length = registers.length) :
    Within keeps raised (setRegisters (some registers) registers.length regs) fun _ => True := by
  refine Within.forM fun entry member => ?_
  obtain ⟨reg, i⟩ := entry
  have inside : i < registers.length := same ▸ List.snd_lt_of_mem_zipIdx member
  have found : Within keeps raised (Access.ofExcept (requestRegister (some registers) registers.length (i : Nat)))
      fun _ => True := by
    refine within_ofExcept ?_
    unfold requestRegister
    rw [if_neg (by omega)]
    change Settles ((registers[i]?).elim _ _) _ _
    rw [List.getElem?_eq_getElem inside]
    trivial
  exact found.bind fun register _ => within_setValue admits _ _

theorem within_readWrite (admits : Admits keeps raised) {image : ProcessImage} {writeReference readReference : Int}
    {registers : List Register} {readCount : Nat}
    (write : Settles (image.getRegisterRange writeReference registers.length) (·.length = registers.length) raised)
    (read : Settles (image.getRegisterRange readReference readCount) (·.length = readCount) raised) :
    Within keeps raised (do
      let writeRegs ← Access.ofExcept (image.getRegisterRange writeReference registers.length)
      setRegisters (some registers) registers.length writeRegs
      let readRegs ← Access.ofExcept (image.getRegisterRange readReference readCount)
      readRegs.mapM getValue) fun values => values.length = readCount :=
  (within_ofExcept write).bind fun _ same => (within_setRegisters admits same).bind fun _ _ =>
    (within_ofExcept read).bind fun readRegs length => length ▸ Within.mapM (within_getValue admits) readRegs

end Admitted

section Answered

variable {image : ProcessImage}

theorem elementAt_settles {Object : Type} (objects : List (Option Object)) (index : Int) :
    Settles (elementAt objects index) (fun _ => True) (· = .illegalAddressException) := by
  unfold elementAt
  split
  · exact rfl
  · cases objects.getD index.toNat none with
    | none => exact rfl
    | some object => trivial

theorem elementRange_settles {Object : Type} (objects : List (Option Object)) (ref : Int) (count : Nat) :
    Settles (elementRange objects ref count) (·.length = count) (· = .illegalAddressException) := by
  have all (indices : List Nat) : Settles (indices.mapM fun (i : Nat) => elementAt objects (ref + i))
      (·.length = indices.length) (· = .illegalAddressException) := by
    induction indices with
    | nil => exact rfl
    | cons i indices ih =>
      rw [List.mapM_cons]
      refine (elementAt_settles objects _).bind fun first _ => ih.bind fun others same => ?_
      exact (List.length_cons.trans (congrArg (· + 1) same)).trans List.length_cons.symm
  unfold elementRange
  split
  · exact rfl
  · rw [if_neg (by omega), Int.toNat_natCast]
    have settles := all (List.range count)
    rw [List.length_range] at settles
    exact settles

theorem Within.returns {Value : Type} {tried : Access Value} {post : Value → Prop} {following : Value → Access Answer}
    (within : Within (fun _ => True) (· = .illegalAddressException) tried post)
    (all : ∀ value, post value → Returns (following value)) : Returns (catchingIllegalAddress tried following) := by
  intro memory
  have settles := (within memory trivial).1
  unfold catchingIllegalAddress
  cases run : tried memory with
  | mk result left =>
    rw [run] at settles
    cases result with
    | ok value => exact all value settles left
    | error fault =>
      obtain rfl : fault = .illegalAddressException := settles
      exact ⟨_, rfl⟩

theorem returns_writeMultipleRegisters (reference : Int) (registers : List Register) :
    Returns (WriteMultipleRegistersRequest.createResponse reference (some registers) image) := by
  refine Within.returns ((within_ofExcept (elementRange_settles _ _ registers.length)).bind fun regs same =>
    within_setRegisters admits_any same) fun _ _ memory => ⟨_, rfl⟩

theorem returns_writeMultipleCoils (reference : Int) {data : List UInt8} {count : Nat} (enough : count ≤ 8 * data.length) :
    Returns (WriteMultipleCoilsRequest.createResponse reference (.createBitVectorOfSize data count) image) := by
  refine Within.returns ((within_ofExcept (elementRange_settles _ _ count)).bind fun douts same =>
    Within.forM fun entry member => ?_) fun _ _ memory => ⟨_, rfl⟩
  obtain ⟨dout, i⟩ := entry
  have inside : i < count := same ▸ List.snd_lt_of_mem_zipIdx member
  obtain ⟨bit, read⟩ := (@BitVector.getBit_isOk data count i (by omega)).mpr (by omega)
  have found : Within (fun _ => True) (· = .illegalAddressException)
      (Access.ofExcept ((BitVector.createBitVectorOfSize data count).getBit (i : Nat))) fun _ => True := by
    rw [read]
    exact fun _ _ => ⟨trivial, trivial⟩
  exact found.bind fun set _ memory _ => ⟨trivial, trivial⟩

theorem returns_readWriteMultiple (readReference writeReference : Int) {readCount : Nat} (short : readCount ≤ 126)
    (registers : List Register) :
    Returns (ReadWriteMultipleRequest.createResponse readReference readCount writeReference registers.length
      (some registers) image) := by
  refine Within.returns (within_readWrite admits_any (elementRange_settles _ _ _) (elementRange_settles _ _ _))
    fun values same memory => ?_
  unfold setDataLength
  rw [if_neg (by omega)]
  exact ⟨_, rfl⟩

theorem elementRange_replicate {Object : Type} (object : Object) {size ref count : Nat} (inside : ref + count ≤ size) :
    elementRange (List.replicate size (some object)) ref count = .ok (List.replicate count object) := by
  have all (indices : List Nat) (bounded : ∀ i ∈ indices, i < count) :
      (indices.mapM fun (i : Nat) => elementAt (List.replicate size (some object)) (ref + i)) =
        .ok (List.replicate indices.length object) := by
    induction indices with
    | nil => rfl
    | cons i indices ih =>
      have small := bounded i (.head _)
      have first : elementAt (List.replicate size (some object)) (ref + i) = .ok object := by
        unfold elementAt
        rw [List.length_replicate, if_neg (by omega), List.getD_eq_getElem?_getD, List.getElem?_replicate,
          if_pos (by omega)]
        rfl
      rw [List.mapM_cons, first, ih fun other member => bounded other (.tail _ member)]
      rfl
  unfold elementRange
  rw [List.length_replicate, if_neg (by omega), if_neg (by omega), Int.toNat_natCast,
    all _ fun i member => List.mem_range.mp member, List.length_range]

/-- A response with more than 126 registers is too long. -/
theorem not_returns_of_ranges {writeReference readReference : Int} {readCount : Nat} (long : 126 < readCount)
    {registers : List Register}
    (write : Settles (image.getRegisterRange writeReference registers.length) (·.length = registers.length) fun _ => False)
    (read : Settles (image.getRegisterRange readReference readCount) (·.length = readCount) fun _ => False) :
    ¬ Returns (ReadWriteMultipleRequest.createResponse readReference readCount writeReference registers.length
      (some registers) image) := by
  intro returns
  obtain ⟨answer, done⟩ := returns ⟨fun _ => false, fun _ => some ⟨0, 0⟩⟩
  have settles := (within_readWrite admits_valid write read ⟨fun _ => false, fun _ => some ⟨0, 0⟩⟩ fun _ => rfl).1
  unfold ReadWriteMultipleRequest.createResponse catchingIllegalAddress at done
  split at done
  · rename_i values after run
    rw [run] at settles
    obtain same : values.length = readCount := settles
    have refused : setDataLength (values.length * 2 + 1) = .error .illegalArgumentException := if_pos (by omega)
    dsimp only at done
    rw [bind_apply, refused] at done
    cases done
  · rename_i run
    rw [run] at settles
    exact settles
  · cases done

theorem not_returns_readWriteMultiple (readReference writeReference : Nat) {readCount : Nat} (long : 126 < readCount)
    (registers : List Register) : ∃ image : ProcessImage,
    ¬ Returns (ReadWriteMultipleRequest.createResponse readReference readCount writeReference registers.length
      (some registers) image) := by
  have range {size reference count : Nat} (inside : reference + count ≤ size) :
      Settles (elementRange (List.replicate size (some 0)) reference count) (·.length = count) fun _ => False := by
    rw [elementRange_replicate 0 inside]
    exact List.length_replicate
  exact ⟨{ registers := List.replicate (readReference + readCount + (writeReference + registers.length)) (some 0) },
    not_returns_of_ranges long (range (by omega)) (range (by omega))⟩

end Answered

section Reads

variable {a b c d n : UInt8} {rest : List UInt8}

theorem word_eq (high low : UInt8) : (high.toNat : Int) * 256 + low.toNat = ((high.toNat * 256 + low.toNat : Nat) : Int) := by
  omega

theorem run_readFully (count : Nat) (octets : List UInt8) : (readFully count).run octets =
    if count ≤ octets.length then .ok (octets.take count, octets.drop count) else .error .eofException := rfl

theorem run_registers : MultipleWrite.registers.readData.run (a :: b :: c :: d :: n :: rest) =
    if n.toNat ≤ rest.length then
      (registersFrom (c.toNat * 256 + d.toNat) (rest.take n.toNat)).map fun stored =>
        ((.writeMultipleRegisters (a.toNat * 256 + b.toNat) (some stored), none), rest.drop n.toNat)
    else .error .eofException := by
  change ((readFully n.toNat).run rest >>= fun (read : List UInt8 × List UInt8) => _) >>= _ = _
  rw [run_readFully]
  split
  · change ((registersFrom (c.toNat * 256 + d.toNat) (rest.take n.toNat)).map _ >>= _) >>= _ = _
    cases registersFrom (c.toNat * 256 + d.toNat) (rest.take n.toNat) <;> rfl
  · rfl

theorem run_coils : MultipleWrite.coils.readData.run (a :: b :: c :: d :: n :: rest) =
    if n.toNat ≤ rest.length then
      (setDataLength (n.toNat + 5)).map fun length =>
        ((.writeMultipleCoils (a.toNat * 256 + b.toNat)
          (.createBitVectorOfSize (rest.take n.toNat) (c.toNat * 256 + d.toNat)), some length), rest.drop n.toNat)
    else .error .eofException := by
  change ((readFully n.toNat).run rest >>= fun (read : List UInt8 × List UInt8) => _) = _
  rw [run_readFully]
  split
  · change ((setDataLength (n.toNat + 5)).map _ >>= _) = _
    cases setDataLength (n.toNat + 5) <;> rfl
  · rfl

theorem run_readWrite {e f g h : UInt8} :
    MultipleWrite.readWrite.readData.run (a :: b :: c :: d :: e :: f :: g :: h :: n :: rest) =
    if n.toNat ≤ rest.length then
      (registersFrom (g.toNat * 256 + h.toNat) (rest.take n.toNat)).map fun stored =>
        ((.readWriteMultiple (a.toNat * 256 + b.toNat) (c.toNat * 256 + d.toNat) (e.toNat * 256 + f.toNat)
          (g.toNat * 256 + h.toNat) (some stored), none), rest.drop n.toNat)
    else .error .eofException := by
  change ((readFully n.toNat).run rest >>= fun (read : List UInt8 × List UInt8) => _) >>= _ = _
  rw [run_readFully]
  split
  · change ((registersFrom (g.toNat * 256 + h.toNat) (rest.take n.toNat)).map _ >>= _) >>= _ = _
    cases registersFrom (g.toNat * 256 + h.toNat) (rest.take n.toNat) <;> rfl
  · rfl

theorem run_short {kind : MultipleWrite} {body : List UInt8} (short : body.length < kind.header) :
    kind.readData.run body = .error .eofException := by
  cases kind with
  | registers | coils =>
    match body, short with
    | [], _ => rfl
    | [_], _ => rfl
    | [_, _], _ => rfl
    | [_, _, _], _ => rfl
    | [_, _, _, _], _ => rfl
  | readWrite =>
    match body, short with
    | [], _ => rfl
    | [_], _ => rfl
    | [_, _], _ => rfl
    | [_, _, _], _ => rfl
    | [_, _, _, _], _ => rfl
    | [_, _, _, _, _], _ => rfl
    | [_, _, _, _, _, _], _ => rfl
    | [_, _, _, _, _, _, _], _ => rfl
    | [_, _, _, _, _, _, _, _], _ => rfl

theorem length_registersFrom {count : Nat} {buffer : List UInt8} {registers : List Register}
    (read : registersFrom count buffer = .ok registers) : registers.length = count := by
  induction count generalizing buffer registers with
  | zero =>
    cases read
    rfl
  | succ count ih =>
    match buffer, read with
    | high :: low :: rest, read =>
      obtain ⟨others, later, rfl⟩ := map_eq_ok.mp read
      rw [List.length_cons, ih later]

end Reads

section Soundness

variable {a b c d n : UInt8} {rest : List UInt8}

theorem readsSoundly_registers : ReadsSoundly .registers (a :: b :: c :: d :: n :: rest) ↔
    rest.length < n.toNat ∨ n.toNat = 2 * (c.toNat * 256 + d.toNat) := by
  unfold ReadsSoundly
  rw [run_registers]
  by_cases enough : n.toNat ≤ rest.length
  · rw [if_pos enough, or_iff_right (by omega)]
    have taken : (rest.take n.toNat).length = n.toNat := List.length_take_of_le enough
    have reads := @registersFrom_isOk (c.toNat * 256 + d.toNat) (rest.take n.toNat)
    cases read : registersFrom (c.toNat * 256 + d.toNat) (rest.take n.toNat) with
    | error fault =>
      obtain rfl := registersFrom_error read
      rw [read, taken] at reads
      have short : ¬ 2 * (c.toNat * 256 + d.toNat) ≤ n.toNat := fun long => nomatch (reads.mpr long).choose_spec
      exact iff_of_false nofun (by omega)
    | ok stored =>
      have length := length_registersFrom read
      have octets : announcedOctets .registers (a :: b :: c :: d :: n :: rest) = n.toNat := rfl
      have elements : announcedElements .registers (a :: b :: c :: d :: n :: rest) = c.toNat * 256 + d.toNat := rfl
      constructor
      · rintro ⟨⟨found, same, -, agrees⟩, -⟩
        cases same
        omega
      · intro agrees
        exact ⟨⟨stored, rfl, by omega, by omega⟩, fun image => returns_writeMultipleRegisters _ _⟩
  · rw [if_neg enough]
    exact iff_of_true rfl (.inl (by omega))

theorem readsSoundly_coils : ReadsSoundly .coils (a :: b :: c :: d :: n :: rest) ↔
    rest.length < n.toNat ∨ n.toNat = (c.toNat * 256 + d.toNat + 7) / 8 ∧ n.toNat ≤ 248 := by
  unfold ReadsSoundly
  rw [run_coils]
  by_cases enough : n.toNat ≤ rest.length
  · rw [if_pos enough, or_iff_right (by omega)]
    have taken : (rest.take n.toNat).length = n.toNat := List.length_take_of_le enough
    by_cases fits : n.toNat ≤ 248
    · have recorded : setDataLength (n.toNat + 5) = .ok (n.toNat + 7) := by
        unfold setDataLength
        rw [if_neg (by omega), Int.add_assoc]
        rfl
      rw [recorded]
      have octets : announcedOctets .coils (a :: b :: c :: d :: n :: rest) = n.toNat := rfl
      have elements : announcedElements .coils (a :: b :: c :: d :: n :: rest) = c.toNat * 256 + d.toNat := rfl
      constructor
      · rintro ⟨⟨-, same, agrees⟩, -⟩
        omega
      · rintro ⟨agrees, -⟩
        refine ⟨⟨word_eq c d, taken.trans octets.symm, ?_⟩, fun image => ?_⟩
        · rw [elements, ← agrees]
          exact taken
        · have returns := @returns_writeMultipleCoils image (a.toNat * 256 + b.toNat) (rest.take n.toNat)
            (c.toNat * 256 + d.toNat) (by omega)
          rw [← word_eq] at returns
          exact returns
    · have refused : setDataLength (n.toNat + 5) = .error .illegalArgumentException := if_pos (by omega)
      rw [refused]
      exact iff_of_false nofun (by omega)
  · rw [if_neg enough]
    exact iff_of_true rfl (.inl (by omega))

theorem readsSoundly_readWrite {e f g h : UInt8} :
    ReadsSoundly .readWrite (a :: b :: c :: d :: e :: f :: g :: h :: n :: rest) ↔
      rest.length < n.toNat ∨ n.toNat = 2 * (g.toNat * 256 + h.toNat) ∧ c.toNat * 256 + d.toNat ≤ 126 := by
  unfold ReadsSoundly
  rw [run_readWrite]
  by_cases enough : n.toNat ≤ rest.length
  · rw [if_pos enough, or_iff_right (by omega)]
    have taken : (rest.take n.toNat).length = n.toNat := List.length_take_of_le enough
    have reads := @registersFrom_isOk (g.toNat * 256 + h.toNat) (rest.take n.toNat)
    cases read : registersFrom (g.toNat * 256 + h.toNat) (rest.take n.toNat) with
    | error fault =>
      obtain rfl := registersFrom_error read
      rw [read, taken] at reads
      have short : ¬ 2 * (g.toNat * 256 + h.toNat) ≤ n.toNat := fun long => nomatch (reads.mpr long).choose_spec
      exact iff_of_false nofun (by omega)
    | ok stored =>
      have length := length_registersFrom read
      have octets : announcedOctets .readWrite (a :: b :: c :: d :: e :: f :: g :: h :: n :: rest) = n.toNat := rfl
      have elements : announcedElements .readWrite (a :: b :: c :: d :: e :: f :: g :: h :: n :: rest) =
        g.toNat * 256 + h.toNat := rfl
      have count : (g.toNat : Int) * 256 + h.toNat = (stored.length : Int) := by omega
      change (_ ∧ ∀ image, Returns (ReadWriteMultipleRequest.createResponse _ _ _ _ _ image)) ↔ _
      rw [count, word_eq c d]
      constructor
      · rintro ⟨⟨-, found, same, -, agrees⟩, returns⟩
        cases same
        refine ⟨by omega, Nat.le_of_not_lt fun long => ?_⟩
        obtain ⟨image, refuses⟩ := not_returns_readWriteMultiple (a.toNat * 256 + b.toNat) (e.toNat * 256 + f.toNat)
          long stored
        rw [← word_eq a b, ← word_eq e f] at refuses
        exact refuses (returns image)
      · rintro ⟨agrees, short⟩
        exact ⟨⟨by omega, stored, rfl, by omega, by omega⟩, fun image => returns_readWriteMultiple _ _ short _⟩
  · rw [if_neg enough]
    exact iff_of_true rfl (.inl (by omega))

theorem five_octets {body : List UInt8} (long : 5 ≤ body.length) :
    ∃ a b c d n rest, body = a :: b :: c :: d :: n :: rest := by
  match body, long with
  | a :: b :: c :: d :: n :: rest, _ => exact ⟨a, b, c, d, n, rest, rfl⟩
  | [], long | [_], long | [_, _], long | [_, _, _], long | [_, _, _, _], long => exact absurd long (by simp)

/-- A body is read soundly just if it ends too early or its numbers fit each other and the response. -/
theorem readsSoundly_iff (kind : MultipleWrite) (body : List UInt8) : ReadsSoundly kind body ↔ Consistent kind body := by
  by_cases short : body.length < kind.header
  · refine iff_of_true ?_ (.inl (by omega))
    unfold ReadsSoundly
    rw [run_short short]
    rfl
  · unfold Consistent
    cases kind with
    | registers =>
      obtain ⟨a, b, c, d, n, rest, rfl⟩ := five_octets (Nat.le_of_not_lt short)
      have behind : (a :: b :: c :: d :: n :: rest).length = rest.length + 5 := rfl
      refine readsSoundly_registers.trans (or_congr ?_ Iff.rfl)
      rw [behind, Nat.add_comm rest.length]
      exact (Nat.add_lt_add_iff_left).symm
    | coils =>
      obtain ⟨a, b, c, d, n, rest, rfl⟩ := five_octets (Nat.le_of_not_lt short)
      have behind : (a :: b :: c :: d :: n :: rest).length = rest.length + 5 := rfl
      refine readsSoundly_coils.trans (or_congr ?_ Iff.rfl)
      rw [behind, Nat.add_comm rest.length]
      exact (Nat.add_lt_add_iff_left).symm
    | readWrite =>
      obtain ⟨a, b, c, d, e, more, rfl⟩ := five_octets (Nat.le_trans (by decide : 5 ≤ 9) (Nat.le_of_not_lt short))
      obtain ⟨f, g, h, n, rest, rfl⟩ : ∃ f g h n rest, more = f :: g :: h :: n :: rest := by
        match more, short with
        | f :: g :: h :: n :: rest, _ => exact ⟨f, g, h, n, rest, rfl⟩
        | [], short | [_], short | [_, _], short | [_, _, _], short => exact absurd (by simp [MultipleWrite.header]) short
      have behind : (a :: b :: c :: d :: e :: f :: g :: h :: n :: rest).length = rest.length + 9 := rfl
      refine readsSoundly_readWrite.trans (or_congr ?_ Iff.rfl)
      rw [behind, Nat.add_comm rest.length]
      exact (Nat.add_lt_add_iff_left).symm

/-- Two registers are announced in two octets, and the index runs past them. -/
theorem not_readsSoundly_twoRegisters : ¬ ReadsSoundly .registers [0, 0, 0, 2, 2, 0, 7] := by
  intro sound
  change Throwable.indexOutOfBoundsException.isIO = true at sound
  cases sound

end Soundness

end EtherNetIP.Modbus
