import EtherNetIP.Modbus.CreateResponse

/-! What a request that fails has done to the process image.

A request is a list of parts in the order the code takes them: each assigns to a
coil or to a register, or fails. What is read from the registers does not decide
which parts fail, only whether the registers have their octets, and that stays.
-/

set_option autoImplicit false

namespace EtherNetIP.Modbus

open EtherNetIP.Library

def Failed : Except Throwable Answer → Prop
  | .error _ => True
  | .ok answer => answer.isException = true

/-- A request that fails leaves all coils, all registers and with them all file records as they are. -/
def LeavesImage (request : ModbusRequest) (image : ProcessImage) (memory : Memory) : Prop :=
  Failed (request.createResponse image memory).1 → (request.createResponse image memory).2 = memory

abbrev CoilPart := Except Throwable (Nat × Bool)

abbrev RegisterPart := Except Throwable (Nat × Option Register)

def thenParts {Value Part : Type} (checked : Except Throwable Value) (following : Value → List (Except Throwable Part)) :
    List (Except Throwable Part) :=
  match checked with
  | .ok value => following value
  | .error fault => [.error fault]

def coilParts (image : ProcessImage) : ModbusRequest → List CoilPart
  | .writeMultipleCoils reference coils =>
    thenParts (image.getDigitalOutRange reference coils.size) fun douts =>
      douts.zipIdx.map fun (dout, i) => (coils.getBit (i : Nat)).map fun set => (dout, set)
  | _ => []

def assignment (held : Nat → Option Register) (register : Nat) (value : Register) : RegisterPart :=
  (octetsOf held register).map fun _ => (register, some value)

def setParts (held : Nat → Option Register) (registers : Option (List Register)) (wordCount : Int) (regs : List Nat) :
    List RegisterPart :=
  regs.zipIdx.map fun (reg, i) => do
    let register ← requestRegister registers wordCount (i : Nat)
    assignment held reg register

def readable (held : Nat → Option Register) (image : ProcessImage) (readReference readCount : Int) :
    Except Throwable Int := do
  let readRegs ← image.getRegisterRange readReference readCount
  let _ ← readRegs.mapM (octetsOf held)
  setDataLength (readRegs.length * 2 + 1)

def recordParts (held : Nat → Option Register) (image : ProcessImage) (size : Int) :
    List WrittenRecord → List RegisterPart
  | [] => []
  | request :: requests =>
    thenParts (requestedRecord image request.fileNumber request.recordNumber request.data.length) fun (_, record) =>
      (request.data.zipIdx.map fun (word, j) => do
        let register ← recordRegister record (j : Nat)
        assignment held register word) ++
      (if request.getRequestSize + size > 248 then [.error .illegalArgumentException]
        else recordParts held image (size + request.getRequestSize) requests)

/-- The registers that a request sets one after the other, with all that can fail before, between and behind them. -/
def registerParts (held : Nat → Option Register) (image : ProcessImage) : ModbusRequest → List RegisterPart
  | .writeMultipleRegisters reference registers =>
    let wordCount := WriteMultipleRegistersRequest.getWordCount registers
    thenParts (image.getRegisterRange reference wordCount) (setParts held registers wordCount)
  | .readWriteMultiple readReference readCount writeReference writeCount registers =>
    thenParts (image.getRegisterRange writeReference writeCount) fun writeRegs =>
      setParts held registers writeCount writeRegs ++
        thenParts (readable held image readReference readCount) fun _ => []
  | .writeFileRecord records => recordParts held image 1 (records.getD [])
  | _ => []

section Reading

variable {Value Next : Type}

def ReadOnly (access : Access Value) : Prop := ∀ memory, (access memory).2 = memory

theorem bind_apply (access : Access Value) (next : Value → Access Next) (memory : Memory) :
    (access >>= next) memory = match access memory with
      | (.ok value, after) => next value after
      | (.error fault, after) => (.error fault, after) := by
  change (match access memory with | (result, after) => ExceptT.bindCont next result after) = _
  rcases access memory with ⟨result, after⟩
  cases result <;> rfl

theorem readOnly_ofExcept (outcome : Except Throwable Value) : ReadOnly (Access.ofExcept outcome) := fun _ => rfl

theorem readOnly_pure (value : Value) : ReadOnly (pure value) := fun _ => rfl

theorem readOnly_throw (fault : Throwable) : ReadOnly (throw fault : Access Value) := fun _ => rfl

theorem ReadOnly.bind {access : Access Value} {next : Value → Access Next} (first : ReadOnly access)
    (second : ∀ value, ReadOnly (next value)) : ReadOnly (access >>= next) := by
  intro memory
  have same := first memory
  rw [bind_apply]
  cases run : access memory with
  | mk result after =>
    rw [run] at same
    cases result with
    | ok value => exact (second value after).trans same
    | error fault => exact same

theorem ReadOnly.mapM {visit : Value → Access Next} (all : ∀ value, ReadOnly (visit value)) (values : List Value) :
    ReadOnly (values.mapM visit) := by
  induction values with
  | nil => exact readOnly_pure []
  | cons value values ih =>
    rw [List.mapM_cons]
    exact (all value).bind fun first => ih.bind fun others => readOnly_pure _

theorem ReadOnly.foldlM {visit : Next → Value → Access Next} (all : ∀ state value, ReadOnly (visit state value))
    (values : List Value) (start : Next) : ReadOnly (values.foldlM visit start) := by
  induction values generalizing start with
  | nil => exact readOnly_pure start
  | cons value values ih =>
    rw [List.foldlM_cons]
    exact (all start value).bind ih

theorem readOnly_getValue (register : Nat) : ReadOnly (getValue register) := fun _ => rfl

theorem readOnly_isSet (dout : Nat) : ReadOnly (isSet dout) := fun _ => rfl

theorem ReadOnly.catching {tried : Access Value} {following : Value → Access Answer} (first : ReadOnly tried)
    (second : ∀ value, ReadOnly (following value)) : ReadOnly (catchingIllegalAddress tried following) := by
  intro memory
  have same := first memory
  unfold catchingIllegalAddress
  cases run : tried memory with
  | mk result after =>
    rw [run] at same
    cases result with
    | ok value => exact (second value after).trans same
    | error fault => cases fault <;> exact same

end Reading

section Parts

variable {Value Next : Type} {held : Nat → Option Register}

def Alike (held registers : Nat → Option Register) : Prop := ∀ register, (registers register).isSome = (held register).isSome

/-- What is done to the registers is the update in parts, and where no part fails something comes back that fits. -/
def Performs (held : Nat → Option Register) (access : Access Value) (parts : List RegisterPart) (fits : Value → Prop) :
    Prop :=
  ∀ memory, Alike held memory.registers →
    (access memory).2 = { memory with registers := (updateInParts parts memory.registers).2 } ∧
      Alike held (updateInParts parts memory.registers).2 ∧
      match firstFault parts with
      | none => ∃ value, (access memory).1 = .ok value ∧ fits value
      | some fault => (access memory).1 = .error fault

theorem Alike.octetsOf_map {registers : Nat → Option Register} (alike : Alike held registers) (register : Nat)
    (next : Next) : (octetsOf held register).map (fun _ => next) = (octetsOf registers register).map fun _ => next := by
  have same := alike register
  unfold octetsOf
  cases there : registers register with
  | none =>
    rw [there] at same
    rw [Option.isSome_eq_false_iff.mp same.symm |> Option.isNone_iff_eq_none.mp]
  | some octets =>
    rw [there] at same
    obtain ⟨before, known⟩ := Option.isSome_iff_exists.mp same.symm
    rw [known]
    rfl

theorem Performs.nothing {value : Value} {fits : Value → Prop} (fit : fits value) :
    Performs held (pure value) [] fits :=
  fun _ alike => ⟨rfl, alike, value, rfl, fit⟩

theorem Performs.thenParts {checked : Except Throwable Value} {next : Value → Access Next}
    {following : Value → List RegisterPart} {fits : Next → Prop}
    (all : ∀ value, checked = .ok value → Performs held (next value) (following value) fits) :
    Performs held (Access.ofExcept checked >>= next) (Modbus.thenParts checked following) fits := by
  intro memory alike
  rw [bind_apply]
  cases run : checked with
  | ok value => exact all value run memory alike
  | error fault => exact ⟨rfl, alike, rfl⟩

theorem firstFault_append {ε κ ν : Type} (first second : List (Except ε (κ × ν))) :
    firstFault (first ++ second) = (firstFault first).or (firstFault second) := by
  induction first with
  | nil => rfl
  | cons part first ih =>
    cases part with
    | error fault => rfl
    | ok assignment => exact ih

theorem Performs.bind {access : Access Value} {next : Value → Access Next} {first second : List RegisterPart}
    {fits : Value → Prop} {fitsNext : Next → Prop} (performs : Performs held access first fits)
    (all : ∀ value, fits value → Performs held (next value) second fitsNext) :
    Performs held (access >>= next) (first ++ second) fitsNext := by
  intro memory alike
  obtain ⟨after, still, outcome⟩ := performs memory alike
  have stages := updateInParts_fst first memory.registers
  rw [bind_apply, updateInParts_append, firstFault_append]
  cases updated : updateInParts first memory.registers with
  | mk result registers =>
    cases ran : access memory with
    | mk answer left =>
      rw [updated] at after still stages
      rw [ran] at after outcome
      obtain rfl : left = { memory with registers } := after
      cases failing : firstFault first with
      | some fault =>
        rw [failing] at outcome stages
        obtain rfl : answer = .error fault := outcome
        obtain rfl : result = .error fault := stages
        exact ⟨rfl, still, rfl⟩
      | none =>
        rw [failing] at outcome stages
        obtain ⟨value, same, fit⟩ := outcome
        obtain rfl : answer = .ok value := same
        obtain rfl : result = .ok () := stages
        exact all value fit { memory with registers } still

theorem ofValue_getValue (register : Register) : Register.ofValue register.getValue = register := by
  have octets := register.writeShort_getValue
  have high := (List.cons.inj octets).1
  have low := (List.cons.inj (List.cons.inj octets).2).1
  unfold Register.ofValue
  rw [high, low]

theorem performs_setValue (register : Nat) (value : Int) :
    Performs held (setValue register value) [assignment held register (Register.ofValue value)] fun _ => True := by
  intro memory alike
  have part : assignment held register (Register.ofValue value) = _ := alike.octetsOf_map register _
  rw [part]
  unfold setValue
  cases octets : octetsOf memory.registers register with
  | error fault => exact ⟨rfl, alike, rfl⟩
  | ok register' =>
    refine ⟨rfl, fun other => ?_, (), rfl, trivial⟩
    change (Function.update memory.registers register _ other).isSome = _
    by_cases same : other = register
    · subst same
      rw [Function.update_self, ← alike]
      unfold octetsOf at octets
      cases there : memory.registers other with
      | none =>
        rw [there] at octets
        cases octets
      | some _ => rfl
    · rw [Function.update_of_ne same]
      exact alike other

theorem thenParts_single {Part : Type} (checked : Except Throwable Value) (part : Value → Except Throwable Part) :
    Modbus.thenParts checked (fun value => [part value]) = [checked >>= part] := by
  cases checked <;> rfl

theorem performs_assignment (register : Nat) (value : Register) :
    Performs held (setValue register value.getValue) [assignment held register value] fun _ => True := by
  have performs := @performs_setValue held register value.getValue
  rw [ofValue_getValue] at performs
  exact performs

theorem performs_found (found : Except Throwable Register) (register : Nat) :
    Performs held (Access.ofExcept found >>= fun value => setValue register value.getValue)
      [found >>= assignment held register] fun _ => True := by
  rw [← thenParts_single]
  exact Performs.thenParts fun value _ => performs_assignment register value

theorem performs_placed (found : Except Throwable Nat) (value : Register) :
    Performs held (Access.ofExcept found >>= fun register => setValue register value.getValue)
      [found >>= fun register => assignment held register value] fun _ => True := by
  rw [← thenParts_single]
  exact Performs.thenParts fun register _ => performs_assignment register value

theorem Performs.forM {visit : Value → Access Unit} {part : Value → RegisterPart}
    (all : ∀ value, Performs held (visit value) [part value] fun _ => True) (values : List Value) :
    Performs held (values.forM visit) (values.map part) fun _ => True := by
  induction values with
  | nil => exact Performs.nothing trivial
  | cons value values ih => exact (all value).bind fun _ _ => ih

theorem performs_setRegisters (registers : Option (List Register)) (wordCount : Int) (regs : List Nat) :
    Performs held (setRegisters registers wordCount regs) (setParts held registers wordCount regs) fun _ => True :=
  Performs.forM (fun _ => performs_found _ _) _

theorem performs_getValue (register : Nat) :
    Performs held (getValue register) (Modbus.thenParts (octetsOf held register) fun _ => []) fun _ => True := by
  intro memory alike
  have same := alike.octetsOf_map register ()
  unfold getValue
  cases mine : octetsOf held register with
  | ok octets =>
    rw [mine] at same
    cases theirs : octetsOf memory.registers register with
    | ok value => exact ⟨rfl, alike, _, rfl, trivial⟩
    | error fault =>
      rw [theirs] at same
      cases same
  | error fault =>
    rw [mine] at same
    cases theirs : octetsOf memory.registers register with
    | ok value =>
      rw [theirs] at same
      cases same
    | error other =>
      rw [theirs] at same
      cases same
      exact ⟨rfl, alike, rfl⟩

theorem performs_getValues (registers : List Nat) :
    Performs held (registers.mapM getValue) (Modbus.thenParts (registers.mapM (octetsOf held)) fun _ => [])
      fun values => values.length = registers.length := by
  induction registers with
  | nil => exact Performs.nothing rfl
  | cons register registers ih =>
    rw [List.mapM_cons, List.mapM_cons]
    have both : Performs held (getValue register >>= fun first => registers.mapM getValue >>= fun others =>
        pure (first :: others)) _ fun values => values.length = (register :: registers).length :=
      (performs_getValue register).bind fun first _ => ih.bind fun others same => Performs.nothing (by
        rw [List.length_cons, List.length_cons, same])
    -- What stands behind a part that fails does not count.
    cases mine : octetsOf held register with
    | error fault =>
      rw [mine] at both
      exact both
    | ok octets =>
      rw [mine] at both
      cases theirs : registers.mapM (octetsOf held) <;> rw [theirs] at both <;> exact both

end Parts

section Answers

variable {held : Nat → Option Register} {Value : Type}

/-- What the answer does to the registers is the update in parts, and it fails just if a part does. -/
def Answers (held : Nat → Option Register) (access : Access Answer) (parts : List RegisterPart) : Prop :=
  ∀ memory, Alike held memory.registers →
    (access memory).2 = { memory with registers := (updateInParts parts memory.registers).2 } ∧
      (Failed (access memory).1 ↔ (firstFault parts).isSome = true)

theorem Answers.respond {response : ModbusResponse} (plain : (Answer.response response).isException = false) :
    Answers held (pure (.response response)) [] := by
  refine fun memory _ => ⟨rfl, ?_⟩
  change (Answer.response response).isException = true ↔ _
  rw [plain]
  rfl

theorem Performs.catching_bind {Next : Type} {tried : Access Value} {next : Value → Access Next}
    {following : Next → Access Answer} {first second : List RegisterPart} {fits : Value → Prop}
    (performs : Performs held tried first fits)
    (all : ∀ value, fits value → Answers held (catchingIllegalAddress (next value) following) second) :
    Answers held (catchingIllegalAddress (tried >>= next) following) (first ++ second) := by
  intro memory alike
  obtain ⟨after, still, outcome⟩ := performs memory alike
  have stages := updateInParts_fst first memory.registers
  unfold catchingIllegalAddress
  rw [bind_apply, updateInParts_append, firstFault_append]
  cases updated : updateInParts first memory.registers with
  | mk result registers =>
    cases ran : tried memory with
    | mk answer left =>
      rw [updated] at after still stages
      rw [ran] at after outcome
      obtain rfl : left = { memory with registers } := after
      cases failing : firstFault first with
      | some fault =>
        rw [failing] at outcome stages
        obtain rfl : answer = .error fault := outcome
        obtain rfl : result = .error fault := stages
        cases fault <;> exact ⟨rfl, iff_of_true (by trivial) rfl⟩
      | none =>
        rw [failing] at outcome stages
        obtain ⟨value, same, fit⟩ := outcome
        obtain rfl : answer = .ok value := same
        obtain rfl : result = .ok () := stages
        exact all value fit { memory with registers } still

theorem Performs.catching {tried : Access Value} {following : Value → Access Answer} {first second : List RegisterPart}
    {fits : Value → Prop} (performs : Performs held tried first fits)
    (all : ∀ value, fits value → Answers held (following value) second) :
    Answers held (catchingIllegalAddress tried following) (first ++ second) := by
  rw [← bind_pure tried]
  exact performs.catching_bind all

theorem Answers.thenParts {checked : Except Throwable Value} {next : Value → Access Answer}
    {following : Value → List RegisterPart} (all : ∀ value, checked = .ok value → Answers held (next value) (following value)) :
    Answers held (Access.ofExcept checked >>= next) (Modbus.thenParts checked following) := by
  intro memory alike
  rw [bind_apply]
  cases run : checked with
  | ok value => exact all value run memory alike
  | error fault => exact ⟨rfl, iff_of_true trivial rfl⟩

theorem Answers.catching_thenParts {Next : Type} {checked : Except Throwable Value} {next : Value → Access Next}
    {following : Next → Access Answer} {parts : Value → List RegisterPart}
    (all : ∀ value, checked = .ok value → Answers held (catchingIllegalAddress (next value) following) (parts value)) :
    Answers held (catchingIllegalAddress (Access.ofExcept checked >>= next) following) (Modbus.thenParts checked parts) := by
  intro memory alike
  unfold catchingIllegalAddress
  rw [bind_apply]
  cases run : checked with
  | ok value => exact all value run memory alike
  | error fault => cases fault <;> exact ⟨rfl, iff_of_true (by trivial) rfl⟩

theorem thenParts_bind {Next Part : Type} (checked : Except Throwable Value) (next : Value → Except Throwable Next)
    (parts : Next → List (Except Throwable Part)) :
    Modbus.thenParts (checked >>= next) parts = Modbus.thenParts checked fun value => Modbus.thenParts (next value) parts := by
  cases checked <;> rfl

theorem answers_writeMultipleRegisters (reference : Int) (registers : Option (List Register)) (image : ProcessImage) :
    Answers held (WriteMultipleRegistersRequest.createResponse reference registers image)
      (registerParts held image (.writeMultipleRegisters reference registers)) := by
  have performs := Performs.thenParts fun regs (_ : image.getRegisterRange reference
      (WriteMultipleRegistersRequest.getWordCount registers) = .ok regs) =>
    @performs_setRegisters held registers (WriteMultipleRegistersRequest.getWordCount registers) regs
  have answers := performs.catching fun _ _ =>
    @Answers.respond held (.writeMultipleRegisters reference (WriteMultipleRegistersRequest.getWordCount registers)) rfl
  rw [List.append_nil] at answers
  exact answers

theorem answers_readWriteMultiple (readReference readCount writeReference writeCount : Int)
    (registers : Option (List Register)) (image : ProcessImage) :
    Answers held
      (ReadWriteMultipleRequest.createResponse readReference readCount writeReference writeCount registers image)
      (registerParts held image (.readWriteMultiple readReference readCount writeReference writeCount registers)) := by
  refine Answers.catching_thenParts fun writeRegs _ => ?_
  refine (performs_setRegisters registers writeCount writeRegs).catching_bind fun _ _ => ?_
  unfold readable
  rw [thenParts_bind]
  refine Answers.catching_thenParts fun readRegs _ => ?_
  rw [thenParts_bind]
  have answers : Answers held _ (_ ++ Modbus.thenParts (setDataLength (readRegs.length * 2 + 1)) fun _ => []) :=
    (@performs_getValues held readRegs).catching fun values same => by
      rw [← same]
      exact Answers.thenParts fun _ _ => @Answers.respond held
        (.readWriteMultiple (values.length * 2) (some (values.map Register.ofValue))) rfl
  cases valid : readRegs.mapM (octetsOf held) <;> rw [valid] at answers <;> exact answers

theorem getSize_append (responses : List WrittenRecord) (response : WrittenRecord) :
    WriteFileRecord.getSize (some (responses ++ [response])) =
      WriteFileRecord.getSize (some responses) + response.getRequestSize := by
  change List.foldl _ 1 (responses ++ [response]) = List.foldl _ 1 responses + _
  rw [List.foldl_append]
  rfl

theorem performs_records (image : ProcessImage) (requests responses : List WrittenRecord) :
    Performs held (requests.foldlM (WriteFileRecordRequest.writeRecord image) responses)
      (recordParts held image (WriteFileRecord.getSize (some responses)) requests) fun _ => True := by
  induction requests generalizing responses with
  | nil => exact Performs.nothing trivial
  | cons request requests ih =>
    rw [List.foldlM_cons]
    unfold WriteFileRecordRequest.writeRecord
    rw [bind_assoc]
    refine Performs.thenParts fun found _ => ?_
    obtain ⟨file, record⟩ := found
    dsimp only
    rw [bind_assoc]
    refine (Performs.forM (fun _ => performs_placed _ _) _).bind fun _ _ => ?_
    unfold WriteFileRecordRequest.addResponse
    have same : WrittenRecord.getRequestSize ⟨file.fileNumber, record.elim 0 Record.recordNumber, request.data⟩ =
        request.getRequestSize := rfl
    rw [same]
    by_cases long : request.getRequestSize + WriteFileRecord.getSize (some responses) > 248
    · rw [if_pos long, if_pos long]
      exact fun memory alike => ⟨rfl, alike, rfl⟩
    · rw [if_neg long, if_neg long, ← same, ← getSize_append]
      exact ih _

theorem answers_writeFileRecord (records : Option (List WrittenRecord)) (image : ProcessImage) :
    Answers held (WriteFileRecordRequest.createResponse records image)
      (registerParts held image (.writeFileRecord records)) := by
  have answers := (@performs_records held image (records.getD []) []).catching fun responses _ =>
    @Answers.respond held (.writeFileRecord (if responses = [] then none else some responses)) rfl
  rw [List.append_nil] at answers
  exact answers

/-- A request that writes to the registers leaves them as they are just if its parts do. -/
theorem Answers.leavesImage_iff_parts {request : ModbusRequest} {image : ProcessImage} {memory : Memory}
    (answers : Answers memory.registers (request.createResponse image) (registerParts memory.registers image request)) :
    LeavesImage request image memory ↔
      FailsUnchanged (registerParts memory.registers image request) memory.registers := by
  obtain ⟨after, failed⟩ := answers memory fun _ => rfl
  unfold LeavesImage
  rw [failsUnchanged_iff, failed, after]
  refine imp_congr_right fun _ => ⟨fun same => congrArg Memory.registers same, fun same => ?_⟩
  rw [same]

end Answers

section Coils

theorem setCoils_apply (coils : BitVector) (douts : List (Nat × Nat)) (memory : Memory) :
    (douts.forM fun (dout, i) => do
        let set ← Access.ofExcept (coils.getBit (i : Nat))
        setCoil dout set) memory =
      let updated := updateInParts (douts.map fun (dout, i) => (coils.getBit (i : Nat)).map fun set => (dout, set))
        memory.coils
      (updated.1, { memory with coils := updated.2 }) := by
  induction douts generalizing memory with
  | nil => rfl
  | cons dout douts ih =>
    obtain ⟨dout, i⟩ := dout
    change ((Access.ofExcept (coils.getBit i) >>= fun set => setCoil dout set) >>= fun _ => _) memory = _
    rw [bind_apply, bind_apply]
    cases bit : coils.getBit i with
    | error fault =>
      rw [List.map_cons]
      dsimp only
      rw [bit]
      rfl
    | ok set =>
      rw [List.map_cons]
      dsimp only
      rw [bit]
      exact ih _

theorem leavesImage_coils_iff (reference : Int) (coils : BitVector) (image : ProcessImage) (memory : Memory) :
    LeavesImage (.writeMultipleCoils reference coils) image memory ↔
      FailsUnchanged (coilParts image (.writeMultipleCoils reference coils)) memory.coils := by
  unfold LeavesImage
  change (Failed (WriteMultipleCoilsRequest.createResponse reference coils image memory).1 →
    (WriteMultipleCoilsRequest.createResponse reference coils image memory).2 = memory) ↔ _
  have named : coilParts image (.writeMultipleCoils reference coils) =
      thenParts (image.getDigitalOutRange reference coils.size) fun douts =>
        douts.zipIdx.map fun (dout, i) => (coils.getBit (i : Nat)).map fun set => (dout, set) := rfl
  rw [failsUnchanged_iff, named]
  unfold WriteMultipleCoilsRequest.createResponse catchingIllegalAddress
  rw [bind_apply]
  cases image.getDigitalOutRange reference coils.size with
  | error fault => cases fault <;> exact iff_of_true (fun _ => rfl) fun _ => rfl
  | ok douts =>
    have loop := setCoils_apply coils douts.zipIdx memory
    dsimp only [Access.ofExcept]
    rw [loop]
    dsimp only [thenParts]
    rw [updateInParts_fst]
    generalize (douts.zipIdx.map fun (dout, i) => (coils.getBit (i : Nat)).map fun set => (dout, set)) = parts
    have same : ({ memory with coils := (updateInParts parts memory.coils).2 } : Memory) = memory ↔
        (updateInParts parts memory.coils).2 = memory.coils :=
      ⟨fun same => congrArg Memory.coils same, fun same => by rw [same]⟩
    rw [← same]
    cases firstFault parts with
    | none => exact iff_of_true (fun failed => nomatch failed) fun failed => nomatch failed
    | some fault => cases fault <;> exact ⟨fun left _ => left (by trivial), fun left _ => left rfl⟩

end Coils

section Singles

variable (image : ProcessImage) (memory : Memory)

theorem leavesImage_of_readOnly {request : ModbusRequest} (readOnly : ReadOnly (request.createResponse image)) :
    LeavesImage request image memory := fun _ => readOnly memory

theorem leavesImage_writeCoil (reference : Int) (coil : Bool) :
    LeavesImage (.writeCoil reference coil) image memory := by
  change Failed (WriteCoilRequest.createResponse reference coil image memory).1 →
    (WriteCoilRequest.createResponse reference coil image memory).2 = memory
  unfold WriteCoilRequest.createResponse catchingIllegalAddress
  rw [bind_apply]
  cases image.getDigitalOut reference with
  | error fault => cases fault <;> exact fun _ => rfl
  | ok dout => exact fun failed => nomatch failed

theorem getValue_setValue {register : Nat} {value : Int} {after : Memory}
    (set : setValue register value memory = (.ok (), after)) :
    getValue register after = (.ok (Register.ofValue value).getValue, after) := by
  unfold setValue at set
  cases octets : octetsOf memory.registers register with
  | error fault =>
    rw [octets] at set
    cases set
  | ok held =>
    rw [octets] at set
    cases set
    unfold getValue octetsOf
    dsimp only
    rw [Function.update_self]
    rfl

theorem setValue_error {register : Nat} {value : Int} {after : Memory} {fault : Throwable}
    (refused : setValue register value memory = (.error fault, after)) : after = memory := by
  unfold setValue at refused
  cases octets : octetsOf memory.registers register with
  | error fault =>
    rw [octets] at refused
    cases refused
    rfl
  | ok held =>
    rw [octets] at refused
    cases refused

theorem leavesImage_writeSingleRegister (reference : Int) (register : Option Register) :
    LeavesImage (.writeSingleRegister reference register) image memory := by
  change Failed (WriteSingleRegisterRequest.createResponse reference register image memory).1 →
    (WriteSingleRegisterRequest.createResponse reference register image memory).2 = memory
  unfold WriteSingleRegisterRequest.createResponse catchingIllegalAddress
  rw [bind_apply]
  cases image.getRegister reference with
  | error fault => cases fault <;> exact fun _ => rfl
  | ok reg =>
    dsimp only [Access.ofExcept]
    rw [bind_apply]
    cases register with
    | none => exact fun _ => rfl
    | some register =>
      dsimp only [deref, Access.ofExcept]
      rw [bind_apply]
      cases set : setValue reg register.getValue memory with
      | mk result after =>
        cases result with
        | error fault =>
          obtain rfl := setValue_error memory set
          cases fault <;> exact fun _ => rfl
        | ok done =>
          change Failed ((getValue reg >>= fun value => _) after).1 → _
          rw [bind_apply, getValue_setValue memory set]
          exact fun failed => nomatch failed

theorem leavesImage_maskWriteRegister (reference andMask orMask : Int) :
    LeavesImage (.maskWriteRegister reference andMask orMask) image memory := by
  change Failed (MaskWriteRegisterRequest.createResponse reference andMask orMask image memory).1 →
    (MaskWriteRegisterRequest.createResponse reference andMask orMask image memory).2 = memory
  unfold MaskWriteRegisterRequest.createResponse catchingIllegalAddress
  rw [bind_apply]
  cases image.getRegister reference with
  | error fault => cases fault <;> exact fun _ => rfl
  | ok register =>
    dsimp only [Access.ofExcept]
    rw [bind_apply]
    unfold getValue
    cases octetsOf memory.registers register with
    | error fault => cases fault <;> exact fun _ => rfl
    | ok octets =>
      dsimp only [Except.map]
      cases set : setValue register (MaskWriteRegisterRequest.masked octets.getValue andMask orMask) memory with
      | mk result after =>
        cases result with
        | error fault =>
          obtain rfl := setValue_error memory set
          cases fault <;> exact fun _ => rfl
        | ok done => exact fun failed => nomatch failed

theorem readOnly_readRecord (request : RecordRequest) : ReadOnly (ReadFileRecordRequest.readRecord image request) := by
  refine (readOnly_ofExcept _).bind fun found => ?_
  dsimp only
  split
  · exact readOnly_throw _
  · refine ReadOnly.bind (ReadOnly.mapM (fun j => ?_) _) fun _ => readOnly_pure _
    exact (readOnly_ofExcept _).bind readOnly_getValue

theorem readOnly_readFIFOQueue (reference : Int) : ReadOnly (ReadFIFOQueueRequest.createResponse reference image) := by
  refine ReadOnly.catching ((readOnly_ofExcept _).bind fun queue => (readOnly_getValue queue).bind fun count => ?_)
    fun | none => readOnly_pure _ | some _ => readOnly_pure _
  split
  · exact readOnly_pure _
  · exact (readOnly_ofExcept _).bind fun _ => readOnly_pure _

end Singles

/-- A request that fails leaves the image as it is just if the assignments before the first part that fails give each coil
and each register, at last, the value it has. -/
theorem leavesImage_iff (request : ModbusRequest) (image : ProcessImage) (memory : Memory) :
    LeavesImage request image memory ↔
      FailsUnchanged (coilParts image request) memory.coils ∧
        FailsUnchanged (registerParts memory.registers image request) memory.registers := by
  have noCoils : FailsUnchanged ([] : List CoilPart) memory.coils := failsUnchanged_of_complete rfl
  have noRegisters : FailsUnchanged ([] : List RegisterPart) memory.registers := failsUnchanged_of_complete rfl
  cases request with
  | writeMultipleCoils reference coils =>
    exact (leavesImage_coils_iff reference coils image memory).trans (and_iff_left noRegisters).symm
  | writeMultipleRegisters reference registers =>
    exact (answers_writeMultipleRegisters reference registers image).leavesImage_iff_parts.trans (and_iff_right noCoils).symm
  | readWriteMultiple readReference readCount writeReference writeCount registers =>
    exact (answers_readWriteMultiple readReference readCount writeReference writeCount registers
      image).leavesImage_iff_parts.trans (and_iff_right noCoils).symm
  | writeFileRecord records =>
    exact (answers_writeFileRecord records image).leavesImage_iff_parts.trans (and_iff_right noCoils).symm
  | writeCoil reference coil =>
    exact iff_of_true (leavesImage_writeCoil image memory reference coil) ⟨noCoils, noRegisters⟩
  | writeSingleRegister reference register =>
    exact iff_of_true (leavesImage_writeSingleRegister image memory reference register) ⟨noCoils, noRegisters⟩
  | maskWriteRegister reference andMask orMask =>
    exact iff_of_true (leavesImage_maskWriteRegister image memory reference andMask orMask) ⟨noCoils, noRegisters⟩
  | readCoils reference bitCount =>
    refine iff_of_true (leavesImage_of_readOnly image memory ?_) ⟨noCoils, noRegisters⟩
    refine (readOnly_ofExcept _).catching fun douts => (readOnly_ofExcept _).bind fun blank =>
      (readOnly_ofExcept _).bind fun _ => ReadOnly.bind (ReadOnly.foldlM (fun coils dout => ?_) _ _) fun _ => readOnly_pure _
    exact (readOnly_isSet _).bind fun set => readOnly_ofExcept _
  | readInputDiscretes reference bitCount =>
    refine iff_of_true (leavesImage_of_readOnly image memory ?_) ⟨noCoils, noRegisters⟩
    exact (readOnly_ofExcept _).catching fun dins => (readOnly_ofExcept _).bind fun blank =>
      (readOnly_ofExcept _).bind fun _ => (readOnly_ofExcept _).bind fun _ => readOnly_pure _
  | readMultipleRegisters reference wordCount =>
    refine iff_of_true (leavesImage_of_readOnly image memory ?_) ⟨noCoils, noRegisters⟩
    exact (readOnly_ofExcept _).catching fun regs => (readOnly_ofExcept _).bind fun _ => readOnly_pure _
  | readInputRegisters reference wordCount =>
    refine iff_of_true (leavesImage_of_readOnly image memory ?_) ⟨noCoils, noRegisters⟩
    exact (readOnly_ofExcept _).catching fun inpregs => (readOnly_ofExcept _).bind fun _ => readOnly_pure _
  | readFileRecord records =>
    refine iff_of_true (leavesImage_of_readOnly image memory ?_) ⟨noCoils, noRegisters⟩
    exact (ReadOnly.mapM (readOnly_readRecord image) _).catching fun _ => readOnly_pure _
  | readFIFOQueue reference =>
    exact iff_of_true (leavesImage_of_readOnly image memory (readOnly_readFIFOQueue image reference))
      ⟨noCoils, noRegisters⟩
  | readExceptionStatus | readSerialDiagnostics | readCommEventCounter | readCommEventLog | reportSlaveID | readMEI
  | illegalFunction => exact iff_of_true (fun _ => rfl) ⟨noCoils, noRegisters⟩

def zeroRegister : ProcessImage × Memory :=
  ({ registers := [some 0] }, { coils := fun _ => false, registers := fun _ => some ⟨0, 0⟩ })

/-- The first register is written, and then the second, which is not there, cannot be read. -/
theorem not_leavesImage_readWriteMultiple :
    ¬ LeavesImage (.readWriteMultiple 1 1 0 1 (some [⟨0, 7⟩])) zeroRegister.1 zeroRegister.2 := by
  intro leaves
  have same := congrArg (fun memory : Memory => memory.registers 0) (leaves rfl)
  exact absurd same (by decide)

end EtherNetIP.Modbus
