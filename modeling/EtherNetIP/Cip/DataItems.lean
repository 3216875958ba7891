import EtherNetIP.Cip.DataReception

/-! The data items a consuming connection receives.

An item begins with the sequence count of class 1 and the run/idle header, and
the rest are the octets of the assembly. The lengths of both are subtracted
without a look at what is there, and the header takes effect before the length
is compared with that of the assembly.
-/

set_option autoImplicit false

namespace EtherNetIP

open Library CipConnectionObject

variable {config : Configuration}

def CipConnectionObject.sequenceCountLength (object : CipConnectionObject) : UInt16 :=
  if object.getTransportClass = .class1 then 2 else 0

def Configuration.runIdleLength (config : Configuration) : UInt16 := if config.consumeRunIdle then 4 else 0

def octetsOf (data : List CipOctet) (count : Nat) : List CipOctet := (data ++ List.replicate count 0).take count

theorem octetsOf_length (data : List CipOctet) (count : Nat) : (octetsOf data count).length = count := by
  simp [octetsOf]

theorem octetsOf_drop (data : List CipOctet) (skipped count : Nat) :
    octetsOf (data.drop skipped) count = (octetsOf data (skipped + count)).drop skipped := by
  apply List.ext_getElem
  · simp [octetsOf_length]
  · intro i within _
    rw [octetsOf_length] at within
    simp only [octetsOf, List.getElem_take, List.getElem_drop, List.getElem_append, List.length_drop,
      List.getElem_replicate]
    by_cases inside : skipped + i < data.length
    · simp [inside, show i < data.length - skipped by omega]
    · simp [inside, show ¬ i < data.length - skipped by omega]

theorem octetsOf_octetsOf (data : List CipOctet) (count : Nat) : octetsOf (octetsOf data count) count = octetsOf data count := by
  have length := octetsOf_length data count
  conv_lhs => rw [octetsOf]
  rw [List.take_append_of_le_length (by omega), List.take_of_length_le (by omega)]

theorem drop_octetsOf (data : List CipOctet) (skipped count : Nat) :
    (octetsOf data (skipped + count)).drop skipped = octetsOf (data.drop skipped) count :=
  (octetsOf_drop data skipped count).symm

theorem headD_octetsOf {data : List CipOctet} {count : Nat} (some : 0 < count) :
    (octetsOf data count).headD 0 = data.headD 0 := by
  obtain ⟨rest, rfl⟩ := Nat.exists_eq_add_of_lt some
  cases data <;> simp [octetsOf, List.replicate_succ]

theorem uintOf_octetsOf (data : List CipOctet) (count : Nat) : uintOf (octetsOf data (2 + count)) = uintOf data := by
  have second : (octetsOf data (2 + count)).drop 1 = octetsOf (data.drop 1) (1 + count) := by
    rw [← drop_octetsOf, ← Nat.add_assoc]
  rw [uintOf, second, headD_octetsOf (by omega), headD_octetsOf (by omega), uintOf]

theorem udintOf_octetsOf (data : List CipOctet) (count : Nat) : udintOf (octetsOf data (4 + count)) = udintOf data := by
  have second : (octetsOf data (4 + count)).drop 1 = octetsOf (data.drop 1) (3 + count) := by
    rw [← drop_octetsOf, ← Nat.add_assoc]
  have third : (octetsOf data (4 + count)).drop 2 = octetsOf (data.drop 2) (2 + count) := by
    rw [← drop_octetsOf, ← Nat.add_assoc]
  have fourth : (octetsOf data (4 + count)).drop 3 = octetsOf (data.drop 3) (1 + count) := by
    rw [← drop_octetsOf, ← Nat.add_assoc]
  rw [udintOf, second, third, fourth, headD_octetsOf (by omega), headD_octetsOf (by omega), headD_octetsOf (by omega),
    headD_octetsOf (by omega), udintOf]

namespace Stack

variable {stack after : Stack config} {slot : Slot config} {received : ConnectedData}

section Items

variable {consuming : CipInstanceNum} {length : Nat} {noNewData : Bool} {data : List CipOctet} {dataLength : UInt16}

def writtenAssemblies (stack : Stack config) (consuming : CipInstanceNum) (length : Nat) (noNewData : Bool)
    (data : List CipOctet) (dataLength : UInt16) : CipInstanceNum → List CipOctet :=
  if noNewData = false ∧ length = dataLength.toNat then
    Function.update stack.assemblyData consuming (octetsOf data length)
  else stack.assemblyData

theorem receiveAssemblyData_eq (known : config.assemblyLength consuming = some length) :
    stack.receiveAssemblyData (some consuming) noNewData data dataLength =
      .ok { stack with assemblyData := stack.writtenAssemblies consuming length noNewData data dataLength } := by
  unfold receiveAssemblyData writtenAssemblies
  cases noNewData with
  | true => rfl
  | false =>
      unfold notifyAssemblyConnectedDataReceived
      simp only [Bool.false_eq_true, if_false, known, true_and]
      by_cases fits : length = dataLength.toNat
      · simp only [fits, ne_eq, not_true_eq_false, if_false, if_true]
        rfl
      · simp only [fits, ne_eq, not_false_eq_true, if_true, if_false]
        rfl

def runIdleBehind (stack : Stack config) (data : List CipOctet) (remaining : UInt16) : UInt32 × DeviceStatus :=
  if config.consumeRunIdle ∧ remaining > 0 then
    (udintOf data, stack.deviceStatus.cipIdentitySetExtendedDeviceStatus (extendedStatusOf (udintOf data)))
  else (stack.runIdleState, stack.deviceStatus)

def assembliesBehind (stack : Stack config) (consuming : CipInstanceNum) (length : Nat) (noNewData : Bool)
    (data : List CipOctet) (remaining : UInt16) : CipInstanceNum → List CipOctet :=
  if remaining > 0 then
    stack.writtenAssemblies consuming length noNewData (data.drop config.runIdleLength.toNat)
      (remaining - config.runIdleLength)
  else stack.assemblyData

theorem receiveBehindSequenceCount_ok (known : config.assemblyLength consuming = some length) :
    ∃ after, stack.receiveBehindSequenceCount (some consuming) noNewData data dataLength = .ok after ∧
      (after.runIdleState, after.deviceStatus) = stack.runIdleBehind data dataLength ∧
      after.assemblyData = stack.assembliesBehind consuming length noNewData data dataLength := by
  unfold receiveBehindSequenceCount runIdleBehind assembliesBehind
  by_cases some : dataLength > 0
  · rw [if_pos some, if_pos some]
    by_cases headed : config.consumeRunIdle = true
    · have four : config.runIdleLength = 4 := if_pos headed
      have assemblies : (stack.receiveRunIdle (udintOf data)).assemblyData = stack.assemblyData := by
        unfold receiveRunIdle
        dsimp only
        split <;> rfl
      rw [if_pos headed, if_pos ⟨headed, some⟩, getUdintFromMessage_run, four]
      dsimp only
      refine ⟨_, receiveAssemblyData_eq known, ?_, ?_⟩
      · unfold receiveRunIdle
        dsimp only
        split <;> rfl
      · unfold writtenAssemblies
        rw [assemblies]
        rfl
    · have zero : config.runIdleLength = 0 := if_neg headed
      rw [if_neg headed, if_neg fun both => headed both.1, zero]
      refine ⟨_, receiveAssemblyData_eq known, rfl, ?_⟩
      simp
  · rw [if_neg some, if_neg some, if_neg fun both => some both.2]
    exact ⟨stack, rfl, rfl, rfl⟩

/-- The data are not newer: only the sequence count of class 1 says so. -/
def repeatsCount (object : CipConnectionObject) (data : List CipOctet) : Bool :=
  object.getTransportClass == .class1 && seqLeq16 (uintOf data) object.sequenceCountConsuming

theorem handleReceivedIoConnectionData_ok (consumer : (stack.object slot).consumingInstance = some consuming)
    (known : config.assemblyLength consuming = some length) :
    ∃ after, stack.handleReceivedIoConnectionData slot data dataLength = .ok after ∧
      (after.runIdleState, after.deviceStatus) =
        stack.runIdleBehind (data.drop (stack.object slot).sequenceCountLength.toNat)
          (dataLength - (stack.object slot).sequenceCountLength) ∧
      after.assemblyData =
        stack.assembliesBehind consuming length (repeatsCount (stack.object slot) data)
          (data.drop (stack.object slot).sequenceCountLength.toNat)
          (dataLength - (stack.object slot).sequenceCountLength) := by
  unfold handleReceivedIoConnectionData repeatsCount sequenceCountLength
  rw [getUintFromMessage_run]
  dsimp only
  rw [consumer]
  by_cases class1 : (stack.object slot).getTransportClass = .class1
  · simp only [class1, if_true, beq_self_eq_true, Bool.true_and]
    exact receiveBehindSequenceCount_ok known
  · have other : ((stack.object slot).getTransportClass == .class1) = false := by simpa using class1
    simp only [class1, other, if_false, Bool.false_and]
    have nothing : (0 : UInt16).toNat = 0 ∧ dataLength - 0 = dataLength := ⟨rfl, by simp⟩
    rw [nothing.1, nothing.2, List.drop_zero]
    exact receiveBehindSequenceCount_ok known

/-- The octets that are read behind the sequence count: the header, and those that are written. -/
def octetsReadBehind (config : Configuration) (length : Nat) (noNewData : Bool) (remaining : UInt16) : Nat :=
  if remaining > 0 then
    config.runIdleLength.toNat +
      if noNewData = false ∧ length = (remaining - config.runIdleLength).toNat then length else 0
  else 0

/-- How many octets from its first on are read of an item. -/
def itemOctetsRead (config : Configuration) (object : CipConnectionObject) (length : Nat) (data : List CipOctet)
    (dataLength : UInt16) : Nat :=
  object.sequenceCountLength.toNat +
    octetsReadBehind config length (repeatsCount object data) (dataLength - object.sequenceCountLength)

theorem receiveBehindSequenceCount_reads (known : config.assemblyLength consuming = some length) :
    stack.receiveBehindSequenceCount (some consuming) noNewData
        (octetsOf data (octetsReadBehind config length noNewData dataLength)) dataLength =
      stack.receiveBehindSequenceCount (some consuming) noNewData data dataLength := by
  have assembly (stack : Stack config) (data : List CipOctet) (dataLength : UInt16) :
      stack.receiveAssemblyData (some consuming) noNewData
          (octetsOf data (if noNewData = false ∧ length = dataLength.toNat then length else 0)) dataLength =
        stack.receiveAssemblyData (some consuming) noNewData data dataLength := by
    rw [receiveAssemblyData_eq known, receiveAssemblyData_eq known]
    unfold writtenAssemblies
    by_cases fits : noNewData = false ∧ length = dataLength.toNat
    · rw [if_pos fits, if_pos fits, if_pos fits, octetsOf_octetsOf]
    · rw [if_neg fits, if_neg fits]
  unfold receiveBehindSequenceCount octetsReadBehind
  by_cases some : dataLength > 0
  · rw [if_pos some, if_pos some, if_pos some]
    by_cases headed : config.consumeRunIdle = true
    · have four : config.runIdleLength = 4 := if_pos headed
      rw [if_pos headed, if_pos headed, getUdintFromMessage_run, getUdintFromMessage_run, four]
      dsimp only
      rw [show (4 : UInt16).toNat = 4 from rfl, udintOf_octetsOf, drop_octetsOf, assembly]
    · have zero : config.runIdleLength = 0 := if_neg headed
      rw [if_neg headed, if_neg headed, zero, show (0 : UInt16).toNat = 0 from rfl, Nat.zero_add,
        UInt16.sub_zero, assembly]
  · rw [if_neg some, if_neg some]

/-- No other octet has a part in what the function does. -/
theorem handleReceivedIoConnectionData_reads (consumer : (stack.object slot).consumingInstance = some consuming)
    (known : config.assemblyLength consuming = some length) :
    stack.handleReceivedIoConnectionData slot
        (octetsOf data (itemOctetsRead config (stack.object slot) length data dataLength)) dataLength =
      stack.handleReceivedIoConnectionData slot data dataLength := by
  unfold handleReceivedIoConnectionData itemOctetsRead repeatsCount sequenceCountLength
  rw [getUintFromMessage_run, getUintFromMessage_run]
  dsimp only
  rw [consumer]
  by_cases class1 : (stack.object slot).getTransportClass = .class1
  · simp only [class1, if_true, beq_self_eq_true, Bool.true_and]
    rw [show (2 : UInt16).toNat = 2 from rfl, uintOf_octetsOf, drop_octetsOf, receiveBehindSequenceCount_reads known]
  · have other : ((stack.object slot).getTransportClass == .class1) = false := by simpa using class1
    simp only [class1, other, if_false, Bool.false_and]
    rw [show (0 : UInt16).toNat = 0 from rfl, Nat.zero_add, UInt16.sub_zero, receiveBehindSequenceCount_reads known]

end Items

section Sizes

theorem getConnectionSize_lt (connectionParameters : UInt32) (isLfo : Bool) :
    getConnectionSize connectionParameters isLfo < 2 ^ 16 := by
  unfold getConnectionSize
  rw [UInt32.toNat_and]
  have bound : (if isLfo then (0x0000FFFF : UInt32) else 0x000001FF).toNat < 2 ^ 16 := by
    cases isLfo <;> decide
  exact Nat.lt_of_le_of_lt Nat.and_le_right bound

theorem size_of_agrees {runIdle : Bool} {instanceNumber : CipInstanceNum} {transportClass : TransportClass}
    {connectionSize length : Nat} (agrees : SizeAgrees config runIdle instanceNumber transportClass connectionSize)
    (known : config.assemblyLength instanceNumber = some length) :
    connectionSize =
      (if transportClass = .class1 then 2 else 0) + (if runIdle ∧ length ≠ 0 then 4 else 0) + length := by
  obtain ⟨other, same, agrees⟩ := agrees
  rw [known] at same
  cases same
  unfold dataAndHeaderSize at agrees
  by_cases class1 : transportClass = .class1
  · simp only [if_pos class1] at agrees ⊢
    by_cases headed : runIdle = true ∧ length ≠ 0
    · rw [if_pos headed]
      split at agrees
      · omega
      · -- data of the assembly leave room for the header
        rename_i noRoom
        exact absurd ⟨headed.1, by have := headed.2; omega, headed.2⟩ noRoom
    · rw [if_neg headed, if_neg fun all => headed ⟨all.1, all.2.2⟩] at *
      omega
  · simp only [if_neg class1] at agrees ⊢
    by_cases headed : runIdle = true ∧ length ≠ 0
    · rw [if_pos headed]
      split at agrees
      · omega
      · -- data of the assembly leave room for the header
        rename_i noRoom
        exact absurd ⟨headed.1, by have := headed.2; omega, headed.2⟩ noRoom
    · rw [if_neg headed, if_neg fun all => headed ⟨all.1, all.2.2⟩] at *
      omega

theorem HandsOn.item {consuming : CipInstanceNum} {length : Nat} (hands : stack.HandsOn slot received)
    (consumer : (stack.object slot).consumingInstance = some consuming)
    (known : config.assemblyLength consuming = some length) :
    ∃ after, stack.handleReceivedConnectedData received = .ok after ∧
      (after.runIdleState, after.deviceStatus) =
        stack.runIdleBehind (received.data.drop (stack.object slot).sequenceCountLength.toNat)
          (received.dataItemLength - (stack.object slot).sequenceCountLength) ∧
      after.assemblyData =
        stack.assembliesBehind consuming length (repeatsCount (stack.object slot) received.data)
          (received.data.drop (stack.object slot).sequenceCountLength.toNat)
          (received.dataItemLength - (stack.object slot).sequenceCountLength) := by
  have own : (stack.accepting slot received.sequenceNumber).object slot =
      acceptSequenceNumber received.sequenceNumber (resetLastPackageInactivityTimer (stack.object slot)) :=
    Function.update_self ..
  rw [handleReceivedConnectedData_eq, hands.1]
  dsimp only
  rw [receiveFromOriginator_newer hands.2.1]
  unfold connectionReceiveData
  cases called : ((stack.accepting slot received.sequenceNumber).object slot).connectionReceiveDataFunction with
  | none =>
      rw [own] at called
      exact absurd called hands.2.2
  | some function =>
      cases function
      have consumerToo : ((stack.accepting slot received.sequenceNumber).object slot).consumingInstance =
          some consuming := by
        rw [own]
        exact consumer
      obtain ⟨after, done, runIdle, assemblies⟩ := handleReceivedIoConnectionData_ok consumerToo known
      rw [own] at runIdle assemblies
      exact ⟨after, done, runIdle, assemblies⟩

def payloadOf (stack : Stack config) (slot : Slot config) (received : ConnectedData) : List CipOctet :=
  (octetsOf received.data received.dataItemLength.toNat).drop
    ((stack.object slot).sequenceCountLength.toNat + config.runIdleLength.toNat)

/-- What is promised of an item for an assembly of some length: one of the negotiated size may be written to it, any
other changes nothing, and nothing behind the item is read. -/
structure ItemConforms (stack : Stack config) (slot : Slot config) (received : ConnectedData) (length : Nat)
    (after : Stack config) : Prop where
  overwritten : received.dataItemLength.toNat = (stack.object slot).getOToTConnectionSize →
    after.assemblyData = stack.assemblyData ∨ after.assemblyData = Function.update stack.assemblyData
      (stack.object slot).consumedPath.instanceId (stack.payloadOf slot received)
  kept : received.dataItemLength.toNat ≠ (stack.object slot).getOToTConnectionSize →
    after.assemblyData = stack.assemblyData ∧ after.runIdleState = stack.runIdleState ∧
      after.deviceStatus = stack.deviceStatus
  within : itemOctetsRead config (stack.object slot) length received.data received.dataItemLength ≤
    received.dataItemLength.toNat

/-- The header in the item would change neither the run/idle state nor the device status. -/
def HeaderKept (stack : Stack config) (slot : Slot config) (received : ConnectedData) : Prop :=
  let header := udintOf (received.data.drop (stack.object slot).sequenceCountLength.toNat)
  header = stack.runIdleState ∧
    stack.deviceStatus.cipIdentitySetExtendedDeviceStatus (extendedStatusOf header) = stack.deviceStatus

/-- The item has the negotiated size, or it holds the sequence count and does no harm: it ends there, no header is
consumed, or the header is there and says nothing new. -/
def ItemHarmless (stack : Stack config) (slot : Slot config) (received : ConnectedData) : Prop :=
  received.dataItemLength.toNat = (stack.object slot).getOToTConnectionSize ∨
    (stack.object slot).sequenceCountLength ≤ received.dataItemLength ∧
      (received.dataItemLength = (stack.object slot).sequenceCountLength ∨ config.consumeRunIdle = false ∨
        (stack.object slot).sequenceCountLength.toNat + 4 ≤ received.dataItemLength.toNat ∧ stack.HeaderKept slot received)

theorem sequenceCountLength_toNat (object : CipConnectionObject) :
    object.sequenceCountLength.toNat = if object.getTransportClass = .class1 then 2 else 0 := by
  unfold sequenceCountLength
  split <;> rfl

theorem runIdleLength_toNat (config : Configuration) :
    config.runIdleLength.toNat = if config.consumeRunIdle then 4 else 0 := by
  unfold Configuration.runIdleLength
  split <;> rfl

theorem Reached.consumingInstance (reached : Reached stack) (io : slot.instanceType ≠ .explicitMessaging)
    (established : (stack.object slot).state = .established)
    (consumes : (stack.object slot).getOToTConnectionType ≠ .null) :
    (stack.object slot).consumingInstance = some (stack.object slot).consumedPath.instanceId := by
  have opened := reached.intact.coherent.opened slot ((reached.intact.coherent.mem_iff slot).mpr (.inl established))
  cases slot with
  | explicit i => exact absurd rfl io
  | exclusiveOwner i => exact OpenedIo.consumes opened consumes
  | inputOnly i j => exact OpenedIo.consumes opened consumes
  | listenOnly i j => exact OpenedIo.consumes opened consumes

theorem Reached.consumer (reached : Reached stack) (io : slot.instanceType ≠ .explicitMessaging)
    (established : (stack.object slot).state = .established)
    (consumes : (stack.object slot).getOToTConnectionType ≠ .null) {length : Nat}
    (known : config.assemblyLength (stack.object slot).consumedPath.instanceId = some length) (nonempty : length ≠ 0) :
    (stack.object slot).consumingInstance = some (stack.object slot).consumedPath.instanceId ∧
      (stack.object slot).getOToTConnectionSize =
        (stack.object slot).sequenceCountLength.toNat + config.runIdleLength.toNat + length := by
  have listed := (reached.intact.coherent.mem_iff slot).mpr (.inl established)
  have sizes := (reached.sizesAgree slot listed io).consumer consumes
  rw [sequenceCountLength_toNat, runIdleLength_toNat, size_of_agrees sizes known]
  exact ⟨reached.consumingInstance io established consumes, by simp [nonempty]⟩

/-- Nothing behind the item is read if and only if it holds what stands in front of the data, or ends behind the
sequence count. -/
theorem itemOctetsRead_le_iff (object : CipConnectionObject) (length : Nat) (data : List CipOctet)
    (dataLength : UInt16) :
    itemOctetsRead config object length data dataLength ≤ dataLength.toNat ↔
      object.sequenceCountLength ≤ dataLength ∧ (dataLength = object.sequenceCountLength ∨
        object.sequenceCountLength.toNat + config.runIdleLength.toNat ≤ dataLength.toNat) := by
  unfold itemOctetsRead octetsReadBehind
  generalize object.sequenceCountLength = counted, config.runIdleLength = headed, repeatsCount object data = noNewData
  rw [UInt16.le_iff_toNat_le, ← UInt16.toNat_inj]
  by_cases holds : counted.toNat ≤ dataLength.toNat
  · have remaining : (dataLength - counted).toNat = dataLength.toNat - counted.toNat :=
      UInt16.toNat_sub_of_le _ _ (UInt16.le_iff_toNat_le.mpr holds)
    have some : dataLength - counted > 0 ↔ counted.toNat < dataLength.toNat := by
      rw [gt_iff_lt, UInt16.lt_iff_toNat_lt, remaining, show (0 : UInt16).toNat = 0 from rfl]
      omega
    simp only [some]
    by_cases room : headed.toNat ≤ (dataLength - counted).toNat
    · have payload : (dataLength - counted - headed).toNat = dataLength.toNat - counted.toNat - headed.toNat := by
        rw [UInt16.toNat_sub_of_le _ _ (UInt16.le_iff_toNat_le.mpr room), remaining]
      simp only [payload]
      split
      · split <;> omega
      · omega
    · rw [remaining] at room
      split
      · split <;> omega
      · omega
  · constructor
    · omega
    · exact fun both => absurd both.1 holds

theorem assembliesBehind_eq {length : Nat} (nonempty : length ≠ 0)
    (holds : (stack.object slot).sequenceCountLength ≤ received.dataItemLength)
    (room : received.dataItemLength = (stack.object slot).sequenceCountLength ∨
      (stack.object slot).sequenceCountLength.toNat + config.runIdleLength.toNat ≤ received.dataItemLength.toNat)
    (consuming : CipInstanceNum) (noNewData : Bool) :
    stack.assembliesBehind consuming length noNewData
        (received.data.drop (stack.object slot).sequenceCountLength.toNat)
        (received.dataItemLength - (stack.object slot).sequenceCountLength) =
      if noNewData = false ∧ received.dataItemLength.toNat =
          (stack.object slot).sequenceCountLength.toNat + config.runIdleLength.toNat + length then
        Function.update stack.assemblyData consuming (stack.payloadOf slot received)
      else stack.assemblyData := by
  unfold assembliesBehind writtenAssemblies payloadOf
  generalize (stack.object slot).sequenceCountLength = counted at holds room ⊢
  generalize config.runIdleLength = headed at room ⊢
  have within := UInt16.le_iff_toNat_le.mp holds
  have remaining : (received.dataItemLength - counted).toNat = received.dataItemLength.toNat - counted.toNat :=
    UInt16.toNat_sub_of_le _ _ holds
  have some : received.dataItemLength - counted > 0 ↔ counted.toNat < received.dataItemLength.toNat := by
    rw [gt_iff_lt, UInt16.lt_iff_toNat_lt, remaining, show (0 : UInt16).toNat = 0 from rfl]
    omega
  by_cases ended : received.dataItemLength = counted
  · rw [if_neg (by rw [some, ended]; omega), if_neg (by rw [ended]; omega)]
  · have enough := room.resolve_left ended
    rw [← UInt16.toNat_inj] at ended
    have payload : (received.dataItemLength - counted - headed).toNat =
        received.dataItemLength.toNat - counted.toNat - headed.toNat := by
      rw [UInt16.toNat_sub_of_le _ _ (UInt16.le_iff_toNat_le.mpr (by omega)), remaining]
    have same : length = (received.dataItemLength - counted - headed).toNat ↔
        received.dataItemLength.toNat = counted.toNat + headed.toNat + length := by omega
    rw [if_pos (some.mpr (by omega)), List.drop_drop]
    simp only [same]
    split
    · rename_i written
      rw [written.2, octetsOf_drop]
    · rfl

/-- A data item is handled as promised if and only if it has the negotiated size or does no harm. -/
theorem data_item_conforms_iff (reached : Reached stack) (io : slot.instanceType ≠ .explicitMessaging)
    (established : (stack.object slot).state = .established)
    (consumes : (stack.object slot).getOToTConnectionType ≠ .null) {length : Nat}
    (known : config.assemblyLength (stack.object slot).consumedPath.instanceId = some length) (nonempty : length ≠ 0)
    (hands : stack.HandsOn slot received) :
    (∃ after, stack.handleReceivedConnectedData received = .ok after ∧
      stack.ItemConforms slot received length after) ↔ stack.ItemHarmless slot received := by
  obtain ⟨consumer, size⟩ := reached.consumer io established consumes known nonempty
  obtain ⟨after, done, runIdle, assemblies⟩ := hands.item consumer known
  have only : (∃ after, stack.handleReceivedConnectedData received = .ok after ∧
      stack.ItemConforms slot received length after) ↔ stack.ItemConforms slot received length after := by
    rw [done]
    simp
  have within : itemOctetsRead config (stack.object slot) length received.data received.dataItemLength ≤
      received.dataItemLength.toNat ↔ _ := itemOctetsRead_le_iff _ _ _ _
  rw [only]
  by_cases holds : (stack.object slot).sequenceCountLength ≤ received.dataItemLength ∧
      (received.dataItemLength = (stack.object slot).sequenceCountLength ∨
        (stack.object slot).sequenceCountLength.toNat + config.runIdleLength.toNat ≤ received.dataItemLength.toNat)
  · rw [assembliesBehind_eq nonempty holds.1 holds.2, ← size] at assemblies
    by_cases agreed : received.dataItemLength.toNat = (stack.object slot).getOToTConnectionSize
    · refine ⟨fun _ => .inl agreed, fun _ => ⟨fun _ => ?_, fun differs => absurd agreed differs, within.mpr holds⟩⟩
      rw [assemblies]
      split
      · exact .inr rfl
      · exact .inl rfl
    · rw [if_neg fun both => agreed both.2] at assemblies
      -- the run/idle header is all that is left to differ
      have conforms : stack.ItemConforms slot received length after ↔
          after.runIdleState = stack.runIdleState ∧ after.deviceStatus = stack.deviceStatus :=
        ⟨fun conforms => (conforms.kept agreed).2,
          fun kept => ⟨fun same => absurd same agreed, fun _ => ⟨assemblies, kept⟩, within.mpr holds⟩⟩
      have harmless : stack.ItemHarmless slot received ↔
          received.dataItemLength = (stack.object slot).sequenceCountLength ∨ config.consumeRunIdle = false ∨
            (stack.object slot).sequenceCountLength.toNat + 4 ≤ received.dataItemLength.toNat ∧
              stack.HeaderKept slot received := by
        simp [ItemHarmless, agreed, holds.1]
      rw [conforms, harmless, ← Prod.mk.injEq, runIdle, runIdleBehind]
      by_cases headed : config.consumeRunIdle = true
      · by_cases ended : received.dataItemLength = (stack.object slot).sequenceCountLength
        · simp [ended]
        · have four : config.runIdleLength.toNat = 4 := by rw [runIdleLength_toNat, if_pos headed]
          have enough := holds.2.resolve_left ended
          have some : received.dataItemLength - (stack.object slot).sequenceCountLength > 0 := by
            rw [gt_iff_lt, UInt16.lt_iff_toNat_lt, UInt16.toNat_sub_of_le _ _ holds.1,
              show (0 : UInt16).toNat = 0 from rfl]
            omega
          rw [four] at enough
          rw [if_pos ⟨headed, some⟩, Prod.mk.injEq]
          simp [headed, ended, enough, HeaderKept]
      · simp [headed]
  · constructor
    · exact fun conforms => absurd (within.mp conforms.within) holds
    · -- what does no harm holds what stands in front of the data
      intro harmless
      refine absurd ?_ holds
      rcases harmless with agreed | ⟨counted, ended | headless | ⟨headed, _⟩⟩
      · exact ⟨UInt16.le_iff_toNat_le.mpr (by omega), .inr (by omega)⟩
      · exact ⟨counted, .inl ended⟩
      · have zero : config.runIdleLength.toNat = 0 := by simp [runIdleLength_toNat, headless]
        exact ⟨counted, .inr (by rw [zero]; exact UInt16.le_iff_toNat_le.mp counted)⟩
      · have four : config.runIdleLength.toNat ≤ 4 := by
          rw [runIdleLength_toNat]
          split <;> omega
        exact ⟨counted, .inr (by omega)⟩

def itemArrives (stack : Stack SampleApplication.runIdleConfiguration) (received : ConnectedData) : Bool :=
  let object := stack.object SampleApplication.firstRunIdleOwner
  object.state == .established && object.getOToTConnectionType != .null &&
    SampleApplication.runIdleConfiguration.assemblyLength object.consumedPath.instanceId == some 128 &&
    decide (stack.HandsOn SampleApplication.firstRunIdleOwner received)

open SampleApplication in
/-- An item of the negotiated size is handled as promised. -/
theorem full_item_conforms :
    ∃ (stack : Stack runIdleConfiguration) (received : ConnectedData),
      Reached stack ∧ received.dataItemLength = 134 ∧ ∃ after, stack.handleReceivedConnectedData received = .ok after ∧
        stack.ItemConforms firstRunIdleOwner received 128 after := by
  let datagram := dataDatagram noItems (.sequencedAddress 0x12340013 1)
    (addIntToMessage 1 ++ addDintToMessage 1 ++ List.replicate 128 7) (by simp [addIntToMessage, addDintToMessage])
  let test (stack : Stack runIdleConfiguration) : Bool :=
    datagram.received.any fun received => stack.itemArrives received && received.dataItemLength == 134 &&
      (stack.object firstRunIdleOwner).getOToTConnectionSize == 134
  have run : ends [.forwardOpen (openIo 1 (pointToPoint 132) (pointToPoint 128) 101 102)] test = true := by
    decide +kernel
  obtain ⟨stack, reached, passes⟩ := exists_of_ends run
  cases parsed : datagram.received with
  | none => simp [test, parsed] at passes
  | some received =>
      simp only [test, parsed, Option.any_some, itemArrives, Bool.and_eq_true, beq_iff_eq, bne_iff_ne,
        decide_eq_true_eq] at passes
      obtain ⟨⟨⟨⟨⟨established, consumes⟩, known⟩, hands⟩, length⟩, size⟩ := passes
      refine ⟨stack, received, reached, length, ?_⟩
      apply (data_item_conforms_iff reached (by decide) established consumes known (by decide) hands).mpr
      exact .inl (by rw [length, size]; rfl)

open SampleApplication in
/-- A class 1 item of ten octets instead of 134: the run/idle state changes all the same. -/
theorem short_item_changes_run_idle_state :
    ∃ (stack : Stack runIdleConfiguration) (received : ConnectedData),
      Reached stack ∧ (stack.object firstRunIdleOwner).state = .established ∧
        (stack.object firstRunIdleOwner).getOToTConnectionType ≠ .null ∧
        runIdleConfiguration.assemblyLength (stack.object firstRunIdleOwner).consumedPath.instanceId = some 128 ∧
        stack.HandsOn firstRunIdleOwner received ∧
        ¬ ∃ after, stack.handleReceivedConnectedData received = .ok after ∧
          stack.ItemConforms firstRunIdleOwner received 128 after := by
  let datagram := dataDatagram noItems (.sequencedAddress 0x12340013 1)
    (addIntToMessage 1 ++ addDintToMessage 1 ++ [7, 7, 7, 7]) (by decide)
  let test (stack : Stack runIdleConfiguration) : Bool :=
    datagram.received.any fun received => stack.itemArrives received &&
      decide (received.dataItemLength.toNat ≠ (stack.object firstRunIdleOwner).getOToTConnectionSize) &&
      (stack.handleReceivedConnectedData received).toOption.any fun after => after.runIdleState != stack.runIdleState
  have run : ends [.forwardOpen (openIo 1 (pointToPoint 132) (pointToPoint 128) 101 102)] test = true := by
    decide +kernel
  obtain ⟨stack, reached, passes⟩ := exists_of_ends run
  cases parsed : datagram.received with
  | none => simp [test, parsed] at passes
  | some received =>
      simp only [test, parsed, Option.any_some, itemArrives, Bool.and_eq_true, beq_iff_eq, bne_iff_ne,
        decide_eq_true_eq] at passes
      obtain ⟨⟨⟨⟨⟨established, consumes⟩, known⟩, hands⟩, wrong⟩, changes⟩ := passes
      refine ⟨stack, received, reached, established, consumes, known, hands, ?_⟩
      rintro ⟨after, done, conforms⟩
      rw [done] at changes
      exact absurd (conforms.kept wrong).2.1 (by simpa [Except.toOption] using changes)

end Sizes


end Stack

end EtherNetIP
