import EtherNetIP.Cip.ForwardOpen
import EtherNetIP.Cip.Establishing

/-! What Forward Open and Forward Close do to a coherent table.

A request is first read into the buffer object, which touches nothing of the
table. Then it is refused, which may end timed-out connections at most, or it
opens one connection in front of the list.
-/

set_option autoImplicit false

namespace EtherNetIP

open Library CipConnectionObject

variable {config : Configuration}

def parserPart (object : CipConnectionObject) : CipConnectionObject :=
  { object with
    electronicKeyFormat := 0
    productionInhibitTime := 0
    configurationPath := .zero
    producedPath := .zero
    consumedPath := .zero }

def Parses (before after : CipConnectionObject) : Prop := parserPart before = parserPart after

theorem Parses.eq {α : Type} {before after : CipConnectionObject} (parses : Parses before after)
    (read : CipConnectionObject → α) (kept : ∀ object, read (parserPart object) = read object) :
    read before = read after := by
  rw [← kept before, parses, kept]

theorem Parses.pristine {before after : CipConnectionObject} (parses : Parses before after)
    (pristine : Pristine before) : Pristine after := by
  let refill (object : CipConnectionObject) : CipConnectionObject :=
    { object with
      electronicKeyFormat := after.electronicKeyFormat
      productionInhibitTime := after.productionInhibitTime
      configurationPath := after.configurationPath
      producedPath := after.producedPath
      consumedPath := after.consumedPath }
  have same : after = refill before := by
    change refill (parserPart after) = refill (parserPart before)
    rw [parses]
  rw [same]
  exact pristine.of_write refill rfl

namespace PathReader

/-- A part of the parser leaves the rest of the object as it is, whether it refuses or not. -/
def Keeps (object : CipConnectionObject) (computation : Except (Refusal × PathReader) PathReader) : Prop :=
  Settles computation (fun reader => Parses object reader.object) (fun refused => Parses object refused.2.object)

theorem Keeps.trans {before after : CipConnectionObject}
    {computation : Except (Refusal × PathReader) PathReader} (first : Parses before after)
    (second : Keeps after computation) : Keeps before computation :=
  Settles.imp second (fun _ => Eq.trans first) fun _ => Eq.trans first

theorem Keeps.bind {object : CipConnectionObject} {first : Except (Refusal × PathReader) PathReader}
    {next : PathPart} (head : Keeps object first) (tail : ∀ reader, Keeps reader.object (next reader)) :
    Keeps object (first >>= next) :=
  Settles.bind head fun reader parses => (tail reader).trans parses

variable (reader : PathReader)

theorem checkLength_keeps (requestDataSize : Nat) : Keeps reader.object (checkLength requestDataSize reader) := by
  unfold checkLength
  dsimp only
  generalize (if reader.object.isLargeForwardOpen then 40 else 36 : Nat) = headerLength
  split
  · rfl
  · split <;> rfl

theorem parseElectronicKey_keeps (identity : Identity) :
    Keeps reader.object (parseElectronicKey identity reader) := by
  unfold parseElectronicKey
  split
  · split
    · rfl
    · split
      dsimp only
      split <;> rfl
  · rfl

theorem parseProductionInhibitTime_keeps : Keeps reader.object (parseProductionInhibitTime reader) := by
  unfold parseProductionInhibitTime
  split <;> rfl

theorem parseClass_keeps : Keeps reader.object (parseClass config reader) := by
  unfold parseClass
  split
  · dsimp only
    split <;> rfl
  · rfl

theorem parseConfigurationInstance_keeps : Keeps reader.object (parseConfigurationInstance reader) := by
  unfold parseConfigurationInstance
  split
  · dsimp only
    split <;> rfl
  · rfl

theorem setPath_parses (path : EncodedPath) (object : CipConnectionObject) (epath : CipConnectionPathEpath) :
    Parses object (setPath path object epath) := by
  cases path <;> rfl

theorem parseConnectionPoint_keeps (path : EncodedPath) :
    Keeps reader.object (parseConnectionPoint path reader) := by
  unfold parseConnectionPoint
  split
  · dsimp only
    split
    · rfl
    · split <;> exact setPath_parses path _ _
  · rfl

theorem parseConnectionPoints_keeps (paths : List EncodedPath) :
    Keeps reader.object (parseConnectionPoints paths reader) := by
  induction paths generalizing reader with
  | nil => rfl
  | cons path rest ih => exact (parseConnectionPoint_keeps reader path).bind ih

theorem parseSegment_keeps (connectionPathSize : UInt64) :
    Keeps reader.object (parseSegment connectionPathSize reader) := by
  unfold parseSegment
  split
  · split <;> rfl
  · split
    · split <;> rfl
    · rfl
  · rfl

theorem parseSegments_keeps (connectionPathSize : UInt64) (fuel : Nat) :
    Keeps reader.object (parseSegments connectionPathSize fuel reader) := by
  induction fuel generalizing reader with
  | zero =>
      unfold parseSegments
      split <;> rfl
  | succ fuel ih =>
      unfold parseSegments
      split
      · exact (parseSegment_keeps reader connectionPathSize).bind ih
      · rfl

theorem finishIo_keeps (connectionPathSize : UInt64) : Keeps reader.object (finishIo connectionPathSize reader) := by
  have named : Parses reader.object { reader.object with configurationPath := reader.epath } := rfl
  apply Keeps.trans named
  apply Keeps.bind (parseConnectionPoints_keeps _ _)
  intro reader
  exact parseSegments_keeps { reader with configData := none } connectionPathSize _

theorem finish_spec (connectionPathSize : UInt64) :
    Settles (finish connectionPathSize reader)
      (fun after => Parses reader.object after.object ∧
        (reader.object.getTransportClass = .class3 →
          after.object.configurationPath.classId = kCipMessageRouterClassCode))
      (fun refused => Parses reader.object refused.2.object) := by
  unfold finish
  split
  · unfold finishClass3
    split
    · rfl
    · split
      · rfl
      · rename_i router
        rw [not_or, not_not] at router
        exact ⟨rfl, fun _ => router.1⟩
  · rename_i other
    apply Settles.mono (finishIo_keeps reader connectionPathSize)
    intro after parses
    exact ⟨parses, fun class3 => absurd class3 other⟩

end PathReader

theorem parseConnectionPath_spec (config : Configuration) (object : CipConnectionObject) (configData : Option (List CipOctet))
    (data : List CipOctet) (requestDataSize : Nat) :
    Settles (parseConnectionPath config object configData data requestDataSize)
      (fun reader => Parses object reader.object ∧ (object.getTransportClass = .class3 →
        reader.object.configurationPath.classId = kCipMessageRouterClassCode))
      (fun refused => Parses object refused.2.object) := by
  unfold parseConnectionPath
  split
  split
  · exact (rfl : Parses object object)
  · have marked : Parses object { object with productionInhibitTime := 256 } := rfl
    have step {before : CipConnectionObject} {first : Except (Refusal × PathReader) PathReader}
        {next : PathPart} {post : PathReader → Prop} (early : Parses object before)
        (head : PathReader.Keeps before first)
        (tail : ∀ reader, Parses object reader.object →
          Settles (next reader) post (fun refused => Parses object refused.2.object)) :
        Settles (first >>= next) post (fun refused => Parses object refused.2.object) :=
      Settles.bind (PathReader.Keeps.trans early head) tail
    apply step marked (PathReader.checkLength_keeps _ requestDataSize)
    intro reader parses
    apply step parses (PathReader.parseElectronicKey_keeps reader config.identity)
    intro reader parses
    apply step parses (PathReader.parseProductionInhibitTime_keeps reader)
    intro reader parses
    apply step parses (PathReader.parseClass_keeps reader)
    intro reader parses
    apply step parses (PathReader.parseConfigurationInstance_keeps reader)
    intro reader parses
    apply (PathReader.finish_spec reader _).imp
    · rintro after ⟨last, router⟩
      refine ⟨Eq.trans parses last, fun class3 => router ?_⟩
      rw [← parses.eq getTransportClass fun _ => rfl]
      exact class3
    · exact fun refused => Eq.trans parses

section Outcomes

variable {before middle after : Stack config} {slot : Slot config}

def SameTable (before after : Stack config) : Prop :=
  after.connectionList = before.connectionList ∧ after.object = before.object

theorem Leaves.of_sameTable (same : SameTable before middle)
    (leaves : Leaves middle after) : Leaves before after where
  continues :=
    { coherent := leaves.continues.coherent.of_same_table rfl rfl
      sublist := same.1 ▸ leaves.continues.sublist
      same := fun slot member => same.2 ▸ leaves.continues.same slot member
      spares := fun _ _ keep => keep.elim
      aged := fun slot member => same.2 ▸ leaves.continues.aged slot member
      dummy := rfl }
  pristine := leaves.pristine

theorem Enlarges.of_sameTable
    (same : SameTable before middle) (enlarges : Enlarges middle after slot) : Enlarges before after slot where
  coherent := enlarges.coherent
  list := same.1 ▸ enlarges.list
  same := fun other member differs => same.2 ▸ enlarges.same other member differs
  pristine := enlarges.pristine

inductive ForwardOpened (before after : Stack config) : Prop where
  | refused (leaves : Leaves before after)
  | explicit (slot : Slot config) (type : slot.instanceType = .explicitMessaging)
      (nonExistent : (before.object slot).state = .nonExistent) (enlarges : Enlarges before after slot)
  | io (object : CipConnectionObject) (choice : SlotChoice config) (instanceType : ConnectionObjectInstanceType)
      (chosen : before.chooseIoConnection object = .ok (choice, instanceType))
      (enlarges : Enlarges before after choice.slot)
      (serves : Serves (object.setInstanceType instanceType) (after.object choice.slot))

theorem ForwardOpened.of_sameTable (same : SameTable before middle)
    (opened : ForwardOpened middle after) : ForwardOpened before after := by
  cases opened with
  | refused leaves => exact .refused (leaves.of_sameTable same)
  | explicit slot type nonExistent enlarges =>
      exact .explicit slot type (same.2 ▸ nonExistent) (enlarges.of_sameTable same)
  | io object choice instanceType chosen enlarges serves =>
      have agrees : before.chooseIoConnection object = middle.chooseIoConnection object := by
        obtain ⟨list, objects⟩ := same
        simp only [Stack.chooseIoConnection, Stack.getExclusiveOwnerConnection, Stack.getInputOnlyConnection,
          Stack.getListenOnlyConnection, Stack.getConnectedOutputAssembly, Stack.getExistingProducerIoConnection,
          Stack.chooseConnection, Stack.findConnection, list, objects]
      exact .io object choice instanceType (agrees.trans chosen) (enlarges.of_sameTable same) serves

end Outcomes

namespace Stack

variable {stack : Stack config} {request : Request} {data : List CipOctet}

theorem connectionManagementList_lookup {classId : UInt32} {entry : Option OpenConnectionFunction}
    (found : config.connectionManagementList.lookup classId = some entry) :
    (classId = kCipMessageRouterClassCode ∧ entry = some .establishClass3Connection) ∨
      (classId = kCipAssemblyClassCode ∧ entry = some .establishIoConnection) ∨ (classId = 0 ∧ entry = none) := by
  obtain ⟨front, back, list, _⟩ := List.lookup_eq_some_iff.mp found
  have member : (classId, entry) ∈ config.connectionManagementList := by simp [list]
  simp only [Configuration.connectionManagementList, List.mem_cons, List.mem_replicate, Prod.mk.injEq] at member
  exact member.imp_right (Or.imp_right And.right)

theorem connectionManagementList_class3 {classId : UInt32}
    (found : config.connectionManagementList.lookup classId = some (some .establishClass3Connection)) :
    classId = kCipMessageRouterClassCode := by
  simpa using connectionManagementList_lookup found

theorem connectionManagementList_io {classId : UInt32}
    (found : config.connectionManagementList.lookup classId = some (some .establishIoConnection)) :
    classId = kCipAssemblyClassCode := by
  simpa using connectionManagementList_lookup found

theorem openConnection_spec (coherent : Coherent stack) (pristine : Pristine stack.dummy) {network : Network}
    (router : stack.dummy.getTransportClass = .class3 →
      stack.dummy.configurationPath.classId = kCipMessageRouterClassCode) :
    Settles (stack.openConnection network) (ForwardOpened stack)
      (Refuses (fun _ => True) fun _ after => Leaves stack after) := by
  unfold openConnection
  split
  · exact Leaves.of_dummy coherent pristine
  · exact ForwardOpened.refused (Leaves.of_dummy coherent pristine)
  · apply (establishClass3Connection_spec coherent pristine).mono
    rintro after ⟨slot, free, enlarges⟩
    obtain ⟨explicit, nonExistent⟩ := getFreeExplicitConnection_spec free
    exact .explicit slot explicit nonExistent enlarges
  · rename_i found
    have assembly := connectionManagementList_io found
    apply (establishIoConnection_spec coherent pristine ?_).imp
    · rintro after ⟨choice, instanceType, chosen, enlarges, serves⟩
      exact .io _ choice instanceType chosen enlarges serves
    · exact Refuses.mono fun _ _ refused => refused.1
    · intro class3
      have both := (router class3).symm.trans assembly
      simp [kCipMessageRouterClassCode, kCipAssemblyClassCode] at both

/-- What a request is read into, apart from what the path parser says about it. -/
structure Reads (before after : Stack config) : Prop where
  table : SameTable before after
  assemblyData : after.assemblyData = before.assemblyData
  pristine : Pristine after.dummy

theorem Reads.trans {before middle after : Stack config} (first : Reads before middle) (second : Reads middle after) :
    Reads before after :=
  ⟨⟨second.table.1.trans first.table.1, second.table.2.trans first.table.2⟩,
    second.assemblyData.trans first.assemblyData, second.pristine⟩

theorem readForwardOpen_spec (pristine : Pristine stack.dummy) (isLfo : Bool) (request : Request) :
    Settles (stack.readForwardOpen isLfo request)
      (fun result => Reads stack result.2) (· ≠ .nullNode) := by
  unfold readForwardOpen
  split
  rename_i header data read
  have number : Settles (({ stack with addressInfoItems := request.addressInfoItems } :
      Stack config).generateRandomConnectionNumber request.randomNumbers) (fun _ => True) (· ≠ .nullNode) := by
    generalize request.randomNumbers = numbers
    induction numbers with
    | nil => simp [generateRandomConnectionNumber]
    | cons randNum rest ih =>
        unfold generateRandomConnectionNumber
        split
        · exact ih
        · trivial
  apply Settles.bind number
  intro connectionNumber _
  refine ⟨⟨rfl, rfl⟩, rfl, ?_⟩
  exact pristine.of_write (fun object =>
    { CipConnectionObject.initializeFromMessage { object with isLargeForwardOpen := isLfo } header connectionNumber with
      associatedEncapsulationSession := request.encapsulationSession
      originatorAddress := request.originatorAddress }) rfl

theorem parseConnectionPath_reads (pristine : Pristine stack.dummy) (request : Request) (data : List CipOctet) :
    Settles (stack.parseConnectionPath request data)
      (fun after => Reads stack after ∧ (after.dummy.getTransportClass = .class3 →
        after.dummy.configurationPath.classId = kCipMessageRouterClassCode))
      (Refuses (fun _ => False) fun _ after => Reads stack after) := by
  unfold parseConnectionPath
  have spec := parseConnectionPath_spec config stack.dummy stack.configData data request.requestDataSize
  split
  · rename_i refusal reader failed
    exact ⟨⟨rfl, rfl⟩, rfl, (spec.raises failed).pristine pristine⟩
  · rename_i reader parsed
    obtain ⟨parses, router⟩ := spec.returns parsed
    refine ⟨⟨⟨rfl, rfl⟩, rfl, parses.pristine pristine⟩, fun class3 => router ?_⟩
    rw [parses.eq getTransportClass fun _ => rfl]
    exact class3

/-- The extended status of the first check in front of the path parser that the request fails. -/
def refusalInFront (request : Request) (stack : Stack config) : Option UInt16 :=
  if stack.dummy.getOToTConnectionType = .invalid then some ExtendedStatus.errorInvalidOToTConnectionType
  else if stack.dummy.getTToOConnectionType = .invalid then some ExtendedStatus.errorInvalidTToOConnectionType
  else if stack.dummy.getTToOConnectionType = .multicast ∧ onSubnet config request.originatorAddress = false then
    some ExtendedStatus.notConfiguredForOffSubnetMulticast
  else if isNullRequest stack.dummy then some ExtendedStatus.nullForwardOpenNotSupported
  else if (stack.checkForExistingConnection stack.dummy).isSome then
    some ExtendedStatus.errorConnectionInUseOrDuplicateForwardOpen
  else if stack.dummy.getProductionTrigger = .invalid then
    some ExtendedStatus.errorTransportClassAndTriggerCombinationNotSupported
  else none

theorem checkForwardOpen_eq (stack : Stack config) (request : Request) (data : List CipOctet) :
    stack.checkForwardOpen request data =
      match stack.refusalInFront request with
      | some extendedStatus => stack.connectionFailure extendedStatus
      | none => stack.parseConnectionPath request data >>= openConnection request.network := by
  unfold checkForwardOpen refusalInFront handleForwardOpenRequest handleNonNullNonMatchingForwardOpenRequest
  iterate 6 (split; · rfl)
  rfl

/-- The stack in which a request is opened that passes the checks and the path parser. -/
def admitted (isLfo : Bool) (request : Request) (stack : Stack config) : Option (Stack config) :=
  match stack.readForwardOpen isLfo request with
  | .error _ => none
  | .ok (data, reading) =>
      if (reading.refusalInFront request).isSome then none
      else
        match reading.parseConnectionPath request data with
        | .error _ => none
        | .ok asked => some asked

section Requests

variable {isLfo : Bool} {asked : Stack config}

theorem admitted_eq_some (admission : stack.admitted isLfo request = some asked) :
    ∃ data reading, stack.readForwardOpen isLfo request = .ok (data, reading) ∧
      reading.refusalInFront request = none ∧ reading.parseConnectionPath request data = .ok asked := by
  unfold admitted at admission
  split at admission
  · cases admission
  · rename_i data reading read
    split at admission
    · cases admission
    · rename_i passed
      split at admission
      · cases admission
      · rename_i parsed
        cases admission
        exact ⟨data, reading, read, by simpa using passed, parsed⟩

theorem admitted_spec (pristine : Pristine stack.dummy) (admission : stack.admitted isLfo request = some asked) :
    Reads stack asked ∧ (asked.dummy.getTransportClass = .class3 →
      asked.dummy.configurationPath.classId = kCipMessageRouterClassCode) := by
  obtain ⟨data, reading, read, _, parsed⟩ := admitted_eq_some admission
  have reads : Reads stack reading := (readForwardOpen_spec pristine isLfo request).returns read
  obtain ⟨readsOn, router⟩ := (parseConnectionPath_reads reads.pristine request data).returns parsed
  exact ⟨reads.trans readsOn, router⟩

theorem forwardOpenRoutine_admitted (admission : stack.admitted isLfo request = some asked) :
    stack.forwardOpenRoutine isLfo request = answerForwardOpen (asked.openConnection request.network) := by
  obtain ⟨data, reading, read, passed, parsed⟩ := admitted_eq_some admission
  unfold forwardOpenRoutine
  rw [read, ok_bind]
  dsimp only
  rw [checkForwardOpen_eq, passed]
  dsimp only
  rw [parsed, ok_bind]

theorem forwardOpenRoutine_turnedAway (pristine : Pristine stack.dummy)
    (turnedAway : stack.admitted isLfo request = none) :
    Settles (stack.forwardOpenRoutine isLfo request) (fun answered => Reads stack answered.2) (· ≠ .nullNode) := by
  have answered {reading after : Stack config} (reads : Reads stack reading) (readsOn : Reads reading after) :
      Reads stack { after with dummy := after.dummy.setState .nonExistent } :=
    reads.trans { readsOn with pristine := readsOn.pristine.of_write (·.setState .nonExistent) rfl }
  unfold forwardOpenRoutine
  unfold admitted at turnedAway
  cases read : stack.readForwardOpen isLfo request with
  | error fault => exact (readForwardOpen_spec pristine isLfo request).raises read
  | ok result =>
      obtain ⟨data, reading⟩ := result
      have reads : Reads stack reading := (readForwardOpen_spec pristine isLfo request).returns read
      rw [read] at turnedAway
      dsimp only at turnedAway
      rw [ok_bind]
      dsimp only
      rw [checkForwardOpen_eq]
      cases front : reading.refusalInFront request with
      | some extendedStatus => exact answered reads ⟨⟨rfl, rfl⟩, rfl, reads.pristine⟩
      | none =>
          have spec := parseConnectionPath_reads reads.pristine request data
          rw [front] at turnedAway
          dsimp only
          cases parsed : reading.parseConnectionPath request data with
          | ok asked =>
              rw [parsed] at turnedAway
              cases turnedAway
          | error stop =>
              cases stop with
              | fault fault => exact absurd (spec.raises parsed) id
              | refused refusal after => exact answered reads (spec.raises parsed)

end Requests

theorem forwardOpenRoutine_spec (coherent : Coherent stack) (pristine : Pristine stack.dummy) (isLfo : Bool)
    (request : Request) :
    Settles (stack.forwardOpenRoutine isLfo request) (fun answered => ForwardOpened stack answered.2)
      (fun _ => True) := by
  cases admission : stack.admitted isLfo request with
  | none =>
      apply (forwardOpenRoutine_turnedAway pristine admission).imp
      · rintro ⟨response, after⟩ reads
        exact .refused ⟨Continues.of_same_table coherent reads.table.1 reads.table.2 rfl, reads.pristine⟩
      · exact fun _ _ => trivial
  | some asked =>
      rw [forwardOpenRoutine_admitted admission]
      obtain ⟨⟨same, _, askedPristine⟩, router⟩ := admitted_spec pristine admission
      have opening : Settles (asked.openConnection request.network) _ _ :=
        openConnection_spec (coherent.of_same_table same.1 same.2) askedPristine router
      unfold answerForwardOpen
      split
      · trivial
      · rename_i refusal after refused
        have leaves : Leaves asked after := opening.raises refused
        have answered : Leaves asked { after with dummy := after.dummy.setState .nonExistent } :=
          ⟨leaves.continues, leaves.pristine.of_write (·.setState .nonExistent) rfl⟩
        exact ForwardOpened.refused (answered.of_sameTable same)
      · rename_i after accepted
        split
        · trivial
        · exact (opening.returns accepted).of_sameTable same

end Stack

end EtherNetIP
