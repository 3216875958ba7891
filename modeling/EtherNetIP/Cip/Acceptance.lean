import EtherNetIP.Cip.PathClass
import EtherNetIP.Operations

/-! What an accepted Forward Open opens.

A reply with the status of success comes from a request that passed every check
and was opened; a refusal never carries that status. What was opened is then
known exactly, and that it is new: neither its triad nor its connection number
belonged to a connection before.
-/

set_option autoImplicit false

namespace EtherNetIP

open Library CipConnectionObject

variable {config : Configuration}

namespace PathReader

/-- A refusal by a part of the parser is not answered with the status of success. -/
def NamesError (computation : Except (Refusal × PathReader) PathReader) : Prop :=
  Settles computation (fun _ => True) (fun refused => refused.1.generalStatus ≠ kCipErrorSuccess)

theorem NamesError.bind {first : Except (Refusal × PathReader) PathReader} {next : PathPart}
    (head : NamesError first) (tail : ∀ reader, NamesError (next reader)) : NamesError (first >>= next) :=
  Settles.bind head fun reader _ => tail reader

variable (reader : PathReader)

theorem refuse_namesError {generalStatus : UInt8} (failure : generalStatus ≠ kCipErrorSuccess) (extendedStatus : UInt16) :
    NamesError (reader.refuse generalStatus extendedStatus) := failure

theorem invalidSegmentType_namesError : NamesError reader.invalidSegmentType := by
  unfold invalidSegmentType
  exact refuse_namesError reader (by decide) _

theorem checkLength_namesError (requestDataSize : Nat) : NamesError (checkLength requestDataSize reader) := by
  unfold checkLength
  dsimp only
  generalize (if reader.object.isLargeForwardOpen then 40 else 36 : Nat) = headerLength
  split
  · exact refuse_namesError reader (by decide) _
  · split
    · exact refuse_namesError reader (by decide) _
    · trivial

theorem parseElectronicKey_namesError (identity : Identity) : NamesError (parseElectronicKey identity reader) := by
  unfold parseElectronicKey
  split
  · split
    · exact refuse_namesError reader (by decide) _
    · split
      dsimp only
      split
      · exact refuse_namesError _ (by decide) _
      · trivial
  · trivial

theorem parseClass_namesError : NamesError (parseClass config reader) := by
  unfold parseClass
  split
  · dsimp only
    split
    · exact refuse_namesError _ (by decide) _
    · trivial
  · exact invalidSegmentType_namesError reader

theorem parseConfigurationInstance_namesError : NamesError (parseConfigurationInstance reader) := by
  unfold parseConfigurationInstance
  split
  · dsimp only
    split
    · exact invalidSegmentType_namesError _
    · trivial
  · trivial

theorem parseConnectionPoint_namesError (path : EncodedPath) : NamesError (parseConnectionPoint path reader) := by
  unfold parseConnectionPoint
  split
  · dsimp only
    split
    · exact invalidSegmentType_namesError _
    · split
      · exact refuse_namesError _ (by decide) _
      · trivial
  · exact invalidSegmentType_namesError reader

theorem parseConnectionPoints_namesError (paths : List EncodedPath) :
    NamesError (parseConnectionPoints paths reader) := by
  induction paths generalizing reader with
  | nil => trivial
  | cons path rest ih => exact (parseConnectionPoint_namesError reader path).bind ih

theorem parseSegment_namesError (connectionPathSize : UInt64) : NamesError (parseSegment connectionPathSize reader) := by
  unfold parseSegment
  split
  · split
    · trivial
    · exact refuse_namesError reader (by decide) _
  · split
    · split
      · trivial
      · exact refuse_namesError reader (by decide) _
    · exact refuse_namesError reader (by decide) _
  · exact refuse_namesError reader (by decide) _

theorem parseSegments_namesError (connectionPathSize : UInt64) (fuel : Nat) :
    NamesError (parseSegments connectionPathSize fuel reader) := by
  induction fuel generalizing reader with
  | zero =>
      unfold parseSegments
      split
      · exact refuse_namesError reader (by decide) _
      · trivial
  | succ fuel ih =>
      unfold parseSegments
      split
      · exact (parseSegment_namesError reader connectionPathSize).bind ih
      · trivial

theorem finish_namesError (connectionPathSize : UInt64) : NamesError (finish connectionPathSize reader) := by
  unfold finish
  split
  · unfold finishClass3
    split
    · exact invalidSegmentType_namesError reader
    · split
      · exact refuse_namesError reader (by decide) _
      · trivial
  · apply NamesError.bind (parseConnectionPoints_namesError _ _)
    exact fun reader => parseSegments_namesError _ connectionPathSize _

theorem parseClass_registered :
    Settles (parseClass config reader)
      (fun after => ∃ cipClass, config.getCipClass after.cipClass.classId = some cipClass) (fun _ => True) := by
  unfold parseClass
  split
  · dsimp only
    split
    · trivial
    · rename_i cipClass found
      have code := List.find?_some found
      rw [beq_iff_eq] at code
      refine ⟨cipClass, ?_⟩
      change config.getCipClass cipClass.classId = some cipClass
      rw [code]
      exact found
  · trivial

end PathReader

theorem parseConnectionPath_registered (config : Configuration) (object : CipConnectionObject)
    (configData : Option (List CipOctet)) (data : List CipOctet) (requestDataSize : Nat) :
    Settles (parseConnectionPath config object configData data requestDataSize)
      (fun reader => ∃ cipClass, config.getCipClass reader.object.configurationPath.classId = some cipClass)
      (fun _ => True) := by
  have any (computation : Except (Refusal × PathReader) PathReader) :
      Settles computation (fun _ => True) (fun _ => True) := by
    cases computation with
    | error refused => trivial
    | ok reader => trivial
  unfold parseConnectionPath
  split
  split
  · trivial
  · apply (any _).bind
    intro reader _
    apply (any _).bind
    intro reader _
    apply (any _).bind
    intro reader _
    apply (PathReader.parseClass_registered reader).bind
    rintro reader ⟨cipClass, registered⟩
    refine Settles.bind PathReader.parseConfigurationInstance_ok fun found kept => ?_
    obtain ⟨_, same⟩ := kept
    apply (PathReader.finish_ok _).mono
    intro after names
    rw [names.configuration, same]
    exact ⟨cipClass, registered⟩

theorem parseConnectionPath_namesError (config : Configuration) (object : CipConnectionObject)
    (configData : Option (List CipOctet)) (data : List CipOctet) (requestDataSize : Nat) :
    PathReader.NamesError (parseConnectionPath config object configData data requestDataSize) := by
  unfold parseConnectionPath
  split
  split
  · exact PathReader.refuse_namesError _ (by decide) _
  · apply PathReader.NamesError.bind (PathReader.checkLength_namesError _ _)
    intro reader
    apply PathReader.NamesError.bind (PathReader.parseElectronicKey_namesError reader _)
    intro reader
    have inhibited : PathReader.NamesError (PathReader.parseProductionInhibitTime reader) := by
      unfold PathReader.parseProductionInhibitTime
      split <;> trivial
    apply PathReader.NamesError.bind inhibited
    intro reader
    apply PathReader.NamesError.bind (PathReader.parseClass_namesError reader)
    intro reader
    exact (PathReader.parseConfigurationInstance_namesError reader).bind fun reader =>
      PathReader.finish_namesError reader _

namespace Stack

section Refusals

variable {network : Network} {stack : Stack config} {slot : Slot config}

/-- A refusal behind the path parser is answered as a connection failure. -/
def Fails {α : Type} (computation : Except (Stop config) α) : Prop :=
  Settles computation (fun _ => True)
    (Refuses (fun _ => True) fun refusal _ => refusal.generalStatus = kCipErrorConnectionFailure)

theorem Fails.bind {α β : Type} {first : Except (Stop config) α} {next : α → Except (Stop config) β}
    (head : Fails first) (tail : ∀ value, Fails (next value)) : Fails (first >>= next) :=
  Settles.bind head fun value _ => tail value

theorem fails_connectionFailure {α : Type} (stack : Stack config) (extendedStatus : UInt16) :
    Fails (stack.connectionFailure extendedStatus : Except (Stop config) α) := rfl

theorem fails_orStop {α : Type} (computation : Except Fault α) : Fails (orStop computation : Except (Stop config) α) := by
  cases computation with
  | error fault => trivial
  | ok value => trivial

theorem getIoConnectionForConnectionData_fails : Fails stack.getIoConnectionForConnectionData := by
  unfold getIoConnectionForConnectionData
  split
  · exact fails_connectionFailure _ _
  · exact (fails_orStop _).bind fun _ => trivial

theorem prepareIoConnection_fails : Fails (stack.prepareIoConnection slot) := by
  unfold prepareIoConnection
  split
  · exact fails_connectionFailure _ _
  · trivial

theorem setupConsumerSide_fails : Fails (stack.setupConsumerSide slot) := by
  unfold setupConsumerSide
  split
  · unfold setupIoConnectionOriginatorToTargetConnectionPoint
    dsimp only
    split
    · exact fails_connectionFailure _ _
    · split
      · trivial
      · split
        · exact fails_connectionFailure _ _
        · trivial
  · trivial

theorem setupProducerSide_fails : Fails (stack.setupProducerSide slot) := by
  unfold setupProducerSide
  split
  · unfold setupIoConnectionTargetToOriginatorConnectionPoint
    dsimp only
    split
    · exact fails_connectionFailure _ _
    · split
      · exact fails_connectionFailure _ _
      · split
        · trivial
        · split
          · exact fails_connectionFailure _ _
          · trivial
  · trivial

theorem handleSentConfigData_fails : Fails (stack.handleSentConfigData slot) := by
  unfold handleSentConfigData
  split
  · trivial
  · unfold handleConfigData
    dsimp only
    split
    · trivial
    · split
      · trivial
      · split
        · split
          · trivial
          · split
            · exact fails_connectionFailure _ _
            · split
              · exact fails_connectionFailure _ _
              · trivial
        · apply (fails_orStop _).bind
          rintro ⟨accepted, written⟩
          dsimp only
          split
          · trivial
          · exact fails_connectionFailure _ _

theorem orConnectionFailure_fails (opened : Bool × Stack config) : Fails (orConnectionFailure opened) := by
  obtain ⟨_ | _, after⟩ := opened
  · exact fails_connectionFailure _ _
  · trivial

theorem openCommunicationChannels_fails : Fails (stack.openCommunicationChannels network slot) :=
  (fails_orStop _).bind fun _ => (orConnectionFailure_fails _).bind fun _ => orConnectionFailure_fails _

theorem establishIoConnection_fails : Fails (stack.establishIoConnection network) := by
  have opening : Fails (stack.openIoConnection network) := by
    apply getIoConnectionForConnectionData_fails.bind
    rintro ⟨slot, copied⟩
    apply (prepareIoConnection_fails.bind fun _ => setupConsumerSide_fails.bind fun _ => setupProducerSide_fails).bind
    intro checked
    exact handleSentConfigData_fails.bind fun _ => openCommunicationChannels_fails.bind fun _ => trivial
  apply opening.bind
  rintro ⟨slot, opened⟩
  exact (fails_orStop _).bind fun _ => trivial

theorem establishClass3Connection_fails : Fails stack.establishClass3Connection := by
  unfold establishClass3Connection
  split
  · exact fails_connectionFailure _ _
  · exact fails_orStop _

theorem checkForwardOpen_refused (request : Request) (data : List CipOctet) :
    Settles (stack.checkForwardOpen request data) (fun _ => True)
      (Refuses (fun _ => True) fun refusal _ => refusal.generalStatus ≠ kCipErrorSuccess) := by
  have failed {α : Type} {computation : Except (Stop config) α} (fails : Fails computation) :
      Settles computation (fun _ => True)
        (Refuses (fun _ => True) fun refusal _ => refusal.generalStatus ≠ kCipErrorSuccess) := by
    apply fails.imp
    · exact fun _ => id
    · apply Refuses.mono
      rintro refusal _ failure success
      rw [failure] at success
      exact absurd success (by decide)
  rw [checkForwardOpen_eq]
  split
  · exact failed (fails_connectionFailure _ _)
  · have parsing : Settles (stack.parseConnectionPath request data) (fun _ => True)
        (Refuses (fun _ => True) fun refusal _ => refusal.generalStatus ≠ kCipErrorSuccess) := by
      unfold parseConnectionPath
      have spec := parseConnectionPath_namesError config stack.dummy stack.configData data request.requestDataSize
      split
      · rename_i refusal reader refused
        exact spec.raises refused
      · trivial
    apply parsing.bind
    intro asked _
    unfold openConnection
    split
    · change kEipStatusErrorOctet ≠ kCipErrorSuccess
      decide
    · trivial
    · exact failed establishClass3Connection_fails
    · exact failed establishIoConnection_fails

end Refusals

end Stack

def ForwardOpenHeader.connectionTriad (header : ForwardOpenHeader) : ConnectionTriad :=
  ⟨header.connectionSerialNumber, header.originatorVendorId, header.originatorSerialNumber⟩

def Request.connectionTriad (isLfo : Bool) (request : Request) : ConnectionTriad :=
  ((readForwardOpenHeader isLfo).run request.data).1.connectionTriad

theorem equalConnectionTriad_iff {object other : CipConnectionObject} :
    equalConnectionTriad object other = true ↔ object.connectionTriad = other.connectionTriad := by
  simp [equalConnectionTriad, CipConnectionObject.connectionTriad, and_assoc]

namespace Stack

variable {stack asked after : Stack config} {isLfo : Bool} {request : Request} {response : Response}

/-- An admitted request: it was read on the stack as it is, and what it names is new to the list. -/
structure Admits (stack asked : Stack config) (isLfo : Bool) (request : Request) : Prop where
  same : asked = { stack with
    addressInfoItems := request.addressInfoItems, dummy := asked.dummy, configData := asked.configData }
  triad : asked.dummy.connectionTriad = request.connectionTriad isLfo
  newTriad : ∀ other ∈ stack.connectionList.toList, (stack.object other).state = .established →
    (stack.object other).connectionTriad ≠ asked.dummy.connectionTriad
  newNumber : ∀ other ∈ stack.connectionList.toList,
    (stack.object other).connectionNumber ≠ asked.dummy.connectionNumber
  registered : ∃ cipClass, config.getCipClass asked.dummy.configurationPath.classId = some cipClass

theorem admitted_reads {α : Type} {value : α} (admission : stack.admitted isLfo request = some asked)
    (read : CipConnectionObject → α) (parsed : ∀ object, read (parserPart object) = read object)
    (asks : ∀ (object : CipConnectionObject) connectionNumber,
      let asking := { object with isLargeForwardOpen := isLfo }.initializeFromMessage
        ((readForwardOpenHeader isLfo).run request.data).1 connectionNumber
      read { asking with
        associatedEncapsulationSession := request.encapsulationSession
        originatorAddress := request.originatorAddress } = value) :
    read asked.dummy = value := by
  obtain ⟨data, reading, done, _, parses⟩ := admitted_eq_some admission
  have spec := parseConnectionPath_spec config reading.dummy reading.configData data request.requestDataSize
  unfold readForwardOpen at done
  obtain ⟨connectionNumber, _, finish⟩ := bind_eq_ok.mp done
  have asked : read reading.dummy = value := by
    cases finish
    exact asks ..
  unfold parseConnectionPath at parses
  split at parses
  · cases parses
  · rename_i reader left
    cases parses
    exact ((spec.returns left).1.eq read parsed).symm.trans asked

theorem generateRandomConnectionNumber_ok {numbers : List UInt16} {connectionNumber : UInt16}
    (generated : stack.generateRandomConnectionNumber numbers = .ok connectionNumber) :
    ∀ other ∈ stack.connectionList.toList, (stack.object other).connectionNumber ≠ connectionNumber := by
  induction numbers with
  | nil => cases generated
  | cons randNum rest ih =>
      unfold generateRandomConnectionNumber at generated
      split at generated
      · exact ih generated
      · rename_i free
        cases generated
        simpa using free

theorem readForwardOpen_ok {data : List CipOctet} {reading : Stack config}
    (read : stack.readForwardOpen isLfo request = .ok (data, reading)) :
    reading = { stack with addressInfoItems := request.addressInfoItems, dummy := reading.dummy } ∧
      reading.dummy.connectionTriad = request.connectionTriad isLfo ∧
      ∀ other ∈ stack.connectionList.toList, (stack.object other).connectionNumber ≠ reading.dummy.connectionNumber := by
  unfold readForwardOpen at read
  split at read
  rename_i header rest parsed
  obtain ⟨connectionNumber, generated, finish⟩ := bind_eq_ok.mp read
  have new := generateRandomConnectionNumber_ok generated
  cases finish
  refine ⟨rfl, ?_, new⟩
  rw [Request.connectionTriad, parsed]
  rfl

theorem refusalInFront_none (passed : stack.refusalInFront request = none) :
    ∀ other ∈ stack.connectionList.toList, (stack.object other).state = .established →
      (stack.object other).connectionTriad ≠ stack.dummy.connectionTriad := by
  have nobody : stack.checkForExistingConnection stack.dummy = none := by
    by_contra found
    rw [← ne_eq, Option.ne_none_iff_isSome] at found
    unfold refusalInFront at passed
    rw [if_pos found] at passed
    split at passed
    · cases passed
    · split at passed
      · cases passed
      · split at passed
        · cases passed
        · split at passed <;> cases passed
  intro other listed established same
  have differs := findConnection_eq_none_iff.mp nobody other listed
  rw [established, equalConnectionTriad_iff.mpr same.symm] at differs
  cases differs

theorem admitted_admits (admission : stack.admitted isLfo request = some asked) :
    Admits stack asked isLfo request := by
  obtain ⟨data, reading, read, passed, parsed⟩ := admitted_eq_some admission
  obtain ⟨sameRead, triad, newNumber⟩ := readForwardOpen_ok read
  have newTriad := refusalInFront_none passed
  have spec := parseConnectionPath_spec config reading.dummy reading.configData data request.requestDataSize
  have registered := parseConnectionPath_registered config reading.dummy reading.configData data request.requestDataSize
  unfold parseConnectionPath at parsed
  split at parsed
  · cases parsed
  · rename_i reader done
    have parses := (spec.returns done).1
    have sameAsked := Except.ok.inj parsed
    subst sameAsked
    have sameTriad : reading.dummy.connectionTriad = reader.object.connectionTriad :=
      parses.eq (·.connectionTriad) fun _ => rfl
    have sameNumber : reading.dummy.connectionNumber = reader.object.connectionNumber :=
      parses.eq (·.connectionNumber) fun _ => rfl
    refine ⟨?_, sameTriad.symm.trans triad, fun other listed established => ?_, fun other listed => ?_,
      registered.returns done⟩
    · rw [sameRead]
    · rw [sameRead] at newTriad
      change _ ≠ reader.object.connectionTriad
      rw [← sameTriad]
      exact newTriad other listed established
    · change _ ≠ reader.object.connectionNumber
      rw [← sameNumber]
      exact newNumber other listed

inductive Accepted (asked : Stack config) (network : Network) (after : Stack config) : Prop where
  | nothing (entry : config.connectionManagementList.lookup asked.dummy.configurationPath.classId = some none)
      (same : after = asked)
  | explicit (entry : config.connectionManagementList.lookup asked.dummy.configurationPath.classId =
        some (some .establishClass3Connection))
      (slot : Slot config) (connectionList : ConnectionList config.kNodesAmount (Slot config))
      (opened : ExplicitOpened asked after slot connectionList)
  | io (entry : config.connectionManagementList.lookup asked.dummy.configurationPath.classId =
        some (some .establishIoConnection))
      (opening : IoOpening config) (ends : opening.Ends asked network after)

theorem openConnection_ok {network : Network} (coherent : Coherent asked)
    (done : asked.openConnection network = .ok after) : Accepted asked network after := by
  unfold openConnection at done
  split at done
  · cases done
  · rename_i entry
    exact .nothing entry (Except.ok.inj done).symm
  · rename_i entry
    obtain ⟨slot, connectionList, opened⟩ := establishClass3Connection_ok done
    exact .explicit entry slot connectionList opened
  · rename_i entry
    obtain ⟨opening, ends⟩ := establishIoConnection_ok coherent done
    exact .io entry opening ends

/-- How a Forward Open is answered: it is refused, or what it asks for is opened and the reply is that of the
connection at the head of the list. -/
inductive Answered (stack after : Stack config) (isLfo : Bool) (request : Request) (response : Response) : Prop where
  | refused (failure : response.generalStatus ≠ kCipErrorSuccess) (leaves : Leaves stack after)
  | accepted (asked : Stack config) (admission : stack.admitted isLfo request = some asked)
      (opened : Accepted asked request.network after) (head : Slot config)
      (first : after.connectionList.toList.head? = some head)
      (reply : response = assembleForwardOpenResponse after.addressInfoItems (after.object head))

theorem admitted_of_checkForwardOpen {data : List CipOctet} {reading : Stack config}
    (read : stack.readForwardOpen isLfo request = .ok (data, reading))
    (checked : reading.checkForwardOpen request data = .ok after) :
    ∃ asked, stack.admitted isLfo request = some asked ∧ asked.openConnection request.network = .ok after := by
  rw [checkForwardOpen_eq] at checked
  cases front : reading.refusalInFront request with
  | some extendedStatus =>
      rw [front] at checked
      cases checked
  | none =>
      rw [front] at checked
      obtain ⟨asked, parsed, opened⟩ := bind_eq_ok.mp checked
      refine ⟨asked, ?_, opened⟩
      unfold admitted
      rw [read]
      dsimp only
      rw [front, parsed]
      rfl

theorem refused_leaves (intact : Intact stack) {data : List CipOctet} {reading : Stack config} {refusal : Refusal}
    {left : Stack config} (read : stack.readForwardOpen isLfo request = .ok (data, reading))
    (refused : reading.checkForwardOpen request data = .error (.refused refusal left)) :
    Leaves stack { left with dummy := left.dummy.setState .nonExistent } := by
  have answered : stack.forwardOpenRoutine isLfo request = .ok (assembleForwardOpenRefusal left.dummy refusal,
      { left with dummy := left.dummy.setState .nonExistent }) := by
    unfold forwardOpenRoutine
    rw [read, ok_bind]
    dsimp only
    rw [refused]
    rfl
  cases admission : stack.admitted isLfo request with
  | none =>
      have reads := (forwardOpenRoutine_turnedAway intact.pristine admission).returns answered
      exact ⟨Continues.of_same_table intact.coherent reads.table.1 reads.table.2 rfl, reads.pristine⟩
  | some asked =>
      obtain ⟨data', reading', read', passed, parsed⟩ := admitted_eq_some admission
      rw [read] at read'
      cases read'
      rw [checkForwardOpen_eq, passed] at refused
      dsimp only at refused
      rw [parsed, ok_bind] at refused
      obtain ⟨⟨same, _, pristine⟩, router⟩ := admitted_spec intact.pristine admission
      have leaves : Leaves asked left :=
        (openConnection_spec (intact.coherent.of_same_table same.1 same.2) pristine router).raises refused
      have answered : Leaves asked { left with dummy := left.dummy.setState .nonExistent } :=
        ⟨leaves.continues, leaves.pristine.of_write (·.setState .nonExistent) rfl⟩
      exact answered.of_sameTable same

theorem forwardOpenRoutine_ok (intact : Intact stack)
    (answered : stack.forwardOpenRoutine isLfo request = .ok (response, after)) :
    Answered stack after isLfo request response := by
  obtain ⟨⟨data, reading⟩, read, answer⟩ := bind_eq_ok.mp answered
  have refusals : Settles (reading.checkForwardOpen request data) _ _ := checkForwardOpen_refused request data
  cases outcome : reading.checkForwardOpen request data with
  | error stop =>
      dsimp only at answer
      rw [outcome] at answer
      cases stop with
      | fault fault => cases answer
      | refused refusal left =>
          cases answer
          exact .refused (refusals.raises outcome) (refused_leaves intact read outcome)
  | ok opened =>
      obtain ⟨asked, admission, accepted⟩ := admitted_of_checkForwardOpen read outcome
      obtain ⟨⟨same, _, _⟩, _⟩ := admitted_spec intact.pristine admission
      have coherent : Coherent asked := intact.coherent.of_same_table same.1 same.2
      dsimp only at answer
      rw [outcome] at answer
      unfold answerForwardOpen at answer
      dsimp only at answer
      cases first : opened.connectionList.toList.head? with
      | none =>
          rw [first] at answer
          cases answer
      | some head =>
          rw [first] at answer
          cases answer
          exact .accepted asked admission (openConnection_ok coherent accepted) head first rfl

/-- A new connection stands at the head of the list. It is the one asked for, and established; the others are
what they were, and those that are established were so before. -/
structure Entered (asked after : Stack config) (slot : Slot config) : Prop where
  list : ∃ rest, after.connectionList.toList = slot :: rest ∧ slot ∉ rest ∧ rest.Sublist asked.connectionList.toList
  established : (after.object slot).state = .established
  serves : Serves (asked.dummy.setInstanceType slot.instanceType) (after.object slot)
  consumedId : (after.object slot).cipConsumedConnectionId = asked.consumedIdFor asked.dummy
  same : ∀ other ∈ after.connectionList.toList, other ≠ slot →
    SameConnection (asked.object other) (after.object other)
  aged : ∀ other ∈ after.connectionList.toList, other ≠ slot → (after.object other).state = .established →
    (asked.object other).state = .established
  compatible : slot.instanceType ≠ .explicitMessaging → (after.object slot).getTToOConnectionType = .multicast →
    ∀ other ∈ after.connectionList.toList, other ≠ slot →
      (after.object slot).producedPath.instanceId = (after.object other).producedPath.instanceId →
      producerMismatch (after.object slot) (after.object other) = none

theorem ExplicitOpened.entered {slot : Slot config} {connectionList : ConnectionList config.kNodesAmount (Slot config)}
    (coherent : Coherent asked) (opened : ExplicitOpened asked after slot connectionList) : Entered asked after slot := by
  obtain ⟨explicit, nonExistent⟩ := getFreeExplicitConnection_spec opened.free
  have absent : slot ∉ asked.connectionList.toList := by
    rw [coherent.mem_iff, nonExistent]
    simp
  have list : after.connectionList.toList = slot :: asked.connectionList.toList := by
    rw [opened.after]
    exact ConnectionList.toList_insertAtHead opened.inserted
  have own : after.object slot = (explicitObject asked).setState .established := by
    rw [opened.after]
    exact Function.update_self slot _ asked.object
  have others (other : Slot config) (differs : other ≠ slot) : after.object other = asked.object other := by
    rw [opened.after]
    exact Function.update_of_ne differs _ asked.object
  refine ⟨⟨_, list, absent, List.Sublist.refl _⟩, ?_, ?_, ?_, fun other _ differs => ?_, fun other _ differs => ?_,
    fun io => absurd explicit io⟩
  · rw [own]
    rfl
  · rw [own, explicit]
    rfl
  · rw [own]
    rfl
  · rw [others other differs]
    rfl
  · rw [others other differs]
    exact id

namespace IoOpening

variable {opening : IoOpening config} {network : Network}

theorem Reaches.processed_eq (reaches : opening.Reaches asked network) : ∃ productionInhibitTime,
    opening.processed = { asked.dummy.setInstanceType opening.instanceType with productionInhibitTime } :=
  processProductionInhibitTime_serves reaches.processed

theorem Reaches.opens (reaches : opening.Reaches asked network) (pristine : Pristine asked.dummy) :
    Opens opening.choice.slot (opening.readied asked) opening.opened ∧
      Equipped (opening.opened.object opening.choice.slot) := by
  obtain ⟨inhibitTime, processed⟩ := reaches.processed_eq
  have state : opening.processed.state = .nonExistent := by
    rw [processed]
    exact pristine.state
  refine (openCommunicationChannels_spec ?_).returns reaches.channels
  rw [readied, setObject_object, Function.update_self]
  exact readied_ready opening.room state

theorem Reaches.settled (reaches : opening.Reaches asked network) (pristine : Pristine asked.dummy) :
    Settled { opening.processed with cipConsumedConnectionId := opening.room.consumedIdFor opening.processed }
      (opening.opened.object opening.choice.slot) := by
  have opens := (reaches.opens pristine).1.settled
  rw [readied, setObject_object, Function.update_self] at opens
  exact (opening.room.readied_settled opening.processed).trans opens

theorem Reaches.others (reaches : opening.Reaches asked network) (pristine : Pristine asked.dummy)
    {other : Slot config} (differs : other ≠ opening.choice.slot) :
    opening.opened.object other = opening.room.object other ∨
      opening.opened.object other = releaseProducingSocket (opening.room.object other) := by
  have others := (reaches.opens pristine).1.others other differs
  rw [readied, setObject_object, Function.update_of_ne differs] at others
  exact others

theorem Ends.list (ends : opening.Ends asked network after) (pristine : Pristine asked.dummy) :
    after.connectionList.toList = opening.choice.slot :: opening.room.connectionList.toList := by
  have same : opening.opened.connectionList = opening.room.connectionList := (ends.opens pristine).1.list
  rw [← same, ends.after]
  exact ConnectionList.toList_insertAtHead ends.inserted

theorem Ends.object (ends : opening.Ends asked network after) :
    after.object = Function.update opening.opened.object opening.choice.slot
      ((opening.opened.object opening.choice.slot).setState .established) := by
  rw [ends.after]
  rfl

theorem Ends.entered (ends : opening.Ends asked network after) (coherent : Coherent asked)
    (pristine : Pristine asked.dummy) : Entered asked after opening.choice.slot := by
  obtain ⟨inhibitTime, processed⟩ := ends.processed_eq
  have settled := ends.settled pristine
  have type := chooseIoConnection_instanceType ends.chosen
  have list := ends.list pristine
  have own : after.object opening.choice.slot =
      (opening.opened.object opening.choice.slot).setState .established := by
    rw [ends.object, Function.update_self]
  -- a take-over has released the producing socket of another at most
  have others (other : Slot config) (member : other ∈ after.connectionList.toList)
      (differs : other ≠ opening.choice.slot) : other ∈ opening.room.connectionList.toList ∧
        (after.object other = opening.room.object other ∨
          after.object other = releaseProducingSocket (opening.room.object other)) := by
    rw [list, List.mem_cons] at member
    rw [ends.object, Function.update_of_ne differs]
    exact ⟨member.resolve_left differs, ends.others pristine differs⟩
  have sameRoom (other : Slot config) (member : other ∈ after.connectionList.toList)
      (differs : other ≠ opening.choice.slot) :
      SameConnection (opening.room.object other) (after.object other) := by
    obtain kept | released := (others other member differs).2
    · rw [kept]
      rfl
    · rw [released]
      rfl
  refine ⟨⟨_, list, ends.absent, ends.continues.sublist⟩, ?_, ?_, ?_, fun other member differs => ?_,
    fun other member differs established => ?_, fun _ multicast other member differs input => ?_⟩
  · rw [own]
    rfl
  · have serves : Serves opening.processed (opening.opened.object opening.choice.slot) := settled.serves
    rw [own, type]
    rw [processed] at serves
    exact serves
  · have counter : opening.room.connectionId = asked.connectionId := by
      rw [makeRoom_globals coherent ends.made]
    have chosen : (opening.opened.object opening.choice.slot).cipConsumedConnectionId =
        opening.room.consumedIdFor opening.processed := (settled.eq (·.cipConsumedConnectionId) fun _ => rfl).symm
    rw [own]
    change (opening.opened.object opening.choice.slot).cipConsumedConnectionId = _
    rw [chosen, processed, consumedIdFor, counter]
    rfl
  · exact (ends.continues.same other (others other member differs).1).trans (sameRoom other member differs)
  · apply ends.continues.aged other (others other member differs).1
    obtain kept | released := (others other member differs).2
    · rwa [kept] at established
    · rwa [released] at established
  · rw [own] at multicast input ⊢
    have sameType : opening.processed.getTToOConnectionType =
        (opening.opened.object opening.choice.slot).getTToOConnectionType :=
      settled.eq getTToOConnectionType fun _ => rfl
    have sameInput : opening.processed.producedPath.instanceId =
        (opening.opened.object opening.choice.slot).producedPath.instanceId :=
      settled.eq (·.producedPath.instanceId) fun _ => rfl
    have same := sameRoom other member differs
    have otherInput : (opening.room.object other).producedPath.instanceId =
        (after.object other).producedPath.instanceId := same.eq (·.producedPath.instanceId) fun _ => rfl
    -- the check against the producers was made of the object as it was asked for
    have agrees := findProducerMismatch_eq_none_iff.mp ends.compatible (sameType.trans multicast) other
      (others other member differs).1 ((sameInput.trans input).trans otherInput.symm)
    rw [same.eq (producerMismatch opening.processed) fun _ => rfl] at agrees
    exact (settled.eq (producerMismatch · (after.object other)) fun _ => rfl).symm.trans agrees

end IoOpening

/-- An accepted request opened a connection, unless its class has an entry without function. -/
theorem Accepted.entered {network : Network} (accepted : Accepted asked network after) (coherent : Coherent asked)
    (pristine : Pristine asked.dummy) :
    (config.connectionManagementList.lookup asked.dummy.configurationPath.classId = some none ∧ after = asked) ∨
      ∃ slot, Entered asked after slot := by
  cases accepted with
  | nothing entry same => exact .inl ⟨entry, same⟩
  | explicit _ slot connectionList opened => exact .inr ⟨slot, opened.entered coherent⟩
  | io _ opening ends => exact .inr ⟨_, ends.entered coherent pristine⟩

/-- What one operation does: it goes on from the table, or it opens a connection for an admitted request. -/
theorem step_opens (intact : Intact stack) {operation : Operation} (done : stack.step operation = .ok after) :
    Continues (fun _ => False) stack { after with dummy := stack.dummy } ∨
      ∃ isLfo request asked slot, operation.openRequest = some (isLfo, request) ∧
        stack.admitted isLfo request = some asked ∧ Admits stack asked isLfo request ∧ Entered asked after slot := by
  cases opens : operation.openRequest with
  | none =>
      have continues := ((step_proceeds intact.coherent opens).returns done).continues intact.coherent
      exact .inl { continues with coherent := continues.coherent.of_same_table rfl rfl, dummy := rfl }
  | some asked =>
      obtain ⟨isLfo, request⟩ := asked
      rw [step_openRequest opens] at done
      cases answered : stack.forwardOpenRoutine isLfo request with
      | error fault =>
          rw [answered] at done
          cases done
      | ok result =>
          rw [answered] at done
          cases done
          cases forwardOpenRoutine_ok intact answered with
          | refused failure leaves => exact .inl leaves.continues
          | accepted asked admission opened head first reply =>
              have admits := admitted_admits admission
              obtain ⟨⟨same, _, pristine⟩, _⟩ := admitted_spec intact.pristine admission
              have coherent : Coherent asked := intact.coherent.of_same_table same.1 same.2
              obtain ⟨_, kept⟩ | ⟨slot, entered⟩ := opened.entered coherent pristine
              · exact .inl (Continues.of_same_table intact.coherent (kept ▸ same.1) (kept ▸ same.2) rfl)
              · exact .inr ⟨isLfo, request, asked, slot, rfl, admission, admits, entered⟩

end Stack

end EtherNetIP
