import EtherNetIP.Cip.Acceptance
import EtherNetIP.Cip.FrontOctets
import EtherNetIP.Cip.NumberRoundTrips
import EtherNetIP.SampleApplication

/-! What connections are told apart by.

Relations between listed connections that rest on what a connection keeps hold
in every run, once a new connection stands in them to all others. The triads of
established connections and the connection numbers are such: they are checked
against the list when a request is read, and the list has lost connections at
most when the new one enters it.
-/

set_option autoImplicit false

namespace EtherNetIP

open Library CipConnectionObject

variable {config : Configuration}

/-- A change of a listed connection: it stays the connection it is and is not established anew. -/
structure Ages (before after : CipConnectionObject) : Prop where
  same : SameConnection before after
  aged : after.state = .established → before.state = .established

/-- The relation cannot be lost by connections that stay the connections they are. -/
def Lasting (relation : CipConnectionObject → CipConnectionObject → Prop) : Prop :=
  ∀ {first second first' second' : CipConnectionObject}, Ages first first' → Ages second second' →
    relation first second → relation first' second'

namespace Stack

variable {stack asked before after : Stack config} {isLfo : Bool} {request : Request} {response : Response}
  {slot : Slot config} {relation : CipConnectionObject → CipConnectionObject → Prop}

/-- Any two listed connections are related. -/
def AllRelated (relation : CipConnectionObject → CipConnectionObject → Prop) (stack : Stack config) : Prop :=
  ∀ first ∈ stack.connectionList.toList, ∀ second ∈ stack.connectionList.toList, first ≠ second →
    relation (stack.object first) (stack.object second)

def RelatesNew (relation : CipConnectionObject → CipConnectionObject → Prop) (after : Stack config)
    (slot : Slot config) : Prop :=
  ∀ other ∈ after.connectionList.toList, other ≠ slot → relation (after.object slot) (after.object other)

theorem allRelated_initialized (assemblyData : CipInstanceNum → List CipOctet) (timeout : UInt16) :
    AllRelated relation (Stack.initialized config assemblyData timeout) := by
  simp [AllRelated, Stack.initialized]

theorem allRelated_continues {spared : Slot config → Prop} (lasting : Lasting relation)
    (related : AllRelated relation before) (continues : Continues spared before after) : AllRelated relation after := by
  have ages (slot : Slot config) (listed : slot ∈ after.connectionList.toList) :
      Ages (before.object slot) (after.object slot) :=
    ⟨continues.same slot listed, continues.aged slot listed⟩
  intro first firstListed second secondListed differs
  exact lasting (ages first firstListed) (ages second secondListed) (related first
    (continues.sublist.subset firstListed) second (continues.sublist.subset secondListed) differs)

theorem allRelated_entered (lasting : Lasting relation) (symmetric : ∀ {a b}, relation a b → relation b a)
    (related : AllRelated relation asked) (entered : Entered asked after slot) (new : RelatesNew relation after slot) :
    AllRelated relation after := by
  obtain ⟨rest, list, _, sublist⟩ := entered.list
  have older (other : Slot config) (listed : other ∈ after.connectionList.toList) (differs : other ≠ slot) :
      other ∈ asked.connectionList.toList ∧ Ages (asked.object other) (after.object other) := by
    refine ⟨sublist.subset ?_, entered.same other listed differs, entered.aged other listed differs⟩
    rw [list, List.mem_cons] at listed
    exact listed.resolve_left differs
  intro first firstListed second secondListed differs
  by_cases isFirst : first = slot
  · subst isFirst
    exact new second secondListed (Ne.symm differs)
  · by_cases isSecond : second = slot
    · subst isSecond
      exact symmetric (new first firstListed isFirst)
    · obtain ⟨wasFirst, firstAges⟩ := older first firstListed isFirst
      obtain ⟨wasSecond, secondAges⟩ := older second secondListed isSecond
      exact lasting firstAges secondAges (related first wasFirst second wasSecond differs)

theorem allRelated_step (lasting : Lasting relation) (symmetric : ∀ {a b}, relation a b → relation b a)
    (intact : Intact before) (related : AllRelated relation before) {operation : Operation}
    (done : before.step operation = .ok after)
    (new : ∀ isLfo request asked slot, operation.openRequest = some (isLfo, request) →
      before.admitted isLfo request = some asked → Admits before asked isLfo request → Entered asked after slot →
      RelatesNew relation after slot) : AllRelated relation after := by
  obtain continues | ⟨isLfo, request, asked, slot, opens, admission, admits, entered⟩ := step_opens intact done
  · have kept : AllRelated relation ({ after with dummy := before.dummy } : Stack config) :=
      allRelated_continues lasting related continues
    exact kept
  · have relatedAsked : AllRelated relation asked := by
      rw [admits.same]
      exact related
    exact allRelated_entered lasting symmetric relatedAsked entered
      (new isLfo request asked slot opens admission admits entered)

theorem Entered.older (entered : Entered asked after slot) (admits : Admits stack asked isLfo request)
    {other : Slot config} (listed : other ∈ after.connectionList.toList) (differs : other ≠ slot) :
    other ∈ stack.connectionList.toList ∧ Ages (stack.object other) (after.object other) := by
  obtain ⟨rest, list, _, sublist⟩ := entered.list
  have same : asked.connectionList = stack.connectionList ∧ asked.object = stack.object := by
    rw [admits.same]
    exact ⟨rfl, rfl⟩
  rw [← same.1, ← same.2]
  refine ⟨sublist.subset ?_, entered.same other listed differs, entered.aged other listed differs⟩
  rw [list, List.mem_cons] at listed
  exact listed.resolve_left differs

section Triads

/-- Not both established with one triad, and not one connection number. -/
def ToldApart (first second : CipConnectionObject) : Prop :=
  (first.state = .established → second.state = .established → first.connectionTriad ≠ second.connectionTriad) ∧
    first.connectionNumber ≠ second.connectionNumber

theorem toldApart_lasting : Lasting ToldApart := by
  rintro first second first' second' ⟨same, aged⟩ ⟨same', aged'⟩ ⟨triads, numbers⟩
  constructor
  · intro established established'
    rw [← same.eq (·.connectionTriad) fun _ => rfl, ← same'.eq (·.connectionTriad) fun _ => rfl]
    exact triads (aged established) (aged' established')
  · rw [← same.eq (·.connectionNumber) fun _ => rfl, ← same'.eq (·.connectionNumber) fun _ => rfl]
    exact numbers

theorem toldApart_symm {first second : CipConnectionObject} (apart : ToldApart first second) :
    ToldApart second first :=
  ⟨fun established established' => (apart.1 established' established).symm, apart.2.symm⟩

/-- What the request names is new when it is read, and connections only age while it is opened. -/
theorem entered_toldApart (admits : Admits stack asked isLfo request) (entered : Entered asked after slot) :
    RelatesNew ToldApart after slot := by
  intro other listed differs
  obtain ⟨was, same, aged⟩ := entered.older admits listed differs
  have triad : asked.dummy.connectionTriad = (after.object slot).connectionTriad :=
    entered.serves.eq (·.connectionTriad) fun _ => rfl
  have number : asked.dummy.connectionNumber = (after.object slot).connectionNumber :=
    entered.serves.eq (·.connectionNumber) fun _ => rfl
  constructor
  · intro _ established
    rw [← triad, ← same.eq (·.connectionTriad) fun _ => rfl]
    exact (admits.newTriad other was (aged established)).symm
  · rw [← number, ← same.eq (·.connectionNumber) fun _ => rfl]
    exact (admits.newNumber other was).symm

theorem reached_toldApart (reached : Reached stack) : AllRelated ToldApart stack := by
  refine (reached.holds_of_step allRelated_initialized ?_).2
  intro before operation after intact related done
  exact allRelated_step toldApart_lasting toldApart_symm intact related done
    fun _ _ _ _ _ _ admits entered => entered_toldApart admits entered

end Triads

section Replies

theorem connectionManagementList_nothing {classId : UInt32}
    (entry : config.connectionManagementList.lookup classId = some none) : classId = 0 := by
  unfold Configuration.connectionManagementList at entry
  rw [List.lookup_cons] at entry
  split at entry
  · cases entry
  · rw [List.lookup_cons] at entry
    split at entry
    · cases entry
    · generalize config.numApplicationSpecificConnectableObjects = count at entry
      induction count with
      | zero => cases entry
      | succ count ih =>
          rw [List.replicate_succ, List.lookup_cons] at entry
          split at entry
          · rename_i same
            exact eq_of_beq same
          · exact ih entry

/-- No class is registered with the code zero, with which the unused entries of the table are filled. -/
def NoClassZero (config : Configuration) : Prop := ∀ cipClass ∈ config.classes, cipClass.classId ≠ 0

theorem getCipClass_zero (noClassZero : NoClassZero config) : config.getCipClass 0 = none := by
  unfold Configuration.getCipClass
  rw [List.find?_eq_none]
  intro cipClass member
  rw [List.mem_cons] at member
  rcases member with assembly | registered
  · simp [assembly, Configuration.assemblyClass, kCipAssemblyClassCode]
  · simpa using noClassZero cipClass registered

/-- The octets a connection is named by in a reply: its ids and its triad. -/
def nameOctets (object : CipConnectionObject) : List CipOctet :=
  littleEndian 4 object.cipConsumedConnectionId.toNat ++ littleEndian 4 object.cipProducedConnectionId.toNat ++
    littleEndian 2 object.connectionSerialNumber.toNat ++ littleEndian 2 object.originatorVendorId.toNat ++
    littleEndian 4 object.originatorSerialNumber.toNat

theorem nameOctets_eq (object : CipConnectionObject) : nameOctets object =
    addDintToMessage object.cipConsumedConnectionId ++ addDintToMessage object.cipProducedConnectionId ++
      addConnectionTriad object.connectionTriad := by
  unfold nameOctets addConnectionTriad connectionTriad
  simp only [addDintToMessage_littleEndian, addIntToMessage_littleEndian, List.append_assoc]

theorem assembleForwardOpenResponse_names (items : AddressInfoItems) (object : CipConnectionObject) :
    (assembleForwardOpenResponse items object).message.take 16 = nameOctets object := by
  have sixteen : (nameOctets object).length = 16 := by
    rw [nameOctets_eq]
    rfl
  have front : (assembleForwardOpenResponse items object).message =
      nameOctets object ++ (addDintToMessage object.oToTRequestedPacketInterval ++
        addDintToMessage object.tToORequestedPacketInterval ++ addSintToMessage 0 ++ addSintToMessage 0) := by
    rw [nameOctets_eq]
    simp only [assembleForwardOpenResponse, List.append_assoc]
  rw [front, List.take_left' sixteen]

theorem addConnectionTriad_request (isLfo : Bool) (request : Request) :
    addConnectionTriad (request.connectionTriad isLfo) = octets 8 (request.data.drop 10) := by
  rw [← addConnectionTriad_read, Request.connectionTriad, readForwardOpenHeader_fields]
  refine congrArg addConnectionTriad ?_
  change _ = (⟨(getUintFromMessage.run (request.data.drop 10)).1,
    (getUintFromMessage.run (getUintFromMessage.run (request.data.drop 10)).2).1,
    (getUdintFromMessage.run (getUintFromMessage.run (getUintFromMessage.run (request.data.drop 10)).2).2).1⟩ :
      ConnectionTriad)
  rw [getUintFromMessage_rest, getUintFromMessage_rest, List.drop_drop, List.drop_drop]
  rfl

theorem nameOctets_triad (object : CipConnectionObject) :
    (nameOctets object).drop 8 = addConnectionTriad object.connectionTriad := by
  rw [nameOctets_eq]
  rfl

structure NamesOpened (isLfo : Bool) (request : Request) (response : Response) (after : Stack config)
    (slot : Slot config) : Prop where
  listed : slot ∈ after.connectionList.toList
  established : (after.object slot).state = .established
  triad : (after.object slot).connectionTriad = request.connectionTriad isLfo
  named : response.message.take 16 = nameOctets (after.object slot)
  echoed : (response.message.take 16).drop 8 = octets 8 (request.data.drop 10)
  reply : response = assembleForwardOpenResponse after.addressInfoItems (after.object slot)

theorem success_answers_opened (noClassZero : NoClassZero config) (intact : Intact stack)
    (answered : stack.forwardOpenRoutine isLfo request = .ok (response, after))
    (success : response.generalStatus = kCipErrorSuccess) :
    ∃ slot, NamesOpened isLfo request response after slot := by
  cases forwardOpenRoutine_ok intact answered with
  | refused failure leaves => exact absurd success failure
  | accepted asked admission opened head first reply =>
      have admits := admitted_admits admission
      obtain ⟨⟨same, _, pristine⟩, _⟩ := admitted_spec intact.pristine admission
      have coherent : Coherent asked := intact.coherent.of_same_table same.1 same.2
      obtain ⟨entry, _⟩ | ⟨slot, entered⟩ := opened.entered coherent pristine
      · obtain ⟨cipClass, registered⟩ := admits.registered
        rw [connectionManagementList_nothing entry, getCipClass_zero noClassZero] at registered
        cases registered
      · obtain ⟨rest, list, _⟩ := entered.list
        rw [list, List.head?_cons, Option.some.injEq] at first
        subst first
        have triad : (after.object slot).connectionTriad = request.connectionTriad isLfo := by
          rw [← admits.triad]
          exact (entered.serves.eq (·.connectionTriad) fun _ => rfl).symm
        have named : response.message.take 16 = nameOctets (after.object slot) := by
          rw [reply]
          exact assembleForwardOpenResponse_names ..
        have echoed : (response.message.take 16).drop 8 = octets 8 (request.data.drop 10) := by
          rw [named, nameOctets_triad, triad, addConnectionTriad_request]
        exact ⟨slot, by rw [list]; exact List.mem_cons_self, entered.established, triad, named, echoed, reply⟩

end Replies

/-- Triads of established connections and connection numbers are unique, and a Forward Open that succeeds is
answered with what names the connection it has established. -/
structure Identified (stack : Stack config) : Prop where
  triads : ∀ first second, (stack.object first).state = .established → (stack.object second).state = .established →
    (stack.object first).connectionTriad = (stack.object second).connectionTriad → first = second
  numbers : (stack.connectionList.toList.map fun slot => (stack.object slot).connectionNumber).Nodup
  replies : ∀ isLfo request response after, stack.forwardOpenRoutine isLfo request = .ok (response, after) →
    response.generalStatus = kCipErrorSuccess → ∃ slot, NamesOpened isLfo request response after slot

theorem connections_identified (noClassZero : NoClassZero config) (reached : Reached stack) : Identified stack := by
  have apart := reached_toldApart reached
  have coherent := reached.intact.coherent
  refine ⟨fun first second established established' same => ?_, ?_, fun isLfo request response after answered success =>
    success_answers_opened noClassZero reached.intact answered success⟩
  · by_contra differs
    have firstListed := (coherent.mem_iff first).mpr (.inl established)
    have secondListed := (coherent.mem_iff second).mpr (.inl established')
    exact (apart first firstListed second secondListed differs).1 established established' same
  · refine List.Nodup.map_on (fun first firstListed second secondListed same => ?_) coherent.distinct
    by_contra differs
    exact (apart first firstListed second secondListed differs).2 same

open SampleApplication in
/-- An explicit connection and an exclusive owner in the application as it is built. -/
theorem connections_identified_sample : ∃ stack : Stack configuration,
    stack.connectionList.toList.length = 2 ∧ Identified stack := by
  have run : ends [.forwardOpen (openExplicit 1), .forwardOpen (openIo 2 (pointToPoint 128) (pointToPoint 128) 101 102)]
      (fun stack : Stack configuration => decide (stack.connectionList.toList.length = 2)) = true := by decide +kernel
  obtain ⟨stack, reached, two⟩ := exists_of_ends run
  have noClassZero : NoClassZero configuration := by
    intro cipClass member
    have registered : cipClass = ⟨kCipMessageRouterClassCode, [1]⟩ := List.mem_singleton.mp member
    simp [registered, kCipMessageRouterClassCode]
  exact ⟨stack, of_decide_eq_true two, connections_identified noClassZero reached⟩

end Stack

end EtherNetIP
