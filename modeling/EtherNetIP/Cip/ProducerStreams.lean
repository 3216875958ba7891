import EtherNetIP.Cip.IoOpenings
import EtherNetIP.Library.Streams

/-! The streams of the connection table.

Every listed I/O connection is a member of the stream of its input: an
exclusive owner owns it, an input-only connection is a source, a listen-only
connection a listener, and whoever has a producing socket sends. All that the
stack does to the connections is a move of the members, and an accepted I/O
request joins them.
-/

set_option autoImplicit false

namespace EtherNetIP

open Library CipConnectionObject

variable {config : Configuration}

namespace ConnectionObjectInstanceType

def role : ConnectionObjectInstanceType → Role
  | .ioExclusiveOwner => .owner
  | .ioInputOnly => .source
  | _ => .listener

end ConnectionObjectInstanceType

def CipConnectionObject.member (object : CipConnectionObject) : Member UInt32 UInt32 UInt32 where
  role := object.instanceType.role
  input := object.producedPath.instanceId.toUInt32
  shared := object.getTToOConnectionType == .multicast
  live := object.state == .established
  holds := object.producingSocket != kEipInvalidSocket
  identifier := object.cipProducedConnectionId
  address := object.remoteAddress.sAddr
  numbered := object.getTransportClass != .class0
  count := object.eipLevelSequenceCountProducing

section Tests

variable {object : CipConnectionObject} {inputPoint : UInt32}

theorem role_ne_listener_iff {instanceType : ConnectionObjectInstanceType} :
    instanceType.role ≠ .listener ↔ instanceType = .ioExclusiveOwner ∨ instanceType = .ioInputOnly := by
  cases instanceType <;> simp [ConnectionObjectInstanceType.role]

theorem controls_iff : object.member.Controls ↔ Stack.controlsMulticast object = true := by
  have role := @role_ne_listener_iff object.instanceType
  simp only [Member.Controls, Member.Masters, member, role, Stack.controlsMulticast, Stack.isMulticastMaster,
    Bool.and_eq_true, Bool.or_eq_true, and_assoc, beq_iff_eq]

theorem succeeds_iff {slot : Slot config} (type : object.instanceType = slot.instanceType) :
    object.member.Succeeds inputPoint ↔ Stack.isNonControlMaster inputPoint object = true := by
  simp only [Member.Succeeds, member, Stack.isNonControlMaster, isTypeNonLOIOConnection, type,
    Bool.and_eq_true, and_assoc, beq_iff_eq, bne_eq_false_iff_eq]
  cases slot <;> simp [Slot.instanceType, ConnectionObjectInstanceType.role, eq_comm]

theorem listensTo_iff {slot : Slot config} (type : object.instanceType = slot.instanceType)
    (io : slot.instanceType ≠ .explicitMessaging) :
    object.member.ListensTo inputPoint ↔ Stack.hasTypeAndInput inputPoint .ioListenOnly object = true := by
  simp only [Member.ListensTo, member, Stack.hasTypeAndInput, type, Bool.and_eq_true, beq_iff_eq]
  cases slot with
  | explicit i => exact absurd rfl io
  | _ => simp [Slot.instanceType, ConnectionObjectInstanceType.role, eq_comm]

end Tests

namespace Stack

variable {stack before middle after : Stack config} {slot : Slot config} {gone : List (Slot config)}

def members (stack : Stack config) : Members (Slot config) UInt32 UInt32 UInt32 := fun slot =>
  if slot ∈ stack.connectionList.toList ∧ slot.instanceType ≠ .explicitMessaging then some (stack.object slot).member
  else none

theorem members_eq_some {member : Member UInt32 UInt32 UInt32} :
    stack.members slot = some member ↔ slot ∈ stack.connectionList.toList ∧ slot.instanceType ≠ .explicitMessaging ∧
      (stack.object slot).member = member := by
  unfold members
  split
  · rename_i listed
    simp [listed.1, listed.2]
  · rename_i unlisted
    simp only [reduceCtorEq, false_iff]
    exact fun found => unlisted ⟨found.1, found.2.1⟩

theorem members_of_listed (listed : slot ∈ stack.connectionList.toList) (io : slot.instanceType ≠ .explicitMessaging) :
    stack.members slot = some (stack.object slot).member :=
  members_eq_some.mpr ⟨listed, io, rfl⟩

theorem members_eq_none (unlisted : slot ∉ stack.connectionList.toList) : stack.members slot = none :=
  if_neg fun listed => unlisted listed.1

theorem members_slot_congr
    (list : slot ∈ after.connectionList.toList ↔ slot ∈ before.connectionList.toList)
    (same : slot ∈ before.connectionList.toList → slot.instanceType ≠ .explicitMessaging →
      (after.object slot).member = (before.object slot).member) : after.members slot = before.members slot := by
  unfold members
  by_cases listed : slot ∈ before.connectionList.toList ∧ slot.instanceType ≠ .explicitMessaging
  · rw [if_pos ⟨list.mpr listed.1, listed.2⟩, if_pos listed, same listed.1 listed.2]
  · rw [if_neg fun both => listed ⟨list.mp both.1, both.2⟩, if_neg listed]

theorem members_congr
    (list : ∀ slot, slot.instanceType ≠ .explicitMessaging →
      (slot ∈ after.connectionList.toList ↔ slot ∈ before.connectionList.toList))
    (same : ∀ slot ∈ before.connectionList.toList, slot.instanceType ≠ .explicitMessaging →
      (after.object slot).member = (before.object slot).member) : after.members = before.members := by
  funext slot
  by_cases io : slot.instanceType = .explicitMessaging
  · unfold members
    rw [if_neg (by simp [io]), if_neg (by simp [io])]
  · exact members_slot_congr (list slot io) (same slot)

theorem Unlists.members_leaves (unlists : Unlists before after gone) :
    Members.Leaves before.members after.members { slot | slot ∈ gone } where
  left := by
    intro slot left
    exact members_eq_none fun listed => (unlists.mem_iff.mp listed).2 left
  stayed := by
    intro slot stays
    refine members_slot_congr (unlists.mem_iff.trans (and_iff_left stays)) fun _ _ => ?_
    rw [unlists.others slot stays]

theorem members_setObject {object : CipConnectionObject} (listed : slot ∈ stack.connectionList.toList)
    (io : slot.instanceType ≠ .explicitMessaging) :
    (stack.setObject slot object).members = Function.update stack.members slot (some object.member) := by
  funext other
  by_cases same : other = slot
  · subst same
    rw [Function.update_self]
    refine members_eq_some.mpr ⟨listed, io, ?_⟩
    rw [setObject_objects, Function.update_self]
  · rw [Function.update_of_ne same]
    refine members_slot_congr Iff.rfl fun _ _ => ?_
    rw [setObject_objects, Function.update_of_ne same]

theorem io_of_controls (coherent : Coherent stack) (listed : slot ∈ stack.connectionList.toList)
    (controls : controlsMulticast (stack.object slot) = true) : slot.instanceType ≠ .explicitMessaging := by
  intro explicit
  have master := coherent.master_of_controls listed controls
  rw [explicit] at master
  simp at master

theorem getNextNonControlMasterConnection_succeeds (coherent : Coherent stack) {inputPoint : UInt32} {next : Slot config}
    (found : stack.getNextNonControlMasterConnection inputPoint = some next) :
    next ∈ stack.connectionList.toList ∧ next.instanceType ≠ .explicitMessaging ∧
      (stack.object next).member.Succeeds inputPoint := by
  obtain ⟨listed, candidate⟩ := findConnection_mem found
  have type := (coherent.opened next listed).instanceType
  refine ⟨listed, fun explicit => ?_, (succeeds_iff type).mpr candidate⟩
  rw [explicit] at type
  simp [isNonControlMaster, isTypeNonLOIOConnection, type] at candidate

theorem nobody_succeeds (coherent : Coherent stack) {inputPoint : UInt32}
    (nobody : stack.getNextNonControlMasterConnection inputPoint = none) (other : Slot config)
    (member : Member UInt32 UInt32 UInt32) (found : stack.members other = some member) : ¬ member.Succeeds inputPoint := by
  obtain ⟨listed, _, rfl⟩ := members_eq_some.mp found
  have missed := findConnection_eq_none_iff.mp nobody other listed
  rw [succeeds_iff (coherent.opened other listed).instanceType, missed]
  simp

theorem mem_withTypeAndInput_iff (coherent : Coherent stack) {inputPoint : UInt32} :
    slot ∈ stack.withTypeAndInput inputPoint .ioListenOnly ↔
      ∃ member, stack.members slot = some member ∧ member.ListensTo inputPoint := by
  constructor
  · intro listener
    have type := withTypeAndInput_type coherent listener
    obtain ⟨listed, listens⟩ := List.mem_filter.mp listener
    have io : slot.instanceType ≠ .explicitMessaging := by simp [type]
    exact ⟨_, members_of_listed listed io, (listensTo_iff (coherent.opened slot listed).instanceType io).mpr listens⟩
  · rintro ⟨member, found, listens⟩
    obtain ⟨listed, io, rfl⟩ := members_eq_some.mp found
    exact List.mem_filter.mpr ⟨listed, (listensTo_iff (coherent.opened slot listed).instanceType io).mp listens⟩

theorem Removes.listeners_leave (coherent : Coherent before) {inputPoint : UInt32}
    (removes : Removes before after (before.withTypeAndInput inputPoint .ioListenOnly)) :
    Members.Leaves before.members after.members
      { listener | ∃ member, before.members listener = some member ∧ member.ListensTo inputPoint } := by
  have leaves := removes.toUnlists.members_leaves
  have same : { slot | slot ∈ before.withTypeAndInput inputPoint .ioListenOnly } =
      { listener | ∃ member, before.members listener = some member ∧ member.ListensTo inputPoint } :=
    Set.ext fun _ => mem_withTypeAndInput_iff coherent
  rwa [same] at leaves

theorem members_handedOver {next : Slot config} (listed : slot ∈ stack.connectionList.toList)
    (io : slot.instanceType ≠ .explicitMessaging) (nextListed : next ∈ stack.connectionList.toList)
    (nextIo : next.instanceType ≠ .explicitMessaging) (differs : next ≠ slot) :
    (stack.handedOver slot next).members =
      stack.members.handOver slot next (stack.object slot).member (stack.object next).member := by
  have taken : (stack.setObject next (takeOver (stack.object slot) (stack.object next))).object slot =
      stack.object slot := by
    rw [setObject_objects, Function.update_of_ne differs.symm]
  have listedToo : slot ∈ (stack.setObject next
      (takeOver (stack.object slot) (stack.object next))).connectionList.toList := listed
  rw [handedOver, modifyObject, members_setObject listedToo io, members_setObject nextListed nextIo, taken]
  rfl

theorem HandedOn.handsOn {handover : Bool} (coherent : Coherent before) (listed : slot ∈ before.connectionList.toList)
    (io : slot.instanceType ≠ .explicitMessaging) (handedOn : HandedOn before slot after handover) :
    Members.HandsOn before.members slot after.members := by
  have own := members_of_listed listed io
  cases handedOn with
  | passive passive =>
      refine .passive own fun controls => ?_
      rw [controls_iff, passive] at controls
      cases controls
  | @succeeded next controls successor =>
      obtain ⟨nextListed, nextIo, succeeds⟩ := getNextNonControlMasterConnection_succeeds coherent successor
      rw [members_handedOver listed io nextListed nextIo (successor_ne controls successor)]
      exact .succeeded own (controls_iff.mpr controls) (members_of_listed nextListed nextIo) succeeds
  | last controls nobody removes =>
      exact .last own (controls_iff.mpr controls) (nobody_succeeds coherent nobody) (removes.listeners_leave coherent)

theorem Unlists.leaves_single (unlists : Unlists before after [slot]) :
    Members.Leaves before.members after.members {slot} := by
  have same : { other | other ∈ [slot] } = ({slot} : Set (Slot config)) := by
    ext other
    simp
  exact same ▸ unlists.members_leaves

theorem Closed.closes (coherent : Coherent before) (listed : slot ∈ before.connectionList.toList)
    (io : slot.instanceType ≠ .explicitMessaging) (closed : Closed before slot after) :
    Members.Closes slot before.members after.members := by
  have own := members_of_listed listed io
  cases closed with
  | alone passive removes =>
      have handedOn : HandedOn before slot before false := .passive passive
      exact ⟨_, handedOn.handsOn coherent listed io, removes.toUnlists.leaves_single⟩
  | succeeded next controls successor removes =>
      have handedOn : HandedOn before slot (before.handedOver slot next) true := .succeeded controls successor
      exact ⟨_, handedOn.handsOn coherent listed io, removes.toUnlists.leaves_single⟩
  | last controls nobody removes =>
      have master := controls_iff.mpr controls
      have gone : { other | other ∈ before.withTypeAndInput
          (before.object slot).producedPath.instanceId.toUInt32 .ioListenOnly ++ [slot] } =
          insert slot { listener | ∃ member, before.members listener = some member ∧
            member.ListensTo (before.object slot).member.input } := by
        ext other
        rw [Set.mem_ofPred, List.mem_append, mem_withTypeAndInput_iff coherent, Set.mem_insert_iff, List.mem_singleton,
          or_comm]
        rfl
      have leaves := removes.toUnlists.members_leaves
      rw [gone] at leaves
      have apart : slot ∉ { listener | ∃ member, before.members listener = some member ∧
          member.ListensTo (before.object slot).member.input } := by
        rintro ⟨member, found, listens, _⟩
        rw [own] at found
        cases found
        exact master.1 listens
      obtain ⟨handed, listeners, leaves⟩ := leaves.split apart
      exact ⟨handed, .last own master (nobody_succeeds coherent nobody) listeners, leaves⟩

theorem Closed.members_explicit (coherent : Coherent before) (listed : slot ∈ before.connectionList.toList)
    (explicit : slot.instanceType = .explicitMessaging) (closed : Closed before slot after) :
    after.members = before.members := by
  have passive : controlsMulticast (before.object slot) = false := by
    cases controls : controlsMulticast (before.object slot) with
    | false => rfl
    | true => exact absurd explicit (io_of_controls coherent listed controls)
  cases closed with
  | alone _ removes =>
      refine members_congr (fun other io => ?_) fun other _ io => ?_
      · rw [removes.mem_iff, and_iff_left]
        simpa using fun same : other = slot => io (same ▸ explicit)
      · rw [removes.others other (by simpa using fun same : other = slot => io (same ▸ explicit))]
  | succeeded next controls successor removes =>
      rw [passive] at controls
      cases controls
  | last controls nobody removes =>
      rw [passive] at controls
      cases controls

theorem Aside.members_eq {named : Int → Prop} (aside : Aside named before after) : after.members = before.members :=
  members_congr (fun _ io => aside.mem_iff io) fun _ _ io => by rw [aside.object_eq io]

theorem setCounted_members {noting : Note → Slot config → Prop} {object : CipConnectionObject}
    (counted : Counted noting slot (before.object slot) object) :
    (before.setObject slot object).members = before.members := by
  refine members_congr (fun _ _ => Iff.rfl) fun other _ _ => ?_
  rw [setObject_objects]
  by_cases same : other = slot
  · subst same
    rw [Function.update_self]
    exact counted.eq member fun _ => rfl
  · rw [Function.update_of_ne same]

theorem ClosesOneOf.closes {instanceType : ConnectionObjectInstanceType} (coherent : Coherent before)
    (io : instanceType ≠ .explicitMessaging) (closes : ClosesOneOf instanceType before after) :
    ∃ slot, Members.Closes slot before.members after.members := by
  obtain ⟨slot, listed, type, closed⟩ := closes
  exact ⟨slot, closed.closes coherent listed (type ▸ io)⟩

theorem ClosesOneOf.closes_all {instanceType : ConnectionObjectInstanceType} (coherent : Coherent before)
    (io : instanceType ≠ .explicitMessaging) (closes : Relation.ReflTransGen (ClosesOneOf instanceType) before after) :
    Relation.ReflTransGen (fun before after => ∃ slot, Members.Closes slot before after) before.members after.members := by
  induction closes with
  | refl => exact .refl
  | tail earlier last ih =>
      have reached := (ClosesOneOf.continues_all coherent earlier).coherent
      exact ih.tail (last.closes reached io)

theorem setTimedOut_members (listed : slot ∈ stack.connectionList.toList) (io : slot.instanceType ≠ .explicitMessaging) :
    (stack.modifyObject slot (·.setState .timedOut)).members =
      Function.update stack.members slot (some (stack.object slot).member.lapse) :=
  members_setObject listed io

theorem TimedOut.lapses {named : Int → Prop} (coherent : Coherent before) (timedOut : TimedOut named before slot after) :
    Members.Lapses slot before.members after.members := by
  obtain @⟨ended, handed, closed, handover, established, io, aside, handedOn, dependents⟩ := timedOut
  have listed := (coherent.mem_iff slot).mpr (.inl established)
  have timing : Continues (· = slot) before (before.timingOut slot) := timingOut_continues coherent listed io
  have atEnd := (aside.continues timing.coherent).mono fun other (same : other = slot) => same ▸ io
  have endedListed := atEnd.spares slot (timing.spares slot listed rfl) rfl
  have handing : Continues (· = slot) ended handed := handedOn.continues atEnd.coherent endedListed
  have closing : Continues (· = slot) handed closed := dependents.continues handing.coherent
  have stillListed := closing.spares slot (handing.spares slot endedListed rfl) rfl
  have lapsed : ended.members = Function.update before.members slot (some (before.object slot).member.lapse) := by
    rw [aside.members_eq]
    have logged : slot ∈ (before.checkIoConnectionEvent (before.object slot).consumedPath.instanceId
        (before.object slot).producedPath.instanceId .timedOut).connectionList.toList := listed
    exact setTimedOut_members logged io
  -- nothing has established the connection again
  have idle : (closed.object slot).state = .timedOut := by
    refine (closing.coherent.listed slot stillListed).resolve_left fun again => ?_
    have early := handing.aged slot (handing.spares slot endedListed rfl) (closing.aged slot stillListed again)
    rw [aside.object_eq io] at early
    change (Function.update before.object slot ((before.object slot).setState .timedOut) slot).state = _ at early
    rw [Function.update_self] at early
    cases early
  have last : (closed.modifyObject slot (·.setState .timedOut)).members = closed.members := by
    have same : (closed.object slot).setState .timedOut = closed.object slot := by
      rw [← idle]
      rfl
    rw [modifyObject, same, setObject, Function.update_eq_self]
  rw [last]
  have handsOn := handedOn.handsOn atEnd.coherent endedListed io
  rw [lapsed] at handsOn
  cases dependents with
  | kept independent =>
      exact .intro (members_of_listed listed io) handsOn .refl
        ⟨∅, ⟨fun _ none => none.elim, fun _ _ => rfl⟩, fun _ none => none.elim⟩
  | @closed middle _ owner remained inputOnly listeners =>
      have closes := ClosesOneOf.closes_all handing.coherent (by simp) inputOnly
      have coherentMiddle := (ClosesOneOf.continues_all handing.coherent inputOnly).coherent
      refine .intro (members_of_listed listed io) handsOn closes ⟨_, listeners.listeners_leave coherentMiddle, ?_⟩
      rintro listener ⟨member, found, listens, _⟩ other same
      rw [found] at same
      cases same
      exact listens

theorem Sent.sends (coherent : Coherent before) (sent : Sent before slot after) :
    ∃ member, before.members slot = some member ∧ member.live = true ∧ member.holds = true ∧
      after.members = Function.update before.members slot (some { member with count := member.count + 1 }) := by
  have listed := (coherent.mem_iff slot).mpr (.inl sent.established)
  have io : slot.instanceType ≠ .explicitMessaging := by
    intro explicit
    have opened := coherent.opened slot listed
    cases slot with
    | explicit i => exact sent.produces (OpenedClass3.producingSocket opened)
    | exclusiveOwner i => cases explicit
    | inputOnly i j => cases explicit
    | listenOnly i j => cases explicit
  obtain ⟨hasChanged, _, _, object, _⟩ := sent.frame
  refine ⟨_, members_of_listed listed io, ?_, ?_, ?_⟩
  · simp [member, sent.established]
  · simp [member, sent.produces]
  · have same : after.members = (before.setObject slot (countFrame hasChanged (before.object slot))).members := by
      refine members_congr (fun _ _ => by rw [sent.list]; rfl) fun other _ _ => ?_
      rw [object]
      rfl
    rw [same, members_setObject listed io]
    rfl

/-- Every change of the table is a move of the members. -/
theorem Change.moves {named : Int → Prop} {noting : Note → Slot config → Prop} (coherent : Coherent before)
    (change : Change named noting before after) : Members.Moves before.members after.members := by
  cases change with
  | aside aside =>
      rw [aside.members_eq]
      exact .same
  | counted counted =>
      rw [setCounted_members counted]
      exact .same
  | sent sent =>
      obtain ⟨member, found, live, holds, same⟩ := sent.sends coherent
      rw [same]
      exact .sends found live holds
  | @closed slot _ listed closed =>
      by_cases explicit : slot.instanceType = .explicitMessaging
      · rw [closed.members_explicit coherent listed explicit]
        exact .same
      · exact .closes (closed.closes coherent listed explicit)
  | timedOut timedOut => exact .lapses (timedOut.lapses coherent)

section Openings

variable {asked room : Stack config} {network : Network} {object : CipConnectionObject}

theorem Requested.members_eq (requested : Requested stack asked) : asked.members = stack.members := by
  rw [Requested] at requested
  rw [requested]
  rfl

theorem Drafts.members_eq (drafts : Drafts slot room after) (absent : slot ∉ room.connectionList.toList) :
    after.members = room.members := by
  have list : after.connectionList = room.connectionList := by rw [drafts]
  refine members_congr (fun _ _ => by rw [list]) fun other listed _ => ?_
  have differs : other ≠ slot := fun same => absent (same ▸ listed)
  rw [drafts]
  exact congrArg _ (Function.update_of_ne differs ..)

theorem RoomMade.moves (coherent : Coherent asked) (made : RoomMade asked slot room) :
    Members.Moves asked.members room.members := by
  cases made with
  | free absent => exact .same
  | closed listed closed =>
      have change : Change (fun _ => False) (fun _ _ => False) asked room := .closed listed closed
      exact change.moves coherent
  | emptied absent removes =>
      have same : room.members = asked.members := by
        refine members_congr (fun other _ => ?_) fun other listed _ => ?_
        · rw [removes.mem_iff]
          exact and_iff_left_of_imp fun listed gone => absent (List.mem_singleton.mp gone ▸ listed)
        · rw [removes.others other fun gone => absent (List.mem_singleton.mp gone ▸ listed)]
      rw [same]
      exact .same

theorem Refused.moves {udpSocket : UdpSocket} (coherent : Coherent asked) (refused : Refused asked udpSocket after) :
    Members.Moves asked.members after.members := by
  cases refused with
  | untouched same =>
      rw [same]
      exact .same
  | drafted slot room made absent drafts =>
      have same : after.members = room.members := by
        rcases drafts with early | late
        · exact early.members_eq absent
        · exact late.members_eq absent
      rw [same]
      exact made.moves coherent

theorem ExplicitOpened.members_eq {connectionList : ConnectionList config.kNodesAmount (Slot config)}
    (opened : ExplicitOpened asked after slot connectionList) : after.members = asked.members := by
  have explicit := (getFreeExplicitConnection_spec opened.free).1
  have list : after.connectionList.toList = slot :: asked.connectionList.toList := by
    rw [opened.after]
    exact ConnectionList.toList_insertAtHead opened.inserted
  refine members_congr (fun other io => ?_) fun other _ io => ?_
  · rw [list, List.mem_cons]
    exact or_iff_right fun same => io (same ▸ explicit)
  · have differs : other ≠ slot := fun same => io (same ▸ explicit)
    rw [opened.after]
    exact congrArg _ (Function.update_of_ne differs ..)

theorem isTypeIOConnection_iff (type : object.instanceType = slot.instanceType) :
    object.isTypeIOConnection = true ↔ slot.instanceType ≠ .explicitMessaging := by
  rw [isTypeIOConnection, type]
  cases slot <;> simp [Slot.instanceType]

/-- The test `GetExistingProducerIoConnection` makes for a stream finds its sender. -/
theorem masters_iff {inputPoint : UInt32} (type : object.instanceType = slot.instanceType) :
    (object.isTypeIOConnection && inputPoint == object.producedPath.instanceId.toUInt32 &&
      object.producingSocket != kEipInvalidSocket && (object.getTToOConnectionType == .multicast ||
        (!true && object.getTToOConnectionType == .pointToPoint))) = true ↔
      slot.instanceType ≠ .explicitMessaging ∧ object.member.Masters ∧ object.member.input = inputPoint := by
  simp only [Bool.and_eq_true, isTypeIOConnection_iff type, Member.Masters, member, Bool.not_true, Bool.false_and, Bool.or_false, beq_iff_eq]
  constructor
  · rintro ⟨⟨⟨isIo, input⟩, socket⟩, multicast⟩
    exact ⟨isIo, ⟨multicast, socket⟩, input.symm⟩
  · rintro ⟨isIo, ⟨multicast, socket⟩, input⟩
    exact ⟨⟨⟨isIo, input.symm⟩, socket⟩, multicast⟩

theorem getExistingProducer_masters (coherent : Coherent stack) {inputPoint : UInt32} {existing : Slot config}
    (found : stack.getExistingProducerIoConnection true inputPoint = some existing) :
    stack.members existing = some (stack.object existing).member ∧ (stack.object existing).member.Masters ∧
      (stack.object existing).member.input = inputPoint := by
  obtain ⟨listed, passes⟩ := findConnection_mem found
  obtain ⟨io, masters, input⟩ := (masters_iff (coherent.opened existing listed).instanceType).mp passes
  exact ⟨members_of_listed listed io, masters, input⟩

theorem getExistingProducer_nobody (coherent : Coherent stack) {inputPoint : UInt32}
    (nobody : stack.getExistingProducerIoConnection true inputPoint = none) (other : Slot config)
    (member : Member UInt32 UInt32 UInt32) (found : stack.members other = some member) (masters : member.Masters) :
    member.input ≠ inputPoint := by
  obtain ⟨listed, io, rfl⟩ := members_eq_some.mp found
  intro input
  have missed := findConnection_eq_none_iff.mp nobody other listed
  have passes := (masters_iff (coherent.opened other listed).instanceType).mpr ⟨io, masters, input⟩
  rw [missed] at passes
  cases passes

theorem members_of_entry {member : Member UInt32 UInt32 UInt32} {base : Members (Slot config) UInt32 UInt32 UInt32}
    (list : after.connectionList.toList = slot :: room.connectionList.toList) (io : slot.instanceType ≠ .explicitMessaging)
    (own : (after.object slot).member = member)
    (others : ∀ other, other ≠ slot → other ∈ room.connectionList.toList → other.instanceType ≠ .explicitMessaging →
      base other = some (after.object other).member)
    (rest : ∀ other, other ≠ slot → ¬ (other ∈ room.connectionList.toList ∧ other.instanceType ≠ .explicitMessaging) →
      base other = none) : after.members = Function.update base slot (some member) := by
  funext other
  by_cases same : other = slot
  · subst same
    rw [Function.update_self]
    exact members_eq_some.mpr ⟨by simp [list], io, own⟩
  · rw [Function.update_of_ne same]
    have listed : other ∈ after.connectionList.toList ↔ other ∈ room.connectionList.toList := by
      rw [list, List.mem_cons]
      exact or_iff_right same
    unfold members
    by_cases here : other ∈ room.connectionList.toList ∧ other.instanceType ≠ .explicitMessaging
    · rw [if_pos ⟨listed.mpr here.1, here.2⟩, others other same here.1 here.2]
    · rw [if_neg fun both => here ⟨listed.mp both.1, both.2⟩, rest other same here]

theorem IoOpened.joins (coherent : Coherent room) (opened : IoOpened network asked room slot object after) :
    Members.Joins room.members slot (after.object slot).member after.members := by
  have entry (keeps : ∀ other, other ≠ slot → after.object other = room.object other) :
      after.members = Function.update room.members slot (some (after.object slot).member) := by
    refine members_of_entry opened.list opened.io rfl (fun other differs listed io => ?_) fun other _ absent => if_neg absent
    rw [keeps other differs]
    exact members_of_listed listed io
  -- how the producing channel was opened tells how the connection joins its stream
  cases opened.channel with
  | silent notMulticast _ own others =>
      rw [entry others, own]
      exact .apart (beq_eq_false_iff_ne.mpr notMulticast)
  | pointToPoint port type own others =>
      rw [entry others, own]
      refine .apart (beq_eq_false_iff_ne.mpr ?_)
      change object.getTToOConnectionType ≠ .multicast
      rw [type]
      simp
  | started type nobody own others =>
      rw [entry others, own]
      refine .started (beq_iff_eq.mpr type) fun other existing found masters => ?_
      exact getExistingProducer_nobody coherent nobody other existing found masters
  | joined existing port type found guest own others =>
      obtain ⟨listed, masters, input⟩ := getExistingProducer_masters coherent found
      rw [entry others, own]
      exact .joined (beq_iff_eq.mpr type) listed masters input rfl rfl
  | takenOver existing port type found owner differs own released others =>
      obtain ⟨listed, masters, input⟩ := getExistingProducer_masters coherent found
      obtain ⟨existingListed, existingIo, _⟩ := members_eq_some.mp listed
      -- two entries change: the new owner has the stream, and the sender before it none
      have taken : after.members = Function.update
          (Function.update room.members existing (some (room.object existing).member.release)) slot
          (some (after.object slot).member) := by
        refine members_of_entry opened.list opened.io rfl (fun other apart listed io => ?_) fun other apart absent => ?_
        · by_cases isSender : other = existing
          · subst isSender
            rw [Function.update_self, released]
            rfl
          · rw [Function.update_of_ne isSender, others other apart isSender]
            exact members_of_listed listed io
        · have notSender : other ≠ existing := fun same => absent ⟨same ▸ existingListed, same ▸ existingIo⟩
          rw [Function.update_of_ne notSender]
          exact if_neg absent
      rw [taken, own]
      refine .takenOver (beq_iff_eq.mpr type) listed masters input ?_ masters.2 rfl
      change object.instanceType.role = .owner
      rw [owner]
      rfl

theorem IoOpened.established (opened : IoOpened network asked room slot object after) :
    (after.object slot).state = .established := by
  obtain ⟨middle, _, objects⟩ := opened.produced
  rw [objects, Function.update_self]
  rfl

theorem IoOpened.live (opened : IoOpened network asked room slot object after) :
    (after.object slot).member.live = true :=
  beq_iff_eq.mpr opened.established

theorem IoOpened.requested (opened : IoOpened network asked room slot object after) :
    (after.object slot).instanceType = slot.instanceType ∧
      (after.object slot).getTToOConnectionType = asked.dummy.getTToOConnectionType ∧
      (after.object slot).producedPath.instanceId = asked.dummy.producedPath.instanceId ∧
      (after.object slot).getTransportClass = asked.dummy.getTransportClass := by
  have fresh := opened.fresh
  refine ⟨?_, ?_, ?_, ?_⟩
  · exact (opened.read_eq (·.instanceType) (fun _ _ _ _ => rfl) fun _ => rfl).trans fresh.instanceType
  · exact (opened.read_eq getTToOConnectionType (fun _ _ _ _ => rfl) fun _ => rfl).trans fresh.connectionType
  · exact (opened.read_eq (·.producedPath.instanceId) (fun _ _ _ _ => rfl) fun _ => rfl).trans fresh.input
  · exact (opened.read_eq getTransportClass (fun _ _ _ _ => rfl) fun _ => rfl).trans fresh.transportClass

theorem IoOpened.producingSocket (opened : IoOpened network asked room slot object after)
    (multicast : asked.dummy.getTToOConnectionType = .multicast) :
    (after.object slot).producingSocket =
      match room.getExistingProducerIoConnection true asked.dummy.producedPath.instanceId.toUInt32 with
      | none => network.udpSocket.handle
      | some existing =>
          if slot.instanceType = .ioExclusiveOwner then (room.object existing).producingSocket
          else kEipInvalidSocket := by
  have type := opened.fresh.connectionType.trans multicast
  have input := opened.fresh.input
  cases opened.channel with
  | silent notMulticast _ _ _ => exact absurd type notMulticast
  | pointToPoint port pointToPoint _ _ =>
      rw [type] at pointToPoint
      cases pointToPoint
  | started _ nobody own _ =>
      rw [input] at nobody
      rw [own, nobody]
      rfl
  | joined existing port _ found guest own _ =>
      rw [input] at found
      rw [opened.fresh.instanceType] at guest
      rw [own, found]
      exact (if_neg guest).symm
  | takenOver existing port _ found owner differs own _ _ =>
      rw [input] at found
      rw [opened.fresh.instanceType] at owner
      rw [own, found]
      dsimp only
      rw [if_pos owner]
      rfl

theorem RoomMade.coherent (coherent : Coherent asked) (made : RoomMade asked slot room) : Coherent room := by
  cases made with
  | free absent => exact coherent
  | closed listed closed => exact (Continues.of_closed coherent (coherent.opened slot listed).callable closed).1.coherent
  | emptied absent removes => exact coherent.removes removes

end Openings

/-- The run rule for the members: none move or join against the property. -/
theorem members_along (property : Members (Slot config) UInt32 UInt32 UInt32 → Prop)
    {condition : Network → Stack config → Slot config → Prop} {assemblyData : CipInstanceNum → List CipOctet}
    {timeout : UInt16} {operations : List Operation} (empty : property fun _ => none)
    (moves : ∀ before after, property before → Members.Moves before after → property after)
    (joins : ∀ network asked slot object after, Coherent asked.roomFor → property asked.roomFor.members →
      condition network asked slot → IoOpened network asked asked.roomFor slot object after → property after.members)
    (along : Along step (IoOpensWith condition) (Stack.initialized config assemblyData timeout) operations)
    (run : operations.foldlM step (Stack.initialized config assemblyData timeout) = .ok stack) :
    Intact stack ∧ property stack.members := by
  have start : (Stack.initialized config assemblyData timeout).members = fun _ => none := by
    funext slot
    exact members_eq_none (by simp [Stack.initialized])
  refine holds_along (fun stack => property stack.members) assemblyData timeout (start ▸ empty) ?_ along run
  intro before operation after intact holds meets performed
  cases performed with
  | evolves evolves =>
      exact evolves.holds intact.coherent holds fun before after coherent holds change =>
        moves before.members after.members holds (change.moves coherent)
  | read requested => exact requested.members_eq ▸ holds
  | refused asked udpSocket requested refused =>
      have coherent : Coherent asked := by
        rw [requested]
        exact intact.coherent.of_same_table rfl rfl
      exact moves _ _ (requested.members_eq ▸ holds) (refused.moves coherent)
  | explicit asked slot connectionList requested opened =>
      rw [opened.members_eq, requested.members_eq]
      exact holds
  | io isLfo request asked slot object opens admission selected requested opened =>
      have coherent : Coherent asked := by
        rw [requested]
        exact intact.coherent.of_same_table rfl rfl
      have room := moves _ _ (requested.members_eq ▸ holds) (opened.made.moves coherent)
      exact joins request.network asked slot object after (opened.made.coherent coherent) room
        (meets isLfo request asked slot opens admission selected opened.io) opened

end Stack

end EtherNetIP
