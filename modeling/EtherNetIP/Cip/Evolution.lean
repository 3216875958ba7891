import EtherNetIP.Cip.Coherent
import EtherNetIP.Cip.ManageConnections
import Mathlib.Logic.Relation

/-! How the connection table changes while nothing is opened.

Sessions end and take explicit connections along, counters and timers run,
frames are sent, connections are closed and time out. Whatever the stack does
between two openings is a sequence of these five changes.
-/

set_option autoImplicit false

namespace EtherNetIP

open Library CipConnectionObject

variable {config : Configuration}

/-- A connection object without its timers, its counters of received data and what is kept of explicit requests. -/
def steadyPart (object : CipConnectionObject) : CipConnectionObject :=
  { object with
    transmissionTriggerTimer := 0
    inactivityWatchdogTimer := 0
    lastPackageWatchdogTimer := 0
    productionInhibitTimer := 0
    sequenceCountConsuming := 0
    eipLevelSequenceCountConsuming := 0
    eipFirstLevelSequenceCountReceived := false
    lastReplySent := none }

def newestRequest (object : CipConnectionObject) : UInt16 × Option (List CipOctet) :=
  (object.sequenceCountConsuming, object.lastReplySent)

def newestNumber (object : CipConnectionObject) : Option UInt32 :=
  if object.eipFirstLevelSequenceCountReceived then some object.eipLevelSequenceCountConsuming else none

/-- What may be noted in a connection object about what is received for it. -/
inductive Note where
  | request
  | data
  deriving DecidableEq

/-- Counters and timers have run. Only a connection that is noted in counts what is received; requests and class 1
data are counted in the same field. -/
structure Counted (noting : Note → Slot config → Prop) (slot : Slot config) (before after : CipConnectionObject) :
    Prop where
  steady : steadyPart before = steadyPart after
  reply : ¬ noting .request slot → after.lastReplySent = before.lastReplySent
  number : ¬ noting .data slot → newestNumber after = newestNumber before
  count : ¬ noting .request slot → (noting .data slot → before.getTransportClass ≠ .class1) →
    after.sequenceCountConsuming = before.sequenceCountConsuming

theorem Counted.quiet {noting : Note → Slot config → Prop} {slot : Slot config} {before after : CipConnectionObject}
    (steady : steadyPart before = steadyPart after) (reply : after.lastReplySent = before.lastReplySent)
    (number : newestNumber after = newestNumber before)
    (count : after.sequenceCountConsuming = before.sequenceCountConsuming) : Counted noting slot before after :=
  ⟨steady, fun _ => reply, fun _ => number, fun _ _ => count⟩

theorem Counted.requests {noting : Note → Slot config → Prop} {slot : Slot config}
    {before after : CipConnectionObject} (counted : Counted noting slot before after)
    (silent : ¬ noting .request slot) (notClass1 : before.getTransportClass ≠ .class1) :
    newestRequest after = newestRequest before := by
  rw [newestRequest, counted.count silent fun _ => notClass1, counted.reply silent, newestRequest]

theorem Counted.mono {noting more : Note → Slot config → Prop} {slot : Slot config}
    {before after : CipConnectionObject} (counted : Counted noting slot before after)
    (implies : ∀ note, noting note slot → more note slot) : Counted more slot before after where
  steady := counted.steady
  reply := fun silent => counted.reply fun notes => silent (implies .request notes)
  number := fun silent => counted.number fun notes => silent (implies .data notes)
  count := fun silent notClass1 =>
    counted.count (fun notes => silent (implies .request notes)) fun notes => notClass1 (implies .data notes)

theorem Counted.eq {α : Type} {noting : Note → Slot config → Prop} {slot : Slot config}
    {before after : CipConnectionObject} (counted : Counted noting slot before after)
    (read : CipConnectionObject → α) (steady : ∀ object, read (steadyPart object) = read object) :
    read after = read before := by
  rw [← steady after, ← counted.steady, steady]

namespace Stack

/-- What is neither the connection table nor a log, and is read when a request is opened. -/
def ambient (stack : Stack config) : CipConnectionObject × UInt16 × Int :=
  (stack.dummy, stack.connectionId, stack.udpIoMessaging)

/-- Explicit connections may have ended; all other connections are as they were. Only the sockets of sessions
and named ones have been closed. -/
structure Aside (named : Int → Prop) (before after : Stack config) : Prop where
  unlists : ∃ gone, (∀ slot ∈ gone, slot.instanceType = .explicitMessaging) ∧ Unlists before after gone
  ambient : after.ambient = before.ambient
  sessions : ∀ socket ∈ after.registeredSessions,
    socket ∈ before.registeredSessions ∨ socket = kEipInvalidSocket ∨ named socket
  traffic : ∃ closed, (∀ socket ∈ closed, socket ≠ kEipInvalidSocket ∧
      (socket ∈ before.registeredSessions ∨ named socket)) ∧ after.traffic = closings closed ++ before.traffic

structure Sent (before : Stack config) (slot : Slot config) (after : Stack config) : Prop where
  established : (before.object slot).state = .established
  produces : (before.object slot).producingSocket ≠ kEipInvalidSocket
  list : after.connectionList = before.connectionList
  ambient : after.ambient = before.ambient
  sessions : after.registeredSessions = before.registeredSessions
  frame : ∃ hasChanged length data,
    after.object = Function.update before.object slot (countFrame hasChanged (before.object slot)) ∧
    after.traffic = .sendUdpData (ioFrame config before.runIdleState
      (countFrame hasChanged (before.object slot)) length data) :: before.traffic

/-- The part that a close and a time-out share, with whether the stream was handed on. -/
inductive HandedOn (before : Stack config) (slot : Slot config) : Stack config → Bool → Prop
  | passive (passive : controlsMulticast (before.object slot) = false) : HandedOn before slot before false
  | succeeded {next : Slot config} (controls : controlsMulticast (before.object slot) = true)
      (successor : before.getNextNonControlMasterConnection
        (before.object slot).producedPath.instanceId.toUInt32 = some next) :
      HandedOn before slot (before.handedOver slot next) true
  | last {after : Stack config} (controls : controlsMulticast (before.object slot) = true)
      (nobody : before.getNextNonControlMasterConnection
        (before.object slot).producedPath.instanceId.toUInt32 = none)
      (removes : Removes before after (before.withTypeAndInput
        (before.object slot).producedPath.instanceId.toUInt32 .ioListenOnly)) :
      HandedOn before slot after false

def ClosesOneOf (instanceType : ConnectionObjectInstanceType) (before after : Stack config) : Prop :=
  ∃ slot ∈ before.connectionList.toList, slot.instanceType = instanceType ∧ Closed before slot after

/-- The dependents of a timed-out connection that went with it: without a hand-over those of an exclusive owner
are the input-only and then the listen-only connections of its input. -/
inductive DependentsClosed (slot : Slot config) (inputPoint : UInt32) (handover : Bool)
    (before : Stack config) : Stack config → Prop
  | kept (independent : ¬ (slot.instanceType = .ioExclusiveOwner ∧ handover = false)) :
      DependentsClosed slot inputPoint handover before before
  | closed {middle after : Stack config} (owner : slot.instanceType = .ioExclusiveOwner)
      (remained : handover = false) (inputOnly : Relation.ReflTransGen (ClosesOneOf .ioInputOnly) before middle)
      (listeners : Removes middle after (middle.withTypeAndInput inputPoint .ioListenOnly)) :
      DependentsClosed slot inputPoint handover before after

/-- An I/O connection has timed out: it stays listed. -/
inductive TimedOut (named : Int → Prop) (before : Stack config) (slot : Slot config) : Stack config → Prop
  | intro {ended handed closed : Stack config} {handover : Bool}
      (established : (before.object slot).state = .established) (io : slot.instanceType ≠ .explicitMessaging)
      (aside : Aside named (before.timingOut slot) ended) (handedOn : HandedOn ended slot handed handover)
      (dependents : DependentsClosed slot (before.object slot).producedPath.instanceId.toUInt32 handover
        handed closed) :
      TimedOut named before slot (closed.modifyObject slot (·.setState .timedOut))

inductive Change (named : Int → Prop) (noting : Note → Slot config → Prop) (before : Stack config) :
    Stack config → Prop
  | aside {after : Stack config} (aside : Aside named before after) : Change named noting before after
  | counted {slot : Slot config} {object : CipConnectionObject}
      (counted : Counted noting slot (before.object slot) object) :
      Change named noting before (before.setObject slot object)
  | sent {slot : Slot config} {after : Stack config} (sent : Sent before slot after) :
      Change named noting before after
  | closed {slot : Slot config} {after : Stack config} (listed : slot ∈ before.connectionList.toList)
      (closed : Closed before slot after) : Change named noting before after
  | timedOut {slot : Slot config} {after : Stack config} (timedOut : TimedOut named before slot after) :
      Change named noting before after

/-- The second stack comes of the first without an opening. -/
def Evolves (named : Int → Prop) (noting : Note → Slot config → Prop) (before after : Stack config) : Prop :=
  Relation.ReflTransGen (Change named noting) before after

theorem Evolves.mono {named : Int → Prop} {noting more : Note → Slot config → Prop} {before after : Stack config}
    (evolves : Evolves named noting before after) (implies : ∀ note slot, noting note slot → more note slot) :
    Evolves named more before after := by
  refine Relation.ReflTransGen.mono (fun middle next change => ?_) _ _ evolves
  cases change with
  | aside aside => exact .aside aside
  | counted counted => exact .counted (counted.mono fun note => implies note _)
  | sent sent => exact .sent sent
  | closed listed closed => exact .closed listed closed
  | timedOut timedOut => exact .timedOut timedOut

section Continuing

variable {before middle after : Stack config} {slot : Slot config} {named : Int → Prop}
  {noting : Note → Slot config → Prop} {spared : Slot config → Prop}

namespace Aside

theorem of_same (list : after.connectionList = before.connectionList) (object : after.object = before.object)
    (ambient : after.ambient = before.ambient) (sessions : after.registeredSessions = before.registeredSessions)
    (traffic : after.traffic = before.traffic) : Aside named before after where
  unlists := ⟨[], by simp, .nothing list object⟩
  ambient := ambient
  sessions := fun socket member => .inl (sessions ▸ member)
  traffic := ⟨[], by simp, by simp [closings, traffic]⟩

theorem refl (stack : Stack config) : Aside named stack stack := .of_same rfl rfl rfl rfl rfl

theorem trans (first : Aside named before middle) (second : Aside named middle after) :
    Aside named before after where
  unlists := by
    obtain ⟨gone, explicitGone, one⟩ := first.unlists
    obtain ⟨more, explicitMore, two⟩ := second.unlists
    refine ⟨gone ++ more, fun slot member => ?_, one.trans two⟩
    exact (List.mem_append.mp member).elim (explicitGone slot) (explicitMore slot)
  ambient := second.ambient.trans first.ambient
  sessions := by
    intro socket member
    rcases second.sessions socket member with kept | rest
    · exact first.sessions socket kept
    · exact .inr rest
  traffic := by
    obtain ⟨closed, oldClosed, one⟩ := first.traffic
    obtain ⟨later, newClosed, two⟩ := second.traffic
    refine ⟨closed ++ later, fun socket member => ?_, by simp [two, one, closings]⟩
    rcases List.mem_append.mp member with old | new
    · exact oldClosed socket old
    · obtain ⟨valid, registered | byName⟩ := newClosed socket new
      · rcases first.sessions socket registered with kept | invalid | byName
        · exact ⟨valid, .inl kept⟩
        · exact absurd invalid valid
        · exact ⟨valid, .inr byName⟩
      · exact ⟨valid, .inr byName⟩

theorem continues (aside : Aside named before after) (coherent : Coherent before) :
    Continues (fun slot => slot.instanceType ≠ .explicitMessaging) before after := by
  obtain ⟨gone, explicit, unlists⟩ := aside.unlists
  exact .of_unlists coherent unlists (fun slot member keep => keep (explicit slot member))
    (congrArg Prod.fst aside.ambient)

theorem object_eq (aside : Aside named before after) (io : slot.instanceType ≠ .explicitMessaging) :
    after.object slot = before.object slot := by
  obtain ⟨gone, explicit, unlists⟩ := aside.unlists
  exact unlists.others slot fun member => io (explicit slot member)

theorem mem_iff (aside : Aside named before after) (io : slot.instanceType ≠ .explicitMessaging) :
    slot ∈ after.connectionList.toList ↔ slot ∈ before.connectionList.toList := by
  obtain ⟨gone, explicit, unlists⟩ := aside.unlists
  rw [unlists.mem_iff]
  exact and_iff_left fun member => io (explicit slot member)

end Aside

theorem setCounted_continues {object : CipConnectionObject} (coherent : Coherent before)
    (counted : Counted noting slot (before.object slot) object) :
    Continues spared before (before.setObject slot object) := by
  have state := counted.eq (·.state) fun _ => rfl
  have socket := counted.eq (·.producingSocket) fun _ => rfl
  have same : SameConnection (before.object slot) object := by
    have constant (object : CipConnectionObject) : constantPart object = constantPart (steadyPart object) := rfl
    rw [SameConnection, constant, counted.steady, ← constant]
  by_cases listed : slot ∈ before.connectionList.toList
  · have opened := coherent.opened slot listed
    refine .of_setObject coherent listed (opened.of_same same (.inl socket) fun explicit => ?_) ?_ same (state ▸ ·)
    · cases slot with
      | explicit i => exact state.trans (OpenedClass3.established opened)
      | exclusiveOwner i => cases explicit
      | inputOnly i j => cases explicit
      | listenOnly i j => cases explicit
    · rw [state]
      exact coherent.listed slot listed
  · have elsewhere {other : Slot config} (member : other ∈ before.connectionList.toList) :
        (before.setObject slot object).object other = before.object other :=
      Function.update_of_ne (fun here : other = slot => listed (here ▸ member)) _ _
    exact {
      coherent := coherent.setObject_unlisted listed (state.trans (coherent.unlisted slot listed)) fun callable =>
        socket.trans (coherent.idle slot listed
          (counted.eq (·.connectionCloseFunction) (fun _ => rfl) ▸ callable))
      sublist := List.Sublist.refl _
      same := fun other member => by rw [elsewhere member]; rfl
      spares := fun _ member _ => member
      aged := fun other member established => by rwa [elsewhere member] at established
      dummy := rfl }

theorem Sent.continues (coherent : Coherent before) (sent : Sent before slot after) :
    Continues spared before after := by
  have listed := (coherent.mem_iff slot).mpr (.inl sent.established)
  obtain ⟨hasChanged, _, _, object, _⟩ := sent.frame
  have counted : Continues spared before (before.modifyObject slot (countFrame hasChanged)) :=
    .of_modifyObject coherent listed rfl rfl rfl
  refine counted.trans (.of_same_table counted.coherent sent.list ?_ (congrArg Prod.fst sent.ambient))
  rw [object]
  rfl

theorem withTypeAndInput_type {instanceType : ConnectionObjectInstanceType} {inputPoint : UInt32}
    (coherent : Coherent before) (member : slot ∈ before.withTypeAndInput inputPoint instanceType) :
    slot.instanceType = instanceType := by
  obtain ⟨listed, matching⟩ := List.mem_filter.mp member
  simp only [hasTypeAndInput, Bool.and_eq_true, beq_iff_eq] at matching
  exact (coherent.opened slot listed).instanceType.symm.trans matching.1

theorem HandedOn.continues {handover : Bool} (coherent : Coherent before)
    (listed : slot ∈ before.connectionList.toList) (handedOn : HandedOn before slot after handover) :
    Continues (· = slot) before after := by
  cases handedOn with
  | passive passive => exact .refl coherent
  | succeeded controls successor => exact .of_handedOver coherent listed controls successor
  | last controls nobody removes =>
      refine .of_removes coherent removes fun other member same => ?_
      have master := coherent.master_of_controls listed controls
      have listens := withTypeAndInput_type coherent member
      simp [← same, listens] at master

def NotClosedWith (instanceType : ConnectionObjectInstanceType) (other : Slot config) : Prop :=
  other.instanceType ≠ instanceType ∧ other.instanceType ≠ .ioListenOnly

theorem ClosesOneOf.continues {instanceType : ConnectionObjectInstanceType} (coherent : Coherent before)
    (closes : ClosesOneOf instanceType before after) : Continues (NotClosedWith instanceType) before after := by
  obtain ⟨slot, listed, type, closed⟩ := closes
  refine (Continues.of_closed coherent (coherent.opened slot listed).callable closed).1.mono ?_
  rintro other ⟨differs, notListening⟩ (rfl | ⟨listens, _⟩)
  · exact differs type
  · exact notListening listens

theorem ClosesOneOf.continues_all {instanceType : ConnectionObjectInstanceType} (coherent : Coherent before)
    (closes : Relation.ReflTransGen (ClosesOneOf instanceType) before after) :
    Continues (NotClosedWith instanceType) before after := by
  induction closes with
  | refl => exact .refl coherent
  | tail _ last ih => exact ih.trans (last.continues ih.coherent)

theorem DependentsClosed.continues {inputPoint : UInt32} {handover : Bool} (coherent : Coherent before)
    (dependents : DependentsClosed slot inputPoint handover before after) :
    Continues (· = slot) before after := by
  cases dependents with
  | kept independent => exact .refl coherent
  | closed owner remained inputOnly listeners =>
      have first := ClosesOneOf.continues_all coherent inputOnly
      have second : Continues (· = slot) _ after := .of_removes first.coherent listeners fun other member same => by
        have type := withTypeAndInput_type first.coherent member
        rw [same, owner] at type
        cases type
      refine (first.mono fun other same => ?_).trans second
      subst same
      exact ⟨by simp [owner], by simp [owner]⟩

theorem setTimedOut_continues (coherent : Coherent before) (listed : slot ∈ before.connectionList.toList)
    (io : slot.instanceType ≠ .explicitMessaging) :
    Continues spared before (before.modifyObject slot (·.setState .timedOut)) :=
  Continues.of_setObject coherent listed
    ((coherent.opened slot listed).of_same rfl (.inl rfl) fun explicit => absurd explicit io) (.inr rfl) rfl
    fun established => by cases established

theorem timingOut_continues (coherent : Coherent before) (listed : slot ∈ before.connectionList.toList)
    (io : slot.instanceType ≠ .explicitMessaging) : Continues spared before (before.timingOut slot) := by
  have logged : Continues spared before
      (before.checkIoConnectionEvent (before.object slot).consumedPath.instanceId
        (before.object slot).producedPath.instanceId .timedOut) :=
    Continues.of_same_table coherent rfl rfl rfl
  exact logged.trans (setTimedOut_continues logged.coherent listed io)

theorem TimedOut.continues (coherent : Coherent before) (timedOut : TimedOut named before slot after) :
    Continues (· = slot) before after := by
  obtain ⟨established, io, aside, handedOn, dependents⟩ := timedOut
  have only {other : Slot config} (same : other = slot) : other.instanceType ≠ .explicitMessaging := same ▸ io
  have listed := (coherent.mem_iff slot).mpr (.inl established)
  have timing : Continues (· = slot) before (before.timingOut slot) := timingOut_continues coherent listed io
  have ended := timing.trans ((aside.continues timing.coherent).mono fun _ => only)
  have listed := ended.spares slot listed rfl
  have handed : Continues (· = slot) _ _ := handedOn.continues ended.coherent listed
  have listed := handed.spares slot listed rfl
  have closed := dependents.continues handed.coherent
  have listed := closed.spares slot listed rfl
  exact ((ended.trans handed).trans closed).trans (setTimedOut_continues closed.coherent listed io)

theorem Change.continues (coherent : Coherent before) (change : Change named noting before after) :
    Continues (fun _ => False) before after := by
  cases change with
  | aside aside => exact (aside.continues coherent).mono fun _ => False.elim
  | counted counted => exact setCounted_continues coherent counted
  | sent sent => exact sent.continues coherent
  | closed listed closed =>
      exact (Continues.of_closed coherent (coherent.opened _ listed).callable closed).1.mono fun _ => False.elim
  | timedOut timedOut => exact (timedOut.continues coherent).mono fun _ => False.elim

theorem Evolves.continues (coherent : Coherent before) (evolves : Evolves named noting before after) :
    Continues (fun _ => False) before after := by
  induction evolves with
  | refl => exact .refl coherent
  | tail _ last ih => exact ih.trans (last.continues ih.coherent)

/-- The invariant rule: what every change keeps in a coherent table is kept altogether. -/
theorem Evolves.holds {property : Stack config → Prop} (coherent : Coherent before) (holds : property before)
    (preserved : ∀ before after, Coherent before → property before → Change named noting before after →
      property after) (evolves : Evolves named noting before after) : property after := by
  have both : Coherent after ∧ property after := by
    induction evolves with
    | refl => exact ⟨coherent, holds⟩
    | tail _ last ih => exact ⟨(last.continues ih.1).coherent, preserved _ _ ih.1 ih.2 last⟩
  exact both.2

end Continuing

end Stack

end EtherNetIP
