import EtherNetIP.Encap.ConnectedMessages
import EtherNetIP.SampleApplication

/-! Whose connection a connected explicit message is noted in.

The connection is looked up by its identifier alone. The packet is noted in
whatever connection bears it: an I/O connection too, or one that belongs to the
session of another client. The address of the sender, which is compared for
connected data, is not looked at, nor is the session.
-/

set_option autoImplicit false

namespace EtherNetIP

open Library CipConnectionObject

variable {config : Configuration}

def messageFields (object : CipConnectionObject) : UInt64 × UInt16 × Option (List CipOctet) :=
  (object.inactivityWatchdogTimer, object.sequenceCountConsuming, object.lastReplySent)

namespace Stack

variable {stack : Stack config} {packet : SendUnitData} {items : CipCommonPacketFormatData} {slot : Slot config}

/-- What the handling of a packet writes by itself: in front of a service, and behind it the stored reply.
What the service itself writes lies between the two. -/
inductive OwnWrite (packet : SendUnitData) (stack : Stack config) : Stack config → Stack config → Prop
  | reception {items : CipCommonPacketFormatData} {slot : Slot config}
      (addressed : stack.addressed packet = some (items, slot)) :
      OwnWrite packet stack stack (stack.received items slot)
  | reply {items : CipCommonPacketFormatData} {slot : Slot config} {sequenceCount : UInt16} {request : List CipOctet}
      {executed : Executed config} (addressed : stack.addressed packet = some (items, slot))
      (sequenced : items.sequenced = some (sequenceCount, request))
      (fresh : (stack.object slot).sequenceCountConsuming ≠ sequenceCount)
      (done : (stack.received items slot).notifyMessageRouter packet.circumstances (items.numbered sequenceCount)
        request (items.dataItem.length - 2).toInt16 = .ok executed) :
      OwnWrite packet stack executed.stack (replyOnConnection slot executed).2

/-- The handling consists of its own writes and at most one service between them. -/
theorem Handling.ownWrites {handled : Handled config} {after : Stack config}
    (handling : Handling packet stack handled after) :
    (handled = .dropped ∧ after = stack) ∨ OwnWrite packet stack stack after ∨
      ∃ received executed items request dataLength, OwnWrite packet stack stack received ∧
        received.notifyMessageRouter packet.circumstances items request dataLength = .ok executed ∧
        OwnWrite packet stack executed.stack after := by
  cases handling with
  | dropped unaddressed => exact .inl ⟨rfl, rfl⟩
  | noData addressed absent => exact .inr (.inl (.reception addressed))
  | repeated addressed sequenced => exact .inr (.inl (.reception addressed))
  | executed addressed sequenced fresh done =>
      exact .inr (.inr ⟨_, _, _, _, _, .reception addressed, done, .reply addressed sequenced fresh done⟩)

def IsClass3OfSession (stack : Stack config) (sessionHandle : CipSessionHandle) (slot : Slot config) : Prop :=
  (stack.object slot).state = .established ∧ (stack.object slot).getTransportClass = .class3 ∧
    (stack.object slot).associatedEncapsulationSession = sessionHandle

/-- The packet leaves nothing behind in the connection: its watchdog has just been set, and the packet carries
no connected data or repeats the sequence count. -/
def Unnoticed (items : CipCommonPacketFormatData) (object : CipConnectionObject) : Prop :=
  object.inactivityWatchdogTimer = object.calculateRegularInactivityWatchdogTimerValue ∧
    ∀ sequenceCount request, items.sequenced = some (sequenceCount, request) →
      object.sequenceCountConsuming = sequenceCount

theorem messageFields_noteReception (items : CipCommonPacketFormatData) (object : CipConnectionObject) :
    messageFields (noteReception (items.sequenced.map Prod.fst) object) = messageFields object ↔
      Unnoticed items object := by
  cases sequenced : items.sequenced with
  | none => simp [Unnoticed, sequenced, noteReception, messageFields, resetInactivityWatchdogTimerValue, eq_comm,
      calculateRegularInactivityWatchdogTimerValue]
  | some counted =>
      obtain ⟨sequenceCount, request⟩ := counted
      by_cases repeated : object.sequenceCountConsuming = sequenceCount
      · simp [Unnoticed, sequenced, noteReception, messageFields, resetInactivityWatchdogTimerValue, repeated,
          eq_comm]
      · have differs : sequenceCount ≠ object.sequenceCountConsuming := fun same => repeated same.symm
        simp [Unnoticed, sequenced, noteReception, messageFields, countRequest, resetInactivityWatchdogTimerValue,
          repeated, differs]

theorem OwnWrite.slot_eq {before after : Stack config} {other : Slot config}
    (addressed : stack.addressed packet = some (items, slot)) (writes : OwnWrite packet stack before after)
    (changed : messageFields (after.object other) ≠ messageFields (before.object other)) : other = slot := by
  by_contra differs
  apply changed
  cases writes with
  | reception found =>
      cases addressed.symm.trans found
      exact congrArg messageFields (Function.update_of_ne differs _ _)
  | reply found sequenced fresh done =>
      cases addressed.symm.trans found
      exact congrArg messageFields (Function.update_of_ne differs _ _)

/-- The handling writes into a connection other than an established class 3 connection of the packet's session
exactly when the identifier names such a connection and the packet does not go unnoticed there. -/
theorem only_own_class3_noted_iff (packet : SendUnitData) (stack : Stack config) :
    (∀ before after, OwnWrite packet stack before after → ∀ slot,
      messageFields (after.object slot) ≠ messageFields (before.object slot) →
        stack.IsClass3OfSession packet.sessionHandle slot) ↔
      ∀ items slot, stack.addressed packet = some (items, slot) →
        stack.IsClass3OfSession packet.sessionHandle slot ∨ Unnoticed items (stack.object slot) := by
  have noted (items : CipCommonPacketFormatData) (slot : Slot config) :
      messageFields ((stack.received items slot).object slot) = messageFields (stack.object slot) ↔
        Unnoticed items (stack.object slot) := by
    rw [← messageFields_noteReception]
    simp [received, modifyObject]
  constructor
  · intro confined items slot addressed
    by_cases unnoticed : Unnoticed items (stack.object slot)
    · exact .inr unnoticed
    · left
      apply confined _ _ (.reception addressed) slot
      exact (noted items slot).not.mpr unnoticed
  · intro allowed before after writes other changed
    cases named : stack.addressed packet with
    | none =>
        cases writes with
        | reception found => cases named.symm.trans found
        | reply found sequenced fresh done => cases named.symm.trans found
    | some found =>
        obtain ⟨items, slot⟩ := found
        have same := writes.slot_eq named changed
        subst same
        apply (allowed items other named).resolve_right
        intro unnoticed
        cases writes with
        | reception found =>
            cases named.symm.trans found
            exact changed ((noted items other).mpr unnoticed)
        | reply found sequenced fresh done =>
            cases named.symm.trans found
            exact fresh (unnoticed.2 _ _ sequenced)

open SampleApplication in
/-- An exclusive owner is opened over the first session, and the second session sends a request with the
identifier of that I/O connection: the packet is noted in the connection object of the I/O connection. -/
theorem request_noted_in_io_connection :
    ¬ ∀ stack : Stack configuration, Reached stack → ∀ packet before after, OwnWrite packet stack before after →
      ∀ slot, messageFields (after.object slot) ≠ messageFields (before.object slot) →
        stack.IsClass3OfSession packet.sessionHandle slot := by
  let operations : List Operation := [.acceptTcpSocket 5, .registerSession 5 1 0, .acceptTcpSocket 6,
    .registerSession 6 1 0, .forwardOpen (openIo 1 (pointToPoint 128) (pointToPoint 128) 101 102)]
  let packet := sendUnitData 2 0x12340013 1 getVendor
  let notes (stack : Stack configuration) : Bool :=
    match stack.addressed packet with
    | none => false
    | some (items, slot) =>
        messageFields ((stack.received items slot).object slot) != messageFields (stack.object slot) &&
          (stack.object slot).instanceType == .ioExclusiveOwner &&
          (stack.object slot).getTransportClass != .class3
  have run : ends operations notes = true := by decide +kernel
  obtain ⟨stack, reached, noted⟩ := exists_of_ends run
  intro confined
  cases named : stack.addressed packet with
  | none => simp [notes, named] at noted
  | some found =>
      obtain ⟨items, slot⟩ := found
      simp only [notes, named, Bool.and_eq_true, bne_iff_ne] at noted
      exact noted.2 (confined stack reached packet stack _ (.reception named) slot noted.1.1).2.1

end Stack

end EtherNetIP
