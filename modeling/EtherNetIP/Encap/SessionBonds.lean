import EtherNetIP.Encap.SessionEnd
import EtherNetIP.Encap.SocketTimers

/-! The sessions explicit connections belong to.

A connection knows its session by the handle, which is a place in the session
table. When a session ends its first class 3 connection is closed, or the one
that has timed out; any other connection stays behind with the handle, and the
place is given to the next client.
-/

set_option autoImplicit false

namespace EtherNetIP

open Library CipConnectionObject

variable {config : Configuration}

namespace Stack

variable {stack before middle after : Stack config} {slot : Slot config} {socket : Int} {handle : CipSessionHandle}
  {index : Nat}

def sessionSocket (stack : Stack config) (handle : CipSessionHandle) : Option Int :=
  stack.registeredSessions[(handle - 1).toNat]?

structure OnSession (stack : Stack config) (handle : CipSessionHandle) (slot : Slot config) : Prop where
  listed : slot ∈ stack.connectionList.toList
  explicit : slot.instanceType = .explicitMessaging
  handle : (stack.object slot).associatedEncapsulationSession = handle

structure HasOneClass3 (stack : Stack config) (handle : CipSessionHandle) : Prop where
  class3 : ∀ slot, stack.OnSession handle slot → (stack.object slot).getTransportClass = .class3
  only : ∀ first second, stack.OnSession handle first → stack.OnSession handle second → first = second

section Following

def Remain (before after : Stack config) : Prop :=
  ∀ slot ∈ after.connectionList.toList, slot ∈ before.connectionList.toList ∧
    SameConnection (before.object slot) (after.object slot)

theorem Remain.of_table (list : after.connectionList = before.connectionList) (object : after.object = before.object) :
    Remain before after := fun slot listed => ⟨list ▸ listed, by rw [object]; exact rfl⟩

theorem Remain.of_continues {spared : Slot config → Prop} (continues : Continues spared before after) :
    Remain before after := fun slot listed => ⟨continues.sublist.subset listed, continues.same slot listed⟩

theorem Remain.onSession (remain : Remain before after) (listed : slot ∈ after.connectionList.toList) :
    after.OnSession handle slot ↔ before.OnSession handle slot := by
  obtain ⟨was, same⟩ := remain slot listed
  have handles := same.eq (·.associatedEncapsulationSession) fun _ => rfl
  constructor
  · exact fun on => ⟨was, on.explicit, handles.trans on.handle⟩
  · exact fun on => ⟨listed, on.explicit, handles.symm.trans on.handle⟩

theorem Remain.hasOneClass3 (remain : Remain before after) (one : before.HasOneClass3 handle) :
    after.HasOneClass3 handle := by
  have earlier {slot : Slot config} (on : after.OnSession handle slot) : before.OnSession handle slot :=
    (remain.onSession on.listed).mp on
  constructor
  · intro slot on
    rw [← (remain slot on.listed).2.eq getTransportClass fun _ => rfl]
    exact one.class3 slot (earlier on)
  · exact fun first second firstOn secondOn => one.only first second (earlier firstOn) (earlier secondOn)

/-- A place of the session table stays as it is, or the only connection with its handle is gone. -/
structure Follows (before after : Stack config) : Prop where
  remain : Remain before after
  sessions : ∀ handle, after.sessionSocket handle = before.sessionSocket handle ∨
    (before.HasOneClass3 handle → ∀ slot, before.OnSession handle slot → slot ∉ after.connectionList.toList)

theorem Follows.of_same (same : SameSessions before after) (remain : Remain before after) : Follows before after where
  remain := remain
  sessions := fun handle => .inl (congrArg (·[(handle - 1).toNat]?) same.sessions)

theorem Follows.refl (stack : Stack config) : Follows stack stack := .of_same (.refl stack) (.of_table rfl rfl)

theorem Follows.trans (first : Follows before middle) (second : Follows middle after) : Follows before after where
  remain := fun slot listed =>
    ⟨(first.remain slot (second.remain slot listed).1).1,
      (first.remain slot (second.remain slot listed).1).2.trans (second.remain slot listed).2⟩
  sessions := by
    intro handle
    rcases first.sessions handle with kept | ended
    · rcases second.sessions handle with keptAgain | ended
      · exact .inl (keptAgain.trans kept)
      · refine .inr fun one slot on listed => ?_
        have there := (second.remain slot listed).1
        exact ended (first.remain.hasOneClass3 one) slot ((first.remain.onSession there).mpr on) listed
    · exact .inr fun one slot on listed => ended one slot on (second.remain slot listed).1

end Following

section Ending

theorem Removes.remain {gone : List (Slot config)} (removes : Removes before after gone) : Remain before after := by
  intro slot listed
  rw [removes.toList, List.mem_filter] at listed
  rw [removes.others slot (by simpa using listed.2)]
  exact ⟨listed.1, rfl⟩

theorem eq_sessionHandle (same : (handle - 1).toNat = index) : handle = sessionHandle index := by
  have back : UInt32.ofNat (handle - 1).toNat + 1 = handle := by
    rw [UInt32.ofNat_toNat, UInt32.sub_add_cancel]
  rw [sessionHandle, ← same, UInt32.ofNat_add, ← back]
  simp

theorem Shut.follows (shut : Shut socket before stack) (coherent : Coherent before) (index : Nat) :
    Settles ((stack.setRegisteredSession index kEipInvalidSocket).closeClass3ConnectionBasedOnSession
      (sessionHandle index)) (Follows before) (fun _ => True) := by
  let cleared := stack.setRegisteredSession index kEipInvalidSocket
  have list : cleared.connectionList = before.connectionList := shut.list
  have object : cleared.object = before.object := shut.object
  have clearedCoherent : Coherent cleared := coherent.of_same_table list object
  obtain ⟨after, done, removes⟩ := closeClass3ConnectionBasedOnSession_spec clearedCoherent (sessionHandle index)
  change Settles (cleared.closeClass3ConnectionBasedOnSession (sessionHandle index)) _ _
  rw [done]
  have remain : Remain before after := by
    intro slot listed
    obtain ⟨was, same⟩ := removes.remain slot listed
    rw [list] at was
    rw [object] at same
    exact ⟨was, same⟩
  have sessions : after.registeredSessions = before.registeredSessions.set index kEipInvalidSocket := by
    rw [removes.globals]
    exact congrArg (·.set index kEipInvalidSocket) shut.sessions
  refine ⟨remain, fun handle => ?_⟩
  by_cases own : (handle - 1).toNat = index
  · refine .inr fun one slot on listed => ?_
    have belongs : slot ∈ cleared.class3OfSession (sessionHandle index) := by
      rw [class3OfSession, list, object, List.mem_filter]
      refine ⟨on.listed, ?_⟩
      rw [isClass3OfSession, one.class3 slot on, on.handle, eq_sessionHandle own]
      simp
    cases session : cleared.class3OfSession (sessionHandle index) with
    | nil => simp [session] at belongs
    | cons first rest =>
        have head : first ∈ cleared.class3OfSession (sessionHandle index) := by simp [session]
        have firstOn : before.OnSession handle first := by
          have explicit := class3OfSession_explicit clearedCoherent head
          rw [class3OfSession, list, object, List.mem_filter] at head
          refine ⟨head.1, explicit, ?_⟩
          rw [eq_sessionHandle own]
          exact beq_iff_eq.mp (Bool.and_eq_true_iff.mp head.2).2
        rw [session] at removes
        rw [removes.toList, List.mem_filter, one.only slot first on firstOn] at listed
        simp at listed
  · left
    rw [sessionSocket, sessionSocket, sessions, List.getElem?_set_ne (Ne.symm own)]

theorem Shut.removeSession_follows (shut : Shut socket before stack) (coherent : Coherent before) :
    Settles (stack.removeSession socket) (Follows before) (fun _ => True) := by
  unfold Stack.removeSession
  split
  · refine ⟨.of_table shut.list shut.object, fun handle => .inl ?_⟩
    rw [sessionSocket, sessionSocket, shut.sessions]
  · exact shut.follows coherent _

theorem closeSession_follows (coherent : Coherent stack) (socket : Int) :
    Settles (stack.closeSession socket) (Follows stack) (fun _ => True) := by
  unfold closeSession
  split
  · exact .refl stack
  · exact Settles.bind (closeTcpSocket_shuts socket) fun _ shut => shut.follows coherent _

theorem closeEncapsulationSessionBySockAddr_follows (coherent : Coherent stack) (peers : Peers) (slot : Slot config) :
    Settles (closeEncapsulationSessionBySockAddr peers stack slot) (Follows stack) (fun _ => True) := by
  have walked : Settles (closeEncapsulationSessionBySockAddr peers stack slot)
      (fun after => Follows stack after ∧ Coherent after) (fun _ => True) := by
    apply foldlM_settles
    · rintro reached index ⟨follows, reachedCoherent⟩
      have visited : Settles
          (closeEncapsulationSessionVisit peers (stack.object slot).originatorAddress.sAddr reached index)
          (Follows reached) (fun _ => True) := by
        unfold closeEncapsulationSessionVisit
        split
        · trivial
        · split
          · exact closeSession_follows reachedCoherent _
          · exact .refl reached
      have aside : StandsAside (fun _ => True) reached
          (closeEncapsulationSessionVisit peers (stack.object slot).originatorAddress.sAddr reached index) :=
        closeEncapsulationSessionVisit_aside reachedCoherent peers _ index
      apply (visited.both aside).mono
      exact fun after both => ⟨follows.trans both.1, both.2.coherent reachedCoherent⟩
    · exact ⟨.refl stack, coherent⟩
  exact walked.mono fun _ => And.left

theorem checkEncapsulationInactivity_follows (coherent : Coherent stack) (socket : Int) :
    Settles (stack.checkEncapsulationInactivity socket) (Follows stack) (fun _ => True) := by
  unfold checkEncapsulationInactivity
  split
  · obtain ⟨closed, done, removes⟩ :=
      closeClass3ConnectionBasedOnSession_spec coherent (stack.getSessionFromSocket socket)
    dsimp only
    rw [done, ok_bind]
    apply Settles.bind (closeTcpSocket_shuts socket)
    intro cleared shut
    apply (shut.removeSession_follows (coherent.removes removes)).mono
    exact fun _ => (Follows.of_same (.of_removes removes) removes.remain).trans
  · exact .refl stack

theorem unregisterSession_follows (coherent : Coherent stack) (handle : CipSessionHandle) :
    Settles (stack.handleReceivedUnregisterSessionCommand handle) (fun answered => Follows stack answered.2)
      (fun _ => True) := by
  unfold handleReceivedUnregisterSessionCommand
  split
  · dsimp only
    split
    · trivial
    · split
      · exact .refl stack
      · apply Settles.bind (closeTcpSocket_shuts _)
        intro closed shut
        apply Settles.bind (shut.follows coherent _)
        exact fun _ follows => follows
  · exact .refl stack

/-- A connection that has timed out takes its session along, if it is the last one of its originator. -/
theorem class3ConnectionTimeoutHandler_follows (coherent : Coherent stack)
    (listed : slot ∈ stack.connectionList.toList) (explicit : slot.instanceType = .explicitMessaging) :
    Settles (stack.class3ConnectionTimeoutHandler slot) (Follows stack) (fun _ => True) := by
  have closes := (opened_explicit coherent listed explicit).closeFunction
  unfold class3ConnectionTimeoutHandler checkForTimedOutConnectionsAndCloseTCPConnections
  dsimp only
  split
  · have removes := closeConnection_removes coherent.distinct closes
    exact Follows.of_same (.of_removes removes) removes.remain
  · unfold closeSessionBySessionHandle
    dsimp only
    split
    · trivial
    · rename_i socket found
      have shuts : Settles (stack.closeTcpSocket socket) (Shut socket stack) fun _ => True := closeTcpSocket_shuts socket
      cases done : stack.closeTcpSocket socket with
      | error fault => trivial
      | ok closed =>
          have shut := shuts.returns done
          let index := ((stack.object slot).associatedEncapsulationSession - 1).toNat
          let ended := closed.setRegisteredSession index kEipInvalidSocket
          have list : ended.connectionList = stack.connectionList := shut.list
          have object : ended.object = stack.object := shut.object
          have endedCoherent : Coherent ended := coherent.of_same_table list object
          have removes : Removes ended (ended.closeConnection slot) [slot] :=
            closeConnection_removes endedCoherent.distinct (by rw [object]; exact closes)
          have remain : Remain stack (ended.closeConnection slot) := by
            intro other still
            obtain ⟨was, same⟩ := removes.remain other still
            rw [list] at was
            rw [object] at same
            exact ⟨was, same⟩
          have sessions : (ended.closeConnection slot).registeredSessions =
              stack.registeredSessions.set index kEipInvalidSocket := by
            rw [removes.globals]
            exact congrArg (·.set index kEipInvalidSocket) shut.sessions
          change Follows stack (ended.closeConnection slot)
          refine ⟨remain, fun handle => ?_⟩
          -- of its own session it was the only connection; other sessions are not touched
          by_cases own : (handle - 1).toNat = index
          · refine .inr fun one other on still => ?_
            have same : (stack.object slot).associatedEncapsulationSession = handle :=
              (eq_sessionHandle rfl).trans (eq_sessionHandle own).symm
            rw [one.only other slot on ⟨listed, explicit, same⟩, removes.toList, List.mem_filter] at still
            simp at still
          · left
            rw [sessionSocket, sessionSocket, sessions, List.getElem?_set_ne (Ne.symm own)]

end Ending

section Tick

variable {peers : Peers} {elapsedTime : MilliSeconds}

theorem closeSessionsOnTimeOut_follows (coherent : Coherent stack) :
    Settles (stack.closeSessionsOnTimeOut peers slot) (Follows stack) (fun _ => True) := by
  unfold closeSessionsOnTimeOut checkForTimedOutConnectionsAndCloseTCPConnections
  split
  · dsimp only
    split
    · exact .refl stack
    · exact closeEncapsulationSessionBySockAddr_follows coherent peers slot
  · exact .refl stack

theorem handleIoConnectionTimeOut_follows (coherent : Coherent stack)
    (established : (stack.object slot).state = .established) (io : slot.instanceType ≠ .explicitMessaging) :
    Settles (stack.handleIoConnectionTimeOut peers slot) (Follows stack) (fun _ => True) := by
  have listed := (coherent.mem_iff slot).mpr (.inl established)
  have timing : Continues (· = slot) stack (stack.timingOut slot) := timingOut_continues coherent listed io
  have waiting : Follows stack (stack.timingOut slot) := .of_same ⟨rfl, rfl⟩ (.of_continues timing)
  have timingObject : (stack.timingOut slot).object slot = (stack.object slot).setState .timedOut := by
    unfold timingOut modifyObject
    dsimp only
    rw [setObject_objects, Function.update_self]
    rfl
  have aside : StandsAside (fun _ => False) (stack.timingOut slot)
      ((stack.timingOut slot).closeSessionsOnTimeOut peers slot) := closeSessionsOnTimeOut_aside timing.coherent
  unfold handleIoConnectionTimeOut
  apply Settles.bind ((closeSessionsOnTimeOut_follows timing.coherent).both aside)
  rintro ended ⟨ending, aside⟩
  have endedCoherent := aside.coherent timing.coherent
  have endedObject := (aside.object_eq io).trans timingObject
  have endedListed := (aside.mem_iff io).mpr (timing.spares slot listed rfl)
  apply Settles.bind (handOver_handedOn endedCoherent (congrArg (·.instanceType) endedObject)
    (congrArg (·.getTToOConnectionType) endedObject))
  rintro ⟨handed, handover⟩ handedOn
  have continues := handedOn.continues endedCoherent endedListed
  have handedListed := continues.spares slot endedListed rfl
  have type := (coherent.opened slot listed).instanceType
  have closing := closeDependentsOnTimeOut_closes continues.coherent handedListed type.symm handover
  apply Settles.bind (closing.imp (fun _ => id) fun _ _ => trivial)
  intro closed dependents
  have closedContinues : Continues (· = slot) handed closed := dependents.continues continues.coherent
  have still := closedContinues.spares slot handedListed rfl
  have finished : Continues (· = slot) closed (closed.modifyObject slot (·.setState .timedOut)) :=
    setTimedOut_continues closedContinues.coherent still io
  have same : SameSessions ended (closed.modifyObject slot (·.setState .timedOut)) :=
    ((SameSessions.of_handedOn handedOn).trans (.of_dependents dependents)).trans ⟨rfl, rfl⟩
  exact (waiting.trans ending).trans (.of_same same (.of_continues ((continues.trans closedContinues).trans finished)))

theorem checkInactivityWatchdog_follows (coherent : Coherent stack)
    (established : (stack.object slot).state = .established) :
    Settles (checkInactivityWatchdog peers elapsedTime stack slot) (Follows stack) (fun _ => True) := by
  have listed := (coherent.mem_iff slot).mpr (.inl established)
  unfold checkInactivityWatchdog
  split
  · split
    · unfold connectionTimeoutFunction
      split
      · trivial
      · rename_i handler
        refine class3ConnectionTimeoutHandler_follows coherent listed ?_
        cases slot with
        | explicit i => rfl
        | exclusiveOwner i | inputOnly i j | listenOnly i j =>
            have opened := coherent.opened _ listed
            rw [OpenedIo.timeoutFunction opened] at handler
            cases handler
      · rename_i handler
        refine handleIoConnectionTimeOut_follows coherent established fun explicit => ?_
        rw [(opened_explicit coherent listed explicit).timeoutFunction] at handler
        cases handler
    · have counting : Continues (fun _ => False) stack
          (stack.modifyObject slot (decrementWatchdogTimers elapsedTime)) := by
        have counted : Evolves (fun _ => False) (fun _ _ => False) stack
            (stack.modifyObject slot (decrementWatchdogTimers elapsedTime)) :=
          evolves_of_counted (.quiet rfl rfl rfl rfl)
        exact counted.continues coherent
      exact .of_same ⟨rfl, rfl⟩ (.of_continues counting)
  · exact .refl stack

theorem serve_follows (coherent : Coherent stack) :
    Settles (serve peers elapsedTime stack slot) (Follows stack) (fun _ => True) := by
  unfold serve
  split
  · rename_i established
    have checking : Proceeds (fun _ => False) (fun _ _ => False) stack
        (checkInactivityWatchdog peers elapsedTime stack slot) := checkInactivityWatchdog_proceeds coherent established
    apply Settles.bind ((checkInactivityWatchdog_follows coherent established).both
      (checking.imp (fun _ => id) fun _ _ => trivial))
    rintro checked ⟨follows, evolves⟩
    have checkedCoherent := (evolves.continues coherent).coherent
    have producing : Proceeds (fun _ => False) (fun _ _ => False) checked (produce elapsedTime checked slot) :=
      produce_proceeds
    apply (produce_sessions.both (producing.imp (fun _ => id) fun _ _ => trivial)).mono
    exact fun after both => follows.trans (.of_same both.1 (.of_continues (both.2.continues checkedCoherent)))
  · exact .refl stack

theorem manageConnections_follows (coherent : Coherent stack) :
    Settles (manageConnections peers elapsedTime stack) (Follows stack) (fun _ => True) := by
  have managed : Aside (fun _ => True) stack (stack.manageEncapsulationMessages elapsedTime) :=
    manageEncapsulationMessages_aside
  have walked : Settles (manageConnections peers elapsedTime stack)
      (fun after => Follows stack after ∧ Coherent after) (fun _ => True) := by
    apply walk_settles fun _ reached => Follows stack reached ∧ Coherent reached
    · rintro node reached ⟨follows, reachedCoherent⟩
      unfold manageConnectionsVisit
      split
      · trivial
      · rename_i connection _
        have served : Proceeds (fun _ => True) (fun _ _ => True) reached (serve peers elapsedTime reached connection) :=
          serve_proceeds reachedCoherent
        apply ((serve_follows reachedCoherent).both (served.imp (fun _ => id) fun _ _ => trivial)).bind
        exact fun after both => ⟨follows.trans both.1, (both.2.continues reachedCoherent).coherent⟩
    · trivial
    · exact ⟨.of_same ⟨rfl, rfl⟩ (.of_table rfl rfl), managed.coherent coherent⟩
  exact walked.mono fun _ => And.left

end Tick

section Bonds

theorem step_follows (intact : Intact stack) {operation : Operation} (other : operation.openRequest = none)
    (unregistered : ∀ socket protocolVersion optionFlag,
      operation ≠ .registerSession socket protocolVersion optionFlag) :
    Settles (stack.step operation) (Follows stack) (fun _ => True) := by
  have coherent := intact.coherent
  have proceeds := step_proceeds coherent other
  have kept (keeps : KeepsSessions stack (stack.step operation)) :
      Settles (stack.step operation) (Follows stack) (fun _ => True) := by
    apply (keeps.both (proceeds.imp (fun _ => id) fun _ _ => trivial)).mono
    exact fun after both => .of_same both.1 (.of_continues (both.2.continues coherent))
  cases operation with
  | registerSession socket protocolVersion optionFlag => exact absurd rfl (unregistered socket protocolVersion optionFlag)
  | forwardOpen request | largeForwardOpen request => cases other
  | tcpSocketClosed socket =>
      exact Settles.bind (removeSocketTimerFromList_shuts socket) fun _ shut => shut.removeSession_follows coherent
  | tcpSocketFailed socket =>
      exact Settles.bind (closeTcpSocket_shuts socket) fun _ shut => shut.removeSession_follows coherent
  | unregisterSession handle => exact settles_map_snd (unregisterSession_follows coherent handle)
  | checkEncapsulationInactivity socket => exact checkEncapsulationInactivity_follows coherent socket
  | manageConnections peers elapsedTime => exact manageConnections_follows coherent
  | forwardClose request => exact kept (forwardClose_sessions coherent request)
  | receiveConnectedData received => exact kept (handleReceivedConnectedData_sessions received)
  | connectedMessageReceived addressInfoItems connectionIdentifier sequenceCount =>
      exact kept (receiveConnectedMessage_sessions addressInfoItems connectionIdentifier sequenceCount)
  | resetDevice => exact kept (closeAllConnections_sessions coherent)
  | acceptTcpSocket socket =>
      apply kept
      change Settles (stack.acceptTcpSocket socket) _ _
      unfold acceptTcpSocket
      split
      · trivial
      · exact SameSessions.mk rfl rfl
  | receiveOnTcpSocket socket =>
      refine ⟨.of_continues ((proceeds.returns rfl).continues coherent), fun handle => .inl ?_⟩
      rw [sessionSocket, sessionSocket, updateSocketTimer]
      split <;> rfl
  | connectedReplyStored place reply | otherServiceExecuted assemblyData encapsulationInactivityTimeout
  | setDeviceStatus status | passTime actualTime =>
      exact .of_same ⟨rfl, rfl⟩ (.of_continues ((proceeds.returns rfl).continues coherent))

/-- A session an operation ends has one explicit connection at most, of transport class 3. -/
def EndsOneByOne (stack : Stack config) (operation : Operation) : Prop :=
  ∀ after, stack.step operation = .ok after → ∀ handle, stack.sessionSocket handle ≠ some kEipInvalidSocket →
    after.sessionSocket handle ≠ stack.sessionSocket handle → stack.HasOneClass3 handle

/-- A Forward Open comes over a registered session, as the encapsulation layer has checked. -/
def OpensOverSession (stack : Stack config) (operation : Operation) : Prop :=
  ∀ isLfo request, operation.openRequest = some (isLfo, request) →
    stack.checkRegisteredSessions request.encapsulationSession = true

def KeepsBonds (stack : Stack config) (operation : Operation) : Prop :=
  stack.EndsOneByOne operation ∧ stack.OpensOverSession operation

def Bound (stack : Stack config) (slot : Slot config) : Prop :=
  ∃ socket, stack.sessionSocket (stack.object slot).associatedEncapsulationSession = some socket ∧
    socket ≠ kEipInvalidSocket

def AllBound (stack : Stack config) : Prop :=
  ∀ slot ∈ stack.connectionList.toList, slot.instanceType = .explicitMessaging → stack.Bound slot

theorem sessionSocket_of_checked (checked : stack.checkRegisteredSessions handle = true) :
    ∃ socket, stack.sessionSocket handle = some socket ∧ socket ≠ kEipInvalidSocket := by
  unfold checkRegisteredSessions at checked
  rw [Bool.and_eq_true] at checked
  obtain ⟨_, entry⟩ := checked
  split at entry
  · cases entry
  · rename_i socket found
    exact ⟨socket, found, by simpa using entry⟩

/-- What has become of an explicit connection behind an operation: it has kept its session, or it is new and has one. -/
def BondKept (before after : Stack config) (slot : Slot config) : Prop :=
  slot ∈ before.connectionList.toList ∧
      (after.object slot).associatedEncapsulationSession = (before.object slot).associatedEncapsulationSession ∧
      after.sessionSocket (before.object slot).associatedEncapsulationSession =
        before.sessionSocket (before.object slot).associatedEncapsulationSession ∨
    slot ∉ before.connectionList.toList ∧ after.Bound slot

theorem forwardOpenRoutine_bonds (intact : Intact before) {isLfo : Bool} {request : Request} {response : Response}
    (answered : before.forwardOpenRoutine isLfo request = .ok (response, after))
    (checked : before.checkRegisteredSessions request.encapsulationSession = true)
    (listed : slot ∈ after.connectionList.toList) (explicit : slot.instanceType = .explicitMessaging) :
    BondKept before after slot := by
  have same : SameSessions before after := by
    have keeps := forwardOpenRoutine_sessions intact isLfo request
    rw [answered] at keeps
    exact keeps
  have sockets (handle : CipSessionHandle) : after.sessionSocket handle = before.sessionSocket handle :=
    congrArg (·[(handle - 1).toNat]?) same.sessions
  have remains (was : slot ∈ before.connectionList.toList)
      (constant : SameConnection (before.object slot) (after.object slot)) : BondKept before after slot :=
    .inl ⟨was, (constant.eq (·.associatedEncapsulationSession) fun _ => rfl).symm, sockets _⟩
  cases forwardOpenRoutine_ok intact answered with
  | refused failure leaves => exact remains (leaves.continues.sublist.subset listed) (leaves.continues.same slot listed)
  | accepted asked admission opened head first reply =>
      obtain ⟨⟨table, _, pristine⟩, _⟩ := admitted_spec intact.pristine admission
      have coherent : Coherent asked := intact.coherent.of_same_table table.1 table.2
      have session : asked.dummy.associatedEncapsulationSession = request.encapsulationSession :=
        admitted_reads admission (·.associatedEncapsulationSession) (fun _ => rfl) fun _ _ => rfl
      have entering {own : Slot config} (entered : Entered asked after own)
          (absent : slot = own → slot ∉ asked.connectionList.toList) : BondKept before after slot := by
        obtain ⟨rest, list, _, sublist⟩ := entered.list
        rw [list, List.mem_cons] at listed
        -- the new connection has the session of the request, which has been checked
        by_cases new : slot = own
        · have away := absent new
          subst new
          refine .inr ⟨table.1 ▸ away, ?_⟩
          have handle : (after.object slot).associatedEncapsulationSession = request.encapsulationSession :=
            (entered.serves.eq (·.associatedEncapsulationSession) fun _ => rfl).symm.trans session
          rw [Bound, handle, sockets]
          exact sessionSocket_of_checked checked
        · have was : slot ∈ before.connectionList.toList := table.1 ▸ sublist.subset (listed.resolve_left new)
          have constant := entered.same slot (by rw [list, List.mem_cons]; exact listed) new
          rw [table.2] at constant
          exact remains was constant
      cases opened with
      | nothing entry same =>
          subst same
          exact remains (table.1 ▸ listed) (by rw [table.2]; exact rfl)
      | explicit entry own connectionList opened =>
          refine entering (opened.entered coherent) fun new was => ?_
          rw [new, coherent.mem_iff, (getFreeExplicitConnection_spec opened.free).2] at was
          simp at was
      | io entry opening ends =>
          refine entering (ends.entered coherent pristine) fun new => ?_
          exact absurd (new ▸ explicit) (chooseIoConnection_io ends.chosen)

theorem registerSession_sockets (stack : Stack config) (socket : Int) (protocolVersion optionFlag : UInt16) :
    Settles (stack.handleReceivedRegisterSessionCommand socket protocolVersion optionFlag)
      (fun answered => ∀ handle, answered.2.sessionSocket handle = stack.sessionSocket handle ∨
        stack.sessionSocket handle = some kEipInvalidSocket) (fun _ => True) := by
  have kept (handle : CipSessionHandle) : stack.sessionSocket handle = stack.sessionSocket handle ∨
      stack.sessionSocket handle = some kEipInvalidSocket := .inl rfl
  unfold handleReceivedRegisterSessionCommand getFreeSessionIndex
  split
  · split
    · exact kept
    · cases found : stack.registeredSessions.findIdx? (· == kEipInvalidSocket) with
      | none => exact kept
      | some index =>
          dsimp only
          split
          · trivial
          · intro handle
            by_cases own : (handle - 1).toNat = index
            · refine .inr ?_
              rw [sessionSocket, own]
              exact getElem?_of_findIdx? found
            · exact .inl (List.getElem?_set_ne (Ne.symm own))
  · exact kept

theorem bondKept_of_step (intact : Intact before) (bound : before.AllBound) {operation : Operation}
    (keeps : before.KeepsBonds operation) (done : before.step operation = .ok after)
    (listed : slot ∈ after.connectionList.toList) (explicit : slot.instanceType = .explicitMessaging) :
    BondKept before after slot := by
  cases opens : operation.openRequest with
  | some asking =>
      obtain ⟨isLfo, request⟩ := asking
      have checked := keeps.2 isLfo request opens
      rw [step_openRequest opens] at done
      cases answered : before.forwardOpenRoutine isLfo request with
      | error fault =>
          rw [answered] at done
          cases done
      | ok result =>
          obtain ⟨response, left⟩ := result
          rw [answered] at done
          cases done
          exact forwardOpenRoutine_bonds intact answered checked listed explicit
  | none =>
      have continues := ((step_proceeds intact.coherent opens).returns done).continues intact.coherent
      have was := continues.sublist.subset listed
      have handle : (after.object slot).associatedEncapsulationSession =
          (before.object slot).associatedEncapsulationSession :=
        ((continues.same slot listed).eq (·.associatedEncapsulationSession) fun _ => rfl).symm
      obtain ⟨socket, valid, registered⟩ := bound slot was explicit
      refine .inl ⟨was, handle, ?_⟩
      -- a registration writes a free place; all else can only end a session
      by_cases registers : ∃ socket protocolVersion optionFlag,
          operation = .registerSession socket protocolVersion optionFlag
      · obtain ⟨newSocket, protocolVersion, optionFlag, rfl⟩ := registers
        have settles : Settles
            ((before.handleReceivedRegisterSessionCommand newSocket protocolVersion optionFlag).map Prod.snd)
            (fun left => ∀ handle, left.sessionSocket handle = before.sessionSocket handle ∨
              before.sessionSocket handle = some kEipInvalidSocket) (fun _ => True) :=
          settles_map_snd (registerSession_sockets before newSocket protocolVersion optionFlag)
        rcases settles.returns done (before.object slot).associatedEncapsulationSession with kept | free
        · exact kept
        · rw [valid] at free
          exact absurd (Option.some.inj free) registered
      · push Not at registers
        rcases ((step_follows intact opens registers).returns done).sessions
          (before.object slot).associatedEncapsulationSession with kept | ended
        · exact kept
        · by_contra changed
          have one := keeps.1 after done _ (by rw [valid]; simpa using registered) changed
          exact ended one slot ⟨was, explicit, rfl⟩ listed

theorem AllBound.step (intact : Intact before) (bound : before.AllBound) {operation : Operation}
    (keeps : before.KeepsBonds operation) (done : before.step operation = .ok after) : after.AllBound := by
  intro slot listed explicit
  rcases bondKept_of_step intact bound keeps done listed explicit with ⟨was, handle, session⟩ | ⟨_, new⟩
  · obtain ⟨socket, valid, registered⟩ := bound slot was explicit
    exact ⟨socket, by rw [handle, session]; exact valid, registered⟩
  · exact new

/-- The connection has been opened by an operation of the run. Since then it has been listed, and the place of its
handle that of one registered socket. -/
def SameSessionSinceOpening (initial : Stack config) (operations : List Operation) (count : Nat) (slot : Slot config) :
    Prop :=
  ∃ opening socket, opening < count ∧ socket ≠ kEipInvalidSocket ∧
    (∀ before, (operations.take opening).foldlM step initial = .ok before → slot ∉ before.connectionList.toList) ∧
    ∀ later, opening < later → later ≤ count → ∀ stack, (operations.take later).foldlM step initial = .ok stack →
      slot ∈ stack.connectionList.toList ∧
        stack.sessionSocket (stack.object slot).associatedEncapsulationSession = some socket

def EndsOwnSession (stack : Stack config) (slot : Slot config) : Prop :=
  ∀ after, stack.class3ConnectionTimeoutHandler slot = .ok after →
    ∀ handle, handle ≠ (stack.object slot).associatedEncapsulationSession →
      after.sessionSocket handle = stack.sessionSocket handle

theorem endsOwnSession (stack : Stack config) (slot : Slot config) : stack.EndsOwnSession slot := by
  intro after done handle other
  unfold class3ConnectionTimeoutHandler checkForTimedOutConnectionsAndCloseTCPConnections at done
  dsimp only at done
  split at done
  · cases done
    exact congrArg (·[(handle - 1).toNat]?) closeConnection_sessions.sessions
  · obtain ⟨closed, ended, finish⟩ := bind_eq_ok.mp done
    cases finish
    unfold closeSessionBySessionHandle at ended
    dsimp only at ended
    split at ended
    · cases ended
    · obtain ⟨shut, closing, finish⟩ := bind_eq_ok.mp ended
      cases finish
      have sessions : shut.registeredSessions = stack.registeredSessions := ((closeTcpSocket_shuts _).returns closing).sessions
      rw [sessionSocket, closeConnection_sessions.sessions, setRegisteredSession, sessions, sessionSocket]
      refine List.getElem?_set_ne fun same => other ?_
      exact (eq_sessionHandle same.symm).trans (eq_sessionHandle rfl).symm

/-- In a run that ends sessions one by one every explicit connection has the session it was opened over, and takes
no other along when it times out. -/
theorem explicit_sessions_last (assemblyData : CipInstanceNum → List CipOctet) (timeout : UInt16)
    (operations : List Operation)
    (along : Along step KeepsBonds (Stack.initialized config assemblyData timeout) operations) :
    ∀ count reached, (operations.take count).foldlM step (Stack.initialized config assemblyData timeout) = .ok reached →
      ∀ slot ∈ reached.connectionList.toList, slot.instanceType = .explicitMessaging →
        SameSessionSinceOpening (Stack.initialized config assemblyData timeout) operations count slot ∧
          reached.EndsOwnSession slot := by
  let initial : Stack config := Stack.initialized config assemblyData timeout
  have intact (count : Nat) (reached : Stack config)
      (run : (operations.take count).foldlM step initial = .ok reached) : Intact reached :=
    Reached.intact ⟨assemblyData, timeout, operations.take count, run⟩
  have keeps := along_iff_forall.mp along
  have bound (count : Nat) (reached : Stack config)
      (run : (operations.take count).foldlM step initial = .ok reached) : reached.AllBound := by
    induction count generalizing reached with
    | zero =>
        cases run
        intro slot listed
        simp [initial, Stack.initialized] at listed
    | succ count ih =>
        rcases take_succ_cases run with ⟨ended, _⟩ | ⟨before, operation, performed, earlier, done⟩
        · exact ih reached ended
        · exact (ih before earlier).step (intact count before earlier) (keeps count operation before performed earlier) done
  intro count reached run slot listed explicit
  refine ⟨?_, reached.endsOwnSession slot⟩
  induction count generalizing reached with
  | zero =>
      cases run
      simp [Stack.initialized] at listed
  | succ count ih =>
      rcases take_succ_cases run with ⟨ended, short⟩ | ⟨before, operation, performed, earlier, done⟩
      · obtain ⟨opening, socket, earlier, registered, absent, since⟩ := ih reached ended listed
        refine ⟨opening, socket, Nat.lt_succ_of_lt earlier, registered, absent, fun later behind upTo stack at_ => ?_⟩
        by_cases last : later ≤ count
        · exact since later behind last stack at_
        · rw [List.take_of_length_le (by omega), ← List.take_of_length_le short] at at_
          exact since count earlier le_rfl stack at_
      · have kept := bondKept_of_step (intact count before earlier) (bound count before earlier)
          (keeps count operation before performed earlier) done listed explicit
        -- it was listed before the step and has kept its session, or the step opened it
        rcases kept with ⟨was, handle, session⟩ | ⟨absent, socket, valid, registered⟩
        · obtain ⟨opening, socket, started, registered, absent, since⟩ := ih before earlier was
          refine ⟨opening, socket, Nat.lt_succ_of_lt started, registered, absent, fun later behind upTo stack at_ => ?_⟩
          by_cases last : later ≤ count
          · exact since later behind last stack at_
          · rw [show later = count + 1 by omega, run] at at_
            cases at_
            rw [handle, session]
            exact ⟨listed, (since count started le_rfl before earlier).2⟩
        · refine ⟨count, socket, Nat.lt_succ_self count, registered, fun other at_ => ?_, fun later behind upTo stack at_ => ?_⟩
          · rw [earlier] at at_
            cases at_
            exact absent
          · rw [show later = count + 1 by omega, run] at at_
            cases at_
            exact ⟨listed, valid⟩

section Clients

open SampleApplication

/-- Explicit connections have transport class 3 and different handles, and are opened over registered sessions. -/
def keepsBondsTest (stack : Stack config) (operation : Operation) : Bool :=
  decide (∀ slot ∈ stack.connectionList.toList, slot.instanceType = .explicitMessaging →
    (stack.object slot).getTransportClass = .class3 ∧
      ∀ other ∈ stack.connectionList.toList, other.instanceType = .explicitMessaging →
        (stack.object slot).associatedEncapsulationSession = (stack.object other).associatedEncapsulationSession →
        slot = other) &&
    match operation.openRequest with
    | none => true
    | some asking => stack.checkRegisteredSessions asking.2.encapsulationSession

theorem keepsBonds_of_test {operation : Operation} (passes : stack.keepsBondsTest operation = true) :
    stack.KeepsBonds operation := by
  rw [keepsBondsTest, Bool.and_eq_true] at passes
  obtain ⟨apart, opens⟩ := passes
  have apart := of_decide_eq_true apart
  refine ⟨fun _ _ handle _ _ => ⟨fun slot on => (apart slot on.listed on.explicit).1, fun first second firstOn secondOn => ?_⟩,
    fun isLfo request asks => ?_⟩
  · have handles := firstOn.handle.trans secondOn.handle.symm
    exact (apart first firstOn.listed firstOn.explicit).2 second secondOn.listed secondOn.explicit handles
  · rw [asks] at opens
    exact opens

def clientAfterClient : List Operation :=
  registerAndOpen [1] ++ [.tcpSocketClosed 5, .acceptTcpSocket 6, .registerSession 6 1 0, .forwardOpen (openExplicit 2)]

theorem client_after_client :
    ∃ reached : Stack configuration, clientAfterClient.foldlM step (start configuration) = .ok reached ∧
      ∃ slot ∈ reached.connectionList.toList,
        SameSessionSinceOpening (start configuration) clientAfterClient clientAfterClient.length slot ∧
          reached.EndsOwnSession slot := by
  have run : ends clientAfterClient (fun reached : Stack configuration =>
      decide (∃ slot ∈ reached.connectionList.toList, slot.instanceType = .explicitMessaging)) = true := by decide +kernel
  have along : testAlong step keepsBondsTest (start configuration) clientAfterClient = true := by decide +kernel
  obtain ⟨reached, done, passed⟩ := run_of_ends run
  obtain ⟨slot, listed, explicit⟩ := of_decide_eq_true passed
  refine ⟨reached, done, slot, listed, ?_⟩
  exact explicit_sessions_last _ _ clientAfterClient (.of_test (fun _ _ => keepsBonds_of_test) along)
    clientAfterClient.length reached (by rw [List.take_length]; exact done) slot listed explicit

def connectionLeftBehind : List Operation :=
  registerAndOpen [1, 2] ++ [.tcpSocketClosed 5, .registerSession 6 1 0]

/-- The connection left behind has the session of another client, which ends when the connection times out. -/
theorem connection_outlives_session :
    ∃ reached : Stack configuration, connectionLeftBehind.foldlM step (start configuration) = .ok reached ∧
      reached.sessionSocket 1 = some 6 ∧
      (∃ slot ∈ reached.connectionList.toList, slot.instanceType = .explicitMessaging ∧
        (reached.object slot).state = .established ∧
        ¬ SameSessionSinceOpening (start configuration) connectionLeftBehind connectionLeftBehind.length slot) ∧
      ∃ after, reached.step timeOut = .ok after ∧ after.sessionSocket 1 = some kEipInvalidSocket := by
  let slot : Slot configuration := .explicit ⟨0, by decide⟩
  have before : ends (connectionLeftBehind.take 5) (fun stack : Stack configuration =>
      decide (slot ∈ stack.connectionList.toList ∧ (stack.object slot).associatedEncapsulationSession = 1 ∧
        stack.sessionSocket 1 = some kEipInvalidSocket)) = true := by decide +kernel
  have run : ends connectionLeftBehind (fun stack : Stack configuration =>
      decide (slot ∈ stack.connectionList.toList ∧ (stack.object slot).state = .established ∧
        stack.sessionSocket 1 = some 6) && (stack.step timeOut).toOption.any fun after =>
          decide (after.sessionSocket 1 = some kEipInvalidSocket)) = true := by decide +kernel
  obtain ⟨earlier, earlierRun, passed⟩ := run_of_ends before
  obtain ⟨was, handle, ended⟩ := of_decide_eq_true passed
  obtain ⟨reached, done, passes⟩ := run_of_ends run
  rw [Bool.and_eq_true] at passes
  obtain ⟨listed, established, next⟩ := of_decide_eq_true passes.1
  have timedOut := passes.2
  refine ⟨reached, done, next, ⟨slot, listed, rfl, established, ?_⟩, ?_⟩
  · rintro ⟨opening, socket, started, registered, absent, since⟩
    have length : connectionLeftBehind.length = 6 := rfl
    rw [length] at started since
    by_cases last : opening = 5
    · exact absent earlier (last ▸ earlierRun) was
    · have entry := (since 5 (by omega) (by decide) earlier earlierRun).2
      rw [handle, ended] at entry
      exact registered (Option.some.inj entry).symm
  · cases stepped : reached.step timeOut with
    | error fault =>
        rw [stepped] at timedOut
        cases timedOut
    | ok after =>
        rw [stepped] at timedOut
        exact ⟨after, rfl, of_decide_eq_true timedOut⟩

end Clients

end Bonds

end Stack

end EtherNetIP
