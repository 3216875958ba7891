import EtherNetIP.Encap.SessionTables
import EtherNetIP.SampleApplication

/-! Sessions and socket timers.

A session is given a socket timer when it is registered, not when its client
connects. Whoever ends a session clears the timer of its socket as well, so the
two tables hold the same sockets at any time.
-/

set_option autoImplicit false

namespace EtherNetIP

open Library CipConnectionObject

variable {config : Configuration}

namespace Stack

variable {stack before after : Stack config} {slot : Slot config} {socket : Int} {left : List Int} {index : Nat}

def timedSockets (stack : Stack config) : List Int := stack.timestamps.map (·.socket)

/-- A socket with a session has a timer and the other way round, and no socket has two of either. -/
def Timed (stack : Stack config) : Prop := Paired kEipInvalidSocket stack.timedSockets stack.registeredSessions

structure TablesHold (stack : Stack config) : Prop where
  timed : Timed stack
  whole : stack.registeredSessions.length = config.numberOfSupportedSessions

theorem TablesHold.initialized (assemblyData : CipInstanceNum → List CipOctet) (timeout : UInt16) :
    TablesHold (Stack.initialized config assemblyData timeout) where
  timed := by
    unfold Timed timedSockets Stack.initialized
    rw [List.map_replicate]
    exact Paired.replicate kEipInvalidSocket _
  whole := List.length_replicate

theorem TablesHold.of_same (tables : TablesHold before) (same : SameSessions before after) : TablesHold after where
  timed := by
    unfold Timed timedSockets
    rw [same.timers, same.sessions]
    exact tables.timed
  whole := by
    rw [same.sessions]
    exact tables.whole

theorem TablesHold.kept {computation : Except Fault (Stack config)} (tables : TablesHold stack)
    (keeps : KeepsSessions stack computation) : Settles computation TablesHold (fun _ => True) :=
  keeps.mono fun _ => tables.of_same

section Closing

/-- The timers of the socket have been cleared, but not its session; the connections have not been touched. -/
structure Shut (socket : Int) (before after : Stack config) : Prop where
  list : after.connectionList = before.connectionList
  object : after.object = before.object
  timers : after.timedSockets = vacate kEipInvalidSocket socket before.timedSockets
  sessions : after.registeredSessions = before.registeredSessions

theorem removeSocketTimerFromList_shuts (socket : Int) :
    Settles (stack.removeSocketTimerFromList socket) (Shut socket stack) (fun _ => True) := by
  unfold removeSocketTimerFromList
  split
  · trivial
  · refine ⟨rfl, rfl, ?_, rfl⟩
    simp only [timedSockets, vacate, List.map_map]
    apply List.map_congr_left
    intro timer _
    simp only [Function.comp_apply]
    split <;> rfl

theorem closeTcpSocket_shuts (socket : Int) :
    Settles (stack.closeTcpSocket socket) (Shut socket stack) (fun _ => True) := by
  unfold closeTcpSocket
  apply Settles.bind (removeSocketTimerFromList_shuts socket)
  intro cleared shut
  change Shut socket stack (cleared.closeSocket socket)
  rw [closeSocket_globals]
  exact ⟨shut.list, shut.object, shut.timers, shut.sessions⟩

theorem Shut.coherent (shut : Shut socket before stack) (coherent : Coherent before) : Coherent stack :=
  coherent.of_same_table shut.list shut.object

theorem clearSession_sessions (coherent : Coherent stack) (index : Nat) :
    KeepsSessions (stack.setRegisteredSession index kEipInvalidSocket)
      ((stack.setRegisteredSession index kEipInvalidSocket).closeClass3ConnectionBasedOnSession
        (sessionHandle index)) := by
  have cleared : Coherent (stack.setRegisteredSession index kEipInvalidSocket) := coherent.of_same_table rfl rfl
  obtain ⟨after, done, removes⟩ := closeClass3ConnectionBasedOnSession_spec cleared (sessionHandle index)
  rw [done]
  exact SameSessions.of_removes removes

theorem Shut.setRegisteredSession (shut : Shut socket before stack) (tables : TablesHold before)
    (found : before.registeredSessions[index]? = some socket) :
    TablesHold (stack.setRegisteredSession index kEipInvalidSocket) := by
  constructor
  · change Paired _ stack.timedSockets (stack.registeredSessions.set index kEipInvalidSocket)
    rw [shut.timers, shut.sessions]
    exact Paired.release tables.timed found
  · change (stack.registeredSessions.set index kEipInvalidSocket).length = _
    rw [List.length_set, shut.sessions]
    exact tables.whole

theorem getElem?_of_findIdx? {table : List Int} (found : table.findIdx? (· == socket) = some index) :
    table[index]? = some socket := by
  obtain ⟨within, same, _⟩ := List.findIdx?_eq_some_iff_getElem.mp found
  rw [List.getElem?_eq_getElem within]
  simpa using same

theorem not_mem_of_findIdx? {table : List Int} (absent : table.findIdx? (· == socket) = none) : socket ∉ table := by
  intro member
  simpa using List.findIdx?_eq_none_iff.mp absent socket member

theorem Shut.removeSession (shut : Shut socket before stack) (tables : TablesHold before) (coherent : Coherent before) :
    Settles (stack.removeSession socket) TablesHold (fun _ => True) := by
  unfold Stack.removeSession
  cases registered : stack.registeredSessions.findIdx? (· == socket) with
  | none =>
      have absent := not_mem_of_findIdx? registered
      rw [shut.sessions] at absent
      constructor
      · change Paired _ stack.timedSockets stack.registeredSessions
        rw [shut.timers, shut.sessions]
        exact Paired.release_absent tables.timed absent
      · rw [shut.sessions]
        exact tables.whole
  | some index =>
      have found := getElem?_of_findIdx? registered
      rw [shut.sessions] at found
      exact (shut.setRegisteredSession tables found).kept (clearSession_sessions (shut.coherent coherent) index)

theorem closeSession_tables (coherent : Coherent stack) (tables : TablesHold stack) (socket : Int) :
    Settles (stack.closeSession socket) TablesHold (fun _ => True) := by
  unfold closeSession
  cases registered : stack.registeredSessions.findIdx? (· == socket) with
  | none => exact tables
  | some index =>
      apply Settles.bind (closeTcpSocket_shuts socket)
      intro closed shut
      have cleared := shut.setRegisteredSession tables (getElem?_of_findIdx? registered)
      exact cleared.kept (clearSession_sessions (shut.coherent coherent) index)

/-- A session that has ended already has no socket to close, and its place stays free. -/
theorem closeSessionBySessionHandle_tables (tables : TablesHold stack) (slot : Slot config) :
    Settles (stack.closeSessionBySessionHandle slot) TablesHold (fun _ => True) := by
  unfold closeSessionBySessionHandle
  dsimp only
  split
  · trivial
  · rename_i socket found
    apply Settles.bind (closeTcpSocket_shuts socket)
    intro closed shut
    exact shut.setRegisteredSession tables found

theorem closeEncapsulationSessionBySockAddr_tables (coherent : Coherent stack) (tables : TablesHold stack) (peers : Peers)
    (slot : Slot config) :
    Settles (closeEncapsulationSessionBySockAddr peers stack slot) TablesHold (fun _ => True) := by
  have walked : Settles (closeEncapsulationSessionBySockAddr peers stack slot)
      (fun after => TablesHold after ∧ Coherent after) (fun _ => True) := by
    apply foldlM_settles
    · rintro reached index ⟨reachedTables, reachedCoherent⟩
      have visited : Settles
          (closeEncapsulationSessionVisit peers (stack.object slot).originatorAddress.sAddr reached index)
          TablesHold (fun _ => True) := by
        unfold closeEncapsulationSessionVisit
        split
        · trivial
        · split
          · exact closeSession_tables reachedCoherent reachedTables _
          · exact reachedTables
      have aside : StandsAside (fun _ => True) reached
          (closeEncapsulationSessionVisit peers (stack.object slot).originatorAddress.sAddr reached index) :=
        closeEncapsulationSessionVisit_aside reachedCoherent peers _ index
      exact visited.both (aside.mono fun _ aside => aside.coherent reachedCoherent)
    · exact ⟨tables, coherent⟩
  exact walked.mono fun _ => And.left

theorem checkEncapsulationInactivity_tables (coherent : Coherent stack) (tables : TablesHold stack) (socket : Int) :
    Settles (stack.checkEncapsulationInactivity socket) TablesHold (fun _ => True) := by
  unfold checkEncapsulationInactivity
  split
  · obtain ⟨closed, done, removes⟩ :=
      closeClass3ConnectionBasedOnSession_spec coherent (stack.getSessionFromSocket socket)
    dsimp only
    rw [done, ok_bind]
    apply Settles.bind (closeTcpSocket_shuts socket)
    intro cleared shut
    exact shut.removeSession (tables.of_same (.of_removes removes)) (coherent.removes removes)
  · exact tables

theorem handleDataOnClosedTcpSocket_tables (coherent : Coherent stack) (tables : TablesHold stack) (socket : Int) :
    Settles (stack.handleDataOnClosedTcpSocket socket) TablesHold (fun _ => True) :=
  Settles.bind (removeSocketTimerFromList_shuts socket) fun _ shut => shut.removeSession tables coherent

theorem closeFailedTcpSocket_tables (coherent : Coherent stack) (tables : TablesHold stack) (socket : Int) :
    Settles (stack.closeFailedTcpSocket socket) TablesHold (fun _ => True) :=
  Settles.bind (closeTcpSocket_shuts socket) fun _ shut => shut.removeSession tables coherent

theorem unregisterSession_tables (coherent : Coherent stack) (tables : TablesHold stack) (handle : CipSessionHandle) :
    Settles (stack.handleReceivedUnregisterSessionCommand handle) (fun answered => TablesHold answered.2)
      (fun _ => True) := by
  unfold handleReceivedUnregisterSessionCommand
  split
  · dsimp only
    split
    · trivial
    · rename_i socket found
      split
      · exact tables
      · apply Settles.bind (closeTcpSocket_shuts socket)
        intro closed shut
        have cleared := shut.setRegisteredSession tables found
        apply Settles.bind (cleared.kept (clearSession_sessions (shut.coherent coherent) _))
        exact fun _ tables => tables
  · exact tables

end Closing

section Registering

/-- How a request to register is answered: a refusal writes nothing; a session has the handle of its place,
where the socket stands from now on. -/
inductive Registers (stack : Stack config) (socket : Int) :
    (CipSessionHandle × EncapsulationProtocolErrorCode) × Stack config → Prop
  | refused {handle : CipSessionHandle} {status : EncapsulationProtocolErrorCode} (failure : status ≠ .success) :
      Registers stack socket ((handle, status), stack)
  | accepted {index place : Nat} {after : Stack config} (absent : socket ∉ stack.registeredSessions)
      (free : stack.registeredSessions[index]? = some kEipInvalidSocket)
      (untimed : stack.timedSockets[place]? = some kEipInvalidSocket)
      (sessions : after.registeredSessions = stack.registeredSessions.set index socket)
      (timers : after.timedSockets = stack.timedSockets.set place socket) :
      Registers stack socket ((sessionHandle index, .success), after)

theorem timestamps_findIdx? (stack : Stack config) (socket : Int) :
    stack.timestamps.findIdx? (·.socket == socket) = stack.timedSockets.findIdx? (· == socket) := by
  rw [timedSockets, List.findIdx?_map]
  rfl

theorem registerSession_spec (tables : TablesHold stack) (socket : Int) (protocolVersion optionFlag : UInt16) :
    Settles (stack.handleReceivedRegisterSessionCommand socket protocolVersion optionFlag) (Registers stack socket)
      (fun _ => False) := by
  unfold handleReceivedRegisterSessionCommand getFreeSessionIndex
  split
  · cases registered : stack.registeredSessions.findIdx? (· == socket) with
    | some index => exact Registers.refused (by simp)
    | none =>
        cases found : stack.registeredSessions.findIdx? (· == kEipInvalidSocket) with
        | none => exact Registers.refused (by simp)
        | some index =>
            have free := getElem?_of_findIdx? found
            rw [timestamps_findIdx?]
            cases timer : stack.timedSockets.findIdx? (· == kEipInvalidSocket) with
            | none =>
                have present := tables.timed.mem_iff.mpr (List.mem_of_getElem? free)
                exact absurd present (not_mem_of_findIdx? timer)
            | some place =>
                refine Registers.accepted (not_mem_of_findIdx? registered) free (getElem?_of_findIdx? timer) rfl ?_
                exact List.map_set
  · exact Registers.refused (by simp)

theorem Registers.tablesHold {answered : (CipSessionHandle × EncapsulationProtocolErrorCode) × Stack config}
    (registers : Registers stack socket answered) (tables : TablesHold stack) : TablesHold answered.2 := by
  cases registers with
  | refused failure => exact tables
  | accepted absent free untimed sessions timers =>
      constructor
      · rw [Timed, sessions, timers]
        exact Paired.claim tables.timed absent untimed free
      · rw [sessions, List.length_set]
        exact tables.whole

theorem updateSocketTimer_tables (tables : TablesHold stack) (socket : Int) : TablesHold (stack.updateSocketTimer socket) := by
  unfold updateSocketTimer
  rw [timestamps_findIdx?]
  cases timer : stack.timedSockets.findIdx? (· == socket) with
  | none => exact tables
  | some place =>
      obtain ⟨within, same, _⟩ := List.findIdx?_eq_some_iff_getElem.mp timer
      have written : (stack.timestamps.set place ⟨socket, stack.actualTime⟩).map (·.socket) = stack.timedSockets := by
        rw [List.map_set, ← timedSockets, ← beq_iff_eq.mp same]
        exact List.set_getElem_self within
      refine ⟨?_, tables.whole⟩
      rw [Timed, timedSockets, written]
      exact tables.timed

end Registering

section Tick

variable {peers : Peers} {elapsedTime : MilliSeconds}

theorem closeSessionsOnTimeOut_tables (coherent : Coherent stack) (tables : TablesHold stack) :
    Settles (stack.closeSessionsOnTimeOut peers slot) TablesHold (fun _ => True) := by
  unfold closeSessionsOnTimeOut checkForTimedOutConnectionsAndCloseTCPConnections
  split
  · dsimp only
    split
    · exact tables
    · exact closeEncapsulationSessionBySockAddr_tables coherent tables peers slot
  · exact tables

theorem handleIoConnectionTimeOut_tables (coherent : Coherent stack) (tables : TablesHold stack)
    (established : (stack.object slot).state = .established) (io : slot.instanceType ≠ .explicitMessaging) :
    Settles (stack.handleIoConnectionTimeOut peers slot) TablesHold (fun _ => True) := by
  have listed := (coherent.mem_iff slot).mpr (.inl established)
  have timing : Continues (· = slot) stack (stack.timingOut slot) := timingOut_continues coherent listed io
  have waiting : TablesHold (stack.timingOut slot) := tables.of_same ⟨rfl, rfl⟩
  have timingObject : (stack.timingOut slot).object slot = (stack.object slot).setState .timedOut := by
    unfold timingOut modifyObject
    dsimp only
    rw [setObject_objects, Function.update_self]
    rfl
  have aside : StandsAside (fun _ => False) (stack.timingOut slot)
      ((stack.timingOut slot).closeSessionsOnTimeOut peers slot) := closeSessionsOnTimeOut_aside timing.coherent
  unfold handleIoConnectionTimeOut
  apply Settles.bind ((closeSessionsOnTimeOut_tables timing.coherent waiting).both aside)
  rintro ended ⟨endedTables, aside⟩
  have endedCoherent := aside.coherent timing.coherent
  have endedObject := (aside.object_eq io).trans timingObject
  have endedListed := (aside.mem_iff io).mpr (timing.spares slot listed rfl)
  apply Settles.bind (handOver_handedOn endedCoherent (congrArg (·.instanceType) endedObject)
    (congrArg (·.getTToOConnectionType) endedObject))
  rintro ⟨handed, handover⟩ handedOn
  have continues := handedOn.continues endedCoherent endedListed
  have type := (coherent.opened slot listed).instanceType
  have closing := closeDependentsOnTimeOut_closes continues.coherent (continues.spares slot endedListed rfl) type.symm
    handover
  apply Settles.bind (closing.imp (fun _ => id) fun _ _ => trivial)
  intro closed dependents
  have same : SameSessions ended closed := (SameSessions.of_handedOn handedOn).trans (.of_dependents dependents)
  exact endedTables.of_same (same.trans ⟨rfl, rfl⟩)

theorem connectionTimeoutFunction_tables (coherent : Coherent stack) (tables : TablesHold stack)
    (established : (stack.object slot).state = .established) :
    Settles (stack.connectionTimeoutFunction peers slot) TablesHold (fun _ => True) := by
  have listed := (coherent.mem_iff slot).mpr (.inl established)
  have opened := coherent.opened slot listed
  unfold connectionTimeoutFunction
  split
  · trivial
  · unfold class3ConnectionTimeoutHandler checkForTimedOutConnectionsAndCloseTCPConnections
    dsimp only
    split
    · exact tables.of_same closeConnection_sessions
    · apply Settles.bind (closeSessionBySessionHandle_tables tables slot)
      exact fun _ tables => tables.of_same closeConnection_sessions
  · rename_i handler
    refine handleIoConnectionTimeOut_tables coherent tables established fun explicit => ?_
    rw [(opened_explicit coherent listed explicit).timeoutFunction] at handler
    cases handler

theorem serve_tables (coherent : Coherent stack) (tables : TablesHold stack) :
    Settles (serve peers elapsedTime stack slot) TablesHold (fun _ => True) := by
  unfold serve checkInactivityWatchdog
  split
  · rename_i established
    have checked : Settles (checkInactivityWatchdog peers elapsedTime stack slot) TablesHold (fun _ => True) := by
      unfold checkInactivityWatchdog
      split
      · split
        · exact connectionTimeoutFunction_tables coherent tables established
        · exact tables.of_same ⟨rfl, rfl⟩
      · exact tables
    exact checked.bind fun _ tables => tables.kept produce_sessions
  · exact tables

theorem manageConnections_tables (coherent : Coherent stack) (tables : TablesHold stack) :
    Settles (manageConnections peers elapsedTime stack) TablesHold (fun _ => True) := by
  have managed : Aside (fun _ => True) stack (stack.manageEncapsulationMessages elapsedTime) :=
    manageEncapsulationMessages_aside
  have walked : Settles (manageConnections peers elapsedTime stack)
      (fun after => TablesHold after ∧ Coherent after) (fun _ => True) := by
    apply walk_settles fun _ reached => TablesHold reached ∧ Coherent reached
    · rintro node reached ⟨reachedTables, reachedCoherent⟩
      unfold manageConnectionsVisit
      split
      · trivial
      · rename_i connection _
        have served : Proceeds (fun _ => True) (fun _ _ => True) reached (serve peers elapsedTime reached connection) :=
          serve_proceeds reachedCoherent
        exact ((serve_tables reachedCoherent reachedTables).both served).bind fun after both =>
          ⟨both.1, (both.2.continues reachedCoherent).coherent⟩
    · trivial
    · exact ⟨tables.of_same ⟨rfl, rfl⟩, managed.coherent coherent⟩
  exact walked.mono fun _ => And.left

end Tick

theorem step_tables (intact : Intact stack) (tables : TablesHold stack) (operation : Operation) :
    Settles (stack.step operation) TablesHold (fun _ => True) := by
  have coherent := intact.coherent
  cases operation with
  | acceptTcpSocket socket =>
      change Settles (stack.acceptTcpSocket socket) _ _
      unfold acceptTcpSocket
      split
      · trivial
      · exact tables.of_same ⟨rfl, rfl⟩
  | receiveOnTcpSocket socket => exact updateSocketTimer_tables tables socket
  | tcpSocketClosed socket => exact handleDataOnClosedTcpSocket_tables coherent tables socket
  | tcpSocketFailed socket => exact closeFailedTcpSocket_tables coherent tables socket
  | registerSession socket protocolVersion optionFlag =>
      apply settles_map_snd
      exact (registerSession_spec tables socket protocolVersion optionFlag).imp
        (fun _ registers => registers.tablesHold tables) fun _ => False.elim
  | unregisterSession handle => exact settles_map_snd (unregisterSession_tables coherent tables handle)
  | forwardOpen request => exact tables.kept (forwardOpenRoutine_sessions intact false request)
  | largeForwardOpen request => exact tables.kept (forwardOpenRoutine_sessions intact true request)
  | forwardClose request => exact tables.kept (forwardClose_sessions coherent request)
  | receiveConnectedData received => exact tables.kept (handleReceivedConnectedData_sessions received)
  | connectedMessageReceived addressInfoItems connectionIdentifier sequenceCount =>
      exact tables.of_same (receiveConnectedMessage_sessions addressInfoItems connectionIdentifier sequenceCount)
  | connectedReplyStored place reply => exact tables.of_same ⟨rfl, rfl⟩
  | resetDevice => exact tables.kept (closeAllConnections_sessions coherent)
  | otherServiceExecuted assemblyData encapsulationInactivityTimeout => exact tables.of_same ⟨rfl, rfl⟩
  | setDeviceStatus status => exact tables.of_same ⟨rfl, rfl⟩
  | checkEncapsulationInactivity socket => exact checkEncapsulationInactivity_tables coherent tables socket
  | passTime actualTime => exact tables.of_same ⟨rfl, rfl⟩
  | manageConnections peers elapsedTime => exact manageConnections_tables coherent tables

inductive SessionCall where
  | operation (operation : Operation)
  | closeSession (socket : Int)

def call (stack : Stack config) : SessionCall → Except Fault (Stack config)
  | .operation operation => stack.step operation
  | .closeSession socket => stack.closeSession socket

def ReachedByCalls (stack : Stack config) : Prop :=
  ∃ assemblyData timeout, Reachable call (Stack.initialized config assemblyData timeout) stack

theorem call_tables (intact : Intact stack) (tables : TablesHold stack) (sessionCall : SessionCall) :
    Settles (stack.call sessionCall) (fun after => Intact after ∧ TablesHold after) (fun _ => True) := by
  cases sessionCall with
  | operation operation =>
      exact ((step_spec intact operation).mono fun _ stepped => stepped.intact intact).both
        (step_tables intact tables operation)
  | closeSession socket =>
      have aside : StandsAside (· = socket) stack (stack.closeSession socket) :=
        closeSession_aside intact.coherent (.inr rfl)
      have remains : Settles (stack.closeSession socket) Intact (fun _ => True) := by
        refine aside.imp (fun after aside => ⟨aside.coherent intact.coherent, ?_⟩) fun _ _ => trivial
        have dummy : after.dummy = stack.dummy := congrArg Prod.fst aside.ambient
        rw [dummy]
        exact intact.pristine
      exact remains.both (closeSession_tables intact.coherent tables socket)

theorem Reached.byCalls (reached : Reached stack) : ReachedByCalls stack := by
  obtain ⟨assemblyData, timeout, operations, run⟩ := reached
  refine ⟨assemblyData, timeout, operations.map .operation, ?_⟩
  rw [List.foldlM_map]
  exact run

theorem ReachedByCalls.tablesHold (reached : ReachedByCalls stack) : TablesHold stack := by
  obtain ⟨assemblyData, timeout, reachable⟩ := reached
  have holds : Intact stack ∧ TablesHold stack :=
    reachable.holds ⟨Intact.initialized assemblyData timeout, TablesHold.initialized assemblyData timeout⟩
      fun state sessionCall both => call_tables both.1 both.2 sessionCall
  exact holds.2

section Claims

/-- The timers and sessions of every socket, and the answer to whoever registers next. -/
structure SessionsTimed (stack : Stack config) : Prop where
  once : ∀ socket, socket ≠ kEipInvalidSocket → stack.registeredSessions.count socket ≤ 1
  timers : ∀ socket, socket ≠ kEipInvalidSocket →
    stack.timestamps.countP (·.socket == socket) = stack.registeredSessions.count socket
  registers : ∀ socket protocolVersion optionFlag, ∃ handle status after,
    stack.handleReceivedRegisterSessionCommand socket protocolVersion optionFlag = .ok ((handle, status), after) ∧
      (status = .success → ∃ index : Nat, after.registeredSessions[index]? = some socket ∧ handle = sessionHandle index) ∧
      (status ≠ .success → after.registeredSessions = stack.registeredSessions ∧ after.timestamps = stack.timestamps)

theorem sessions_timed (reached : ReachedByCalls stack) : SessionsTimed stack where
  once := reached.tablesHold.timed.once
  timers := by
    intro socket _
    rw [← reached.tablesHold.timed.same socket, timedSockets, List.count, List.countP_map]
    rfl
  registers := by
    intro socket protocolVersion optionFlag
    have spec := registerSession_spec reached.tablesHold socket protocolVersion optionFlag
    cases answered : stack.handleReceivedRegisterSessionCommand socket protocolVersion optionFlag with
    | error fault => exact (spec.raises answered).elim
    | ok result =>
        have registers := spec.returns answered
        cases registers with
        | refused failure => exact ⟨_, _, _, rfl, fun success => absurd success failure, fun _ => ⟨rfl, rfl⟩⟩
        | accepted absent free untimed sessions timers =>
            refine ⟨_, _, _, rfl, fun _ => ⟨_, ?_, rfl⟩, fun failure => absurd rfl failure⟩
            obtain ⟨within, _⟩ := List.getElem?_eq_some_iff.mp free
            rw [sessions]
            exact List.getElem?_set_self within

open SampleApplication in
/-- The descriptor of a client that has unregistered is given to another one. -/
theorem descriptor_reused_timed : ∃ stack : Stack configuration,
    stack.registeredSessions.take 3 = [5, 6, kEipInvalidSocket] ∧ SessionsTimed stack := by
  have run : ends [.acceptTcpSocket 5, .registerSession 5 1 0, .acceptTcpSocket 6, .registerSession 6 1 0,
      .unregisterSession 1, .acceptTcpSocket 5, .registerSession 5 1 0] (fun stack : Stack configuration =>
      decide (stack.registeredSessions.take 3 = [5, 6, kEipInvalidSocket])) = true := by decide +kernel
  obtain ⟨stack, reached, registered⟩ := exists_of_ends run
  exact ⟨stack, of_decide_eq_true registered, sessions_timed reached.byCalls⟩

/-- The sockets that the log opens and does not close, the listening ones left aside. -/
def openedSockets : List Effect → List Int
  | [] => []
  | .tcpSocketAccepted socket :: rest | .udpSocketCreated socket :: rest => socket :: openedSockets rest
  | .closeSocket socket :: rest => (openedSockets rest).filter (· ≠ socket)
  | _ :: rest => openedSockets rest

/-- `FD_SET` on a set of `FD_SETSIZE` bits. It is not defined for a descriptor that has no bit. -/
def fdSet (FD_SETSIZE : Nat) (socket : Int) (set : List Int) : Option (List Int) :=
  if 0 ≤ socket ∧ socket < FD_SETSIZE then some (socket :: set) else none

def masterSocket (FD_SETSIZE : Nat) : List Effect → Option (List Int)
  | [] => some []
  | .tcpSocketAccepted socket :: rest | .udpSocketCreated socket :: rest =>
      (masterSocket FD_SETSIZE rest).bind (fdSet FD_SETSIZE socket)
  | .closeSocket socket :: rest => (masterSocket FD_SETSIZE rest).map (·.filter (· ≠ socket))
  | _ :: rest => masterSocket FD_SETSIZE rest

def hasBit (FD_SETSIZE : Nat) : Effect → Bool
  | .tcpSocketAccepted socket | .udpSocketCreated socket => decide (0 ≤ socket ∧ socket < FD_SETSIZE)
  | _ => true

theorem masterSocket_isSome_iff {FD_SETSIZE : Nat} {log : List Effect} :
    (masterSocket FD_SETSIZE log).isSome ↔ ∀ effect ∈ log, hasBit FD_SETSIZE effect = true := by
  have enters (socket : Int) (set : Option (List Int)) :
      (set.bind (fdSet FD_SETSIZE socket)).isSome ↔ (0 ≤ socket ∧ socket < FD_SETSIZE) ∧ set.isSome := by
    cases set with
    | none => simp
    | some set =>
        rw [Option.bind_some, fdSet]
        split
        · next within => simp [within]
        · next outside => simp [outside]
  induction log with
  | nil => simp [masterSocket]
  | cons effect rest ih =>
      rw [List.forall_mem_cons]
      cases effect with
      | tcpSocketAccepted socket | udpSocketCreated socket =>
          refine (enters socket (masterSocket FD_SETSIZE rest)).trans (and_congr ?_ ih)
          exact decide_eq_true_iff.symm
      | closeSocket socket =>
          rw [masterSocket, Option.isSome_map]
          exact ih.trans (and_iff_right rfl).symm
      | _ => exact ih.trans (and_iff_right rfl).symm

/-- The highest of the handles the main loop started with and those of the clients; datagram sockets may have
raised the limit of the loop further. -/
def highestSocketHandle (started : Int) : List Effect → Int
  | [] => started
  | .tcpSocketAccepted socket :: rest => max socket (highestSocketHandle started rest)
  | _ :: rest => highestSocketHandle started rest

def Polls (FD_SETSIZE : Nat) (started : Int) (stack : Stack config) (socket : Int) : Prop :=
  ∃ set, masterSocket FD_SETSIZE stack.effects = some set ∧ socket ∈ set ∧
    socket ≤ highestSocketHandle started stack.effects

/-- A client is accepted without a failed assertion, and its socket is polled. -/
def AcceptsAndPolls (FD_SETSIZE : Nat) (started : Int) (stack : Stack config) (socket : Nat) : Prop :=
  ∃ after, stack.acceptTcpSocket socket = .ok after ∧ Polls FD_SETSIZE started after socket

def AllHaveBits (FD_SETSIZE : Nat) (stack : Stack config) : Prop :=
  ∀ effect ∈ stack.effects, hasBit FD_SETSIZE effect = true

theorem polls_accepted_iff (FD_SETSIZE : Nat) (started : Int) (stack : Stack config) (socket : Nat) :
    Polls FD_SETSIZE started (stack.log (.tcpSocketAccepted socket)) socket ↔
      stack.AllHaveBits FD_SETSIZE ∧ socket < FD_SETSIZE := by
  have logged : (∀ effect ∈ (stack.log (.tcpSocketAccepted socket)).effects, hasBit FD_SETSIZE effect = true) ↔
      stack.AllHaveBits FD_SETSIZE ∧ socket < FD_SETSIZE := by
    change (∀ effect ∈ Effect.tcpSocketAccepted socket :: stack.effects, _) ↔ _
    rw [List.forall_mem_cons, and_comm]
    simp [hasBit, AllHaveBits]
  rw [← logged, ← masterSocket_isSome_iff]
  constructor
  · rintro ⟨set, defined, -⟩
    rw [defined]
    rfl
  · intro defined
    obtain ⟨set, same⟩ := Option.isSome_iff_exists.mp defined
    refine ⟨set, same, ?_, le_max_left _ _⟩
    obtain ⟨before, -, entered⟩ := Option.bind_eq_some_iff.mp same
    rw [fdSet] at entered
    split at entered
    · cases entered
      exact List.mem_cons_self
    · cases entered

/-- One more client is accepted exactly if one more session could be registered and the set has room for its
descriptor, as it has had for all before. -/
theorem acceptsAndPolls_iff (reached : Reached stack) (FD_SETSIZE : Nat) (started : Int) (socket : Nat) :
    AcceptsAndPolls FD_SETSIZE started stack socket ↔
      kEipInvalidSocket ∈ stack.registeredSessions ∧ stack.AllHaveBits FD_SETSIZE ∧ socket < FD_SETSIZE := by
  have timers : kEipInvalidSocket ∈ stack.registeredSessions ↔ kEipInvalidSocket ∈ stack.timedSockets :=
    reached.byCalls.tablesHold.timed.mem_iff.symm
  unfold AcceptsAndPolls acceptTcpSocket socketTimerArrayGetEmptySocketTimer socketTimerArrayGetSocketTimer
  rw [timers]
  cases found : stack.timestamps.find? (·.socket == kEipInvalidSocket) with
  | none =>
      have absent : kEipInvalidSocket ∉ stack.timedSockets := by
        intro member
        obtain ⟨timer, inside, free⟩ := List.mem_map.mp member
        simpa [free] using List.find?_eq_none.mp found timer inside
      simp [absent]
  | some timer =>
      have free : timer.socket = kEipInvalidSocket := by simpa using List.find?_some found
      have present : kEipInvalidSocket ∈ stack.timedSockets :=
        List.mem_map.mpr ⟨timer, List.mem_of_find?_eq_some found, free⟩
      rw [and_iff_right present, ← polls_accepted_iff FD_SETSIZE started stack socket]
      exact ⟨fun ⟨_, done, polls⟩ => Except.ok.inj done ▸ polls, fun polls => ⟨_, rfl, polls⟩⟩

open SampleApplication in
/-- One client has registered and another one has not; a third one is accepted. -/
theorem third_client_polled : ∃ stack : Stack configuration, Reached stack ∧
    AcceptsAndPolls 1024 4 stack 7 := by
  have run : ends [.acceptTcpSocket 5, .registerSession 5 1 0, .acceptTcpSocket 6] (fun stack : Stack configuration =>
      decide (kEipInvalidSocket ∈ stack.registeredSessions) && stack.effects.all (hasBit 1024)) = true := by
    decide +kernel
  obtain ⟨stack, reached, passes⟩ := exists_of_ends run
  rw [Bool.and_eq_true, decide_eq_true_eq, List.all_eq_true] at passes
  exact ⟨stack, reached, (acceptsAndPolls_iff reached 1024 4 7).mpr ⟨passes.1, passes.2, by decide⟩⟩

open SampleApplication in
/-- As many clients as there are sessions; the next one is not accepted. -/
theorem client_too_many_not_accepted : ∃ stack : Stack configuration, Reached stack ∧
    ¬ AcceptsAndPolls 1024 4 stack 25 := by
  have run : ends ((List.range 20).flatMap fun client => [.acceptTcpSocket (5 + client), .registerSession (5 + client) 1 0])
      (fun stack : Stack configuration => stack.acceptTcpSocket 25 matches .error .assertion) = true := by decide +kernel
  obtain ⟨stack, reached, fails⟩ := exists_of_ends run
  refine ⟨stack, reached, ?_⟩
  rintro ⟨after, done, _⟩
  rw [done] at fails
  cases fails

end Claims

end Stack

end EtherNetIP
