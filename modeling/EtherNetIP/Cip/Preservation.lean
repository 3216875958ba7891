import EtherNetIP.Cip.Evolution
import EtherNetIP.Encap.Class3Closing
import EtherNetIP.Library.Machine

/-! Everything but opening a connection only makes the table evolve.

Ending sessions touches explicit connections at most; receiving data runs the
counters; the timer tick closes connections and sends frames as well. Each
function here has one lemma that says so, together with the fault it cannot
raise: only opening takes a node.
-/

set_option autoImplicit false

namespace EtherNetIP

open Library CipConnectionObject Stack

variable {config : Configuration} {stack : Stack config} {slot : Slot config} {named : Int → Prop}
  {noting : Note → Slot config → Prop}

/-- The computation touches explicit connections at most, or stops with a fault other than the null node. -/
def StandsAside (named : Int → Prop) (stack : Stack config) (computation : Except Fault (Stack config)) : Prop :=
  Settles computation (Aside named stack) (· ≠ .nullNode)

def Proceeds (named : Int → Prop) (noting : Note → Slot config → Prop) (stack : Stack config)
    (computation : Except Fault (Stack config)) : Prop :=
  Settles computation (Evolves named noting stack) (· ≠ .nullNode)

namespace StandsAside

theorem of_ok {after : Stack config} (aside : Aside named stack after) :
    StandsAside named stack (.ok after) := aside

theorem of_error {fault : Fault} (other : fault ≠ .nullNode) :
    StandsAside named stack (.error fault : Except Fault (Stack config)) := other

theorem bind {first : Except Fault (Stack config)} {next : Stack config → Except Fault (Stack config)}
    (head : StandsAside named stack first)
    (tail : ∀ middle, Aside named stack middle → StandsAside named middle (next middle)) :
    StandsAside named stack (first >>= next) :=
  Settles.bind head fun middle aside => (tail middle aside).mono fun _ => aside.trans

theorem trans {middle : Stack config} {computation : Except Fault (Stack config)} (first : Aside named stack middle)
    (second : StandsAside named middle computation) : StandsAside named stack computation :=
  Settles.mono second fun _ => first.trans

theorem proceeds {computation : Except Fault (Stack config)} (aside : StandsAside named stack computation) :
    Proceeds named noting stack computation :=
  Settles.mono aside fun _ aside => .single (.aside aside)

end StandsAside

namespace Proceeds

theorem of_ok {after : Stack config} (evolves : Evolves named noting stack after) :
    Proceeds named noting stack (.ok after) := evolves

theorem of_error {fault : Fault} (other : fault ≠ .nullNode) :
    Proceeds named noting stack (.error fault : Except Fault (Stack config)) := other

theorem bind {first : Except Fault (Stack config)} {next : Stack config → Except Fault (Stack config)}
    (head : Proceeds named noting stack first)
    (tail : ∀ middle, Evolves named noting stack middle → Proceeds named noting middle (next middle)) :
    Proceeds named noting stack (first >>= next) :=
  Settles.bind head fun middle evolves => (tail middle evolves).mono fun _ => evolves.trans

theorem trans {middle : Stack config} {computation : Except Fault (Stack config)}
    (first : Evolves named noting stack middle) (second : Proceeds named noting middle computation) :
    Proceeds named noting stack computation :=
  Settles.mono second fun _ => first.trans

end Proceeds

namespace Stack

section Sessions

theorem Aside.coherent {after : Stack config} (aside : Aside named stack after) (coherent : Coherent stack) :
    Coherent after :=
  (aside.continues coherent).coherent

theorem removeSocketTimerFromList_aside (socket : Int) :
    StandsAside named stack (stack.removeSocketTimerFromList socket) := by
  unfold removeSocketTimerFromList
  split
  · exact StandsAside.of_error (by simp)
  · exact StandsAside.of_ok (.of_same rfl rfl rfl rfl rfl)

def MayClose (named : Int → Prop) (stack : Stack config) (socket : Int) : Prop :=
  socket ∈ stack.registeredSessions ∨ named socket

theorem closeSocket_aside {socket : Int} (mayClose : MayClose named stack socket) :
    Aside named stack (stack.closeSocket socket) where
  unlists := ⟨[], by simp, .nothing (closeSocket_connectionList stack socket) (closeSocket_object stack socket)⟩
  ambient := by rw [closeSocket_globals]; rfl
  sessions := by
    intro other member
    rw [closeSocket_globals] at member
    exact .inl member
  traffic := by
    refine ⟨[socket].filter (· ≠ kEipInvalidSocket), fun other member => ?_, closeSocket_traffic stack socket⟩
    simp only [List.mem_filter, List.mem_singleton, decide_eq_true_eq] at member
    exact ⟨member.2, member.1 ▸ mayClose⟩

theorem closeTcpSocket_aside {socket : Int} (mayClose : MayClose named stack socket) :
    StandsAside named stack (stack.closeTcpSocket socket) := by
  have logged : Aside named stack (stack.shutdownSocketPlatform socket) := .of_same rfl rfl rfl rfl rfl
  unfold closeTcpSocket removeSocketTimerFromList
  split
  · exact StandsAside.of_error (by simp)
  · have cleared : Aside named stack { stack.shutdownSocketPlatform socket with
        timestamps := (stack.shutdownSocketPlatform socket).timestamps.map fun timer =>
          if timer.socket = socket then socketTimerClear else timer } :=
      logged.trans (.of_same rfl rfl rfl rfl rfl)
    exact cleared.trans (closeSocket_aside mayClose)

theorem setRegisteredSession_aside {index : Nat} {socket : Int}
    (may : socket = kEipInvalidSocket ∨ named socket) :
    Aside named stack (stack.setRegisteredSession index socket) where
  unlists := ⟨[], by simp, .nothing rfl rfl⟩
  ambient := rfl
  sessions := by
    intro other member
    rcases List.mem_or_eq_of_mem_set member with old | rfl
    · exact .inl old
    · exact .inr may
  traffic := ⟨[], by simp, rfl⟩

theorem closeClass3_aside (coherent : Coherent stack) (handle : CipSessionHandle) :
    StandsAside named stack (stack.closeClass3ConnectionBasedOnSession handle) := by
  obtain ⟨after, done, removes⟩ := closeClass3ConnectionBasedOnSession_spec coherent handle
  have explicit : ∀ other ∈ (stack.class3OfSession handle).take 1,
      other ∈ stack.connectionList.toList ∧ other.instanceType = .explicitMessaging := by
    intro other member
    have inSession := List.mem_of_mem_take member
    exact ⟨(List.mem_filter.mp inSession).1, class3OfSession_explicit coherent inSession⟩
  rw [done]
  refine StandsAside.of_ok ⟨⟨_, fun other member => (explicit other member).2, removes.toUnlists⟩, ?_, ?_, [],
    by simp, ?_⟩
  · rw [removes.globals]
    rfl
  · rw [removes.globals]
    exact fun _ => .inl
  · -- explicit connections have no sockets
    have silent : ((stack.class3OfSession handle).take 1).flatMap (fun other => closedSockets (stack.object other)) =
        [] := by
      rw [List.flatMap_eq_nil_iff]
      intro other member
      exact closedSockets_explicit coherent (explicit other member).1 (explicit other member).2
    rw [removes.traffic, silent]

theorem closeSessionBySessionHandle_aside (slot : Slot config) :
    StandsAside named stack (stack.closeSessionBySessionHandle slot) := by
  unfold closeSessionBySessionHandle
  dsimp only
  split
  · exact StandsAside.of_error (by simp)
  · rename_i socket registered
    apply StandsAside.bind (closeTcpSocket_aside (.inl (List.mem_of_getElem? registered)))
    intro middle aside
    exact StandsAside.of_ok (setRegisteredSession_aside (.inl rfl))

theorem closeTcpSocket_table {after : Stack config} {socket : Int} (done : stack.closeTcpSocket socket = .ok after) :
    after.connectionList = stack.connectionList ∧ after.object = stack.object := by
  unfold closeTcpSocket removeSocketTimerFromList at done
  split at done
  · cases done
  · cases done
    exact ⟨closeSocket_connectionList _ _, closeSocket_object _ _⟩

theorem closeSessionBySessionHandle_table {after : Stack config}
    (done : stack.closeSessionBySessionHandle slot = .ok after) :
    after.connectionList = stack.connectionList ∧ after.object = stack.object := by
  unfold closeSessionBySessionHandle at done
  dsimp only at done
  split at done
  · cases done
  · obtain ⟨middle, shut, rest⟩ := bind_eq_ok.mp done
    cases rest
    exact (closeTcpSocket_table shut : middle.connectionList = _ ∧ middle.object = _)

theorem clearSession_aside (coherent : Coherent stack) (index : Nat) :
    StandsAside named stack
      ((stack.setRegisteredSession index kEipInvalidSocket).closeClass3ConnectionBasedOnSession
        (sessionHandle index)) := by
  have cleared : Aside named stack (stack.setRegisteredSession index kEipInvalidSocket) :=
    setRegisteredSession_aside (.inl rfl)
  exact StandsAside.trans cleared (closeClass3_aside (cleared.coherent coherent) _)

theorem removeSession_aside (coherent : Coherent stack) (socket : Int) :
    StandsAside named stack (stack.removeSession socket) := by
  unfold removeSession
  split
  · exact StandsAside.of_ok (.refl stack)
  · exact clearSession_aside coherent _

theorem closeSession_aside (coherent : Coherent stack) {socket : Int} (mayClose : MayClose named stack socket) :
    StandsAside named stack (stack.closeSession socket) := by
  unfold closeSession
  split
  · exact StandsAside.of_ok (.refl stack)
  · apply StandsAside.bind (closeTcpSocket_aside mayClose)
    intro middle aside
    exact clearSession_aside (aside.coherent coherent) _

theorem closeEncapsulationSessionVisit_aside (coherent : Coherent stack) (peers : Peers)
    (originator : UInt32) (index : Nat) :
    StandsAside named stack (closeEncapsulationSessionVisit peers originator stack index) := by
  unfold closeEncapsulationSessionVisit
  split
  · exact StandsAside.of_error (by simp)
  · rename_i socket registered
    split
    · exact closeSession_aside coherent (.inl (List.mem_of_getElem? registered))
    · exact StandsAside.of_ok (.refl stack)

theorem closeEncapsulationSessionBySockAddr_aside (coherent : Coherent stack) (peers : Peers)
    (slot : Slot config) :
    StandsAside named stack (closeEncapsulationSessionBySockAddr peers stack slot) := by
  apply foldlM_settles
  · intro middle index aside
    exact StandsAside.trans aside
      (closeEncapsulationSessionVisit_aside (aside.coherent coherent) peers _ index)
  · exact Aside.refl stack

theorem checkEncapsulationInactivity_aside (coherent : Coherent stack) {socket : Int} (byName : named socket) :
    StandsAside named stack (stack.checkEncapsulationInactivity socket) := by
  unfold checkEncapsulationInactivity
  split
  · apply StandsAside.bind (closeClass3_aside coherent _)
    intro closed first
    apply StandsAside.bind (closeTcpSocket_aside (.inr byName))
    intro shut second
    exact removeSession_aside ((first.trans second).coherent coherent) socket
  · exact StandsAside.of_ok (.refl stack)

theorem handleDataOnClosedTcpSocket_aside (coherent : Coherent stack) (socket : Int) :
    StandsAside named stack (stack.handleDataOnClosedTcpSocket socket) := by
  apply StandsAside.bind (removeSocketTimerFromList_aside socket)
  intro middle aside
  exact removeSession_aside (aside.coherent coherent) socket

theorem closeFailedTcpSocket_aside (coherent : Coherent stack) {socket : Int} (byName : named socket) :
    StandsAside named stack (stack.closeFailedTcpSocket socket) := by
  apply StandsAside.bind (closeTcpSocket_aside (.inr byName))
  intro middle aside
  exact removeSession_aside (aside.coherent coherent) socket

theorem acceptTcpSocket_aside (socket : Nat) : StandsAside named stack (stack.acceptTcpSocket socket) := by
  unfold acceptTcpSocket
  split
  · exact StandsAside.of_error (by simp)
  · exact StandsAside.of_ok (.of_same rfl rfl rfl rfl rfl)

theorem updateSocketTimer_aside (socket : Int) : Aside named stack (stack.updateSocketTimer socket) := by
  unfold updateSocketTimer
  split
  · exact .refl stack
  · exact .of_same rfl rfl rfl rfl rfl

theorem registerSession_aside {socket : Int} (byName : named socket) (version optionFlag : UInt16) :
    Settles (stack.handleReceivedRegisterSessionCommand socket version optionFlag)
      (fun result => Aside named stack result.2) (· ≠ .nullNode) := by
  unfold handleReceivedRegisterSessionCommand
  split
  · split
    · exact Aside.refl stack
    · split
      · exact Aside.refl stack
      · split
        · simp
        · rename_i timer _
          have timed : Aside named stack { stack with
              timestamps := stack.timestamps.set timer ⟨socket, stack.actualTime⟩ } := .of_same rfl rfl rfl rfl rfl
          exact timed.trans (setRegisteredSession_aside (.inr byName))
  · exact Aside.refl stack

theorem unregisterSession_aside (coherent : Coherent stack) (handle : CipSessionHandle) :
    Settles (stack.handleReceivedUnregisterSessionCommand handle)
      (fun result => Aside named stack result.2) (· ≠ .nullNode) := by
  unfold handleReceivedUnregisterSessionCommand
  split
  · dsimp only
    split
    · simp
    · rename_i socket registered
      split
      · exact Aside.refl stack
      · apply Settles.bind (closeTcpSocket_aside (.inl (List.mem_of_getElem? registered)))
        intro shut first
        apply Settles.bind (clearSession_aside (first.coherent coherent) _)
        intro closed second
        exact first.trans second
  · exact Aside.refl stack

end Sessions

section IoData

theorem sendConnectedData_sent (established : (stack.object slot).state = .established)
    (produces : (stack.object slot).producingSocket ≠ kEipInvalidSocket) :
    Settles (stack.sendConnectedData slot) (Sent stack slot) (· ≠ .nullNode) := by
  have reads : Settles (stack.producedData (stack.object slot).producingInstance) (fun _ => True)
      (· ≠ .nullNode) := by
    unfold producedData
    split
    · simp
    · split <;> simp
  apply Settles.bind reads
  rintro ⟨length, data⟩ _
  refine ⟨established, produces, rfl, rfl, rfl, _, length, data, rfl, ?_⟩
  rw [traffic_log]
  simp only [Effect.isTraffic, if_true, modifyObject, setObject_object, Function.update_self]
  rfl

theorem notifyAssemblyConnectedDataReceived_aside (instanceNumber : CipInstanceNum) (data : List CipOctet)
    (dataLength : Nat) :
    Settles (stack.notifyAssemblyConnectedDataReceived instanceNumber data dataLength)
      (fun result => Aside named stack result.2) (· ≠ .nullNode) := by
  unfold notifyAssemblyConnectedDataReceived
  split
  · simp
  · split
    · exact Aside.refl stack
    · exact .of_same rfl rfl rfl rfl rfl

theorem receiveRunIdle_aside (header : UInt32) : Aside named stack (stack.receiveRunIdle header) := by
  unfold receiveRunIdle
  apply Aside.of_same <;> (dsimp only; split <;> rfl)

theorem receiveAssemblyData_aside (consuming : Option CipInstanceNum) (noNewData : Bool) (data : List CipOctet)
    (dataLength : UInt16) :
    StandsAside named stack (stack.receiveAssemblyData consuming noNewData data dataLength) := by
  unfold receiveAssemblyData
  split
  · exact StandsAside.of_ok (.refl stack)
  · split
    · exact StandsAside.of_error (by simp)
    · apply Settles.bind (notifyAssemblyConnectedDataReceived_aside _ _ _)
      intro result aside
      exact aside

theorem receiveBehindSequenceCount_aside (consuming : Option CipInstanceNum) (noNewData : Bool)
    (data : List CipOctet) (dataLength : UInt16) :
    StandsAside named stack (stack.receiveBehindSequenceCount consuming noNewData data dataLength) := by
  unfold receiveBehindSequenceCount
  split
  · split
    · exact StandsAside.trans (receiveRunIdle_aside _) (receiveAssemblyData_aside _ _ _ _)
    · exact receiveAssemblyData_aside _ _ _ _
  · exact StandsAside.of_ok (.refl stack)

theorem evolves_of_counted {change : CipConnectionObject → CipConnectionObject}
    (counted : Counted noting slot (stack.object slot) (change (stack.object slot))) :
    Evolves named noting stack (stack.modifyObject slot change) :=
  .single (.counted counted)

theorem handleReceivedIoConnectionData_proceeds (receiving : noting .data slot) (data : List CipOctet)
    (dataLength : UInt16) :
    Proceeds named noting stack (stack.handleReceivedIoConnectionData slot data dataLength) := by
  unfold handleReceivedIoConnectionData
  dsimp only
  split
  · rename_i class1
    have counted : Evolves named noting stack
        (stack.modifyObject slot ({ · with sequenceCountConsuming := (getUintFromMessage.run data).1 })) :=
      evolves_of_counted ⟨rfl, fun _ => rfl, fun _ => rfl, fun _ other => absurd class1 (other receiving)⟩
    exact Proceeds.trans counted (receiveBehindSequenceCount_aside _ _ _ _).proceeds
  · exact (receiveBehindSequenceCount_aside _ _ _ _).proceeds

theorem receiveFromOriginator_proceeds (receiving : noting .data slot) (received : ConnectedData) :
    Proceeds named noting stack (stack.receiveFromOriginator slot received) := by
  have alive : Evolves named noting stack (stack.modifyObject slot resetLastPackageInactivityTimer) :=
    evolves_of_counted (.quiet rfl rfl rfl rfl)
  have accepted : Evolves named noting stack
      ((stack.modifyObject slot resetLastPackageInactivityTimer).modifyObject slot
        (acceptSequenceNumber received.sequenceNumber)) :=
    alive.trans (evolves_of_counted ⟨rfl, fun _ => rfl, fun silent => absurd receiving silent, fun _ _ => rfl⟩)
  unfold receiveFromOriginator
  dsimp only
  split
  · split
    · exact Proceeds.of_ok accepted
    · exact Proceeds.trans accepted (handleReceivedIoConnectionData_proceeds receiving _ _)
  · exact Proceeds.of_ok alive

theorem handleReceivedConnectedData_proceeds (receiving : ∀ slot, noting .data slot) (received : ConnectedData) :
    Proceeds named noting stack (stack.handleReceivedConnectedData received) := by
  have nothing : Proceeds named noting stack (.ok stack) := Proceeds.of_ok .refl
  unfold handleReceivedConnectedData
  split
  · split
    · split
      · exact nothing
      · split
        · exact receiveFromOriginator_proceeds (receiving _) received
        · exact nothing
    · exact nothing
  · exact nothing

end IoData

section Tick

variable {peers : Peers} {elapsedTime : MilliSeconds}

theorem listed_of_data {node : Nat} (data : stack.connectionList.data node = some slot) :
    slot ∈ stack.connectionList.toList := by
  by_cases present : node ∈ stack.connectionList.entries.map Prod.fst
  · obtain ⟨entry, member, rfl⟩ := List.mem_map.mp present
    rw [ConnectionList.data_of_mem member, Option.some.injEq] at data
    exact data ▸ List.mem_map.mpr ⟨entry, member, rfl⟩
  · rw [ConnectionList.data_of_absent present] at data
    cases data

theorem closeAllVisit_closes (coherent : Coherent stack) (inputPoint : UInt32)
    (instanceType : ConnectionObjectInstanceType) (node : Nat) :
    Settles (closeAllVisit connectionCloseFunction inputPoint instanceType node stack)
      (fun result => Relation.ReflTransGen (ClosesOneOf instanceType) stack result.1) (· ≠ .nullNode) := by
  unfold closeAllVisit
  cases data : stack.connectionList.data node with
  | none => simp [throw, throwThe, MonadExceptOf.throw]
  | some connection =>
      have listed := listed_of_data data
      have callable := (coherent.opened connection listed).callable
      cases same : hasTypeAndInput inputPoint instanceType (stack.object connection) with
      | false =>
          simp only [same]
          exact Relation.ReflTransGen.refl
      | true =>
          have type : connection.instanceType = instanceType :=
            withTypeAndInput_type coherent (List.mem_filter.mpr ⟨listed, same⟩)
          let logged := stack.checkIoConnectionEvent (stack.object connection).consumedPath.instanceId
            (stack.object connection).producedPath.instanceId .closed
          have loggedCoherent : Coherent logged := coherent.of_same_table rfl rfl
          obtain ⟨closed, done, closes⟩ := loggedCoherent.connectionCloseFunction_closed callable
          simp only [same, if_true, callable, if_false]
          have returns : Settles (logged.connectionCloseFunction connection) (· = closed) (· ≠ .nullNode) := by
            rw [done]
            exact rfl
          apply Settles.bind returns
          rintro _ rfl
          exact .single ⟨connection, listed, type, closes.of_event⟩

theorem closeAll_closes (coherent : Coherent stack) (inputPoint : UInt32)
    (instanceType : ConnectionObjectInstanceType) :
    Settles (closeAllConnectionsForInputWithSameType connectionCloseFunction stack inputPoint instanceType)
      (Relation.ReflTransGen (ClosesOneOf instanceType) stack) (· ≠ .nullNode) := by
  apply walk_settles fun _ reached => Relation.ReflTransGen (ClosesOneOf instanceType) stack reached
  · intro node reached closed
    have reachedCoherent := (ClosesOneOf.continues_all coherent closed).coherent
    exact (closeAllVisit_closes reachedCoherent inputPoint instanceType node).mono fun _ => closed.trans
  · simp
  · exact Relation.ReflTransGen.refl

theorem closeAllConnectionsVisit_closes (coherent : Coherent stack) (node : Nat) :
    Settles (closeAllConnectionsVisit node stack)
      (fun result => result.2 = result.1.connectionList.first ∧
        ∃ slot ∈ stack.connectionList.toList, Closed stack slot result.1) (· ≠ .nullNode) := by
  unfold closeAllConnectionsVisit
  split
  · simp
  · rename_i connection data
    have listed := listed_of_data data
    obtain ⟨after, done, closed⟩ :=
      coherent.connectionCloseFunction_closed (coherent.opened connection listed).callable
    split
    · simp
    · rw [done]
      exact ⟨rfl, connection, listed, closed⟩

theorem closeAllConnections_proceeds (coherent : Coherent stack) :
    Proceeds named noting stack stack.closeAllConnections := by
  apply walk_settles fun _ reached => Evolves named noting stack reached
  · intro node reached evolves
    apply (closeAllConnectionsVisit_closes (evolves.continues coherent).coherent node).mono
    rintro ⟨after, next⟩ ⟨_, slot, listed, closed⟩
    exact evolves.tail (.closed listed closed)
  · simp
  · exact Relation.ReflTransGen.refl

theorem toList_eq_nil_of_first (first : stack.connectionList.first = none) : stack.connectionList.toList = [] := by
  rw [ConnectionList.first_eq] at first
  cases entries : stack.connectionList.entries with
  | nil => simp [ConnectionList.toList, entries]
  | cons entry rest => simp [entries] at first

theorem closeAllConnections_empties (coherent : Coherent stack) :
    Settles stack.closeAllConnections
      (fun after => after.connectionList.toList = [] ∧
        ∀ slot ∈ stack.connectionList.toList, after.object slot = initializeEmpty) (fun _ => True) := by
  have walked : Settles stack.closeAllConnections
      (fun after => none = after.connectionList.first ∧ Coherent after ∧
        ∀ slot ∈ stack.connectionList.toList,
          slot ∈ after.connectionList.toList ∨ after.object slot = initializeEmpty) (fun _ => True) := by
    apply walk_settles fun next reached => next = reached.connectionList.first ∧ Coherent reached ∧
      ∀ slot ∈ stack.connectionList.toList,
        slot ∈ reached.connectionList.toList ∨ reached.object slot = initializeEmpty
    · rintro node reached ⟨_, reachedCoherent, each⟩
      apply (closeAllConnectionsVisit_closes reachedCoherent node).imp
      · rintro ⟨after, next⟩ ⟨sameNext, closing, listed, closed⟩
        have continues := Continues.of_closed reachedCoherent
          (reachedCoherent.opened closing listed).callable closed
        refine ⟨sameNext, continues.1.coherent, fun slot was => ?_⟩
        by_cases still : slot ∈ after.connectionList.toList
        · exact .inl still
        · exact .inr (closed.emptied (each slot was) still)
      · exact fun _ _ => trivial
    · trivial
    · exact ⟨rfl, coherent, fun slot listed => .inl listed⟩
  apply walked.mono
  rintro after ⟨first, _, each⟩
  have empty := toList_eq_nil_of_first first.symm
  refine ⟨empty, fun slot listed => (each slot listed).resolve_left ?_⟩
  simp [empty]

theorem closeListeners_removes (coherent : Coherent stack) (inputPoint : UInt32) :
    ∃ after, closeAllConnectionsForInputWithSameType connectionCloseFunction stack inputPoint .ioListenOnly =
        .ok after ∧ Removes stack after (stack.withTypeAndInput inputPoint .ioListenOnly) :=
  closeAll_leaves inputPoint .ioListenOnly 1 coherent.distinct fun other listed listens =>
    ⟨listenOnly_controls_nothing listens, (coherent.opened other listed).callable⟩

/-- The transfer to the next master, as it is written and as it is described. -/
theorem transferMasterConnection_eq :
    stack.transferMasterConnection slot =
      (stack.getNextNonControlMasterConnection (stack.object slot).producedPath.instanceId.toUInt32).map
        (stack.handedOver slot) := by
  unfold transferMasterConnection
  cases successor : stack.getNextNonControlMasterConnection
      (stack.object slot).producedPath.instanceId.toUInt32 with
  | none => rfl
  | some next => rfl

theorem handOver_handedOn (coherent : Coherent stack) {instanceType : ConnectionObjectInstanceType}
    {connectionType : ConnectionObjectConnectionType} (type : (stack.object slot).instanceType = instanceType)
    (tToO : (stack.object slot).getTToOConnectionType = connectionType) {raised : Fault → Prop} :
    Settles (handOver connectionCloseFunction instanceType connectionType stack slot)
      (fun result => HandedOn stack slot result.1 result.2) raised := by
  subst type tToO
  change Settles (if controlsMulticast (stack.object slot) = true then _ else _) _ _
  cases controls : controlsMulticast (stack.object slot) with
  | false => exact HandedOn.passive controls
  | true =>
      rw [if_pos rfl, transferMasterConnection_eq]
      cases successor : stack.getNextNonControlMasterConnection
          (stack.object slot).producedPath.instanceId.toUInt32 with
      | some next => exact HandedOn.succeeded controls successor
      | none =>
          obtain ⟨after, done, removes⟩ :=
            closeListeners_removes coherent (stack.object slot).producedPath.instanceId.toUInt32
          simp only [Option.map_none, done]
          exact HandedOn.last controls successor removes

/-- Only an exclusive owner takes other connections along, and none of its own type. -/
theorem closeDependentsOnTimeOut_closes (coherent : Coherent stack) (listed : slot ∈ stack.connectionList.toList)
    {instanceType : ConnectionObjectInstanceType} (type : slot.instanceType = instanceType) (handover : Bool) :
    Settles (closeDependentsOnTimeOut instanceType handover stack slot)
      (DependentsClosed slot (stack.object slot).producedPath.instanceId.toUInt32 handover stack)
      (· ≠ .nullNode) := by
  subst type
  unfold closeDependentsOnTimeOut
  split
  · rename_i owner
    apply Settles.bind (closeAll_closes coherent _ .ioInputOnly)
    intro middle closed
    have continues := ClosesOneOf.continues_all coherent closed
    have still := continues.spares slot listed ⟨by simp [owner.1], by simp [owner.1]⟩
    have path := (continues.same slot still).eq (·.producedPath) fun _ => rfl
    obtain ⟨after, done, removes⟩ := closeListeners_removes continues.coherent
      (middle.object slot).producedPath.instanceId.toUInt32
    rw [done]
    refine DependentsClosed.closed owner.1 owner.2 closed ?_
    rw [path]
    exact removes
  · rename_i independent
    exact DependentsClosed.kept independent

theorem closeSessionsOnTimeOut_aside (coherent : Coherent stack) :
    StandsAside named stack (stack.closeSessionsOnTimeOut peers slot) := by
  unfold closeSessionsOnTimeOut checkForTimedOutConnectionsAndCloseTCPConnections
  split
  · dsimp only
    split
    · exact StandsAside.of_ok (.refl stack)
    · exact closeEncapsulationSessionBySockAddr_aside coherent peers slot
  · exact StandsAside.of_ok (.refl stack)

theorem handleIoConnectionTimeOut_timedOut (coherent : Coherent stack)
    (established : (stack.object slot).state = .established) (io : slot.instanceType ≠ .explicitMessaging) :
    Settles (stack.handleIoConnectionTimeOut peers slot) (TimedOut named stack slot) (· ≠ .nullNode) := by
  have listed := (coherent.mem_iff slot).mpr (.inl established)
  have type := (coherent.opened slot listed).instanceType
  have timing : Continues (· = slot) stack (stack.timingOut slot) := timingOut_continues coherent listed io
  have timed : (stack.timingOut slot).object slot = (stack.object slot).setState .timedOut := by
    unfold timingOut modifyObject
    dsimp only
    rw [setObject_objects, Function.update_self]
    rfl
  have sessions : StandsAside named (stack.timingOut slot) ((stack.timingOut slot).closeSessionsOnTimeOut peers slot) :=
    closeSessionsOnTimeOut_aside timing.coherent
  unfold handleIoConnectionTimeOut
  apply Settles.bind sessions
  intro ended aside
  have endedCoherent := aside.coherent timing.coherent
  have endedObject : ended.object slot = (stack.object slot).setState .timedOut := (aside.object_eq io).trans timed
  have endedListed := (aside.mem_iff io).mpr (timing.spares slot listed rfl)
  apply Settles.bind (handOver_handedOn endedCoherent (by rw [endedObject]; rfl) (by rw [endedObject]; rfl))
  rintro ⟨handed, handover⟩ handedOn
  have continues := handedOn.continues endedCoherent endedListed
  have handedListed := continues.spares slot endedListed rfl
  have path : (handed.object slot).producedPath = (stack.object slot).producedPath := by
    rw [← (continues.same slot handedListed).eq (·.producedPath) fun _ => rfl, endedObject]
    rfl
  apply Settles.bind (closeDependentsOnTimeOut_closes continues.coherent handedListed type.symm handover)
  intro closed dependents
  rw [path] at dependents
  exact TimedOut.intro established io aside handedOn dependents

theorem closeSessionFirst_aside (slot : Slot config) :
    Settles (stack.checkForTimedOutConnectionsAndCloseTCPConnections closeSessionBySessionHandle slot)
      (fun after => Aside named stack after ∧ after.connectionList = stack.connectionList ∧
        after.object = stack.object) (· ≠ .nullNode) := by
  unfold checkForTimedOutConnectionsAndCloseTCPConnections
  dsimp only
  split
  · exact ⟨.refl stack, rfl, rfl⟩
  · have aside : StandsAside named stack (stack.closeSessionBySessionHandle slot) :=
      closeSessionBySessionHandle_aside slot
    exact aside.attach.imp (fun _ both => ⟨both.2, closeSessionBySessionHandle_table both.1⟩) fun _ => And.right

theorem class3ConnectionTimeoutHandler_aside (coherent : Coherent stack)
    (listed : slot ∈ stack.connectionList.toList) (explicit : slot.instanceType = .explicitMessaging) :
    StandsAside named stack (stack.class3ConnectionTimeoutHandler slot) := by
  apply Settles.bind (closeSessionFirst_aside slot)
  rintro closed ⟨first, list, object⟩
  have closedCoherent : Coherent closed := coherent.of_same_table list object
  have stillListed : slot ∈ closed.connectionList.toList := list ▸ listed
  have closes := (opened_explicit closedCoherent stillListed explicit).closeFunction
  have removes := closeConnection_removes closedCoherent.distinct closes
  refine first.trans ⟨⟨[slot], by simpa using explicit, removes.toUnlists⟩, ?_, ?_, [], by simp, ?_⟩
  · rw [removes.globals]
    rfl
  · rw [removes.globals]
    exact fun _ => .inl
  · rw [removes.traffic, List.flatMap_singleton, closedSockets_explicit closedCoherent stillListed explicit]

theorem connectionTimeoutFunction_proceeds (coherent : Coherent stack)
    (established : (stack.object slot).state = .established) :
    Proceeds named noting stack (stack.connectionTimeoutFunction peers slot) := by
  have listed := (coherent.mem_iff slot).mpr (.inl established)
  have opened := coherent.opened slot listed
  unfold connectionTimeoutFunction
  by_cases explicit : slot.instanceType = .explicitMessaging
  · have handler := (opened_explicit coherent listed explicit).timeoutFunction
    rw [handler]
    exact (class3ConnectionTimeoutHandler_aside coherent listed explicit).proceeds
  · have handler : (stack.object slot).connectionTimeoutFunction = some .handleIoConnectionTimeOut := by
      cases slot with
      | explicit i => exact absurd rfl explicit
      | exclusiveOwner i => exact OpenedIo.timeoutFunction opened
      | inputOnly i j => exact OpenedIo.timeoutFunction opened
      | listenOnly i j => exact OpenedIo.timeoutFunction opened
    rw [handler]
    exact (handleIoConnectionTimeOut_timedOut coherent established explicit).mono fun _ timedOut =>
      .single (.timedOut timedOut)

theorem checkInactivityWatchdog_proceeds (coherent : Coherent stack)
    (established : (stack.object slot).state = .established) :
    Proceeds named noting stack (checkInactivityWatchdog peers elapsedTime stack slot) := by
  unfold checkInactivityWatchdog
  split
  · split
    · exact connectionTimeoutFunction_proceeds coherent established
    · exact Proceeds.of_ok (evolves_of_counted (.quiet rfl rfl rfl rfl))
  · exact Proceeds.of_ok .refl

theorem countProductionInhibit_counted (object : CipConnectionObject) :
    Counted noting slot object (countProductionInhibit elapsedTime object) := by
  unfold countProductionInhibit
  split
  · exact .quiet rfl rfl rfl rfl
  · exact .quiet rfl rfl rfl rfl

theorem produceWhenDue_proceeds (established : (stack.object slot).state = .established)
    (produces : (stack.object slot).producingSocket ≠ kEipInvalidSocket) :
    Proceeds named noting stack (produceWhenDue elapsedTime stack slot) := by
  have counted : Counted noting slot (stack.object slot) (countProductionInhibit elapsedTime (stack.object slot)) :=
    countProductionInhibit_counted (stack.object slot)
  have inhibited : Evolves named noting stack (stack.modifyObject slot (countProductionInhibit elapsedTime)) :=
    evolves_of_counted counted
  have at_slot : (stack.modifyObject slot (countProductionInhibit elapsedTime)).object slot =
      countProductionInhibit elapsedTime (stack.object slot) := by
    rw [modifyObject, setObject_objects, Function.update_self]
  have still : ((stack.modifyObject slot (countProductionInhibit elapsedTime)).object slot).state = .established := by
    rw [at_slot, counted.eq (·.state) fun _ => rfl]
    exact established
  have producing : ((stack.modifyObject slot (countProductionInhibit elapsedTime)).object slot).producingSocket ≠
      kEipInvalidSocket := by
    rw [at_slot, counted.eq (·.producingSocket) fun _ => rfl]
    exact produces
  apply Proceeds.trans inhibited
  unfold produceWhenDue
  dsimp only
  split
  · apply Proceeds.bind
    · unfold connectionSendDataFunction
      split
      · exact Proceeds.of_error (by simp)
      · exact (sendConnectedData_sent still producing).mono fun _ sent => .single (.sent sent)
    · intro reached _
      exact Proceeds.of_ok (evolves_of_counted (.quiet rfl rfl rfl rfl))
  · exact Proceeds.of_ok (evolves_of_counted (.quiet rfl rfl rfl rfl))

theorem produce_proceeds : Proceeds named noting stack (produce elapsedTime stack slot) := by
  unfold produce
  split
  · rename_i active
    have producing := active.2
    simp only [isProducing, Bool.and_eq_true, bne_iff_ne] at producing
    exact produceWhenDue_proceeds active.1 producing.2
  · exact Proceeds.of_ok .refl

theorem serve_proceeds (coherent : Coherent stack) :
    Proceeds named noting stack (serve peers elapsedTime stack slot) := by
  unfold serve
  split
  · rename_i established
    apply Proceeds.bind (checkInactivityWatchdog_proceeds coherent established)
    intro checked _
    exact produce_proceeds
  · exact Proceeds.of_ok .refl

theorem manageEncapsulationMessages_aside :
    Aside named stack (stack.manageEncapsulationMessages elapsedTime) := by
  refine .of_same rfl rfl rfl rfl ?_
  have quiet : ((stack.delayedEncapsulationMessages.map (manageDelayedMessage elapsedTime)).flatMap
      Prod.snd).filter Effect.isTraffic = [] := by
    rw [List.filter_eq_nil_iff]
    intro effect member
    obtain ⟨managed, inside, sent⟩ := List.mem_flatMap.mp member
    obtain ⟨delayed, _, rfl⟩ := List.mem_map.mp inside
    unfold manageDelayedMessage at sent
    dsimp only at sent
    split at sent
    · split at sent
      · rw [List.mem_singleton.mp sent]
        simp [Effect.isTraffic]
      · cases sent
    · cases sent
  simp only [traffic, manageEncapsulationMessages, List.filter_append, List.filter_reverse, quiet]
  rfl

theorem manageConnections_proceeds (coherent : Coherent stack) :
    Proceeds named noting stack (manageConnections peers elapsedTime stack) := by
  have managed : Evolves named noting stack (stack.manageEncapsulationMessages elapsedTime) :=
    .single (.aside manageEncapsulationMessages_aside)
  apply walk_settles fun _ reached => Evolves named noting stack reached
  · intro node reached evolves
    unfold manageConnectionsVisit
    split
    · simp
    · apply Settles.bind (serve_proceeds (evolves.continues coherent).coherent)
      intro served next
      exact evolves.trans next
  · simp
  · exact managed

end Tick

end Stack

end EtherNetIP
