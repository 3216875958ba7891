import EtherNetIP.Cip.CloseAll
import EtherNetIP.Cip.Negotiation
import EtherNetIP.Cip.TickVisits
import EtherNetIP.Encap.SocketTimers

/-! When a round of the timer tick returns.

Counting and producing always do. A time-out does unless it runs into one of two
loops: the session of a class 3 connection that has ended already has no socket
to close, and the input-only connections of an exclusive owner may end in front
of a listener.
-/

set_option autoImplicit false

namespace EtherNetIP

open Library CipConnectionObject

variable {config : Configuration}

namespace Stack

variable {stack ended : Stack config} {slot : Slot config} {peers : Peers} {elapsedTime : MilliSeconds} {socket : Int}

/-- Another connection of the originator is still alive, or the session of this one is there to be closed. -/
def SessionCloses (stack : Stack config) (slot : Slot config) : Prop :=
  (∃ other ∈ stack.connectionList.toList, equalOriginator (stack.object slot) (stack.object other) = true ∧
      slot ≠ other ∧ (stack.object other).state ≠ .timedOut) ∨
    ∃ socket, stack.registeredSessions[((stack.object slot).associatedEncapsulationSession - 1).toNat]? = some socket ∧
      socket ≠ kEipInvalidSocket

/-- The exclusive owner holds no multicast stream, and when its sessions have been closed its input-only connections end
in front of a listener. -/
def DependentsDangle (peers : Peers) (stack : Stack config) (slot : Slot config) : Prop :=
  slot.instanceType = .ioExclusiveOwner ∧ controlsMulticast (stack.object slot) = false ∧
    ∃ ended, (stack.timingOut slot).closeSessionsOnTimeOut peers slot = .ok ended ∧
      EndsInFrontOfListener ended (stack.object slot).producedPath.instanceId.toUInt32 .ioInputOnly

def TimeOutReturns (peers : Peers) (stack : Stack config) (slot : Slot config) : Prop :=
  if slot.instanceType = .explicitMessaging then SessionCloses stack slot else ¬ DependentsDangle peers stack slot

theorem timeOutReturns_of_bystander (io : slot.instanceType ≠ .explicitMessaging)
    (bystander : slot.instanceType ≠ .ioExclusiveOwner) : TimeOutReturns peers stack slot := by
  rw [TimeOutReturns, if_neg io]
  exact fun dangles => bystander dangles.1

section Sessions

theorem closeTcpSocket_returns (valid : socket ≠ kEipInvalidSocket) : ∃ after, stack.closeTcpSocket socket = .ok after := by
  unfold closeTcpSocket removeSocketTimerFromList
  rw [if_neg fun both => valid both.1]
  exact ⟨_, rfl⟩

theorem closeSession_returns (coherent : Coherent stack) (valid : socket ≠ kEipInvalidSocket) :
    ∃ after, stack.closeSession socket = .ok after := by
  unfold closeSession
  split
  · exact ⟨stack, rfl⟩
  · rename_i index _
    obtain ⟨closed, done⟩ := @closeTcpSocket_returns config stack socket valid
    obtain ⟨list, object⟩ := closeTcpSocket_table done
    have cleared : Coherent (closed.setRegisteredSession index kEipInvalidSocket) := coherent.of_same_table list object
    obtain ⟨after, ends, _⟩ := closeClass3ConnectionBasedOnSession_spec cleared (sessionHandle index)
    rw [done, ok_bind]
    exact ⟨after, ends⟩

/-- The loop over the sessions stays within their table. -/
theorem closeEncapsulationSessionBySockAddr_returns (coherent : Coherent stack) (tables : TablesHold stack) :
    ∃ after, closeEncapsulationSessionBySockAddr peers stack slot = .ok after := by
  have total : Settles (closeEncapsulationSessionBySockAddr peers stack slot)
      (fun after => Coherent after ∧ TablesHold after) (fun _ => False) := by
    refine foldlM_settles_of_mem _ ?_ ⟨coherent, tables⟩
    rintro reached index inRange ⟨reachedCoherent, reachedTables⟩
    have within : index < reached.registeredSessions.length := by
      rw [reachedTables.whole]
      exact List.mem_range.mp inRange
    have aside : StandsAside (fun _ => False) reached
        (closeEncapsulationSessionVisit peers (stack.object slot).originatorAddress.sAddr reached index) :=
      closeEncapsulationSessionVisit_aside reachedCoherent peers _ index
    unfold closeEncapsulationSessionVisit at aside ⊢
    rw [List.getElem?_eq_getElem within] at aside ⊢
    dsimp only at aside ⊢
    split at aside
    · rename_i closes
      obtain ⟨after, done⟩ := closeSession_returns reachedCoherent closes.1
      have held := closeSession_tables reachedCoherent reachedTables reached.registeredSessions[index]
      rw [if_pos closes]
      rw [done] at aside held ⊢
      exact ⟨Aside.coherent aside reachedCoherent, held⟩
    · rename_i passes
      rw [if_neg passes]
      exact ⟨reachedCoherent, reachedTables⟩
  cases done : closeEncapsulationSessionBySockAddr peers stack slot with
  | ok after => exact ⟨after, rfl⟩
  | error fault => exact (total.raises done).elim

theorem closeSessionsOnTimeOut_returns (coherent : Coherent stack) (tables : TablesHold stack) :
    ∃ after, stack.closeSessionsOnTimeOut peers slot = .ok after := by
  unfold closeSessionsOnTimeOut checkForTimedOutConnectionsAndCloseTCPConnections
  split
  · dsimp only
    split
    · exact ⟨stack, rfl⟩
    · exact closeEncapsulationSessionBySockAddr_returns coherent tables
  · exact ⟨stack, rfl⟩

/-- A session without a socket has a timer without one, at which the loop over the timers stays. -/
theorem closeSessionBySessionHandle_returns_iff (tables : TablesHold stack) :
    (∃ after, stack.closeSessionBySessionHandle slot = .ok after) ↔
      ∃ socket, stack.registeredSessions[((stack.object slot).associatedEncapsulationSession - 1).toNat]? = some socket ∧
        socket ≠ kEipInvalidSocket := by
  unfold closeSessionBySessionHandle
  dsimp only
  cases found : stack.registeredSessions[((stack.object slot).associatedEncapsulationSession - 1).toNat]? with
  | none => exact iff_of_false (fun ⟨after, done⟩ => nomatch done) fun ⟨socket, same, _⟩ => nomatch same
  | some socket =>
      by_cases valid : socket = kEipInvalidSocket
      · refine iff_of_false ?_ fun ⟨other, same, differs⟩ => differs (Option.some.inj same ▸ valid)
        rintro ⟨after, done⟩
        have untimed : kEipInvalidSocket ∈ stack.timedSockets :=
          tables.timed.mem_iff.mpr (valid ▸ List.mem_of_getElem? found)
        have loops : (stack.shutdownSocketPlatform socket).timestamps.any (·.socket == kEipInvalidSocket) = true := by
          rw [List.any_eq_true]
          obtain ⟨timer, member, same⟩ := List.mem_map.mp untimed
          exact ⟨timer, member, beq_iff_eq.mpr same⟩
        dsimp only at done
        unfold closeTcpSocket removeSocketTimerFromList at done
        rw [if_pos ⟨valid, loops⟩] at done
        cases done
      · obtain ⟨closed, done⟩ := @closeTcpSocket_returns config stack socket valid
        dsimp only
        rw [done, ok_bind]
        exact iff_of_true ⟨_, rfl⟩ ⟨socket, rfl, valid⟩

theorem class3ConnectionTimeoutHandler_returns_iff (tables : TablesHold stack) :
    (∃ after, stack.class3ConnectionTimeoutHandler slot = .ok after) ↔ SessionCloses stack slot := by
  have first : (∃ after, stack.class3ConnectionTimeoutHandler slot = .ok after) ↔
      ∃ closed, stack.checkForTimedOutConnectionsAndCloseTCPConnections closeSessionBySessionHandle slot = .ok closed := by
    constructor
    · rintro ⟨after, done⟩
      obtain ⟨closed, closes, _⟩ := bind_eq_ok.mp done
      exact ⟨closed, closes⟩
    · rintro ⟨closed, closes⟩
      exact ⟨closed.closeConnection slot, bind_eq_ok.mpr ⟨closed, closes, rfl⟩⟩
  have found : (stack.connectionList.toList.any fun other => equalOriginator (stack.object slot) (stack.object other) &&
      slot != other && (stack.object other).state != .timedOut) = true ↔
      ∃ other ∈ stack.connectionList.toList, equalOriginator (stack.object slot) (stack.object other) = true ∧
        slot ≠ other ∧ (stack.object other).state ≠ .timedOut := by
    simp only [List.any_eq_true, Bool.and_eq_true, bne_iff_ne, and_assoc]
  rw [first]
  unfold checkForTimedOutConnectionsAndCloseTCPConnections SessionCloses
  dsimp only
  by_cases another : (stack.connectionList.toList.any fun other =>
      equalOriginator (stack.object slot) (stack.object other) && slot != other &&
        (stack.object other).state != .timedOut) = true
  · rw [if_pos another]
    exact iff_of_true ⟨stack, rfl⟩ (.inl (found.mp another))
  · rw [if_neg another, closeSessionBySessionHandle_returns_iff tables, ← found]
    exact (or_iff_right another).symm

end Sessions

section Dependents

/-- Without a hand-over of an exclusive owner its input-only connections are closed, which must not end in front of a
listener. -/
theorem closeDependentsOnTimeOut_returns_iff (coherent : Coherent stack) (instanceType : ConnectionObjectInstanceType)
    (handover : Bool) :
    (∃ after, closeDependentsOnTimeOut instanceType handover stack slot = .ok after) ↔
      ¬ (instanceType = .ioExclusiveOwner ∧ handover = false ∧
        EndsInFrontOfListener stack (stack.object slot).producedPath.instanceId.toUInt32 .ioInputOnly) := by
  unfold closeDependentsOnTimeOut
  by_cases remained : instanceType = .ioExclusiveOwner ∧ handover = false
  · rw [if_pos remained, ← and_assoc, and_iff_right remained, ← closeAll_returns_iff coherent]
    constructor
    · rintro ⟨after, done⟩
      obtain ⟨middle, inputOnly, _⟩ := bind_eq_ok.mp done
      exact ⟨middle, inputOnly⟩
    · rintro ⟨middle, inputOnly⟩
      have closes := (closeAll_closes coherent _ _).returns inputOnly
      obtain ⟨after, listeners, _⟩ := closeListeners_removes (ClosesOneOf.continues_all coherent closes).coherent
        (middle.object slot).producedPath.instanceId.toUInt32
      exact ⟨after, bind_eq_ok.mpr ⟨middle, inputOnly, listeners⟩⟩
  · rw [if_neg remained, ← and_assoc]
    exact iff_of_true ⟨stack, rfl⟩ fun both => remained both.1

theorem not_endsInFrontOfListener_of_removes {before : Stack config} {inputPoint : UInt32}
    {instanceType : ConnectionObjectInstanceType}
    (removes : Removes before stack (before.withTypeAndInput inputPoint .ioListenOnly)) :
    ¬ EndsInFrontOfListener stack inputPoint instanceType := by
  rintro ⟨_, front, other, next, back, list, _, _, listens⟩
  have listed : next ∈ stack.connectionList.toList := by simp [list]
  rw [removes.toList, List.mem_filter] at listed
  have remained : next ∉ before.withTypeAndInput inputPoint .ioListenOnly := by simpa using listed.2
  rw [removes.others next remained] at listens
  exact remained (List.mem_filter.mpr ⟨listed.1, listens⟩)

theorem handleIoConnectionTimeOut_returns_iff (coherent : Coherent stack) (tables : TablesHold stack)
    (listed : slot ∈ stack.connectionList.toList) (io : slot.instanceType ≠ .explicitMessaging) :
    (∃ after, stack.handleIoConnectionTimeOut peers slot = .ok after) ↔ ¬ DependentsDangle peers stack slot := by
  have type := (coherent.opened slot listed).instanceType
  have timing : Continues (· = slot) stack (stack.timingOut slot) := timingOut_continues coherent listed io
  have timed : (stack.timingOut slot).object slot = (stack.object slot).setState .timedOut := by
    unfold timingOut modifyObject
    dsimp only
    rw [setObject_objects, Function.update_self]
    rfl
  obtain ⟨ended, sessions⟩ := @closeSessionsOnTimeOut_returns config (stack.timingOut slot) slot peers timing.coherent
    (tables.of_same ⟨rfl, rfl⟩)
  have aside : Aside (fun _ => False) (stack.timingOut slot) ended :=
    (closeSessionsOnTimeOut_aside timing.coherent).returns sessions
  have endedCoherent := aside.coherent timing.coherent
  have endedListed := (aside.mem_iff io).mpr (timing.spares slot listed rfl)
  have object : ended.object slot = (stack.object slot).setState .timedOut := (aside.object_eq io).trans timed
  have handing : Settles (handOver connectionCloseFunction (stack.object slot).instanceType
      (stack.object slot).getTToOConnectionType ended slot)
      (fun result => HandedOn ended slot result.1 result.2) (fun _ => False) :=
    handOver_handedOn endedCoherent (congrArg (·.instanceType) object) (congrArg (·.getTToOConnectionType) object)
  -- neither the sessions nor the hand-over fail, so the closing loops decide
  cases hands : handOver connectionCloseFunction (stack.object slot).instanceType
      (stack.object slot).getTToOConnectionType ended slot with
  | error fault => exact (handing.raises hands).elim
  | ok result =>
      obtain ⟨handed, handover⟩ := result
      have handedOn : HandedOn ended slot handed handover := handing.returns hands
      have continues := handedOn.continues endedCoherent endedListed
      have path : (handed.object slot).producedPath = (stack.object slot).producedPath := by
        rw [← (continues.same slot (continues.spares slot endedListed rfl)).eq (·.producedPath) fun _ => rfl, object]
        rfl
      have returns : (∃ after, stack.handleIoConnectionTimeOut peers slot = .ok after) ↔
          ∃ closed, closeDependentsOnTimeOut (stack.object slot).instanceType handover handed slot = .ok closed := by
        unfold handleIoConnectionTimeOut
        dsimp only
        rw [sessions, ok_bind, hands, ok_bind]
        constructor
        · rintro ⟨after, done⟩
          obtain ⟨closed, closes, _⟩ := bind_eq_ok.mp done
          exact ⟨closed, closes⟩
        · rintro ⟨closed, closes⟩
          exact ⟨_, bind_eq_ok.mpr ⟨closed, closes, rfl⟩⟩
      have controls : controlsMulticast (ended.object slot) = controlsMulticast (stack.object slot) := by
        rw [object]
        rfl
      have only : (∃ other, (stack.timingOut slot).closeSessionsOnTimeOut peers slot = .ok other ∧
          EndsInFrontOfListener other (stack.object slot).producedPath.instanceId.toUInt32 .ioInputOnly) ↔
          EndsInFrontOfListener ended (stack.object slot).producedPath.instanceId.toUInt32 .ioInputOnly := by
        constructor
        · rintro ⟨other, done, ends⟩
          rw [sessions] at done
          cases done
          exact ends
        · exact fun ends => ⟨ended, sessions, ends⟩
      rw [returns, closeDependentsOnTimeOut_returns_iff continues.coherent, DependentsDangle, only, type, path, ← controls]
      refine not_congr (and_congr_right fun owner => ?_)
      cases handedOn with
      | passive passive => rw [passive]
      | succeeded held successor =>
          rw [held]
          exact iff_of_false (fun both => nomatch both.1) fun both => nomatch both.1
      | last held nobody removes =>
          rw [held]
          -- the listeners have gone with the stream, so none of them can be met
          refine iff_of_false (fun both => ?_) fun both => nomatch both.1
          rw [object] at removes
          exact not_endsInFrontOfListener_of_removes removes both.2

end Dependents

section Rounds

structure Serviceable (stack : Stack config) : Prop where
  coherent : Coherent stack
  tables : TablesHold stack
  sizes : HoldsOfIo (fun _ => SizesAgree config) stack

theorem Reached.serviceable (reached : Reached stack) : Serviceable stack :=
  ⟨reached.intact.coherent, reached.byCalls.tablesHold, reached.sizesAgree⟩

theorem Serviceable.of_continues {after : Stack config} {spared : Slot config → Prop} (serviceable : Serviceable stack)
    (continues : Continues spared stack after) (tables : TablesHold after) : Serviceable after where
  coherent := continues.coherent
  tables := tables
  sizes := by
    intro slot listed io
    refine (serviceable.sizes slot (continues.sublist.subset listed) io).congr ?_
    exact ((continues.same slot listed).eq sizeParameters fun _ => rfl)

theorem serve_serviceable (serviceable : Serviceable stack) :
    Settles (serve peers elapsedTime stack slot) Serviceable (fun _ => True) := by
  have proceeds : Proceeds (fun _ => False) (fun _ _ => False) stack (serve peers elapsedTime stack slot) :=
    serve_proceeds serviceable.coherent
  refine (proceeds.both (serve_tables serviceable.coherent serviceable.tables)).imp ?_ fun _ _ => trivial
  rintro after ⟨evolves, tables⟩
  exact serviceable.of_continues (evolves.continues serviceable.coherent) tables

def CanProduce (config : Configuration) (object : CipConnectionObject) : Prop :=
  isProducing object = true → object.connectionSendDataFunction = some .sendConnectedData ∧
    ∃ instanceNumber length, object.producingInstance = some instanceNumber ∧
      config.assemblyLength instanceNumber = some length

theorem Serviceable.canProduce (serviceable : Serviceable stack) (listed : slot ∈ stack.connectionList.toList) :
    CanProduce config (stack.object slot) := by
  intro producing
  have opened := serviceable.coherent.opened slot listed
  have socket : (stack.object slot).producingSocket ≠ kEipInvalidSocket := by
    simp only [isProducing, Bool.and_eq_true, bne_iff_ne] at producing
    exact producing.2
  have io : slot.instanceType ≠ .explicitMessaging := fun explicit =>
    socket (opened_explicit serviceable.coherent listed explicit).producingSocket
  have sized := serviceable.sizes slot listed io
  have openedIo : ∃ instanceType point, OpenedIo instanceType point (stack.object slot) := by
    cases slot with
    | explicit i => exact absurd rfl io
    | exclusiveOwner i => exact ⟨_, _, opened⟩
    | inputOnly i j => exact ⟨_, _, opened⟩
    | listenOnly i j => exact ⟨_, _, opened⟩
  obtain ⟨instanceType, point, openedIo⟩ := openedIo
  have produces : (stack.object slot).getTToOConnectionType ≠ .null := fun null => socket (openedIo.silent null)
  obtain ⟨length, known, _⟩ := sized.producer produces
  exact ⟨openedIo.sendDataFunction, _, length, openedIo.produces produces, known⟩

theorem connectionSendDataFunction_returns (can : CanProduce config (stack.object slot))
    (producing : isProducing (stack.object slot) = true) :
    ∃ after, stack.connectionSendDataFunction slot = .ok after := by
  obtain ⟨sends, instanceNumber, length, producer, known⟩ := can producing
  unfold connectionSendDataFunction sendConnectedData producedData
  rw [sends, producer]
  dsimp only
  rw [known]
  exact ⟨_, rfl⟩

theorem produce_returns (can : CanProduce config (stack.object slot)) :
    ∃ after, stack.produce elapsedTime slot = .ok after := by
  have counted : isProducing (countProductionInhibit elapsedTime (stack.object slot)) = isProducing (stack.object slot) ∧
      CanProduce config (countProductionInhibit elapsedTime (stack.object slot)) := by
    unfold countProductionInhibit
    split
    · exact ⟨rfl, can⟩
    · exact ⟨rfl, can⟩
  have own : (stack.modifyObject slot (countProductionInhibit elapsedTime)).object slot =
      countProductionInhibit elapsedTime (stack.object slot) := Function.update_self ..
  unfold produce
  split
  · rename_i active
    unfold produceWhenDue
    dsimp only
    split
    · rw [← own] at counted
      obtain ⟨sent, done⟩ := connectionSendDataFunction_returns counted.2 (counted.1.trans active.2)
      rw [done]
      exact ⟨_, rfl⟩
    · exact ⟨_, rfl⟩
  · exact ⟨stack, rfl⟩

theorem connectionTimeoutFunction_returns_iff (serviceable : Serviceable stack)
    (listed : slot ∈ stack.connectionList.toList) :
    (∃ after, stack.connectionTimeoutFunction peers slot = .ok after) ↔ TimeOutReturns peers stack slot := by
  have opened := serviceable.coherent.opened slot listed
  unfold connectionTimeoutFunction TimeOutReturns
  by_cases explicit : slot.instanceType = .explicitMessaging
  · rw [(opened_explicit serviceable.coherent listed explicit).timeoutFunction, if_pos explicit]
    exact class3ConnectionTimeoutHandler_returns_iff serviceable.tables
  · rw [if_neg explicit, ← handleIoConnectionTimeOut_returns_iff serviceable.coherent serviceable.tables listed explicit]
    cases slot with
    | explicit i => exact absurd rfl explicit
    | exclusiveOwner i => rw [OpenedIo.timeoutFunction opened]
    | inputOnly i j => rw [OpenedIo.timeoutFunction opened]
    | listenOnly i j => rw [OpenedIo.timeoutFunction opened]

/-- A round returns exactly if no time-out of the connection runs into one of the loops. -/
theorem serve_returns_iff (serviceable : Serviceable stack) (listed : slot ∈ stack.connectionList.toList) :
    (∃ after, serve peers elapsedTime stack slot = .ok after) ↔
      (TimesOut elapsedTime (stack.object slot) → TimeOutReturns peers stack slot) := by
  by_cases expired : TimesOut elapsedTime (stack.object slot)
  · rw [forall_prop_of_true expired, ← connectionTimeoutFunction_returns_iff serviceable listed]
    obtain ⟨established, watched, late⟩ := expired
    unfold serve checkInactivityWatchdog
    rw [if_pos established, if_pos watched, if_pos late]
    constructor
    · rintro ⟨after, done⟩
      obtain ⟨ended, timedOut, _⟩ := bind_eq_ok.mp done
      exact ⟨ended, timedOut⟩
    · rintro ⟨ended, timedOut⟩
      have ends := (connectionTimeoutFunction_ends serviceable.coherent established).returns timedOut
      refine ⟨ended, bind_eq_ok.mpr ⟨ended, timedOut, ?_⟩⟩
      unfold produce
      rw [if_neg fun both => ends.2.1 both.1]
  · refine iff_of_true ?_ fun late => absurd late expired
    have can := serviceable.canProduce listed
    unfold serve checkInactivityWatchdog
    split
    · rename_i established
      split
      · rename_i watched
        rw [if_neg fun late => expired ⟨established, watched, late⟩]
        refine produce_returns ?_
        rw [modifyObject, setObject_objects, Function.update_self]
        exact can
      · exact produce_returns can
    · exact ⟨stack, rfl⟩

end Rounds

end Stack

end EtherNetIP
