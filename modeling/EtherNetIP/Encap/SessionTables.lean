import EtherNetIP.Cip.IoOpenings
import EtherNetIP.Library.PairedTables

/-! What leaves the session table and the socket timers alone.

The connection manager opens, serves and closes connections without a look at
either table; only ending the sessions of a timed-out connection reaches them.
-/

set_option autoImplicit false

namespace EtherNetIP

open Library CipConnectionObject

variable {config : Configuration}

namespace Stack

variable {stack before middle after room asked : Stack config} {slot next : Slot config}

structure SameSessions (before after : Stack config) : Prop where
  sessions : after.registeredSessions = before.registeredSessions
  timers : after.timestamps = before.timestamps

def KeepsSessions (stack : Stack config) (computation : Except Fault (Stack config)) : Prop :=
  Settles computation (SameSessions stack) (fun _ => True)

namespace SameSessions

theorem refl (stack : Stack config) : SameSessions stack stack := ⟨rfl, rfl⟩

theorem trans (first : SameSessions before middle) (second : SameSessions middle after) :
    SameSessions before after :=
  ⟨second.sessions.trans first.sessions, second.timers.trans first.timers⟩

theorem of_removes {gone : List (Slot config)} (removes : Removes before after gone) : SameSessions before after := by
  rw [removes.globals]
  exact ⟨rfl, rfl⟩

theorem of_closed (closed : Closed before slot after) : SameSessions before after := by
  rw [closed.globals]
  exact ⟨rfl, rfl⟩

theorem of_closes {instanceType : ConnectionObjectInstanceType}
    (closes : Relation.ReflTransGen (ClosesOneOf instanceType) before after) : SameSessions before after := by
  induction closes with
  | refl => exact refl before
  | tail _ last ih =>
      obtain ⟨slot, _, _, closed⟩ := last
      exact ih.trans (of_closed closed)

theorem of_handedOn {handover : Bool} (handedOn : HandedOn before slot after handover) : SameSessions before after := by
  cases handedOn with
  | passive passive => exact refl before
  | succeeded controls successor => exact ⟨rfl, rfl⟩
  | last controls nobody removes => exact of_removes removes

theorem of_dependents {inputPoint : UInt32} {handover : Bool}
    (dependents : DependentsClosed slot inputPoint handover before after) : SameSessions before after := by
  cases dependents with
  | kept independent => exact refl before
  | closed owner remained inputOnly listeners => exact (of_closes inputOnly).trans (of_removes listeners)

theorem of_drafts (drafts : Drafts slot before after) : SameSessions before after := by
  rw [drafts]
  exact ⟨rfl, rfl⟩

theorem of_requested (requested : Requested before after) : SameSessions before after := by
  rw [requested]
  exact ⟨rfl, rfl⟩

theorem of_roomMade (made : RoomMade before slot room) : SameSessions before room := by
  cases made with
  | free absent => exact refl before
  | closed listed closed => exact of_closed closed
  | emptied absent removes => exact of_removes removes

theorem of_refused {udpSocket : UdpSocket} (refused : Refused asked udpSocket after) : SameSessions asked after := by
  cases refused with
  | untouched same =>
      rw [same]
      exact ⟨rfl, rfl⟩
  | drafted slot room made absent drafts =>
      obtain drafts | drafts := drafts
      · exact (of_roomMade made).trans (of_drafts drafts)
      · have created : SameSessions room (room.socketCreated udpSocket) := ⟨rfl, rfl⟩
        exact (of_roomMade made).trans (created.trans (of_drafts drafts))

theorem of_accepted {network : Network} (coherent : Coherent asked) (accepted : Accepted asked network after) :
    SameSessions asked after := by
  cases accepted with
  | nothing entry same =>
      rw [same]
      exact refl asked
  | explicit entry slot connectionList opened =>
      rw [opened.after]
      exact ⟨rfl, rfl⟩
  | io entry opening ends =>
      have room : SameSessions asked opening.room := by
        rw [makeRoom_globals coherent ends.made]
        exact ⟨rfl, rfl⟩
      obtain ⟨_, channels⟩ := openCommunicationChannels_ok
        (show opening.choice.slot ∉ (opening.readied asked).connectionList.toList from ends.absent) ends.channels
      have opened : SameSessions opening.room opening.opened := by
        rw [channels]
        exact ⟨rfl, rfl⟩
      apply (room.trans opened).trans
      rw [ends.after]
      exact ⟨rfl, rfl⟩

end SameSessions

theorem KeepsSessions.of_ok (same : SameSessions stack after) : KeepsSessions stack (.ok after) := same

theorem KeepsSessions.trans {computation : Except Fault (Stack config)} (first : SameSessions stack middle)
    (second : KeepsSessions middle computation) : KeepsSessions stack computation :=
  Settles.mono second fun _ => first.trans

theorem forwardOpenRoutine_sessions (intact : Intact stack) (isLfo : Bool) (request : Request) :
    KeepsSessions stack ((stack.forwardOpenRoutine isLfo request).map Prod.snd) := by
  cases answered : stack.forwardOpenRoutine isLfo request with
  | error fault => trivial
  | ok result =>
      obtain ⟨response, after⟩ := result
      cases forwardOpenRoutine_ok intact answered with
      | refused failure leaves =>
          obtain ⟨asked, requested, refused⟩ := forwardOpenRoutine_refused intact answered failure
          exact (SameSessions.of_requested requested).trans (.of_refused refused)
      | accepted asked admission accepted head first reply =>
          have requested : Requested stack asked := by rw [Requested, (admitted_admits admission).same]
          obtain ⟨⟨same, _, _⟩, _⟩ := admitted_spec intact.pristine admission
          have coherent : Coherent asked := intact.coherent.of_same_table same.1 same.2
          exact (SameSessions.of_requested requested).trans (.of_accepted coherent accepted)

theorem forwardClose_sessions (coherent : Coherent stack) (request : Request) :
    KeepsSessions stack ((stack.forwardClose request).map Prod.snd) := by
  let cleared : Stack config := { stack with
    addressInfoItems := ⟨{ request.addressInfoItems.first with typeId := 0 },
      { request.addressInfoItems.second with typeId := 0 }⟩ }
  have same : SameSessions stack cleared := ⟨rfl, rfl⟩
  have clearedCoherent : Coherent cleared := coherent.of_same_table rfl rfl
  apply KeepsSessions.trans same
  apply settles_map_snd
  change Settles (cleared.closeRequestedConnection request) _ _
  unfold closeRequestedConnection
  split
  split
  · exact .refl cleared
  · rename_i slot found
    obtain ⟨after, done, closed⟩ := clearedCoherent.connectionCloseFunction_closed
      (clearedCoherent.opened slot (findConnection_mem found).1).callable
    split
    · trivial
    · split
      · rw [done]
        exact SameSessions.of_closed closed
      · exact .refl cleared

section IoData

theorem notifyAssemblyConnectedDataReceived_sessions (instanceNumber : CipInstanceNum) (data : List CipOctet)
    (dataLength : Nat) :
    Settles (stack.notifyAssemblyConnectedDataReceived instanceNumber data dataLength)
      (fun result => SameSessions stack result.2) (fun _ => True) := by
  unfold notifyAssemblyConnectedDataReceived
  split
  · trivial
  · split
    · exact .refl stack
    · exact ⟨rfl, rfl⟩

theorem receiveAssemblyData_sessions (consuming : Option CipInstanceNum) (noNewData : Bool) (data : List CipOctet)
    (dataLength : UInt16) :
    KeepsSessions stack (stack.receiveAssemblyData consuming noNewData data dataLength) := by
  unfold receiveAssemblyData
  split
  · exact .refl stack
  · split
    · trivial
    · apply Settles.bind (notifyAssemblyConnectedDataReceived_sessions _ _ _)
      exact fun _ same => same

theorem receiveBehindSequenceCount_sessions (consuming : Option CipInstanceNum) (noNewData : Bool)
    (data : List CipOctet) (dataLength : UInt16) :
    KeepsSessions stack (stack.receiveBehindSequenceCount consuming noNewData data dataLength) := by
  unfold receiveBehindSequenceCount
  split
  · split
    · have runIdle (header : UInt32) : SameSessions stack (stack.receiveRunIdle header) := by
        unfold receiveRunIdle
        dsimp only
        split <;> exact ⟨rfl, rfl⟩
      exact KeepsSessions.trans (runIdle _) (receiveAssemblyData_sessions _ _ _ _)
    · exact receiveAssemblyData_sessions _ _ _ _
  · exact .refl stack

theorem handleReceivedConnectedData_sessions (received : ConnectedData) :
    KeepsSessions stack (stack.handleReceivedConnectedData received) := by
  have nothing : KeepsSessions stack (.ok stack) := .of_ok (.refl stack)
  have modified (stack : Stack config) (slot : Slot config) (change : CipConnectionObject → CipConnectionObject) :
      SameSessions stack (stack.modifyObject slot change) := ⟨rfl, rfl⟩
  unfold handleReceivedConnectedData
  split
  · split
    · split
      · exact nothing
      · split
        · unfold receiveFromOriginator
          dsimp only
          apply KeepsSessions.trans (modified stack _ resetLastPackageInactivityTimer)
          split
          · apply KeepsSessions.trans (modified _ _ (acceptSequenceNumber received.sequenceNumber))
            split
            · exact .refl _
            · unfold handleReceivedIoConnectionData
              dsimp only
              split
              · exact KeepsSessions.trans (modified _ _ _) (receiveBehindSequenceCount_sessions _ _ _ _)
              · exact receiveBehindSequenceCount_sessions _ _ _ _
          · exact .refl _
        · exact nothing
    · exact nothing
  · exact nothing

theorem sendConnectedData_sessions : KeepsSessions stack (stack.sendConnectedData slot) := by
  unfold sendConnectedData
  dsimp only
  cases stack.producedData (stack.object slot).producingInstance with
  | error fault => trivial
  | ok produced => exact ⟨rfl, rfl⟩

end IoData

theorem receiveConnectedMessage_sessions (addressInfoItems : AddressInfoItems) (connectionIdentifier : UInt32)
    (sequenceCount : Option UInt16) :
    SameSessions stack (stack.receiveConnectedMessage addressInfoItems connectionIdentifier sequenceCount) := by
  unfold receiveConnectedMessage
  dsimp only
  split
  · exact ⟨rfl, rfl⟩
  · split
    · exact ⟨rfl, rfl⟩
    · split <;> exact ⟨rfl, rfl⟩

theorem closeAllConnections_sessions (coherent : Coherent stack) : KeepsSessions stack stack.closeAllConnections := by
  have walked : Settles stack.closeAllConnections (fun after => Coherent after ∧ SameSessions stack after)
      (fun _ => True) := by
    apply walk_settles fun _ reached => Coherent reached ∧ SameSessions stack reached
    · rintro node reached ⟨reachedCoherent, same⟩
      apply (closeAllConnectionsVisit_closes reachedCoherent node).imp
      · rintro ⟨after, next⟩ ⟨_, slot, listed, closed⟩
        have continues := Continues.of_closed reachedCoherent (reachedCoherent.opened slot listed).callable closed
        exact ⟨continues.1.coherent, same.trans (.of_closed closed)⟩
      · exact fun _ _ => trivial
    · trivial
    · exact ⟨coherent, .refl stack⟩
  exact walked.mono fun _ => And.right

section Tick

variable {elapsedTime : MilliSeconds}

theorem produceWhenDue_sessions : KeepsSessions stack (produceWhenDue elapsedTime stack slot) := by
  have inhibited : SameSessions stack (stack.modifyObject slot (countProductionInhibit elapsedTime)) := ⟨rfl, rfl⟩
  apply KeepsSessions.trans inhibited
  unfold produceWhenDue connectionSendDataFunction
  dsimp only
  split
  · split
    · trivial
    · apply Settles.bind sendConnectedData_sessions
      exact fun _ same => same.trans ⟨rfl, rfl⟩
  · exact ⟨rfl, rfl⟩

theorem produce_sessions : KeepsSessions stack (produce elapsedTime stack slot) := by
  unfold produce
  split
  · exact produceWhenDue_sessions
  · exact .refl stack

theorem closeConnection_sessions : SameSessions stack (stack.closeConnection slot) := by
  unfold closeConnection closeUdpSocket closeSocket
  dsimp only
  split
  · split <;> split <;> exact ⟨rfl, rfl⟩
  · exact ⟨rfl, rfl⟩

end Tick

end Stack

end EtherNetIP
