import EtherNetIP.Cip.Acceptance

/-! What a Forward Open leaves of the connection table, whatever its answer.

Room may have been made for the request. A refused one has then written nothing
of the table but the object it was to be opened in, which is not listed; the
datagram socket it was to use may have been created all the same.
-/

set_option autoImplicit false

namespace EtherNetIP

open Library CipConnectionObject

variable {config : Configuration}

def UdpSocket.handle : UdpSocket → Int
  | .notCreated => kEipInvalidSocket
  | .blocking handle | .notBound handle | .bound handle => handle

def UdpSocket.traffic : UdpSocket → List Effect
  | .notCreated | .blocking _ => []
  | .notBound handle => [.closeSocket handle, .udpSocketCreated handle]
  | .bound handle => [.udpSocketCreated handle]

namespace Stack

variable {asked before middle after : Stack config} {slot other : Slot config}

/-- Room for a request: the object was free, its connection has been closed, or it has been emptied though it
was not listed. -/
inductive RoomMade (before : Stack config) (slot : Slot config) : Stack config → Prop
  | free (absent : slot ∉ before.connectionList.toList) : RoomMade before slot before
  | closed {room : Stack config} (listed : slot ∈ before.connectionList.toList) (closed : Closed before slot room) :
      RoomMade before slot room
  | emptied {room : Stack config} (absent : slot ∉ before.connectionList.toList)
      (removes : Removes before room [slot]) : RoomMade before slot room

theorem makeRoom_made {choice : SlotChoice config} {instanceType : ConnectionObjectInstanceType}
    {object : CipConnectionObject} {room : Stack config} (coherent : Coherent asked)
    (chosen : asked.chooseIoConnection object = .ok (choice, instanceType))
    (made : asked.makeRoom choice = .ok room) : RoomMade asked choice.slot room := by
  unfold makeRoom at made
  split at made
  · by_cases listed : choice.slot ∈ asked.connectionList.toList
    · obtain ⟨after, done, closed⟩ :=
        coherent.connectionCloseFunction_closed (coherent.opened choice.slot listed).callable
      cases done.symm.trans made
      exact .closed listed closed
    · by_cases callable : (asked.object choice.slot).connectionCloseFunction = none
      · simp [connectionCloseFunction, callCloseFunction, callable] at made
      · obtain ⟨after, done, removes⟩ := connectionCloseFunction_unlisted coherent listed callable
        cases done.symm.trans made
        exact .emptied listed removes
  · rename_i nothing
    cases made
    exact .free (chooseIoConnection_free coherent chosen (by simpa using nothing))

/-- Only the object in the slot has been written, and what no connection owns. -/
def Drafts (slot : Slot config) (before after : Stack config) : Prop :=
  after = { before with
    object := Function.update before.object slot (after.object slot), dummy := after.dummy
    connectionId := after.connectionId, assemblyData := after.assemblyData
    addressInfoItems := after.addressInfoItems }

namespace Drafts

theorem refl (slot : Slot config) (stack : Stack config) : Drafts slot stack stack := by
  simp [Drafts]

theorem trans (first : Drafts slot before middle) (second : Drafts slot middle after) : Drafts slot before after := by
  rw [Drafts, second, first]
  simp

theorem setObject (slot : Slot config) (stack : Stack config) (object : CipConnectionObject) :
    Drafts slot stack (stack.setObject slot object) := by
  simp [Drafts, Stack.setObject]

theorem modifyObject (slot : Slot config) (stack : Stack config) (change : CipConnectionObject → CipConnectionObject) :
    Drafts slot stack (stack.modifyObject slot change) :=
  setObject slot stack _

end Drafts

section Stages

variable {stack : Stack config} {network : Network}

def DraftsOnly (slot : Slot config) (stack : Stack config) (computation : Except (Stop config) (Stack config)) : Prop :=
  Settles computation (Drafts slot stack) (Refuses (fun _ => True) fun _ after => Drafts slot stack after)

theorem DraftsOnly.bind {first : Except (Stop config) (Stack config)}
    {next : Stack config → Except (Stop config) (Stack config)} (head : DraftsOnly slot stack first)
    (tail : ∀ middle, DraftsOnly slot middle (next middle)) : DraftsOnly slot stack (first >>= next) :=
  Settles.bind head fun middle drafts => (tail middle).imp (fun _ => drafts.trans) fun stop =>
    Refuses.mono (fun _ _ => drafts.trans) stop

theorem draftsOnly_connectionFailure (drafts : Drafts slot stack after) (extendedStatus : UInt16) :
    DraftsOnly slot stack (after.connectionFailure extendedStatus) := drafts

theorem prepareIoConnection_drafts : DraftsOnly slot stack (stack.prepareIoConnection slot) := by
  unfold prepareIoConnection
  split
  · exact draftsOnly_connectionFailure (.refl slot stack) _
  · rename_i object _
    have called : Drafts slot stack (stack.setObject slot (setIoConnectionCallbacks object)) := .setObject slot stack _
    have configured : Drafts slot (stack.setObject slot (setIoConnectionCallbacks object))
        ((stack.setObject slot (setIoConnectionCallbacks object)).connectionObjectGeneralConfiguration slot) := by
      rw [connectionObjectGeneralConfiguration_exact, Drafts]
      simp [Stack.setObject]
    exact (called.trans configured).trans (Drafts.modifyObject slot _ _)

theorem setupConsumerSide_drafts : DraftsOnly slot stack (stack.setupConsumerSide slot) := by
  have written : Drafts slot stack (stack.setObject slot (setConsumer (stack.object slot))) := .setObject slot stack _
  unfold setupConsumerSide
  split
  · unfold setupIoConnectionOriginatorToTargetConnectionPoint
    dsimp only
    split
    · exact draftsOnly_connectionFailure (.refl slot stack) _
    · split
      · trivial
      · split
        · refine draftsOnly_connectionFailure (written.trans ?_) _
          simp [Drafts]
        · exact written
  · exact Drafts.refl slot stack

theorem setupProducerSide_drafts : DraftsOnly slot stack (stack.setupProducerSide slot) := by
  have written : Drafts slot stack (stack.setObject slot (setProducer (stack.object slot))) := .setObject slot stack _
  unfold setupProducerSide
  split
  · unfold setupIoConnectionTargetToOriginatorConnectionPoint
    dsimp only
    split
    · exact draftsOnly_connectionFailure (.refl slot stack) _
    · split
      · exact draftsOnly_connectionFailure (.refl slot stack) _
      · split
        · trivial
        · split
          · refine draftsOnly_connectionFailure (written.trans ?_) _
            simp [Drafts]
          · exact written
  · exact Drafts.refl slot stack

theorem setupIoConnection_drafts : DraftsOnly slot stack (stack.setupIoConnection slot) :=
  prepareIoConnection_drafts.bind fun _ => setupConsumerSide_drafts.bind fun _ => setupProducerSide_drafts

theorem handleSentConfigData_drafts : DraftsOnly slot stack (stack.handleSentConfigData slot) := by
  have configures {after : Stack config} (configures : Configures slot stack after) : Drafts slot stack after := by
    rw [configures, Drafts]
    simp
  exact handleSentConfigData_spec.imp (fun _ => configures) fun stop refuses => by
    cases stop with
    | fault fault => trivial
    | refused refusal after => exact configures refuses

def socketCreated (stack : Stack config) (udpSocket : UdpSocket) : Stack config :=
  { stack with udpIoMessaging := udpSocket.handle, effects := udpSocket.traffic ++ stack.effects }

theorem createUdpSocket_ok {udpSocket : UdpSocket} (done : stack.createUdpSocket udpSocket = .ok after) :
    after = stack.socketCreated udpSocket := by
  cases udpSocket with
  | notCreated =>
      cases done
      rfl
  | blocking handle => cases done
  | notBound handle =>
      have valid : kEipInvalidSocket ≠ (handle : Int) := by
        unfold kEipInvalidSocket
        omega
      simp only [createUdpSocket, closeUdpSocket, closeSocket, if_pos valid, Except.ok.injEq] at done
      rw [← done]
      rfl
  | bound handle =>
      cases done
      rfl

theorem socketCreated_traffic (stack : Stack config) (udpSocket : UdpSocket) :
    (stack.socketCreated udpSocket).traffic = udpSocket.traffic ++ stack.traffic := by
  unfold traffic socketCreated
  rw [List.filter_append]
  cases udpSocket <;> rfl

theorem Drafts.socketCreated (udpSocket : UdpSocket) (drafts : Drafts slot before after) :
    Drafts slot (before.socketCreated udpSocket) (after.socketCreated udpSocket) := by
  rw [Drafts, drafts]
  simp [Stack.socketCreated]

theorem openConsuming_drafts : Drafts slot stack (stack.openConsuming network slot).2 := by
  unfold openConsuming
  split
  · unfold openMulticastConnection
    dsimp only
    split
    · exact .refl slot stack
    · split
      · simp [Drafts]
      · split
        · simp [Drafts]
        · simp [Drafts, Stack.modifyObject, Stack.setObject]
  · unfold openConsumingPointToPointConnection
    split
    · exact .refl slot stack
    · dsimp only
      split
      · exact .refl slot stack
      · simp [Drafts, Stack.modifyObject, Stack.setObject]
  · exact .refl slot stack

theorem openProducing_refused {stack after : Stack config} (refused : stack.openProducing network slot = (false, after)) :
    Drafts slot stack after := by
  unfold openProducing at refused
  split at refused
  · unfold openProducingMulticastConnection at refused
    dsimp only at refused
    split at refused
    · cases refused
      exact .refl slot stack
    · split at refused
      · unfold openMulticastConnection at refused
        dsimp only at refused
        split at refused
        · cases refused
          simp [Drafts]
        · split at refused
          · cases refused
            simp [Drafts]
          · split at refused
            · cases refused
              simp [Drafts]
            · cases refused
      · cases refused
  · unfold openProducingPointToPointConnection at refused
    dsimp only at refused
    split at refused
    · cases refused
      exact .modifyObject slot stack _
    · cases refused
  · cases refused

theorem openCommunicationChannels_refused :
    Settles (stack.openCommunicationChannels network slot) (fun _ => True)
      (Refuses (fun _ => True) fun _ after => Drafts slot (stack.socketCreated network.udpSocket) after) := by
  unfold openCommunicationChannels
  cases created : stack.createUdpSocket network.udpSocket with
  | error fault => trivial
  | ok bound =>
      rw [← createUdpSocket_ok created]
      have consuming : Drafts slot bound (bound.openConsuming network slot).2 := openConsuming_drafts
      simp only [orStop, ok_bind]
      generalize bound.openConsuming network slot = opened at consuming ⊢
      obtain ⟨opened, middle⟩ := opened
      cases opened with
      | false => exact consuming
      | true =>
          simp only [orConnectionFailure, ok_bind]
          cases produced : middle.openProducing network slot with
          | mk producing after =>
              cases producing with
              | false => exact consuming.trans (openProducing_refused produced)
              | true => trivial

end Stages

/-- What a request leaves that is refused behind the path parser: nothing but the buffer object has been
written, or room was made and a draft written, before or after the socket was asked for. -/
inductive Refused (asked : Stack config) (udpSocket : UdpSocket) (after : Stack config) : Prop
  | untouched (same : after = { asked with dummy := after.dummy })
  | drafted (slot : Slot config) (room : Stack config) (made : RoomMade asked slot room)
      (absent : slot ∉ room.connectionList.toList)
      (drafts : Drafts slot room after ∨ Drafts slot (room.socketCreated udpSocket) after)

theorem Refused.withDummy {udpSocket : UdpSocket} (refused : Refused asked udpSocket after)
    (dummy : CipConnectionObject) : Refused asked udpSocket { after with dummy } := by
  cases refused with
  | untouched same =>
      apply Refused.untouched
      rw [same]
  | drafted slot room made absent drafts =>
      have rest (stack : Stack config) : Drafts slot after { after with dummy } := by simp [Drafts]
      exact .drafted slot room made absent (drafts.imp (·.trans (rest room)) (·.trans (rest room)))

theorem openIoConnection_refused {network : Network} (coherent : Coherent asked) :
    Settles (asked.openIoConnection network) (fun _ => True)
      (Refuses (fun _ => True) fun _ after => Refused asked network.udpSocket after) := by
  unfold openIoConnection
  rw [getIoConnectionForConnectionData_eq]
  split
  · exact Refused.untouched rfl
  · rename_i choice instanceType chosen
    cases made : asked.makeRoom choice with
    | error fault => trivial
    | ok room =>
        have absent := ((makeRoom_spec coherent chosen).returns made).2
        have roomMade := makeRoom_made coherent chosen made
        simp only [orStop, ok_bind]
        have copied : Drafts choice.slot room (room.copied choice.slot (room.dummy.setInstanceType instanceType)) := by
          simp [Drafts, Stack.copied, connectionObjectDeepCopy, Stack.setObject]
        generalize room.copied choice.slot (room.dummy.setInstanceType instanceType) = requested at copied
        have refuses {stack : Stack config} (drafts : Drafts choice.slot room stack) (stop : Stop config)
            (stops : Refuses (fun _ => True) (fun _ after => Drafts choice.slot stack after) stop) :
            Refuses (fun _ => True) (fun _ after => Refused asked network.udpSocket after) stop :=
          Refuses.mono (fun _ _ later => .drafted choice.slot room roomMade absent (.inl (drafts.trans later))) stop stops
        apply Settles.bind (setupIoConnection_drafts.imp (fun _ => copied.trans) (refuses copied))
        intro checked drafts
        apply Settles.bind (handleSentConfigData_drafts.imp (fun _ => drafts.trans) (refuses drafts))
        intro written drafts
        apply Settles.bind (openCommunicationChannels_refused.imp (fun _ => id) ?_)
        · exact fun _ _ => trivial
        · apply Refuses.mono
          intro refusal after later
          exact .drafted choice.slot room roomMade absent (.inr ((drafts.socketCreated _).trans later))

theorem openConnection_refused {network : Network} (coherent : Coherent asked) :
    Settles (asked.openConnection network) (fun _ => True)
      (Refuses (fun _ => True) fun _ after => Refused asked network.udpSocket after) := by
  have orStop_any {α : Type} (computation : Except Fault α) : Settles (orStop computation) (fun _ => True)
      (Refuses (fun _ => True) fun _ after => Refused asked network.udpSocket after) := by
    cases computation <;> trivial
  unfold openConnection
  split
  · exact Refused.untouched rfl
  · trivial
  · unfold establishClass3Connection
    split
    · exact Refused.untouched rfl
    · exact orStop_any _
  · unfold establishIoConnection
    apply Settles.bind (openIoConnection_refused coherent)
    intro opened _
    exact Settles.bind (orStop_any _) fun _ _ => trivial

def Requested (stack asked : Stack config) : Prop :=
  asked = { stack with addressInfoItems := asked.addressInfoItems, dummy := asked.dummy, configData := asked.configData }

theorem forwardOpenRoutine_refused {stack : Stack config} (intact : Intact stack) {isLfo : Bool} {request : Request}
    {response : Response} (answered : stack.forwardOpenRoutine isLfo request = .ok (response, after))
    (failure : response.generalStatus ≠ kCipErrorSuccess) :
    ∃ asked, Requested stack asked ∧ Refused asked request.network.udpSocket after := by
  obtain ⟨⟨data, reading⟩, read, answer⟩ := bind_eq_ok.mp answered
  have requested : Requested stack reading := by
    rw [Requested, (readForwardOpen_ok read).1]
  dsimp only at answer
  cases outcome : reading.checkForwardOpen request data with
  | ok opened =>
      rw [outcome] at answer
      unfold answerForwardOpen at answer
      dsimp only at answer
      split at answer
      · cases answer
      · cases answer
        exact absurd rfl failure
  | error stop =>
      rw [outcome] at answer
      cases stop with
      | fault fault => cases answer
      | refused refusal left =>
          cases answer
          rw [checkForwardOpen_eq] at outcome
          cases front : reading.refusalInFront request with
          | some extendedStatus =>
              rw [front] at outcome
              cases outcome
              exact ⟨reading, requested, Refused.untouched rfl⟩
          | none =>
              rw [front] at outcome
              dsimp only at outcome
              have parses : Settles (reading.parseConnectionPath request data) (Requested stack)
                  (Refuses (fun _ => True) fun _ after => Requested stack after) := by
                unfold parseConnectionPath
                rw [requested]
                split <;> simp [Stack.refuse, Refuses, Requested]
              cases parsed : reading.parseConnectionPath request data with
              | error stop =>
                  rw [parsed] at outcome
                  cases outcome
                  exact ⟨left, parses.raises parsed, Refused.untouched rfl⟩
              | ok asked =>
                  rw [parsed, ok_bind] at outcome
                  have asking := parses.returns parsed
                  have coherent : Coherent asked := by
                    rw [asking]
                    exact intact.coherent.of_same_table rfl rfl
                  have refused : Refused asked request.network.udpSocket left :=
                    (openConnection_refused coherent).raises outcome
                  exact ⟨asked, asking, refused.withDummy _⟩

/-- What opening the channel for producing does to the objects. A connection that does not produce needs none;
a point-to-point connection and the first of a stream use the socket at hand; who joins a stream takes its
identifier, and an exclusive owner its socket as well. -/
inductive ProducingOpened (network : Network) (before : Stack config) (slot : Slot config) (after : Stack config) : Prop
  | silent (notMulticast : (before.object slot).getTToOConnectionType ≠ .multicast)
      (notPointToPoint : (before.object slot).getTToOConnectionType ≠ .pointToPoint)
      (object : after.object = before.object)
  | pointToPoint (port : UInt16) (type : (before.object slot).getTToOConnectionType = .pointToPoint)
      (object : after.object = Function.update before.object slot
        (withProducing (before.object slot).cipProducedConnectionId before.udpIoMessaging
          ⟨AF_INET, port, network.peerAddress⟩ (before.object slot)))
  | started (type : (before.object slot).getTToOConnectionType = .multicast)
      (nobody : before.getExistingProducerIoConnection true
        (before.object slot).producedPath.instanceId.toUInt32 = none)
      (object : after.object = Function.update before.object slot
        (withProducing (before.object slot).cipProducedConnectionId before.udpIoMessaging
          ⟨AF_INET, kOpenerEipIoUdpPort, config.startingMulticastAddress⟩ (before.object slot)))
  | joined (existing : Slot config) (port : UInt16) (type : (before.object slot).getTToOConnectionType = .multicast)
      (found : before.getExistingProducerIoConnection true
        (before.object slot).producedPath.instanceId.toUInt32 = some existing)
      (guest : (before.object slot).instanceType ≠ .ioExclusiveOwner)
      (object : after.object = Function.update before.object slot
        (withProducing (before.object existing).cipProducedConnectionId kEipInvalidSocket
          ⟨AF_INET, port, config.startingMulticastAddress⟩ (before.object slot)))
  | takenOver (existing : Slot config) (port : UInt16) (type : (before.object slot).getTToOConnectionType = .multicast)
      (found : before.getExistingProducerIoConnection true
        (before.object slot).producedPath.instanceId.toUInt32 = some existing)
      (owner : (before.object slot).instanceType = .ioExclusiveOwner)
      (object : after.object = Function.update
        (Function.update before.object existing (releaseProducingSocket (before.object existing))) slot
        (withProducing (before.object existing).cipProducedConnectionId (before.object existing).producingSocket
          ⟨AF_INET, port, config.startingMulticastAddress⟩ (before.object slot)))

section Channels

variable {stack : Stack config} {network : Network}

theorem find_set_allocated {items : AddressInfoItems} {position : AddressInfoItems.Position}
    (allocated : items.allocateSocketAddressInfoItem kCipItemIdSocketAddressInfoTargetToOriginator = some position)
    {item : SocketAddressInfoItem} (typeId : item.typeId = kCipItemIdSocketAddressInfoTargetToOriginator) :
    ∃ found, (items.set item position).find kCipItemIdSocketAddressInfoTargetToOriginator = some found ∧
      ((items.set item position).get found).typeId = kCipItemIdSocketAddressInfoTargetToOriginator := by
  cases position with
  | first => exact ⟨.first, by simp [AddressInfoItems.set, AddressInfoItems.find, typeId], typeId⟩
  | second =>
      by_cases first : items.first.typeId = kCipItemIdSocketAddressInfoTargetToOriginator
      · exact ⟨.first, by simp [AddressInfoItems.set, AddressInfoItems.find, first], first⟩
      · exact ⟨.second, by simp [AddressInfoItems.set, AddressInfoItems.find, first, typeId], typeId⟩

theorem openMulticastConnection_started {found : AddressInfoItems.Position}
    (done : stack.openMulticastConnection network .producing slot = (true, after))
    (finds : stack.addressInfoItems.find kCipItemIdSocketAddressInfoTargetToOriginator = some found)
    (typeId : (stack.addressInfoItems.get found).typeId = kCipItemIdSocketAddressInfoTargetToOriginator) :
    after.object = Function.update stack.object slot
      (withProducing (stack.object slot).cipProducedConnectionId stack.udpIoMessaging
        ⟨AF_INET, kOpenerEipIoUdpPort, config.startingMulticastAddress⟩ (stack.object slot)) := by
  unfold openMulticastConnection at done
  dsimp only at done
  rw [finds] at done
  simp only [multicastItem, typeId, if_true] at done
  split at done
  · cases done
  · split at done
    · cases done
    · cases done
      rfl

theorem joinStream_object (stack : Stack config) {existing : Slot config} (differs : existing ≠ slot) (producedId : UInt32)
    (remoteAddress : SocketAddress) :
    (((stack.modifyObject slot (connectionObjectSetCipProducedConnectionID producedId)).shareProducingSocket
        slot existing).modifyObject slot (setRemoteAddress remoteAddress)).object =
      if (stack.object slot).instanceType = .ioExclusiveOwner then
        Function.update (Function.update stack.object existing (releaseProducingSocket (stack.object existing))) slot
          (withProducing producedId (stack.object existing).producingSocket remoteAddress (stack.object slot))
      else
        Function.update stack.object slot
          (withProducing producedId kEipInvalidSocket remoteAddress (stack.object slot)) := by
  have type : ((stack.modifyObject slot (connectionObjectSetCipProducedConnectionID producedId)).object
      slot).instanceType = (stack.object slot).instanceType := by
    rw [modifyObject, setObject_objects, Function.update_self]
    rfl
  unfold shareProducingSocket
  rw [type]
  split
  · simp only [modifyObject, setObject_objects, Function.update_self, Function.update_of_ne differs,
      Function.update_of_ne differs.symm, Function.update_idem]
    rw [Function.update_comm differs.symm, Function.update_idem]
    rfl
  · simp only [modifyObject, setObject_objects, Function.update_self, Function.update_idem]
    rfl

theorem openProducing_opened (absent : slot ∉ stack.connectionList.toList)
    (done : stack.openProducing network slot = (true, after)) : ProducingOpened network stack slot after := by
  unfold openProducing at done
  split at done
  · rename_i multicast
    unfold openProducingMulticastConnection at done
    dsimp only at done
    split at done
    · cases done
    · rename_i position allocated
      split at done
      · rename_i nobody
        have typed : ({ stack.addressInfoItems.get position with
            typeId := kCipItemIdSocketAddressInfoTargetToOriginator } : SocketAddressInfoItem).typeId =
            kCipItemIdSocketAddressInfoTargetToOriginator := rfl
        obtain ⟨found, finds, typeId⟩ := find_set_allocated allocated typed
        have started := openMulticastConnection_started done finds typeId
        exact .started multicast nobody started
      · rename_i existing found
        have differs : existing ≠ slot := by
          rintro rfl
          exact absent (findConnection_mem found).1
        cases done
        by_cases owner : (stack.object slot).instanceType = .ioExclusiveOwner
        · apply ProducingOpened.takenOver existing _ multicast found owner
          exact (joinStream_object _ differs _ _).trans (if_pos owner)
        · apply ProducingOpened.joined existing _ multicast found owner
          exact (joinStream_object _ differs _ _).trans (if_neg owner)
  · rename_i pointToPoint
    unfold openProducingPointToPointConnection at done
    dsimp only at done
    split at done
    · cases done
    · cases done
      apply ProducingOpened.pointToPoint _ pointToPoint
      simp only [modifyObject, setObject_objects, Function.update_self, Function.update_idem]
      rfl
  · rename_i notMulticast notPointToPoint
    cases done
    exact .silent notMulticast notPointToPoint rfl

theorem openProducing_rest (stack : Stack config) (network : Network) (slot : Slot config) :
    (stack.openProducing network slot).2 = { stack with
      object := (stack.openProducing network slot).2.object
      addressInfoItems := (stack.openProducing network slot).2.addressInfoItems } := by
  unfold openProducing
  split
  · unfold openProducingMulticastConnection
    dsimp only
    split
    · rfl
    · split
      · unfold openMulticastConnection
        dsimp only
        split
        · rfl
        · split
          · rfl
          · split <;> rfl
      · unfold shareProducingSocket
        split <;> rfl
  · unfold openProducingPointToPointConnection
    dsimp only
    split <;> rfl
  · rfl

theorem openConsuming_opened (done : stack.openConsuming network slot = (true, after)) :
    ∃ consumingSocket originatorAddress,
      (consumingSocket = (stack.object slot).consumingSocket ∨ consumingSocket = stack.udpIoMessaging) ∧
      after = { stack.setObject slot (setConsumingSocket consumingSocket originatorAddress (stack.object slot)) with
        addressInfoItems := after.addressInfoItems } := by
  have unchanged (items : AddressInfoItems) : ({ stack with addressInfoItems := items } : Stack config) =
      { stack.setObject slot (setConsumingSocket (stack.object slot).consumingSocket
          (stack.object slot).originatorAddress (stack.object slot)) with addressInfoItems := items } := by
    have same : setConsumingSocket (stack.object slot).consumingSocket (stack.object slot).originatorAddress
        (stack.object slot) = stack.object slot := rfl
    rw [same]
    simp [Stack.setObject]
  unfold openConsuming at done
  split at done
  · unfold openMulticastConnection at done
    dsimp only at done
    split at done
    · cases done
      exact ⟨_, _, .inl rfl, unchanged _⟩
    · split at done
      · cases done
        exact ⟨_, _, .inl rfl, unchanged _⟩
      · split at done
        · cases done
          exact ⟨_, _, .inl rfl, unchanged _⟩
        · cases done
  · unfold openConsumingPointToPointConnection at done
    split at done
    · cases done
    · dsimp only at done
      split at done
      · cases done
      · cases done
        exact ⟨_, _, .inr rfl, rfl⟩
  · cases done
    exact ⟨_, _, .inl rfl, unchanged _⟩

end Channels

/-- The channels of an accepted I/O request: with the socket created the object consumes on it or on none, and
then its channel for producing is opened. -/
structure ChannelsOpened (network : Network) (readied : Stack config) (slot : Slot config) (opened : Stack config) :
    Prop where
  consuming : ∃ consumingSocket originatorAddress items,
    (consumingSocket = (readied.object slot).consumingSocket ∨ consumingSocket = network.udpSocket.handle) ∧
    ProducingOpened network { (readied.socketCreated network.udpSocket).setObject slot
      (setConsumingSocket consumingSocket originatorAddress (readied.object slot)) with
        addressInfoItems := items } slot opened
  rest : opened = { readied.socketCreated network.udpSocket with
    object := opened.object, addressInfoItems := opened.addressInfoItems }

theorem openCommunicationChannels_ok {readied opened : Stack config} {network : Network}
    (absent : slot ∉ readied.connectionList.toList)
    (done : readied.openCommunicationChannels network slot = .ok opened) :
    ChannelsOpened network readied slot opened := by
  unfold openCommunicationChannels at done
  obtain ⟨bound, created, channels⟩ := bind_eq_ok.mp done
  obtain ⟨consuming, listening, producing⟩ := bind_eq_ok.mp channels
  have createdOk : readied.createUdpSocket network.udpSocket = .ok bound := by
    cases outcome : readied.createUdpSocket network.udpSocket with
    | error fault =>
        rw [outcome] at created
        cases created
    | ok other =>
        rw [outcome] at created
        cases created
        rfl
  have same := createUdpSocket_ok createdOk
  subst same
  cases listens : (readied.socketCreated network.udpSocket).openConsuming network slot with
  | mk consumes middle =>
      rw [listens] at listening
      cases consumes with
      | false => cases listening
      | true =>
          cases listening
          cases produced : consuming.openProducing network slot with
          | mk produces after =>
              rw [produced] at producing
              cases produces with
              | false => cases producing
              | true =>
                  cases producing
                  obtain ⟨consumingSocket, originatorAddress, which, written⟩ := openConsuming_opened listens
                  have rest := consuming.openProducing_rest network slot
                  rw [produced] at rest
                  dsimp only at rest
                  have unlisted : slot ∉ consuming.connectionList.toList := by
                    rw [written]
                    exact absent
                  have opens := openProducing_opened unlisted produced
                  rw [written] at opens
                  refine ⟨⟨consumingSocket, originatorAddress, _, which, opens⟩, ?_⟩
                  rw [rest, written]
                  rfl

end Stack

end EtherNetIP
