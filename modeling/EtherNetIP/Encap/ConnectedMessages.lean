import EtherNetIP.Cip.MessageRouter
import EtherNetIP.Encap.Sessions

/-! Connected explicit messages.

A SendUnitData packet names a connection by its identifier and carries a
sequence count. A count that repeats the previous one is answered with the
stored reply; any other request is handed to the message router and its reply
is stored in the connection object, even if the service has closed it.
-/

set_option autoImplicit false

namespace EtherNetIP

open Library CipConnectionObject

variable {config : Configuration}

inductive PoolObject where
  | explicit (i : Nat)
  | exclusiveOwner (i : Nat)
  | inputOnly (i j : Nat)
  | listenOnly (i j : Nat)
  deriving DecidableEq, Repr

def Slot.poolObject : Slot config → PoolObject
  | .explicit i => .explicit i
  | .exclusiveOwner i => .exclusiveOwner i
  | .inputOnly i j => .inputOnly i j
  | .listenOnly i j => .listenOnly i j

theorem Slot.poolObject_injective : Function.Injective (Slot.poolObject : Slot config → PoolObject) := by
  intro slot other same
  cases slot <;> cases other <;> simp_all [Slot.poolObject, Fin.ext_iff]

/-- A received packet behind its encapsulation header, with what earlier packets left in the packet structure. -/
structure SendUnitData where
  sessionHandle : CipSessionHandle
  dataLength : UInt16
  data : List CipOctet
  leftOver : CipCommonPacketFormatData
  originatorAddress : SocketAddress
  randomNumbers : List UInt16
  network : Network
  otherService : OtherService

def SendUnitData.circumstances (packet : SendUnitData) : Circumstances where
  originatorAddress := packet.originatorAddress
  encapsulationSession := packet.sessionHandle
  randomNumbers := packet.randomNumbers
  network := packet.network
  otherService := packet.otherService

def SendUnitData.items (packet : SendUnitData) : Option CipCommonPacketFormatData :=
  if packet.dataLength < 6 then none
  else createCommonPacketFormatStructure packet.leftOver (packet.data.drop 6) (packet.dataLength.toNat - 6)

/-- The sequence count of a connected data item and the request behind it; a data item of another type has none. -/
def CipCommonPacketFormatData.sequenced (items : CipCommonPacketFormatData) : Option (UInt16 × List CipOctet) :=
  if items.dataItem.typeId = kCipItemIdConnectedDataItem then some (getUintFromMessage.run items.dataItem.data)
  else none

/-- The sequence count is kept in the address item, from where the reply takes it. -/
def CipCommonPacketFormatData.numbered (items : CipCommonPacketFormatData) (sequenceCount : UInt16) :
    CipCommonPacketFormatData :=
  { items with addressItem := { items.addressItem with
    data := { items.addressItem.data with sequenceNumber := sequenceCount.toUInt32 } } }

def resetInactivityWatchdogTimerValue (object : CipConnectionObject) : CipConnectionObject :=
  { object with inactivityWatchdogTimer := object.calculateRegularInactivityWatchdogTimerValue }

def countRequest (sequenceCount : UInt16) (object : CipConnectionObject) : CipConnectionObject :=
  resetInactivityWatchdogTimerValue { object with sequenceCountConsuming := sequenceCount }

def storeReply (reply : List CipOctet) (object : CipConnectionObject) : CipConnectionObject :=
  { object with lastReplySent := some reply }

/-- What has become of a packet: it was dropped, it named a connection but carried no connected data, or it
was a request on a connection, which is executed or answered with the stored reply, if there is one. -/
inductive Handled (config : Configuration) where
  | dropped
  | noData (slot : Slot config)
  | repeated (slot : Slot config) (sequenceCount : UInt16) (reply : Option (List CipOctet))
  | executed (slot : Slot config) (sequenceCount : UInt16) (reply : List CipOctet)
  deriving DecidableEq

namespace Stack

def checkRegisteredSessions (stack : Stack config) (sessionHandle : CipSessionHandle) : Bool :=
  0 < sessionHandle && sessionHandle.toNat ≤ config.numberOfSupportedSessions &&
    match stack.registeredSessions[(sessionHandle - 1).toNat]? with
    | none => false
    | some socket => socket != kEipInvalidSocket

def addressed (stack : Stack config) (packet : SendUnitData) : Option (CipCommonPacketFormatData × Slot config) :=
  if stack.checkRegisteredSessions packet.sessionHandle then
    packet.items.bind fun items =>
      if items.addressItem.typeId = kCipItemIdConnectionAddress then
        (stack.getConnectedObject items.addressItem.data.connectionIdentifier).map (items, ·)
      else none
  else none

/-- What the handling itself writes before a request is executed: the watchdog of the connection, and its
sequence count when that is new. -/
def receiveConnectedMessage (addressInfoItems : AddressInfoItems) (connectionIdentifier : UInt32)
    (sequenceCount : Option UInt16) (stack : Stack config) : Stack config :=
  let stack := { stack with addressInfoItems }
  match stack.getConnectedObject connectionIdentifier with
  | none => stack
  | some slot =>
      let stack := stack.modifyObject slot resetInactivityWatchdogTimerValue
      match sequenceCount with
      | none => stack
      | some sequenceCount =>
          if (stack.object slot).sequenceCountConsuming = sequenceCount then stack
          else stack.modifyObject slot (countRequest sequenceCount)

def replyItems (items : CipCommonPacketFormatData) (object : CipConnectionObject) : CipCommonPacketFormatData :=
  { items with addressItem := { items.addressItem with
    data := { items.addressItem.data with connectionIdentifier := object.cipProducedConnectionId } } }

/-- The reply is assembled once the service has been executed, and stored. -/
def replyOnConnection (slot : Slot config) (executed : Executed config) : List CipOctet × Stack config :=
  let reply := assembleLinearMessage executed.reply (replyItems executed.items (executed.stack.object slot))
  (reply, executed.stack.modifyObject slot (storeReply reply))

def storeReplyAt (place : PoolObject) (reply : List CipOctet) (stack : Stack config) : Stack config :=
  { stack with object := fun slot =>
      if slot.poolObject = place then storeReply reply (stack.object slot) else stack.object slot }

/-- A request with a new sequence count goes to the message router; its length is that behind the count. -/
def executeRequest (packet : SendUnitData) (items : CipCommonPacketFormatData) (slot : Slot config)
    (sequenceCount : UInt16) (request : List CipOctet) (stack : Stack config) :
    Except Fault (Handled config × Stack config) := do
  let executed ← stack.notifyMessageRouter packet.circumstances (items.numbered sequenceCount) request
    (items.dataItem.length - 2).toInt16
  let (reply, stack) := replyOnConnection slot executed
  return (.executed slot sequenceCount reply, stack)

/-- `HandleReceivedSendUnitDataCommand` with `NotifyConnectedCommonPacketFormat`. A packet that is dropped writes
at most the packet structure, which the next one brings along as left over. -/
def handleReceivedSendUnitDataCommand (packet : SendUnitData) (stack : Stack config) :
    Except Fault (Handled config × Stack config) :=
  match stack.addressed packet with
  | none => .ok (.dropped, stack)
  | some (items, slot) =>
      let received := stack.receiveConnectedMessage items.addressInfoItems
        items.addressItem.data.connectionIdentifier (items.sequenced.map Prod.fst)
      match items.sequenced with
      | none => .ok (.noData slot, received)
      | some (sequenceCount, request) =>
          if (stack.object slot).sequenceCountConsuming = sequenceCount then
            .ok (.repeated slot sequenceCount (stack.object slot).lastReplySent, received)
          else received.executeRequest packet items slot sequenceCount request

section Storing

variable {stack : Stack config}

theorem storeReplyAt_slot (slot : Slot config) (reply : List CipOctet) :
    stack.storeReplyAt slot.poolObject reply = stack.modifyObject slot (storeReply reply) := by
  have objects : (stack.storeReplyAt slot.poolObject reply).object =
      (stack.modifyObject slot (storeReply reply)).object := by
    funext other
    rw [modifyObject, setObject_objects]
    by_cases same : other = slot
    · subst same
      simp [storeReplyAt]
    · have elsewhere : other.poolObject ≠ slot.poolObject := fun named => same (Slot.poolObject_injective named)
      simp [storeReplyAt, elsewhere, Function.update_of_ne same]
  calc stack.storeReplyAt slot.poolObject reply
      = { stack with object := (stack.storeReplyAt slot.poolObject reply).object } := rfl
    _ = stack.modifyObject slot (storeReply reply) := by rw [objects]; rfl

theorem storeReplyAt_nowhere {place : PoolObject} (nowhere : ∀ slot : Slot config, slot.poolObject ≠ place)
    (reply : List CipOctet) : stack.storeReplyAt place reply = stack := by
  simp [storeReplyAt, nowhere]

end Storing

section Reception

variable {stack : Stack config} {packet : SendUnitData} {items : CipCommonPacketFormatData} {slot : Slot config}

def noteReception (sequenceCount : Option UInt16) (object : CipConnectionObject) : CipConnectionObject :=
  match sequenceCount with
  | none => resetInactivityWatchdogTimerValue object
  | some sequenceCount =>
      if object.sequenceCountConsuming = sequenceCount then resetInactivityWatchdogTimerValue object
      else countRequest sequenceCount object

theorem addressed_eq_some (addressed : stack.addressed packet = some (items, slot)) :
    items.addressItem.typeId = kCipItemIdConnectionAddress ∧
      stack.getConnectedObject items.addressItem.data.connectionIdentifier = some slot := by
  unfold Stack.addressed at addressed
  split at addressed
  · obtain ⟨parsed, known, found⟩ := Option.bind_eq_some_iff.mp addressed
    split at found
    · rename_i address
      obtain ⟨connected, named, same⟩ := Option.map_eq_some_iff.mp found
      cases same
      exact ⟨address, named⟩
    · cases found
  · cases addressed

theorem sequenced_eq_some {sequenceCount : UInt16} {request : List CipOctet}
    (sequenced : items.sequenced = some (sequenceCount, request)) :
    items.dataItem.typeId = kCipItemIdConnectedDataItem := by
  unfold CipCommonPacketFormatData.sequenced at sequenced
  split at sequenced
  · assumption
  · cases sequenced

theorem getConnectedObject_established {connectionIdentifier : UInt32}
    (found : stack.getConnectedObject connectionIdentifier = some slot) :
    slot ∈ stack.connectionList.toList ∧ (stack.object slot).state = .established := by
  obtain ⟨listed, passes⟩ := findConnection_mem found
  rw [Bool.and_eq_true, beq_iff_eq] at passes
  exact ⟨listed, passes.1⟩

theorem receiveConnectedMessage_eq {addressInfoItems : AddressInfoItems} {connectionIdentifier : UInt32}
    (found : stack.getConnectedObject connectionIdentifier = some slot) (sequenceCount : Option UInt16) :
    stack.receiveConnectedMessage addressInfoItems connectionIdentifier sequenceCount =
      { stack.modifyObject slot (noteReception sequenceCount) with addressInfoItems } := by
  have named : Stack.getConnectedObject { stack with addressInfoItems } connectionIdentifier = some slot := found
  unfold receiveConnectedMessage
  dsimp only
  rw [named]
  cases sequenceCount with
  | none => rfl
  | some sequenceCount =>
      simp only [modifyObject, setObject_objects, Function.update_self, noteReception]
      have kept : (resetInactivityWatchdogTimerValue (stack.object slot)).sequenceCountConsuming =
          (stack.object slot).sequenceCountConsuming := rfl
      rw [kept]
      split
      · rfl
      · simp only [setObject, Function.update_idem]
        rfl

def received (stack : Stack config) (items : CipCommonPacketFormatData) (slot : Slot config) : Stack config :=
  { stack.modifyObject slot (noteReception (items.sequenced.map Prod.fst)) with
    addressInfoItems := items.addressInfoItems }

inductive Handling (packet : SendUnitData) (stack : Stack config) : Handled config → Stack config → Prop
  | dropped (unaddressed : stack.addressed packet = none) : Handling packet stack .dropped stack
  | noData {items : CipCommonPacketFormatData} {slot : Slot config}
      (addressed : stack.addressed packet = some (items, slot)) (absent : items.sequenced = none) :
      Handling packet stack (.noData slot) (stack.received items slot)
  | repeated {items : CipCommonPacketFormatData} {slot : Slot config} {request : List CipOctet}
      (addressed : stack.addressed packet = some (items, slot))
      (sequenced : items.sequenced = some ((stack.object slot).sequenceCountConsuming, request)) :
      Handling packet stack
        (.repeated slot (stack.object slot).sequenceCountConsuming (stack.object slot).lastReplySent)
        (stack.received items slot)
  | executed {items : CipCommonPacketFormatData} {slot : Slot config} {sequenceCount : UInt16}
      {request : List CipOctet} {executed : Executed config}
      (addressed : stack.addressed packet = some (items, slot))
      (sequenced : items.sequenced = some (sequenceCount, request))
      (fresh : (stack.object slot).sequenceCountConsuming ≠ sequenceCount)
      (done : (stack.received items slot).notifyMessageRouter packet.circumstances (items.numbered sequenceCount)
        request (items.dataItem.length - 2).toInt16 = .ok executed) :
      Handling packet stack (.executed slot sequenceCount (replyOnConnection slot executed).1)
        (replyOnConnection slot executed).2

theorem handleReceivedSendUnitDataCommand_handling {handled : Handled config} {after : Stack config}
    (done : stack.handleReceivedSendUnitDataCommand packet = .ok (handled, after)) :
    Handling packet stack handled after := by
  unfold handleReceivedSendUnitDataCommand at done
  split at done
  · rename_i unaddressed
    cases done
    exact .dropped unaddressed
  · rename_i items slot addressed
    dsimp only at done
    rw [receiveConnectedMessage_eq (addressed_eq_some addressed).2] at done
    split at done
    · rename_i absent
      cases done
      exact .noData addressed absent
    · rename_i sequenceCount request sequenced
      split at done
      · rename_i repeated
        cases done
        subst repeated
        exact .repeated addressed sequenced
      · rename_i fresh
        obtain ⟨executed, routed, replied⟩ := bind_eq_ok.mp done
        cases replied
        exact .executed addressed sequenced fresh routed

end Reception

end Stack

end EtherNetIP
