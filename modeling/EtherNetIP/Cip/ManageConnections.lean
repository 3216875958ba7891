import EtherNetIP.Cip.IoData
import EtherNetIP.Encap.Sessions

/-! The timer tick.

Each tick walks the connection list once. An established connection whose
watchdog runs out is timed out, which may close sessions and other connections
while the walk stands on its node; one that is still established afterwards
produces when its transmission timer is due.
-/

set_option autoImplicit false

namespace EtherNetIP

open Library CipConnectionObject

variable {config : Configuration}

namespace Stack

/-- The sessions are closed when no other connection of the originator is still alive. -/
def checkForTimedOutConnectionsAndCloseTCPConnections
    (closeSessions : Stack config → Slot config → Except Fault (Stack config))
    (stack : Stack config) (slot : Slot config) : Except Fault (Stack config) :=
  let nonTimedOutConnectionFound := stack.connectionList.toList.any fun other =>
    equalOriginator (stack.object slot) (stack.object other) && slot != other &&
      (stack.object other).state != .timedOut
  if nonTimedOutConnectionFound then .ok stack else closeSessions stack slot

def timingOut (stack : Stack config) (slot : Slot config) : Stack config :=
  let object := stack.object slot
  (stack.checkIoConnectionEvent object.consumedPath.instanceId object.producedPath.instanceId .timedOut).modifyObject
    slot (·.setState .timedOut)

/-- A connection that never heard from its originator since the last package takes its sessions along. -/
def closeSessionsOnTimeOut (peers : Peers) (stack : Stack config) (slot : Slot config) :
    Except Fault (Stack config) :=
  if (stack.object slot).lastPackageWatchdogTimer = (stack.object slot).inactivityWatchdogTimer then
    stack.checkForTimedOutConnectionsAndCloseTCPConnections (closeEncapsulationSessionBySockAddr peers) slot
  else .ok stack

/-- An exclusive owner that could not hand over takes the other connections of its input along. -/
def closeDependentsOnTimeOut (instanceType : ConnectionObjectInstanceType) (handover : Bool)
    (stack : Stack config) (slot : Slot config) : Except Fault (Stack config) :=
  if instanceType = .ioExclusiveOwner ∧ handover = false then do
    let stack ← closeAllConnectionsForInputWithSameType connectionCloseFunction stack
      (stack.object slot).producedPath.instanceId.toUInt32 .ioInputOnly
    closeAllConnectionsForInputWithSameType connectionCloseFunction stack
      (stack.object slot).producedPath.instanceId.toUInt32 .ioListenOnly
  else .ok stack

def handleIoConnectionTimeOut (peers : Peers) (stack : Stack config) (slot : Slot config) :
    Except Fault (Stack config) := do
  let object := stack.object slot
  let stack ← (stack.timingOut slot).closeSessionsOnTimeOut peers slot
  let (stack, handover) ←
    handOver connectionCloseFunction object.instanceType object.getTToOConnectionType stack slot
  let stack ← stack.closeDependentsOnTimeOut object.instanceType handover slot
  -- the connection stays in the list
  return stack.modifyObject slot (·.setState .timedOut)

def class3ConnectionTimeoutHandler (stack : Stack config) (slot : Slot config) :
    Except Fault (Stack config) := do
  let stack ← stack.checkForTimedOutConnectionsAndCloseTCPConnections closeSessionBySessionHandle slot
  -- its node is freed while the loop over the connections stands on it
  return stack.closeConnection slot

def connectionTimeoutFunction (peers : Peers) (stack : Stack config) (slot : Slot config) :
    Except Fault (Stack config) :=
  match (stack.object slot).connectionTimeoutFunction with
  | none => .error .assertion
  | some .class3ConnectionTimeoutHandler => stack.class3ConnectionTimeoutHandler slot
  | some .handleIoConnectionTimeOut => stack.handleIoConnectionTimeOut peers slot

/-- A consuming connection and every server connection maintain an inactivity watchdog timer. -/
def isWatched (object : CipConnectionObject) : Bool :=
  object.consumingInstance.isSome || object.getTransportClassTriggerDirection == .server

def decrementWatchdogTimers (elapsedTime : MilliSeconds) (object : CipConnectionObject) : CipConnectionObject :=
  { object with
    inactivityWatchdogTimer := object.inactivityWatchdogTimer - elapsedTime
    lastPackageWatchdogTimer := object.lastPackageWatchdogTimer - elapsedTime }

def checkInactivityWatchdog (peers : Peers) (elapsedTime : MilliSeconds) (stack : Stack config)
    (slot : Slot config) : Except Fault (Stack config) :=
  if isWatched (stack.object slot) then
    if elapsedTime ≥ (stack.object slot).inactivityWatchdogTimer then
      stack.connectionTimeoutFunction peers slot
    else .ok (stack.modifyObject slot (decrementWatchdogTimers elapsedTime))
  else .ok stack

/-- Only the master of a connection produces. -/
def isProducing (object : CipConnectionObject) : Bool :=
  object.expectedPacketRate != 0 && object.producingSocket != kEipInvalidSocket

/-- Non-cyclic connections count down their production inhibit timer, except in the branch that
should let them send again. -/
def countProductionInhibit (elapsedTime : MilliSeconds) (object : CipConnectionObject) : CipConnectionObject :=
  if object.getProductionTrigger ≠ .cyclic ∧ ¬ elapsedTime ≤ object.productionInhibitTimer then
    { object with productionInhibitTimer := object.productionInhibitTimer - elapsedTime }
  else object

def reloadTransmissionTimers (elapsedTime : MilliSeconds) (object : CipConnectionObject) :
    CipConnectionObject :=
  let due := object.transmissionTriggerTimer + object.getRequestedPacketInterval.toUInt64
  { object with
    transmissionTriggerTimer := if due > elapsedTime then due - elapsedTime else 0
    productionInhibitTimer :=
      if object.getProductionTrigger ≠ .cyclic then object.productionInhibitTime.toUInt64
      else object.productionInhibitTimer }

def decrementTransmissionTimer (elapsedTime : MilliSeconds) (object : CipConnectionObject) :
    CipConnectionObject :=
  { object with transmissionTriggerTimer := object.transmissionTriggerTimer - elapsedTime }

def connectionSendDataFunction (stack : Stack config) (slot : Slot config) : Except Fault (Stack config) :=
  match (stack.object slot).connectionSendDataFunction with
  | none => .error .assertion
  | some .sendConnectedData => stack.sendConnectedData slot

def produceWhenDue (elapsedTime : MilliSeconds) (stack : Stack config) (slot : Slot config) :
    Except Fault (Stack config) :=
  let stack := stack.modifyObject slot (countProductionInhibit elapsedTime)
  if (stack.object slot).transmissionTriggerTimer ≤ elapsedTime then do
    let stack ← stack.connectionSendDataFunction slot
    return stack.modifyObject slot (reloadTransmissionTimers elapsedTime)
  else .ok (stack.modifyObject slot (decrementTransmissionTimer elapsedTime))

def produce (elapsedTime : MilliSeconds) (stack : Stack config) (slot : Slot config) :
    Except Fault (Stack config) :=
  if (stack.object slot).state = .established ∧ isProducing (stack.object slot) then
    stack.produceWhenDue elapsedTime slot
  else .ok stack

def serve (peers : Peers) (elapsedTime : MilliSeconds) (stack : Stack config) (slot : Slot config) :
    Except Fault (Stack config) :=
  if (stack.object slot).state = .established then do
    let stack ← stack.checkInactivityWatchdog peers elapsedTime slot
    stack.produce elapsedTime slot
  else .ok stack

def manageConnectionsVisit (peers : Peers) (elapsedTime : MilliSeconds) (node : Nat) (stack : Stack config) :
    Except Fault (Stack config × Option Nat) :=
  match stack.connectionList.data node with
  | none => .error .nullConnection
  | some connection => do
      let stack ← stack.serve peers elapsedTime connection
      -- read when the connection has been served: a node freed meanwhile points nowhere
      return (stack, stack.connectionList.next node)

def countDelay (elapsedTime : MilliSeconds) (delayed : DelayedEncapsulationMessage) :
    DelayedEncapsulationMessage :=
  { delayed with timeOut := (delayed.timeOut.toUInt32 - elapsedTime.toUInt32).toInt32 }

def manageDelayedMessage (elapsedTime : MilliSeconds) (delayed : DelayedEncapsulationMessage) :
    DelayedEncapsulationMessage × List Effect :=
  if delayed.socket ≠ kEipInvalidSocket then
    let counted := countDelay elapsedTime delayed
    if 0 ≥ counted.timeOut then
      ({ counted with socket := kEipInvalidSocket }, [.sendDelayedMessage delayed.socket delayed.message])
    else (counted, [])
  else (delayed, [])

def manageEncapsulationMessages (elapsedTime : MilliSeconds) (stack : Stack config) : Stack config :=
  let managed := stack.delayedEncapsulationMessages.map (manageDelayedMessage elapsedTime)
  { stack with
    delayedEncapsulationMessages := managed.map Prod.fst
    effects := (managed.flatMap Prod.snd).reverse ++ stack.effects }

def manageConnections (peers : Peers) (elapsedTime : MilliSeconds) (stack : Stack config) :
    Except Fault (Stack config) :=
  let stack := stack.manageEncapsulationMessages elapsedTime
  walk (manageConnectionsVisit peers elapsedTime) .outOfFuel config.kNodesAmount
    stack.connectionList.first stack

end Stack

end EtherNetIP
