import EtherNetIP.Cip.Closing

/-! Encapsulation sessions.

The session table maps an index to the TCP socket that registered a session;
the session's handle is the index plus one. Socket timers record when a socket
was last active. Ending a session closes the explicit connections opened over
it, one of them for each call.
-/

set_option autoImplicit false

namespace EtherNetIP

open Library CipConnectionObject

variable {config : Configuration}

/-- What the operating system answers about sockets; zero stands for a failed `getpeername`. -/
structure Peers where
  peerAddress : Int → UInt32

namespace Stack

def shutdownSocketPlatform (stack : Stack config) (socketHandle : Int) : Stack config :=
  stack.log (.shutdownSocket socketHandle)

def socketTimerClear : SocketTimer := ⟨kEipInvalidSocket, 0⟩

/-- Clears every timer of the socket. A cleared timer carries the invalid socket, so with the invalid
socket as argument the loop finds the same timer again and again. -/
def removeSocketTimerFromList (stack : Stack config) (socketHandle : Int) : Except Fault (Stack config) :=
  if socketHandle = kEipInvalidSocket ∧ stack.timestamps.any (·.socket == kEipInvalidSocket) then
    .error .endlessLoop
  else
    .ok { stack with
      timestamps := stack.timestamps.map fun timer =>
        if timer.socket = socketHandle then socketTimerClear else timer }

def closeTcpSocket (stack : Stack config) (socketHandle : Int) : Except Fault (Stack config) := do
  let stack ← (stack.shutdownSocketPlatform socketHandle).removeSocketTimerFromList socketHandle
  return stack.closeSocket socketHandle

def setRegisteredSession (stack : Stack config) (index : Nat) (socket : Int) : Stack config :=
  { stack with registeredSessions := stack.registeredSessions.set index socket }

/-- The test `CloseClass3ConnectionBasedOnSession` makes of each connection. -/
def isClass3OfSession (encapsulationSessionHandle : CipSessionHandle) (object : CipConnectionObject) : Bool :=
  object.getTransportClass == .class3 && object.associatedEncapsulationSession == encapsulationSessionHandle

def closeClass3Visit (encapsulationSessionHandle : CipSessionHandle) (node : Nat) (stack : Stack config) :
    Except Fault (Stack config × Option Nat) :=
  match stack.connectionList.data node with
  | none => .error .nullConnection
  | some connection =>
      if isClass3OfSession encapsulationSessionHandle (stack.object connection) then do
        let stack ← stack.connectionCloseFunction connection
        -- the next node is read behind the close, which has freed and zeroed the own one
        return (stack, stack.connectionList.next node)
      else
        .ok (stack, stack.connectionList.next node)

def closeClass3ConnectionBasedOnSession (stack : Stack config) (encapsulationSessionHandle : CipSessionHandle) :
    Except Fault (Stack config) :=
  walk (closeClass3Visit encapsulationSessionHandle) .outOfFuel config.kNodesAmount
    stack.connectionList.first stack

/-- The index is unsigned: handle zero wraps around and lies outside the table. -/
def closeSessionBySessionHandle (stack : Stack config) (slot : Slot config) : Except Fault (Stack config) :=
  let index := ((stack.object slot).associatedEncapsulationSession - 1).toNat
  match stack.registeredSessions[index]? with
  | none => .error .invalidSessionHandle
  | some socket => do
      let stack ← stack.closeTcpSocket socket
      return stack.setRegisteredSession index kEipInvalidSocket

def sessionHandle (index : Nat) : CipSessionHandle := UInt32.ofNat (index + 1)

def removeSession (stack : Stack config) (socket : Int) : Except Fault (Stack config) :=
  match stack.registeredSessions.findIdx? (· == socket) with
  | none => .ok stack
  | some index =>
      (stack.setRegisteredSession index kEipInvalidSocket).closeClass3ConnectionBasedOnSession
        (sessionHandle index)

def closeSession (stack : Stack config) (socket : Int) : Except Fault (Stack config) :=
  match stack.registeredSessions.findIdx? (· == socket) with
  | none => .ok stack
  | some index => do
      let stack ← stack.closeTcpSocket socket
      (stack.setRegisteredSession index kEipInvalidSocket).closeClass3ConnectionBasedOnSession
        (sessionHandle index)

def closeEncapsulationSessionVisit (peers : Peers) (originator : UInt32) (stack : Stack config) (index : Nat) :
    Except Fault (Stack config) :=
  match stack.registeredSessions[index]? with
  | none => .error .invalidSessionHandle
  | some socket =>
      if socket ≠ kEipInvalidSocket ∧ peers.peerAddress socket = originator then stack.closeSession socket
      else .ok stack

def closeEncapsulationSessionBySockAddr (peers : Peers) (stack : Stack config) (slot : Slot config) :
    Except Fault (Stack config) :=
  (List.range config.numberOfSupportedSessions).foldlM
    (closeEncapsulationSessionVisit peers (stack.object slot).originatorAddress.sAddr) stack

/-- The table index of the socket; the number of sessions when it has none. -/
def getSessionFromSocket (stack : Stack config) (socketHandle : Int) : CipSessionHandle :=
  match stack.registeredSessions.findIdx? (· == socketHandle) with
  | some index => UInt32.ofNat index
  | none => UInt32.ofNat config.numberOfSupportedSessions

def socketTimerArrayGetSocketTimer (timers : List SocketTimer) (socket : Int) : Option SocketTimer :=
  timers.find? (·.socket == socket)

def encapsulationInactive (stack : Stack config) (socketHandle : Int) : Bool :=
  0 < stack.encapsulationInactivityTimeout &&
    match socketTimerArrayGetSocketTimer stack.timestamps socketHandle with
    | none => false
    | some timer =>
        stack.actualTime - timer.lastUpdate ≥ 1000 * stack.encapsulationInactivityTimeout.toUInt64

def checkEncapsulationInactivity (stack : Stack config) (socketHandle : Int) : Except Fault (Stack config) :=
  if stack.encapsulationInactive socketHandle then do
    -- an index is passed on as a handle, and handles are greater by one
    let encapsulationSessionHandle := stack.getSessionFromSocket socketHandle
    let stack ← stack.closeClass3ConnectionBasedOnSession encapsulationSessionHandle
    let stack ← stack.closeTcpSocket socketHandle
    stack.removeSession socketHandle
  else .ok stack

def kSupportedProtocolVersion : UInt16 := 1

inductive EncapsulationProtocolErrorCode where
  | success
  | invalidCommand
  | insufficientMemory
  | incorrectData
  | invalidSessionHandle
  | unsupportedProtocol
  deriving DecidableEq, Repr

def EncapsulationProtocolErrorCode.code : EncapsulationProtocolErrorCode → UInt32
  | .success => 0x0000
  | .invalidCommand => 0x0001
  | .insufficientMemory => 0x0002
  | .incorrectData => 0x0003
  | .invalidSessionHandle => 0x0064
  | .unsupportedProtocol => 0x0069

def getFreeSessionIndex (stack : Stack config) : Option Nat :=
  stack.registeredSessions.findIdx? (· == kEipInvalidSocket)

/-- The reply carries the session handle and the protocol status. A new session takes a socket timer. -/
def handleReceivedRegisterSessionCommand (stack : Stack config) (socket : Int)
    (protocolVersion optionFlag : UInt16) :
    Except Fault ((CipSessionHandle × EncapsulationProtocolErrorCode) × Stack config) :=
  if 0 < protocolVersion ∧ protocolVersion ≤ kSupportedProtocolVersion ∧ optionFlag = 0 then
    match stack.registeredSessions.findIdx? (· == socket) with
    | some index => .ok ((sessionHandle index, .invalidCommand), stack)
    | none =>
        match stack.getFreeSessionIndex with
        | none => .ok ((0, .insufficientMemory), stack)
        | some index =>
            match stack.timestamps.findIdx? (·.socket == kEipInvalidSocket) with
            -- the timer is written without a test
            | none => .error .nullSocketTimer
            | some timer =>
                let stack := { stack with timestamps := stack.timestamps.set timer ⟨socket, stack.actualTime⟩ }
                .ok ((sessionHandle index, .success), stack.setRegisteredSession index socket)
  else .ok ((0, .unsupportedProtocol), stack)

/-- None is the reply of a session that was ended: nothing is sent back. -/
def handleReceivedUnregisterSessionCommand (stack : Stack config) (handle : CipSessionHandle) :
    Except Fault (Option EncapsulationProtocolErrorCode × Stack config) :=
  if 0 < handle ∧ handle.toNat ≤ config.numberOfSupportedSessions then
    let index := (handle - 1).toNat
    match stack.registeredSessions[index]? with
    | none => .error .invalidSessionHandle
    | some socket =>
        if socket = kEipInvalidSocket then .ok (some .invalidSessionHandle, stack)
        else do
          let stack ← stack.closeTcpSocket socket
          let stack ← (stack.setRegisteredSession index kEipInvalidSocket).closeClass3ConnectionBasedOnSession
            (sessionHandle index)
          return (none, stack)
  else .ok (some .invalidSessionHandle, stack)

def socketTimerArrayGetEmptySocketTimer (timers : List SocketTimer) : Option SocketTimer :=
  socketTimerArrayGetSocketTimer timers kEipInvalidSocket

/-- The stack asserts that there is a free timer for an accepted socket, which does not take it. -/
def acceptTcpSocket (stack : Stack config) (socket : Nat) : Except Fault (Stack config) :=
  match socketTimerArrayGetEmptySocketTimer stack.timestamps with
  | none => .error .assertion
  | some _ => .ok (stack.log (.tcpSocketAccepted socket))

/-- Data received on a socket restart its timer, if it has one. -/
def updateSocketTimer (stack : Stack config) (socket : Int) : Stack config :=
  match stack.timestamps.findIdx? (·.socket == socket) with
  | none => stack
  | some timer => { stack with timestamps := stack.timestamps.set timer ⟨socket, stack.actualTime⟩ }

def handleDataOnClosedTcpSocket (stack : Stack config) (socket : Int) : Except Fault (Stack config) := do
  let stack ← stack.removeSocketTimerFromList socket
  stack.removeSession socket

def closeFailedTcpSocket (stack : Stack config) (socket : Int) : Except Fault (Stack config) := do
  let stack ← stack.closeTcpSocket socket
  stack.removeSession socket

end Stack

end EtherNetIP
