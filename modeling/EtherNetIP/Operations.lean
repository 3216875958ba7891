import EtherNetIP.Cip.Admission
import EtherNetIP.Cip.Preservation
import EtherNetIP.Encap.ConnectedMessages

/-! Runs of the stack.

The main loop and the clients drive the stack with a list of operations: TCP
sockets come and go, sessions are registered and ended, connections are opened
and closed, connected data arrive and time passes. A connected message is three
operations: it is received, a service is executed and the reply is stored. Every
operation either leaves a stack that is intact again or ends the run with a
fault.
-/

set_option autoImplicit false

namespace EtherNetIP

open Library CipConnectionObject

variable {config : Configuration}

inductive Operation where
  | acceptTcpSocket (socket : Nat)
  | receiveOnTcpSocket (socket : Int)
  | tcpSocketClosed (socket : Int)
  | tcpSocketFailed (socket : Int)
  | registerSession (socket : Int) (protocolVersion optionFlag : UInt16)
  | unregisterSession (handle : CipSessionHandle)
  | forwardOpen (request : Request)
  | largeForwardOpen (request : Request)
  | forwardClose (request : Request)
  | receiveConnectedData (received : Stack.ConnectedData)
  | connectedMessageReceived (addressInfoItems : AddressInfoItems) (connectionIdentifier : UInt32)
      (sequenceCount : Option UInt16)
  | connectedReplyStored (place : PoolObject) (reply : List CipOctet)
  | resetDevice
  | otherServiceExecuted (assemblyData : CipInstanceNum → List CipOctet) (encapsulationInactivityTimeout : UInt16)
  | setDeviceStatus (status : UInt16)
  | checkEncapsulationInactivity (socket : Int)
  | passTime (actualTime : MilliSeconds)
  | manageConnections (peers : Peers) (elapsedTime : MilliSeconds)

def Operation.openRequest : Operation → Option (Bool × Request)
  | .forwardOpen request => some (false, request)
  | .largeForwardOpen request => some (true, request)
  | _ => none

/-- The two operations in which a connection object notes an explicit request and its reply. -/
def Operation.notesRequest : Operation → Prop
  | .connectedMessageReceived _ _ _ | .connectedReplyStored _ _ => True
  | _ => False

def Operation.receivesData : Operation → Prop
  | .receiveConnectedData _ => True
  | _ => False

def Operation.notes (operation : Operation) : Note → Prop
  | .request => operation.notesRequest
  | .data => operation.receivesData

def Operation.names : Operation → Int → Prop
  | .tcpSocketFailed socket, other | .registerSession socket _ _, other
  | .checkEncapsulationInactivity socket, other => other = socket
  | _, _ => False

namespace Stack

variable {stack : Stack config}

def step (stack : Stack config) : Operation → Except Fault (Stack config)
  | .acceptTcpSocket socket => stack.acceptTcpSocket socket
  | .receiveOnTcpSocket socket => .ok (stack.updateSocketTimer socket)
  | .tcpSocketClosed socket => stack.handleDataOnClosedTcpSocket socket
  | .tcpSocketFailed socket => stack.closeFailedTcpSocket socket
  | .registerSession socket protocolVersion optionFlag =>
      (stack.handleReceivedRegisterSessionCommand socket protocolVersion optionFlag).map Prod.snd
  | .unregisterSession handle => (stack.handleReceivedUnregisterSessionCommand handle).map Prod.snd
  | .forwardOpen request => (stack.forwardOpen request).map Prod.snd
  | .largeForwardOpen request => (stack.largeForwardOpen request).map Prod.snd
  | .forwardClose request => (stack.forwardClose request).map Prod.snd
  | .receiveConnectedData received => stack.handleReceivedConnectedData received
  | .connectedMessageReceived addressInfoItems connectionIdentifier sequenceCount =>
      .ok (stack.receiveConnectedMessage addressInfoItems connectionIdentifier sequenceCount)
  | .connectedReplyStored place reply => .ok (stack.storeReplyAt place reply)
  | .resetDevice => stack.closeAllConnections
  | .otherServiceExecuted assemblyData encapsulationInactivityTimeout =>
      .ok { stack with assemblyData, encapsulationInactivityTimeout }
  | .setDeviceStatus status => .ok { stack with deviceStatus := .setDeviceStatus status }
  | .checkEncapsulationInactivity socket => stack.checkEncapsulationInactivity socket
  | .passTime actualTime => .ok { stack with actualTime }
  | .manageConnections peers elapsedTime => stack.manageConnections peers elapsedTime

/-- What every operation keeps: the table is coherent, and the buffer object carries no trace of a connection. -/
structure Intact (stack : Stack config) : Prop where
  coherent : Coherent stack
  pristine : Pristine stack.dummy

theorem Intact.initialized (assemblyData : CipInstanceNum → List CipOctet) (timeout : UInt16) :
    Intact (Stack.initialized config assemblyData timeout) :=
  ⟨Coherent.initialized assemblyData timeout, rfl⟩

section Steps

variable {named : Int → Prop} {noting : Note → Slot config → Prop}

theorem closeRequestedConnection_closes (coherent : Coherent stack) (request : Request) :
    Settles (stack.closeRequestedConnection request)
      (fun answered => answered.2 = stack ∨ ∃ slot ∈ stack.connectionList.toList, Closed stack slot answered.2)
      (· ≠ .nullNode) := by
  unfold closeRequestedConnection
  split
  split
  · exact .inl rfl
  · rename_i slot found
    have listed := (findConnection_mem found).1
    obtain ⟨after, done, closed⟩ :=
      coherent.connectionCloseFunction_closed (coherent.opened slot listed).callable
    split
    · simp
    · split
      · rw [done]
        exact .inr ⟨slot, listed, closed⟩
      · exact .inl rfl

theorem closeRequestedConnection_proceeds (coherent : Coherent stack) (request : Request) :
    Settles (stack.closeRequestedConnection request)
      (fun answered => Evolves named noting stack answered.2) (· ≠ .nullNode) := by
  apply (closeRequestedConnection_closes coherent request).mono
  rintro answered (same | ⟨slot, listed, closed⟩)
  · rw [same]
    exact Relation.ReflTransGen.refl
  · exact Relation.ReflTransGen.single (.closed listed closed)

theorem forwardClose_proceeds (coherent : Coherent stack) (request : Request) :
    Settles (stack.forwardClose request)
      (fun answered => Evolves named noting stack answered.2) (· ≠ .nullNode) := by
  have cleared : Aside named stack { stack with
      addressInfoItems := ⟨{ request.addressInfoItems.first with typeId := 0 },
        { request.addressInfoItems.second with typeId := 0 }⟩ } := .of_same rfl rfl rfl rfl rfl
  apply (closeRequestedConnection_proceeds (cleared.coherent coherent) request).mono
  exact fun _ => Relation.ReflTransGen.head (.aside cleared)

theorem receiveConnectedMessage_evolves (addressInfoItems : AddressInfoItems) (connectionIdentifier : UInt32)
    (sequenceCount : Option UInt16) :
    Evolves named (fun note _ => note = .request) stack
      (stack.receiveConnectedMessage addressInfoItems connectionIdentifier sequenceCount) := by
  have written (after : Stack config) : Aside named after { after with addressInfoItems } := .of_same rfl rfl rfl rfl rfl
  cases found : stack.getConnectedObject connectionIdentifier with
  | none =>
      have unknown : Stack.getConnectedObject { stack with addressInfoItems } connectionIdentifier = none := found
      unfold receiveConnectedMessage
      dsimp only
      rw [unknown]
      exact .single (.aside (written stack))
  | some slot =>
      rw [receiveConnectedMessage_eq found]
      have noted : Counted (fun note _ => note = .request) slot (stack.object slot)
          (noteReception sequenceCount (stack.object slot)) := by
        have kept : steadyPart (stack.object slot) = steadyPart (noteReception sequenceCount (stack.object slot)) ∧
            newestNumber (noteReception sequenceCount (stack.object slot)) = newestNumber (stack.object slot) := by
          unfold noteReception
          split
          · exact ⟨rfl, rfl⟩
          · split <;> exact ⟨rfl, rfl⟩
        exact ⟨kept.1, fun silent => absurd rfl silent, fun _ => kept.2, fun silent => absurd rfl silent⟩
      exact (evolves_of_counted noted).tail (.aside (written _))

theorem storeReplyAt_evolves (place : PoolObject) (reply : List CipOctet) :
    Evolves named (fun note _ => note = .request) stack (stack.storeReplyAt place reply) := by
  by_cases somewhere : ∃ slot : Slot config, slot.poolObject = place
  · obtain ⟨slot, rfl⟩ := somewhere
    rw [storeReplyAt_slot]
    exact evolves_of_counted ⟨rfl, fun silent => absurd rfl silent, fun _ => rfl, fun silent => absurd rfl silent⟩
  · rw [storeReplyAt_nowhere fun slot same => somewhere ⟨slot, same⟩]
    exact Relation.ReflTransGen.refl

theorem settles_map_snd {α : Type} {computation : Except Fault (α × Stack config)} {post : Stack config → Prop}
    {raised : Fault → Prop} (settles : Settles computation (fun answered => post answered.2) raised) :
    Settles (computation.map Prod.snd) post raised := by
  cases computation with
  | error fault => exact settles
  | ok answered => exact settles

/-- Every operation but a Forward Open makes the table evolve and takes no node. -/
theorem step_proceeds (coherent : Coherent stack) {operation : Operation} (other : operation.openRequest = none) :
    Proceeds operation.names (fun note _ => operation.notes note) stack (stack.step operation) := by
  have aside {computation : Except Fault (Stack config)} (aside : StandsAside operation.names stack computation) :
      Proceeds operation.names (fun note _ => operation.notes note) stack computation := aside.proceeds
  cases operation with
  | acceptTcpSocket socket => exact aside (acceptTcpSocket_aside socket)
  | receiveOnTcpSocket socket => exact aside (StandsAside.of_ok (updateSocketTimer_aside socket))
  | tcpSocketClosed socket => exact aside (handleDataOnClosedTcpSocket_aside coherent socket)
  | tcpSocketFailed socket => exact aside (closeFailedTcpSocket_aside coherent rfl)
  | registerSession socket protocolVersion optionFlag =>
      have names : (Operation.registerSession socket protocolVersion optionFlag).names socket := rfl
      exact aside (settles_map_snd (registerSession_aside names protocolVersion optionFlag))
  | unregisterSession handle => exact aside (settles_map_snd (unregisterSession_aside coherent handle))
  | forwardOpen request => cases other
  | largeForwardOpen request => cases other
  | forwardClose request => exact settles_map_snd (forwardClose_proceeds coherent request)
  | receiveConnectedData received => exact handleReceivedConnectedData_proceeds (fun _ => trivial) received
  | connectedMessageReceived addressInfoItems connectionIdentifier sequenceCount =>
      refine Proceeds.of_ok ((receiveConnectedMessage_evolves addressInfoItems connectionIdentifier sequenceCount).mono ?_)
      rintro _ slot rfl
      trivial
  | connectedReplyStored place reply =>
      refine Proceeds.of_ok ((storeReplyAt_evolves place reply).mono ?_)
      rintro _ slot rfl
      trivial
  | resetDevice => exact closeAllConnections_proceeds coherent
  | otherServiceExecuted assemblyData encapsulationInactivityTimeout =>
      exact aside (StandsAside.of_ok (.of_same rfl rfl rfl rfl rfl))
  | setDeviceStatus status => exact aside (StandsAside.of_ok (.of_same rfl rfl rfl rfl rfl))
  | checkEncapsulationInactivity socket => exact aside (checkEncapsulationInactivity_aside coherent rfl)
  | passTime actualTime => exact aside (StandsAside.of_ok (.of_same rfl rfl rfl rfl rfl))
  | manageConnections peers elapsedTime => exact manageConnections_proceeds coherent

end Steps

theorem step_openRequest {operation : Operation} {isLfo : Bool} {request : Request}
    (opens : operation.openRequest = some (isLfo, request)) :
    stack.step operation = (stack.forwardOpenRoutine isLfo request).map Prod.snd := by
  cases operation with
  | forwardOpen request => cases opens; rfl
  | largeForwardOpen request => cases opens; rfl
  | _ => cases opens

def Stepped (before : Stack config) (operation : Operation) (after : Stack config) : Prop :=
  (operation.openRequest = none ∧ Continues (fun _ => False) before after) ∨
    operation.openRequest ≠ none ∧ ForwardOpened before after

theorem step_spec (intact : Intact stack) (operation : Operation) :
    Settles (stack.step operation) (Stepped stack operation) (fun _ => True) := by
  cases opens : operation.openRequest with
  | none =>
      apply (step_proceeds intact.coherent opens).imp
      · exact fun after evolves => .inl ⟨opens, evolves.continues intact.coherent⟩
      · exact fun _ _ => trivial
  | some asked =>
      rw [step_openRequest opens]
      apply (settles_map_snd (forwardOpenRoutine_spec intact.coherent intact.pristine asked.1 asked.2)).mono
      exact fun after opened => .inr ⟨by simp [opens], opened⟩

theorem Stepped.intact {before after : Stack config} {operation : Operation} (stepped : Stepped before operation after)
    (intact : Intact before) : Intact after := by
  obtain ⟨_, continues⟩ | ⟨_, opened⟩ := stepped
  · exact ⟨continues.coherent, continues.dummy ▸ intact.pristine⟩
  · cases opened with
    | refused leaves => exact ⟨leaves.continues.coherent.of_same_table rfl rfl, leaves.pristine⟩
    | explicit slot type nonExistent enlarges => exact ⟨enlarges.coherent, enlarges.pristine⟩
    | io object choice instanceType chosen enlarges serves => exact ⟨enlarges.coherent, enlarges.pristine⟩

def Reached (stack : Stack config) : Prop :=
  ∃ assemblyData timeout, Reachable step (Stack.initialized config assemblyData timeout) stack

/-- The run rule: what the set-up establishes and every completed operation keeps holds in every stack
reached, which is intact as well. -/
theorem Reached.holds_of_step {property : Stack config → Prop} (reached : Reached stack)
    (initially : ∀ assemblyData timeout, property (Stack.initialized config assemblyData timeout))
    (preserved : ∀ before operation after, Intact before → property before → before.step operation = .ok after →
      property after) : Intact stack ∧ property stack := by
  obtain ⟨assemblyData, timeout, reachable⟩ := reached
  have kept : ∀ before operation, (Intact before ∧ property before) →
      Settles (step before operation) (fun after => Intact after ∧ property after) (fun _ => True) := by
    rintro before operation ⟨intact, holds⟩
    apply (step_spec intact operation).attach.imp
    · rintro after ⟨done, stepped⟩
      exact ⟨stepped.intact intact, preserved before operation after intact holds done⟩
    · exact fun _ _ => trivial
  exact reachable.holds ⟨Intact.initialized assemblyData timeout, initially assemblyData timeout⟩ kept

/-- The run rule for what follows from how operations change the table. -/
theorem Reached.holds {property : Stack config → Prop} (reached : Reached stack)
    (initially : ∀ assemblyData timeout, property (Stack.initialized config assemblyData timeout))
    (preserved : ∀ before operation after, Intact before → property before → Stepped before operation after →
      property after) : Intact stack ∧ property stack :=
  reached.holds_of_step initially fun before operation after intact holds done =>
    preserved before operation after intact holds ((step_spec intact operation).returns done)

theorem Reached.intact (reached : Reached stack) : Intact stack :=
  (reached.holds (fun _ _ => trivial) fun _ _ _ _ _ _ => trivial : Intact stack ∧ True).1

theorem Reached.step (reached : Reached stack) {operation : Operation} {after : Stack config}
    (done : stack.step operation = .ok after) : Reached after := by
  obtain ⟨assemblyData, timeout, operations, run⟩ := reached
  refine ⟨assemblyData, timeout, operations ++ [operation], ?_⟩
  rw [List.foldlM_append, run, ok_bind, List.foldlM_cons, done]
  rfl

end Stack

end EtherNetIP
