import EtherNetIP.Cip.ClosingDown
import EtherNetIP.Encap.AnsweredPackets
import EtherNetIP.Encap.SocketTimers

/-! Stopping the stack and starting it again.

Behind its loop a stopped stack closes its listener sockets, all connections and
the sockets of the registered sessions, and forgets its classes. The next start
clears what the first one found cleared by the loader, but for the run/idle
state, the status of the identity object and what is left of a delayed message.
Sockets that neither a session nor a listed connection has stay open.
-/

set_option autoImplicit false

namespace EtherNetIP

open Library CipConnectionObject

variable {config : Configuration}

section FileLevel

/-- The variables that outlive a stack, as far as a start or a stop writes them. -/
structure FileVariables (config : Configuration) where
  connectionList : DoublyLinkedList (Slot config)
  object : Slot config → CipConnectionObject
  /-- The list `g_first_object`. -/
  registeredClasses : List CipClass
  registeredSessions : List Int
  timestamps : List SocketTimer
  delayedEncapsulationMessages : List DelayedEncapsulationMessage
  runIdleState : UInt32
  deviceStatus : DeviceStatus

namespace FileVariables

/-- The variables as they are loaded. -/
def loaded : FileVariables config where
  connectionList := .initialized
  object := fun _ => .zeroed
  registeredClasses := []
  registeredSessions := List.replicate config.numberOfSupportedSessions 0
  timestamps := List.replicate config.numberOfSupportedSessions ⟨0, 0⟩
  delayedEncapsulationMessages := List.replicate 2 ⟨0, 0, []⟩
  runIdleState := 0
  deviceStatus := ⟨0, 0⟩

/-- The nodes of the array are left alone. -/
def doublyLinkedListInitialize (memory : FileVariables config) : FileVariables config :=
  { memory with connectionList := { memory.connectionList with first := none, last := none } }

/-- A class is put at the end of the list; that it is not there yet is asserted. -/
def createCipClass (registeredClasses : List CipClass) (cipClass : CipClass) : Except Fault (List CipClass) :=
  if registeredClasses.any (·.classId == cipClass.classId) then .error .assertion
  else .ok (registeredClasses ++ [cipClass])

def initializeConnectionManagerData (memory : FileVariables config) : FileVariables config :=
  { memory with object := fun _ => .zeroed }

def cipStackInit (memory : FileVariables config) : Except Fault (FileVariables config) := do
  let registeredClasses ←
    (config.classes ++ [config.assemblyClass]).foldlM createCipClass memory.registeredClasses
  return { memory.initializeConnectionManagerData with registeredClasses }

/-- Of a delayed message the socket alone is cleared. -/
def encapsulationInit (memory : FileVariables config) : FileVariables config :=
  { memory with
    registeredSessions := List.replicate config.numberOfSupportedSessions kEipInvalidSocket
    delayedEncapsulationMessages :=
      memory.delayedEncapsulationMessages.map fun delayed => { delayed with socket := kEipInvalidSocket } }

def networkHandlerInitialize (memory : FileVariables config) : FileVariables config :=
  { memory with
    timestamps := List.replicate config.numberOfSupportedSessions Stack.socketTimerClear }.encapsulationInit

def startOpENerStack (memory : FileVariables config) : Except Fault (FileVariables config) := do
  let memory ← memory.doublyLinkedListInitialize.cipStackInit
  return memory.networkHandlerInitialize

end FileVariables

def Effect.opens : Effect → Bool
  | .tcpSocketAccepted _ | .udpSocketCreated _ => true
  | _ => false

structure Listeners where
  tcpListener : Nat
  udpUnicastListener : Nat
  udpGlobalBroadcastListener : Nat

def Listeners.sockets (listeners : Listeners) : List Int :=
  [(listeners.tcpListener : Int), listeners.udpUnicastListener, listeners.udpGlobalBroadcastListener]

structure Process (config : Configuration) where
  stack : Stack config
  registeredClasses : List CipClass
  listeners : Listeners
  leftOpen : List Int

namespace Stack

def networkHandlerFinish (listeners : Listeners) (stack : Stack config) : Except Fault (Stack config) := do
  let stack ← stack.closeTcpSocket listeners.tcpListener
  return (stack.closeUdpSocket listeners.udpUnicastListener).closeUdpSocket listeners.udpGlobalBroadcastListener

/-- Each valid entry of the session table has its socket closed and is cleared. -/
def encapsulationShutDown (stack : Stack config) : Except Fault (Stack config) := do
  let stack ← (stack.registeredSessions.filter (· ≠ kEipInvalidSocket)).foldlM closeTcpSocket stack
  return { stack with registeredSessions := stack.registeredSessions.map fun _ => kEipInvalidSocket }

def restarted (stopped : Stack config) (assemblyData : CipInstanceNum → List CipOctet)
    (encapsulationInactivityTimeout : UInt16) : Stack config :=
  { stopped with
    connectionList := .initialized
    object := fun _ => .zeroed
    assemblyData
    registeredSessions := List.replicate config.numberOfSupportedSessions kEipInvalidSocket
    timestamps := List.replicate config.numberOfSupportedSessions socketTimerClear
    delayedEncapsulationMessages :=
      stopped.delayedEncapsulationMessages.map fun delayed => { delayed with socket := kEipInvalidSocket }
    encapsulationInactivityTimeout
    effects := [] }

end Stack

namespace Process

def memory (process : Process config) : FileVariables config where
  connectionList := process.stack.connectionList.toDoublyLinkedList
  object := process.stack.object
  registeredClasses := process.registeredClasses
  registeredSessions := process.stack.registeredSessions
  timestamps := process.stack.timestamps
  delayedEncapsulationMessages := process.stack.delayedEncapsulationMessages
  runIdleState := process.stack.runIdleState
  deviceStatus := process.stack.deviceStatus

def openSockets (process : Process config) : List Int :=
  Stack.openedSockets process.stack.effects ++
    (process.listeners.sockets ++ process.leftOpen).filter fun socket =>
      Effect.closeSocket socket ∉ process.stack.effects

def shutdownCipStack (process : Process config) : Except Fault (Process config) := do
  let stack ← process.stack.closeAllConnections
  let stack ← stack.encapsulationShutDown
  return { process with stack, registeredClasses := [] }

/-- What the thread does behind its loop. -/
def cleanUp (process : Process config) : Except Fault (Process config) := do
  let stack ← process.stack.networkHandlerFinish process.listeners
  shutdownCipStack { process with stack }

inductive Lived : Process config → Prop
  | started {fresh : FileVariables config} (start : FileVariables.startOpENerStack .loaded = .ok fresh)
      (assemblyData : CipInstanceNum → List CipOctet) (timeout : UInt16) (listeners : Listeners) :
      Lived ⟨Stack.initialized config assemblyData timeout, fresh.registeredClasses, listeners, []⟩
  | went {process : Process config} (lived : Lived process) {occurrence : Occurrence} {after : Stack config}
      (occurred : process.stack.occur occurrence = .ok after) : Lived { process with stack := after }
  | restarted {process finished : Process config} {again : FileVariables config} (lived : Lived process)
      (cleaned : process.cleanUp = .ok finished)
      (start : finished.memory.startOpENerStack = .ok again)
      (assemblyData : CipInstanceNum → List CipOctet) (timeout : UInt16) (listeners : Listeners) :
      Lived ⟨finished.stack.restarted assemblyData timeout, again.registeredClasses, listeners, finished.openSockets⟩

end Process

end FileLevel

namespace Stack

variable {stack before middle after : Stack config} {slot next : Slot config} {socket : Int}

section Logs

def Logs (before after : Stack config) : Prop :=
  ∃ news, after.effects = news ++ before.effects ∧ ∀ effect ∈ news, effect.opens = false

theorem Logs.refl (stack : Stack config) : Logs stack stack := ⟨[], rfl, by simp⟩

theorem Logs.trans (first : Logs before middle) (second : Logs middle after) : Logs before after := by
  obtain ⟨news, logged, quiet⟩ := first
  obtain ⟨later, loggedLater, quietLater⟩ := second
  refine ⟨later ++ news, ?_, ?_⟩
  · rw [loggedLater, logged, List.append_assoc]
  · intro effect member
    rcases List.mem_append.mp member with new | old
    · exact quietLater effect new
    · exact quiet effect old

theorem Logs.single {effect : Effect} (quiet : effect.opens = false) (stack : Stack config) :
    Logs stack (stack.log effect) :=
  ⟨[effect], rfl, by simpa using quiet⟩

theorem closeSocket_logs (stack : Stack config) (socket : Int) : Logs stack (stack.closeSocket socket) := by
  unfold closeSocket
  split
  · exact .single rfl stack
  · exact .refl stack

theorem closeConnection_logs (stack : Stack config) (slot : Slot config) : Logs stack (stack.closeConnection slot) := by
  unfold closeConnection
  dsimp only
  split
  · exact (closeSocket_logs stack _).trans (closeSocket_logs _ _)
  · exact .refl stack

theorem closeCommunicationChannels_logs (stack : Stack config) (slot : Slot config) :
    Logs stack (stack.closeCommunicationChannelsAndRemoveFromActiveConnectionsList slot) := by
  unfold closeCommunicationChannelsAndRemoveFromActiveConnectionsList
  dsimp only
  rw [closeSocket_if, closeSocket_if]
  exact (closeSocket_logs stack _).trans (closeSocket_logs _ _)

variable {close : Stack config → Slot config → Except Fault (Stack config)}

theorem closeAll_logs (closes : ∀ stack slot, Settles (close stack slot) (Logs stack) (fun _ => True))
    (stack : Stack config) (inputPoint : UInt32) (instanceType : ConnectionObjectInstanceType) :
    Settles (closeAllConnectionsForInputWithSameType close stack inputPoint instanceType) (Logs stack)
      (fun _ => True) := by
  refine walk_settles (fun _ reached => Logs stack reached) ?_ trivial _ (.refl stack)
  intro node reached logs
  unfold closeAllVisit
  split
  · dsimp only
    split
    · split
      · trivial
      · refine Settles.bind (closes _ _) fun after closed => ?_
        exact logs.trans ((Logs.single rfl reached).trans closed)
    · exact logs
  · trivial

theorem handOver_logs (closes : ∀ stack slot, Settles (close stack slot) (Logs stack) (fun _ => True))
    (instanceType : ConnectionObjectInstanceType) (connectionType : ConnectionObjectConnectionType)
    (stack : Stack config) (slot : Slot config) :
    Settles (handOver close instanceType connectionType stack slot) (fun reached => Logs stack reached.1)
      (fun _ => True) := by
  unfold handOver
  split
  · split
    · rename_i transferred done
      obtain ⟨active, _, moved⟩ := Option.bind_eq_some_iff.mp done
      cases moved
      exact .refl stack
    · exact Settles.bind (closeAll_logs closes stack _ _) fun after logs => logs
  · exact .refl stack

theorem callCloseFunction_logs (depth : Nat) (stack : Stack config) (slot : Slot config) :
    Settles (callCloseFunction depth stack slot) (Logs stack) (fun _ => True) := by
  induction depth generalizing stack slot with
  | zero => trivial
  | succ depth ih =>
      unfold callCloseFunction
      split
      · trivial
      · exact closeConnection_logs stack slot
      · rw [closeIoConnection_eq]
        apply Settles.bind (handOver_logs ih _ _ _ slot)
        intro reached logs
        have closing : Logs stack (stack.closing slot) := .single rfl stack
        exact (closing.trans logs).trans (closeCommunicationChannels_logs _ slot)

theorem closeAllConnections_logs (stack : Stack config) :
    Settles stack.closeAllConnections (Logs stack) (fun _ => True) := by
  refine walk_settles (fun _ reached => Logs stack reached) ?_ trivial _ (.refl stack)
  intro node reached logs
  unfold closeAllConnectionsVisit
  split
  · trivial
  · split
    · trivial
    · exact Settles.bind (callCloseFunction_logs 2 reached _) fun after closed => logs.trans closed

end Logs

section HeldSockets

def HoldsSocket (stack : Stack config) (socket : Int) : Prop :=
  ∃ slot ∈ stack.connectionList.toList,
    (stack.object slot).consumingSocket = socket ∨ (stack.object slot).producingSocket = socket

instance (stack : Stack config) (socket : Int) : Decidable (stack.HoldsSocket socket) :=
  inferInstanceAs (Decidable (∃ slot ∈ stack.connectionList.toList, _))

theorem mem_closings {sockets : List Int} : Effect.closeSocket socket ∈ closings sockets ↔ socket ∈ sockets := by
  simp [closings]

theorem mem_closedSockets_iff (coherent : Coherent stack) (listed : slot ∈ stack.connectionList.toList) :
    socket ∈ closedSockets (stack.object slot) ↔ socket ≠ kEipInvalidSocket ∧
      ((stack.object slot).consumingSocket = socket ∨ (stack.object slot).producingSocket = socket) := by
  have io (closes : (stack.object slot).connectionCloseFunction = some .closeIoConnection) :
      socket ∈ closedSockets (stack.object slot) ↔ socket ≠ kEipInvalidSocket ∧
        ((stack.object slot).consumingSocket = socket ∨ (stack.object slot).producingSocket = socket) := by
    rw [closedSockets, if_neg (by simp [closes]), List.mem_filter, decide_eq_true_eq, and_comm, List.mem_pair,
      eq_comm, @eq_comm _ _ (stack.object slot).producingSocket]
  have opened := coherent.opened slot listed
  cases slot with
  | explicit i =>
      rw [closedSockets_explicit coherent listed rfl, OpenedClass3.consumingSocket opened,
        OpenedClass3.producingSocket opened]
      refine iff_of_false (List.not_mem_nil) ?_
      rintro ⟨valid, same | same⟩
      · exact valid same.symm
      · exact valid same.symm
  | exclusiveOwner i => exact io (OpenedIo.closeFunction opened)
  | inputOnly i j => exact io (OpenedIo.closeFunction opened)
  | listenOnly i j => exact io (OpenedIo.closeFunction opened)

/-- The sockets closed are valid ones of listed connections; the other sockets of listed connections are still theirs. -/
structure Releases (before after : Stack config) (closed : List Int) : Prop where
  traffic : after.traffic = closings closed ++ before.traffic
  held : ∀ socket ∈ closed, socket ≠ kEipInvalidSocket ∧ before.HoldsSocket socket
  kept : ∀ socket, socket ≠ kEipInvalidSocket → before.HoldsSocket socket → after.HoldsSocket socket ∨ socket ∈ closed
  added : ∀ socket, socket ≠ kEipInvalidSocket → after.HoldsSocket socket → before.HoldsSocket socket

theorem Releases.refl (stack : Stack config) : Releases stack stack [] where
  traffic := rfl
  held := by simp
  kept := fun _ _ => .inl
  added := fun _ _ => id

theorem Releases.trans {closed more : List Int} (first : Releases before middle closed)
    (second : Releases middle after more) : Releases before after (closed ++ more) where
  traffic := by
    rw [second.traffic, first.traffic, ← List.append_assoc]
    simp [closings]
  held := by
    intro socket member
    rcases List.mem_append.mp member with early | late
    · exact first.held socket early
    · obtain ⟨valid, holds⟩ := second.held socket late
      exact ⟨valid, first.added socket valid holds⟩
  kept := by
    intro socket valid holds
    rw [List.mem_append]
    rcases first.kept socket valid holds with still | early
    · exact (second.kept socket valid still).imp id .inr
    · exact .inr (.inl early)
  added := fun socket valid holds => first.added socket valid (second.added socket valid holds)

theorem Releases.of_removes {gone : List (Slot config)} (coherent : Coherent before)
    (listed : ∀ slot ∈ gone, slot ∈ before.connectionList.toList) (removes : Removes before after gone) :
    Releases before after (gone.flatMap fun slot => closedSockets (before.object slot)) where
  traffic := removes.traffic
  held := by
    intro socket member
    obtain ⟨slot, inGone, closed⟩ := List.mem_flatMap.mp member
    obtain ⟨valid, has⟩ := (mem_closedSockets_iff coherent (listed slot inGone)).mp closed
    exact ⟨valid, slot, listed slot inGone, has⟩
  kept := by
    rintro socket valid ⟨slot, inList, has⟩
    by_cases inGone : slot ∈ gone
    · right
      exact List.mem_flatMap.mpr ⟨slot, inGone, (mem_closedSockets_iff coherent inList).mpr ⟨valid, has⟩⟩
    · left
      refine ⟨slot, removes.mem_iff.mpr ⟨inList, inGone⟩, ?_⟩
      rw [removes.others slot inGone]
      exact has
  added := by
    rintro socket valid ⟨slot, inList, has⟩
    obtain ⟨was, stays⟩ := removes.mem_iff.mp inList
    rw [removes.others slot stays] at has
    exact ⟨slot, was, has⟩

/-- A socket that is handed on is still that of a listed connection: the next master had none. -/
theorem handedOver_holdsSocket (listed : slot ∈ stack.connectionList.toList)
    (controls : controlsMulticast (stack.object slot) = true) {inputPoint : UInt32}
    (successor : stack.getNextNonControlMasterConnection inputPoint = some next) (valid : socket ≠ kEipInvalidSocket) :
    (stack.handedOver slot next).HoldsSocket socket ↔ stack.HoldsSocket socket := by
  have differs := successor_ne controls successor
  obtain ⟨nextListed, candidate⟩ := findConnection_mem successor
  have silent : (stack.object next).producingSocket = kEipInvalidSocket := by
    unfold isNonControlMaster at candidate
    simp only [Bool.and_eq_true, beq_iff_eq] at candidate
    exact candidate.2
  have own : (stack.handedOver slot next).object slot = releaseProducingSocket (stack.object slot) := by
    rw [handedOver_object differs, Function.update_self]
  have taken : (stack.handedOver slot next).object next = takeOver (stack.object slot) (stack.object next) := by
    rw [handedOver_object differs, Function.update_of_ne differs, Function.update_self]
  have others (other : Slot config) (notOwn : other ≠ slot) (notNext : other ≠ next) :
      (stack.handedOver slot next).object other = stack.object other := by
    rw [handedOver_object differs, Function.update_of_ne notOwn, Function.update_of_ne notNext]
  constructor
  · rintro ⟨other, inList, has⟩
    by_cases isSlot : other = slot
    · subst isSlot
      rw [own] at has
      exact ⟨other, inList, has.imp id fun same => absurd same.symm valid⟩
    · by_cases isNext : other = next
      · subst isNext
        rw [taken] at has
        rcases has with consumes | produces
        · exact ⟨other, inList, .inl consumes⟩
        · exact ⟨slot, listed, .inr produces⟩
      · rw [others other isSlot isNext] at has
        exact ⟨other, inList, has⟩
  · rintro ⟨other, inList, has⟩
    by_cases isSlot : other = slot
    · subst isSlot
      rcases has with consumes | produces
      · refine ⟨other, inList, .inl ?_⟩
        rw [own]
        exact consumes
      · refine ⟨next, nextListed, .inr ?_⟩
        rw [taken]
        exact produces
    · refine ⟨other, inList, ?_⟩
      by_cases isNext : other = next
      · subst isNext
        rw [taken]
        exact has.imp id fun produces => absurd (silent.symm.trans produces).symm valid
      · rw [others other isSlot isNext]
        exact has

theorem Closed.releases (coherent : Coherent before) (listed : slot ∈ before.connectionList.toList)
    (closed : Closed before slot after) : ∃ sockets, Releases before after sockets := by
  cases closed with
  | alone passive removes =>
      exact ⟨_, .of_removes coherent (fun other member => List.mem_singleton.mp member ▸ listed) removes⟩
  | succeeded next controls successor removes =>
      have moved : Releases before (before.handedOver slot next) [] :=
        { traffic := rfl
          held := by simp
          kept := fun socket valid holds => .inl ((handedOver_holdsSocket listed controls successor valid).mpr holds)
          added := fun socket valid holds => (handedOver_holdsSocket listed controls successor valid).mp holds }
      exact ⟨_, moved.trans (.of_removes (coherent.handedOver listed controls successor)
        (fun other member => List.mem_singleton.mp member ▸ listed) removes)⟩
  | last controls nobody removes =>
      refine ⟨_, .of_removes coherent (fun other member => ?_) removes⟩
      rcases List.mem_append.mp member with listens | own
      · exact List.mem_of_mem_filter listens
      · exact List.mem_singleton.mp own ▸ listed

theorem ClosesHead.releases (coherent : Coherent before) (closes : ClosesHead before after) :
    Coherent after ∧ ∃ sockets, Releases before after sockets := by
  obtain ⟨slot, rest, list, callable, done, _⟩ := closes
  have listed : slot ∈ before.connectionList.toList := by simp [list]
  obtain ⟨closedStack, closedDone, closed⟩ := coherent.connectionCloseFunction_closed callable
  cases done.symm.trans closedDone
  exact ⟨(closed_shortens coherent listed closed).1, closed.releases coherent listed⟩

theorem releases_of_rounds (coherent : Coherent before) (rounds : Relation.ReflTransGen ClosesHead before after) :
    Coherent after ∧ ∃ sockets, Releases before after sockets := by
  induction rounds with
  | refl => exact ⟨coherent, [], .refl before⟩
  | tail _ closes ih =>
      obtain ⟨middleCoherent, early, first⟩ := ih
      obtain ⟨afterCoherent, late, second⟩ := closes.releases middleCoherent
      exact ⟨afterCoherent, _, first.trans second⟩

end HeldSockets

section LoggedClosings

variable {closed more : Int → Prop}

def LogsClosings (before after : Stack config) (closed : Int → Prop) : Prop :=
  ∃ news, after.effects = news ++ before.effects ∧ (∀ effect ∈ news, effect.opens = false) ∧
    ∀ socket, Effect.closeSocket socket ∈ news ↔ closed socket

theorem LogsClosings.nothing (stack : Stack config) : LogsClosings stack stack (fun _ => False) :=
  ⟨[], rfl, by simp, by simp⟩

theorem LogsClosings.trans (first : LogsClosings before middle closed) (second : LogsClosings middle after more) :
    LogsClosings before after fun socket => closed socket ∨ more socket := by
  obtain ⟨news, logged, quiet, closes⟩ := first
  obtain ⟨later, loggedLater, quietLater, closesLater⟩ := second
  refine ⟨later ++ news, ?_, ?_, ?_⟩
  · rw [loggedLater, logged, List.append_assoc]
  · intro effect member
    rcases List.mem_append.mp member with new | old
    · exact quietLater effect new
    · exact quiet effect old
  · intro socket
    rw [List.mem_append, closes, closesLater, or_comm]

theorem LogsClosings.congr (logs : LogsClosings before after closed) (same : ∀ socket, closed socket ↔ more socket) :
    LogsClosings before after more := by
  have equal : closed = more := funext fun socket => propext (same socket)
  exact equal ▸ logs

theorem closeSocket_logsClosings (stack : Stack config) (socket : Int) :
    LogsClosings stack (stack.closeSocket socket) fun other => other ≠ kEipInvalidSocket ∧ other = socket := by
  unfold closeSocket
  split
  · rename_i valid
    refine ⟨[.closeSocket socket], rfl, by simp [Effect.opens], fun other => ?_⟩
    rw [List.mem_singleton, Effect.closeSocket.injEq]
    refine ⟨fun same => ⟨?_, same⟩, fun both => both.2⟩
    rw [same]
    exact Ne.symm valid
  · rename_i invalid
    refine (LogsClosings.nothing stack).congr fun other => ?_
    refine iff_of_false id ?_
    rintro ⟨valid, rfl⟩
    exact invalid (Ne.symm valid)

theorem closeTcpSocket_logsClosings (stack : Stack config) (valid : socket ≠ kEipInvalidSocket) :
    ∃ after, stack.closeTcpSocket socket = .ok after ∧ LogsClosings stack after (· = socket) ∧
      after = { stack with timestamps := after.timestamps, effects := after.effects } := by
  have ends : ¬ (socket = kEipInvalidSocket ∧
      (stack.shutdownSocketPlatform socket).timestamps.any (·.socket == kEipInvalidSocket)) := fun both => valid both.1
  unfold closeTcpSocket removeSocketTimerFromList
  rw [if_neg ends]
  refine ⟨_, rfl, ?_, ?_⟩
  · have shuts (timestamps : List SocketTimer) :
        LogsClosings stack { stack.shutdownSocketPlatform socket with timestamps } (fun _ => False) :=
      ⟨[.shutdownSocket socket], rfl, by simp [Effect.opens], by simp⟩
    refine ((shuts _).trans (closeSocket_logsClosings _ socket)).congr fun other => ?_
    refine ⟨fun either => (either.resolve_left id).2, ?_⟩
    rintro rfl
    exact .inr ⟨valid, rfl⟩
  · rw [closeSocket_globals]
    rfl

theorem closeTcpSockets_logsClosings {sockets : List Int} (valid : ∀ socket ∈ sockets, socket ≠ kEipInvalidSocket)
    (stack : Stack config) :
    ∃ after, sockets.foldlM closeTcpSocket stack = .ok after ∧ LogsClosings stack after (· ∈ sockets) ∧
      after = { stack with timestamps := after.timestamps, effects := after.effects } := by
  induction sockets generalizing stack with
  | nil => exact ⟨stack, rfl, (LogsClosings.nothing stack).congr (by simp), rfl⟩
  | cons first rest ih =>
      obtain ⟨middle, done, logs, same⟩ := closeTcpSocket_logsClosings stack (valid first (by simp))
      obtain ⟨after, doneRest, logsRest, sameRest⟩ := ih (fun socket member => valid socket (by simp [member])) middle
      refine ⟨after, ?_, (logs.trans logsRest).congr (by simp), ?_⟩
      · rw [List.foldlM_cons, done, ok_bind, doneRest]
      · rw [sameRest, same]

theorem networkHandlerFinish_logsClosings (listeners : Listeners) (stack : Stack config) :
    ∃ after, stack.networkHandlerFinish listeners = .ok after ∧ LogsClosings stack after (· ∈ listeners.sockets) ∧
      after = { stack with timestamps := after.timestamps, effects := after.effects } := by
  have valid (socket : Nat) : (socket : Int) ≠ kEipInvalidSocket := by
    unfold kEipInvalidSocket
    omega
  obtain ⟨middle, done, logs, same⟩ := closeTcpSocket_logsClosings stack (valid listeners.tcpListener)
  refine ⟨(middle.closeUdpSocket listeners.udpUnicastListener).closeUdpSocket listeners.udpGlobalBroadcastListener,
    ?_, ?_, ?_⟩
  · unfold networkHandlerFinish
    rw [done]
    rfl
  · refine ((logs.trans (closeSocket_logsClosings middle _)).trans (closeSocket_logsClosings _ _)).congr fun socket => ?_
    unfold Listeners.sockets
    constructor
    · rintro ((rfl | ⟨_, rfl⟩) | ⟨_, rfl⟩) <;> simp
    · intro member
      simp only [List.mem_cons, List.not_mem_nil, or_false] at member
      rcases member with rfl | rfl | rfl
      · exact .inl (.inl rfl)
      · exact .inl (.inr ⟨valid _, rfl⟩)
      · exact .inr ⟨valid _, rfl⟩
  · unfold closeUdpSocket
    rw [closeSocket_globals, closeSocket_globals middle, same]

theorem encapsulationShutDown_logsClosings (stack : Stack config) :
    ∃ after, stack.encapsulationShutDown = .ok after ∧
      LogsClosings stack after (fun socket => socket ≠ kEipInvalidSocket ∧ socket ∈ stack.registeredSessions) ∧
      after = { stack with
        registeredSessions := after.registeredSessions, timestamps := after.timestamps, effects := after.effects } := by
  obtain ⟨middle, done, logs, same⟩ := @closeTcpSockets_logsClosings _
    (stack.registeredSessions.filter (· ≠ kEipInvalidSocket))
    (fun socket member => of_decide_eq_true (List.mem_filter.mp member).2) stack
  refine ⟨{ middle with registeredSessions := middle.registeredSessions.map fun _ => kEipInvalidSocket }, ?_, ?_, ?_⟩
  · unfold encapsulationShutDown
    rw [done]
    rfl
  · have closes : LogsClosings stack middle
        (fun socket => socket ≠ kEipInvalidSocket ∧ socket ∈ stack.registeredSessions) :=
      logs.congr fun socket => by simp [and_comm]
    exact closes
  · rw [same]

theorem rounds_globals (coherent : Coherent before) (rounds : Relation.ReflTransGen ClosesHead before after) :
    after = { before with
      connectionList := after.connectionList, object := after.object, effects := after.effects } := by
  induction rounds with
  | refl => rfl
  | tail earlier closes ih =>
      have middleCoherent := (releases_of_rounds coherent earlier).1
      obtain ⟨slot, rest, list, callable, done, _⟩ := closes
      obtain ⟨closedStack, closedDone, closed⟩ := middleCoherent.connectionCloseFunction_closed callable
      cases done.symm.trans closedDone
      rw [closed.globals, ih]

/-- Closing all connections closes the sockets of all listed connections and no other. -/
theorem closeAllConnections_logsClosings (coherent : Coherent stack) :
    ∃ after, stack.closeAllConnections = .ok after ∧
      LogsClosings stack after (fun socket => socket ≠ kEipInvalidSocket ∧ stack.HoldsSocket socket) ∧
      after.connectionList.toList = [] ∧
      after = { stack with
        connectionList := after.connectionList, object := after.object, effects := after.effects } := by
  obtain ⟨after, done, rounds, _, empty⟩ := closeAllConnections_ends coherent
  obtain ⟨_, sockets, releases⟩ := releases_of_rounds coherent rounds
  obtain ⟨news, logged, quiet⟩ := (closeAllConnections_logs stack).returns done
  refine ⟨after, done, ⟨news, logged, quiet, fun socket => ?_⟩, empty, rounds_globals coherent rounds⟩
  have traffic := releases.traffic
  unfold Stack.traffic at traffic
  rw [logged, List.filter_append, List.append_cancel_right_eq] at traffic
  have closes : Effect.closeSocket socket ∈ news ↔ socket ∈ sockets := by
    rw [← @mem_closings socket sockets, ← traffic, List.mem_filter]
    simp [Effect.isTraffic]
  rw [closes]
  refine ⟨releases.held socket, ?_⟩
  rintro ⟨valid, holds⟩
  refine (releases.kept socket valid holds).resolve_left ?_
  rintro ⟨slot, listed, _⟩
  rw [empty] at listed
  cases listed

end LoggedClosings

theorem mem_openedSockets_iff {news : List Effect} (quiet : ∀ effect ∈ news, effect.opens = false)
    (effects : List Effect) :
    socket ∈ openedSockets (news ++ effects) ↔
      socket ∈ openedSockets effects ∧ Effect.closeSocket socket ∉ news := by
  induction news with
  | nil => simp
  | cons first rest ih =>
      have later := ih fun effect member => quiet effect (List.mem_cons_of_mem _ member)
      have silent := quiet first List.mem_cons_self
      rw [List.mem_cons, not_or]
      cases first with
      | tcpSocketAccepted other => cases silent
      | udpSocketCreated other => cases silent
      | closeSocket other =>
          rw [List.cons_append, openedSockets, List.mem_filter, later, decide_eq_true_eq, Effect.closeSocket.injEq]
          tauto
      | _ => simp [openedSockets, later]

end Stack

namespace Process

variable {process finished : Process config} {fresh again : FileVariables config}

/-- A listener's socket, or a valid one of a listed connection or of a session. -/
def ClosesBehindLoop (process : Process config) (socket : Int) : Prop :=
  socket ∈ process.listeners.sockets ∨
    socket ≠ kEipInvalidSocket ∧ (process.stack.HoldsSocket socket ∨ socket ∈ process.stack.registeredSessions)

instance (process : Process config) (socket : Int) : Decidable (process.ClosesBehindLoop socket) :=
  inferInstanceAs (Decidable (_ ∨ _))

structure CleanedUp (process finished : Process config) : Prop where
  empty : finished.stack.connectionList.toList = []
  registeredClasses : finished.registeredClasses = []
  kept : finished = { process with
    stack := { process.stack with
      connectionList := finished.stack.connectionList
      object := finished.stack.object
      registeredSessions := finished.stack.registeredSessions
      timestamps := finished.stack.timestamps
      effects := finished.stack.effects }
    registeredClasses := finished.registeredClasses }
  closes : process.stack.LogsClosings finished.stack process.ClosesBehindLoop

theorem cleanUp_spec (coherent : Coherent process.stack) :
    ∃ finished, process.cleanUp = .ok finished ∧ CleanedUp process finished := by
  obtain ⟨deaf, deafened, logsListeners, sameDeaf⟩ :=
    Stack.networkHandlerFinish_logsClosings process.listeners process.stack
  have deafCoherent : Coherent deaf := by
    rw [sameDeaf]
    exact coherent.of_same_table rfl rfl
  obtain ⟨closed, closedAll, logsConnections, empty, sameClosed⟩ :=
    Stack.closeAllConnections_logsClosings deafCoherent
  obtain ⟨shut, shutDown, logsSessions, sameShut⟩ := Stack.encapsulationShutDown_logsClosings closed
  have held (socket : Int) : deaf.HoldsSocket socket ↔ process.stack.HoldsSocket socket := by
    rw [sameDeaf]
    exact Iff.rfl
  have registered : closed.registeredSessions = process.stack.registeredSessions := by
    rw [sameClosed, sameDeaf]
  refine ⟨{ process with stack := shut, registeredClasses := [] }, ?_, ?_, rfl, ?_, ?_⟩
  · unfold cleanUp shutdownCipStack
    rw [deafened, ok_bind, closedAll, ok_bind, shutDown]
    rfl
  · rw [sameShut]
    exact empty
  · dsimp only
    rw [sameShut, sameClosed, sameDeaf]
  · refine ((logsListeners.trans logsConnections).trans logsSessions).congr fun socket => ?_
    unfold ClosesBehindLoop
    rw [held, registered]
    tauto

theorem CleanedUp.mem_openSockets_iff (cleaned : CleanedUp process finished) (socket : Int) :
    socket ∈ finished.openSockets ↔ socket ∈ process.openSockets ∧ ¬ process.ClosesBehindLoop socket := by
  obtain ⟨news, logged, quiet, closes⟩ := cleaned.closes
  have listeners : finished.listeners = process.listeners := by rw [cleaned.kept]
  have leftOpen : finished.leftOpen = process.leftOpen := by rw [cleaned.kept]
  have unclosed : Effect.closeSocket socket ∉ news ++ process.stack.effects ↔
      Effect.closeSocket socket ∉ news ∧ Effect.closeSocket socket ∉ process.stack.effects := by
    rw [List.mem_append, not_or]
  unfold openSockets
  rw [logged, listeners, leftOpen, List.mem_append, List.mem_append, Stack.mem_openedSockets_iff quiet, List.mem_filter,
    List.mem_filter, decide_eq_true_eq, decide_eq_true_eq, unclosed, ← closes socket]
  tauto

theorem CleanedUp.nodes (cleaned : CleanedUp process finished) :
    finished.memory.connectionList.nodes = fun _ => .blank := by
  funext id
  have entries : finished.stack.connectionList.entries = [] := List.map_eq_nil_iff.mp cleaned.empty
  refine (finished.stack.connectionList.represents.holds.blank_iff id).mpr ?_
  simp [entries]

end Process

namespace FileVariables

variable {memory fresh : FileVariables config}

theorem startOpENerStack_loaded (first : startOpENerStack .loaded = .ok fresh) : ∃ registeredClasses,
    (config.classes ++ [config.assemblyClass]).foldlM createCipClass [] = .ok registeredClasses ∧
      fresh = networkHandlerInitialize { loaded with registeredClasses } := by
  obtain ⟨initialized, done, left⟩ := bind_eq_ok.mp first
  obtain ⟨registeredClasses, registered, same⟩ := bind_eq_ok.mp done
  cases same
  cases left
  exact ⟨registeredClasses, registered, rfl⟩

/-- What a start makes of free nodes and an empty registry: three variables are not those of a first start. -/
theorem startOpENerStack_again (first : startOpENerStack .loaded = .ok fresh)
    (nodes : memory.connectionList.nodes = fun _ => .blank) (none : memory.registeredClasses = []) :
    memory.startOpENerStack = .ok { fresh with
      delayedEncapsulationMessages :=
        memory.delayedEncapsulationMessages.map fun delayed => { delayed with socket := kEipInvalidSocket }
      runIdleState := memory.runIdleState
      deviceStatus := memory.deviceStatus } := by
  obtain ⟨classes, registered, rfl⟩ := startOpENerStack_loaded first
  have empty : memory.doublyLinkedListInitialize.registeredClasses = [] := none
  have list : memory.doublyLinkedListInitialize.connectionList = .initialized := by
    change DoublyLinkedList.mk memory.connectionList.nodes Option.none Option.none = _
    rw [nodes]
    rfl
  unfold startOpENerStack cipStackInit
  rw [empty, registered, ok_bind]
  unfold networkHandlerInitialize encapsulationInit initializeConnectionManagerData
  rw [list]
  rfl

end FileVariables

namespace Process

variable {process finished : Process config} {fresh again : FileVariables config}

theorem started_memory (start : FileVariables.startOpENerStack .loaded = .ok fresh)
    (assemblyData : CipInstanceNum → List CipOctet) (timeout : UInt16) (listeners : Listeners) :
    memory ⟨Stack.initialized config assemblyData timeout, fresh.registeredClasses, listeners, []⟩ = fresh := by
  obtain ⟨classes, _, rfl⟩ := FileVariables.startOpENerStack_loaded start
  rfl

theorem Lived.answering (lived : Lived process) : Stack.Answering process.stack := by
  induction lived with
  | started start assemblyData timeout listeners =>
      exact ⟨Stack.Intact.initialized assemblyData timeout, fun _ _ _ kept => by cases kept⟩
  | went lived occurred ih => exact Stack.occur_answering ih occurred
  | @restarted process finished again lived cleaned start assemblyData timeout listeners ih =>
      obtain ⟨reached, done, spec⟩ := cleanUp_spec ih.intact.coherent
      cases cleaned.symm.trans done
      refine ⟨⟨?_, ?_⟩, fun _ _ _ kept => by cases kept⟩
      · exact (Coherent.initialized assemblyData timeout).of_same_table rfl rfl
      · have dummy : finished.stack.dummy = process.stack.dummy := by rw [spec.kept]
        change Pristine finished.stack.dummy
        rw [dummy]
        exact ih.intact.pristine

theorem restarted_memory (lived : Lived process) (first : FileVariables.startOpENerStack .loaded = .ok fresh)
    (cleaned : process.cleanUp = .ok finished) (start : finished.memory.startOpENerStack = .ok again)
    (assemblyData : CipInstanceNum → List CipOctet) (timeout : UInt16) (listeners : Listeners) :
    memory ⟨finished.stack.restarted assemblyData timeout, again.registeredClasses, listeners, finished.openSockets⟩ =
      again := by
  obtain ⟨reached, done, spec⟩ := cleanUp_spec lived.answering.intact.coherent
  cases cleaned.symm.trans done
  have variablesAfter := FileVariables.startOpENerStack_again first spec.nodes spec.registeredClasses
  cases start.symm.trans variablesAfter
  rw [← started_memory first assemblyData timeout listeners]
  rfl

/-- The stack is cleaned up behind its loop and starts again with the variables of a first start, and no socket that
was opened before is open. -/
def RestartsAfresh (process : Process config) (fresh : FileVariables config) : Prop :=
  ∃ finished, process.cleanUp = .ok finished ∧ finished.memory.startOpENerStack = .ok fresh ∧
    finished.openSockets = []

/-- At the stop the run/idle state and the status are those of the loader, no message has been delayed, and every open
socket is a listener's, a registered session's or a listed connection's. -/
structure LeavesNothing (process : Process config) : Prop where
  runIdleState : process.stack.runIdleState = 0
  deviceStatus : process.stack.deviceStatus = ⟨0, 0⟩
  delayed : process.stack.delayedEncapsulationMessages.map (fun delayed => (delayed.timeOut, delayed.message)) =
    List.replicate 2 (0, [])
  sockets : ∀ socket ∈ process.openSockets, process.ClosesBehindLoop socket

/-- Clearing the sockets of delayed messages makes them new exactly if nothing else is left in them. -/
theorem cleared_delayed_iff {messages : List DelayedEncapsulationMessage} :
    (messages.map fun delayed => { delayed with socket := kEipInvalidSocket }) =
        List.replicate 2 ⟨kEipInvalidSocket, 0, []⟩ ↔
      messages.map (fun delayed => (delayed.timeOut, delayed.message)) = List.replicate 2 (0, []) := by
  let entry (rest : Int32 × List CipOctet) : DelayedEncapsulationMessage := ⟨kEipInvalidSocket, rest.1, rest.2⟩
  have injective : Function.Injective entry := by
    rintro ⟨timeOut, message⟩ ⟨otherTimeOut, otherMessage⟩ same
    cases same
    rfl
  have left : (messages.map fun delayed => { delayed with socket := kEipInvalidSocket }) =
      (messages.map fun delayed => (delayed.timeOut, delayed.message)).map entry := by
    rw [List.map_map]
    rfl
  have right : List.replicate 2 ⟨kEipInvalidSocket, 0, []⟩ = (List.replicate 2 (0, [])).map entry := rfl
  rw [left, right]
  exact (List.map_injective_iff.mpr injective).eq_iff

theorem RestartsAfresh.closes (restarts : RestartsAfresh process fresh) (lived : Lived process) :
    ∀ socket ∈ process.openSockets, process.ClosesBehindLoop socket := by
  obtain ⟨finished, done, _, none⟩ := restarts
  obtain ⟨reached, cleaned, spec⟩ := cleanUp_spec lived.answering.intact.coherent
  cases done.symm.trans cleaned
  intro socket opened
  by_contra remains
  have still := (spec.mem_openSockets_iff socket).mpr ⟨opened, remains⟩
  rw [none] at still
  cases still

/-- A restart equals a first start exactly if the stack leaves nothing that a restart does not clear and no socket that
the clean-up does not know. -/
theorem restartsAfresh_iff (lived : Lived process) (first : FileVariables.startOpENerStack .loaded = .ok fresh) :
    RestartsAfresh process fresh ↔ LeavesNothing process := by
  obtain ⟨finished, done, spec⟩ := cleanUp_spec lived.answering.intact.coherent
  have start := FileVariables.startOpENerStack_again first spec.nodes spec.registeredClasses
  have runIdleState : finished.stack.runIdleState = process.stack.runIdleState := by rw [spec.kept]
  have deviceStatus : finished.stack.deviceStatus = process.stack.deviceStatus := by rw [spec.kept]
  have delayed : finished.stack.delayedEncapsulationMessages = process.stack.delayedEncapsulationMessages := by
    rw [spec.kept]
  -- a first start finds the three variables as they are loaded
  have loaded := started_memory first (fun _ => []) 0 ⟨0, 0, 0⟩
  constructor
  · intro restarts
    obtain ⟨reached, cleaned, again, _⟩ := id restarts
    cases cleaned.symm.trans done
    have same := Except.ok.inj (start.symm.trans again)
    rw [← loaded] at same
    refine ⟨?_, ?_, ?_, restarts.closes lived⟩
    · exact runIdleState.symm.trans (congrArg FileVariables.runIdleState same)
    · exact deviceStatus.symm.trans (congrArg FileVariables.deviceStatus same)
    · rw [← cleared_delayed_iff, ← delayed]
      exact congrArg FileVariables.delayedEncapsulationMessages same
  · intro leaves
    have closed : finished.openSockets = [] := by
      refine List.eq_nil_iff_forall_not_mem.mpr fun socket opened => ?_
      obtain ⟨was, remains⟩ := (spec.mem_openSockets_iff socket).mp opened
      exact remains (leaves.sockets socket was)
    refine ⟨finished, done, ?_, closed⟩
    rw [start, ← loaded]
    have messages := cleared_delayed_iff.mpr leaves.delayed
    rw [← delayed] at messages
    unfold memory
    dsimp only
    rw [runIdleState, deviceStatus, leaves.runIdleState, leaves.deviceStatus, messages]
    rfl

section Samples

open SampleApplication

def lives (occurrences : List Occurrence) (test : Process configuration → Bool) : Bool :=
  match FileVariables.startOpENerStack (.loaded : FileVariables configuration) with
  | .error _ => false
  | .ok fresh =>
      match occurrences.foldlM Stack.occur (SampleApplication.start configuration) with
      | .error _ => false
      | .ok stack => test ⟨stack, fresh.registeredClasses, ⟨4, 5, 6⟩, []⟩

theorem Lived.occurrences {occurrences : List Occurrence} {stack after : Stack config}
    {registeredClasses : List CipClass} {listeners : Listeners} {leftOpen : List Int}
    (lived : Lived ⟨stack, registeredClasses, listeners, leftOpen⟩)
    (run : occurrences.foldlM Stack.occur stack = .ok after) :
    Lived ⟨after, registeredClasses, listeners, leftOpen⟩ := by
  induction occurrences generalizing stack with
  | nil =>
      cases run
      exact lived
  | cons first rest ih =>
      obtain ⟨middle, done, later⟩ := bind_eq_ok.mp run
      exact ih (lived.went done) later

theorem exists_of_lives {occurrences : List Occurrence} {test : Process configuration → Bool}
    (passes : lives occurrences test = true) :
    ∃ (process : Process configuration) (fresh : FileVariables configuration), Lived process ∧
      FileVariables.startOpENerStack .loaded = .ok fresh ∧ test process = true := by
  unfold lives at passes
  split at passes
  · cases passes
  · rename_i fresh start
    split at passes
    · cases passes
    · rename_i stack run
      exact ⟨_, fresh, (Lived.started start _ _ _).occurrences run, start, passes⟩

instance (process : Process config) : Decidable (LeavesNothing process) :=
  decidable_of_iff (process.stack.runIdleState = 0 ∧ process.stack.deviceStatus = ⟨0, 0⟩ ∧
      process.stack.delayedEncapsulationMessages.map (fun delayed => (delayed.timeOut, delayed.message)) =
        List.replicate 2 (0, []) ∧ ∀ socket ∈ process.openSockets, process.ClosesBehindLoop socket)
    ⟨fun ⟨idle, status, delayed, sockets⟩ => ⟨idle, status, delayed, sockets⟩,
      fun ⟨idle, status, delayed, sockets⟩ => ⟨idle, status, delayed, sockets⟩⟩

/-- A client with a session and an exclusive owner, both still there at the stop. -/
theorem restartsAfresh_sample : ∃ (process : Process configuration) (fresh : FileVariables configuration),
    process.stack.connectionList.toList ≠ [] ∧ RestartsAfresh process fresh := by
  have run : lives [.operation (.acceptTcpSocket 9) not_false, .operation (.registerSession 9 1 0) not_false,
      .operation (.forwardOpen (openIo 1 (pointToPoint 128) (multicast 128) 101 102)) not_false]
      (fun process => decide (process.stack.connectionList.toList ≠ []) && decide (LeavesNothing process)) = true := by
    decide +kernel
  obtain ⟨process, fresh, lived, first, passes⟩ := exists_of_lives run
  rw [Bool.and_eq_true, decide_eq_true_eq, decide_eq_true_eq] at passes
  exact ⟨process, fresh, passes.1, (restartsAfresh_iff lived first).mpr passes.2⟩

/-- A client has connected and has not registered a session when the stack is stopped: its socket stays open. -/
theorem unregistered_socket_stays_open : ∃ (process : Process configuration) (fresh : FileVariables configuration),
    Lived process ∧ FileVariables.startOpENerStack .loaded = .ok fresh ∧ 9 ∈ process.openSockets ∧
      ¬ RestartsAfresh process fresh := by
  have run : lives [.operation (.acceptTcpSocket 9) not_false]
      (fun process => decide (9 ∈ process.openSockets ∧ ¬ process.ClosesBehindLoop 9)) = true := by
    decide +kernel
  obtain ⟨process, fresh, lived, first, passes⟩ := exists_of_lives run
  obtain ⟨opened, remains⟩ := of_decide_eq_true passes
  exact ⟨process, fresh, lived, first, opened, fun restarts => remains (restarts.closes lived 9 opened)⟩

end Samples

end Process

end EtherNetIP
