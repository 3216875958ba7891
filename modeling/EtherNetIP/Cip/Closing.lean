import EtherNetIP.Library.Walk
import EtherNetIP.Stack

/-! Closing connections.

Closing an exclusive owner or input-only connection that holds the producing
socket of a multicast stream hands the socket to another such connection, and
when there is none closes the listen-only connections of that input. A close
can thus close further connections; the nesting goes one level deep, because a
listen-only connection never closes another one.
-/

set_option autoImplicit false

namespace EtherNetIP

open Library CipConnectionObject

variable {config : Configuration}

namespace Stack

def checkIoConnectionEvent (stack : Stack config) (output input : CipInstanceNum) (event : IoConnectionEvent) :
    Stack config :=
  stack.log (.checkIoConnectionEvent output input event)

def closeSocket (stack : Stack config) (socketHandle : Int) : Stack config :=
  if kEipInvalidSocket ≠ socketHandle then stack.log (.closeSocket socketHandle) else stack

def closeUdpSocket (stack : Stack config) (socketHandle : Int) : Stack config :=
  stack.closeSocket socketHandle

def removeFromActiveConnections (stack : Stack config) (slot : Slot config) : Stack config :=
  { stack with connectionList := stack.connectionList.removeFromActiveConnections slot }

def closeConnection (stack : Stack config) (slot : Slot config) : Stack config :=
  let object := stack.object slot
  let stack :=
    if object.getTransportClass ≠ .class3 then
      (stack.closeUdpSocket object.consumingSocket).closeUdpSocket object.producingSocket
    else stack
  (stack.removeFromActiveConnections slot).setObject slot initializeEmpty

def closeCommunicationChannelsAndRemoveFromActiveConnectionsList (stack : Stack config) (slot : Slot config) :
    Stack config :=
  let object := stack.object slot
  let stack :=
    if kEipInvalidSocket ≠ object.consumingSocket then stack.closeUdpSocket object.consumingSocket else stack
  let stack :=
    if kEipInvalidSocket ≠ object.producingSocket then stack.closeUdpSocket object.producingSocket else stack
  (stack.removeFromActiveConnections slot).setObject slot initializeEmpty

def getExistingProducerIoConnection (stack : Stack config) (multicastOnly : Bool) (inputPoint : UInt32) :
    Option (Slot config) :=
  stack.findConnection fun object =>
    object.isTypeIOConnection &&
      inputPoint == object.producedPath.instanceId.toUInt32 &&
      object.producingSocket != kEipInvalidSocket &&
      (object.getTToOConnectionType == .multicast ||
        (!multicastOnly && object.getTToOConnectionType == .pointToPoint))

/-- The test `GetNextNonControlMasterConnection` makes of each connection. -/
def isNonControlMaster (inputPoint : UInt32) (object : CipConnectionObject) : Bool :=
  object.isTypeNonLOIOConnection &&
    object.state == .established &&
    inputPoint == object.producedPath.instanceId.toUInt32 &&
    object.getTToOConnectionType == .multicast &&
    object.producingSocket == kEipInvalidSocket

def getNextNonControlMasterConnection (stack : Stack config) (inputPoint : UInt32) : Option (Slot config) :=
  stack.findConnection (isNonControlMaster inputPoint)

def takeOver (closing next : CipConnectionObject) : CipConnectionObject :=
  { next with
    producingSocket := closing.producingSocket
    remoteAddress := closing.remoteAddress
    eipLevelSequenceCountProducing := closing.eipLevelSequenceCountProducing
    sequenceCountProducing := closing.sequenceCountProducing
    transmissionTriggerTimer := closing.transmissionTriggerTimer }

def releaseProducingSocket (object : CipConnectionObject) : CipConnectionObject :=
  { object with producingSocket := kEipInvalidSocket }

def transferMasterConnection (stack : Stack config) (slot : Slot config) : Option (Stack config) := do
  let active ← stack.getNextNonControlMasterConnection (stack.object slot).producedPath.instanceId.toUInt32
  let taken := stack.modifyObject active (takeOver (stack.object slot))
  return taken.modifyObject slot releaseProducingSocket

/-- The test both close and time-out make before they hand on or end a multicast stream. -/
def isMulticastMaster (instanceType : ConnectionObjectInstanceType)
    (connectionType : ConnectionObjectConnectionType) (producingSocket : Int) : Bool :=
  (instanceType == .ioExclusiveOwner || instanceType == .ioInputOnly) &&
    connectionType == .multicast && producingSocket != kEipInvalidSocket

def controlsMulticast (object : CipConnectionObject) : Bool :=
  isMulticastMaster object.instanceType object.getTToOConnectionType object.producingSocket

def hasTypeAndInput (inputPoint : UInt32) (instanceType : ConnectionObjectInstanceType)
    (object : CipConnectionObject) : Bool :=
  object.instanceType == instanceType && inputPoint == object.producedPath.instanceId.toUInt32

/-- One round of the loop; the next node is read before the connection is closed. -/
def closeAllVisit (close : Stack config → Slot config → Except Fault (Stack config)) (inputPoint : UInt32)
    (instanceType : ConnectionObjectInstanceType) (node : Nat) (stack : Stack config) :
    Except Fault (Stack config × Option Nat) := do
  let some connection := stack.connectionList.data node | throw .nullConnection
  let next := stack.connectionList.next node
  let object := stack.object connection
  if hasTypeAndInput inputPoint instanceType object then
    let stack := stack.checkIoConnectionEvent object.consumedPath.instanceId object.producedPath.instanceId .closed
    if object.connectionCloseFunction = none then throw .assertion
    let stack ← close stack connection
    return (stack, next)
  else
    return (stack, next)

def closeAllConnectionsForInputWithSameType (close : Stack config → Slot config → Except Fault (Stack config))
    (stack : Stack config) (inputPoint : UInt32) (instanceType : ConnectionObjectInstanceType) :
    Except Fault (Stack config) :=
  walk (closeAllVisit close inputPoint instanceType) .outOfFuel config.kNodesAmount
    stack.connectionList.first stack

/-- The part closing and timing out share: the producing socket of a controlled multicast stream is
handed on; without a next master the listen-only connections are closed. Tells whether it was handed on.
The instance type and the connection type are those the connection had on entry. -/
def handOver (close : Stack config → Slot config → Except Fault (Stack config))
    (instanceType : ConnectionObjectInstanceType) (connectionType : ConnectionObjectConnectionType)
    (stack : Stack config) (slot : Slot config) : Except Fault (Stack config × Bool) :=
  if isMulticastMaster instanceType connectionType (stack.object slot).producingSocket then
    match stack.transferMasterConnection slot with
    | some transferred => .ok (transferred, true)
    | none => do
        let stack ← closeAllConnectionsForInputWithSameType close stack
          (stack.object slot).producedPath.instanceId.toUInt32 .ioListenOnly
        return (stack, false)
  else .ok (stack, false)

def closing (stack : Stack config) (slot : Slot config) : Stack config :=
  let object := stack.object slot
  (stack.checkIoConnectionEvent object.consumedPath.instanceId object.producedPath.instanceId .closed).modifyObject
    slot (·.setState .nonExistent)

def closeIoConnection (close : Stack config → Slot config → Except Fault (Stack config))
    (stack : Stack config) (slot : Slot config) : Except Fault (Stack config) := do
  let object := stack.object slot
  let (stack, _) ← handOver close object.instanceType object.getTToOConnectionType (stack.closing slot) slot
  return stack.closeCommunicationChannelsAndRemoveFromActiveConnectionsList slot

def callCloseFunction : Nat → Stack config → Slot config → Except Fault (Stack config)
  | 0, _, _ => .error .outOfFuel
  | depth + 1, stack, slot =>
      match (stack.object slot).connectionCloseFunction with
      | none => .error .nullFunction
      | some .closeConnection => .ok (stack.closeConnection slot)
      | some .closeIoConnection => closeIoConnection (callCloseFunction depth) stack slot

/-- A close calls at most the closes of listen-only connections, which call none. -/
def connectionCloseFunction (stack : Stack config) (slot : Slot config) : Except Fault (Stack config) :=
  callCloseFunction 2 stack slot

def closeAllConnectionsVisit (node : Nat) (stack : Stack config) : Except Fault (Stack config × Option Nat) :=
  match stack.connectionList.data node with
  | none => .error .nullConnection
  | some connection =>
      if (stack.object connection).connectionCloseFunction = none then .error .assertion
      else stack.connectionCloseFunction connection >>= fun stack => .ok (stack, stack.connectionList.first)

def closeAllConnections (stack : Stack config) : Except Fault (Stack config) :=
  walk closeAllConnectionsVisit .outOfFuel config.kNodesAmount stack.connectionList.first stack

/-- The sockets that closing the connection closes, in their order. An explicit connection of transport
class 3 closes none. -/
def closedSockets (object : CipConnectionObject) : List Int :=
  if object.connectionCloseFunction = some .closeConnection ∧ object.getTransportClass = .class3 then []
  else [object.consumingSocket, object.producingSocket].filter (· ≠ kEipInvalidSocket)

def closings (sockets : List Int) : List Effect := (sockets.map .closeSocket).reverse

/-- The connection table of the second stack is that of the first without some connections: their objects
are empty, all other objects and the nodes of the other connections are as before. -/
structure Unlists (before after : Stack config) (gone : List (Slot config)) : Prop where
  entries : after.connectionList.entries =
    before.connectionList.entries.filter fun entry => entry.2 ∉ gone
  emptied : ∀ slot ∈ gone, after.object slot = initializeEmpty
  others : ∀ slot, slot ∉ gone → after.object slot = before.object slot

/-- The second stack is the first without some connections, whose sockets have been closed; everything
outside the connection table is as before. -/
structure Removes (before after : Stack config) (gone : List (Slot config)) : Prop
    extends Unlists before after gone where
  globals : after = { before with
    connectionList := after.connectionList, object := after.object, effects := after.effects }
  traffic : after.traffic = closings (gone.flatMap fun slot => closedSockets (before.object slot)) ++ before.traffic

namespace Unlists

variable {before middle after : Stack config} {gone more : List (Slot config)}

theorem toList (unlists : Unlists before after gone) :
    after.connectionList.toList = before.connectionList.toList.filter (· ∉ gone) := by
  rw [ConnectionList.toList, unlists.entries, ConnectionList.toList, List.filter_map]
  rfl

theorem nothing (list : after.connectionList = before.connectionList) (object : after.object = before.object) :
    Unlists before after [] where
  entries := by simp [list]
  emptied := by simp
  others := fun _ _ => by rw [object]

theorem trans (first : Unlists before middle gone) (second : Unlists middle after more) :
    Unlists before after (gone ++ more) where
  entries := by
    rw [second.entries, first.entries, List.filter_filter]
    refine List.filter_congr fun entry _ => ?_
    simp [Bool.and_comm]
  emptied := by
    intro slot member
    by_cases late : slot ∈ more
    · exact second.emptied slot late
    · rw [second.others slot late]
      exact first.emptied slot ((List.mem_append.mp member).resolve_right late)
  others := by
    intro slot absent
    rw [List.mem_append, not_or] at absent
    rw [second.others slot absent.2, first.others slot absent.1]

theorem distinct (unlists : Unlists before after gone) (nodup : before.connectionList.toList.Nodup) :
    after.connectionList.toList.Nodup := by
  rw [unlists.toList]
  exact nodup.filter _

theorem mem_iff (unlists : Unlists before after gone) {slot : Slot config} :
    slot ∈ after.connectionList.toList ↔ slot ∈ before.connectionList.toList ∧ slot ∉ gone := by
  rw [unlists.toList, List.mem_filter]
  simp

end Unlists

namespace Removes

variable {before middle after : Stack config} {gone more : List (Slot config)}

theorem nothing : Removes before before [] where
  toUnlists := .nothing rfl rfl
  globals := rfl
  traffic := by simp [closings]

theorem trans (first : Removes before middle gone) (second : Removes middle after more)
    (apart : ∀ slot ∈ more, slot ∉ gone) : Removes before after (gone ++ more) where
  toUnlists := first.toUnlists.trans second.toUnlists
  globals := by
    rw [second.globals, first.globals]
  traffic := by
    have unchanged : more.flatMap (fun slot => closedSockets (middle.object slot)) =
        more.flatMap fun slot => closedSockets (before.object slot) :=
      List.flatMap_congr fun slot late => by rw [first.others slot (apart slot late)]
    rw [second.traffic, first.traffic, unchanged]
    simp [closings]

theorem of_same_table {other : Stack config} (removes : Removes other after gone)
    (list : other.connectionList = before.connectionList)
    (object : ∀ slot, slot ∉ gone → other.object slot = before.object slot)
    (sockets : ∀ slot, closedSockets (other.object slot) = closedSockets (before.object slot))
    (traffic : other.traffic = before.traffic)
    (globals : other = { before with
      connectionList := other.connectionList, object := other.object, effects := other.effects }) :
    Removes before after gone where
  entries := by rw [removes.entries, list]
  emptied := removes.emptied
  others := fun slot absent => (removes.others slot absent).trans (object slot absent)
  globals := by rw [removes.globals, globals]
  traffic := by simp only [removes.traffic, sockets, traffic]

end Removes

def withTypeAndInput (stack : Stack config) (inputPoint : UInt32)
    (instanceType : ConnectionObjectInstanceType) : List (Slot config) :=
  stack.connectionList.toList.filter fun slot => hasTypeAndInput inputPoint instanceType (stack.object slot)

@[simp] theorem closeSocket_connectionList (stack : Stack config) (socketHandle : Int) :
    (stack.closeSocket socketHandle).connectionList = stack.connectionList := by
  unfold closeSocket; split <;> rfl

@[simp] theorem closeSocket_object (stack : Stack config) (socketHandle : Int) :
    (stack.closeSocket socketHandle).object = stack.object := by
  unfold closeSocket; split <;> rfl

theorem closeSocket_globals (stack : Stack config) (socketHandle : Int) :
    stack.closeSocket socketHandle = { stack with effects := (stack.closeSocket socketHandle).effects } := by
  unfold closeSocket; split <;> rfl

@[simp] theorem closeSocket_traffic (stack : Stack config) (socketHandle : Int) :
    (stack.closeSocket socketHandle).traffic =
      closings ([socketHandle].filter (· ≠ kEipInvalidSocket)) ++ stack.traffic := by
  by_cases valid : kEipInvalidSocket = socketHandle
  · subst valid
    simp [closeSocket, closings]
  · have differs : socketHandle ≠ kEipInvalidSocket := fun same => valid same.symm
    simp [closeSocket, valid, differs, closings, traffic_log, Effect.isTraffic]

theorem removes_single {before logged : Stack config} (slot : Slot config)
    (nodup : before.connectionList.toList.Nodup)
    (same : logged = { before with effects := logged.effects })
    (closed : logged.traffic = closings (closedSockets (before.object slot)) ++ before.traffic) :
    Removes before ((logged.removeFromActiveConnections slot).setObject slot initializeEmpty) [slot] where
  entries := by
    rw [same]
    simpa [removeFromActiveConnections] using
      ConnectionList.entries_remove_eq_filter nodup slot
  emptied := by simp
  others := by
    intro other absent
    rw [same]
    simp only [List.mem_singleton] at absent
    simp [removeFromActiveConnections, Function.update_of_ne absent]
  globals := by
    rw [same]
    rfl
  traffic := by
    rw [List.flatMap_singleton]
    exact closed

theorem closeSocket_if (stack : Stack config) (socketHandle : Int) :
    (if kEipInvalidSocket ≠ socketHandle then stack.closeUdpSocket socketHandle else stack) =
      stack.closeSocket socketHandle := by
  unfold closeUdpSocket closeSocket
  split <;> rfl

theorem closeConnection_removes {stack : Stack config} {slot : Slot config}
    (nodup : stack.connectionList.toList.Nodup)
    (closes : (stack.object slot).connectionCloseFunction = some .closeConnection) :
    Removes stack (stack.closeConnection slot) [slot] := by
  unfold closeConnection closeUdpSocket
  dsimp only
  by_cases class3 : (stack.object slot).getTransportClass = .class3
  · rw [if_neg (not_not.mpr class3)]
    exact removes_single slot nodup rfl (by simp [closedSockets, closes, class3, closings])
  · rw [if_pos class3]
    refine removes_single slot nodup ?_ ?_
    · rw [closeSocket_globals, closeSocket_globals]
    · rw [closeSocket_traffic, closeSocket_traffic, closedSockets, if_neg (by simp [class3]), ← List.append_assoc]
      congr 1
      simp only [closings, List.filter_cons, List.filter_nil]
      split <;> split <;> rfl

theorem closeCommunicationChannels_removes {stack : Stack config} {slot : Slot config}
    (nodup : stack.connectionList.toList.Nodup)
    (closes : (stack.object slot).connectionCloseFunction = some .closeIoConnection) :
    Removes stack (stack.closeCommunicationChannelsAndRemoveFromActiveConnectionsList slot) [slot] := by
  unfold closeCommunicationChannelsAndRemoveFromActiveConnectionsList
  dsimp only
  rw [closeSocket_if, closeSocket_if]
  refine removes_single slot nodup ?_ ?_
  · rw [closeSocket_globals, closeSocket_globals]
  · rw [closeSocket_traffic, closeSocket_traffic, closedSockets, if_neg (by simp [closes]), ← List.append_assoc]
    congr 1
    simp only [closings, List.filter_cons, List.filter_nil]
    split <;> split <;> rfl

theorem closing_object (stack : Stack config) (slot : Slot config) :
    (stack.closing slot).object =
      Function.update stack.object slot ((stack.object slot).setState .nonExistent) := rfl

theorem Removes.of_closing {stack after : Stack config} {slot : Slot config} {gone : List (Slot config)}
    (removes : Removes (stack.closing slot) after gone) (member : slot ∈ gone) : Removes stack after gone := by
  refine removes.of_same_table rfl (fun other absent => ?_) (fun other => ?_) rfl rfl
  · have differs : other ≠ slot := fun same => absent (same ▸ member)
    rw [closing_object, Function.update_of_ne differs]
  · rw [closing_object]
    by_cases same : other = slot
    · subst same
      rw [Function.update_self]
      rfl
    · rw [Function.update_of_ne same]

theorem closeIoConnection_eq (close : Stack config → Slot config → Except Fault (Stack config))
    (stack : Stack config) (slot : Slot config) :
    closeIoConnection close stack slot =
      handOver close (stack.object slot).instanceType (stack.object slot).getTToOConnectionType
        (stack.closing slot) slot >>= fun reached =>
        .ok (reached.1.closeCommunicationChannelsAndRemoveFromActiveConnectionsList slot) := rfl

theorem closing_isMulticastMaster (stack : Stack config) (slot : Slot config) :
    isMulticastMaster (stack.object slot).instanceType (stack.object slot).getTToOConnectionType
      ((stack.closing slot).object slot).producingSocket = controlsMulticast (stack.object slot) := by
  rw [closing_object, Function.update_self]
  rfl

section Leaf

variable {close : Stack config → Slot config → Except Fault (Stack config)} {stack : Stack config}
  {slot : Slot config}

theorem closeIoConnection_leaf (nodup : stack.connectionList.toList.Nodup)
    (leaf : controlsMulticast (stack.object slot) = false)
    (closes : (stack.object slot).connectionCloseFunction = some .closeIoConnection) :
    ∃ after, closeIoConnection close stack slot = .ok after ∧ Removes stack after [slot] := by
  have removes : Removes (stack.closing slot)
      ((stack.closing slot).closeCommunicationChannelsAndRemoveFromActiveConnectionsList slot) [slot] := by
    refine closeCommunicationChannels_removes (show (stack.closing slot).connectionList.toList.Nodup from nodup) ?_
    rw [closing_object, Function.update_self]
    exact closes
  refine ⟨_, ?_, removes.of_closing (List.mem_singleton_self slot)⟩
  rw [closeIoConnection_eq, handOver, closing_isMulticastMaster, leaf]
  rfl

theorem callCloseFunction_leaf (depth : Nat) (nodup : stack.connectionList.toList.Nodup)
    (leaf : controlsMulticast (stack.object slot) = false)
    (callable : (stack.object slot).connectionCloseFunction ≠ none) :
    ∃ after, callCloseFunction (depth + 1) stack slot = .ok after ∧ Removes stack after [slot] := by
  unfold callCloseFunction
  split
  · rename_i missing
    exact absurd missing callable
  · rename_i closes
    exact ⟨_, rfl, closeConnection_removes nodup closes⟩
  · rename_i closes
    exact closeIoConnection_leaf nodup leaf closes

end Leaf

theorem closeAllVisit_skip {close : Stack config → Slot config → Except Fault (Stack config)}
    {stack : Stack config} {inputPoint : UInt32} {instanceType : ConnectionObjectInstanceType}
    {front back : List (Nat × Slot config)} {id : Nat} {slot : Slot config}
    (split : stack.connectionList.entries = front ++ (id, slot) :: back)
    (other : hasTypeAndInput inputPoint instanceType (stack.object slot) = false) :
    closeAllVisit close inputPoint instanceType id stack = .ok (stack, headId back) := by
  have member : (id, slot) ∈ stack.connectionList.entries := by simp [split]
  have data := ConnectionList.data_of_mem member
  have next := ConnectionList.next_of_split split
  simp only [closeAllVisit, data, next, other]
  rfl

theorem closeAllVisit_close {close : Stack config → Slot config → Except Fault (Stack config)}
    {stack after : Stack config} {inputPoint : UInt32} {instanceType : ConnectionObjectInstanceType}
    {front back : List (Nat × Slot config)} {id : Nat} {slot : Slot config}
    (split : stack.connectionList.entries = front ++ (id, slot) :: back)
    (same : hasTypeAndInput inputPoint instanceType (stack.object slot) = true)
    (callable : (stack.object slot).connectionCloseFunction ≠ none)
    (closed : close (stack.checkIoConnectionEvent (stack.object slot).consumedPath.instanceId
      (stack.object slot).producedPath.instanceId .closed) slot = .ok after) :
    closeAllVisit close inputPoint instanceType id stack = .ok (after, headId back) := by
  have member : (id, slot) ∈ stack.connectionList.entries := by simp [split]
  have data := ConnectionList.data_of_mem member
  have next := ConnectionList.next_of_split split
  simp only [closeAllVisit, data, next, same, if_true, callable, if_false]
  simp only [closed]
  rfl

theorem Unlists.split_after {before after : Stack config} {front back : List (Nat × Slot config)} {id : Nat}
    {slot : Slot config} (unlists : Unlists before after [slot]) (nodup : before.connectionList.toList.Nodup)
    (split : before.connectionList.entries = front ++ (id, slot) :: back) :
    after.connectionList.entries = front ++ back := by
  rw [ConnectionList.toList, split, List.map_append, List.map_cons, List.nodup_middle, List.nodup_cons] at nodup
  rw [unlists.entries, split, List.filter_append, List.filter_cons_of_neg (by simp)]
  congr 1
  · rw [List.filter_eq_self]
    intro entry member
    simpa using fun same => nodup.1 (List.mem_append_left _ (List.mem_map.mpr ⟨entry, member, same⟩))
  · rw [List.filter_eq_self]
    intro entry member
    simpa using fun same => nodup.1 (List.mem_append_right _ (List.mem_map.mpr ⟨entry, member, same⟩))

section CloseAllLeaves

variable (inputPoint : UInt32) (instanceType : ConnectionObjectInstanceType) (depth : Nat)

/-- Closing connections that control no multicast stream closes these and nothing else. The induction is
on the entries still ahead of the loop. -/
theorem closeAll_leaves_from {stack : Stack config} {front back : List (Nat × Slot config)} {fuel : Nat}
    (split : stack.connectionList.entries = front ++ back) (enough : back.length ≤ fuel)
    (nodup : stack.connectionList.toList.Nodup)
    (leaves : ∀ slot ∈ back.map Prod.snd, hasTypeAndInput inputPoint instanceType (stack.object slot) = true →
      controlsMulticast (stack.object slot) = false ∧ (stack.object slot).connectionCloseFunction ≠ none) :
    ∃ after, walk (closeAllVisit (callCloseFunction (depth + 1)) inputPoint instanceType) .outOfFuel fuel
        (headId back) stack = .ok after ∧
      Removes stack after ((back.map Prod.snd).filter fun slot =>
        hasTypeAndInput inputPoint instanceType (stack.object slot)) := by
  induction back generalizing stack front fuel with
  | nil => exact ⟨stack, by simp, Removes.nothing⟩
  | cons entry back ih =>
      obtain ⟨id, slot⟩ := entry
      obtain ⟨fuel, rfl⟩ : ∃ less, fuel = less + 1 := ⟨fuel - 1, by simp at enough; omega⟩
      have shorter : back.length ≤ fuel := by simpa using enough
      cases same : hasTypeAndInput inputPoint instanceType (stack.object slot) with
      | false =>
          have split' : stack.connectionList.entries = (front ++ [(id, slot)]) ++ back := by simp [split]
          obtain ⟨after, done, removes⟩ := ih split' shorter nodup fun other member =>
            leaves other (List.mem_cons_of_mem _ member)
          refine ⟨after, ?_, ?_⟩
          · rw [headId_cons, walk_of_visit (closeAllVisit_skip split same)]
            exact done
          · simpa [same] using removes
      | true =>
          obtain ⟨leaf, callable⟩ := leaves slot (by simp) same
          let logged := stack.checkIoConnectionEvent (stack.object slot).consumedPath.instanceId
            (stack.object slot).producedPath.instanceId .closed
          obtain ⟨closed, returned, first⟩ :=
            callCloseFunction_leaf depth (show logged.connectionList.toList.Nodup from nodup) leaf callable
          have first : Removes stack closed [slot] :=
            first.of_same_table rfl (fun _ _ => rfl) (fun _ => rfl) rfl rfl
          have apart : slot ∉ back.map Prod.snd := by
            rw [ConnectionList.toList, split, List.map_append, List.map_cons, List.nodup_middle] at nodup
            exact fun member => (List.nodup_cons.mp nodup).1 (List.mem_append_right _ member)
          -- the rest of the list is judged by the objects as they were
          have unchanged : ∀ other ∈ back.map Prod.snd, closed.object other = stack.object other :=
            fun other member =>
              first.others other (by rw [List.mem_singleton]; rintro rfl; exact apart member)
          obtain ⟨after, done, rest⟩ := ih (first.split_after nodup split) shorter (first.distinct nodup)
            fun other member => by
              rw [unchanged other member]
              exact leaves other (List.mem_cons_of_mem _ member)
          refine ⟨after, ?_, ?_⟩
          · rw [headId_cons, walk_of_visit (closeAllVisit_close split same callable returned)]
            exact done
          · have sameRest : (back.map Prod.snd).filter (fun other =>
                hasTypeAndInput inputPoint instanceType (closed.object other)) =
                (back.map Prod.snd).filter fun other =>
                  hasTypeAndInput inputPoint instanceType (stack.object other) :=
              List.filter_congr fun other member => by rw [unchanged other member]
            rw [sameRest] at rest
            simpa [same] using first.trans rest fun other member inGone =>
              apart (List.mem_singleton.mp inGone ▸ (List.mem_filter.mp member).1)

theorem closeAll_leaves {stack : Stack config} (nodup : stack.connectionList.toList.Nodup)
    (leaves : ∀ slot ∈ stack.connectionList.toList,
      hasTypeAndInput inputPoint instanceType (stack.object slot) = true →
      controlsMulticast (stack.object slot) = false ∧ (stack.object slot).connectionCloseFunction ≠ none) :
    ∃ after, closeAllConnectionsForInputWithSameType (callCloseFunction (depth + 1)) stack inputPoint
        instanceType = .ok after ∧ Removes stack after (stack.withTypeAndInput inputPoint instanceType) := by
  have enough : stack.connectionList.entries.length ≤ config.kNodesAmount := by
    simpa [ConnectionList.toList] using stack.connectionList.length_le
  rw [closeAllConnectionsForInputWithSameType, ConnectionList.first_eq]
  exact closeAll_leaves_from inputPoint instanceType depth (List.nil_append _).symm enough nodup leaves

end CloseAllLeaves

theorem listenOnly_controls_nothing {object : CipConnectionObject} {inputPoint : UInt32}
    (listens : hasTypeAndInput inputPoint .ioListenOnly object = true) : controlsMulticast object = false := by
  simp only [hasTypeAndInput, Bool.and_eq_true, beq_iff_eq] at listens
  simp [controlsMulticast, isMulticastMaster, listens.1]

section Master

variable {stack : Stack config} {slot next : Slot config} {inputPoint : UInt32}

theorem controls_not_nonControlMaster {object : CipConnectionObject}
    (controls : controlsMulticast object = true) : isNonControlMaster inputPoint object = false := by
  simp only [controlsMulticast, isMulticastMaster, Bool.and_eq_true, bne_iff_ne] at controls
  simp [isNonControlMaster, controls.2]

theorem getNextNonControlMaster_closing (controls : controlsMulticast (stack.object slot) = true) :
    (stack.closing slot).getNextNonControlMasterConnection inputPoint =
      stack.getNextNonControlMasterConnection inputPoint := by
  unfold getNextNonControlMasterConnection findConnection
  congr 1
  funext other
  rw [closing_object]
  by_cases same : other = slot
  · subst same
    rw [Function.update_self, controls_not_nonControlMaster controls]
    simp [isNonControlMaster, setState]
  · rw [Function.update_of_ne same]

def handedOver (stack : Stack config) (slot next : Slot config) : Stack config :=
  (stack.setObject next (takeOver (stack.object slot) (stack.object next))).modifyObject slot releaseProducingSocket

theorem handedOver_object (differs : next ≠ slot) :
    (stack.handedOver slot next).object =
      Function.update (Function.update stack.object next (takeOver (stack.object slot) (stack.object next))) slot
        (releaseProducingSocket (stack.object slot)) := by
  rw [handedOver, modifyObject, setObject_objects, setObject_objects, Function.update_of_ne (Ne.symm differs)]

/-- Once the connection is gone it does not matter that it had no producing socket. -/
theorem unlists_of_handedOver {after : Stack config} (unlists : Unlists (stack.handedOver slot next) after [slot]) :
    Unlists (stack.setObject next (takeOver (stack.object slot) (stack.object next))) after [slot] where
  entries := unlists.entries
  emptied := unlists.emptied
  others := by
    intro other absent
    rw [unlists.others other absent, handedOver, modifyObject, setObject_objects,
      Function.update_of_ne (by simpa using absent)]

theorem closeIoConnection_transfers {close : Stack config → Slot config → Except Fault (Stack config)}
    (nodup : stack.connectionList.toList.Nodup) (controls : controlsMulticast (stack.object slot) = true)
    (closes : (stack.object slot).connectionCloseFunction = some .closeIoConnection)
    (successor : stack.getNextNonControlMasterConnection
      (stack.object slot).producedPath.instanceId.toUInt32 = some next) :
    ∃ after, closeIoConnection close stack slot = .ok after ∧
      Removes (stack.handedOver slot next) after [slot] := by
  have differs : next ≠ slot := by
    rintro rfl
    have candidate := (findConnection_mem successor).2
    rw [controls_not_nonControlMaster controls] at candidate
    exact absurd candidate (by simp)
  have found : (stack.closing slot).getNextNonControlMasterConnection
      ((stack.closing slot).object slot).producedPath.instanceId.toUInt32 = some next := by
    rw [getNextNonControlMaster_closing controls, closing_object, Function.update_self]
    exact successor
  -- the successor takes over from the object that is already marked as closed
  let reached := ((stack.closing slot).modifyObject next
    (takeOver ((stack.closing slot).object slot))).modifyObject slot releaseProducingSocket
  have transferred : (stack.closing slot).transferMasterConnection slot = some reached := by
    rw [transferMasterConnection, found]
    rfl
  have objects : reached.object =
      Function.update (Function.update stack.object next (takeOver (stack.object slot) (stack.object next))) slot
        (releaseProducingSocket ((stack.object slot).setState .nonExistent)) := by
    simp only [reached, modifyObject, setObject_objects, closing_object, Function.update_self,
      Function.update_of_ne differs, Function.update_of_ne (Ne.symm differs)]
    rw [Function.update_comm (Ne.symm differs), Function.update_idem]
    rfl
  have removes : Removes reached
      (reached.closeCommunicationChannelsAndRemoveFromActiveConnectionsList slot) [slot] := by
    refine closeCommunicationChannels_removes (show reached.connectionList.toList.Nodup from nodup) ?_
    rw [objects, Function.update_self]
    exact closes
  refine ⟨_, ?_, removes.of_same_table rfl ?_ ?_ rfl rfl⟩
  · rw [closeIoConnection_eq, handOver, closing_isMulticastMaster, controls, transferred]
    rfl
  · intro other absent
    have otherSlot : other ≠ slot := by simpa using absent
    rw [objects, handedOver_object differs, Function.update_of_ne otherSlot, Function.update_of_ne otherSlot]
  · intro other
    rw [objects, handedOver_object differs]
    by_cases same : other = slot
    · subst same
      rw [Function.update_self, Function.update_self]
      rfl
    · rw [Function.update_of_ne same, Function.update_of_ne same]

theorem closeIoConnection_ends {depth : Nat} (nodup : stack.connectionList.toList.Nodup)
    (controls : controlsMulticast (stack.object slot) = true)
    (closes : (stack.object slot).connectionCloseFunction = some .closeIoConnection)
    (last : stack.getNextNonControlMasterConnection
      (stack.object slot).producedPath.instanceId.toUInt32 = none)
    (callable : ∀ listener ∈ stack.withTypeAndInput
      (stack.object slot).producedPath.instanceId.toUInt32 .ioListenOnly,
      (stack.object listener).connectionCloseFunction ≠ none) :
    ∃ after, closeIoConnection (callCloseFunction (depth + 1)) stack slot = .ok after ∧
      Removes stack after (stack.withTypeAndInput
        (stack.object slot).producedPath.instanceId.toUInt32 .ioListenOnly ++ [slot]) := by
  have notListening : hasTypeAndInput (stack.object slot).producedPath.instanceId.toUInt32 .ioListenOnly
      (stack.object slot) = false := by
    cases listens : hasTypeAndInput (stack.object slot).producedPath.instanceId.toUInt32 .ioListenOnly
      (stack.object slot) with
    | false => rfl
    | true =>
        rw [listenOnly_controls_nothing listens] at controls
        exact absurd controls (by simp)
  have sameListeners : (stack.closing slot).withTypeAndInput
      (stack.object slot).producedPath.instanceId.toUInt32 .ioListenOnly =
      stack.withTypeAndInput (stack.object slot).producedPath.instanceId.toUInt32 .ioListenOnly := by
    refine List.filter_congr fun other _ => ?_
    rw [closing_object]
    by_cases same : other = slot
    · subst same
      rw [Function.update_self, notListening]
      exact notListening
    · rw [Function.update_of_ne same]
  have apart : slot ∉ stack.withTypeAndInput (stack.object slot).producedPath.instanceId.toUInt32 .ioListenOnly := by
    intro member
    have listens := (List.mem_filter.mp member).2
    rw [notListening] at listens
    exact absurd listens (by simp)
  have sameListenerObject : ∀ listener ∈ stack.withTypeAndInput
      (stack.object slot).producedPath.instanceId.toUInt32 .ioListenOnly,
      (stack.closing slot).object listener = stack.object listener := by
    intro listener member
    have differs : listener ≠ slot := by
      rintro rfl
      exact apart member
    rw [closing_object, Function.update_of_ne differs]
  have nobody : (stack.closing slot).transferMasterConnection slot = none := by
    rw [transferMasterConnection, getNextNonControlMaster_closing controls, closing_object, Function.update_self]
    simp only [setState]
    rw [last]
    rfl
  -- the listeners leave one after the other, and none of them hands anything on
  obtain ⟨quiet, done, listeners⟩ := closeAll_leaves (stack.object slot).producedPath.instanceId.toUInt32
    .ioListenOnly depth (show (stack.closing slot).connectionList.toList.Nodup from nodup)
    fun other _ listens => by
      refine ⟨listenOnly_controls_nothing listens, ?_⟩
      have member : other ∈ (stack.closing slot).withTypeAndInput
          (stack.object slot).producedPath.instanceId.toUInt32 .ioListenOnly := by
        exact List.mem_filter.mpr ⟨by assumption, listens⟩
      rw [sameListeners] at member
      rw [sameListenerObject other member]
      exact callable other member
  rw [sameListeners] at listeners
  have stillCloses : (quiet.object slot).connectionCloseFunction = some .closeIoConnection := by
    rw [listeners.others slot apart, closing_object, Function.update_self]
    exact closes
  have removes := listeners.trans (closeCommunicationChannels_removes (listeners.distinct nodup) stillCloses)
    fun other member => List.mem_singleton.mp member ▸ apart
  refine ⟨_, ?_, removes.of_closing (by simp)⟩
  rw [closeIoConnection_eq, handOver, closing_isMulticastMaster, controls, nobody]
  simp only [closing_object, Function.update_self, setState, if_true]
  rw [done]
  rfl

end Master

/-- The three ways to close a connection: one that controls no multicast stream just goes; the producing socket
of a stream is handed on; with the last producer of a stream its listeners go first. -/
inductive Closed (before : Stack config) (slot : Slot config) (after : Stack config) : Prop
  | alone (passive : controlsMulticast (before.object slot) = false) (removes : Removes before after [slot])
  | succeeded (next : Slot config) (controls : controlsMulticast (before.object slot) = true)
      (successor : before.getNextNonControlMasterConnection
        (before.object slot).producedPath.instanceId.toUInt32 = some next)
      (removes : Removes (before.handedOver slot next) after [slot])
  | last (controls : controlsMulticast (before.object slot) = true)
      (nobody : before.getNextNonControlMasterConnection
        (before.object slot).producedPath.instanceId.toUInt32 = none)
      (removes : Removes before after (before.withTypeAndInput
        (before.object slot).producedPath.instanceId.toUInt32 .ioListenOnly ++ [slot]))

theorem Closed.globals {before after : Stack config} {slot : Slot config} (closed : Closed before slot after) :
    after = { before with
      connectionList := after.connectionList, object := after.object, effects := after.effects } := by
  cases closed with
  | alone passive removes => exact removes.globals
  | succeeded next controls successor removes =>
      rw [removes.globals]
      rfl
  | last controls nobody removes => exact removes.globals

theorem Closed.of_event {before after : Stack config} {slot : Slot config} {output input : CipInstanceNum}
    {event : IoConnectionEvent} (closed : Closed (before.checkIoConnectionEvent output input event) slot after) :
    Closed before slot after := by
  cases closed with
  | alone passive removes => exact .alone passive (removes.of_same_table rfl (fun _ _ => rfl) (fun _ => rfl) rfl rfl)
  | succeeded next controls successor removes =>
      exact .succeeded next controls successor (removes.of_same_table rfl (fun _ _ => rfl) (fun _ => rfl) rfl rfl)
  | last controls nobody removes =>
      exact .last controls nobody (removes.of_same_table rfl (fun _ _ => rfl) (fun _ => rfl) rfl rfl)

theorem successor_ne {stack : Stack config} {slot next : Slot config}
    (controls : controlsMulticast (stack.object slot) = true) {inputPoint : UInt32}
    (successor : stack.getNextNonControlMasterConnection inputPoint = some next) : next ≠ slot := by
  rintro rfl
  have candidate := (findConnection_mem successor).2
  rw [controls_not_nonControlMaster controls] at candidate
  cases candidate

theorem Closed.emptied {before after : Stack config} {slot other : Slot config} (closed : Closed before slot after)
    (was : other ∈ before.connectionList.toList ∨ before.object other = initializeEmpty)
    (unlisted : other ∉ after.connectionList.toList) : after.object other = initializeEmpty := by
  have unlisting {middle : Stack config} {gone : List (Slot config)} (unlists : Unlists middle after gone)
      (was : other ∈ middle.connectionList.toList ∨ middle.object other = initializeEmpty) :
      after.object other = initializeEmpty := by
    by_cases inGone : other ∈ gone
    · exact unlists.emptied other inGone
    · rw [unlists.others other inGone]
      exact was.resolve_left fun listed => unlisted (unlists.mem_iff.mpr ⟨listed, inGone⟩)
  cases closed with
  | alone passive removes => exact unlisting removes.toUnlists was
  | succeeded next controls successor removes =>
      apply unlisting (unlists_of_handedOver removes.toUnlists)
      refine was.imp id fun empty => ?_
      by_cases same : other = next
      · -- the next master is listed, and stays so
        have nextListed := (findConnection_mem successor).1
        have stays : next ∈ after.connectionList.toList := by
          refine removes.mem_iff.mpr ⟨nextListed, ?_⟩
          simpa using successor_ne controls successor
        exact absurd (same ▸ stays) unlisted
      · rw [setObject_objects, Function.update_of_ne same]
        exact empty
  | last controls nobody removes => exact unlisting removes.toUnlists was

end Stack

end EtherNetIP
