import EtherNetIP.Cip.DataReception
import EtherNetIP.Cip.ListenOnly

/-! Datagrams for the consuming sockets of the connections.

The pass over the connection list stands on each connection once and takes what
has arrived on its consuming socket. The next node is read first, because an
empty datagram or an error closes the connection. Such a close may close the
listen-only connections of its input too, and with them the one at the node that
has been read.
-/

set_option autoImplicit false

namespace EtherNetIP

open Library CipConnectionObject

variable {config : Configuration}

inductive Reception where
  | data (datagram : Datagram)
  | empty
  | wouldBlock
  | failed

/-- The stack with the socket sets of the network handler, and what will be received in turn. -/
structure SocketPass (config : Configuration) where
  stack : Stack config
  masterSocket : List Int
  readSocket : List Int
  receptions : List Reception

namespace SocketPass

/-- A socket that is checked is taken out of the set, so that later checks will not find it. -/
def checkSocketSet (pass : SocketPass config) (socket : Int) : Bool × SocketPass config :=
  if socket ∈ pass.readSocket then
    (decide (socket ∈ pass.masterSocket), { pass with readSocket := pass.readSocket.filter (· ≠ socket) })
  else (false, pass)

/-- Without anything to receive the call would block. -/
def recvfrom (pass : SocketPass config) : Reception × SocketPass config :=
  match pass.receptions with
  | [] => (.wouldBlock, pass)
  | reception :: receptions => (reception, { pass with receptions })

def connectionCloseFunction (pass : SocketPass config) (slot : Slot config) : Except Fault (SocketPass config) := do
  let stack ← pass.stack.connectionCloseFunction slot
  let logged := stack.effects.take (stack.effects.length - pass.stack.effects.length)
  return { pass with stack, masterSocket := pass.masterSocket.filter (Effect.closeSocket · ∉ logged) }

def checkConsumingSocket (pass : SocketPass config) (slot : Slot config) : Bool × SocketPass config :=
  let socket := (pass.stack.object slot).consumingSocket
  if kEipInvalidSocket ≠ socket then pass.checkSocketSet socket else (false, pass)

/-- One round of the loop. The next node is read at the beginning, as the close function can make the entry invalid. -/
def consumingVisit (node : Nat) (pass : SocketPass config) : Except Fault (SocketPass config × Option Nat) :=
  match pass.stack.connectionList.data node with
  -- a node that has been freed has no connection to look at
  | none => .error .nullConnection
  | some slot =>
      let next := pass.stack.connectionList.next node
      let (isSet, checked) := pass.checkConsumingSocket slot
      if isSet then
        let (reception, received) := checked.recvfrom
        match reception with
        | .data datagram =>
            (received.stack.handleReceivedDatagram datagram).map fun stack => ({ received with stack }, next)
        -- the function returns here, so the nodes behind have no turn
        | .wouldBlock => .ok (received, none)
        | .empty | .failed => (received.connectionCloseFunction slot).map fun closed => (closed, next)
      else .ok (checked, next)

def checkAndHandleConsumingUdpSocket (pass : SocketPass config) : Except Fault (SocketPass config) :=
  walk consumingVisit .outOfFuel config.kNodesAmount pass.stack.connectionList.first pass

section Law

def recordTurn (node : Nat) (before _after : SocketPass config) (visited : List (Slot config)) : List (Slot config) :=
  (before.stack.connectionList.data node).toList ++ visited

def passFrom (fuel : Nat) (node : Option Nat) (state : SocketPass config × List (Slot config)) :
    Except Fault (SocketPass config × List (Slot config)) :=
  walk (recorded consumingVisit recordTurn) .outOfFuel fuel node state

/-- The data of a datagram are for an assembly that is not there. -/
def DataFault (fault : Fault) : Prop := fault = .nullInstance ∨ fault = .typeConfusion

/-- Every connection that is still listed has had its turn. -/
def TurnsTaken (state : SocketPass config × List (Slot config)) : Prop :=
  ∀ slot ∈ state.1.stack.connectionList.toList, slot ∈ state.2

/-- The loop never stands on a node that has left the list, and leaves no connection out. -/
def KeepsTurns (pass : SocketPass config) : Prop :=
  Settles (passFrom config.kNodesAmount pass.stack.connectionList.first (pass, [])) TurnsTaken DataFault

def ComesFrom (node : Option Nat) (pass : SocketPass config) : Option Nat → SocketPass config → Prop :=
  Comes consumingVisit node pass

/-- The close of the connection closes the one behind it: it is the last that holds the producing socket of a multicast
stream, and that one listens to its input. -/
def TakesNext (stack : Stack config) (slot : Slot config) (next : Option Nat) : Prop :=
  Stack.controlsMulticast (stack.object slot) = true ∧
    stack.getNextNonControlMasterConnection (stack.object slot).producedPath.instanceId.toUInt32 = none ∧
    ∃ node listener, next = some node ∧ stack.connectionList.data node = some listener ∧
      Stack.hasTypeAndInput (stack.object slot).producedPath.instanceId.toUInt32 .ioListenOnly
        (stack.object listener) = true

/-- Where the loop stands on a connection whose socket is ready, there is something to receive unless it is the last
one, and its close does not take the next one along. -/
def Harmless (node : Nat) (pass : SocketPass config) : Prop :=
  ∀ slot, pass.stack.connectionList.data node = some slot → (pass.checkConsumingSocket slot).1 = true →
    match pass.recvfrom.1 with
    | .data _ => True
    | .wouldBlock => pass.stack.connectionList.next node = none
    | .empty | .failed => ¬ TakesNext pass.stack slot (pass.stack.connectionList.next node)

end Law

section Data

variable {stack : Stack config} {slot : Slot config}

theorem receiveAssemblyData_faults (consuming : Option CipInstanceNum) (noNewData : Bool) (data : List CipOctet)
    (dataLength : UInt16) :
    Settles (stack.receiveAssemblyData consuming noNewData data dataLength) (fun _ => True) DataFault := by
  unfold Stack.receiveAssemblyData
  split
  · trivial
  · split
    · exact .inl rfl
    · refine Settles.bind (?_ : Settles _ (fun _ => True) DataFault) fun _ _ => trivial
      unfold Stack.notifyAssemblyConnectedDataReceived
      split
      · exact .inr rfl
      · split <;> trivial

theorem handleReceivedIoConnectionData_faults (data : List CipOctet) (dataLength : UInt16) :
    Settles (stack.handleReceivedIoConnectionData slot data dataLength) (fun _ => True) DataFault := by
  have behind (other : Stack config) (consuming : Option CipInstanceNum) (noNewData : Bool) (data : List CipOctet)
      (dataLength : UInt16) :
      Settles (other.receiveBehindSequenceCount consuming noNewData data dataLength) (fun _ => True) DataFault := by
    unfold Stack.receiveBehindSequenceCount
    split
    · split
      · exact receiveAssemblyData_faults ..
      · exact receiveAssemblyData_faults ..
    · trivial
  unfold Stack.handleReceivedIoConnectionData
  dsimp only
  split
  · exact behind ..
  · exact behind ..

theorem handleReceivedConnectedData_faults (received : Stack.ConnectedData) :
    Settles (stack.handleReceivedConnectedData received) (fun _ => True) DataFault := by
  rw [Stack.handleReceivedConnectedData_eq]
  split
  · trivial
  · unfold Stack.receiveFromOriginator
    dsimp only
    split
    · split
      · trivial
      · exact handleReceivedIoConnectionData_faults ..
    · trivial

theorem handleReceivedDatagram_settles (coherent : Coherent stack) (datagram : Datagram) :
    Settles (stack.handleReceivedDatagram datagram)
      (fun after => after.connectionList = stack.connectionList ∧ Coherent after) DataFault := by
  unfold Stack.handleReceivedDatagram
  split
  · exact ⟨rfl, coherent⟩
  · rename_i received _
    have proceeds := @Stack.handleReceivedConnectedData_proceeds config stack (fun _ => True) (fun _ _ => True)
      (fun _ => trivial) received
    cases handled : stack.handleReceivedConnectedData received with
    | error fault => exact (handleReceivedConnectedData_faults received).raises handled
    | ok after =>
        refine ⟨?_, ((proceeds.returns handled).continues coherent).coherent⟩
        rw [Stack.handleReceivedConnectedData_eq] at handled
        split at handled
        · cases handled
          rfl
        · exact (Stack.receiveFromOriginator_object handled).1

end Data

section Rounds

variable {pass : SocketPass config} {node : Nat} {slot : Slot config} {front tail : List (Nat × Slot config)}

@[simp] theorem checkConsumingSocket_stack (pass : SocketPass config) (slot : Slot config) :
    (pass.checkConsumingSocket slot).2.stack = pass.stack := by
  unfold checkConsumingSocket checkSocketSet
  dsimp only
  split
  · split <;> rfl
  · rfl

@[simp] theorem checkConsumingSocket_receptions (pass : SocketPass config) (slot : Slot config) :
    (pass.checkConsumingSocket slot).2.receptions = pass.receptions := by
  unfold checkConsumingSocket checkSocketSet
  dsimp only
  split
  · split <;> rfl
  · rfl

@[simp] theorem recvfrom_stack (pass : SocketPass config) : pass.recvfrom.2.stack = pass.stack := by
  unfold recvfrom
  split <;> rfl

theorem recvfrom_congr {other : SocketPass config} (same : other.receptions = pass.receptions) :
    other.recvfrom.1 = pass.recvfrom.1 := by
  unfold recvfrom
  rw [same]
  cases pass.receptions <;> rfl

/-- How a round on a connection ends, and whether it is harmless. -/
inductive Round (node : Nat) (slot : Slot config) (tail : List (Nat × Slot config)) (pass : SocketPass config) : Prop
  | kept {after : SocketPass config} (visited : consumingVisit node pass = .ok (after, headId tail))
      (list : after.stack.connectionList = pass.stack.connectionList) (coherent : Coherent after.stack)
      (harmless : Harmless node pass)
  | failed {fault : Fault} (visited : consumingVisit node pass = .error fault) (data : DataFault fault)
      (harmless : Harmless node pass)
  | blocked {after : SocketPass config} (visited : consumingVisit node pass = .ok (after, none))
      (list : after.stack = pass.stack) (harmless : Harmless node pass ↔ tail = [])
  | closed {after : SocketPass config} (visited : consumingVisit node pass = .ok (after, headId tail))
      (closed : Stack.Closed pass.stack slot after.stack)
      (harmless : Harmless node pass ↔ ¬ TakesNext pass.stack slot (headId tail))

theorem round (coherent : Coherent pass.stack)
    (split : pass.stack.connectionList.entries = front ++ (node, slot) :: tail) : Round node slot tail pass := by
  have member : (node, slot) ∈ pass.stack.connectionList.entries := by simp [split]
  have data : pass.stack.connectionList.data node = some slot := ConnectionList.data_of_mem member
  have listed : slot ∈ pass.stack.connectionList.toList := List.mem_map.mpr ⟨_, member, rfl⟩
  have next : pass.stack.connectionList.next node = headId tail := ConnectionList.next_of_split split
  have received := @recvfrom_congr config pass _ (checkConsumingSocket_receptions pass slot)
  have visit := @consumingVisit.eq_def config node pass
  have harmless : Harmless node pass ↔ ((pass.checkConsumingSocket slot).1 = true →
      match pass.recvfrom.1 with
      | .data _ => True
      | .wouldBlock => headId tail = none
      | .empty | .failed => ¬ TakesNext pass.stack slot (headId tail)) := by
    unfold Harmless
    rw [data, next]
    exact ⟨fun all => all slot rfl, fun one other same => Option.some.inj same ▸ one⟩
  rw [data] at visit
  dsimp only at visit
  rw [next] at visit
  by_cases ready : (pass.checkConsumingSocket slot).1 = true
  · rw [if_pos ready, received] at visit
    rw [forall_prop_of_true ready] at harmless
    have same : (pass.checkConsumingSocket slot).2.recvfrom.2.stack = pass.stack :=
      (recvfrom_stack _).trans (checkConsumingSocket_stack pass slot)
    have callable := (coherent.opened slot listed).callable
    obtain ⟨ended, done, closed⟩ := coherent.connectionCloseFunction_closed callable
    have closes : (pass.checkConsumingSocket slot).2.recvfrom.2.connectionCloseFunction slot =
        .ok { (pass.checkConsumingSocket slot).2.recvfrom.2 with
          stack := ended
          masterSocket := (pass.checkConsumingSocket slot).2.recvfrom.2.masterSocket.filter (Effect.closeSocket · ∉
            ended.effects.take (ended.effects.length - pass.stack.effects.length)) } := by
      unfold connectionCloseFunction
      rw [same, done]
      rfl
    -- an empty datagram and an error both close the connection
    cases reception : pass.recvfrom.1 with
    | data datagram =>
        rw [reception] at visit harmless
        dsimp only at visit
        rw [same] at visit
        have handled := handleReceivedDatagram_settles coherent datagram
        cases outcome : pass.stack.handleReceivedDatagram datagram with
        | error fault =>
            rw [outcome] at visit
            exact .failed visit (handled.raises outcome) (harmless.mpr trivial)
        | ok after =>
            rw [outcome] at visit
            exact .kept visit (handled.returns outcome).1 (handled.returns outcome).2 (harmless.mpr trivial)
    | wouldBlock =>
        rw [reception] at visit harmless
        refine .blocked visit same (harmless.trans ?_)
        cases tail with
        | nil => exact iff_of_true rfl rfl
        | cons entry tail => exact iff_of_false nofun nofun
    | empty =>
        rw [reception] at visit harmless
        dsimp only at visit
        rw [closes] at visit
        exact .closed visit closed harmless
    | failed =>
        rw [reception] at visit harmless
        dsimp only at visit
        rw [closes] at visit
        exact .closed visit closed harmless
  · rw [if_neg ready] at visit
    refine .kept visit (by rw [checkConsumingSocket_stack]) (by rwa [checkConsumingSocket_stack]) ?_
    rw [harmless]
    exact fun set => absurd set ready

theorem closed_entries {stack after : Stack config} (coherent : Coherent stack) (closed : Stack.Closed stack slot after)
    (split : stack.connectionList.entries = front ++ (node, slot) :: tail) :
    ∃ gone : List (Slot config), after.connectionList.entries = (front.filter fun entry => entry.2 ∉ gone) ++
        (tail.filter fun entry => entry.2 ∉ gone) ∧
      (TakesNext stack slot (headId tail) ↔ ∃ entry rest, tail = entry :: rest ∧ entry.2 ∈ gone) := by
  have distinct : ((front ++ (node, slot) :: tail).map Prod.snd).Nodup := split ▸ coherent.distinct
  rw [List.map_append, List.map_cons, List.nodup_middle, List.nodup_cons, List.mem_append, not_or] at distinct
  have left {gone : List (Slot config)} (own : slot ∈ gone)
      (entries : after.connectionList.entries = stack.connectionList.entries.filter fun entry => entry.2 ∉ gone) :
      after.connectionList.entries = (front.filter fun entry => entry.2 ∉ gone) ++
        (tail.filter fun entry => entry.2 ∉ gone) := by
    rw [entries, split, List.filter_append, List.filter_cons_of_neg (by simpa using own)]
  have others : ¬ ∃ entry rest, tail = entry :: rest ∧ entry.2 ∈ [slot] := by
    rintro ⟨entry, rest, rfl, same⟩
    exact distinct.1.2 (List.mem_map.mpr ⟨entry, .head _, List.mem_singleton.mp same⟩)
  cases closed with
  | alone passive removes =>
      refine ⟨[slot], left (.head _) removes.entries, iff_of_false (fun takes => ?_) others⟩
      exact absurd (passive.symm.trans takes.1) (by decide)
  | succeeded next controls successor removes =>
      refine ⟨[slot], left (.head _) removes.entries, iff_of_false (fun takes => ?_) others⟩
      cases successor.symm.trans takes.2.1
  | last controls nobody removes =>
      refine ⟨_, left (List.mem_append_right _ (.head _)) removes.entries, ?_⟩
      constructor
      · rintro ⟨-, -, id, listener, next, data, listens⟩
        cases tail with
        | nil => cases next
        | cons entry rest =>
            obtain ⟨id', other⟩ := entry
            obtain rfl : id' = id := Option.some.inj next
            have member : (id', other) ∈ stack.connectionList.entries := by simp [split]
            rw [ConnectionList.data_of_mem member] at data
            cases data
            exact ⟨_, _, rfl, List.mem_append_left _
              (List.mem_filter.mpr ⟨List.mem_map.mpr ⟨_, member, rfl⟩, listens⟩)⟩
      · rintro ⟨⟨id, other⟩, rest, rfl, inside⟩
        have member : (id, other) ∈ stack.connectionList.entries := by simp [split]
        have listens : other ∈ stack.withTypeAndInput _ _ :=
          (List.mem_append.mp inside).resolve_right fun own => others ⟨_, _, rfl, own⟩
        exact ⟨controls, nobody, id, other, rfl, ConnectionList.data_of_mem member, (List.mem_filter.mp listens).2⟩

theorem passFrom_ok {fuel : Nat} {after : SocketPass config} {following : Option Nat} {visited : List (Slot config)}
    (data : pass.stack.connectionList.data node = some slot)
    (round : consumingVisit node pass = .ok (after, following)) :
    passFrom (fuel + 1) (some node) (pass, visited) = passFrom fuel following (after, slot :: visited) := by
  refine walk_of_visit ?_
  unfold recorded recordTurn
  rw [round, data]
  rfl

theorem passFrom_error {fuel : Nat} {fault : Fault} {visited : List (Slot config)}
    (round : consumingVisit node pass = .error fault) :
    passFrom (fuel + 1) (some node) (pass, visited) = .error fault := by
  refine walk_of_fault ?_
  unfold recorded
  rw [round]
  rfl

/-- A node whose connection has been closed is used. -/
theorem consumingVisit_freed {entry : Nat × Slot config} {after : SocketPass config} {gone : List (Slot config)}
    (entries : ∀ other ∈ after.stack.connectionList.entries, other ∈ pass.stack.connectionList.entries ∧ other.2 ∉ gone)
    (member : entry ∈ pass.stack.connectionList.entries) (freed : entry.2 ∈ gone) :
    consumingVisit entry.1 after = .error .nullConnection := by
  have absent : entry.1 ∉ after.stack.connectionList.entries.map Prod.fst := by
    intro present
    obtain ⟨⟨id, other⟩, inside, same⟩ := List.mem_map.mp present
    have before := entries _ inside
    have data : pass.stack.connectionList.data entry.1 = some other := by
      rw [← same]
      exact ConnectionList.data_of_mem before.1
    have own : pass.stack.connectionList.data entry.1 = some entry.2 := ConnectionList.data_of_mem member
    rw [own] at data
    exact before.2 (Option.some.inj data ▸ freed)
  unfold consumingVisit
  rw [ConnectionList.data_of_absent absent]

theorem settles_ended {entries : List (Nat × Slot config)} {fuel : Nat} {visited : List (Slot config)}
    (list : pass.stack.connectionList.entries = entries) :
    Settles (passFrom fuel none (pass, visited)) TurnsTaken DataFault ↔ ∀ entry ∈ entries, entry.2 ∈ visited := by
  rw [passFrom, walk_none, settles_ok, ← list]
  constructor
  · intro taken entry member
    exact taken _ (List.mem_map.mpr ⟨entry, member, rfl⟩)
  · intro all slot listed
    obtain ⟨entry, member, rfl⟩ := List.mem_map.mp listed
    exact all entry member

/-- From any node on, every connection has its turn just if all rounds are harmless. -/
theorem passFrom_iff {fuel : Nat} {back : List (Nat × Slot config)} {visited : List (Slot config)}
    (coherent : Coherent pass.stack) (split : pass.stack.connectionList.entries = front ++ back)
    (enough : back.length ≤ fuel) (seen : ∀ entry ∈ front, entry.2 ∈ visited)
    (unseen : ∀ entry ∈ back, entry.2 ∉ visited) :
    Settles (passFrom fuel (headId back) (pass, visited)) TurnsTaken DataFault ↔
      ∀ node here, Comes consumingVisit (headId back) pass (some node) here → Harmless node here := by
  -- on the fuel, which covers the nodes to come; the front holds those that had their turn
  induction fuel generalizing front back pass visited with
  | zero =>
      obtain rfl : back = [] := List.length_eq_zero_iff.mp (by omega)
      rw [List.append_nil] at split
      exact iff_of_true ((settles_ended split).mpr seen) fun node here comes => nomatch comes.of_none
  | succ fuel ih =>
      cases back with
      | nil =>
          rw [List.append_nil] at split
          exact iff_of_true ((settles_ended split).mpr seen) fun node here comes => nomatch comes.of_none
      | cons entry tail =>
          obtain ⟨node, slot⟩ := entry
          have member : (node, slot) ∈ pass.stack.connectionList.entries := by simp [split]
          have data : pass.stack.connectionList.data node = some slot := ConnectionList.data_of_mem member
          have distinct : ((front ++ (node, slot) :: tail).map Prod.snd).Nodup := split ▸ coherent.distinct
          rw [List.map_append, List.map_cons, List.nodup_middle, List.nodup_cons, List.mem_append, not_or] at distinct
          have behind {other : Nat × Slot config} (inside : other ∈ tail) : other.2 ∉ slot :: visited := by
            rw [List.mem_cons, not_or]
            exact ⟨fun same => distinct.1.2 (List.mem_map.mpr ⟨other, inside, same⟩),
              unseen other (List.mem_cons_of_mem _ inside)⟩
          have passed : ∀ other ∈ front ++ [(node, slot)], other.2 ∈ slot :: visited := by
            intro other inside
            rcases List.mem_append.mp inside with earlier | own
            · exact List.mem_cons_of_mem _ (seen other earlier)
            · rw [List.mem_singleton.mp own]
              exact .head _
          rw [List.length_cons] at enough
          change Settles (passFrom (fuel + 1) (some node) (pass, visited)) _ _ ↔ ∀ at_ here,
            Comes consumingVisit (some node) pass (some at_) here → _
          -- the rest of the pass is that of the stack the first round leaves
          cases round coherent split with
          | kept visit list afterCoherent harmless =>
              rw [passFrom_ok data visit, forall_comes_iff visit, and_iff_right harmless]
              refine ih afterCoherent ?_ (by omega) passed fun other inside => behind inside
              rw [list, split, List.append_assoc]
              rfl
          | failed visit fault harmless =>
              rw [passFrom_error visit]
              refine iff_of_true fault fun at_ here comes => ?_
              obtain ⟨same, rfl⟩ := comes.of_fault visit
              exact Option.some.inj same ▸ harmless
          | @blocked after visit same harmless =>
              rw [passFrom_ok data visit, forall_comes_iff visit, harmless, settles_ended (same ▸ split)]
              have ended : ∀ at_ here, Comes consumingVisit none after (some at_) here → Harmless at_ here :=
                fun at_ here comes => nomatch comes.of_none
              rw [and_iff_left ended]
              constructor
              · intro all
                cases tail with
                | nil => rfl
                | cons other rest => exact absurd (all other (by simp)) (behind (.head _))
              · rintro rfl
                exact passed
          | @closed after visit closed harmless =>
              rw [passFrom_ok data visit, forall_comes_iff visit, harmless]
              obtain ⟨gone, entries, takes⟩ := closed_entries coherent closed split
              have afterCoherent := (Continues.of_closed coherent
                (coherent.opened slot (List.mem_map.mpr ⟨_, member, rfl⟩)).callable closed).1.coherent
              by_cases taken : TakesNext pass.stack slot (headId tail)
              · -- the next node has been freed, and is used all the same
                refine iff_of_false (fun settles => ?_) fun both => both.1 taken
                obtain ⟨other, rest, rfl, freed⟩ := takes.mp taken
                rw [List.length_cons] at enough
                obtain ⟨more, rfl⟩ := Nat.exists_eq_add_one_of_ne_zero (by omega : fuel ≠ 0)
                have fewer : ∀ entry ∈ after.stack.connectionList.entries,
                    entry ∈ pass.stack.connectionList.entries ∧ entry.2 ∉ gone := by
                  intro entry inside
                  rw [entries, ← List.filter_append, List.mem_filter] at inside
                  rw [split]
                  refine ⟨?_, of_decide_eq_true inside.2⟩
                  exact (List.mem_append.mp inside.1).elim (List.mem_append_left _) fun later =>
                    List.mem_append_right _ (List.mem_cons_of_mem _ later)
                rw [headId_cons, passFrom_error (consumingVisit_freed fewer (by simp [split]) freed)] at settles
                rcases settles with same | same
                · cases same
                · cases same
              · rw [and_iff_right taken]
                have same : headId tail = headId (tail.filter fun entry => entry.2 ∉ gone) := by
                  cases tail with
                  | nil => rfl
                  | cons other rest =>
                      have survives : other.2 ∉ gone := fun inside => taken (takes.mpr ⟨_, _, rfl, inside⟩)
                      rw [List.filter_cons_of_pos (by simpa using survives)]
                      rfl
                rw [same]
                refine ih afterCoherent entries (Nat.le_trans (List.length_filter_le _ _) (by omega)) ?_ ?_
                · exact fun entry inside => List.mem_cons_of_mem _ (seen entry (List.mem_filter.mp inside).1)
                · exact fun entry inside => behind (List.mem_filter.mp inside).1

/-- The loop keeps to the list, and every connection has its turn, just if every round is harmless: no close takes the next
connection along, and there is something to receive for all but the last. -/
theorem keepsTurns_iff (coherent : Coherent pass.stack) :
    pass.KeepsTurns ↔ ∀ node here, ComesFrom pass.stack.connectionList.first pass (some node) here → Harmless node here := by
  have long := pass.stack.connectionList.length_le
  rw [ConnectionList.toList, List.length_map] at long
  unfold KeepsTurns
  rw [ConnectionList.first_eq]
  exact @passFrom_iff config pass [] config.kNodesAmount pass.stack.connectionList.entries [] coherent rfl long
    (fun _ inside => absurd inside List.not_mem_nil) fun _ _ inside => absurd inside List.not_mem_nil

end Rounds

section Listeners

open SampleApplication

/-- A listen-only connection, which an exclusive owner has joined whose predecessor has been closed. -/
def ownerWithListener : List Operation :=
  [.forwardOpen (openIo 1 (pointToPoint 0) (multicast 128) 152 102),
    .forwardOpen (openIo 2 (pointToPoint 0) (multicast 128) 153 102),
    .forwardOpen (openIo 3 (pointToPoint 128) (multicast 128) 101 102), .forwardClose (closeRequest 1)]

def allReady (stack : Stack config) (receptions : List Reception) : SocketPass config :=
  let sockets := stack.connectionList.toList.map fun slot => (stack.object slot).consumingSocket
  ⟨stack, sockets, sockets, receptions⟩

theorem not_keepsTurns_of_fault {pass : SocketPass config}
    (fault : checkAndHandleConsumingUdpSocket pass = .error .nullConnection) : ¬ pass.KeepsTurns := by
  intro keeps
  unfold KeepsTurns at keeps
  have same : (walk (recorded consumingVisit recordTurn) Fault.outOfFuel config.kNodesAmount
      pass.stack.connectionList.first (pass, [])).map Prod.fst = _ := walk_recorded recordTurn _ _ _
  change (passFrom config.kNodesAmount pass.stack.connectionList.first (pass, [])).map Prod.fst =
    checkAndHandleConsumingUdpSocket pass at same
  rw [fault] at same
  cases ended : passFrom config.kNodesAmount pass.stack.connectionList.first (pass, []) with
  | error other =>
      rw [ended] at same
      cases same
      rcases keeps.raises ended with data | data
      · cases data
      · cases data
  | ok after =>
      rw [ended] at same
      cases same

def takesNext (stack : Stack config) (slot : Slot config) (next : Option Nat) : Bool :=
  let inputPoint := (stack.object slot).producedPath.instanceId.toUInt32
  Stack.controlsMulticast (stack.object slot) && (stack.getNextNonControlMasterConnection inputPoint).isNone &&
    (next.bind stack.connectionList.data).any fun listener =>
      Stack.hasTypeAndInput inputPoint .ioListenOnly (stack.object listener)

theorem takesNext_of_TakesNext {stack : Stack config} {slot : Slot config} {next : Option Nat}
    (takes : TakesNext stack slot next) : takesNext stack slot next = true := by
  obtain ⟨controls, last, node, listener, rfl, data, listens⟩ := takes
  unfold takesNext
  dsimp only
  rw [controls, last, Option.bind_some, data, Option.any_some, listens]
  rfl

def harmless (node : Nat) (pass : SocketPass config) : Bool :=
  match pass.stack.connectionList.data node with
  | none => true
  | some slot =>
      !(pass.checkConsumingSocket slot).1 ||
        match pass.recvfrom.1 with
        | .data _ => true
        | .wouldBlock => (pass.stack.connectionList.next node).isNone
        | .empty | .failed => !takesNext pass.stack slot (pass.stack.connectionList.next node)

theorem Harmless.of_test {node : Nat} {pass : SocketPass config} (passes : harmless node pass = true) :
    Harmless node pass := by
  intro slot data ready
  unfold harmless at passes
  rw [data] at passes
  dsimp only at passes
  rw [ready, Bool.not_true, Bool.false_or] at passes
  have spares (spared : (!takesNext pass.stack slot (pass.stack.connectionList.next node)) = true) :
      ¬TakesNext pass.stack slot (pass.stack.connectionList.next node) := by
    intro takes
    rw [takesNext_of_TakesNext takes] at spared
    cases spared
  cases reception : pass.recvfrom.1 with
  | data datagram => trivial
  | wouldBlock =>
      rw [reception] at passes
      exact Option.isNone_iff_eq_none.mp passes
  | empty =>
      rw [reception] at passes
      exact spares passes
  | failed =>
      rw [reception] at passes
      exact spares passes

/-- The exclusive owner of the output, and two connections that share the stream of its input; each has a consuming
socket of its own. -/
def streamOfTwo : List Operation :=
  [.forwardOpen { openIo 1 (pointToPoint 128) (pointToPoint 128) 101 102 with network := ⟨.bound 8, true, 0x0B01A8C0⟩ },
    .forwardOpen { openIo 2 (pointToPoint 0) (multicast 128) 152 102 with network := ⟨.bound 9, true, 0x0B01A8C0⟩ },
    .forwardOpen { openIo 3 (pointToPoint 0) (multicast 128) 152 102 with network := ⟨.bound 10, true, 0x0B01A8C0⟩ }]

/-- A heartbeat for the first connection of the list, an empty datagram for the second, and data for the third. -/
def heartbeatEmptyData : List Reception :=
  [.data (dataDatagram noItems (.sequencedAddress 0x12340016 1) (addIntToMessage 1) (by simp [addIntToMessage])), .empty,
    .data (dataDatagram noItems (.sequencedAddress 0x12340013 1) (addIntToMessage 1 ++ List.replicate 128 7)
      (by simp [addIntToMessage]))]

/-- The connection in the middle is closed, which hands its stream over to the one in front; the one behind it has its
turn, and its data are written. -/
theorem middle_closed_keepsTurns : ∃ stack : Stack configuration, Stack.Reached stack ∧
    stack.connectionList.toList.length = 3 ∧ (allReady stack heartbeatEmptyData).KeepsTurns ∧
    ∃ after, checkAndHandleConsumingUdpSocket (allReady stack heartbeatEmptyData) = .ok after ∧
      after.stack.connectionList.toList.length = 2 ∧ after.stack.assemblyData 101 = List.replicate 128 7 := by
  have run : ends streamOfTwo (fun stack : Stack configuration =>
      decide (stack.connectionList.toList.length = 3) &&
        testWalk consumingVisit harmless 3 stack.connectionList.first (allReady stack heartbeatEmptyData) &&
        match checkAndHandleConsumingUdpSocket (allReady stack heartbeatEmptyData) with
        | .ok after => decide (after.stack.connectionList.toList.length = 2 ∧
            after.stack.assemblyData 101 = List.replicate 128 7)
        | .error _ => false) = true := by
    decide +kernel
  obtain ⟨stack, reached, shown⟩ := exists_of_ends run
  rw [Bool.and_eq_true, Bool.and_eq_true, decide_eq_true_eq] at shown
  obtain ⟨⟨three, rounds⟩, ended⟩ := shown
  refine ⟨stack, reached, three, (keepsTurns_iff reached.intact.coherent).mpr fun node here comes => ?_, ?_⟩
  · exact .of_test (test_of_comes rounds node here comes)
  split at ended
  · next after done => exact ⟨after, done, of_decide_eq_true ended⟩
  · cases ended

/-- The empty datagram closes the owner and with it the listener behind it, at whose node the loop goes on. -/
theorem owner_takes_listener : ∃ stack : Stack configuration, Stack.Reached stack ∧ ¬ (allReady stack [.empty]).KeepsTurns := by
  have run : ends ownerWithListener (fun stack : Stack configuration =>
      match checkAndHandleConsumingUdpSocket (allReady stack [.empty]) with
      | .error .nullConnection => true
      | _ => false) = true := by
    decide +kernel
  obtain ⟨stack, reached, shown⟩ := exists_of_ends run
  refine ⟨stack, reached, not_keepsTurns_of_fault ?_⟩
  split at shown
  · assumption
  · cases shown

end Listeners

end SocketPass

end EtherNetIP
