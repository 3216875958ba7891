import EtherNetIP.Cip.Bystanders
import EtherNetIP.Cip.TickWalk

/-! The one visit a tick makes to a connection.

A tick comes to a connection once at most, between visits to others. What the
others leave of it is what any bystander is left of, so all that a tick does
with a connection is seen in this one visit.
-/

set_option autoImplicit false

namespace EtherNetIP

open Library CipConnectionObject

variable {config : Configuration}

namespace Stack

variable {start before after final : Stack config} {slot visited : Slot config} {peers : Peers} {elapsedTime : MilliSeconds}

section Tours

variable {β : Type} {observe : Stack config → Stack config → β}

def ServesOther (slot : Slot config) (peers : Peers) (elapsedTime : MilliSeconds) (before after : Stack config) : Prop :=
  ∃ visited, visited ≠ slot ∧ Coherent before ∧ visited ∈ before.connectionList.toList ∧
    serve peers elapsedTime before visited = .ok after

def OthersServed (slot : Slot config) (peers : Peers) (elapsedTime : MilliSeconds) : Stack config → Stack config → Prop :=
  Relation.ReflTransGen (ServesOther slot peers elapsedTime)

inductive Toured (slot : Slot config) (peers : Peers) (elapsedTime : MilliSeconds)
    (observe : Stack config → Stack config → β) (start : Stack config) : Stack config → List β → Prop
  | passedBy {final : Stack config} (others : OthersServed slot peers elapsedTime start final) :
      Toured slot peers elapsedTime observe start final []
  | visited {before after final : Stack config} (early : OthersServed slot peers elapsedTime start before)
      (coherent : Coherent before) (listed : slot ∈ before.connectionList.toList)
      (serves : serve peers elapsedTime before slot = .ok after)
      (late : OthersServed slot peers elapsedTime after final) :
      Toured slot peers elapsedTime observe start final [observe before after]

theorem Toured.further {noted : List β} (toured : Toured slot peers elapsedTime observe start before noted)
    (other : ServesOther slot peers elapsedTime before after) :
    Toured slot peers elapsedTime observe start after noted := by
  cases toured with
  | passedBy others => exact .passedBy (others.tail other)
  | visited early coherent listed serves late => exact .visited early coherent listed serves (late.tail other)

theorem LeavesOthers.place (others : LeavesOthers visited before after) {node : Nat}
    {front tail : List (Nat × Slot config)} (entries : before.connectionList.entries = front ++ (node, visited) :: tail) :
    ∃ front' back', after.connectionList.entries = front' ++ back' ∧ after.connectionList.next node = headId back' ∧
      (back'.map Prod.snd).Sublist (tail.map Prod.snd) := by
  have member : (node, visited) ∈ before.connectionList.entries := by simp [entries]
  obtain ⟨gone, filtered⟩ := others.entries
  have kept := filtered
  rw [entries, List.filter_append] at kept
  by_cases survives : visited ∉ gone
  · rw [List.filter_cons_of_pos (by simpa using survives)] at kept
    refine ⟨(front.filter fun entry => entry.2 ∉ gone) ++ [(node, visited)], tail.filter fun entry => entry.2 ∉ gone,
      by simp [kept], ConnectionList.next_of_split kept, ?_⟩
    exact List.filter_sublist.map Prod.snd
  · -- the node is freed and points nowhere
    have freed := ConnectionList.next_of_absent (ConnectionList.absent_of_filtered filtered member (by simpa using survives))
    exact ⟨after.connectionList.entries, [], (List.append_nil _).symm, freed, List.nil_sublist _⟩

def observedTick (slot : Slot config) (observe : Stack config → Stack config → β) (stack : Stack config)
    (tick : Peers × MilliSeconds) : Except Fault (Stack config × List β) :=
  let note (node : Nat) (before after : Stack config) (noted : List β) : List β :=
    if before.connectionList.data node = some slot then noted ++ [observe before after] else noted
  let stack := stack.manageEncapsulationMessages tick.2
  walk (recorded (manageConnectionsVisit tick.1 tick.2) note) .outOfFuel config.kNodesAmount
    stack.connectionList.first (stack, [])

theorem observedTick_fst (stack : Stack config) (tick : Peers × MilliSeconds) :
    (observedTick slot observe stack tick).map Prod.fst = manageConnections tick.1 tick.2 stack :=
  walk_recorded _ _ _ _

/-- What holds between two visits: the connection is not ahead any more once it has been visited. -/
structure Touring (slot : Slot config) (peers : Peers) (elapsedTime : MilliSeconds)
    (observe : Stack config → Stack config → β) (start : Stack config) (next : Option Nat)
    (reached : Stack config × List β) : Prop where
  coherent : Coherent reached.1
  toured : Toured slot peers elapsedTime observe start reached.1 reached.2
  place : ∃ front back, reached.1.connectionList.entries = front ++ back ∧ next = headId back ∧
    (reached.2 ≠ [] → slot ∉ back.map Prod.snd)

theorem visit_touring {note : Nat → Stack config → Stack config → List β → List β}
    (notes : ∀ node before after noted, note node before after noted =
      if before.connectionList.data node = some slot then noted ++ [observe before after] else noted)
    {reached : Stack config × List β} {node : Nat}
    (touring : Touring slot peers elapsedTime observe start (some node) reached) :
    Settles (recorded (manageConnectionsVisit peers elapsedTime) note node reached)
      (fun result => Touring slot peers elapsedTime observe start result.2 result.1) (fun _ => True) := by
  obtain ⟨coherent, toured, front, back, entries, here, past⟩ := touring
  cases back with
  | nil => cases here
  | cons entry tail =>
    obtain ⟨id, visited⟩ := entry
    obtain rfl : node = id := Option.some.inj here
    have member : (node, visited) ∈ reached.1.connectionList.entries := by simp [entries]
    have data : reached.1.connectionList.data node = some visited := ConnectionList.data_of_mem member
    have listed := toList_of_entry member
    have distinct : ((front ++ (node, visited) :: tail).map Prod.snd).Nodup := entries ▸ coherent.distinct
    rw [List.map_append, List.map_cons, List.nodup_middle, List.nodup_cons, List.mem_append, not_or] at distinct
    unfold recorded manageConnectionsVisit
    rw [data]
    dsimp only
    cases served : serve peers elapsedTime reached.1 visited with
    | error fault => exact trivial
    | ok after =>
      obtain ⟨afterCoherent, visit⟩ := (serve_visited coherent listed).returns served
      obtain ⟨front', back', split, follows, fewer⟩ := visit.others.place entries
      have notAhead : visited ∉ back'.map Prod.snd := fun ahead => distinct.1.2 (fewer.subset ahead)
      change Touring slot peers elapsedTime observe start (after.connectionList.next node)
        (after, note node reached.1 after reached.2)
      rw [notes, data]
      by_cases same : visited = slot
      · subst same
        have first : reached.2 = [] := Classical.byContradiction fun visitedBefore =>
          past visitedBefore (List.mem_map_of_mem List.mem_cons_self)
        rw [if_pos rfl, first]
        rw [first] at toured
        cases toured with
        | passedBy others =>
          exact ⟨afterCoherent, .visited others coherent listed served .refl, front', back', split, follows, fun _ => notAhead⟩
      · rw [if_neg (by simpa using same)]
        refine ⟨afterCoherent, toured.further ⟨visited, same, coherent, listed, served⟩, front', back', split, follows, ?_⟩
        exact fun noted ahead => past noted (List.mem_cons_of_mem _ (fewer.subset ahead))

/-- A tick comes to a connection once at most. -/
theorem observedTick_toured (coherent : Coherent start) {noted : List β}
    (done : observedTick slot observe start (peers, elapsedTime) = .ok (final, noted)) :
    Coherent final ∧ Toured slot peers elapsedTime observe (start.manageEncapsulationMessages elapsedTime) final noted := by
  have first : Touring slot peers elapsedTime observe (start.manageEncapsulationMessages elapsedTime)
      (start.manageEncapsulationMessages elapsedTime).connectionList.first
      (start.manageEncapsulationMessages elapsedTime, []) :=
    ⟨coherent.of_same_table rfl rfl, .passedBy .refl, [], _, rfl, ConnectionList.first_eq _, fun some_ => absurd rfl some_⟩
  have walked : Settles (observedTick slot observe start (peers, elapsedTime))
      (Touring slot peers elapsedTime observe (start.manageEncapsulationMessages elapsedTime) none) (fun _ => True) := by
    refine walk_settles (Touring slot peers elapsedTime observe (start.manageEncapsulationMessages elapsedTime)) ?_
      trivial _ first
    exact fun node reached touring => visit_touring (fun _ _ _ _ => rfl) touring
  have ended := walked.returns done
  exact ⟨ended.coherent, ended.toured⟩

end Tours

section Expiries

variable {named : Int → Prop} {related : Slot config → CipConnectionObject → CipConnectionObject → Prop}
  {stack : Stack config}

theorem connectionTimeoutFunction_expires (coherent : Coherent stack)
    (established : (stack.object slot).state = .established) :
    Settles (stack.connectionTimeoutFunction peers slot)
      (fun after => Aside named stack after ∨ TimedOut named stack slot after) (fun _ => True) := by
  have listed := (coherent.mem_iff slot).mpr (.inl established)
  have opened := coherent.opened slot listed
  unfold connectionTimeoutFunction
  by_cases explicit : slot.instanceType = .explicitMessaging
  · rw [(opened_explicit coherent listed explicit).timeoutFunction]
    exact (class3ConnectionTimeoutHandler_aside coherent listed explicit).imp (fun _ => Or.inl) fun _ _ => trivial
  · have handler : (stack.object slot).connectionTimeoutFunction = some .handleIoConnectionTimeOut := by
      cases slot with
      | explicit i => exact absurd rfl explicit
      | exclusiveOwner i => exact OpenedIo.timeoutFunction opened
      | inputOnly i j => exact OpenedIo.timeoutFunction opened
      | listenOnly i j => exact OpenedIo.timeoutFunction opened
    rw [handler]
    exact (handleIoConnectionTimeOut_timedOut coherent established explicit).imp (fun _ => Or.inr) fun _ _ => trivial

theorem serve_of_timesOut (coherent : Coherent stack) (expired : TimesOut elapsedTime (stack.object slot))
    (done : serve peers elapsedTime stack slot = .ok after) :
    connectionTimeoutFunction peers stack slot = .ok after ∧ (after.object slot).state ≠ .established := by
  obtain ⟨established, watched, late⟩ := expired
  unfold serve checkInactivityWatchdog at done
  rw [if_pos established, if_pos watched, if_pos late] at done
  obtain ⟨ended, timedOut, produced⟩ := bind_eq_ok.mp done
  have ends := ((connectionTimeoutFunction_ends coherent established).returns timedOut).2.1
  unfold produce at produced
  rw [if_neg fun both => ends both.1] at produced
  cases produced
  exact ⟨timedOut, ends⟩

theorem ServesOther.spares (tolerant : Tolerant related) (serves : ServesOther slot peers elapsedTime before after)
    (listed : slot ∈ after.connectionList.toList) :
    slot ∈ before.connectionList.toList ∧ related slot (before.object slot) (after.object slot) := by
  obtain ⟨visited, differs, coherent, visitedListed, done⟩ := serves
  by_cases established : (before.object visited).state = .established
  · by_cases expired : TimesOut elapsedTime (before.object visited)
    · have ended := (serve_of_timesOut coherent expired done).1
      rcases (@connectionTimeoutFunction_expires _ _ _ (fun _ => False) _ coherent established).returns ended with aside | timedOut
      · exact Spares.of_aside tolerant aside slot listed
      · exact Spares.of_timedOut tolerant coherent timedOut slot listed
    · obtain ⟨_, list, others⟩ := (serve_served established expired).returns done
      rw [others slot differs.symm]
      exact ⟨list ▸ listed, tolerant.refl slot _⟩
  · unfold serve at done
    rw [if_neg established] at done
    cases done
    exact ⟨listed, tolerant.refl slot _⟩

theorem OthersServed.spares (tolerant : Tolerant related) (served : OthersServed slot peers elapsedTime before after)
    (listed : slot ∈ after.connectionList.toList) :
    slot ∈ before.connectionList.toList ∧ related slot (before.object slot) (after.object slot) := by
  induction served with
  | refl => exact ⟨listed, tolerant.refl slot _⟩
  | tail _ last ih =>
    obtain ⟨inMiddle, later⟩ := last.spares tolerant listed
    obtain ⟨inBefore, earlier⟩ := ih inMiddle
    exact ⟨inBefore, tolerant.trans slot _ _ _ earlier later⟩

theorem ServesOther.untouched (serves : ServesOther slot peers elapsedTime before after)
    (established : (after.object slot).state = .established) :
    (before.object slot).state = .established ∧ Untouched (before.object slot) (after.object slot) := by
  obtain ⟨visited, differs, coherent, listed, done⟩ := serves
  have others := ((serve_visited coherent listed).returns done).2.others
  exact ⟨others.aged slot differs.symm established, others.others slot differs.symm established⟩

theorem OthersServed.untouched (served : OthersServed slot peers elapsedTime before after)
    (established : (after.object slot).state = .established) :
    (before.object slot).state = .established ∧ Untouched (before.object slot) (after.object slot) := by
  induction served with
  | refl => exact ⟨established, .refl _⟩
  | tail _ last ih =>
    obtain ⟨between, later⟩ := last.untouched established
    obtain ⟨first, earlier⟩ := ih between
    exact ⟨first, earlier.trans later⟩

end Expiries

section Frames

variable {named : Int → Prop} {stack : Stack config}

theorem framesIn_traffic (stack : Stack config) : framesIn stack.effects = framesIn stack.traffic := by
  unfold framesIn traffic
  rw [List.countP_filter]
  refine List.countP_congr fun effect _ => ?_
  cases effect <;> exact Iff.rfl

theorem framesIn_closings (sockets : List Int) (effects : List Effect) :
    framesIn (closings sockets ++ effects) = framesIn effects := by
  unfold framesIn closings
  rw [List.countP_append, List.countP_reverse]
  refine Nat.add_eq_right.mpr (List.countP_eq_zero.mpr fun effect inside => ?_)
  obtain ⟨socket, _, rfl⟩ := List.mem_map.mp inside
  exact Bool.false_ne_true

theorem framesIn_of_closings {sockets : List Int} (traffic : after.traffic = closings sockets ++ before.traffic) :
    framesIn after.effects = framesIn before.effects := by
  rw [framesIn_traffic, framesIn_traffic, traffic, framesIn_closings]

theorem Aside.frames (aside : Aside named before after) : framesIn after.effects = framesIn before.effects := by
  obtain ⟨closed, _, traffic⟩ := aside.traffic
  exact framesIn_of_closings traffic

theorem Closed.frames (closed : Closed before slot after) : framesIn after.effects = framesIn before.effects := by
  cases closed with
  | alone passive removes => exact framesIn_of_closings removes.traffic
  | succeeded next controls successor removes => exact framesIn_of_closings removes.traffic
  | last controls nobody removes => exact framesIn_of_closings removes.traffic

theorem ClosesOneOf.frames_all {instanceType : ConnectionObjectInstanceType}
    (closes : Relation.ReflTransGen (ClosesOneOf instanceType) before after) :
    framesIn after.effects = framesIn before.effects := by
  induction closes with
  | refl => rfl
  | tail _ last ih =>
    obtain ⟨slot, _, _, closed⟩ := last
    exact closed.frames.trans ih

theorem DependentsClosed.frames {inputPoint : UInt32} {handover : Bool}
    (dependents : DependentsClosed slot inputPoint handover before after) :
    framesIn after.effects = framesIn before.effects := by
  cases dependents with
  | kept independent => rfl
  | closed owner remained inputOnly listeners =>
    exact (framesIn_of_closings listeners.traffic).trans (ClosesOneOf.frames_all inputOnly)

theorem TimedOut.frames (timedOut : TimedOut named before slot after) :
    framesIn after.effects = framesIn before.effects := by
  obtain ⟨established, io, aside, handedOn, dependents⟩ := timedOut
  have timing : framesIn (before.timingOut slot).effects = framesIn before.effects := by
    rw [framesIn_traffic, framesIn_traffic]
    rfl
  refine Eq.trans ?_ (aside.frames.trans timing)
  have closed := dependents.frames
  cases handedOn with
  | passive passive => exact closed
  | succeeded controls successor => exact closed
  | last controls nobody removes => exact closed.trans (framesIn_of_closings removes.traffic)

end Frames

end Stack

end EtherNetIP
