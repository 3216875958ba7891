import EtherNetIP.Cip.CyclicProduction
import EtherNetIP.Cip.TickRounds

/-! What one tick does for every connection.

The walk should come to each connection that is established when the tick begins.
It does, unless a class 3 connection in front of it times out.
-/

set_option autoImplicit false

namespace EtherNetIP

open Library CipConnectionObject

variable {config : Configuration}

namespace Stack

def visitsTo (slot : Slot config) (peers : Peers) (elapsedTime : MilliSeconds) (start : Stack config) :
    Except Fault (Stack config × List (Stack config × Stack config)) :=
  observedTick slot Prod.mk start (peers, elapsedTime)

/-- The watchdog has counted the tick; what the connection produces was decided on its transmission timer, in one visit. -/
structure TickServes (peers : Peers) (elapsedTime : MilliSeconds) (start final : Stack config) (slot : Slot config) :
    Prop where
  watchdog : isWatched (start.object slot) = true →
    (final.object slot).inactivityWatchdogTimer.toNat + elapsedTime.toNat =
      (start.object slot).inactivityWatchdogTimer.toNat
  production : isProducing (start.object slot) = true → ∃ before after frames,
    visitsTo slot peers elapsedTime start = .ok (final, [(before, after)]) ∧
      before.object slot = start.object slot ∧
      Served elapsedTime (before.object slot) (after.object slot) frames ∧
      framesIn after.effects = framesIn before.effects + frames ∧ final.object slot = after.object slot

/-- The tick returns, and serves every connection that is established before and after it. -/
def ServesAll (peers : Peers) (elapsedTime : MilliSeconds) (stack : Stack config) : Prop :=
  ∃ final, manageConnections peers elapsedTime stack = .ok final ∧ ∀ slot, (stack.object slot).state = .established →
    (final.object slot).state = .established → TickServes peers elapsedTime stack final slot

def TickComes (peers : Peers) (elapsedTime : MilliSeconds) (stack : Stack config) : Option Nat → Stack config → Prop :=
  Comes (manageConnectionsVisit peers elapsedTime) stack.connectionList.first
    (stack.manageEncapsulationMessages elapsedTime)

def Awaits (elapsedTime : MilliSeconds) (object : CipConnectionObject) : Prop :=
  isWatched object = true ∧ elapsedTime ≠ 0 ∨ isProducing object = true

/-- A connection that times out at the node can be ended. Behind a class 3 connection, whose node is freed, no established
connection waits for the tick. -/
def PassesOn (peers : Peers) (elapsedTime : MilliSeconds) (start : Stack config) (node : Nat) (here : Stack config) :
    Prop :=
  ∀ slot, here.connectionList.data node = some slot → TimesOut elapsedTime (here.object slot) →
    TimeOutReturns peers here slot ∧ (slot.instanceType = .explicitMessaging →
      ∀ front back, here.connectionList.toList = front ++ slot :: back →
        ∀ other ∈ back, (here.object other).state = .established → ¬ Awaits elapsedTime (start.object other))

section Services

variable {stack : Stack config} {slot : Slot config} {elapsedTime : MilliSeconds} {peers : Peers} {node : Nat}

theorem Served.watchdog {met left : CipConnectionObject} {frames : Nat} (watched : isWatched met = true)
    (served : Served elapsedTime met left frames) :
    left.inactivityWatchdogTimer = met.inactivityWatchdogTimer - elapsedTime := by
  have counted {object : CipConnectionObject} :
      (countProductionInhibit elapsedTime object).inactivityWatchdogTimer = object.inactivityWatchdogTimer := by
    unfold countProductionInhibit
    split <;> rfl
  cases served with
  | silent idle =>
      rw [if_pos watched]
      rfl
  | waiting producing later =>
      rw [if_pos watched]
      exact counted
  | sent producing due hasChanged =>
      rw [if_pos watched]
      exact counted

theorem Served.producing {met left : CipConnectionObject} {frames : Nat} (served : Served elapsedTime met left frames)
    (producing : isProducing met = true) : isProducing left = true := by
  have counted {object : CipConnectionObject} :
      isProducing (countProductionInhibit elapsedTime object) = isProducing object := by
    unfold countProductionInhibit
    split <;> rfl
  have watched : isProducing (if isWatched met then decrementWatchdogTimers elapsedTime met else met) = true := by
    split
    · exact producing
    · exact producing
  cases served with
  | silent idle => exact watched
  | waiting _ later => exact counted.trans watched
  | sent _ due hasChanged => exact counted.trans watched

def Ahead (rank : Nat) (next : Option Nat) (stack : Stack config) : Prop :=
  ∃ front back, stack.connectionList.entries = front ++ back ∧ next = headId back ∧ back.length = rank

theorem visit_ahead {rank : Nat} (node : Nat) (serviceable : Serviceable stack) (place : Ahead rank (some node) stack) :
    Settles (manageConnectionsVisit peers elapsedTime node stack)
      (fun result => ∃ lower < rank, Serviceable result.1 ∧ Ahead lower result.2 result.1) (fun _ => True) := by
  obtain ⟨front, back, entries, here, rfl⟩ := place
  cases back with
  | nil => cases here
  | cons entry tail =>
      obtain ⟨id, visited⟩ := entry
      obtain rfl : node = id := Option.some.inj here
      have member : (node, visited) ∈ stack.connectionList.entries := by simp [entries]
      unfold manageConnectionsVisit
      rw [ConnectionList.data_of_mem member]
      refine Settles.bind ((serve_visited serviceable.coherent (toList_of_entry member)).both
        (serve_serviceable serviceable)) ?_
      rintro after ⟨⟨_, visit⟩, afterServiceable⟩
      obtain ⟨front', back', split, follows, fewer⟩ := visit.others.place entries
      have shorter := fewer.length_le
      rw [List.length_map, List.length_map] at shorter
      exact ⟨back'.length, Nat.lt_succ_of_le shorter, afterServiceable, front', back', split, follows, rfl⟩

theorem Serviceable.managed (serviceable : Serviceable stack) :
    Serviceable (stack.manageEncapsulationMessages elapsedTime) ∧
      Ahead stack.connectionList.entries.length stack.connectionList.first
        (stack.manageEncapsulationMessages elapsedTime) := by
  refine ⟨⟨serviceable.coherent.of_same_table rfl rfl, serviceable.tables.of_same ⟨rfl, rfl⟩, serviceable.sizes⟩, ?_⟩
  exact ⟨[], _, rfl, ConnectionList.first_eq _, rfl⟩

theorem TickComes.serviceable {next : Option Nat} {here : Stack config} (serviceable : Serviceable stack)
    (comes : TickComes peers elapsedTime stack next here) : Serviceable here ∧ ∃ rank, Ahead rank next here := by
  refine Comes.holds (fun next here => Serviceable here ∧ ∃ rank, Ahead rank next here) comes ?_ ?_
  · exact ⟨serviceable.managed.1, _, serviceable.managed.2⟩
  · rintro node before after following ⟨serviceable, rank, place⟩ visited
    obtain ⟨lower, _, later, further⟩ := (visit_ahead node serviceable place).returns visited
    exact ⟨later, lower, further⟩

/-- The tick returns exactly if all its visits do. -/
theorem manageConnections_returns_iff (serviceable : Serviceable stack) :
    (∃ final, manageConnections peers elapsedTime stack = .ok final) ↔ ∀ node here,
      TickComes peers elapsedTime stack (some node) here →
        ∃ result, manageConnectionsVisit peers elapsedTime node here = .ok result := by
  have long := stack.connectionList.length_le
  rw [ConnectionList.toList, List.length_map] at long
  refine walk_returns_iff (fun rank next here => Serviceable here ∧ Ahead rank next here) ?_ serviceable.managed long
  exact fun rank node here holds => visit_ahead node holds.1 holds.2

theorem visit_returns_iff (serviceable : Serviceable stack) (data : stack.connectionList.data node = some slot)
    (listed : slot ∈ stack.connectionList.toList) :
    (∃ result, manageConnectionsVisit peers elapsedTime node stack = .ok result) ↔
      (TimesOut elapsedTime (stack.object slot) → TimeOutReturns peers stack slot) := by
  rw [← serve_returns_iff serviceable listed]
  unfold manageConnectionsVisit
  rw [data]
  constructor
  · rintro ⟨result, done⟩
    obtain ⟨after, served, _⟩ := bind_eq_ok.mp done
    exact ⟨after, served⟩
  · rintro ⟨after, served⟩
    exact ⟨_, bind_eq_ok.mpr ⟨after, served, rfl⟩⟩

theorem serve_class3_expired {after : Stack config} (coherent : Coherent stack)
    (explicit : slot.instanceType = .explicitMessaging) (expired : TimesOut elapsedTime (stack.object slot))
    (done : serve peers elapsedTime stack slot = .ok after) :
    after.connectionList.entries = stack.connectionList.entries.filter (fun entry => entry.2 ∉ [slot]) ∧
      ∀ other, other ≠ slot → after.object other = stack.object other := by
  have listed := (coherent.mem_iff slot).mpr (.inl expired.1)
  have ended := (serve_of_timesOut coherent expired done).1
  unfold connectionTimeoutFunction at ended
  rw [(opened_explicit coherent listed explicit).timeoutFunction] at ended
  obtain ⟨closed, first, rest⟩ := bind_eq_ok.mp ended
  obtain ⟨_, list, object⟩ := (@closeSessionFirst_aside config stack (fun _ => False) slot).returns first
  cases rest
  have closedCoherent : Coherent closed := coherent.of_same_table list object
  have removes := closeConnection_removes closedCoherent.distinct
    (opened_explicit closedCoherent (list ▸ listed) explicit).closeFunction
  rw [removes.entries, list]
  refine ⟨rfl, fun other differs => ?_⟩
  rw [removes.others other (by simpa using differs), object]

theorem LeavesOthers.place_of_listed {before after : Stack config} {visited : Slot config} {node : Nat}
    {front tail : List (Nat × Slot config)} (others : LeavesOthers visited before after)
    (entries : before.connectionList.entries = front ++ (node, visited) :: tail)
    (stays : visited ∈ after.connectionList.toList) :
    ∃ front' back', after.connectionList.entries = front' ++ back' ∧ after.connectionList.next node = headId back' ∧
      ∀ other ∈ tail.map Prod.snd, other ∈ after.connectionList.toList → other ∈ back'.map Prod.snd := by
  obtain ⟨gone, kept⟩ := others.entries
  have survives {other : Slot config} (present : other ∈ after.connectionList.toList) : other ∉ gone := by
    obtain ⟨entry, inside, same⟩ := List.mem_map.mp present
    rw [kept, List.mem_filter] at inside
    simpa [same] using inside.2
  rw [entries, List.filter_append, List.filter_cons_of_pos (by simpa using survives stays)] at kept
  refine ⟨(front.filter fun entry => entry.2 ∉ gone) ++ [(node, visited)], tail.filter fun entry => entry.2 ∉ gone,
    by simp [kept], ConnectionList.next_of_split kept, fun other behind present => ?_⟩
  obtain ⟨entry, inside, rfl⟩ := List.mem_map.mp behind
  exact List.mem_map_of_mem (List.mem_filter.mpr ⟨inside, by simpa using survives present⟩)

/-- Where all connections are passed on, the tick has visited whoever it has something to do for. -/
theorem visited_of_awaits {final : Stack config} {noted : List (Stack config × Stack config)}
    (serviceable : Serviceable stack)
    (passes : ∀ node here, TickComes peers elapsedTime stack (some node) here → PassesOn peers elapsedTime stack node here)
    (done : visitsTo slot peers elapsedTime stack = .ok (final, noted))
    (established : (final.object slot).state = .established) (awaits : Awaits elapsedTime (stack.object slot)) :
    noted ≠ [] := by
  -- as long as it has not been visited, a connection still established is ahead of the walk
  let waiting (next : Option Nat) (reached : Stack config × List (Stack config × Stack config)) : Prop :=
    TickComes peers elapsedTime stack next reached.1 ∧ ∃ front back, reached.1.connectionList.entries = front ++ back ∧
      next = headId back ∧ (reached.2 = [] → (reached.1.object slot).state = .established → slot ∈ back.map Prod.snd)
  have walked : Settles (visitsTo slot peers elapsedTime stack) (waiting none) (fun _ => True) := by
    have managed := (@Serviceable.managed config stack elapsedTime serviceable).1.coherent
    refine walk_settles waiting ?_ trivial _ ⟨.here, [], _, rfl, ConnectionList.first_eq _, fun _ active => ?_⟩
    · rintro node ⟨here, noted⟩ ⟨comes, front, back, entries, at_, waits⟩
      cases back with
      | nil => cases at_
      | cons entry tail =>
          obtain ⟨id, visited⟩ := entry
          obtain rfl : node = id := Option.some.inj at_
          have member : (node, visited) ∈ here.connectionList.entries := by simp [entries]
          have data : here.connectionList.data node = some visited := ConnectionList.data_of_mem member
          have coherent := (comes.serviceable serviceable).1.coherent
          have listed := toList_of_entry member
          unfold recorded
          cases visit : manageConnectionsVisit peers elapsedTime node here with
          | error fault => trivial
          | ok result =>
              have onward : TickComes peers elapsedTime stack result.2 result.1 := Comes.next comes visit
              unfold manageConnectionsVisit at visit
              rw [data] at visit
              obtain ⟨after, served, rest⟩ := bind_eq_ok.mp visit
              cases rest
              obtain ⟨afterCoherent, visits⟩ := (serve_visited coherent listed).returns served
              refine ⟨onward, ?_⟩
              by_cases same : visited = slot
              · -- the visit to the connection itself is noted
                obtain ⟨front', back', split, follows, _⟩ := visits.others.place entries
                refine ⟨front', back', split, follows, fun unseen => ?_⟩
                dsimp only at unseen
                rw [data, if_pos (congrArg some same)] at unseen
                exact absurd unseen (List.append_ne_nil_of_right_ne_nil _ (List.cons_ne_nil _ _))
              · have wasBehind (unseen : (if here.connectionList.data node = some slot then noted ++ [(here, after)]
                    else noted) = []) (active : (after.object slot).state = .established) :
                    (here.object slot).state = .established ∧ slot ∈ tail.map Prod.snd := by
                  have before := visits.others.aged slot (Ne.symm same) active
                  rw [data, if_neg (by simpa using same)] at unseen
                  exact ⟨before, (List.mem_cons.mp (waits unseen before)).resolve_left (Ne.symm same)⟩
                by_cases stays : visited ∈ after.connectionList.toList
                · obtain ⟨front', back', split, follows, behind⟩ := visits.others.place_of_listed entries stays
                  refine ⟨front', back', split, follows, fun unseen active => ?_⟩
                  exact behind slot (wasBehind unseen active).2 ((afterCoherent.mem_iff slot).mpr (.inl active))
                · -- the walk ends at a node that is freed, with nobody behind it to wait for
                  obtain ⟨front', back', split, follows, _⟩ := visits.others.place entries
                  refine ⟨front', back', split, follows, fun unseen active => ?_⟩
                  obtain ⟨before, behind⟩ := wasBehind unseen active
                  have freed := Classical.byContradiction fun calm => stays (visits.listed calm)
                  have list : here.connectionList.toList = front.map Prod.snd ++ visited :: tail.map Prod.snd :=
                    toList_of_entries entries
                  exact absurd awaits ((passes node here comes visited data freed.2).2 freed.1 _ _ list slot behind before)
    · exact (managed.mem_iff slot).mpr (.inl active)
  rintro rfl
  obtain ⟨_, front, back, _, ended, ahead⟩ := walked.returns done
  have inside := ahead rfl established
  cases back with
  | nil => cases inside
  | cons entry back => cases ended

theorem TickServes.of_toured {final : Stack config} {noted : List (Stack config × Stack config)}
    (toured : Toured slot peers elapsedTime Prod.mk (stack.manageEncapsulationMessages elapsedTime) final noted)
    (done : visitsTo slot peers elapsedTime stack = .ok (final, noted))
    (seen : Awaits elapsedTime (stack.object slot) → noted ≠ []) (established : (final.object slot).state = .established) :
    TickServes peers elapsedTime stack final slot := by
  cases toured with
  | passedBy others =>
      have untouched : Untouched (stack.object slot) (final.object slot) := (others.untouched established).2
      refine ⟨fun watched => ?_, fun producing => absurd rfl (seen (.inr producing))⟩
      have idle : elapsedTime = 0 := Classical.byContradiction fun passed => seen (.inl ⟨watched, passed⟩) rfl
      rw [untouched.watchdog, idle]
      rfl
  | @visited before after _ early coherent listed serves late =>
      obtain ⟨active, kept⟩ := late.untouched established
      obtain ⟨wasActive, inTime, frames, served, logged⟩ := ((serve_visited coherent listed).returns serves).2.own active
      have untouched : Untouched (stack.object slot) (before.object slot) := (early.untouched wasActive).2
      constructor
      · intro watched
        have metWatched : isWatched (before.object slot) = true := untouched.watched.trans watched
        have short := inTime metWatched
        rw [UInt64.lt_iff_toNat_lt, untouched.watchdog] at short
        rw [kept.watchdog, served.watchdog metWatched, untouched.watchdog, UInt64.toNat_sub_of_le]
        · omega
        · rw [UInt64.le_iff_toNat_le]
          omega
      · intro producing
        have first := untouched.same (takesNothingOver_of_producing producing)
        have last := kept.same (takesNothingOver_of_producing (served.producing (first ▸ producing)))
        exact ⟨before, after, frames, done, first, served, logged, last⟩

def noteVisit (slot : Slot config) (node : Nat) (before after : Stack config)
    (noted : List (Stack config × Stack config)) : List (Stack config × Stack config) :=
  if before.connectionList.data node = some slot then noted ++ [(before, after)] else noted

theorem TickComes.unvisited {here : Stack config} {other : Slot config} {front back : List (Slot config)}
    (serviceable : Serviceable stack) (comes : TickComes peers elapsedTime stack (some node) here)
    (data : here.connectionList.data node = some slot) (list : here.connectionList.toList = front ++ slot :: back)
    (behind : other ∈ back) (active : (here.object other).state = .established) :
    Comes (recorded (manageConnectionsVisit peers elapsedTime) (noteVisit other)) stack.connectionList.first
        (stack.manageEncapsulationMessages elapsedTime, []) (some node) (here, []) ∧
      (node, slot) ∈ here.connectionList.entries ∧ (stack.object other).state = .established ∧
      Untouched (stack.object other) (here.object other) := by
  have touring (next : Option Nat) (reached : Stack config × List (Stack config × Stack config))
      (comes : Comes (recorded (manageConnectionsVisit peers elapsedTime) (noteVisit other)) stack.connectionList.first
        (stack.manageEncapsulationMessages elapsedTime, []) next reached) :
      Touring other peers elapsedTime Prod.mk (stack.manageEncapsulationMessages elapsedTime) next reached := by
    refine Comes.holds (Touring other peers elapsedTime Prod.mk (stack.manageEncapsulationMessages elapsedTime)) comes ?_ ?_
    · exact ⟨serviceable.managed.1.coherent, .passedBy .refl, [], _, rfl, ConnectionList.first_eq _,
        fun some_ => absurd rfl some_⟩
    · intro node before after following touring visited
      exact (visit_touring (fun _ _ _ _ => rfl) touring).returns visited
  obtain ⟨noted, noting⟩ := Comes.recorded [] comes
  obtain ⟨coherent, toured, front', back', entries, at_, past⟩ := touring _ _ noting
  cases back' with
  | nil => cases at_
  | cons entry tail =>
      obtain ⟨id, visited⟩ := entry
      obtain rfl : node = id := Option.some.inj at_
      have member : (node, visited) ∈ here.connectionList.entries := by simp [entries]
      obtain rfl : visited = slot := Option.some.inj ((ConnectionList.data_of_mem member).symm.trans data)
      have same : tail.map Prod.snd = back := by
        have distinct := coherent.distinct
        have split := toList_of_entries entries
        rw [split, List.map_cons, List.nodup_middle, List.nodup_cons, List.mem_append, not_or] at distinct
        exact ((List.append_cons_inj_of_notMem distinct.1.1 distinct.1.2).mp (split.symm.trans list)).2.2
      have unseen : noted = [] := Classical.byContradiction fun seen =>
        past seen (List.mem_cons_of_mem _ (same ▸ behind))
      subst unseen
      cases toured with
      | passedBy others => exact ⟨noting, member, others.untouched active⟩

/-- Behind a class 3 connection that times out a connection waits for the tick in vain. -/
theorem not_tickServes_behind {here final : Stack config} {other : Slot config} {front back : List (Slot config)}
    (serviceable : Serviceable stack) (comes : TickComes peers elapsedTime stack (some node) here)
    (data : here.connectionList.data node = some slot) (explicit : slot.instanceType = .explicitMessaging)
    (expired : TimesOut elapsedTime (here.object slot)) (list : here.connectionList.toList = front ++ slot :: back)
    (behind : other ∈ back) (active : (here.object other).state = .established)
    (awaits : Awaits elapsedTime (stack.object other)) (done : manageConnections peers elapsedTime stack = .ok final) :
    (stack.object other).state = .established ∧ (final.object other).state = .established ∧
      ¬ TickServes peers elapsedTime stack final other := by
  obtain ⟨noting, member, before, untouched⟩ := comes.unvisited serviceable data list behind active
  have coherent := (comes.serviceable serviceable).1.coherent
  obtain ⟨result, visit⟩ := (manageConnections_returns_iff serviceable).mp ⟨final, done⟩ node here comes
  have onward : TickComes peers elapsedTime stack result.2 result.1 := Comes.next comes visit
  have visited := visit
  unfold manageConnectionsVisit at visited
  rw [data] at visited
  obtain ⟨after, served, rest⟩ := bind_eq_ok.mp visited
  cases rest
  have apart : other ≠ slot := by
    rintro rfl
    have distinct := coherent.distinct
    rw [list, List.nodup_middle, List.nodup_cons, List.mem_append, not_or] at distinct
    exact distinct.1.2 behind
  obtain ⟨entries, others⟩ := serve_class3_expired coherent explicit expired served
  have freed : after.connectionList.next node = none :=
    ConnectionList.next_of_absent (ConnectionList.absent_of_filtered entries member (by simp))
  dsimp only at onward
  rw [freed] at onward
  obtain rfl := Comes.end_unique onward (walk_comes done)
  have object := others other apart
  refine ⟨before, by rw [object]; exact active, fun serves => ?_⟩
  rcases awaits with ⟨watched, passed⟩ | producing
  · have counted := serves.watchdog watched
    rw [object, untouched.watchdog] at counted
    exact passed (UInt64.toNat_inj.mp (by simpa using counted))
  · obtain ⟨_, _, _, visits, _⟩ := serves.production producing
    have unnoted : recorded (manageConnectionsVisit peers elapsedTime) (noteVisit other) node (here, []) =
        .ok ((after, []), none) := by
      unfold recorded
      rw [visit]
      change Except.ok ((after, noteVisit other node here after []), after.connectionList.next node) = _
      rw [noteVisit, data, if_neg (by simpa using apart.symm), freed]
    have ends := (Comes.next noting unnoted).end_unique (walk_comes visits)
    cases congrArg Prod.snd ends

/-- The tick returns and serves all exactly if every time-out in it returns and none of a class 3 connection leaves
anybody behind. -/
theorem manageConnections_serves_all_iff (reached : Reached stack) (peers : Peers) (elapsedTime : MilliSeconds) :
    ServesAll peers elapsedTime stack ↔ ∀ node here, TickComes peers elapsedTime stack (some node) here →
      PassesOn peers elapsedTime stack node here := by
  have serviceable := reached.serviceable
  constructor
  · rintro ⟨final, done, serves⟩ node here comes slot data expired
    have hereServiceable := (comes.serviceable serviceable).1
    have listed := (hereServiceable.coherent.mem_iff slot).mpr (.inl expired.1)
    have returns := (manageConnections_returns_iff serviceable).mp ⟨final, done⟩ node here comes
    refine ⟨(visit_returns_iff hereServiceable data listed).mp returns expired, ?_⟩
    intro explicit front back list other behind active awaits
    obtain ⟨before, after, missed⟩ := not_tickServes_behind serviceable comes data explicit expired list behind active
      awaits done
    exact missed (serves other before after)
  · intro passes
    have returns : ∃ final, manageConnections peers elapsedTime stack = .ok final := by
      refine (manageConnections_returns_iff serviceable).mpr fun node here comes => ?_
      obtain ⟨hereServiceable, _, front, back, entries, at_, _⟩ := comes.serviceable serviceable
      cases back with
      | nil => cases at_
      | cons entry tail =>
          obtain ⟨id, visited⟩ := entry
          obtain rfl : node = id := Option.some.inj at_
          have member : (node, visited) ∈ here.connectionList.entries := by simp [entries]
          have data := ConnectionList.data_of_mem member
          refine (visit_returns_iff hereServiceable data (toList_of_entry member)).mpr fun expired => ?_
          exact (passes node here comes visited data expired).1
    obtain ⟨final, done⟩ := returns
    refine ⟨final, done, fun slot _ established => ?_⟩
    have same := @observedTick_fst config slot _ Prod.mk stack (peers, elapsedTime)
    rw [done] at same
    obtain ⟨⟨_, noted⟩, visits, rfl⟩ := map_eq_ok.mp same
    refine .of_toured (observedTick_toured serviceable.coherent visits).2 visits (fun awaits => ?_) established
    exact visited_of_awaits serviceable passes visits established awaits

end Services

section Runs

open SampleApplication

/-- A test for rounds that pass on: no exclusive owner times out, and a class 3 connection does so only at the end of
the list, with another connection of its originator alive. -/
def passesOn (elapsedTime : MilliSeconds) (node : Nat) (here : Stack config) : Bool :=
  match here.connectionList.data node with
  | none => true
  | some slot =>
      !decide (TimesOut elapsedTime (here.object slot)) ||
        match slot with
        | .explicit _ => here.connectionList.toList.getLast? == some slot &&
            here.connectionList.toList.any fun other => equalOriginator (here.object slot) (here.object other) &&
              slot != other && (here.object other).state != .timedOut
        | .exclusiveOwner _ => false
        | .inputOnly _ _ | .listenOnly _ _ => true

theorem PassesOn.of_test {start here : Stack config} {peers : Peers} {elapsedTime : MilliSeconds} {node : Nat}
    (coherent : Coherent here) (passes : passesOn elapsedTime node here = true) :
    PassesOn peers elapsedTime start node here := by
  intro slot data expired
  unfold passesOn at passes
  rw [data] at passes
  dsimp only at passes
  rw [decide_eq_true expired, Bool.not_true, Bool.false_or] at passes
  cases slot with
  | explicit i =>
      rw [Bool.and_eq_true, beq_iff_eq] at passes
      obtain ⟨last, alive⟩ := passes
      simp only [List.any_eq_true, Bool.and_eq_true, bne_iff_ne, and_assoc] at alive
      refine ⟨.inl alive, fun _ front back list other behind => ?_⟩
      have distinct := coherent.distinct
      rw [list, List.nodup_middle, List.nodup_cons, List.mem_append, not_or] at distinct
      rw [list, List.getLast?_append_of_ne_nil _ (List.cons_ne_nil _ _)] at last
      cases back with
      | nil => cases behind
      | cons next rest =>
          rw [List.getLast?_cons_cons] at last
          exact absurd (List.mem_of_getLast? last) distinct.1.2
  | exclusiveOwner i => cases passes
  | inputOnly i j =>
      refine ⟨timeOutReturns_of_bystander (by simp [Slot.instanceType]) (by simp [Slot.instanceType]), ?_⟩
      exact fun explicit => absurd explicit (by simp [Slot.instanceType])
  | listenOnly i j =>
      refine ⟨timeOutReturns_of_bystander (by simp [Slot.instanceType]) (by simp [Slot.instanceType]), ?_⟩
      exact fun explicit => absurd explicit (by simp [Slot.instanceType])

def tickEnds (stack : Stack config) (test : Stack config → Bool) : Bool :=
  match manageConnections tenSeconds.1 10000 stack with
  | .ok final => test final
  | .error _ => false

theorem exists_of_tickEnds {stack : Stack config} {test : Stack config → Bool} (passes : tickEnds stack test = true) :
    ∃ final, manageConnections tenSeconds.1 10000 stack = .ok final ∧ test final = true := by
  unfold tickEnds at passes
  split at passes
  · next final done => exact ⟨final, done, passes⟩
  · cases passes

/-- A class 3 connection at the end of the list, the exclusive owner and an input-only connection to its input. -/
def ownerBetween : List Operation :=
  [.forwardOpen (openExplicit 2), .forwardOpen openEvery,
    .forwardOpen (openIo 3 (pointToPoint 0) (pointToPoint 128) 152 102)]

/-- Both others time out, and the owner is served. -/
theorem owner_between_served : ∃ start : Stack configuration, start.connectionList.toList.length = 3 ∧
    ServesAll tenSeconds.1 10000 start ∧ ∃ final, manageConnections tenSeconds.1 10000 start = .ok final ∧
      final.connectionList.toList.map (fun slot => (final.object slot).state) = [.timedOut, .established] := by
  have run : ends ownerBetween (fun stack : Stack configuration =>
      decide (stack.connectionList.toList.length = 3) &&
        testWalk (manageConnectionsVisit tenSeconds.1 10000) (passesOn 10000) 3 stack.connectionList.first
          (stack.manageEncapsulationMessages 10000) &&
        tickEnds stack fun final => decide
          (final.connectionList.toList.map (fun slot => (final.object slot).state) = [.timedOut, .established])) =
      true := by decide +kernel
  obtain ⟨start, reached, shown⟩ := exists_of_ends run
  rw [Bool.and_eq_true, Bool.and_eq_true, decide_eq_true_eq] at shown
  obtain ⟨⟨three, rounds⟩, ticked⟩ := shown
  refine ⟨start, three, (manageConnections_serves_all_iff reached _ _).mpr fun node here comes => ?_, ?_⟩
  · exact .of_test (comes.serviceable reached.serviceable).1.coherent (test_of_comes rounds node here comes)
  · obtain ⟨final, done, states⟩ := exists_of_tickEnds ticked
    exact ⟨final, done, of_decide_eq_true states⟩

/-- A class 3 connection at the head of the list times out, and the watchdog of the connection behind it misses
the tick. -/
theorem timeOut_ends_the_tick : ∃ start after : Stack configuration, Reached start ∧
    (start.object cyclicSlot).state = .established ∧ isWatched (start.object cyclicSlot) = true ∧
    manageConnections tenSeconds.1 10000 start = .ok after ∧ (after.object cyclicSlot).state = .established ∧
    (after.object cyclicSlot).inactivityWatchdogTimer = (start.object cyclicSlot).inactivityWatchdogTimer := by
  have run : ends [.forwardOpen openEvery, .forwardOpen (openExplicit 2)] (fun stack : Stack configuration =>
      decide ((stack.object cyclicSlot).state = .established ∧ isWatched (stack.object cyclicSlot) = true) &&
      tickEnds stack fun after => decide ((after.object cyclicSlot).state = .established ∧
        (after.object cyclicSlot).inactivityWatchdogTimer = (stack.object cyclicSlot).inactivityWatchdogTimer)) =
      true := by decide +kernel
  obtain ⟨start, reached, shown⟩ := exists_of_ends run
  rw [Bool.and_eq_true] at shown
  obtain ⟨met, ticked⟩ := shown
  obtain ⟨established, watched⟩ := of_decide_eq_true met
  obtain ⟨after, done, states⟩ := exists_of_tickEnds ticked
  obtain ⟨still, same⟩ := of_decide_eq_true states
  exact ⟨start, after, reached, established, watched, done, still, same⟩

end Runs

end Stack

end EtherNetIP
