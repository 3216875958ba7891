import EtherNetIP.Operations

/-! The walk of the timer tick past one connection.

A visit changes the connection it is made to. Others it may end, and one of them
may take a stream over; a connection that can take over nothing is either ended
or left as it was. The walk goes on behind the visited node unless the visit has
freed it.
-/

set_option autoImplicit false

namespace EtherNetIP

open Library CipConnectionObject

variable {config : Configuration}

namespace Stack

def TakesNothingOver (object : CipConnectionObject) : Prop := ∀ inputPoint, isNonControlMaster inputPoint object = false

/-- What a visit to another connection leaves of one: taking a stream over changes no watchdog. -/
structure Untouched (before after : CipConnectionObject) : Prop where
  same : TakesNothingOver before → after = before
  watchdog : after.inactivityWatchdogTimer = before.inactivityWatchdogTimer
  watched : isWatched after = isWatched before

namespace Untouched

theorem refl (object : CipConnectionObject) : Untouched object object := ⟨fun _ => rfl, rfl, rfl⟩

theorem of_eq {before after : CipConnectionObject} (same : after = before) : Untouched before after := same ▸ refl after

theorem trans {before middle after : CipConnectionObject} (first : Untouched before middle)
    (second : Untouched middle after) : Untouched before after where
  same := by
    intro nothing
    have early := first.same nothing
    rw [← early]
    exact second.same (early ▸ nothing)
  watchdog := second.watchdog.trans first.watchdog
  watched := second.watched.trans first.watched

theorem takeOver {inputPoint : UInt32} {object : CipConnectionObject} (closing : CipConnectionObject)
    (candidate : isNonControlMaster inputPoint object = true) : Untouched object (takeOver closing object) where
  same := by
    intro nothing
    rw [nothing inputPoint] at candidate
    cases candidate
  watchdog := rfl
  watched := rfl

end Untouched

/-- Only the connection that is visited, those that end and those that take a stream over are not as before. -/
structure LeavesOthers (visited : Slot config) (before after : Stack config) : Prop where
  entries : ∃ gone : List (Slot config), after.connectionList.entries =
    before.connectionList.entries.filter fun entry => entry.2 ∉ gone
  aged : ∀ other, other ≠ visited → (after.object other).state = .established →
    (before.object other).state = .established
  others : ∀ other, other ≠ visited → (after.object other).state = .established →
    Untouched (before.object other) (after.object other)

section Others

variable {visited slot next : Slot config} {before middle after : Stack config} {named : Int → Prop}

theorem takesNothingOver_of_socket {object : CipConnectionObject} (socket : object.producingSocket ≠ kEipInvalidSocket) :
    TakesNothingOver object := by
  intro inputPoint
  simp [isNonControlMaster, socket]

theorem takesNothingOver_of_producing {object : CipConnectionObject} (producing : isProducing object = true) :
    TakesNothingOver object := by
  simp only [isProducing, Bool.and_eq_true, bne_iff_ne] at producing
  exact takesNothingOver_of_socket producing.2

theorem takesNothingOver_of_explicit {object : CipConnectionObject} (explicit : object.instanceType = .explicitMessaging) :
    TakesNothingOver object := by
  intro inputPoint
  simp [isNonControlMaster, isTypeNonLOIOConnection, explicit]

namespace LeavesOthers

theorem of_same (list : after.connectionList = before.connectionList)
    (object : ∀ other, other ≠ visited → after.object other = before.object other) :
    LeavesOthers visited before after where
  entries := ⟨[], by simp [list]⟩
  aged := fun other differs => (object other differs) ▸ id
  others := fun other differs _ => .of_eq (object other differs)

theorem refl (stack : Stack config) : LeavesOthers visited stack stack := .of_same rfl fun _ _ => rfl

theorem trans (first : LeavesOthers visited before middle) (second : LeavesOthers visited middle after) :
    LeavesOthers visited before after where
  entries := by
    obtain ⟨gone, early⟩ := first.entries
    obtain ⟨more, late⟩ := second.entries
    refine ⟨gone ++ more, ?_⟩
    rw [late, early, List.filter_filter]
    refine List.filter_congr fun entry _ => ?_
    simp [Bool.and_comm]
  aged := fun other differs established => first.aged other differs (second.aged other differs established)
  others := fun other differs established =>
    (first.others other differs (second.aged other differs established)).trans (second.others other differs established)

theorem of_unlists {gone : List (Slot config)} (unlists : Unlists before after gone) :
    LeavesOthers visited before after where
  entries := ⟨gone, unlists.entries⟩
  aged := by
    intro other _ established
    by_cases ended : other ∈ gone
    · rw [unlists.emptied other ended] at established
      cases established
    · rwa [unlists.others other ended] at established
  others := by
    intro other _ established
    by_cases ended : other ∈ gone
    · rw [unlists.emptied other ended] at established
      cases established
    · exact .of_eq (unlists.others other ended)

theorem setObject (object : CipConnectionObject) : LeavesOthers visited before (before.setObject visited object) :=
  .of_same rfl fun _ differs => Function.update_of_ne differs _ _

theorem takenOver {inputPoint : UInt32} (closing : CipConnectionObject)
    (successor : before.getNextNonControlMasterConnection inputPoint = some next) :
    LeavesOthers visited before (before.setObject next (takeOver closing (before.object next))) where
  entries := ⟨[], by simp [Stack.setObject]⟩
  aged := by
    intro other _ established
    rw [setObject_objects] at established
    by_cases same : other = next
    · subst same
      rw [Function.update_self] at established
      exact established
    · rwa [Function.update_of_ne same] at established
  others := by
    intro other _ _
    rw [setObject_objects]
    by_cases same : other = next
    · subst same
      rw [Function.update_self]
      exact .takeOver closing (findConnection_mem successor).2
    · rw [Function.update_of_ne same]
      exact .refl _

theorem of_closed (closed : Closed before slot after) : LeavesOthers visited before after := by
  cases closed with
  | alone passive removes => exact .of_unlists removes.toUnlists
  | succeeded next controls successor removes =>
      exact (takenOver _ successor).trans (.of_unlists (unlists_of_handedOver removes.toUnlists))
  | last controls nobody removes => exact .of_unlists removes.toUnlists

theorem of_closesAll {instanceType : ConnectionObjectInstanceType}
    (closes : Relation.ReflTransGen (ClosesOneOf instanceType) before after) : LeavesOthers visited before after := by
  induction closes with
  | refl => exact .refl before
  | tail _ last ih =>
      obtain ⟨slot, _, _, closed⟩ := last
      exact ih.trans (.of_closed closed)

theorem of_aside (aside : Aside named before after) : LeavesOthers visited before after := by
  obtain ⟨gone, _, unlists⟩ := aside.unlists
  exact .of_unlists unlists

theorem of_handedOn {handover : Bool} (handedOn : HandedOn before visited after handover) :
    LeavesOthers visited before after := by
  cases handedOn with
  | passive passive => exact .refl before
  | succeeded controls successor => exact (takenOver _ successor).trans (.setObject _)
  | last controls nobody removes => exact .of_unlists removes.toUnlists

theorem of_dependents {inputPoint : UInt32} {handover : Bool}
    (dependents : DependentsClosed slot inputPoint handover before after) : LeavesOthers visited before after := by
  cases dependents with
  | kept independent => exact .refl before
  | closed owner remained inputOnly listeners => exact (of_closesAll inputOnly).trans (.of_unlists listeners.toUnlists)

theorem of_timedOut (timedOut : TimedOut named before visited after) : LeavesOthers visited before after := by
  obtain ⟨established, io, aside, handedOn, dependents⟩ := timedOut
  have timing : LeavesOthers visited before (before.timingOut visited) :=
    .of_same rfl fun _ differs => Function.update_of_ne differs _ _
  have handed := (timing.trans (.of_aside aside)).trans (.of_handedOn handedOn)
  exact (handed.trans (.of_dependents dependents)).trans (.setObject _)

end LeavesOthers

end Others

section Visits

variable {stack : Stack config} {slot : Slot config} {peers : Peers} {elapsedTime : MilliSeconds}

def TimesOut (elapsedTime : MilliSeconds) (object : CipConnectionObject) : Prop :=
  object.state = .established ∧ isWatched object = true ∧ elapsedTime ≥ object.inactivityWatchdogTimer

instance (elapsedTime : MilliSeconds) (object : CipConnectionObject) : Decidable (TimesOut elapsedTime object) :=
  inferInstanceAs (Decidable (_ ∧ _ ∧ _))

def framesIn (effects : List Effect) : Nat :=
  effects.countP fun effect => match effect with
    | .sendUdpData _ => true
    | _ => false

/-- What a visit makes of a connection whose watchdog does not run out, and how many frames it sends. -/
inductive Served (elapsedTime : MilliSeconds) (before : CipConnectionObject) : CipConnectionObject → Nat → Prop
  | silent (idle : isProducing before = false) :
      Served elapsedTime before
        (if isWatched before then decrementWatchdogTimers elapsedTime before else before) 0
  | waiting (producing : isProducing before = true) (later : ¬before.transmissionTriggerTimer ≤ elapsedTime) :
      Served elapsedTime before
        (decrementTransmissionTimer elapsedTime (countProductionInhibit elapsedTime
          (if isWatched before then decrementWatchdogTimers elapsedTime before else before))) 0
  | sent (producing : isProducing before = true) (due : before.transmissionTriggerTimer ≤ elapsedTime)
      (hasChanged : Bool) :
      Served elapsedTime before
        (reloadTransmissionTimers elapsedTime (countFrame hasChanged (countProductionInhibit elapsedTime
          (if isWatched before then decrementWatchdogTimers elapsedTime before else before)))) 1

theorem sendConnectedData_framed :
    Settles (stack.connectionSendDataFunction slot)
      (fun after => (∃ hasChanged, after.object = Function.update stack.object slot (countFrame hasChanged (stack.object slot))) ∧
        framesIn after.effects = framesIn stack.effects + 1 ∧ after.connectionList = stack.connectionList)
      (fun _ => True) := by
  unfold connectionSendDataFunction
  split
  · trivial
  · unfold sendConnectedData
    refine Settles.bind (Settles.of_ok fun _ _ => trivial : Settles _ (fun _ => True) _) ?_
    rintro ⟨length, data⟩ _
    exact ⟨⟨_, rfl⟩, List.countP_cons_of_pos rfl, rfl⟩

theorem produceWhenDue_served :
    Settles (stack.produceWhenDue elapsedTime slot)
      (fun after => ∃ frames, framesIn after.effects = framesIn stack.effects + frames ∧
        after.connectionList = stack.connectionList ∧
        ((¬(stack.object slot).transmissionTriggerTimer ≤ elapsedTime ∧ frames = 0 ∧
            after.object = Function.update stack.object slot
              (decrementTransmissionTimer elapsedTime (countProductionInhibit elapsedTime (stack.object slot)))) ∨
          (stack.object slot).transmissionTriggerTimer ≤ elapsedTime ∧ frames = 1 ∧ ∃ hasChanged,
            after.object = Function.update stack.object slot
              (reloadTransmissionTimers elapsedTime (countFrame hasChanged
                (countProductionInhibit elapsedTime (stack.object slot))))))
      (fun _ => True) := by
  have timer : (countProductionInhibit elapsedTime (stack.object slot)).transmissionTriggerTimer =
      (stack.object slot).transmissionTriggerTimer := by
    unfold countProductionInhibit
    split <;> rfl
  unfold produceWhenDue
  dsimp only
  rw [modifyObject, setObject_objects, Function.update_self, timer]
  split
  · rename_i due
    refine Settles.bind sendConnectedData_framed ?_
    rintro sent ⟨⟨hasChanged, object⟩, frames, list⟩
    refine ⟨1, frames, list, .inr ⟨due, rfl, hasChanged, ?_⟩⟩
    rw [setObject_objects, Function.update_self] at object
    change (sent.setObject slot (reloadTransmissionTimers elapsedTime (sent.object slot))).object = _
    rw [setObject_objects, object, Function.update_self, Function.update_idem, Function.update_idem]
  · rename_i later
    refine ⟨0, rfl, rfl, .inl ⟨later, rfl, ?_⟩⟩
    rw [modifyObject, setObject_objects, setObject_objects, Function.update_self, Function.update_idem]

theorem serve_served (established : (stack.object slot).state = .established)
    (inTime : ¬TimesOut elapsedTime (stack.object slot)) :
    Settles (serve peers elapsedTime stack slot)
      (fun after => (∃ frames, Served elapsedTime (stack.object slot) (after.object slot) frames ∧
          framesIn after.effects = framesIn stack.effects + frames) ∧
        after.connectionList = stack.connectionList ∧ ∀ other, other ≠ slot → after.object other = stack.object other)
      (fun _ => True) := by
  -- the object behind the watchdog, whose timer is not what the production looks at
  let counted : CipConnectionObject := if isWatched (stack.object slot) then
    decrementWatchdogTimers elapsedTime (stack.object slot) else stack.object slot
  have checked : checkInactivityWatchdog peers elapsedTime stack slot = .ok (stack.setObject slot counted) := by
    unfold checkInactivityWatchdog
    by_cases watched : isWatched (stack.object slot) = true
    · have left : ¬elapsedTime ≥ (stack.object slot).inactivityWatchdogTimer :=
        fun expired => inTime ⟨established, watched, expired⟩
      rw [if_pos watched, if_neg left]
      have same : counted = decrementWatchdogTimers elapsedTime (stack.object slot) := if_pos watched
      rw [same]
      rfl
    · rw [if_neg watched]
      have same : counted = stack.object slot := if_neg watched
      rw [same]
      refine congrArg Except.ok ?_
      simp [Stack.setObject]
  have here : (stack.setObject slot counted).object slot = counted := by
    rw [setObject_objects, Function.update_self]
  have stillEstablished : counted.state = .established := by
    dsimp only [counted]
    split
    · exact established
    · exact established
  have producing : isProducing counted = isProducing (stack.object slot) := by
    dsimp only [counted]
    split <;> rfl
  have timer : counted.transmissionTriggerTimer = (stack.object slot).transmissionTriggerTimer := by
    dsimp only [counted]
    split <;> rfl
  unfold serve
  rw [if_pos established, checked, ok_bind]
  unfold produce
  rw [here]
  by_cases produces : isProducing counted = true
  · rw [if_pos ⟨stillEstablished, produces⟩]
    refine produceWhenDue_served.mono ?_
    rintro after ⟨frames, logged, list, outcome⟩
    rw [here, timer] at outcome
    rw [producing] at produces
    have others {object : CipConnectionObject} (written : after.object =
        Function.update (stack.setObject slot counted).object slot object) :
        after.object slot = object ∧ ∀ other, other ≠ slot → after.object other = stack.object other := by
      rw [written, setObject_objects, Function.update_idem]
      exact ⟨Function.update_self _ _ _, fun other differs => Function.update_of_ne differs _ _⟩
    -- waits for its next frame, or has sent one
    rcases outcome with ⟨later, rfl, written⟩ | ⟨due, rfl, hasChanged, written⟩
    · obtain ⟨own, rest⟩ := others written
      exact ⟨⟨0, own ▸ .waiting produces later, logged⟩, list, rest⟩
    · obtain ⟨own, rest⟩ := others written
      exact ⟨⟨1, own ▸ .sent produces due hasChanged, logged⟩, list, rest⟩
  · rw [if_neg fun both => produces both.2]
    refine ⟨⟨0, ?_, rfl⟩, rfl, fun other differs => ?_⟩
    · rw [here]
      exact .silent (producing ▸ Bool.eq_false_iff.mpr produces)
    · rw [setObject_objects, Function.update_of_ne differs]

def EndsVisited (slot : Slot config) (before after : Stack config) : Prop :=
  LeavesOthers slot before after ∧ (after.object slot).state ≠ .established ∧
    (slot.instanceType ≠ .explicitMessaging → slot ∈ after.connectionList.toList)

theorem class3ConnectionTimeoutHandler_ends (coherent : Coherent stack)
    (listed : slot ∈ stack.connectionList.toList) (explicit : slot.instanceType = .explicitMessaging) :
    Settles (stack.class3ConnectionTimeoutHandler slot) (EndsVisited slot stack) (fun _ => True) := by
  have first : Settles (stack.checkForTimedOutConnectionsAndCloseTCPConnections closeSessionBySessionHandle slot)
      (fun closed => closed.connectionList = stack.connectionList ∧ closed.object = stack.object) (fun _ => True) :=
    (@closeSessionFirst_aside config stack (fun _ => False) slot).imp (fun _ closed => closed.2) fun _ _ => trivial
  refine Settles.bind first ?_
  rintro closed ⟨list, object⟩
  have closedCoherent : Coherent closed := coherent.of_same_table list object
  have closes := (opened_explicit closedCoherent (list ▸ listed) explicit).closeFunction
  have removes := closeConnection_removes closedCoherent.distinct closes
  have same : LeavesOthers slot stack closed := .of_same list fun other _ => congrFun object other
  refine ⟨same.trans (.of_unlists removes.toUnlists), ?_, fun io => absurd explicit io⟩
  rw [removes.emptied slot (List.mem_singleton_self slot)]
  decide

theorem handleIoConnectionTimeOut_ends (coherent : Coherent stack)
    (established : (stack.object slot).state = .established) (io : slot.instanceType ≠ .explicitMessaging) :
    Settles (stack.handleIoConnectionTimeOut peers slot) (EndsVisited slot stack) (fun _ => True) := by
  have listed := (coherent.mem_iff slot).mpr (.inl established)
  have timed := @handleIoConnectionTimeOut_timedOut config stack slot (fun _ => False) peers coherent established io
  refine timed.imp ?_ fun _ _ => trivial
  intro after timedOut
  refine ⟨.of_timedOut timedOut, ?_, fun _ => (timedOut.continues coherent).spares slot listed rfl⟩
  cases timedOut
  rw [modifyObject, setObject_objects, Function.update_self]
  change ConnectionObjectState.timedOut ≠ .established
  decide

theorem connectionTimeoutFunction_ends (coherent : Coherent stack)
    (established : (stack.object slot).state = .established) :
    Settles (stack.connectionTimeoutFunction peers slot) (EndsVisited slot stack) (fun _ => True) := by
  have listed := (coherent.mem_iff slot).mpr (.inl established)
  have opened := coherent.opened slot listed
  unfold connectionTimeoutFunction
  by_cases explicit : slot.instanceType = .explicitMessaging
  · rw [(opened_explicit coherent listed explicit).timeoutFunction]
    exact class3ConnectionTimeoutHandler_ends coherent listed explicit
  · have handler : (stack.object slot).connectionTimeoutFunction = some .handleIoConnectionTimeOut := by
      cases slot with
      | explicit i => exact absurd rfl explicit
      | exclusiveOwner i => exact OpenedIo.timeoutFunction opened
      | inputOnly i j => exact OpenedIo.timeoutFunction opened
      | listenOnly i j => exact OpenedIo.timeoutFunction opened
    rw [handler]
    exact handleIoConnectionTimeOut_ends coherent established explicit

/-- A connection whose watchdog runs out is no longer established; only an explicit one leaves the list. -/
theorem serve_expired (coherent : Coherent stack) (expired : TimesOut elapsedTime (stack.object slot)) :
    Settles (serve peers elapsedTime stack slot) (EndsVisited slot stack) (fun _ => True) := by
  obtain ⟨established, watched, late⟩ := expired
  unfold serve checkInactivityWatchdog
  rw [if_pos established, if_pos watched, if_pos late]
  refine Settles.bind (connectionTimeoutFunction_ends coherent established) ?_
  intro after ends
  unfold produce
  rw [if_neg fun both => ends.2.1 both.1]
  exact ends

def InTime (elapsedTime : MilliSeconds) (object : CipConnectionObject) : Prop :=
  isWatched object = true → elapsedTime < object.inactivityWatchdogTimer

structure Visited (elapsedTime : MilliSeconds) (slot : Slot config) (before after : Stack config) : Prop where
  others : LeavesOthers slot before after
  listed : ¬(slot.instanceType = .explicitMessaging ∧ TimesOut elapsedTime (before.object slot)) →
    slot ∈ after.connectionList.toList
  own : (after.object slot).state = .established → (before.object slot).state = .established ∧
    InTime elapsedTime (before.object slot) ∧ ∃ frames, Served elapsedTime (before.object slot) (after.object slot) frames ∧
      framesIn after.effects = framesIn before.effects + frames

theorem serve_visited (coherent : Coherent stack) (listed : slot ∈ stack.connectionList.toList) :
    Settles (serve peers elapsedTime stack slot) (fun after => Coherent after ∧ Visited elapsedTime slot stack after)
      (fun _ => True) := by
  have proceeds : Proceeds (fun _ => False) (fun _ _ => False) stack (serve peers elapsedTime stack slot) :=
    serve_proceeds coherent
  have stays : Settles (serve peers elapsedTime stack slot) Coherent (fun _ => True) :=
    proceeds.imp (fun _ evolves => (evolves.continues coherent).coherent) fun _ _ => trivial
  refine stays.both (?_ : Settles _ (Visited elapsedTime slot stack) (fun _ => True))
  by_cases established : (stack.object slot).state = .established
  · by_cases expired : TimesOut elapsedTime (stack.object slot)
    · refine (serve_expired coherent expired).mono fun after ends => ⟨ends.1, fun quiet => ?_, fun still => ?_⟩
      · exact ends.2.2 fun explicit => quiet ⟨explicit, expired⟩
      · exact absurd still ends.2.1
    · refine (serve_served established expired).mono ?_
      rintro after ⟨served, list, others⟩
      have inTime : InTime elapsedTime (stack.object slot) := fun watched =>
        UInt64.not_le.mp fun late => expired ⟨established, watched, late⟩
      exact ⟨.of_same list others, fun _ => list ▸ listed, fun _ => ⟨established, inTime, served⟩⟩
  · unfold serve
    rw [if_neg established]
    exact ⟨.refl stack, fun _ => listed, fun still => absurd still established⟩

end Visits

section Walk

variable {stack : Stack config} {slot : Slot config} {peers : Peers} {elapsedTime : MilliSeconds}

/-- How far a connection has come in a walk that still has some entries ahead: it is waiting for its visit, with
only calm connections in front of it, or has been served. -/
inductive Progress (elapsedTime : MilliSeconds) (slot : Slot config) (calm : Slot config → Prop)
    (start : CipConnectionObject) (ahead : List (Nat × Slot config)) (object : CipConnectionObject) : Nat → Prop
  | waiting {front back : List (Nat × Slot config)} {id : Nat} (split : ahead = front ++ (id, slot) :: back)
      (quiet : ∀ entry ∈ front, calm entry.2) (untouched : Untouched start object) :
      Progress elapsedTime slot calm start ahead object 0
  | served {met left : CipConnectionObject} {frames : Nat} (passed : slot ∉ ahead.map Prod.snd)
      (untouched : Untouched start met) (inTime : InTime elapsedTime met) (served : Served elapsedTime met left frames)
      (kept : Untouched left object) : Progress elapsedTime slot calm start ahead object frames

section Progress

variable {calm : Slot config → Prop} {start object left : CipConnectionObject} {visited : Slot config} {node frames : Nat}
  {tail : List (Nat × Slot config)}

theorem Progress.meets (progress : Progress elapsedTime slot calm start ((node, slot) :: tail) object frames) :
    frames = 0 ∧ Untouched start object := by
  cases progress with
  | waiting apart quiet untouched => exact ⟨rfl, untouched⟩
  | served passed => exact absurd List.mem_cons_self passed

theorem Progress.past {gone : List (Slot config)} (differs : visited ≠ slot) (survives : slot ∉ gone)
    (untouched : Untouched object left)
    (progress : Progress elapsedTime slot calm start ((node, visited) :: tail) object frames) :
    Progress elapsedTime slot calm start (tail.filter fun entry => entry.2 ∉ gone) left frames := by
  cases progress with
  | @waiting ahead behind id apart quiet earlier =>
      cases ahead with
      | nil => exact absurd (Prod.mk.inj (List.cons.inj apart).1).2 differs
      | cons first ahead =>
          refine .waiting (?_ : _ = (ahead.filter fun entry => entry.2 ∉ gone) ++ (id, slot) ::
            behind.filter fun entry => entry.2 ∉ gone) ?_ (earlier.trans untouched)
          · have tails : tail = ahead ++ (id, slot) :: behind := (List.cons.inj apart).2
            rw [tails, List.filter_append, List.filter_cons_of_pos (by simpa using survives)]
          · exact fun entry inside => quiet entry (List.mem_cons_of_mem _ (List.mem_filter.mp inside).1)
  | served passed earlier inTime served later =>
      refine .served (fun ahead => passed ?_) earlier inTime served (later.trans untouched)
      obtain ⟨entry, inside, same⟩ := List.mem_map.mp ahead
      exact List.mem_cons_of_mem _ (List.mem_map.mpr ⟨entry, (List.mem_filter.mp inside).1, same⟩)

/-- A visit that frees its node ends the walk; only who has been served already is none the worse. -/
theorem Progress.freed (differs : visited ≠ slot) (fierce : ¬calm visited) (untouched : Untouched object left)
    (progress : Progress elapsedTime slot calm start ((node, visited) :: tail) object frames) :
    Progress elapsedTime slot calm start [] left frames := by
  cases progress with
  | @waiting ahead behind id apart quiet earlier =>
      cases ahead with
      | nil => exact absurd (Prod.mk.inj (List.cons.inj apart).1).2 differs
      | cons first ahead =>
          have calm := quiet first List.mem_cons_self
          rw [← (List.cons.inj apart).1] at calm
          exact absurd calm fierce
  | served passed earlier inTime served later =>
      exact .served (by simp) earlier inTime served (later.trans untouched)

end Progress

def countFrames (slot : Slot config) (node : Nat) (before after : Stack config) (frames : Nat) : Nat :=
  if before.connectionList.data node = some slot then
    frames + (framesIn after.effects - framesIn before.effects)
  else frames

def Calm (stack : Stack config) (elapsedTime : MilliSeconds) (slot : Slot config) : Prop :=
  ¬(slot.instanceType = .explicitMessaging ∧ TimesOut elapsedTime (stack.object slot))

instance (stack : Stack config) (elapsedTime : MilliSeconds) (slot : Slot config) :
    Decidable (Calm stack elapsedTime slot) := inferInstanceAs (Decidable (¬(_ ∧ _)))

structure Walking (stack : Stack config) (slot : Slot config) (elapsedTime : MilliSeconds) (counted : Nat)
    (next : Option Nat) (reached : Stack config × Nat) : Prop where
  coherent : Coherent reached.1
  place : ∃ front back, reached.1.connectionList.entries = front ++ back ∧ next = headId back ∧
    (∀ entry ∈ back, entry.2.instanceType = .explicitMessaging → (reached.1.object entry.2).state = .established →
      reached.1.object entry.2 = stack.object entry.2) ∧
    ((reached.1.object slot).state = .established → ∃ frames, reached.2 = counted + frames ∧
      Progress elapsedTime slot (Calm stack elapsedTime) (stack.object slot) back (reached.1.object slot) frames)

theorem toList_of_entry {list : ConnectionList config.kNodesAmount (Slot config)} {id : Nat}
    (entry : (id, slot) ∈ list.entries) : slot ∈ list.toList := List.mem_map.mpr ⟨_, entry, rfl⟩

/-- A round of the walk, with the frames it counts. -/
theorem visit_walking {reached : Stack config × Nat} {counted node : Nat}
    (walking : Walking stack slot elapsedTime counted (some node) reached) :
    Settles (recorded (manageConnectionsVisit peers elapsedTime) (countFrames slot) node reached)
      (fun result => Walking stack slot elapsedTime counted result.2 result.1) (fun _ => True) := by
  obtain ⟨coherent, front, back, entries, here, explicit, progress⟩ := walking
  cases back with
  | nil => cases here
  | cons entry tail =>
  obtain ⟨id, visited⟩ := entry
  obtain rfl : node = id := Option.some.inj here
  have member : (node, visited) ∈ reached.1.connectionList.entries := by simp [entries]
  have data : reached.1.connectionList.data node = some visited := ConnectionList.data_of_mem member
  have listed := toList_of_entry member
  have distinct : ((front ++ (node, visited) :: tail).map Prod.snd).Nodup := entries ▸ coherent.distinct
  rw [List.map_append, List.map_cons, List.nodup_middle, List.nodup_cons, List.mem_append, not_or] at distinct
  obtain ⟨⟨notFront, notTail⟩, _⟩ := distinct
  unfold recorded manageConnectionsVisit
  rw [data]
  refine Settles.bind (Settles.bind (serve_visited coherent listed) fun served both => (?_ :
    Settles (Except.ok (served, served.connectionList.next node)) (fun result =>
      result.2 = result.1.connectionList.next node ∧ Coherent result.1 ∧ Visited elapsedTime visited reached.1 result.1)
      (fun _ => True))) ?_
  · exact ⟨rfl, both⟩
  rintro ⟨after, next⟩ ⟨follows, afterCoherent, others, stays, own⟩
  dsimp only at follows
  subst follows
  obtain ⟨gone, kept⟩ := others.entries
  rw [entries] at kept
  -- a calm connection is not timed out, so its node is still there
  have stillCalm (calm : Calm stack elapsedTime visited) : visited ∈ after.connectionList.toList := by
    refine stays fun both => calm ⟨both.1, ?_⟩
    rw [← explicit _ List.mem_cons_self both.1 both.2.1]
    exact both.2
  have survives {other : Slot config} (present : other ∈ after.connectionList.toList) : other ∉ gone := by
    obtain ⟨entry, inside, same⟩ := List.mem_map.mp present
    rw [kept, List.mem_filter] at inside
    simpa [same] using inside.2
  by_cases still : visited ∈ after.connectionList.toList
  · -- the walk goes on behind the node
    have split : after.connectionList.entries = (front.filter fun entry => entry.2 ∉ gone) ++
        (node, visited) :: tail.filter fun entry => entry.2 ∉ gone := by
      rw [kept, List.filter_append, List.filter_cons_of_pos (by simpa using survives still)]
    refine ⟨afterCoherent, (front.filter fun entry => entry.2 ∉ gone) ++ [(node, visited)],
      tail.filter fun entry => entry.2 ∉ gone, by simp [split], ConnectionList.next_of_split split, ?_, ?_⟩
    · intro entry ahead type established
      have inTail := (List.mem_filter.mp ahead).1
      have differs : entry.2 ≠ visited := fun same => notTail (List.mem_map.mpr ⟨entry, inTail, same⟩)
      have inside : entry ∈ reached.1.connectionList.entries := by
        rw [entries]
        exact List.mem_append_right _ (List.mem_cons_of_mem _ inTail)
      have entryListed : entry.2 ∈ reached.1.connectionList.toList := List.mem_map_of_mem inside
      have opened := (coherent.opened entry.2 entryListed).instanceType.trans type
      rw [← explicit entry (List.mem_cons_of_mem _ inTail) type (others.aged _ differs established)]
      exact (others.others _ differs established).same (takesNothingOver_of_explicit opened)
    · intro established
      by_cases same : visited = slot
      · subst same
        obtain ⟨before, inTime, frames, served, logged⟩ := own established
        obtain ⟨earlier, counts, progress⟩ := progress before
        obtain ⟨rfl, untouched⟩ := progress.meets
        refine ⟨frames, ?_, .served (fun ahead => ?_) untouched inTime served (.refl _)⟩
        · have logs : framesIn after.effects - framesIn reached.1.effects = frames := by
            rw [logged, Nat.add_sub_cancel_left]
          rw [countFrames, if_pos data, logs, counts, Nat.add_zero]
        · obtain ⟨entry, inside, same⟩ := List.mem_map.mp ahead
          exact notTail (List.mem_map.mpr ⟨entry, (List.mem_filter.mp inside).1, same⟩)
      · obtain ⟨frames, counts, progress⟩ := progress (others.aged slot (Ne.symm same) established)
        refine ⟨frames, ?_, progress.past same ?_ (others.others slot (Ne.symm same) established)⟩
        · rw [countFrames, if_neg (by simpa [data] using same), counts]
        · exact survives ((afterCoherent.mem_iff slot).mpr (.inl established))
  · -- its own node is freed and points nowhere
    have freed : after.connectionList.next node = none := by
      apply ConnectionList.next_of_absent
      intro present
      obtain ⟨⟨id, other⟩, inside, rfl⟩ := List.mem_map.mp present
      have before : (id, other) ∈ reached.1.connectionList.entries := by
        rw [kept] at inside
        rw [entries]
        exact (List.mem_filter.mp inside).1
      rw [ConnectionList.data_of_mem before] at data
      exact still (Option.some.inj data ▸ toList_of_entry inside)
    refine ⟨afterCoherent, after.connectionList.entries, [], (List.append_nil _).symm, freed, by simp, ?_⟩
    intro established
    have differs : visited ≠ slot := by
      rintro rfl
      exact still ((afterCoherent.mem_iff visited).mpr (.inl established))
    obtain ⟨frames, counts, progress⟩ := progress (others.aged slot differs.symm established)
    refine ⟨frames, ?_, progress.freed differs (fun calm => still (stillCalm calm)) ?_⟩
    · rw [countFrames, if_neg (by simpa [data] using differs), counts]
    · exact others.others slot differs.symm established

def countedTick (slot : Slot config) (state : Stack config × Nat) (tick : Peers × MilliSeconds) :
    Except Fault (Stack config × Nat) :=
  let stack := state.1.manageEncapsulationMessages tick.2
  walk (recorded (manageConnectionsVisit tick.1 tick.2) (countFrames slot)) .outOfFuel config.kNodesAmount
    stack.connectionList.first (stack, state.2)

theorem countedTick_fst (state : Stack config × Nat) (tick : Peers × MilliSeconds) :
    (countedTick slot state tick).map Prod.fst = manageConnections tick.1 tick.2 state.1 :=
  walk_recorded _ _ _ _

/-- No connection in front of this one in the list frees its node in the tick. -/
def Undisturbed (slot : Slot config) (elapsedTime : MilliSeconds) (stack : Stack config) : Prop :=
  ∀ other ∈ stack.connectionList.toList.takeWhile (· ≠ slot), Calm stack elapsedTime other

instance (slot : Slot config) (elapsedTime : MilliSeconds) (stack : Stack config) :
    Decidable (Undisturbed slot elapsedTime stack) :=
  inferInstanceAs (Decidable (∀ other ∈ stack.connectionList.toList.takeWhile (· ≠ slot), Calm stack elapsedTime other))

/-- What a tick makes of a connection that is still established afterwards. -/
def ServedInTick (elapsedTime : MilliSeconds) (start final : CipConnectionObject) (frames : Nat) : Prop :=
  ∃ met left, Untouched start met ∧ InTime elapsedTime met ∧ Served elapsedTime met left frames ∧ Untouched left final

theorem countedTick_serves (coherent : Coherent stack) (established : (stack.object slot).state = .established)
    (undisturbed : Undisturbed slot elapsedTime stack) (counted : Nat) :
    Settles (countedTick slot (stack, counted) (peers, elapsedTime))
      (fun after => Coherent after.1 ∧ ((after.1.object slot).state = .established → ∃ frames,
        after.2 = counted + frames ∧ ServedInTick elapsedTime (stack.object slot) (after.1.object slot) frames))
      (fun _ => True) := by
  have listed := (coherent.mem_iff slot).mpr (.inl established)
  obtain ⟨front, id, back, split, earliest⟩ := ConnectionList.exists_split listed
  have inFront : stack.connectionList.toList.takeWhile (· ≠ slot) = front.map Prod.snd := by
    rw [ConnectionList.toList, split, List.map_append, List.map_cons, List.takeWhile_append_of_pos]
    · simp
    · intro other inside
      simpa using fun same : other = slot => earliest (same ▸ inside)
  have walked : Settles (countedTick slot (stack, counted) (peers, elapsedTime))
      (Walking (stack.manageEncapsulationMessages elapsedTime) slot elapsedTime counted none) (fun _ => True) := by
    apply walk_settles (Walking (stack.manageEncapsulationMessages elapsedTime) slot elapsedTime counted)
    · exact fun node reached walking => visit_walking walking
    · trivial
    · refine ⟨coherent.of_same_table rfl rfl, [], _, rfl, ConnectionList.first_eq _, fun _ _ _ _ => rfl, fun _ => ?_⟩
      refine ⟨0, rfl, .waiting split (fun entry inside => ?_) (.refl _)⟩
      exact undisturbed entry.2 (inFront ▸ List.mem_map_of_mem inside)
  refine walked.mono ?_
  rintro ⟨after, total⟩ ⟨afterCoherent, gone, ahead, entries, ended, _, progress⟩
  refine ⟨afterCoherent, fun still => ?_⟩
  obtain ⟨frames, counts, progress⟩ := progress still
  cases progress with
  | @waiting before behind id apart =>
      rw [apart] at ended
      cases before with
      | nil => cases ended
      | cons first before => cases ended
  | served passed untouched inTime served kept => exact ⟨frames, counts, _, _, untouched, inTime, served, kept⟩

end Walk

end Stack

end EtherNetIP
